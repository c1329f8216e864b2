import PluginHost.Plugin.Library
import PluginHost.Plugin.View

/-!
The component that every plugin has, and the programs that concern the plugin itself.
-/

set_option autoImplicit false

namespace PluginHost

variable {S : Schema}

/-- A step on the whole state that may refuse. -/
abbrev Step (S : Schema) (α : Type) := PluginState S → Script (Except PluginError α × PluginState S)

namespace Step

def runAction {α β : Type} (x : Action α) (next : α → Step S β) : Step S β := fun s =>
  x.evaluate.bind fun
    | .ok a => next a s
    | .error e => .done (.error (.ofEditor e), s)

def finish {α : Type} (r : Except PluginError α) : Step S α := fun s => .done (r, s)

/-- A step that reads the state, or changes it, without the editor. -/
def onState {α : Type} (f : PluginState S → Except PluginError α × PluginState S) : Step S α :=
  fun s => .done (f s)

end Step

/-- Removes the triggers the editor knows and defines the current ones. Yields their number. -/
def redefineTriggers : Prog (PluginState S) Nat :=
  .access "redefine_triggers" fun s =>
    let plugin := s.identity.name
    Step.runAction (ActiveTrigger.undefine s.triggers plugin) (fun () s =>
      let s := { s with triggers := [] }
      .ask .channel fun channel =>
        Step.runAction (ActiveTrigger.define s.distinctSpecs channel plugin) (fun triggers s =>
          .done (.ok triggers.length, { s with triggers })) s) s

/-- Binds a mapping of an active component to a new id and has the editor map its keys. -/
def activateMapping (ident : String) : Prog (PluginState S) String :=
  .access "activate_mapping" fun s =>
    match s.findMapping ident with
    | none => .done (.error (.unknownMapping ident), s)
    | some (mapping, program) => .ask .freshId fun id =>
      let commands := mapping.definitions s.identity.name id
      let define := commands.foldl (fun x c => x.andThen fun () => .command c) (.pure ())
      Step.runAction define (fun () => Step.finish (.ok id)) (s.bindMapping id mapping program)

namespace Builtin

def all : List Builtin := [
  .programLog, .setLogLevel, .state, .componentState, .rpcTriggers, .updateState,
  .updateComponentState, .enableComponents, .poll, .appendRuntimePath, .showRuntimePath, .mapping,
  .internalInit]

def name : Builtin → String
  | .programLog => "program_log"
  | .setLogLevel => "set_log_level"
  | .state => "state"
  | .componentState => "component_state"
  | .rpcTriggers => "rpc_triggers"
  | .updateState => "update_state"
  | .updateComponentState => "update_component_state"
  | .enableComponents => "enable_components"
  | .poll => "poll"
  | .appendRuntimePath => "append_runtime_path"
  | .showRuntimePath => "show_runtime_path"
  | .mapping => "mapping"
  | .internalInit => "internal_init"

def onWholeState : Builtin → Bool
  | .programLog | .state | .rpcTriggers => true
  | _ => false

def wholeState : Shape S.Kind := .plain .whole none

/-- A text about the state as a whole, which may be refused. -/
def inspection (b : Builtin) (f : PluginState S → Except String String) :
    Prog (PluginState S) Json :=
  .block b.name (wholeState (S := S)).view (.tryInspect f) fun text => .ok (.string text)

def setLogLevelStep (level : String) : Step S String := fun s =>
  match s.logFilter with
  | none => .done (.error (.program "no log handler attached"), s)
  | some filter =>
    match filter.check level with
    | .error reason => .done (.error (.program reason), s)
    | .ok () => .ask (.setLogLevel level) fun () => .ask .logLevel fun level => .done (.ok level, s)

/-- Patches the JSON form of the data; the result has to decode. -/
def updateData (patch : Patch) (s : PluginState S) : Except PluginError Unit × PluginState S :=
  match S.data.toValue s.data >>= patch.apply >>= S.data.ofValue with
  | .ok data => (.ok (), { s with data })
  | .error e => (.error e, s)

/-- How a character stands in a value of an option that is a list. -/
def escapeOption (c : Char) : List Char :=
  if c = '\\' || c = ' ' || c = ',' then ['\\', c] else [c]

def entries (paths : String) : List String := (Text.splitText ',' paths).filter (· != "")

/-- A mapping's program gets the keys if they are known and it takes one argument. -/
def mappingArgs (p : UserProgram S) (keys : Option String) : List Json :=
  match keys with
  | some keys => if p.arity.accepts 1 then [.string keys] else []
  | none => []

def enableStep (names : List String) (s : PluginState S) :
    Except PluginError (List String) × PluginState S :=
  match s.enable names with
  | .ok (added, s) => (.ok added, s)
  | .error e => (.error e, s)

def strings : Params (String × Unit) := .cons .string .nil

/-- The code of the plugin's own programs. -/
def definition (lib : Library S) (b : Builtin) : Definition (PluginState S) :=
  match b with
  | .programLog => ⟨Unit, .positional .nil, fun () =>
      b.inspection fun s => .ok (Json.strings s.log).render⟩
  | .state => ⟨Unit, .positional .nil, fun () => b.inspection fun s => S.text s.data⟩
  | .rpcTriggers => ⟨Unit, .positional .nil, fun () =>
      b.inspection fun s => .ok (Json.array (s.distinctSpecs.map TriggerSpec.encode)).render⟩
  | .componentState => ⟨Unit, .positional .nil, fun () =>
      (Prog.access b.name (Step.onState fun s => (s.componentStates.map Json.render, s))).map
        .string⟩
  | .setLogLevel => ⟨String × Unit, .positional strings, fun (level, ()) =>
      (Prog.access b.name (setLogLevelStep level)).map .string⟩
  | .updateState => ⟨Patch × Unit, .positional (.cons .patch .nil), fun (patch, ()) =>
      (Prog.access b.name (Step.onState (updateData patch))).map fun () => .null⟩
  | .updateComponentState =>
    ⟨String × Patch × Unit, .positional (.cons .string (.cons .patch .nil)),
      fun (component, patch, ()) =>
        (Prog.access b.name (Step.onState fun s => s.modifyData component patch.apply)).map fun () =>
          .null⟩
  | .enableComponents => ⟨List String, .variadic .string, fun names =>
      ((Prog.access b.name (Step.onState (enableStep names))).bind fun added =>
        redefineTriggers.map fun _ => added).map .strings⟩
  | .poll => ⟨List Json, .variadic .json, fun _ => (Prog.pure true).map .bool⟩
  | .appendRuntimePath => ⟨String × Unit, .positional strings, fun (path, ()) =>
      let escaped := String.ofList (path.toList.flatMap escapeOption)
      (Prog.editor (.command s!"set runtimepath+={escaped}")).map fun () => .null⟩
  | .showRuntimePath => ⟨Unit, .positional .nil, fun () =>
      let read := Action.readAs Decode.string "nvim_get_option" [.string "runtimepath"]
      (Prog.editor (read.map entries)).map .strings⟩
  | .mapping =>
    ⟨String × Option String × Unit, .positional (.cons .string (.cons (.option .string) .nil)),
      fun (uuid, keys, ()) =>
        ((Prog.access b.name (Step.onState fun s =>
          match s.activeMapping uuid with
          | some m => (.ok m, s)
          | none => (.error (.unknownMapping uuid), s))).bind fun (_, program) =>
            lib.call program (mappingArgs program keys)).map id⟩
  | .internalInit => ⟨Unit, .positional .nil, fun () =>
      ((Prog.access b.name (Step.onState fun s =>
        (.ok (if s.settings.internalInit then s.init else none), s))).bind fun
          | some program => lib.call program []
          | none => .pure .null).map id⟩

/-- The metadata of the plugin's own programs. It does not depend on any user code. -/
def program (b : Builtin) : Program S.Kind (Source S.Code) :=
  let noCode : Library S := ⟨fun _ _ => .ok (.pure .null), fun _ _ _ _ => .pure ⟨.unit, ()⟩⟩
  let kind := if b.onWholeState then .block else .compose
  let shape := if b.onWholeState then some wholeState else none
  (b.definition noCode).program b.name kind shape (.builtin b)

/-- All are synchronous functions with the plugin's full name. -/
def options (b : Builtin) : TriggerOptions :=
  let function := { TriggerOptions.ofMethods [.function true] with style := .full }
  match b with
  | .programLog | .state | .componentState | .rpcTriggers | .poll | .showRuntimePath =>
    { function with write := false }
  | .setLogLevel | .enableComponents => function.also (.command false false)
  | .updateState | .updateComponentState => { function with json := true }
  | .appendRuntimePath | .mapping | .internalInit => function

def handler (b : Builtin) : Handler S := ⟨b.program, b.options⟩

end Builtin

/-- The name of the component every plugin has. -/
def internalName : String := "internal"

def internalComponent : Component S :=
  ⟨internalName, Builtin.all.map Builtin.handler, none, none, []⟩

namespace Library

/-- The code of any program a plugin may run. -/
def source (lib : Library S) : Source S.Code → List Json →
    Except PluginError (Prog (PluginState S) Json)
  | .builtin b => (b.definition lib).code
  | .user code => lib.code code

end Library

end PluginHost
