import PluginHost.Keys.Mapping
import PluginHost.Program.Basic
import PluginHost.Trigger.Spec

/-!
Components: named bundles of programs, private state and key mappings, and the catalog of all the
components a plugin knows.
-/

set_option autoImplicit false

namespace PluginHost

/-- The types a plugin is made of: its data, the kinds of its components' states, and the names of
the code its author wrote. -/
structure Schema where
  Data : Type
  data : Codec Data
  /-- The data as text. A type may write texts in another way than values. -/
  text : Data → Except String String := fun v => (data.encode v).map Json.render
  Kind : Type
  kindEq : DecidableEq Kind
  kindName : Kind → String
  State : Kind → Type
  state : (k : Kind) → Codec (State k)
  Code : Type

instance (S : Schema) : DecidableEq S.Kind := S.kindEq

/-- Programs every plugin has. -/
inductive Builtin where
  | programLog
  | setLogLevel
  | state
  | componentState
  | rpcTriggers
  | updateState
  | updateComponentState
  | enableComponents
  | poll
  | appendRuntimePath
  | showRuntimePath
  | mapping
  | internalInit
deriving DecidableEq, Repr

inductive Source (γ : Type) where
  | builtin (b : Builtin)
  | user (code : γ)

variable (S : Schema)

/-- A program of the plugin's author. -/
abbrev UserProgram := Program S.Kind S.Code

/-- A program and the triggers that run it. -/
structure Handler where
  program : Program S.Kind (Source S.Code)
  options : TriggerOptions

structure StateSpec where
  kind : S.Kind
  initial : S.State kind

structure Component where
  name : String
  handlers : List (Handler S)
  state : Option (StateSpec S)
  config : Option Json
  mappings : List (Mapping × UserProgram S)

variable {S}

def Program.asSource (p : UserProgram S) : Program S.Kind (Source S.Code) :=
  { p with code := .user p.code }

namespace Handler

def rpcName (h : Handler S) : String := h.options.rpcName h.program.name

def method (h : Handler S) (kind : TriggerKind) : String := h.options.method h.program.name kind

def methods (h : Handler S) : List String := h.options.methods.map fun m => h.method m.kind

def triggerName (h : Handler S) (plugin : Identity) (kind : TriggerKind) : String :=
  h.options.triggerName h.program.name plugin kind

def specs (h : Handler S) (plugin : Identity) : List TriggerSpec :=
  h.options.methods.map (h.options.spec h.program.name h.program.arity plugin)

end Handler

namespace Component

def stateKind (c : Component S) : Option S.Kind := c.state.map (·.kind)

/-- Whether one of the component's triggers runs the program. -/
def contains (c : Component S) (program : String) : Bool :=
  c.handlers.any fun h => h.program.name == program

end Component

variable (S) in
/-- Components in the order of their registration, and the place of each name. -/
structure Catalog where
  components : List (Component S)
  places : List (String × Nat)

namespace Catalog

def empty : Catalog S := ⟨[], []⟩

def contains (c : Catalog S) (name : String) : Bool := (c.places.lookup name).isSome

def get? (c : Catalog S) (name : String) : Option (Component S) :=
  (c.places.lookup name).bind fun i => c.components[i]?

/-- The component that declares a kind of state. -/
def ownerOf (c : Catalog S) (kind : S.Kind) : Option (Component S) :=
  c.components.find? fun component => component.stateKind = some kind

def names (c : Catalog S) : List String := c.components.map (·.name)

def add (c : Catalog S) (component : Component S) : Catalog S :=
  ⟨c.components ++ [component], (component.name, c.components.length) :: c.places⟩

/-- Adds a component unless its name or its kind of state is taken. -/
def register (c : Catalog S) (component : Component S) : Except PluginError (Catalog S) :=
  if c.contains component.name then
    .error (.conflict s!"component `{component.name}` is registered twice")
  else
    match component.stateKind with
    | none => .ok (c.add component)
    | some kind =>
      match c.ownerOf kind with
      | none => .ok (c.add component)
      | some owner =>
        let taken := S.kindName kind
        .error (.conflict
          s!"components `{owner.name}` and `{component.name}` both declare state type {taken}")

/-- A program's view may only need a state that some component declares. -/
def validateProgram {γ : Type} (c : Catalog S) (p : Program S.Kind γ) : Except PluginError Unit :=
  match p.shape.bind Shape.component with
  | none => .ok ()
  | some kind =>
    if (c.ownerOf kind).isSome then .ok ()
    else .error (.invalidProgram p.name s!"no component declares state type {S.kindName kind}")

def validateHandler (c : Catalog S) (h : Handler S) : Except PluginError Unit :=
  if h.options.methods.isEmpty then .error (.invalidProgram h.program.name "no rpc method declared")
  else c.validateProgram h.program

def validateComponent (c : Catalog S) (component : Component S) : Except PluginError Unit := do
  component.handlers.forM c.validateHandler
  component.mappings.forM fun m => c.validateProgram m.2

def validate (c : Catalog S) : Except PluginError Unit := c.components.forM c.validateComponent

/-- Adds names to those that are active, with the names that were not active before. -/
def activate (c : Catalog S) : (active : List String) → List String →
    Except PluginError (List String × List String)
  | active, [] => .ok (active, [])
  | active, name :: rest =>
    if !c.contains name then .error (.unknownComponent name)
    else if active.contains name then c.activate active rest
    else do
      let (active, added) ← c.activate (active ++ [name]) rest
      return (active, name :: added)

end Catalog

end PluginHost
