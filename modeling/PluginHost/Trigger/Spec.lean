import PluginHost.Json.Decode
import PluginHost.Program.Arity
import PluginHost.Trigger.Options
import PluginHost.Editor.Action

/-!
What the editor is told about a trigger, and the commands that define and remove it there.
-/

set_option autoImplicit false

namespace PluginHost

structure TriggerSpec where
  kind : TriggerKind
  sync : Bool
  name : String
  opts : Fields
  method : String
  style : NameStyle
deriving DecidableEq

namespace TriggerSpec

def optText (s : TriggerSpec) (key : String) : Option String :=
  (Fields.get? s.opts key).bind Json.string?

/-- The remote call a trigger makes, `args` being the text of its further arguments. -/
def call (s : TriggerSpec) (channel : Int) (args : String) : String :=
  let rpc := if s.sync then "rpcrequest" else "rpcnotify"
  rpc ++ "(" ++ toString channel ++ ", '" ++ s.method ++ "'" ++ args ++ ")"

def hasBang (s : TriggerSpec) : Bool := (Fields.get? s.opts "bang").isSome

def pattern (s : TriggerSpec) : String := (s.optText "pattern").getD "*"

def commandDefinition (s : TriggerSpec) (channel : Int) : String :=
  let nargs := (s.optText "nargs").getD "0"
  let own := if nargs = "0" then "" else ", <f-args>"
  let bang := if s.hasBang then ", '<bang>' ==# '!'" else ""
  let flag := if s.hasBang then " -bang" else ""
  s!"command! -nargs={nargs}{flag} {s.name} call {s.call channel (own ++ bang)}"

def definition (s : TriggerSpec) (channel : Int) (plugin : String) : String :=
  match s.kind with
  | .command => s.commandDefinition channel
  | .function =>
    "function! " ++ s.name ++ "(...) range\n  return " ++ s.call channel ", a:000" ++ "\nendfunction"
  | .autocmd =>
    "augroup " ++ plugin ++ "\n  autocmd " ++ s.name ++ " " ++ s.pattern ++ " call " ++
      s.call channel "" ++ "\naugroup end"

def removal (s : TriggerSpec) (plugin : String) : String :=
  match s.kind with
  | .command => s!"silent! delcommand {s.name}"
  | .function => s!"silent! delfunction! {s.name}"
  | .autocmd => s!"silent! autocmd! {plugin} {s.name} {s.pattern}"

def encode (s : TriggerSpec) : Json :=
  .object [("type", .string s.kind.text), ("sync", .bool s.sync), ("name", .string s.name),
    ("opts", .object s.opts), ("method", .string s.method), ("prefix", .string s.style.text)]

def decodeKind : Decoder TriggerKind :=
  Decode.variant ([.command, .function, .autocmd].map fun k => (k.text, k))

def decodeStyle : Decoder NameStyle :=
  Decode.variant ([.short, .full, .plain].map fun s => (s.text, s))

def decode : Decoder TriggerSpec := fun v => do
  let fields := [Decode.field "type" decodeKind, Decode.field "sync" Decode.bool,
    Decode.field "name" Decode.string, Decode.field "opts" Decode.fields,
    Decode.field "method" Decode.string, Decode.field "prefix" decodeStyle]
  match ← Decode.recordValues "RpcHandlerSpec" fields v with
  | [kind, sync, name, opts, method, style] =>
    return ⟨← decodeKind kind, ← Decode.bool sync, ← Decode.string name, ← Decode.fields opts,
      ← Decode.string method, ← decodeStyle style⟩
  | _ => .error (.missingField "type")

end TriggerSpec

namespace TriggerOptions

/-- The name of the program towards the editor. -/
def rpcName (o : TriggerOptions) (program : String) : String := o.name.getD program

def method (o : TriggerOptions) (program : String) (kind : TriggerKind) : String :=
  kind.text ++ ":" ++ o.rpcName program

/-- An autocmd's name is the event itself. -/
def triggerName (o : TriggerOptions) (program : String) (plugin : Identity) (kind : TriggerKind) :
    String :=
  let base := Text.camelcase (o.rpcName program)
  match kind with
  | .autocmd => base
  | _ => o.style.head plugin ++ base

/-- The editor's options for a trigger of a program with that arity. -/
def optsOf (arity : Arity) : TriggerMethod → Fields
  | .command _ bang =>
    let nargs := ("nargs", Json.string (arity.beforeBang bang).nargs.text)
    if bang then [("bang", .string ""), nargs] else [nargs]
  | .function _ => []
  | .autocmd _ pattern => [("pattern", .string pattern)]

def spec (o : TriggerOptions) (program : String) (arity : Arity) (plugin : Identity)
    (m : TriggerMethod) : TriggerSpec :=
  ⟨m.kind, m.sync, o.triggerName program plugin m.kind, optsOf arity m, o.method program m.kind,
    o.style⟩

end TriggerOptions

/-- A trigger that is defined in the editor. -/
structure ActiveTrigger where
  spec : TriggerSpec
  channel : Int
deriving DecidableEq

namespace ActiveTrigger

def toJson (t : ActiveTrigger) : Json :=
  .object [("channel", .int t.channel), ("spec", t.spec.encode.canonical)]

def execute (source : String) : Action Unit :=
  .write "nvim_exec2" [.string source, .object [("output", .bool false)]]

/-- Defines triggers in the editor, all with one request. -/
def define (specs : List TriggerSpec) (channel : Int) (plugin : String) :
    Action (List ActiveTrigger) :=
  if specs.isEmpty then .pure []
  else
    (execute ("\n".intercalate (specs.map fun s => s.definition channel plugin))).map fun () =>
      specs.map fun s => ⟨s, channel⟩

def undefine (triggers : List ActiveTrigger) (plugin : String) : Action Unit :=
  if triggers.isEmpty then .pure ()
  else execute ("\n".intercalate (triggers.map fun t => t.spec.removal plugin))

end ActiveTrigger

/-- What the editor's plugin registry is given. -/
def registerPayload (host path : String) (specs : List TriggerSpec) : Json :=
  .array [.string host, .string path, .array (specs.map fun s => s.encode.canonical)]

end PluginHost
