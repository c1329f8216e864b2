import PluginHost.Text.Camel

/-!
How the editor reaches a program: as a user command, a function or an autocmd, and under which
names.
-/

set_option autoImplicit false

namespace PluginHost

inductive TriggerKind where
  | command
  | function
  | autocmd
deriving DecidableEq, Repr

namespace TriggerKind

def text : TriggerKind → String
  | .command => "command"
  | .function => "function"
  | .autocmd => "autocmd"

def parse (s : String) : Option TriggerKind :=
  match s with
  | "command" => some .command
  | "function" => some .function
  | "autocmd" => some .autocmd
  | _ => none

end TriggerKind

inductive TriggerMethod where
  | command (sync bang : Bool)
  | function (sync : Bool)
  | autocmd (sync : Bool) (pattern : String)
deriving DecidableEq, Repr

namespace TriggerMethod

def kind : TriggerMethod → TriggerKind
  | .command _ _ => .command
  | .function _ => .function
  | .autocmd _ _ => .autocmd

def sync : TriggerMethod → Bool
  | .command sync _ | .function sync | .autocmd sync _ => sync

def withSync (m : TriggerMethod) (sync : Bool) : TriggerMethod :=
  match m with
  | .command _ bang => .command sync bang
  | .function _ => .function sync
  | .autocmd _ pattern => .autocmd sync pattern

/-- A command with a bang; other triggers have none and stay. -/
def withBang : TriggerMethod → TriggerMethod
  | .command sync _ => .command sync true
  | m => m

end TriggerMethod

/-- What stands before the name of a command or function: the plugin's short name, its full name,
or nothing. -/
inductive NameStyle where
  | short
  | full
  | plain
deriving DecidableEq, Repr

def NameStyle.text : NameStyle → String
  | .short => "short"
  | .full => "full"
  | .plain => "plain"

/-- Who a plugin is. -/
structure Identity where
  name : String
  /-- Short name, set before the names of triggers. -/
  short : String
  /-- Components that are always active. -/
  core : List String
  /-- Components that are active unless settings choose others. -/
  chosen : List String
  settingsModule : Option String
deriving DecidableEq, Repr

def NameStyle.head (style : NameStyle) (plugin : Identity) : String :=
  match style with
  | .short => Text.camelcase plugin.short
  | .full => Text.camelcase plugin.name
  | .plain => ""

structure TriggerOptions where
  /-- Stands for the program's name in the names of methods and triggers. -/
  name : Option String
  methods : List TriggerMethod
  style : NameStyle
  /-- Arguments from the first that opens an object on are one JSON document. -/
  json : Bool
  /-- Whether the program changes the state. -/
  write : Bool
deriving DecidableEq, Repr

namespace TriggerOptions

def ofMethods (methods : List TriggerMethod) : TriggerOptions := ⟨none, methods, .short, false, true⟩

def also (o : TriggerOptions) (m : TriggerMethod) : TriggerOptions :=
  { o with methods := o.methods ++ [m] }

def inSync (o : TriggerOptions) : TriggerOptions :=
  { o with methods := o.methods.map fun m => m.withSync true }

def withBang (o : TriggerOptions) : TriggerOptions :=
  { o with methods := o.methods.map TriggerMethod.withBang }

end TriggerOptions

end PluginHost
