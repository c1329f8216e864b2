import PluginHost.Log.Directive

/-!
Where a log goes and in which format, as the environment says.
-/

set_option autoImplicit false

namespace PluginHost

inductive LogFormat where
  | full
  | compact
  | pretty
  | json
deriving DecidableEq, Repr

namespace LogFormat

def title : LogFormat → String
  | full => "Full"
  | compact => "Compact"
  | pretty => "Pretty"
  | json => "Json"

/-- Formats are known by their names in any case; no name at all is the full format. An unknown
name is the reason of the refusal. -/
def parse (s : String) : Except String LogFormat :=
  match Text.asciiLowercase (Text.trim s) with
  | "full" | "" => .ok full
  | "compact" => .ok compact
  | "pretty" => .ok pretty
  | "json" => .ok json
  | other => .error s!"unknown log format `{other}`"

end LogFormat

/-- The variables of the environment that are set. -/
abbrev Environment := List (String × String)

structure LogSettings where
  /-- Directives for the case that the environment has none. -/
  level : String
  /-- The file that takes the log, else it goes to the standard error stream. -/
  file : Option String
  format : LogFormat
deriving DecidableEq, Repr

namespace LogSettings

def fileVariable : String := "RIBOSOME_LOG_FILE"

def formatVariable : String := "RIBOSOME_FILE_LOG_FMT"

def filterVariable : String := "RUST_LOG"

def ofEnvironment (env : Environment) (level : String) : Except String LogSettings := do
  let format ← ((env.lookup formatVariable).map LogFormat.parse).getD (.ok .full)
  return ⟨level, (env.lookup fileVariable).filter fun f => !Text.isBlankText f, format⟩

/-- The directives of the environment if they can be read, else those of the settings. -/
def directives (s : LogSettings) (env : Environment) : Except DirectiveError Directives :=
  match (env.lookup filterVariable).map Directives.parse with
  | some (.ok ds) => .ok ds
  | _ => Directives.parse s.level

end LogSettings

end PluginHost
