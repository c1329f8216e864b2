import PluginHost.Effect.Task
import PluginHost.Json.Decode

/-!
Effects: what a program may ask the runtime to do for it, and the type of result each effect has.
-/

set_option autoImplicit false

namespace PluginHost

inductive EchoLevel where
  | info
  | warning
  | error
deriving DecidableEq, Repr

namespace EchoLevel

def text : EchoLevel → String
  | .info => "info"
  | .warning => "warning"
  | .error => "error"

def title : EchoLevel → String
  | .info => "Info"
  | .warning => "Warning"
  | .error => "Error"

def codec : Codec EchoLevel :=
  .total (fun l => .string l.text)
    (Decode.variant ([.info, .warning, .error].map fun l => (l.text, l)))

end EchoLevel

inductive ResultType where
  | json
  | tasks
  | subprocess
  | subprocesses
  | unit
  /-- A result that no effect has. -/
  | foreign
deriving DecidableEq, Repr

@[reducible] def ResultType.Value : ResultType → Type
  | .json => Json
  | .tasks => List (Gathered Json)
  | .subprocess => SubprocessResult
  | .subprocesses => List (Gathered SubprocessResult)
  | .unit | .foreign => Unit

/-- A result together with its type. -/
abbrev EffectValue := Σ r : ResultType, r.Value

inductive Effect : ResultType → Type where
  | scalar (task : Task) : Effect .json
  | gather (tasks : List Task) (timeout : Option Duration) : Effect .tasks
  | subprocess (process : Subprocess) : Effect .subprocess
  | gatherSubprocesses (processes : List Subprocess) (timeout : Option Duration) :
      Effect .subprocesses
  | echo (messages : List String) (level : EchoLevel) : Effect .unit
  /-- A payload for the plugin's own executor. -/
  | custom (payload : Json) : Effect .json

namespace Effect

def timeoutText : Option Duration → String
  | some limit => s!"Some({limit.toText})"
  | none => "None"

def kindText {r : ResultType} : Effect r → String
  | .scalar _ => "Scalar"
  | .gather tasks timeout => s!"Gather({tasks.length}, {timeoutText timeout})"
  | .subprocess process => s!"Subprocess({process.program})"
  | .gatherSubprocesses processes timeout =>
    s!"GatherSubprocesses({processes.length}, {timeoutText timeout})"
  | .echo _ level => s!"Echo({level.title})"
  | .custom payload => s!"Custom({payload.render})"

def describe {r : ResultType} (e : Effect r) : String := "ProgIO::" ++ e.kindText

end Effect

end PluginHost
