import PluginHost.Editor.Error
import PluginHost.Time.Duration

/-!
Errors of building and running plugin programs.
-/

set_option autoImplicit false

namespace PluginHost

inductive PluginError where
  | arity (name expected : String) (got : Nat)
  | decode (message : String)
  | unknownMethod (method : String)
  | unknownComponent (message : String)
  | unknownMapping (id : String)
  /-- Raised by program code, for the user to read. -/
  | program (message : String)
  | editor (e : EditorError)
  | invalidProgram (name message : String)
  | lockTimeout (limit : Duration)
  | conflict (message : String)
  | fatal (message : String)
deriving DecidableEq, Repr

namespace PluginError

def message : PluginError → String
  | .arity name expected got =>
    s!"wrong number of arguments for `{name}`: expected {expected}, got {got}"
  | .decode message => s!"cannot decode arguments: {message}"
  | .unknownMethod method => s!"no handler for `{method}`"
  | .unknownComponent message => s!"unknown component: {message}"
  | .unknownMapping id => s!"no active mapping with id {id}"
  | .program message => message
  | .editor e => e.message
  | .invalidProgram name message => s!"invalid program `{name}`: {message}"
  | .lockTimeout limit => s!"state lock not acquired within {limit.toText}"
  | .conflict message => s!"conflict: {message}"
  | .fatal message => s!"internal error: {message}"

def isFatal : PluginError → Bool
  | .fatal _ => true
  | _ => false

/-- Editor errors and fatal ones keep their kind, any other becomes a logical error. -/
def toEditor : PluginError → EditorError
  | .editor e => e
  | .fatal message => .fatal "prog" message
  | e => .logical e.message

def ofEditor (e : EditorError) : PluginError :=
  match e.kind with
  | .logical message => .program message
  | .fatal _ => .fatal e.report
  | _ => .editor e

end PluginError

end PluginHost
