/-!
Errors of editor computations: what went wrong, in which operation, and after which steps.
-/

set_option autoImplicit false

namespace PluginHost

inductive ErrorKind where
  | logical (message : String)
  | request (method message : String)
  | transport (message : String)
  | decode (method message : String)
  | fatal (message : String)
deriving DecidableEq, Repr

namespace ErrorKind

def message : ErrorKind → String
  | .logical message => message
  | .request method message => s!"`{method}` failed: {message}"
  | .transport message => s!"transport failure: {message}"
  | .decode method message => s!"cannot decode result of `{method}`: {message}"
  | .fatal message => s!"fatal: {message}"

end ErrorKind

structure EditorError where
  kind : ErrorKind
  op : Option String
  trace : List String
deriving DecidableEq, Repr

namespace EditorError

def logical (message : String) : EditorError := ⟨.logical message, none, []⟩

def transport (message : String) : EditorError := ⟨.transport message, none, []⟩

/-- The editor refused `method`, which is also the operation that failed. -/
def request (method message : String) : EditorError := ⟨.request method message, some method, []⟩

def decode (method message : String) : EditorError := ⟨.decode method message, some method, []⟩

def fatal (op message : String) : EditorError := ⟨.fatal message, some op, []⟩

def withOp (e : EditorError) (op : String) : EditorError := { e with op := some op }

/-- Takes the labels of the latest steps, oldest first, unless it has a trace already. An error
without an operation blames the last step of its trace. -/
def withTrail (e : EditorError) (trail : List String) : EditorError :=
  let trace := if e.trace.isEmpty then trail else e.trace
  ⟨e.kind, e.op.or trace.getLast?, trace⟩

def message (e : EditorError) : String := e.kind.message

def isFatal (e : EditorError) : Bool :=
  match e.kind with
  | .fatal _ => true
  | _ => false

def isLogical (e : EditorError) : Bool :=
  match e.kind with
  | .logical _ => true
  | _ => false

def report (e : EditorError) : String :=
  let place := match e.op with
    | some op => s!" (in `{op}`)"
    | none => ""
  let steps := " -> ".intercalate e.trace
  let after := if e.trace.isEmpty then "" else s!" after [{steps}]"
  e.message ++ place ++ after

end EditorError

end PluginHost
