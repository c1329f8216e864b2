import PluginHost.Editor.Error
import PluginHost.Json.Basic
import PluginHost.Time.Duration

/-!
Work that needs no editor: tasks and subprocesses, and what is known of them when they are gathered
in batches with a deadline.
-/

set_option autoImplicit false

namespace PluginHost

inductive TaskOutcome where
  | value (v : Json)
  /-- A failure with the messages of its contexts, outermost first. -/
  | failure (messages : List String)
  | panic (message : String)
deriving DecidableEq

/-- A deferred piece of work: how long it takes and how it ends. -/
structure Task where
  span : Duration
  outcome : TaskOutcome
deriving DecidableEq

structure Subprocess where
  program : String
  args : List String
  cwd : Option String
  timeout : Duration
deriving DecidableEq

structure SubprocessResult where
  /-- The exit code; none if a signal ended the process. -/
  code : Option Int
  stdout : List String
  stderr : List String
deriving DecidableEq

def SubprocessResult.success (r : SubprocessResult) : Bool := r.code = some 0

/-- Why an element of a batch has no value. -/
inductive GatherError where
  | failed (message : String)
  | timedOut (limit : Duration)
deriving DecidableEq, Repr

namespace GatherError

def message : GatherError → String
  | .failed message => message
  | .timedOut limit => s!"timed out after {limit.toText}"

end GatherError

abbrev Gathered (α : Type) := Except GatherError α

/-- Elements of a batch that came to an end, with their positions, in the order of their ends. -/
abbrev Completions (α : Type) := List (Nat × α)

namespace Gathered

variable {α : Type}

/-- Puts completions into their slots until none is missing. -/
def fill : (pending : Nat) → List (Option α) → Completions α → List (Option α)
  | 0, slots, _ => slots
  | _ + 1, slots, [] => slots
  | pending + 1, slots, (i, a) :: rest =>
    if i < slots.length then fill pending (slots.set i (some a)) rest
    else fill (pending + 1) slots rest

/-- One result for every element of a batch, in the order of the batch. What did not come to an
end in time is reported so. -/
def collect (count : Nat) (timeout : Duration) (completed : Completions (Gathered α)) :
    List (Gathered α) :=
  (fill count (List.replicate count none) completed).map fun slot =>
    slot.getD (.error (.timedOut timeout))

end Gathered

def TaskOutcome.gathered : TaskOutcome → Gathered Json
  | .value v => .ok v
  | .failure messages => .error (.failed (": ".intercalate messages))
  | .panic _ => .error (.failed "io panicked")

/-- How a subprocess ended, if it did so within the limit it was given. -/
inductive SubprocessOutcome where
  | finished (result : SubprocessResult)
  | unstarted (reason : String)
  | overdue
deriving DecidableEq

/-- A subprocess may run as long as both its own timeout and that of its batch allow. -/
def Subprocess.limit (p : Subprocess) (timeout : Duration) : Duration := p.timeout.min timeout

def SubprocessOutcome.gathered (p : Subprocess) (timeout : Duration) :
    SubprocessOutcome → Gathered SubprocessResult
  | .finished r => .ok r
  | .unstarted reason => .error (.failed s!"{p.program}: {reason}")
  | .overdue => .error (.timedOut (p.limit timeout))

end PluginHost
