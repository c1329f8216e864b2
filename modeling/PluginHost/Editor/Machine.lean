import PluginHost.Editor.Query
import PluginHost.Effect.Schedule
import PluginHost.Effect.Shell

/-!
A machine in memory for scripts that wait, draw identifiers, and run tasks and subprocesses. Its
clock moves only when something takes time.
-/

set_option autoImplicit false

namespace PluginHost

structure Machine where
  clock : Duration
  /-- How many identifiers were drawn. -/
  allocated : Nat
  /-- When the workers that are busy with gathered tasks become free. -/
  busy : List Nat

namespace Machine

def start : Machine := ⟨⟨0⟩, 0, []⟩

def hexText (n width : Nat) : String :=
  let ds := Nat.toDigits 16 n
  String.ofList (List.replicate (width - ds.length) '0' ++ ds)

/-- The identifier with the given number; different numbers below 2^48 give different ones. -/
def identifier (n : Nat) : String := "00000000-0000-4000-8000-" ++ hexText n 12

def pass (m : Machine) (nanos : Nat) : Machine := { m with clock := m.clock + ⟨nanos⟩ }

/-- The end of a wait that begins now. The seconds of a span are counted with 64 bits, those of the
clock with one bit less. -/
def deadline (m : Machine) (wait : Duration) : Calc Nat :=
  if Nat.pow 2 64 ≤ wait.secs then .error ⟨"overflow when adding durations"⟩
  else if Nat.pow 2 63 ≤ (m.clock + wait).secs then
    .error ⟨"overflow when adding duration to instant"⟩
  else .ok (m.clock + wait).nanos

/-- Waits for work with those ends, and takes what comes of it until the deadline. -/
def await {α : Type} (m : Machine) (ends : List (Nat × α)) (wait : Duration) :
    Calc (Completions α) × Machine :=
  match m.deadline wait with
  | .ok deadline =>
    let waited := Schedule.waited m.clock.nanos deadline (ends.map (·.1))
    (.ok (Schedule.completed deadline ends), m.pass waited)
  | .error p => (.error p, m)

def runTasks (m : Machine) (threads : Nat) (tasks : List Task) (wait : Duration) :
    Calc (Completions TaskOutcome) × Machine :=
  let now := m.clock.nanos
  let running := m.busy.filter (now < ·)
  let (ends, busy) := Schedule.startAll (max 1 threads) now tasks running
  { m with busy }.await (ends.zip (tasks.map Task.outcome)) wait

def runSubprocesses (m : Machine) (processes : List (Subprocess × Duration)) (wait : Duration) :
    Calc (Completions SubprocessOutcome) × Machine :=
  let ends := processes.map fun (p, limit) =>
    let (span, outcome) := Shell.outcome p limit
    (m.clock.nanos + span.nanos, outcome)
  m.await ends wait

def draw (m : Machine) : String × Machine :=
  (identifier m.allocated, { m with allocated := m.allocated + 1 })

end Machine

end PluginHost
