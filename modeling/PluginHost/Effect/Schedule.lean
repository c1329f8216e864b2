import PluginHost.Effect.Task

/-!
When tasks that share a bounded number of workers come to an end. Tasks start in the order in which
they are handed in, each as soon as a worker is free.
-/

set_option autoImplicit false

namespace PluginHost.Schedule

def earliest : (best : Nat) → List Nat → Nat
  | best, [] => best
  | best, t :: rest => earliest (min best t) rest

/-- Starts work of the given span: the time of its end, and the ends of all that is running then. -/
def start (workers now span : Nat) (running : List Nat) : Nat × List Nat :=
  match running with
  | [] => (now + span, [now + span])
  | t :: rest =>
    if running.length < workers then (now + span, (now + span) :: running)
    else
      let free := max now (earliest t rest)
      (free + span, (free + span) :: running.erase (earliest t rest))

def startAll (workers now : Nat) : List Task → (running : List Nat) → List Nat × List Nat
  | [], running => ([], running)
  | task :: rest, running =>
    let (finish, running) := start workers now task.span.nanos running
    let (more, running) := startAll workers now rest running
    (finish :: more, running)

/-- What has ended before the deadline, in the order of the ends. -/
def completed {α : Type} (deadline : Nat) (ends : List (Nat × α)) : Completions α :=
  let numbered := ends.zipIdx.filter fun e => e.1.1 < deadline
  let ordered := numbered.mergeSort fun a b => a.1.1 ≤ b.1.1
  ordered.map fun e => (e.2, e.1.2)

/-- How long one waits for work with those ends: until the last end, or until the deadline. -/
def waited (now deadline : Nat) (ends : List Nat) : Nat :=
  min deadline (ends.foldl max now) - now

end PluginHost.Schedule
