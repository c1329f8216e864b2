import Mathlib.Data.Prod.Lex
import PluginHost.Proofs.Session.Order

/-!
A served session comes to an end: no run goes on for ever, and none stops before the worker has
finished.
-/

set_option autoImplicit false

namespace PluginHost

open Session (Handled)

variable {S : Schema} {W : Type} {world : World W} {lib : Library S}

namespace Working

-- The later of two states of the worker, as long as it takes no message from the queue.
inductive Ahead : Working S → Working S → Prop where
  | finish (s : PluginState S) : Ahead (.finished s) (.idle s)
  | done (m : Option Message) (handled : Handled) (s : PluginState S) :
      Ahead (.idle s) (.busy m (.done (handled, s)))
  | answer (m : Option Message) (q : Query) (next : q.Answer → Script (Handled × PluginState S))
      (a : q.Answer) : Ahead (.busy m (next a)) (.busy m (.ask q next))
  | request (m : Option Message) (method : String) (args : List Json)
      (next : Reply → Script (Handled × PluginState S)) :
      Ahead (.calling m .idle method args next) (.busy m (.ask (.request method args) next))
  | call (m : Option Message) (method : String) (args : List Json)
      (next : Reply → Script (Handled × PluginState S)) {before after : Call}
      (fewer : after.remaining < before.remaining) :
      Ahead (.calling m after method args next) (.calling m before method args next)
  | reply (m : Option Message) (id : Nat) (a : Answer) (method : String) (args : List Json)
      (next : Reply → Script (Handled × PluginState S)) :
      Ahead (.busy m (next (.ofAnswer a))) (.calling m (.returned id a) method args next)

theorem acc_finished (s : PluginState S) : Acc Ahead (.finished s) := by
  constructor
  intro later ahead
  cases ahead

theorem acc_idle (s : PluginState S) : Acc Ahead (.idle s) := by
  constructor
  intro later ahead
  cases ahead
  exact acc_finished s

theorem acc_calling {m : Option Message} {method : String} {args : List Json}
    {next : Reply → Script (Handled × PluginState S)}
    (replied : ∀ reply, Acc Ahead (.busy m (next reply))) (call : Call) :
    Acc Ahead (.calling m call method args next) := by
  -- A call that goes on has fewer steps left, and one that returns goes back to the code.
  induction left : call.remaining using Nat.strongRecOn generalizing call with
  | _ n ih =>
    constructor
    intro later ahead
    cases ahead with
    | call _ _ _ _ fewer => exact ih _ (left ▸ fewer) _ rfl
    | reply => exact replied _

theorem acc_busy (m : Option Message) (x : Script (Handled × PluginState S)) :
    Acc Ahead (.busy m x) := by
  induction x with
  | done r =>
    constructor
    intro later ahead
    cases ahead
    exact acc_idle _
  | ask q next ih =>
    constructor
    intro later ahead
    cases ahead with
    | answer _ _ _ a => exact ih a
    | request => exact acc_calling ih .idle

theorem ahead_wellFounded : WellFounded (Ahead (S := S)) := by
  constructor
  intro working
  cases working with
  | idle s => exact acc_idle s
  | busy m x => exact acc_busy m x
  | calling m call method args next => exact acc_calling (fun reply => acc_busy m (next reply)) call
  | finished s => exact acc_finished s

theorem Step.ahead {s t : Session} {w v : W} {before after : Working S} {ms : List Message}
    (step : Step world s w before t v after ms) : Ahead after before := by
  cases step with
  | ask m q next a => exact .answer m q next a
  | look m next => exact .answer m .isCancelled next _
  | notify m method args next => exact .answer m (.notify method args) next _
  | notifyFails m method args next => exact .answer m (.notify method args) next _
  | request m method args next => exact .request m method args next
  | call m method args next step => exact .call m method args next step.remaining_lt
  | reply m id a method args next => exact .reply m id a method args next

end Working

/-- The steps that the reader has yet to take once the input is at its end. -/
def Reading.remaining : Reading → Nat
  | .lines => 4
  | .cancelled => 3
  | .refusing => 2
  | .dropped => 1
  | .ended | .aborted => 0

namespace Served

/-- A line counts twice, since it may become a message in the queue. -/
def remaining (h : Served S W) : Nat :=
  2 * h.input.length + h.session.queue.length + h.reading.remaining

theorem length_queue_receive (s : Session) (line : String) :
    (s.receive line).1.queue.length ≤ s.queue.length + 1 := by
  cases flag : s.accepting with
  | true =>
    have short : (Session.due [line]).length ≤ 1 := by
      rw [Session.due, Session.messages_singleton]
      cases Session.messageOf? line with
      | none => simp
      | some m => cases leave : m.isLeave <;> cases work : m.isWork <;> simp [leave, work]
    rw [(Session.receive_of_accepting flag line).1, List.length_append]
    omega
  | false =>
    rw [(Session.receive_of_not_accepting flag line).1]
    omega

theorem Step.progress {h k : Served S W} (step : Step world lib h k) :
    Prod.Lex (· < ·) Working.Ahead (k.remaining, k.working) (h.remaining, h.working) := by
  -- Reader and queue make the first part smaller, the worker's own steps only the second.
  cases step with
  | line line rest reading input =>
    have grown := length_queue_receive h.session line
    refine .left _ _ ?_
    simp only [remaining, input, List.length_cons]
    omega
  | cancel reading input => exact .left _ _ (by simp [remaining, reading, Reading.remaining])
  | refuseNew reading => exact .left _ _ (by simp [remaining, reading, Reading.remaining])
  | dropPending reading => exact .left _ _ (by simp [remaining, reading, Reading.remaining])
  | release reading => exact .left _ _ (by simp [remaining, reading, Reading.remaining])
  | abort s reading working => exact .left _ _ (by simp [remaining, reading, Reading.remaining])
  | take s m session working next =>
    obtain ⟨rest, queue, rfl⟩ := Session.next?_eq_some.1 next
    exact .left _ _ (by simp [remaining, queue])
  | finish s working none left => exact working ▸ .right _ (.finish s)
  | work step =>
    have queue := step.session_eq.1
    simp only [remaining, queue]
    exact .right _ step.ahead
  | done m handled s working => exact working ▸ .right _ (.done m handled s)

/-- No run of a session goes on for ever. -/
theorem step_wellFounded : WellFounded fun k h : Served S W => Step world lib h k :=
  Subrelation.wf Step.progress
    (InvImage.wf (fun h : Served S W => (h.remaining, h.working))
      (WellFounded.prod_lex Nat.lt_wfRel.wf Working.ahead_wellFounded))

end Served

/-- Whatever the machine is asked, it has an answer. -/
def World.Replies (world : World W) : Prop :=
  ∀ w (q : Query), q.IsForMachine → ∃ a v, world.answers w q a v

namespace Working

/-- The call that the worker waits for, if there is one. -/
def call : Working S → Call
  | .calling _ call _ _ _ => call
  | _ => .idle

variable {s t : Session} {w v : W} {before after : Working S} {ms : List Message}

theorem Step.closed_eq (step : Step world s w before t v after ms) :
    t.transport.closed = s.transport.closed := by
  cases step with
  | ask _ q => cases q <;> rfl
  | call _ _ _ _ step => exact step.closed_eq
  | _ => rfl

theorem Step.isTurnedAway (step : Step world s w before t v after ms)
    (flag : s.transport.closed = true)
    (away : ∀ entry ∈ s.transport.pending, before.call.IsTurnedAway entry.1) :
    ∀ entry ∈ t.transport.pending, after.call.IsTurnedAway entry.1 := by
  cases step with
  | ask _ q => cases q <;> exact away
  | call _ _ _ _ step => exact step.isTurnedAway flag away
  | reply => exact fun entry member => (away entry member).elim
  | _ => exact away

/-- Code that is not held up by a call can go on, or has come to its end. -/
theorem exists_step (replies : world.Replies) (s : Session) (w : W) (m : Option Message)
    (x : Script (Handled × PluginState S)) :
    (∃ r, x = .done r) ∨ ∃ t v after ms, Step world s w (.busy m x) t v after ms := by
  cases x with
  | done r => exact .inl ⟨r, rfl⟩
  | ask q next =>
    refine .inr ?_
    by_cases machine : q.IsForMachine
    · obtain ⟨a, v, answered⟩ := replies w q machine
      exact ⟨_, _, _, _, .ask s m q next a machine answered⟩
    · cases q with
      | request method args => exact ⟨_, _, _, _, .request s w m method args next⟩
      | notify method args =>
        cases flag : s.transport.closed with
        | false => exact ⟨_, _, _, _, .notify s w m method args next flag⟩
        | true => exact ⟨_, _, _, _, .notifyFails s w m method args next flag⟩
      | isCancelled => exact ⟨_, _, _, _, .look s w m next⟩
      | _ => exact absurd trivial machine

end Working

namespace Served

variable {lines : List String} {h k : Served S W}

/-- Once the entries of the transport are dropped, new ones belong to calls that are turned away. -/
structure Closing (h : Served S W) : Prop where
  flag : h.session.transport.closed = true ↔
    h.reading = .refusing ∨ h.reading = .dropped ∨ h.reading = .ended
  away : h.reading = .dropped ∨ h.reading = .ended →
    ∀ entry ∈ h.session.transport.pending, h.working.call.IsTurnedAway entry.1

theorem Closing.congr (closing : Closing h) (transport : k.session.transport = h.session.transport)
    (reading : k.reading = h.reading) (call : k.working.call = h.working.call) : Closing k := by
  constructor
  case flag => rw [transport, reading]; exact closing.flag
  case away => rw [transport, reading, call]; exact closing.away

theorem Closing.step (closing : Closing h) (step : Step world lib h k) : Closing k := by
  have flag := closing.flag
  have away := closing.away
  cases step with
  | line line rest reading input =>
    have same := (h.session.receive_transport line).1
    exact ⟨same ▸ flag, fun ended => by simp [reading] at ended⟩
  | cancel reading input => exact ⟨flag.trans (by simp [reading]), nofun⟩
  | refuseNew reading => exact ⟨by simp [Transport.refuseNew], nofun⟩
  | dropPending reading =>
    refine ⟨flag.trans (by simp [reading]), ?_⟩
    exact fun _ entry member => absurd member Transport.mem_dropPending
  | release reading =>
    exact ⟨flag.trans (by simp [reading]), fun _ => away (.inl reading)⟩
  | abort s reading working => exact ⟨flag.trans (by simp [reading]), nofun⟩
  | take s m session working next =>
    obtain ⟨rest, queue, rfl⟩ := Session.next?_eq_some.1 next
    exact closing.congr rfl rfl (by rw [working]; rfl)
  | finish s working none left => exact closing.congr rfl rfl (by rw [working]; rfl)
  | work step =>
    refine ⟨step.closed_eq ▸ flag, fun ended => step.isTurnedAway ?_ (away ended)⟩
    exact flag.2 (.inr ended)
  | done m handled s working => exact closing.congr rfl rfl (by rw [working]; rfl)

theorem Closing.runs (closing : Closing h) (runs : Runs world lib h k) : Closing k := by
  induction runs with
  | refl => exact closing
  | tail _ step ih => exact ih.step step

/-- A reader that has not come to its end can go on. -/
theorem exists_step_of_reading (going : h.reading ≠ .ended) (running : h.reading ≠ .aborted) :
    ∃ k, Step world lib h k := by
  cases reading : h.reading with
  | lines =>
    cases input : h.input with
    | nil => exact ⟨_, .cancel h reading input⟩
    | cons line rest => exact ⟨_, .line h line rest reading input⟩
  | cancelled => exact ⟨_, .refuseNew h reading⟩
  | refusing => exact ⟨_, .dropPending h reading⟩
  | dropped => exact ⟨_, .release h reading⟩
  | ended => exact absurd reading going
  | aborted => exact absurd reading running

theorem exists_step_of_working {before after : Working S} {s : Session} {w : W}
    {ms : List Message} (working : h.working = before)
    (step : Working.Step world h.session h.world before s w after ms) :
    ∃ k, Step world lib h k :=
  ⟨_, .work h (working ▸ step)⟩

/-- A session goes on until the worker has finished. -/
theorem exists_step (replies : world.Replies) (inOrder : InOrder lines h) (closing : Closing h)
    (running : ∀ s, h.working ≠ .finished s) : ∃ k, Step world lib h k := by
  by_cases ended : h.reading = .ended
  -- Nobody waits for the reader any more, so the worker can go on, wherever it is.
  · cases working : h.working with
    | finished s => exact absurd working (running s)
    | idle s =>
      cases next : h.session.next? with
      | some r => exact ⟨_, .take h s r.1 r.2 working next⟩
      | none =>
        refine ⟨_, .finish h s working next ?_⟩
        cases flag : h.session.accepting with
        | false => rfl
        | true => exact absurd ended (inOrder.accepting.1 flag).2
    | busy m x =>
      rcases Working.exists_step replies h.session h.world m x with ⟨r, rfl⟩ | ⟨_, _, _, _, step⟩
      · exact ⟨_, .done h m r.1 r.2 working⟩
      · exact exists_step_of_working working step
    | calling m call method args next =>
      by_cases back : ∃ id a, call = .returned id a
      · obtain ⟨id, a, rfl⟩ := back
        exact exists_step_of_working working (.reply _ _ m id a method args next)
      · have ready : ∀ id, call = .sent id →
            h.session.transport.standing id ≠ .waiting ∧ (none : Option Nat) ≠ some id := by
          rintro id rfl
          refine ⟨Transport.standing_ne_waiting fun ⟨name, there⟩ => ?_, nofun⟩
          have away := closing.away (.inr ended) _ there
          simp [working, Working.call, Call.IsTurnedAway] at away
        obtain ⟨_, _, step⟩ := Call.exists_step method
          (fun id a same => back ⟨id, a, same⟩) ready
        exact exists_step_of_working working (.call _ _ m method args next step)
  · refine exists_step_of_reading ended fun aborted => ?_
    obtain ⟨s, finished⟩ := inOrder.aborted aborted
    exact running s finished

end Served

end PluginHost
