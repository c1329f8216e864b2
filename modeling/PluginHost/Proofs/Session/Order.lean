import PluginHost.Proofs.Script
import PluginHost.Proofs.Session.Serving

/-!
The order of a served session: messages are handled and answered as they arrive, and requests that
come too late are refused.
-/

set_option autoImplicit false

namespace PluginHost

open Session (Handled)

variable {S : Schema} {W : Type}

namespace Message

def isResponse : Message → Bool
  | .response _ _ _ => true
  | _ => false

/-- The response to a message with that result. Only requests get one. -/
def response? : Message → Except PluginError Json → Option Message
  | .request id _ _, r => some (Session.responseTo id r)
  | _, _ => none

def Fits (m : Message) (handled : Handled) : Prop := ∃ r, handled = ⟨some r, m.response? r⟩

end Message

def Session.Handled.FitsTo (handled : Handled) : Option Message → Prop
  | some m => m.Fits handled
  | none => handled = ⟨none, none⟩

theorem Session.Handled.FitsTo.responses {handled : Handled} {m : Option Message}
    (fits : handled.FitsTo m) :
    handled.response.toList.filter Message.isResponse =
      (m.toList.map fun m => (m, handled)).filterMap (·.2.response) := by
  cases m with
  | none =>
    cases fits
    rfl
  | some m =>
    obtain ⟨r, rfl⟩ := fits
    cases m <;> cases r <;> simp [Message.response?, Session.responseTo, Message.isResponse]

theorem Session.work_fits {lib : Library S} {m : Message} (work : m.isWork = true)
    {s : PluginState S} {r : Handled × PluginState S} (returned : (Session.work lib m s).Returns r) :
    m.Fits r.1 := by
  cases m with
  | request id method args =>
    simp only [Session.work, Script.returns_map] at returned
    obtain ⟨⟨result, t⟩, -, rfl⟩ := returned
    exact ⟨result, rfl⟩
  | notification method args =>
    simp only [Session.work, Script.returns_map] at returned
    obtain ⟨⟨result, t⟩, -, rfl⟩ := returned
    exact ⟨result, rfl⟩
  | response id error result => cases work

/-- The worker is at the code for a message, or at the set-up. -/
def Working.IsRunning : Working S → Prop
  | .busy _ _ | .calling _ _ _ _ _ => True
  | .idle _ | .finished _ => False

theorem Working.IsRunning.not_finished {working : Working S} (running : working.IsRunning)
    (s : PluginState S) : working ≠ .finished s := by
  rintro rfl
  exact running

/-- What the worker's code may come to. -/
def Working.Yields : Working S → Handled × PluginState S → Prop
  | .busy _ x, r => x.Returns r
  | .calling _ _ _ _ next, r => ∃ reply, (next reply).Returns r
  | _, _ => False

namespace Working.Step

variable {world : World W} {s t : Session} {w v : W} {before after : Working S} {ms : List Message}
  (step : Step world s w before t v after ms)

include step

theorem session_eq : t.queue = s.queue ∧ t.accepting = s.accepting := by
  cases step with
  | ask _ q => cases q <;> exact ⟨rfl, rfl⟩
  | _ => exact ⟨rfl, rfl⟩

theorem message?_eq : after.message? = before.message? := by
  cases step <;> rfl

theorem yields {r : Handled × PluginState S} (yielded : after.Yields r) : before.Yields r := by
  cases step with
  | ask _ q next a => exact .ask q next a yielded
  | look _ next => exact .ask .isCancelled next _ yielded
  | notify _ method args next => exact .ask (.notify method args) next _ yielded
  | notifyFails _ method args next => exact .ask (.notify method args) next _ yielded
  | request _ method args next =>
    obtain ⟨reply, returned⟩ := yielded
    exact .ask (.request method args) next reply returned
  | call => exact yielded
  | reply => exact ⟨_, yielded⟩

theorem running : before.IsRunning ∧ after.IsRunning := by
  cases step <;> exact ⟨trivial, trivial⟩

theorem not_isResponse : ∀ m ∈ ms, m.isResponse = false := by
  cases step with
  | call =>
    next after _ _ => cases after <;> simp [Call.line, Message.isResponse]
  | _ => simp [Message.isResponse]

end Working.Step

namespace Served

variable {world : World W} {lib : Library S} {lines : List String} {h k : Served S W}

theorem writtenBy_of_write {a : Writer} {ms : List Message} (written : k.written = h.write a ms)
    (b : Writer) : k.writtenBy b = h.writtenBy b ++ if a = b then ms else [] := by
  by_cases same : a = b <;>
    simp [writtenBy, write, written, same, List.filter_map, Function.comp_def]

structure InOrder (lines : List String) (h : Served S W) : Prop where
  lines : h.read ++ h.input = lines
  accepting : h.session.accepting = true ↔
    Session.hasLeft h.read = false ∧ h.reading ≠ .ended
  exhausted : h.reading = .lines ∨ h.reading = .aborted ∨ h.input = []
  due : h.handled.map (·.1) ++ h.working.message?.toList ++ h.session.queue = Session.due h.read
  refusals : h.writtenBy .reader = Session.refusals h.read
  responses : (h.writtenBy .worker).filter Message.isResponse =
    h.handled.filterMap (·.2.response)
  fits : ∀ p ∈ h.handled, p.1.Fits p.2
  yields : ∀ r, h.working.Yields r → r.1.FitsTo h.working.message?
  finished : ∀ s, h.working = .finished s → h.session.queue = [] ∧ h.session.accepting = false
  aborted : h.reading = .aborted → ∃ s, h.working = .finished s

namespace InOrder

theorem line (inOrder : InOrder lines h) {line : String} {rest : List String}
    (reading : h.reading = .lines) (input : h.input = line :: rest) :
    InOrder lines { h with
      session := (h.session.receive line).1
      input := rest
      read := h.read ++ [line]
      written := h.write .reader (h.session.receive line).2.answer } := by
  have all : h.read ++ [line] ++ rest = lines := by
    rw [List.append_assoc, List.singleton_append, ← input, inOrder.lines]
  have still_reading : h.reading ≠ .ended := by simp [reading]
  -- A line that comes before the editor leaves may be due, a later one may get a refusal.
  cases flag : h.session.accepting with
  | true =>
    obtain ⟨staying, -⟩ := inOrder.accepting.1 flag
    obtain ⟨queue, accepting, silent⟩ := Session.receive_of_accepting flag line
    refine { inOrder with
      lines := all, accepting := ?accepting, exhausted := .inl reading,
      due := ?due, refusals := ?refusals, responses := ?responses, finished := ?finished }
    case accepting => simp [accepting, Session.hasLeft_append, staying, still_reading]
    case due =>
      rw [queue, ← List.append_assoc, inOrder.due, Session.due_append, staying]
      rfl
    case refusals =>
      rw [writtenBy_of_write rfl, silent, inOrder.refusals, Session.refusals_append, staying,
        Session.refusals_singleton]
      rfl
    case responses =>
      rw [writtenBy_of_write rfl]
      simpa using inOrder.responses
    case finished =>
      intro s working
      exact absurd flag (by simp [(inOrder.finished s working).2])
  | false =>
    have left : Session.hasLeft h.read = true := by
      cases staying : Session.hasLeft h.read with
      | true => rfl
      | false => exact absurd (inOrder.accepting.2 ⟨staying, still_reading⟩) (by simp [flag])
    obtain ⟨queue, accepting, answer⟩ := Session.receive_of_not_accepting flag line
    refine { inOrder with
      lines := all, accepting := ?accepting, exhausted := .inl reading,
      due := ?due, refusals := ?refusals, responses := ?responses, finished := ?finished }
    case accepting => simp [accepting, Session.hasLeft_append, left]
    case due =>
      rw [queue, inOrder.due, Session.due_append, left]
      simp
    case refusals =>
      rw [writtenBy_of_write rfl, answer, inOrder.refusals, Session.refusals_append, left]
      rfl
    case responses =>
      rw [writtenBy_of_write rfl]
      simpa using inOrder.responses
    case finished =>
      intro s working
      exact ⟨queue.trans (inOrder.finished s working).1, accepting⟩

/-- At the end of the input the reader leaves queue and log alone. -/
theorem close (inOrder : InOrder lines h) {session : Session} {reading : Reading}
    (queue : session.queue = h.session.queue)
    (accepting : session.accepting = true ↔ h.session.accepting = true ∧ reading ≠ .ended)
    (exhausted : reading = .aborted ∨ h.input = []) (unended : h.reading ≠ .ended)
    (aborted : reading = .aborted → ∃ s, h.working = .finished s) :
    InOrder lines { h with session, reading } :=
  { inOrder with
    accepting := by
      rw [accepting, inOrder.accepting]
      simp [unended]
    exhausted := .inr exhausted
    due := by rw [queue]; exact inOrder.due
    finished := by
      intro s working
      obtain ⟨empty, left⟩ := inOrder.finished s working
      refine ⟨queue.trans empty, ?_⟩
      cases flag : session.accepting with
      | false => rfl
      | true => simp [left] at accepting; exact absurd flag (by simp [accepting])
    aborted }

theorem take (inOrder : InOrder lines h) {s : PluginState S} {m : Message} {session : Session}
    (working : h.working = .idle s) (next : h.session.next? = some (m, session)) :
    InOrder lines { h with session, working := .busy (some m) (Session.work lib m s) } := by
  obtain ⟨rest, queue, rfl⟩ := Session.next?_eq_some.1 next
  have due := inOrder.due
  rw [working, queue] at due
  have member : m ∈ Session.due h.read := due ▸ by simp [Working.message?]
  refine { inOrder with
    due := ?due, yields := ?yields, finished := fun _ => nofun, aborted := ?aborted }
  case due => simpa [Working.message?] using due
  case yields =>
    exact fun r returned => Session.work_fits (List.mem_filter.1 member).2 returned
  case aborted =>
    intro reading
    obtain ⟨t, finished⟩ := inOrder.aborted reading
    simp [working] at finished

theorem finish (inOrder : InOrder lines h) {s : PluginState S} (working : h.working = .idle s)
    (none : h.session.next? = none) (left : h.session.accepting = false) :
    InOrder lines { h with working := .finished s } := by
  have empty := Session.next?_eq_none.1 none
  have due := inOrder.due
  rw [working] at due
  exact { inOrder with
    due
    yields := fun _ yielded => yielded.elim
    finished := fun _ _ => ⟨empty, left⟩
    aborted := fun _ => ⟨s, rfl⟩ }

theorem done (inOrder : InOrder lines h) {m : Option Message} {handled : Handled}
    {s : PluginState S} (working : h.working = .busy m (.done (handled, s))) :
    InOrder lines { h with
      working := .idle s
      written := h.write .worker handled.response.toList
      handled := h.handled ++ m.toList.map fun m => (m, handled) } := by
  have yields := inOrder.yields
  have due := inOrder.due
  rw [working] at yields due
  -- The code was bound to come to what fits its message, and now it has come to its end.
  have fits : handled.FitsTo m := yields (handled, s) (.done _)
  refine { inOrder with
    due := ?due, refusals := ?refusals, responses := ?responses, fits := ?fits
    yields := fun _ yielded => yielded.elim, finished := fun _ => nofun, aborted := ?aborted }
  case due => simpa [Working.message?, Function.comp_def] using due
  case refusals =>
    rw [writtenBy_of_write rfl]
    simpa using inOrder.refusals
  case responses =>
    rw [writtenBy_of_write rfl, if_pos rfl, List.filter_append, List.filterMap_append,
      inOrder.responses, fits.responses]
  case fits =>
    intro p member
    rcases List.mem_append.1 member with old | new
    · exact inOrder.fits p old
    · obtain ⟨m, here, rfl⟩ := List.mem_map.1 new
      cases Option.mem_toList.1 here
      exact fits
  case aborted =>
    intro reading
    obtain ⟨t, finished⟩ := inOrder.aborted reading
    simp [working] at finished

theorem work (inOrder : InOrder lines h) {session : Session} {w : W} {working : Working S}
    {ms : List Message}
    (step : Working.Step world h.session h.world h.working session w working ms) :
    InOrder lines { h with session, world := w, working, written := h.write .worker ms } := by
  obtain ⟨queue, accepting⟩ := step.session_eq
  refine { inOrder with
    accepting := by rw [accepting]; exact inOrder.accepting
    due := by rw [step.message?_eq, queue]; exact inOrder.due
    refusals := ?refusals, responses := ?responses
    yields := fun r yielded => step.message?_eq ▸ inOrder.yields r (step.yields yielded)
    finished := fun s finished => absurd finished (step.running.2.not_finished s)
    aborted := ?aborted }
  case refusals =>
    rw [writtenBy_of_write rfl]
    simpa using inOrder.refusals
  case responses =>
    -- Only the end of a message's code writes a response.
    have none : ms.filter Message.isResponse = [] :=
      List.filter_eq_nil_iff.2 fun m member => by simp [step.not_isResponse m member]
    rw [writtenBy_of_write rfl, if_pos rfl, List.filter_append, none, List.append_nil]
    exact inOrder.responses
  case aborted =>
    intro reading
    obtain ⟨s, finished⟩ := inOrder.aborted reading
    exact absurd finished (step.running.1.not_finished s)

theorem step (inOrder : InOrder lines h) (step : Step world lib h k) : InOrder lines k := by
  cases step with
  | line line rest reading input => exact inOrder.line reading input
  | cancel reading input =>
    exact inOrder.close rfl (by simp) (.inr input) (by simp [reading]) nofun
  | refuseNew reading =>
    have input : h.input = [] := by simpa [reading] using inOrder.exhausted
    exact inOrder.close rfl (by simp) (.inr input) (by simp [reading]) nofun
  | dropPending reading =>
    have input : h.input = [] := by simpa [reading] using inOrder.exhausted
    exact inOrder.close rfl (by simp) (.inr input) (by simp [reading]) nofun
  | release reading =>
    have input : h.input = [] := by simpa [reading] using inOrder.exhausted
    exact inOrder.close rfl (by simp) (.inr input) (by simp [reading]) nofun
  | abort s reading working =>
    exact inOrder.close rfl (by simp) (.inl rfl) (by simp [reading]) fun _ => ⟨s, working⟩
  | take s m session working next => exact inOrder.take working next
  | finish s working none left => exact inOrder.finish working none left
  | work step => exact inOrder.work step
  | done m handled s working => exact inOrder.done working

theorem runs (inOrder : InOrder lines h) (runs : Runs world lib h k) : InOrder lines k := by
  induction runs with
  | refl => exact inOrder
  | tail _ step ih => exact ih.step step

theorem due_eq (inOrder : InOrder lines h) : ∃ later, Session.due lines =
    h.handled.map (·.1) ++ h.working.message?.toList ++ h.session.queue ++ later := by
  have split := Session.due_append h.read h.input
  rw [inOrder.lines, ← inOrder.due] at split
  exact ⟨_, split⟩

end InOrder

end Served

end PluginHost
