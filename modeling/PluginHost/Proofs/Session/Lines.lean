import Mathlib.Data.List.TakeWhile
import PluginHost.Proofs.Session.Transport
import PluginHost.Session.Basic

/-!
What the lines of an editor ask for, in the order of their arrival: what is to be handled comes
before the editor leaves, and what comes later is refused.
-/

set_option autoImplicit false

namespace PluginHost

namespace Message

def isLeave : Message → Bool
  | .notification method _ => method = Session.leaveMethod
  | _ => false

/-- Requests and notifications are handled, responses are not. -/
def isWork : Message → Bool
  | .request _ _ _ | .notification _ _ => true
  | .response _ _ _ => false

/-- What is written in the place of a response once the editor has left. -/
def refusal : Message → List Message
  | .request id _ _ => [.response id (.string Session.shutdownMessage) .null]
  | _ => []

end Message

def Receipt.answer : Receipt → List Message
  | .refused answer => [answer]
  | _ => []

namespace Session

def messageOf? (line : String) : Option Message :=
  if Text.isBlankText line then none else (Message.parse line).toOption

def messages (lines : List String) : List Message := lines.filterMap messageOf?

def hasLeft (lines : List String) : Bool := (messages lines).any Message.isLeave

def due (lines : List String) : List Message :=
  ((messages lines).takeWhile fun m => !m.isLeave).filter Message.isWork

def refusals (lines : List String) : List Message :=
  ((messages lines).dropWhile fun m => !m.isLeave).flatMap Message.refusal

theorem messages_append (before after : List String) :
    messages (before ++ after) = messages before ++ messages after :=
  List.filterMap_append

theorem messages_singleton (line : String) : messages [line] = (messageOf? line).toList := by
  cases found : messageOf? line <;> simp [messages, found]

theorem hasLeft_append (before after : List String) :
    hasLeft (before ++ after) = (hasLeft before || hasLeft after) := by
  rw [hasLeft, messages_append, List.any_append, hasLeft, hasLeft]

theorem not_isLeave_of_not_hasLeft {lines : List String} (staying : hasLeft lines = false) :
    ∀ m ∈ messages lines, (!m.isLeave) = true := by
  intro m member
  simpa using List.any_eq_false.1 staying m member

theorem dropWhile_ne_nil_of_hasLeft {lines : List String} (left : hasLeft lines = true) :
    ((messages lines).dropWhile fun m => !m.isLeave) ≠ [] := by
  intro none
  obtain ⟨m, member, leave⟩ := List.any_eq_true.1 left
  simpa [leave] using List.dropWhile_eq_nil_iff.1 none m member

theorem due_append (before after : List String) :
    due (before ++ after) = due before ++ if hasLeft before then [] else due after := by
  cases left : hasLeft before with
  | false =>
    have staying := not_isLeave_of_not_hasLeft left
    have all := List.takeWhile_eq_self_iff.2 staying
    simp [due, messages_append, List.takeWhile_append_of_pos staying, all]
  | true =>
    -- What is taken stops inside the first part, so the second part does not count.
    have short : ((messages before).takeWhile fun m => !m.isLeave).length ≠
        (messages before).length := by
      have parts := congrArg List.length (List.takeWhile_append_dropWhile
        (p := fun m : Message => !m.isLeave) (l := messages before))
      have some := List.length_pos_iff.2 (dropWhile_ne_nil_of_hasLeft left)
      rw [List.length_append] at parts
      omega
    simp [due, messages_append, List.takeWhile_append, short]

theorem refusals_append (before after : List String) :
    refusals (before ++ after) = refusals before ++
      if hasLeft before then (messages after).flatMap Message.refusal else refusals after := by
  cases left : hasLeft before with
  | false =>
    have staying := not_isLeave_of_not_hasLeft left
    have none := List.dropWhile_eq_nil_iff.2 staying
    simp [refusals, messages_append, List.dropWhile_append_of_pos staying, none]
  | true =>
    have some : ((messages before).dropWhile fun m => !m.isLeave).isEmpty = false := by
      simpa using dropWhile_ne_nil_of_hasLeft left
    simp [refusals, messages_append, List.dropWhile_append, some]

theorem refusals_singleton (line : String) : refusals [line] = [] := by
  rw [refusals, messages_singleton]
  cases messageOf? line with
  | none => rfl
  | some m => cases m <;> simp [Message.isLeave, List.dropWhile_cons, Message.refusal]

theorem receive_eq (s : Session) (line : String) :
    match messageOf? line with
    | some m => s.receive line = s.take m
    | none => (s.receive line).1 = s ∧ (s.receive line).2.answer = [] := by
  unfold messageOf? receive
  cases Text.isBlankText line <;> cases Message.parse line <;> simp [Receipt.answer, Except.toOption]

theorem receive_of_accepting {s : Session} (accepting : s.accepting = true) (line : String) :
    (s.receive line).1.queue = s.queue ++ due [line] ∧
      (s.receive line).1.accepting = !hasLeft [line] ∧ (s.receive line).2.answer = [] := by
  have received := s.receive_eq line
  rw [due, hasLeft, messages_singleton]
  cases found : messageOf? line with
  | none =>
    rw [found] at received
    obtain ⟨same, silent⟩ := received
    simp [same, silent, accepting]
  | some m =>
    rw [found] at received
    rw [received]
    cases m with
    | request id method args =>
      simp [take, accepting, enqueue, Message.isLeave, Message.isWork, Receipt.answer,
        List.filter_cons]
    | notification method args =>
      by_cases leave : method = leaveMethod <;>
        simp [take, accepting, enqueue, leave, Message.isLeave, Message.isWork, Receipt.answer,
          List.filter_cons]
    | response id error result =>
      by_cases awaited : (s.transport.pending.lookup id).isSome <;>
        simp [take, accepting, awaited, Message.isLeave, Message.isWork, Receipt.answer]

theorem receive_of_not_accepting {s : Session} (accepting : s.accepting = false) (line : String) :
    (s.receive line).1.queue = s.queue ∧ (s.receive line).1.accepting = false ∧
      (s.receive line).2.answer = (messages [line]).flatMap Message.refusal := by
  have received := s.receive_eq line
  rw [messages_singleton]
  cases found : messageOf? line with
  | none =>
    rw [found] at received
    obtain ⟨same, silent⟩ := received
    simp [same, silent, accepting]
  | some m =>
    rw [found] at received
    rw [received]
    cases m with
    | request id method args => simp [take, accepting, Message.refusal, Receipt.answer]
    | notification method args =>
      by_cases leave : method = leaveMethod <;>
        simp [take, accepting, leave, Message.refusal, Receipt.answer]
    | response id error result =>
      by_cases awaited : (s.transport.pending.lookup id).isSome <;>
        simp [take, accepting, awaited, Message.refusal, Receipt.answer]

theorem receive_transport (s : Session) (line : String) :
    (s.receive line).1.transport.closed = s.transport.closed ∧
      ∀ entry ∈ (s.receive line).1.transport.pending, entry ∈ s.transport.pending := by
  have received := s.receive_eq line
  cases found : messageOf? line with
  | none =>
    rw [found] at received
    simp [received.1]
  | some m =>
    rw [found] at received
    rw [received]
    cases m with
    | request id method args => cases flag : s.accepting <;> simp [take, flag, enqueue]
    | notification method args =>
      by_cases leave : method = leaveMethod <;> cases flag : s.accepting <;>
        simp [take, leave, flag, enqueue]
    | response id error result =>
      cases awaited : s.transport.pending.lookup id with
      | none => simp [take, awaited]
      | some method =>
        simp only [take, awaited, Option.isSome_some, if_true,
          Transport.resolve_of_lookup error result awaited]
        exact ⟨rfl, fun entry member => (Transport.mem_forget.1 member).1⟩

theorem next?_eq_none {s : Session} : s.next? = none ↔ s.queue = [] := by
  unfold next?
  split <;> simp_all

theorem next?_eq_some {s t : Session} {m : Message} :
    s.next? = some (m, t) ↔ ∃ rest, s.queue = m :: rest ∧ t = { s with queue := rest } := by
  unfold next?
  split
  · simp_all
  · next first rest queue =>
    rw [queue]
    constructor
    · rintro ⟨⟩
      exact ⟨rest, rfl, rfl⟩
    · rintro ⟨_, ⟨⟩, rfl⟩
      rfl

end Session

end PluginHost
