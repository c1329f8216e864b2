import Mathlib.Logic.Function.Basic
import Mathlib.Logic.Relation
import PluginHost.Proofs.Session.Call

/-!
Requests at the same time: any number of callers, and the reader, who hands on responses and at last
closes the session.
-/

set_option autoImplicit false

namespace PluginHost

structure Response where
  id : Nat
  error : Json
  result : Json

def Response.answer (r : Response) (method : String) : Answer :=
  Transport.answerOf method r.error r.result

inductive Reader where
  | reading
  /-- It took the entry out and has yet to send the answer on. -/
  | handing (id : Nat) (answer : Answer)
  | closing
  | closed

/-- The number of the caller that waits for the reader to send its answer on. -/
def Reader.held : Reader → Option Nat
  | .handing id _ => some id
  | _ => none

structure Calls (ι : Type) where
  transport : Transport
  reader : Reader
  call : ι → Call
  /-- The responses for which there was an entry, latest first. -/
  handed : List Response

namespace Calls

variable {ι : Type}

def start : Calls ι := ⟨.start, .reading, fun _ => .idle, []⟩

def put [DecidableEq ι] (c : Calls ι) (i : ι) (t : Transport) (call : Call) : Calls ι :=
  { c with transport := t, call := Function.update c.call i call }

variable (method : ι → String)

inductive Step [DecidableEq ι] : Calls ι → Calls ι → Prop where
  | call (c : Calls ι) (i : ι) {t : Transport} {call : Call}
      (step : Call.Step (method i) c.reader.held c.transport (c.call i) t call) :
      Step c (c.put i t call)
  | resolve (c : Calls ι) (r : Response) (m : String) (phase : c.reader = .reading)
      (found : c.transport.pending.lookup r.id = some m) :
      Step c { c with
        transport := c.transport.forget r.id
        reader := .handing r.id (r.answer m)
        handed := r :: c.handed }
  | hand (c : Calls ι) (id : Nat) (a : Answer) (phase : c.reader = .handing id a) :
      Step c { c with transport := c.transport.deliver id a, reader := .reading }
  | stray (c : Calls ι) (r : Response) (phase : c.reader = .reading)
      (unknown : c.transport.pending.lookup r.id = none) : Step c c
  | refuseNew (c : Calls ι) (phase : c.reader = .reading) :
      Step c { c with transport := c.transport.refuseNew, reader := .closing }
  | dropPending (c : Calls ι) (phase : c.reader = .closing) :
      Step c { c with transport := c.transport.dropPending, reader := .closed }

abbrev Runs [DecidableEq ι] : Calls ι → Calls ι → Prop := Relation.ReflTransGen (Step method)

def AnsweredBy (c : Calls ι) (i : ι) (id : Nat) (a : Answer) : Prop :=
  ∃ r ∈ c.handed, r.id = id ∧ a = r.answer (method i)

/-- Numbers, entries and responses belong together. -/
structure Matched (c : Calls ι) : Prop where
  numbered : ∀ i id, (c.call i).id? = some id → id < c.transport.nextId
  unique : ∀ i j id, (c.call i).id? = some id → (c.call j).id? = some id → i = j
  pending : ∀ entry ∈ c.transport.pending,
    ∃ i, (c.call i).HasEntered entry.1 ∧ entry.2 = method i
  handed : ∀ r ∈ c.handed, ¬ c.transport.Awaits r.id ∧
    ∃ i, (c.call i).id? = some r.id ∧ c.call i ≠ .drawn r.id
  once : (c.handed.map Response.id).Nodup
  handing : ∀ id a, c.reader = .handing id a →
    ∃ i, (c.call i).id? = some id ∧ AnsweredBy method c i id a
  arrived : ∀ entry ∈ c.transport.arrived,
    ∃ i, (c.call i).id? = some entry.1 ∧ AnsweredBy method c i entry.1 entry.2
  returned : ∀ i id a, c.call i = .returned id a → ¬ c.transport.Awaits id ∧
    ((∃ reason, a = .error (.transport reason)) ∨ AnsweredBy method c i id a)
  flag : c.transport.closed = true ↔ c.reader = .closing ∨ c.reader = .closed
  /-- The entries that came after the table was cleared are those of callers turned away. -/
  cleared : c.reader = .closed → ∀ entry ∈ c.transport.pending,
    ∃ i, (c.call i).IsTurnedAway entry.1

variable {method} {c d : Calls ι}

theorem start_matched : Matched method (start : Calls ι) := by
  constructor <;> simp [start, Transport.start, Call.id?]

namespace Matched

theorem resolve (matched : Matched method c) {r : Response} {m : String}
    (phase : c.reader = .reading) (found : c.transport.pending.lookup r.id = some m) :
    Matched method { c with
      transport := c.transport.forget r.id
      reader := .handing r.id (r.answer m)
      handed := r :: c.handed } := by
  have there := Transport.mem_of_lookup found
  have more : ∀ {i id a}, AnsweredBy method c i id a → AnsweredBy method { c with
      transport := c.transport.forget r.id
      reader := .handing r.id (r.answer m)
      handed := r :: c.handed } i id a :=
    fun ⟨r', member, answered⟩ => ⟨r', .tail _ member, answered⟩
  have fewer : ∀ {id}, (c.transport.forget r.id).Awaits id → c.transport.Awaits id :=
    fun ⟨m', member⟩ => ⟨m', (Transport.mem_forget.1 member).1⟩
  obtain ⟨i, owner, rfl⟩ := matched.pending _ there
  constructor
  case numbered => exact matched.numbered
  case unique => exact matched.unique
  case pending => exact fun entry member => matched.pending entry (Transport.mem_forget.1 member).1
  case handed =>
    intro r' member
    rcases List.mem_cons.1 member with rfl | old
    · exact ⟨by simp [Transport.Awaits], i, owner.id?_eq, owner.ne_drawn _⟩
    · exact ⟨fun still => (matched.handed r' old).1 (fewer still), (matched.handed r' old).2⟩
  case once =>
    refine List.nodup_cons.2 ⟨fun again => ?_, matched.once⟩
    obtain ⟨r', member, same⟩ := List.mem_map.1 again
    exact (matched.handed r' member).1 (same ▸ ⟨_, there⟩)
  case handing =>
    rintro id a ⟨⟩
    exact ⟨i, owner.id?_eq, r, .head _, rfl, rfl⟩
  case arrived =>
    intro entry member
    obtain ⟨j, number, answered⟩ := matched.arrived entry member
    exact ⟨j, number, more answered⟩
  case returned =>
    intro j id a finished
    obtain ⟨gone, outcome⟩ := matched.returned j id a finished
    exact ⟨fun still => gone (fewer still), outcome.imp_right more⟩
  case flag => exact matched.flag.trans (by simp [phase])
  case cleared =>
    intro shut
    cases shut

theorem hand (matched : Matched method c) {id : Nat} {a : Answer}
    (phase : c.reader = .handing id a) :
    Matched method { c with transport := c.transport.deliver id a, reader := .reading } where
  numbered := matched.numbered
  unique := matched.unique
  pending := matched.pending
  handed := matched.handed
  once := matched.once
  handing _ _ holds := nomatch holds
  arrived entry member := by
    rcases List.mem_cons.1 member with rfl | old
    · exact matched.handing id a phase
    · exact matched.arrived entry old
  returned := matched.returned
  flag := matched.flag.trans (by simp [phase])
  cleared shut := nomatch shut

theorem refuseNew (matched : Matched method c) :
    Matched method { c with transport := c.transport.refuseNew, reader := .closing } where
  numbered := matched.numbered
  unique := matched.unique
  pending := matched.pending
  handed := matched.handed
  once := matched.once
  handing _ _ holds := nomatch holds
  arrived := matched.arrived
  returned := matched.returned
  flag := by simp [Transport.refuseNew]
  cleared shut := nomatch shut

theorem dropPending (matched : Matched method c) (phase : c.reader = .closing) :
    Matched method { c with transport := c.transport.dropPending, reader := .closed } where
  numbered := matched.numbered
  unique := matched.unique
  pending entry member := absurd member Transport.mem_dropPending
  handed r member :=
    ⟨fun ⟨_, there⟩ => Transport.mem_dropPending there, (matched.handed r member).2⟩
  once := matched.once
  handing _ _ holds := nomatch holds
  arrived := matched.arrived
  returned i id a finished :=
    ⟨fun ⟨_, there⟩ => Transport.mem_dropPending there, (matched.returned i id a finished).2⟩
  flag := matched.flag.trans (by simp [phase])
  cleared _ entry member := absurd member Transport.mem_dropPending

/-- What a caller takes that need not wait any more. -/
theorem taken (matched : Matched method c) {i : ι} {id : Nat} (before : (c.call i).id? = some id)
    (ready : c.transport.standing id ≠ .waiting) : ¬ c.transport.Awaits id ∧
      ((∃ reason, c.transport.taken id (method i) = .error (.transport reason)) ∨
        AnsweredBy method c i id (c.transport.taken id (method i))) := by
  cases found : c.transport.arrived.lookup id with
  | some a =>
    obtain ⟨front, rest, split, -⟩ := List.lookup_eq_some_iff.1 found
    obtain ⟨j, owner, answered⟩ := matched.arrived (id, a) (by simp [split])
    have mine := matched.unique j i id owner before
    have taken : c.transport.taken id (method i) = a := by
      simp [Transport.taken, Transport.standing, found]
    subst mine
    have gone : ¬ c.transport.Awaits id := by
      obtain ⟨r, member, rfl, -⟩ := answered
      exact (matched.handed r member).1
    exact ⟨gone, .inr (taken ▸ answered)⟩
  | none =>
    have gone : c.transport.pending.lookup id = none := by
      rw [Transport.standing, found] at ready
      cases there : c.transport.pending.lookup id with
      | some _ => simp [there] at ready
      | none => rfl
    have taken : c.transport.taken id (method i) = .error (Transport.lostError (method i)) := by
      simp [Transport.taken, Transport.standing, found, gone]
    exact ⟨Transport.lookup_pending_eq_none.1 gone, .inl ⟨_, taken⟩⟩

/-- After the close the caller waits for nobody. -/
theorem standing_of_closed (matched : Matched method c) (shut : c.reader = .closed) {i : ι}
    {id : Nat} (phase : c.call i = .admitted id ∨ c.call i = .sent id) :
    c.transport.standing id ≠ .waiting := by
  refine Transport.standing_ne_waiting fun ⟨m, there⟩ => ?_
  obtain ⟨j, away⟩ := matched.cleared shut _ there
  have before : (c.call i).id? = some id := by
    rcases phase with phase | phase <;> rw [phase] <;> rfl
  have mine := matched.unique j i id away.id?_eq before
  subst mine
  rcases phase with phase | phase <;> rw [phase] at away <;> exact away

end Matched

variable [DecidableEq ι]

section Put

variable {i j : ι} {t : Transport} {call : Call}

@[simp] theorem put_call_self : (c.put i t call).call i = call := by
  simp [put]

@[simp] theorem put_call_of_ne (other : j ≠ i) : (c.put i t call).call j = c.call j := by
  simp [put, other]

@[simp] theorem put_put {t' : Transport} {call' : Call} :
    (c.put i t call).put i t' call' = c.put i t' call' := by
  simp [put]

@[simp] theorem put_transport : (c.put i t call).transport = t := rfl

@[simp] theorem put_reader : (c.put i t call).reader = c.reader := rfl

@[simp] theorem put_handed : (c.put i t call).handed = c.handed := rfl

/-- What holds of some caller still does after one has moved on, unless that one loses it. -/
theorem exists_put {P : ι → Call → Prop} (keeps : P i (c.call i) → P i call)
    (holds : ∃ j, P j (c.call j)) : ∃ j, P j ((c.put i t call).call j) := by
  obtain ⟨j, at_j⟩ := holds
  refine ⟨j, ?_⟩
  by_cases same : j = i
  · subst same
    simpa using keeps at_j
  · simpa [same] using at_j

end Put

namespace Matched

theorem draw (matched : Matched method c) {i : ι} (phase : c.call i = .idle) :
    Matched method (c.put i c.transport.draw.2 (.drawn c.transport.draw.1)) := by
  have older : ∀ j id, j ≠ i → ((c.put i c.transport.draw.2
      (.drawn c.transport.draw.1)).call j).id? = some id → id < c.transport.nextId :=
    fun j id other number => matched.numbered j id (by simpa [other] using number)
  constructor
  case numbered =>
    intro j id number
    by_cases same : j = i
    · simp only [same, put_call_self, Call.id?, Option.some.injEq] at number
      exact number ▸ Nat.lt_succ_self _
    · exact Nat.lt_succ_of_lt (older j id same number)
  case unique =>
    intro j k id at_j at_k
    by_cases j_drew : j = i <;> by_cases k_drew : k = i
    · exact j_drew.trans k_drew.symm
    · have new : c.transport.nextId = id := by simpa [j_drew, Call.id?, Transport.draw] using at_j
      have old := older k id k_drew at_k
      omega
    · have new : c.transport.nextId = id := by simpa [k_drew, Call.id?, Transport.draw] using at_k
      have old := older j id j_drew at_j
      omega
    · exact matched.unique j k id (by simpa [j_drew] using at_j) (by simpa [k_drew] using at_k)
  case pending =>
    intro entry member
    exact exists_put (P := fun j call => call.HasEntered entry.1 ∧ entry.2 = method j)
      (by simp [phase, Call.HasEntered]) (matched.pending entry member)
  case handed =>
    intro r member
    obtain ⟨gone, owner⟩ := matched.handed r member
    exact ⟨gone, exists_put (P := fun _ call => call.id? = some r.id ∧ call ≠ .drawn r.id)
      (by simp [phase, Call.id?]) owner⟩
  case once => exact matched.once
  case handing =>
    intro id a phase'
    exact exists_put (P := fun j call => call.id? = some id ∧ AnsweredBy method c j id a)
      (by simp [phase, Call.id?]) (matched.handing id a phase')
  case arrived =>
    intro entry member
    exact exists_put
      (P := fun j call => call.id? = some entry.1 ∧ AnsweredBy method c j entry.1 entry.2)
      (by simp [phase, Call.id?]) (matched.arrived entry member)
  case returned =>
    intro j id a finished
    by_cases same : j = i
    · simp [same] at finished
    · exact matched.returned j id a (by simpa [same] using finished)
  case flag => exact matched.flag
  case cleared =>
    intro shut entry member
    exact exists_put (P := fun _ call => call.IsTurnedAway entry.1)
      (by simp [phase, Call.IsTurnedAway]) (matched.cleared shut entry member)

/-- A caller that has drawn its number moves on. -/
theorem advance (matched : Matched method c) {i : ι} {id : Nat} {t : Transport} {call : Call}
    (before : (c.call i).id? = some id) (after : call.id? = some id) (passed : call ≠ .drawn id)
    (nextId : t.nextId = c.transport.nextId) (arrived : t.arrived = c.transport.arrived)
    (closed : t.closed = c.transport.closed)
    (grown : ∀ entry ∈ t.pending, entry ∈ c.transport.pending ∨
      entry = (id, method i) ∧ c.call i = .drawn id)
    (entered : t.Awaits id → call.HasEntered id)
    (away : c.reader = .closed → t.Awaits id → call.IsTurnedAway id)
    (result : ∀ a, call = .returned id a →
      (∃ reason, a = .error (.transport reason)) ∨ AnsweredBy method c i id a) :
    Matched method (c.put i t call) := by
  have number : ∀ j, ((c.put i t call).call j).id? = (c.call j).id? := by
    intro j
    by_cases same : j = i <;> simp [same, before, after]
  have elsewhere : ∀ entry ∈ t.pending, entry.1 ≠ id → entry ∈ c.transport.pending := by
    intro entry member other
    rcases grown entry member with old | ⟨rfl, -⟩
    · exact old
    · exact absurd rfl other
  have moved : ∀ {j n}, n ≠ id → (c.call j).id? = some n → j ≠ i := by
    rintro j n other owner rfl
    exact other (Option.some.inj (owner.symm.trans before))
  constructor
  case numbered => exact fun j n owner => nextId ▸ matched.numbered j n (number j ▸ owner)
  case unique =>
    exact fun j k n at_j at_k => matched.unique j k n (number j ▸ at_j) (number k ▸ at_k)
  case pending =>
    intro entry member
    by_cases own : entry.1 = id
    · refine ⟨i, by simpa [own] using entered ⟨entry.2, own ▸ member⟩, ?_⟩
      rcases grown entry member with old | ⟨rfl, -⟩
      · obtain ⟨j, owner, same⟩ := matched.pending entry old
        exact matched.unique j i id (own ▸ owner.id?_eq) before ▸ same
      · rfl
    · obtain ⟨j, owner, same⟩ := matched.pending entry (elsewhere entry member own)
      exact ⟨j, by simpa [moved own owner.id?_eq] using owner, same⟩
  case handed =>
    intro r member
    obtain ⟨gone, j, owner, past⟩ := matched.handed r member
    refine ⟨fun ⟨m, there⟩ => ?_, j, (number j).trans owner, ?_⟩
    · rcases grown _ there with old | ⟨own, undrawn⟩
      · exact gone ⟨m, old⟩
      · have same : r.id = id := congrArg Prod.fst own
        have mine := matched.unique j i id (same ▸ owner) before
        exact past (mine ▸ same ▸ undrawn)
    · by_cases same : j = i
      · subst same
        have own : r.id = id := Option.some.inj (owner.symm.trans before)
        simpa [own] using passed
      · simpa [same] using past
  case once => exact matched.once
  case handing =>
    intro n a holds
    obtain ⟨j, owner, answered⟩ := matched.handing n a holds
    exact ⟨j, (number j).trans owner, answered⟩
  case arrived =>
    intro entry member
    obtain ⟨j, owner, answered⟩ := matched.arrived entry (arrived ▸ member)
    exact ⟨j, (number j).trans owner, answered⟩
  case returned =>
    intro j n a finished
    by_cases same : j = i
    · subst same
      rw [put_call_self] at finished
      subst finished
      cases after
      exact ⟨entered, result a rfl⟩
    · rw [put_call_of_ne same] at finished
      obtain ⟨gone, outcome⟩ := matched.returned j n a finished
      refine ⟨fun ⟨m, there⟩ => ?_, outcome⟩
      rcases grown _ there with old | ⟨own, -⟩
      · exact gone ⟨m, old⟩
      · have shared : n = id := congrArg Prod.fst own
        have owner : (c.call j).id? = some id := by rw [finished, ← shared]; rfl
        exact same (matched.unique j i id owner before)
  case flag => exact closed ▸ matched.flag
  case cleared =>
    intro shut entry member
    by_cases own : entry.1 = id
    · exact ⟨i, by simpa [own] using away shut ⟨entry.2, own ▸ member⟩⟩
    · obtain ⟨j, owner⟩ := matched.cleared shut entry (elsewhere entry member own)
      exact ⟨j, by simpa [moved own owner.id?_eq] using owner⟩

theorem enter (matched : Matched method c) {i : ι} {id : Nat} (phase : c.call i = .drawn id) :
    Matched method (c.put i (c.transport.await id (method i)) (.entered id)) := by
  refine matched.advance (by simp [phase, Call.id?]) rfl (by simp) rfl rfl rfl ?_ (fun _ => rfl)
    (fun _ _ => rfl) (by simp)
  intro entry member
  rcases Transport.mem_await.1 member with rfl | old
  · exact .inr ⟨rfl, phase⟩
  · exact .inl old

/-- A caller moves on and leaves the transport as it is. -/
theorem move (matched : Matched method c) {i : ι} {id : Nat} {call : Call}
    (before : (c.call i).id? = some id) (entered : call.HasEntered id)
    (away : c.reader = .closed → call.IsTurnedAway id ∨ ¬ (c.call i).IsTurnedAway id) :
    Matched method (c.put i c.transport call) := by
  refine matched.advance before entered.id?_eq (entered.ne_drawn id) rfl rfl rfl
    (fun entry member => .inl member) (fun _ => entered) ?_ ?_
  · rintro shut ⟨m, there⟩
    obtain ⟨j, turned⟩ := matched.cleared shut _ there
    have mine := matched.unique j i id turned.id?_eq before
    exact (away shut).resolve_right fun still => still (mine ▸ turned)
  · rintro a rfl
    exact entered.elim

/-- A caller takes its entry out, if it is still there, and returns. -/
theorem finish (matched : Matched method c) {i : ι} {id : Nat} {a : Answer}
    (before : (c.call i).id? = some id)
    (result : (∃ reason, a = .error (.transport reason)) ∨ AnsweredBy method c i id a) :
    Matched method (c.put i (c.transport.forget id) (.returned id a)) := by
  have gone : ¬ (c.transport.forget id).Awaits id := by simp [Transport.Awaits]
  refine matched.advance before rfl (by simp) rfl rfl rfl ?_ (fun there => absurd there gone)
    (fun _ there => absurd there gone) ?_
  · exact fun entry member => .inl (Transport.mem_forget.1 member).1
  · rintro _ ⟨⟩
    exact result

theorem call (matched : Matched method c) {i : ι} {t : Transport} {call : Call}
    (step : Call.Step (method i) c.reader.held c.transport (c.call i) t call) :
    Matched method (c.put i t call) := by
  generalize phase : c.call i = before at step
  cases step with
  | draw => exact matched.draw phase
  | enter id => exact matched.enter phase
  | allow id flag =>
    refine matched.move (by rw [phase]; rfl) rfl fun shut => ?_
    exact absurd (matched.flag.2 (.inr shut)) (by simp [flag])
  | refuse id flag => exact matched.move (by rw [phase]; rfl) rfl fun _ => .inl rfl
  | leave id => exact matched.finish (by rw [phase]; rfl) (.inl ⟨_, rfl⟩)
  | send id | sendFails id reason =>
    exact matched.move (by rw [phase]; rfl) rfl fun _ => .inr (by simp [phase, Call.IsTurnedAway])
  | giveUp id reason => exact matched.finish (by rw [phase]; rfl) (.inl ⟨_, rfl⟩)
  | wake id ready free =>
    have before : (c.call i).id? = some id := by rw [phase]; rfl
    obtain ⟨gone, result⟩ := matched.taken before ready
    have finished := matched.finish before result
    rwa [Transport.forget_of_not_awaits gone] at finished

theorem step (matched : Matched method c) (step : Step method c d) : Matched method d := by
  cases step with
  | call i step => exact matched.call step
  | resolve r m phase found => exact matched.resolve phase found
  | hand id a phase => exact matched.hand phase
  | stray => exact matched
  | refuseNew phase => exact matched.refuseNew
  | dropPending phase => exact matched.dropPending phase

theorem runs (matched : Matched method c) (runs : Runs method c d) : Matched method d := by
  induction runs with
  | refl => exact matched
  | tail _ step ih => exact ih.step step

end Matched

theorem exists_return (matched : Matched method c) (shut : c.reader = .closed) (i : ι) :
    ∃ d id a, Runs method c d ∧ d.call i = .returned id a := by
  induction left : (c.call i).remaining using Nat.strongRecOn generalizing c with
  | _ n ih =>
    by_cases finished : ∃ id a, c.call i = .returned id a
    · obtain ⟨id, a, finished⟩ := finished
      exact ⟨c, id, a, .refl, finished⟩
    · have running : ∀ id a, c.call i ≠ .returned id a :=
        fun id a phase => finished ⟨id, a, phase⟩
      have free : c.reader.held = none := by rw [shut]; rfl
      -- Whatever the others do, this caller need not wait any more.
      have ready : ∀ id, c.call i = .sent id →
          c.transport.standing id ≠ .waiting ∧ c.reader.held ≠ some id :=
        fun id phase => ⟨matched.standing_of_closed shut (.inr phase), by simp [free]⟩
      obtain ⟨t, call, step⟩ := Call.exists_step (method i) running ready
      have fewer : ((c.put i t call).call i).remaining < n := by
        rw [put_call_self, ← left]
        exact step.remaining_lt
      obtain ⟨e, id, a, rest, phase⟩ := ih _ fewer (matched.call step) shut rfl
      exact ⟨e, id, a, .head (.call c i step) rest, phase⟩

theorem runs_resolve (phase : c.reader = .reading) (r : Response)
    (awaited : c.transport.Awaits r.id) :
    Runs method c { c with
      transport := c.transport.resolve r.id r.error r.result
      handed := r :: c.handed } := by
  cases found : c.transport.pending.lookup r.id with
  | none => exact absurd awaited (Transport.lookup_pending_eq_none.1 found)
  | some m =>
    rw [Transport.resolve_of_lookup r.error r.result found]
    refine .head (.resolve c r m phase found) (.single ?_)
    rw [phase]
    exact .hand _ r.id (r.answer m) rfl

theorem runs_close (phase : c.reader = .reading) :
    Runs method c { c with transport := c.transport.close, reader := .closed } :=
  .head (.refuseNew c phase) (.single (.dropPending _ rfl))

theorem step_put {i : ι} {t t' : Transport} {call call' : Call}
    (step : Call.Step (method i) c.reader.held t call t' call') :
    Step method (c.put i t call) (c.put i t' call') := by
  have stepped : Step method (c.put i t call) ((c.put i t call).put i t' call') :=
    .call _ i (by rwa [put_call_self, put_transport, put_reader])
  rwa [put_put] at stepped

theorem runs_begin {i : ι} (phase : c.call i = .idle) :
    Runs method c (match c.transport.begin? (method i) with
      | (some id, t) => c.put i t (.admitted id)
      | (none, t) => c.put i t (.returned c.transport.nextId (.error Transport.closedError))) := by
  have draw : Step method c (c.put i c.transport.draw.2 (.drawn c.transport.draw.1)) :=
    .call c i (by rw [phase]; exact .draw c.transport)
  refine .head draw (.head (step_put (.enter _ _)) ?_)
  cases flag : c.transport.closed with
  | false =>
    rw [Transport.begin?_of_open (method i) flag]
    exact .single (step_put (.allow _ _ flag))
  | true =>
    rw [Transport.begin?_of_closed (method i) flag]
    exact .head (step_put (.refuse _ _ flag)) (.single (step_put (.leave _ _)))

variable (method) in
/-- What the transport does at once, the calls come to if nobody else comes in between. -/
structure Undisturbed (c : Calls ι) : Prop where
  resolve : c.reader = .reading → ∀ r : Response, c.transport.Awaits r.id →
    Runs method c { c with
      transport := c.transport.resolve r.id r.error r.result
      handed := r :: c.handed }
  close : c.reader = .reading →
    Runs method c { c with transport := c.transport.close, reader := .closed }
  begin : ∀ i, c.call i = .idle →
    Runs method c (match c.transport.begin? (method i) with
      | (some id, t) => c.put i t (.admitted id)
      | (none, t) => c.put i t (.returned c.transport.nextId (.error Transport.closedError)))

/-- Callers return what came under their own number, at most once, and nobody waits for a session
that is closed. -/
theorem request_settles (runs : Runs method start c) :
    (∀ i id a, c.call i = .returned id a → c.transport.pending.lookup id = none ∧
      ((∃ reason, a = .error (.transport reason)) ∨
        ∃ r ∈ c.handed, r.id = id ∧ a = Transport.answerOf (method i) r.error r.result)) ∧
    (c.handed.map Response.id).Nodup ∧
    (∀ r ∈ c.handed, (∃! i, (c.call i).id? = some r.id) ∧
      ∀ error result, c.transport.resolve r.id error result = c.transport) ∧
    (c.reader = .closed →
      (∀ i id, c.call i = .admitted id ∨ c.call i = .sent id →
        c.transport.standing id ≠ .waiting) ∧
      ∀ i, ∃ d id a, Runs method c d ∧ d.call i = .returned id a) ∧
    Undisturbed method c := by
  have matched := start_matched.runs runs
  refine ⟨fun i id a finished => ?_, matched.once, fun r member => ?_, fun shut => ⟨?_, ?_⟩,
    ⟨runs_resolve, runs_close, fun i => runs_begin⟩⟩
  · obtain ⟨gone, result⟩ := matched.returned i id a finished
    exact ⟨Transport.lookup_pending_eq_none.2 gone, result⟩
  · obtain ⟨gone, i, owner, -⟩ := matched.handed r member
    exact ⟨⟨i, owner, fun j other => matched.unique j i r.id other owner⟩,
      fun error result => Transport.resolve_of_not_awaits error result gone⟩
  · exact fun i id phase => matched.standing_of_closed shut phase
  · exact fun i => exists_return matched shut i

-- Two callers. The second gets an answer; the first still waits when the editor hangs up.
theorem request_settles_at_close :
    ∃ c : Calls Bool, Runs (fun _ => "nvim_eval") start c ∧ c.reader = .closed ∧
      c.call false = .returned 1 (.error (Transport.lostError "nvim_eval")) ∧
      c.call true = .returned 2 (.ok (.nat 7)) ∧
      (∀ i id a, c.call i = .returned id a → c.transport.pending.lookup id = none ∧
        ((∃ reason, a = .error (.transport reason)) ∨
          ∃ r ∈ c.handed, r.id = id ∧ a = Transport.answerOf "nvim_eval" r.error r.result)) := by
  have runs : Runs (fun _ : Bool => "nvim_eval") start _ :=
    .head (.call _ false (.draw _)) <| .head (.call _ true (.draw _)) <|
    .head (.call _ true (.enter _ 2)) <| .head (.call _ false (.enter _ 1)) <|
    .head (.call _ true (.allow _ 2 rfl)) <| .head (.call _ true (.send _ 2)) <|
    .head (.resolve _ ⟨2, .null, .nat 7⟩ "nvim_eval" rfl rfl) <| .head (.hand _ 2 _ rfl) <|
    .head (.call _ false (.allow _ 1 rfl)) <| .head (.stray _ ⟨2, .null, .nat 8⟩ rfl rfl) <|
    .head (.refuseNew _ rfl) <| .head (.call _ false (.send _ 1)) <| .head (.dropPending _ rfl) <|
    .head (.call _ true (.wake _ 2
      (Transport.standing_ne_waiting fun ⟨_, there⟩ => nomatch there) nofun)) <|
    .head (.call _ false (.wake _ 1
      (Transport.standing_ne_waiting fun ⟨_, there⟩ => nomatch there) nofun)) .refl
  exact ⟨_, runs, rfl, rfl, rfl, (request_settles runs).1⟩

end Calls

end PluginHost
