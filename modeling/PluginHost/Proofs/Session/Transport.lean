import PluginHost.Session.Transport

/-!
What the operations of a transport do to the requests that wait in it.
-/

set_option autoImplicit false

namespace PluginHost.Transport

def Awaits (t : Transport) (id : Nat) : Prop := ∃ method, (id, method) ∈ t.pending

theorem lookup_pending_eq_none {t : Transport} {id : Nat} :
    t.pending.lookup id = none ↔ ¬ t.Awaits id := by
  simp only [List.lookup_eq_none_iff, Awaits, not_exists]
  constructor
  · intro absent method member
    simpa using absent (id, method) member
  · rintro absent ⟨other, method⟩ member
    by_cases same : id = other
    · exact absurd (same ▸ member) (absent method)
    · simpa using same

theorem mem_of_lookup {t : Transport} {id : Nat} {method : String}
    (found : t.pending.lookup id = some method) : (id, method) ∈ t.pending := by
  obtain ⟨before, after, split, -⟩ := List.lookup_eq_some_iff.1 found
  simp [split]

@[simp] theorem mem_await {t : Transport} {id : Nat} {method : String} {entry : Nat × String} :
    entry ∈ (t.await id method).pending ↔ entry = (id, method) ∨ entry ∈ t.pending := by
  simp [await]

@[simp] theorem mem_forget {t : Transport} {id : Nat} {entry : Nat × String} :
    entry ∈ (t.forget id).pending ↔ entry ∈ t.pending ∧ entry.1 ≠ id := by
  simp [forget]

@[simp] theorem mem_dropPending {t : Transport} {entry : Nat × String} :
    ¬ entry ∈ t.dropPending.pending := by
  simp [dropPending]

/-- The answer is there for the one who waits under the number. -/
def deliver (t : Transport) (id : Nat) (a : Answer) : Transport :=
  { t with arrived := (id, a) :: t.arrived }

theorem resolve_of_lookup {t : Transport} {id : Nat} {method : String} (error result : Json)
    (found : t.pending.lookup id = some method) :
    t.resolve id error result = (t.forget id).deliver id (answerOf method error result) := by
  simp [resolve, found, deliver, forget]

theorem resolve_of_not_awaits {t : Transport} {id : Nat} (error result : Json)
    (absent : ¬ t.Awaits id) : t.resolve id error result = t := by
  simp [resolve, lookup_pending_eq_none.2 absent]

theorem forget_of_not_awaits {t : Transport} {id : Nat} (absent : ¬ t.Awaits id) :
    t.forget id = t := by
  have kept : t.pending.filter (fun p => p.1 != id) = t.pending := by
    refine List.filter_eq_self.2 fun entry member => ?_
    have other : entry.1 ≠ id := fun same => absent ⟨entry.2, same ▸ member⟩
    simpa using other
  rw [forget, kept]

theorem begin?_of_open {t : Transport} (method : String) (flag : t.closed = false) :
    t.begin? method = (some t.nextId, t.draw.2.await t.nextId method) := by
  simp [begin?, draw, await, flag]

theorem begin?_of_closed {t : Transport} (method : String) (flag : t.closed = true) :
    t.begin? method = (none, (t.draw.2.await t.nextId method).forget t.nextId) := by
  simp [begin?, draw, await, flag]

theorem standing_ne_waiting {t : Transport} {id : Nat} (absent : ¬ t.Awaits id) :
    t.standing id ≠ .waiting := by
  simp only [standing, lookup_pending_eq_none.2 absent]
  split <;> simp

end PluginHost.Transport
