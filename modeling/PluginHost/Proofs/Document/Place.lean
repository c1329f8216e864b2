import PluginHost.Proofs.Json.Ordered

/-!
Places in a document: which keys and indices lead to a value. What stands at a place can be
replaced, and then every place beside it keeps its value.
-/

set_option autoImplicit false

namespace PluginHost

inductive Position where
  | key (name : String)
  | index (i : Nat)
deriving DecidableEq, Repr

abbrev Place := List Position

namespace Json

def child? : Json → Position → Option Json
  | .object fields, .key name => Fields.get? fields name
  | .array items, .index i => items[i]?
  | _, _ => none

@[simp] theorem child?_key (s : Json) (name : String) : s.child? (.key name) = s.get? name := by
  cases s <;> rfl

@[simp] theorem child?_index (items : List Json) (i : Nat) :
    (Json.array items).child? (.index i) = items[i]? := rfl

def at? (s : Json) : Place → Option Json
  | [] => some s
  | p :: rest => (s.child? p).bind fun v => v.at? rest

/-- Changes one member or element, if there is one. -/
def change (f : Json → Json) : Json → Position → Json
  | .object fields, .key name =>
    .object (fields.map fun m => if m.1 = name then (m.1, f m.2) else m)
  | .array items, .index i => .array (items.modify i f)
  | s, _ => s

def replace (v : Json) : Place → Json → Json
  | [], _ => v
  | p :: rest, s => s.change (replace v rest) p

variable {f : Json → Json} {s v w : Json} {p q : Position} {place other : Place}

theorem get?_map (fields : Fields) (name key : String) :
    Fields.get? (fields.map fun m => if m.1 = name then (m.1, f m.2) else m) key =
      if key = name then (Fields.get? fields key).map f else Fields.get? fields key := by
  induction fields with
  | nil => simp [Fields.get?]
  | cons m rest ih =>
    by_cases changed : m.1 = name <;> by_cases found : m.1 = key <;>
      simp_all [Fields.get?]

@[simp] theorem child?_change_self : (s.change f p).child? p = (s.child? p).map f := by
  cases s <;> cases p <;> simp [change, child?, get?_map]

@[simp] theorem get?_change_self (s : Json) (f : Json → Json) (name : String) :
    (s.change f (.key name)).get? name = (s.get? name).map f := by
  rw [← child?_key, child?_change_self, child?_key]

theorem child?_change_of_ne (ne : q ≠ p) : (s.change f p).child? q = s.child? q := by
  cases s with
  | object fields =>
    cases p with
    | key name =>
      cases q with
      | key key =>
        have other : key ≠ name := fun same => ne (same ▸ rfl)
        simp [change, child?, get?_map, other]
      | index i => rfl
    | index i => rfl
  | array items =>
    cases p with
    | key name => rfl
    | index i =>
      cases q with
      | key key => rfl
      | index j =>
        have other : i ≠ j := fun same => ne (same ▸ rfl)
        simp [change, child?, other]
  | _ => cases p <;> rfl

theorem change_index (f : Json → Json) (before : List Json) (v : Json) (after : List Json) :
    (Json.array (before ++ v :: after)).change f (.index before.length) =
      .array (before ++ f v :: after) := by
  simp [change, List.modify_eq_take_cons_drop]

theorem at?_append (s : Json) (place other : Place) :
    s.at? (place ++ other) = (s.at? place).bind fun v => v.at? other := by
  induction place generalizing s with
  | nil => rfl
  | cons p rest ih =>
    simp only [List.cons_append, at?, Option.bind_assoc]
    congr 1
    funext v
    exact ih v

theorem at?_replace_self (there : s.at? place = some w) :
    (replace v place s).at? place = some v := by
  induction place generalizing s with
  | nil => rfl
  | cons p rest ih =>
    obtain ⟨child, found, there⟩ := Option.bind_eq_some_iff.1 there
    simp [replace, at?, found, ih there]

theorem at?_replace_of_apart (notBelow : ¬ place <+: other) (notAbove : ¬ other <+: place) :
    (replace v place s).at? other = s.at? other := by
  induction place generalizing s other with
  | nil => exact absurd List.nil_prefix notBelow
  | cons p rest ih =>
    cases other with
    | nil => exact absurd List.nil_prefix notAbove
    | cons q others =>
      rw [replace, at?, at?]
      -- As long as the two places agree, the child on the way to both is the one that changes.
      by_cases same : q = p
      · subst same
        rw [List.cons_prefix_cons, not_and] at notBelow notAbove
        rw [child?_change_self]
        cases s.child? q with
        | none => rfl
        | some child => exact ih (notBelow rfl) (notAbove rfl)
      · rw [child?_change_of_ne same]

theorem Ordered.change (ordered : s.Ordered) (p : Position)
    (kept : ∀ child, child.Ordered → (f child).Ordered) : (s.change f p).Ordered := by
  cases s with
  | object fields =>
    cases p with
    | key name =>
      have keys : ∀ m : String × Json, (if m.1 = name then (m.1, f m.2) else m).1 = m.1 := by
        intro m
        split <;> rfl
      refine ⟨?_, orderedFields_iff.2 fun m member => ?_⟩
      · simp only [Fields.Ordered, List.pairwise_map, keys]
        exact ordered.1
      · obtain ⟨l, there, rfl⟩ := List.mem_map.1 member
        have before := orderedFields_iff.1 ordered.2 l there
        split
        · exact kept l.2 before
        · exact before
    | index i => exact ordered
  | array items =>
    cases p with
    | key name => exact ordered
    | index i =>
      refine orderedItems_iff.2 fun v member => ?_
      have each := orderedItems_iff.1 ordered
      obtain ⟨j, found⟩ := List.mem_iff_getElem?.1 member
      rw [List.getElem?_modify] at found
      obtain ⟨w, there, rfl⟩ := Option.map_eq_some_iff.1 found
      have before := each w (List.mem_of_getElem? there)
      split
      · exact kept w before
      · exact before
  | _ => cases p <;> exact ordered

theorem Ordered.replace (ordered : s.Ordered) (v_ordered : v.Ordered) (place : Place) :
    (replace v place s).Ordered := by
  induction place generalizing s with
  | nil => exact v_ordered
  | cons p rest ih => exact ordered.change p fun _ childOrdered => ih childOrdered

end Json

end PluginHost
