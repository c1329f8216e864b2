import PluginHost.Document.Patch

/-!
Objects whose keys increase. Inserting and merging keep them so, and a value is canonical just if
all its objects are.
-/

set_option autoImplicit false

namespace PluginHost

namespace Fields

variable {fields : Fields} {key : String} {v : Json}

theorem mem_insert {m : String × Json} (member : m ∈ insert fields key v) :
    m = (key, v) ∨ m ∈ fields := by
  induction fields with
  | nil => simpa [insert] using member
  | cons f rest ih =>
    unfold insert at member
    split at member
    · exact (List.mem_cons.1 member).imp_right (.tail f)
    · split at member
      · simpa using member
      · rcases List.mem_cons.1 member with rfl | member
        · exact .inr List.mem_cons_self
        · exact (ih member).imp_right (.tail f)

theorem Ordered.insert (ordered : Ordered fields) (key : String) (v : Json) :
    Ordered (insert fields key v) := by
  induction fields with
  | nil => simp [Fields.insert, Ordered]
  | cons f rest ih =>
    obtain ⟨first, later⟩ := List.pairwise_cons.1 ordered
    unfold Fields.insert
    split
    · next same =>
      subst same
      exact List.pairwise_cons.2 ⟨first, later⟩
    · next other =>
      split
      · next less =>
        refine List.pairwise_cons.2 ⟨fun m member => ?_, ordered⟩
        rcases List.mem_cons.1 member with rfl | member
        · exact less
        · exact String.lt_trans less (first m member)
      · next notLess =>
        have less : f.1 < key := Std.lt_of_le_of_ne (String.not_lt.1 notLess) other
        refine List.pairwise_cons.2 ⟨fun m member => ?_, ih later⟩
        rcases mem_insert member with rfl | member
        · exact less
        · exact first m member

theorem insert_eq_map (ordered : Ordered fields) (found : (get? fields key).isSome) :
    insert fields key v = fields.map fun m => if m.1 = key then (m.1, v) else m := by
  induction fields with
  | nil => simp [get?] at found
  | cons f rest ih =>
    obtain ⟨first, later⟩ := List.pairwise_cons.1 ordered
    unfold insert
    by_cases same : f.1 = key
    · have others : ∀ m ∈ rest, m.1 ≠ key := fun m member equal =>
        String.lt_irrefl key (by simpa [same, equal] using first m member)
      simp only [same, if_true, List.map_cons, List.cons.injEq, true_and]
      conv => lhs; rw [← List.map_id rest]
      exact List.map_congr_left fun m member => by simp [others m member]
    · have present : (get? rest key).isSome := by simpa [get?, same] using found
      -- Were the key less than the first, it would be less than all and not be there.
      have notLess : ¬ key < f.1 := by
        intro less
        obtain ⟨m, member, equal⟩ : ∃ m ∈ rest, m.1 = key := by
          simpa [get?] using present
        exact String.lt_asymm less (equal ▸ first m member)
      simp [same, notLess, ih later present]

theorem get?_of_mem (ordered : Ordered fields) (member : (key, v) ∈ fields) :
    get? fields key = some v := by
  induction fields with
  | nil => nomatch member
  | cons f rest ih =>
    obtain ⟨first, later⟩ := List.pairwise_cons.1 ordered
    rcases List.mem_cons.1 member with rfl | member
    · simp [get?]
    · have less : f.1 < key := first (key, v) member
      have other : f.1 ≠ key := fun same => String.lt_irrefl key (same ▸ less)
      simpa [get?, other] using ih later member

theorem insert_eq_append (below : ∀ m ∈ fields, m.1 < key) :
    insert fields key v = fields ++ [(key, v)] := by
  induction fields with
  | nil => rfl
  | cons f rest ih =>
    have less := below f List.mem_cons_self
    have other : f.1 ≠ key := fun same => String.lt_irrefl key (same ▸ less)
    simp [insert, other, String.lt_asymm less, ih fun m member => below m (.tail f member)]

theorem foldl_insert_ordered (members : List (String × Json)) (ordered : Ordered fields) :
    Ordered (members.foldl (fun fields m => fields.insert m.1 m.2) fields) := by
  induction members generalizing fields with
  | nil => exact ordered
  | cons m rest ih => exact ih (ordered.insert m.1 m.2)

theorem ofList_ordered (members : List (String × Json)) : Ordered (ofList members) :=
  foldl_insert_ordered members List.Pairwise.nil

theorem foldl_insert_eq_append {members : List (String × Json)}
    (ordered : Ordered (fields ++ members)) :
    members.foldl (fun fields m => fields.insert m.1 m.2) fields = fields ++ members := by
  induction members generalizing fields with
  | nil => simp
  | cons m rest ih =>
    have below : ∀ l ∈ fields, l.1 < m.1 := fun l member =>
      (List.pairwise_append.1 ordered).2.2 l member m List.mem_cons_self
    have regrouped : Ordered ((fields ++ [(m.1, m.2)]) ++ rest) := by simpa using ordered
    rw [List.foldl_cons, insert_eq_append below, ih regrouped]
    simp

theorem ofList_eq_self {members : List (String × Json)} (ordered : Ordered members) :
    ofList members = members :=
  foldl_insert_eq_append ordered

theorem mem_foldl_insert {members : List (String × Json)} {m : String × Json}
    (member : m ∈ members.foldl (fun fields m => fields.insert m.1 m.2) fields) :
    m ∈ fields ∨ m ∈ members := by
  induction members generalizing fields with
  | nil => exact .inl member
  | cons l rest ih =>
    rcases ih member with early | late
    · rcases mem_insert early with rfl | early
      · exact .inr List.mem_cons_self
      · exact .inl early
    · exact .inr (.tail l late)

theorem mem_ofList {members : List (String × Json)} {m : String × Json}
    (member : m ∈ ofList members) : m ∈ members := by
  simpa using mem_foldl_insert member

theorem mem_of_get? (found : get? fields key = some v) : (key, v) ∈ fields := by
  obtain ⟨m, first, rfl⟩ := Option.map_eq_some_iff.1 found
  have same : m.1 = key := by simpa using List.find?_some first
  exact same ▸ List.mem_of_find?_eq_some first

end Fields

namespace Json

theorem orderedItems_iff {items : List Json} : OrderedItems items ↔ ∀ v ∈ items, v.Ordered := by
  induction items with
  | nil => simp [OrderedItems]
  | cons v rest ih => simp [OrderedItems, ih]

theorem ordered_array_iff {items : List Json} : (array items).Ordered ↔ ∀ v ∈ items, v.Ordered := by
  rw [Ordered, orderedItems_iff]

theorem orderedFields_iff {fields : List (String × Json)} :
    OrderedFields fields ↔ ∀ m ∈ fields, m.2.Ordered := by
  induction fields with
  | nil => simp [OrderedFields]
  | cons m rest ih =>
    obtain ⟨k, v⟩ := m
    simp [OrderedFields, ih]

theorem Ordered.get? {s v : Json} {name : String} (ordered : s.Ordered)
    (found : s.get? name = some v) : v.Ordered := by
  cases s with
  | object fields => exact orderedFields_iff.1 ordered.2 _ (Fields.mem_of_get? found)
  | _ => nomatch found

theorem OrderedFields.insert {fields : Fields} {v : Json} (each : OrderedFields fields)
    (ordered : v.Ordered) (key : String) : OrderedFields (fields.insert key v) := by
  refine orderedFields_iff.2 fun m member => ?_
  rcases Fields.mem_insert member with rfl | member
  · exact ordered
  · exact orderedFields_iff.1 each m member

mutual
-- Along the data: the members of an object go in one by one, into fields that change on the way.
theorem merge_ordered (v : Json) : (data : Json) → v.Ordered → data.Ordered →
    (v.merge data).Ordered
  | .null, _, _ | .bool _, _, _ | .number _, _, _ | .string _, _, _ => by cases v <;> trivial
  | .array items, _, ordered => by cases v <;> exact ordered
  | .object incoming, before, ordered => by
    cases v with
    | object existing =>
      rw [merge]
      exact merge_fields_ordered existing incoming before.1 before.2 ordered.2
    | _ => exact ordered

theorem merge_fields_ordered (existing : Fields) : (incoming : List (String × Json)) →
    Fields.Ordered existing → OrderedFields existing → OrderedFields incoming →
    Fields.Ordered (existing.merge incoming) ∧ OrderedFields (existing.merge incoming)
  | [], keys, each, _ => by
    rw [Fields.merge]
    exact ⟨keys, each⟩
  | (key, v) :: rest, keys, each, ordered => by
    rw [Fields.merge]
    split
    · next old found =>
      have merged := merge_ordered old v (orderedFields_iff.1 each _ (Fields.mem_of_get? found))
        ordered.1
      exact merge_fields_ordered _ rest (keys.insert key _) (each.insert merged key) ordered.2
    · exact merge_fields_ordered _ rest (keys.insert key _) (each.insert ordered.1 key) ordered.2
end

mutual
theorem canonical_ordered : (v : Json) → v.canonical.Ordered
  | .null | .bool _ | .number _ | .string _ => trivial
  | .array items => orderedItems_iff.2 (canonicalItems_ordered items)
  | .object fields =>
    ⟨Fields.ofList_ordered _, orderedFields_iff.2 fun m member =>
      canonicalFields_ordered fields m (Fields.mem_ofList member)⟩

theorem canonicalItems_ordered : (items : List Json) → ∀ v ∈ canonicalItems items, v.Ordered
  | [] => by simp [canonicalItems]
  | v :: rest => by
    simp only [canonicalItems, List.forall_mem_cons]
    exact ⟨canonical_ordered v, canonicalItems_ordered rest⟩

theorem canonicalFields_ordered : (fields : List (String × Json)) →
    ∀ m ∈ canonicalFields fields, m.2.Ordered
  | [] => by simp [canonicalFields]
  | (_, v) :: rest => by
    simp only [canonicalFields, List.forall_mem_cons]
    exact ⟨canonical_ordered v, canonicalFields_ordered rest⟩
end

mutual
theorem canonical_eq_self : (v : Json) → v.Ordered → v.canonical = v
  | .null, _ | .bool _, _ | .number _, _ | .string _, _ => rfl
  | .array items, ordered => by rw [canonical, canonicalItems_eq_self items ordered]
  | .object fields, ordered => by
    rw [canonical, canonicalFields_eq_self fields ordered.2, Fields.ofList_eq_self ordered.1]

theorem canonicalItems_eq_self : (items : List Json) → OrderedItems items →
    canonicalItems items = items
  | [], _ => rfl
  | v :: rest, ordered => by
    rw [canonicalItems, canonical_eq_self v ordered.1, canonicalItems_eq_self rest ordered.2]

theorem canonicalFields_eq_self : (fields : List (String × Json)) → OrderedFields fields →
    canonicalFields fields = fields
  | [], _ => rfl
  | (k, v) :: rest, ordered => by
    rw [canonicalFields, canonical_eq_self v ordered.1, canonicalFields_eq_self rest ordered.2]
end

end Json

end PluginHost
