import PluginHost.Proofs.Document.Place

/-!
What a merge makes of a document. Each key leads to the merge of what it leads to on the two sides,
so data is found again where it ends, what it says nothing about stays as it was, and merging it a
second time changes nothing.
-/

set_option autoImplicit false

namespace PluginHost

namespace Fields

variable {fields incoming : Fields} {key : String} {v : Json}

theorem get?_cons (m : String × Json) (rest : Fields) (key : String) :
    get? (m :: rest) key = if m.1 = key then some m.2 else get? rest key := by
  by_cases same : m.1 = key <;> simp [get?, same]

theorem get?_isSome : (get? fields key).isSome ↔ key ∈ fields.map Prod.fst := by
  simp [get?]

theorem insert_eq_self (ordered : Ordered fields) (found : get? fields key = some v) :
    insert fields key v = fields := by
  rw [insert_eq_map ordered (Option.isSome_of_eq_some found)]
  conv => rhs; rw [← List.map_id fields]
  apply List.map_congr_left
  intro m member
  by_cases same : m.1 = key
  next =>
    have here := get?_of_mem ordered member
    rw [same, found] at here
    rw [if_pos same, Option.some.inj here, id]
  next => rw [if_neg same, id]

theorem get?_merge (existing : Fields) (ordered : Ordered incoming) (key : String) :
    get? (existing.merge incoming) key =
      (get? existing key).merge Json.merge (get? incoming key) := by
  induction incoming generalizing existing with
  | nil => simp [merge, get?]
  | cons m rest ih =>
    obtain ⟨name, v⟩ := m
    obtain ⟨first, later⟩ := List.pairwise_cons.1 ordered
    have merged : existing.merge ((name, v) :: rest) =
        (existing.insert name (((get? existing name).map fun old => old.merge v).getD v)).merge rest := by
      rw [merge]
      cases get? existing name <;> rfl
    rw [merged, ih _ later, get?_cons]
    by_cases same : name = key
    next =>
      -- The keys after this one are greater, so none of them comes back to it.
      have once : get? rest name = none := by
        apply Option.not_isSome_iff_eq_none.1
        rw [get?_isSome, List.mem_map]
        intro later_again
        obtain ⟨l, member, again⟩ := later_again
        exact String.lt_irrefl name (again ▸ first l member)
      subst same
      cases get? existing name <;> simp [once]
    next => rw [get?_insert_of_ne existing _ (Ne.symm same), if_neg same]

theorem merge_eq_self (ordered : Ordered fields)
    (each : ∀ m ∈ incoming, ∃ v, get? fields m.1 = some v ∧ v.merge m.2 = v) :
    fields.merge incoming = fields := by
  induction incoming with
  | nil => rw [merge]
  | cons m rest ih =>
    obtain ⟨v, found, same⟩ := each m List.mem_cons_self
    rw [merge, found]
    simp only [same, insert_eq_self ordered found]
    exact ih fun l member => each l (.tail m member)

end Fields

namespace Json

/-- What the keys lead to from object to object. -/
def member? (s : Json) (keys : List String) : Option Json := s.at? (keys.map .key)

variable {t d v w : Json} {keys before after : List String} {key : String}

theorem member?_cons (s : Json) (key : String) (keys : List String) :
    s.member? (key :: keys) = (s.get? key).bind fun v => v.member? keys := by
  simp [member?, at?]

theorem member?_append (s : Json) (before after : List String) :
    s.member? (before ++ after) = (s.member? before).bind fun v => v.member? after := by
  simp [member?, at?_append]

theorem merge_of_fields?_eq_none (t : Json) (leaf : d.fields? = none) : t.merge d = d := by
  cases d with
  | object fields => simp [fields?] at leaf
  | _ => cases t <;> rfl

theorem null_merge (d : Json) : null.merge d = d := by
  cases d <;> rfl

theorem exists_fields_of_get? (found : t.get? key = some v) : ∃ fields, t = object fields := by
  cases t with
  | object fields => exact ⟨fields, rfl⟩
  | _ => simp [get?] at found

theorem exists_merge_object (t : Json) (incoming : Fields) :
    ∃ fields, t.merge (object incoming) = object fields := by
  cases t with
  | object existing => exact ⟨Fields.merge existing incoming, by rw [merge]⟩
  | _ => exact ⟨incoming, rfl⟩

theorem get?_merge_object (t : Json) {incoming : Fields} (ordered : (object incoming).Ordered)
    (key : String) : (t.merge (object incoming)).get? key =
      (t.get? key).merge merge (Fields.get? incoming key) := by
  cases t with
  | object existing =>
    rw [merge]
    exact Fields.get?_merge existing ordered.1 key
  | null | bool _ | number _ | string _ | array _ =>
    change Fields.get? incoming key = Option.none.merge merge (Fields.get? incoming key)
    rw [Option.merge_none_left]

theorem get?_merge (t : Json) (ordered : d.Ordered) (found : d.get? key = some w) :
    (t.merge d).get? key = (t.get? key).merge merge (some w) := by
  obtain ⟨incoming, rfl⟩ := exists_fields_of_get? found
  rw [get?_merge_object t ordered, ← found]
  rfl

theorem member?_merge_of_both (ordered : d.Ordered) (old : t.member? keys = some v)
    (new : d.member? keys = some w) : (t.merge d).member? keys = some (v.merge w) := by
  induction keys generalizing t d with
  | nil =>
    cases old
    cases new
    rfl
  | cons key keys ih =>
    rw [member?_cons] at old new
    obtain ⟨x, there, old⟩ := Option.bind_eq_some_iff.1 old
    obtain ⟨y, found, new⟩ := Option.bind_eq_some_iff.1 new
    rw [member?_cons, get?_merge t ordered found, there]
    exact ih (ordered.get? found) old new

theorem member?_merge_of_leaf (ordered : d.Ordered) (new : d.member? keys = some v)
    (leaf : v.fields? = none) : (t.merge d).member? keys = some v := by
  induction keys generalizing t d with
  | nil =>
    cases new
    exact congrArg some (merge_of_fields?_eq_none t leaf)
  | cons key keys ih =>
    rw [member?_cons] at new
    obtain ⟨y, found, new⟩ := Option.bind_eq_some_iff.1 new
    rw [member?_cons, get?_merge t ordered found]
    cases t.get? key with
    | none => exact new
    | some x => exact ih (ordered.get? found) new

theorem Ordered.member? (ordered : d.Ordered) (found : d.member? keys = some v) : v.Ordered := by
  induction keys generalizing d with
  | nil =>
    cases found
    exact ordered
  | cons key keys ih =>
    rw [member?_cons] at found
    obtain ⟨w, there, found⟩ := Option.bind_eq_some_iff.1 found
    exact ih (ordered.get? there) found

theorem member?_merge_of_absent {incoming : Fields} (ordered : d.Ordered)
    (left : d.member? before = some (object incoming)) (absent : Fields.get? incoming key = none)
    (old : t.member? (before ++ key :: after) = some v) :
    (t.merge d).member? (before ++ key :: after) = some v := by
  rw [member?_append] at old
  obtain ⟨x, there, old⟩ := Option.bind_eq_some_iff.1 old
  rw [member?_append, member?_merge_of_both ordered there left, Option.bind_some, member?_cons,
    get?_merge_object x (ordered.member? left), absent, Option.merge_none_right, ← member?_cons]
  exact old

mutual
-- Along the data. A member that was not there before is merged into itself the second time, which
-- is the second of two merges into `null`.
theorem merge_again : (d : Json) → d.Ordered → ∀ t : Json, t.Ordered →
    (t.merge d).merge d = t.merge d
  | .null, _, t, _ | .bool _, _, t, _ | .number _, _, t, _ | .string _, _, t, _
  | .array _, _, t, _ => by
    rw [merge_of_fields?_eq_none t rfl, merge_of_fields?_eq_none _ rfl]
  | .object incoming, ordered, t, before => by
    obtain ⟨merged, first⟩ := exists_merge_object t incoming
    have after : (object merged).Ordered := first ▸ merge_ordered t _ before ordered
    rw [first, merge]
    congr 1
    refine Fields.merge_eq_self after.1 fun m member => ?_
    have again := merge_again_members incoming ordered.2 m member
    have found := get?_merge_object t ordered m.1
    rw [first, Fields.get?_of_mem ordered.1 member] at found
    cases old : t.get? m.1 with
    | none =>
      rw [old, Option.merge_none_left] at found
      have itself := again null trivial
      rw [null_merge] at itself
      exact ⟨m.2, found, itself⟩
    | some v =>
      rw [old] at found
      exact ⟨v.merge m.2, found, again v (before.get? old)⟩

theorem merge_again_members : (incoming : List (String × Json)) → OrderedFields incoming →
    ∀ m ∈ incoming, ∀ t : Json, t.Ordered → (t.merge m.2).merge m.2 = t.merge m.2
  | [], _ => by simp
  | (_, v) :: rest, ordered => by
    rw [List.forall_mem_cons]
    exact ⟨merge_again v ordered.1, merge_again_members rest ordered.2⟩
end

/-- What the data has at the end of its keys is found in the merge, what was there stays where the
data's object has no such key, an object on both sides has the keys of both, and to merge the data
again changes nothing. -/
theorem merge_by_keys (t_ordered : t.Ordered) (d_ordered : d.Ordered) :
    (∀ keys v, d.member? keys = some v → v.fields? = none →
      (t.merge d).member? keys = some v) ∧
    (∀ before key after incoming v, d.member? before = some (object incoming) →
      Fields.get? incoming key = none → t.member? (before ++ key :: after) = some v →
      (t.merge d).member? (before ++ key :: after) = some v) ∧
    (∀ keys existing incoming, t.member? keys = some (object existing) →
      d.member? keys = some (object incoming) →
      ∃ merged, (t.merge d).member? keys = some (object merged) ∧
        ∀ key, key ∈ merged.map Prod.fst ↔
          key ∈ existing.map Prod.fst ∨ key ∈ incoming.map Prod.fst) ∧
    (t.merge d).merge d = t.merge d := by
  refine ⟨?_, ?_, ?_, merge_again d d_ordered t t_ordered⟩
  next => exact fun keys v => member?_merge_of_leaf d_ordered
  next => exact fun before key after incoming v => member?_merge_of_absent d_ordered
  next =>
    intro keys existing incoming old new
    refine ⟨Fields.merge existing incoming, ?_, fun key => ?_⟩
    next =>
      rw [member?_merge_of_both d_ordered old new, merge]
    next =>
      rw [← Fields.get?_isSome, ← Fields.get?_isSome, ← Fields.get?_isSome,
        Fields.get?_merge existing (d_ordered.member? new).1]
      cases Fields.get? existing key <;> cases Fields.get? incoming key <;> simp

end Json

namespace Layout

def saved : Json :=
  .record [("page", .record [("margin", .int 1), ("size", .string "a4")]), ("title", .string "Notes")]

def chosen : Json :=
  .record [("page", .record [("margin", .record [("left", .int 2)])]), ("title", .strings ["Essays"])]

theorem saved_ordered : saved.Ordered := by
  have canonical : saved.canonical = saved := by decide +kernel
  rw [← canonical]
  exact Json.canonical_ordered _

theorem chosen_ordered : chosen.Ordered := by
  have canonical : chosen.canonical = chosen := by decide +kernel
  rw [← canonical]
  exact Json.canonical_ordered _

end Layout

-- A number gives way to an object and a text to a list, beside a member that stays.
open Layout in
theorem Json.merge_by_keys_layout : saved.Ordered ∧ chosen.Ordered ∧
    (saved.merge chosen).member? ["page", "margin", "left"] = some (.int 2) ∧
    (saved.merge chosen).member? ["page", "size"] = some (.string "a4") ∧
    (∃ merged, (saved.merge chosen).member? ["page"] = some (.object merged) ∧
      ∀ key, key ∈ merged.map Prod.fst ↔ key ∈ ["margin", "size"] ∨ key ∈ ["margin"]) ∧
    (saved.merge chosen).merge chosen = saved.merge chosen := by
  obtain ⟨found, stays, keys, again⟩ := Json.merge_by_keys saved_ordered chosen_ordered
  exact ⟨saved_ordered, chosen_ordered, found _ _ rfl rfl,
    stays ["page"] "size" [] _ _ rfl rfl rfl, keys ["page"] _ _ rfl rfl, again⟩

end PluginHost
