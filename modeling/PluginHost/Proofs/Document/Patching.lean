import PluginHost.Proofs.Document.Merging
import PluginHost.Plugin.Internal

/-!
What a patch does to a document. A path leads to one place; a patch replaces what stands there by
its merge with the data, and leaves all else as it was.
-/

set_option autoImplicit false

namespace PluginHost

namespace Segment

variable {f : Change} {p : Json → Bool}

theorem updateFirst_of_found {before after : List Json} {v : Json}
    (skipped : ∀ b ∈ before, p b = false) (chosen : p v = true) :
    updateFirst p f (before ++ v :: after) = (some (f v).1, before ++ (f v).2 :: after) := by
  induction before with
  | nil => simp only [List.nil_append, updateFirst, chosen, if_true]
  | cons b rest ih =>
    have later := ih fun c member => skipped c (.tail b member)
    simp only [List.cons_append, updateFirst, skipped b List.mem_cons_self, Bool.false_eq_true,
      if_false, later]

theorem updateFirst_of_none {items : List Json} (none : ∀ v ∈ items, p v = false) :
    updateFirst p f items = (.none, items) := by
  induction items with
  | nil => rfl
  | cons v rest ih =>
    simp only [updateFirst, none v List.mem_cons_self, Bool.false_eq_true, if_false,
      ih fun w member => none w (.tail v member)]

theorem findIdx_of_found {before : List Json} {v : Json} (after : List Json)
    (skipped : ∀ b ∈ before, p b = false) (chosen : p v = true) :
    (before ++ v :: after).findIdx p = before.length := by
  have past : ¬ before.findIdx p < before.length := by
    simpa [List.findIdx_lt_length] using skipped
  rw [List.findIdx_append, if_neg past]
  simp [List.findIdx_cons, chosen]

theorem withMember_eq_change {s old : Json} {name : String} (ordered : s.Ordered)
    (found : s.get? name = some old) (g : Json → Json) :
    withMember s name (g old) = s.change g (.key name) := by
  cases s with
  | object fields =>
    have here : Fields.get? fields name = some old := found
    rw [withMember, Json.change, Fields.insert_eq_map ordered.1 (by simp [here])]
    congr 1
    refine List.map_congr_left fun m member => ?_
    split
    · next same =>
      have this := Fields.get?_of_mem ordered.1 member
      rw [same, here] at this
      rw [Option.some.inj this]
    · rfl
  | null | bool _ | number _ | string _ | array _ => simp [Json.get?] at found

theorem withMember_eq_self {s old : Json} {name : String} (ordered : s.Ordered)
    (found : s.get? name = some old) : withMember s name old = s := by
  cases s with
  | object fields => exact congrArg Json.object (Fields.insert_eq_self ordered.1 found)
  | null | bool _ | number _ | string _ | array _ => rfl

end Segment

namespace Path

/-- The place a path leads to in a document, and what stands there. -/
inductive Leads : Path → Json → Place → Json → Prop where
  | here (s : Json) : Leads [] s [] s
  | field {name : String} {rest : Path} {s v w : Json} {place : Place}
      (found : s.get? name = some v) (later : Leads rest v place w) :
      Leads (.field name :: rest) s (.key name :: place) w
  | select {list key value : String} {rest : Path} {s v w : Json} {before after : List Json}
      {place : Place} (found : s.get? list = some (.array (before ++ v :: after)))
      (skipped : ∀ b ∈ before, Segment.selects key value b = false)
      (chosen : Segment.selects key value v = true) (later : Leads rest v place w) :
      Leads (.select list key value :: rest) s (.key list :: .index before.length :: place) w

/-- Whether the elements that the path selects in `s` satisfy their predicates in `t` too. -/
def Keeps (path : Path) (s t : Json) : Prop :=
  ∀ before list key value after place v w, path = before ++ .select list key value :: after →
    Leads (before ++ [.select list key value]) s place v → t.at? place = some w →
    Segment.selects key value w = true

variable {path : Path} {s t v w : Json} {place : Place} {f : Change}

theorem Leads.at? (leads : Leads path s place w) : s.at? place = some w := by
  induction leads with
  | here s => rfl
  | field found later ih => simpa [Json.at?, found] using ih
  | select found skipped chosen later ih => simpa [Json.at?, found] using ih

theorem Leads.unique {other : Place} (leads : Leads path s place w) (again : Leads path s other v) :
    other = place ∧ v = w := by
  induction leads generalizing other v with
  | here s =>
    cases again
    exact ⟨rfl, rfl⟩
  | field found later ih =>
    cases again with
    | field found' later' =>
      obtain rfl := Option.some.inj (found.symm.trans found')
      obtain ⟨rfl, rfl⟩ := ih later'
      exact ⟨rfl, rfl⟩
  | @select _ _ _ _ _ _ _ _ after _ found skipped chosen later ih =>
    cases again with
    | @select _ _ _ _ _ _ _ _ after' _ found' skipped' chosen' later' =>
      have items := Json.array.inj (Option.some.inj (found.symm.trans found'))
      -- Either list before is as long as the first element that satisfies the predicate is far.
      have length := Segment.findIdx_of_found after skipped chosen
      rw [items, Segment.findIdx_of_found after' skipped' chosen'] at length
      obtain ⟨rfl, rest⟩ := List.append_inj items length.symm
      obtain ⟨rfl, rfl⟩ := List.cons.inj rest
      obtain ⟨rfl, rfl⟩ := ih later'
      exact ⟨rfl, rfl⟩

theorem Leads.ordered (leads : Leads path s place w) (ordered : s.Ordered) : w.Ordered := by
  induction leads with
  | here s => exact ordered
  | field found later ih => exact ih (ordered.get? found)
  | select found skipped chosen later ih =>
    exact ih (Json.orderedItems_iff.1 (ordered.get? found) _ (by simp))

theorem Leads.follow (leads : Leads path s place w) : path.follow s = some w := by
  induction leads with
  | here s => rfl
  | field found later ih => simpa [Path.follow, Segment.step, found] using ih
  | @select list key value rest s v w before after place found skipped chosen later ih =>
    have first : (before ++ v :: after).find? (Segment.selects key value) = some v := by
      refine List.find?_eq_some_iff_append.2 ⟨chosen, before, after, rfl, fun b member => ?_⟩
      simp [skipped b member]
    simpa [Path.follow, Segment.step, found, Json.items?, first] using ih

theorem exists_leads (follows : path.follow s = some w) : ∃ place, Leads path s place w := by
  induction path generalizing s with
  | nil =>
    obtain rfl : s = w := by simpa [Path.follow] using follows
    exact ⟨[], .here s⟩
  | cons segment rest ih =>
    obtain ⟨v, stepped, follows⟩ := Option.bind_eq_some_iff.1 follows
    obtain ⟨place, later⟩ := ih follows
    cases segment with
    | field name => exact ⟨_, .field stepped later⟩
    | select list key value =>
      obtain ⟨member, found, first⟩ := Option.bind_eq_some_iff.1 stepped
      obtain ⟨items, listed, first⟩ := Option.bind_eq_some_iff.1 first
      obtain ⟨chosen, before, after, rfl, skipped⟩ := List.find?_eq_some_iff_append.1 first
      cases member with
      | array members =>
        obtain rfl : members = _ := by simpa [Json.items?] using listed
        exact ⟨_, .select found (fun b there => by simpa using skipped b there) chosen later⟩
      | _ => nomatch listed

theorem update_of_leads (ordered : s.Ordered) (leads : Leads path s place w) :
    path.update f s = ((f w).1, Json.replace (f w).2 place s) := by
  induction leads with
  | here s => rfl
  | @field name rest s v w place found later ih =>
    have inner := ih (ordered.get? found)
    simp only [update, Segment.update, found, inner]
    exact congrArg (Prod.mk _) (Segment.withMember_eq_change ordered found _)
  | @select list key value rest s v w before after place found skipped chosen later ih =>
    have list_ordered := ordered.get? found
    have inner := ih (Json.orderedItems_iff.1 list_ordered v (by simp))
    have changed := @Segment.updateFirst_of_found (update f rest) _ before after v skipped chosen
    simp only [update, Segment.update, found, Option.bind_some, Json.items?, changed, inner]
    have member := Segment.withMember_eq_change ordered found
      (Json.replace (f w).2 (.index before.length :: place))
    rw [Json.replace, Json.change_index] at member
    exact congrArg (Prod.mk _) member

-- What was on the way is put back as it was.
theorem update_of_follow_eq_none (ordered : s.Ordered) (follows : path.follow s = none) :
    ∃ e, path.update f s = (.error e, s) := by
  induction path generalizing s with
  | nil => nomatch follows
  | cons segment rest ih =>
    cases segment with
    | field name =>
      cases found : s.get? name with
      | none => exact ⟨_, by simp only [update, Segment.update, found]; rfl⟩
      | some v =>
        obtain ⟨e, fails⟩ :=
          ih (ordered.get? found) (by simpa [follow, Segment.step, found] using follows)
        refine ⟨e, ?_⟩
        simp only [update, Segment.update, found, fails, Segment.withMember_eq_self ordered found]
    | select list key value =>
      cases found : (s.get? list).bind Json.items? with
      | none => exact ⟨_, by simp only [update, Segment.update, found]; rfl⟩
      | some items =>
        obtain ⟨member, there, listed⟩ := Option.bind_eq_some_iff.1 found
        obtain rfl : member = .array items := by
          cases member <;> simp_all [Json.items?]
        have stepped : follow s (.select list key value :: rest) =
            (items.find? (Segment.selects key value)).bind fun v => follow v rest := by
          simp [follow, Segment.step, there, listed]
        rw [stepped] at follows
        cases first : items.find? (Segment.selects key value) with
        | none =>
          have skipped : ∀ v ∈ items, Segment.selects key value v = false := by
            simpa using List.find?_eq_none.1 first
          have unchanged := @Segment.updateFirst_of_none (update f rest) _ items skipped
          exact ⟨_, by simp only [update, Segment.update, found, unchanged]; rfl⟩
        | some v =>
          have element :=
            Json.orderedItems_iff.1 (ordered.get? there) v (List.mem_of_find?_eq_some first)
          obtain ⟨e, fails⟩ := ih element (by simpa [first] using follows)
          obtain ⟨chosen, before, after, rfl, skipped⟩ := List.find?_eq_some_iff_append.1 first
          have changed := @Segment.updateFirst_of_found (update f rest) _ before after v
            (fun b there => by simpa using skipped b there) chosen
          refine ⟨e, ?_⟩
          simp only [update, Segment.update, found, changed, fails,
            Segment.withMember_eq_self ordered there]

theorem Keeps.tail {segment : Segment} {rest : Path} (keeps : Keeps (segment :: rest) s t)
    (here : Place) (leads : ∀ {path : Path} {place : Place} {w : Json}, Leads path v place w →
      Leads (segment :: path) s (here ++ place) w)
    {u : Json} (there : t.at? here = some u) : Keeps rest v u := by
  rintro before list key value after place w x rfl inner found
  refine keeps (segment :: before) list key value after (here ++ place) w x rfl (leads inner) ?_
  rw [Json.at?_append, there]
  exact found

theorem Leads.replace (leads : Leads path s place w) {u : Json}
    (keeps : Keeps path s (Json.replace u place s)) : Leads path (Json.replace u place s) place u := by
  induction leads with
  | here s => exact .here u
  | @field name rest s v w place found later ih =>
    have member : (Json.replace u (.key name :: place) s).get? name =
        some (Json.replace u place v) := by
      simp [Json.replace, found]
    have kept : Keeps rest v (Json.replace u place v) :=
      keeps.tail [.key name] (fun inner => .field found inner) (by simp [Json.at?, member])
    exact .field member (ih kept)
  | @select list key value rest s v w before after place found skipped chosen later ih =>
    have member : (Json.replace u (.key list :: .index before.length :: place) s).get? list =
        some (.array (before ++ Json.replace u place v :: after)) := by
      simp [Json.replace, found, Json.change_index]
    have there : (Json.replace u (.key list :: .index before.length :: place) s).at?
        [.key list, .index before.length] = some (Json.replace u place v) := by
      simp [Json.at?, member]
    have kept : Keeps rest v (Json.replace u place v) :=
      keeps.tail [.key list, .index before.length]
        (fun inner => .select found skipped chosen inner) there
    -- The elements before it are the same, so the first that satisfies the predicate is still this one.
    have still : Segment.selects key value (Json.replace u place v) = true :=
      keeps [] list key value rest _ v _ rfl (.select found skipped chosen (.here v)) there
    exact .select member skipped still (ih kept)

end Path

variable {s t w : Json} {p : Patch}

theorem fetch_eq_some_iff {query : String} : fetch s query = .ok (some w) ↔
    ∃ path place, Path.parse query = .ok path ∧ path.Leads s place w := by
  rw [fetch]
  cases parsed : Path.parse query with
  | error e => simp [Except.map]
  | ok path =>
    simp only [Except.map, Except.ok.injEq, exists_and_left, exists_eq_left']
    exact ⟨Path.exists_leads, fun ⟨_, leads⟩ => leads.follow⟩

namespace Patch

theorem apply_eq_ok : p.apply s = .ok t ↔ p.write s = (.ok (), t) := by
  unfold apply
  rcases p.write s with ⟨_ | _, _⟩ <;> simp [Except.map]

theorem apply_of_leads {path : Path} {place : Place} (ordered : s.Ordered)
    (parsed : Path.parse p.query = .ok path) (leads : path.Leads s place w) :
    p.apply s = .ok (Json.replace (w.merge p.data) place s) := by
  rw [apply_eq_ok, write, parsed]
  exact Path.update_of_leads ordered leads

/-- Either the query leads to a place or the document stays as it is. -/
theorem leads_or_refused (p : Patch) (ordered : s.Ordered) :
    (∃ path place w, Path.parse p.query = .ok path ∧ path.Leads s place w) ∨
      ∃ e, p.write s = (.error e, s) := by
  cases parsed : Path.parse p.query with
  | error e => exact .inr ⟨e, by rw [write, parsed]⟩
  | ok path =>
    cases follows : path.follow s with
    | some w =>
      obtain ⟨place, leads⟩ := Path.exists_leads follows
      exact .inl ⟨path, place, w, rfl, leads⟩
    | none =>
      refine .inr ?_
      rw [write, parsed]
      exact Path.update_of_follow_eq_none ordered follows

theorem exists_leads_of_apply (ordered : s.Ordered) (applied : p.apply s = .ok t) :
    ∃ path place w, Path.parse p.query = .ok path ∧ path.Leads s place w := by
  rcases p.leads_or_refused ordered with leads | ⟨e, refused⟩
  next => exact leads
  next => cases (apply_eq_ok.1 applied).symm.trans refused

theorem apply_eq_error (ordered : s.Ordered) {e : PluginError} :
    p.apply s = .error e ↔ p.write s = (.error e, s) := by
  rcases p.leads_or_refused ordered with ⟨path, place, w, parsed, leads⟩ | ⟨e', refused⟩
  next =>
    have applied := apply_of_leads ordered parsed leads
    simp [applied, apply_eq_ok.1 applied]
  next => simp [apply, refused, Except.map]

theorem updateData_of_error {S : Schema} {plugin : PluginState S} {e : PluginError}
    (fails : (Builtin.updateData p plugin).1 = .error e) :
    (Builtin.updateData p plugin).2 = plugin := by
  unfold Builtin.updateData at fails ⊢
  split
  · next updated => simp [updated] at fails
  · rfl

/-- A patch applies just where something is found, and else leaves the document as it is. It
replaces that one value by its merge with the data, and is found again by the same query if the
elements on the way still satisfy it. -/
theorem apply_replaces (p : Patch) (ordered : s.Ordered) :
    ((∃ t, p.apply s = .ok t) ↔ ∃ w, fetch s p.query = .ok (some w)) ∧
    (∀ t, p.apply s = .ok t ↔ p.write s = (.ok (), t)) ∧
    (∀ e, p.apply s = .error e ↔ p.write s = (.error e, s)) ∧
    (∀ {S : Schema} (plugin : PluginState S) e, (Builtin.updateData p plugin).1 = .error e →
      (Builtin.updateData p plugin).2 = plugin) ∧
    ∀ t, p.apply s = .ok t → ∃ path place w,
      Path.parse p.query = .ok path ∧ path.Leads s place w ∧
      (∀ other v, path.Leads s other v → other = place ∧ v = w) ∧
      fetch s p.query = .ok (some w) ∧ s.at? place = some w ∧
      t = Json.replace (w.merge p.data) place s ∧ t.at? place = some (w.merge p.data) ∧
      (∀ other, ¬ place <+: other → ¬ other <+: place → t.at? other = s.at? other) ∧
      (p.data.Ordered → t.Ordered) ∧
      (path.Keeps s t → fetch t p.query = .ok (some (w.merge p.data))) := by
  refine ⟨⟨?_, ?_⟩, fun t => apply_eq_ok, fun e => apply_eq_error ordered,
    fun plugin e => updateData_of_error, ?_⟩
  · rintro ⟨t, applied⟩
    obtain ⟨path, place, w, parsed, leads⟩ := exists_leads_of_apply ordered applied
    exact ⟨w, fetch_eq_some_iff.2 ⟨path, place, parsed, leads⟩⟩
  · rintro ⟨w, fetched⟩
    obtain ⟨path, place, parsed, leads⟩ := fetch_eq_some_iff.1 fetched
    exact ⟨_, apply_of_leads ordered parsed leads⟩
  · intro t applied
    obtain ⟨path, place, w, parsed, leads⟩ := exists_leads_of_apply ordered applied
    obtain rfl : Json.replace (w.merge p.data) place s = t := by
      simpa [apply_of_leads ordered parsed leads] using applied
    have fetched := fetch_eq_some_iff.2 ⟨path, place, parsed, leads⟩
    refine ⟨path, place, w, parsed, leads, fun _ _ => leads.unique, fetched, leads.at?, rfl,
      Json.at?_replace_self leads.at?, ?_, ?_, ?_⟩
    · exact fun other notBelow notAbove => Json.at?_replace_of_apart notBelow notAbove
    · exact fun dataOrdered =>
        ordered.replace (Json.merge_ordered _ _ (leads.ordered ordered) dataOrdered) place
    · exact fun keeps => fetch_eq_some_iff.2 ⟨path, place, parsed, leads.replace keeps⟩

end Patch

namespace Stock

def item (name : String) (n : Int) : Json := .record [("name", .string name), ("n", .int n)]

def holding (n : Int) : Json :=
  .record [("items", .array [item "first" 1, item "second" n, item "second" 3])]

def patch : Patch := ⟨"items(name = second)", .record [("n", .int 5)]⟩

def path : Path := [.select "items" "name" "second"]

def place : Place := [.key "items", .index 1]

theorem ordered : (holding 2).Ordered := by
  have canonical : (holding 2).canonical = holding 2 := by decide +kernel
  rw [← canonical]
  exact Json.canonical_ordered _

theorem parsed : Path.parse patch.query = .ok path := by
  rfl

theorem leads : path.Leads (holding 2) place (item "second" 2) := by
  have found : (holding 2).get? "items" =
      some (.array ([item "first" 1] ++ item "second" 2 :: [item "second" 3])) := by rfl
  exact .select found (by decide +kernel) (by decide +kernel) (.here _)

theorem replaced : Json.replace ((item "second" 2).merge patch.data) place (holding 2) =
    holding 5 := by
  decide +kernel

theorem keeps : path.Keeps (holding 2) (holding 5) := by
  rintro before list key value rest other v w split inner there
  rcases before with _ | ⟨segment, before⟩
  · obtain ⟨⟨rfl, rfl, rfl⟩, -⟩ : (list = "items" ∧ key = "name" ∧ value = "second") ∧ rest = [] := by
      simpa [path, eq_comm] using split
    obtain ⟨rfl, -⟩ := leads.unique inner
    obtain rfl : item "second" 5 = w := Option.some.inj there
    decide +kernel
  · simp [path] at split

end Stock

open Stock in
theorem Patch.apply_replaces_second : (holding 2).Ordered ∧
    patch.apply (holding 2) = .ok (holding 5) ∧ path.Keeps (holding 2) (holding 5) ∧
    fetch (holding 5) patch.query = .ok (some (item "second" 5)) := by
  have applied : patch.apply (holding 2) = .ok (holding 5) := by
    rw [Patch.apply_of_leads ordered parsed leads, replaced]
  obtain ⟨path', place', w, parsed', leads', unique, -, -, -, -, -, -, again⟩ :=
    (Patch.apply_replaces patch ordered).2.2.2.2 (holding 5) applied
  obtain rfl := Except.ok.inj (parsed.symm.trans parsed')
  obtain ⟨-, rfl⟩ := unique place (item "second" 2) leads
  exact ⟨ordered, applied, keeps, again keeps⟩

end PluginHost
