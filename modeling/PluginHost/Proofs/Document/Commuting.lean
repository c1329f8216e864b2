import PluginHost.Proofs.Document.Patching
import PluginHost.Proofs.Plugin.Catalog

/-!
Changes at paths of members only. Where neither path goes on from the other, neither change sees the
other, so they come to the same in either order.
-/

set_option autoImplicit false

namespace PluginHost

namespace Fields

variable {fields : Fields} {name other : String}

theorem insert_insert (fields : Fields) (name : String) (v w : Json) :
    insert (insert fields name v) name w = insert fields name w := by
  induction fields with
  | nil => simp [insert]
  | cons f rest ih =>
    by_cases here : f.1 = name
    next => simp [insert, here]
    next =>
      by_cases before : name < f.1
      next => simp [insert, here, before]
      next => simp [insert, here, before, ih]

theorem insert_comm (ordered : Ordered fields) (first : (get? fields name).isSome)
    (second : (get? fields other).isSome) (ne : name ≠ other) (v w : Json) :
    insert (insert fields name v) other w = insert (insert fields other w) name v := by
  have second' : (get? (insert fields name v) other).isSome := by
    rwa [get?_insert_of_ne fields v ne.symm]
  have first' : (get? (insert fields other w) name).isSome := by
    rwa [get?_insert_of_ne fields w ne]
  rw [insert_eq_map (ordered.insert name v) second', insert_eq_map (ordered.insert other w) first',
    insert_eq_map ordered first, insert_eq_map ordered second, List.map_map, List.map_map]
  apply List.map_congr_left
  intro m _
  by_cases here : m.1 = name
  next => simp [here, ne]
  next => by_cases there : m.1 = other <;> simp [here, there, ne.symm]

end Fields

namespace Segment

variable {s old : Json} {name other : String}

theorem get?_withMember_self (found : s.get? name = some old) (v : Json) :
    (withMember s name v).get? name = some v := by
  cases s with
  | object fields => exact Fields.get?_insert_self fields name v
  | null | bool _ | number _ | string _ | array _ => simp [Json.get?] at found

theorem get?_withMember_of_ne (s : Json) (v : Json) (ne : other ≠ name) :
    (withMember s name v).get? other = s.get? other := by
  cases s with
  | object fields => exact Fields.get?_insert_of_ne fields v ne
  | null | bool _ | number _ | string _ | array _ => rfl

theorem withMember_withMember (s : Json) (name : String) (v w : Json) :
    withMember (withMember s name v) name w = withMember s name w := by
  cases s with
  | object fields => exact congrArg Json.object (Fields.insert_insert fields name v w)
  | null | bool _ | number _ | string _ | array _ => rfl

theorem withMember_comm {old' : Json} (ordered : s.Ordered) (first : s.get? name = some old)
    (second : s.get? other = some old') (ne : name ≠ other) (v w : Json) :
    withMember (withMember s name v) other w = withMember (withMember s other w) name v := by
  cases s with
  | object fields =>
    exact congrArg Json.object (Fields.insert_comm ordered.1 (Option.isSome_of_eq_some first)
      (Option.isSome_of_eq_some second) ne v w)
  | null | bool _ | number _ | string _ | array _ => rfl

end Segment

namespace Path

open Segment

/-- The path from member to member. -/
def members (names : List String) : Path := names.map Segment.field

variable {f g : Change} {name : String} {names a b : List String}
  {s t u w : Json}

theorem update_members_eq_ok : update f (members (name :: names)) s = (.ok (), t) ↔
    ∃ v v', s.get? name = some v ∧ update f (members names) v = (.ok (), v') ∧
      t = withMember s name v' := by
  simp only [members, List.map_cons, update, Segment.update]
  cases found : s.get? name with
  | none => simp
  | some v =>
    constructor
    next =>
      intro updated
      obtain ⟨changed, rfl⟩ := Prod.mk.inj updated
      exact ⟨v, _, rfl, Prod.ext changed rfl, rfl⟩
    next =>
      rintro ⟨_, v', ⟨⟩, changed, rfl⟩
      exact congrArg (fun r => (r.1, withMember s name r.2)) changed

-- By induction on the members that the two paths share. Where they part, two members of one object
-- change; before that, the same member changes twice.
theorem update_diamond (ordered : s.Ordered) (notBelow : ¬ a <+: b) (notAbove : ¬ b <+: a)
    (first : update f (members a) s = (.ok (), u)) (second : update g (members b) s = (.ok (), w)) :
    ∃ t, update g (members b) u = (.ok (), t) ∧ update f (members a) w = (.ok (), t) := by
  induction a generalizing b s u w with
  | nil => exact absurd List.nil_prefix notBelow
  | cons x a ih =>
    cases b with
    | nil => exact absurd List.nil_prefix notAbove
    | cons y b =>
      obtain ⟨v, v', found, changed, rfl⟩ := update_members_eq_ok.1 first
      obtain ⟨m, m', found', changed', rfl⟩ := update_members_eq_ok.1 second
      by_cases same : x = y
      next =>
        subst same
        cases found.symm.trans found'
        rw [List.cons_prefix_cons, not_and] at notBelow notAbove
        obtain ⟨t, after, after'⟩ :=
          ih (ordered.get? found) (notBelow rfl) (notAbove rfl) changed changed'
        refine ⟨withMember s x t, ?_, ?_⟩
        next =>
          apply update_members_eq_ok.2
          exact ⟨v', t, get?_withMember_self found v', after, (withMember_withMember s x v' t).symm⟩
        next =>
          apply update_members_eq_ok.2
          exact ⟨m', t, get?_withMember_self found m', after', (withMember_withMember s x m' t).symm⟩
      next =>
        refine ⟨withMember (withMember s x v') y m', ?_, ?_⟩
        next =>
          apply update_members_eq_ok.2
          exact ⟨m, m', (get?_withMember_of_ne s v' (Ne.symm same)).trans found', changed', rfl⟩
        next =>
          apply update_members_eq_ok.2
          exact ⟨v, v', (get?_withMember_of_ne s m' same).trans found, changed,
            withMember_comm ordered found found' same v' m'⟩

/-- A change that succeeds after one at a path apart succeeds before it. -/
theorem exists_update_before (notBelow : ¬ a <+: b) (notAbove : ¬ b <+: a)
    (first : update f (members a) s = (.ok (), u)) (after : update g (members b) u = (.ok (), t)) :
    ∃ w, update g (members b) s = (.ok (), w) := by
  induction a generalizing b s u t with
  | nil => exact absurd List.nil_prefix notBelow
  | cons x a ih =>
    cases b with
    | nil => exact absurd List.nil_prefix notAbove
    | cons y b =>
      obtain ⟨v, v', found, changed, rfl⟩ := update_members_eq_ok.1 first
      obtain ⟨m, m', found', changed', rfl⟩ := update_members_eq_ok.1 after
      by_cases same : x = y
      next =>
        subst same
        cases (get?_withMember_self found v').symm.trans found'
        rw [List.cons_prefix_cons, not_and] at notBelow notAbove
        obtain ⟨w, before⟩ := ih (notBelow rfl) (notAbove rfl) changed changed'
        exact ⟨_, update_members_eq_ok.2 ⟨v, w, found, before, rfl⟩⟩
      next =>
        rw [get?_withMember_of_ne s v' (Ne.symm same)] at found'
        exact ⟨_, update_members_eq_ok.2 ⟨m, m', found', changed', rfl⟩⟩

theorem update_comm (ordered : s.Ordered) (notBelow : ¬ a <+: b) (notAbove : ¬ b <+: a)
    (first : update f (members a) s = (.ok (), u)) (after : update g (members b) u = (.ok (), t)) :
    ∃ w, update g (members b) s = (.ok (), w) ∧ update f (members a) w = (.ok (), t) := by
  obtain ⟨w, before⟩ := exists_update_before notBelow notAbove first after
  obtain ⟨t', meets, meets'⟩ := update_diamond ordered notBelow notAbove first before
  cases meets.symm.trans after
  exact ⟨w, before, meets'⟩

end Path

namespace Patch

variable {p q : Patch} {a b : List String} {s : Json}

theorem apply_eq_ok_iff {path : Path} (parsed : Path.parse p.query = .ok path) {s t : Json} :
    p.apply s = .ok t ↔ path.update (fun v => (.ok (), v.merge p.data)) s = (.ok (), t) := by
  rw [apply_eq_ok, write, parsed]

/-- Patches at paths of members, neither of which goes on from the other, come to the same document
in either order, whatever their data; and they do come to one if each of them alone applies. -/
theorem apply_comm (ordered : s.Ordered) (parsed : Path.parse p.query = .ok (Path.members a))
    (parsed' : Path.parse q.query = .ok (Path.members b)) (notBelow : ¬ a <+: b)
    (notAbove : ¬ b <+: a) :
    (∀ t, p.apply s >>= q.apply = .ok t ↔ q.apply s >>= p.apply = .ok t) ∧
    ((∃ t, p.apply s >>= q.apply = .ok t) ↔
      (∃ u, p.apply s = .ok u) ∧ ∃ w, q.apply s = .ok w) := by
  simp only [bind_eq_ok_iff, apply_eq_ok_iff parsed, apply_eq_ok_iff parsed']
  constructor
  next =>
    intro t
    constructor
    next => exact fun ⟨_, first, after⟩ => Path.update_comm ordered notBelow notAbove first after
    next => exact fun ⟨_, first, after⟩ => Path.update_comm ordered notAbove notBelow first after
  next =>
    constructor
    next =>
      intro ⟨t, u, first, after⟩
      exact ⟨⟨u, first⟩, Path.exists_update_before notBelow notAbove first after⟩
    next =>
      intro ⟨⟨u, first⟩, ⟨w, second⟩⟩
      obtain ⟨t, after, _⟩ := Path.update_diamond ordered notBelow notAbove first second
      exact ⟨t, u, first, after⟩

end Patch

namespace Cover

def sheet : Json :=
  .record [("cover", .record [("pages", .record [("n", .int 1)]), ("title", .string "Notes")])]

def titled : Patch := ⟨"cover.title", .record [("text", .string "Essays")]⟩

def counted : Patch := ⟨"cover.pages", .int 5⟩

def printed : Json :=
  .record [("cover", .record [("pages", .int 5), ("title", .record [("text", .string "Essays")])])]

theorem sheet_ordered : sheet.Ordered := by
  have canonical : sheet.canonical = sheet := by decide +kernel
  rw [← canonical]
  exact Json.canonical_ordered _

theorem counted_titled : counted.apply sheet >>= titled.apply = .ok printed := by
  have parsed : Path.parse counted.query = .ok (Path.members ["cover", "pages"]) := by rfl
  have parsed' : Path.parse titled.query = .ok (Path.members ["cover", "title"]) := by rfl
  refine bind_eq_ok_iff.2 ⟨_, (Patch.apply_eq_ok_iff parsed).2 rfl, ?_⟩
  exact (Patch.apply_eq_ok_iff parsed').2 rfl

end Cover

-- A list of members and a text under one member, the one replaced by a number and the other by an
-- object.
open Cover in
theorem Patch.apply_comm_cover : sheet.Ordered ∧
    Path.parse titled.query = .ok (Path.members ["cover", "title"]) ∧
    Path.parse counted.query = .ok (Path.members ["cover", "pages"]) ∧
    ¬ ["cover", "title"] <+: ["cover", "pages"] ∧ ¬ ["cover", "pages"] <+: ["cover", "title"] ∧
    titled.apply sheet >>= counted.apply = .ok printed := by
  have parsed : Path.parse titled.query = .ok (Path.members ["cover", "title"]) := by rfl
  have parsed' : Path.parse counted.query = .ok (Path.members ["cover", "pages"]) := by rfl
  have notBelow : ¬ ["cover", "title"] <+: ["cover", "pages"] := by decide
  have notAbove : ¬ ["cover", "pages"] <+: ["cover", "title"] := by decide
  have commutes := (Patch.apply_comm sheet_ordered parsed parsed' notBelow notAbove).1 printed
  exact ⟨sheet_ordered, parsed, parsed', notBelow, notAbove, commutes.2 counted_titled⟩

end PluginHost
