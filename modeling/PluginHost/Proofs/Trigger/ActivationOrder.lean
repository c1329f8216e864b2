import PluginHost.Proofs.Plugin.Activation
import PluginHost.Proofs.Trigger.Lookup
import Mathlib.Data.List.Perm.Basic

/-!
The order in which components are activated. It decides the order of the handlers, and no more than
that: every method has at most one handler, so the first one found is the same in any order.
-/

set_option autoImplicit false

namespace PluginHost

variable {S : Schema}

theorem Catalog.fresh_perm (active : List String) {xs ys : List String} (permuted : xs.Perm ys) :
    (fresh active xs).Perm (fresh active ys) :=
  (List.perm_ext_iff_of_nodup (nodup_fresh active xs) (nodup_fresh active ys)).2 fun name => by
    rw [mem_fresh, mem_fresh, permuted.mem_iff]

theorem Catalog.Sound.get?_isSome {c : Catalog S} (sound : c.Sound) {name : String}
    (known : c.contains name = true) : (c.get? name).isSome = true := by
  obtain ⟨i, place⟩ := Option.isSome_iff_exists.1 known
  have named := (sound.places name i).1 place
  obtain ⟨component, found, -⟩ := Option.map_eq_some_iff.1 named
  simp [get?, place, found]

namespace PluginState

variable {s t u v : PluginState S} {names xs ys : List String}

theorem table_perm (s : PluginState S) (permuted : xs.Perm ys) : (s.table xs).Perm (s.table ys) :=
  (permuted.flatMap fun _ _ => .refl _).append_left s.own

theorem Admits.perm (admits : s.Admits xs) (permuted : xs.Perm ys) : s.Admits ys where
  found name member := admits.found name (permuted.mem_iff.2 member)
  distinct := by
    have specs : (allSpecs (s.table xs) s.identity).Perm (allSpecs (s.table ys) s.identity) :=
      (s.table_perm permuted).flatMap fun _ _ => .refl _
    exact ⟨(specs.map _).nodup_iff.1 admits.distinct.methods,
      (specs.map _).nodup_iff.1 admits.distinct.names⟩

/-- Enables the components in one call. -/
def Enabled (s : PluginState S) (names : List String) (t : PluginState S) : Prop :=
  ∃ added, s.enable names = .ok (added, t)

/-- Enables the components one by one. A call that fails does not stop the later ones. -/
def enableEach : PluginState S → List String →
    List (Except PluginError (List String)) × PluginState S
  | s, [] => ([], s)
  | s, name :: rest =>
    let (r, t) := Builtin.enableStep [name] s
    let (rs, u) := enableEach t rest
    (r :: rs, u)

def EnabledEach (s : PluginState S) (names : List String) (t : PluginState S) : Prop :=
  (∀ r ∈ (s.enableEach names).1, ∃ added, r = .ok added) ∧ (s.enableEach names).2 = t

/-- Enabling nothing changes nothing, as the handlers are already those of the components. -/
theorem Consistent.enable_nil (consistent : s.Consistent) : s.enable [] = .ok ([], s) := by
  have handlers : s.table s.components = s.handlers := consistent.handlers.symm
  have admits : s.Admits (s.components ++ []) := by
    rw [List.append_nil]
    exact ⟨fun name active => consistent.sound.get?_isSome (consistent.known name active),
      handlers ▸ consistent.distinct⟩
  refine enable_eq_ok.2 ⟨by simp, admits, rfl, ?_⟩
  rw [List.append_nil, activating, handlers]

theorem Consistent.enabled (consistent : s.Consistent) (enabled : s.Enabled names t) :
    t.Consistent ∧ t.identity = s.identity := by
  obtain ⟨added, enabled⟩ := enabled
  exact ⟨(consistent.enable enabled).1, (triggers_of_enable enabled).2⟩

theorem Enabled.perm (enabled : s.Enabled xs t) (permuted : xs.Perm ys) :
    ∃ u, s.Enabled ys u ∧ u.handlers.Perm t.handlers := by
  obtain ⟨_, enabled⟩ := enabled
  obtain ⟨known, admits, rfl, rfl⟩ := enable_eq_ok.1 enabled
  have components := (Catalog.fresh_perm s.components permuted).append_left s.components
  refine ⟨_, ⟨_, enable_eq_ok.2 ⟨fun name member => known name (permuted.mem_iff.2 member),
    admits.perm components, rfl, rfl⟩⟩, ?_⟩
  exact s.table_perm components.symm

theorem Enabled.unique (first : s.Enabled names t) (second : s.Enabled names u) : t = u := by
  obtain ⟨_, first⟩ := first
  obtain ⟨_, second⟩ := second
  cases first.symm.trans second
  rfl

theorem enabled_append : s.Enabled (xs ++ ys) u ↔ ∃ t, s.Enabled xs t ∧ t.Enabled ys u := by
  simp only [Enabled, enable_append]
  constructor
  · rintro ⟨_, first, t, later, begun, rest, -⟩
    exact ⟨t, ⟨first, begun⟩, later, rest⟩
  · rintro ⟨t, ⟨first, begun⟩, later, rest⟩
    exact ⟨_, first, t, later, begun, rest, rfl⟩

theorem enabledEach_cons {name : String} : s.EnabledEach (name :: names) u ↔
    ∃ t, s.Enabled [name] t ∧ t.EnabledEach names u := by
  cases step : s.enable [name] with
  | error e => simp [EnabledEach, Enabled, enableEach, Builtin.enableStep, step]
  | ok found =>
    obtain ⟨added, t⟩ := found
    simp [EnabledEach, Enabled, enableEach, Builtin.enableStep, step]

theorem Consistent.enabled_iff_each (consistent : s.Consistent) :
    s.Enabled names t ↔ s.EnabledEach names t := by
  induction names generalizing s with
  | nil => simp [Enabled, EnabledEach, enableEach, consistent.enable_nil]
  | cons name rest ih =>
    rw [← List.singleton_append, enabled_append, List.singleton_append, enabledEach_cons]
    constructor
    · rintro ⟨u, ⟨added, first⟩, later⟩
      exact ⟨u, ⟨added, first⟩, (ih (consistent.enable first).1).1 later⟩
    · rintro ⟨u, ⟨added, first⟩, later⟩
      exact ⟨u, ⟨added, first⟩, (ih (consistent.enable first).1).2 later⟩

theorem Consistent.lookupMethod_congr (consistent : v.Consistent)
    (permuted : u.handlers.Perm v.handlers) (method : String) :
    u.lookupMethod method = v.lookupMethod method := by
  cases found : u.lookupMethod method with
  | none =>
    symm
    refine List.find?_eq_none.2 fun h member => ?_
    exact List.find?_eq_none.1 found h (permuted.mem_iff.2 member)
  | some h =>
    -- No other handler has the method, so the place of this one does not matter.
    have member := permuted.mem_iff.1 (List.mem_of_find?_eq_some found)
    have own : method ∈ h.methods := by simpa using List.find?_some found
    exact (find?_of_nodup_methods consistent.distinct.methods member own).symm

end PluginState

theorem prepare_congr {lib : Library S} {r : Request} {u v : PluginState S}
    (same : u.lookupMethod r.method = v.lookupMethod r.method) :
    (prepare lib r u).1 = (prepare lib r v).1 := by
  unfold prepare
  rw [same]
  cases v.lookupMethod r.method with
  | none => rfl
  | some h =>
    dsimp only
    cases r.arguments h.options.json with
    | error e => rfl
    | ok args =>
      dsimp only
      cases h.program.bind (lib.source h.program.code) args <;> rfl

/-- Components may be activated in any order and in any number of calls: it succeeds or fails just
the same, and a request finds the same program. -/
theorem order_of_activation {lib : Library S} (orderly : lib.Orderly) {config : PluginConfig S}
    {data : S.Data} {settings : Settings} {limits : Limits} {s t : PluginState S}
    (built : config.build data settings limits = .ok s) (runs : Runs lib s t)
    {xs ys : List String} (permuted : xs.Perm ys) :
    (∀ names u, t.EnabledEach names u ↔ t.Enabled names u) ∧
    ((∃ u, t.Enabled xs u) ↔ ∃ v, t.Enabled ys v) ∧
    ∀ u v, t.Enabled xs u → t.Enabled ys v →
      (∀ method, u.lookupMethod method = v.lookupMethod method) ∧
      u.distinctSpecs.Perm v.distinctSpecs ∧
      ∀ r : Request, (prepare lib r u).1 = (prepare lib r v).1 := by
  have consistent := runs.consistent orderly built
  refine ⟨fun _ _ => consistent.enabled_iff_each.symm, ⟨?there, ?back⟩, fun u v first second => ?_⟩
  case there =>
    rintro ⟨u, enabled⟩
    obtain ⟨v, also, -⟩ := enabled.perm permuted
    exact ⟨v, also⟩
  case back =>
    rintro ⟨v, enabled⟩
    obtain ⟨u, also, -⟩ := enabled.perm permuted.symm
    exact ⟨u, also⟩
  obtain ⟨first_consistent, first_identity⟩ := consistent.enabled first
  obtain ⟨second_consistent, second_identity⟩ := consistent.enabled second
  -- What the second order comes to has the handlers of the first, in another order.
  obtain ⟨v', also, handlers⟩ := first.perm permuted
  obtain rfl := second.unique also
  have lookups := second_consistent.lookupMethod_congr handlers.symm
  refine ⟨lookups, ?_, fun r => prepare_congr (lookups r.method)⟩
  rw [first_consistent.distinctSpecs_eq, second_consistent.distinctSpecs_eq, first_identity,
    second_identity]
  exact handlers.symm.flatMap fun _ _ => .refl _

-- The notebook with a second component that is not active yet.
namespace Notebook

def cover : Handler schema :=
  ⟨⟨"cover", .block, ⟨0, some 0⟩, [], some view, .user ()⟩, .ofMethods [.command true false]⟩

def covered : PluginConfig schema :=
  { config with components := config.components ++ [⟨"covers", [cover], none, none, []⟩] }

def inBothOrders :
    Except PluginError (PluginState schema × PluginState schema × PluginState schema) := do
  let s ← covered.build .null ⟨none, false⟩ ⟨⟨0⟩, 1, ⟨0⟩⟩
  let (_, u) ← s.enable ["pages", "covers"]
  let (_, v) ← s.enable ["covers", "pages"]
  return (s, u, v)

theorem inBothOrders_components :
    (inBothOrders.toOption.map fun (_, u, v) => (u.components, v.components)) =
      some (["internal", "pages", "covers"], ["internal", "covers", "pages"]) := by
  decide +kernel

end Notebook

open Notebook in
theorem order_of_pages_and_covers :
    ∃ s u v, covered.build .null ⟨none, false⟩ ⟨⟨0⟩, 1, ⟨0⟩⟩ = .ok s ∧ library.Orderly ∧
      Runs library s s ∧ ["pages", "covers"].Perm ["covers", "pages"] ∧
      s.EnabledEach ["pages", "covers"] u ∧ s.Enabled ["covers", "pages"] v ∧
      u.components ≠ v.components ∧
      u.lookupMethod "command:cover" = v.lookupMethod "command:cover" ∧
      u.distinctSpecs.Perm v.distinctSpecs := by
  have permuted : ["pages", "covers"].Perm ["covers", "pages"] := .swap _ _ _
  have components := inBothOrders_components
  cases both : inBothOrders with
  | error e => simp [both, Except.toOption] at components
  | ok found =>
    obtain ⟨s, built, rest⟩ := exists_of_bind_eq_ok both
    obtain ⟨⟨first, u⟩, pages_first, rest⟩ := exists_of_bind_eq_ok rest
    obtain ⟨⟨second, v⟩, covers_first, result_eq⟩ := exists_of_bind_eq_ok rest
    cases result_eq
    simp only [both, Except.toOption, Option.map_some, Option.some.injEq, Prod.mk.injEq]
      at components
    obtain ⟨each, -, same⟩ := order_of_activation library_orderly built (.start s) permuted
    obtain ⟨lookups, specs, -⟩ := same u v ⟨first, pages_first⟩ ⟨second, covers_first⟩
    exact ⟨s, u, v, built, library_orderly, .start s, permuted, (each _ u).2 ⟨first, pages_first⟩,
      ⟨second, covers_first⟩, by simp [components], lookups _, specs⟩

end PluginHost
