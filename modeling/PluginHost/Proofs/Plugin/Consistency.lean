import PluginHost.Proofs.Plugin.Change
import PluginHost.Proofs.Plugin.Handlers

/-!
The invariant of a running plugin: its components, its handlers and the states of its components fit
together, however its state changes.
-/

set_option autoImplicit false

namespace PluginHost

variable {S : Schema}

namespace Store

def kinds (store : Store S) : List S.Kind := store.map (·.1)

theorem kinds_insert (k : S.Kind) (v : S.State k) (store : Store S) :
    kinds (insert k v store) = if k ∈ kinds store then kinds store else kinds store ++ [k] := by
  induction store with
  | nil => simp [insert, kinds]
  | cons entry rest ih =>
    simp only [kinds] at ih
    unfold insert
    split
    · next same => simp [kinds, same]
    · next other =>
      have fresh : k ≠ entry.1 := Ne.symm other
      by_cases stored : k ∈ rest.map (·.1) <;>
        simp [kinds, ih, stored, fresh]

theorem mem_kinds_iff {k : S.Kind} {store : Store S} :
    k ∈ kinds store ↔ ∃ v, find? k store = some v := by
  induction store with
  | nil => simp [kinds, find?]
  | cons entry rest ih =>
    obtain ⟨kind, value⟩ := entry
    by_cases same : kind = k
    · subst same
      simp [kinds, find?]
    · simpa [kinds, find?, same, Ne.symm same] using ih

theorem nodup_insert {store : Store S} (nodup : (kinds store).Nodup) (k : S.Kind) (v : S.State k) :
    (kinds (insert k v store)).Nodup := by
  rw [kinds_insert]
  split
  · exact nodup
  · next absent =>
    rw [List.nodup_append]
    refine ⟨nodup, by simp, ?_⟩
    intro other member last is_last same
    rw [same, List.mem_singleton.1 is_last] at member
    exact absent member

end Store

namespace PluginState

/-- One component declares a kind of state, and it is active. -/
def Owned (s : PluginState S) (k : S.Kind) : Prop :=
  ∃ owner, s.catalog.declaring k = [owner] ∧ owner.name ∈ s.components

structure Consistent (s : PluginState S) : Prop where
  sound : s.catalog.Sound
  nodup : s.components.Nodup
  internal : internalName ∈ s.components
  known : ∀ name ∈ s.components, s.catalog.contains name = true
  handlers : s.handlers = s.own ++ s.components.flatMap s.catalog.handlersOf
  distinct : Distinct (allSpecs s.handlers s.identity)
  kinds : (Store.kinds s.store).Nodup
  owned : ∀ k ∈ Store.kinds s.store, s.Owned k

-- What no change takes back.
structure Extends (s t : PluginState S) : Prop where
  catalog : t.catalog = s.catalog
  identity : t.identity = s.identity
  own : t.own = s.own
  components : s.components <+: t.components
  kinds : ∀ k ∈ Store.kinds s.store, k ∈ Store.kinds t.store

theorem Extends.refl (s : PluginState S) : Extends s s :=
  ⟨rfl, rfl, rfl, List.prefix_rfl, fun _ => id⟩

theorem Extends.trans {s t u : PluginState S} (first : Extends s t) (second : Extends t u) :
    Extends s u where
  catalog := second.catalog.trans first.catalog
  identity := second.identity.trans first.identity
  own := second.own.trans first.own
  components := first.components.trans second.components
  kinds k stored := second.kinds k (first.kinds k stored)

theorem Owned.mono {s t : PluginState S} {k : S.Kind} (owned : s.Owned k) (more : Extends s t) :
    t.Owned k := by
  obtain ⟨owner, only, active⟩ := owned
  exact ⟨owner, more.catalog ▸ only, more.components.subset active⟩

theorem extends_withState (s : PluginState S) (k : S.Kind) (v : S.State k) :
    Extends s (s.withState k v) where
  catalog := rfl
  identity := rfl
  own := rfl
  components := List.prefix_rfl
  kinds other stored := by
    simp only [withState, Store.kinds_insert]
    split <;> simp [stored]

theorem Consistent.withState {s : PluginState S} (consistent : s.Consistent) {k : S.Kind}
    (owned : s.Owned k) (v : S.State k) : (s.withState k v).Consistent :=
  { consistent with
    kinds := Store.nodup_insert consistent.kinds k v
    owned := fun other stored => by
      have here : s.Owned other := by
        simp only [PluginState.withState, Store.kinds_insert] at stored
        split at stored
        · exact consistent.owned other stored
        · rcases List.mem_append.1 stored with old | new
          · exact consistent.owned other old
          · exact List.mem_singleton.1 new ▸ owned
      exact here.mono (extends_withState s k v) }

theorem Consistent.owned_of_activeSpec {s : PluginState S} (consistent : s.Consistent)
    {k : S.Kind} {v : S.State k} (active : s.activeSpec k = .ok v) : s.Owned k := by
  unfold activeSpec at active
  split at active
  · cases active
  · next owner owns =>
    split at active
    · next running =>
      obtain ⟨member, declares⟩ := Catalog.ownerOf_spec owns
      exact ⟨owner, consistent.sound.declaring_eq member declares,
        by simpa [isActive] using running⟩
    · cases active

theorem Consistent.enable {s t : PluginState S} (consistent : s.Consistent)
    {names added : List String} (enabled : s.enable names = .ok (added, t)) :
    t.Consistent ∧ Extends s t := by
  obtain ⟨⟨components, _⟩, activated, rest⟩ := exists_of_bind_eq_ok enabled
  obtain ⟨handlers, aggregated, result_eq⟩ := exists_of_bind_eq_ok rest
  cases result_eq
  obtain ⟨appended, nodup, known, -⟩ := Catalog.activate_spec activated
  obtain ⟨table, distinct⟩ := aggregate_spec aggregated
  have longer : Extends s { s with components, handlers } :=
    ⟨rfl, rfl, rfl, appended ▸ List.prefix_append _ _, fun _ => id⟩
  refine ⟨?_, longer⟩
  exact
    { consistent with
      nodup := nodup consistent.nodup
      internal := longer.components.subset consistent.internal
      known := fun name active => by
        rcases List.mem_append.1 (appended ▸ active) with old | new
        · exact consistent.known name old
        · exact known name new
      handlers := table
      distinct := distinct
      owned := fun k stored => (consistent.owned k stored).mono longer }

end PluginState

end PluginHost
