import PluginHost.Proofs.Plugin.Consistency

/-!
Every change of a plugin's state keeps the invariant, and a plugin starts with it.
-/

set_option autoImplicit false

namespace PluginHost

variable {S : Schema}

namespace PluginState

/-- What a change from one state to another has to respect. -/
structure Kept (s t : PluginState S) : Prop where
  consistent : t.Consistent
  grown : Extends s t

theorem Consistent.kept {s : PluginState S} (consistent : s.Consistent) : Kept s s :=
  ⟨consistent, .refl s⟩

theorem Kept.trans {s t u : PluginState S} (first : Kept s t) (second : Kept t u) : Kept s u :=
  ⟨second.consistent, first.grown.trans second.grown⟩

theorem Consistent.kept_withState {s : PluginState S} (consistent : s.Consistent) {k : S.Kind}
    (owned : s.Owned k) (v : S.State k) : Kept s (s.withState k v) :=
  ⟨consistent.withState owned v, extends_withState s k v⟩

theorem Consistent.read {s : PluginState S} (consistent : s.Consistent) (k : S.Kind) :
    Kept s (s.componentValue k).2 ∧
      ∀ v, (s.componentValue k).1 = .ok v → (s.componentValue k).2.Owned k := by
  unfold componentValue
  split
  · next v stored =>
    exact ⟨consistent.kept, fun _ _ => consistent.owned k (Store.mem_kinds_iff.2 ⟨v, stored⟩)⟩
  · split
    · next v active =>
      have owned := consistent.owned_of_activeSpec active
      exact ⟨consistent.kept_withState owned v, fun _ _ => owned.mono (extends_withState s k v)⟩
    · exact ⟨consistent.kept, fun v failed => by cases failed⟩

theorem Consistent.storeValue {s t : PluginState S} (consistent : s.Consistent) {k : S.Kind}
    {value : Σ k : S.Kind, S.State k} (stored : s.storeValue k value = .ok t) : Kept s t := by
  unfold PluginState.storeValue at stored
  split at stored
  · obtain ⟨v, active, result_eq⟩ := exists_of_bind_eq_ok stored
    cases result_eq
    exact consistent.kept_withState (consistent.owned_of_activeSpec active) value.2
  · cases stored

theorem Consistent.dataFor {s : PluginState S} (consistent : s.Consistent) (name : String) :
    Kept s (s.dataFor name).2 := by
  unfold PluginState.dataFor
  split
  · exact consistent.kept
  · next k active => exact (consistent.read k).1

theorem Consistent.modifyData {s : PluginState S} (consistent : s.Consistent) (name : String)
    (f : Json → Except PluginError Json) : Kept s (s.modifyData name f).2 := by
  unfold PluginState.modifyData
  split
  · exact consistent.kept
  · next k active =>
    obtain ⟨kept, owned⟩ := consistent.read k
    split
    · next e t value =>
      rw [value] at kept
      exact kept
    · next v t value =>
      rw [value] at kept owned
      split
      · exact kept
      · next new _ => exact kept.trans (kept.consistent.kept_withState (owned v rfl) new)

theorem Consistent.operation {s : PluginState S} (consistent : s.Consistent) (op : Operation S) :
    Kept s (op.apply s) := by
  -- All but five operations leave alone what the invariant reads.
  cases op with
  | enable names =>
    simp only [Operation.apply, Builtin.enableStep]
    split
    · next added t enabled =>
      obtain ⟨after, longer⟩ := consistent.enable enabled
      exact ⟨after, longer⟩
    · exact consistent.kept
  | read k => exact (consistent.read k).1
  | store k value =>
    simp only [Operation.apply]
    cases stored : s.storeValue k value with
    | error e => exact consistent.kept
    | ok t => exact consistent.storeValue stored
  | readJson name => exact consistent.dataFor name
  | modify name f => exact consistent.modifyData name f
  | setData | logProgram | setTriggers | bindMapping | setExecutor | setLogFilter =>
    exact ⟨{ consistent with }, ⟨rfl, rfl, rfl, List.prefix_rfl, fun _ => id⟩⟩

end PluginState

open PluginState

namespace Shape

theorem projectInner_kept {s : PluginState S} (consistent : s.Consistent) (m : Main)
    (component : Option S.Kind) :
    Kept s (projectInner m component s).2 ∧
      ∀ v, (projectInner m component s).1 = .ok v →
        (∀ k, component = some k → (projectInner m component s).2.Owned k) ∧
        ∀ t, innerWhole? m component v = some t → t = (projectInner m component s).2 := by
  cases component with
  | none =>
    refine ⟨consistent.kept, fun v projected => ⟨by simp, fun t whole => ?_⟩⟩
    cases projected
    cases m <;> cases whole
    rfl
  | some k =>
    obtain ⟨kept, owned⟩ := consistent.read k
    simp only [projectInner]
    split
    · next v t value =>
      rw [value] at kept owned
      refine ⟨kept, fun w projected => ⟨?_, fun u whole => ?_⟩⟩
      · rintro _ ⟨⟩
        exact owned v rfl
      · cases projected
        cases m <;> cases whole
        rfl
    · next e t value =>
      rw [value] at kept
      exact ⟨kept, fun w projected => by cases projected⟩

theorem project_kept {s : PluginState S} (consistent : s.Consistent) (shape : Shape S.Kind) :
    Kept s (shape.project s).2 ∧
      ∀ v, (shape.project s).1 = .ok v →
        (∀ k, shape.component = some k → (shape.project s).2.Owned k) ∧
        ∀ t, shape.whole? v = some t → t = (shape.project s).2 := by
  cases shape with
  | plain m component => exact projectInner_kept consistent m component
  | resources m component =>
    obtain ⟨kept, views⟩ := projectInner_kept consistent m component
    simp only [project]
    split
    · next v t inner =>
      rw [inner] at kept views
      refine ⟨kept, fun w projected => ?_⟩
      cases projected
      exact views v rfl
    · next e t inner =>
      rw [inner] at kept
      exact ⟨kept, fun w projected => by cases projected⟩
  | whole k =>
    obtain ⟨kept, owned⟩ := consistent.read k
    simp only [project]
    split
    · next v t value =>
      rw [value] at kept owned
      refine ⟨kept, fun w projected => ⟨?_, fun u whole => ?_⟩⟩
      · rintro _ ⟨⟩
        exact owned v rfl
      · cases projected
        cases whole
        rfl
    · next e t value =>
      rw [value] at kept
      exact ⟨kept, fun w projected => by cases projected⟩

/-- Whether a view holds a whole state is a matter of its shape. -/
theorem exists_whole {shape : Shape S.Kind} (v : shape.Carrier S) {w : shape.Carrier S}
    {t : PluginState S} (whole : shape.whole? w = some t) : ∃ u, shape.whole? v = some u := by
  rcases shape with ⟨_ | _, _ | _⟩ | ⟨_ | _, _ | _⟩ | k <;>
    first
    | exact ⟨_, rfl⟩
    | cases whole

theorem restoreInner_kept {s : PluginState S} (consistent : s.Consistent) (m : Main)
    (component : Option S.Kind) (w : InnerCarrier S m component)
    (owned : ∀ k, component = some k → s.Owned k)
    (kept : ∀ t, innerWhole? m component w = some t → Kept s t) :
    Kept s (restoreInner m component w s) := by
  have main (v : m.Carrier S) (kept : ∀ t, m.whole? v = some t → Kept s t) :
      Kept s (m.restore v s) := by
    cases m with
    | data => exact consistent.operation (.setData v)
    | whole => exact kept v rfl
  cases component with
  | none => exact main w kept
  | some k =>
    have first := main w.main kept
    exact first.trans (first.consistent.kept_withState ((owned k rfl).mono first.grown) w.comp)

theorem restore_kept {s : PluginState S} (consistent : s.Consistent) (shape : Shape S.Kind)
    (w : shape.Carrier S) (owned : ∀ k, shape.component = some k → s.Owned k)
    (kept : ∀ t, shape.whole? w = some t → Kept s t) : Kept s (shape.restore w s) := by
  cases shape with
  | plain m component => exact restoreInner_kept consistent m component w owned kept
  | resources m component => exact restoreInner_kept consistent m component w.inner owned kept
  | whole k => exact kept w rfl

end Shape

/-- No change of the state breaks the invariant. -/
theorem Reaches.kept {s t : PluginState S} (reaches : Reaches s t) (consistent : s.Consistent) :
    Kept s t := by
  induction reaches with
  | refl => exact consistent.kept
  | operation _ op ih =>
    have before := ih consistent
    exact before.trans (before.consistent.operation op)
  | project _ shape ih =>
    have before := ih consistent
    exact before.trans (Shape.project_kept before.consistent shape).1
  | @writeBack s t u _ shape v w projected _ ih changed =>
    have before := ih consistent
    obtain ⟨kept, views⟩ := Shape.project_kept before.consistent shape
    rw [projected] at kept views
    obtain ⟨owned, whole⟩ := views v rfl
    refine (before.trans kept).trans (Shape.restore_kept kept.consistent shape w owned ?_)
    intro m' written
    obtain ⟨m, projected_whole⟩ := Shape.exists_whole v written
    obtain rfl := whole m projected_whole
    exact changed m m' projected_whole written kept.consistent

theorem PluginConfig.build_consistent {config : PluginConfig S} {data : S.Data}
    {settings : Settings} {limits : Limits} {s : PluginState S}
    (built : config.build data settings limits = .ok s) :
    s.Consistent ∧ config.catalog = .ok s.catalog ∧ s.own = config.own ∧ s.triggers = [] := by
  obtain ⟨catalog, registered, rest⟩ := exists_of_bind_eq_ok built
  obtain ⟨_, -, rest⟩ := exists_of_bind_eq_ok rest
  obtain ⟨⟨components, added⟩, activated, rest⟩ := exists_of_bind_eq_ok rest
  obtain ⟨handlers, aggregated, result_eq⟩ := exists_of_bind_eq_ok rest
  cases result_eq
  have sound := config.catalog_sound registered
  obtain ⟨appended, nodup, known, covered⟩ := Catalog.activate_spec activated
  obtain ⟨table, distinct⟩ := aggregate_spec aggregated
  have core : internalName ∈ config.identity.withInternal.core := by
    unfold Identity.withInternal
    split
    · next named => simpa using named
    · simp
  refine ⟨?_, registered, rfl, rfl⟩
  exact
    { sound
      nodup := nodup List.nodup_nil
      internal := covered _ (List.mem_append_left _ core)
      known := fun name active => known name (by simpa [appended] using active)
      handlers := table
      distinct
      kinds := List.nodup_nil
      owned := fun k stored => by cases stored }

end PluginHost
