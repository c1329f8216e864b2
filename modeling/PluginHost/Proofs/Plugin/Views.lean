import PluginHost.Proofs.Plugin.Running

/-!
The laws of views. A projection leaves the state alone, but for the first state of a component; what
is written back is read again; and what a view does not name stays.
-/

set_option autoImplicit false

namespace PluginHost

variable {S : Schema}

namespace Store

theorem insert_eq_self {k : S.Kind} {v : S.State k} {store : Store S}
    (stored : find? k store = some v) : insert k v store = store := by
  induction store with
  | nil => cases stored
  | cons entry rest ih =>
    obtain ⟨kind, value⟩ := entry
    by_cases same : kind = k
    · subst same
      have equal : value = v := by simpa [find?] using stored
      simp [insert, equal]
    · have later : find? k rest = some v := by simpa [find?, same] using stored
      simp [insert, same, ih later]

theorem insert_insert (k : S.Kind) (v w : S.State k) (store : Store S) :
    insert k w (insert k v store) = insert k w store := by
  induction store with
  | nil => simp [insert]
  | cons entry rest ih =>
    by_cases same : entry.1 = k
    · simp [insert, same]
    · simp [insert, same, ih]

end Store

namespace PluginState

/-- The value is the first state of a kind, as the active component that declares it makes it. -/
def IsFresh (s : PluginState S) (k : S.Kind) (v : S.State k) : Prop :=
  ∃ owner, s.catalog.ownerOf k = some owner ∧ owner.name ∈ s.components ∧
    owner.state = some ⟨k, v⟩

theorem isFresh_of_activeSpec {s : PluginState S} {k : S.Kind} {v : S.State k}
    (active : s.activeSpec k = .ok v) : s.IsFresh k v := by
  unfold activeSpec at active
  split at active
  · cases active
  · next owner owns =>
    split at active
    · next running =>
      split at active
      · next spec declared =>
        split at active
        · next same =>
          obtain ⟨kind, initial⟩ := spec
          subst same
          cases active
          exact ⟨owner, owns, by simpa [isActive] using running, declared⟩
        · cases active
      · cases active
    · cases active

theorem Owned.exists_activeSpec {s : PluginState S} {k : S.Kind} (owned : s.Owned k) :
    ∃ v, s.activeSpec k = .ok v := by
  obtain ⟨owner, only, active⟩ := owned
  have owns := Catalog.ownerOf_of_declaring only
  have running : s.isActive owner.name = true := by simpa [isActive] using active
  obtain ⟨-, declares⟩ := Catalog.ownerOf_spec owns
  obtain ⟨⟨kind, initial⟩, declared, same⟩ := Option.map_eq_some_iff.1 declares
  subst same
  exact ⟨initial, by simp [activeSpec, owns, running, declared]⟩

theorem Consistent.activeSpec_of_not_owned {s : PluginState S} (consistent : s.Consistent)
    {k : S.Kind} (foreign : ¬ s.Owned k) :
    s.activeSpec k = .error (.unknownComponent s!"no active component owns {S.kindName k}") := by
  unfold activeSpec
  split
  · rfl
  · next owner owns =>
    split
    · next running =>
      obtain ⟨member, declares⟩ := Catalog.ownerOf_spec owns
      exact absurd ⟨owner, consistent.sound.declaring_eq member declares,
        by simpa [isActive] using running⟩ foreign
    · rfl

theorem componentValue_of_stored {s : PluginState S} {k : S.Kind} {v : S.State k}
    (stored : Store.find? k s.store = some v) : s.componentValue k = (.ok v, s) := by
  simp [componentValue, stored]

@[simp] theorem componentValue_withState (s : PluginState S) (k : S.Kind) (v : S.State k) :
    (s.withState k v).componentValue k = (.ok v, s.withState k v) :=
  componentValue_of_stored (Store.find?_insert_self k v s.store)

theorem withState_eq_self {s : PluginState S} {k : S.Kind} {v : S.State k}
    (stored : Store.find? k s.store = some v) : s.withState k v = s := by
  simp [withState, Store.insert_eq_self stored]

@[simp] theorem withState_withState (s : PluginState S) (k : S.Kind) (v w : S.State k) :
    (s.withState k v).withState k w = s.withState k w := by
  simp [withState, Store.insert_insert]

/-- What asking for the state of a kind makes of the plugin's state. -/
def Opens (s : PluginState S) (k : S.Kind) (t : PluginState S) : Prop :=
  match Store.find? k s.store with
  | some _ => t = s
  | none => ∃ v, s.IsFresh k v ∧ t = s.withState k v

theorem componentValue_eq_ok {s t : PluginState S} {k : S.Kind} {v : S.State k}
    (value : s.componentValue k = (.ok v, t)) :
    Store.find? k t.store = some v ∧ s.Opens k t := by
  unfold componentValue at value
  unfold Opens
  cases stored : Store.find? k s.store with
  | some w =>
    simp only [stored] at value ⊢
    cases value
    exact ⟨stored, rfl⟩
  | none =>
    simp only [stored] at value ⊢
    split at value
    · next active =>
      cases value
      exact ⟨Store.find?_insert_self k v s.store, v, isFresh_of_activeSpec active, rfl⟩
    · cases value

theorem componentValue_eq_error {s t : PluginState S} {k : S.Kind} {e : PluginError}
    (value : s.componentValue k = (.error e, t)) :
    t = s ∧ Store.find? k s.store = none ∧ s.activeSpec k = .error e := by
  unfold componentValue at value
  split at value
  · cases value
  · next absent =>
    split at value
    · cases value
    · next refused =>
      cases value
      exact ⟨rfl, absent, refused⟩

theorem Consistent.componentValue {s : PluginState S} (consistent : s.Consistent) (k : S.Kind) :
    s.Owned k ∧ (∃ v t, s.componentValue k = (.ok v, t)) ∨
      ¬ s.Owned k ∧ s.componentValue k =
        (.error (.unknownComponent s!"no active component owns {S.kindName k}"), s) := by
  by_cases owned : s.Owned k
  · refine .inl ⟨owned, ?_⟩
    cases stored : Store.find? k s.store with
    | some v => exact ⟨v, s, componentValue_of_stored stored⟩
    | none =>
      obtain ⟨v, active⟩ := owned.exists_activeSpec
      exact ⟨v, s.withState k v, by simp [PluginState.componentValue, stored, active]⟩
  · refine .inr ⟨owned, ?_⟩
    have absent : Store.find? k s.store = none := by
      cases stored : Store.find? k s.store with
      | some v => exact absurd (consistent.owned k (Store.mem_kinds_iff.2 ⟨v, stored⟩)) owned
      | none => rfl
    simp [PluginState.componentValue, absent, consistent.activeSpec_of_not_owned owned]

end PluginState

open PluginState

namespace Main

variable {m : Main}

@[simp] theorem restore_project (m : Main) (s : PluginState S) : m.restore (m.project s) s = s := by
  cases m <;> rfl

@[simp] theorem project_restore (m : Main) (v : m.Carrier S) (s : PluginState S) :
    m.project (m.restore v s) = v := by
  cases m <;> rfl

/-- Main data beside which a component's state is written back. A whole state takes it in. -/
def withState (k : S.Kind) (c : S.State k) : (m : Main) → m.Carrier S → m.Carrier S
  | .data, d => d
  | .whole, s => s.withState k c

theorem project_withState (m : Main) (v : m.Carrier S) (s : PluginState S) (k : S.Kind)
    (c : S.State k) : m.project ((m.restore v s).withState k c) = m.withState k c v := by
  cases m <;> rfl

theorem restore_restore_withState (m : Main) (v w : m.Carrier S) (s : PluginState S) (k : S.Kind)
    (c d : S.State k) : (m.restore w ((m.restore v s).withState k c)).withState k d =
      (m.restore w s).withState k d := by
  cases m with
  | data => exact withState_withState { s with data := w } k c d
  | whole => rfl

end Main

namespace Shape

def main {K : Type} : Shape K → Main
  | .plain m _ | .resources m _ => m
  | .whole _ => .whole

/-- What projecting a view makes of the state. -/
def Opens (shape : Shape S.Kind) (s t : PluginState S) : Prop :=
  match shape.component with
  | none => t = s
  | some k => s.Opens k t

def readBackInner (m : Main) : (component : Option S.Kind) → InnerCarrier S m component →
    InnerCarrier S m component
  | none, v => v
  | some k, v => ⟨m.withState k v.comp v.main, v.comp⟩

/-- What a view is read as after it was written back: a whole state has taken in the component's
state beside it, and the read-only parts are those of the plugin. -/
def readBack : (shape : Shape S.Kind) → shape.Carrier S → PluginState S → shape.Carrier S
  | .plain m component, v, _ => readBackInner m component v
  | .resources m component, v, s => ⟨readBackInner m component v.inner, s.settings, s.components⟩
  | .whole _, v, _ => v

/-- A whole state with access to a component's state has that state. -/
def Holds : (shape : Shape S.Kind) → shape.Carrier S → Prop
  | .whole k, v => k ∈ Store.kinds v.store
  | _, _ => True

structure Lawful (shape : Shape S.Kind) (s : PluginState S) : Prop where
  succeeds : (∃ v t, shape.project s = (.ok v, t)) ↔ ∀ k, shape.component = some k → s.Owned k
  refuses : ∀ e t, shape.project s = (.error e, t) → t = s ∧ ∃ k, shape.component = some k ∧
    e = .unknownComponent s!"no active component owns {S.kindName k}"
  opens : ∀ v t, shape.project s = (.ok v, t) → shape.Opens s t
  unmodified : ∀ v t, shape.project s = (.ok v, t) → shape.restore v t = t
  holds : ∀ v t, shape.project s = (.ok v, t) → ∀ w,
    (∀ m m', shape.whole? v = some m → shape.whole? w = some m' → Reaches m m') → shape.Holds w
  reads : ∀ w t, shape.Holds w → shape.project (shape.restore w t) =
    (.ok (shape.readBack w (shape.restore w t)), shape.restore w t)
  overwrites : ∀ v w t, shape.restore w (shape.restore v t) = shape.restore w t
  leaves : shape.main = .data → ∀ w t,
    shape.restore w t =
      { t with data := (shape.restore w t).data, store := (shape.restore w t).store } ∧
    ∀ k, shape.component ≠ some k →
      Store.find? k (shape.restore w t).store = Store.find? k t.store

theorem exists_project {shape : Shape S.Kind} {s : PluginState S} :
    (∃ v t, shape.project s = (.ok v, t)) ↔
      ∀ k, shape.component = some k → ∃ c t, s.componentValue k = (.ok c, t) := by
  rcases shape with ⟨m, _ | k⟩ | ⟨m, _ | k⟩ | k
  case plain.none => simp [project, projectInner, component]
  case resources.none => simp [project, projectInner, component]
  all_goals
    rcases value : s.componentValue k with ⟨_ | _, t⟩ <;>
      simp [project, projectInner, component, value]

theorem project_eq_error {shape : Shape S.Kind} {s t : PluginState S} {e : PluginError}
    (projected : shape.project s = (.error e, t)) :
    ∃ k, shape.component = some k ∧ s.componentValue k = (.error e, t) := by
  rcases shape with ⟨m, _ | k⟩ | ⟨m, _ | k⟩ | k
  case plain.none => cases projected
  case resources.none => cases projected
  all_goals
    refine ⟨k, rfl, ?_⟩
    rcases value : s.componentValue k with ⟨_ | _, u⟩ <;>
      simp_all [project, projectInner]

theorem projectInner_eq_ok {m : Main} {component : Option S.Kind} {s t : PluginState S}
    {v : InnerCarrier S m component} (projected : projectInner m component s = (.ok v, t)) :
    Opens (.plain m component) s t ∧ restoreInner m component v t = t := by
  cases component with
  | none =>
    cases projected
    exact ⟨rfl, m.restore_project _⟩
  | some k =>
    simp only [projectInner] at projected
    split at projected
    · next c u value =>
      cases projected
      obtain ⟨stored, opens⟩ := componentValue_eq_ok value
      exact ⟨opens, by simp [restoreInner, withState_eq_self stored]⟩
    · cases projected

/-- What a projection leaves is what writing its view back leaves. -/
theorem project_eq_ok {shape : Shape S.Kind} {s t : PluginState S} {v : shape.Carrier S}
    (projected : shape.project s = (.ok v, t)) :
    shape.Opens s t ∧ shape.restore v t = t ∧ shape.Holds v := by
  cases shape with
  | plain m component =>
    obtain ⟨opens, restored⟩ := projectInner_eq_ok projected
    exact ⟨opens, restored, trivial⟩
  | resources m component =>
    simp only [project] at projected
    split at projected
    · next inner =>
      cases projected
      obtain ⟨opens, restored⟩ := projectInner_eq_ok inner
      exact ⟨opens, restored, trivial⟩
    · cases projected
  | whole k =>
    simp only [project] at projected
    split at projected
    · next c u value =>
      cases projected
      obtain ⟨stored, opens⟩ := componentValue_eq_ok value
      exact ⟨opens, rfl, Store.mem_kinds_iff.2 ⟨c, stored⟩⟩
    · cases projected

theorem projectInner_restoreInner (m : Main) (component : Option S.Kind)
    (w : InnerCarrier S m component) (t : PluginState S) :
    projectInner m component (restoreInner m component w t) =
      (.ok (readBackInner m component w), restoreInner m component w t) := by
  cases component with
  | none => simp [projectInner, restoreInner, readBackInner]
  | some k =>
    simp [projectInner, restoreInner, readBackInner, Main.project_withState]

theorem project_restore {shape : Shape S.Kind} {w : shape.Carrier S} (holds : shape.Holds w)
    (t : PluginState S) : shape.project (shape.restore w t) =
      (.ok (shape.readBack w (shape.restore w t)), shape.restore w t) := by
  cases shape with
  | plain m component => exact projectInner_restoreInner m component w t
  | resources m component =>
    simp only [project, restore, projectInner_restoreInner, readBack]
  | whole k =>
    obtain ⟨c, stored⟩ := Store.mem_kinds_iff.1 holds
    simp only [project, restore, componentValue_of_stored stored, readBack]

theorem restoreInner_restoreInner (m : Main) (component : Option S.Kind)
    (v w : InnerCarrier S m component) (t : PluginState S) :
    restoreInner m component w (restoreInner m component v t) = restoreInner m component w t := by
  cases component with
  | none => cases m <;> rfl
  | some k => exact m.restore_restore_withState v.main w.main t k v.comp w.comp

theorem restore_restore (shape : Shape S.Kind) (v w : shape.Carrier S) (t : PluginState S) :
    shape.restore w (shape.restore v t) = shape.restore w t := by
  cases shape with
  | plain m component => exact restoreInner_restoreInner m component v w t
  | resources m component => exact restoreInner_restoreInner m component v.inner w.inner t
  | whole k => rfl

theorem restoreInner_data (component : Option S.Kind) (w : InnerCarrier S .data component)
    (t : PluginState S) :
    restoreInner .data component w t =
      { t with
        data := (restoreInner .data component w t).data
        store := (restoreInner .data component w t).store } ∧
    ∀ k, component ≠ some k →
      Store.find? k (restoreInner .data component w t).store = Store.find? k t.store := by
  cases component with
  | none => exact ⟨rfl, fun _ _ => rfl⟩
  | some own =>
    refine ⟨rfl, fun k other => ?_⟩
    exact Store.find?_insert_of_ne w.comp (fun same => other (by rw [same])) t.store

theorem restore_data {shape : Shape S.Kind} (data : shape.main = .data) (w : shape.Carrier S)
    (t : PluginState S) :
    shape.restore w t =
      { t with data := (shape.restore w t).data, store := (shape.restore w t).store } ∧
    ∀ k, shape.component ≠ some k →
      Store.find? k (shape.restore w t).store = Store.find? k t.store := by
  cases shape with
  | plain m component =>
    cases data
    exact restoreInner_data component w t
  | resources m component =>
    cases data
    exact restoreInner_data component w.inner t
  | whole k => cases data

/-- A whole state that has come from the projected one still has the component's state. -/
theorem holds_of_reaches {shape : Shape S.Kind} {s t : PluginState S} {v : shape.Carrier S}
    (consistent : s.Consistent) (projected : shape.project s = (.ok v, t)) (w : shape.Carrier S)
    (kept : ∀ m m', shape.whole? v = some m → shape.whole? w = some m' → Reaches m m') :
    shape.Holds w := by
  obtain ⟨-, -, held⟩ := project_eq_ok projected
  obtain ⟨keeps, whole⟩ := project_kept consistent shape
  rw [projected] at keeps whole
  cases shape with
  | plain | resources => trivial
  | whole k =>
    have same := (whole v rfl).2 v rfl
    have changed : Reaches v w := kept v w rfl rfl
    exact (changed.kept (same ▸ keeps.consistent)).grown.kinds k held

theorem lawful {s : PluginState S} (consistent : s.Consistent) (shape : Shape S.Kind) :
    shape.Lawful s where
  succeeds := by
    rw [exists_project]
    refine forall₂_congr fun k _ => ?_
    rcases consistent.componentValue k with ⟨owned, found⟩ | ⟨foreign, refused⟩
    · exact iff_of_true found owned
    · exact iff_of_false (by simp [refused]) foreign
  refuses e t projected := by
    obtain ⟨k, names, value⟩ := project_eq_error projected
    rcases consistent.componentValue k with ⟨-, c, u, found⟩ | ⟨-, refused⟩
    · cases found.symm.trans value
    · cases refused.symm.trans value
      exact ⟨rfl, k, names, rfl⟩
  opens v t projected := (project_eq_ok projected).1
  unmodified v t projected := (project_eq_ok projected).2.1
  holds v t projected w kept := holds_of_reaches consistent projected w kept
  reads w t holds := project_restore holds t
  overwrites v w t := restore_restore shape v w t
  leaves data w t := restore_data data w t

end Shape

/-- Every shape of view obeys the laws in whatever state a plugin has come to. -/
theorem lawful_of_runs {lib : Library S} (orderly : lib.Orderly) {config : PluginConfig S}
    {data : S.Data} {settings : Settings} {limits : Limits} {s t : PluginState S}
    (built : config.build data settings limits = .ok s) (runs : Runs lib s t)
    (shape : Shape S.Kind) : shape.Lawful t :=
  Shape.lawful (runs.consistent orderly built) shape

-- The component is active, and nobody has asked for its state yet.
open Notebook in
theorem lawful_of_opening :
    ∃ t, config.build .null ⟨none, false⟩ ⟨⟨0⟩, 1, ⟨0⟩⟩ = .ok start ∧ library.Orderly ∧
      Runs library start t ∧ Store.find? () t.store = none ∧
      (Shape.resources .whole (some ()) : Shape schema.Kind).project t =
        (.ok ⟨⟨t.withState () (.nat 1), .nat 1⟩, t.settings, t.components⟩,
          t.withState () (.nat 1)) ∧
      (Shape.resources .whole (some ()) : Shape schema.Kind).Lawful t := by
  have runs : Runs library start opened :=
    .change (.start start) (.of_operation start (.enable ["pages"]))
  exact ⟨_, build_eq, library_orderly, runs, rfl, rfl,
    lawful_of_runs library_orderly build_eq runs _⟩

end PluginHost
