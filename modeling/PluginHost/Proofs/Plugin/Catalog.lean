import PluginHost.Plugin.Config

/-!
Catalogs that registration builds: a name leads to the component that has it, and no kind of state
is declared twice.
-/

set_option autoImplicit false

namespace PluginHost

theorem exists_of_bind_eq_ok {ε α β : Type} {x : Except ε α} {f : α → Except ε β} {b : β}
    (h : x >>= f = .ok b) : ∃ a, x = .ok a ∧ f a = .ok b := by
  cases x with
  | error e => cases h
  | ok a => exact ⟨a, rfl, h⟩

theorem bind_eq_ok_iff {ε α β : Type} {x : Except ε α} {f : α → Except ε β} {b : β} :
    x >>= f = .ok b ↔ ∃ a, x = .ok a ∧ f a = .ok b := by
  refine ⟨exists_of_bind_eq_ok, ?_⟩
  rintro ⟨a, rfl, rest⟩
  exact rest

theorem bind_eq_error_iff {ε α β : Type} {x : Except ε α} {f : α → Except ε β} {e : ε} :
    x >>= f = .error e ↔ x = .error e ∨ ∃ a, x = .ok a ∧ f a = .error e := by
  cases x with
  | error cause => simp [bind, Except.bind]
  | ok a => simp [bind, Except.bind]

theorem eq_ok_get {ε α : Type} {x : Except ε α} (succeeds : x.toOption.isSome = true) :
    x = .ok (x.toOption.get succeeds) := by
  cases x with
  | error e => cases succeeds
  | ok a => rfl

variable {S : Schema}

namespace Catalog

/-- The components that declare a kind of state. -/
def declaring (c : Catalog S) (k : S.Kind) : List (Component S) :=
  c.components.filter fun component => component.stateKind = some k

def handlersOf (c : Catalog S) (name : String) : List (Handler S) :=
  ((c.get? name).map (·.handlers)).getD []

def nameAt (c : Catalog S) (i : Nat) : Option String := (c.components[i]?).map (·.name)

structure Sound (c : Catalog S) : Prop where
  places : ∀ name i, c.places.lookup name = some i ↔ c.nameAt i = some name
  owners : ∀ k, (c.declaring k).length ≤ 1

theorem sound_empty : (empty : Catalog S).Sound where
  places := by simp [empty, nameAt]
  owners := by simp [empty, declaring]

theorem Sound.add {c : Catalog S} (sound : c.Sound) {component : Component S}
    (unnamed : c.contains component.name = false)
    (undeclared : ∀ k, component.stateKind = some k → c.ownerOf k = none) :
    (c.add component).Sound where
  places name i := by
    have absent : c.places.lookup component.name = none := by
      simpa [contains] using unnamed
    have position : (c.add component).nameAt i =
        if i = c.components.length then some component.name else c.nameAt i := by
      rcases Nat.lt_trichotomy i c.components.length with less | rfl | more
      · simp [nameAt, Catalog.add, List.getElem?_append_left less, Nat.ne_of_lt less]
      · simp [nameAt, Catalog.add]
      · have beyond : (c.components ++ [component])[i]? = none :=
          List.getElem?_eq_none (by simp; omega)
        simp [nameAt, Catalog.add, beyond, Nat.ne_of_gt more, Nat.le_of_lt more]
    rw [position]
    by_cases same : name = component.name
    · subst same
      have free : c.nameAt i ≠ some component.name := fun here => by
        simp [(sound.places component.name i).2 here] at absent
      by_cases last : i = c.components.length
      · simp [Catalog.add, last]
      · simp [Catalog.add, last, free, Ne.symm last]
    · have different : (name == component.name) = false := by simpa using same
      have end_free : c.nameAt c.components.length = none := by simp [nameAt]
      simp only [Catalog.add, List.lookup_cons, different, sound.places name i]
      by_cases last : i = c.components.length
      · simp [last, end_free, Ne.symm same]
      · simp [last]
  owners k := by
    by_cases declares : component.stateKind = some k
    · have none_yet : c.declaring k = [] := by
        simpa [ownerOf, declaring] using undeclared k declares
      have split : (c.add component).declaring k = c.declaring k ++ [component] := by
        simp [declaring, Catalog.add, List.filter_append, declares]
      simp [split, none_yet]
    · have same : (c.add component).declaring k = c.declaring k := by
        simp [declaring, Catalog.add, List.filter_append, declares]
      exact same ▸ sound.owners k

theorem Sound.register {c c' : Catalog S} {component : Component S} (sound : c.Sound)
    (registered : c.register component = .ok c') : c'.Sound := by
  unfold Catalog.register at registered
  split at registered
  · cases registered
  · next fresh =>
    have unnamed : c.contains component.name = false := by simpa using fresh
    split at registered
    · next stateless =>
      cases registered
      exact sound.add unnamed (by simp [stateless])
    · next kind declares =>
      split at registered
      · next unowned =>
        cases registered
        refine sound.add unnamed fun k same => ?_
        rw [declares] at same
        cases same
        exact unowned
      · cases registered

theorem Sound.registerAll {components : List (Component S)} {c c' : Catalog S} (sound : c.Sound)
    (registered : components.foldlM Catalog.register c = .ok c') : c'.Sound := by
  induction components generalizing c with
  | nil =>
    cases registered
    exact sound
  | cons component rest ih =>
    rw [List.foldlM_cons] at registered
    obtain ⟨next, first, later⟩ := exists_of_bind_eq_ok registered
    exact ih (sound.register first) later

theorem Sound.get?_eq_some {c : Catalog S} (sound : c.Sound) {name : String}
    {component : Component S} :
    c.get? name = some component ↔ component ∈ c.components ∧ component.name = name := by
  simp only [get?, Option.bind_eq_some_iff]
  constructor
  · rintro ⟨i, place, found⟩
    have named := (sound.places name i).1 place
    simp only [nameAt, found, Option.map_some, Option.some.injEq] at named
    exact ⟨List.mem_of_getElem? found, named⟩
  · rintro ⟨member, named⟩
    obtain ⟨i, found⟩ := List.getElem?_of_mem member
    exact ⟨i, (sound.places name i).2 (by simp [nameAt, found, named]), found⟩

/-- Whoever declares a kind of state is the only one to declare it. -/
theorem Sound.declaring_eq {c : Catalog S} (sound : c.Sound) {k : S.Kind} {owner : Component S}
    (member : owner ∈ c.components) (declares : owner.stateKind = some k) :
    c.declaring k = [owner] := by
  have declared : owner ∈ c.declaring k := by simp [declaring, member, declares]
  have short := sound.owners k
  match found : c.declaring k, declared, short with
  | [only], declared, _ =>
    rw [List.mem_singleton.1 declared]

theorem ownerOf_of_declaring {c : Catalog S} {k : S.Kind} {owner : Component S}
    (only : c.declaring k = [owner]) : c.ownerOf k = some owner := by
  rw [ownerOf, ← List.head?_filter]
  exact congrArg List.head? only

theorem ownerOf_spec {c : Catalog S} {k : S.Kind} {owner : Component S}
    (owns : c.ownerOf k = some owner) : owner ∈ c.components ∧ owner.stateKind = some k := by
  refine ⟨List.mem_of_find?_eq_some owns, ?_⟩
  simpa using List.find?_some owns

end Catalog

theorem PluginConfig.catalog_sound {config : PluginConfig S} {c : Catalog S}
    (built : config.catalog = .ok c) : c.Sound :=
  Catalog.sound_empty.registerAll built

end PluginHost
