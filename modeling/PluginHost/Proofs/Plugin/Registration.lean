import Mathlib.Data.List.Nodup
import PluginHost.Proofs.Plugin.Catalog

/-!
Registration call by call, on a catalog that is changed in place. Whatever is registered and whatever
is refused, the places stay in step with the components, and names and kinds of state stay apart.
-/

set_option autoImplicit false

namespace PluginHost

variable {S : Schema}

namespace Catalog

variable {c : Catalog S} {component : Component S} {name : String} {kind : S.Kind}

/-- Registers a component in place. What is written before a refusal would stay behind. -/
def enter (component : Component S) : ExceptT PluginError (StateM (Catalog S)) Unit := do
  let c ← get
  if c.contains component.name then
    throw (.conflict s!"component `{component.name}` is registered twice")
  if let some kind := component.stateKind then
    if let some owner := c.ownerOf kind then
      let taken := S.kindName kind
      throw (.conflict
        s!"components `{owner.name}` and `{component.name}` both declare state type {taken}")
  modify fun c => { c with places := (component.name, c.components.length) :: c.places }
  modify fun c => { c with components := c.components ++ [component] }

/-- Registers one component after the other, and goes on after a refusal. -/
def enterAll : List (Component S) → StateM (Catalog S) (List (Except PluginError Unit))
  | [] => return []
  | component :: rest => do
    let result ← (enter component).run
    return result :: (← enterAll rest)

/-- The components whose registration succeeded. -/
def accepted (calls : List (Component S)) (results : List (Except PluginError Unit)) :
    List (Component S) :=
  ((calls.zip results).filter fun call => call.2.isOk).map (·.1)

/-- Whether the name or the kind of state belongs to a component already. -/
def Taken (c : Catalog S) (component : Component S) : Prop :=
  component.name ∈ c.names ∨
    ∃ kind, component.stateKind = some kind ∧ ∃ owner ∈ c.components, owner.stateKind = some kind

theorem run_get_bind {ε σ α : Type} (f : σ → ExceptT ε (StateM σ) α) (s : σ) :
    (get >>= f).run.run s = (f s).run.run s := rfl

theorem run_enter (c : Catalog S) (component : Component S) :
    (enter component).run.run c = match c.register component with
      | .ok after => (.ok (), after)
      | .error e => (.error e, c) := by
  rw [enter, run_get_bind, register]
  by_cases named : c.contains component.name = true
  next =>
    rw [if_pos named, if_pos named]
    rfl
  next =>
    rw [if_neg named, if_neg named]
    cases component.stateKind with
    | none => rfl
    | some kind =>
      dsimp only
      cases c.ownerOf kind <;> rfl

theorem run_enterAll_cons (c : Catalog S) (component : Component S)
    (rest : List (Component S)) :
    (enterAll (component :: rest)).run c =
      let first := (enter component).run.run c
      let later := (enterAll rest).run first.2
      (first.1 :: later.1, later.2) := rfl

theorem nameAt_eq (c : Catalog S) (i : Nat) : c.nameAt i = c.names[i]? := by
  simp [nameAt, names]

theorem Sound.contains_iff (sound : c.Sound) : c.contains name = true ↔ name ∈ c.names := by
  simp only [contains, Option.isSome_iff_exists, sound.places, nameAt_eq, List.mem_iff_getElem?]

theorem ownerOf_isSome : (c.ownerOf kind).isSome ↔
    ∃ owner ∈ c.components, owner.stateKind = some kind := by
  simp [ownerOf, List.find?_isSome]

theorem Sound.register_eq (sound : c.Sound) (component : Component S) :
    (c.Taken component ∧ ∃ e, c.register component = .error e) ∨
      ¬ c.Taken component ∧ c.register component = .ok (c.add component) := by
  rw [Taken, ← sound.contains_iff, Catalog.register]
  by_cases named : c.contains component.name = true
  next => exact .inl ⟨.inl named, _, if_pos named⟩
  next =>
    rw [if_neg named]
    cases declares : component.stateKind with
    | none => exact .inr ⟨by simp [named], rfl⟩
    | some kind =>
      dsimp only
      cases owned : c.ownerOf kind with
      | none =>
        have free : ¬ ∃ owner ∈ c.components, owner.stateKind = some kind := by
          rw [← ownerOf_isSome, owned]
          exact Bool.false_ne_true
        exact .inr ⟨by simpa [named] using free, rfl⟩
      | some owner =>
        exact .inl ⟨.inr ⟨kind, rfl, ownerOf_isSome.1 (Option.isSome_of_eq_some owned)⟩, _, rfl⟩

/-- What a call answers, and the catalog after it. -/
inductive Enters (c : Catalog S) (component : Component S) :
    Except PluginError Unit → Catalog S → Prop
  | refused {e : PluginError} (taken : c.Taken component)
      (refused : c.register component = .error e) : Enters c component (.error e) c
  | added (free : ¬ c.Taken component) (registered : c.register component = .ok (c.add component)) :
      Enters c component (.ok ()) (c.add component)

theorem Sound.enters (sound : c.Sound) (component : Component S) :
    c.Enters component ((enter component).run.run c).1 ((enter component).run.run c).2 := by
  rw [run_enter]
  obtain ⟨taken, e, refused⟩ | ⟨free, registered⟩ := sound.register_eq component
  next =>
    rw [refused]
    exact .refused taken refused
  next =>
    rw [registered]
    exact .added free registered

theorem Sound.run_enterAll (sound : c.Sound) (calls : List (Component S)) :
    ∃ results after, (enterAll calls).run c = (results, after) ∧ after.Sound ∧
      results.length = calls.length ∧
      after.components = c.components ++ accepted calls results := by
  induction calls generalizing c with
  | nil => exact ⟨[], c, rfl, sound, rfl, (List.append_nil _).symm⟩
  | cons component rest ih =>
    rw [run_enterAll_cons]
    generalize (enter component).run.run c = call, sound.enters component = enters
    obtain ⟨result, left⟩ := call
    cases enters with
    | @refused e taken refused =>
      obtain ⟨results, after, ran, sound', length, components⟩ := ih sound
      refine ⟨.error e :: results, after, ?_, sound', ?_, ?_⟩
      next => exact congrArg (fun later => (Except.error e :: later.1, later.2)) ran
      next => rw [List.length_cons, List.length_cons, length]
      next => simpa [accepted, Except.isOk, Except.toBool] using components
    | added free registered =>
      obtain ⟨results, after, ran, sound', length, components⟩ := ih (sound.register registered)
      refine ⟨.ok () :: results, after, ?_, sound', ?_, ?_⟩
      next => exact congrArg (fun later => (Except.ok () :: later.1, later.2)) ran
      next => rw [List.length_cons, List.length_cons, length]
      next => simpa [accepted, Except.isOk, Except.toBool, Catalog.add] using components

theorem Sound.nodup_names (sound : c.Sound) : c.names.Nodup := by
  rw [List.nodup_iff_getElem?_ne_getElem?]
  intro i j less bound same
  obtain ⟨name, there⟩ : ∃ name, c.names[j]? = some name := ⟨_, List.getElem?_eq_getElem bound⟩
  have first := (sound.places name i).2 (by rw [nameAt_eq, same, there])
  have second := (sound.places name j).2 (by rw [nameAt_eq, there])
  rw [first] at second
  exact Nat.ne_of_lt less (Option.some.inj second)

theorem count_stateKind (c : Catalog S) (kind : S.Kind) :
    (c.components.filterMap Component.stateKind).count kind = (c.declaring kind).length := by
  rw [declaring, ← List.countP_eq_length_filter, List.count_filterMap]
  congr 1
  funext component
  exact beq_eq_decide ..

theorem Sound.nodup_kinds (sound : c.Sound) :
    (c.components.filterMap Component.stateKind).Nodup := by
  rw [List.nodup_iff_count_le_one]
  intro kind
  rw [count_stateKind]
  exact sound.owners kind

theorem Sound.ownerOf_eq_some (sound : c.Sound) {owner : Component S} :
    c.ownerOf kind = some owner ↔ c.declaring kind = [owner] := by
  constructor
  next =>
    intro owns
    obtain ⟨member, declares⟩ := ownerOf_spec owns
    exact sound.declaring_eq member declares
  next => exact ownerOf_of_declaring

/-- Whatever calls have been made, the next one is refused just if its name or its kind of state is
taken, and then the catalog stays as it is. Each name leads to the place of its component, no name and
no kind of state belongs to two, and the components are those that were accepted, in order. -/
theorem registered_in_step (calls : List (Component S)) :
    ∃ results c, (enterAll calls).run empty = (results, c) ∧ results.length = calls.length ∧
      (∀ component,
        c.Enters component ((enter component).run.run c).1 ((enter component).run.run c).2) ∧
      (∀ name i, c.places.lookup name = some i ↔
        ∃ component, c.components[i]? = some component ∧ component.name = name) ∧
      (∀ name component, c.get? name = some component ↔
        component ∈ c.components ∧ component.name = name) ∧
      (∀ name, c.contains name = true ↔ name ∈ c.names) ∧
      c.names.Nodup ∧ (c.components.filterMap Component.stateKind).Nodup ∧
      c.names = (accepted calls results).map (·.name) ∧
      ∀ kind owner, c.ownerOf kind = some owner ↔ c.declaring kind = [owner] := by
  obtain ⟨results, c, ran, sound, length, components⟩ := sound_empty.run_enterAll calls
  refine ⟨results, c, ran, length, sound.enters, fun name i => ?_, fun name component => ?_,
    fun name => sound.contains_iff, sound.nodup_names, sound.nodup_kinds, ?_,
    fun kind owner => sound.ownerOf_eq_some⟩
  next => simp [sound.places, nameAt]
  next => exact sound.get?_eq_some
  next =>
    rw [names, components]
    rfl

end Catalog

end PluginHost
