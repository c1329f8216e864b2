import PluginHost.Proofs.Plugin.Activation
import PluginHost.Proofs.Plugin.Views

/-!
Parts of a plugin's state that only a view of the whole state shows. Neither the work on data and
component states nor the activation of components reaches them.
-/

set_option autoImplicit false

namespace PluginHost

variable {S : Schema} {β : Type} {f : PluginState S → β}

namespace PluginState

structure Hidden (f : PluginState S → β) : Prop where
  data : ∀ s data, f { s with data } = f s
  store : ∀ s k v, f (s.withState k v) = f s
  activation : ∀ s components handlers, f { s with components, handlers } = f s

end PluginState

/-- Whether the operation puts something into the state that data and component states have no part
in. -/
def Operation.Sets : Operation S → Prop
  | .logProgram _ | .setTriggers _ | .bindMapping _ _ _ | .setExecutor _ | .setLogFilter _ => True
  | _ => False

namespace PluginState.Hidden

theorem componentValue (hidden : Hidden f) (s : PluginState S) (k : S.Kind) :
    f (s.componentValue k).2 = f s := by
  unfold PluginState.componentValue
  split
  next => rfl
  next =>
    split
    next v _ => exact hidden.store s k v
    next => rfl

theorem storeValue (hidden : Hidden f) {s t : PluginState S} {k : S.Kind}
    {value : Σ k : S.Kind, S.State k} (stored : s.storeValue k value = .ok t) : f t = f s := by
  unfold PluginState.storeValue at stored
  split at stored
  next =>
    obtain ⟨_, -, result_eq⟩ := exists_of_bind_eq_ok stored
    cases result_eq
    exact hidden.store s value.1 value.2
  next => cases stored

theorem modifyData (hidden : Hidden f) (s : PluginState S) (name : String)
    (change : Json → Except PluginError Json) : f (s.modifyData name change).2 = f s := by
  unfold PluginState.modifyData
  split
  next => rfl
  next k _ =>
    have read := hidden.componentValue s k
    split
    next value => rwa [value] at read
    next v t value =>
      rw [value] at read
      split
      next => exact read
      next w _ => exact (hidden.store t k w).trans read

theorem apply (hidden : Hidden f) {op : Operation S} (plain : ¬ op.Sets) (s : PluginState S) :
    f (op.apply s) = f s := by
  cases op with
  | enable names =>
    simp only [Operation.apply, Builtin.enableStep]
    split
    next enabled =>
      obtain ⟨-, -, -, rfl⟩ := enable_eq_ok.1 enabled
      exact hidden.activation s _ _
    next => rfl
  | read k => exact hidden.componentValue s k
  | store k value =>
    simp only [Operation.apply]
    cases stored : s.storeValue k value with
    | error e => rfl
    | ok t => exact hidden.storeValue stored
  | readJson name =>
    simp only [Operation.apply, dataFor]
    split
    next => rfl
    next k _ => exact hidden.componentValue s k
  | modify name change => exact hidden.modifyData s name change
  | setData data => exact hidden.data s data
  | logProgram | setTriggers | bindMapping | setExecutor | setLogFilter => exact absurd trivial plain

theorem project (hidden : Hidden f) (shape : Shape S.Kind) (s : PluginState S) :
    f (shape.project s).2 = f s := by
  have inner (m : Main) (component : Option S.Kind) :
      f (Shape.projectInner m component s).2 = f s := by
    cases component with
    | none => rfl
    | some k =>
      have read := hidden.componentValue s k
      simp only [Shape.projectInner]
      split <;> next value => rwa [value] at read
  cases shape with
  | plain m component => exact inner m component
  | resources m component =>
    have read := inner m component
    simp only [Shape.project]
    split <;> next projected => rwa [projected] at read
  | whole k =>
    have read := hidden.componentValue s k
    simp only [Shape.project]
    split <;> next value => rwa [value] at read

theorem restoreInner (hidden : Hidden f) (m : Main) (component : Option S.Kind)
    (w : Shape.InnerCarrier S m component) (t : PluginState S) :
    f (Shape.restoreInner m component w t) = f ((Shape.innerWhole? m component w).getD t) := by
  cases component with
  | none =>
    cases m with
    | data => exact hidden.data t w
    | whole => rfl
  | some k =>
    refine (hidden.store _ k w.comp).trans ?_
    cases m with
    | data => exact hidden.data t w.main
    | whole => rfl

/-- Of a state that a view is written back into, they are those of the view if it has any. -/
theorem restore (hidden : Hidden f) (shape : Shape S.Kind) (w : shape.Carrier S)
    (t : PluginState S) : f (shape.restore w t) = f ((shape.whole? w).getD t) := by
  cases shape with
  | plain m component => exact hidden.restoreInner m component w t
  | resources m component => exact hidden.restoreInner m component w.inner t
  | whole k => rfl

theorem opened (hidden : Hidden f) {shape : Shape S.Kind} {s t : PluginState S}
    {result : Except PluginError (shape.Carrier S)} (projected : shape.project s = (result, t)) :
    f t = f s := by
  have same := hidden.project shape s
  rwa [projected] at same

theorem viewed (hidden : Hidden f) {shape : Shape S.Kind} {s t m : PluginState S}
    {v : shape.Carrier S} (projected : shape.project s = (.ok v, t))
    (whole : shape.whole? v = some m) : f m = f s := by
  have unmodified := hidden.restore shape v t
  rw [whole, (Shape.project_eq_ok projected).2.1] at unmodified
  exact unmodified.symm.trans (hidden.opened projected)

/-- Writing back leaves them as they were, or as the code has left them in the whole state it got. -/
theorem writeBack (hidden : Hidden f) {shape : Shape S.Kind} {s t : PluginState S}
    {v : shape.Carrier S} (w : shape.Carrier S) (projected : shape.project s = (.ok v, t)) :
    f (shape.restore w t) = f s ∨ ∃ m m', shape.whole? v = some m ∧ shape.whole? w = some m' ∧
      f m = f s ∧ f (shape.restore w t) = f m' := by
  have restored := hidden.restore shape w t
  cases written : shape.whole? w with
  | none =>
    rw [written] at restored
    exact .inl (restored.trans (hidden.opened projected))
  | some m' =>
    obtain ⟨m, whole⟩ := Shape.exists_whole v written
    rw [written] at restored
    exact .inr ⟨m, m', whole, rfl, hidden.viewed projected whole, restored⟩

end PluginState.Hidden

end PluginHost
