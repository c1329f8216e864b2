import PluginHost.Proofs.Editor.Meaning
import PluginHost.Proofs.Script

/-!
Chains of editor computations may be regrouped. Whatever is around them and whatever ran before
them, two ways to write a chain ask the same and come to the same outcome, and an error says the same
about where it came from.
-/

set_option autoImplicit false

namespace PluginHost

open Evaluate (Trail raised)

namespace Evaluate

/-- An error that has been raised after these steps is not changed by being raised after them
again. -/
@[simp] theorem raised_raised (e : EditorError) (t : Trail) : raised (raised e t) t = raised e t := by
  obtain ⟨kind, op, trace⟩ := e
  cases trace <;> cases op <;> simp [raised, EditorError.withTrail]

end Evaluate

mutual
-- An error leaves a computation only where it is raised, and no step runs between.
theorem Action.raised_of_returns {α : Type} : (x : Action α) → ∀ {t u : Trail} {e : EditorError},
    (x.meaning t).Returns (.error e, u) → raised e u = e
  | .pure a, t, u, e, returned => by
    rw [Action.meaning, Script.returns_done] at returned
    cases returned
  | .failed e, t, u, _, returned => by
    rw [Action.meaning, Script.returns_done] at returned
    cases returned
    exact Evaluate.raised_raised e t
  | .suspend label body, t, u, e, returned => by
    rw [Action.meaning] at returned
    exact Body.raised_of_returns (body ()) returned
  | .bind x next, t, u, e, returned => by
    rw [Action.meaning, Script.returns_bind] at returned
    obtain ⟨⟨r | b, v⟩, first, later⟩ := returned
    · rw [Script.returns_done] at later
      cases later
      exact Action.raised_of_returns x first
    · exact Body.raised_of_returns (next b) later
  | .recover x handler, t, u, e, returned => by
    rw [Action.meaning, Script.returns_bind] at returned
    obtain ⟨⟨r, v⟩, -, later⟩ := returned
    exact Body.raised_of_returns (handler r) later
termination_by structural x => x

theorem Body.raised_of_returns {α : Type} : (x : Body α) → ∀ {op : String} {t u : Trail}
    {e : EditorError}, (x.meaning op t).Returns (.error e, u) → raised e u = e
  | .build x, op, t, u, e, returned => Action.raised_of_returns x returned
  | .panic m, op, t, u, e, returned => by
    rw [Body.meaning, Script.returns_done] at returned
    cases returned
    exact Evaluate.raised_raised _ t
  | .ask q next, op, t, u, e, returned => by
    rw [Body.meaning, Script.returns_ask] at returned
    obtain ⟨answer, later⟩ := returned
    exact Body.raised_of_returns (next answer) later
  | .fork task next, op, t, u, e, returned => by
    rw [Body.meaning, Script.returns_bind] at returned
    obtain ⟨_, -, later⟩ := returned
    exact Body.raised_of_returns (next ()) later
termination_by structural x => x
end

/-- What code that waits for a value makes of an outcome. -/
def Body.after {α β : Type} (next : β → Body α) :
    Except EditorError β × Trail → Script (Except EditorError α × Trail)
  | (.ok b, t) => (next b).meaning "flat_map" t
  | (.error e, t) => .done (.error e, t)

theorem Action.meaning_bind {α β : Type} (x : Action β) (next : β → Body α) (t : Trail) :
    (Action.bind x next).meaning t = (x.meaning t).bind (Body.after next) := by
  rw [Action.meaning]
  rfl

namespace Body

variable {α β : Type}

/-- The code comes to an action without a panic, whatever it is answered. -/
inductive Builds {α : Type} : Body α → Prop where
  | build (x : Action α) : Builds (.build x)
  | ask {q : Query} {next : q.Answer → Body α} (later : ∀ answer, Builds (next answer)) :
      Builds (.ask q next)
  | fork {task : Action Unit} {next : Unit → Body α} (later : Builds (next ())) :
      Builds (.fork task next)

-- The guard only matters for a panic.
theorem Builds.meaning_eq {x : Body α} (builds : x.Builds) (op op' : String) (t : Trail) :
    x.meaning op t = x.meaning op' t := by
  induction builds with
  | build x => rfl
  | ask _ ih =>
    simp only [meaning, Script.ask.injEq, heq_eq_eq, true_and]
    funext answer
    exact ih answer
  | fork _ ih => simp only [meaning, ih]

theorem Builds.evaluate_eq {x : Body α} (builds : x.Builds) (op : String) :
    x.evaluate = (x.meaning op []).map fun r => .ofExcept r.1 := by
  induction builds with
  | build x =>
    rw [evaluate, Action.evaluate_eq_meaning, meaning, Script.map, Script.map, Script.map,
      Script.bind_assoc]
    rfl
  | ask _ ih =>
    simp only [evaluate, meaning, Script.map, Script.bind, Script.ask.injEq, heq_eq_eq, true_and]
    funext answer
    exact ih answer
  | @fork task next _ ih =>
    rw [evaluate, meaning, ih, Action.evaluate_eq_meaning]
    simp only [Script.map, Script.bind_assoc, Script.done_bind]

theorem meaning_onBuilt_bind (x : Body β) (next : β → Body α) (op : String) (t : Trail) :
    (x.onBuilt fun y => .bind y next).meaning op t = (x.meaning op t).bind (after next) := by
  match x with
  | .panic m => rfl
  | .build y => exact y.meaning_bind next t
  | .ask q k =>
    simp only [onBuilt, meaning, Script.bind, Script.ask.injEq, heq_eq_eq, true_and]
    funext answer
    exact meaning_onBuilt_bind (k answer) next op t
  | .fork task k =>
    simp only [onBuilt, meaning, Script.bind_assoc, meaning_onBuilt_bind (k ()) next op t]

/-- The same questions and the same outcome, under any guard and in any code, and without a guard. -/
structure Agrees (x y : Body β) : Prop where
  guarded : ∀ {α : Type} (op : String) (frames : Frames β α) (t : Trail),
    Evaluate.body op x frames t = Evaluate.body op y frames t
  alone : x.evaluate = y.evaluate

theorem agrees_of_meaning {x y : Body β} (builds : x.Builds) (builds' : y.Builds)
    (same : ∀ op t, x.meaning op t = y.meaning op t) : x.Agrees y where
  guarded op frames t := by rw [Evaluate.body_eq_meaning, Evaluate.body_eq_meaning, same]
  alone := by rw [builds.evaluate_eq "flat_map", builds'.evaluate_eq "flat_map", same]

end Body

namespace Action

variable {α β γ : Type}

/-- The same questions and the same outcome, in any code and after any steps. -/
def Agrees (x y : Action β) : Prop :=
  ∀ {α : Type} (frames : Frames β α) (t : Trail),
    Evaluate.action x frames t = Evaluate.action y frames t

theorem Agrees.evaluate {x y : Action β} (agrees : x.Agrees y) : x.evaluate = y.evaluate :=
  agrees .done []

theorem agrees_of_meaning {x y : Action β} (same : ∀ t, x.meaning t = y.meaning t) : x.Agrees y := by
  intro α frames t
  simp only [Evaluate.action_eq_meaning, same]

theorem meaning_flatMap_pure (x : Action α) (t : Trail) :
    (x.flatMap .pure).meaning t = x.meaning t := by
  rw [flatMap, meaning_bind]
  conv => rhs; rw [← Script.bind_done (x.meaning t)]
  congr 1
  funext ⟨r, u⟩
  cases r <;> rfl

theorem meaning_bind_bind (x : Action α) (f : α → Body β) (g : β → Body γ) (t : Trail) :
    (Action.bind (.bind x f) g).meaning t =
      (Action.bind x fun a => (f a).onBuilt fun y => .bind y g).meaning t := by
  simp only [meaning_bind, Script.bind_assoc]
  congr 1
  funext ⟨r, u⟩
  cases r with
  | ok a => exact ((f a).meaning_onBuilt_bind g "flat_map" u).symm
  | error e => rfl

theorem meaning_recoverFailure_ofResult (x : Action α) (t : Trail) :
    (x.recoverFailure .ofResult).meaning t = x.meaning t := by
  rw [recoverFailure, meaning]
  conv => rhs; rw [← Script.bind_done (x.meaning t)]
  refine Script.bind_congr_of_returns fun ⟨r, u⟩ returned => ?_
  cases r with
  | ok a => rfl
  | error e =>
    have settled := raised_of_returns x returned
    simp [Body.meaning, ofResult, meaning, settled]

theorem agrees_of_builds {a : α} {f : α → Body β} (builds : (f a).Builds) :
    Body.Agrees (.build (.bind (.pure a) f)) (f a) := by
  refine Body.agrees_of_meaning (.build _) builds fun op t => ?_
  rw [Body.meaning, meaning_bind, meaning]
  exact builds.meaning_eq "flat_map" op t

theorem agrees_bind (x : Action α) {f g : α → Body β} (agree : ∀ a, (f a).Agrees (g a)) :
    (Action.bind x f).Agrees (.bind x g) := by
  intro δ frames t
  rw [Evaluate.action, Evaluate.action, Evaluate.action_eq_meaning, Evaluate.action_eq_meaning]
  simp only [Script.map, Script.bind_assoc]
  congr 1
  funext ⟨r, u⟩
  cases r with
  | ok a =>
    have same := (agree a).guarded "flat_map" frames u
    rwa [Evaluate.body_eq_meaning, Evaluate.body_eq_meaning] at same
  | error e => rfl

theorem agrees_recover (x : Action α) {f g : Except EditorError α → Body β}
    (agree : ∀ r, (f r).Agrees (g r)) : (Action.recover x f).Agrees (.recover x g) := by
  intro δ frames t
  rw [Evaluate.action, Evaluate.action, Evaluate.action_eq_meaning, Evaluate.action_eq_meaning]
  simp only [Script.map, Script.bind_assoc]
  congr 1
  funext ⟨r, u⟩
  have same := (agree r).guarded "recover" frames u
  rwa [Evaluate.body_eq_meaning, Evaluate.body_eq_meaning] at same

/-- A chain that ends in `pure` is the chain without it, the steps of a chain may be grouped either
way, code that gets a value at once is that code, and to recover with the outcome itself is not to
recover. The code of the chain may panic and fail, and may itself be regrouped. -/
theorem regrouping (x : Action α) (f : α → Body β) (g : β → Body γ) :
    (x.flatMap .pure).Agrees x ∧
    (Action.bind (.bind x f) g).Agrees (.bind x fun a => (f a).onBuilt fun y => .bind y g) ∧
    (∀ a, (f a).Builds → Body.Agrees (.build (.bind (.pure a) f)) (f a)) ∧
    (x.recoverFailure .ofResult).Agrees x ∧
    (∀ f', (∀ a, (f a).Agrees (f' a)) → (Action.bind x f).Agrees (.bind x f')) ∧
    ∀ h h' : Except EditorError α → Body β, (∀ r, (h r).Agrees (h' r)) →
      (Action.recover x h).Agrees (.recover x h') :=
  ⟨agrees_of_meaning x.meaning_flatMap_pure, agrees_of_meaning (x.meaning_bind_bind f g),
    fun _ builds => agrees_of_builds builds,
    agrees_of_meaning x.meaning_recoverFailure_ofResult,
    fun _ agree => agrees_bind x agree, fun _ _ agree => agrees_recover x agree⟩

-- Code that asks before it has built its action, and code that panics in the place of it.
def counted (n : Nat) : Body Nat :=
  .ask .channel fun channel => .build (.suspend "simple" fun () => .pure (n + channel.toNat))

def broken : Nat → Body Unit := fun _ => .panic "broken"

theorem counted_builds (n : Nat) : (counted n).Builds := .ask fun _ => .build _

theorem regrouping_broken :
    (counted 3).Builds ∧ Body.Agrees (.build (.bind (.pure 3) counted)) (counted 3) ∧
      (Action.bind (.pure 3) fun n => (counted n).onBuilt fun y => .bind y broken).evaluate.Asks
        [⟨.channel, 1⟩] (.error ⟨.fatal "broken", some "flat_map", ["simple"]⟩) := by
  obtain ⟨-, grouped, at_once, -, -, -⟩ := regrouping (.pure 3) counted broken
  refine ⟨counted_builds 3, at_once 3 (counted_builds 3), ?_⟩
  rw [← grouped.evaluate, evaluate_eq_meaning, meaning_bind, meaning_bind]
  exact .ask (.done _)

end Action

end PluginHost
