import PluginHost.Proofs.Editor.Alike
import PluginHost.Stateful

/-!
Chains of computations that carry a state. The state goes through a chain from left to right, so the
laws of a monad hold of what a chain comes to, for code that does not look at the steps before it.
-/

set_option autoImplicit false

namespace PluginHost

open Evaluate (Trail)

namespace Stateful

variable {σ α β γ : Type}

/-- The computation does not panic before it has built its action. -/
def Calm (x : Stateful σ α) : Prop := ∀ s, (x.run s).Builds

/-- The computation is calm, and its handlers go by the kind of an error. -/
structure Impartial (x : Stateful σ α) : Prop where
  calm : x.Calm
  alike : ∀ s, (x.run s).Alike (x.run s)

-- The state that the first part leaves is the one that the next part starts from.
theorem meaning_flatMap (x : Stateful σ α) (f : α → Stateful σ β) (s : σ) (op : String) (t : Trail) :
    ((x.flatMap f).run s).meaning op t = ((x.run s).meaning "suspend" (t.push "suspend")).bind
      (Body.after fun r => (f r.2).run r.1) := by
  rw [flatMap, Body.meaning, Action.meaning_bind, Action.suspended, Action.meaning]

/-- What a computation comes to: the state and the value, or the kind of the error. -/
def outcome (x : Stateful σ α) (s : σ) : Script (Outcome ErrorKind (σ × α)) :=
  (x.run s).evaluate.map (·.mapError EditorError.kind)

/-- Goes on with the state and the value that came before. -/
def onward (f : α → Stateful σ β) :
    Outcome ErrorKind (σ × α) → Script (Outcome ErrorKind (σ × β))
  | .value (s, a) => (f a).outcome s
  | .error kind => .done (.error kind)
  | .panic m => .done (.panic m)

theorem Calm.outcome_eq {x : Stateful σ α} (calm : x.Calm) (s : σ) (op : String) :
    x.outcome s = (((x.run s).meaning op []).map Evaluate.seen).map .ofExcept := by
  rw [outcome, (calm s).evaluate_eq op, Script.map_map, Script.map_map]
  congr 1
  funext ⟨r, t⟩
  cases r <;> rfl

-- The guard and the steps before do not show.
theorem Impartial.outcome_eq {x : Stateful σ α} (impartial : x.Impartial) (s : σ) (op : String)
    (t : Trail) : x.outcome s = (((x.run s).meaning op t).map Evaluate.seen).map .ofExcept := by
  rw [impartial.calm.outcome_eq s op, (impartial.alike s).seen_eq op op [] t]

theorem pure_impartial (a : α) : (pure a : Stateful σ α).Impartial where
  calm _ := .build _
  alike s := .build (.pure (s, a))

theorem Impartial.flatMap {x : Stateful σ α} {f : α → Stateful σ β} (impartial : x.Impartial)
    (next : ∀ a, (f a).Impartial) : (x.flatMap f).Impartial where
  calm _ := .build _
  alike s := .build (.bind (.suspend (impartial.alike s)) fun r => (next r.2).alike r.1)

theorem outcome_pure (a : α) (s : σ) : (pure a).outcome s = .done (.value (s, a)) := by
  rw [(pure_impartial a).outcome_eq s "suspend" []]
  rfl

theorem Impartial.outcome_flatMap {x : Stateful σ α} {f : α → Stateful σ β}
    (impartial : x.Impartial) (next : ∀ a, (f a).Impartial) (s : σ) :
    (x.flatMap f).outcome s = (x.outcome s).bind (onward f) := by
  rw [(impartial.flatMap next).outcome_eq s "suspend" [], meaning_flatMap,
    impartial.outcome_eq s "suspend" (Trail.push [] "suspend"), Script.map_bind, Script.map_bind,
    Script.map_map, Script.map, Script.bind_assoc]
  congr 1
  funext ⟨r, u⟩
  cases r with
  | ok r => exact ((next r.2).outcome_eq r.1 "flat_map" u).symm
  | error e => rfl

theorem onward_pure : onward (pure : α → Stateful σ α) = .done := by
  funext r
  cases r with
  | value r => exact outcome_pure r.2 r.1
  | error kind => rfl
  | panic m => rfl

theorem onward_bind_onward {f : α → Stateful σ β} {g : β → Stateful σ γ}
    (next : ∀ a, (f a).Impartial) (last : ∀ b, (g b).Impartial)
    (r : Outcome ErrorKind (σ × α)) :
    (onward f r).bind (onward g) = onward (fun a => (f a).flatMap g) r := by
  cases r with
  | value r => exact ((next r.2).outcome_flatMap last r.1).symm
  | error kind => rfl
  | panic m => rfl

theorem outcome_flatMap_pure {x : Stateful σ α} (impartial : x.Impartial) (s : σ) :
    (x.flatMap pure).outcome s = x.outcome s := by
  rw [impartial.outcome_flatMap pure_impartial, onward_pure]
  exact Script.bind_done _

theorem outcome_pure_flatMap {f : α → Stateful σ β} (next : ∀ a, (f a).Impartial) (a : α) (s : σ) :
    ((pure a).flatMap f).outcome s = (f a).outcome s := by
  rw [(pure_impartial a).outcome_flatMap next, outcome_pure]
  rfl

theorem outcome_flatMap_flatMap {x : Stateful σ α} {f : α → Stateful σ β} {g : β → Stateful σ γ}
    (impartial : x.Impartial) (next : ∀ a, (f a).Impartial) (last : ∀ b, (g b).Impartial) (s : σ) :
    ((x.flatMap f).flatMap g).outcome s = (x.flatMap fun a => (f a).flatMap g).outcome s := by
  have grouped (a : α) : ((f a).flatMap g).Impartial := (next a).flatMap last
  rw [(impartial.flatMap next).outcome_flatMap last, impartial.outcome_flatMap next,
    impartial.outcome_flatMap grouped, Script.bind_assoc]
  congr 1
  funext r
  exact onward_bind_onward next last r

end Stateful
end PluginHost
