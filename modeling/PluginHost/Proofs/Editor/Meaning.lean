import PluginHost.Editor.Meaning

/-!
The machine that evaluates actions does what they mean: a stack of frames is the code around an
action. In that code an error passes by the continuations and stops at the nearest handler, and a
panic is an error like any other.
-/

set_option autoImplicit false

namespace PluginHost

open Evaluate (Trail raised)

namespace Frames

/-- The action with all that waits for it. -/
def around {α β : Type} : Frames β α → Action β → Action α
  | .done, x => x
  | .bind next rest, x => rest.around (.bind x next)
  | .recover handler rest, x => rest.around (.recover x handler)

/-- What the frames make of an outcome. -/
def resume {α β : Type} : Frames β α → Except EditorError β × Trail →
    Script (Except EditorError α × Trail)
  | .done, r => .done r
  | .bind next rest, (.ok b, t) => ((next b).meaning "flat_map" t).bind rest.resume
  | .bind _ rest, (.error e, t) => rest.resume (.error e, t)
  | .recover handler rest, (r, t) => ((handler r).meaning "recover" t).bind rest.resume

/-- A handler and what waits for it in turn. -/
structure Handling (α : Type) : Type 1 where
  {caught built : Type}
  handler : Except EditorError caught → Body built
  rest : Frames built α

def nearest {α β : Type} : Frames β α → Option (Handling α)
  | .done => none
  | .bind _ rest => rest.nearest
  | .recover handler rest => some ⟨handler, rest⟩

variable {α β γ : Type}

theorem resume_error (frames : Frames β α) (e : EditorError) (t : Trail) :
    frames.resume (.error e, t) = match frames.nearest with
      | none => .done (.error e, t)
      | some h => ((h.handler (.error e)).meaning "recover" t).bind h.rest.resume := by
  induction frames with
  | done => rfl
  | bind next rest ih => simpa [resume, nearest] using ih
  | recover handler rest => rfl

theorem meaning_bind (x : Action γ) (next : γ → Body β) (rest : Frames β α) (t : Trail) :
    ((Action.bind x next).meaning t).bind rest.resume =
      (x.meaning t).bind (Frames.bind next rest).resume := by
  rw [Action.meaning, Script.bind_assoc]
  congr 1
  funext ⟨r, t⟩
  cases r <;> rfl

theorem meaning_recover (x : Action γ) (handler : Except EditorError γ → Body β)
    (rest : Frames β α) (t : Trail) :
    ((Action.recover x handler).meaning t).bind rest.resume =
      (x.meaning t).bind (Frames.recover handler rest).resume := by
  rw [Action.meaning, Script.bind_assoc]
  rfl

theorem meaning_around (frames : Frames β α) (x : Action β) (t : Trail) :
    (frames.around x).meaning t = (x.meaning t).bind frames.resume := by
  induction frames with
  | done => exact (Script.bind_done _).symm
  | bind next rest ih => rw [around, ih, meaning_bind]
  | recover handler rest ih => rw [around, ih, meaning_recover]

end Frames

namespace Evaluate

mutual
-- Along the machine's own steps, since what the frames run next is no part of the action itself.
theorem action_eq_meaning {α β : Type} (x : Action β) (frames : Frames β α) (t : Trail) :
    action x frames t = ((x.meaning t).bind frames.resume).map Prod.fst := by
  match x, frames with
  | .suspend label b, frames =>
    rw [action, Action.meaning]
    exact body_eq_meaning label (b ()) frames (t.push label)
  | .bind x next, frames =>
    rw [action, action_eq_meaning x (.bind next frames) t, Frames.meaning_bind]
  | .recover x handler, frames =>
    rw [action, action_eq_meaning x (.recover handler frames) t, Frames.meaning_recover]
  | .pure a, .done => simp [action, Action.meaning, Frames.resume, Script.map]
  | .pure a, .bind next rest =>
    simp only [action, Action.meaning, Script.done_bind, Frames.resume]
    exact body_eq_meaning "flat_map" (next a) rest t
  | .pure a, .recover handler rest =>
    simp only [action, Action.meaning, Script.done_bind, Frames.resume]
    exact body_eq_meaning "recover" (handler (.ok a)) rest t
  | .failed e, .done => simp [action, Action.meaning, Frames.resume, Script.map]
  | .failed e, .bind next rest =>
    simp only [action, Action.meaning, Script.done_bind, Frames.resume]
    simpa [Action.meaning] using action_eq_meaning (.failed e) rest t
  | .failed e, .recover handler rest =>
    simp only [action, Action.meaning, Script.done_bind, Frames.resume]
    exact body_eq_meaning "recover" (handler (.error (raised e t))) rest t
termination_by (⟨α, .action x frames⟩ : Σ α : Type, Config α)
decreasing_by all_goals constructor

theorem body_eq_meaning {α β : Type} (op : String) (x : Body β) (frames : Frames β α) (t : Trail) :
    body op x frames t = ((x.meaning op t).bind frames.resume).map Prod.fst := by
  match x with
  | .build x =>
    rw [body, Body.meaning]
    exact action_eq_meaning x frames t
  | .panic m =>
    rw [body, Body.meaning, action_eq_meaning (.failed (.fatal op m)) frames t, Action.meaning]
  | .ask q next =>
    simp only [body, Body.meaning, Script.map, Script.bind, Script.ask.injEq, heq_eq_eq, true_and]
    funext a
    exact body_eq_meaning op (next a) frames t
  | .fork task next =>
    rw [body, Body.meaning, action_eq_meaning task .done [], body_eq_meaning op (next ()) frames t]
    simp only [Script.map, Script.bind_assoc, Script.done_bind, Frames.resume]
termination_by (⟨α, .body x frames⟩ : Σ α : Type, Config α)
decreasing_by all_goals constructor
end

end Evaluate

namespace Body

/-- The code with each panic replaced by the failure it counts as under the guard of `op`. -/
def panicsAs {α : Type} (op : String) : Body α → Body α
  | .build x => .build x
  | .panic m => .failed (.fatal op m)
  | .ask q next => .ask q fun a => (next a).panicsAs op
  | .fork task next => .fork task fun u => (next u).panicsAs op

theorem meaning_panicsAs {α : Type} (op : String) (x : Body α) (t : Trail) :
    (x.panicsAs op).meaning op t = x.meaning op t := by
  match x with
  | .build x => rfl
  | .panic m => simp [panicsAs, failed, meaning, Action.meaning]
  | .ask q next =>
    simp only [panicsAs, meaning, Script.ask.injEq, heq_eq_eq, true_and]
    funext a
    exact meaning_panicsAs op (next a) t
  | .fork task next => simp only [panicsAs, meaning, meaning_panicsAs op (next ()) t]

end Body

namespace Action

variable {α β γ : Type}

theorem evaluate_eq_meaning (x : Action α) : x.evaluate = (x.meaning []).map Prod.fst := by
  rw [evaluate, Evaluate.action_eq_meaning]
  congr 1
  exact Script.bind_done _

theorem evaluate_around_congr {x y : Action β} (same : ∀ t, x.meaning t = y.meaning t)
    (frames : Frames β α) : (frames.around x).evaluate = (frames.around y).evaluate := by
  simp only [evaluate_eq_meaning, Frames.meaning_around, same]

/-- Evaluation asks and yields what the meaning does, in any surrounding code: what comes next gets
the outcome, an error passes by every continuation to the nearest handler, and a panic is a fatal
error of the thunk's label, of `flat_map` or of `recover`. -/
theorem evaluate_as_meant (frames : Frames β α) (x : Action β) :
    (frames.around x).evaluate = ((frames.around x).meaning []).map Prod.fst ∧
    (∀ t, (frames.around x).meaning t = (x.meaning t).bind frames.resume) ∧
    (∀ e t, frames.resume (.error e, t) = match frames.nearest with
      | none => .done (.error e, t)
      | some h => ((h.handler (.error e)).meaning "recover" t).bind h.rest.resume) ∧
    (∀ label code, (frames.around (.suspend label code)).evaluate =
      (frames.around (.suspend label fun u => (code u).panicsAs label)).evaluate) ∧
    (∀ (y : Action γ) next, (frames.around (.bind y next)).evaluate =
      (frames.around (.bind y fun b => (next b).panicsAs "flat_map")).evaluate) ∧
    ∀ (y : Action γ) handler, (frames.around (.recover y handler)).evaluate =
      (frames.around (.recover y fun r => (handler r).panicsAs "recover")).evaluate := by
  refine ⟨evaluate_eq_meaning _, frames.meaning_around x, frames.resume_error, ?_, ?_, ?_⟩
  · intro label code
    apply evaluate_around_congr
    simp only [meaning, Body.meaning_panicsAs, implies_true]
  · intro y next
    apply evaluate_around_congr
    simp only [meaning, Body.meaning_panicsAs, implies_true]
  · intro y handler
    apply evaluate_around_congr
    simp only [meaning, Body.meaning_panicsAs, implies_true]

end Action

end PluginHost
