import PluginHost.Proofs.Plugin.WriteBacks

/-!
Programs evaluated as one step on the whole state. Such a step asks what the program asks and keeps
what a success has made of the state; a failure takes all of it back.
-/

set_option autoImplicit false

namespace PluginHost

open Evaluate (Trail raised)

variable {S : Schema} {σ α β γ : Type}

theorem Evaluate.body_ofScript (op : String) (f : α → Body β) (x : Script α) (frames : Frames β γ)
    (t : Trail) : body op (.ofScript f x) frames t = x.bind fun a => body op (f a) frames t := by
  induction x with
  | done a => rfl
  | ask q next ih =>
    rw [Body.ofScript, body, Script.bind]
    simp only [ih]

namespace PluginError

/-- The error with which a step fails whose code has run into `e`. -/
def reraised (e : PluginError) : PluginError := .ofEditor (raised e.toEditor ["delay"])

/-- A bug, be it in the code of an editor computation. -/
def isBug : PluginError → Bool
  | .fatal _ => true
  | .editor e => e.isFatal
  | _ => false

structure Survives (e e' : PluginError) : Prop where
  fatal : e'.isFatal = e.isBug
  kind : ∀ x, e = .editor x → x.isLogical = false → x.isFatal = false →
    ∃ y, e' = .editor y ∧ y.kind = x.kind
  message : e.isBug = false → e'.message = e.message

theorem survives_editor (x : EditorError) : (editor x).Survives (editor x).reraised := by
  obtain ⟨kind, op, trace⟩ := x
  cases kind with
  | logical m =>
    refine ⟨rfl, ?_, fun _ => rfl⟩
    rintro _ ⟨⟩ ⟨⟩
  | fatal m =>
    refine ⟨rfl, ?_, nofun⟩
    rintro _ ⟨⟩ _ ⟨⟩
  | request | transport | decode =>
    refine ⟨rfl, ?_, fun _ => rfl⟩
    rintro _ ⟨⟩ _ _
    exact ⟨_, rfl, rfl⟩

theorem survives_reraised (e : PluginError) : e.Survives e.reraised := by
  cases e with
  | editor x => exact survives_editor x
  | fatal m => exact ⟨rfl, nofun, nofun⟩
  | _ => exact ⟨rfl, nofun, fun _ => rfl⟩

end PluginError

namespace Prog

theorem evaluate_eval (x : Prog σ α) (s : σ) :
    (x.eval.run s).evaluate = (x.run s).map fun
      | (.value a, t) => .value (t, a)
      | (.error e, _) => .error (raised e.toEditor ["delay"])
      | (.panic m, _) => .error (raised (.fatal "delay" m) ["delay"]) := by
  have trail : Trail.push [] "delay" = ["delay"] := rfl
  simp only [eval, Body.evaluate, Action.evaluate, Action.delay, Evaluate.action,
    Evaluate.body_ofScript, Script.map, Script.bind_assoc, trail]
  congr 1
  funext result
  obtain ⟨outcome, t⟩ := result
  cases outcome <;>
    simp [Body.pure, Body.failed, Evaluate.body, Evaluate.action, Outcome.ofExcept, raised]

def wholeView : View (PluginState S) (PluginState S) := (Builtin.wholeState (S := S)).view

/-- The program as one step on the whole state. -/
def asStep (x : Prog (PluginState S) α) (name : String) : Prog (PluginState S) α :=
  .on name wholeView x.eval fun a _ => .pure a

theorem run_asStep_eq (x : Prog (PluginState S) α) (name : String) (s : PluginState S) :
    (x.asStep name).run s = (x.run s).map fun
      | (.value a, t) => (.value a, t)
      | (.error e, _) => (.error e.reraised, s)
      | (.panic m, _) => (.error (.ofEditor (raised (.fatal "delay" m) ["delay"])), s) := by
  have projected : (wholeView (S := S)).project s = (.ok s, s) := rfl
  rw [run_eq_meaning (x.asStep name)]
  simp only [asStep, Prog.on, meaning, viewStep_projected projected, evaluate_eval, Script.map,
    Script.bind_assoc, Script.done_bind]
  congr 1
  funext result
  obtain ⟨outcome, t⟩ := result
  cases outcome <;> rfl

/-- As one step a program asks the same and comes to the same value and state. If it fails, nothing
of what it did to the state is left, and the error says what the program's own error says. -/
theorem run_asStep (x : Prog (PluginState S) α) (name : String) (s : PluginState S) :
    (x.asStep name).run s = ((x.run s).map fun
      | (.value a, t) => (.value a, t)
      | (.error e, _) => (.error e.reraised, s)
      | (.panic m, _) => (.error (.ofEditor (raised (.fatal "delay" m) ["delay"])), s)) ∧
    ∀ e : PluginError, e.Survives e.reraised :=
  ⟨x.run_asStep_eq name s, PluginError.survives_reraised⟩

theorem Obeys.asStep {R : Allowance S} (steady : R.Steady) {x : Prog (PluginState S) α}
    (obeys : x.Obeys R) (name : String) : (x.asStep name).Obeys R := by
  refine .on steady Builtin.wholeState (fun v asked w a ran m m' before after => ?_)
    fun a _ => .pure a
  cases before
  cases after
  have evaluated := x.evaluate_eval v
  change (Stateful.run x.eval v).evaluate.Asks asked _ at ran
  rw [evaluated] at ran
  obtain ⟨⟨outcome, t⟩, ran, result_eq⟩ := Script.asks_map.1 ran
  -- Only a value is written back, and what is written back is what the program made of the view.
  cases outcome with
  | value =>
    cases result_eq
    exact obeys.asks_run steady ran
  | error | panic => cases result_eq

end Prog

end PluginHost
