import PluginHost.Proofs.Editor.Chains

/-!
Finalizers. One that succeeds leaves a value as it is, and an error that was raised after some step.
An error raised before any step takes the finalizer's steps for its trace.
-/

set_option autoImplicit false

namespace PluginHost

open Evaluate (Trail raised)

namespace Evaluate

variable {α : Type}

/-- An outcome that is brought back after the steps of a later trail. -/
def restored (r : Except EditorError α) (t : Trail) : Except EditorError α :=
  r.mapError fun e => raised e t

/-- What comes after a finalizer: the outcome from before it, unless the finalizer has failed. -/
def broughtBack (r : Except EditorError α) :
    Except EditorError Unit × Trail → Script (Except EditorError α × Trail)
  | (.ok (), t) => .done (restored r t, t)
  | (.error e, t) => .done (.error e, t)

theorem trail_eq_nil_of_raised {e : EditorError} {t : Trail} (settled : raised e t = e)
    (untraced : e.trace = []) : t = [] := by
  have trace : (raised e t).trace = t.reverse := by simp [raised, EditorError.withTrail, untraced]
  rw [settled, untraced] at trace
  exact List.reverse_eq_nil_iff.1 trace.symm

/-- Steps after an error was raised show in it only if it had no trace. -/
theorem raised_eq_self_iff {e : EditorError} {t : Trail} (settled : raised e t = e) (later : Trail) :
    raised e later = e ↔ (e.trace = [] → later = []) := by
  obtain ⟨kind, op, trace⟩ := e
  cases trace with
  | nil =>
    constructor
    · exact fun same _ => trail_eq_nil_of_raised same rfl
    · intro quiet
      simp [raised, EditorError.withTrail, quiet rfl]
  | cons label rest =>
    have named : (op.or (label :: rest).getLast?) = op := congrArg EditorError.op settled
    simp [raised, EditorError.withTrail, named]

end Evaluate

namespace Action

variable {α : Type}

theorem meaning_ensure (x : Action α) (finalizer : Unit → Action Unit) (t : Trail) :
    (x.ensure finalizer).meaning t = (x.meaning t).bind fun ended =>
      ((finalizer ()).meaning ended.2).bind (Evaluate.broughtBack ended.1) := by
  rw [ensure, recoverFailure, meaning]
  congr 1
  funext before
  change ((finalizer ()).flatMap fun _ => .ofResult before.1).meaning before.2 = _
  rw [flatMap, meaning_bind]
  congr 1
  funext ended
  obtain ⟨e | done, v⟩ := ended
  · rfl
  · obtain ⟨e | a, u⟩ := before <;> rfl

/-- A finalizer runs once, after the computation has come to an end, and if it succeeds the outcome
is brought back: a value as it is, an error with its kind and the operation it names. The error is
the same one exactly if it has a trace, or if the finalizer took no step; without a trace are only
errors that were raised before any step. -/
theorem ensure_restores (x : Action α) (finalizer : Unit → Action Unit) (t : Trail) :
    ((x.ensure finalizer).meaning t = (x.meaning t).bind fun ended =>
      ((finalizer ()).meaning ended.2).bind (Evaluate.broughtBack ended.1)) ∧
    ∀ r u, (x.meaning t).Returns (r, u) → ∀ v, ((finalizer ()).meaning u).Returns (.ok (), v) →
      (Evaluate.restored r v = r ↔ ∀ e, r = .error e → e.trace = [] → v = []) ∧
      ∀ e, r = .error e → Evaluate.restored r v = .error (raised e v) ∧
        (raised e v).kind = e.kind ∧ (∀ op, e.op = some op → (raised e v).op = some op) ∧
        (e.trace = [] → u = []) := by
  refine ⟨x.meaning_ensure finalizer t, fun r u returned v _ => ?_⟩
  cases r with
  | ok a =>
    constructor
    · exact iff_of_true rfl nofun
    · exact nofun
  | error e =>
    have settled := raised_of_returns x returned
    constructor
    · change Except.error (raised e v) = Except.error e ↔ _
      simpa using Evaluate.raised_eq_self_iff settled v
    · rintro _ ⟨⟩
      refine ⟨rfl, rfl, fun op named => ?_, Evaluate.trail_eq_nil_of_raised settled⟩
      simp [raised, EditorError.withTrail, named]

-- A computation that fails in a step, and a finalizer that takes one.
def gone : Action Unit := .suspend "simple" fun () => .failed (.logical "gone")

def tidied : Action Unit := .simple fun () => .ok ()

theorem ensure_restores_gone :
    (gone.meaning []).Returns (.error ⟨.logical "gone", some "simple", ["simple"]⟩, ["simple"]) ∧
      (tidied.meaning ["simple"]).Returns (.ok (), ["simple", "simple"]) ∧
      Evaluate.restored (.error ⟨.logical "gone", some "simple", ["simple"]⟩ : Except _ Unit)
        ["simple", "simple"] = .error ⟨.logical "gone", some "simple", ["simple"]⟩ := by
  have failed : (gone.meaning []).Returns
      (.error ⟨.logical "gone", some "simple", ["simple"]⟩, ["simple"]) := .done _
  have succeeded : (tidied.meaning ["simple"]).Returns (.ok (), ["simple", "simple"]) := .done _
  obtain ⟨same, -⟩ := (ensure_restores gone (fun () => tidied) []).2 _ _ failed _ succeeded
  refine ⟨failed, succeeded, same.2 ?_⟩
  rintro _ ⟨⟩ untraced
  cases untraced

def cleaned : List Exchange := [⟨.request "nvim_command" [.string "cleanup"], .value .null⟩]

/-- The error of a computation that takes no step comes back with the step of the finalizer. -/
theorem ensure_relabels :
    (failed (.logical "l") : Action Unit).evaluate = .done (.error (.logical "l")) ∧
      (command "cleanup").evaluate.Asks cleaned (.ok ()) ∧
      ((failed (.logical "l") : Action Unit).ensure fun () => command "cleanup").evaluate.Asks
        cleaned (.error ⟨.logical "l", some "write:nvim_command", ["write:nvim_command"]⟩) := by
  simp only [evaluate_eq_meaning, meaning_ensure]
  exact ⟨rfl, .ask (.done _), .ask (.done _)⟩

end Action

end PluginHost
