import PluginHost.Effect.Task
import PluginHost.Json.Print

/-!
What a computation may ask of the world around it, and scripts: computations as trees of questions.
A script says nothing about who answers, so one script can be run against a recorded editor, a
simulated session or a real one.
-/

set_option autoImplicit false

namespace PluginHost

/-- A panic of user code, with its message. -/
structure Panic where
  message : String
deriving DecidableEq, Repr

/-- What user code computes: a value, or a panic. -/
abbrev Calc (α : Type) := Except Panic α

inductive Reply where
  | value (v : Json)
  | error (e : EditorError)
  | panic (message : String)
deriving DecidableEq

inductive Query where
  | request (method : String) (args : List Json)
  | notify (method : String) (args : List Json)
  | channel
  | cancel
  | isCancelled
  | sleep (span : Duration)
  | freshId
  | logLevel
  | setLogLevel (level : String)
  /-- Runs tasks side by side, at most `threads` at once, and waits for them until the deadline. A
  deadline that no clock can name is a panic; the tasks run all the same. -/
  | runTasks (threads : Nat) (tasks : List Task) (wait : Duration)
  /-- Runs subprocesses side by side, each for as long as its limit. -/
  | runSubprocesses (processes : List (Subprocess × Duration)) (wait : Duration)

@[reducible] def Query.Answer : Query → Type
  | .request _ _ | .notify _ _ => Reply
  | .channel => Int
  | .cancel | .sleep _ | .setLogLevel _ => Unit
  | .isCancelled => Bool
  | .freshId | .logLevel => String
  | .runTasks _ _ _ => Calc (Completions TaskOutcome)
  | .runSubprocesses _ _ => Calc (Completions SubprocessOutcome)

inductive Script (α : Type) : Type where
  | done (a : α)
  | ask (query : Query) (next : query.Answer → Script α)

namespace Script

variable {α β : Type}

def bind : Script α → (α → Script β) → Script β
  | .done a, f => f a
  | .ask q next, f => .ask q fun a => (next a).bind f

def map (f : α → β) (x : Script α) : Script β := x.bind fun a => .done (f a)

instance : Monad Script where
  pure := .done
  bind := bind

@[simp] theorem pure_eq_done (a : α) : (pure a : Script α) = .done a := rfl

@[simp] theorem bind_eq (x : Script α) (f : α → Script β) : (x >>= f) = x.bind f := rfl

@[simp] theorem done_bind (a : α) (f : α → Script β) : (Script.done a).bind f = f a := rfl

@[simp] theorem bind_done (x : Script α) : x.bind .done = x := by
  induction x with
  | done a => rfl
  | ask q next ih => simp [bind, ih]

theorem bind_assoc {γ : Type} (x : Script α) (f : α → Script β) (g : β → Script γ) :
    (x.bind f).bind g = x.bind fun a => (f a).bind g := by
  induction x with
  | done a => rfl
  | ask q next ih => simp [bind, ih]

instance : LawfulMonad Script := LawfulMonad.mk' _
  bind_done
  (fun _ _ => rfl)
  bind_assoc

end Script

def ask (q : Query) : Script q.Answer := .ask q .done

end PluginHost
