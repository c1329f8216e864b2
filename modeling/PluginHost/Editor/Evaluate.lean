import PluginHost.Editor.Action

/-!
The machine that evaluates actions. Pending continuations and handlers wait on a stack of frames,
so a chain of any length is one loop. The machine keeps the labels of the latest suspended steps;
an error takes them as its trace when it is raised. Code under a guard that panics counts as a
fatal error of the operation that ran it.
-/

set_option autoImplicit false

namespace PluginHost

inductive Frames : Type → Type → Type 1 where
  | done {α : Type} : Frames α α
  | bind {α β γ : Type} (next : β → Body γ) (rest : Frames γ α) : Frames β α
  | recover {α β γ : Type} (handler : Except EditorError β → Body γ) (rest : Frames γ α) : Frames β α

namespace Evaluate

def trailLength : Nat := 8

/-- The labels of the latest steps, latest first. -/
abbrev Trail := List String

def Trail.push (t : Trail) (label : String) : Trail := (label :: t).take trailLength

/-- The error as it is raised after the steps of the trail. -/
def raised (e : EditorError) (t : Trail) : EditorError := e.withTrail t.reverse

/-- What the machine looks at: an action or running code, before the frames that wait for it. -/
inductive Config (α : Type) : Type 1 where
  | action {β : Type} (x : Action β) (frames : Frames β α)
  | body {β : Type} (x : Body β) (frames : Frames β α)

/-- One step of the machine, from the later configuration to the earlier. -/
inductive Below : (Σ α : Type, Config α) → (Σ α : Type, Config α) → Prop where
  | suspend {α β : Type} (l : String) (b : Unit → Body β) (fs : Frames β α) :
      Below ⟨α, .body (b ()) fs⟩ ⟨α, .action (.suspend l b) fs⟩
  | bind {α β γ : Type} (x : Action γ) (n : γ → Body β) (fs : Frames β α) :
      Below ⟨α, .action x (.bind n fs)⟩ ⟨α, .action (.bind x n) fs⟩
  | recover {α β γ : Type} (x : Action γ) (h : Except EditorError γ → Body β) (fs : Frames β α) :
      Below ⟨α, .action x (.recover h fs)⟩ ⟨α, .action (.recover x h) fs⟩
  | pureBind {α β γ : Type} (a : γ) (n : γ → Body β) (fs : Frames β α) :
      Below ⟨α, .body (n a) fs⟩ ⟨α, .action (.pure a) (.bind n fs)⟩
  | pureRecover {α β γ : Type} (a : γ) (h : Except EditorError γ → Body β) (fs : Frames β α) :
      Below ⟨α, .body (h (.ok a)) fs⟩ ⟨α, .action (.pure a) (.recover h fs)⟩
  | failedBind {α β γ : Type} (e e' : EditorError) (n : γ → Body β) (fs : Frames β α) :
      Below ⟨α, .action (.failed e') fs⟩ ⟨α, .action (.failed e) (.bind n fs)⟩
  | failedRecover {α β γ : Type} (e e' : EditorError) (h : Except EditorError γ → Body β)
      (fs : Frames β α) :
      Below ⟨α, .body (h (.error e')) fs⟩ ⟨α, .action (.failed e) (.recover h fs)⟩
  | build {α β : Type} (x : Action β) (fs : Frames β α) :
      Below ⟨α, .action x fs⟩ ⟨α, .body (.build x) fs⟩
  | panic {α β : Type} (m : String) (e : EditorError) (fs : Frames β α) :
      Below ⟨α, .action (.failed e) fs⟩ ⟨α, .body (.panic m) fs⟩
  | ask {α β : Type} (q : Query) (n : q.Answer → Body β) (a : q.Answer) (fs : Frames β α) :
      Below ⟨α, .body (n a) fs⟩ ⟨α, .body (.ask q n) fs⟩
  | fork {α β : Type} (t : Action Unit) (n : Unit → Body β) (fs : Frames β α) :
      Below ⟨Unit, .action t .done⟩ ⟨α, .body (.fork t n) fs⟩
  | forked {α β : Type} (t : Action Unit) (n : Unit → Body β) (fs : Frames β α) :
      Below ⟨α, .body (n ()) fs⟩ ⟨α, .body (.fork t n) fs⟩

/-- Frames that end whatever outcome they are given. -/
def Safe {α β : Type} (fs : Frames β α) : Prop :=
  (∀ b, Acc Below ⟨α, .action (.pure b) fs⟩) ∧ ∀ e, Acc Below ⟨α, .action (.failed e) fs⟩

theorem safe_done {α : Type} : Safe (Frames.done : Frames α α) := by
  constructor
  · intro b; constructor; intro y h; cases h
  · intro b; constructor; intro y h; cases h

mutual
theorem acc_action {β : Type} : (x : Action β) → ∀ {α : Type} (fs : Frames β α), Safe fs →
    Acc Below ⟨α, .action x fs⟩
  | .pure a, _, _, h => h.1 a
  | .failed e, _, _, h => h.2 e
  | .suspend l b, _, fs, h => by
    constructor; intro y hy; cases hy
    exact acc_body (b ()) fs h
  | .bind x n, _, fs, h => by
    constructor; intro y hy; cases hy
    refine acc_action x (.bind n fs) ⟨fun b => ?_, fun e => ?_⟩
    · constructor; intro y hy; cases hy; exact acc_body (n b) fs h
    · constructor; intro y hy; cases hy; exact h.2 _
  | .recover x n, _, fs, h => by
    constructor; intro y hy; cases hy
    refine acc_action x (.recover n fs) ⟨fun b => ?_, fun e => ?_⟩
    · constructor; intro y hy; cases hy; exact acc_body (n (.ok b)) fs h
    · constructor; intro y hy; cases hy; exact acc_body (n (.error _)) fs h

theorem acc_body {β : Type} : (x : Body β) → ∀ {α : Type} (fs : Frames β α), Safe fs →
    Acc Below ⟨α, .body x fs⟩
  | .build x, _, fs, h => by
    constructor; intro y hy; cases hy; exact acc_action x fs h
  | .panic m, _, fs, h => by
    constructor; intro y hy; cases hy; exact h.2 _
  | .ask q n, _, fs, h => by
    constructor; intro y hy; cases hy; exact acc_body (n _) fs h
  | .fork t n, _, fs, h => by
    constructor; intro y hy; cases hy
    · exact acc_action t .done safe_done
    · exact acc_body (n ()) fs h
end

theorem safe_frames {α β : Type} (fs : Frames β α) : Safe fs := by
  induction fs with
  | done => exact safe_done
  | bind n rest ih =>
    constructor
    · intro b; constructor; intro y hy; cases hy; exact acc_body _ _ ih
    · intro b; constructor; intro y hy; cases hy; exact ih.2 _
  | recover n rest ih =>
    constructor
    · intro b; constructor; intro y hy; cases hy; exact acc_body _ _ ih
    · intro b; constructor; intro y hy; cases hy; exact acc_body _ _ ih

theorem below_wellFounded : WellFounded Below := ⟨fun ⟨_, c⟩ => match c with
  | .action x fs => acc_action x fs (safe_frames fs)
  | .body x fs => acc_body x fs (safe_frames fs)⟩

instance : WellFoundedRelation (Σ α : Type, Config α) := ⟨Below, below_wellFounded⟩

mutual
def action {α β : Type} (x : Action β) (frames : Frames β α) (t : Trail) :
    Script (Except EditorError α) :=
  match x, frames with
  | .suspend label b, fs => body label (b ()) fs (t.push label)
  | .bind x next, fs => action x (.bind next fs) t
  | .recover x handler, fs => action x (.recover handler fs) t
  | .pure a, .done => .done (.ok a)
  | .pure a, .bind next fs => body "flat_map" (next a) fs t
  | .pure a, .recover handler fs => body "recover" (handler (.ok a)) fs t
  | .failed e, .done => .done (.error (raised e t))
  | .failed e, .bind _ fs => action (.failed e) fs t
  | .failed e, .recover handler fs => body "recover" (handler (.error (raised e t))) fs t
termination_by (⟨α, .action x frames⟩ : Σ α : Type, Config α)
decreasing_by all_goals constructor

/-- Runs code under the guard of the operation `op`. A forked task runs to its end where it is
forked, which is one of the orders that threads may take; what it comes to is dropped. -/
def body {α β : Type} (op : String) (x : Body β) (frames : Frames β α) (t : Trail) :
    Script (Except EditorError α) :=
  match x with
  | .build x => action x frames t
  | .panic m => action (.failed (.fatal op m)) frames t
  | .ask q next => .ask q fun a => body op (next a) frames t
  | .fork task next => (action task .done []).bind fun _ => body op (next ()) frames t
termination_by (⟨α, .body x frames⟩ : Σ α : Type, Config α)
decreasing_by all_goals constructor
end

end Evaluate

/-- Evaluates an action to its end. -/
def Action.evaluate {α : Type} (x : Action α) : Script (Except EditorError α) :=
  Evaluate.action x .done []

/-- What comes of code that no guard protects. -/
inductive Outcome (ε α : Type) where
  | value (a : α)
  | error (e : ε)
  | panic (message : String)
deriving DecidableEq, Repr

namespace Outcome

variable {ε α β : Type}

def ofExcept : Except ε α → Outcome ε α
  | .ok a => .value a
  | .error e => .error e

def mapError {ε' : Type} (f : ε → ε') : Outcome ε α → Outcome ε' α
  | .value a => .value a
  | .error e => .error (f e)
  | .panic m => .panic m

end Outcome

/-- Runs code outside every guard: a panic before it has built its action gets through. -/
def Body.evaluate {α : Type} : Body α → Script (Outcome EditorError α)
  | .build x => x.evaluate.map .ofExcept
  | .panic m => .done (.panic m)
  | .ask q next => .ask q fun a => (next a).evaluate
  | .fork task next => task.evaluate.bind fun _ => (next ()).evaluate

end PluginHost
