import PluginHost.Editor.Evaluate
import PluginHost.Error
import PluginHost.Stateful

/-!
The program language. A `Prog` over the state `σ` is a tree of values, failures, binds and steps.
Only a step touches the state; it hands its value to its output, which says how to go on. `run`
keeps the continuations that are pending on a stack, `meaning` follows the tree.
-/

set_option autoImplicit false

namespace PluginHost

inductive Prog (σ : Type) : Type → Type 1 where
  | pure {α : Type} (a : α) : Prog σ α
  | failed {α : Type} (e : PluginError) : Prog σ α
  | panic {α : Type} (message : String) : Prog σ α
  | bind {α β : Type} (inner : Prog σ β) (next : β → Prog σ α) : Prog σ α
  /-- A step on the view with that text. -/
  | exec {α β : Type} (name : String) (view : Option String)
      (step : σ → Script (Outcome PluginError β × σ)) (output : β → σ → Prog σ α) : Prog σ α

/-- A part of the state that a step works on. Projecting may change the state, also when it
fails. -/
structure View (σ ρ : Type) where
  text : String
  project : σ → Except PluginError ρ × σ
  restore : ρ → σ → σ

namespace Prog

variable {σ α β : Type}

def error (message : String) : Prog σ α := .failed (.program message)

def ofResult : Except PluginError α → Prog σ α
  | .ok a => .pure a
  | .error e => .failed e

def ofCalc : Calc α → Prog σ α
  | .ok a => .pure a
  | .error p => .panic p.message

def mapCalc (x : Prog σ α) (f : α → Calc β) : Prog σ β := .bind x fun a => .ofCalc (f a)

def map (x : Prog σ α) (f : α → β) : Prog σ β := .bind x fun a => .pure (f a)

def andThen (x : Prog σ α) (next : Unit → Prog σ β) : Prog σ β := .bind x fun _ => next ()

/-- Runs code on a view and writes the view back if the code succeeds. -/
def viewStep {ρ : Type} (view : View σ ρ) (code : Stateful ρ α) (s : σ) :
    Script (Outcome PluginError α × σ) :=
  match view.project s with
  | (.error e, s) => .done (.error e, s)
  | (.ok r, s) => (code.run r).evaluate.map fun
    | .value (r, a) => (.value a, view.restore r s)
    | .error e => (.error (.ofEditor e), s)
    | .panic m => (.panic m, s)

/-- A step on a view, with what is to be done with its value in the state it leaves. -/
def on {ρ : Type} (name : String) (view : View σ ρ) (code : Stateful ρ α)
    (output : α → σ → Prog σ β) : Prog σ β :=
  .exec name (some view.text) (viewStep view code) output

def editorStep (x : Action α) (s : σ) : Script (Outcome PluginError α × σ) :=
  x.evaluate.map fun
    | .ok a => (.value a, s)
    | .error e => (.error (.ofEditor e), s)

/-- A step that needs the editor and no state. -/
def editor (x : Action α) : Prog σ α := .exec "nvim" none (editorStep x) fun a _ => .pure a

/-- A step that works on the state itself. -/
def access (name : String) (step : σ → Script (Except PluginError α × σ)) : Prog σ α :=
  .exec name none (fun s => (step s).map fun (r, s) => (.ofExcept r, s)) fun a _ => .pure a

def describe : Prog σ α → String
  | .pure _ => "Prog::Pure"
  | .failed e => s!"Prog::Error({e.message})"
  | .panic m => s!"Prog::Panic({m})"
  | .bind _ _ => "Prog::Bind"
  | .exec name (some view) _ _ => s!"Prog::Exec({name}, {view})"
  | .exec name none _ _ => s!"Prog::Exec({name})"

/-- What a program means, by recursion on its tree. -/
def meaning {α : Type} : Prog σ α → σ → Script (Outcome PluginError α × σ)
  | .pure a, s => .done (.value a, s)
  | .failed e, s => .done (.error e, s)
  | .panic m, s => .done (.panic m, s)
  | .bind inner next, s => (inner.meaning s).bind fun
    | (.value b, s) => (next b).meaning s
    | (.error e, s) => .done (.error e, s)
    | (.panic m, s) => .done (.panic m, s)
  | .exec _ _ step output, s => (step s).bind fun
    | (.value b, s) => (output b s).meaning s
    | (.error e, s) => .done (.error e, s)
    | (.panic m, s) => .done (.panic m, s)

/-- Continuations that are pending, innermost first. -/
inductive Pending (σ : Type) : Type → Type → Type 1 where
  | none {α : Type} : Pending σ α α
  | push {α β γ : Type} (next : β → Prog σ γ) (rest : Pending σ γ α) : Pending σ β α

structure Config (σ : Type) : Type 1 where
  result : Type
  value : Type
  prog : Prog σ value
  pending : Pending σ value result

/-- One step of the machine, from the later configuration to the earlier. -/
inductive Below {σ : Type} : Config σ → Config σ → Prop where
  | pure {α β γ : Type} (b : β) (next : β → Prog σ γ) (rest : Pending σ γ α) :
      Below ⟨α, γ, next b, rest⟩ ⟨α, β, .pure b, .push next rest⟩
  | bind {α β γ : Type} (inner : Prog σ β) (next : β → Prog σ γ) (rest : Pending σ γ α) :
      Below ⟨α, β, inner, .push next rest⟩ ⟨α, γ, .bind inner next, rest⟩
  | exec {α β γ : Type} (name : String) (view : Option String)
      (step : σ → Script (Outcome PluginError β × σ)) (output : β → σ → Prog σ γ)
      (b : β) (s : σ) (rest : Pending σ γ α) :
      Below ⟨α, γ, output b s, rest⟩ ⟨α, γ, .exec name view step output, rest⟩

theorem acc_config {α β : Type} (x : Prog σ β) : ∀ rest : Pending σ β α,
    (∀ b, Acc Below (⟨α, β, .pure b, rest⟩ : Config σ)) →
    Acc Below (⟨α, β, x, rest⟩ : Config σ) := by
  induction x with
  | pure a => exact fun _ h => h a
  | failed e => intro rest _; constructor; intro y hy; cases hy
  | panic m => intro rest _; constructor; intro y hy; cases hy
  | bind inner next ihInner ihNext =>
    intro rest h
    constructor; intro y hy; cases hy
    refine ihInner _ fun b => ?_
    constructor; intro y hy; cases hy
    exact ihNext b rest h
  | exec name view step output ih =>
    intro rest h
    constructor; intro y hy; cases hy
    exact ih _ _ rest h

theorem acc_pure {α β : Type} (rest : Pending σ β α) (b : β) :
    Acc Below (⟨α, β, .pure b, rest⟩ : Config σ) := by
  induction rest with
  | none => constructor; intro y hy; cases hy
  | push next rest ih =>
    constructor; intro y hy; cases hy
    exact acc_config (next b) rest ih

instance : WellFoundedRelation (Config σ) :=
  ⟨Below, ⟨fun c => acc_config c.prog c.pending (acc_pure c.pending)⟩⟩

/-- The machine: one loop over the current program and the stack of continuations. -/
def runWith {α β : Type} (x : Prog σ β) (pending : Pending σ β α) (s : σ) :
    Script (Outcome PluginError α × σ) :=
  match x, pending with
  | .pure a, .none => .done (.value a, s)
  | .pure a, .push next rest => runWith (next a) rest s
  | .failed e, _ => .done (.error e, s)
  | .panic m, _ => .done (.panic m, s)
  | .bind inner next, rest => runWith inner (.push next rest) s
  | .exec _ _ step output, rest => (step s).bind fun
    | (.value b, s) => runWith (output b s) rest s
    | (.error e, s) => .done (.error e, s)
    | (.panic m, s) => .done (.panic m, s)
termination_by (⟨α, β, x, pending⟩ : Config σ)
decreasing_by all_goals constructor

def run (x : Prog σ α) (s : σ) : Script (Outcome PluginError α × σ) := runWith x .none s

/-- A program as one computation on the whole state. What it did to the state is lost if it
fails. -/
def eval (x : Prog σ α) : Stateful σ α :=
  ⟨fun s => .build (.delay fun () => .ofScript (fun
    | (.value a, s) => .pure (s, a)
    | (.error e, _) => .failed e.toEditor
    | (.panic m, _) => .panic m) (x.run s))⟩

end Prog

end PluginHost
