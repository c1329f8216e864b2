import PluginHost.Proofs.Editor.Panics
import PluginHost.Proofs.Plugin.WriteBacks

/-!
One request, action by action: what it does between two moments at which others could come in.
-/

set_option autoImplicit false

namespace PluginHost

open Prog (Pending)

variable {S : Schema} {α β γ : Type}

theorem Query.nonempty_answer (q : Query) : Nonempty q.Answer := by
  cases q with
  | request | notify => exact ⟨.value .null⟩
  | channel => exact ⟨(0 : Int)⟩
  | cancel | sleep | setLogLevel => exact ⟨()⟩
  | isCancelled => exact ⟨false⟩
  | freshId | logLevel => exact ⟨""⟩
  | runTasks | runSubprocesses => exact ⟨.ok []⟩

/-- How far a request has got: it has the state to itself, stands before a program, is within one of
its steps, or has run to its end. -/
inductive Running (S : Schema) : Type 1 where
  | begun
  | before {β : Type} (x : Prog (PluginState S) β) (pending : Pending (PluginState S) β Json)
  | within {β γ : Type} (script : Script (Outcome PluginError β × PluginState S))
      (output : β → PluginState S → Prog (PluginState S) γ)
      (pending : Pending (PluginState S) γ Json)
  | ended (outcome : Outcome PluginError Json)

namespace Running

inductive Turn (lib : Library S) (r : Request) : Running S → PluginState S → List Exchange →
    Running S → PluginState S → Prop where
  | prepare (s : PluginState S) :
      Turn lib r .begun s [] (.before (prepare lib r s).1 .none) (prepare lib r s).2
  | finish (a : Json) (s : PluginState S) :
      Turn lib r (.before (.pure a) .none) s [] (.ended (.value a)) s
  | resume {β γ : Type} (b : β) (next : β → Prog (PluginState S) γ)
      (pending : Pending (PluginState S) γ Json) (s : PluginState S) :
      Turn lib r (.before (.pure b) (.push next pending)) s [] (.before (next b) pending) s
  | fail {β : Type} (e : PluginError) (pending : Pending (PluginState S) β Json)
      (s : PluginState S) : Turn lib r (.before (.failed e) pending) s [] (.ended (.error e)) s
  | panic {β : Type} (m : String) (pending : Pending (PluginState S) β Json) (s : PluginState S) :
      Turn lib r (.before (.panic m) pending) s [] (.ended (.panic m)) s
  | bind {β γ : Type} (inner : Prog (PluginState S) β) (next : β → Prog (PluginState S) γ)
      (pending : Pending (PluginState S) γ Json) (s : PluginState S) :
      Turn lib r (.before (.bind inner next) pending) s [] (.before inner (.push next pending)) s
  | exec {β γ : Type} (name : String) (view : Option String)
      (step : PluginState S → Script (Outcome PluginError β × PluginState S))
      (output : β → PluginState S → Prog (PluginState S) γ)
      (pending : Pending (PluginState S) γ Json) (s : PluginState S) :
      Turn lib r (.before (.exec name view step output) pending) s []
        (.within (step s) output pending) s
  | ask {β γ : Type} (q : Query)
      (next : q.Answer → Script (Outcome PluginError β × PluginState S)) (answer : q.Answer)
      (output : β → PluginState S → Prog (PluginState S) γ)
      (pending : Pending (PluginState S) γ Json) (s : PluginState S) :
      Turn lib r (.within (.ask q next) output pending) s [⟨q, answer⟩]
        (.within (next answer) output pending) s
  | commit {β γ : Type} (b : β) (s t : PluginState S)
      (output : β → PluginState S → Prog (PluginState S) γ)
      (pending : Pending (PluginState S) γ Json) :
      Turn lib r (.within (.done (.value b, t)) output pending) s [] (.before (output b t) pending) t
  | stepFails {β γ : Type} (e : PluginError) (s t : PluginState S)
      (output : β → PluginState S → Prog (PluginState S) γ)
      (pending : Pending (PluginState S) γ Json) :
      Turn lib r (.within (.done (.error e, t)) output pending) s [] (.ended (.error e)) t
  | stepPanics {β γ : Type} (m : String) (s t : PluginState S)
      (output : β → PluginState S → Prog (PluginState S) γ)
      (pending : Pending (PluginState S) γ Json) :
      Turn lib r (.within (.done (.panic m, t)) output pending) s [] (.ended (.panic m)) t

inductive Turns (lib : Library S) (r : Request) (run : Running S) (s : PluginState S) :
    List Exchange → Running S → PluginState S → Prop where
  | refl : Turns lib r run s [] run s
  | tail {asked more : List Exchange} {mid last : Running S} {t u : PluginState S}
      (before : Turns lib r run s asked mid t) (turn : Turn lib r mid t more last u) :
      Turns lib r run s (asked ++ more) last u

def rest (lib : Library S) (r : Request) : Running S → PluginState S →
    Script (Outcome PluginError Json × PluginState S)
  | .begun, s => execute lib r s
  | .before x pending, s => x.runWith pending s
  | .within script output pending, _ => script.bind fun
    | (.value b, s) => (output b s).runWith pending s
    | (.error e, s) => .done (.error e, s)
    | (.panic m, s) => .done (.panic m, s)
  | .ended outcome, s => .done (outcome, s)

variable {lib : Library S} {r : Request} {run next : Running S} {s t : PluginState S}
  {asked later : List Exchange} {result : Outcome PluginError Json × PluginState S}

theorem rest_exec {name : String} {view : Option String}
    {step : PluginState S → Script (Outcome PluginError β × PluginState S)}
    {output : β → PluginState S → Prog (PluginState S) γ}
    {pending : Pending (PluginState S) γ Json} :
    rest lib r (.within (step s) output pending) s =
      rest lib r (.before (.exec name view step output) pending) s := by
  rw [rest, rest, Prog.runWith]
  congr 1
  funext result
  obtain ⟨outcome, t⟩ := result
  cases outcome <;> rfl

theorem Turn.asks_rest (turn : Turn lib r run s asked next t)
    (ends : (next.rest lib r t).Asks later result) :
    (run.rest lib r s).Asks (asked ++ later) result := by
  cases turn with
  | prepare => exact ends
  | ask => exact .ask ends
  | commit | stepFails | stepPanics => exact ends
  | exec => exact rest_exec ▸ ends
  | _ =>
    rw [rest, Prog.runWith]
    exact ends

theorem Turns.asks_rest (turns : Turns lib r run s asked next t)
    (ends : (next.rest lib r t).Asks later result) :
    (run.rest lib r s).Asks (asked ++ later) result := by
  induction turns generalizing later with
  | refl => exact ends
  | tail _ turn ih =>
    rw [List.append_assoc]
    exact ih (turn.asks_rest ends)

theorem exists_turn (lib : Library S) (r : Request) (run : Running S) (s : PluginState S) :
    (∃ outcome, run = .ended outcome) ∨ ∃ asked next t, Turn lib r run s asked next t := by
  cases run with
  | begun => exact .inr ⟨_, _, _, .prepare s⟩
  | ended outcome => exact .inl ⟨outcome, rfl⟩
  | before x pending =>
    right
    cases x with
    | pure b =>
      cases pending with
      | none => exact ⟨_, _, _, .finish b s⟩
      | push next pending => exact ⟨_, _, _, .resume b next pending s⟩
    | failed e => exact ⟨_, _, _, .fail e pending s⟩
    | panic m => exact ⟨_, _, _, .panic m pending s⟩
    | bind inner next => exact ⟨_, _, _, .bind inner next pending s⟩
    | exec name view step output => exact ⟨_, _, _, .exec name view step output pending s⟩
  | within script output pending =>
    right
    cases script with
    | done r =>
      obtain ⟨outcome, t⟩ := r
      cases outcome with
      | value b => exact ⟨_, _, _, .commit b s t output pending⟩
      | error e => exact ⟨_, _, _, .stepFails e s t output pending⟩
      | panic m => exact ⟨_, _, _, .stepPanics m s t output pending⟩
    | ask q next =>
      obtain ⟨answer⟩ := q.nonempty_answer
      exact ⟨_, _, _, .ask q next answer output pending s⟩

-- One action leads from `run` to `next`, in whatever state.
def Ahead (next run : Running S) : Prop :=
  ∃ (lib : Library S) (r : Request) (s t : PluginState S) (asked : List Exchange),
    Turn lib r run s asked next t

theorem acc_ended (outcome : Outcome PluginError Json) : Acc Ahead (.ended outcome : Running S) := by
  constructor
  rintro next ⟨_, _, _, _, _, turn⟩
  cases turn

theorem acc_within {script : Script (Outcome PluginError β × PluginState S)}
    {output : β → PluginState S → Prog (PluginState S) γ}
    {pending : Pending (PluginState S) γ Json}
    (goesOn : ∀ b s, Acc Ahead (.before (output b s) pending)) :
    Acc Ahead (.within script output pending) := by
  induction script with
  | done r =>
    constructor
    rintro next ⟨_, _, _, _, _, turn⟩
    cases turn with
    | commit b => exact goesOn b _
    | stepFails e => exact acc_ended _
    | stepPanics m => exact acc_ended _
  | ask q next ih =>
    constructor
    rintro next ⟨_, _, _, _, _, turn⟩
    cases turn with
    | ask _ _ answer => exact ih answer

theorem acc_before {x : Prog (PluginState S) β} {pending : Pending (PluginState S) β Json}
    (resumes : ∀ b, Acc Ahead (.before (.pure b) pending)) : Acc Ahead (.before x pending) := by
  induction x with
  | pure b => exact resumes b
  | failed | panic =>
    constructor
    rintro next ⟨_, _, _, _, _, turn⟩
    cases turn
    exact acc_ended _
  | bind inner next ihInner ihNext =>
    constructor
    rintro later ⟨_, _, _, _, _, turn⟩
    cases turn
    -- `next` goes onto the stack, and comes off it again when there is a value.
    refine ihInner fun b => ?_
    constructor
    rintro later ⟨_, _, _, _, _, turn⟩
    cases turn
    exact ihNext b resumes
  | exec name view step output ih =>
    constructor
    rintro next ⟨_, _, _, _, _, turn⟩
    cases turn
    exact acc_within fun b s => ih b s resumes

-- By induction on the stack, for a stack that leads to the result of a request.
theorem acc_pure (pending : Pending (PluginState S) β α) (result : α = Json) (b : β) :
    Acc Ahead (.before (.pure b) (result ▸ pending)) := by
  induction pending with
  | none =>
    subst result
    constructor
    rintro next ⟨_, _, _, _, _, turn⟩
    cases turn
    exact acc_ended _
  | push next pending ih =>
    subst result
    constructor
    rintro later ⟨_, _, _, _, _, turn⟩
    cases turn
    exact acc_before (ih rfl)

theorem ahead_wellFounded : WellFounded (Ahead (S := S)) := by
  constructor
  intro run
  cases run with
  | begun =>
    constructor
    rintro next ⟨_, _, _, _, _, turn⟩
    cases turn with
    | prepare => exact acc_before (acc_pure .none rfl)
  | before x pending => exact acc_before (acc_pure pending rfl)
  | within script output pending => exact acc_within fun _ _ => acc_before (acc_pure pending rfl)
  | ended outcome => exact acc_ended outcome

end Running

end PluginHost
