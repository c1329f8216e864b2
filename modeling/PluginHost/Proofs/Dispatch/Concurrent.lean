import Mathlib.Data.DFinsupp.WellFounded
import Mathlib.SetTheory.Cardinal.Order
import PluginHost.Proofs.Dispatch.Serial
import PluginHost.Proofs.Effect.Gathering

/-!
What the callers of the dispatcher may rely on: every call comes back, a call that gave up has done
nothing, and a program that panics harms nobody else.
-/

set_option autoImplicit false

namespace PluginHost

variable {S : Schema} {ι : Type}

namespace Phase

-- The later of two phases of a call.
inductive Ahead : Phase S → Phase S → Prop where
  | grant : Ahead (.holding .begun) .waiting
  | expire : Ahead .timedOut .waiting
  | work {next run : Running S} (ahead : next.Ahead run) : Ahead (.holding next) (.holding run)
  | release (outcome : Outcome PluginError Json) :
      Ahead (.released outcome) (.holding (.ended outcome))
  | back (outcome : Outcome PluginError Json) :
      Ahead (.returned (settled outcome)) (.released outcome)

theorem acc_released (outcome : Outcome PluginError Json) :
    Acc Ahead (.released outcome : Phase S) := by
  constructor
  intro later ahead
  cases ahead
  constructor
  intro later ahead
  cases ahead

theorem acc_holding (run : Running S) : Acc Ahead (.holding run) := by
  induction run using Running.ahead_wellFounded.induction with
  | _ run ih =>
    constructor
    intro later ahead
    cases ahead with
    | work ahead => exact ih _ ahead
    | release outcome => exact acc_released outcome

theorem acc_timedOut : Acc Ahead (.timedOut : Phase S) := by
  constructor
  intro later ahead
  cases ahead

theorem ahead_wellFounded : WellFounded (Ahead (S := S)) := by
  constructor
  intro phase
  constructor
  intro later ahead
  cases ahead with
  | grant => exact acc_holding .begun
  | expire => exact acc_timedOut
  | work => exact acc_holding _
  | release outcome => exact acc_released outcome
  | back outcome => exact (acc_released outcome).inv (.back outcome)

end Phase

namespace Dispatching

variable [DecidableEq ι] {lib : Library S} {request : ι → Request} {limit : Duration}
  {s₀ s t : PluginState S} {c d : Dispatching S ι} {i : ι} {asked : List Exchange}

theorem ahead_put {phase : Phase S} (ahead : phase.Ahead (c.call i)) :
    ∃ i', ((c.put i phase).call i').Ahead (c.call i') ∧
      ∀ j, j ≠ i' → (c.put i phase).call j = c.call j :=
  ⟨i, by simpa using ahead, fun j other => put_call_of_ne other⟩

theorem Step.ahead (step : Step lib request c d) :
    ∃ i, (d.call i).Ahead (c.call i) ∧ ∀ j, j ≠ i → d.call j = c.call j := by
  cases step with
  | grant i phase => exact ahead_put (phase ▸ .grant)
  | expire i phase => exact ahead_put (phase ▸ .expire)
  | work i phase turn => exact ahead_put (phase ▸ .work ⟨lib, request i, _, _, _, turn⟩)
  | release i phase => exact ahead_put (phase ▸ .release _)
  | back i phase => exact ahead_put (phase ▸ .back _)

theorem step_wellFounded [Finite ι] :
    WellFounded fun d c : Dispatching S ι => Step lib request c d := by
  -- A step moves one call ahead and leaves all others where they are.
  have calls := Pi.Lex.wellFounded (WellOrderingRel (α := ι))
    fun _ => Phase.ahead_wellFounded (S := S)
  refine Subrelation.wf ?_ (InvImage.wf Dispatching.call calls)
  intro d c step
  obtain ⟨i, ahead, others⟩ := step.ahead
  refine ⟨i, fun j before => others j ?_, ahead⟩
  rintro rfl
  exact irrefl j before

theorem Serial.exists_step (serial : Serial lib request s₀ c) (limit : Duration) :
    (∃ d, Step lib request c d) ∨
      c.holder = none ∧ ∀ i, ((c.call i).result? limit).isSome := by
  by_cases back : ∀ i, ((c.call i).result? limit).isSome
  · refine .inr ⟨?_, back⟩
    cases holder : c.holder with
    | none => rfl
    | some i =>
      -- Who holds the lock is not back.
      obtain ⟨run, _, _, _, _, phase, -⟩ := serial.held i holder
      have away := back i
      rw [phase] at away
      cases away
  · left
    push Not at back
    obtain ⟨i, missing⟩ := back
    cases phase : c.call i with
    | waiting => exact ⟨_, .expire c i phase⟩
    | timedOut | returned => simp [phase, Phase.result?] at missing
    | released outcome => exact ⟨_, .back c i phase⟩
    | holding run =>
      obtain ⟨outcome, rfl⟩ | ⟨asked, next, t, turn⟩ :=
        Running.exists_turn lib (request i) run c.state
      · exact ⟨_, .release c i phase⟩
      · exact ⟨_, .work c i phase turn⟩

theorem Step.eq_put_of_expires (step : Step lib request c d) (before : c.call i = .waiting)
    (after : d.call i = .timedOut) : d = c.put i .timedOut := by
  -- Only a call that gives up comes to this phase.
  cases step with
  | expire j phase =>
    by_cases same : i = j
    · rw [same]
    · simp [same, before] at after
  | grant j | work j | release j | back j =>
    by_cases same : i = j
    · simp [same] at after
    · simp [same, before] at after

theorem runs_of_turns {run next : Running S} (phase : c.call i = .holding run)
    (turns : Running.Turns lib (request i) run c.state asked next t) :
    Runs lib request c { c with
      state := t
      call := (c.put i (.holding next)).call
      asked := c.asked ++ asked } := by
  induction turns with
  | refl =>
    have same : (c.put i (.holding run)).call = c.call := by
      rw [put, ← phase]
      exact Function.update_eq_self i c.call
    simp only [same, List.append_nil]
    exact .refl
  | @tail first more mid last u v _ turn ih =>
    let reached : Dispatching S ι :=
      { c with state := u, call := (c.put i (.holding mid)).call, asked := c.asked ++ first }
    have step := Step.work reached i put_call_self turn
    simpa [reached, put, List.append_assoc] using ih.tail step

variable (lib request limit s₀) in
/-- What holds whenever calls are under way, and so when all are back. -/
structure Dispatched (c : Dispatching S ι) : Prop extends Serial lib request s₀ c where
  timedOut : ∀ i, c.call i = .timedOut →
    (c.call i).result? limit = some (.error (.lockTimeout limit)) ∧ i ∉ c.granted
  expires : ∀ i d, Step lib request c d → c.call i = .waiting → d.call i = .timedOut →
    d = c.put i .timedOut
  back : (∃ d, Step lib request c d) ∨
    c.holder = none ∧ ∀ i, ((c.call i).result? limit).isSome

/-- However calls take turns at the lock, those that got it come to what their requests come to one
after the other, the rest time out and change nothing, and all come back, whatever panics. -/
theorem dispatched_of_runs [Finite ι] (runs : Runs lib request (start s₀) c) (limit : Duration) :
    Dispatched lib request limit s₀ c ∧
    (WellFounded fun d c : Dispatching S ι => Step lib request c d) ∧
    (∀ r s, PanicSafe lib r s) ∧
    ∀ threads tasks timeout asked result,
      (Effect.gatherTasks threads tasks timeout).evaluate.Asks asked result →
        ∃ answer : Calc (Completions TaskOutcome),
          asked = [⟨.runTasks threads tasks timeout, answer⟩] ∧
          (∀ p, answer = .error p → result = .error p.guarded) ∧
          ∀ completed, answer = .ok completed → ∃ results : List (Gathered Json),
            result = .ok results ∧
            ((completed.map Prod.fst).Nodup → (∀ c ∈ completed, c.1 < tasks.length) →
              ∀ i m, (i, .panic m) ∈ completed →
                results[i]? = some (.error (.failed "io panicked"))) := by
  have serial := (start_serial s₀).runs runs
  refine ⟨⟨serial, ?timedOut, ?expires, serial.exists_step limit⟩, step_wellFounded, panicSafe lib,
    fun _ _ _ _ _ ran => Effect.gatherTasks_reports ran⟩
  case timedOut =>
    intro i phase
    refine ⟨by rw [phase]; rfl, ?_⟩
    rw [serial.granted, phase]
    exact id
  case expires =>
    intro i d step before after
    exact step.eq_put_of_expires before after

end Dispatching

namespace Notebook

def crashing : Prog (PluginState schema) Json := entitle.bind fun _ => .panic "torn"

def fragile : Library schema := ⟨fun _ _ => .ok crashing, fun _ _ _ _ => .pure ⟨.unit, ()⟩⟩

def turnRequest : Request := ⟨"command:turn", [], true⟩

theorem prepare_crashing : prepare fragile turnRequest opened =
    (crashing, opened.logProgram "turn") := by
  have arguments : turnRequest.arguments turn.options.json = .ok [] := rfl
  have bound : turn.program.bind (fragile.source turn.program.code) [] = .ok crashing := rfl
  have built : crashing.isBuilt = true := rfl
  have found : opened.lookupMethod turnRequest.method = some turn := opened_turn
  simp only [prepare, found, arguments, bound, built, if_true]
  rfl

def crashed : PluginState schema := title.restore (S := schema) retitled (opened.logProgram "turn")

theorem turns_crashing :
    Running.Turns fragile turnRequest .begun opened [] (.ended (.panic "torn")) crashed := by
  let code : Stateful (title.Carrier schema) Unit := Stateful.set retitled
  let waits : Prog.Pending (PluginState schema) Unit Json := .push (fun _ => .panic "torn") .none
  have prepared : Running.Turn fragile turnRequest .begun opened []
      (.before (prepare fragile turnRequest opened).1 .none)
      (prepare fragile turnRequest opened).2 := .prepare opened
  rw [prepare_crashing] at prepared
  have entered : Running.Turn fragile turnRequest (.before entitle waits) (opened.logProgram "turn")
      [] (.within (Prog.viewStep (title.view (S := schema)) code (opened.logProgram "turn"))
        (fun _ _ => .pure ()) waits) (opened.logProgram "turn") := .exec _ _ _ _ _ _
  rw [viewStep_entitle] at entered
  have binds := Running.Turns.refl.tail prepared |>.tail (.bind _ _ _ _)
  exact ((binds.tail entered).tail (.commit _ _ _ _ _) |>.tail (.resume _ _ _ _)).tail
    (.panic "torn" .none crashed)

def aftermath : Dispatching schema Bool where
  state := crashed
  holder := none
  call
    | true => .returned (.error (.fatal "program panicked"))
    | false => .timedOut
  granted := [true]
  asked := []

theorem runs_aftermath :
    Dispatching.Runs fragile (fun _ => turnRequest) (Dispatching.start opened) aftermath := by
  have runs : Dispatching.Runs fragile (fun _ : Bool => turnRequest)
      (Dispatching.start opened) _ :=
    .single (.grant _ true rfl rfl)
  have worked := runs.trans (Dispatching.runs_of_turns (i := true) rfl turns_crashing)
  have expired := worked.tail (.expire _ false rfl)
  -- The panic has left the lock to be released like any other end.
  have released := expired.tail (.release _ true rfl)
  have back := released.tail (.back _ true rfl)
  convert back using 1
  simp only [aftermath, Dispatching.put, Dispatching.start, settled, List.append_nil]
  congr 1
  funext i
  cases i <;> rfl

end Notebook

-- The title that was written before the crash stays, and the other call's request is not logged.
open Notebook in
theorem dispatched_of_crashing :
    ∃ c : Dispatching schema Bool,
      Dispatching.Runs fragile (fun _ => turnRequest) (Dispatching.start opened) c ∧
      c.call true = .returned (.error (.fatal "program panicked")) ∧
      c.call false = .timedOut ∧ c.holder = none ∧
      c.state.data = .string "turned" ∧ c.state.log = opened.log ++ ["turn"] ∧
      Dispatching.Dispatched fragile (fun _ => turnRequest) ⟨0⟩ opened c := by
  obtain ⟨dispatched, -, -, -⟩ := Dispatching.dispatched_of_runs runs_aftermath ⟨0⟩
  exact ⟨aftermath, runs_aftermath, rfl, rfl, rfl, rfl, rfl, dispatched⟩

end PluginHost
