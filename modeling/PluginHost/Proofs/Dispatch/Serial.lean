import Mathlib.Data.List.Nodup
import Mathlib.Logic.Function.Basic
import Mathlib.Logic.Relation
import PluginHost.Proofs.Dispatch.Panicking
import PluginHost.Proofs.Session.Sequential

/-!
Calls of the dispatcher at the same time. Whoever gets the lock runs alone, so the calls come to what
their requests come to one after the other.
-/

set_option autoImplicit false

namespace PluginHost

variable {S : Schema} {ι : Type}

inductive Phase (S : Schema) : Type 1 where
  | waiting
  | timedOut
  | holding (run : Running S)
  | released (outcome : Outcome PluginError Json)
  | returned (result : Except PluginError Json)

namespace Phase

def result? (limit : Duration) : Phase S → Option (Except PluginError Json)
  | .timedOut => some (.error (.lockTimeout limit))
  | .returned result => some result
  | _ => none

-- The outcome is on its way to the caller or has reached it.
def HasEnded (outcome : Outcome PluginError Json) : Phase S → Prop
  | .released o => o = outcome
  | .returned result => result = settled outcome
  | _ => False

def IsGranted : Phase S → Prop
  | .waiting | .timedOut => False
  | _ => True

end Phase

theorem asks_executeAll_append {lib : Library S} {rs : List Request} {r : Request}
    {s t u : PluginState S} {asked more : List Exchange}
    {outcomes : List (Outcome PluginError Json)} {outcome : Outcome PluginError Json}
    (first : (executeAll lib rs s).Asks asked (outcomes, t))
    (last : (execute lib r t).Asks more (outcome, u)) :
    (executeAll lib (rs ++ [r]) s).Asks (asked ++ more) (outcomes ++ [outcome], u) := by
  induction rs generalizing s asked outcomes with
  | nil =>
    obtain ⟨rfl, ⟨⟩⟩ := Script.asks_done.1 first
    refine Script.asks_bind.2 ⟨more, _, [], by simp, last, ?_⟩
    exact Script.asks_map.2 ⟨([], u), .done _, rfl⟩
  | cons r' rs ih =>
    obtain ⟨begun, ⟨o, v⟩, later, rfl, ran, rest⟩ := Script.asks_bind.1 first
    obtain ⟨⟨os, w⟩, others, ⟨⟩⟩ := Script.asks_map.1 rest
    refine Script.asks_bind.2 ⟨begun, (o, v), later ++ more, by simp, ran, ?_⟩
    exact Script.asks_map.2 ⟨_, ih others, rfl⟩

structure Dispatching (S : Schema) (ι : Type) : Type 1 where
  state : PluginState S
  holder : Option ι
  call : ι → Phase S
  -- The calls that got the lock, in this order.
  granted : List ι
  asked : List Exchange

namespace Dispatching

def start (s : PluginState S) : Dispatching S ι := ⟨s, none, fun _ => .waiting, [], []⟩

section Order

variable (lib : Library S) (request : ι → Request) (s₀ : PluginState S)

/-- These calls have come to what their requests come to one after the other. -/
def Completed (c : Dispatching S ι) (ids : List ι) (asked : List Exchange) (s : PluginState S) :
    Prop :=
  ∃ outcomes, (executeAll lib (ids.map request) s₀).Asks asked (outcomes, s) ∧
    List.Forall₂ (fun i outcome => (c.call i).HasEnded outcome) ids outcomes

/-- The calls before the holder have run one after the other, and the holder has got so far from
what they left. -/
structure Serial (c : Dispatching S ι) : Prop where
  once : c.granted.Nodup
  granted : ∀ i, i ∈ c.granted ↔ (c.call i).IsGranted
  holds : ∀ i run, c.call i = .holding run → c.holder = some i
  free : c.holder = none → Completed lib request s₀ c c.granted c.asked c.state
  held : ∀ i, c.holder = some i → ∃ run before asked more s, c.call i = .holding run ∧
    c.granted = before ++ [i] ∧ c.asked = asked ++ more ∧
    Completed lib request s₀ c before asked s ∧
    Running.Turns lib (request i) .begun s more run c.state

end Order

variable {lib : Library S} {request : ι → Request} {s₀ s : PluginState S}
  {c d : Dispatching S ι} {i j : ι} {ids : List ι} {asked : List Exchange}

theorem Completed.congr (completed : Completed lib request s₀ c ids asked s)
    (kept : ∀ i ∈ ids, ∀ outcome, (c.call i).HasEnded outcome → (d.call i).HasEnded outcome) :
    Completed lib request s₀ d ids asked s := by
  obtain ⟨outcomes, asks, ended⟩ := completed
  refine ⟨outcomes, asks, ?_⟩
  clear asks
  induction ended with
  | nil => exact .nil
  | cons first _ ih =>
    exact .cons (kept _ List.mem_cons_self _ first)
      (ih fun i member => kept i (List.mem_cons_of_mem _ member))

theorem start_serial (s₀ : PluginState S) : Serial lib request s₀ (start s₀) where
  once := .nil
  granted i := by simp [start, Phase.IsGranted]
  holds i run phase := by cases phase
  free _ := ⟨[], .done _, .nil⟩
  held i holder := by cases holder

theorem Serial.not_mem_of_waiting (serial : Serial lib request s₀ c) (phase : c.call i = .waiting) :
    i ∉ c.granted := by
  rw [serial.granted, phase]
  exact id

theorem Serial.not_mem_of_append (serial : Serial lib request s₀ c)
    (split : c.granted = ids ++ [i]) : i ∉ ids := by
  have once := serial.once
  rw [split, List.nodup_append_comm] at once
  exact (List.nodup_cons.1 once).1

variable [DecidableEq ι]

def put (c : Dispatching S ι) (i : ι) (phase : Phase S) : Dispatching S ι :=
  { c with call := Function.update c.call i phase }

@[simp] theorem put_call_self {phase : Phase S} : (c.put i phase).call i = phase := by
  simp [put]

@[simp] theorem put_call_of_ne {phase : Phase S} (other : j ≠ i) :
    (c.put i phase).call j = c.call j := by
  simp [put, other]

theorem Completed.put (completed : Completed lib request s₀ c ids asked s) {phase : Phase S}
    (other : i ∉ ids) : Completed lib request s₀ (c.put i phase) ids asked s := by
  refine completed.congr fun j member outcome ended => ?_
  have different : j ≠ i := fun same => other (same ▸ member)
  simpa [different] using ended

variable (lib request) in
-- Any call may get a free lock, and any that waits may give up, at any time.
inductive Step : Dispatching S ι → Dispatching S ι → Prop where
  | grant (c : Dispatching S ι) (i : ι) (phase : c.call i = .waiting) (free : c.holder = none) :
      Step c { c with
        holder := some i
        call := (c.put i (.holding .begun)).call
        granted := c.granted ++ [i] }
  | expire (c : Dispatching S ι) (i : ι) (phase : c.call i = .waiting) : Step c (c.put i .timedOut)
  | work (c : Dispatching S ι) (i : ι) {run next : Running S} {t : PluginState S}
      {asked : List Exchange} (phase : c.call i = .holding run)
      (turn : Running.Turn lib (request i) run c.state asked next t) :
      Step c { c with
        state := t
        call := (c.put i (.holding next)).call
        asked := c.asked ++ asked }
  | release (c : Dispatching S ι) (i : ι) {outcome : Outcome PluginError Json}
      (phase : c.call i = .holding (.ended outcome)) :
      Step c { c with holder := none, call := (c.put i (.released outcome)).call }
  | back (c : Dispatching S ι) (i : ι) {outcome : Outcome PluginError Json}
      (phase : c.call i = .released outcome) : Step c (c.put i (.returned (settled outcome)))

variable (lib request) in
abbrev Runs : Dispatching S ι → Dispatching S ι → Prop := Relation.ReflTransGen (Step lib request)

namespace Serial

theorem grant (serial : Serial lib request s₀ c) (phase : c.call i = .waiting)
    (free : c.holder = none) : Serial lib request s₀ { c with
      holder := some i
      call := (c.put i (.holding .begun)).call
      granted := c.granted ++ [i] } := by
  have new := serial.not_mem_of_waiting phase
  constructor
  case once => exact List.nodup_append_comm.1 (List.nodup_cons.2 ⟨new, serial.once⟩)
  case granted =>
    intro j
    by_cases same : j = i
    · simp [same, Phase.IsGranted]
    · simp [same, serial.granted j]
  case holds =>
    intro j run holding
    by_cases same : j = i
    · rw [same]
    · have before := serial.holds j run (by simpa [same] using holding)
      rw [free] at before
      cases before
  case free =>
    intro none
    cases none
  case held =>
    rintro _ ⟨⟩
    exact ⟨.begun, c.granted, c.asked, [], c.state, put_call_self, rfl, (List.append_nil _).symm,
      (serial.free free).put new, .refl⟩

theorem granted_put (serial : Serial lib request s₀ c) {phase : Phase S}
    (same : (c.call i).IsGranted ↔ phase.IsGranted) (j : ι) :
    j ∈ (c.put i phase).granted ↔ ((c.put i phase).call j).IsGranted := by
  change j ∈ c.granted ↔ _
  by_cases moved : j = i
  · simp [moved, serial.granted, same]
  · simp [moved, serial.granted]

theorem holds_put (serial : Serial lib request s₀ c) {phase : Phase S} {run : Running S}
    (free : ∀ run, phase ≠ .holding run) (holding : (c.put i phase).call j = .holding run) :
    c.holder = some j ∧ j ≠ i := by
  by_cases moved : j = i
  · subst moved
    exact absurd (put_call_self.symm.trans holding) (free run)
  · exact ⟨serial.holds j run (by simpa [moved] using holding), moved⟩

-- For a call that has nothing to do with the lock.
theorem move (serial : Serial lib request s₀ c) {phase : Phase S}
    (before : ∀ run, c.call i ≠ .holding run) (after : ∀ run, phase ≠ .holding run)
    (granted : (c.call i).IsGranted ↔ phase.IsGranted)
    (ended : ∀ outcome, (c.call i).HasEnded outcome → phase.HasEnded outcome) :
    Serial lib request s₀ (c.put i phase) := by
  have kept : ∀ j outcome, (c.call j).HasEnded outcome →
      ((c.put i phase).call j).HasEnded outcome := by
    intro j outcome had
    by_cases moved : j = i
    · subst moved
      simpa using ended outcome had
    · simpa [moved] using had
  constructor
  case once => exact serial.once
  case granted => exact serial.granted_put granted
  case holds => exact fun j run holding => (serial.holds_put after holding).1
  case free => exact fun free => (serial.free free).congr fun j _ => kept j
  case held =>
    intro j holder
    obtain ⟨run, earlier, asked, more, s, holding, split, trace, completed, turns⟩ :=
      serial.held j holder
    have other : j ≠ i := by
      rintro rfl
      exact before run holding
    exact ⟨run, earlier, asked, more, s, by simpa [other] using holding, split, trace,
      completed.congr fun k _ => kept k, turns⟩

theorem work (serial : Serial lib request s₀ c) {run next : Running S} {t : PluginState S}
    {asked : List Exchange} (phase : c.call i = .holding run)
    (turn : Running.Turn lib (request i) run c.state asked next t) :
    Serial lib request s₀ { c with
      state := t
      call := (c.put i (.holding next)).call
      asked := c.asked ++ asked } := by
  have holder := serial.holds i run phase
  obtain ⟨_, before, first, more, s, holding, split, trace, completed, turns⟩ :=
    serial.held i holder
  cases phase.symm.trans holding
  constructor
  case once => exact serial.once
  case granted => exact serial.granted_put (by simp [phase, Phase.IsGranted])
  case holds =>
    intro j run' holding
    by_cases moved : j = i
    · exact moved ▸ holder
    · exact serial.holds j run' (by simpa [moved] using holding)
  case free =>
    intro free
    cases holder.symm.trans free
  case held =>
    intro j other
    cases holder.symm.trans other
    have earlier := serial.not_mem_of_append split
    refine ⟨next, before, first, more ++ asked, s, put_call_self, split, ?_,
      completed.put earlier, turns.tail turn⟩
    simp [trace]

theorem release (serial : Serial lib request s₀ c) {outcome : Outcome PluginError Json}
    (phase : c.call i = .holding (.ended outcome)) :
    Serial lib request s₀ { c with holder := none, call := (c.put i (.released outcome)).call } := by
  have holder := serial.holds i _ phase
  obtain ⟨_, before, asked, more, s, holding, split, trace, completed, turns⟩ :=
    serial.held i holder
  cases phase.symm.trans holding
  constructor
  case once => exact serial.once
  case granted => exact serial.granted_put (by simp [phase, Phase.IsGranted])
  case holds =>
    intro j run holding
    obtain ⟨other, moved⟩ := serial.holds_put (by simp) holding
    cases holder.symm.trans other
    exact absurd rfl moved
  case free =>
    intro _
    -- The holder has come to the end of what its request does alone.
    have last : (execute lib (request i) s).Asks (more ++ []) (outcome, c.state) :=
      turns.asks_rest (.done (outcome, c.state))
    rw [List.append_nil] at last
    have kept : Completed lib request s₀ (c.put i (.released outcome)) before asked s :=
      completed.put (serial.not_mem_of_append split)
    obtain ⟨outcomes, asks, ended⟩ := kept
    simp only [split, trace]
    refine ⟨outcomes ++ [outcome], ?_, ?_⟩
    · simpa using asks_executeAll_append asks last
    · exact List.rel_append ended (.cons (by simp [Phase.HasEnded]) .nil)
  case held =>
    intro j none
    cases none

theorem step (serial : Serial lib request s₀ c) (step : Step lib request c d) :
    Serial lib request s₀ d := by
  cases step with
  | grant i phase free => exact serial.grant phase free
  | expire i phase =>
    exact serial.move (by simp [phase]) (by simp) (by simp [phase, Phase.IsGranted])
      (by simp [phase, Phase.HasEnded])
  | work i phase turn => exact serial.work phase turn
  | release i phase => exact serial.release phase
  | back i phase =>
    refine serial.move (by simp [phase]) (by simp) (by simp [phase, Phase.IsGranted]) ?_
    rw [phase]
    exact fun outcome same => congrArg settled same

theorem runs (serial : Serial lib request s₀ c) (runs : Runs lib request c d) :
    Serial lib request s₀ d := by
  induction runs with
  | refl => exact serial
  | tail _ step ih => exact ih.step step

end Serial

end Dispatching

end PluginHost
