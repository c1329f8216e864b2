import Mathlib.Data.List.Perm.Subperm
import PluginHost.Editor.Machine
import PluginHost.Plugin.Library
import PluginHost.Proofs.Program.Meaning
import PluginHost.Proofs.Script

/-!
Batches of tasks: what came to an end stands in its place among the results.
-/

set_option autoImplicit false

namespace PluginHost

variable {α : Type}

namespace Gathered

theorem fill_of_not_mem {i : Nat} {pending : Nat} {slots : List (Option α)}
    {completed : Completions α} (other : i ∉ completed.map Prod.fst) :
    (fill pending slots completed)[i]? = slots[i]? := by
  induction completed generalizing pending slots with
  | nil => cases pending <;> rfl
  | cons first rest ih =>
    obtain ⟨j, a⟩ := first
    simp only [List.map_cons, List.mem_cons, not_or] at other
    obtain ⟨different, others⟩ := other
    cases pending with
    | zero => rfl
    | succ pending =>
      rw [fill]
      split
      · rw [ih others, List.getElem?_set_ne (Ne.symm different)]
      · exact ih others

-- By induction on the completions, each of which fills a slot that no later one touches.
theorem fill_of_mem {i : Nat} {a : α} {pending : Nat} {slots : List (Option α)}
    {completed : Completions α} (room : completed.length ≤ pending)
    (once : (completed.map Prod.fst).Nodup) (inside : ∀ c ∈ completed, c.1 < slots.length)
    (member : (i, a) ∈ completed) : (fill pending slots completed)[i]? = some (some a) := by
  induction completed generalizing pending slots with
  | nil => cases member
  | cons first rest ih =>
    obtain ⟨j, b⟩ := first
    obtain ⟨pending, rfl⟩ := Nat.exists_eq_succ_of_ne_zero (Nat.ne_of_gt (Nat.lt_of_lt_of_le
      (Nat.succ_pos _) room))
    obtain ⟨fresh, once⟩ := List.nodup_cons.1 once
    have fits : j < slots.length := inside (j, b) List.mem_cons_self
    rw [fill, if_pos fits]
    cases member with
    | head => rw [fill_of_not_mem fresh, List.getElem?_set_self fits]
    | tail _ member =>
      refine ih (Nat.le_of_succ_le_succ room) once (fun c later => ?_) member
      rw [List.length_set]
      exact inside c (List.mem_cons_of_mem _ later)

theorem collect_of_mem {i count : Nat} {timeout : Duration} {a : Gathered α}
    {completed : Completions (Gathered α)} (once : (completed.map Prod.fst).Nodup)
    (inside : ∀ c ∈ completed, c.1 < count) (member : (i, a) ∈ completed) :
    (collect count timeout completed)[i]? = some a := by
  -- No element ends twice, so there is a slot for each.
  have room : completed.length ≤ count := by
    have among : completed.map Prod.fst ⊆ List.range count := by
      intro j
      simp only [List.mem_map, List.mem_range]
      rintro ⟨c, later, rfl⟩
      exact inside c later
    simpa using (List.subperm_of_subset once among).length_le
  have slots : (List.replicate count (none : Option (Gathered α))).length = count :=
    List.length_replicate
  have filled := fill_of_mem room once (slots.symm ▸ inside) member
  simp [collect, filled]

end Gathered

/-- What a panic becomes under the guard of a step that needs no editor. -/
def Panic.guarded (p : Panic) : EditorError :=
  (EditorError.fatal "simple" p.message).withTrail ["simple"]

/-- What a batch comes to. The wait for it fails if its deadline cannot be named. -/
def Task.batch (tasks : List Task) (limit : Duration) :
    Calc (Completions TaskOutcome) → Except EditorError (List (Gathered Json))
  | .ok completed => .ok (Gathered.collect tasks.length limit
    (completed.map fun e => (e.1, e.2.gathered)))
  | .error p => .error p.guarded

theorem Effect.evaluate_gatherTasks (threads : Nat) (tasks : List Task) (limit : Duration) :
    (gatherTasks threads tasks limit).evaluate = .ask (.runTasks threads tasks limit)
      fun answer => .done (Task.batch tasks limit answer) := by
  simp only [gatherTasks, Action.evaluate, Evaluate.action, Evaluate.body]
  congr 1
  funext answer
  cases answer with
  | ok completed => simp only [Evaluate.body, Evaluate.action, Body.pure, Task.batch]
  | error p =>
    simp only [Evaluate.body, Evaluate.action]
    rfl

theorem Effect.gatherTasks_reports {threads : Nat} {tasks : List Task} {timeout : Duration}
    {asked : List Exchange} {result : Except EditorError (List (Gathered Json))}
    (ran : (gatherTasks threads tasks timeout).evaluate.Asks asked result) :
    ∃ answer : Calc (Completions TaskOutcome),
      asked = [⟨.runTasks threads tasks timeout, answer⟩] ∧
      (∀ p, answer = .error p → result = .error p.guarded) ∧
      ∀ completed, answer = .ok completed → ∃ results : List (Gathered Json),
        result = .ok results ∧
        ((completed.map Prod.fst).Nodup → (∀ c ∈ completed, c.1 < tasks.length) →
          ∀ i m, (i, .panic m) ∈ completed →
            results[i]? = some (.error (.failed "io panicked"))) := by
  simp only [evaluate_gatherTasks, Script.asks_ask, Script.asks_done] at ran
  obtain ⟨answer, later, rfl, rfl, rfl⟩ := ran
  refine ⟨answer, rfl, fun p failed => failed ▸ rfl, ?_⟩
  rintro completed rfl
  refine ⟨_, rfl, fun once inside i m member => ?_⟩
  refine Gathered.collect_of_mem ?_ ?_ (List.mem_map.2 ⟨_, member, rfl⟩)
  · simpa [Function.comp_def] using once
  · intro c later
    obtain ⟨c, earlier, rfl⟩ := List.mem_map.1 later
    exact inside c earlier

namespace Gathered

@[simp] theorem length_fill (pending : Nat) (slots : List (Option α)) (completed : Completions α) :
    (fill pending slots completed).length = slots.length := by
  fun_induction fill pending slots completed with
  | case1 => rfl
  | case2 => rfl
  | case3 _ _ _ _ _ _ ih => rw [ih, List.length_set]
  | case4 _ _ _ _ _ _ ih => exact ih

@[simp] theorem length_collect (count : Nat) (timeout : Duration)
    (completed : Completions (Gathered α)) : (collect count timeout completed).length = count := by
  simp [collect]

theorem collect_of_not_mem {i count : Nat} (timeout : Duration)
    {completed : Completions (Gathered α)} (within : i < count)
    (missing : i ∉ completed.map Prod.fst) :
    (collect count timeout completed)[i]? = some (.error (.timedOut timeout)) := by
  have empty : (fill count (List.replicate count none) completed)[i]? =
      (List.replicate count none)[i]? := fill_of_not_mem missing
  rw [collect, List.getElem?_map, empty, List.getElem?_replicate, if_pos within]
  rfl

end Gathered

namespace Task

variable {tasks : List Task} {order other : List Nat} {limit : Duration}

/-- The tasks of a batch at these places, as they come to their ends one after the other. -/
def endings (tasks : List Task) (order : List Nat) : Completions TaskOutcome :=
  order.filterMap fun i => (tasks[i]?).map fun t => (i, t.outcome)

theorem mem_endings {i : Nat} {outcome : TaskOutcome} : (i, outcome) ∈ endings tasks order ↔
    i ∈ order ∧ ∃ t, tasks[i]? = some t ∧ t.outcome = outcome := by
  constructor
  next =>
    intro member
    obtain ⟨j, ended, found⟩ := List.mem_filterMap.1 member
    obtain ⟨t, there, same⟩ := Option.map_eq_some_iff.1 found
    cases same
    exact ⟨ended, t, there, rfl⟩
  next =>
    intro ⟨ended, t, there, same⟩
    exact List.mem_filterMap.2 ⟨i, ended, by simp [there, same]⟩

theorem map_fst_endings (inside : ∀ i ∈ order, i < tasks.length) :
    (endings tasks order).map Prod.fst = order := by
  induction order with
  | nil => rfl
  | cons i rest ih =>
    have within := inside i List.mem_cons_self
    have later := ih fun j member => inside j (List.mem_cons_of_mem i member)
    simp only [endings, List.filterMap_cons, List.getElem?_eq_getElem within, Option.map_some,
      List.map_cons]
    exact congrArg (i :: ·) later

theorem endings_of_own {completed : Completions TaskOutcome}
    (own : ∀ e ∈ completed, ∃ t, tasks[e.1]? = some t ∧ t.outcome = e.2) :
    endings tasks (completed.map Prod.fst) = completed := by
  induction completed with
  | nil => rfl
  | cons e rest ih =>
    obtain ⟨t, there, same⟩ := own e List.mem_cons_self
    have later := ih fun e member => own e (.tail _ member)
    simp only [endings, List.map_cons, List.filterMap_cons, there, Option.map_some, same]
    exact congrArg (e :: ·) later

/-- The results of a batch of which the tasks in `order` have come to an end. -/
def results (tasks : List Task) (limit : Duration) (order : List Nat) : List (Gathered Json) :=
  Gathered.collect tasks.length limit ((endings tasks order).map fun e => (e.1, e.2.gathered))

theorem getElem?_results (once : order.Nodup) (inside : ∀ i ∈ order, i < tasks.length) {i : Nat}
    {t : Task} (there : tasks[i]? = some t) : (results tasks limit order)[i]? =
      some (if i ∈ order then t.outcome.gathered else .error (.timedOut limit)) := by
  have places : ((endings tasks order).map fun e => (e.1, e.2.gathered)).map Prod.fst = order := by
    rw [List.map_map]
    exact map_fst_endings inside
  by_cases ended : i ∈ order
  next =>
    rw [if_pos ended]
    apply Gathered.collect_of_mem
    next => rwa [places]
    next =>
      intro c member
      exact inside c.1 (places ▸ List.mem_map_of_mem member)
    next =>
      have own : (i, t.outcome) ∈ endings tasks order := mem_endings.2 ⟨ended, t, there, rfl⟩
      exact List.mem_map.2 ⟨_, own, rfl⟩
  next =>
    rw [if_neg ended]
    have within : i < tasks.length := (List.getElem?_eq_some_iff.1 there).1
    exact Gathered.collect_of_not_mem limit within (places.symm ▸ ended)

theorem results_congr (once : order.Nodup) (inside : ∀ i ∈ order, i < tasks.length)
    (once' : other.Nodup) (inside' : ∀ i ∈ other, i < tasks.length)
    (same : ∀ i, i ∈ other ↔ i ∈ order) : results tasks limit other = results tasks limit order := by
  apply List.ext_getElem?
  intro i
  by_cases within : i < tasks.length
  next =>
    have there := List.getElem?_eq_getElem within
    rw [getElem?_results once inside there, getElem?_results once' inside' there]
    simp only [same]
  next =>
    have beyond : ∀ order, (results tasks limit order)[i]? = none := by
      intro order
      apply List.getElem?_eq_none
      rw [results, Gathered.length_collect]
      omega
    rw [beyond, beyond]

end Task

namespace Effect

theorem meaning_output_gather {S : Schema} (lib : Library S) {s : PluginState S} {threads : Nat}
    {tasks : List Task} {timeout : Duration}
    (pool : s.interpreter = .pool threads timeout) (own : Option Duration) :
    (output lib (.gather tasks own) s).meaning s = .ask (.runTasks threads tasks (own.getD timeout))
      fun answer =>
        .done (.ofExcept ((Task.batch tasks (own.getD timeout) answer).mapError .ofEditor), s) := by
  simp only [output, interpret, pool, carryOut, Prog.editor, Prog.editorStep, Prog.meaning,
    gatherTasks, Action.map, Action.evaluate, Evaluate.action, Evaluate.body, Script.map,
    Script.bind]
  congr 1
  funext answer
  cases answer with
  | ok completed =>
    simp only [Evaluate.body, Evaluate.action, Body.pure, Script.bind, dite_true]
    rfl
  | error p =>
    simp only [Evaluate.body, Evaluate.action, Script.bind]
    rfl

end Effect

-- The places at which a batch was cut, with an order of the whole batch that they begin.
theorem exists_order {places : List Nat} {count : Nat} (once : places.Nodup)
    (inside : ∀ i ∈ places, i < count) :
    ∃ (order : List Nat) (cut : Nat), order.Perm (List.range count) ∧ order.take cut = places := by
  have among : places.Subperm (List.range count) :=
    List.subperm_of_subset once fun i member => List.mem_range.2 (inside i member)
  obtain ⟨some, same, sublist⟩ := among
  obtain ⟨rest, all⟩ := sublist.exists_perm_append
  exact ⟨places ++ rest, places.length, (all.trans (same.append_right rest)).symm, by simp⟩

namespace Schedule

variable {α : Type} {deadline : Nat} {ends : List (Nat × α)}

theorem mem_completed {i : Nat} {a : α} : (i, a) ∈ completed deadline ends ↔
    ∃ finish, ends[i]? = some (finish, a) ∧ finish < deadline := by
  simp only [completed, List.mem_map, List.mem_mergeSort, List.mem_filter,
    List.mem_zipIdx_iff_getElem?, decide_eq_true_eq]
  constructor
  next =>
    intro ⟨⟨⟨finish, b⟩, j⟩, ⟨there, early⟩, same⟩
    cases same
    exact ⟨finish, there, early⟩
  next =>
    intro ⟨finish, there, early⟩
    exact ⟨((finish, a), i), ⟨there, early⟩, rfl⟩

theorem nodup_completed : ((completed deadline ends).map Prod.fst).Nodup := by
  have places : (ends.zipIdx.map Prod.snd).Nodup := by
    rw [List.zipIdx_map_snd]
    exact List.nodup_range'
  have kept : ((ends.zipIdx.filter fun e => e.1.1 < deadline).map Prod.snd).Nodup :=
    places.sublist (List.filter_sublist.map Prod.snd)
  rw [completed, List.map_map]
  exact ((List.mergeSort_perm _ _).map Prod.snd).nodup_iff.2 kept

end Schedule

/-- Whenever the tasks of a batch end, the deadline cuts some order of them. -/
theorem Task.exists_order_of_completed (tasks : List Task) (finishes : List Nat) (deadline : Nat) :
    ∃ (order : List Nat) (cut : Nat), order.Perm (List.range tasks.length) ∧
      Schedule.completed deadline (finishes.zip (tasks.map Task.outcome)) =
        endings tasks (order.take cut) := by
  let completed := Schedule.completed deadline (finishes.zip (tasks.map Task.outcome))
  have own : ∀ e ∈ completed, ∃ t, tasks[e.1]? = some t ∧ t.outcome = e.2 := by
    intro ⟨i, outcome⟩ member
    obtain ⟨finish, there, _⟩ := Schedule.mem_completed.1 member
    obtain ⟨_, outcomes⟩ := List.getElem?_zip_eq_some.1 there
    rw [List.getElem?_map] at outcomes
    exact Option.map_eq_some_iff.1 outcomes
  have inside : ∀ i ∈ completed.map Prod.fst, i < tasks.length := by
    intro i member
    obtain ⟨e, ended, rfl⟩ := List.mem_map.1 member
    obtain ⟨t, there, _⟩ := own e ended
    exact (List.getElem?_eq_some_iff.1 there).1
  obtain ⟨order, cut, all, places⟩ := exists_order Schedule.nodup_completed inside
  refine ⟨order, cut, all, ?_⟩
  rw [places]
  exact (endings_of_own own).symm

theorem Machine.exists_order_of_runTasks {m : Machine} {threads : Nat} {tasks : List Task}
    {wait : Duration} {ended : Completions TaskOutcome}
    (ran : (m.runTasks threads tasks wait).1 = .ok ended) :
    ∃ (order : List Nat) (cut : Nat), order.Perm (List.range tasks.length) ∧
      ended = Task.endings tasks (order.take cut) := by
  simp only [runTasks, await] at ran
  split at ran
  next deadline _ =>
    obtain ⟨order, cut, all, same⟩ := Task.exists_order_of_completed tasks _ deadline
    exact ⟨order, cut, all, (Except.ok.inj ran).symm.trans same⟩
  next => cases ran

/-- A batch yields one result for each task, in the order of the batch, whatever the order in which
the tasks come to their ends and wherever the deadline cuts them off. A task that was in time has
its own outcome for its result, any other the batch's timeout, so the results depend on nothing but
which tasks were in time. A schedule is one of those orders with a cut, and a deadline that cannot
be named fails the batch before anything comes to its end. -/
theorem batch_in_order (threads : Nat) {tasks : List Task} (limit : Duration) {order : List Nat}
    (all : order.Perm (List.range tasks.length)) (cut : Nat) :
    (∃ results : List (Gathered Json),
      results.length = tasks.length ∧
      (∀ i t, tasks[i]? = some t → results[i]? =
        some (if i ∈ order.take cut then t.outcome.gathered else .error (.timedOut limit))) ∧
      ∀ (other : List Nat) (cut' : Nat), other.Perm (List.range tasks.length) →
        (∀ i, i ∈ other.take cut' ↔ i ∈ order.take cut) →
        (∀ result, (Effect.gatherTasks threads tasks limit).evaluate.Asks
          [⟨.runTasks threads tasks limit, .ok (Task.endings tasks (other.take cut'))⟩] result ↔
            result = .ok results) ∧
        ∀ {S : Schema} (lib : Library S) (s : PluginState S) (own : Option Duration)
          (timeout : Duration), s.interpreter = .pool threads timeout → own.getD timeout = limit →
          ∀ result, ((Effect.output lib (.gather tasks own) s).run s).Asks
            [⟨.runTasks threads tasks limit, .ok (Task.endings tasks (other.take cut'))⟩] result ↔
              result = (.value results, s)) ∧
    (∀ (m : Machine) ended, (m.runTasks threads tasks limit).1 = .ok ended →
      ∃ (other : List Nat) (cut' : Nat), other.Perm (List.range tasks.length) ∧
        ended = Task.endings tasks (other.take cut')) ∧
    ∀ p : Panic,
      (∀ result, (Effect.gatherTasks threads tasks limit).evaluate.Asks
        [⟨.runTasks threads tasks limit, .error p⟩] result ↔ result = .error p.guarded) ∧
      ∀ {S : Schema} (lib : Library S) (s : PluginState S) (own : Option Duration)
        (timeout : Duration), s.interpreter = .pool threads timeout → own.getD timeout = limit →
        ∀ result, ((Effect.output lib (.gather tasks own) s).run s).Asks
          [⟨.runTasks threads tasks limit, .error p⟩] result ↔
            result = (.error (.fatal p.guarded.report), s) := by
  have evaluated : ∀ answer result, (Effect.gatherTasks threads tasks limit).evaluate.Asks
      [⟨.runTasks threads tasks limit, answer⟩] result ↔
        result = Task.batch tasks limit answer := by
    intro answer result
    rw [Effect.evaluate_gatherTasks, Script.asks_once]
  have run : ∀ {S : Schema} (lib : Library S) (s : PluginState S) (own : Option Duration)
      (timeout : Duration), s.interpreter = .pool threads timeout → own.getD timeout = limit →
      ∀ answer result, ((Effect.output lib (.gather tasks own) s).run s).Asks
        [⟨.runTasks threads tasks limit, answer⟩] result ↔
          result = (.ofExcept ((Task.batch tasks limit answer).mapError .ofEditor), s) := by
    intro S lib s own timeout pool waits answer result
    rw [Prog.run_eq_meaning, Effect.meaning_output_gather lib pool own, waits, Script.asks_once]
  refine ⟨?_, fun m ended ran => Machine.exists_order_of_runTasks ran, fun p =>
    ⟨evaluated (.error p), fun lib s own timeout pool waits => run lib s own timeout pool waits _⟩⟩
  have once : ∀ (order : List Nat) cut, order.Perm (List.range tasks.length) →
      (order.take cut).Nodup := by
    intro order cut all
    exact (all.nodup_iff.2 List.nodup_range).sublist (List.take_sublist cut order)
  have inside : ∀ (order : List Nat) cut, order.Perm (List.range tasks.length) →
      ∀ i ∈ order.take cut, i < tasks.length := by
    intro order cut all i member
    exact List.mem_range.1 (all.mem_iff.1 (List.mem_of_mem_take member))
  refine ⟨Task.results tasks limit (order.take cut), Gathered.length_collect _ _ _, ?_, ?_⟩
  next =>
    intro i t there
    exact Task.getElem?_results (once order cut all) (inside order cut all) there
  next =>
    intro other cut' all' same
    have agree : Task.results tasks limit (other.take cut') =
        Task.results tasks limit (order.take cut) :=
      Task.results_congr (once order cut all) (inside order cut all) (once other cut' all')
        (inside other cut' all') same
    rw [← agree]
    exact ⟨evaluated _, fun lib s own timeout pool waits => run lib s own timeout pool waits _⟩

namespace Errands

def millis (n : Nat) (outcome : TaskOutcome) : Task := ⟨.ofMillis n, outcome⟩

def tasks : List Task := [millis 0 (.value (.int 1)), millis 50 (.value (.int 2)),
  millis 10 (.failure ["third", "failed"]), millis 20 (.panic "lost")]

def order : List Nat := [0, 2, 3, 1]

end Errands

open Errands in
theorem batch_in_order_cut : order.Perm (List.range tasks.length) ∧
    (Effect.gatherTasks 4 tasks (.ofMillis 30)).evaluate.Asks
      [⟨.runTasks 4 tasks (.ofMillis 30), .ok (Task.endings tasks (order.take 3))⟩]
      (.ok [.ok (.int 1), .error (.timedOut (.ofMillis 30)), .error (.failed "third: failed"),
        .error (.failed "io panicked")]) := by
  have all : order.Perm (List.range tasks.length) := by decide
  obtain ⟨⟨results, length, place, runs⟩, -⟩ := batch_in_order 4 (.ofMillis 30) all 3
  have listed : results = [.ok (.int 1), .error (.timedOut (.ofMillis 30)),
      .error (.failed "third: failed"), .error (.failed "io panicked")] := by
    apply List.ext_getElem?
    intro i
    match i with
    | 0 => exact place 0 _ rfl
    | 1 => exact place 1 _ rfl
    | 2 => exact place 2 _ rfl
    | 3 => exact place 3 _ rfl
    | i + 4 =>
      have beyond : results[i + 4]? = none := List.getElem?_eq_none (by rw [length]; simp [tasks])
      exact beyond
  have ran := ((runs order 3 all fun _ => Iff.rfl).1 (.ok results)).2 rfl
  rw [listed] at ran
  exact ⟨all, ran⟩

end PluginHost
