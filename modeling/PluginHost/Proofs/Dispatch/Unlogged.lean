import PluginHost.Proofs.Dispatch.Builtins

/-!
Programs that do not look at the log. From states that differ in nothing else they ask the same
questions, come to the same outcomes and leave states that differ in nothing else.
-/

set_option autoImplicit false

namespace PluginHost

variable {S : Schema} {α β : Type}

/-- The state as it is apart from the log. -/
def PluginState.withoutLog (s : PluginState S) : PluginState S := { s with log := [] }

def unlogged (p : α × PluginState S) : α × PluginState S := (p.1, p.2.withoutLog)

/-- What is asked, what comes of it and what is left of the state is up to the rest of the state. -/
def LogBlind (f : PluginState S → Script (α × PluginState S)) : Prop :=
  ∀ s, (f s).map unlogged = (f s.withoutLog).map unlogged

namespace LogBlind

variable {f : PluginState S → Script (α × PluginState S)}

theorem map_eq (blind : LogBlind f) {s t : PluginState S} (same : s.withoutLog = t.withoutLog) :
    (f s).map unlogged = (f t).map unlogged := by
  rw [blind s, blind t, same]

theorem done (a : α) : LogBlind fun s : PluginState S => .done (a, s) := fun _ => rfl

theorem bind {g : α × PluginState S → Script (β × PluginState S)} (first : LogBlind f)
    (later : ∀ a, LogBlind fun s => g (a, s)) : LogBlind fun s => (f s).bind g := by
  intro s
  simp only [Script.map_bind]
  apply Script.bind_congr_of_map (first s)
  intro (a, t) (b, u) same
  obtain ⟨rfl, same⟩ := Prod.mk.inj same
  exact (later a).map_eq same

theorem map (blind : LogBlind f) (h : α → β) :
    LogBlind fun s => (f s).map fun (a, t) => (h a, t) :=
  blind.bind fun a => done (h a)

theorem after {x : PluginState S → Script α} {g : α → PluginState S → Script (β × PluginState S)}
    (same : ∀ s, x s = x s.withoutLog) (later : ∀ a, LogBlind (g a)) :
    LogBlind fun s => (x s).bind fun a => g a s := by
  intro s
  simp only [Script.map_bind, same s]
  congr 1
  funext a
  exact later a s

theorem ask {q : Query} {g : q.Answer → PluginState S → Script (β × PluginState S)}
    (later : ∀ a, LogBlind (g a)) : LogBlind fun s => .ask q fun a => g a s :=
  after (x := fun _ => .ask q .done) (fun _ => rfl) later

theorem of_done {f : PluginState S → α × PluginState S}
    (same : ∀ s, unlogged (f s) = unlogged (f s.withoutLog)) : LogBlind fun s => .done (f s) :=
  fun s => congrArg Script.done (same s)

end LogBlind

namespace Prog

def IgnoresLog (x : Prog (PluginState S) α) : Prop := LogBlind fun s => x.meaning s

namespace IgnoresLog

theorem pure (a : α) : (Prog.pure a : Prog (PluginState S) α).IgnoresLog := fun _ => rfl

theorem failed (e : PluginError) : (Prog.failed e : Prog (PluginState S) α).IgnoresLog :=
  fun _ => rfl

theorem bind {x : Prog (PluginState S) β} {next : β → Prog (PluginState S) α}
    (first : x.IgnoresLog) (later : ∀ b, (next b).IgnoresLog) : (x.bind next).IgnoresLog := by
  unfold IgnoresLog
  simp only [meaning]
  refine LogBlind.bind first fun outcome => ?_
  cases outcome with
  | value b => exact later b
  | error | panic => exact fun _ => rfl

theorem map {x : Prog (PluginState S) α} (ignores : x.IgnoresLog) (f : α → β) :
    (x.map f).IgnoresLog :=
  ignores.bind fun a => .pure (f a)

theorem exec {name : String} {view : Option String}
    {step : PluginState S → Script (Outcome PluginError α × PluginState S)}
    (blind : LogBlind step) : (Prog.exec name view step fun a _ => .pure a).IgnoresLog := by
  unfold IgnoresLog
  simp only [meaning]
  refine LogBlind.bind blind fun outcome => ?_
  cases outcome with
  | value | error | panic => exact fun _ => rfl

theorem editor (x : Action α) : (Prog.editor x : Prog (PluginState S) α).IgnoresLog := by
  refine exec (LogBlind.after (fun _ => rfl) fun outcome => ?_)
  cases outcome with
  | ok | error => exact fun _ => rfl

theorem access {name : String} {step : Step S α} (blind : LogBlind step) :
    (Prog.access name step).IgnoresLog :=
  exec (blind.map Outcome.ofExcept)

theorem onState {name : String} {f : PluginState S → Except PluginError α × PluginState S}
    (same : ∀ s, unlogged (f s) = unlogged (f s.withoutLog)) :
    (Prog.access name (Step.onState f)).IgnoresLog :=
  access (.of_done same)

end IgnoresLog

end Prog

namespace PluginState

theorem componentValue_withoutLog (s : PluginState S) (k : S.Kind) :
    s.withoutLog.componentValue k = unlogged (s.componentValue k) := by
  have stored : s.withoutLog.store = s.store := rfl
  have first : s.withoutLog.activeSpec k = s.activeSpec k := rfl
  unfold componentValue
  rw [stored, first]
  split
  next => rfl
  next => split <;> rfl

theorem modifyData_withoutLog (s : PluginState S) (name : String)
    (change : Json → Except PluginError Json) :
    unlogged (s.modifyData name change) = unlogged (s.withoutLog.modifyData name change) := by
  have active : s.withoutLog.activeKind name = s.activeKind name := rfl
  unfold modifyData
  rw [active]
  split
  next => rfl
  next k _ =>
    rw [componentValue_withoutLog]
    rcases s.componentValue k with ⟨_ | v, t⟩
    next => rfl
    next =>
      simp only [unlogged]
      split <;> rfl

theorem enableStep_withoutLog (s : PluginState S) (names : List String) :
    unlogged (Builtin.enableStep names s) = unlogged (Builtin.enableStep names s.withoutLog) := by
  have enabled : s.withoutLog.enable names =
      (s.enable names).map unlogged := by
    unfold enable
    have activated : s.withoutLog.catalog.activate s.withoutLog.components names =
      s.catalog.activate s.components names := rfl
    rw [activated]
    cases s.catalog.activate s.components names with
    | error e => rfl
    | ok result =>
      obtain ⟨components, added⟩ := result
      have aggregated : s.withoutLog.aggregate components = s.aggregate components := rfl
      simp only [aggregated, Bind.bind, Except.bind]
      cases s.aggregate components with
      | error | ok => rfl
  unfold Builtin.enableStep
  rw [enabled]
  cases s.enable names with
  | error | ok => rfl

end PluginState

namespace Shape

/-- The view has the whole state, with the log in it. -/
def SeesLog {K : Type} : Shape K → Prop
  | .plain m _ | .resources m _ => m = .whole
  | .whole _ => True

theorem projectInner_withoutLog (component : Option S.Kind) (s : PluginState S) :
    projectInner .data component s.withoutLog = unlogged (projectInner .data component s) := by
  cases component with
  | none => rfl
  | some k =>
    simp only [projectInner, PluginState.componentValue_withoutLog]
    rcases s.componentValue k with ⟨_ | v, t⟩ <;> rfl

theorem project_withoutLog {shape : Shape S.Kind} (blind : ¬ shape.SeesLog) (s : PluginState S) :
    shape.project s.withoutLog = unlogged (shape.project s) := by
  rcases shape with ⟨m, component⟩ | ⟨m, component⟩ | k
  next =>
    cases m with
    | data => exact projectInner_withoutLog component s
    | whole => exact absurd rfl blind
  next =>
    cases m with
    | data =>
      simp only [project, projectInner_withoutLog]
      rcases projectInner .data component s with ⟨_ | v, t⟩ <;> rfl
    | whole => exact absurd rfl blind
  next => exact absurd trivial blind

theorem restore_withoutLog {shape : Shape S.Kind} (blind : ¬ shape.SeesLog)
    (w : shape.Carrier S) (s : PluginState S) :
    (shape.restore w s).withoutLog = shape.restore w s.withoutLog := by
  rcases shape with ⟨_ | _, _ | _⟩ | ⟨_ | _, _ | _⟩ | k <;>
    first
    | rfl
    | exact absurd rfl blind
    | exact absurd trivial blind

end Shape

theorem viewStep_blind {shape : Shape S.Kind} (blind : ¬ shape.SeesLog)
    (code : Stateful (shape.Carrier S) α) : LogBlind (Prog.viewStep shape.view code) := by
  intro s
  have same := Shape.project_withoutLog blind s
  cases projected : shape.project s with
  | mk result t =>
    rw [projected] at same
    cases result with
    | error e => rw [Prog.viewStep_refused projected, Prog.viewStep_refused same]; rfl
    | ok v =>
      rw [Prog.viewStep_projected projected, Prog.viewStep_projected same, Script.map_map,
        Script.map_map]
      congr 1
      funext outcome
      cases outcome with
      | value result =>
        have restored : (shape.restore result.1 t).withoutLog =
            (shape.restore result.1 t.withoutLog).withoutLog := by
          rw [← Shape.restore_withoutLog blind]
          rfl
        exact congrArg (Prod.mk _) restored
      | error | panic => rfl

/-- Code on data and component states ignores the log. -/
theorem Prog.IgnoresLog.on {name : String} {shape : Shape S.Kind} (blind : ¬ shape.SeesLog)
    {code : Stateful (shape.Carrier S) β} {output : β → PluginState S → Prog (PluginState S) α}
    (same : ∀ b s, output b s = output b s.withoutLog) (later : ∀ b s, (output b s).IgnoresLog) :
    (Prog.on name shape.view code output).IgnoresLog := by
  unfold IgnoresLog
  simp only [Prog.on, meaning]
  refine LogBlind.bind (viewStep_blind blind code) fun outcome => ?_
  cases outcome with
  | value b =>
    intro s
    simp only [same b s]
    exact later b s.withoutLog s
  | error | panic => exact fun _ => rfl

theorem redefineTriggers_ignoresLog :
    (redefineTriggers : Prog (PluginState S) Nat).IgnoresLog := by
  apply Prog.IgnoresLog.access
  refine LogBlind.after (fun _ => rfl) fun undefined => ?_
  cases undefined with
  | error e => exact .done _
  | ok =>
    refine LogBlind.ask fun channel => LogBlind.after (fun _ => rfl) fun defined => ?_
    cases defined with
    | error | ok => exact fun _ => rfl

namespace Library

/-- The author's programs do not look at the log. -/
def IgnoresLog (lib : Library S) : Prop :=
  ∀ code args prog, lib.code code args = .ok prog → prog.IgnoresLog

theorem IgnoresLog.call {lib : Library S} (ignores : lib.IgnoresLog) (p : UserProgram S)
    (args : List Json) : (lib.call p args).IgnoresLog := by
  unfold Library.call Program.call Program.bind
  split
  next prog bound =>
    split at bound
    next => exact ignores _ _ _ bound
    next => cases bound
  next => exact .failed _

end Library

namespace Builtin

theorem inspection_ignoresLog (b : Builtin) {f : PluginState S → Except String String}
    (same : ∀ s, f s = f s.withoutLog) : (b.inspection f).IgnoresLog := by
  intro s
  simp only [meaning_inspection, same s]
  rfl

theorem setLogLevelStep_blind (level : String) : LogBlind (setLogLevelStep (S := S) level) := by
  intro s
  have filter : s.withoutLog.logFilter = s.logFilter := rfl
  unfold setLogLevelStep
  rw [filter]
  split
  next => rfl
  next => split <;> rfl

theorem updateData_withoutLog (patch : Patch) (s : PluginState S) :
    unlogged (updateData patch s) = unlogged (updateData patch s.withoutLog) := by
  have data : s.withoutLog.data = s.data := rfl
  unfold updateData
  rw [data]
  split <;> rfl

theorem definition_ignoresLog {lib : Library S} (ignores : lib.IgnoresLog) {b : Builtin}
    (other : b ≠ .programLog) (args : (b.definition lib).Args) :
    ((b.definition lib).body args).IgnoresLog := by
  cases b with
  | programLog => exact absurd rfl other
  | state | rpcTriggers => exact inspection_ignoresLog _ fun _ => rfl
  | componentState => exact (Prog.IgnoresLog.onState fun _ => rfl).map _
  | setLogLevel => exact (Prog.IgnoresLog.access (setLogLevelStep_blind args.1)).map _
  | updateState => exact (Prog.IgnoresLog.onState (updateData_withoutLog args.1)).map _
  | updateComponentState =>
    obtain ⟨name, patch, _⟩ := args
    exact (Prog.IgnoresLog.onState fun s => s.modifyData_withoutLog name patch.apply).map _
  | enableComponents =>
    exact ((Prog.IgnoresLog.onState fun s => s.enableStep_withoutLog args).bind fun _ =>
      redefineTriggers_ignoresLog.map _).map _
  | poll => exact (Prog.IgnoresLog.pure true).map _
  | appendRuntimePath | showRuntimePath => exact (Prog.IgnoresLog.editor _).map _
  | mapping =>
    obtain ⟨id, keys, _⟩ := args
    refine .map (.bind (.onState fun s => ?_) fun bound => ignores.call _ _) _
    have active : s.withoutLog.activeMapping id = s.activeMapping id := rfl
    rw [active]
    split <;> rfl
  | internalInit =>
    refine .map (.bind (.onState fun s => rfl) fun init => ?_) _
    cases init with
    | some program => exact ignores.call program []
    | none => exact .pure _

end Builtin

def Source.showsLog {γ : Type} : Source γ → Bool
  | .builtin .programLog => true
  | _ => false

/-- Whether the request leads to the program that shows the log. -/
def PluginState.showsLog (s : PluginState S) (r : Request) : Bool :=
  (s.lookupMethod r.method).any fun h => h.program.code.showsLog

/-- A result without the text, if it is the log that the text shows. -/
def visible (shows : Bool) (result : Except PluginError Json) : Except PluginError Json :=
  if shows then result.map fun _ => .null else result

/-- Ends a request with what its program came to. -/
def concluded (r : Request) (p : Outcome PluginError Json × PluginState S) :
    Script (Except PluginError Json × PluginState S) :=
  (reportUnlessSync r (settled p.1)).map fun () => (settled p.1, p.2)

section

variable {lib : Library S} {r : Request} {s : PluginState S}

theorem handle_eq (lib : Library S) (r : Request) (s : PluginState S) :
    handle lib r s = ((prepare lib r s).1.meaning (prepare lib r s).2).bind (concluded r) := by
  simp only [handle, dispatch, execute, Prog.run_eq_meaning, Script.map, Script.bind_assoc,
    Script.done_bind]
  rfl

theorem prepare_withoutLog (lib : Library S) (r : Request) (s : PluginState S) :
    (prepare lib r s.withoutLog).1 = (prepare lib r s).1 ∧
      (prepare lib r s.withoutLog).2.withoutLog = (prepare lib r s).2.withoutLog := by
  have found : s.withoutLog.lookupMethod r.method = s.lookupMethod r.method := rfl
  unfold prepare
  rw [found]
  split
  next => exact ⟨rfl, rfl⟩
  next =>
    split
    next => exact ⟨rfl, rfl⟩
    next =>
      split
      next => exact ⟨rfl, rfl⟩
      next => split <;> exact ⟨rfl, rfl⟩

theorem prepared_ignoresLog (ignores : lib.IgnoresLog) (r : Request) (s : PluginState S) :
    (prepare lib r s).1.IgnoresLog ∨
      s.showsLog r = true ∧ ∃ text : PluginState S → String,
        (prepare lib r s).1 = Builtin.programLog.inspection fun s => .ok (text s) := by
  unfold prepare PluginState.showsLog
  cases s.lookupMethod r.method with
  | none => exact .inl (.failed _)
  | some h =>
    simp only [Option.any_some]
    split
    next => exact .inl (.failed _)
    next args _ =>
      split
      next => exact .inl (.failed _)
      next prog bound =>
        have found : lib.source h.program.code args = .ok prog := by
          unfold Program.bind at bound
          split at bound
          next => exact bound
          next => cases bound
        revert found
        cases h.program.code with
        | user code => exact fun found => .inl (ignores _ _ _ found)
        | builtin b =>
          intro found
          obtain ⟨a, -, rfl⟩ := Definition.code_eq_ok.1 found
          by_cases log : b = .programLog
          next =>
            subst log
            exact .inr ⟨rfl, _, rfl⟩
          next => exact .inl (Builtin.definition_ignoresLog ignores log a)

theorem concluded_blind (r : Request) (outcome : Outcome PluginError Json) :
    LogBlind fun s : PluginState S => concluded r (outcome, s) :=
  LogBlind.after (fun _ => rfl) fun _ _ => rfl

/-- Neither the course of a request nor its result depends on the log, but for what the log shows. -/
theorem handle_blind (ignores : lib.IgnoresLog) (r : Request) :
    LogBlind fun s => (handle lib r s).map fun (result, t) =>
      (visible (s.showsLog r) result, t) := by
  intro s
  obtain ⟨same_prog, same_state⟩ := prepare_withoutLog lib r s
  have shows : s.withoutLog.showsLog r = s.showsLog r := rfl
  simp only [shows, handle_eq, same_prog]
  rcases prepared_ignoresLog ignores r s with blind | ⟨log, text, shown⟩
  next =>
    have handled := (LogBlind.bind blind (concluded_blind r)).map (visible (s.showsLog r))
    exact (handled.map_eq same_state).symm
  next =>
    -- The log is read here, but all that is seen of it is that there is a text.
    simp only [shown, Builtin.meaning_inspection, Script.done_bind, visible, log]
    simp only [concluded, settled, reportUnlessSync]
    exact congrArg Script.done (congrArg (Prod.mk _) same_state.symm)

end

end PluginHost
