import PluginHost.Plugin.Dispatch
import PluginHost.Proofs.Plugin.Change
import PluginHost.Proofs.Program.Meaning
import PluginHost.Proofs.Script

/-!
Programs whose steps keep to what they are allowed to do to the state. What is allowed may depend on
the answers a step has got. A plugin whose author keeps to it does so as a whole.
-/

set_option autoImplicit false

namespace PluginHost

variable {S : Schema} {α β : Type}

/-- A change of the state that comes with these exchanges. -/
abbrev Allowance (S : Schema) := PluginState S → List Exchange → PluginState S → Prop

/-- Whether the operation makes a binding of the caller's choice. -/
def Operation.Binds : Operation S → Prop
  | .bindMapping _ _ _ => True
  | _ => False

-- Bindings are made with an id that has just been drawn, for a mapping of an active component.
structure Allowance.Closed (R : Allowance S) : Prop where
  idle : ∀ s asked, R s asked s
  trans : ∀ {s t u first later}, R s first t → R t later u → R s (first ++ later) u
  operation : ∀ op : Operation S, ¬ op.Binds → ∀ s, R s [] (op.apply s)
  activation : ∀ {s ident mapping program}, s.findMapping ident = some (mapping, program) →
    ∀ id, R s [⟨.freshId, id⟩] (s.bindMapping id mapping program)
  project : ∀ (shape : Shape S.Kind) s, R s [] (shape.project s).2
  writeBack : ∀ {shape : Shape S.Kind} {s t v} (w : shape.Carrier S) {asked},
    shape.project s = (.ok v, t) →
    (∀ m m', shape.whole? v = some m → shape.whole? w = some m' → R m asked m') →
    R s asked (shape.restore w t)

/-- Whether the operation writes the log. -/
def Operation.Logs : Operation S → Prop
  | .logProgram _ => True
  | _ => False

-- What programs do by themselves; only a request that binds one writes the log.
structure Allowance.Steady (R : Allowance S) : Prop where
  idle : ∀ s asked, R s asked s
  trans : ∀ {s t u first later}, R s first t → R t later u → R s (first ++ later) u
  operation : ∀ op : Operation S, ¬ op.Binds → ¬ op.Logs → ∀ s, R s [] (op.apply s)
  activation : ∀ {s ident mapping program}, s.findMapping ident = some (mapping, program) →
    ∀ id, R s [⟨.freshId, id⟩] (s.bindMapping id mapping program)
  project : ∀ (shape : Shape S.Kind) s, R s [] (shape.project s).2
  writeBack : ∀ {shape : Shape S.Kind} {s t v} (w : shape.Carrier S) {asked},
    shape.project s = (.ok v, t) →
    (∀ m m', shape.whole? v = some m → shape.whole? w = some m' → R m asked m') →
    R s asked (shape.restore w t)

namespace Allowance

variable {R : Allowance S} {s t u : PluginState S} {asked : List Exchange}

theorem Closed.steady (closed : R.Closed) : R.Steady :=
  { closed with operation := fun op plain _ => closed.operation op plain }

theorem Steady.before (steady : R.Steady) (silent : R s [] t) (rest : R t asked u) : R s asked u :=
  steady.trans silent rest

theorem Steady.extend (steady : R.Steady) (silent : R s [] t) (asked : List Exchange) :
    R s asked t :=
  steady.before silent (steady.idle t asked)

end Allowance

namespace Prog

inductive Obeys (R : Allowance S) : {α : Type} → Prog (PluginState S) α → Prop where
  | pure {α : Type} (a : α) : Obeys R (.pure a)
  | failed {α : Type} (e : PluginError) : Obeys R (.failed e : Prog (PluginState S) α)
  | panic {α : Type} (m : String) : Obeys R (.panic m : Prog (PluginState S) α)
  | bind {α β : Type} {inner : Prog (PluginState S) β} {next : β → Prog (PluginState S) α}
      (first : Obeys R inner) (later : ∀ b, Obeys R (next b)) : Obeys R (.bind inner next)
  | exec {α β : Type} {name : String} {view : Option String}
      {step : PluginState S → Script (Outcome PluginError β × PluginState S)}
      {output : β → PluginState S → Prog (PluginState S) α}
      (changes : ∀ s asked r t, (step s).Asks asked (r, t) → R s asked t)
      (later : ∀ b s, Obeys R (output b s)) : Obeys R (.exec name view step output)

variable {R : Allowance S}

theorem Obeys.asks_meaning (steady : R.Steady) {x : Prog (PluginState S) α} (obeys : x.Obeys R)
    {s t : PluginState S} {asked : List Exchange} {r : Outcome PluginError α}
    (ran : (x.meaning s).Asks asked (r, t)) : R s asked t := by
  induction obeys generalizing s t asked with
  | pure | failed | panic =>
    obtain ⟨rfl, ⟨⟩⟩ := Script.asks_done.1 ran
    exact steady.idle _ _
  | bind _ _ ihInner ihNext =>
    rw [meaning] at ran
    obtain ⟨begun, ⟨outcome, u⟩, later, rfl, inner, rest⟩ := Script.asks_bind.1 ran
    have first := ihInner inner
    cases outcome with
    | value b => exact steady.trans first (ihNext b rest)
    | error | panic =>
      obtain ⟨rfl, ⟨⟩⟩ := Script.asks_done.1 rest
      exact steady.trans first (steady.idle _ _)
  | exec changes _ ih =>
    rw [meaning] at ran
    obtain ⟨begun, ⟨outcome, u⟩, later, rfl, stepped, rest⟩ := Script.asks_bind.1 ran
    have first := changes _ _ _ _ stepped
    cases outcome with
    | value b => exact steady.trans first (ih b u rest)
    | error | panic =>
      obtain ⟨rfl, ⟨⟩⟩ := Script.asks_done.1 rest
      exact steady.trans first (steady.idle _ _)

theorem Obeys.asks_run (steady : R.Steady) {x : Prog (PluginState S) α} (obeys : x.Obeys R)
    {s t : PluginState S} {asked : List Exchange} {r : Outcome PluginError α}
    (ran : (x.run s).Asks asked (r, t)) : R s asked t :=
  obeys.asks_meaning steady (run_eq_meaning x s ▸ ran)

theorem Obeys.map {x : Prog (PluginState S) α} (obeys : x.Obeys R) (f : α → β) :
    (x.map f).Obeys R :=
  .bind obeys fun a => .pure (f a)

theorem Obeys.on (steady : R.Steady) {name : String} (shape : Shape S.Kind)
    {code : Stateful (shape.Carrier S) α} {output : α → PluginState S → Prog (PluginState S) β}
    (kept : ∀ v asked w a, (code.run v).evaluate.Asks asked (.value (w, a)) →
      ∀ m m', shape.whole? v = some m → shape.whole? w = some m' → R m asked m')
    (later : ∀ a s, (output a s).Obeys R) : (Prog.on name shape.view code output).Obeys R := by
  refine .exec (fun s asked r t ran => ?_) later
  have change := steady.project shape s
  simp only [viewStep, Shape.view] at ran
  split at ran
  · next e u projected =>
    obtain ⟨rfl, ⟨⟩⟩ := Script.asks_done.1 ran
    rwa [projected] at change
  · next v u projected =>
    rw [projected] at change
    obtain ⟨outcome, coded, result_eq⟩ := Script.asks_map.1 ran
    cases outcome with
    | value r =>
      cases result_eq
      exact steady.writeBack r.1 projected (kept v asked r.1 r.2 coded)
    | error | panic =>
      cases result_eq
      exact steady.extend change asked

theorem Obeys.editor (steady : R.Steady) (x : Action α) :
    (Prog.editor x : Prog (PluginState S) α).Obeys R := by
  refine .exec (fun s asked r t ran => ?_) fun a _ => .pure a
  obtain ⟨outcome, -, result_eq⟩ := Script.asks_map.1 ran
  cases outcome <;> cases result_eq <;> exact steady.idle s asked

theorem Obeys.access {name : String} {step : Step S α}
    (changes : ∀ s asked r t, (step s).Asks asked (r, t) → R s asked t) :
    (Prog.access name step).Obeys R := by
  refine .exec (fun s asked r t ran => ?_) fun a _ => .pure a
  obtain ⟨⟨outcome, u⟩, stepped, result_eq⟩ := Script.asks_map.1 ran
  cases result_eq
  exact changes s asked outcome t stepped

theorem Obeys.onState {name : String} {f : PluginState S → Except PluginError α × PluginState S}
    (changes : ∀ s, R s [] (f s).2) : (Prog.access name (Step.onState f)).Obeys R := by
  refine .access fun s asked r t ran => ?_
  obtain ⟨rfl, result_eq⟩ := Script.asks_done.1 ran
  have change := changes s
  rwa [← result_eq] at change

end Prog

theorem Step.asks_runAction {x : Action α} {next : α → Step S β} {s t : PluginState S}
    {asked : List Exchange} {r : Except PluginError β}
    (ran : (Step.runAction x next s).Asks asked (r, t)) :
    t = s ∨ ∃ first a later, asked = first ++ later ∧ (next a s).Asks later (r, t) := by
  obtain ⟨first, outcome, later, rfl, -, rest⟩ := Script.asks_bind.1 ran
  cases outcome with
  | error e =>
    obtain ⟨-, ⟨⟩⟩ := Script.asks_done.1 rest
    exact .inl rfl
  | ok a => exact .inr ⟨first, a, later, rfl, rest⟩

section

variable {R : Allowance S}

theorem redefineTriggers_obeys (steady : R.Steady) :
    (redefineTriggers : Prog (PluginState S) Nat).Obeys R := by
  refine .access fun s asked r t ran => ?_
  rcases Step.asks_runAction ran with rfl | ⟨_, _, _, rfl, defining⟩
  · exact steady.idle _ _
  · have forgotten := steady.operation (.setTriggers []) id id s
    refine steady.trans (steady.idle s _) (steady.before forgotten ?_)
    simp only [Script.asks_ask] at defining
    obtain ⟨channel, later, rfl, defining⟩ := defining
    rcases Step.asks_runAction defining with rfl | ⟨_, triggers, _, rfl, defined⟩
    · exact steady.idle _ _
    · obtain ⟨rfl, ⟨⟩⟩ := Script.asks_done.1 defined
      exact steady.extend (steady.operation (.setTriggers triggers) id id _) (⟨.channel, channel⟩ :: _)

theorem activateMapping_obeys (steady : R.Steady) (ident : String) :
    (activateMapping ident : Prog (PluginState S) String).Obeys R := by
  refine .access fun s asked r t ran => ?_
  split at ran
  · obtain ⟨rfl, ⟨⟩⟩ := Script.asks_done.1 ran
    exact steady.idle _ _
  · next mapping program found =>
    obtain ⟨id, later, rfl, mapped⟩ := Script.asks_ask.1 ran
    -- However the editor answers, the state is the one with the binding.
    refine steady.trans (steady.activation found id) ?_
    rcases Step.asks_runAction mapped with rfl | ⟨_, _, _, rfl, finished⟩
    · exact steady.idle _ _
    · obtain ⟨rfl, ⟨⟩⟩ := Script.asks_done.1 finished
      exact steady.idle _ _

/-- Code that works on the state at once ends with what it computes. -/
@[simp] theorem Stateful.evaluate_direct {σ : Type} (f : σ → Calc (σ × α)) (s : σ) :
    ((Stateful.direct f).run s).evaluate =
      .done (match f s with
        | .ok r => .value r
        | .error p => .panic p.message) := by
  cases result : f s <;>
    simp [Stateful.direct, result, Body.ofCalc, Body.pure, Body.evaluate, Action.evaluate,
      Evaluate.action, Script.map, Outcome.ofExcept]

/-- Code that only looks at the state leaves it as it is; a refusal is a logical error. -/
theorem Stateful.evaluate_tryInspect {σ : Type} (f : σ → Except String α) (s : σ) :
    ((Stateful.tryInspect f).run s).evaluate =
      .done (match f s with
        | .ok a => .value (s, a)
        | .error reason => .error (.logical reason)) := by
  cases result : f s <;>
    simp [Stateful.tryInspect, Stateful.tryDirect, result, Except.map, Action.ofExcept,
      Action.error, Body.evaluate, Action.evaluate, Evaluate.action, Evaluate.raised,
      EditorError.withTrail, EditorError.logical, Script.map, Outcome.ofExcept]

theorem Stateful.evaluate_get {σ : Type} (s : σ) :
    (Stateful.get.run s).evaluate = .done (.value (s, s)) :=
  evaluate_direct _ s

theorem Stateful.evaluate_set {σ : Type} (s t : σ) :
    ((Stateful.set s).run t).evaluate = .done (.value (s, ())) :=
  evaluate_direct _ t

namespace Library

def Obeys (R : Allowance S) (lib : Library S) : Prop :=
  ∀ code args prog, lib.code code args = .ok prog → prog.Obeys R

-- Of programs of the author, and of what a plugin does by itself before and between them.
inductive Composed (lib : Library S) (R : Allowance S) :
    {α : Type} → Prog (PluginState S) α → Prop where
  | own {α : Type} {x : Prog (PluginState S) α} (obeys : x.Obeys R) : Composed lib R x
  | user {code : S.Code} {args : List Json} {prog : Prog (PluginState S) Json}
      (found : lib.code code args = .ok prog) : Composed lib R prog
  | bind {α β : Type} {inner : Prog (PluginState S) β} {next : β → Prog (PluginState S) α}
      (first : Composed lib R inner) (later : ∀ b, Composed lib R (next b)) :
      Composed lib R (.bind inner next)

theorem Composed.obeys {lib : Library S} (obeys : lib.Obeys R) {x : Prog (PluginState S) α}
    (composed : lib.Composed R x) : x.Obeys R := by
  induction composed with
  | own kept => exact kept
  | user found => exact obeys _ _ _ found
  | bind _ _ ihFirst ihLater => exact .bind ihFirst ihLater

theorem Composed.map {lib : Library S} {x : Prog (PluginState S) α} (composed : lib.Composed R x)
    (f : α → β) : lib.Composed R (x.map f) :=
  .bind composed fun a => .own (.pure (f a))

theorem call_composed (lib : Library S) (p : UserProgram S) (args : List Json) :
    lib.Composed R (lib.call p args) := by
  unfold Library.call Program.call Program.bind
  split
  · next prog bound =>
    split at bound
    · exact .user bound
    · cases bound
  · exact .own (.failed _)

end Library

namespace Builtin

theorem inspection_obeys (steady : R.Steady) (b : Builtin)
    (f : PluginState S → Except String String) : (b.inspection f).Obeys R := by
  refine .bind (.on steady wholeState (fun v asked w a ran m m' before after => ?_)
    fun a _ => .pure a) fun text => .pure (Json.string text)
  obtain ⟨-, value⟩ := Script.asks_done.1 (Stateful.evaluate_tryInspect f v ▸ ran)
  -- Of the two ways it ends, only a text writes the view back.
  cases shown : f v with
  | error reason => simp [shown] at value
  | ok text =>
    rw [shown] at value
    cases value
    cases before.symm.trans after
    exact steady.idle _ _

theorem asks_setLogLevelStep {level : String} {s t : PluginState S} {asked : List Exchange}
    {r : Except PluginError String} (ran : (setLogLevelStep level s).Asks asked (r, t)) :
    t = s := by
  unfold setLogLevelStep at ran
  split at ran
  · simp_all
  · split at ran
    · simp_all
    · simp only [Script.asks_ask, Script.asks_done, Prod.mk.injEq] at ran
      obtain ⟨_, _, -, _, _, -, -, -, same⟩ := ran
      exact same

theorem updateData_obeys (steady : R.Steady) (patch : Patch) (s : PluginState S) :
    R s [] (updateData patch s).2 := by
  unfold updateData
  split
  · next data _ => exact steady.operation (.setData data) id id s
  · exact steady.idle s []

theorem definition_composed (steady : R.Steady) (lib : Library S) (b : Builtin)
    (args : (b.definition lib).Args) : lib.Composed R ((b.definition lib).body args) := by
  cases b with
  | programLog | state | rpcTriggers => exact .own (inspection_obeys steady _ _)
  | componentState => exact .own ((Prog.Obeys.onState fun s => steady.idle s []).map _)
  | setLogLevel =>
    refine .own ((Prog.Obeys.access fun s asked r t ran => ?_).map _)
    exact asks_setLogLevelStep ran ▸ steady.idle s asked
  | updateState => exact .own ((Prog.Obeys.onState (updateData_obeys steady args.1)).map _)
  | updateComponentState =>
    obtain ⟨name, patch, _⟩ := args
    exact .own ((Prog.Obeys.onState (steady.operation (.modify name patch.apply) id id)).map _)
  | enableComponents =>
    exact .own ((Prog.Obeys.bind (.onState (steady.operation (.enable args) id id)) fun _ =>
      (redefineTriggers_obeys steady).map _).map _)
  | poll => exact .own ((Prog.Obeys.pure true).map _)
  | appendRuntimePath | showRuntimePath => exact .own ((Prog.Obeys.editor steady _).map _)
  | mapping =>
    obtain ⟨id, keys, _⟩ := args
    refine .map (.bind (.own (.onState fun s => ?_)) fun _ => lib.call_composed _ _) _
    split <;> exact steady.idle s []
  | internalInit =>
    refine .map (.bind (.own (.onState fun s => steady.idle s [])) fun init => ?_) _
    cases init with
    | some program => exact lib.call_composed program []
    | none => exact .own (.pure _)

end Builtin

theorem Library.source_composed (steady : R.Steady) {lib : Library S} {code : Source S.Code}
    {args : List Json} {prog : Prog (PluginState S) Json}
    (found : lib.source code args = .ok prog) : lib.Composed R prog := by
  cases code with
  | builtin b =>
    simp only [Library.source, Definition.code] at found
    cases decoded : (b.definition lib).signature.decode args with
    | error e =>
      rw [decoded] at found
      cases found
    | ok values =>
      rw [decoded] at found
      cases found
      exact b.definition_composed steady lib values
  | user code => exact .user found

theorem prepare_obeys (closed : R.Closed) {lib : Library S} (obeys : lib.Obeys R) (r : Request)
    (s : PluginState S) : (prepare lib r s).1.Obeys R ∧ R s [] (prepare lib r s).2 := by
  unfold prepare
  split
  · exact ⟨.failed _, closed.idle s []⟩
  · next handler _ =>
    split
    · exact ⟨.failed _, closed.idle s []⟩
    · next args _ =>
      split
      · exact ⟨.failed _, closed.idle s []⟩
      · next prog bound =>
        constructor
        · unfold Program.bind at bound
          split at bound
          · exact (Library.source_composed closed.steady bound).obeys obeys
          · cases bound
        · split
          · exact closed.operation (.logProgram handler.program.name) id s
          · exact closed.idle s []

theorem asks_execute (closed : R.Closed) {lib : Library S} (obeys : lib.Obeys R) {r : Request}
    {s t : PluginState S} {asked : List Exchange} {outcome : Outcome PluginError Json}
    (ran : (execute lib r s).Asks asked (outcome, t)) : R s asked t := by
  obtain ⟨program_obeys, prepared⟩ := prepare_obeys closed obeys r s
  exact closed.trans prepared (program_obeys.asks_run closed.steady ran)

/-- A report to the editor leaves the state alone. -/
theorem exists_asks_dispatch_of_handle {lib : Library S} {r : Request} {s t : PluginState S}
    {asked : List Exchange} {result : Except PluginError Json}
    (handled : (handle lib r s).Asks asked (result, t)) :
    ∃ first later, asked = first ++ later ∧ (dispatch lib r s).Asks first (result, t) := by
  obtain ⟨first, ⟨result, u⟩, later, rfl, dispatched, reported⟩ := Script.asks_bind.1 handled
  obtain ⟨_, -, result_eq⟩ := Script.asks_map.1 reported
  cases result_eq
  exact ⟨first, later, rfl, dispatched⟩

theorem dispatch_returns_of_handle {lib : Library S} {r : Request} {s t : PluginState S}
    {result : Except PluginError Json} (returned : (handle lib r s).Returns (result, t)) :
    (dispatch lib r s).Returns (result, t) := by
  obtain ⟨_, handled⟩ := Script.returns_iff_asks.1 returned
  obtain ⟨first, _, -, dispatched⟩ := exists_asks_dispatch_of_handle handled
  exact Script.returns_iff_asks.2 ⟨first, dispatched⟩

end

end PluginHost
