import PluginHost.Proofs.Plugin.Views

/-!
Programs that fail. What the steps before the failure wrote back stays, the step that fails leaves
nothing but the first state of its component, and nothing comes after it.
-/

set_option autoImplicit false

namespace PluginHost

variable {S : Schema} {σ ρ α β γ : Type}

structure WriteBack (S : Schema) where
  shape : Shape S.Kind
  value : shape.Carrier S

def PluginState.write (s : PluginState S) (w : WriteBack S) : PluginState S :=
  w.shape.restore w.value (w.shape.project s).2

def PluginState.written (s : PluginState S) (writes : List (WriteBack S)) : PluginState S :=
  writes.foldl write s

@[simp] theorem PluginState.written_nil (s : PluginState S) : s.written [] = s := rfl

theorem PluginState.written_cons {s t : PluginState S} {shape : Shape S.Kind}
    {v : Except PluginError (shape.Carrier S)} (projected : shape.project s = (v, t))
    (w : shape.Carrier S) (writes : List (WriteBack S)) :
    s.written (⟨shape, w⟩ :: writes) = (shape.restore w t).written writes := by
  simp [written, write, projected]

namespace Prog

inductive OfSteps : {α : Type} → Prog (PluginState S) α → Prop where
  | pure {α : Type} (a : α) : OfSteps (.pure a)
  | failed {α : Type} (e : PluginError) : OfSteps (.failed e : Prog (PluginState S) α)
  | panic {α : Type} (m : String) : OfSteps (.panic m : Prog (PluginState S) α)
  | bind {α β : Type} {inner : Prog (PluginState S) β} {next : β → Prog (PluginState S) α}
      (first : OfSteps inner) (later : ∀ b, OfSteps (next b)) : OfSteps (.bind inner next)
  | view {α β : Type} (name : String) (shape : Shape S.Kind) (code : Stateful (shape.Carrier S) β)
      {output : β → PluginState S → Prog (PluginState S) α} (later : ∀ b s, OfSteps (output b s)) :
      OfSteps (.on name shape.view code output)
  | editor {α : Type} (x : Action α) : OfSteps (.editor x : Prog (PluginState S) α)

-- From a program to one that it comes to, with the exchanges and write-backs between.
inductive Leads {α : Type} : {β γ : Type} → Prog (PluginState S) β →
    Pending (PluginState S) β α → PluginState S → List Exchange → List (WriteBack S) →
    Prog (PluginState S) γ → Pending (PluginState S) γ α → Prop where
  | here {β : Type} (x : Prog (PluginState S) β) (pending : Pending (PluginState S) β α)
      (s : PluginState S) : Leads x pending s [] [] x pending
  | pure {β γ δ : Type} {b : β} {next : β → Prog (PluginState S) δ}
      {pending : Pending (PluginState S) δ α} {s : PluginState S} {asked : List Exchange}
      {writes : List (WriteBack S)} {y : Prog (PluginState S) γ}
      {rest : Pending (PluginState S) γ α} (later : Leads (next b) pending s asked writes y rest) :
      Leads (.pure b) (.push next pending) s asked writes y rest
  | bind {β γ δ : Type} {inner : Prog (PluginState S) β} {next : β → Prog (PluginState S) δ}
      {pending : Pending (PluginState S) δ α} {s : PluginState S} {asked : List Exchange}
      {writes : List (WriteBack S)} {y : Prog (PluginState S) γ}
      {rest : Pending (PluginState S) γ α}
      (later : Leads inner (.push next pending) s asked writes y rest) :
      Leads (.bind inner next) pending s asked writes y rest
  | view {β γ δ : Type} {name : String} {shape : Shape S.Kind}
      {code : Stateful (shape.Carrier S) β} {output : β → PluginState S → Prog (PluginState S) δ}
      {pending : Pending (PluginState S) δ α} {s t : PluginState S} {v w : shape.Carrier S} {b : β}
      {first asked : List Exchange} {writes : List (WriteBack S)} {y : Prog (PluginState S) γ}
      {rest : Pending (PluginState S) γ α} (projected : shape.project s = (.ok v, t))
      (ran : (code.run v).evaluate.Asks first (.value (w, b)))
      (later : Leads (output b (shape.restore w t)) pending (shape.restore w t) asked writes y rest) :
      Leads (.on name shape.view code output) pending s (first ++ asked) (⟨shape, w⟩ :: writes) y rest
  | editor {β γ : Type} {x : Action β} {pending : Pending (PluginState S) β α} {s : PluginState S}
      {b : β} {first asked : List Exchange} {writes : List (WriteBack S)}
      {y : Prog (PluginState S) γ} {rest : Pending (PluginState S) γ α}
      (ran : x.evaluate.Asks first (.ok b)) (later : Leads (.pure b) pending s asked writes y rest) :
      Leads (.editor x) pending s (first ++ asked) writes y rest

/-- The program fails before it has written anything back: it is an error itself, or a step whose
projection, code or editor computation fails. -/
inductive Fails : {γ : Type} → Prog (PluginState S) γ → PluginState S → List Exchange →
    PluginError → PluginState S → Prop where
  | raised {γ : Type} (e : PluginError) (s : PluginState S) :
      Fails (.failed e : Prog (PluginState S) γ) s [] e s
  | refused {β γ : Type} {name : String} {shape : Shape S.Kind}
      {code : Stateful (shape.Carrier S) β} {output : β → PluginState S → Prog (PluginState S) γ}
      {s t : PluginState S} {e : PluginError} (projected : shape.project s = (.error e, t)) :
      Fails (.on name shape.view code output) s [] e t
  | code {β γ : Type} {name : String} {shape : Shape S.Kind}
      {code : Stateful (shape.Carrier S) β} {output : β → PluginState S → Prog (PluginState S) γ}
      {s t : PluginState S} {v : shape.Carrier S} {asked : List Exchange} {e : EditorError}
      (projected : shape.project s = (.ok v, t))
      (ran : (code.run v).evaluate.Asks asked (.error e)) :
      Fails (.on name shape.view code output) s asked (.ofEditor e) t
  | editor {γ : Type} {x : Action γ} {s : PluginState S} {asked : List Exchange} {e : EditorError}
      (ran : x.evaluate.Asks asked (.error e)) : Fails (.editor x) s asked (.ofEditor e) s

inductive Names (k : S.Kind) : {γ : Type} → Prog (PluginState S) γ → Prop where
  | on {β γ : Type} {name : String} {shape : Shape S.Kind} {code : Stateful (shape.Carrier S) β}
      {output : β → PluginState S → Prog (PluginState S) γ} (component : shape.component = some k) :
      Names k (.on name shape.view code output)

/-- The state differs at most by the first state of the component that the program's view names. -/
def OpensAtMost (y : Prog (PluginState S) γ) (s t : PluginState S) : Prop :=
  t = s ∨ ∃ k, y.Names k ∧ Store.find? k s.store = none ∧ ∃ v, s.IsFresh k v ∧ t = s.withState k v

theorem opensAtMost_of_project {name : String} {shape : Shape S.Kind}
    {code : Stateful (shape.Carrier S) β} {output : β → PluginState S → Prog (PluginState S) γ}
    {s t : PluginState S} {v : shape.Carrier S} (projected : shape.project s = (.ok v, t)) :
    (Prog.on name shape.view code output).OpensAtMost s t := by
  have opens := (Shape.project_eq_ok projected).1
  unfold Shape.Opens at opens
  split at opens
  · exact .inl opens
  · next k component =>
    unfold PluginState.Opens at opens
    split at opens
    · exact .inl opens
    · next absent => exact .inr ⟨k, .on component, absent, opens⟩

theorem meaning_map_id {σ : Type} (x : Prog σ α) (s : σ) :
    (x.map id).meaning s = x.meaning s := by
  conv => rhs; rw [← Script.bind_done (x.meaning s)]
  rw [Prog.map, meaning]
  congr 1
  funext result
  obtain ⟨outcome, t⟩ := result
  cases outcome <;> rfl

theorem meaning_onState (name : String)
    (f : PluginState S → Except PluginError α × PluginState S) (s : PluginState S) :
    (Prog.access name (Step.onState f)).meaning s = .done (.ofExcept (f s).1, (f s).2) := by
  rcases result : f s with ⟨_ | _, t⟩ <;>
    simp [access, meaning, Step.onState, result, Script.map, Outcome.ofExcept]

theorem viewStep_refused {view : View σ ρ} {code : Stateful ρ α} {s t : σ} {e : PluginError}
    (projected : view.project s = (.error e, t)) : viewStep view code s = .done (.error e, t) := by
  simp [viewStep, projected]

/-- What a step makes of the outcome of its code, when the projection has left the state `t`. -/
def committed (view : View σ ρ) (t : σ) : Outcome EditorError (ρ × α) → Outcome PluginError α × σ
  | .value (w, a) => (.value a, view.restore w t)
  | .error e => (.error (.ofEditor e), t)
  | .panic m => (.panic m, t)

theorem viewStep_projected {view : View σ ρ} {code : Stateful ρ α} {s t : σ} {v : ρ}
    (projected : view.project s = (.ok v, t)) :
    viewStep view code s = (code.run v).evaluate.map (committed view t) := by
  simp only [viewStep, projected]
  congr 1
  funext outcome
  cases outcome <;> rfl

theorem viewStep_get {view : View σ ρ} {s t : σ} {v : ρ}
    (projected : view.project s = (.ok v, t)) :
    viewStep view Stateful.get s = .done (.value v, view.restore v t) := by
  rw [viewStep_projected projected, Stateful.evaluate_get]
  rfl

theorem viewStep_set {view : View σ ρ} {s t : σ} {v w : ρ}
    (projected : view.project s = (.ok v, t)) :
    viewStep view (Stateful.set w) s = .done (.value (), view.restore w t) := by
  rw [viewStep_projected projected, Stateful.evaluate_set]
  rfl

theorem asks_viewStep {view : View σ ρ} {code : Stateful ρ α} {s t : σ} {asked : List Exchange}
    {r : Outcome PluginError α} (ran : (viewStep view code s).Asks asked (r, t)) :
    (∃ e, view.project s = (.error e, t) ∧ asked = [] ∧ r = .error e) ∨
      ∃ v u outcome, view.project s = (.ok v, u) ∧ (code.run v).evaluate.Asks asked outcome ∧
        (r, t) = committed view u outcome := by
  rcases projected : view.project s with ⟨e | v, u⟩
  · rw [viewStep_refused projected, Script.asks_done] at ran
    obtain ⟨rfl, same⟩ := ran
    cases same
    exact .inl ⟨e, rfl, rfl, rfl⟩
  · rw [viewStep_projected projected, Script.asks_map] at ran
    obtain ⟨outcome, ran, same⟩ := ran
    exact .inr ⟨v, u, outcome, rfl, ran, same⟩

theorem asks_editorStep {x : Action α} {s t : σ} {asked : List Exchange}
    {r : Outcome PluginError α} : (editorStep x s).Asks asked (r, t) ↔
      ∃ outcome, x.evaluate.Asks asked outcome ∧ t = s ∧
        r = .ofExcept (outcome.mapError PluginError.ofEditor) := by
  simp only [editorStep, Script.asks_map]
  refine exists_congr fun outcome => and_congr_right fun _ => ?_
  cases outcome <;> simp [Outcome.ofExcept, Except.mapError, and_comm]

variable {x : Prog (PluginState S) β} {y : Prog (PluginState S) γ}
  {pending : Pending (PluginState S) β α} {rest : Pending (PluginState S) γ α}
  {s t : PluginState S} {asked before : List Exchange} {writes : List (WriteBack S)}

theorem Leads.trans {δ : Type} {z : Prog (PluginState S) δ} {last : Pending (PluginState S) δ α}
    {later : List Exchange} {more : List (WriteBack S)}
    (leads : x.Leads pending s before writes y rest)
    (further : y.Leads rest (s.written writes) later more z last) :
    x.Leads pending s (before ++ later) (writes ++ more) z last := by
  induction leads with
  | here => exact further
  | pure _ ih => exact .pure (ih further)
  | bind _ ih => exact .bind (ih further)
  | view projected ran _ ih =>
    rw [PluginState.written_cons projected] at further
    rw [List.append_assoc]
    exact .view projected ran (ih further)
  | editor ran _ ih =>
    rw [List.append_assoc]
    exact .editor ran (ih further)

theorem Leads.asks_runWith (leads : x.Leads pending s before writes y rest)
    {r : Outcome PluginError α × PluginState S}
    (ran : (y.runWith rest (s.written writes)).Asks asked r) :
    (x.runWith pending s).Asks (before ++ asked) r := by
  induction leads with
  | here => exact ran
  | pure _ ih =>
    rw [runWith]
    exact ih ran
  | bind _ ih =>
    rw [runWith]
    exact ih ran
  | view projected first _ ih =>
    rw [PluginState.written_cons projected] at ran
    rw [Prog.on, runWith, Shape.view, viewStep_projected projected, List.append_assoc]
    exact Script.asks_bind.2 ⟨_, _, _, rfl, Script.asks_map.2 ⟨_, first, rfl⟩, ih ran⟩
  | editor first _ ih =>
    rw [Prog.editor, runWith, List.append_assoc]
    exact Script.asks_bind.2 ⟨_, _, _, rfl, asks_editorStep.2 ⟨_, first, rfl, rfl⟩, ih ran⟩

theorem Fails.asks_runWith {e : PluginError} (fails : y.Fails s asked e t)
    (rest : Pending (PluginState S) γ α) : (y.runWith rest s).Asks asked (.error e, t) := by
  cases fails with
  | raised =>
    rw [runWith]
    exact .done _
  | refused projected =>
    rw [Prog.on, runWith, Shape.view, viewStep_refused projected]
    exact .done _
  | code projected ran =>
    rw [Prog.on, runWith, Shape.view, viewStep_projected projected, ← List.append_nil asked]
    exact Script.asks_bind.2 ⟨_, _, _, rfl, Script.asks_map.2 ⟨_, ran, rfl⟩, .done _⟩
  | editor ran =>
    rw [Prog.editor, runWith, ← List.append_nil asked]
    exact Script.asks_bind.2 ⟨_, _, _, rfl, asks_editorStep.2 ⟨_, ran, rfl, rfl⟩, .done _⟩

theorem Fails.opensAtMost {e : PluginError} (fails : y.Fails s asked e t) :
    y.OpensAtMost s t := by
  cases fails with
  | raised | editor => exact .inl rfl
  | refused projected =>
    obtain ⟨k, -, value⟩ := Shape.project_eq_error projected
    exact .inl (PluginState.componentValue_eq_error value).1
  | code projected _ => exact opensAtMost_of_project projected

/-- Where the machine gets to with a program: past it with a value, or to where it fails. -/
def Comes (x : Prog (PluginState S) β) (pending : Pending (PluginState S) β α) (s : PluginState S)
    (asked : List Exchange) : Outcome PluginError β → PluginState S → Prop
  | .value b, t => ∃ writes, x.Leads pending s asked writes (.pure b) pending ∧ t = s.written writes
  | .error e, t => ∃ (before last : List Exchange) (writes : List (WriteBack S)) (γ : Type)
      (y : Prog (PluginState S) γ) (rest : Pending (PluginState S) γ α),
      x.Leads pending s before writes y rest ∧ asked = before ++ last ∧
        y.Fails (s.written writes) last e t
  | .panic _, _ => True

theorem Leads.comes {y : Prog (PluginState S) β} {r : Outcome PluginError β}
    (leads : x.Leads pending s before writes y pending)
    (comes : y.Comes pending (s.written writes) asked r t) :
    x.Comes pending s (before ++ asked) r t := by
  cases r with
  | value b =>
    obtain ⟨more, further, rfl⟩ := comes
    exact ⟨writes ++ more, leads.trans further, by simp [PluginState.written]⟩
  | error e =>
    obtain ⟨begun, last, more, γ, z, rest, further, rfl, fails⟩ := comes
    exact ⟨before ++ begun, last, writes ++ more, γ, z, rest, leads.trans further, by simp,
      by simpa [PluginState.written] using fails⟩
  | panic m => trivial

theorem Fails.comes {e : PluginError} (fails : x.Fails s asked e t)
    (pending : Pending (PluginState S) β α) : x.Comes pending s asked (.error e) t :=
  ⟨[], asked, [], β, x, pending, .here x pending s, rfl, fails⟩

-- By induction on the tree, under any continuations, since a bind puts one more of them on the stack.
theorem OfSteps.comes (steps : x.OfSteps) {r : Outcome PluginError β}
    (ran : (x.meaning s).Asks asked (r, t)) (pending : Pending (PluginState S) β α) :
    x.Comes pending s asked r t := by
  induction steps generalizing s t asked with
  | pure a =>
    obtain ⟨rfl, ⟨⟩⟩ := Script.asks_done.1 ran
    exact ⟨[], .here _ _ _, rfl⟩
  | failed e =>
    obtain ⟨rfl, ⟨⟩⟩ := Script.asks_done.1 ran
    exact (Fails.raised e s).comes pending
  | panic =>
    obtain ⟨rfl, ⟨⟩⟩ := Script.asks_done.1 ran
    trivial
  | @bind _ _ inner next _ _ ihInner ihNext =>
    rw [meaning, Script.asks_bind] at ran
    obtain ⟨first, ⟨outcome, u⟩, later, rfl, begun, ran⟩ := ran
    -- The first part runs with `next` on the stack, and a value it comes to is handed to `next`.
    have comes := ihInner begun (.push next pending)
    cases outcome with
    | value b =>
      obtain ⟨writes, leads, rfl⟩ := comes
      have reached : (Prog.bind inner next).Leads pending s first writes (next b) pending := by
        simpa using Leads.bind (leads.trans (.pure (.here (next b) pending _)))
      exact reached.comes (ihNext b ran pending)
    | error e =>
      obtain ⟨rfl, ⟨⟩⟩ := Script.asks_done.1 ran
      obtain ⟨before, last, writes, γ, y, rest, leads, rfl, fails⟩ := comes
      exact ⟨before, last, writes, γ, y, rest, .bind leads, by simp, fails⟩
    | panic m =>
      obtain ⟨rfl, ⟨⟩⟩ := Script.asks_done.1 ran
      trivial
  | @view _ _ name shape code output _ ih =>
    rw [Prog.on, meaning, Script.asks_bind] at ran
    obtain ⟨first, ⟨_, u⟩, more, rfl, stepped, ran⟩ := ran
    obtain ⟨e, projected, rfl, rfl⟩ | ⟨v, left, outcome, projected, coded, same⟩ :=
      asks_viewStep stepped
    · obtain ⟨rfl, ⟨⟩⟩ := Script.asks_done.1 ran
      exact (Fails.refused projected).comes pending
    · cases outcome with
      | value a =>
        cases same
        have reached : (Prog.on name shape.view code output).Leads pending s first
            [⟨shape, a.1⟩] (output a.2 (shape.restore a.1 left)) pending := by
          simpa using Leads.view projected coded (.here _ pending _)
        -- The output starts from what this step has written back.
        have written := PluginState.written_cons projected a.1 []
        exact reached.comes (written ▸ ih a.2 _ ran pending)
      | error e =>
        cases same
        obtain ⟨rfl, ⟨⟩⟩ := Script.asks_done.1 ran
        simpa using (Fails.code projected coded).comes pending
      | panic m =>
        cases same
        obtain ⟨rfl, ⟨⟩⟩ := Script.asks_done.1 ran
        trivial
  | editor x =>
    rw [Prog.editor, meaning, Script.asks_bind] at ran
    obtain ⟨first, ⟨_, u⟩, more, rfl, stepped, ran⟩ := ran
    obtain ⟨outcome, evaluated, rfl, rfl⟩ := asks_editorStep.1 stepped
    cases outcome with
    | ok a =>
      obtain ⟨rfl, ⟨⟩⟩ := Script.asks_done.1 ran
      exact ⟨[], .editor evaluated (.here _ _ _), rfl⟩
    | error e =>
      obtain ⟨rfl, ⟨⟩⟩ := Script.asks_done.1 ran
      simpa using (Fails.editor evaluated).comes pending

/-- A program of steps fails where one of them fails or an error is raised between them. The state
has what was written back before, and at most the first state of the failing step's component;
whatever is still pending, nothing is asked and nothing changes any more. -/
theorem OfSteps.fails_where_written {x : Prog (PluginState S) α} (steps : x.OfSteps)
    (s t : PluginState S) (asked : List Exchange) (e : PluginError) :
    (x.run s).Asks asked (.error e, t) ↔
      ∃ (before last : List Exchange) (writes : List (WriteBack S)) (γ : Type)
        (y : Prog (PluginState S) γ) (rest : Pending (PluginState S) γ α),
        x.Leads .none s before writes y rest ∧ asked = before ++ last ∧
        y.Fails (s.written writes) last e t ∧
        y.OpensAtMost (s.written writes) t ∧
        ∀ {δ : Type} (other : Pending (PluginState S) γ δ),
          (y.runWith other (s.written writes)).Asks last (.error e, t) := by
  constructor
  · intro ran
    rw [run_eq_meaning] at ran
    obtain ⟨before, last, writes, γ, y, rest, leads, split, fails⟩ := steps.comes ran .none
    exact ⟨before, last, writes, γ, y, rest, leads, split, fails, fails.opensAtMost,
      fun other => fails.asks_runWith other⟩
  · rintro ⟨before, last, writes, γ, y, rest, leads, rfl, fails, -, -⟩
    exact leads.asks_runWith (fails.asks_runWith rest)

end Prog

namespace Notebook

def title : Shape Unit := .plain .data none

def retitled : title.Carrier schema := Json.string "turned"

def tearing {σ : Type} (s : σ) : Stateful σ Unit :=
  (Stateful.set s).andThen fun () => .error "torn"

theorem evaluate_tearing {σ : Type} (s t : σ) : ((tearing t).run s).evaluate =
    .done (.error ((EditorError.logical "torn").withTrail ["suspend"])) := by
  have trail : (Evaluate.Trail.push [] "suspend").reverse = ["suspend"] := rfl
  simp [tearing, Stateful.andThen, Stateful.flatMap, Stateful.set, Stateful.direct, Stateful.error,
    Stateful.failed, Action.suspended, Body.evaluate, Body.ofCalc, Body.pure, Body.failed,
    Action.evaluate, Evaluate.action, Evaluate.body, Evaluate.raised, trail, Script.map,
    Outcome.ofExcept]

def entitle : Prog (PluginState schema) Unit :=
  .on "title" (title.view (S := schema)) (Stateful.set retitled) fun _ _ => .pure ()

def tear : Prog (PluginState schema) Json :=
  .on "turn" (view.view (S := schema)) (tearing turned) fun _ _ => .pure .null

def rough : Prog (PluginState schema) Json := entitle.bind fun _ => tear

theorem rough_steps : rough.OfSteps := by
  refine .bind (.view (S := schema) _ title _ fun _ _ => .pure ()) fun _ => ?_
  exact .view (S := schema) _ view _ fun _ _ => .pure Json.null

def titled : PluginState schema := title.restore (S := schema) retitled opened

theorem viewStep_entitle (s : PluginState schema) :
    Prog.viewStep (title.view (S := schema)) (Stateful.set retitled) s =
      .done (.value (), title.restore (S := schema) retitled s) := by
  have projected : (title.view (S := schema)).project s = (.ok s.data, s) := rfl
  exact Prog.viewStep_set projected

theorem meaning_entitle (s : PluginState schema) :
    entitle.meaning s = .done (.value (), title.restore (S := schema) retitled s) := by
  simp only [entitle, Prog.on, Prog.meaning, viewStep_entitle]
  rfl

theorem meaning_tear : tear.meaning titled =
    .done (.error (.program "torn"), titled.withState (S := schema) () (.nat 1)) := by
  have projected : (view.view (S := schema)).project titled =
    (.ok ⟨titled.data, .nat 1⟩, titled.withState (S := schema) () (.nat 1)) := rfl
  have evaluated := @evaluate_tearing (view.Carrier schema) ⟨titled.data, .nat 1⟩ turned
  simp only [tear, Prog.on, Prog.meaning, Prog.viewStep_projected projected]
  rw [evaluated]
  rfl

theorem run_rough : rough.run opened =
    .done (.error (.program "torn"), titled.withState (S := schema) () (.nat 1)) := by
  rw [Prog.run_eq_meaning, rough, Prog.meaning, meaning_entitle]
  exact meaning_tear

end Notebook

-- The title stays, the torn page is not seen, and the state of the component is its first one.
open Notebook in
theorem fails_where_written_of_tearing :
    rough.OfSteps ∧
      (rough.run opened).Asks [] (.error (.program "torn"), titled.withState () (.nat 1)) ∧
      ∃ (before last : List Exchange) (writes : List (WriteBack schema)) (γ : Type)
        (y : Prog (PluginState schema) γ) (rest : Prog.Pending (PluginState schema) γ Json),
        rough.Leads .none opened before writes y rest ∧ [] = before ++ last ∧
        y.Fails (opened.written writes) last (.program "torn") (titled.withState () (.nat 1)) := by
  have ran : (rough.run opened).Asks []
      (.error (.program "torn"), titled.withState (S := schema) () (.nat 1)) :=
    run_rough ▸ .done _
  obtain ⟨before, last, writes, γ, y, rest, leads, split, fails, -, -⟩ :=
    (rough_steps.fails_where_written opened (titled.withState (S := schema) () (.nat 1)) []
      (.program "torn")).1 ran
  exact ⟨rough_steps, ran, before, last, writes, γ, y, rest, leads, split, fails⟩

end PluginHost
