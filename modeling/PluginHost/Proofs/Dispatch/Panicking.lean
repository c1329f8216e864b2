import PluginHost.Proofs.Dispatch.Turns

/-!
Requests whose program panics: they end, with a fatal error, and leave what was written back before.
-/

set_option autoImplicit false

namespace PluginHost

variable {S : Schema} {α β γ : Type}

namespace Prog

theorem meaning_of_unbuilt {σ : Type} {x : Prog σ α} (unbuilt : x.isBuilt = false) (s : σ) :
    ∃ m, x.meaning s = .done (.panic m, s) := by
  induction x with
  | panic m => exact ⟨m, rfl⟩
  | bind inner next ih _ =>
    obtain ⟨m, panics⟩ := ih unbuilt
    exact ⟨m, by rw [meaning, panics]; rfl⟩
  | _ => cases unbuilt

-- Between two steps, in code that is to build a computation, or within the computation of a step,
-- where nothing recovers from it.
inductive Panics : {γ : Type} → Prog (PluginState S) γ → PluginState S → List Exchange →
    Outcome PluginError Json → PluginState S → Prop where
  | panic {γ : Type} (m : String) (s : PluginState S) :
      Panics (.panic m : Prog (PluginState S) γ) s [] (.panic m) s
  | unguarded {β γ : Type} {name : String} {shape : Shape S.Kind}
      {code : Stateful (shape.Carrier S) β} {output : β → PluginState S → Prog (PluginState S) γ}
      {s t : PluginState S} {v : shape.Carrier S} {asked : List Exchange} {m : String}
      (projected : shape.project s = (.ok v, t)) (breaks : (code.run v).Breaks asked (.panic m)) :
      Panics (.on name shape.view code output) s asked (.panic m) t
  | guarded {β γ : Type} {name : String} {shape : Shape S.Kind}
      {code : Stateful (shape.Carrier S) β} {output : β → PluginState S → Prog (PluginState S) γ}
      {s t : PluginState S} {v : shape.Carrier S} {asked : List Exchange} {e : EditorError}
      (projected : shape.project s = (.ok v, t)) (breaks : (code.run v).Breaks asked (.error e)) :
      Panics (.on name shape.view code output) s asked (.error (.ofEditor e)) t
  | editor {γ : Type} {x : Action γ} {s : PluginState S} {asked : List Exchange} {e : EditorError}
      {u : Evaluate.Trail} (panics : x.Panics [] asked e u) :
      Panics (.editor x) s asked (.error (.ofEditor e)) s

variable {y : Prog (PluginState S) γ} {s t : PluginState S} {asked : List Exchange}
  {outcome : Outcome PluginError Json}

theorem Panics.asks_runWith (panics : y.Panics s asked outcome t)
    (pending : Pending (PluginState S) γ Json) : (y.runWith pending s).Asks asked (outcome, t) := by
  cases panics with
  | panic m =>
    rw [runWith]
    exact .done _
  | unguarded projected breaks =>
    rw [Prog.on, runWith, Shape.view, viewStep_projected projected, ← List.append_nil asked]
    exact Script.asks_bind.2
      ⟨_, _, _, rfl, Script.asks_map.2 ⟨_, breaks.asks_evaluate, rfl⟩, .done _⟩
  | guarded projected breaks =>
    exact (Fails.code projected breaks.asks_evaluate).asks_runWith pending
  | editor panics =>
    exact (Fails.editor (Action.asks_evaluate_of_panics panics)).asks_runWith pending

theorem Panics.opensAtMost (panics : y.Panics s asked outcome t) : y.OpensAtMost s t := by
  cases panics with
  | panic | editor => exact .inl rfl
  | unguarded projected _ | guarded projected _ => exact opensAtMost_of_project projected

theorem Panics.settled_eq (panics : y.Panics s asked outcome t) :
    ∃ message, settled outcome = .error (.fatal message) := by
  have fatal {e : EditorError} (isPanic : e.IsPanic) :
      ∃ message, settled (.error (.ofEditor e) : Outcome PluginError Json) =
        .error (.fatal message) := by
    obtain ⟨m, kind⟩ := isPanic
    exact ⟨e.report, by simp [settled, PluginError.ofEditor, kind]⟩
  cases panics with
  | panic | unguarded => exact ⟨_, rfl⟩
  | guarded _ breaks => exact fatal breaks.isPanic
  | editor panics => exact fatal (Action.asks_of_panics _ panics).2

end Prog

theorem prepare_of_unbuilt {lib : Library S} {r : Request} {s : PluginState S}
    (unbuilt : (prepare lib r s).1.isBuilt = false) : (prepare lib r s).2 = s := by
  unfold prepare at unbuilt ⊢
  split
  · rfl
  · split
    · rfl
    · split
      · rfl
      · simp_all

theorem dispatch_of_unbuilt {lib : Library S} {r : Request} {s : PluginState S}
    (unbuilt : (prepare lib r s).1.isBuilt = false) :
    dispatch lib r s = .done (.error (.fatal "program panicked"), s) := by
  obtain ⟨m, panics⟩ := Prog.meaning_of_unbuilt unbuilt s
  have executed : execute lib r s = .done (.panic m, s) := by
    rw [execute, prepare_of_unbuilt unbuilt, Prog.run_eq_meaning, panics]
  rw [dispatch, executed]
  rfl

/-- What becomes of a request when its program panics: at binding, or at any place its run gets to. -/
structure PanicSafe (lib : Library S) (r : Request) (s : PluginState S) : Prop where
  unbuilt : (prepare lib r s).1.isBuilt = false →
    dispatch lib r s = .done (.error (.fatal "program panicked"), s)
  fatal : ∀ {γ : Type} (y : Prog (PluginState S) γ) (pending : Prog.Pending (PluginState S) γ Json)
    (before last : List Exchange) (u t : PluginState S) (outcome : Outcome PluginError Json),
    Running.Turns lib r .begun s before (.before y pending) u → y.Panics u last outcome t →
      y.OpensAtMost u t ∧ ∃ message, settled outcome = .error (.fatal message) ∧
        ∀ more result, (dispatch lib r s).Asks (before ++ last ++ more) result ↔
          more = [] ∧ result = (.error (.fatal message), t)

theorem panicSafe (lib : Library S) (r : Request) (s : PluginState S) : PanicSafe lib r s where
  unbuilt := dispatch_of_unbuilt
  fatal y pending before last u t outcome turns panics := by
    obtain ⟨message, fatal⟩ := panics.settled_eq
    have executed : (execute lib r s).Asks (before ++ last) (outcome, t) :=
      turns.asks_rest (panics.asks_runWith pending)
    have ended : (dispatch lib r s).Asks (before ++ last) (.error (.fatal message), t) :=
      Script.asks_map.2 ⟨_, executed, by simp only [fatal]⟩
    refine ⟨panics.opensAtMost, message, fatal, fun more result => ?_⟩
    constructor
    · exact fun again => ended.unique again
    · rintro ⟨rfl, rfl⟩
      simpa using ended

end PluginHost
