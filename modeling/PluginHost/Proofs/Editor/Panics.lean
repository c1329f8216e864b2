import PluginHost.Proofs.Editor.Meaning
import PluginHost.Proofs.Script

/-!
Panics in the code of editor computations. One that no handler recovers from ends the computation
with a fatal error; one before there is a computation gets through.
-/

set_option autoImplicit false

namespace PluginHost

open Evaluate (Trail raised)

def EditorError.IsPanic (e : EditorError) : Prop := ∃ m, e.kind = .fatal m

-- Where the code panics, and how the handlers around it pass the error on. A handler that comes to a
-- value or to an error of another kind has recovered.
mutual
inductive Action.Panics : {α : Type} → Action α → Trail → List Exchange → EditorError → Trail → Prop
  | suspend {α : Type} {label : String} {body : Unit → Body α} {t u : Trail}
      {asked : List Exchange} {e : EditorError}
      (inside : Body.Panics (body ()) label (t.push label) asked e u) :
      Action.Panics (.suspend label body) t asked e u
  | inner {α β : Type} {x : Action β} {next : β → Body α} {t u : Trail} {asked : List Exchange}
      {e : EditorError} (inside : Action.Panics x t asked e u) :
      Action.Panics (.bind x next) t asked e u
  | next {α β : Type} {x : Action β} {next : β → Body α} {t u v : Trail}
      {first later : List Exchange} {b : β} {e : EditorError}
      (before : (x.meaning t).Asks first (.ok b, u))
      (inside : Body.Panics (next b) "flat_map" u later e v) :
      Action.Panics (.bind x next) t (first ++ later) e v
  | passed {α β : Type} {x : Action β} {handler : Except EditorError β → Body α} {t u v : Trail}
      {first later : List Exchange} {e e' : EditorError} (inside : Action.Panics x t first e u)
      (after : ((handler (.error e)).meaning "recover" u).Asks later (.error e', v))
      (same : e'.kind = e.kind) : Action.Panics (.recover x handler) t (first ++ later) e' v
  | handler {α β : Type} {x : Action β} {handler : Except EditorError β → Body α} {t u v : Trail}
      {first later : List Exchange} {r : Except EditorError β} {e : EditorError}
      (before : (x.meaning t).Asks first (r, u))
      (inside : Body.Panics (handler r) "recover" u later e v) :
      Action.Panics (.recover x handler) t (first ++ later) e v

inductive Body.Panics : {α : Type} → Body α → String → Trail → List Exchange → EditorError → Trail →
    Prop
  | panic {α : Type} (m op : String) (t : Trail) :
      Body.Panics (.panic m : Body α) op t [] (raised (.fatal op m) t) t
  | build {α : Type} {x : Action α} {op : String} {t u : Trail} {asked : List Exchange}
      {e : EditorError} (inside : Action.Panics x t asked e u) : Body.Panics (.build x) op t asked e u
  | ask {α : Type} {q : Query} {next : q.Answer → Body α} {answer : q.Answer} {op : String}
      {t u : Trail} {later : List Exchange} {e : EditorError}
      (inside : Body.Panics (next answer) op t later e u) :
      Body.Panics (.ask q next) op t (⟨q, answer⟩ :: later) e u
  | fork {α : Type} {task : Action Unit} {next : Unit → Body α} {op : String} {t u : Trail}
      {first later : List Exchange} {r : Except EditorError Unit × Trail} {e : EditorError}
      (before : (task.meaning []).Asks first r) (inside : Body.Panics (next ()) op t later e u) :
      Body.Panics (.fork task next) op t (first ++ later) e u
end

mutual
theorem Action.asks_of_panics {α : Type} : (x : Action α) → ∀ {t u : Trail}
    {asked : List Exchange} {e : EditorError}, x.Panics t asked e u →
    (x.meaning t).Asks asked (.error e, u) ∧ e.IsPanic
  | .suspend _ body, _, _, _, _, .suspend inside => by
    rw [Action.meaning]
    exact Body.asks_of_panics (body ()) inside
  | .bind x _, _, _, asked, _, .inner inside => by
    obtain ⟨asks, fatal⟩ := Action.asks_of_panics x inside
    refine ⟨?_, fatal⟩
    rw [Action.meaning, ← List.append_nil asked]
    exact Script.asks_bind.2 ⟨_, _, _, rfl, asks, .done _⟩
  | .bind _ next, _, _, _, _, .next before inside => by
    obtain ⟨asks, fatal⟩ := Body.asks_of_panics (next _) inside
    rw [Action.meaning]
    exact ⟨Script.asks_bind.2 ⟨_, _, _, rfl, before, asks⟩, fatal⟩
  | .recover x _, _, _, _, _, .passed inside after same => by
    obtain ⟨asks, m, fatal⟩ := Action.asks_of_panics x inside
    rw [Action.meaning]
    exact ⟨Script.asks_bind.2 ⟨_, _, _, rfl, asks, after⟩, m, same.trans fatal⟩
  | .recover _ handler, _, _, _, _, .handler before inside => by
    obtain ⟨asks, fatal⟩ := Body.asks_of_panics (handler _) inside
    rw [Action.meaning]
    exact ⟨Script.asks_bind.2 ⟨_, _, _, rfl, before, asks⟩, fatal⟩
termination_by structural x => x

theorem Body.asks_of_panics {α : Type} : (x : Body α) → ∀ {op : String} {t u : Trail}
    {asked : List Exchange} {e : EditorError}, x.Panics op t asked e u →
    (x.meaning op t).Asks asked (.error e, u) ∧ e.IsPanic
  | .panic m, _, _, _, _, _, .panic _ _ _ => ⟨.done _, m, rfl⟩
  | .build x, _, _, _, _, _, .build inside => Action.asks_of_panics x inside
  | .ask _ next, _, _, _, _, _, .ask inside => by
    obtain ⟨asks, fatal⟩ := Body.asks_of_panics (next _) inside
    exact ⟨.ask asks, fatal⟩
  | .fork _ next, _, _, _, _, _, .fork before inside => by
    obtain ⟨asks, fatal⟩ := Body.asks_of_panics (next ()) inside
    exact ⟨Script.asks_bind.2 ⟨_, _, _, rfl, before, asks⟩, fatal⟩
termination_by structural x => x
end

theorem Action.asks_evaluate_of_panics {α : Type} {x : Action α} {asked : List Exchange}
    {e : EditorError} {u : Trail} (panics : x.Panics [] asked e u) :
    x.evaluate.Asks asked (.error e) := by
  rw [evaluate_eq_meaning]
  exact Script.asks_map.2 ⟨_, (x.asks_of_panics panics).1, rfl⟩

/-- How code that no guard protects comes to an end by a panic. -/
inductive Body.Breaks {α : Type} : Body α → List Exchange → Outcome EditorError α → Prop
  | panic (m : String) : Breaks (.panic m) [] (.panic m)
  | build {x : Action α} {asked : List Exchange} {e : EditorError} {u : Trail}
      (inside : x.Panics [] asked e u) : Breaks (.build x) asked (.error e)
  | ask {q : Query} {next : q.Answer → Body α} {answer : q.Answer} {later : List Exchange}
      {r : Outcome EditorError α} (inside : Breaks (next answer) later r) :
      Breaks (.ask q next) (⟨q, answer⟩ :: later) r
  | fork {task : Action Unit} {next : Unit → Body α} {first later : List Exchange}
      {ended : Except EditorError Unit} {r : Outcome EditorError α}
      (before : task.evaluate.Asks first ended) (inside : Breaks (next ()) later r) :
      Breaks (.fork task next) (first ++ later) r

theorem Body.Breaks.asks_evaluate {α : Type} {x : Body α} {asked : List Exchange}
    {r : Outcome EditorError α} (breaks : x.Breaks asked r) : x.evaluate.Asks asked r := by
  induction breaks with
  | panic m => exact .done _
  | build inside =>
    exact Script.asks_map.2 ⟨_, Action.asks_evaluate_of_panics inside, rfl⟩
  | ask _ ih => exact .ask ih
  | fork before _ ih => exact Script.asks_bind.2 ⟨_, _, _, rfl, before, ih⟩

theorem Body.Breaks.isPanic {α : Type} {x : Body α} {asked : List Exchange} {e : EditorError}
    (breaks : x.Breaks asked (.error e)) : e.IsPanic := by
  generalize outcome : Outcome.error e = r at breaks
  induction breaks with
  | panic => cases outcome
  | build inside =>
    cases outcome
    exact (Action.asks_of_panics _ inside).2
  | ask _ ih => exact ih outcome
  | fork _ _ ih => exact ih outcome

end PluginHost
