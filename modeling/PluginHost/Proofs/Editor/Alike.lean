import PluginHost.Proofs.Editor.Chains

/-!
Computations whose handlers go by the kind of an error. What such a computation comes to does not
depend on the steps that ran before it, which show only in the operation and the trace of an error.
-/

set_option autoImplicit false

namespace PluginHost

open Evaluate (Trail)

/-- What is left of an outcome when its error is only known by its kind. -/
def Evaluate.seen {α : Type} (r : Except EditorError α × Trail) : Except ErrorKind α :=
  r.1.mapError EditorError.kind

-- Computations that differ at most in labels and in what an error says beside its kind. One that is
-- alike to itself has no handler that tells errors of one kind apart.
mutual
inductive Action.Alike : {α : Type} → Action α → Action α → Prop
  | pure {α : Type} (a : α) : Action.Alike (.pure a) (.pure a)
  | failed {α : Type} {e e' : EditorError} (kind : e.kind = e'.kind) :
      Action.Alike (.failed e : Action α) (.failed e')
  | suspend {α : Type} {label label' : String} {b c : Unit → Body α}
      (inside : Body.Alike (b ()) (c ())) : Action.Alike (.suspend label b) (.suspend label' c)
  | bind {α β : Type} {x y : Action β} {f g : β → Body α} (first : Action.Alike x y)
      (later : ∀ b, Body.Alike (f b) (g b)) : Action.Alike (.bind x f) (.bind y g)
  | recover {α β : Type} {x y : Action β} {f g : Except EditorError β → Body α}
      (first : Action.Alike x y)
      (later : ∀ r r', r.mapError EditorError.kind = r'.mapError EditorError.kind →
        Body.Alike (f r) (g r')) : Action.Alike (.recover x f) (.recover y g)

inductive Body.Alike : {α : Type} → Body α → Body α → Prop
  | build {α : Type} {x y : Action α} (inside : Action.Alike x y) :
      Body.Alike (.build x) (.build y)
  | panic {α : Type} (m : String) : Body.Alike (.panic m : Body α) (.panic m)
  | ask {α : Type} {q : Query} {f g : q.Answer → Body α} (later : ∀ a, Body.Alike (f a) (g a)) :
      Body.Alike (.ask q f) (.ask q g)
  | fork {α : Type} {task task' : Action Unit} {f g : Unit → Body α}
      (first : Action.Alike task task') (later : Body.Alike (f ()) (g ())) :
      Body.Alike (.fork task f) (.fork task' g)
end

theorem Evaluate.cases_of_kinds {α : Type} {r r' : Except EditorError α}
    (kinds : r.mapError EditorError.kind = r'.mapError EditorError.kind) :
    (∃ a, r = .ok a ∧ r' = .ok a) ∨
      ∃ e e', r = .error e ∧ r' = .error e' ∧ e.kind = e'.kind := by
  cases r with
  | ok a =>
    cases r' with
    | ok a' =>
      obtain rfl : a = a' := Except.ok.inj kinds
      exact .inl ⟨a, rfl, rfl⟩
    | error e' => cases kinds
  | error e =>
    cases r' with
    | ok a' => cases kinds
    | error e' => exact .inr ⟨e, e', rfl, rfl, Except.error.inj kinds⟩

theorem Body.seen_after {α β : Type} {f g : β → Body α} {r r' : Except EditorError β × Trail}
    (same : Evaluate.seen r = Evaluate.seen r')
    (later : ∀ b t u, ((f b).meaning "flat_map" t).map Evaluate.seen =
      ((g b).meaning "flat_map" u).map Evaluate.seen) :
    (Body.after f r).map Evaluate.seen = (Body.after g r').map Evaluate.seen := by
  obtain ⟨r, t⟩ := r
  obtain ⟨r', u⟩ := r'
  obtain ⟨b, rfl, rfl⟩ | ⟨e, e', rfl, rfl, kind⟩ := Evaluate.cases_of_kinds same
  · exact later b t u
  · change Script.done (Except.error e.kind) = Script.done (Except.error e'.kind)
    rw [kind]

mutual
theorem Action.Alike.seen_eq {α : Type} : {x y : Action α} → x.Alike y → ∀ t u : Trail,
    (x.meaning t).map Evaluate.seen = (y.meaning u).map Evaluate.seen
  | _, _, .pure a, t, u => rfl
  | _, _, .failed kind, t, u => by
    change Script.done (Except.error _) = Script.done (Except.error _)
    rw [Evaluate.raised]
    exact congrArg _ (congrArg _ kind)
  | _, _, .suspend inside, t, u => by
    simp only [Action.meaning]
    exact inside.seen_eq _ _ _ _
  | _, _, .bind first later, t, u => by
    simp only [Action.meaning_bind, Script.map_bind]
    exact Script.bind_congr_of_map (first.seen_eq t u) fun r r' same =>
      Body.seen_after same fun b t u => (later b).seen_eq _ _ t u
  | _, _, .recover first later, t, u => by
    simp only [Action.meaning, Script.map_bind]
    exact Script.bind_congr_of_map (first.seen_eq t u) fun r r' same =>
      (later r.1 r'.1 same).seen_eq _ _ r.2 r'.2

theorem Body.Alike.seen_eq {α : Type} : {x y : Body α} → x.Alike y → ∀ (op op' : String)
    (t u : Trail), (x.meaning op t).map Evaluate.seen = (y.meaning op' u).map Evaluate.seen
  | _, _, .build inside, op, op', t, u => inside.seen_eq t u
  | _, _, .panic m, op, op', t, u => rfl
  | _, _, .ask later, op, op', t, u => by
    simp only [Body.meaning, Script.map, Script.bind, Script.ask.injEq, heq_eq_eq, true_and]
    funext answer
    exact (later answer).seen_eq op op' t u
  | _, _, .fork first later, op, op', t, u => by
    simp only [Body.meaning, Script.map_bind]
    exact Script.bind_congr_of_map (first.seen_eq [] []) fun _ _ _ => later.seen_eq op op' t u
end

-- A default that goes by the kind of the error.
theorem Action.Alike.recovered {α : Type} {x y : Action α} {f g : EditorError → α}
    (first : x.Alike y) (same : ∀ e e', e.kind = e'.kind → f e = g e') :
    (x.recovered f).Alike (y.recovered g) := by
  refine .recover first fun r r' kinds => ?_
  obtain ⟨a, rfl, rfl⟩ | ⟨e, e', rfl, rfl, kind⟩ := Evaluate.cases_of_kinds kinds
  · exact .build (.pure a)
  · change Body.Alike (.build (.pure (f e))) (.build (.pure (g e')))
    rw [same e e' kind]
    exact .build (.pure _)

end PluginHost
