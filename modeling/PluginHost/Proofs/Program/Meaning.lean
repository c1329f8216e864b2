import PluginHost.Program.Prog

/-!
The machine that runs programs does what they mean: a stack of continuations is the bind of all
that is on it.
-/

set_option autoImplicit false

namespace PluginHost.Prog

variable {σ α β : Type}

/-- What the pending continuations make of an outcome. -/
def Pending.resume {α β : Type} : Pending σ β α → Outcome PluginError β × σ →
    Script (Outcome PluginError α × σ)
  | .none, r => .done r
  | .push next rest, (.value b, s) => ((next b).meaning s).bind rest.resume
  | .push _ _, (.error e, s) => .done (.error e, s)
  | .push _ _, (.panic m, s) => .done (.panic m, s)

@[simp] theorem Pending.resume_error (pending : Pending σ β α) (e : PluginError) (s : σ) :
    pending.resume (.error e, s) = .done (.error e, s) := by
  cases pending <;> rfl

@[simp] theorem Pending.resume_panic (pending : Pending σ β α) (m : String) (s : σ) :
    pending.resume (.panic m, s) = .done (.panic m, s) := by
  cases pending <;> rfl

theorem runWith_eq_meaning (x : Prog σ β) (pending : Pending σ β α) (s : σ) :
    x.runWith pending s = (x.meaning s).bind pending.resume := by
  fun_induction runWith x pending s with
  | case1 => simp [meaning, Pending.resume]
  | case2 _ _ _ _ _ next rest ih => simp [meaning, Pending.resume, ih]
  | case3 => simp [meaning]
  | case4 => simp [meaning]
  | case5 _ _ _ rest _ inner next ih =>
    rw [ih, meaning, Script.bind_assoc]
    congr 1
    funext ⟨r, s⟩
    cases r <;> simp [Pending.resume]
  | case6 _ _ _ rest _ _ _ step output ih =>
    rw [meaning, Script.bind_assoc]
    congr 1
    funext ⟨r, s⟩
    cases r with
    | value b => exact ih b s
    | error e => simp
    | panic m => simp

theorem run_eq_meaning (x : Prog σ α) (s : σ) : x.run s = x.meaning s := by
  rw [run, runWith_eq_meaning]
  exact Script.bind_done _

/-- On any stack of continuations a program does what it means: the stack gets a value in the state
it was reached in, and an error passes it by. Binds and `pure` obey the laws of a monad. -/
theorem run_as_meant (x : Prog σ β) (pending : Pending σ β α) (s : σ) :
    x.run s = x.meaning s ∧
    x.runWith pending s = (x.meaning s).bind pending.resume ∧
    (∀ e, pending.resume (.error e, s) = .done (.error e, s)) ∧
    (∀ (b : β) (f : β → Prog σ α), (Prog.bind (.pure b) f).run s = (f b).run s) ∧
    (x.bind .pure).run s = x.run s ∧
    ∀ {γ : Type} (f : β → Prog σ α) (g : α → Prog σ γ),
      ((x.bind f).bind g).run s = (x.bind fun b => (f b).bind g).run s := by
  refine ⟨run_eq_meaning x s, runWith_eq_meaning x pending s, fun e => pending.resume_error e s,
    ?_, ?_, ?_⟩
  · intro b f
    simp only [run_eq_meaning, meaning, Script.done_bind]
  · rw [run_eq_meaning, run_eq_meaning, meaning]
    conv => rhs; rw [← Script.bind_done (x.meaning s)]
    congr 1
    funext ⟨r, s⟩
    cases r <;> simp [meaning]
  · intro γ f g
    simp only [run_eq_meaning, meaning, Script.bind_assoc]
    congr 1
    funext ⟨r, s⟩
    cases r <;> simp

end PluginHost.Prog
