import PluginHost.Plugin.Component
import PluginHost.Proofs.Program.Bounds

/-!
How many arguments the editor lets a command have: every count that the program's bounds accept, and
as few others as one of the editor's five classes can do.
-/

set_option autoImplicit false

namespace PluginHost

variable {S : Schema}

namespace Arity

variable {a : Arity} {n : Nat}

namespace Nargs

/-- Every count that is allowed is one that the other class allows too. -/
def Under (nargs other : Nargs) : Prop := ∀ n, nargs.allows n = true → other.allows n = true

theorem allows_of_two_le {nargs : Nargs} {k : Nat} (many : nargs.allows n = true)
    (two_le : 2 ≤ n) (positive : 0 < k) : nargs.allows k = true := by
  cases nargs <;> simp [allows] at many ⊢ <;> omega

end Nargs

theorem nargs_allows (within : a.Within n) : a.nargs.allows n = true := by
  obtain ⟨above, below⟩ := within
  fun_cases Arity.nargs a with
  | case1 max_zero => simpa [Nargs.allows] using below 0 max_zero
  | case2 max_one min_one =>
    have at_most : n ≤ 1 := below 1 max_one
    simp only [Nargs.allows, beq_iff_eq]
    omega
  | case3 max_one => simpa [Nargs.allows] using below 1 max_one
  | case4 => rfl
  | case5 min_positive =>
    have positive : a.min ≠ 0 := min_positive
    simp only [Nargs.allows, decide_eq_true_eq]
    omega

theorem exists_within_two_le (within : a.Within n) (not_zero : a.max ≠ some 0)
    (not_one : a.max ≠ some 1) : ∃ k, 2 ≤ k ∧ a.Within k := by
  obtain ⟨above, below⟩ := within
  by_cases many : 2 ≤ n
  next => exact ⟨n, many, above, below⟩
  next =>
    refine ⟨2, Nat.le_refl 2, by omega, fun most most_eq => ?_⟩
    have most_ne_zero : most ≠ 0 := fun zero => not_zero (zero ▸ most_eq)
    have most_ne_one : most ≠ 1 := fun one => not_one (one ▸ most_eq)
    omega

-- Above one the classes do not tell counts apart, so a program that takes more than one argument
-- needs a class without an upper bound, whatever its own bound is.
theorem nargs_under (within : a.Within n) {other : Nargs}
    (suits : ∀ k, a.Within k → other.allows k = true) : a.nargs.Under other := by
  have above := within.1
  intro k
  fun_cases Arity.nargs a with
  | case1 max_zero =>
    have given : n ≤ 0 := within.2 0 max_zero
    intro allowed
    have same : k = n := by simp [Nargs.allows] at allowed; omega
    exact same ▸ suits n within
  | case2 max_one min_one =>
    have given : n ≤ 1 := within.2 1 max_one
    intro allowed
    have same : k = n := by simp [Nargs.allows] at allowed; omega
    exact same ▸ suits n within
  | case3 max_one min_zero =>
    intro allowed
    have given : k ≤ 1 := by simpa [Nargs.allows] using allowed
    exact suits k (by simp [Within, max_one, min_zero, given])
  | case4 min_zero not_zero not_one =>
    obtain ⟨many, two_le, many_within⟩ := exists_within_two_le within not_zero not_one
    intro _
    by_cases positive : 0 < k
    next => exact Nargs.allows_of_two_le (suits many many_within) two_le positive
    next =>
      have none_given : k = 0 := by omega
      exact none_given ▸ suits 0 ⟨by omega, fun _ _ => Nat.zero_le _⟩
  | case5 min_positive not_zero not_just_one _ =>
    have needed : a.min ≠ 0 := min_positive
    have not_one : a.max ≠ some 1 := by
      intro max_one
      have given : n ≤ 1 := within.2 1 max_one
      exact not_just_one (by omega) max_one
    obtain ⟨many, two_le, many_within⟩ := exists_within_two_le within not_zero not_one
    intro allowed
    have positive : 1 ≤ k := by simpa [Nargs.allows] using allowed
    exact Nargs.allows_of_two_le (suits many many_within) two_le positive

end Arity

namespace Handler

variable {h : Handler S} {bang : Bool} {n : Nat}

/-- The program's arity check passes a call of the command with this many arguments. The flag of a
bang comes after them and counts as one more. -/
def TakesCount (h : Handler S) (bang : Bool) (n : Nat) : Prop :=
  h.program.arity.accepts (if bang then n + 1 else n) = true

theorem TakesCount.within (taken : h.TakesCount bang n) :
    (h.program.arity.beforeBang bang).Within n := by
  obtain ⟨above, below⟩ := Arity.accepts_iff.1 taken
  cases bang with
  | false => exact ⟨above, below⟩
  | true =>
    simp only [if_true] at above below
    refine ⟨by simp only [Arity.beforeBang, if_true]; omega, fun most member => ?_⟩
    obtain ⟨all, all_eq, rfl⟩ := Option.map_eq_some_iff.1 member
    have le_all := below all all_eq
    omega

-- With a bang a program without arguments takes no call, but the bounds that are left for the
-- command's own arguments still let zero through: hence the count that is known to be taken.
theorem takesCount_of_within {count : Nat} (taken : h.TakesCount bang count)
    (within : (h.program.arity.beforeBang bang).Within n) : h.TakesCount bang n := by
  obtain ⟨_, some_below⟩ := Arity.accepts_iff.1 taken
  obtain ⟨above, below⟩ := within
  apply Arity.accepts_iff.2
  cases bang with
  | false => exact ⟨above, below⟩
  | true =>
    simp only [Arity.beforeBang, if_true] at above below some_below ⊢
    refine ⟨by omega, fun all all_eq => ?_⟩
    have some_le := some_below all all_eq
    have le_most := below (all - 1) (Option.mem_map_of_mem _ all_eq)
    omega

/-- What the editor is told about a command that runs the program. -/
def commandSpec (h : Handler S) (plugin : Identity) (sync bang : Bool) : TriggerSpec :=
  h.options.spec h.program.name h.program.arity plugin (.command sync bang)

/-- The text that has the editor define the command and let a class of counts through. -/
def commandText (h : Handler S) (plugin : Identity) (sync bang : Bool) (nargs : Arity.Nargs)
    (channel : Int) : String :=
  let spec := h.commandSpec plugin sync bang
  let own := if nargs = .zero then "" else ", <f-args>"
  let flag := if bang then ", '<bang>' ==# '!'" else ""
  "command! -nargs=" ++ nargs.text ++ (if bang then " -bang" else "") ++ " " ++ spec.name ++
    " call " ++ spec.call channel (own ++ flag)

theorem optText_commandSpec (h : Handler S) (plugin : Identity) (sync bang : Bool) :
    (h.commandSpec plugin sync bang).optText "nargs" =
      some (h.program.arity.beforeBang bang).nargs.text := by
  cases bang <;> simp [commandSpec, TriggerOptions.spec, TriggerOptions.optsOf,
    TriggerSpec.optText, Fields.get?, Json.string?]

theorem definition_commandSpec (h : Handler S) (plugin : Identity) (sync bang : Bool)
    (channel : Int) (group : String) :
    (h.commandSpec plugin sync bang).definition channel group =
      h.commandText plugin sync bang (h.program.arity.beforeBang bang).nargs channel := by
  have flagged : (h.commandSpec plugin sync bang).hasBang = bang := by
    cases bang <;> simp [commandSpec, TriggerOptions.spec, TriggerOptions.optsOf,
      TriggerSpec.hasBang, Fields.get?]
  have text_zero : ∀ nargs : Arity.Nargs, nargs.text = "0" ↔ nargs = .zero := by
    intro nargs
    cases nargs <;> decide
  change (h.commandSpec plugin sync bang).commandDefinition channel = _
  unfold TriggerSpec.commandDefinition commandText
  rw [optText_commandSpec, flagged, Option.getD_some]
  simp only [text_zero]
  rfl

/-- The class of counts in a command's definition has all that the program takes, and no other of
the five classes has all of them and less besides. -/
theorem nargs_tightest (h : Handler S) (plugin : Identity) (sync bang : Bool) :
    ∃ nargs : Arity.Nargs,
      (∀ channel group, (h.commandSpec plugin sync bang).definition channel group =
        h.commandText plugin sync bang nargs channel) ∧
      (∀ n, h.TakesCount bang n → nargs.allows n = true) ∧
      ∀ n, h.TakesCount bang n → ∀ other : Arity.Nargs,
        (∀ k, h.TakesCount bang k → other.allows k = true) → nargs.Under other := by
  refine ⟨(h.program.arity.beforeBang bang).nargs, h.definition_commandSpec plugin sync bang, ?_, ?_⟩
  next => exact fun n taken => Arity.nargs_allows taken.within
  next =>
    intro n taken other suits
    apply Arity.nargs_under taken.within
    intro k within
    exact suits k (takesCount_of_within taken within)

end Handler

end PluginHost
