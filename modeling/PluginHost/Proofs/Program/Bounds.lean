import Mathlib.Data.List.Induction
import PluginHost.Program.Basic
import PluginHost.Proofs.Plugin.Catalog

/-!
The bounds on a program's arguments and the decoding of its arguments agree: within the bounds only
an argument that is there can be refused, and below them a parameter is left without a value.
-/

set_option autoImplicit false

namespace PluginHost

variable {α β σ K γ : Type}

/-- The count is not outside of the bounds. -/
def Arity.Within (a : Arity) (count : Nat) : Prop :=
  a.min ≤ count ∧ ∀ max ∈ a.max, count ≤ max

theorem Arity.accepts_iff {a : Arity} {count : Nat} : a.accepts count = true ↔ a.Within count := by
  obtain ⟨min, max⟩ := a
  cases max <;> simp [accepts, Within]

namespace Param

theorem decodeArg_missing {p : Param α} {index : Nat} {a : α} :
    p.decodeArg index none = .ok a ↔ p.codec.decode .null = .ok a := by
  cases decoded : p.codec.decode .null <;> simp [decodeArg, decoded]

theorem acceptsNull_iff {p : Param α} :
    p.acceptsNull = true ↔ ∃ a, p.codec.decode .null = .ok a := by
  cases decoded : p.codec.decode .null <;> simp [acceptsNull, decoded, Except.toBool]

theorem decodeArg_eq_error {p : Param α} {index : Nat} {v : Json} {e : PluginError}
    (refused : p.decodeArg index (some v) = .error e) :
    ∃ message : String, e = .decode s!"argument {index + 1}: {message}" := by
  simp only [decodeArg] at refused
  split at refused
  next => cases refused
  next cause _ =>
    split at refused
    next => cases refused
    next =>
      cases refused
      exact ⟨cause.message, rfl⟩

theorem exists_decode_of_decodeArg {p : Param α} {index : Nat} {arg : Option Json}
    {e : PluginError} (refused : p.decodeArg index arg = .error e) :
    ∃ message, e = .decode message := by
  cases arg with
  | none =>
    simp only [decodeArg] at refused
    split at refused
    next => cases refused
    next =>
      cases refused
      exact ⟨_, rfl⟩
  | some v =>
    obtain ⟨message, rfl⟩ := decodeArg_eq_error refused
    exact ⟨_, rfl⟩

end Param

-- Up to the last `true` every place counts, so what is beyond the count has none.
theorem length_dropWhile_reverse_le {required : List Bool} {n : Nat} :
    (required.reverse.dropWhile (· == false)).length ≤ n ↔ true ∉ required.drop n := by
  induction required using List.reverseRecOn with
  | nil => simp
  | append_singleton before last ih =>
    cases last with
    | false =>
      have beyond : true ∉ [false].drop (n - before.length) := by
        intro member
        simpa using List.mem_of_mem_drop member
      simpa [List.drop_append, beyond] using ih
    | true =>
      by_cases short : n ≤ before.length
      next =>
        have none : n - before.length = 0 := by omega
        have outside : ¬ before.length + 1 ≤ n := by omega
        simp [List.drop_append, none, outside]
      next =>
        have past : before.length + 1 ≤ n := by omega
        have rest : ([true] : List Bool).drop (n - before.length) = [] := by
          apply List.drop_eq_nil_of_le
          simp only [List.length_singleton]
          omega
        have nothing : before.drop n = [] := List.drop_eq_nil_of_le (by omega)
        simp [List.drop_append, rest, nothing, past]

/-- The error is about one of the arguments and says which, counting on from the index. -/
def PluginError.Blames (e : PluginError) (index : Nat) (args : List Json) : Prop :=
  ∃ (i : Nat) (v : Json) (message : String), args[i]? = some v ∧
    e = .decode s!"argument {index + i + 1}: {message}"

namespace PluginError.Blames

variable {e : PluginError} {index : Nat} {v : Json} {args : List Json}

theorem not_nil : ¬ e.Blames index [] := by
  simp [Blames]

theorem first (refused : ∃ message : String, e = .decode s!"argument {index + 1}: {message}") :
    e.Blames index (v :: args) := by
  obtain ⟨message, rfl⟩ := refused
  exact ⟨0, v, message, rfl, rfl⟩

theorem later (blames : e.Blames (index + 1) args) : e.Blames index (v :: args) := by
  obtain ⟨i, w, message, there, rfl⟩ := blames
  have place : index + 1 + i = index + (i + 1) := by omega
  exact ⟨i + 1, w, message, by simpa using there, by rw [place]⟩

end PluginError.Blames

namespace Params

/-- The values are what the arguments decode to, one by one. A parameter that is left out is decoded
from null, and surplus arguments do not count. -/
def Binds {α : Type} : Params α → (index : Nat) → List Json → α → Prop
  | .nil, _, _, () => True
  | .cons p rest, index, [], (a, b) =>
    p.codec.decode .null = .ok a ∧ rest.Binds (index + 1) [] b
  | .cons p rest, index, v :: args, (a, b) =>
    p.decodeArg index (some v) = .ok a ∧ rest.Binds (index + 1) args b

theorem decode_cons_eq_ok {p : Param α} {rest : Params β} {index : Nat} {args : List Json}
    {a : α} {b : β} : (Params.cons p rest).decode index args = .ok (a, b) ↔
      p.decodeArg index args.head? = .ok a ∧ rest.decode (index + 1) args.tail = .ok b := by
  simp only [decode, bind_eq_ok_iff, pure, Except.pure, Except.ok.injEq, Prod.mk.injEq]
  constructor
  next =>
    rintro ⟨_, first, _, later, rfl, rfl⟩
    exact ⟨first, later⟩
  next => exact fun ⟨first, later⟩ => ⟨a, first, b, later, rfl, rfl⟩

theorem decode_cons_eq_error {p : Param α} {rest : Params β} {index : Nat} {args : List Json}
    {e : PluginError} (refused : (Params.cons p rest).decode index args = .error e) :
    p.decodeArg index args.head? = .error e ∨ rest.decode (index + 1) args.tail = .error e := by
  simp only [decode, bind_eq_error_iff, pure, Except.pure, reduceCtorEq, and_false, exists_false,
    or_false] at refused
  exact refused.imp_right fun ⟨_, _, later⟩ => later

theorem exists_decode_of_decode {ps : Params α} {index : Nat} {args : List Json} {e : PluginError}
    (refused : ps.decode index args = .error e) : ∃ message, e = .decode message := by
  induction ps generalizing index args with
  | nil => cases refused
  | cons p rest ih =>
    rcases decode_cons_eq_error refused with first | later
    next => exact Param.exists_decode_of_decodeArg first
    next => exact ih later

theorem decode_eq_ok {ps : Params α} {index : Nat} {args : List Json} {a : α} :
    ps.decode index args = .ok a ↔ ps.Binds index args a := by
  induction ps generalizing index args with
  | nil => simp [decode, Binds]
  | cons p rest ih =>
    obtain ⟨a, b⟩ := a
    rw [decode_cons_eq_ok, ih]
    cases args with
    | nil => rw [List.head?_nil, List.tail_nil, Param.decodeArg_missing, Binds]
    | cons v args => rw [List.head?_cons, List.tail_cons, Binds]

theorem length_required {α : Type} (ps : Params α) : ps.required.length = ps.types.length := by
  induction ps with
  | nil => rfl
  | cons p rest ih => rw [required, types, List.length_cons, List.length_cons, ih]

/-- No parameter without an argument refuses null just from the minimum on. -/
theorem minimum_le_iff {ps : Params α} {n : Nat} :
    ps.minimum ≤ n ↔ true ∉ ps.required.drop n :=
  length_dropWhile_reverse_le

-- The first may be null, but the second comes after it.
example :
    (Params.cons (.option .int64) (.cons .bool (.cons (.option .char) .nil))).minimum = 2 := by
  decide

theorem Binds.accepts_null {ps : Params α} {index : Nat} {args : List Json} {a : α}
    (binds : ps.Binds index args a) : true ∉ ps.required.drop args.length := by
  induction ps generalizing index args with
  | nil => simp [required]
  | cons p rest ih =>
    obtain ⟨a, b⟩ := a
    cases args with
    | nil =>
      obtain ⟨decoded, later⟩ := binds
      have accepts := Param.acceptsNull_iff.2 ⟨a, decoded⟩
      simpa [required, accepts] using ih later
    | cons v args =>
      obtain ⟨-, later⟩ := binds
      simpa [required] using ih later

theorem decode_eq_error {ps : Params α} {index : Nat} {args : List Json} {e : PluginError}
    (enough : true ∉ ps.required.drop args.length) (refused : ps.decode index args = .error e) :
    e.Blames index args := by
  induction ps generalizing index args with
  | nil => cases refused
  | cons p rest ih =>
    have split := decode_cons_eq_error refused
    cases args with
    | nil =>
      -- Every parameter that is left takes null, so that none of them is refused.
      obtain ⟨accepts, others⟩ : p.acceptsNull = true ∧ true ∉ rest.required := by
        simpa [required] using enough
      obtain ⟨a, decoded⟩ := Param.acceptsNull_iff.1 accepts
      rw [List.head?_nil, Param.decodeArg_missing.2 decoded] at split
      have none : true ∉ rest.required.drop ([] : List Json).length := by simpa using others
      have later := ih none (split.resolve_left nofun)
      exact absurd later PluginError.Blames.not_nil
    | cons v args =>
      rcases split with first | later
      next => exact .first (Param.decodeArg_eq_error first)
      next => exact .later (ih (by simpa [required] using enough) later)

end Params

namespace Signature

/-- The values are what the arguments decode to. -/
inductive BindsEach (p : Param α) : (index : Nat) → List Json → List α → Prop where
  | nil (index : Nat) : BindsEach p index [] []
  | cons {index : Nat} {v : Json} {args : List Json} {a : α} {as : List α}
      (decoded : p.decodeArg index (some v) = .ok a) (later : BindsEach p (index + 1) args as) :
      BindsEach p index (v :: args) (a :: as)

def Binds {α : Type} : Signature α → List Json → α → Prop
  | .positional ps, args, a => ps.Binds 0 args a
  | .variadic p, args, as => BindsEach p 0 args as

/-- Which of the parameters that get none of so many arguments refuse null. -/
def omitted {α : Type} : Signature α → (count : Nat) → List Bool
  | .positional ps, count => ps.required.drop count
  | .variadic _, _ => []

def isVariadic {α : Type} : Signature α → Bool
  | .positional _ => false
  | .variadic _ => true

theorem decodeAll_eq_ok {p : Param α} {index : Nat} {args : List Json} {as : List α} :
    decodeAll p index args = .ok as ↔ BindsEach p index args as := by
  induction args generalizing index as with
  | nil =>
    rw [decodeAll, Except.ok.injEq]
    constructor
    next =>
      rintro rfl
      exact .nil index
    next =>
      intro binds
      cases binds
      rfl
  | cons v args ih =>
    simp only [decodeAll, bind_eq_ok_iff, pure, Except.pure, Except.ok.injEq]
    constructor
    next =>
      rintro ⟨a, first, as, others, rfl⟩
      exact .cons first (ih.1 others)
    next =>
      intro binds
      cases binds with
      | cons decoded later => exact ⟨_, decoded, _, ih.2 later, rfl⟩

theorem decodeAll_eq_error {p : Param α} {index : Nat} {args : List Json} {e : PluginError}
    (refused : decodeAll p index args = .error e) : e.Blames index args := by
  induction args generalizing index with
  | nil => cases refused
  | cons v args ih =>
    simp only [decodeAll, bind_eq_error_iff, pure, Except.pure, reduceCtorEq, and_false,
      exists_false, or_false] at refused
    rcases refused with first | ⟨a, -, others⟩
    next => exact .first (Param.decodeArg_eq_error first)
    next => exact .later (ih others)

/-- Whatever is wrong with them, arguments are refused as ones that do not decode. -/
theorem exists_decode_of_decode {sig : Signature α} {args : List Json} {e : PluginError}
    (refused : sig.decode args = .error e) : ∃ message, e = .decode message := by
  cases sig with
  | positional ps => exact Params.exists_decode_of_decode refused
  | variadic p =>
    obtain ⟨_, _, _, -, rfl⟩ := decodeAll_eq_error refused
    exact ⟨_, rfl⟩

theorem decode_eq_ok {sig : Signature α} {args : List Json} {a : α} :
    sig.decode args = .ok a ↔ sig.Binds args a := by
  cases sig with
  | positional ps => exact Params.decode_eq_ok
  | variadic p => exact decodeAll_eq_ok

theorem min_le_iff {sig : Signature α} {count : Nat} :
    sig.arity.min ≤ count ↔ true ∉ sig.omitted count := by
  cases sig with
  | positional ps => exact Params.minimum_le_iff
  | variadic p => simp [arity, omitted]

theorem max_eq_of_positional {sig : Signature α} (positional : sig.isVariadic = false) :
    sig.arity.max = some sig.types.length := by
  cases sig with
  | positional ps => rw [arity, types, ps.length_required]
  | variadic p => cases positional

theorem within_of_variadic {sig : Signature α} (variadic : sig.isVariadic = true) (count : Nat) :
    sig.arity.Within count := by
  cases sig with
  | positional ps => cases variadic
  | variadic p => simp [arity, Arity.Within]

theorem Binds.min_le {sig : Signature α} {args : List Json} {a : α} (binds : sig.Binds args a) :
    sig.arity.min ≤ args.length := by
  cases sig with
  | positional ps => exact Params.minimum_le_iff.2 (Params.Binds.accepts_null binds)
  | variadic p => exact Nat.zero_le _

theorem decode_eq_error {sig : Signature α} {args : List Json} {e : PluginError}
    (enough : sig.arity.min ≤ args.length) (refused : sig.decode args = .error e) :
    e.Blames 0 args := by
  cases sig with
  | positional ps => exact Params.decode_eq_error (Params.minimum_le_iff.1 enough) refused
  | variadic p => exact decodeAll_eq_error refused

end Signature

namespace Definition

variable {d : Definition σ} {args : List Json}

theorem code_eq_ok {prog : Prog σ Json} :
    d.code args = .ok prog ↔ ∃ a, d.signature.Binds args a ∧ prog = d.body a := by
  simp only [code, ← Signature.decode_eq_ok]
  cases d.signature.decode args <;> simp [Except.map, eq_comm]

theorem code_of_decode {a : d.Args} (decoded : d.signature.decode args = .ok a) :
    d.code args = .ok (d.body a) := by
  rw [code, decoded, Except.map]

theorem code_eq_error {e : PluginError} :
    d.code args = .error e ↔ d.signature.decode args = .error e := by
  simp only [code]
  cases d.signature.decode args <;> simp [Except.map]

end Definition

/-- A program refuses a count of arguments just outside of its bounds. Within them it comes to the
program of the values that the arguments and nulls for those left out decode to, unless one of the
arguments that are there does not decode; and below them a parameter that refuses null is left out.
Unless it takes any number of arguments, it takes no more than it has parameters. -/
theorem bounds_agree (d : Definition σ) (name : String) (kind : ProgramKind)
    (shape : Option (Shape K)) (code : γ) (args : List Json) :
    ((∃ named expected got,
        (d.program name kind shape code).bind d.code args = .error (.arity named expected got)) ↔
      ¬ d.signature.arity.Within args.length) ∧
    (d.signature.arity.Within args.length →
      (∀ prog, (d.program name kind shape code).bind d.code args = .ok prog ↔
        ∃ a, d.signature.Binds args a ∧ prog = d.body a) ∧
      ∀ e, (d.program name kind shape code).bind d.code args = .error e → e.Blames 0 args) ∧
    (d.signature.arity.min ≤ args.length ↔ true ∉ d.signature.omitted args.length) ∧
    (args.length < d.signature.arity.min → ∀ a, d.signature.decode args ≠ .ok a) ∧
    (d.signature.isVariadic = false → d.signature.arity.max = some d.signature.types.length) ∧
    (d.signature.isVariadic = true → d.signature.arity.Within args.length) := by
  have inside (within : d.signature.arity.Within args.length) :
      (d.program name kind shape code).bind d.code args = d.code args :=
    if_pos (Arity.accepts_iff.2 within)
  have blames {e : PluginError} (within : d.signature.arity.Within args.length)
      (refused : (d.program name kind shape code).bind d.code args = .error e) :
      e.Blames 0 args := by
    rw [inside within, Definition.code_eq_error] at refused
    exact Signature.decode_eq_error within.1 refused
  refine ⟨⟨?_, ?_⟩, fun within => ⟨fun prog => ?_, fun e => blames within⟩,
    Signature.min_le_iff, ?_, Signature.max_eq_of_positional, ?_⟩
  next =>
    rintro ⟨_, _, _, refused⟩ within
    obtain ⟨_, _, _, -, ⟨⟩⟩ := blames within refused
  next =>
    intro outside
    have refused : ¬ (d.program name kind shape code).arity.accepts args.length = true :=
      fun accepted => outside (Arity.accepts_iff.1 accepted)
    exact ⟨_, _, _, if_neg refused⟩
  next => rw [inside within, Definition.code_eq_ok]
  next =>
    intro short a decoded
    have enough := (Signature.decode_eq_ok.1 decoded).min_le
    omega
  next => exact fun variadic => Signature.within_of_variadic variadic args.length

end PluginHost
