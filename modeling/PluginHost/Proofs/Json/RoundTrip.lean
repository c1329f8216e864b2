import PluginHost.Proofs.Json.Literals
import PluginHost.Proofs.Json.Ordered

/-!
A value without doubles that is not nested too deeply is read back as it is printed, whatever
blanks come after it.
-/

set_option autoImplicit false

namespace PluginHost.Json

mutual
/-- No number in the value is a double. -/
def Integral : Json → Prop
  | .number (.double _) => False
  | .array items => IntegralItems items
  | .object fields => IntegralFields fields
  | _ => True

def IntegralItems : List Json → Prop
  | [] => True
  | v :: rest => v.Integral ∧ IntegralItems rest

def IntegralFields : List (String × Json) → Prop
  | [] => True
  | (_, v) :: rest => v.Integral ∧ IntegralFields rest
end

theorem integralItems_iff {items : List Json} :
    IntegralItems items ↔ ∀ v ∈ items, v.Integral := by
  induction items with
  | nil => simp [IntegralItems]
  | cons v rest ih => simp [IntegralItems, ih]

theorem integral_array_iff {items : List Json} :
    (array items).Integral ↔ ∀ v ∈ items, v.Integral := by
  rw [Integral, integralItems_iff]

/-- The text begins with the token `t`, and `rest` comes after it. -/
inductive Begins : (text : List Char) → (t : Token) → (rest : List Char) → Prop where
  | token {c : Char} {more rest : List Char} {t : Token} (notBlank : isBlank c = false)
      (shorter : rest.length ≤ more.length)
      (reads : ∀ o, ∃ o', tokenAt c ⟨o, c :: more⟩ ⟨o + c.utf8Size, more⟩ = (t, ⟨o', rest⟩)) :
      Begins (c :: more) t rest

theorem begins_string (s : String) (rest : List Char) :
    Begins (quoteChars s ++ rest) (.string s) rest := by
  have text : quoteChars s ++ rest = '"' :: (s.toList.flatMap escapeChar ++ '"' :: rest) := by
    simp [quoteChars]
  have short := length_le_length_flatMap s.toList
  rw [text]
  refine .token rfl (by simp; omega) fun o => ?_
  have enough : s.toList.length < (s.toList.flatMap escapeChar ++ '"' :: rest).length + 1 := by
    simp only [List.length_append]
    omega
  obtain ⟨o', read⟩ := readString_escaped s.toList enough (o + '"'.utf8Size) rest []
  refine ⟨o', ?_⟩
  simp only [tokenAt, stringToken, read]
  simp

theorem tokenAt_digit {c : Char} (digit : c.isDigit = true) (before after : Cursor) :
    tokenAt c before after = numberToken true before := by
  unfold tokenAt
  split <;> first | exact absurd digit (by decide) | simp [digit]

theorem isBlank_digit {c : Char} (digit : c.isDigit = true) : isBlank c = false := by
  have ne : ∀ d : Char, d.isDigit = false → c ≠ d := by
    rintro d no rfl
    simp [digit] at no
  simp [isBlank, ne ' ' rfl, ne '\n' rfl, ne '\t' rfl, ne '\r' rfl]

theorem ofInt_val (n : WideInt) : Number.ofInt n.val = .integer n := by
  rw [Number.ofInt, WideInt.ofInt?, dif_pos ⟨n.lower, n.upper⟩]

theorem numberToken_toDigits {n : Nat} (fits : n < Word.size) {rest : List Char} (ends : Ends rest)
    (positive : Bool) (o : Nat) :
    ∃ o', numberToken positive ⟨o, Nat.toDigits 10 n ++ rest⟩ =
      (.scalar (.number (integerOf positive n)), ⟨o', rest⟩) := by
  obtain ⟨o', read⟩ := readNumber_toDigits fits ends positive o
  exact ⟨o', by rw [numberToken, read]⟩

theorem begins_integer (n : WideInt) {rest : List Char} (ends : Ends rest) :
    Begins ((Number.integer n).toText.toList ++ rest) (.scalar (.number (.integer n))) rest := by
  have lower : -0x8000000000000000 ≤ n.val := n.lower
  have upper : n.val < 0x10000000000000000 := n.upper
  rw [Number.toText, Int.toString_eq_repr, Int.repr_eq_if]
  by_cases natural : 0 ≤ n.val
  · have fits : n.val.toNat < 0x10000000000000000 := by omega
    have read : integerOf true n.val.toNat = .integer n := by
      rw [integerOf, if_pos rfl, Int.toNat_of_nonneg natural, ofInt_val]
    rw [if_pos natural, Nat.toList_repr]
    cases whole : Nat.toDigits 10 n.val.toNat with
    | nil => exact absurd whole Nat.toDigits_ne_nil
    | cons d ds =>
      have first : d ∈ Nat.toDigits 10 n.val.toNat := whole ▸ List.mem_cons_self
      have digit := Nat.isDigit_of_mem_toDigits (by decide) (by decide) first
      rw [List.cons_append]
      refine .token (isBlank_digit digit) (by simp) fun o => ?_
      rw [tokenAt_digit digit, ← List.cons_append, ← whole, ← read]
      exact numberToken_toDigits fits ends true o
  · -- A negative integer is a sign before the digits of its opposite.
    have fits : (-n.val).toNat < 0x10000000000000000 := by omega
    have read : integerOf false (-n.val).toNat = .integer n := by
      have inRange : ¬ ((-n.val).toNat = 0 ∨ 0x8000000000000000 < (-n.val).toNat) := by omega
      have same : -((-n.val).toNat : Int) = n.val := by omega
      rw [integerOf, if_neg Bool.false_ne_true, if_neg inRange, same, ofInt_val]
    rw [if_neg natural, String.toList_append, Nat.toList_repr]
    refine .token rfl (by simp) fun o => ?_
    rw [← read]
    exact numberToken_toDigits fits ends false _

/-- A mark is one character, and what it is does not depend on what follows. -/
theorem begins_mark {c : Char} {t : Token} (mark : isBlank c = false)
    (reads : ∀ before after, tokenAt c before after = (t, after)) (rest : List Char) :
    Begins (c :: rest) t rest :=
  .token mark (Nat.le_refl _) fun _ => ⟨_, reads _ _⟩

/-- The machine goes on from the text to what comes after a part of it, in another state. -/
def Advances (m : Machine) (text : List Char) (m' : Machine) (rest : List Char) : Prop :=
  ∀ o steps, text.length ≤ steps → ∃ o' steps', rest.length ≤ steps' ∧
    m.run (tokens steps ⟨o, text⟩) = m'.run (tokens steps' ⟨o', rest⟩)

namespace Advances

variable {m m' m'' : Machine} {text rest last : List Char}

theorem trans (first : Advances m text m' rest) (second : Advances m' rest m'' last) :
    Advances m text m'' last := by
  intro o steps enough
  obtain ⟨o', steps', enough, run⟩ := first o steps enough
  obtain ⟨o'', steps'', enough, run'⟩ := second o' steps' enough
  exact ⟨o'', steps'', enough, run.trans run'⟩

theorem token {t : Token} (begins : Begins text t rest) (step : ∀ o, m.step t o = .ok m') :
    Advances m text m' rest := by
  obtain ⟨notBlank, shorter, reads⟩ := begins
  intro o steps enough
  obtain ⟨steps, rfl⟩ := Nat.exists_eq_add_one_of_ne_zero
    (Nat.ne_of_gt (Nat.lt_of_lt_of_le (Nat.succ_pos _) enough))
  obtain ⟨o', read⟩ := reads o
  refine ⟨o', steps, Nat.le_trans shorter (Nat.le_of_succ_le_succ enough), ?_⟩
  simp only [tokens, notBlank, Bool.false_eq_true, if_false, Cursor.next, read, Machine.run, step]

theorem mark {c : Char} (t : Token) (notBlank : isBlank c = false)
    (reads : ∀ before after, tokenAt c before after = (t, after))
    (step : ∀ o, m.step t o = .ok m') : Advances m (c :: rest) m' rest :=
  .token (begins_mark notBlank reads rest) step

end Advances

/-- Whether a value may come next. -/
def Machine.TakesValue (m : Machine) : Prop :=
  m.expect = .value ∨ m.expect = .firstItem ∨ m.expect = .nextItem

theorem Machine.TakesValue.step {m : Machine} (takes : m.TakesValue) {t : Token}
    (opens : t ≠ .closeList) (o : Nat) : m.step t o = Machine.value m.stack t o := by
  obtain ⟨expect, stack, result⟩ := m
  rcases takes with rfl | rfl | rfl <;> cases t <;> first | rfl | exact absurd rfl opens

theorem ends_charsItems (items : List Json) (rest : List Char) : Ends (charsItems items ++ rest) := by
  cases items <;> simp [charsItems, Ends, Char.isDigit]

theorem ends_charsFields (fields : List (String × Json)) (rest : List Char) :
    Ends (charsFields fields ++ rest) := by
  cases fields <;> simp [charsFields, Ends, Char.isDigit]

/-- A key takes the machine to the value of its member. -/
theorem advances_key {m : Machine} (wants : m.expect = .firstKey ∨ m.expect = .nextKey)
    {held : List (String × Json)} {before : String} {stack : List Open}
    (stacked : m.stack = .object held before :: stack) (key : String) (rest : List Char) :
    Advances m (quoteChars key ++ ':' :: rest) ⟨.value, .object held key :: stack, .null⟩ rest := by
  obtain ⟨expect, _, result⟩ := m
  obtain rfl : _ = _ := stacked
  have named : Advances ⟨expect, .object held before :: stack, result⟩ (quoteChars key ++ ':' :: rest)
      ⟨.colon key, .object held before :: stack, .null⟩ (':' :: rest) := by
    refine .token (begins_string key _) fun o => ?_
    rcases wants with rfl | rfl <;> rfl
  exact named.trans (.mark .colon rfl (fun _ _ => rfl) fun _ => rfl)

theorem advances_openList {m : Machine} (takes : m.TakesValue)
    (shallow : m.stack.length < nestingLimit) (rest : List Char) :
    Advances m ('[' :: rest) ⟨.firstItem, .list [] :: m.stack, .null⟩ rest :=
  .mark .openList rfl (fun _ _ => rfl) fun o => by
    rw [takes.step (t := .openList) nofun, Machine.value, if_pos shallow]

theorem advances_openObject {m : Machine} (takes : m.TakesValue)
    (shallow : m.stack.length < nestingLimit) (rest : List Char) :
    Advances m ('\x7b' :: rest) ⟨.firstKey, .object [] "" :: m.stack, .null⟩ rest :=
  .mark .openObject rfl (fun _ _ => rfl) fun o => by
    rw [takes.step (t := .openObject) nofun, Machine.value, if_pos shallow]

mutual
-- By recursion on the value. Inside a container the stack is one longer and the depth one less.
theorem advances_value : (v : Json) → v.Integral → ∀ {m : Machine}, m.TakesValue →
    m.stack.length + v.depth ≤ nestingLimit → ∀ {rest : List Char}, Ends rest →
    Advances m (v.chars ++ rest) (Machine.close v m.stack) rest
  | .null, _, m, takes, _, rest, _ => by
    have begins : Begins ("null".toList ++ rest) (.scalar .null) rest :=
      .token rfl (by simp; omega) fun _ => ⟨_, rfl⟩
    exact .token begins (takes.step nofun)
  | .bool true, _, m, takes, _, rest, _ => by
    have begins : Begins ("true".toList ++ rest) (.scalar (.bool true)) rest :=
      .token rfl (by simp; omega) fun _ => ⟨_, rfl⟩
    exact .token begins (takes.step nofun)
  | .bool false, _, m, takes, _, rest, _ => by
    have begins : Begins ("false".toList ++ rest) (.scalar (.bool false)) rest :=
      .token rfl (by simp; omega) fun _ => ⟨_, rfl⟩
    exact .token begins (takes.step nofun)
  | .number (.integer n), _, m, takes, _, rest, ends =>
    .token (begins_integer n ends) (takes.step nofun)
  | .string s, _, m, takes, _, rest, _ => .token (begins_string s rest) (takes.step nofun)
  | .array [], _, m, takes, shallow, rest, _ => by
    rw [depth, depthItems] at shallow
    have opened := advances_openList takes (by omega) (']' :: rest)
    exact opened.trans (.mark .closeList rfl (fun _ _ => rfl) fun _ => rfl)
  | .array (v :: items), integral, m, takes, shallow, rest, _ => by
    rw [depth, depthItems] at shallow
    simp only [chars, List.cons_append, List.append_assoc]
    have opened := advances_openList takes (by omega) (v.chars ++ (charsItems items ++ rest))
    have first := advances_value v integral.1 (m := ⟨.firstItem, .list [] :: m.stack, .null⟩)
      (.inr (.inl rfl)) (by simp; omega) (ends_charsItems items rest)
    have others := advances_items items integral.2 [v] m.stack (by omega) rest
    exact opened.trans (first.trans others)
  | .object [], _, m, takes, shallow, rest, _ => by
    rw [depth, depthFields] at shallow
    have opened := advances_openObject takes (by omega) ('\x7d' :: rest)
    exact opened.trans (.mark .closeObject rfl (fun _ _ => rfl) fun _ => rfl)
  | .object ((key, v) :: fields), integral, m, takes, shallow, rest, _ => by
    rw [depth, depthFields] at shallow
    simp only [chars, List.cons_append, List.append_assoc]
    have opened := advances_openObject takes (by omega)
      (quoteChars key ++ (':' :: (v.chars ++ (charsFields fields ++ rest))))
    have named := advances_key (m := ⟨.firstKey, .object [] "" :: m.stack, .null⟩) (.inl rfl) rfl key
      (v.chars ++ (charsFields fields ++ rest))
    have first := advances_value v integral.1 (m := ⟨.value, .object [] key :: m.stack, .null⟩)
      (.inl rfl) (by simp; omega) (ends_charsFields fields rest)
    have others := advances_fields fields integral.2 [(key, v)] m.stack (by omega) rest
    exact opened.trans (named.trans (first.trans others))

/-- `held` are the items before, latest first. -/
theorem advances_items : (items : List Json) → IntegralItems items → ∀ (held : List Json)
    (stack : List Open), stack.length + 1 + depthItems items ≤ nestingLimit → ∀ rest : List Char,
    Advances ⟨.separator, .list held :: stack, .null⟩ (charsItems items ++ rest)
      (Machine.close (.array (held.reverse ++ items)) stack) rest
  | [], _, held, stack, _, rest => by
    rw [List.append_nil]
    exact .mark .closeList rfl (fun _ _ => rfl) fun _ => rfl
  | v :: items, integral, held, stack, shallow, rest => by
    rw [depthItems] at shallow
    simp only [charsItems, List.cons_append, List.append_assoc]
    have comma : Advances ⟨.separator, .list held :: stack, .null⟩
        (',' :: (v.chars ++ (charsItems items ++ rest))) ⟨.nextItem, .list held :: stack, .null⟩ _ :=
      .mark .comma rfl (fun _ _ => rfl) fun _ => rfl
    have next := advances_value v integral.1 (m := ⟨.nextItem, .list held :: stack, .null⟩)
      (.inr (.inr rfl)) (by simp; omega) (ends_charsItems items rest)
    have others := advances_items items integral.2 (v :: held) stack (by omega) rest
    rw [List.reverse_cons, List.append_assoc] at others
    exact comma.trans (next.trans others)

theorem advances_fields : (fields : List (String × Json)) → IntegralFields fields →
    ∀ (held : List (String × Json)) (stack : List Open),
    stack.length + 1 + depthFields fields ≤ nestingLimit → ∀ rest : List Char,
    Advances ⟨.separator, .object held "" :: stack, .null⟩ (charsFields fields ++ rest)
      (Machine.close (.object (held.reverse ++ fields)) stack) rest
  | [], _, held, stack, _, rest => by
    rw [List.append_nil]
    exact .mark .closeObject rfl (fun _ _ => rfl) fun _ => rfl
  | (key, v) :: fields, integral, held, stack, shallow, rest => by
    rw [depthFields] at shallow
    simp only [charsFields, List.cons_append, List.append_assoc]
    have comma : Advances ⟨.separator, .object held "" :: stack, .null⟩
        (',' :: (quoteChars key ++ (':' :: (v.chars ++ (charsFields fields ++ rest)))))
        ⟨.nextKey, .object held "" :: stack, .null⟩ _ :=
      .mark .comma rfl (fun _ _ => rfl) fun _ => rfl
    have named := advances_key (m := ⟨.nextKey, .object held "" :: stack, .null⟩) (.inr rfl) rfl key
      (v.chars ++ (charsFields fields ++ rest))
    have next := advances_value v integral.1 (m := ⟨.value, .object held key :: stack, .null⟩)
      (.inl rfl) (by simp; omega) (ends_charsFields fields rest)
    have others := advances_fields fields integral.2 ((key, v) :: held) stack (by omega) rest
    rw [List.reverse_cons, List.append_assoc] at others
    exact comma.trans (named.trans (next.trans others))
end

theorem ends_of_blank {rest : List Char} (blank : ∀ c ∈ rest, isBlank c = true) : Ends rest := by
  cases rest with
  | nil => exact .nil
  | cons c rest =>
    have marks : ((c = ' ' ∨ c = '\n') ∨ c = '\t') ∨ c = '\r' := by
      simpa [isBlank] using blank c List.mem_cons_self
    intro d first
    obtain rfl : c = d := Option.some.inj first
    obtain ((rfl | rfl) | rfl) | rfl := marks <;> decide

theorem tokens_of_blank {rest : List Char} (blank : ∀ c ∈ rest, isBlank c = true) (steps o : Nat) :
    tokens steps ⟨o, rest⟩ = [] := by
  induction rest generalizing steps o with
  | nil => cases steps <;> rfl
  | cons c rest ih =>
    obtain ⟨first, others⟩ := List.forall_mem_cons.1 blank
    cases steps with
    | zero => rfl
    | succ steps => simp [tokens, first, Cursor.next, ih others]

theorem readChars_chars {v : Json} (integral : v.Integral) (shallow : v.depth ≤ nestingLimit)
    {rest : List Char} (blank : ∀ c ∈ rest, isBlank c = true) : readChars (v.chars ++ rest) = .ok v := by
  have advances := advances_value v integral (m := .start) (.inl rfl) (by simpa [Machine.start])
    (ends_of_blank blank)
  obtain ⟨o, steps, -, run⟩ := advances 0 (v.chars ++ rest).length (Nat.le_refl _)
  rw [tokens_of_blank blank] at run
  simp only [readChars, run]
  rfl

theorem parse_render_append {v : Json} (ordered : v.Ordered) (integral : v.Integral)
    (shallow : v.depth ≤ nestingLimit) (blanks : String)
    (blank : ∀ c ∈ blanks.toList, isBlank c = true) : parse (v.render ++ blanks) = .ok v := by
  have read := readChars_chars integral shallow blank
  rw [parse, parseRaw, render, String.toList_append, String.toList_ofList, read]
  exact congrArg Except.ok (canonical_eq_self v ordered)

end PluginHost.Json
