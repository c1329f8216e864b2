import PluginHost.Json.Print
import PluginHost.Json.Read

/-!
Strings and integers are read back as they are written, whatever comes after them.
-/

set_option autoImplicit false

namespace PluginHost.Json

theorem hexValue_hexDigit : ∀ n < 16, hexValue (hexDigit n) = some n := by
  decide

theorem hexDigit_ne_newline : ∀ n < 16, hexDigit n ≠ '\n' := by
  decide

theorem byteLength_cons (c : Char) (cs : List Char) :
    byteLength (c :: cs) = c.utf8Size + byteLength cs := rfl

theorem readHex_hexDigits {n : Nat} (small : n < 256) (o : Nat) (rest : List Char) :
    readHex ⟨o, '0' :: '0' :: hexDigit (n / 16) :: hexDigit (n % 16) :: rest⟩ =
      .ok (n, ⟨o + 4, rest⟩) := by
  have enough : ¬ byteLength ('0' :: '0' :: hexDigit (n / 16) :: hexDigit (n % 16) :: rest) < 4 := by
    have high := (hexDigit (n / 16)).utf8Size_pos
    have low := (hexDigit (n % 16)).utf8Size_pos
    have zero : '0'.utf8Size = 1 := rfl
    simp only [byteLength_cons, zero]
    omega
  have zero : hexValue '0' = some 0 := rfl
  have high := hexValue_hexDigit (n / 16) (by omega)
  have low := hexValue_hexDigit (n % 16) (by omega)
  have whole : ((0 * 16 + 0) * 16 + n / 16) * 16 + n % 16 = n := by omega
  simp only [readHex, if_neg enough, zero, high, low, whole]

theorem readUnicode_hexDigits (c : Char) (control : c.toNat < 32) (o : Nat) (rest : List Char) :
    readUnicode ⟨o, '0' :: '0' :: hexDigit (c.toNat / 16) :: hexDigit (c.toNat % 16) :: rest⟩ =
      .ok (c, ⟨o + 4, rest⟩) := by
  have low : ¬ (0xDC00 ≤ c.toNat ∧ c.toNat ≤ 0xDFFF) := by omega
  have high : ¬ (0xD800 ≤ c.toNat ∧ c.toNat ≤ 0xDBFF) := by omega
  simp only [readUnicode, readHex_hexDigits (by omega : c.toNat < 256), bind, Except.bind,
    if_neg low, if_neg high, Char.ofNat_toNat]

theorem readString_escapeChar (c : Char) (steps o : Nat) (rest acc : List Char) :
    ∃ o', readString (steps + 1) ⟨o, escapeChar c ++ rest⟩ acc =
      readString steps ⟨o', rest⟩ (c :: acc) := by
  -- An escape counts as one step of the reader, however many characters it is written with.
  have only : ∀ d : Char, c.toNat = d.toNat → c = d := fun d => Char.toNat_inj.1
  unfold escapeChar
  split
  next same =>
    obtain rfl := only '\x08' same
    exact ⟨_, rfl⟩
  next same =>
    obtain rfl := only '\t' same
    exact ⟨_, rfl⟩
  next same =>
    obtain rfl := only '\n' same
    exact ⟨_, rfl⟩
  next same =>
    obtain rfl := only '\x0c' same
    exact ⟨_, rfl⟩
  next same =>
    obtain rfl := only '\r' same
    exact ⟨_, rfl⟩
  next same =>
    obtain rfl := only '"' same
    exact ⟨_, rfl⟩
  next same =>
    obtain rfl := only '\\' same
    exact ⟨_, rfl⟩
  next quote backslash =>
    by_cases control : c.toNat < 32
    · have read := readUnicode_hexDigits c control (o + 1 + 1) rest
      refine ⟨o + 1 + 1 + 4, ?_⟩
      rw [if_pos control]
      simp only [List.cons_append, List.nil_append, readString, readEscape, Cursor.next,
        show '\\'.utf8Size = 1 from rfl, show 'u'.utf8Size = 1 from rfl, read,
        show ('\\' = '"') = False from by decide, if_true, if_false]
    · have notQuote : c ≠ '"' := fun same => quote (same ▸ rfl)
      have notBackslash : c ≠ '\\' := fun same => backslash (same ▸ rfl)
      refine ⟨o + c.utf8Size, ?_⟩
      rw [if_neg control]
      simp only [List.cons_append, List.nil_append, readString, notQuote, notBackslash, control,
        if_false, Cursor.next]

theorem readString_escaped (cs : List Char) {steps : Nat} (enough : cs.length < steps) (o : Nat)
    (rest acc : List Char) :
    ∃ o', readString steps ⟨o, cs.flatMap escapeChar ++ '"' :: rest⟩ acc =
      .ok (String.ofList (acc.reverse ++ cs), ⟨o', rest⟩) := by
  induction cs generalizing steps o acc with
  | nil =>
    obtain ⟨steps, rfl⟩ := Nat.exists_eq_add_one_of_ne_zero (Nat.ne_of_gt enough)
    exact ⟨o + 1, by simp [readString, Cursor.next, show '"'.utf8Size = 1 from rfl]⟩
  | cons c cs ih =>
    obtain ⟨steps, rfl⟩ := Nat.exists_eq_add_one_of_ne_zero (Nat.ne_of_gt (Nat.zero_lt_of_lt enough))
    obtain ⟨o', first⟩ := readString_escapeChar c steps o (cs.flatMap escapeChar ++ '"' :: rest) acc
    obtain ⟨o'', later⟩ := ih (Nat.lt_of_succ_lt_succ enough) o' (c :: acc)
    refine ⟨o'', ?_⟩
    rw [List.flatMap_cons, List.append_assoc, first, later]
    simp

theorem length_le_length_flatMap (cs : List Char) :
    cs.length ≤ (cs.flatMap escapeChar).length := by
  induction cs with
  | nil => simp
  | cons c cs ih =>
    have some : 1 ≤ (escapeChar c).length := by
      unfold escapeChar
      split <;> try simp
      split <;> simp
    simp only [List.flatMap_cons, List.length_append, List.length_cons]
    omega

/-- What comes next does not go on with a number. -/
def Ends (rest : List Char) : Prop :=
  ∀ c ∈ rest.head?, c.isDigit = false ∧ c ≠ '.' ∧ c ≠ 'e' ∧ c ≠ 'E'

theorem Ends.nil : Ends [] := nofun

theorem Ends.peekDigit {rest : List Char} (ends : Ends rest) (o : Nat) :
    Cursor.peekDigit ⟨o, rest⟩ = none := by
  cases rest with
  | nil => rfl
  | cons c rest => simp [Cursor.peekDigit, (ends c rfl).1]

theorem peekDigit_cons {c : Char} (digit : c.isDigit = true) (o : Nat) (rest : List Char) :
    Cursor.peekDigit ⟨o, c :: rest⟩ = some (c.toNat - 48) := by
  simp [Cursor.peekDigit, digit]

theorem le_ofDigitChars (ds : List Char) (v : Nat) : v ≤ Nat.ofDigitChars 10 ds v := by
  induction ds generalizing v with
  | nil => simp
  | cons d ds ih =>
    rw [Nat.ofDigitChars_cons]
    exact Nat.le_trans (by omega) (ih _)

theorem readSignificand_digits {ds rest : List Char} {v steps : Nat}
    (digits : ∀ d ∈ ds, d.isDigit = true) (fits : Nat.ofDigitChars 10 ds v < Word.size)
    (ends : Ends rest) (enough : ds.length ≤ steps) (count o : Nat) :
    ∃ o', readSignificand steps v count ⟨o, ds ++ rest⟩ =
      (Nat.ofDigitChars 10 ds v, count + ds.length, ⟨o', rest⟩) := by
  induction ds generalizing v steps count o with
  | nil =>
    refine ⟨o, ?_⟩
    cases steps with
    | zero => simp [readSignificand]
    | succ steps => simp [readSignificand, ends.peekDigit]
  | cons d ds ih =>
    obtain ⟨steps, rfl⟩ := Nat.exists_eq_add_one_of_ne_zero
      (Nat.ne_of_gt (Nat.lt_of_lt_of_le ds.length.succ_pos enough))
    rw [Nat.ofDigitChars_cons] at fits
    -- The number only grows, so no digit before the last makes it too large either.
    have below := Nat.lt_of_le_of_lt (le_ofDigitChars ds _) fits
    have same : v * 10 + (d.toNat - 48) = 10 * v + (d.toNat - '0'.toNat) := by
      rw [Nat.mul_comm]
      rfl
    obtain ⟨o', later⟩ := ih (fun e member => digits e (.tail d member)) fits
      (Nat.le_of_succ_le_succ enough) (count + 1) (o + d.utf8Size)
    refine ⟨o', ?_⟩
    simp only [List.cons_append, readSignificand, peekDigit_cons (digits d List.mem_cons_self), same,
      below, if_true, Cursor.skip, Cursor.next, later, Nat.ofDigitChars_cons, List.length_cons]
    rw [Nat.add_assoc, Nat.add_comm 1]

theorem skipDigits_of_ends {rest : List Char} (ends : Ends rest) (steps count o : Nat) :
    skipDigits steps count ⟨o, rest⟩ = (count, ⟨o, rest⟩) := by
  cases steps with
  | zero => rfl
  | succ steps => simp [skipDigits, ends.peekDigit]

theorem toDigits_head {n : Nat} (positive : 0 < n) : (Nat.toDigits 10 n).head? ≠ some '0' := by
  induction n using Nat.strongRecOn with
  | _ n ih =>
    rw [Nat.toDigits_eq_if (by decide)]
    by_cases small : n < 10
    · simp [small, Nat.ne_of_gt positive]
    · have smaller := ih (n / 10) (by omega) (by omega)
      rw [if_neg small]
      cases digits : Nat.toDigits 10 (n / 10) with
      | nil => exact absurd digits Nat.toDigits_ne_nil
      | cons d ds => simpa [digits] using smaller

theorem readNumber_toDigits {n : Nat} (fits : n < Word.size) {rest : List Char} (ends : Ends rest)
    (positive : Bool) (o : Nat) :
    ∃ o', readNumber positive ⟨o, Nat.toDigits 10 n ++ rest⟩ =
      .ok (integerOf positive n, ⟨o', rest⟩) := by
  have digits : ∀ d ∈ Nat.toDigits 10 n, d.isDigit = true :=
    fun d => Nat.isDigit_of_mem_toDigits (by decide) (by decide)
  have value : Nat.ofDigitChars 10 (Nat.toDigits 10 n) 0 = n :=
    Nat.ofDigitChars_toDigits (by decide) (by decide)
  have enough : (Nat.toDigits 10 n).length ≤ (Nat.toDigits 10 n ++ rest).length := by simp
  obtain ⟨o', read⟩ := readSignificand_digits digits (by rwa [value]) ends enough 0 o
  rw [value] at read
  refine ⟨o', ?_⟩
  cases whole : Nat.toDigits 10 n with
  | nil => exact absurd whole Nat.toDigits_ne_nil
  | cons d ds =>
    -- Digits after a leading zero are refused, and only zero itself begins with one.
    have alone : d = '0' → ds = [] := by
      rintro rfl
      rcases Nat.eq_zero_or_pos n with rfl | positive
      · simpa using whole.symm
      · exact absurd (by rw [whole]; rfl) (toDigits_head positive)
    have notPadded : ¬ (d = '0' ∧ (Cursor.peekDigit ⟨o + d.utf8Size, ds ++ rest⟩).isSome = true) := by
      rintro ⟨zero, more⟩
      rw [alone zero, List.nil_append, ends.peekDigit] at more
      nomatch more
    have digit : d.isDigit = true := digits d (by rw [whole]; exact List.mem_cons_self)
    rw [whole, List.cons_append] at read
    simp only [List.cons_append, readNumber, digit, Cursor.skip, Cursor.next, notPadded, read,
      skipDigits_of_ends ends, Bool.not_true, Bool.false_eq_true, if_false, if_true]
    -- Neither a fraction nor an exponent comes next, so an integer is what was read.
    cases rest with
    | nil => rfl
    | cons c rest =>
      obtain ⟨-, point, lower, upper⟩ := ends c rfl
      split
      · next same => exact absurd (List.cons.inj same).1 point
      · next same => exact absurd (List.cons.inj same).1 lower
      · next same => exact absurd (List.cons.inj same).1 upper
      · rfl

end PluginHost.Json
