import PluginHost.Proofs.Json.RoundTrip

/-!
The text of a value is one line: what its strings hold is escaped, and nothing else breaks a line.
-/

set_option autoImplicit false

namespace PluginHost.Json

theorem newline_not_mem_escapeChar (c : Char) : '\n' ∉ escapeChar c := by
  unfold escapeChar
  split
  next => decide
  next => decide
  next => decide
  next => decide
  next => decide
  next => decide
  next => decide
  next =>
    by_cases control : c.toNat < 32
    · have high := hexDigit_ne_newline (c.toNat / 16) (by omega)
      have low := hexDigit_ne_newline (c.toNat % 16) (by omega)
      simp [control, high.symm, low.symm]
    · have other : c ≠ '\n' := by
        rintro rfl
        exact control (by decide)
      simp [control, other.symm]

theorem newline_not_mem_quoteChars (s : String) : '\n' ∉ quoteChars s := by
  simp [quoteChars, newline_not_mem_escapeChar]

theorem newline_not_mem_toDigits (n : Nat) : '\n' ∉ Nat.toDigits 10 n := fun member =>
  absurd (Nat.isDigit_of_mem_toDigits (by decide) (by decide) member) (by decide)

theorem newline_not_mem_toText (n : WideInt) : '\n' ∉ (Number.integer n).toText.toList := by
  rw [Number.toText, Int.toString_eq_repr, Int.repr_eq_if]
  split
  · rw [Nat.toList_repr]
    exact newline_not_mem_toDigits _
  · rw [String.toList_append, Nat.toList_repr]
    simp [newline_not_mem_toDigits]

mutual
theorem newline_not_mem_chars : (v : Json) → v.Integral → '\n' ∉ v.chars
  | .null, _ => by decide
  | .bool true, _ => by decide
  | .bool false, _ => by decide
  | .number (.integer n), _ => newline_not_mem_toText n
  | .string s, _ => newline_not_mem_quoteChars s
  | .array [], _ => by decide
  | .array (v :: rest), integral => by
    simp [chars, newline_not_mem_chars v integral.1, newline_not_mem_charsItems rest integral.2]
  | .object [], _ => by decide
  | .object ((k, v) :: rest), integral => by
    simp [chars, newline_not_mem_quoteChars, newline_not_mem_chars v integral.1,
      newline_not_mem_charsFields rest integral.2]

theorem newline_not_mem_charsItems : (items : List Json) → IntegralItems items →
    '\n' ∉ charsItems items
  | [], _ => by decide
  | v :: rest, integral => by
    simp [charsItems, newline_not_mem_chars v integral.1, newline_not_mem_charsItems rest integral.2]

theorem newline_not_mem_charsFields : (fields : List (String × Json)) → IntegralFields fields →
    '\n' ∉ charsFields fields
  | [], _ => by decide
  | (k, v) :: rest, integral => by
    simp [charsFields, newline_not_mem_quoteChars, newline_not_mem_chars v integral.1,
      newline_not_mem_charsFields rest integral.2]
end

theorem exists_charsItems (items : List Json) : ∃ body, charsItems items = body ++ [']'] := by
  induction items with
  | nil => exact ⟨[], rfl⟩
  | cons v rest ih =>
    obtain ⟨body, same⟩ := ih
    exact ⟨',' :: v.chars ++ body, by simp [charsItems, same]⟩

theorem exists_chars_list (items : List Json) : ∃ body, (array items).chars = body ++ [']'] := by
  cases items with
  | nil => exact ⟨['['], rfl⟩
  | cons v rest =>
    obtain ⟨body, same⟩ := exists_charsItems rest
    exact ⟨'[' :: v.chars ++ body, by simp [chars, same]⟩

end PluginHost.Json
