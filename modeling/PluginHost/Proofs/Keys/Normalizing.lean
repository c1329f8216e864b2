import Mathlib.Data.List.Forall2
import PluginHost.Keys.Mapping

/-!
Key sequences in the editor's notation. A word that spells modifiers and a key becomes that key with
the marks of its modifiers. A part that names no modifier leaves no mark.
-/

set_option autoImplicit false

namespace PluginHost

namespace Text

theorem splitOn_eq_splitOnP (separates : Char → Bool) (cs : List Char) :
    splitOn separates cs = cs.splitOnP separates := by
  induction cs with
  | nil => simp [splitOn]
  | cons c rest ih =>
    rw [List.splitOnP_cons_eq_if_modifyHead, splitOn, ih]
    by_cases separator : separates c = true
    next => simp [separator]
    next =>
      cases parts : rest.splitOnP separates with
      | nil => exact absurd parts (List.splitOnP_ne_nil _ _)
      | cons part more => simp [separator]

/-- The text is the words with blanks before, between and after them. -/
inductive Spaced : List Char → List (List Char) → Prop
  | nil : Spaced [] []
  | blank {c : Char} {cs : List Char} {ws : List (List Char)} (blank : isBlank c = true)
      (rest : Spaced cs ws) : Spaced (c :: cs) ws
  | word {w cs : List Char} {ws : List (List Char)} (some_char : w ≠ [])
      (solid : ∀ c ∈ w, isBlank c = false) (ends : ∀ c ∈ cs.head?, isBlank c = true)
      (rest : Spaced cs ws) : Spaced (w ++ cs) (w :: ws)

theorem spaced_pieces (cs piece : List Char) (solid : ∀ c ∈ piece, isBlank c = false) :
    Spaced (piece.reverse ++ cs) (pieces isBlank cs piece) := by
  have solid_reverse : ∀ {piece : List Char}, (∀ c ∈ piece, isBlank c = false) →
      ∀ c ∈ piece.reverse, isBlank c = false := by
    intro piece solid c member
    exact solid c (List.mem_reverse.1 member)
  induction cs generalizing piece with
  | nil =>
    cases piece with
    | nil => exact .nil
    | cons d piece => exact .word (by simp) (solid_reverse solid) (by simp) .nil
  | cons c rest ih =>
    by_cases blank : isBlank c = true
    next =>
      have later : Spaced (c :: rest) (pieces isBlank rest []) :=
        .blank blank (ih [] (by simp))
      cases piece with
      | nil => simpa [pieces, blank] using later
      | cons d piece =>
        simpa [pieces, blank] using
          Spaced.word (by simp) (solid_reverse solid) (by simpa using blank) later
    next =>
      have longer := ih (c :: piece) (by simpa [blank] using solid)
      simpa [pieces, blank] using longer

theorem spaced_words (text : String) : Spaced text.toList ((words text).map String.toList) := by
  simpa [words, Function.comp_def] using spaced_pieces text.toList [] (by simp)

theorem eq_of_ofNat_eq_plus {n : Nat} (plus : Char.ofNat n = '+') : n = 43 := by
  have code : (Char.ofNat n).toNat = 43 := congrArg Char.toNat plus
  by_cases valid : n.isValidChar
  next =>
    rw [Char.ofNat, dif_pos valid] at code
    exact code
  next =>
    have zero : (Char.ofNat n).toNat = 0 := by
      rw [Char.ofNat, dif_neg valid]
      rfl
    omega

theorem lower_plus : lower '+' = ['+'] := by decide +kernel

theorem not_plus_of_mem_lowerRuns : ∀ r ∈ lowerRuns, 43 < (r.first : Int) + r.shift := by
  decide +kernel

theorem plus_not_mem_lower {c : Char} (other : c ≠ '+') : '+' ∉ lower c := by
  intro member
  simp only [lower, changeCase] at member
  split at member
  next cs found =>
    have listed := List.mem_of_find?_eq_some found
    simp only [lowerExpansions, List.mem_singleton, Prod.mk.injEq] at listed
    simp [listed.2] at member
  next =>
    split at member
    next r found =>
      have after := not_plus_of_mem_lowerRuns r (List.mem_of_find?_eq_some found)
      have covered := List.find?_some found
      simp only [CaseRun.covers, Bool.and_eq_true, decide_eq_true_eq] at covered
      have code := eq_of_ofNat_eq_plus (List.mem_singleton.1 member).symm
      omega
    next => exact other (List.mem_singleton.1 member).symm

theorem toList_lowercase (s : String) : (lowercase s).toList = s.toList.flatMap lower := by
  simp [lowercase]

theorem plus_not_mem_lowercase {s : String} (free : '+' ∉ s.toList) :
    '+' ∉ (lowercase s).toList := by
  rw [toList_lowercase, List.mem_flatMap]
  intro ⟨c, member, plus⟩
  have other : c ≠ '+' := fun same => free (same ▸ member)
  exact plus_not_mem_lower other plus

theorem lowercase_intercalate (parts : List String) :
    lowercase ("+".intercalate parts) = "+".intercalate (parts.map lowercase) := by
  apply String.toList_injective
  induction parts with
  | nil => rfl
  | cons part rest ih =>
    by_cases last : rest = []
    next => simp [last]
    next =>
      rw [toList_lowercase] at ih
      rw [List.map_cons, String.intercalate_cons_of_ne_nil last,
        String.intercalate_cons_of_ne_nil (by simpa using last)]
      simp [toList_lowercase, lower_plus, ← ih]

theorem splitText_intercalate {parts : List String} (some_part : parts ≠ [])
    (free : ∀ part ∈ parts, '+' ∉ part.toList) :
    splitText '+' ("+".intercalate parts) = parts := by
  have split : (['+'].intercalate (parts.map String.toList)).splitOn '+' =
      parts.map String.toList :=
    List.splitOn_intercalate '+' (by simpa using free) (by simpa using some_part)
  have plus : "+".toList = ['+'] := rfl
  rw [splitText, splitOn_eq_splitOnP, String.toList_intercalate, plus]
  rw [List.splitOn] at split
  simp [split, Function.comp_def]

theorem splitText_ne_nil (separator : Char) (text : String) : splitText separator text ≠ [] := by
  simp [splitText, splitOn_eq_splitOnP]

theorem intercalate_splitText (text : String) : "+".intercalate (splitText '+' text) = text := by
  apply String.toList_injective
  have joined : ['+'].intercalate (text.toList.splitOn '+') = text.toList :=
    List.intercalate_splitOn '+'
  have plus : "+".toList = ['+'] := rfl
  rw [List.splitOn] at joined
  simp [splitText, splitOn_eq_splitOnP, plus, joined, Function.comp_def]

theorem separates_of_mem_splitOn {separates : Char → Bool} {cs : List Char} :
    ∀ part ∈ splitOn separates cs, ∀ c ∈ part, separates c = false := by
  induction cs with
  | nil => simp [splitOn]
  | cons d rest ih =>
    by_cases separator : separates d = true
    next => simpa [splitOn, separator] using ih
    next =>
      cases parts : splitOn separates rest with
      | nil => simp [splitOn, separator, parts]
      | cons part more =>
        rw [parts] at ih
        simpa [splitOn, separator, parts] using ih

theorem not_mem_of_mem_splitText {separator : Char} {text : String} :
    ∀ part ∈ splitText separator text, separator ∉ part.toList := by
  intro part member inside
  obtain ⟨letters, own, rfl⟩ := List.mem_map.1 member
  have other := separates_of_mem_splitOn letters own separator (by simpa using inside)
  simp at other

end Text

/-- The marks of the notation in their order, each with the names of its modifier. -/
def modifierMarks : List (String × List String) := [
  ("C-", ["ctrl", "control", "c"]),
  ("M-", ["alt", "option", "m", "a"]),
  ("S-", ["shift", "s"]),
  ("D-", ["meta", "cmd", "d"])]

/-- The mark of the modifier that a part of a word names, in upper or lower case. -/
def mark? (part : String) : Option String :=
  (modifierMarks.find? fun m => m.2.contains (Text.lowercase part)).map (·.1)

def marks (parts : List String) : List String :=
  (modifierMarks.map (·.1)).filter fun mark => parts.any fun part => mark? part == some mark

/-- The parts that name a modifier. -/
def modifierParts (parts : List String) : List String :=
  parts.filter fun part => (mark? part).isSome

theorem marks_modifierParts (parts : List String) : marks (modifierParts parts) = marks parts := by
  apply List.filter_congr
  intro mark _
  rw [modifierParts, List.any_filter]
  congr 1
  funext part
  cases mark? part <;> simp

theorem exists_mark_of_mark? {parts : List String} {part : String} (member : part ∈ parts)
    (known : (mark? part).isSome) : ∃ mark ∈ marks parts, mark? part = some mark := by
  obtain ⟨mark, found⟩ := Option.isSome_iff_exists.1 known
  obtain ⟨m, first, rfl⟩ := Option.map_eq_some_iff.1 found
  have listed : m.1 ∈ modifierMarks.map (·.1) :=
    List.mem_map_of_mem (List.mem_of_find?_eq_some first)
  have named : (parts.any fun part => mark? part == some m.1) = true :=
    List.any_eq_true.2 ⟨part, member, by simp [found]⟩
  exact ⟨m.1, List.mem_filter.2 ⟨listed, named⟩, found⟩

namespace Key

/-- The key as it stands in the notation, after the marks. -/
def text : Key → String
  | char c => c.toString
  | named name => name
  | function n => "F" ++ toString n

/-- The key pressed without a modifier. -/
def alone : Key → String
  | char c => c.toString
  | key => "<" ++ key.text ++ ">"

/-- The key pressed with the modifiers of these marks. -/
def pressed (key : Key) (marks : List String) : String :=
  if marks = [] then key.alone else "<" ++ String.join marks ++ key.text ++ ">"

end Key

namespace Modifiers

def flags (m : Modifiers) : List (String × Bool) :=
  [("C-", m.ctrl), ("M-", m.alt), ("S-", m.shift), ("D-", m.cmd)]

def flagged (m : Modifiers) : List String := (m.flags.filter (·.2)).map (·.1)

theorem notationText_eq_join (m : Modifiers) : m.notationText = String.join m.flagged := by
  obtain ⟨ctrl, alt, shift, cmd⟩ := m
  cases ctrl <;> cases alt <;> cases shift <;> cases cmd <;> rfl

theorem isEmpty_iff (m : Modifiers) : m.isEmpty = true ↔ m.flagged = [] := by
  obtain ⟨ctrl, alt, shift, cmd⟩ := m
  cases ctrl <;> cases alt <;> cases shift <;> cases cmd <;> decide

theorem flags_add (m : Modifiers) (part : String) :
    (m.add (Text.lowercase part)).flags =
      m.flags.map fun f => (f.1, f.2 || mark? part == some f.1) := by
  unfold add
  split <;> simp_all [flags, mark?, modifierMarks]

theorem flags_foldl (parts : List String) (m : Modifiers) :
    ((parts.map Text.lowercase).foldl add m).flags =
      m.flags.map fun f => (f.1, f.2 || parts.any fun part => mark? part == some f.1) := by
  induction parts generalizing m with
  | nil => simp
  | cons part rest ih => simp [ih, flags_add, Function.comp_def, Bool.or_assoc]

theorem flagged_parse {parts : List String} (some_part : parts ≠ [])
    (free : ∀ part ∈ parts, '+' ∉ part.toList) :
    (parse ("+".intercalate parts)).flagged = marks parts := by
  have lower_free : ∀ part ∈ parts.map Text.lowercase, '+' ∉ part.toList := by
    intro part member
    obtain ⟨written, own, rfl⟩ := List.mem_map.1 member
    exact Text.plus_not_mem_lowercase (free written own)
  have split := Text.splitText_intercalate (by simpa using some_part) lower_free
  have unset : none.flags = (modifierMarks.map (·.1)).map fun mark => (mark, false) := rfl
  rw [parse, Text.lowercase_intercalate, split, flagged, flags_foldl, unset, marks]
  simp [List.filter_map, Function.comp_def]

end Modifiers

namespace Key

theorem named?_eq_none {lower : String}
    (odd : lower.toList.length < 2 ∨ '+' ∈ lower.toList) : named? lower = none := by
  have plain : ∀ n ∈ names, ∀ name ∈ n.2, 2 ≤ name.toList.length ∧ '+' ∉ name.toList := by
    decide +kernel
  simp only [named?, Option.map_eq_none_iff, List.find?_eq_none, List.contains_iff_mem]
  intro n member named
  have writing := plain n member lower named
  obtain short | plus := odd
  next => omega
  next => exact writing.2 plus

theorem parse_empty : parse "" = none := by decide +kernel

theorem lower_singleton (c : Char) : (∃ d, Text.lower c = [d]) ∨ c = 'İ' := by
  by_cases dotted : c = 'İ'
  next => exact .inr dotted
  next =>
    have other : c.toNat ≠ 304 := fun same => dotted (Char.toNat_inj.1 same)
    have single : Text.lowerExpansions.find? (fun e => e.1 == c.toNat) = none := by
      simpa [Text.lowerExpansions] using Ne.symm other
    simp only [Text.lower, Text.changeCase, single]
    split <;> simp

theorem parse_singleton (c : Char) : parse (String.singleton c) = some (.char c) := by
  obtain ⟨d, lower⟩ | rfl := lower_singleton c
  next =>
    have chars : (Text.lowercase (String.singleton c)).toList = [d] := by
      simp [Text.toList_lowercase, lower]
    have unnamed : named? (Text.lowercase (String.singleton c)) = none :=
      named?_eq_none (.inl (by simp [chars]))
    simp [parse, unnamed, chars]
  next => decide +kernel

theorem digitsValue_eq_none {cs : List Char} (plus : '+' ∈ cs) : digitsValue cs = none := by
  have digit : '+'.isDigit = false := rfl
  have other : ¬ cs.all Char.isDigit = true := by
    rw [List.all_eq_true]
    intro all
    exact Bool.false_ne_true (digit ▸ all '+' plus)
  simp [digitsValue, other]

theorem functionNumber_plus (cs : List Char) : functionNumber (cs ++ ['+']) = none := by
  cases cs with
  | nil => rfl
  | cons c rest =>
    by_cases sign : c = '+'
    next =>
      subst sign
      exact digitsValue_eq_none (by simp)
    next =>
      have unsigned : functionNumber (c :: rest ++ ['+']) = digitsValue (c :: rest ++ ['+']) := by
        unfold functionNumber
        split
        next same => exact absurd (List.cons.inj same).1 sign
        next => rfl
      rw [unsigned]
      exact digitsValue_eq_none (by simp)

theorem parse_append_plus {before : String} (some_char : before ≠ "") :
    parse (before ++ "+") = none := by
  have chars : (Text.lowercase (before ++ "+")).toList =
      before.toList.flatMap Text.lower ++ ['+'] := by
    simp [Text.toList_lowercase, Text.lower_plus]
  have unnamed : named? (Text.lowercase (before ++ "+")) = none :=
    named?_eq_none (.inr (by simp [chars]))
  simp only [parse, unnamed]
  split
  next c rest letters =>
    -- What follows the `f` is no number, because it ends in the plus sign.
    rw [chars] at letters
    obtain ⟨-, impossible⟩ | ⟨digits, -, number⟩ := List.append_eq_cons_iff.1 letters
    next => simp at impossible
    next => simp [number, functionNumber_plus]
  next =>
    split
    next c single =>
      have short := congrArg List.length single
      simp at short
      exact absurd short some_char
    next => rfl

end Key

namespace KeyPress

theorem notationText_eq_pressed (p : KeyPress) :
    p.notationText = p.key.pressed p.modifiers.flagged := by
  have marked := p.modifiers.notationText_eq_join
  have unmarked := p.modifiers.isEmpty_iff
  obtain ⟨key, m⟩ := p
  by_cases bare : m.flagged = []
  next =>
    cases key with
    | char c => simp [notationText, Key.pressed, Key.alone, unmarked.2 bare, bare]
    | named name =>
      simp [notationText, Key.pressed, Key.alone, Key.text, marked, bare, ToString.toString]
    | function n =>
      -- Evaluated, the literals on the two sides would differ in where they are cut.
      simp [notationText, Key.pressed, Key.alone, Key.text, marked, bare, String.append_assoc,
        ToString.toString, -String.reduceAppend]
  next =>
    have some_mark : m.isEmpty = false := by simpa [bare] using unmarked
    cases key <;>
      simp [notationText, Key.pressed, Key.text, marked, some_mark, bare, String.append_assoc,
        ToString.toString]

theorem all_ne_plus {cs : List Char} (free : '+' ∉ cs) :
    ∀ c ∈ cs.reverse, (c != '+') = true := by
  intro c member
  have other : c ≠ '+' := fun same => free (same ▸ List.mem_reverse.1 member)
  simpa using other

theorem splitAtLastPlus_of_not_mem {cs : List Char} (free : '+' ∉ cs) :
    splitAtLastPlus cs = none := by
  have skipped : (cs.reverse ++ []).dropWhile (· != '+') = [] :=
    List.dropWhile_append_of_pos (all_ne_plus free)
  rw [List.append_nil] at skipped
  simp [splitAtLastPlus, skipped]

theorem splitAtLastPlus_append (before : List Char) {name : List Char} (free : '+' ∉ name) :
    splitAtLastPlus (before ++ '+' :: name) = some (before, name) := by
  have all := all_ne_plus free
  have backwards : (before ++ '+' :: name).reverse = name.reverse ++ '+' :: before.reverse := by
    simp
  rw [splitAtLastPlus, backwards, List.dropWhile_append_of_pos all,
    List.takeWhile_append_of_pos all]
  simp

theorem parse_of_not_mem {text : String} (free : '+' ∉ text.toList) :
    parse text = (Key.parse text).map fun key => ⟨key, Modifiers.parse ""⟩ := by
  simp only [parse, splitAtLastPlus_of_not_mem free]
  cases Key.parse text <;> rfl

theorem parse_append {before name : String} (free : '+' ∉ name.toList) (some_char : name ≠ "") :
    parse (before ++ "+" ++ name) =
      (Key.parse name).map fun key => ⟨key, Modifiers.parse before⟩ := by
  have chars : (before ++ "+" ++ name).toList = before.toList ++ '+' :: name.toList := by
    simp
  cases letters : name.toList with
  | nil => exact absurd (String.toList_eq_nil_iff.1 letters) some_char
  | cons c rest =>
    have whole : String.ofList (c :: rest) = name := by rw [← letters, String.ofList_toList]
    have split := splitAtLastPlus_append before.toList free
    rw [letters] at split
    simp only [parse, chars, letters, split, whole, String.ofList_toList]
    cases Key.parse name <;> rfl

theorem parse_append_plus {before : String} (some_char : before ≠ "") :
    parse (before ++ "+") = none := by
  have chars : (before ++ "+").toList = before.toList ++ ['+'] := by simp
  have split := splitAtLastPlus_append before.toList List.not_mem_nil
  simp [parse, chars, split, Key.parse_append_plus some_char]

end KeyPress

/-- The word is written as the parts and the name of the key, with a plus sign between each two. A
word that starts with an angle bracket is in the editor's notation already. -/
structure Spells (word : String) (parts : List String) (key : Key) : Prop where
  some_part : parts ≠ []
  free : ∀ part ∈ parts, '+' ∉ part.toList
  unbracketed : word.toList.head? ≠ some '<'
  keyed : ∃ name, Key.parse name = some key ∧ '+' ∉ name.toList ∧
    word = "+".intercalate (parts ++ [name])

theorem normalizeWord_of_spells {word : String} {parts : List String} {key : Key}
    (spells : Spells word parts key) : normalizeWord word = key.pressed (marks parts) := by
  obtain ⟨name, named, free, spelled⟩ := spells.keyed
  have some_char : name ≠ "" := by
    intro empty
    simp [empty, Key.parse_empty] at named
  have cut : word = "+".intercalate parts ++ "+" ++ name := by
    rw [spelled, String.intercalate_append_of_ne_nil spells.some_part (by simp),
      String.intercalate_singleton]
  have plus : '+' ∈ word.toList := by simp [cut]
  have press : KeyPress.parse word = some ⟨key, Modifiers.parse ("+".intercalate parts)⟩ := by
    rw [cut, KeyPress.parse_append free some_char, named]
    rfl
  have open_word := spells.unbracketed
  simp only [normalizeWord, press, KeyPress.notationText_eq_pressed]
  rw [Modifiers.flagged_parse spells.some_part spells.free]
  simp [open_word, plus]

theorem exists_last_plus {word : String} (plus : '+' ∈ word.toList) :
    ∃ before name : String, word = before ++ "+" ++ name ∧ '+' ∉ name.toList := by
  obtain ⟨front, back, cut, free⟩ := List.eq_append_cons_of_mem (List.mem_reverse.2 plus)
  refine ⟨String.ofList back.reverse, String.ofList front.reverse, ?_, by simpa using free⟩
  apply String.toList_injective
  simpa using congrArg List.reverse cut

theorem spells_of_append {before name : String} {key : Key}
    (unbracketed : (before ++ "+" ++ name).toList.head? ≠ some '<') (free : '+' ∉ name.toList)
    (named : Key.parse name = some key) :
    Spells (before ++ "+" ++ name) (Text.splitText '+' before) key where
  some_part := Text.splitText_ne_nil '+' before
  free := Text.not_mem_of_mem_splitText
  unbracketed := unbracketed
  keyed := by
    refine ⟨name, named, free, ?_⟩
    rw [String.intercalate_append_of_ne_nil (Text.splitText_ne_nil '+' before) (by simp),
      String.intercalate_singleton, Text.intercalate_splitText]

theorem empty_or_singleton {word : String} (short : word.utf8ByteSize ≤ 1) :
    word = "" ∨ ∃ c, word = String.singleton c := by
  cases letters : word.toList with
  | nil => exact .inl (String.toList_eq_nil_iff.1 letters)
  | cons c rest =>
    have cut : word = String.singleton c ++ String.ofList rest := by
      apply String.toList_injective
      simp [letters]
    have sum := congrArg String.utf8ByteSize cut
    rw [String.utf8ByteSize_append, String.utf8ByteSize_singleton] at sum
    have positive := c.utf8Size_pos
    have last : String.ofList rest = "" := String.utf8ByteSize_eq_zero_iff.1 (by omega)
    rw [last, String.append_empty] at cut
    exact .inr ⟨c, cut⟩

theorem normalizeWord_of_plain {word : String} (plain : ∀ parts key, ¬ Spells word parts key) :
    normalizeWord word = word := by
  by_cases bracket : word.toList.head? = some '<'
  next => simp [normalizeWord, bracket]
  next =>
    by_cases plus : '+' ∈ word.toList
    next =>
      obtain ⟨before, name, rfl, free⟩ := exists_last_plus plus
      by_cases ends : name = ""
      next =>
        by_cases alone : before = ""
        next =>
          subst ends alone
          decide +kernel
        next => simp [normalizeWord, ends, KeyPress.parse_append_plus alone]
      next =>
        have unkeyed : Key.parse name = none := by
          apply Option.eq_none_iff_forall_ne_some.2
          intro key named
          exact plain _ key (spells_of_append bracket free named)
        simp [normalizeWord, KeyPress.parse_append free ends, unkeyed]
    next =>
      by_cases long : 1 < word.utf8ByteSize
      next => simp [normalizeWord, long, plus]
      next =>
        obtain rfl | ⟨c, rfl⟩ := empty_or_singleton (Nat.not_lt.1 long)
        next => decide +kernel
        next => 
          have bare : (Modifiers.parse "").flagged = [] := by decide +kernel
          simp [normalizeWord, KeyPress.parse_of_not_mem plus, Key.parse_singleton,
            KeyPress.notationText_eq_pressed, Key.pressed, Key.alone, bare]

/-- What a word of a key sequence becomes in the editor's notation. Parts that name no modifier are
lost when the last part is a key. -/
structure Normalizes (word normalized : String) : Prop where
  plain : (∀ parts key, ¬ Spells word parts key) → normalized = word
  known : ∀ parts key, Spells word parts key → (∀ part ∈ parts, (mark? part).isSome) →
    normalized = "<" ++ String.join (marks parts) ++ key.text ++ ">" ∧
      ∀ part ∈ parts, ∃ mark ∈ marks parts, mark? part = some mark
  pressed : ∀ parts key, Spells word parts key →
    normalized = key.pressed (marks (modifierParts parts))

theorem normalizes_normalizeWord (word : String) : Normalizes word (normalizeWord word) where
  plain := normalizeWord_of_plain
  known := by
    intro parts key spells known
    have marked : ∀ part ∈ parts, ∃ mark ∈ marks parts, mark? part = some mark :=
      fun part member => exists_mark_of_mark? member (known part member)
    have some_mark : marks parts ≠ [] := by
      obtain ⟨part, member⟩ := List.exists_mem_of_ne_nil parts spells.some_part
      obtain ⟨mark, listed, -⟩ := marked part member
      exact List.ne_nil_of_mem listed
    exact ⟨by simp [normalizeWord_of_spells spells, Key.pressed, some_mark], marked⟩
  pressed := by
    intro parts key spells
    rw [marks_modifierParts, normalizeWord_of_spells spells]

theorem normalizeKeys_wordwise (keys : String) :
    ∃ written normalized : List String,
      Text.Spaced keys.toList (written.map String.toList) ∧
      List.Forall₂ Normalizes written normalized ∧
      normalizeKeys keys = String.join normalized := by
  refine ⟨Text.words keys, (Text.words keys).map normalizeWord, Text.spaced_words keys, ?_, rfl⟩
  rw [List.forall₂_map_right_iff, List.forall₂_same]
  exact fun word _ => normalizes_normalizeWord word

theorem misspelt_modifier_lost :
    Spells "ctlr+s" ["ctlr"] (.char 's') ∧ mark? "ctlr" = none ∧ normalizeKeys "ctlr+s" = "s" := by
  refine ⟨⟨by decide, by decide, by decide, "s", ?_, by decide, by decide⟩, ?_, ?_⟩ <;>
    decide +kernel

example : normalizeKeys "ctrl+k <leader>s control+Shift+F5" = "<C-k><leader>s<C-S-F5>" := by
  decide +kernel

end PluginHost
