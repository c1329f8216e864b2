import PluginHost.Proofs.Keys.Normalizing

/-!
The keys of a mapping inside the commands that define it. They hold no blank, so they stay one word;
and quoted for the call that the keys are mapped to, they are read back as they were.
-/

set_option autoImplicit false

namespace PluginHost

namespace Text

def Solid (s : String) : Prop := ∀ c ∈ s.toList, isBlank c = false

instance (s : String) : Decidable (Solid s) :=
  List.decidableBAll (fun c => isBlank c = false) s.toList

theorem solid_append {s t : String} : Solid (s ++ t) ↔ Solid s ∧ Solid t := by
  simp [Solid, or_imp, forall_and]

theorem solid_join {parts : List String} : Solid (String.join parts) ↔ ∀ p ∈ parts, Solid p := by
  simp only [Solid, String.toList_join, List.mem_flatMap]
  constructor
  next => exact fun solid p member c inside => solid c ⟨p, member, inside⟩
  next =>
    intro each c inside
    obtain ⟨p, member, inside⟩ := inside
    exact each p member c inside

theorem Spaced.solid {cs : List Char} {ws : List (List Char)} (spaced : Spaced cs ws) :
    ∀ w ∈ ws, ∀ c ∈ w, isBlank c = false := by
  induction spaced with
  | nil => simp
  | blank _ _ ih => exact ih
  | word _ solid _ _ ih => exact List.forall_mem_cons.2 ⟨solid, ih⟩

theorem solid_of_mem_words {text word : String} (member : word ∈ words text) : Solid word :=
  (spaced_words text).solid word.toList (List.mem_map_of_mem member)

theorem isBlank_digit {c : Char} (digit : c.isDigit = true) : isBlank c = false := by
  obtain ⟨least, most⟩ := Char.isDigit_iff_toNat.1 digit
  change 48 ≤ c.toNat at least
  change c.toNat ≤ 57 at most
  simp [isBlank]
  omega

end Text

open Text (Solid)

namespace Key

theorem solid_of_mem_names : ∀ n ∈ names, Solid n.1 := by
  decide +kernel

theorem named?_solid {lower name : String} (found : named? lower = some name) : Solid name := by
  obtain ⟨n, first, rfl⟩ := Option.map_eq_some_iff.1 found
  exact solid_of_mem_names n (List.mem_of_find?_eq_some first)

theorem solid_toString (n : Nat) : Solid (toString n) := by
  intro c member
  rw [Nat.toString_eq_repr, Nat.toList_repr] at member
  exact Text.isBlank_digit (Nat.isDigit_of_mem_toDigits (by decide) (by decide) member)

theorem text_solid {name : String} {key : Key} (parsed : parse name = some key)
    (solid : Solid name) : Solid key.text := by
  cases key with
  | char c =>
    have letters : name.toList = [c] := by
      simp only [parse] at parsed
      split at parsed
      next => cases parsed
      next =>
        split at parsed
        next => simp at parsed
        next =>
          split at parsed
          next letters =>
            cases parsed
            exact letters
          next => cases parsed
    simpa [Solid, letters, text] using solid
  | named written =>
    simp only [parse] at parsed
    split at parsed
    next found =>
      cases parsed
      exact named?_solid found
    next =>
      split at parsed
      next => simp at parsed
      next => split at parsed <;> cases parsed
  | function n => exact Text.solid_append.2 ⟨by decide, solid_toString n⟩

theorem pressed_solid {key : Key} {marks : List String} (solid : Solid key.text)
    (each : ∀ mark ∈ marks, Solid mark) : Solid (key.pressed marks) := by
  have opening : Solid "<" := by decide
  have closing : Solid ">" := by decide
  by_cases bare : marks = []
  next =>
    cases key with
    | char c => simpa [pressed, bare, alone, text] using solid
    | named name | function n =>
      simp [pressed, bare, alone, Text.solid_append, opening, closing, solid]
  next =>
    simp [pressed, bare, Text.solid_append, opening, closing, solid, Text.solid_join.2 each]

end Key

theorem solid_of_mem_marks {parts : List String} : ∀ mark ∈ marks parts, Solid mark := by
  have known : ∀ mark ∈ modifierMarks.map (·.1), Solid mark := by decide +kernel
  intro mark member
  exact known mark (List.mem_filter.1 member).1

theorem normalizeWord_solid {word : String} (solid : Solid word) : Solid (normalizeWord word) := by
  by_cases spelled : ∃ parts key, Spells word parts key
  next =>
    obtain ⟨parts, key, spells⟩ := spelled
    obtain ⟨name, named, -, written⟩ := spells.keyed
    rw [normalizeWord_of_spells spells]
    rw [written, String.intercalate_append_of_ne_nil spells.some_part (by simp),
      String.intercalate_singleton] at solid
    have name_solid := (Text.solid_append.1 solid).2
    exact Key.pressed_solid (Key.text_solid named name_solid) solid_of_mem_marks
  next =>
    rw [normalizeWord_of_plain fun parts key spells => spelled ⟨parts, key, spells⟩]
    exact solid

theorem normalizeKeys_solid (keys : String) : Solid (normalizeKeys keys) := by
  apply Text.solid_join.2
  intro normalized member
  obtain ⟨word, written, rfl⟩ := List.mem_map.1 member
  exact normalizeWord_solid (Text.solid_of_mem_words written)

namespace Mapping

def replaced (c : Char) (text : String) (cs : List Char) : List Char :=
  cs.flatMap fun d => if d = c then text.toList else [d]

/-- Reads an argument from behind its opening quote up to the closing one, with two quotes for one
and `<lt>` for an angle bracket. Also what is left behind the closing quote. -/
def readArgument : List Char → Option (List Char × List Char)
  | [] => none
  | '\'' :: '\'' :: rest => (readArgument rest).map fun r => ('\'' :: r.1, r.2)
  | '\'' :: rest => some ([], rest)
  | '<' :: 'l' :: 't' :: '>' :: rest => (readArgument rest).map fun r => ('<' :: r.1, r.2)
  | c :: rest => (readArgument rest).map fun r => (c :: r.1, r.2)

/-- Every longest run of quotes has an even length. -/
def QuotesDoubled (cs : List Char) : Prop :=
  ∀ before n after, cs = before ++ List.replicate n '\'' ++ after →
    before.getLast? ≠ some '\'' → after.head? ≠ some '\'' → 2 ∣ n

def BracketsSpelled (cs : List Char) : Prop :=
  ∀ before after, cs = before ++ '<' :: after → ['l', 't', '>'] <+: after

/-- What a text looks like inside a quoted argument. -/
inductive Quotes : List Char → List Char → Prop
  | nil : Quotes [] []
  | quote {cs quoted : List Char} (rest : Quotes cs quoted) :
      Quotes ('\'' :: cs) ('\'' :: '\'' :: quoted)
  | bracket {cs quoted : List Char} (rest : Quotes cs quoted) :
      Quotes ('<' :: cs) ('<' :: 'l' :: 't' :: '>' :: quoted)
  | plain {c : Char} {cs quoted : List Char} (unquoted : c ≠ '\'') (unbracketed : c ≠ '<')
      (rest : Quotes cs quoted) : Quotes (c :: cs) (c :: quoted)

theorem quotes_escaped (cs : List Char) : Quotes cs (cs.flatMap escape) := by
  induction cs with
  | nil => exact .nil
  | cons c rest ih =>
    rw [List.flatMap_cons]
    by_cases bracket : c = '<'
    next =>
      subst bracket
      exact .bracket ih
    next =>
      by_cases quote : c = '\''
      next =>
        subst quote
        exact .quote ih
      next =>
        have same : escape c = [c] := by rw [escape, if_neg bracket, if_neg quote]
        rw [same]
        exact .plain quote bracket ih

-- Neither replacement brings in what the other looks for.
theorem escaped_eq_replaced (cs : List Char) :
    cs.flatMap escape = replaced '\'' "''" (replaced '<' "<lt>" cs) := by
  rw [replaced, replaced, List.flatMap_assoc]
  congr 1
  funext c
  by_cases bracket : c = '<'
  next => simp [escape, bracket]
  next => by_cases quote : c = '\'' <;> simp [escape, bracket, quote]

theorem readArgument_plain {c : Char} (unquoted : c ≠ '\'') (unbracketed : c ≠ '<')
    (rest : List Char) :
    readArgument (c :: rest) = (readArgument rest).map fun r => (c :: r.1, r.2) := by
  conv => lhs; unfold readArgument
  split <;> simp_all

theorem Quotes.read {cs quoted : List Char} (quotes : Quotes cs quoted) {rest : List Char}
    (ends : rest.head? ≠ some '\'') : readArgument (quoted ++ '\'' :: rest) = some (cs, rest) := by
  induction quotes with
  | nil =>
    cases rest with
    | nil => rfl
    | cons c rest =>
      have other : c ≠ '\'' := by simpa using ends
      simp [readArgument, other]
  | quote _ ih => simp [readArgument, ih]
  | bracket _ ih => simp [readArgument, ih]
  | plain unquoted unbracketed _ ih =>
    rw [List.cons_append, readArgument_plain unquoted unbracketed, ih]
    rfl

theorem QuotesDoubled.cons {c : Char} {cs : List Char} (doubled : QuotesDoubled cs)
    (unquoted : c ≠ '\'') : QuotesDoubled (c :: cs) := by
  intro before n after cut unlast unfirst
  cases before with
  | nil =>
    cases n with
    | zero => exact Nat.dvd_zero 2
    | succ n => exact absurd (List.cons.inj cut).1 unquoted
  | cons d before =>
    refine doubled before n after (List.cons.inj cut).2 (fun last => unlast ?_) unfirst
    rw [List.getLast?_cons, last]
    rfl

theorem QuotesDoubled.quotes {cs : List Char} (doubled : QuotesDoubled cs) :
    QuotesDoubled ('\'' :: '\'' :: cs) := by
  intro before n after cut unlast unfirst
  match before, n with
  | [], 0 => exact Nat.dvd_zero 2
  | [], 1 =>
    have first := (List.cons.inj cut).2
    exact absurd (congrArg List.head? first).symm unfirst
  | [], n + 2 =>
    have rest := (List.cons.inj (List.cons.inj cut).2).2
    exact Nat.dvd_add (doubled [] n after rest nofun unfirst) (Nat.dvd_refl 2)
  | [d], n =>
    have quote := (List.cons.inj cut).1
    exact absurd (congrArg some quote.symm) unlast
  | d :: e :: before, n =>
    have inner := (List.cons.inj cut).2
    have quote := (List.cons.inj inner).1
    refine doubled before n after (List.cons.inj inner).2 (fun last => unlast ?_) unfirst
    rw [List.getLast?_cons_cons, List.getLast?_cons, last]
    rfl

theorem Quotes.doubled {cs quoted : List Char} (quotes : Quotes cs quoted) :
    QuotesDoubled quoted := by
  induction quotes with
  | nil =>
    intro before n after cut _ _
    have lengths := congrArg List.length cut
    have zero : n = 0 := by
      simp only [List.length_nil, List.length_append, List.length_replicate] at lengths
      omega
    exact zero ▸ Nat.dvd_zero 2
  | quote _ ih => exact ih.quotes
  | bracket _ ih =>
    exact (((ih.cons (by decide)).cons (by decide)).cons (by decide)).cons (by decide)
  | plain unquoted _ _ ih => exact ih.cons unquoted

theorem BracketsSpelled.cons {c : Char} {cs : List Char} (spelled : BracketsSpelled cs)
    (unbracketed : c ≠ '<') : BracketsSpelled (c :: cs) := by
  intro before after cut
  cases before with
  | nil => exact absurd (List.cons.inj cut).1 unbracketed
  | cons d before => exact spelled before after (List.cons.inj cut).2

theorem BracketsSpelled.bracket {cs : List Char} (spelled : BracketsSpelled cs) :
    BracketsSpelled ('<' :: 'l' :: 't' :: '>' :: cs) := by
  have later : BracketsSpelled ('l' :: 't' :: '>' :: cs) :=
    ((spelled.cons (by decide)).cons (by decide)).cons (by decide)
  intro before after cut
  cases before with
  | nil =>
    have rest := (List.cons.inj cut).2
    exact ⟨cs, rest⟩
  | cons d before => exact later before after (List.cons.inj cut).2

theorem Quotes.spelled {cs quoted : List Char} (quotes : Quotes cs quoted) :
    BracketsSpelled quoted := by
  induction quotes with
  | nil => exact fun before after cut => by simp at cut
  | quote _ ih => exact (ih.cons (by decide)).cons (by decide)
  | bracket _ ih => exact ih.bracket
  | plain _ unbracketed _ ih => exact ih.cons unbracketed

/-- The keys of a mapping hold no blank. Each mode has its command, in which the keys stand once
more, quoted: no quote is alone, no angle bracket stands for itself, and what is read up to the
closing quote is the keys. -/
theorem definitions_read_back (ident keys plugin id : String) (modes : List String)
    (buffer : Bool) :
    let m : Mapping := { ofKeys ident keys with modes, buffer }
    (∀ c ∈ m.keys.toList, Text.isBlank c = false) ∧
    ∃ quoted : String,
      m.definitions plugin id = modes.map (fun mode =>
        mode ++ "noremap " ++ (if buffer then "<buffer> " else "") ++ "<silent> " ++ m.keys ++
          " :call " ++ Text.camelcase plugin ++ "Mapping('" ++ id ++ "', '" ++ quoted ++
          "')<cr>") ∧
      quoted.toList = replaced '\'' "''" (replaced '<' "<lt>" m.keys.toList) ∧
      QuotesDoubled quoted.toList ∧ BracketsSpelled quoted.toList ∧
      readArgument (quoted ++ "')<cr>").toList = some (m.keys.toList, ")<cr>".toList) := by
  intro m
  have quotes := quotes_escaped m.keys.toList
  have letters : (literal m.keys).toList = m.keys.toList.flatMap escape := by simp [literal]
  refine ⟨normalizeKeys_solid keys, literal m.keys, ?_, ?_, ?_, ?_, ?_⟩
  next =>
    apply List.map_congr_left
    intro mode _
    simp [definition, String.append_assoc, m]
  next => rw [letters, escaped_eq_replaced]
  next => exact letters ▸ quotes.doubled
  next => exact letters ▸ quotes.spelled
  next =>
    rw [String.toList_append, letters]
    exact quotes.read (by decide)

example : literal "a'<lt>'" = "a''<lt>lt>''" := by decide +kernel

end Mapping

end PluginHost
