import Mathlib.Data.List.TakeWhile
import PluginHost.Document.Path

/-!
Queries as text. A path that is written out is read back as it is, and a query is read piece by
piece: what stands before a dot outside of every parenthesis does not touch what comes after it, and
an empty piece is nothing.
-/

set_option autoImplicit false

namespace PluginHost

/-- Every parenthesis has its partner. -/
inductive Nested : List Char → Prop where
  | nil : Nested []
  | other {c : Char} {rest : List Char} (opens : c ≠ '(') (closes : c ≠ ')') (later : Nested rest) :
      Nested (c :: rest)
  | enclosed {inside rest : List Char} (inner : Nested inside) (later : Nested rest) :
      Nested ('(' :: (inside ++ ')' :: rest))

def Text.Trimmed (cs : List Char) : Prop :=
  (∀ c ∈ cs.head?, isBlank c = false) ∧ ∀ c ∈ cs.getLast?, isBlank c = false

theorem Text.Trimmed.trimChars_eq {cs : List Char} (trimmed : Trimmed cs) : trimChars cs = cs := by
  obtain ⟨first, last⟩ := trimmed
  have start : trimStart cs = cs := by
    cases cs with
    | nil => rfl
    | cons c rest => simp [trimStart, first c rfl]
  rw [trimChars, start, trimEnd]
  cases reversed : cs.reverse with
  | nil => simpa using reversed.symm
  | cons c rest =>
    have ends : cs.getLast? = some c := by
      rw [← List.head?_reverse, reversed, List.head?_cons]
    have kept : (c :: rest).dropWhile isBlank = c :: rest := by simp [last c ends]
    rw [kept, ← reversed, List.reverse_reverse]

namespace Path

variable {depth : Nat} {c : Char} {cs ds : List Char}

/-- How many parentheses are open after a character. -/
def level (depth : Nat) (c : Char) : Nat :=
  if c = '(' then depth + 1 else if c = ')' then depth - 1 else depth

def openAfter (depth : Nat) (cs : List Char) : Nat := cs.foldl level depth

/-- No dot lies outside of the parentheses. -/
def Whole : (depth : Nat) → List Char → Prop
  | _, [] => True
  | depth, c :: rest => ¬ (c = '.' ∧ level depth c = 0) ∧ Whole (level depth c) rest

theorem openAfter_append : openAfter depth (cs ++ ds) = openAfter (openAfter depth cs) ds :=
  List.foldl_append

theorem openAfter_of_nested (nested : Nested cs) (depth : Nat) : openAfter depth cs = depth := by
  induction nested generalizing depth with
  | nil => rfl
  | @other c rest opens closes _ ih =>
    have same : level depth c = depth := by simp [level, opens, closes]
    change openAfter (level depth c) rest = depth
    rw [same, ih]
  | @enclosed inside rest _ _ ihInner ihLater =>
    change openAfter (depth + 1) (inside ++ ')' :: rest) = depth
    rw [openAfter_append, ihInner]
    exact ihLater depth

theorem openAfter_of_unopened (unopened : '(' ∉ cs) : openAfter 0 cs = 0 := by
  induction cs with
  | nil => rfl
  | cons c rest ih =>
    have other : c ≠ '(' := fun same => unopened (same ▸ List.mem_cons_self)
    have none : level 0 c = 0 := by simp [level, other]
    change openAfter (level 0 c) rest = 0
    rw [none]
    exact ih fun member => unopened (List.mem_cons_of_mem _ member)

theorem whole_append : Whole depth (cs ++ ds) ↔ Whole depth cs ∧ Whole (openAfter depth cs) ds := by
  induction cs generalizing depth with
  | nil => simp [Whole, openAfter]
  | cons c rest ih => simp [Whole, ih, openAfter, and_assoc]

theorem whole_of_dotless (dotless : '.' ∉ cs) (depth : Nat) : Whole depth cs := by
  induction cs generalizing depth with
  | nil => trivial
  | cons c rest ih =>
    have other : c ≠ '.' := fun same => dotless (same ▸ List.mem_cons_self)
    exact ⟨fun dot => other dot.1, ih (fun member => dotless (List.mem_cons_of_mem _ member)) _⟩

theorem whole_enclosed (nested : Nested cs) (inner : Whole (depth + 1) cs) (later : Whole depth ds) :
    Whole depth ('(' :: (cs ++ ')' :: ds)) := by
  have after := openAfter_of_nested nested (depth + 1)
  refine ⟨by simp, whole_append.2 ⟨inner, ?_⟩⟩
  change Whole (openAfter (depth + 1) cs) (')' :: ds)
  rw [after]
  exact ⟨by simp, later⟩

theorem whole_of_nested (nested : Nested cs) (depth : Nat) : Whole (depth + 1) cs := by
  induction nested generalizing depth with
  | nil => trivial
  | @other c rest opens closes _ ih =>
    have same : level (depth + 1) c = depth + 1 := by simp [level, opens, closes]
    rw [Whole, same]
    exact ⟨by simp, ih depth⟩
  | enclosed inner _ ihInner ihLater => exact whole_enclosed inner (ihInner (depth + 1)) (ihLater depth)

theorem pieces_ne_nil (depth : Nat) (cs : List Char) : pieces depth cs ≠ [] := by
  cases cs with
  | nil => simp [pieces]
  | cons c rest =>
    change (if c = '.' ∧ level depth c = 0 then _ else _) ≠ _
    split
    · simp
    · split <;> simp

theorem pieces_dot : pieces 0 ('.' :: cs) = [] :: pieces 0 cs := by
  simp [pieces]

theorem pieces_cons (whole : ¬ (c = '.' ∧ level depth c = 0)) :
    pieces depth (c :: cs) = (pieces (level depth c) cs).modifyHead (c :: ·) := by
  unfold level at whole ⊢
  rw [pieces]
  simp only [if_neg whole]
  split
  next piece more found => rw [found, List.modifyHead_cons]
  next found => exact absurd found (pieces_ne_nil _ _)

theorem pieces_of_whole (whole : Whole depth cs) : pieces depth (cs ++ ds) =
    (pieces (openAfter depth cs) ds).modifyHead (cs ++ ·) := by
  induction cs generalizing depth with
  | nil => exact (congrFun List.modifyHead_id _).symm
  | cons c rest ih =>
    obtain ⟨here, later⟩ := whole
    rw [List.cons_append, pieces_cons here, ih later, List.modifyHead_modifyHead]
    rfl

theorem pieces_append_dot (closed : openAfter depth cs = 0) :
    pieces depth (cs ++ '.' :: ds) = pieces depth cs ++ pieces 0 ds := by
  induction cs generalizing depth with
  | nil =>
    obtain rfl : depth = 0 := closed
    simp [pieces]
  | cons c rest ih =>
    have later : pieces (level depth c) (rest ++ '.' :: ds) =
      pieces (level depth c) rest ++ pieces 0 ds := ih closed
    by_cases splits : c = '.' ∧ level depth c = 0
    next =>
      obtain ⟨rfl, outside⟩ := splits
      obtain rfl : depth = 0 := by simpa [level] using outside
      rw [List.cons_append, pieces_dot, pieces_dot, List.cons_append]
      exact congrArg _ later
    next =>
      rw [List.cons_append, pieces_cons splits, pieces_cons splits, later]
      cases found : pieces (level depth c) rest with
      | nil => exact absurd found (pieces_ne_nil _ _)
      | cons piece more => rfl

end Path

namespace Segment

variable {c : Char} {cs ds : List Char}

/-- How a segment is written in a query. -/
def render : Segment → String
  | .field name => name
  | .select list key value => list ++ "(" ++ key ++ "=" ++ value ++ ")"

-- What a segment may hold to be told from the others and from its own parts.
inductive Writable : Segment → Prop where
  | field {name : String} (some_char : name ≠ "") (dotless : '.' ∉ name.toList)
      (unopened : '(' ∉ name.toList) : Writable (.field name)
  | select {list key value : String} (dotless : '.' ∉ list.toList) (unopened : '(' ∉ list.toList)
      (key_trimmed : Text.Trimmed key.toList) (key_plain : '=' ∉ key.toList)
      (key_unopened : '(' ∉ key.toList) (key_unclosed : ')' ∉ key.toList)
      (value_trimmed : Text.Trimmed value.toList) (value_nested : Nested value.toList) :
      Writable (.select list key value)

theorem splitAtFirst_of_not_mem (absent : c ∉ cs) : splitAtFirst c cs = none := by
  have all : cs.dropWhile (· != c) = [] := by
    rw [List.dropWhile_eq_nil_iff]
    intro d member
    simpa using fun same : d = c => absent (same ▸ member)
  rw [splitAtFirst, all]

theorem splitAtFirst_append (absent : c ∉ cs) :
    splitAtFirst c (cs ++ c :: ds) = some (cs, ds) := by
  have before : ∀ d ∈ cs, (d != c) = true := by
    intro d member
    simpa using fun same : d = c => absent (same ▸ member)
  simp [splitAtFirst, List.dropWhile_append_of_pos before, List.takeWhile_append_of_pos before]

theorem toList_render_select (list key value : String) : (render (.select list key value)).toList =
    list.toList ++ '(' :: (key.toList ++ '=' :: value.toList ++ [')']) := by
  simp [render]

namespace Writable

variable {s : Segment}

theorem parse_render (writable : s.Writable) : parse s.render.toList = .ok s := by
  cases writable with
  | @field name some_char dotless unopened =>
    simp [render, parse, splitAtFirst_of_not_mem unopened]
  | @select list key value dotless unopened key_trimmed key_plain key_unopened key_unclosed
      value_trimmed value_nested =>
    have key_text : trimmed key.toList = key := by
      simp [trimmed, key_trimmed.trimChars_eq]
    have value_text : trimmed value.toList = value := by
      simp [trimmed, value_trimmed.trimChars_eq]
    rw [toList_render_select, parse, splitAtFirst_append unopened]
    simp only [List.getLast?_concat, List.dropLast_concat, if_true, splitAtFirst_append key_plain,
      key_text, value_text, String.ofList_toList]

theorem render_ne_nil (writable : s.Writable) : s.render.toList ≠ [] := by
  cases writable with
  | field some_char => simpa [render] using some_char
  | select => simp [toList_render_select]

/-- What stands between the parentheses of a segment. -/
theorem nested_inside {key value : List Char} (unopened : '(' ∉ key) (unclosed : ')' ∉ key)
    (nested : Nested value) : Nested (key ++ '=' :: value) := by
  induction key with
  | nil => exact .other (by decide) (by decide) nested
  | cons c rest ih =>
    rw [List.mem_cons, not_or] at unopened unclosed
    exact .other (Ne.symm unopened.1) (Ne.symm unclosed.1) (ih unopened.2 unclosed.2)

theorem whole (writable : s.Writable) :
    Path.Whole 0 s.render.toList ∧ Path.openAfter 0 s.render.toList = 0 := by
  cases writable with
  | field _ dotless unopened =>
    exact ⟨Path.whole_of_dotless dotless 0, Path.openAfter_of_unopened unopened⟩
  | @select list key value dotless unopened _ _ key_unopened key_unclosed _ value_nested =>
    have inside := nested_inside key_unopened key_unclosed value_nested
    have predicate := Nested.enclosed inside .nil
    have before := Path.openAfter_of_unopened unopened
    rw [toList_render_select, Path.whole_append, Path.openAfter_append, before]
    refine ⟨⟨Path.whole_of_dotless dotless 0, ?_⟩, Path.openAfter_of_nested predicate 0⟩
    exact Path.whole_enclosed inside (Path.whole_of_nested inside 0) trivial

end Writable

end Segment

namespace Path

variable {q₁ q₂ : String}

theorem parse_empty : parse "" = .ok [] := rfl

theorem parse_append (closed : openAfter 0 q₁.toList = 0) :
    parse (q₁ ++ "." ++ q₂) = do return (← parse q₁) ++ (← parse q₂) := by
  have chars : (q₁ ++ "." ++ q₂).toList = q₁.toList ++ '.' :: q₂.toList := by simp
  rw [parse, chars, pieces_append_dot closed, List.filter_append, List.mapM_append]
  rfl

theorem parse_render {s : Segment} (writable : s.Writable) : parse s.render = .ok [s] := by
  obtain ⟨whole, closed⟩ := writable.whole
  have only := @pieces_of_whole _ _ [] whole
  rw [List.append_nil, closed] at only
  have some_char : s.render.toList.isEmpty = false := by simpa using writable.render_ne_nil
  rw [parse, only]
  simp [pieces, some_char, writable.parse_render]

theorem parse_renders {segments : List Segment} (writable : ∀ s ∈ segments, s.Writable) :
    parse (".".intercalate (segments.map Segment.render)) = .ok segments := by
  induction segments with
  | nil => rfl
  | cons s rest ih =>
    have first := parse_render (writable s List.mem_cons_self)
    have others := ih fun t member => writable t (List.mem_cons_of_mem _ member)
    by_cases last : rest = []
    next => simpa [last] using first
    next =>
      have closed := (writable s List.mem_cons_self).whole.2
      rw [List.map_cons, String.intercalate_cons_of_ne_nil (by simpa using last),
        parse_append closed, first, others]
      rfl

theorem parse_nonempty {queries : List String}
    (closed : ∀ q ∈ queries.dropLast, openAfter 0 q.toList = 0) :
    parse (".".intercalate (queries.filter (· != ""))) = parse (".".intercalate queries) := by
  induction queries with
  | nil => rfl
  | cons q rest ih =>
    by_cases last : rest = []
    next =>
      subst last
      by_cases empty : q = "" <;> simp [empty]
    next =>
      rw [List.dropLast_cons_of_ne_nil last] at closed
      have others := ih fun p member => closed p (List.mem_cons_of_mem _ member)
      have first := closed q List.mem_cons_self
      rw [String.intercalate_cons_of_ne_nil last, parse_append first, ← others]
      by_cases empty : q = ""
      next =>
        -- The empty piece is read as no segment at all.
        simp only [empty, parse_empty, List.filter_cons, bne_self_eq_false, Bool.false_eq_true,
          if_false]
        cases parse (".".intercalate (rest.filter (· != ""))) <;> rfl
      next =>
        have kept : (q :: rest).filter (· != "") = q :: rest.filter (· != "") := by simp [empty]
        rw [kept]
        by_cases none : rest.filter (· != "") = []
        next =>
          rw [none]
          have alone : ".".intercalate [q] = q := by simp
          rw [alone]
          cases parse q <;> simp [parse_empty, bind, Except.bind, pure, Except.pure]
        next => rw [String.intercalate_cons_of_ne_nil none, parse_append first]

/-- A path that is written out is read back, a query is read in the parts between its dots, and the
empty ones among them do not count. -/
theorem parse_in_parts :
    (∀ segments : Path, (∀ s ∈ segments, s.Writable) →
      parse (".".intercalate (segments.map Segment.render)) = .ok segments) ∧
    (∀ q₁ q₂ : String, Nested q₁.toList →
      parse (q₁ ++ "." ++ q₂) = do return (← parse q₁) ++ (← parse q₂)) ∧
    ∀ queries : List String, (∀ q ∈ queries.dropLast, openAfter 0 q.toList = 0) →
      parse (".".intercalate (queries.filter (· != ""))) = parse (".".intercalate queries) := by
  refine ⟨fun segments => parse_renders, fun q₁ q₂ nested => ?_, fun queries => parse_nonempty⟩
  exact parse_append (openAfter_of_nested nested 0)

def dotted : Path := [.field "a)", .select "rows" "at.key" "v(=).é", .field "name"]

theorem nested_value : Nested ['v', '(', '=', ')', '.', 'é'] :=
  .other (by decide) (by decide) <|
    @Nested.enclosed ['='] ['.', 'é'] (.other (by decide) (by decide) .nil) <|
      .other (by decide) (by decide) <| .other (by decide) (by decide) .nil

theorem dotted_writable : ∀ s ∈ dotted, s.Writable := by
  intro s member
  simp only [dotted, List.mem_cons, List.not_mem_nil, or_false] at member
  have key_trimmed : Text.Trimmed "at.key".toList := by constructor <;> (rintro _ ⟨⟩; decide)
  have value_trimmed : Text.Trimmed "v(=).é".toList := by constructor <;> (rintro _ ⟨⟩; decide)
  rcases member with rfl | rfl | rfl
  · exact .field (by decide) (by decide) (by decide)
  · exact .select (by decide) (by decide) key_trimmed (by decide) (by decide) (by decide)
      value_trimmed nested_value
  · exact .field (by decide) (by decide) (by decide)

theorem parse_in_parts_dotted :
    (∀ s ∈ dotted, s.Writable) ∧ Nested "v(=).é".toList ∧
    (∀ q ∈ ["", "a)", "", "rows(id"].dropLast, openAfter 0 q.toList = 0) ∧
    parse "a).rows(at.key=v(=).é).name" = .ok dotted ∧
    parse "v(=).é.rows(id" = parse "v(=).é" >>= (fun path => (path ++ ·) <$> parse "rows(id") ∧
    parse ".a)..rows(id" = parse "a).rows(id" := by
  have closed : ∀ q ∈ ["", "a)", "", "rows(id"].dropLast, openAfter 0 q.toList = 0 := by decide
  obtain ⟨written, appended, filtered⟩ := parse_in_parts
  refine ⟨dotted_writable, nested_value, closed, written dotted dotted_writable, ?_, ?_⟩
  · exact appended "v(=).é" "rows(id" nested_value
  · exact (filtered _ closed).symm

end Path

end PluginHost
