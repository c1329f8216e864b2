import PluginHost.Proofs.Json.Nesting
import PluginHost.Proofs.Json.OneLine
import PluginHost.Proofs.Plugin.Catalog
import PluginHost.Session.Message
import PluginHost.Text.Utf8

/-!
Messages on lines. No text of a message breaks its line, whatever its strings hold, and the lines
that were written are the messages that are read.
-/

set_option autoImplicit false

namespace PluginHost

namespace Json

def wide (n : Nat) (fits : n < Word.size) : WideInt where
  val := n
  lower := by omega
  upper := Int.ofNat_lt.2 fits

theorem nat_eq_wide {n : Nat} (fits : n < Word.size) : nat n = .number (.integer (wide n fits)) := by
  rw [nat, int, ← ofInt_val]
  rfl

theorem nat_integral {n : Nat} (fits : n < Word.size) : (nat n).Integral := by
  rw [nat_eq_wide fits]
  simp [Integral]

theorem nat_ordered (n : Nat) : (nat n).Ordered := by
  simp [nat, int, Ordered]

theorem depth_nat (n : Nat) : (nat n).depth = 0 := by
  simp [nat, int, depth]

theorem nat64?_nat {n : Nat} (fits : n < Word.size) : (nat n).nat64? = some n := by
  have inRange : 0 ≤ (wide n fits).val ∧ (wide n fits).val < Word.size :=
    ⟨Int.natCast_nonneg n, (wide n fits).upper⟩
  rw [nat_eq_wide fits, nat64?, number?, Option.bind_some, Number.nat64?, Number.inRange?,
    Number.integer?, Option.filter_some, if_pos (by simpa using inRange)]
  rfl

theorem nat64?_eq_some {v : Json} {n : Nat} (read : v.nat64? = some n) :
    v = .nat n ∧ n < Word.size := by
  obtain ⟨number, there, read⟩ := Option.bind_eq_some_iff.1 read
  cases v with
  | number x =>
    obtain rfl := Option.some.inj there
    obtain ⟨i, filtered, rfl⟩ := Option.map_eq_some_iff.1 read
    obtain ⟨integer, inRange⟩ := Option.filter_eq_some_iff.1 filtered
    have range : 0 ≤ i ∧ i < Word.size := by simpa using inRange
    cases x with
    | integer w =>
      obtain rfl := Option.some.inj integer
      refine ⟨?_, by omega⟩
      rw [nat, int, Int.toNat_of_nonneg range.1, ofInt_val]
    | double x => nomatch integer
  | _ => nomatch there

end Json

namespace Text

theorem linesFrom_append (line : List Char) {body : List Char} (unbroken : '\n' ∉ body)
    (rest : List Char) : linesFrom line (body ++ rest) = linesFrom (body.reverse ++ line) rest := by
  induction body generalizing line with
  | nil => rfl
  | cons c more ih =>
    have other : c ≠ '\n' := fun same => unbroken (same ▸ List.mem_cons_self)
    have step : linesFrom line (c :: (more ++ rest)) = linesFrom (c :: line) (more ++ rest) := by
      rw [linesFrom]
      exact other
    rw [List.cons_append, step, ih (c :: line) fun member => unbroken (.tail c member)]
    simp

theorem lines_append (body : List Char) (unbroken : '\n' ∉ body) (rest : List Char) :
    linesFrom [] (body ++ ']' :: '\n' :: rest) = (body ++ [']']) :: linesFrom [] rest := by
  have whole : '\n' ∉ body ++ [']'] := by simp [unbroken]
  have split : body ++ ']' :: '\n' :: rest = (body ++ [']']) ++ '\n' :: rest := by simp
  rw [split, linesFrom_append [] whole]
  simp [linesFrom]

end Text

namespace Message

def id? : Message → Option Nat
  | .request id _ _ | .response id _ _ => some id
  | .notification _ _ => none

/-- The JSON values that a message carries. -/
def values : Message → List Json
  | .request _ _ args | .notification _ args => args
  | .response _ error result => [error, result]

/-- A message that keeps within what a line can carry: a number of 64 bits, documents without
doubles, and no more nesting than a reader takes. -/
structure Sendable (m : Message) : Prop where
  id : ∀ n ∈ m.id?, n < Word.size
  ordered : ∀ v ∈ m.values, v.Ordered
  integral : ∀ v ∈ m.values, v.Integral
  shallow : m.toJson.depth ≤ Json.nestingLimit

/-- The documents that are read as the message: no arguments may be written as null. -/
def spellings (m : Message) : List Json :=
  m.toJson :: match m with
    | .request id method [] => [.array [.nat 0, .nat id, .string method, .null]]
    | .notification method [] => [.array [.nat 2, .string method, .null]]
    | _ => []

variable {m : Message} {line : String}

section

-- Unfolded, a number looks for itself among the integers of 64 bits, and counts up to their bound.
attribute [local irreducible] Json.nat

theorem toJson_of_values {P : Json → Prop} (number : ∀ n < Word.size, P (.nat n))
    (string : ∀ s, P (.string s)) (list : ∀ items, (∀ v ∈ items, P v) → P (.array items))
    (id : ∀ n ∈ m.id?, n < Word.size) (values : ∀ v ∈ m.values, P v) : P m.toJson := by
  have kind : ∀ n < 3, P (.nat n) := fun n small => number n (Nat.lt_trans small (by decide))
  have parts : ∀ {v : Json} {rest : List Json}, P v → (∀ w ∈ rest, P w) → ∀ w ∈ v :: rest, P w :=
    fun first others => List.forall_mem_cons.2 ⟨first, others⟩
  cases m with
  | request n method args =>
    exact list _ (parts (kind 0 (by decide)) (parts (number n (id n rfl))
      (parts (string method) (parts (list args values) nofun))))
  | response n error result =>
    exact list _ (parts (kind 1 (by decide)) (parts (number n (id n rfl)) values))
  | notification method args =>
    exact list _ (parts (kind 2 (by decide)) (parts (string method) (parts (list args values) nofun)))

theorem Sendable.toJson_integral (sendable : m.Sendable) : m.toJson.Integral :=
  toJson_of_values (fun _ => Json.nat_integral) (fun s => by simp [Json.Integral])
    (fun _ => Json.integral_array_iff.2) sendable.id sendable.integral

theorem Sendable.toJson_ordered (sendable : m.Sendable) : m.toJson.Ordered :=
  toJson_of_values (fun n _ => Json.nat_ordered n) (fun s => by simp [Json.Ordered])
    (fun _ => Json.ordered_array_iff.2) sendable.id sendable.ordered

theorem idOf_nat {n : Nat} (fits : n < Word.size) : idOf (.nat n) = .ok n := by
  rw [idOf, Json.nat64?_nat fits]

theorem idOf_eq_ok {v : Json} {n : Nat} (done : idOf v = .ok n) : v = .nat n ∧ n < Word.size := by
  unfold idOf at done
  split at done
  next read =>
    cases done
    exact Json.nat64?_eq_some read
  next => nomatch done

theorem methodOf_eq_ok {v : Json} {method : String} (done : methodOf v = .ok method) :
    v = .string method := by
  unfold methodOf at done
  split at done
  next =>
    cases done
    rfl
  next => nomatch done

theorem argumentsOf_eq_ok {v : Json} {args : List Json} (done : argumentsOf v = .ok args) :
    v = .array args ∨ (v = .null ∧ args = []) := by
  unfold argumentsOf at done
  split at done
  next =>
    cases done
    exact .inl rfl
  next =>
    cases done
    exact .inr ⟨rfl, rfl⟩
  next => nomatch done

theorem Sendable.parse_append (sendable : m.Sendable) (blanks : String)
    (blank : ∀ c ∈ blanks.toList, Json.isBlank c = true) : parse (m.text ++ blanks) = .ok m := by
  have kind : ∀ n < 3, (Json.nat n).nat64? = some n := fun n small =>
    Json.nat64?_nat (Nat.lt_trans small (by decide))
  have number : ∀ n ∈ m.id?, idOf (.nat n) = .ok n := fun n member => idOf_nat (sendable.id n member)
  rw [parse, text, Json.parse_render_append sendable.toJson_ordered sendable.toJson_integral
    sendable.shallow blanks blank]
  cases m with
  | request n method args =>
    simp only [toJson, ofParts, List.head?_cons, Option.bind_some, kind 0 (by decide), number n rfl]
    rfl
  | response n error result =>
    simp only [toJson, ofParts, List.head?_cons, Option.bind_some, kind 1 (by decide), number n rfl]
    rfl
  | notification method args =>
    simp only [toJson, ofParts, List.head?_cons, Option.bind_some, kind 2 (by decide)]
    rfl

theorem Sendable.parse_text (sendable : m.Sendable) : parse m.text = .ok m := by
  simpa using sendable.parse_append "" nofun

theorem Sendable.parse_encode (sendable : m.Sendable) : parse m.encode = .ok m :=
  sendable.parse_append "\n" (by simp [Json.isBlank])

end

theorem ofParts_eq_ok {parts : List Json} (done : ofParts line parts = .ok m) :
    .array parts ∈ m.spellings ∧ ∀ n ∈ m.id?, n < Word.size := by
  unfold ofParts at done
  split at done
  next kind id method args first =>
    obtain ⟨n, number, done⟩ := exists_of_bind_eq_ok done
    obtain ⟨name, string, done⟩ := exists_of_bind_eq_ok done
    obtain ⟨arguments, list, done⟩ := exists_of_bind_eq_ok done
    cases done
    obtain ⟨rfl, -⟩ := Json.nat64?_eq_some first
    obtain ⟨rfl, fits⟩ := idOf_eq_ok number
    obtain rfl := methodOf_eq_ok string
    refine ⟨?_, fun k member => by cases member; exact fits⟩
    obtain rfl | ⟨rfl, rfl⟩ := argumentsOf_eq_ok list
    · exact List.mem_cons_self
    · exact .tail _ List.mem_cons_self
  next kind id error result first =>
    obtain ⟨n, number, done⟩ := exists_of_bind_eq_ok done
    cases done
    obtain ⟨rfl, -⟩ := Json.nat64?_eq_some first
    obtain ⟨rfl, fits⟩ := idOf_eq_ok number
    exact ⟨List.mem_cons_self, fun k member => by cases member; exact fits⟩
  next kind method args first =>
    obtain ⟨name, string, done⟩ := exists_of_bind_eq_ok done
    obtain ⟨arguments, list, done⟩ := exists_of_bind_eq_ok done
    cases done
    obtain ⟨rfl, -⟩ := Json.nat64?_eq_some first
    obtain rfl := methodOf_eq_ok string
    refine ⟨?_, nofun⟩
    obtain rfl | ⟨rfl, rfl⟩ := argumentsOf_eq_ok list
    · exact List.mem_cons_self
    · exact .tail _ List.mem_cons_self
  next => nomatch done

theorem parse_eq_ok (parsed : parse line = .ok m) :
    (∃ v ∈ m.spellings, Json.parse line = .ok v) ∧ ∀ n ∈ m.id?, n < Word.size := by
  unfold parse at parsed
  split at parsed
  next parts read =>
    obtain ⟨spelled, fits⟩ := ofParts_eq_ok parsed
    exact ⟨⟨.array parts, spelled, read⟩, fits⟩
  next => nomatch parsed
  next => nomatch parsed

theorem depth_toJson_le {v : Json} (spelled : v ∈ m.spellings) (shallow : v.depth ≤ Json.nestingLimit) :
    m.toJson.depth ≤ Json.nestingLimit := by
  obtain rfl | other := List.mem_cons.1 spelled
  · exact shallow
  · -- Null is no container, unlike the empty list that is written for it.
    split at other
    · simp [toJson, Json.depth, Json.depthItems, Json.depth_nat, Json.nestingLimit]
    · simp [toJson, Json.depth, Json.depthItems, Json.depth_nat, Json.nestingLimit]
    · nomatch other

theorem values_ordered {v : Json} (spelled : v ∈ m.spellings) (ordered : v.Ordered) :
    ∀ w ∈ m.values, w.Ordered := by
  obtain rfl | other := List.mem_cons.1 spelled
  · cases m with
    | request n method args =>
      exact Json.ordered_array_iff.1 (Json.ordered_array_iff.1 ordered (.array args) (by simp))
    | response n error result =>
      exact fun w member => Json.ordered_array_iff.1 ordered w (.tail _ (.tail _ member))
    | notification method args =>
      exact Json.ordered_array_iff.1 (Json.ordered_array_iff.1 ordered (.array args) (by simp))
  · split at other
    · nofun
    · nofun
    · nomatch other

theorem sendable_of_parse (parsed : parse line = .ok m) (integral : ∀ v ∈ m.values, v.Integral) :
    m.Sendable := by
  obtain ⟨⟨v, spelled, read⟩, fits⟩ := parse_eq_ok parsed
  obtain ⟨ordered, shallow⟩ := Json.parse_wellFormed read
  exact ⟨fits, values_ordered spelled ordered, integral, depth_toJson_le spelled shallow⟩

theorem exists_text (integral : m.toJson.Integral) :
    ∃ body, '\n' ∉ body ∧ m.text.toList = body ++ [']'] := by
  have unbroken := Json.newline_not_mem_chars _ integral
  have ending : ∃ body, m.toJson.chars = body ++ [']'] := by
    cases m with
    | request n method args => exact Json.exists_chars_list _
    | response n error result => exact Json.exists_chars_list _
    | notification method args => exact Json.exists_chars_list _
  obtain ⟨body, whole⟩ := ending
  rw [whole] at unbroken
  exact ⟨body, fun member => unbroken (List.mem_append_left _ member), by
    rw [text, Json.render, String.toList_ofList, whole]⟩

theorem toList_encode (m : Message) : m.encode.toList = m.text.toList ++ ['\n'] := by
  simp [encode]

theorem lines_join {ms : List Message} (integral : ∀ m ∈ ms, m.toJson.Integral) :
    Text.lines (String.join (ms.map encode)) = ms.map text := by
  rw [Text.lines, String.toList_join]
  induction ms with
  | nil => rfl
  | cons m rest ih =>
    obtain ⟨each, others⟩ := List.forall_mem_cons.1 integral
    obtain ⟨body, unbroken, whole⟩ := exists_text each
    have line : String.ofList (body ++ [']']) = m.text := by rw [← whole, String.ofList_toList]
    have shape : m.encode.toList = body ++ [']', '\n'] := by rw [toList_encode, whole]; simp
    simp only [List.map_cons, List.flatMap_cons, shape, List.append_assoc, List.cons_append,
      List.nil_append, Text.lines_append body unbroken, line, ih others]

theorem Sendable.parse_lines {ms : List Message} (sendable : ∀ m ∈ ms, m.Sendable) :
    (Text.lines (String.join (ms.map encode))).map parse = ms.map .ok := by
  rw [lines_join fun m member => (sendable m member).toJson_integral, List.map_map]
  exact List.map_congr_left fun m member => (sendable m member).parse_text

/-- The messages that were sent are the messages that are received, one on each line. A message that
was received can be sent on: it is written in one of its spellings, and received as it was. -/
theorem framing :
    (∀ ms : List Message, (∀ m ∈ ms, m.Sendable) →
      (∀ m ∈ ms, ∃ body, m.encode.toList = body ++ ['\n'] ∧ '\n' ∉ body) ∧
      (Text.lines (String.join (ms.map encode))).map parse = ms.map .ok) ∧
    (∀ (line : String) (m : Message), parse line = .ok m → (∀ v ∈ m.values, v.Integral) →
      (∃ v ∈ m.spellings, Json.parse line = .ok v) ∧
      parse m.encode = .ok m ∧ (Text.lines m.encode).map parse = [.ok m]) := by
  refine ⟨fun ms sendable => ⟨fun m member => ?_, Sendable.parse_lines sendable⟩,
    fun line m parsed integral => ?_⟩
  · have unbroken := Json.newline_not_mem_chars _ (sendable m member).toJson_integral
    exact ⟨m.toJson.chars, by simp [encode, text, Json.render], unbroken⟩
  · have sendable := sendable_of_parse parsed integral
    have alone : (Text.lines (String.join ([m].map encode))).map parse = [m].map .ok :=
      Sendable.parse_lines (by simpa using sendable)
    exact ⟨(parse_eq_ok parsed).1, sendable.parse_encode, by simpa using alone⟩

/-- The largest number there is, and strings that would break the line. -/
def question : Message :=
  .request 18446744073709551615 "say\nit" [.string "two\nlines, \"quoted\"", .array [.null]]

def answer : Message := .response 7 .null (.object [("ok", .bool true)])

theorem question_sendable : question.Sendable where
  id n member := by
    cases member
    decide
  ordered := by simp [question, values, Json.Ordered, Json.OrderedItems]
  integral := by simp [question, values, Json.Integral, Json.IntegralItems]
  shallow := by
    simp [question, toJson, Json.depth, Json.depthItems, Json.depth_nat, Json.nestingLimit]

theorem answer_sendable : answer.Sendable where
  id n member := by
    cases member
    decide
  ordered := by simp [answer, values, Json.Ordered, Json.OrderedFields, Fields.Ordered]
  integral := by simp [answer, values, Json.Integral, Json.IntegralFields]
  shallow := by
    simp [answer, toJson, Json.depth, Json.depthItems, Json.depthFields, Json.depth_nat,
      Json.nestingLimit]

theorem framing_question :
    (∀ m ∈ [question, answer], m.Sendable) ∧
    (Text.lines (question.encode ++ answer.encode)).map parse = [.ok question, .ok answer] ∧
    parse "[0,7,\"ask\",null]" = .ok (.request 7 "ask" []) ∧
    parse (request 7 "ask" []).encode = .ok (.request 7 "ask" []) := by
  have sendable : ∀ m ∈ [question, answer], m.Sendable := by
    simp [question_sendable, answer_sendable]
  have read : (parse "[0,7,\"ask\",null]").toOption = some (.request 7 "ask" []) := by decide +kernel
  have parsed : parse "[0,7,\"ask\",null]" = .ok (.request 7 "ask" []) := by
    cases done : parse "[0,7,\"ask\",null]" with
    | ok m =>
      rw [done] at read
      exact congrArg Except.ok (Option.some.inj read)
    | error e =>
      rw [done] at read
      nomatch read
  have framed := (framing.1 [question, answer] sendable).2
  have again := framing.2 _ _ parsed nofun
  exact ⟨sendable, by simpa [String.join] using framed, parsed, again.2.1⟩

end Message

end PluginHost
