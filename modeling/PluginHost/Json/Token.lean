import PluginHost.Json.Basic

/-!
Tokens of JSON text. Every token knows the byte offset of its first character and of the first
character after it; a token that cannot be completed says why and where reading stopped.
-/

set_option autoImplicit false

namespace PluginHost.Json

inductive ReadError where
  | endInList
  | endInObject
  | endInString
  | endInValue
  | expectedColon
  | expectedListCommaOrEnd
  | expectedObjectCommaOrEnd
  | expectedIdent
  | expectedValue
  | invalidEscape
  | invalidNumber
  | numberOutOfRange
  | controlCharacter
  | keyMustBeString
  | loneSurrogate
  | trailingComma
  | trailingCharacters
  | endOfHexEscape
  | recursionLimit
deriving DecidableEq, Repr

def ReadError.message : ReadError → String
  | .endInList => "EOF while parsing a list"
  | .endInObject => "EOF while parsing an object"
  | .endInString => "EOF while parsing a string"
  | .endInValue => "EOF while parsing a value"
  | .expectedColon => "expected `:`"
  | .expectedListCommaOrEnd => "expected `,` or `]`"
  | .expectedObjectCommaOrEnd => "expected `,` or `\x7d`"
  | .expectedIdent => "expected ident"
  | .expectedValue => "expected value"
  | .invalidEscape => "invalid escape"
  | .invalidNumber => "invalid number"
  | .numberOutOfRange => "number out of range"
  | .controlCharacter =>
    "control character (\\u0000-\\u001F) found while parsing a string"
  | .keyMustBeString => "key must be a string"
  | .loneSurrogate => "lone leading surrogate in hex escape"
  | .trailingComma => "trailing comma"
  | .trailingCharacters => "trailing characters"
  | .endOfHexEscape => "unexpected end of hex escape"
  | .recursionLimit => "recursion limit exceeded"

/-- An error and the number of bytes before the place it is reported at. -/
structure Failure where
  error : ReadError
  offset : Nat
deriving DecidableEq, Repr

/-- What is left to read and where it starts. -/
structure Cursor where
  offset : Nat
  rest : List Char

namespace Cursor

def next (c : Cursor) (ch : Char) (rest : List Char) : Cursor := ⟨c.offset + ch.utf8Size, rest⟩

def fail {α : Type} (c : Cursor) (e : ReadError) : Except Failure α := .error ⟨e, c.offset⟩

/-- Reports the error just after the first byte of what comes next. -/
def failNext {α : Type} (c : Cursor) (e : ReadError) : Except Failure α := .error ⟨e, c.offset + 1⟩

/-- Like `failNext`, but stays at the end of the text. -/
def failPeek {α : Type} (c : Cursor) (e : ReadError) : Except Failure α :=
  .error ⟨e, if c.rest.isEmpty then c.offset else c.offset + 1⟩

def peekDigit (c : Cursor) : Option Nat :=
  match c.rest with
  | ch :: _ => if ch.isDigit then some (ch.toNat - 48) else none
  | [] => none

def skip (c : Cursor) : Cursor :=
  match c.rest with
  | ch :: rest => c.next ch rest
  | [] => c

end Cursor

/-- The spelling after the first letter of `null`, `true` or `false`. -/
def readIdent : (expected : List Char) → Cursor → Except Failure Cursor
  | [], c => .ok c
  | e :: expected, c =>
    match c.rest with
    | [] => c.fail .endInValue
    | ch :: rest =>
      if ch = e then readIdent expected (c.next ch rest) else c.failNext .expectedIdent

/-! ### Strings -/

def hexValue (c : Char) : Option Nat :=
  if c.isDigit then some (c.toNat - 48)
  else if 'a' ≤ c ∧ c ≤ 'f' then some (c.toNat - 87)
  else if 'A' ≤ c ∧ c ≤ 'F' then some (c.toNat - 55)
  else none

def byteLength (cs : List Char) : Nat := cs.foldr (fun c n => c.utf8Size + n) 0

def endOfText (c : Cursor) : Cursor := ⟨c.offset + byteLength c.rest, []⟩

/-- Four hexadecimal digits. The four bytes are taken before they are looked at. -/
def readHex (c : Cursor) : Except Failure (Nat × Cursor) :=
  if byteLength c.rest < 4 then (endOfText c).fail .endInString
  else
    match c.rest with
    | a :: b :: d :: e :: rest =>
      match hexValue a, hexValue b, hexValue d, hexValue e with
      | some a, some b, some d, some e =>
        .ok (((a * 16 + b) * 16 + d) * 16 + e, ⟨c.offset + 4, rest⟩)
      | _, _, _, _ => .error ⟨.invalidEscape, c.offset + 4⟩
    | _ => .error ⟨.invalidEscape, c.offset + 4⟩

def expectLow (c : Cursor) (wanted : Char) : Except Failure Cursor :=
  match c.rest with
  | [] => c.fail .endInString
  | ch :: rest =>
    if ch = wanted then .ok (c.next ch rest)
    else c.failNext .endOfHexEscape

/-- The character of a `\u` escape; characters beyond the first plane are written as two. -/
def readUnicode (c : Cursor) : Except Failure (Char × Cursor) := do
  let (high, c) ← readHex c
  if 0xDC00 ≤ high ∧ high ≤ 0xDFFF then c.fail .loneSurrogate
  else if 0xD800 ≤ high ∧ high ≤ 0xDBFF then do
    let c ← expectLow c '\\'
    let c ← expectLow c 'u'
    let (low, c) ← readHex c
    if 0xDC00 ≤ low ∧ low ≤ 0xDFFF then
      .ok (Char.ofNat ((high - 0xD800) * 0x400 + (low - 0xDC00) + 0x10000), c)
    else c.fail .loneSurrogate
  else .ok (Char.ofNat high, c)

def simpleEscape : Char → Option Char
  | '"' => some '"'
  | '\\' => some '\\'
  | '/' => some '/'
  | 'b' => some '\x08'
  | 'f' => some '\x0c'
  | 'n' => some '\n'
  | 'r' => some '\r'
  | 't' => some '\t'
  | _ => none

def readEscape (c : Cursor) : Except Failure (Char × Cursor) :=
  match c.rest with
  | [] => c.fail .endInString
  | ch :: rest =>
    let after := c.next ch rest
    if ch = 'u' then readUnicode after
    else
      match simpleEscape ch with
      | some e => .ok (e, after)
      | none => c.failNext .invalidEscape

/-- The body of a string after its opening quote. Each step consumes at least one character, so
the number of characters left is enough steps. -/
def readString : (steps : Nat) → Cursor → (acc : List Char) → Except Failure (String × Cursor)
  | 0, c, _ => c.fail .endInString
  | steps + 1, c, acc =>
    match c.rest with
    | [] => c.fail .endInString
    | ch :: rest =>
      let after := c.next ch rest
      if ch = '"' then .ok (String.ofList acc.reverse, after)
      else if ch = '\\' then
        match readEscape after with
        | .ok (e, c) => readString steps c (e :: acc)
        | .error f => .error f
      else if ch.toNat < 32 then after.fail .controlCharacter
      else readString steps after (ch :: acc)

/-! ### Numbers -/

/-- Digits that follow, as long as the value stays below `2 ^ 64`. -/
def readSignificand : (steps : Nat) → (value count : Nat) → Cursor → Nat × Nat × Cursor
  | 0, value, count, c => (value, count, c)
  | steps + 1, value, count, c =>
    match c.peekDigit with
    | some d =>
      let value' := value * 10 + d
      if value' < Word.size then readSignificand steps value' (count + 1) c.skip
      else (value, count, c)
    | none => (value, count, c)

/-- Skips digits and counts them. -/
def skipDigits : (steps : Nat) → (count : Nat) → Cursor → Nat × Cursor
  | 0, count, c => (count, c)
  | steps + 1, count, c =>
    match c.peekDigit with
    | some _ => skipDigits steps (count + 1) c.skip
    | none => (count, c)

def powerOfTen (n : Nat) : Float := Float.ofScientific 1 false n

/-- `f * 10 ^ e` by one multiplication or division; exponents below `-308` are reached by first
dividing by `1e308`. `none` is an overflow. -/
def scaleByTen (f : Float) (e : Int) : Option Float :=
  if 0 ≤ e then
    if e ≤ 308 then
      let x := f * powerOfTen e.toNat
      if x.isInf then none else some x
    else if f == 0 then some f else none
  else if -308 ≤ e then some (f / powerOfTen (-e).toNat)
  else if -616 ≤ e then some (f / powerOfTen 308 / powerOfTen (-(e + 308)).toNat)
  else some 0

def signed (positive : Bool) (f : Float) : Double := .ofFloat (if positive then f else -f)

def doubleOf (positive : Bool) (significand : Nat) (e : Int) (c : Cursor) :
    Except Failure (Number × Cursor) :=
  match scaleByTen (Float.ofNat significand) e with
  | some f => .ok (.double (signed positive f), c)
  | none => c.fail .numberOutOfRange

/-- The largest exponent that is still computed with. -/
def exponentLimit : Nat := 0x7fffffff

def readExponentDigits : (steps : Nat) → (value : Nat) → Cursor → Option Nat × Cursor
  | 0, value, c => (some value, c)
  | steps + 1, value, c =>
    match c.peekDigit with
    | some d =>
      let value' := value * 10 + d
      if value' ≤ exponentLimit then readExponentDigits steps value' c.skip else (none, c.skip)
    | none => (some value, c)

/-- The part of a number after its `e`. -/
def readExponent (positive : Bool) (significand : Nat) (start : Int) (c : Cursor) :
    Except Failure (Number × Cursor) :=
  let (upward, c) :=
    match c.rest with
    | '+' :: _ => (true, c.skip)
    | '-' :: _ => (false, c.skip)
    | _ => (true, c)
  match c.rest with
  | [] => c.fail .endInValue
  | ch :: _ =>
    if !ch.isDigit then c.failNext .invalidNumber
    else
      match readExponentDigits c.rest.length 0 c with
      | (some e, c) =>
        doubleOf positive significand (if upward then start + e else start - e) c
      | (none, c) =>
        if significand ≠ 0 ∧ upward then c.fail .numberOutOfRange
        else
          let (_, c) := skipDigits c.rest.length 0 c
          .ok (.double (signed positive 0), c)

def afterDigits (positive : Bool) (significand : Nat) (e : Int) (c : Cursor) :
    Except Failure (Number × Cursor) :=
  match c.rest with
  | 'e' :: _ | 'E' :: _ => readExponent positive significand e c.skip
  | _ => doubleOf positive significand e c

/-- The part of a number after its point. Digits that would take the significand beyond 64 bits
are skipped. -/
def readDecimal (positive : Bool) (significand : Nat) (start : Int) (c : Cursor) :
    Except Failure (Number × Cursor) :=
  let (value, count, after) := readSignificand c.rest.length significand 0 c
  match after.peekDigit with
  | some _ =>
    let (_, rest) := skipDigits after.rest.length 0 after
    afterDigits positive value (start - count) rest
  | none =>
    if count = 0 then
      if after.rest.isEmpty then after.failPeek .endInValue else after.failPeek .invalidNumber
    else afterDigits positive value (start - count) after

def integerOf (positive : Bool) (n : Nat) : Number :=
  if positive then .ofInt n
  else if n = 0 ∨ Word.half < n then .double (signed false (Float.ofNat n))
  else .ofInt (-n)

/-- A number from its first digit on. -/
def readNumber (positive : Bool) (c : Cursor) : Except Failure (Number × Cursor) :=
  match c.rest with
  | [] => c.fail .endInValue
  | ch :: _ =>
    if !ch.isDigit then c.failNext .invalidNumber
    else if ch = '0' ∧ c.skip.peekDigit.isSome then c.skip.failPeek .invalidNumber
    else
      let (value, _, after) := readSignificand c.rest.length 0 0 c
      let (surplus, after) := skipDigits after.rest.length 0 after
      match after.rest with
      | '.' :: _ => readDecimal positive value surplus after.skip
      | 'e' :: _ | 'E' :: _ => readExponent positive value surplus after.skip
      | _ =>
        if surplus = 0 then .ok (integerOf positive value, after)
        else doubleOf positive value surplus after

/-! ### Tokens -/

inductive Token where
  | openList
  | closeList
  | openObject
  | closeObject
  | comma
  | colon
  | string (s : String)
  | scalar (v : Json)
  | badString (f : Failure)
  | bad (f : Failure)
deriving Repr

def wordToken (v : Json) (expected : List Char) (c : Cursor) : Token × Cursor :=
  match readIdent expected c with
  | .ok c => (.scalar v, c)
  | .error f => (.bad f, ⟨c.offset, []⟩)

def numberToken (positive : Bool) (c : Cursor) : Token × Cursor :=
  match readNumber positive c with
  | .ok (n, c) => (.scalar (.number n), c)
  | .error f => (.bad f, ⟨c.offset, []⟩)

def stringToken (c : Cursor) : Token × Cursor :=
  match readString (c.rest.length + 1) c [] with
  | .ok (s, c) => (.string s, c)
  | .error f => (.badString f, ⟨c.offset, []⟩)

/-- The token that starts with `ch`; `c` stands before it and `after` behind it. -/
def tokenAt (ch : Char) (c after : Cursor) : Token × Cursor :=
  match ch with
  | '[' => (.openList, after)
  | ']' => (.closeList, after)
  | '\x7b' => (.openObject, after)
  | '\x7d' => (.closeObject, after)
  | ',' => (.comma, after)
  | ':' => (.colon, after)
  | '"' => stringToken after
  | 'n' => wordToken .null "ull".toList after
  | 't' => wordToken (.bool true) "rue".toList after
  | 'f' => wordToken (.bool false) "alse".toList after
  | '-' => numberToken false after
  | _ =>
    if ch.isDigit then numberToken true c
    else (.bad ⟨.expectedValue, c.offset + 1⟩, ⟨c.offset, []⟩)

def isBlank (c : Char) : Bool := c = ' ' || c = '\n' || c = '\t' || c = '\r'

/-- The tokens of what is left, each with its offset; a bad one is the last. Each step consumes
at least one character. -/
def tokens : (steps : Nat) → Cursor → List (Token × Nat)
  | 0, _ => []
  | steps + 1, c =>
    match c.rest with
    | [] => []
    | ch :: rest =>
      let after := c.next ch rest
      if isBlank ch then tokens steps after
      else
        let (t, stop) := tokenAt ch c after
        (t, c.offset) :: tokens steps stop

end PluginHost.Json
