import PluginHost.Json.Token

/-!
Reading JSON text: a machine that consumes one token at a time and keeps the open containers on a
stack. `parseRaw` keeps members as they are written, `parse` yields a document.
-/

set_option autoImplicit false

namespace PluginHost.Json

/-- An open container: what it holds so far, latest first. -/
inductive Open where
  | list (items : List Json)
  | object (fields : List (String × Json)) (key : String)

inductive Expect where
  | value
  | firstItem
  | nextItem
  | firstKey
  | nextKey
  | colon (key : String)
  | separator
  | nothing
deriving DecidableEq, Repr

structure Machine where
  expect : Expect
  stack : List Open
  result : Json

def nestingLimit : Nat := 127

namespace Machine

def start : Machine := ⟨.value, [], .null⟩

/-- A complete value goes into the innermost open container. -/
def close (v : Json) : List Open → Machine
  | [] => ⟨.nothing, [], v⟩
  | .list items :: rest => ⟨.separator, .list (v :: items) :: rest, .null⟩
  | .object fields key :: rest => ⟨.separator, .object ((key, v) :: fields) "" :: rest, .null⟩

def failAt {α : Type} (offset : Nat) (e : ReadError) : Except Failure α := .error ⟨e, offset + 1⟩

def value (stack : List Open) (t : Token) (offset : Nat) : Except Failure Machine :=
  match t with
  | .scalar v => .ok (close v stack)
  | .string s => .ok (close (.string s) stack)
  | .badString f | .bad f => .error f
  | .openList =>
    if stack.length < nestingLimit then .ok ⟨.firstItem, .list [] :: stack, .null⟩
    else failAt offset .recursionLimit
  | .openObject =>
    if stack.length < nestingLimit then .ok ⟨.firstKey, .object [] "" :: stack, .null⟩
    else failAt offset .recursionLimit
  | .closeList | .closeObject | .comma | .colon => failAt offset .expectedValue

def key (stack : List Open) (t : Token) (offset : Nat) : Except Failure Machine :=
  match t with
  | .string s => .ok ⟨.colon s, stack, .null⟩
  | .badString f => .error f
  | _ => failAt offset .keyMustBeString

def separator (stack : List Open) (t : Token) (offset : Nat) : Except Failure Machine :=
  match stack, t with
  | .list items :: rest, .closeList => .ok (close (.array items.reverse) rest)
  | .list items :: rest, .comma => .ok ⟨.nextItem, .list items :: rest, .null⟩
  | .list _ :: _, _ => failAt offset .expectedListCommaOrEnd
  | .object fields _ :: rest, .closeObject => .ok (close (.object fields.reverse) rest)
  | .object fields k :: rest, .comma => .ok ⟨.nextKey, .object fields k :: rest, .null⟩
  | .object _ _ :: _, _ => failAt offset .expectedObjectCommaOrEnd
  | [], _ => failAt offset .trailingCharacters

def step (m : Machine) (t : Token) (offset : Nat) : Except Failure Machine :=
  match m.expect, t with
  | .firstItem, .closeList => separator m.stack t offset
  | .nextItem, .closeList => failAt offset .trailingComma
  | .value, _ | .firstItem, _ | .nextItem, _ => value m.stack t offset
  | .firstKey, .closeObject => separator m.stack t offset
  | .nextKey, .closeObject => failAt offset .trailingComma
  | .firstKey, _ | .nextKey, _ => key m.stack t offset
  | .colon k, .colon =>
    match m.stack with
    | .object fields _ :: rest => .ok ⟨.value, .object fields k :: rest, .null⟩
    | _ => failAt offset .expectedColon
  | .colon _, _ => failAt offset .expectedColon
  | .separator, _ => separator m.stack t offset
  | .nothing, _ => failAt offset .trailingCharacters

def run (m : Machine) : List (Token × Nat) → Except Failure Machine
  | [] => .ok m
  | (t, offset) :: rest =>
    match m.step t offset with
    | .ok m => m.run rest
    | .error f => .error f

/-- What is missing when the text ends here. -/
def missing (m : Machine) : Option ReadError :=
  match m.expect, m.stack with
  | .nothing, _ => none
  | .firstItem, _ => some .endInList
  | .firstKey, _ | .colon _, _ => some .endInObject
  | .separator, .list _ :: _ => some .endInList
  | .separator, _ => some .endInObject
  | .value, _ | .nextItem, _ | .nextKey, _ => some .endInValue

end Machine

def readChars (cs : List Char) : Except Failure Json :=
  match Machine.start.run (tokens cs.length ⟨0, cs⟩) with
  | .error f => .error f
  | .ok m =>
    match m.missing with
    | some e => .error ⟨e, byteLength cs⟩
    | none => .ok m.result

/-- Line and column of the place `offset` bytes into the text, both as they are reported: lines
count from one, columns are the bytes since the last line break. -/
def position : (offset : Nat) → List Char → (line column : Nat) → Nat × Nat
  | _, [], line, column => (line, column)
  | offset, c :: rest, line, column =>
    if offset < c.utf8Size then (line, column + offset)
    else if c = '\n' then position (offset - 1) rest (line + 1) 0
    else position (offset - c.utf8Size) rest line (column + c.utf8Size)

def Failure.describe (f : Failure) (cs : List Char) : String :=
  let (line, column) := position f.offset cs 1 0
  s!"{f.error.message} at line {line} column {column}"

/-- The value a text stands for, members as they are written. -/
def parseRaw (s : String) : Except String Json :=
  match readChars s.toList with
  | .ok v => .ok v
  | .error f => .error (f.describe s.toList)

def parse (s : String) : Except String Json := (parseRaw s).map canonical

end PluginHost.Json
