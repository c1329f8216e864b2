import PluginHost.Json.Print
import PluginHost.Text.Quoted

/-!
Decoding JSON values into typed ones. An error says what was found and what was wanted.
-/

set_option autoImplicit false

namespace PluginHost

inductive DecodeError where
  | invalidType (found : Json) (expected : String)
  | invalidValue (found : Json) (expected : String)
  | missingField (field : String)
  | duplicateField (field : String)
  | unknownVariant (found : String) (expected : List String)
  | invalidLength (length : Nat) (expected : String)
deriving DecidableEq, Repr

namespace DecodeError

/-- What a value is called when it is not what was wanted. -/
def nameOf : Json → String
  | .null => "null"
  | .bool b => s!"boolean `{b}`"
  | .number (.integer n) => s!"integer `{n.val}`"
  | .number (.double x) => s!"floating point `{x.toText}`"
  | .string s => s!"string {Text.quoted s}"
  | .array _ => "sequence"
  | .object _ => "map"

def quotedName (s : String) : String := s!"`{s}`"

def choices : List String → String
  | [] => "there are no variants"
  | [a] => "expected " ++ quotedName a
  | [a, b] => "expected " ++ quotedName a ++ " or " ++ quotedName b
  | names => "expected one of " ++ ", ".intercalate (names.map quotedName)

def message : DecodeError → String
  | .invalidType found expected => s!"invalid type: {nameOf found}, expected {expected}"
  | .invalidValue found expected => s!"invalid value: {nameOf found}, expected {expected}"
  | .missingField field => s!"missing field `{field}`"
  | .duplicateField field => s!"duplicate field `{field}`"
  | .unknownVariant found expected => s!"unknown variant `{found}`, {choices expected}"
  | .invalidLength length expected => s!"invalid length {length}, expected {expected}"

end DecodeError

abbrev Decoder (α : Type) := Json → Except DecodeError α

namespace Decode

def json : Decoder Json := fun v => .ok v.canonical

/-- An integer in the half-open range. -/
def intBetween (low high : Int) (name : String) : Decoder Int
  | .number (.integer n) =>
    if low ≤ n.val ∧ n.val < high then .ok n.val
    else .error (.invalidValue (.number (.integer n)) name)
  | v => .error (.invalidType v name)

def int64 : Decoder Int := intBetween (-Word.half) Word.half "i64"

def nat64 : Decoder Nat := fun v => (intBetween 0 Word.size "u64" v).map Int.toNat

def nat8 : Decoder Nat := fun v => (intBetween 0 256 "u8" v).map Int.toNat

def double : Decoder Double
  | .number (.integer n) => .ok (.ofFloat (Float.ofInt n.val))
  | .number (.double x) => .ok x
  | v => .error (.invalidType v "f64")

def bool : Decoder Bool
  | .bool b => .ok b
  | v => .error (.invalidType v "a boolean")

def string : Decoder String
  | .string s => .ok s
  | v => .error (.invalidType v "a string")

def char : Decoder Char
  | .string s =>
    match s.toList with
    | [c] => .ok c
    | _ => .error (.invalidValue (.string s) "a character")
  | v => .error (.invalidType v "a character")

def unit : Decoder Unit
  | .null => .ok ()
  | v => .error (.invalidType v "unit")

def option {α : Type} (d : Decoder α) : Decoder (Option α)
  | .null => .ok none
  | v => (d v).map some

def items {α : Type} (d : Decoder α) : List Json → Except DecodeError (List α)
  | [] => .ok []
  | v :: rest => do
    let a ← d v
    let as ← items d rest
    return a :: as

def list {α : Type} (d : Decoder α) : Decoder (List α)
  | .array vs => items d vs
  | v => .error (.invalidType v "a sequence")

def pair {α β : Type} (first : Decoder α) (second : Decoder β) : Decoder (α × β)
  | .array [] => .error (.invalidLength 0 "a tuple of size 2")
  | .array [v] => do
    let _ ← first v
    .error (.invalidLength 1 "a tuple of size 2")
  | .array (v :: w :: rest) => do
    let a ← first v
    let b ← second w
    if rest.isEmpty then return (a, b)
    else .error (.invalidLength (rest.length + 2) "fewer elements in array")
  | v => .error (.invalidType v "a tuple of size 2")

def fields : Decoder Fields
  | .object members => .ok (Fields.ofList (Json.canonicalFields members))
  | v => .error (.invalidType v "a map")

/-- One of several names, alone or as the key of a member that is null. -/
def variant {α : Type} (cases : List (String × α)) : Decoder α :=
  let pick (name : String) : Except DecodeError α :=
    match cases.lookup name with
    | some a => .ok a
    | none => .error (.unknownVariant name (cases.map (·.1)))
  fun
  | .string s => pick s
  | .object [(name, v)] => do
    let a ← pick name
    let () ← unit v
    return a
  | .object members => .error (.invalidValue (.object members) "map with a single key")
  | v => .error (.invalidType v "string or map")

/-- A field of a record: `check` refuses what does not decode, `optional` allows its absence. -/
structure Field where
  name : String
  check : Json → Except DecodeError Unit
  optional : Bool

def field {α : Type} (name : String) (d : Decoder α) : Field :=
  ⟨name, fun v => (d v).map fun _ => (), false⟩

def optionalField {α : Type} (name : String) (d : Decoder α) : Field :=
  ⟨name, fun v => (option d v).map fun _ => (), true⟩

def elements (n : Nat) : String := if n = 1 then "1 element" else s!"{n} elements"

/-- Checks members in the order they come; members with other names are ignored. -/
def checkMembers (fs : List Field) : (seen : List String) → Fields → Except DecodeError Unit
  | _, [] => .ok ()
  | seen, (name, v) :: rest =>
    match fs.find? fun f => f.name == name with
    | none => checkMembers fs seen rest
    | some f =>
      if seen.contains name then .error (.duplicateField name)
      else do
        let () ← f.check v
        checkMembers fs (name :: seen) rest

def pickMembers (members : Fields) : List Field → Except DecodeError (List Json)
  | [] => .ok []
  | f :: fs => do
    let v ←
      match Fields.get? members f.name with
      | some v => .ok v
      | none => if f.optional then .ok .null else .error (.missingField f.name)
    let vs ← pickMembers members fs
    return v :: vs

def checkItems (expected : String) : (index : Nat) → List Field → List Json →
    Except DecodeError Unit
  | _, [], _ => .ok ()
  | index, _ :: _, [] => .error (.invalidLength index expected)
  | index, f :: fs, v :: vs => do
    let () ← f.check v
    checkItems expected (index + 1) fs vs

/-- The values of a record's fields in their declared order, from an object or a list. -/
def recordValues (name : String) (fs : List Field) : Decoder (List Json)
  | .object members => do
    let () ← checkMembers fs [] members
    pickMembers members fs
  | .array vs => do
    let () ← checkItems s!"struct {name} with {elements fs.length}" 0 fs vs
    if fs.length < vs.length then .error (.invalidLength vs.length "fewer elements in array")
    else return vs
  | v => .error (.invalidType v s!"struct {name}")

end Decode

/-- How values of a type are written to JSON and read back. `encode` lists members in their
declared order; a value may also have no JSON form, and then `encode` gives the reason. -/
structure Codec (α : Type) where
  encode : α → Except String Json
  decode : Decoder α

namespace Codec

variable {α : Type}

/-- For types all of whose values have a JSON form. -/
def total (encode : α → Json) (decode : Decoder α) : Codec α := ⟨fun a => .ok (encode a), decode⟩

def json : Codec Json := total id Decode.json

end Codec

end PluginHost
