import PluginHost.Document.Patch
import PluginHost.Json.Read
import PluginHost.Program.Arity

/-!
The parameters of a program. Arguments arrive as JSON values; an argument that is missing counts as
null, and a text that does not decode is read once more as the JSON text of a value.
-/

set_option autoImplicit false

namespace PluginHost

namespace Codec

variable {α : Type}

/-- The JSON form of a value, with sorted members. -/
def toValue (c : Codec α) (a : α) : Except PluginError Json :=
  ((c.encode a).map Json.canonical).mapError .decode

def ofValue (c : Codec α) (v : Json) : Except PluginError α :=
  (c.decode v).mapError fun e => .decode e.message

end Codec

structure Param (α : Type) where
  name : String
  codec : Codec α

namespace Param

variable {α : Type}

def acceptsNull (p : Param α) : Bool := (p.codec.decode .null).toBool

/-- Reads the JSON text of a value. -/
def decodeText (p : Param α) (s : String) : Option α :=
  match Json.parseRaw s with
  | .ok v => (p.codec.decode v).toOption
  | .error _ => none

/-- Decodes the argument at a position, counted from zero. -/
def decodeArg (p : Param α) (index : Nat) : Option Json → Except PluginError α
  | none =>
    match p.codec.decode .null with
    | .ok a => .ok a
    | .error _ => .error (.decode s!"missing argument {index + 1} ({p.name})")
  | some v =>
    match p.codec.decode v with
    | .ok a => .ok a
    | .error e =>
      match v.string?.bind p.decodeText with
      | some a => .ok a
      | none => .error (.decode s!"argument {index + 1}: {e.message}")

end Param

/-- Parameters in their order; their values are nested pairs. -/
inductive Params : Type → Type 1 where
  | nil : Params Unit
  | cons {α β : Type} (p : Param α) (rest : Params β) : Params (α × β)

namespace Params

variable {α : Type}

def types {α : Type} : Params α → List String
  | .nil => []
  | .cons p rest => p.name :: rest.types

/-- Which parameters refuse null. -/
def required {α : Type} : Params α → List Bool
  | .nil => []
  | .cons p rest => (!p.acceptsNull) :: rest.required

/-- Up to the last parameter that refuses null every argument is needed. -/
def minimum (ps : Params α) : Nat := (ps.required.reverse.dropWhile (· == false)).length

def decode {α : Type} : Params α → (index : Nat) → List Json → Except PluginError α
  | .nil, _, _ => .ok ()
  | .cons p rest, index, args => do
    let a ← p.decodeArg index args.head?
    let b ← rest.decode (index + 1) args.tail
    return (a, b)

def encode {α : Type} : Params α → α → Except PluginError (List Json)
  | .nil, () => .ok []
  | .cons p rest, (a, b) => do
    let v ← p.codec.toValue a
    let vs ← rest.encode b
    return v :: vs

end Params

inductive Signature : Type → Type 1 where
  | positional {α : Type} (ps : Params α) : Signature α
  | variadic {α : Type} (p : Param α) : Signature (List α)

namespace Signature

variable {α : Type}

def arity : Signature α → Arity
  | .positional ps => ⟨ps.minimum, some ps.required.length⟩
  | .variadic _ => ⟨0, none⟩

def types : Signature α → List String
  | .positional ps => ps.types
  | .variadic p => [p.name]

def decodeAll {α : Type} (p : Param α) : (index : Nat) → List Json → Except PluginError (List α)
  | _, [] => .ok []
  | index, v :: rest => do
    let a ← p.decodeArg index (some v)
    let as ← decodeAll p (index + 1) rest
    return a :: as

/-- Decodes arguments; those beyond the last parameter are ignored. -/
def decode {α : Type} : Signature α → List Json → Except PluginError α
  | .positional ps, args => ps.decode 0 args
  | .variadic p, args => decodeAll p 0 args

def encode {α : Type} : Signature α → α → Except PluginError (List Json)
  | .positional ps, a => ps.encode a
  | .variadic p, as => as.mapM p.codec.toValue

end Signature

namespace Codec

def int64 : Codec Int := total .int Decode.int64

def nat64 : Codec Nat := total .nat Decode.nat64

def nat8 : Codec Nat := total .nat Decode.nat8

def double : Codec Double := total (fun x => .number (.double x)) Decode.double

def bool : Codec Bool := total .bool Decode.bool

def string : Codec String := total .string Decode.string

def char : Codec Char := total (fun c => .string c.toString) Decode.char

def unit : Codec Unit := total (fun () => .null) Decode.unit

def option {α : Type} (c : Codec α) : Codec (Option α) :=
  ⟨fun a => (a.map c.encode).getD (.ok .null), Decode.option c.decode⟩

def list {α : Type} (c : Codec α) : Codec (List α) :=
  ⟨fun as => (as.mapM c.encode).map .array, Decode.list c.decode⟩

def patch : Codec Patch := total Patch.toRequest Patch.decodeRequest

end Codec

namespace Param

/-! Parameter types under the names that error messages and metadata give them. -/

def int64 : Param Int := ⟨"i64", .int64⟩

def nat64 : Param Nat := ⟨"u64", .nat64⟩

def nat8 : Param Nat := ⟨"u8", .nat8⟩

def double : Param Double := ⟨"f64", .double⟩

def bool : Param Bool := ⟨"bool", .bool⟩

def char : Param Char := ⟨"char", .char⟩

def unit : Param Unit := ⟨"()", .unit⟩

def string : Param String := ⟨"alloc::string::String", .string⟩

def json : Param Json := ⟨"serde_json::value::Value", .json⟩

def patch : Param Patch := ⟨"ribosome_core::query::StateQuery", .patch⟩

def option {α : Type} (p : Param α) : Param (Option α) :=
  ⟨s!"core::option::Option<{p.name}>", p.codec.option⟩

def list {α : Type} (p : Param α) : Param (List α) :=
  ⟨s!"alloc::vec::Vec<{p.name}>", p.codec.list⟩

end Param

end PluginHost
