import PluginHost.Effect.Basic
import PluginHost.Plugin.Component

/-!
The types that described plugins are made of: a few kinds of component states, data that is either
a counter or any JSON value, and the parameter types of programs.
-/

set_option autoImplicit false

namespace PluginHost.Scripted

structure Counter where
  counter : Int
deriving DecidableEq, Repr

structure Inner where
  x : Int
deriving DecidableEq, Repr

structure Other where
  y : Int
deriving DecidableEq, Repr

structure Notes where
  title : String
  tags : List String
  ratio : Option Double
deriving DecidableEq, Repr

/-- Decodes a record with one integer. -/
def decodeInt (name member : String) : Decoder Int := fun v => do
  match ← Decode.recordValues name [Decode.field member Decode.int64] v with
  | [n] => Decode.int64 n
  | _ => .error (.missingField member)

namespace Counter

def encode (c : Counter) : Json := .object [("counter", .int c.counter)]

def decode : Decoder Counter := fun v => (decodeInt "Counter" "counter" v).map Counter.mk

end Counter

namespace Inner

def encode (c : Inner) : Json := .object [("x", .int c.x)]

def decode : Decoder Inner := fun v => (decodeInt "Inner" "x" v).map Inner.mk

end Inner

namespace Other

def encode (c : Other) : Json := .object [("y", .int c.y)]

def decode : Decoder Other := fun v => (decodeInt "Other" "y" v).map Other.mk

end Other

namespace Notes

def encode (n : Notes) : Json :=
  .object [("title", .string n.title), ("tags", .strings n.tags),
    ("ratio", (n.ratio.map fun x => .number (.double x)).getD .null)]

def decode : Decoder Notes := fun v => do
  let tags := Decode.list Decode.string
  let fields := [Decode.field "title" Decode.string, Decode.field "tags" tags,
    Decode.optionalField "ratio" Decode.double]
  match ← Decode.recordValues "Notes" fields v with
  | [title, words, ratio] =>
    return ⟨← Decode.string title, ← tags words, ← Decode.option Decode.double ratio⟩
  | _ => .error (.missingField "title")

def codec : Codec Notes := .total encode decode

end Notes

inductive StateKind where
  | inner
  | other
  | notes
  | texts
deriving DecidableEq, Repr

namespace StateKind

def all : List StateKind := [.inner, .other, .notes, .texts]

def name : StateKind → String
  | .inner => "Inner"
  | .other => "Other"
  | .notes => "Notes"
  | .texts => "Vec"

@[reducible] def State : StateKind → Type
  | .inner => Inner
  | .other => Other
  | .notes => Notes
  | .texts => List String

def encode : (k : StateKind) → k.State → Json
  | .inner => Inner.encode
  | .other => Other.encode
  | .notes => Notes.encode
  | .texts => .strings

def toJson (k : StateKind) (v : k.State) : Json := (k.encode v).canonical

def decode : (k : StateKind) → Decoder k.State
  | .inner => Inner.decode
  | .other => Other.decode
  | .notes => Notes.decode
  | .texts => Decode.list Decode.string

def default : (k : StateKind) → k.State
  | .inner => ⟨0⟩
  | .other => ⟨0⟩
  | .notes => ⟨"", [], none⟩
  | .texts => []

end StateKind

inductive DataType where
  | json
  | counter
deriving DecidableEq, Repr

namespace DataType

@[reducible] def Data : DataType → Type
  | .json => Json
  | .counter => Counter

def encode : (d : DataType) → d.Data → Json
  | .json => id
  | .counter => Counter.encode

def toJson (d : DataType) (data : d.Data) : Json := (d.encode data).canonical

def decode : (d : DataType) → Decoder d.Data
  | .json => Decode.json
  | .counter => Counter.decode

end DataType

/-- Names of described code: programs by their place in the list of declarations, and two
interpreters of effects. -/
inductive CodeName where
  | program (index : Nat)
  | describing
  | mistaken
deriving DecidableEq, Repr

@[reducible] def schema (d : DataType) : Schema where
  Data := d.Data
  data := .total d.encode d.decode
  Kind := StateKind
  kindEq := inferInstance
  kindName := StateKind.name
  State := StateKind.State
  state k := .total k.encode k.decode
  Code := CodeName

inductive ParamType where
  | int64
  | nat8
  | nat64
  | double
  | bool
  | string
  | char
  | strings
  | json
  | optionalInt
  | optionalString
  | optionalJson
  | unit
  | level
  /-- Notes, under a name of the describing side. -/
  | notes (typeName : String)
  | query

/-- A parameter and the type of its values. -/
abbrev SomeParam := Σ α : Type, Param α

def ParamType.param : ParamType → SomeParam
  | .int64 => ⟨_, .int64⟩
  | .nat8 => ⟨_, .nat8⟩
  | .nat64 => ⟨_, .nat64⟩
  | .double => ⟨_, .double⟩
  | .bool => ⟨_, .bool⟩
  | .string => ⟨_, .string⟩
  | .char => ⟨_, .char⟩
  | .strings => ⟨_, .list .string⟩
  | .json => ⟨_, .json⟩
  | .optionalInt => ⟨_, .option .int64⟩
  | .optionalString => ⟨_, .option .string⟩
  | .optionalJson => ⟨_, .option .json⟩
  | .unit => ⟨_, .unit⟩
  | .level => ⟨_, ⟨"ribosome_core::output::EchoLevel", EchoLevel.codec⟩⟩
  | .notes typeName => ⟨_, ⟨typeName, Notes.codec⟩⟩
  | .query => ⟨_, .patch⟩

inductive SignatureExpr where
  | positional (ps : List ParamType)
  | variadic (p : ParamType)

abbrev SomeSignature := Σ α : Type, Signature α

def paramsOf : List ParamType → Σ α : Type, Params α
  | [] => ⟨Unit, .nil⟩
  | p :: rest => ⟨_, .cons p.param.2 (paramsOf rest).2⟩

def SignatureExpr.signature : SignatureExpr → SomeSignature
  | .positional ps => ⟨_, .positional (paramsOf ps).2⟩
  | .variadic p => ⟨_, .variadic p.param.2⟩

end PluginHost.Scripted
