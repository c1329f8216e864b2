import PluginHost.Document.Path
import PluginHost.Json.Decode

/-!
Reading and patching a document at a path. Objects merge member by member, everything else is
replaced.
-/

set_option autoImplicit false

namespace PluginHost

mutual
/-- Merges `data` into a value: objects member by member, anything else replaced. -/
def Json.merge : Json → (data : Json) → Json
  | .object existing, .object incoming => .object (Fields.merge existing incoming)
  | _, data => data

def Fields.merge : Fields → (incoming : List (String × Json)) → Fields
  | existing, [] => existing
  | existing, (key, v) :: rest =>
    match Fields.get? existing key with
    | some old => Fields.merge (Fields.insert existing key (old.merge v)) rest
    | none => Fields.merge (Fields.insert existing key v) rest
end

/-- A change of a document in its place: whether it succeeded, and what stands there then. -/
abbrev Change := Json → Except PluginError Unit × Json

namespace Segment

/-- Whether an element of a list has the member `key` with the text `value`. -/
def selects (key value : String) (element : Json) : Bool :=
  match element.get? key with
  | some v => v.plainText == value
  | none => false

def step (target : Json) : Segment → Option Json
  | .field name => target.get? name
  | .select list key value => do
    let items ← (← target.get? list).items?
    items.find? (selects key value)

/-- Changes the first element that satisfies `p`; `none` if there is none. -/
def updateFirst (p : Json → Bool) (f : Change) :
    List Json → Option (Except PluginError Unit) × List Json
  | [] => (none, [])
  | v :: rest =>
    if p v then
      let (result, v) := f v
      (some result, v :: rest)
    else
      let (result, rest) := updateFirst p f rest
      (result, v :: rest)

/-- Puts a new value for the member that is there already. -/
def withMember (target : Json) (name : String) (v : Json) : Json :=
  match target with
  | .object fields => .object (Fields.insert fields name v)
  | _ => target

/-- Changes the value the segment leads to. -/
def update (f : Change) : Segment → Change
  | .field name, target =>
    match target.get? name with
    | some v =>
      let (result, v) := f v
      (result, withMember target name v)
    | none => (.error (.program s!"no field `{name}` in state"), target)
  | .select list key value, target =>
    match (target.get? list).bind Json.items? with
    | none => (.error (.program s!"`{list}` is not a list"), target)
    | some items =>
      match updateFirst (selects key value) f items with
      | (some result, items) => (result, withMember target list (.array items))
      | (none, _) => (.error (.program s!"no element of `{list}` with {key}={value}"), target)

end Segment

namespace Path

def follow (target : Json) : Path → Option Json
  | [] => some target
  | s :: rest => (s.step target).bind fun v => follow v rest

def update (f : Change) : Path → Change
  | [] => f
  | s :: rest => s.update (update f rest)

end Path

/-- The value `query` leads to in a document. -/
def fetch (target : Json) (query : String) : Except PluginError (Option Json) :=
  (Path.parse query).map fun path => path.follow target

/-- Data to merge at the place a query names. -/
structure Patch where
  query : String
  data : Json
deriving DecidableEq

namespace Patch

/-- Merges the data into a document at the query's place. -/
def write (p : Patch) : Change := fun target =>
  match Path.parse p.query with
  | .ok path => path.update (fun v => (.ok (), v.merge p.data)) target
  | .error e => (.error e, target)

/-- The document with the data merged into it, unless that was refused. -/
def apply (p : Patch) (target : Json) : Except PluginError Json :=
  let (result, target) := p.write target
  result.map fun () => target

def decode : Decoder Patch := fun v => do
  let fields := [Decode.field "query" Decode.string, Decode.field "data" Decode.json]
  match ← Decode.recordValues "Patch" fields v with
  | [query, data] => return ⟨← Decode.string query, ← Decode.json data⟩
  | _ => .error (.missingField "query")

/-- A request to update a state holds its patch in the member `patch`. -/
def toRequest (p : Patch) : Json :=
  .object [("patch", .object [("query", .string p.query), ("data", p.data)])]

def decodeRequest : Decoder Patch := fun v => do
  match ← Decode.recordValues "StateQuery" [Decode.field "patch" decode] v with
  | [patch] => decode patch
  | _ => .error (.missingField "patch")

end Patch

end PluginHost
