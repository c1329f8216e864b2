import PluginHost.Json.Basic

/-!
Random identifiers in documents. Where identifiers must not show, they are named by the order in
which they first appear.
-/

set_option autoImplicit false

namespace PluginHost.Identifier

def isHex (c : Char) : Bool := c.isDigit || ('a' ≤ c && c ≤ 'f')

/-- The form of an identifier: `x` stands for any digit, `y` for one of four. -/
def form : List Char := "xxxxxxxx-xxxx-4xxx-yxxx-xxxxxxxxxxxx".toList

def fits (f c : Char) : Bool :=
  match f with
  | 'x' => isHex c
  | 'y' => c == '8' || c == '9' || c == 'a' || c == 'b'
  | _ => f == c

def startsWith : (form : List Char) → List Char → Bool
  | [], _ => true
  | _ :: _, [] => false
  | f :: form, c :: cs => fits f c && startsWith form cs

def nameOf (n : Nat) : String := "<uuid-" ++ toString n ++ ">"

/-- The place of an identifier among those that are known, and all that are known then. -/
def learn (known : List String) (id : String) : Nat × List String :=
  match known.findIdx? (· == id) with
  | some i => (i, known)
  | none => (known.length, known ++ [id])

/-- Names the identifiers in a text; `skip` counts characters that were read already. -/
def maskChars (known : List String) : (skip : Nat) → List Char → List Char × List String
  | _, [] => ([], known)
  | skip + 1, _ :: rest => maskChars known skip rest
  | 0, c :: rest =>
    if startsWith form (c :: rest) then
      let (i, known) := learn known (String.ofList ((c :: rest).take form.length))
      let (more, known) := maskChars known (form.length - 1) rest
      ((nameOf (i + 1)).toList ++ more, known)
    else
      let (more, known) := maskChars known 0 rest
      (c :: more, known)

def maskText (known : List String) (s : String) : String × List String :=
  if s.utf8ByteSize < form.length then (s, known)
  else
    let (cs, known) := maskChars known 0 s.toList
    (String.ofList cs, known)

mutual
/-- Names the identifiers in a document in the order of the document. -/
def mask (known : List String) : Json → Json × List String
  | .string s =>
    let (s, known) := maskText known s
    (.string s, known)
  | .array vs =>
    let (vs, known) := maskItems known vs
    (.array vs, known)
  | .object fields =>
    let (fields, known) := maskFields known fields
    (.object fields, known)
  | v => (v, known)

def maskItems (known : List String) : List Json → List Json × List String
  | [] => ([], known)
  | v :: rest =>
    let (v, known) := mask known v
    let (rest, known) := maskItems known rest
    (v :: rest, known)

def maskFields (known : List String) : List (String × Json) → List (String × Json) × List String
  | [] => ([], known)
  | (key, v) :: rest =>
    let (key, known) := maskText known key
    let (v, known) := mask known v
    let (rest, known) := maskFields known rest
    ((key, v) :: rest, known)
end

/-- The identifier with that name. -/
def named? (known : List String) (name : String) : Option String :=
  ((known.zipIdx).find? fun k => nameOf (k.2 + 1) == name).map (·.1)

mutual
/-- Puts identifiers in the place of their names. -/
def unmask (known : List String) : Json → Json
  | .string s => .string ((named? known s).getD s)
  | .array vs => .array (unmaskItems known vs)
  | .object fields => .object (unmaskFields known fields)
  | v => v

def unmaskItems (known : List String) : List Json → List Json
  | [] => []
  | v :: rest => unmask known v :: unmaskItems known rest

def unmaskFields (known : List String) : List (String × Json) → List (String × Json)
  | [] => []
  | (key, v) :: rest => (key, unmask known v) :: unmaskFields known rest
end

end PluginHost.Identifier
