import PluginHost.Toml.Lexeme

/-!
Reading configuration files: values, lines, and the document they build. Any fault refuses the
whole text.
-/

set_option autoImplicit false

namespace PluginHost.Toml

/-- The items of a list, after its opening bracket. -/
def arrayItems (item : Reader Toml) : (steps : Nat) → (items : List Toml) → Reader Toml
  | 0, _, _ => none
  | steps + 1, items, cs =>
    match skipLines cs.length cs with
    | ']' :: rest => some (.array items.reverse, rest)
    | cs =>
      (item cs).bind fun (v, rest) =>
        match skipLines rest.length rest with
        | ',' :: rest => arrayItems item steps (v :: items) rest
        | ']' :: rest => some (.array (v :: items).reverse, rest)
        | _ => none

/-- A key and its value. -/
def member (value : Reader Toml) (cs : List Char) :
    Option ((List String × String) × Toml × List Char) :=
  (key cs).bind fun (k, rest) =>
    match rest with
    | '=' :: rest => (value (skipSpaces rest)).map fun (v, rest) => (k, v, rest)
    | _ => none

/-- The members of a table in braces, after its first key is due. -/
def inlineMembers (value : Reader Toml) : (steps : Nat) → (built : Toml) → Reader Toml
  | 0, _, _ => none
  | steps + 1, built, cs =>
    (member value cs).bind fun (k, v, rest) =>
      (assign k.1 k.2 v built).bind fun built =>
        match skipSpaces rest with
        | ',' :: rest => inlineMembers value steps built rest
        | '\x7d' :: rest => some (built, rest)
        | _ => none

def inlineTable (value : Reader Toml) (cs : List Char) : Option (Toml × List Char) :=
  match skipSpaces cs with
  | '\x7d' :: rest => some (.table .inline [], rest)
  | cs => inlineMembers value (cs.length + 1) (.table .inline []) cs

/-- A value that nests at most `depth` containers. -/
def value : (depth : Nat) → Reader Toml
  | depth + 1, '[' :: rest => arrayItems (value depth) (rest.length + 1) [] rest
  | depth + 1, '\x7b' :: rest => inlineTable (value depth) rest
  | _, cs => scalar cs

/-- A document under construction, and the table that the latest header opened. -/
structure Draft where
  root : Toml
  current : List String

namespace Draft

def openTable (d : Draft) (path : List String) (last : String) : Option Draft :=
  (within false (Toml.openTable last) path d.root).map fun root => ⟨root, path ++ [last]⟩

def openNext (d : Draft) (path : List String) (last : String) : Option Draft :=
  (within false (Toml.openNext last) path d.root).map fun root => ⟨root, path ++ [last]⟩

def assign (d : Draft) (path : List String) (last : String) (v : Toml) : Option Draft :=
  (within false (Toml.assign path last v) d.current d.root).map fun root => { d with root }

/-- Takes in the line at the front of the text; what is left starts with the next line. -/
def takeLine (d : Draft) (cs : List Char) : Option (Draft × List Char) :=
  match skipSpaces cs with
  | '[' :: '[' :: rest => do
    let ((path, last), rest) ← key rest
    match rest with
    | ']' :: ']' :: rest => return (← d.openNext path last, ← endOfLine? rest)
    | _ => none
  | '[' :: rest => do
    let ((path, last), rest) ← key rest
    match rest with
    | ']' :: rest => return (← d.openTable path last, ← endOfLine? rest)
    | _ => none
  | cs =>
    match endOfLine? cs with
    | some rest => some (d, rest)
    | none => do
      let ((path, last), v, rest) ← member (value nestingLimit) cs
      return (← d.assign path last v, ← endOfLine? rest)

def takeLines : (steps : Nat) → Draft → List Char → Option Draft
  | _, d, [] => some d
  | 0, _, _ :: _ => none
  | steps + 1, d, cs => (d.takeLine cs).bind fun (d, rest) => takeLines steps d rest

end Draft

/-- A mark of the encoding may stand in front. -/
def withoutMark : List Char → List Char
  | '\ufeff' :: rest => rest
  | cs => cs

def parse (s : String) : Option Toml :=
  let cs := withoutMark s.toList
  (Draft.takeLines cs.length ⟨emptyDocument, []⟩ cs).map Draft.root

end PluginHost.Toml
