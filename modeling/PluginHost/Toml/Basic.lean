import PluginHost.Json.Basic

/-!
Values of configuration files, and the rules by which headers and dotted keys build tables.
A table remembers what created it, because only some tables may be extended later.
-/

set_option autoImplicit false

namespace PluginHost

inductive TableOrigin where
  /-- Named by a header of its own. -/
  | header
  /-- On the way to a table named by a header. -/
  | implied
  /-- On the way to a dotted key. -/
  | dotted
  /-- Written in braces; such a table is complete. -/
  | inline
deriving DecidableEq, Repr

inductive Toml where
  | string (s : String)
  | integer (i : Int)
  | float (x : Double)
  | boolean (b : Bool)
  | datetime (text : String)
  | array (items : List Toml)
  | table (origin : TableOrigin) (members : List (String × Toml))
  /-- The tables that headers with double brackets add one by one. -/
  | tables (items : List Toml)
deriving Repr

namespace Toml

def emptyDocument : Toml := .table .header []

def get? : Toml → String → Option Toml
  | .table _ members, key => members.lookup key
  | _, _ => none

def replace (key : String) (v : Toml) (members : List (String × Toml)) : List (String × Toml) :=
  members.map fun m => if m.1 = key then (key, v) else m

/-- Changes the last of some tables. -/
def onLast (f : Toml → Option Toml) : List Toml → Option (List Toml)
  | [] => none
  | [t] => (f t).map fun t => [t]
  | t :: rest => (onLast f rest).map (t :: ·)

/-- Changes the table at the end of a path, creating the tables on the way. Dotted keys may not
reach into a table that a header named, and nothing reaches into a complete one. -/
def within (dotted : Bool) (f : Toml → Option Toml) : (path : List String) → Toml → Option Toml
  | [], t => f t
  | key :: path, .table origin members =>
    let inner := within dotted f path
    match members.lookup key with
    | none =>
      (inner (.table (if dotted then .dotted else .implied) [])).map fun t =>
        .table origin (members ++ [(key, t)])
    | some (.table .inline _) => none
    | some (.table o ms) =>
      if dotted && o == .header then none
      else (inner (.table o ms)).map fun t => .table origin (replace key t members)
    | some (.tables ts) =>
      (onLast inner ts).map fun ts => .table origin (replace key (.tables ts) members)
    | some _ => none
  | _, _ => none

/-- Adds a member whose key is new. Behind a dotted path only a table that dotted keys made takes
members. -/
def addMember (key : String) (v : Toml) (direct : Bool) : Toml → Option Toml
  | .table origin members =>
    if (direct || origin == .dotted) && (members.lookup key).isNone then
      some (.table origin (members ++ [(key, v)]))
    else none
  | _ => none

/-- Adds a member under a dotted key, given as its last part and the parts before it. -/
def assign (path : List String) (key : String) (v : Toml) : Toml → Option Toml :=
  within true (addMember key v path.isEmpty) path

/-- Opens the table that a header names. -/
def openTable (key : String) : Toml → Option Toml
  | .table origin members =>
    match members.lookup key with
    | none => some (.table origin (members ++ [(key, .table .header [])]))
    | some (.table .implied ms) => some (.table origin (replace key (.table .header ms) members))
    | some _ => none
  | _ => none

/-- Adds a table to those that a header with double brackets names. -/
def openNext (key : String) : Toml → Option Toml
  | .table origin members =>
    match members.lookup key with
    | none => some (.table origin (members ++ [(key, .tables [.table .header []])]))
    | some (.tables ts) =>
      some (.table origin (replace key (.tables (ts ++ [.table .header []])) members))
    | some _ => none
  | _ => none

/-- The member by which a moment in time shows in a document. -/
def datetimeKey : String := "$__toml_private_datetime"

def floatJson (x : Double) : Json := if x.isFinite then .number (.double x) else .null

mutual
/-- The value as JSON, which has no infinite numbers and no moments in time. -/
def toJson : Toml → Json
  | .string s => .string s
  | .integer i => .int i
  | .float x => floatJson x
  | .boolean b => .bool b
  | .datetime text => .record [(datetimeKey, .string text)]
  | .array items => .array (toJsonItems items)
  | .table _ members => .record (toJsonMembers members)
  | .tables items => .array (toJsonItems items)

def toJsonItems : List Toml → List Json
  | [] => []
  | v :: rest => v.toJson :: toJsonItems rest

def toJsonMembers : List (String × Toml) → List (String × Json)
  | [] => []
  | (key, v) :: rest => (key, v.toJson) :: toJsonMembers rest
end

/-! Reading members of the expected type. -/

def string? : Toml → Option String
  | .string s => some s
  | _ => none

def natural? : Toml → Option Nat
  | .integer i => if 0 ≤ i then some i.toNat else none
  | _ => none

def items? : Toml → Option (List Toml)
  | .array items | .tables items => some items
  | _ => none

def strings? (v : Toml) : Option (List String) := v.items?.bind fun items => items.mapM string?

/-- The member `key`, or the item `index` where a list stands for the record; `default` where there
is none. -/
def memberOr {α : Type} (v : Toml) (key : String) (index : Nat) (decode : Toml → Option α)
    (default : α) : Option α :=
  match v with
  | .table _ members => ((members.lookup key).map decode).getD (some default)
  | .array items | .tables items => ((items[index]?).map decode).getD (some default)
  | .datetime _ => some default
  | _ => none

end Toml

end PluginHost
