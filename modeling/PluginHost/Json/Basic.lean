import PluginHost.Json.Number

/-!
JSON values. Documents keep the keys of every object in strictly increasing order; `canonical`
brings any value into that form, the last of several equal keys winning.
-/

set_option autoImplicit false

namespace PluginHost

inductive Json where
  | null
  | bool (b : Bool)
  | number (n : Number)
  | string (s : String)
  | array (items : List Json)
  | object (fields : List (String × Json))
deriving Repr, Inhabited

abbrev Fields := List (String × Json)

namespace Json

mutual
def decEq : (a b : Json) → Decidable (a = b)
  | .null, .null => isTrue rfl
  | .bool a, .bool b => decidable_of_iff (a = b) (by simp)
  | .number a, .number b => decidable_of_iff (a = b) (by simp)
  | .string a, .string b => decidable_of_iff (a = b) (by simp)
  | .array a, .array b =>
    match decEqItems a b with
    | isTrue h => isTrue (by rw [h])
    | isFalse h => isFalse (by simpa using h)
  | .object a, .object b =>
    match decEqFields a b with
    | isTrue h => isTrue (by rw [h])
    | isFalse h => isFalse (by simpa using h)
  | .null, .bool _ | .null, .number _ | .null, .string _ | .null, .array _ | .null, .object _
  | .bool _, .null | .bool _, .number _ | .bool _, .string _ | .bool _, .array _
  | .bool _, .object _ | .number _, .null | .number _, .bool _ | .number _, .string _
  | .number _, .array _ | .number _, .object _ | .string _, .null | .string _, .bool _
  | .string _, .number _ | .string _, .array _ | .string _, .object _ | .array _, .null
  | .array _, .bool _ | .array _, .number _ | .array _, .string _ | .array _, .object _
  | .object _, .null | .object _, .bool _ | .object _, .number _ | .object _, .string _
  | .object _, .array _ => isFalse nofun

def decEqItems : (a b : List Json) → Decidable (a = b)
  | [], [] => isTrue rfl
  | [], _ :: _ | _ :: _, [] => isFalse nofun
  | a :: as, b :: bs =>
    match decEq a b, decEqItems as bs with
    | isTrue h, isTrue t => isTrue (by rw [h, t])
    | isFalse h, _ => isFalse (by simp [h])
    | _, isFalse t => isFalse (by simp [t])

def decEqFields : (a b : List (String × Json)) → Decidable (a = b)
  | [], [] => isTrue rfl
  | [], _ :: _ | _ :: _, [] => isFalse nofun
  | (k, a) :: as, (l, b) :: bs =>
    match decEq a b, decEqFields as bs with
    | isTrue h, isTrue t =>
      if e : k = l then isTrue (by rw [e, h, t]) else isFalse (by simp [e])
    | isFalse h, _ => isFalse (by simp [h])
    | _, isFalse t => isFalse (by simp [t])
end

instance : DecidableEq Json := decEq

def int (i : Int) : Json := .number (.ofInt i)

def nat (n : Nat) : Json := .int n

def text (t : Option String) : Json := (t.map .string).getD .null

def strings (ss : List String) : Json := .array (ss.map .string)

def emptyObject : Json := .object []

end Json

namespace Fields

def get? (fields : Fields) (key : String) : Option Json :=
  (fields.find? fun f => f.1 = key).map (·.2)

/-- Puts a member at its place in the order of keys, replacing one of the same key. -/
def insert : Fields → String → Json → Fields
  | [], key, value => [(key, value)]
  | (k, v) :: rest, key, value =>
    if k = key then (key, value) :: rest
    else if key < k then (key, value) :: (k, v) :: rest
    else (k, v) :: insert rest key value

def ofList (members : List (String × Json)) : Fields :=
  members.foldl (fun fields m => fields.insert m.1 m.2) []

/-- Keys strictly increase. -/
def Ordered (fields : Fields) : Prop := fields.Pairwise fun a b => a.1 < b.1

@[simp] theorem get?_insert_self (fields : Fields) (key : String) (v : Json) :
    get? (insert fields key v) key = some v := by
  induction fields with
  | nil => simp [insert, get?]
  | cons f rest ih =>
    unfold insert
    split
    · simp [get?]
    · split
      · simp [get?]
      · next ne _ => simpa [get?, ne] using ih

theorem get?_insert_of_ne (fields : Fields) {key other : String} (v : Json) (ne : other ≠ key) :
    get? (insert fields key v) other = get? fields other := by
  induction fields with
  | nil => simp [insert, get?, ne.symm]
  | cons f rest ih =>
    unfold insert
    split
    · next same => subst same; simp [get?, ne.symm]
    · split
      · simp [get?, ne.symm]
      · by_cases found : f.1 = other
        · simp [get?, found]
        · simpa [get?, found] using ih

end Fields

namespace Json

/-- An object from members in any order. -/
def record (members : List (String × Json)) : Json := .object (Fields.ofList members)

def get? : Json → String → Option Json
  | .object fields, key => Fields.get? fields key
  | _, _ => none

def string? : Json → Option String
  | .string s => some s
  | _ => none

def items? : Json → Option (List Json)
  | .array items => some items
  | _ => none

def fields? : Json → Option Fields
  | .object fields => some fields
  | _ => none

def number? : Json → Option Number
  | .number n => some n
  | _ => none

def int64? (v : Json) : Option Int := v.number?.bind Number.int64?

def nat64? (v : Json) : Option Nat := v.number?.bind Number.nat64?

def isNull : Json → Bool
  | .null => true
  | _ => false

mutual
def canonical : Json → Json
  | .array items => .array (canonicalItems items)
  | .object fields => .object (Fields.ofList (canonicalFields fields))
  | v => v

def canonicalItems : List Json → List Json
  | [] => []
  | v :: rest => v.canonical :: canonicalItems rest

def canonicalFields : List (String × Json) → List (String × Json)
  | [] => []
  | (k, v) :: rest => (k, v.canonical) :: canonicalFields rest
end

mutual
/-- The keys of every object in the value strictly increase. -/
def Ordered : Json → Prop
  | .array items => OrderedItems items
  | .object fields => Fields.Ordered fields ∧ OrderedFields fields
  | _ => True

def OrderedItems : List Json → Prop
  | [] => True
  | v :: rest => v.Ordered ∧ OrderedItems rest

def OrderedFields : List (String × Json) → Prop
  | [] => True
  | (_, v) :: rest => v.Ordered ∧ OrderedFields rest
end

mutual
/-- How many containers are nested at the deepest place. -/
def depth : Json → Nat
  | .array items => depthItems items + 1
  | .object fields => depthFields fields + 1
  | _ => 0

def depthItems : List Json → Nat
  | [] => 0
  | v :: rest => max v.depth (depthItems rest)

def depthFields : List (String × Json) → Nat
  | [] => 0
  | (_, v) :: rest => max v.depth (depthFields rest)
end

end Json

end PluginHost
