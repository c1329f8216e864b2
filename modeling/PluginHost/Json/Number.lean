import PluginHost.Json.Double

/-!
JSON numbers: integers that fit 64 bits, signed or unsigned, and doubles.
-/

set_option autoImplicit false

namespace PluginHost

namespace Word

/-- How many unsigned integers fit 64 bits. -/
abbrev size : Nat := 0x10000000000000000

/-- How many signed ones are not negative. -/
abbrev half : Nat := 0x8000000000000000

end Word

structure WideInt where
  val : Int
  lower : -Word.half ≤ val
  upper : val < Word.size
deriving DecidableEq, Repr

def WideInt.ofInt? (i : Int) : Option WideInt :=
  if h : -Word.half ≤ i ∧ i < Word.size then some ⟨i, h.1, h.2⟩ else none

inductive Number where
  | integer (n : WideInt)
  | double (x : Double)
deriving DecidableEq, Repr

namespace Number

/-- Integers beyond 64 bits become doubles. -/
def ofInt (i : Int) : Number :=
  match WideInt.ofInt? i with
  | some n => .integer n
  | none => .double (.ofFloat (Float.ofInt i))

def toText : Number → String
  | .integer n => toString n.val
  | .double x => x.toText

def integer? : Number → Option Int
  | .integer n => some n.val
  | .double _ => none

/-- The integer, if it fits the half-open range. -/
def inRange? (n : Number) (low high : Int) : Option Int :=
  n.integer?.filter fun i => low ≤ i ∧ i < high

def int64? (n : Number) : Option Int := n.inRange? (-Word.half) Word.half

def nat64? (n : Number) : Option Nat := (n.inRange? 0 Word.size).map Int.toNat

end Number

end PluginHost
