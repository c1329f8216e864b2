/-!
Binary64 numbers by their bit pattern, and the decimal text of a finite one: the fewest digits
that read back, laid out positionally for moderate exponents.
-/

set_option autoImplicit false

namespace PluginHost

structure Double where
  bits : UInt64
deriving DecidableEq, Repr

namespace Double

def ofFloat (x : Float) : Double := ⟨x.toBits⟩

def isNegative (x : Double) : Bool := x.bits >>> 63 == 1

def exponentField (x : Double) : Nat := ((x.bits >>> 52) &&& 0x7ff).toNat

def fraction (x : Double) : Nat := (x.bits &&& 0xfffffffffffff).toNat

def isFinite (x : Double) : Bool := x.exponentField != 0x7ff

def isZero (x : Double) : Bool := x.exponentField == 0 && x.fraction == 0

/-- The magnitude of a finite number is `significand * 2 ^ scale`. -/
def significand (x : Double) : Nat :=
  if x.exponentField = 0 then x.fraction else x.fraction + 0x10000000000000

def scale (x : Double) : Int :=
  if x.exponentField = 0 then -1074 else (x.exponentField : Int) - 1075

/-- The reals that round to a positive number, as the quotients `low / den` and `high / den`
around `mid / den`; the ends belong to it when the significand is even. -/
structure Interval where
  low : Nat
  mid : Nat
  high : Nat
  den : Nat
  closed : Bool

def interval (x : Double) : Interval :=
  let m := x.significand
  let narrowBelow := x.fraction = 0 ∧ 1 < x.exponentField
  let up := Nat.pow 2 x.scale.toNat
  { low := (if narrowBelow then 4 * m - 1 else 4 * m - 2) * up
    mid := 4 * m * up
    high := (4 * m + 2) * up
    den := 4 * Nat.pow 2 (-x.scale).toNat
    closed := m % 2 = 0 }

/-- `n * 10 ^ e` compared with `a / b`. -/
def compareDecimal (n : Nat) (e : Int) (a b : Nat) : Ordering :=
  compare (n * Nat.pow 10 e.toNat * b) (a * Nat.pow 10 (-e).toNat)

def Interval.contains (i : Interval) (n : Nat) (e : Int) : Bool :=
  match compareDecimal n e i.low i.den, compareDecimal n e i.high i.den with
  | .gt, .lt => true
  | .eq, .lt => i.closed
  | .gt, .eq => i.closed
  | _, _ => false

/-- The neighbours of the value on the grid of multiples of `10 ^ e` that read back, the nearer
one first; the even one wins a tie. -/
def Interval.onGrid (i : Interval) (e : Int) : Option Nat :=
  let num := i.mid * Nat.pow 10 (-e).toNat
  let den := i.den * Nat.pow 10 e.toNat
  let below := num / den
  let rest := num % den
  let nearer :=
    if 2 * rest < den then below
    else if den < 2 * rest then below + 1
    else if below % 2 = 0 then below else below + 1
  let further := if nearer = below then below + 1 else below
  if i.contains nearer e then some nearer
  else if i.contains further e then some further
  else none

def countDigits (n : Nat) : Nat := (Nat.toDigits 10 n).length

/-- The largest exponent `e` with `10 ^ e ≤ a / b`, for a positive quotient. -/
def magnitude (a b : Nat) : Int :=
  let guess : Int := (countDigits a : Int) - countDigits b
  if compareDecimal 1 guess a b = .gt then guess - 1 else guess

/-- Tries the grids from `10 ^ top` downward. -/
def Interval.search (i : Interval) : (top : Int) → (steps : Nat) → Nat × Int
  | top, 0 => ((i.onGrid top).getD 0, top)
  | top, steps + 1 =>
    match i.onGrid top with
    | some 0 => i.search (top - 1) steps
    | some n => (n, top)
    | none => i.search (top - 1) steps

/-- The digits `n` and the exponent `e` of the shortest decimal `n * 10 ^ e` that reads back. -/
def shortest (x : Double) : Nat × Int :=
  let i := x.interval
  i.search (magnitude i.mid i.den + 1) 18

def stripZeros : (n : Nat) → (e : Int) → (steps : Nat) → Nat × Int
  | n, e, 0 => (n, e)
  | n, e, steps + 1 => if n % 10 = 0 ∧ n ≠ 0 then stripZeros (n / 10) (e + 1) steps else (n, e)

def zeros (n : Nat) : String := String.ofList (List.replicate n '0')

/-- Positional from `1e-5` up to `1e16`, otherwise one digit before the point and a signed
exponent. -/
def layout (n : Nat) (e : Int) : String :=
  let ds := Nat.toDigits 10 n
  let point : Int := ds.length + e
  if 0 ≤ e ∧ point ≤ 16 then
    String.ofList ds ++ zeros e.toNat ++ ".0"
  else if 0 < point ∧ point ≤ 16 then
    String.ofList (ds.take point.toNat) ++ "." ++ String.ofList (ds.drop point.toNat)
  else if -5 < point ∧ point ≤ 0 then
    "0." ++ zeros (-point).toNat ++ String.ofList ds
  else
    let power := point - 1
    let mark := if power < 0 then "e-" else "e+"
    let tail := ds.drop 1
    String.ofList (ds.take 1)
      ++ (if tail.isEmpty then "" else "." ++ String.ofList tail)
      ++ mark ++ toString power.natAbs

def magnitudeText (x : Double) : String :=
  if x.isZero then "0.0"
  else
    let (n, e) := x.shortest
    let (n, e) := stripZeros n e 20
    layout n e

def toText (x : Double) : String :=
  (if x.isNegative then "-" else "") ++ x.magnitudeText

end Double

end PluginHost
