/-!
Spans of time, counted in nanoseconds, and their text with the largest unit that fits.
-/

set_option autoImplicit false

namespace PluginHost

structure Duration where
  nanos : Nat
deriving DecidableEq, Repr, Inhabited

namespace Duration

def ofSecs (n : Nat) : Duration := ⟨n * 1000000000⟩

def ofMillis (n : Nat) : Duration := ⟨n * 1000000⟩

def ofMicros (n : Nat) : Duration := ⟨n * 1000⟩

def secs (d : Duration) : Nat := d.nanos / 1000000000

def subsecNanos (d : Duration) : Nat := d.nanos % 1000000000

def millis (d : Duration) : Nat := d.nanos / 1000000

instance : Add Duration := ⟨fun a b => ⟨a.nanos + b.nanos⟩⟩

instance : LT Duration := ⟨fun a b => a.nanos < b.nanos⟩

instance : LE Duration := ⟨fun a b => a.nanos ≤ b.nanos⟩

instance (a b : Duration) : Decidable (a < b) := inferInstanceAs (Decidable (a.nanos < b.nanos))

instance (a b : Duration) : Decidable (a ≤ b) := inferInstanceAs (Decidable (a.nanos ≤ b.nanos))

def min (a b : Duration) : Duration := if a ≤ b then a else b

/-- The digits of `n / 10 ^ places` after the point, zeros at the end left out. -/
def fractionDigits (n places : Nat) : List Char :=
  let ds := Nat.toDigits 10 n
  let padded := List.replicate (places - ds.length) '0' ++ ds
  (padded.reverse.dropWhile (· == '0')).reverse

def decimal (whole fraction places : Nat) (unit : String) : String :=
  let tail := if fraction = 0 then [] else fractionDigits fraction places
  toString whole ++ (if tail.isEmpty then "" else "." ++ String.ofList tail) ++ unit

def toText (d : Duration) : String :=
  let n := d.nanos
  if 1000000000 ≤ n then decimal (n / 1000000000) (n % 1000000000) 9 "s"
  else if 1000000 ≤ n then decimal (n / 1000000) (n % 1000000) 6 "ms"
  else if 1000 ≤ n then decimal (n / 1000) (n % 1000) 3 "µs"
  else decimal n 0 0 "ns"

end Duration

end PluginHost
