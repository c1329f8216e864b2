/-!
How many arguments a program takes.
-/

set_option autoImplicit false

namespace PluginHost

/-- Bounds on the number of arguments; variadic programs have no upper one. -/
structure Arity where
  min : Nat
  max : Option Nat
deriving DecidableEq, Repr

namespace Arity

def accepts (a : Arity) (count : Nat) : Bool := a.min ≤ count && a.max.all (count ≤ ·)

def describe (a : Arity) : String :=
  match a.max with
  | some max => if max = a.min then s!"exactly {max}" else s!"between {a.min} and {max}"
  | none => s!"at least {a.min}"

/-- How many arguments the editor lets a command have. -/
inductive Nargs where
  | zero
  | one
  | optional
  | any
  | some
deriving DecidableEq, Repr

namespace Nargs

def text : Nargs → String
  | .zero => "0"
  | .one => "1"
  | .optional => "?"
  | .any => "*"
  | .some => "+"

def allows : Nargs → Nat → Bool
  | .zero, n => n == 0
  | .one, n => n == 1
  | .optional, n => n ≤ 1
  | .any, _ => true
  | .some, n => 1 ≤ n

end Nargs

def nargs (a : Arity) : Nargs :=
  match a.min, a.max with
  | _, some 0 => .zero
  | 1, some 1 => .one
  | 0, some 1 => .optional
  | 0, _ => .any
  | _, _ => .some

/-- What is left for a command's own arguments when its bang is passed as the last one. -/
def beforeBang (a : Arity) (bang : Bool) : Arity :=
  if bang then ⟨a.min - 1, a.max.map (· - 1)⟩ else a

end Arity

end PluginHost
