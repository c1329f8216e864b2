import Mathlib.Data.List.Forall2
import PluginHost.Program.Basic
import PluginHost.Proofs.Json.RoundTrip

/-!
Arguments as values and as tokens of a command line. For a type that no string is a value of, a value
and its text bind to the same.
-/

set_option autoImplicit false

namespace PluginHost

variable {α β σ K γ : Type}

namespace Decode

def RefusesTexts (d : Decoder α) : Prop := ∀ s, ∃ e, d (.string s) = .error e

end Decode

namespace Param

variable {p : Param α} {index : Nat} {v w : Json} {a : α}

/-- The argument is the value, or it is the text of the value and nothing else for the parameter. -/
inductive Spells (p : Param α) (v : Json) : Json → Prop where
  | value : Spells p v v
  | text {a : α} (refuses : Decode.RefusesTexts p.codec.decode) (integral : v.Integral)
      (shallow : v.depth ≤ Json.nestingLimit) (decoded : p.codec.decode v = .ok a) :
      Spells p v (.string v.render)

end Param

-- Of surplus arguments only their number counts.
def Params.Spells {α : Type} : Params α → (args tokens : List Json) → Prop
  | .nil, args, tokens => tokens.length = args.length
  | .cons _ _, [], tokens => tokens = []
  | .cons _ _, _ :: _, [] => False
  | .cons p rest, v :: args, w :: tokens => p.Spells v w ∧ rest.Spells args tokens

namespace Params.Spells

variable {ps : Params α} {args tokens : List Json}

end Params.Spells

namespace Signature

def Spells {α : Type} : Signature α → (args tokens : List Json) → Prop
  | .positional ps, args, tokens => ps.Spells args tokens
  | .variadic p, args, tokens => List.Forall₂ p.Spells args tokens

variable {sig : Signature α} {args tokens : List Json}

end Signature

end PluginHost
