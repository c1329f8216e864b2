import PluginHost.Error
import PluginHost.Text.Blank

/-!
Paths into a JSON document. A path is a list of segments between dots: `field` goes to a member,
`field(key=value)` to the first element of the list `field` whose member `key` is `value`. Dots
inside parentheses belong to their segment, and empty segments are left out.
-/

set_option autoImplicit false

namespace PluginHost

inductive Segment where
  | field (name : String)
  | select (field key value : String)
deriving DecidableEq, Repr

namespace Segment

def invalid {α : Type} (segment : List Char) (reason : String) : Except PluginError α :=
  .error (.decode s!"invalid query segment `{String.ofList segment}`: {reason}")

/-- What lies before and after the first `c`. -/
def splitAtFirst (c : Char) (cs : List Char) : Option (List Char × List Char) :=
  match cs.dropWhile (· != c) with
  | [] => none
  | _ :: rest => some (cs.takeWhile (· != c), rest)

def trimmed (cs : List Char) : String := String.ofList (Text.trimChars cs)

def parse (cs : List Char) : Except PluginError Segment :=
  match splitAtFirst '(' cs with
  | none => .ok (.field (String.ofList cs))
  | some (name, inside) =>
    if inside.getLast? = some ')' then
      match splitAtFirst '=' inside.dropLast with
      | some (key, value) => .ok (.select (String.ofList name) (trimmed key) (trimmed value))
      | none => invalid cs "predicate must be key=value"
    else invalid cs "unclosed predicate"

end Segment

abbrev Path := List Segment

namespace Path

/-- The pieces between dots that no parenthesis encloses. A closing parenthesis with none open
changes nothing. -/
def pieces : (depth : Nat) → List Char → List (List Char)
  | _, [] => [[]]
  | depth, c :: rest =>
    let depth := if c = '(' then depth + 1 else if c = ')' then depth - 1 else depth
    if c = '.' ∧ depth = 0 then [] :: pieces depth rest
    else
      match pieces depth rest with
      | piece :: more => (c :: piece) :: more
      | [] => [[c]]

def parse (text : String) : Except PluginError Path :=
  ((pieces 0 text.toList).filter fun p => !p.isEmpty).mapM Segment.parse

end Path

end PluginHost
