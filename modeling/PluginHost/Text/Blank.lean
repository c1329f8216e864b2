/-!
Blanks, as Unicode's property White_Space lists them, and the texts that lie between them.
-/

set_option autoImplicit false

namespace PluginHost.Text

def isBlank (c : Char) : Bool :=
  let n := c.toNat
  (9 ≤ n && n ≤ 13) || n == 32 || n == 0x85 || n == 0xA0 || n == 0x1680 ||
    (0x2000 ≤ n && n ≤ 0x200A) || n == 0x2028 || n == 0x2029 || n == 0x202F ||
    n == 0x205F || n == 0x3000

def trimStart (cs : List Char) : List Char := cs.dropWhile isBlank

def trimEnd (cs : List Char) : List Char := (cs.reverse.dropWhile isBlank).reverse

def trimChars (cs : List Char) : List Char := trimEnd (trimStart cs)

def trim (s : String) : String := String.ofList (trimChars s.toList)

def isBlankText (s : String) : Bool := s.toList.all isBlank

/-- The longest runs of characters that satisfy no `separates`, empty ones left out. -/
def pieces (separates : Char → Bool) : List Char → (piece : List Char) → List (List Char)
  | [], [] => []
  | [], piece => [piece.reverse]
  | c :: rest, piece =>
    if separates c then
      match piece with
      | [] => pieces separates rest []
      | _ => piece.reverse :: pieces separates rest []
    else pieces separates rest (c :: piece)

def words (s : String) : List String := (pieces isBlank s.toList []).map String.ofList

/-- The parts of a list between separators, empty ones included. -/
def splitOn (separates : Char → Bool) : List Char → List (List Char)
  | [] => [[]]
  | c :: rest =>
    if separates c then [] :: splitOn separates rest
    else
      match splitOn separates rest with
      | part :: parts => (c :: part) :: parts
      | [] => [[c]]

def splitText (separator : Char) (s : String) : List String :=
  (splitOn (· == separator) s.toList).map String.ofList

end PluginHost.Text
