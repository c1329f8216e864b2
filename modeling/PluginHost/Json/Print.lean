import PluginHost.Json.Basic

/-!
The compact text of a JSON value: no blanks, members in the order they are stored.
-/

set_option autoImplicit false

namespace PluginHost.Json

def hexDigit (n : Nat) : Char :=
  if n < 10 then Char.ofNat (48 + n) else Char.ofNat (87 + n)

/-- Quotes, backslashes and control characters are escaped, everything else stays. -/
def escapeChar (c : Char) : List Char :=
  match c.toNat with
  | 8 => ['\\', 'b']
  | 9 => ['\\', 't']
  | 10 => ['\\', 'n']
  | 12 => ['\\', 'f']
  | 13 => ['\\', 'r']
  | 34 => ['\\', '"']
  | 92 => ['\\', '\\']
  | n => if n < 32 then ['\\', 'u', '0', '0', hexDigit (n / 16), hexDigit (n % 16)] else [c]

def quoteChars (s : String) : List Char := '"' :: s.toList.flatMap escapeChar ++ ['"']

mutual
def chars : Json → List Char
  | .null => "null".toList
  | .bool true => "true".toList
  | .bool false => "false".toList
  | .number n => n.toText.toList
  | .string s => quoteChars s
  | .array [] => ['[', ']']
  | .array (v :: rest) => '[' :: v.chars ++ charsItems rest
  | .object [] => ['\x7b', '\x7d']
  | .object ((k, v) :: rest) => '\x7b' :: quoteChars k ++ ':' :: v.chars ++ charsFields rest

def charsItems : List Json → List Char
  | [] => [']']
  | v :: rest => ',' :: v.chars ++ charsItems rest

def charsFields : List (String × Json) → List Char
  | [] => ['\x7d']
  | (k, v) :: rest => ',' :: quoteChars k ++ ':' :: v.chars ++ charsFields rest
end

def render (v : Json) : String := String.ofList v.chars

/-- A string stands for itself, any other value for its compact text. -/
def plainText : Json → String
  | .string s => s
  | v => v.render

end PluginHost.Json
