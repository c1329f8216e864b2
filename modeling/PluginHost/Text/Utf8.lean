/-!
Reading bytes as UTF-8. Every longest run of bytes that starts a character but does not finish it,
and every byte that starts none, becomes one replacement character. Also the lines of a text.
-/

set_option autoImplicit false

namespace PluginHost.Text

def replacement : Char := '\ufffd'

def isContinuation (b : Nat) : Bool := 0x80 ≤ b && b ≤ 0xBF

/-- The range of the second byte after a first byte of a longer sequence, and the length of the
sequence. -/
def sequenceOf (first : Nat) : Option (Nat × Nat × Nat) :=
  if 0xC2 ≤ first ∧ first ≤ 0xDF then some (2, 0x80, 0xBF)
  else if first = 0xE0 then some (3, 0xA0, 0xBF)
  else if first = 0xED then some (3, 0x80, 0x9F)
  else if 0xE1 ≤ first ∧ first ≤ 0xEF then some (3, 0x80, 0xBF)
  else if first = 0xF0 then some (4, 0x90, 0xBF)
  else if 0xF1 ≤ first ∧ first ≤ 0xF3 then some (4, 0x80, 0xBF)
  else if first = 0xF4 then some (4, 0x80, 0x8F)
  else none

/-- The character that starts a list of bytes and the number of bytes after the first that belong
to it. -/
def decodeFirst (first : Nat) (rest : List Nat) : Char × Nat :=
  if first < 0x80 then (Char.ofNat first, 0)
  else
    match sequenceOf first with
    | none => (replacement, 0)
    | some (length, low, high) =>
      match rest with
      | [] => (replacement, 0)
      | second :: rest =>
        if second < low || high < second then (replacement, 0)
        else
          let tail := (rest.take (length - 2)).takeWhile isContinuation
          if tail.length = length - 2 then
            let head := first % Nat.pow 2 (7 - length)
            let value := (second :: tail).foldl (fun n b => n * 64 + b % 64) head
            (Char.ofNat value, length - 1)
          else (replacement, tail.length + 1)

/-- Reads bytes as text; `skip` counts the bytes that were read already. -/
def decodeBytes : (skip : Nat) → List Nat → List Char
  | _, [] => []
  | 0, b :: rest =>
    let (c, more) := decodeFirst b rest
    c :: decodeBytes more rest
  | skip + 1, _ :: rest => decodeBytes skip rest

def lossyText (bytes : List Nat) : String := String.ofList (decodeBytes 0 bytes)

/-- Lines end with a line feed, a carriage return before it belonging to the end of the line. What
follows the last line feed is a line of its own unless it is empty. -/
def linesFrom : (line : List Char) → List Char → List (List Char)
  | [], [] => []
  | line, [] => [line.reverse]
  | line, '\n' :: rest =>
    (match line with
      | '\r' :: before => before.reverse
      | _ => line.reverse) :: linesFrom [] rest
  | line, c :: rest => linesFrom (c :: line) rest

def lines (s : String) : List String := (linesFrom [] s.toList).map String.ofList

end PluginHost.Text
