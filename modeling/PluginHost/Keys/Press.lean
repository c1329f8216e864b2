import PluginHost.Text.Blank
import PluginHost.Text.Case

/-!
Single key presses, written `ctrl+s` or in the editor's notation `<C-s>`.
-/

set_option autoImplicit false

namespace PluginHost

structure Modifiers where
  ctrl : Bool
  alt : Bool
  shift : Bool
  cmd : Bool
deriving DecidableEq, Repr

namespace Modifiers

def none : Modifiers := ⟨false, false, false, false⟩

/-- Adds the modifier of that name. Other names change nothing. -/
def add (m : Modifiers) (name : String) : Modifiers :=
  match name with
  | "ctrl" | "control" | "c" => { m with ctrl := true }
  | "alt" | "option" | "m" | "a" => { m with alt := true }
  | "shift" | "s" => { m with shift := true }
  | "meta" | "cmd" | "d" => { m with cmd := true }
  | _ => m

/-- The modifiers of a text such as `ctrl+shift`. -/
def parse (text : String) : Modifiers :=
  (Text.splitText '+' (Text.lowercase text)).foldl add none

def isEmpty (m : Modifiers) : Bool := !m.ctrl && !m.alt && !m.shift && !m.cmd

def notationText (m : Modifiers) : String :=
  (if m.ctrl then "C-" else "") ++ (if m.alt then "M-" else "") ++
    (if m.shift then "S-" else "") ++ (if m.cmd then "D-" else "")

end Modifiers

inductive Key where
  | char (c : Char)
  | named (name : String)
  | function (number : Nat)
deriving DecidableEq, Repr

namespace Key

/-- The editor's names for keys and the names they are written by. -/
def names : List (String × List String) := [
  ("CR", ["enter", "return", "cr"]),
  ("Tab", ["tab"]),
  ("BS", ["backspace", "bs"]),
  ("Del", ["delete", "del"]),
  ("Esc", ["escape", "esc"]),
  ("Up", ["up"]),
  ("Down", ["down"]),
  ("Left", ["left"]),
  ("Right", ["right"]),
  ("Home", ["home"]),
  ("End", ["end"]),
  ("PageUp", ["pageup", "pgup"]),
  ("PageDown", ["pagedown", "pgdn"]),
  ("Insert", ["insert", "ins"]),
  ("Space", ["space"]),
  ("Leader", ["leader"])]

def named? (lower : String) : Option String :=
  (names.find? fun n => n.2.contains lower).map (·.1)

def digitsValue (ds : List Char) : Option Nat :=
  if !ds.isEmpty && ds.all Char.isDigit then
    some (ds.foldl (fun n d => 10 * n + (d.toNat - '0'.toNat)) 0)
  else none

/-- The number of a function key; a plus sign may stand before it. -/
def functionNumber (cs : List Char) : Option Nat :=
  match cs with
  | '+' :: ds => digitsValue ds
  | ds => digitsValue ds

def parse (text : String) : Option Key :=
  let lower := Text.lowercase text
  match named? lower with
  | some name => some (.named name)
  | none =>
    match lower.toList with
    | 'f' :: c :: rest =>
      if lower.utf8ByteSize ≤ 3 then (functionNumber (c :: rest)).map .function else none
    | _ =>
      match text.toList with
      | [c] => some (.char c)
      | _ => none

end Key

structure KeyPress where
  key : Key
  modifiers : Modifiers
deriving DecidableEq, Repr

namespace KeyPress

/-- The texts before and after the last plus sign. -/
def splitAtLastPlus (cs : List Char) : Option (List Char × List Char) :=
  match cs.reverse.dropWhile (· != '+') with
  | [] => none
  | _ :: before => some (before.reverse, (cs.reverse.takeWhile (· != '+')).reverse)

/-- A text that ends in a plus sign is a key of that name. -/
def parse (text : String) : Option KeyPress := do
  let (modifiers, key) :=
    match splitAtLastPlus text.toList with
    | some (before, c :: rest) => (String.ofList before, String.ofList (c :: rest))
    | _ => ("", text)
  return ⟨← Key.parse key, Modifiers.parse modifiers⟩

def notationText (p : KeyPress) : String :=
  match p.key with
  | .char c => if p.modifiers.isEmpty then c.toString else s!"<{p.modifiers.notationText}{c}>"
  | .named name => s!"<{p.modifiers.notationText}{name}>"
  | .function n => s!"<{p.modifiers.notationText}F{n}>"

end KeyPress

/-- One word of a key sequence in the editor's notation. Words that are in that notation, plain
sequences and unknown keys stay as they are. -/
def normalizeWord (word : String) : String :=
  let cs := word.toList
  if cs.head? == some '<' || (1 < word.utf8ByteSize && !cs.contains '+') then word
  else
    match KeyPress.parse word with
    | some press => press.notationText
    | none => word

def normalizeKeys (keys : String) : String := String.join ((Text.words keys).map normalizeWord)

end PluginHost
