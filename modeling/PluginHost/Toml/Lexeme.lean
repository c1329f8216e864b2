import PluginHost.Json.Token
import PluginHost.Toml.Basic

/-!
The pieces of a configuration file: blanks and comments, strings in their four forms, numbers,
moments in time and keys. A reader yields what it read from the front of the text and what is left.
-/

set_option autoImplicit false

namespace PluginHost.Toml

abbrev Reader (α : Type) := List Char → Option (α × List Char)

def isSpace (c : Char) : Bool := c == ' ' || c == '\t'

/-- Characters that may stand in comments and strings. -/
def isPlain (c : Char) : Bool := c == '\t' || (0x20 ≤ c.toNat && c.toNat != 0x7F)

def skipSpaces (cs : List Char) : List Char := cs.dropWhile isSpace

def newline? : List Char → Option (List Char)
  | '\n' :: rest => some rest
  | '\r' :: '\n' :: rest => some rest
  | _ => none

def skipComment : List Char → List Char
  | '#' :: rest => rest.dropWhile isPlain
  | cs => cs

/-- The end of a line, after spaces and a comment; the end of the text ends a line too. -/
def endOfLine? (cs : List Char) : Option (List Char) :=
  match skipComment (skipSpaces cs) with
  | [] => some []
  | cs => newline? cs

/-- Skips spaces, line ends and comments. -/
def skipLines : (steps : Nat) → List Char → List Char
  | 0, cs => cs
  | steps + 1, cs =>
    let cs := skipSpaces cs
    match newline? (skipComment cs) with
    | some rest => skipLines steps rest
    | none => cs

/-! ### Strings -/

def hexDigits : (count : Nat) → (value : Nat) → Reader Nat
  | 0, value, cs => some (value, cs)
  | count + 1, value, c :: rest =>
    (Json.hexValue c).bind fun d => hexDigits count (value * 16 + d) rest
  | _ + 1, _, [] => none

def scalarValue (n : Nat) : Option Char := if n.isValidChar then some (Char.ofNat n) else none

/-- The character that an escape stands for, after its backslash. -/
def escape : Reader Char
  | 'b' :: rest => some ('\x08', rest)
  | 't' :: rest => some ('\t', rest)
  | 'n' :: rest => some ('\n', rest)
  | 'f' :: rest => some ('\x0c', rest)
  | 'r' :: rest => some ('\r', rest)
  | '"' :: rest => some ('"', rest)
  | '\\' :: rest => some ('\\', rest)
  | 'u' :: rest => (hexDigits 4 0 rest).bind fun (n, rest) => (scalarValue n).map fun c => (c, rest)
  | 'U' :: rest => (hexDigits 8 0 rest).bind fun (n, rest) => (scalarValue n).map fun c => (c, rest)
  | _ => none

def finish (acc : List Char) : String := String.ofList acc.reverse

/-- A string on one line, after its opening quote. -/
def basicString : (steps : Nat) → (acc : List Char) → Reader String
  | 0, _, _ => none
  | steps + 1, acc, cs =>
    match cs with
    | '"' :: rest => some (finish acc, rest)
    | '\\' :: rest => (escape rest).bind fun (c, rest) => basicString steps (c :: acc) rest
    | c :: rest => if isPlain c then basicString steps (c :: acc) rest else none
    | [] => none

/-- A string without escapes, after its opening quote. -/
def literalString (cs : List Char) : Option (String × List Char) :=
  match cs.dropWhile fun c => isPlain c && c != '\'' with
  | '\'' :: rest => some (String.ofList (cs.takeWhile fun c => isPlain c && c != '\''), rest)
  | _ => none

/-- A backslash at the end of a line joins it with the next line that is not blank. -/
def continuation? (cs : List Char) : Option (List Char) :=
  (newline? (skipSpaces cs)).map fun rest => rest.dropWhile fun c => isSpace c || c == '\n'

/-- The quotes at the front: as many as belong to the string, and whether they end it. Three
quotes end a string, and up to two more stand before them. -/
def quoteRun (quote : Char) (cs : List Char) : Nat × Bool :=
  let run := (cs.takeWhile (· == quote)).length
  if run < 3 then (run, false) else (min (run - 3) 2, true)

/-- A string over several lines, after its opening quotes. Escapes are read if `escapes` holds. -/
def longString (quote : Char) (escapes : Bool) : (steps : Nat) → (acc : List Char) → Reader String
  | 0, _, _ => none
  | steps + 1, acc, cs =>
    let next := longString quote escapes steps
    match cs with
    | [] => none
    | c :: rest =>
      if c == quote then
        let (kept, ends) := quoteRun quote cs
        let acc := List.replicate kept quote ++ acc
        if ends then some (finish acc, cs.drop (kept + 3)) else next acc (cs.drop kept)
      else if escapes && c == '\\' then
        match continuation? rest with
        | some rest => next acc rest
        | none => (escape rest).bind fun (e, rest) => next (e :: acc) rest
      else
        match newline? cs with
        | some rest => next ('\n' :: acc) rest
        | none => if isPlain c then next (c :: acc) rest else none

/-- A line break right after the opening quotes does not belong to the string. -/
def openedLong (quote : Char) (escapes : Bool) (cs : List Char) : Option (String × List Char) :=
  let cs := (newline? cs).getD cs
  longString quote escapes (cs.length + 1) [] cs

def stringAt? : Reader String
  | '"' :: '"' :: '"' :: rest => openedLong '"' true rest
  | '"' :: rest => basicString (rest.length + 1) [] rest
  | '\'' :: '\'' :: '\'' :: rest => openedLong '\'' false rest
  | '\'' :: rest => literalString rest
  | _ => none

/-! ### Keys -/

def isBare (c : Char) : Bool := c.isAlphanum || c == '_' || c == '-'

def simpleKey : Reader String
  | '"' :: rest => basicString (rest.length + 1) [] rest
  | '\'' :: rest => literalString rest
  | cs =>
    let key := cs.takeWhile isBare
    if key.isEmpty then none else some (String.ofList key, cs.dropWhile isBare)

/-- The parts of a key, the last first. -/
def keyParts : (steps : Nat) → (parts : List String) → Reader (List String)
  | 0, _, _ => none
  | steps + 1, parts, cs =>
    (simpleKey (skipSpaces cs)).bind fun (part, rest) =>
      match skipSpaces rest with
      | '.' :: rest => keyParts steps (part :: parts) rest
      | rest => some (part :: parts, rest)

/-- How many parts a key has at most, and how deep containers nest. -/
def nestingLimit : Nat := 79

/-- A key: the parts before the last, and the last. -/
def key (cs : List Char) : Option ((List String × String) × List Char) :=
  (keyParts nestingLimit [] cs).bind fun (parts, rest) =>
    match parts with
    | last :: before => some ((before.reverse, last), rest)
    | [] => none

/-! ### Numbers -/

/-- Digits, single underscores between them left out. -/
def digits? (isDigit : Char → Bool) : List Char → Option (List Char)
  | [] => none
  | [c] => if isDigit c then some [c] else none
  | c :: '_' :: rest => if isDigit c then (digits? isDigit rest).map (c :: ·) else none
  | c :: rest => if isDigit c then (digits? isDigit rest).map (c :: ·) else none

def valueOf (base : Nat) (ds : List Char) : Nat :=
  ds.foldl (fun n d => n * base + (Json.hexValue d).getD 0) 0

/-- Integers have 64 bits. -/
def inRange? (i : Int) : Option Toml :=
  if -Word.half ≤ i ∧ i < Word.half then some (.integer i) else none

def splitSign : List Char → Bool × List Char
  | '+' :: rest => (false, rest)
  | '-' :: rest => (true, rest)
  | cs => (false, cs)

/-- Digits of a decimal integer: no zero stands in front. -/
def decimal? (cs : List Char) : Option (List Char) :=
  match cs with
  | ['0'] => some cs
  | '0' :: _ => none
  | _ => digits? Char.isDigit cs

def isHexDigit (c : Char) : Bool := (Json.hexValue c).isSome

def based? (base : Nat) (isDigit : Char → Bool) (cs : List Char) : Option Toml :=
  (digits? isDigit cs).bind fun ds => inRange? (valueOf base ds)

def integer? (cs : List Char) : Option Toml :=
  match cs with
  | '0' :: 'x' :: rest => based? 16 isHexDigit rest
  | '0' :: 'o' :: rest => based? 8 (fun c => '0' ≤ c && c ≤ '7') rest
  | '0' :: 'b' :: rest => based? 2 (fun c => c == '0' || c == '1') rest
  | _ =>
    let (negative, ds) := splitSign cs
    (decimal? ds).bind fun ds =>
      let n : Int := valueOf 10 ds
      inRange? (if negative then -n else n)

/-- `n * 10 ^ e` as the nearest double. -/
def nearest (n : Nat) (e : Int) : Float :=
  let size : Int := (Nat.toDigits 10 n).length + e
  if n = 0 ∨ size < -330 then 0
  else if 330 < size then 1 / 0
  else Float.ofScientific n (e < 0) e.natAbs

def isExponentMark (c : Char) : Bool := c == 'e' || c == 'E'

/-- Fraction and exponent of a decimal number; at least one of them is there. -/
def splitFloat? (cs : List Char) : Option (List Char × List Char × Int) :=
  let whole := cs.takeWhile fun c => c != '.' && !isExponentMark c
  let rest := cs.dropWhile fun c => c != '.' && !isExponentMark c
  let exponent? (cs : List Char) : Option Int :=
    let (negative, ds) := splitSign cs
    (digits? Char.isDigit ds).map fun ds =>
      let n : Int := valueOf 10 ds
      if negative then -n else n
  (decimal? (splitSign whole).2).bind fun ds =>
    match rest with
    | '.' :: rest =>
      (digits? Char.isDigit (rest.takeWhile fun c => !isExponentMark c)).bind fun fraction =>
        match rest.dropWhile fun c => !isExponentMark c with
        | [] => some (ds, fraction, 0)
        | _ :: rest => (exponent? rest).map fun e => (ds, fraction, e)
    | _ :: rest => (exponent? rest).map fun e => (ds, [], e)
    | [] => none

/-- Positive numbers must be finite. -/
def float? (cs : List Char) : Option Toml :=
  let (negative, magnitude) := splitSign cs
  let signed (x : Float) : Toml := .float (.ofFloat (if negative then -x else x))
  match magnitude with
  | ['i', 'n', 'f'] => some (signed (1 / 0))
  | ['n', 'a', 'n'] => some (signed (0 / 0))
  | _ =>
    (splitFloat? cs).bind fun (whole, fraction, e) =>
      let x := nearest (valueOf 10 (whole ++ fraction)) (e - fraction.length)
      if x.isInf && !negative then none else some (signed x)

/-! ### Moments in time -/

def fixedDigits : (count : Nat) → (value : Nat) → Reader Nat
  | 0, value, cs => some (value, cs)
  | count + 1, value, c :: rest =>
    if c.isDigit then fixedDigits count (value * 10 + (c.toNat - 48)) rest else none
  | _ + 1, _, [] => none

def numberUpTo (low high : Nat) (cs : List Char) : Option (Nat × List Char) :=
  (fixedDigits 2 0 cs).filter fun n => low ≤ n.1 ∧ n.1 ≤ high

def expect (c : Char) : List Char → Option (List Char)
  | d :: rest => if d = c then some rest else none
  | [] => none

def daysIn (year month : Nat) : Nat :=
  if month = 2 then
    if year % 4 = 0 ∧ (year % 100 ≠ 0 ∨ year % 400 = 0) then 29 else 28
  else if month = 4 ∨ month = 6 ∨ month = 9 ∨ month = 11 then 30
  else 31

/-- A date, kept as it is written. -/
def date? (cs : List Char) : Option (List Char × List Char) := do
  let (year, rest) ← fixedDigits 4 0 cs
  let rest ← expect '-' rest
  let (month, rest) ← numberUpTo 1 12 rest
  let rest ← expect '-' rest
  let (_, rest) ← numberUpTo 1 (daysIn year month) rest
  return (cs.take 10, rest)

/-- The part of a second: nine digits at most, without zeros at the end. -/
def fractionText (ds : List Char) : List Char :=
  match ((ds.take 9).reverse.dropWhile (· == '0')).reverse with
  | [] => []
  | ds => '.' :: ds

/-- A time of day. -/
def time? (cs : List Char) : Option (List Char × List Char) := do
  let (_, rest) ← numberUpTo 0 23 cs
  let rest ← expect ':' rest
  let (_, rest) ← numberUpTo 0 59 rest
  let rest ← expect ':' rest
  let (_, rest) ← numberUpTo 0 60 rest
  match rest with
  | '.' :: rest =>
    let ds := rest.takeWhile Char.isDigit
    if ds.isEmpty then none
    else return (cs.take 8 ++ fractionText ds, rest.dropWhile Char.isDigit)
  | _ => return (cs.take 8, rest)

/-- The distance from universal time, if one is written. No distance at all is positive. -/
def offset? : List Char → Option (List Char)
  | [] => some []
  | ['Z'] | ['z'] => some ['Z']
  | sign :: rest =>
    if sign == '+' || sign == '-' then do
      let (hours, after) ← numberUpTo 0 23 rest
      let after ← expect ':' after
      let (minutes, after) ← numberUpTo 0 59 after
      if !after.isEmpty then none
      else return (if hours + minutes = 0 then '+' else sign) :: rest
    else none

def isTimeMark (c : Char) : Bool := c == 'T' || c == 't' || c == ' '

def datetime? (cs : List Char) : Option Toml :=
  let text (parts : List (List Char)) : Toml := .datetime (String.ofList parts.flatten)
  match date? cs with
  | some (date, []) => some (text [date])
  | some (date, mark :: rest) =>
    if isTimeMark mark then do
      let (time, rest) ← time? rest
      let offset ← offset? rest
      return text [date, ['T'], time, offset]
    else none
  | none =>
    match time? cs with
    | some (time, []) => some (text [time])
    | _ => none

/-! ### Scalars -/

/-- Characters of numbers, moments in time and words. -/
def isScalarChar (c : Char) : Bool := isBare c || c == '+' || c == '.' || c == ':'

/-- The run of characters that a scalar is made of. A space may stand between date and time. -/
def scalarRun (cs : List Char) : List Char × List Char :=
  let run := cs.takeWhile isScalarChar
  match date? run, cs.dropWhile isScalarChar with
  | some (_, []), ' ' :: d :: rest =>
    if d.isDigit then
      (run ++ ' ' :: (d :: rest).takeWhile isScalarChar, (d :: rest).dropWhile isScalarChar)
    else (run, ' ' :: d :: rest)
  | _, rest => (run, rest)

def scalar (cs : List Char) : Option (Toml × List Char) :=
  match stringAt? cs with
  | some (s, rest) => some (.string s, rest)
  | none =>
    let (run, rest) := scalarRun cs
    let value : Option Toml :=
      match run with
      | ['t', 'r', 'u', 'e'] => some (.boolean true)
      | ['f', 'a', 'l', 's', 'e'] => some (.boolean false)
      | _ => (datetime? run).or ((float? run).or (integer? run))
    value.map fun v => (v, rest)

end PluginHost.Toml
