import PluginHost.Plugin.State
import PluginHost.Text.Blank
import PluginHost.Text.Case

/-!
What a log takes in. A filter is a list of directives; each lets events of some targets through up
to a level, and the directive with the longest fitting target decides.
-/

set_option autoImplicit false

namespace PluginHost

inductive LogLevel where
  | off
  | error
  | warn
  | info
  | debug
  | trace
deriving DecidableEq, Repr

namespace LogLevel

def all : List LogLevel := [off, error, warn, info, debug, trace]

def name : LogLevel → String
  | off => "off"
  | error => "error"
  | warn => "warn"
  | info => "info"
  | debug => "debug"
  | trace => "trace"

/-- The place in the order from silent to talkative. -/
def rank : LogLevel → Nat
  | off => 0
  | error => 1
  | warn => 2
  | info => 3
  | debug => 4
  | trace => 5

/-- A number in decimal digits, with or without a sign in front. -/
def number? (cs : List Char) : Option Nat :=
  let ds := match cs with
    | '+' :: rest => rest
    | cs => cs
  if ds.isEmpty || !ds.all Char.isDigit then none
  else some (ds.foldl (fun n d => n * 10 + (d.toNat - 48)) 0)

/-- Levels are known by their names in any case and by their ranks. -/
def parse (s : String) : Option LogLevel :=
  match number? s.toList with
  | some n => all.find? fun l => l.rank == n
  | none => all.find? fun l => l.name == Text.asciiLowercase s

end LogLevel

inductive DirectiveError where
  | malformed
  | unknownLevel
deriving DecidableEq, Repr

def DirectiveError.message : DirectiveError → String
  | .malformed => "invalid filter directive"
  | .unknownLevel =>
    "error parsing level filter: expected one of \"off\", \"error\", \"warn\", \"info\", " ++
      "\"debug\", \"trace\", or a number 0-5"

structure Directive where
  level : LogLevel
  /-- The beginning of the targets it is for; without one it is for all. -/
  target : Option String
  /-- Whether it is for events of certain spans only. -/
  inSpan : Bool
deriving DecidableEq, Repr

namespace Directive

/-- Where the reader of a directive stands. -/
inductive Place where
  | start
  | name
  | span
  | field (first : Nat)
  | afterFields
  | afterSpan
  | level (first : Nat)
deriving DecidableEq, Repr

structure Reading where
  place : Place
  directive : Directive

/-- The text between two places. -/
def cut (cs : List Char) (first stop : Nat) : String := String.ofList ((cs.take stop).drop first)

/-- Takes the character at a place into account; parts are cut out of the whole text. -/
def step (text : List Char) (r : Reading) (i : Nat) (c : Char) : Except DirectiveError Reading :=
  let named : Directive := { r.directive with target := some (cut text 0 i) }
  let spanned : Directive := { r.directive with inSpan := true }
  match r.place, c with
  | .start, '[' => .ok ⟨.span, spanned⟩
  | .start, c =>
    if c == '-' || c == ':' || c == '_' || c.isAlphanum || 0x7F < c.toNat then .ok ⟨.name, r.directive⟩
    else .error .malformed
  | .name, '=' => .ok ⟨.level (i + 1), named⟩
  | .name, '[' => .ok ⟨.span, { named with inSpan := true }⟩
  | .name, _ => .ok r
  | .span, ']' => .ok { r with place := .afterSpan }
  | .span, '\x7b' => .ok { r with place := .field (i + 1) }
  | .span, _ => .ok r
  | .field first, '\x7d' =>
    if first = i then .error .malformed else .ok { r with place := .afterFields }
  | .field _, _ => .ok r
  | .afterFields, ']' => .ok { r with place := .afterSpan }
  | .afterSpan, '=' => .ok { r with place := .level (i + 1) }
  | .level _, _ => .ok r
  | _, _ => .error .malformed

def steps (text : List Char) : (i : Nat) → Reading → List Char → Except DirectiveError Reading
  | _, r, [] => .ok r
  | i, r, c :: rest => (step text r i c).bind fun r => steps text (i + 1) r rest

/-- A name alone is a level if there is one of that name, else a target of which all is taken. -/
def finish (text : List Char) (r : Reading) : Except DirectiveError Directive :=
  match r.place with
  | .name =>
    match LogLevel.parse (String.ofList text) with
    | some level => .ok { r.directive with level }
    | none => .ok { r.directive with target := some (String.ofList text) }
  | .level first =>
    match String.ofList (text.drop first) with
    | "" => .ok r.directive
    | s =>
      match LogLevel.parse s with
      | some level => .ok { r.directive with level }
      | none => .error .unknownLevel
  | .afterSpan => .ok r.directive
  | _ => .error .malformed

/-- Blanks around the text are not read, but places still count from its first character, so a
blank in front shifts the parts that are cut out. -/
def parse (s : String) : Except DirectiveError Directive :=
  (steps s.toList 0 ⟨.start, ⟨.trace, none, false⟩⟩ (Text.trimChars s.toList)).bind
    (finish s.toList)

def covers (d : Directive) (target : String) : Bool :=
  !d.inSpan && (d.target.map fun t => t.toList.isPrefixOf target.toList).getD true

def reach (d : Directive) : Nat := (d.target.map fun t => t.utf8ByteSize + 1).getD 0

end Directive

/-- The directives of a filter; without any, errors pass. -/
abbrev Directives := List Directive

namespace Directives

def parse (s : String) : Except DirectiveError Directives :=
  ((Text.splitText ',' s).filter (· != "")).mapM Directive.parse

/-- The directive that decides about a target: the latest of those with the longest target. -/
def deciding (ds : Directives) (target : String) : Option Directive :=
  (ds.filter fun d => d.covers target).foldl (fun best d =>
    match best with
    | some b => if b.reach ≤ d.reach then some d else some b
    | none => some d) none

def enables (ds : Directives) (level : LogLevel) (target : String) : Bool :=
  match ds.deciding target with
  | some d => level.rank ≤ d.level.rank
  | none => ds.isEmpty && level == .error

end Directives

/-- The filter of a log whose directives can be exchanged while it is written. -/
def LogFilter.ofDirectives : LogFilter :=
  ⟨fun s => (Directives.parse s).map (fun _ => ()) |>.mapError DirectiveError.message⟩

end PluginHost
