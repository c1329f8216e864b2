import Mathlib.Data.List.TakeWhile
import PluginHost.Plugin.Dispatch
import PluginHost.Proofs.Json.Nesting
import PluginHost.Scripted.Types

/-!
Requests whose last arguments are the text of a document, cut at spaces as a command line cuts it.
The program gets the document, wherever the text was cut.
-/

set_option autoImplicit false

namespace PluginHost

namespace Json

/-- The outermost of the open containers is an object. -/
def Rooted : List Open → Prop
  | [] => False
  | .list _ :: rest => Rooted rest
  | .object _ _ :: rest => rest = [] ∨ Rooted rest

namespace Machine

/-- Whatever the machine ends with is an object. -/
structure InObject (m : Machine) : Prop where
  rooted : m.expect ≠ .nothing → Rooted m.stack
  object : m.expect = .nothing → ∃ fields, m.result = .object fields

variable {m m' : Machine} {stack : List Open} {t : Token} {o : Nat}

theorem close_inObject (rooted : Rooted stack) (v : Json) : (close v stack).InObject := by
  match stack with
  | .list items :: rest => exact ⟨fun _ => rooted, nofun⟩
  | .object fields key :: rest => exact ⟨fun _ => rooted, nofun⟩

theorem InObject.step (inObject : m.InObject) (done : m.step t o = .ok m') : m'.InObject := by
  obtain ⟨unfinished, moves⟩ := moves_of_step done
  have rooted := inObject.rooted unfinished
  cases moves with
  | scalar | text => exact close_inObject rooted _
  | openList => exact ⟨fun _ => rooted, nofun⟩
  | openObject => exact ⟨fun _ => .inr rooted, nofun⟩
  | await _ goesOn => exact ⟨fun _ => rooted, fun ended => absurd ended goesOn⟩
  | name key stacked =>
    rw [stacked] at rooted
    exact ⟨fun _ => rooted, nofun⟩
  | @closeList items rest stacked =>
    rw [stacked] at rooted
    have around : Rooted rest := rooted
    exact close_inObject around _
  | @closeObject fields key rest stacked =>
    rw [stacked] at rooted
    rcases rooted with rfl | rooted
    next => exact ⟨fun unfinished => absurd rfl unfinished, fun _ => ⟨_, rfl⟩⟩
    next => exact close_inObject rooted _

theorem InObject.run (inObject : m.InObject) {ts : List (Token × Nat)} (done : m.run ts = .ok m') :
    m'.InObject := by
  induction ts generalizing m with
  | nil =>
    cases done
    exact inObject
  | cons t rest ih =>
    unfold Machine.run at done
    split at done
    next after stepped => exact ih (inObject.step stepped) done
    next => nomatch done

theorem expect_of_missing (complete : m.missing = none) : m.expect = .nothing := by
  obtain ⟨expect, stack, result⟩ := m
  cases expect with
  | separator => rcases stack with _ | ⟨_ | _, _⟩ <;> cases complete
  | nothing => rfl
  | _ => cases complete

end Machine

theorem readChars_brace {cs : List Char} {v : Json} (read : readChars ('\x7b' :: cs) = .ok v) :
    ∃ fields, v = .object fields := by
  have opened : (⟨.firstKey, [.object [] ""], .null⟩ : Machine).InObject :=
    ⟨fun _ => .inl rfl, nofun⟩
  have first (steps : Nat) : Machine.start.run (tokens (steps + 1) ⟨0, '\x7b' :: cs⟩) =
      (⟨.firstKey, [.object [] ""], .null⟩ : Machine).run (tokens steps ⟨0 + 1, cs⟩) := rfl
  rw [readChars, List.length_cons, first] at read
  split at read
  next => nomatch read
  next m done =>
    split at read
    next => nomatch read
    next complete =>
      cases read
      exact (opened.run done).object (Machine.expect_of_missing complete)

/-- A text that begins with a brace stands for nothing but an object. -/
theorem parse_brace {s : String} {v : Json} (brace : s.toList.head? = some '\x7b')
    (parsed : parse s = .ok v) : ∃ fields, v = .object fields := by
  obtain ⟨cs, text⟩ := List.head?_eq_some_iff.1 brace
  rw [parse, parseRaw, text] at parsed
  split at parsed
  next raw read =>
    obtain ⟨fields, rfl⟩ := readChars_brace read
    cases parsed
    exact ⟨_, rfl⟩
  next => nomatch parsed

end Json

/-- The text is cut into the pieces, each cut taking one space. -/
inductive Cuts : String → List String → Prop where
  | whole (text : String) : Cuts text [text]
  | cut (piece : String) {rest : String} {pieces : List String} (more : Cuts rest pieces) :
      Cuts (piece ++ " " ++ rest) (piece :: pieces)

namespace Cuts

variable {text : String} {pieces : List String}

theorem ne_nil (cuts : Cuts text pieces) : pieces ≠ [] := by
  cases cuts <;> simp

theorem intercalate_eq (cuts : Cuts text pieces) : " ".intercalate pieces = text := by
  induction cuts with
  | whole => rw [String.intercalate_singleton]
  | cut piece more ih => rw [String.intercalate_cons_of_ne_nil more.ne_nil, ih]

theorem exists_head (cuts : Cuts text pieces) (brace : text.toList.head? = some '\x7b') :
    ∃ piece more, pieces = piece :: more ∧ piece.toList.head? = some '\x7b' := by
  cases cuts with
  | whole => exact ⟨text, [], rfl, brace⟩
  | cut piece more =>
    refine ⟨piece, _, rfl, ?_⟩
    -- An empty first piece would be followed by a space.
    cases letters : piece.toList with
    | nil => simp [letters] at brace
    | cons c cs => simpa [letters] using brace

end Cuts

namespace Request

theorem opensObject_of_brace {s : String} (brace : s.toList.head? = some '\x7b') :
    opensObject (.string s) = true := by
  obtain ⟨cs, text⟩ := List.head?_eq_some_iff.1 brace
  have visible : Text.isBlank '\x7b' = false := by decide
  simp [opensObject, text, Text.trimStart, visible]

variable {plain : List Json}

theorem joinDocument_of_plain (opensNone : ∀ v ∈ plain, opensObject v = false) :
    joinDocument plain = .ok plain := by
  have dropped : plain.dropWhile (fun v => !opensObject v) = [] := by
    simpa [List.dropWhile_eq_nil_iff] using opensNone
  simp [joinDocument, dropped]

theorem joinDocument_append (opensNone : ∀ v ∈ plain, opensObject v = false) {first : Json}
    (opens : opensObject first = true) (rest : List Json) :
    joinDocument (plain ++ first :: rest) =
      match Json.parse (" ".intercalate ((first :: rest).map Json.plainText)) with
      | .ok document => .ok (plain ++ [document])
      | .error message => .error (.decode message) := by
  have all : ∀ v ∈ plain, (!opensObject v) = true := by simpa using opensNone
  have dropped : (plain ++ first :: rest).dropWhile (fun v => !opensObject v) = first :: rest := by
    rw [List.dropWhile_append_of_pos all]
    simp [opens]
  have taken : (plain ++ first :: rest).takeWhile (fun v => !opensObject v) = plain := by
    rw [List.takeWhile_append_of_pos all]
    simp [opens]
  cases parsed : Json.parse (" ".intercalate ((first :: rest).map Json.plainText)) <;>
    simp only [joinDocument, dropped, taken, parsed]

theorem joinDocument_of_cuts (opensNone : ∀ v ∈ plain, opensObject v = false) {text : String}
    {pieces : List String} (cuts : Cuts text pieces) (brace : text.toList.head? = some '\x7b') :
    joinDocument (plain ++ pieces.map Json.string) =
      match Json.parse text with
      | .ok document => .ok (plain ++ [document])
      | .error message => .error (.decode message) := by
  have joined := cuts.intercalate_eq
  obtain ⟨piece, more, rfl, first⟩ := cuts.exists_head brace
  have texts : ((piece :: more).map Json.string).map Json.plainText = piece :: more := by
    simp [Json.plainText, Function.comp_def]
  rw [List.map_cons, joinDocument_append opensNone (opensObject_of_brace first), ← List.map_cons,
    texts, joined]

/-- How a program's arguments come with a request: as they are, or as the one list of a function. -/
inductive Delivers (method : String) (args : List Json) : List Json → Prop where
  | direct : Delivers method args args
  | wrapped (function : kind? method = some .function) : Delivers method args [.array args]

theorem Delivers.unpack_eq {method : String} {args sent : List Json}
    (delivers : Delivers method args sent) (last : ∀ inner, args ≠ [.array inner]) :
    unpack (kind? method) sent = args := by
  cases delivers with
  | wrapped function => rw [function, unpack]
  | direct =>
    unfold unpack
    split
    next inner _ => exact absurd rfl (last inner)
    next => rfl

theorem append_ne_array {v : Json} (other : ∀ inner, v ≠ .array inner) (rest inner : List Json) :
    plain ++ v :: rest ≠ [.array inner] := by
  cases plain with
  | nil => simp [other]
  | cons w plain => simp

end Request

open Request in
/-- A text that begins with a brace comes to the program as the document it stands for, after the
arguments before it; it is refused if it stands for none. Where it was cut does not matter, and the
document itself instead of its text comes to the same. -/
theorem documents_reassembled {S : Schema} {h : Handler S} (json : h.options.json = true)
    (method : String) (sync : Bool) {plain : List Json}
    (opensNone : ∀ v ∈ plain, opensObject v = false) {text : String}
    (brace : text.toList.head? = some '\x7b') {pieces : List String} (cuts : Cuts text pieces)
    {sent : List Json} (delivers : Delivers method (plain ++ pieces.map Json.string) sent) :
    (Request.mk method sent sync).arguments h.options.json =
      (match Json.parse text with
      | .ok document => .ok (plain ++ [document])
      | .error message => .error (.decode message)) ∧
    ∀ document, Json.parse text = .ok document → ∀ sent, Delivers method (plain ++ [document]) sent →
      (Request.mk method sent sync).arguments h.options.json = .ok (plain ++ [document]) := by
  constructor
  next =>
    obtain ⟨piece, more, rfl, -⟩ := cuts.exists_head brace
    have unpacked := delivers.unpack_eq (append_ne_array (by simp) (more.map Json.string))
    simp only [arguments, json, unpacked, if_true]
    exact joinDocument_of_cuts opensNone cuts brace
  next =>
    intro document parsed sent delivers
    obtain ⟨fields, rfl⟩ := Json.parse_brace brace parsed
    have unpacked := delivers.unpack_eq (append_ne_array (by simp) [])
    have opensNone : ∀ v ∈ plain ++ [.object fields], opensObject v = false := by
      rw [List.forall_mem_append, List.forall_mem_singleton]
      exact ⟨opensNone, rfl⟩
    simp only [arguments, json, unpacked, if_true]
    exact joinDocument_of_plain opensNone

namespace Quotation

def handler : Handler (Scripted.schema .json) := Builtin.updateState.handler

def text : String := "\x7b\"quote\": \"to be\"\x7d"

def pieces : List String := ["\x7b\"quote\":", "\"to", "be\"\x7d"]

def document : Json := .object [("quote", .string "to be")]

theorem text_cuts : Cuts text pieces := by
  have joined : text = "\x7b\"quote\":" ++ " " ++ ("\"to" ++ " " ++ "be\"\x7d") := by
    decide +kernel
  rw [joined]
  exact .cut _ (.cut _ (.whole _))

def speaker : List Json := [.string "Hamlet"]

end Quotation

-- The second cut goes through a string of the document.
open Quotation in
theorem documents_reassembled_quotation :
    handler.options.json = true ∧ (∀ v ∈ speaker, Request.opensObject v = false) ∧
      text.toList.head? = some '\x7b' ∧ Cuts text pieces ∧ Json.parse text = .ok document ∧
      (Request.mk "function:update_state" [.array (speaker ++ pieces.map Json.string)] true).arguments
        handler.options.json = .ok (speaker ++ [document]) := by
  have json : handler.options.json = true := rfl
  have opensNone : ∀ v ∈ speaker, Request.opensObject v = false := by decide +kernel
  have brace : text.toList.head? = some '\x7b' := by decide +kernel
  have parsed : Json.parse text = .ok document := by decide +kernel
  have function : Request.kind? "function:update_state" = some .function := by decide +kernel
  have reassembled := (documents_reassembled json "function:update_state" true opensNone brace
    text_cuts (.wrapped function)).1
  rw [parsed] at reassembled
  exact ⟨json, opensNone, brace, text_cuts, parsed, reassembled⟩

end PluginHost
