import PluginHost.Editor.Query
import PluginHost.Session.Message

/-!
Requests on their way. A request draws a number, waits under it for a response, and gives up when
the session closes. A response reaches the request that waits under its number, and nobody else.
-/

set_option autoImplicit false

namespace PluginHost

/-- What a request comes to. -/
abbrev Answer := Except EditorError Json

def Reply.ofAnswer : Answer → Reply
  | .ok v => .value v
  | .error e => .error e

structure Transport where
  nextId : Nat
  /-- The methods of the requests that wait, under their numbers. -/
  pending : List (Nat × String)
  /-- Answers that arrived and were not taken yet. -/
  arrived : List (Nat × Answer)
  closed : Bool

namespace Transport

def start : Transport := ⟨1, [], [], false⟩

/-- The number of a new request. -/
def draw (t : Transport) : Nat × Transport := (t.nextId, { t with nextId := t.nextId + 1 })

def await (t : Transport) (id : Nat) (method : String) : Transport :=
  { t with pending := (id, method) :: t.pending }

def forget (t : Transport) (id : Nat) : Transport :=
  { t with pending := t.pending.filter fun p => p.1 != id }

@[simp] theorem lookup_forget (t : Transport) (id : Nat) :
    (t.forget id).pending.lookup id = none := by
  simp only [forget, List.lookup_eq_none_iff, List.mem_filter, bne_iff_ne]
  exact fun p h => by simpa using h.2.symm

/-- The words of an error, which the editor sends alone or behind a number. -/
def errorText : Json → String
  | .string message => message
  | .array [_, .string message] => message
  | v => v.render

def answerOf (method : String) (error result : Json) : Answer :=
  if error.isNull then .ok result else .error (.request method (errorText error))

/-- Hands a response to the request that waits for it. -/
def resolve (t : Transport) (id : Nat) (error result : Json) : Transport :=
  match t.pending.lookup id with
  | some method =>
    { t.forget id with arrived := (id, answerOf method error result) :: t.arrived }
  | none => t

def refuseNew (t : Transport) : Transport := { t with closed := true }

def dropPending (t : Transport) : Transport := { t with pending := [] }

/-- New requests are refused before the waiting ones are dropped, so that none waits for ever. -/
def close (t : Transport) : Transport := t.refuseNew.dropPending

def closedError : EditorError := .transport "session closed"

def lostError (method : String) : EditorError :=
  .transport s!"session closed while waiting for `{method}`"

/-- Where a request that waits under a number stands. -/
inductive Standing where
  | waiting
  | answered (a : Answer)
  | dropped

def standing (t : Transport) (id : Nat) : Standing :=
  match t.arrived.lookup id with
  | some a => .answered a
  | none => if (t.pending.lookup id).isSome then .waiting else .dropped

/-- What the one who waits under a number gets, once it no longer waits. -/
def taken (t : Transport) (id : Nat) (method : String) : Answer :=
  match t.standing id with
  | .answered a => a
  | .waiting | .dropped => .error (lostError method)

/-- Puts a new request on its way, unless the session is closed. -/
def begin? (t : Transport) (method : String) : Option Nat × Transport :=
  let (id, t) := t.draw
  let t := t.await id method
  if t.closed then (none, t.forget id) else (some id, t)

end Transport

end PluginHost
