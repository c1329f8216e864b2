import Mathlib.Logic.Relation
import PluginHost.Proofs.Editor.World
import PluginHost.Proofs.Session.Call
import PluginHost.Proofs.Session.Lines
import PluginHost.Session.Serve

/-!
A session while it is served. The reader and the worker take their steps in any order: the reader
takes lines, the worker takes messages from the queue and runs programs for them, which may ask the
editor.
-/

set_option autoImplicit false

namespace PluginHost

open Session (Handled)

variable {S : Schema} {W : Type}

namespace Query

/-- The question is for the machine. It does not involve the session's editor or its state. -/
def IsForMachine : Query → Prop
  | .request _ _ | .notify _ _ | .isCancelled => False
  | _ => True

end Query

inductive Writer where
  | reader
  | worker
deriving DecidableEq

/-- How far the reader is. At the end of the input it closes the session step by step. -/
inductive Reading where
  | lines
  | cancelled
  | refusing
  | dropped
  | ended
  | aborted
deriving DecidableEq

variable (S) in
/-- What the worker does. It sets the plugin up before it handles the first message. -/
inductive Working where
  | idle (s : PluginState S)
  | busy (m : Option Message) (x : Script (Handled × PluginState S))
  | calling (m : Option Message) (call : Call) (method : String) (args : List Json)
      (next : Reply → Script (Handled × PluginState S))
  | finished (s : PluginState S)

def Working.message? : Working S → Option Message
  | .busy m _ | .calling m _ _ _ _ => m
  | .idle _ | .finished _ => none

/-- The line that a call writes when it has come this far. -/
def Call.line (method : String) (args : List Json) : Call → List Message
  | .sent id => [.request id method args]
  | _ => []

/-- What a question to the machine does to the session. -/
def Session.afterAsking (s : Session) : Query → Session
  | .cancel => { s with cancelled := true }
  | _ => s

-- A step inside the code for a message, with the lines that it writes.
inductive Working.Step (world : World W) :
    Session → W → Working S → Session → W → Working S → List Message → Prop where
  | ask (s : Session) {w v : W} (m : Option Message) (q : Query)
      (next : q.Answer → Script (Handled × PluginState S)) (a : q.Answer)
      (machine : q.IsForMachine) (answered : world.answers w q a v) :
      Step world s w (.busy m (.ask q next)) (s.afterAsking q) v (.busy m (next a)) []
  | look (s : Session) (w : W) (m : Option Message)
      (next : Bool → Script (Handled × PluginState S)) :
      Step world s w (.busy m (.ask .isCancelled next)) s w (.busy m (next s.cancelled)) []
  | notify (s : Session) (w : W) (m : Option Message) (method : String) (args : List Json)
      (next : Reply → Script (Handled × PluginState S)) (flag : s.transport.closed = false) :
      Step world s w (.busy m (.ask (.notify method args) next)) s w
        (.busy m (next (.value .null))) [.notification method args]
  | notifyFails (s : Session) (w : W) (m : Option Message) (method : String) (args : List Json)
      (next : Reply → Script (Handled × PluginState S)) (flag : s.transport.closed = true) :
      Step world s w (.busy m (.ask (.notify method args) next)) s w
        (.busy m (next (.error Transport.closedError))) []
  | request (s : Session) (w : W) (m : Option Message) (method : String) (args : List Json)
      (next : Reply → Script (Handled × PluginState S)) :
      Step world s w (.busy m (.ask (.request method args) next)) s w
        (.calling m .idle method args next) []
  | call (s : Session) (w : W) (m : Option Message) (method : String) (args : List Json)
      (next : Reply → Script (Handled × PluginState S)) {before after : Call} {t : Transport}
      (step : Call.Step method none s.transport before t after) :
      Step world s w (.calling m before method args next) { s with transport := t } w
        (.calling m after method args next) (after.line method args)
  | reply (s : Session) (w : W) (m : Option Message) (id : Nat) (a : Answer) (method : String)
      (args : List Json) (next : Reply → Script (Handled × PluginState S)) :
      Step world s w (.calling m (.returned id a) method args next) s w
        (.busy m (next (.ofAnswer a))) []

variable (S W) in
structure Served where
  session : Session
  input : List String
  read : List String
  reading : Reading
  working : Working S
  world : W
  written : List (Writer × Message)
  handled : List (Message × Handled)

namespace Served

/-- The state in which the plugin is set up, before any line has been read. -/
def start (lines : List String) (setUp : Script (PluginState S)) (w : W) : Served S W where
  session := .start
  input := lines
  read := []
  reading := .lines
  working := .busy none (setUp.map fun s => (⟨none, none⟩, s))
  world := w
  written := []
  handled := []

def write (h : Served S W) (writer : Writer) (ms : List Message) : List (Writer × Message) :=
  h.written ++ ms.map fun m => (writer, m)

def writtenBy (h : Served S W) (writer : Writer) : List Message :=
  (h.written.filter fun p => p.1 = writer).map (·.2)

variable (world : World W) (lib : Library S)

-- Taking out the entry of a response and handing on its answer is one step here: the call that
-- waits for it cannot tell them apart.
inductive Step : Served S W → Served S W → Prop where
  | line (h : Served S W) (line : String) (rest : List String) (reading : h.reading = .lines)
      (input : h.input = line :: rest) :
      Step h { h with
        session := (h.session.receive line).1
        input := rest
        read := h.read ++ [line]
        written := h.write .reader (h.session.receive line).2.answer }
  | cancel (h : Served S W) (reading : h.reading = .lines) (input : h.input = []) :
      Step h { h with session := { h.session with cancelled := true }, reading := .cancelled }
  | refuseNew (h : Served S W) (reading : h.reading = .cancelled) :
      Step h { h with
        session := { h.session with transport := h.session.transport.refuseNew }
        reading := .refusing }
  | dropPending (h : Served S W) (reading : h.reading = .refusing) :
      Step h { h with
        session := { h.session with transport := h.session.transport.dropPending }
        reading := .dropped }
  | release (h : Served S W) (reading : h.reading = .dropped) :
      Step h { h with session := { h.session with accepting := false }, reading := .ended }
  | abort (h : Served S W) (s : PluginState S) (reading : h.reading = .lines)
      (working : h.working = .finished s) : Step h { h with reading := .aborted }
  | take (h : Served S W) (s : PluginState S) (m : Message) (session : Session)
      (working : h.working = .idle s) (next : h.session.next? = some (m, session)) :
      Step h { h with session, working := .busy (some m) (Session.work lib m s) }
  | finish (h : Served S W) (s : PluginState S) (working : h.working = .idle s)
      (none : h.session.next? = none) (left : h.session.accepting = false) :
      Step h { h with working := .finished s }
  | work (h : Served S W) {session : Session} {w : W} {working : Working S} {ms : List Message}
      (step : Working.Step world h.session h.world h.working session w working ms) :
      Step h { h with session, world := w, working, written := h.write .worker ms }
  | done (h : Served S W) (m : Option Message) (handled : Handled) (s : PluginState S)
      (working : h.working = .busy m (.done (handled, s))) :
      Step h { h with
        working := .idle s
        written := h.write .worker handled.response.toList
        handled := h.handled ++ m.toList.map fun m => (m, handled) }

abbrev Runs : Served S W → Served S W → Prop := Relation.ReflTransGen (Step world lib)

variable {world lib} {h : Served S W}

end Served

end PluginHost
