import PluginHost.Session.Transport
import PluginHost.Text.Blank

/-!
The plugin's end of a session. A reader takes the editor's lines as they come: responses go to the
requests that wait for them, other messages into a queue for the worker. Once the editor leaves,
nothing enters the queue, and requests are refused.
-/

set_option autoImplicit false

namespace PluginHost

structure Session where
  transport : Transport
  /-- The messages the worker has yet to handle, oldest first. -/
  queue : List Message
  /-- Whether messages still enter the queue. -/
  accepting : Bool
  cancelled : Bool

/-- What became of a line. -/
inductive Receipt where
  | blank
  | malformed (e : MessageError)
  | resolved
  /-- A response that nobody waits for. -/
  | stray
  | leaving
  | queued
  /-- A request that came too late, with the response it gets. -/
  | refused (answer : Message)
  /-- A notification that came too late. -/
  | ignored

namespace Session

def start : Session := ⟨.start, [], true, false⟩

/-- The notification by which the editor says that it is leaving. -/
def leaveMethod : String := "vim_leave"

def shutdownMessage : String := "plugin is shutting down"

def enqueue (s : Session) (m : Message) : Session := { s with queue := s.queue ++ [m] }

def take (s : Session) (m : Message) : Session × Receipt :=
  match m with
  | .response id error result =>
    if (s.transport.pending.lookup id).isSome then
      ({ s with transport := s.transport.resolve id error result }, .resolved)
    else (s, .stray)
  | .notification method _ =>
    if method = leaveMethod then ({ s with accepting := false, cancelled := true }, .leaving)
    else if s.accepting then (s.enqueue m, .queued)
    else (s, .ignored)
  | .request id _ _ =>
    if s.accepting then (s.enqueue m, .queued)
    else (s, .refused (.response id (.string shutdownMessage) .null))

/-- Takes a line from the editor. Blank and malformed lines change nothing. -/
def receive (s : Session) (line : String) : Session × Receipt :=
  if Text.isBlankText line then (s, .blank)
  else
    match Message.parse line with
    | .ok m => s.take m
    | .error e => (s, .malformed e)

/-- The editor sends nothing more. -/
def hangUp (s : Session) : Session :=
  { s with accepting := false, cancelled := true, transport := s.transport.close }

/-- The oldest message in the queue. -/
def next? (s : Session) : Option (Message × Session) :=
  match s.queue with
  | [] => none
  | m :: rest => some (m, { s with queue := rest })

end Session

end PluginHost
