import PluginHost.Editor.Machine
import PluginHost.Session.Journal
import PluginHost.Session.Serve
import PluginHost.Text.Utf8

/-!
A session with an editor that follows a script: it answers requests as told in advance, sends its
lines entry by entry, each once all requests in the one before have their responses, and hangs up
after the last. The reader takes all that the editor has sent before the worker goes on.
-/

set_option autoImplicit false

namespace PluginHost

/-- How the editor answers a request. -/
structure CannedReply where
  /-- Lines sent in front of the answer. -/
  before : List String
  error : Json
  result : Json
  /-- Hangs up in the place of an answer. -/
  silent : Bool
  /-- Hangs up after the answer. -/
  last : Bool

def CannedReply.nothing : CannedReply := ⟨[], .null, .null, false, false⟩

structure ScriptedEditor where
  /-- Answers by method and first argument, or by method alone. -/
  replies : List (String × CannedReply)
  /-- The entries still to send. -/
  script : List (List String)
  /-- The numbers of the requests that are still without a response. -/
  awaiting : List Nat
  /-- Whether the script has begun. -/
  started : Bool
  closed : Bool

namespace ScriptedEditor

def start (replies : List (String × CannedReply)) (script : List (List String)) : ScriptedEditor :=
  ⟨replies, script, [], false, false⟩

def replyTo (p : ScriptedEditor) (method : String) (args : List Json) : CannedReply :=
  let special := (args.head?.bind Json.string?).bind fun arg => p.replies.lookup (method ++ " " ++ arg)
  (special.or (p.replies.lookup method)).getD .nothing

/-- The numbers of the requests among some lines. -/
def requestIds (lines : List String) : List Nat :=
  lines.filterMap fun line =>
    match Message.parse line with
    | .ok (.request id _ _) => some id
    | _ => none

def noticeResponse (p : ScriptedEditor) (id : Nat) : ScriptedEditor :=
  { p with awaiting := p.awaiting.erase id }

end ScriptedEditor

structure Rehearsal where
  session : Session
  editor : ScriptedEditor
  /-- The name of the group in the exit hook, which starts the script. -/
  exitGroup : String
  channel : Int
  /-- The lines the plugin wrote, latest first. -/
  written : List String
  machine : Machine
  logLevel : String
  journal : Journal

namespace Rehearsal

def start (editor : ScriptedEditor) (exitGroup : String) (journal : Journal) : Rehearsal :=
  ⟨.start, editor, exitGroup, 0, [], .start, "", journal⟩

def transcript (r : Rehearsal) : List String := r.written.reverse

def note (r : Rehearsal) (level : LogLevel) (target : String) : Rehearsal :=
  { r with journal := r.journal.note level target }

/-- Writes a line. The editor notices responses to its requests. -/
def write (r : Rehearsal) (m : Message) : Rehearsal :=
  let r := { r with written := m.text :: r.written }
  match m with
  | .response id _ _ => { r with editor := r.editor.noticeResponse id }
  | _ => r

/-- The reader takes a line from the editor. -/
def receive (r : Rehearsal) (line : String) : Rehearsal :=
  let (session, receipt) := r.session.receive line
  let r := { r with session }
  match receipt with
  | .malformed _ | .stray => r.note .warn LogTarget.session
  | .leaving => r.note .info LogTarget.session
  | .refused answer => (r.note .debug LogTarget.session).write answer
  | .blank | .resolved | .queued | .ignored => r

/-- The reader takes what the editor sent at once. -/
def receiveAll (r : Rehearsal) (texts : List String) : Rehearsal :=
  (texts.flatMap fun t => Text.lines (t ++ "\n")).foldl receive r

/-- The editor closes its end. -/
def hangUp (r : Rehearsal) : Rehearsal :=
  if r.editor.closed then r
  else
    { r with session := r.session.hangUp, editor := { r.editor with closed := true } }.note
      .debug LogTarget.session

/-- Sends the entries whose turn it is, and hangs up after the last. -/
def sendEntries (r : Rehearsal) : (script : List (List String)) → Rehearsal
  | [] => if r.editor.awaiting.isEmpty then r.hangUp else r
  | lines :: rest =>
    if r.editor.awaiting.isEmpty then
      let awaiting := ScriptedEditor.requestIds lines
      sendEntries ({ r with editor := { r.editor with awaiting, script := rest } }.receiveAll lines)
        rest
    else r

def proceed (r : Rehearsal) : Rehearsal :=
  if r.editor.started && !r.editor.closed then r.sendEntries r.editor.script else r

/-- Whether a request defines the hook for the exit. -/
def isExitHook (r : Rehearsal) (method : String) (args : List Json) : Bool :=
  method == "nvim_exec2" &&
    match args with
    | .string source :: _ => r.exitGroup.toList.isPrefixOf source.toList
    | _ => false

/-- The editor answers a request. -/
def answerRequest (r : Rehearsal) (id : Nat) (method : String) (args : List Json) : Rehearsal :=
  if r.editor.closed then r
  else
    let reply := r.editor.replyTo method args
    let r := r.receiveAll reply.before
    if reply.silent then r.hangUp
    else
      let r := r.receive (Message.response id reply.error reply.result).text
      if reply.last then r.hangUp
      else if r.isExitHook method args then
        { r with editor := { r.editor with started := true } }.proceed
      else r.proceed

/-- A request of the plugin, from its number to its answer. -/
def request (r : Rehearsal) (method : String) (args : List Json) : Answer × Rehearsal :=
  let r := r.note .trace LogTarget.requests
  match r.session.transport.begin? method with
  | (none, transport) =>
    (.error Transport.closedError, { r with session := { r.session with transport } })
  | (some id, transport) =>
    let r := { r with session := { r.session with transport } }
    let r := (r.write (.request id method args)).answerRequest id method args
    (r.session.transport.taken id method, r)

def notify (r : Rehearsal) (method : String) (args : List Json) : Answer × Rehearsal :=
  let r := r.note .trace LogTarget.requests
  if r.session.transport.closed then (.error Transport.closedError, r)
  else (.ok .null, r.write (.notification method args))

/-- Exchanges the directives of the log, and notes that they changed. -/
def setLogLevel (r : Rehearsal) (level : String) : Rehearsal :=
  let directives := (Directives.parse level).toOption.getD r.journal.directives
  let r := { r with logLevel := level, journal := { r.journal with directives } }
  (r.note .info LogTarget.logging).note .info LogTarget.internal

def answer (r : Rehearsal) : (q : Query) → q.Answer × Rehearsal
  | .request method args =>
    let (a, r) := r.request method args
    (.ofAnswer a, r)
  | .notify method args =>
    let (a, r) := r.notify method args
    (.ofAnswer a, r)
  | .channel => (r.channel, r)
  | .cancel => ((), { r with session := { r.session with cancelled := true } })
  | .isCancelled => (r.session.cancelled, r)
  | .sleep span => ((), { r with machine := r.machine.pass span.nanos })
  | .freshId =>
    let (id, machine) := r.machine.draw
    (id, { r with machine })
  | .logLevel => (r.logLevel, r)
  | .setLogLevel level => ((), r.setLogLevel level)
  | .runTasks threads tasks wait =>
    let (done, machine) := r.machine.runTasks threads tasks wait
    (done, { r with machine })
  | .runSubprocesses processes wait =>
    let (done, machine) := r.machine.runSubprocesses processes wait
    (done, { r with machine })

end Rehearsal

def Script.rehearse {α : Type} (r : Rehearsal) : Script α → α × Rehearsal
  | .done a => (a, r)
  | .ask q next =>
    let (a, r) := r.answer q
    (next a).rehearse r

namespace Rehearsal

variable {S : Schema}

def noteResult (r : Rehearsal) : Except PluginError Json → Rehearsal
  | .ok _ => r.note .debug LogTarget.dispatch
  | .error e => r.note (if e.isFatal then .error else .warn) LogTarget.dispatch

/-- The worker handles the oldest message. -/
def handleNext (r : Rehearsal) (lib : Library S) (s : PluginState S) :
    Option (PluginState S × Rehearsal) :=
  r.session.next?.map fun (m, session) =>
    let ((handled, s), r) := (Session.work lib m s).rehearse { r with session }
    let r := (handled.result.map r.noteResult).getD r
    (s, match handled.response with
      | some response => (r.write response).proceed
      | none => r)

/-- The worker handles messages until none is left; a script may make the editor send ever more
of them, and after so many `steps` the rest stays in the queue. -/
def serve (lib : Library S) : (steps : Nat) → PluginState S → Rehearsal → PluginState S × Rehearsal
  | 0, s, r => (s, r)
  | steps + 1, s, r =>
    match r.handleNext lib s with
    | some (s, r) => serve lib steps s r
    | none => (s, r.note .info LogTarget.session)

/-- How many messages a rehearsal handles at most. -/
def limit : Nat := 100000

/-- Goes on with the value of a step, or ends with its error. -/
def after {α β : Type} (x : Except HostError α × Rehearsal)
    (next : α → Rehearsal → Except HostError β × Rehearsal) : Except HostError β × Rehearsal :=
  match x with
  | (.ok a, r) => next a r
  | (.error e, r) => (.error e, r)

def runHandshake (r : Rehearsal) : Except HostError Int × Rehearsal :=
  let (answer, r) := Session.handshake.evaluate.rehearse r
  match answer with
  | .ok (channel, _) => (.ok channel, { r with channel }.note .info LogTarget.session)
  | .error e => (.error (.editor e), r)

/-- Runs a session from its beginning to its end. -/
def run (r : Rehearsal) (lib : Library S) (u : Session.Setup S) : Except HostError Unit × Rehearsal :=
  after r.runHandshake fun channel r =>
  after (u.build.rehearse r) fun s r =>
  after ((Session.Setup.define s).rehearse (r.note .info LogTarget.state)) fun s r =>
  let r := (r.note .debug LogTarget.steps).note .info LogTarget.internal
  after ((u.hook channel).rehearse r) fun () r =>
    (.ok (), (serve lib limit s (r.note .info LogTarget.host)).2)

end Rehearsal

end PluginHost
