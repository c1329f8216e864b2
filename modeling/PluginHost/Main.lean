import PluginHost.Editor.Machine
import PluginHost.Host.Plain
import PluginHost.Session.Journal
import PluginHost.Text.Utf8

/-!
The program: it reads a manifest and runs the plugin it describes in a session over the standard
streams. Lines are read whenever the plugin waits for the editor.
-/

set_option autoImplicit false

namespace PluginHost

/-- A session over the standard streams. -/
structure Live where
  input : IO.FS.Stream
  output : IO.FS.Stream
  log : IO.FS.Stream
  session : Session
  channel : Int
  machine : Machine
  logLevel : String
  directives : Directives

namespace Live

abbrev Run (α : Type) := StateT Live IO α

def note (level : LogLevel) (target text : String) : Run Unit := do
  let l ← get
  if l.directives.enables level target then
    l.log.putStrLn s!"{level.name} {target}: {text}"
    l.log.flush

def write (m : Message) : Run Unit := do
  let l ← get
  l.output.putStr m.encode
  l.output.flush

def closeSession : Run Unit := modify fun l => { l with session := l.session.hangUp }

/-- Takes the next line from the editor, or notices that there is none. -/
def readLine : Run Unit := do
  let l ← get
  let line ← try l.input.getLine catch _ => pure ""
  match Text.lines line with
  | [] => closeSession
  | line :: _ =>
    let (session, receipt) := l.session.receive line
    set { l with session }
    match receipt with
    | .malformed e => note .warn LogTarget.session e.message
    | .stray => note .warn LogTarget.session "response to unknown request"
    | .leaving => note .info LogTarget.session "editor is exiting"
    | .refused answer => write answer
    | .blank | .resolved | .queued | .ignored => return

/-- Reads lines until the request under the number no longer waits. -/
partial def awaitAnswer (id : Nat) (method : String) : Run Answer := do
  let t := (← get).session.transport
  match t.standing id with
  | .waiting =>
    readLine
    awaitAnswer id method
  | .answered _ | .dropped => return t.taken id method

def request (method : String) (args : List Json) : Run Reply := do
  note .trace LogTarget.requests method
  let l ← get
  let (id, transport) := l.session.transport.begin? method
  set { l with session := { l.session with transport } }
  match id with
  | none => return .error Transport.closedError
  | some id =>
    write (.request id method args)
    return Reply.ofAnswer (← awaitAnswer id method)

def notify (method : String) (args : List Json) : Run Reply := do
  note .trace LogTarget.requests method
  if (← get).session.transport.closed then return .error Transport.closedError
  write (.notification method args)
  return .value .null

def setLogLevel (level : String) : Run Unit := do
  modify fun l =>
    { l with logLevel := level, directives := (Directives.parse level).toOption.getD l.directives }
  note .info LogTarget.logging "log level changed"

def answer : (q : Query) → Run q.Answer
  | .request method args => request method args
  | .notify method args => notify method args
  | .channel => return (← get).channel
  | .cancel => modify fun l => { l with session := { l.session with cancelled := true } }
  | .isCancelled => return (← get).session.cancelled
  | .sleep span => IO.sleep span.millis.toUInt32
  | .freshId => return Machine.identifier (← IO.rand 0 0xffffffffffff)
  | .logLevel => return (← get).logLevel
  | .setLogLevel level => setLogLevel level
  | .runTasks threads tasks wait => modifyGet fun l =>
      let (done, machine) := l.machine.runTasks threads tasks wait
      (done, { l with machine })
  | .runSubprocesses processes wait => modifyGet fun l =>
      let (done, machine) := l.machine.runSubprocesses processes wait
      (done, { l with machine })

def run {α : Type} : Script α → Run α
  | .done a => return a
  | .ask q next => do
    let a ← answer q
    run (next a)

/-- Handles messages until the editor has left and none is in the queue. -/
partial def serve (s : PluginState Plain.schema) : Run Unit := do
  let l ← get
  match l.session.next? with
  | some (m, session) =>
    set { l with session }
    let (handled, s) ← run (Session.work Plain.library m s)
    match handled.result with
    | some (.error e) => note (if e.isFatal then .error else .warn) LogTarget.dispatch e.message
    | _ => note .debug LogTarget.dispatch "message handled"
    if let some response := handled.response then write response
    serve s
  | none =>
    if l.session.accepting then
      readLine
      serve s
    else note .info LogTarget.session "session finished"

def runSession (u : Session.Setup Plain.schema) : Run (Except HostError Unit) := do
  match ← run Session.handshake.evaluate with
  | .error e => return .error (.editor e)
  | .ok (channel, _) =>
    modify fun l => { l with channel }
    match ← run u.build with
    | .error e => return .error e
    | .ok s =>
      match ← run (Session.Setup.define s) with
      | .error e => return .error e
      | .ok s =>
        match ← run (u.hook channel) with
        | .error e => return .error e
        | .ok () =>
          note .info LogTarget.host "plugin ready"
          serve s
          return .ok ()

end Live

/-- Why the system refused a file. -/
def FileError.ofSystem : IO.Error → FileError
  | .noFileOrDirectory _ _ _ => .missing
  | .inappropriateType _ code _ => if code == 21 then .folder else .noFolder
  | .alreadyExists _ _ _ => .occupied
  | .permissionDenied _ code _ => .other "Permission denied" code.toNat
  | .userError _ => .notText
  | e => .other (toString e) 5

def readFile (path : String) : IO (Except FileError String) := do
  try return .ok (← IO.FS.readFile path)
  catch e => return .error (.ofSystem e)

def systemEnvironment : IO Environment := do
  let names := [LogSettings.fileVariable, LogSettings.formatVariable, LogSettings.filterVariable,
    "XDG_CONFIG_HOME", "HOME"]
  names.filterMapM fun name => do return (← IO.getEnv name).map fun v => (name, v)

/-- The stream that takes the log. -/
def openLog (l : Launch) : IO (Except LaunchError IO.FS.Stream) := do
  match l.log.file with
  | none => return .ok (← IO.getStderr)
  | some path =>
    match Launch.logPlace path with
    | .error e => return .error e
    | .ok steps =>
      try
        IO.FS.createDirAll steps.folder.text
        return .ok (IO.FS.Stream.ofHandle (← IO.FS.Handle.mk path .append))
      catch e => return .error (.host (.file (.ofSystem e)))

def launch (args : Arguments) : IO UInt32 := do
  let failed (e : LaunchError) : IO UInt32 := do
    IO.eprintln e.line
    return 1
  match ← Launch.prepare readFile (← systemEnvironment) args with
  | .error e => failed e
  | .ok l =>
    match ← openLog l with
    | .error e => failed e
    | .ok log =>
      let live : Live := ⟨← IO.getStdin, ← IO.getStdout, log, .start, 0, .start, "", l.directives⟩
      let (result, _) ← (do
        Live.note .info LogTarget.host "starting plugin"
        match ← Live.runSession (Plain.setup l) with
        | .ok () => Live.note .info LogTarget.host "plugin stopped"; return 0
        | .error e => Live.note .error LogTarget.host e.message; return 1 : Live.Run UInt32).run live
      return result

end PluginHost

open PluginHost in
def main (args : List String) : IO UInt32 := do
  match Command.parse args with
  | .help =>
    Command.helpLines.forM IO.println
    return 0
  | .version =>
    IO.println Command.versionLine
    return 0
  | .misuse =>
    IO.eprintln Command.usageLine
    return 2
  | .run args => launch args
