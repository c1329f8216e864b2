import PluginHost.Host.Plain
import PluginHost.Session.Rehearsal

/-!
A whole run of the program in a folder in memory, with a scripted editor at its standard streams.
-/

set_option autoImplicit false

namespace PluginHost

/-- What a run leaves. -/
structure Trial where
  code : Nat
  /-- Lines on the standard output stream. -/
  output : List String
  /-- Lines on the standard error stream that tell why the run failed. -/
  errors : List String
  folder : Folder

namespace Trial

/-- How the log's file comes out. -/
inductive LogFile where
  | none
  /-- A file by its names, if it lies in the folder. -/
  | opened (names : Option (List String))
  | failed (e : LaunchError)
  /-- A folder stands where the file should be. -/
  | broken

/-- Makes the way to the log's file and opens it. -/
def openLog (f : Folder) (path : String) : LogFile :=
  match Launch.logPlace path with
  | .error e => .failed e
  | .ok steps =>
    let names := f.resolve steps
    match f.inside? (f.resolve steps.folder), f.inside? names with
    | some way, file =>
      if f.isFile way then .failed (.host (.file .occupied))
      else if f.isBlocked way then .failed (.host (.file .noFolder))
      else if (file.map f.isFolder).getD false then .broken
      else .opened file
    | .none, file => if file.isSome then .broken else .opened .none

def logFile (f : Folder) (l : Launch) : LogFile :=
  match l.log.file with
  | .none => .none
  | some path => openLog f path

/-- The status of a program that panics. -/
def panicCode : Nat := 101

def failed (f : Folder) (e : LaunchError) : Trial := ⟨1, [], [e.line], f⟩

/-- Runs the session; `place` is where the log goes. -/
def session (f : Folder) (l : Launch) (editor : ScriptedEditor) (place : Option (List String)) :
    Trial :=
  let journal := (Journal.mk l.directives 0).note .info LogTarget.host
  let setup := Plain.setup l
  let (result, r) := (Rehearsal.start editor (Session.exitGroup setup.plugin) journal).run
    Plain.library setup
  let (code, r) := match result with
    | .ok () => (0, r.note .info LogTarget.host)
    | .error _ => (1, r.note .error LogTarget.host)
  let f := match place with
    | some names => f.append names (String.ofList (List.replicate r.journal.entries '\n'))
    | none => f
  ⟨code, r.transcript, [], f⟩

def launch (f : Folder) (l : Launch) (editor : ScriptedEditor) : Trial :=
  match logFile f l with
  | .none => session f l editor none
  | .opened place => session f l editor place
  | .failed e => failed f e
  | .broken => ⟨panicCode, [], [], f⟩

def run (f : Folder) (env : Environment) (args : List String) (editor : ScriptedEditor) : Trial :=
  match Command.parse args with
  | .help => ⟨0, Command.helpLines, [], f⟩
  | .version => ⟨0, [Command.versionLine], [], f⟩
  | .misuse => ⟨2, [], [], f⟩
  | .run args =>
    match (Launch.prepare (m := Id) f.read env args) with
    | .error e => failed f e
    | .ok l => launch f l editor

end Trial

end PluginHost
