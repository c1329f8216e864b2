import PluginHost.Host.CommandLine
import PluginHost.Host.Manifest
import PluginHost.Host.Preferences
import PluginHost.Log.Settings

/-!
From the command line and the environment to a plugin that can be run. A launch that fails ends
with a line on the standard error stream.
-/

set_option autoImplicit false

namespace PluginHost

/-- Why a plugin cannot be launched. -/
inductive LaunchError where
  /-- The preferences named on the command line cannot be used. -/
  | preferences (path : String) (e : Option FileError)
  | manifest (path : String) (e : HostError)
  | host (e : HostError)
  | noLogFile (path : String)
deriving DecidableEq

def LaunchError.message : LaunchError → String
  | .preferences path (some e) => s!"cannot load {path}: IO error: {e.message}"
  | .preferences path none => s!"cannot load {path}: Parse error: {unreadableText}"
  | .manifest path e => s!"cannot load {path}: {e.message}"
  | .host e => e.message
  | .noLogFile path => HostError.message (.logging s!"not a file: {path}")

/-- The line that tells why the launch failed. -/
def LaunchError.line (e : LaunchError) : String := "ribosome: " ++ e.message

/-- All that a launch takes from the world. -/
structure Launch where
  manifest : Manifest
  preferences : Preferences
  log : LogSettings
  directives : Directives

namespace Launch

variable {m : Type → Type} [Monad m]

/-- The folder of configurations. -/
def configFolder (env : Environment) : Option String :=
  match (env.lookup "XDG_CONFIG_HOME").filter fun v => (FileSteps.parse v).absolute with
  | some folder => some folder
  | none => ((env.lookup "HOME").filter (· != "")).map (· ++ "/.config")

/-- Flags on the command line change how much is logged. -/
def withVerbosity (verbosity : Nat) (p : Preferences) : Preferences :=
  match verbosity with
  | 0 => p
  | 1 => { p with logLevel := "debug" }
  | _ => { p with logLevel := "trace" }

/-- Preferences at the usual place do not have to be there, nor to be well formed. -/
def standardPreferences (read : String → m (Except FileError String)) (env : Environment) :
    m Preferences :=
  match configFolder env with
  | none => pure .standard
  | some folder => do
    match ← read (Preferences.path folder) with
    | .ok text => return (Preferences.parse text).getD .standard
    | .error _ => return .standard

def loadPreferences (read : String → m (Except FileError String)) (env : Environment)
    (args : Arguments) : m (Except LaunchError Preferences) :=
  match args.preferences with
  | none => (fun p => .ok (withVerbosity args.verbosity p)) <$> standardPreferences read env
  | some path => do
    match ← read path with
    | .error e => return .error (.preferences path (some e))
    | .ok text =>
      match Preferences.parse text with
      | some p => return .ok (withVerbosity args.verbosity p)
      | none => return .error (.preferences path none)

def loadManifest (read : String → m (Except FileError String)) (path : String) :
    m (Except LaunchError Manifest) := do
  match ← read path with
  | .error e => return .error (.manifest path (.file e))
  | .ok text => return (Manifest.parse text).mapError (.manifest path)

/-- How the log is set up, apart from its file. -/
def setUpLog (env : Environment) (p : Preferences) :
    Except LaunchError (LogSettings × Directives) := do
  let settings ← (LogSettings.ofEnvironment env p.logLevel).mapError fun reason =>
    .host (.logging reason)
  let directives ← (settings.directives env).mapError fun e => .host (.logging e.message)
  return (settings, directives)

/-- Reads what the command line names, preferences before the manifest. -/
def prepare (read : String → m (Except FileError String)) (env : Environment)
    (args : Arguments) : m (Except LaunchError Launch) := do
  match ← loadPreferences read env args with
  | .error e => return .error e
  | .ok preferences =>
    match ← loadManifest read args.manifest with
    | .error e => return .error e
    | .ok manifest =>
      return (setUpLog env preferences).map fun (log, directives) =>
        ⟨manifest, preferences, log, directives⟩

/-- The name of the log's file and its folder. -/
def logPlace (path : String) : Except LaunchError FileSteps :=
  let steps := FileSteps.parse path
  match steps.fileName? with
  | some _ => .ok steps
  | none => .error (.noLogFile path)

end Launch

end PluginHost
