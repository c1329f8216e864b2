/-!
The command line: one manifest, perhaps a file of preferences, and how much is logged.
-/

set_option autoImplicit false

namespace PluginHost

structure Arguments where
  manifest : String
  preferences : Option String
  /-- How often more logging was asked for. -/
  verbosity : Nat
deriving DecidableEq, Repr

/-- What a command line asks for. -/
inductive Command where
  | run (args : Arguments)
  | help
  | version
  /-- The command line cannot be understood. -/
  | misuse
deriving DecidableEq, Repr

namespace Command

/-- The arguments read so far. -/
structure Gathered where
  manifest : Option String
  preferences : Option String
  verbosity : Nat
deriving DecidableEq, Repr

def setManifest (g : Gathered) (value : String) : Option Gathered :=
  if g.manifest.isSome || value == "" then none else some { g with manifest := some value }

def setPreferences (g : Gathered) (value : String) : Option Gathered :=
  if g.preferences.isSome || value == "" then none else some { g with preferences := some value }

def verbose (g : Gathered) : Gathered := { g with verbosity := g.verbosity + 1 }

/-- What a group of short options leads to. -/
inductive Group where
  | done (g : Gathered)
  /-- The value of the last option is the next argument. -/
  | wantsFile (g : Gathered)
  | ends (c : Command)

/-- Short options behind one dash. What follows the option that takes a value is its value. -/
def group (g : Gathered) : List Char → Group
  | [] => .done g
  | 'v' :: rest => group (verbose g) rest
  | 'h' :: _ => .ends .help
  | 'V' :: _ => .ends .version
  | ['c'] => .wantsFile g
  | 'c' :: '=' :: value => ((setPreferences g (String.ofList value)).map .done).getD (.ends .misuse)
  | 'c' :: value => ((setPreferences g (String.ofList value)).map .done).getD (.ends .misuse)
  | _ => .ends .misuse

def isOption (arg : String) : Bool :=
  match arg.toList with
  | ['-'] => false
  | '-' :: _ => true
  | _ => false

def complete (g : Gathered) : Command :=
  match g.manifest with
  | some manifest => .run ⟨manifest, g.preferences, g.verbosity⟩
  | none => .misuse

/-- After two dashes nothing is an option. -/
def plain (g : Gathered) : List String → Command
  | [] => complete g
  | arg :: rest =>
    match setManifest g arg with
    | some g => plain g rest
    | none => .misuse

def longFile : List Char := "--config=".toList

/-- Reads arguments; `wanted` is set where the value of an option is due. -/
def read (g : Gathered) : (wanted : Bool) → List String → Command
  | false, [] => complete g
  | true, [] => .misuse
  | true, arg :: rest =>
    if isOption arg then .misuse
    else
      match setPreferences g arg with
      | some g => read g false rest
      | none => .misuse
  | false, arg :: rest =>
    if !isOption arg then
      match setManifest g arg with
      | some g => read g false rest
      | none => .misuse
    else
      match arg with
      | "--" => plain g rest
      | "--help" => .help
      | "--version" => .version
      | "--verbose" => read (verbose g) false rest
      | "--config" => read g true rest
      | _ =>
        if longFile.isPrefixOf arg.toList then
          match setPreferences g (String.ofList (arg.toList.drop longFile.length)) with
          | some g => read g false rest
          | none => .misuse
        else
          match group g (arg.toList.drop 1) with
          | .done g => read g false rest
          | .wantsFile g => read g true rest
          | .ends c => c

def versionLine : String := "ribosome 0.1.0"

def usageLine : String := "Usage: ribosome [OPTIONS] <MANIFEST>"

def helpLines : List String := [
  "A runtime for Neovim plugins written as state machines over typed programs",
  "",
  usageLine,
  "",
  "Arguments:",
  "  <MANIFEST>  Plugin manifest",
  "",
  "Options:",
  "  -c, --config <FILE>  Runtime config file (default: <config dir>/ribosome/runtime.toml)",
  "  -v, --verbose...     Verbose logging",
  "  -h, --help           Print help",
  "  -V, --version        Print version"]

def parse (args : List String) : Command := read ⟨none, none, 0⟩ false args

end Command

end PluginHost
