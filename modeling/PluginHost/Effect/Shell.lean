import PluginHost.Effect.Task
import PluginHost.Text.Blank
import PluginHost.Text.Utf8

/-!
A system with a handful of programs and folders, for runs that must not start real ones: `echo`,
`printf`, `pwd`, `cat` without files, `sleep`, `true`, `false`, and `sh -c` with those programs,
`exit` and a `kill` of the shell itself.
-/

set_option autoImplicit false

namespace PluginHost.Shell

structure Output where
  stdout : List Nat
  stderr : List Nat

inductive Ending where
  | exit (code : Int)
  | killed

/-- A finished run: how long it took, what it wrote, how it ended. -/
structure Run where
  span : Duration
  out : Output
  ending : Ending

def bytesOf (s : String) : List Nat := s.toUTF8.toList.map UInt8.toNat

def quiet (code : Int) : Run := ⟨⟨0⟩, ⟨[], []⟩, .exit code⟩

def printing (bytes : List Nat) : Run := ⟨⟨0⟩, ⟨bytes, []⟩, .exit 0⟩

def isOctal (c : Char) : Bool := '0' ≤ c && c ≤ '7'

def octalValue (ds : List Char) : Nat := ds.foldl (fun n d => 8 * n + (d.toNat - 48)) 0 % 256

/-- The bytes of a format; `skip` counts characters that were read already. -/
def formatBytes : (skip : Nat) → List Char → List Nat
  | _, [] => []
  | skip + 1, _ :: rest => formatBytes skip rest
  | 0, '\\' :: rest =>
    let ds := (rest.take 3).takeWhile isOctal
    if ds.isEmpty then
      match rest with
      | 'n' :: _ => 10 :: formatBytes 1 rest
      | 'r' :: _ => 13 :: formatBytes 1 rest
      | 't' :: _ => 9 :: formatBytes 1 rest
      | '\\' :: _ => 92 :: formatBytes 1 rest
      | _ => 92 :: formatBytes 0 rest
    else octalValue ds :: formatBytes ds.length rest
  | 0, '%' :: '%' :: rest => 37 :: formatBytes 0 rest
  | 0, c :: rest => bytesOf c.toString ++ formatBytes 0 rest

def echo (args : List String) : Run :=
  match args with
  | "-n" :: args => printing (bytesOf (" ".intercalate args))
  | args => printing (bytesOf (" ".intercalate args ++ "\n"))

def digits (ds : List Char) : Nat := ds.foldl (fun n d => 10 * n + (d.toNat - 48)) 0

/-- Seconds with up to nine places, in nanoseconds. -/
def sleepSpan (text : String) : Duration :=
  let whole := text.toList.takeWhile Char.isDigit
  let places := ((text.toList.drop (whole.length + 1)).takeWhile Char.isDigit).take 9
  ⟨digits whole * 1000000000 + digits places * Nat.pow 10 (9 - places.length)⟩

def simple (folder program : String) (args : List String) : Option Run :=
  match program, args with
  | "echo", args => some (echo args)
  | "pwd", [] => some (printing (bytesOf (folder ++ "\n")))
  | "cat", [] => some (quiet 0)
  | "printf", format :: _ => some (printing (formatBytes 0 format.toList))
  | "sleep", span :: _ => some { quiet 0 with span := sleepSpan span }
  | "true", _ => some (quiet 0)
  | "false", _ => some (quiet 1)
  | _, _ => none

def exitCode (word : String) : Int := digits (word.toList.takeWhile Char.isDigit) % 256

/-- One command of a script; `none` in the ending means that the script goes on. -/
def command (folder : String) (words : List String) (status : Int) : Run × Bool :=
  match words with
  | ["exit"] => (quiet status, true)
  | "exit" :: code :: _ => (quiet (exitCode code), true)
  | ["kill", "-9", "$$"] => ({ quiet 0 with ending := .killed }, true)
  | name :: args =>
    let errors := args.contains ">&2"
    match simple folder name (args.filter (· != ">&2")) with
    | some run =>
      if errors then ({ run with out := ⟨run.out.stderr, run.out.stdout⟩ }, false) else (run, false)
    | none => (⟨⟨0⟩, ⟨[], bytesOf s!"sh: 1: {name}: not found\n"⟩, .exit 127⟩, false)
  | [] => (quiet status, false)

def script (folder : String) : List (List String) → (sofar : Run) → Run
  | [], sofar => sofar
  | words :: rest, sofar =>
    let status := match sofar.ending with
      | .exit code => code
      | .killed => 0
    let (run, stops) := command folder words status
    let run : Run := ⟨sofar.span + run.span,
      ⟨sofar.out.stdout ++ run.out.stdout, sofar.out.stderr ++ run.out.stderr⟩, run.ending⟩
    if stops then run else script folder rest run

def commandsOf (text : String) : List (List String) :=
  ((Text.splitOn (fun c => c == ';' || c == '\n') text.toList).map fun cs =>
    Text.words (String.ofList cs)).filter fun words => !words.isEmpty

/-- The folders a process can be started in. -/
def folders : List String := ["/", "/bin", "/dev", "/etc", "/home", "/root", "/tmp", "/usr", "/var"]

/-- A run from a folder, the root if none is named. Nothing runs from a folder that is not there. -/
def run (folder : Option String) (program : String) (args : List String) : Option Run :=
  let folder := folder.getD "/"
  if !folders.contains folder then none
  else
    match program, args with
    | "sh", "-c" :: text :: _ => some (script folder (commandsOf text) (quiet 0))
    | program, args => simple folder program args

def result (r : Run) : SubprocessResult :=
  let code := match r.ending with
    | .exit code => some code
    | .killed => none
  ⟨code, Text.lines (Text.lossyText r.out.stdout), Text.lines (Text.lossyText r.out.stderr)⟩

/-- How long a subprocess keeps its batch waiting, and what comes of it within the limit. -/
def outcome (p : Subprocess) (limit : Duration) : Duration × SubprocessOutcome :=
  match run p.cwd p.program p.args with
  | none => (⟨0⟩, .unstarted "No such file or directory (os error 2)")
  | some r => if r.span < limit then (r.span, .finished (result r)) else (limit, .overdue)

end PluginHost.Shell
