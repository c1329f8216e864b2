import PluginHost.Text.Blank

/-!
Files by their paths: a folder in memory, and why a file cannot be read or written.
-/

set_option autoImplicit false

namespace PluginHost

inductive FileError where
  | missing
  | folder
  | noFolder
  | occupied
  | other (reason : String) (code : Nat)
  | notText
deriving DecidableEq, Repr

def FileError.message : FileError → String
  | .missing => "No such file or directory (os error 2)"
  | .folder => "Is a directory (os error 21)"
  | .noFolder => "Not a directory (os error 20)"
  | .occupied => "File exists (os error 17)"
  | .other reason code => s!"{reason} (os error {code})"
  | .notText => "stream did not contain valid UTF-8"

/-- A path: the names on the way, and whether it starts at the root. -/
structure FileSteps where
  absolute : Bool
  names : List String
  /-- Whether the text asks for a folder by its end. -/
  ending : Bool
deriving DecidableEq, Repr

namespace FileSteps

/-- Empty names and dots on the way lead nowhere else. -/
def parse (s : String) : FileSteps :=
  let parts := Text.splitText '/' s
  let names := parts.filter fun p => p != "" && p != "."
  let last := parts.getLast?.getD ""
  ⟨parts.head? == some "" && s != "", names, last == "" || last == "."⟩

/-- The name of the file; a path that ends by going up has none. -/
def fileName? (p : FileSteps) : Option String := p.names.getLast?.filter (· != "..")

/-- The folder of the file. -/
def folder (p : FileSteps) : FileSteps := ⟨p.absolute, p.names.dropLast, false⟩

def text (p : FileSteps) : String :=
  (if p.absolute then "/" else "./") ++ "/".intercalate p.names

end FileSteps

/-- A folder under a path of its own, in which programs run. Files are named by the names on the
way to them. -/
structure Folder where
  place : List String
  files : List (List String × String)

namespace Folder

/-- Follows names; going up leaves the last. -/
def follow : (names : List String) → (done : List String) → List String
  | [], done => done
  | ".." :: rest, done => follow rest done.dropLast
  | name :: rest, done => follow rest (done ++ [name])

/-- All names from the root on. -/
def resolve (f : Folder) (p : FileSteps) : List String :=
  follow p.names (if p.absolute then [] else f.place)

/-- The names below the folder, if the path leads there. -/
def inside? (f : Folder) (names : List String) : Option (List String) :=
  if f.place.isPrefixOf names then some (names.drop f.place.length) else none

def isFile (f : Folder) (names : List String) : Bool := (f.files.lookup names).isSome

def isFolder (f : Folder) (names : List String) : Bool :=
  names.isEmpty || f.files.any fun file => names.isPrefixOf file.1 && names != file.1

/-- Whether a file stands where the way needs a folder. -/
def isBlocked (f : Folder) (names : List String) : Bool :=
  f.files.any fun file => file.1.isPrefixOf names && names != file.1

def read (f : Folder) (path : String) : Except FileError String :=
  let steps := FileSteps.parse path
  let names := f.resolve steps
  match f.inside? names with
  | none => .error (if path != "" && names.isPrefixOf f.place then .folder else .missing)
  | some names =>
    match f.files.lookup names with
    | some text => if steps.ending then .error .noFolder else .ok text
    | none =>
      if path == "" then .error .missing
      else if f.isFolder names then .error .folder
      else if f.isBlocked names then .error .noFolder
      else .error .missing

/-- Adds text at the end of a file, creating it if it is not there. -/
def append (f : Folder) (names : List String) (text : String) : Folder :=
  { f with files := (names, (f.files.lookup names).getD "" ++ text) ::
      f.files.filter fun file => file.1 != names }

end Folder

end PluginHost
