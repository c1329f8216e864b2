import PluginHost.Plugin.Config
import PluginHost.Toml.Read

/-!
Preferences of the host. A file needs only those that differ from the defaults, and none at all is
the same as an empty one.
-/

set_option autoImplicit false

namespace PluginHost

structure Preferences where
  lockTimeoutSecs : Nat
  threads : Nat
  gatherTimeoutSecs : Nat
  logLevel : String
deriving DecidableEq, Repr

namespace Preferences

def standard : Preferences := ⟨10, 8, 30, "info"⟩

/-- Sections may be given as records or as lists of their members. -/
def ofToml (v : Toml) : Option Preferences := do
  let section? {α : Type} (key : String) (decode : Toml → Option α) (default : α) : Option α :=
    ((v.get? key).map decode).getD (some default)
  let lockTimeout ← section? "dispatch"
    (fun s => s.memberOr "lock_timeout_secs" 0 Toml.natural? standard.lockTimeoutSecs)
    standard.lockTimeoutSecs
  let (threads, gatherTimeout) ← section? "gather"
    (fun s => do
      return (← s.memberOr "threads" 0 Toml.natural? standard.threads,
        ← s.memberOr "default_timeout_secs" 1 Toml.natural? standard.gatherTimeoutSecs))
    (standard.threads, standard.gatherTimeoutSecs)
  let level ← section? "log"
    (fun s => s.memberOr "level" 0 Toml.string? standard.logLevel) standard.logLevel
  return ⟨lockTimeout, threads, gatherTimeout, level⟩

def parse (text : String) : Option Preferences := (Toml.parse text).bind ofToml

def escapeChar (c : Char) : List Char :=
  if c == '"' || c == '\\' then ['\\', c]
  else if c.toNat < 0x20 || c.toNat == 0x7F then
    let ds := Nat.toDigits 16 c.toNat
    ['\\', 'u'] ++ List.replicate (4 - ds.length) '0' ++ ds
  else [c]

def quoted (s : String) : String := "\"" ++ String.ofList (s.toList.flatMap escapeChar) ++ "\""

/-- The preferences as a file. -/
def render (p : Preferences) : String :=
  "[dispatch]\nlock_timeout_secs = " ++ toString p.lockTimeoutSecs ++
    "\n\n[gather]\nthreads = " ++ toString p.threads ++
    "\ndefault_timeout_secs = " ++ toString p.gatherTimeoutSecs ++
    "\n\n[log]\nlevel = " ++ quoted p.logLevel ++ "\n"

def limits (p : Preferences) : Limits :=
  ⟨.ofSecs p.lockTimeoutSecs, p.threads, .ofSecs p.gatherTimeoutSecs⟩

def toJson (p : Preferences) : Json :=
  .record [("dispatch", .record [("lock_timeout_secs", .nat p.lockTimeoutSecs)]),
    ("gather", .record [("threads", .nat p.threads),
      ("default_timeout_secs", .nat p.gatherTimeoutSecs)]),
    ("log", .record [("level", .string p.logLevel)])]

/-- The place of the file below the folder of configurations. -/
def path (configFolder : String) : String := configFolder ++ "/ribosome/runtime.toml"

end Preferences

end PluginHost
