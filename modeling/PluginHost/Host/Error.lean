import PluginHost.Error
import PluginHost.Host.File
import PluginHost.Session.Message

/-!
Why a host does not start or stops early.
-/

set_option autoImplicit false

namespace PluginHost

inductive ManifestError where
  /-- The text is no manifest. -/
  | unreadable
  | emptyName
  | emptyPrefix
deriving DecidableEq, Repr

/-- The words that stand for all that may be wrong with the text of a configuration. -/
def unreadableText : String := "TOML parse error"

def ManifestError.message : ManifestError → String
  | .unreadable => unreadableText
  | .emptyName => "`name` must not be empty"
  | .emptyPrefix => "`prefix` must not be empty"

inductive HostError where
  | file (e : FileError)
  | protocol (e : MessageError)
  | invalidManifest (e : ManifestError)
  | incompatibleVersion (expected got : String)
  | logging (reason : String)
  | plugin (e : PluginError)
  | editor (e : EditorError)
deriving DecidableEq

def HostError.message : HostError → String
  | .file e => s!"IO error: {e.message}"
  | .protocol e => s!"protocol error: {e.message}"
  | .invalidManifest e => s!"Invalid manifest: {e.message}"
  | .incompatibleVersion expected got =>
    s!"Incompatible manifest version: expected {expected}, got {got}"
  | .logging reason => s!"cannot install logging: {reason}"
  | .plugin e => e.message
  | .editor e => s!"editor error: {e.report}"

end PluginHost
