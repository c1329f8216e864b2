import PluginHost.Host.Error
import PluginHost.Plugin.Dispatch
import PluginHost.Plugin.Settings
import PluginHost.Session.Basic

/-!
What a plugin does in a session: it learns its channel, reads its settings, defines its triggers
and the hook for the editor's exit, and then handles one message after the other.
-/

set_option autoImplicit false

namespace PluginHost.Session

variable {S : Schema}

/-- Asks for the plugin's channel. -/
def handshake : Action (Int × Json) :=
  .readAs (Decode.pair Decode.int64 Decode.json) "nvim_get_api_info" []

/-- The group of the automatic command that reports the exit. -/
def exitGroup (plugin : String) : String := s!"augroup {plugin}_host\n"

/-- Has the editor say when it leaves. -/
def exitHook (plugin : String) (channel : Int) : Action Unit :=
  let source := exitGroup plugin ++
    s!"  autocmd!\n  autocmd VimLeave * call rpcnotify({channel}, '{leaveMethod}')\naugroup end"
  .write "nvim_exec2" [.string source, .record [("output", .bool false)]]

/-- All that is needed to set a plugin up. -/
structure Setup (S : Schema) where
  config : PluginConfig S
  data : S.Data
  limits : Limits
  logFilter : Option LogFilter

namespace Setup

def plugin (u : Setup S) : String := u.config.identity.name

/-- The state the plugin starts with, after its settings are read. -/
def build (u : Setup S) : Script (Except HostError (PluginState S)) :=
  (Settings.load u.plugin).evaluate.map fun settings => do
    let settings ← settings.mapError HostError.editor
    let s ← (u.config.build u.data settings u.limits).mapError HostError.plugin
    return { s with logFilter := u.logFilter }

/-- Defines the triggers. -/
def define (s : PluginState S) : Script (Except HostError (PluginState S)) :=
  (runProgram redefineTriggers s).map fun (r, s) =>
    (r.mapError HostError.plugin).map fun _ => s

/-- Defines the hook for the exit. -/
def hook (u : Setup S) (channel : Int) : Script (Except HostError Unit) :=
  (exitHook u.plugin channel).evaluate.map fun r => r.mapError HostError.editor

end Setup

/-- The response to a request with that number. -/
def responseTo (id : Nat) : Except PluginError Json → Message
  | .ok v => .response id .null v
  | .error e => .response id (.string e.message) .null

/-- What a message leads to: the result of its program, if it asks for one, and the response. -/
structure Handled where
  result : Option (Except PluginError Json)
  response : Option Message

/-- Handles a message: requests get a response, failures of notifications are reported. -/
def work (lib : Library S) (m : Message) (s : PluginState S) :
    Script (Handled × PluginState S) :=
  match m with
  | .request id method args =>
    (dispatch lib ⟨method, args, true⟩ s).map fun (r, s) => (⟨some r, some (responseTo id r)⟩, s)
  | .notification method args =>
    (handle lib ⟨method, args, false⟩ s).map fun (r, s) => (⟨some r, none⟩, s)
  | .response _ _ _ => .done (⟨none, none⟩, s)

end PluginHost.Session
