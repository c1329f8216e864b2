import PluginHost.Proofs.Plugin.Running
import PluginHost.Proofs.Session.Completion
import PluginHost.Proofs.Session.Sequential

/-!
What an editor may rely on, in whatever order reader and worker take their steps.
-/

set_option autoImplicit false

namespace PluginHost

open Script (Private Plays)

variable {S : Schema} {W : Type}

namespace Served

variable (world : World W) (lib : Library S) (lines : List String)
  (setUp : Script (PluginState S)) (w : W)

variable {world lib lines setUp w} {h : Served S W}

end Served

namespace Notebook

/-- A machine that says no more than it has to. -/
def silence : (q : Query) → q.Answer
  | .request _ _ | .notify _ _ => .value .null
  | .channel => (1 : Int)
  | .cancel | .sleep _ | .setLogLevel _ => ()
  | .isCancelled => false
  | .freshId | .logLevel => ""
  | .runTasks _ _ _ | .runSubprocesses _ _ => .ok []

def machine : World Unit where
  channel := 1
  answers _ q a _ := a = silence q
  channel_stays := fun answered => ⟨answered, rfl⟩

/-- The second request comes when the editor has left. -/
def lines : List String :=
  ["[0,7,\"command:turn\",[]]", "[2,\"vim_leave\",[]]", "[0,8,\"command:turn\",[]]"]

def after : PluginState schema := view.restore (S := schema) turned read

def ready : Served schema Unit where
  session := Session.start.enqueue (.request 7 "command:turn" [])
  input := lines.tail
  read := lines.take 1
  reading := .lines
  working := .idle opened
  world := ()
  written := []
  handled := []

def last : Served schema Unit where
  session := { Session.start with accepting := false, cancelled := true }
  input := []
  read := lines
  reading := .lines
  working := .finished after
  world := ()
  written := [(.reader, .response 8 (.string Session.shutdownMessage) .null),
    (.worker, .response 7 .null .null)]
  handled := [(.request 7 "command:turn" [], ⟨some (.ok .null), some (.response 7 .null .null)⟩)]

end Notebook

end PluginHost
