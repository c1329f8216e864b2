import PluginHost.Log.Directive

/-!
The log of a session: the parts of the program that write it, and how much of it a filter lets
through.
-/

set_option autoImplicit false

namespace PluginHost

/-- What of a session went into its log. -/
structure Journal where
  directives : Directives
  entries : Nat

namespace Journal

def note (j : Journal) (level : LogLevel) (target : String) : Journal :=
  if j.directives.enables level target then { j with entries := j.entries + 1 } else j

/-- No journal takes in anything through this filter. -/
def silent : Journal := ⟨[⟨.off, none, false⟩], 0⟩

end Journal

namespace LogTarget

def host : String := "ribosome_host"

def session : String := "ribosome_host::session"

def logging : String := "ribosome_host::logging"

def requests : String := "ribosome_nvim::api"

def state : String := "ribosome_core::plugin_state"

def dispatch : String := "ribosome_core::dispatch"

def internal : String := "ribosome_core::internal"

def steps : String := "ribosome_core::prog"

end LogTarget

end PluginHost
