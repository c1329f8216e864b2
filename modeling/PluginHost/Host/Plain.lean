import PluginHost.Host.Launch
import PluginHost.Session.Serve

/-!
Plugins described by a manifest alone: any JSON value is their data, and they have no programs and
no component states of their own.
-/

set_option autoImplicit false

namespace PluginHost.Plain

@[reducible] def schema : Schema where
  Data := Json
  data := .json
  Kind := Empty
  kindEq := inferInstance
  kindName := nofun
  State := nofun
  state := nofun
  Code := Empty

def library : Library schema := ⟨nofun, nofun⟩

/-- A log's directives can be exchanged while the plugin runs. -/
def setup (l : Launch) : Session.Setup schema :=
  ⟨l.manifest.config, l.manifest.data, l.preferences.limits, some .ofDirectives⟩

end PluginHost.Plain
