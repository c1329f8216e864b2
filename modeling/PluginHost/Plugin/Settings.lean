import PluginHost.Editor.Action
import PluginHost.Plugin.State

/-!
Settings live in the editor's variables, their names starting with the plugin's. A variable that is
not there leaves the default in place; one of the wrong type is an error.
-/

set_option autoImplicit false

namespace PluginHost

/-- A typed variable of the editor. -/
structure Setting (α : Type) where
  name : String
  decode : Decoder α
  default : α

namespace Setting

variable {α : Type}

def variableName (s : Setting α) (plugin : String) : String := plugin ++ "_" ++ s.name

/-- The variable's value, or the default if the editor refuses the request for it. -/
def value (s : Setting α) (plugin : String) : Action α :=
  (Action.getVar s.decode (s.variableName plugin)).recoverFailure fun
    | .ok a => .pure a
    | .error e =>
      match e.kind with
      | .request _ _ => .pure s.default
      | _ => .failed e

end Setting

namespace Setting

/-- Chooses other components than the plugin's own choice. -/
def components : Setting (Option (List String)) :=
  ⟨"components", Decode.option (Decode.list Decode.string), none⟩

/-- Enables the plugin's init program. -/
def internalInit : Setting Bool := ⟨"internal_init", Decode.bool, false⟩

end Setting

namespace Settings

def load (plugin : String) : Action Settings :=
  (Setting.components.value plugin).flatMap fun components =>
    (Setting.internalInit.value plugin).map fun internalInit => ⟨components, internalInit⟩

def toJson (s : Settings) : Json :=
  .object [("components", (s.components.map .strings).getD .null),
    ("internal_init", .bool s.internalInit)]

end Settings

end PluginHost
