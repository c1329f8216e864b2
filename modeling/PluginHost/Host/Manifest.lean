import PluginHost.Host.Error
import PluginHost.Plugin.Config
import PluginHost.Text.Blank
import PluginHost.Toml.Read

/-!
Manifests: a plugin whose data is plain JSON is described by a text alone.
-/

set_option autoImplicit false

namespace PluginHost

structure Manifest where
  name : String
  short : String
  apiVersion : String
  description : Option String
  core : List String
  components : List String
  data : Json
deriving DecidableEq

namespace Manifest

def currentVersion : String := "0.1.0"

/-- Versions fit together if they agree up to the first point. -/
def isCompatible (version : String) : Bool :=
  (Text.splitText '.' version).head? == (Text.splitText '.' currentVersion).head?

/-- Absent members have defaults, apart from the two names. -/
def ofToml (v : Toml) : Option Manifest := do
  let name ← (← v.get? "name").string?
  let short ← (← v.get? "prefix").string?
  let member {α : Type} (key : String) (decode : Toml → Option α) (default : α) : Option α :=
    ((v.get? key).map decode).getD (some default)
  return ⟨name, short, ← member "api_version" Toml.string? currentVersion,
    ← member "description" (fun v => v.string?.map some) none,
    ← member "core_components" Toml.strings? [], ← member "components" Toml.strings? [],
    ((v.get? "data").map Toml.toJson).getD .emptyObject⟩

def validate (m : Manifest) : Except HostError Unit :=
  if Text.isBlankText m.name then .error (.invalidManifest .emptyName)
  else if Text.isBlankText m.short then .error (.invalidManifest .emptyPrefix)
  else if !isCompatible m.apiVersion then
    .error (.incompatibleVersion currentVersion m.apiVersion)
  else .ok ()

def parse (text : String) : Except HostError Manifest :=
  match (Toml.parse text).bind ofToml with
  | some m => m.validate.map fun () => m
  | none => .error (.invalidManifest .unreadable)

def identity (m : Manifest) : Identity := ⟨m.name, m.short, m.core, m.components, none⟩

def config {S : Schema} (m : Manifest) : PluginConfig S := .ofIdentity m.identity

end Manifest

end PluginHost
