import PluginHost.Plugin.State

/-!
The views programs have on the plugin's state. Writing back what was projected restores it; the
read-only parts of a view are not written back.
-/

set_option autoImplicit false

namespace PluginHost

variable {S : Schema}

/-- Main data beside the private state of a component. -/
structure WithComponent (α β : Type) where
  main : α
  comp : β

/-- A view bundled with the plugin's settings and active components. -/
structure WithResources (α : Type) where
  inner : α
  settings : Settings
  components : List String

variable (S) in
@[reducible] def Main.Carrier : Main → Type
  | .data => S.Data
  | .whole => PluginState S

namespace Main

def project : (m : Main) → PluginState S → m.Carrier S
  | .data, s => s.data
  | .whole, s => s

def restore : (m : Main) → m.Carrier S → PluginState S → PluginState S
  | .data, d, s => { s with data := d }
  | .whole, v, _ => v

end Main

variable (S) in
@[reducible] def Shape.InnerCarrier (m : Main) : Option S.Kind → Type
  | none => m.Carrier S
  | some k => WithComponent (m.Carrier S) (S.State k)

variable (S) in
@[reducible] def Shape.Carrier : Shape S.Kind → Type
  | .plain m component => InnerCarrier S m component
  | .resources m component => WithResources (InnerCarrier S m component)
  | .whole _ => PluginState S

namespace Shape

def projectInner (m : Main) : (component : Option S.Kind) → PluginState S →
    Except PluginError (InnerCarrier S m component) × PluginState S
  | none, s => (.ok (m.project s), s)
  | some k, s =>
    match s.componentValue k with
    | (.ok v, s) => (.ok ⟨m.project s, v⟩, s)
    | (.error e, s) => (.error e, s)

def restoreInner (m : Main) : (component : Option S.Kind) → InnerCarrier S m component →
    PluginState S → PluginState S
  | none, v, s => m.restore v s
  | some k, v, s => (m.restore v.main s).withState k v.comp

def project : (shape : Shape S.Kind) → PluginState S →
    Except PluginError (shape.Carrier S) × PluginState S
  | .plain m component, s => projectInner m component s
  | .resources m component, s =>
    match projectInner m component s with
    | (.ok v, s) => (.ok ⟨v, s.settings, s.components⟩, s)
    | (.error e, s) => (.error e, s)
  | .whole k, s =>
    match s.componentValue k with
    | (.ok _, s) => (.ok s, s)
    | (.error e, s) => (.error e, s)

def restore : (shape : Shape S.Kind) → shape.Carrier S → PluginState S → PluginState S
  | .plain m component, v, s => restoreInner m component v s
  | .resources m component, v, s => restoreInner m component v.inner s
  | .whole _, v, _ => v

def view (shape : Shape S.Kind) : View (PluginState S) (shape.Carrier S) :=
  ⟨shape.text S.kindName, shape.project, shape.restore⟩

end Shape

end PluginHost
