import PluginHost.Plugin.Settings
import PluginHost.Plugin.View
import PluginHost.Scripted.StateExpr

/-!
What described code sees of the views on a plugin's state.
-/

set_option autoImplicit false

namespace PluginHost.Scripted

abbrev State (d : DataType) := PluginState (schema d)

namespace Access

variable (d : DataType)

def decodeData (v : Json) : Except String d.Data := (d.decode v).mapError DecodeError.message

def data : Access d.Data :=
  ⟨d == .json, d.toJson, fun _ v => decodeData d v, fun _ => noComponent,
    fun _ _ => noComponent, fun _ => .null⟩

def wholeExtra (s : State d) : Json :=
  .object [("components", .strings s.components), ("log", .strings s.log)]

def whole : Access (State d) :=
  ⟨false, fun s => d.toJson s.data, fun s v => (decodeData d v).map fun data => { s with data },
    fun _ => noComponent, fun _ _ => noComponent, wholeExtra d⟩

def ofMain : (m : Main) → Access (m.Carrier (schema d))
  | .data => data d
  | .whole => whole d

def decodeState (k : StateKind) (v : Json) : Except String k.State :=
  (k.decode v).mapError DecodeError.message

def withComponent {ρ : Type} (a : Access ρ) (k : StateKind) : Access (WithComponent ρ k.State) :=
  ⟨false, fun r => a.main r.main, fun r v => (a.setMain r.main v).map fun main => { r with main },
    fun r => .ok (r, k.toJson r.comp),
    fun r v => (decodeState k v).map fun comp => { r with comp }, fun r => a.extra r.main⟩

def withResources {ρ : Type} (a : Access ρ) : Access (WithResources ρ) :=
  ⟨false, fun r => a.main r.inner, fun r v => (a.setMain r.inner v).map fun inner => { r with inner },
    fun r => (a.comp r.inner).map fun (inner, v) => ({ r with inner }, v),
    fun r v => (a.setComp r.inner v).map fun inner => { r with inner },
    fun r => .record [("settings", r.settings.toJson), ("components", .strings r.components),
      ("inner", a.extra r.inner)]⟩

/-- The whole state with typed access to a component's state. -/
def wholeWith (k : StateKind) : Access (State d) :=
  { whole d with
    comp := fun s =>
      match s.componentValue k with
      | (.ok v, s) => .ok (s, k.toJson v)
      | (.error e, _) => .error e.message
    setComp := fun s v => do
      let comp ← decodeState k v
      (s.storeValue k ⟨k, comp⟩).mapError PluginError.message }

def inner (m : Main) :
    (component : Option StateKind) → Access (Shape.InnerCarrier (schema d) m component)
  | none => ofMain d m
  | some k => withComponent (ofMain d m) k

def ofShape : (shape : Shape StateKind) → Access (shape.Carrier (schema d))
  | .plain m component => inner d m component
  | .resources m component => withResources (inner d m component)
  | .whole k => wholeWith d k

end Access

end PluginHost.Scripted
