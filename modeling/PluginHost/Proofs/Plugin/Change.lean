import PluginHost.Plugin.Internal

/-!
How the state of a running plugin may change: by its operations, by the projection of views, and by
views that are written back.
-/

set_option autoImplicit false

namespace PluginHost

variable {S : Schema}

variable (S) in
/-- What may be asked of a plugin's state. An operation that is refused still counts. -/
inductive Operation where
  | enable (names : List String)
  | read (k : S.Kind)
  | store (k : S.Kind) (value : Σ k : S.Kind, S.State k)
  | readJson (name : String)
  | modify (name : String) (f : Json → Except PluginError Json)
  | setData (data : S.Data)
  | logProgram (name : String)
  | setTriggers (triggers : List ActiveTrigger)
  | bindMapping (id : String) (mapping : Mapping) (program : UserProgram S)
  | setExecutor (execute : Json → TaskOutcome)
  | setLogFilter (filter : LogFilter)

def Operation.apply (s : PluginState S) : Operation S → PluginState S
  | .enable names => (Builtin.enableStep names s).2
  | .read k => (s.componentValue k).2
  | .store k value => (s.storeValue k value).toOption.getD s
  | .readJson name => (s.dataFor name).2
  | .modify name f => (s.modifyData name f).2
  | .setData data => { s with data }
  | .logProgram name => s.logProgram name
  | .setTriggers triggers => { s with triggers }
  | .bindMapping id mapping program => s.bindMapping id mapping program
  | .setExecutor execute => { s with executor := some execute }
  | .setLogFilter filter => { s with logFilter := some filter }

namespace Main

/-- The whole state, if that is what the main data is. -/
def whole? : (m : Main) → m.Carrier S → Option (PluginState S)
  | .data, _ => none
  | .whole, s => some s

end Main

namespace Shape

def innerWhole? (m : Main) : (component : Option S.Kind) → InnerCarrier S m component →
    Option (PluginState S)
  | none, v => m.whole? v
  | some _, v => m.whole? v.main

/-- The whole state in a view, if there is one. -/
def whole? : (shape : Shape S.Kind) → shape.Carrier S → Option (PluginState S)
  | .plain m component, v => innerWhole? m component v
  | .resources m component, v => innerWhole? m component v.inner
  | .whole _, v => some v

end Shape

-- A view is written back in one go with its projection. Data and component states may be anything
-- then; a whole state has itself come from the projected one.
inductive Reaches : PluginState S → PluginState S → Prop where
  | refl (s : PluginState S) : Reaches s s
  | operation {s t : PluginState S} (before : Reaches s t) (op : Operation S) :
      Reaches s (op.apply t)
  | project {s t : PluginState S} (before : Reaches s t) (shape : Shape S.Kind) :
      Reaches s (shape.project t).2
  | writeBack {s t u : PluginState S} (before : Reaches s t) (shape : Shape S.Kind)
      {v : shape.Carrier S} (w : shape.Carrier S) (projected : shape.project t = (.ok v, u))
      (kept : ∀ m m', shape.whole? v = some m → shape.whole? w = some m' → Reaches m m') :
      Reaches s (shape.restore w u)

theorem Reaches.trans {s t u : PluginState S} (first : Reaches s t) (second : Reaches t u) :
    Reaches s u := by
  induction second with
  | refl => exact first
  | operation _ op ih => exact .operation (ih first) op
  | project _ shape ih => exact .project (ih first) shape
  | writeBack _ shape w projected kept ih => exact .writeBack (ih first) shape w projected kept

theorem Reaches.of_operation (s : PluginState S) (op : Operation S) : Reaches s (op.apply s) :=
  .operation (.refl s) op

end PluginHost
