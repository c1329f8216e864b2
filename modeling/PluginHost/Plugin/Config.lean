import PluginHost.Plugin.Internal

/-!
Plugin configurations, and the state a plugin starts with.
-/

set_option autoImplicit false

namespace PluginHost

variable (S : Schema)

structure PluginConfig where
  identity : Identity
  components : List (Component S)
  own : List (Handler S)
  init : Option (UserProgram S)
  logger : Option (UserProgram S)
  executor : Option (Json → TaskOutcome)
  interpreter : Option S.Code

/-- Limits of a running host. -/
structure Limits where
  lockTimeout : Duration
  threads : Nat
  gatherTimeout : Duration
deriving DecidableEq, Repr

variable {S}

def Identity.ofName (name short : String) : Identity := ⟨name, short, [], [], none⟩

/-- The internal component is always active, before the others unless it is named among them. -/
def Identity.withInternal (i : Identity) : Identity :=
  if i.core.contains internalName then i else { i with core := internalName :: i.core }

namespace PluginConfig

def ofIdentity (identity : Identity) : PluginConfig S := ⟨identity, [], [], none, none, none, none⟩

def catalog (c : PluginConfig S) : Except PluginError (Catalog S) :=
  (internalComponent :: c.components).foldlM Catalog.register Catalog.empty

/-- Every program has to be well formed before the plugin starts. -/
def validate (c : PluginConfig S) (catalog : Catalog S) : Except PluginError Unit := do
  catalog.validate
  c.own.forM catalog.validateHandler
  c.init.toList.forM catalog.validateProgram
  c.logger.toList.forM catalog.validateProgram

def build (c : PluginConfig S) (data : S.Data) (settings : Settings) (limits : Limits) :
    Except PluginError (PluginState S) := do
  let catalog ← c.catalog
  c.validate catalog
  let identity := c.identity.withInternal
  let chosen := settings.components.getD identity.chosen
  let (components, _) ← catalog.activate [] (identity.core ++ chosen)
  let interpreter := match c.interpreter with
    | some code => Interpreter.custom code
    | none => .pool limits.threads limits.gatherTimeout
  let s : PluginState S := {
    identity, catalog, own := c.own, init := c.init, data, components := [], store := [],
    handlers := [], triggers := [], active := [], log := [], settings, logFilter := none,
    logger := c.logger, executor := c.executor, interpreter }
  let handlers ← s.aggregate components
  return { s with components, handlers }

end PluginConfig

end PluginHost
