import PluginHost.Effect.Basic
import PluginHost.Plugin.Component

/-!
The state of a running plugin. Components are active by name; the catalog they come from never
changes. A component's private state is made when it is first needed.
-/

set_option autoImplicit false

namespace PluginHost

/-- What the editor's variables say about a plugin. -/
structure Settings where
  components : Option (List String)
  internalInit : Bool
deriving DecidableEq, Repr

/-- Says which levels a log sink takes; a refusal comes with its reason. -/
structure LogFilter where
  check : String → Except String Unit

inductive Interpreter (γ : Type) where
  /-- At most `threads` tasks at once, and a timeout for batches that set none. -/
  | pool (threads : Nat) (timeout : Duration)
  | custom (code : γ)

variable (S : Schema)

/-- The states of components, at most one of each kind. -/
abbrev Store := List (Σ k : S.Kind, S.State k)

structure PluginState where
  identity : Identity
  catalog : Catalog S
  /-- Handlers of the configuration; they belong to no component. -/
  own : List (Handler S)
  init : Option (UserProgram S)
  data : S.Data
  components : List String
  store : Store S
  handlers : List (Handler S)
  triggers : List ActiveTrigger
  active : List (String × Mapping × UserProgram S)
  log : List String
  settings : Settings
  logFilter : Option LogFilter
  logger : Option (UserProgram S)
  executor : Option (Json → TaskOutcome)
  interpreter : Interpreter S.Code

variable {S}

namespace Store

def find? (k : S.Kind) : Store S → Option (S.State k)
  | [] => none
  | ⟨k', v⟩ :: rest => if h : k' = k then some (h ▸ v) else find? k rest

def insert (k : S.Kind) (v : S.State k) : Store S → Store S
  | [] => [⟨k, v⟩]
  | entry :: rest => if entry.1 = k then ⟨k, v⟩ :: rest else entry :: insert k v rest

@[simp] theorem find?_insert_self (k : S.Kind) (v : S.State k) (store : Store S) :
    find? k (insert k v store) = some v := by
  induction store with
  | nil => simp [insert, find?]
  | cons entry rest ih =>
    unfold insert
    split
    · simp [find?]
    · next ne => simpa [find?, ne] using ih

theorem find?_insert_of_ne {k other : S.Kind} (v : S.State k) (ne : other ≠ k) (store : Store S) :
    find? other (insert k v store) = find? other store := by
  induction store with
  | nil => simp [insert, find?, ne.symm]
  | cons entry rest ih =>
    unfold insert
    split
    · next same => simp [find?, same, ne.symm]
    · by_cases found : entry.1 = other
      · simp [find?, found]
      · simpa [find?, found] using ih

end Store

namespace PluginState

/-- The handler registered for a method such as `command:incr`. -/
def lookupMethod (s : PluginState S) (method : String) : Option (Handler S) :=
  s.handlers.find? fun h => h.methods.contains method

def logProgram (s : PluginState S) (name : String) : PluginState S :=
  { s with log := s.log ++ [name] }

def allSpecs (handlers : List (Handler S)) (plugin : Identity) : List TriggerSpec :=
  handlers.flatMap fun h => h.specs plugin

/-- Keeps the first trigger of every kind and name. -/
def firstOfName : (seen : List (TriggerKind × String)) → List TriggerSpec → List TriggerSpec
  | _, [] => []
  | seen, spec :: rest =>
    if seen.contains (spec.kind, spec.name) then firstOfName seen rest
    else spec :: firstOfName ((spec.kind, spec.name) :: seen) rest

/-- The triggers of all active handlers. -/
def distinctSpecs (s : PluginState S) : List TriggerSpec :=
  firstOfName [] (allSpecs s.handlers s.identity)

/-- No two triggers share a method, nor a kind and name. -/
def checkDistinct : (methods : List String) → (names : List (TriggerKind × String)) →
    List TriggerSpec → Except PluginError Unit
  | _, _, [] => .ok ()
  | methods, names, spec :: rest =>
    if methods.contains spec.method then
      .error (.conflict s!"method `{spec.method}` is defined twice")
    else if names.contains (spec.kind, spec.name) then
      .error (.conflict s!"{spec.kind.text} `{spec.name}` is defined twice")
    else checkDistinct (spec.method :: methods) ((spec.kind, spec.name) :: names) rest

def componentHandlers (catalog : Catalog S) (name : String) :
    Except PluginError (List (Handler S)) :=
  match catalog.get? name with
  | some component => .ok component.handlers
  | none => .error (.unknownComponent name)

/-- The configuration's handlers, then those of the components. -/
def aggregate (s : PluginState S) (components : List String) :
    Except PluginError (List (Handler S)) := do
  let more ← components.mapM (componentHandlers s.catalog)
  let handlers := s.own ++ more.flatten
  checkDistinct [] [] (allSpecs handlers s.identity)
  return handlers

/-- Activates components. Yields the names that were not active before. -/
def enable (s : PluginState S) (names : List String) :
    Except PluginError (List String × PluginState S) := do
  let (components, added) ← s.catalog.activate s.components names
  let handlers ← s.aggregate components
  return (added, { s with components, handlers })

def isActive (s : PluginState S) (name : String) : Bool := s.components.contains name

/-- How the active component that owns a kind of state makes its first one. -/
def activeSpec (s : PluginState S) (k : S.Kind) : Except PluginError (S.State k) :=
  let refusal := PluginError.unknownComponent s!"no active component owns {S.kindName k}"
  match s.catalog.ownerOf k with
  | none => .error refusal
  | some owner =>
    if s.isActive owner.name then
      match owner.state with
      | some spec =>
        if h : spec.kind = k then .ok (h ▸ spec.initial)
        else .error (.fatal s!"`{owner.name}` lost its state spec")
      | none => .error (.fatal s!"`{owner.name}` lost its state spec")
    else .error refusal

/-- The kind of state of an active component. -/
def activeKind (s : PluginState S) (name : String) : Except PluginError S.Kind :=
  if s.isActive name then
    match (s.catalog.get? name).bind Component.stateKind with
    | some k => .ok k
    | none => .error (.program s!"component `{name}` has no state")
  else .error (.unknownComponent name)

def withState (s : PluginState S) (k : S.Kind) (v : S.State k) : PluginState S :=
  { s with store := Store.insert k v s.store }

/-- The state of a kind, made now if it is not there yet. -/
def componentValue (s : PluginState S) (k : S.Kind) :
    Except PluginError (S.State k) × PluginState S :=
  match Store.find? k s.store with
  | some v => (.ok v, s)
  | none =>
    match s.activeSpec k with
    | .ok v => (.ok v, s.withState k v)
    | .error e => (.error e, s)

/-- Replaces the state of a kind by a value, which has to be of that kind. -/
def storeValue (s : PluginState S) (k : S.Kind) (value : Σ k : S.Kind, S.State k) :
    Except PluginError (PluginState S) :=
  if value.1 = k then do
    let _ ← s.activeSpec value.1
    return s.withState value.1 value.2
  else
    .error (.invalidProgram (S.kindName k) "value does not match the component state type")

/-- The state of an active component as JSON. -/
def dataFor (s : PluginState S) (name : String) : Except PluginError Json × PluginState S :=
  match s.activeKind name with
  | .error e => (.error e, s)
  | .ok k =>
    let (r, s) := s.componentValue k
    (r.bind (S.state k).toValue, s)

/-- Changes the JSON form of a component's state. The result has to decode. -/
def modifyData (s : PluginState S) (name : String) (f : Json → Except PluginError Json) :
    Except PluginError Unit × PluginState S :=
  match s.activeKind name with
  | .error e => (.error e, s)
  | .ok k =>
    match s.componentValue k with
    | (.error e, s) => (.error e, s)
    | (.ok v, s) =>
      match (S.state k).toValue v >>= f >>= (S.state k).ofValue with
      | .error e => (.error e, s)
      | .ok v => (.ok (), s.withState k v)

/-- The states that active components have, by the names of the components. -/
def storedStates (s : PluginState S) : List (String × Σ k : S.Kind, S.State k) :=
  s.components.filterMap fun name => do
    let k ← (← s.catalog.get? name).stateKind
    let v ← Store.find? k s.store
    return (name, ⟨k, v⟩)

/-- Those states as JSON. One that has no JSON form refuses them all. -/
def componentStates (s : PluginState S) : Except PluginError Json := do
  let states ← s.storedStates.mapM fun (name, ⟨k, v⟩) => ((S.state k).toValue v).map (name, ·)
  return .record states

/-- The mapping of an active component with that identifier. -/
def findMapping (s : PluginState S) (ident : String) : Option (Mapping × UserProgram S) :=
  let mappings := s.components.flatMap fun name =>
    ((s.catalog.get? name).map (·.mappings)).getD []
  mappings.find? fun m => m.1.ident == ident

def bindMapping (s : PluginState S) (id : String) (mapping : Mapping) (program : UserProgram S) :
    PluginState S :=
  { s with active := (id, mapping, program) :: s.active.filter fun m => m.1 != id }

def activeMapping (s : PluginState S) (id : String) : Option (Mapping × UserProgram S) :=
  s.active.lookup id

end PluginState

end PluginHost
