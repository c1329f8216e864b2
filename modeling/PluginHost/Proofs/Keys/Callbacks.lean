import Mathlib.Data.List.Induction
import PluginHost.Proofs.Editor.Panics
import PluginHost.Proofs.Keys.Bindings
import PluginHost.Proofs.Plugin.Transaction
import PluginHost.Proofs.Trigger.Lookup

/-!
Key mappings of the editor and the calls they come back with. An id is bound before the editor hears
of it, the editor is told to call a function that the plugin has, and a call with the id runs the
program it was bound to.
-/

set_option autoImplicit false

namespace PluginHost

variable {S : Schema} {α β : Type}

namespace Catalog

theorem mem_of_registerAll {components : List (Component S)} {c c' : Catalog S}
    (registered : components.foldlM register c = .ok c') :
    ∀ component, component ∈ c.components ∨ component ∈ components →
      component ∈ c'.components := by
  induction components generalizing c with
  | nil =>
    cases registered
    simp
  | cons first rest ih =>
    rw [List.foldlM_cons] at registered
    obtain ⟨next, added, later⟩ := exists_of_bind_eq_ok registered
    have components : next.components = c.components ++ [first] := by
      unfold register at added
      split at added
      · cases added
      · split at added
        · cases added
          rfl
        · split at added <;> cases added
          rfl
    intro component member
    refine ih later component ?_
    rcases member with old | new
    · exact .inl (components ▸ List.mem_append_left _ old)
    · rcases List.mem_cons.1 new with rfl | new
      · exact .inl (components ▸ by simp)
      · exact .inr new

end Catalog

theorem PluginConfig.get?_internal {config : PluginConfig S} {c : Catalog S}
    (built : config.catalog = .ok c) : c.get? internalName = some internalComponent := by
  refine (config.catalog_sound built).get?_eq_some.2 ⟨?_, rfl⟩
  exact Catalog.mem_of_registerAll built _ (.inr List.mem_cons_self)

namespace PluginState

variable {s : PluginState S}

theorem Consistent.mem_handlers_of_builtin (consistent : s.Consistent)
    (registered : s.catalog.get? internalName = some internalComponent) (b : Builtin)
    (listed : b ∈ Builtin.all) : b.handler ∈ s.handlers := by
  refine consistent.mem_handlers.2 (.inr ⟨internalName, consistent.internal, ?_⟩)
  simpa [Catalog.handlersOf, registered, internalComponent] using List.mem_map_of_mem listed

end PluginState

/-- The trigger through which the editor calls mappings back. -/
def callbackSpec (plugin : Identity) : TriggerSpec :=
  ⟨.function, true, Text.camelcase plugin.name ++ "Mapping", [], "function:mapping", .full⟩

theorem specs_mapping (plugin : Identity) :
    (Builtin.mapping.handler (S := S)).specs plugin = [callbackSpec plugin] := by
  have name : Text.camelcase "mapping" = "Mapping" := by decide +kernel
  rw [callbackSpec, ← name]
  rfl

/-- The command maps the keys, in one of the modes, to a call of the function with the id. -/
def Mapping.Calls (m : Mapping) (function id command : String) : Prop :=
  ∃ mode ∈ m.modes, command = mode ++ "noremap " ++ (if m.buffer then "<buffer> " else "") ++
    "<silent> " ++ m.keys ++ " :call " ++ function ++ "('" ++ id ++ "', '" ++ literal m.keys ++
    "')<cr>"

theorem calls_of_mem_definitions {m : Mapping} {plugin : Identity} {id command : String}
    (defines : command ∈ m.definitions plugin.name id) :
    m.Calls (callbackSpec plugin).name id command := by
  obtain ⟨mode, used, rfl⟩ := List.mem_map.1 defines
  exact ⟨mode, used, by simp [Mapping.definition, callbackSpec, String.append_assoc]⟩

/-- A call of the editor's mapping with that id. -/
inductive CallbackArgs (id : String) : List Json → Option String → Prop where
  | bare : CallbackArgs id [.string id] none
  | null : CallbackArgs id [.string id, .null] none
  | keys (keys : String) : CallbackArgs id [.string id, .string keys] (some keys)

structure Request.CallsBack (r : Request) (id : String) (keys : Option String) : Prop where
  method : r.method = "function:mapping"
  args : CallbackArgs id (unpack (some .function) r.args) keys

theorem bind_mapping (lib : Library S) {id : String} {keys : Option String} {args : List Json}
    (given : CallbackArgs id args keys) :
    (Builtin.mapping.handler (S := S)).program.bind
        (lib.source (Builtin.mapping.handler (S := S)).program.code) args =
      .ok ((Builtin.mapping.definition lib).body (id, keys, ())) := by
  cases given <;> rfl

namespace PluginState

variable {lib : Library S} {s : PluginState S} {r : Request} {id : String} {keys : Option String}

theorem Consistent.lookupMethod_mapping (consistent : s.Consistent)
    (registered : s.catalog.get? internalName = some internalComponent) :
    s.lookupMethod "function:mapping" = some Builtin.mapping.handler := by
  have member := consistent.mem_handlers_of_builtin registered .mapping (by decide)
  have own : callbackSpec s.identity ∈ (Builtin.mapping.handler (S := S)).specs s.identity := by
    simp [specs_mapping]
  exact consistent.lookupMethod_eq member own

theorem Consistent.prepare_callback (consistent : s.Consistent)
    (registered : s.catalog.get? internalName = some internalComponent)
    (calls : r.CallsBack id keys) : prepare lib r s =
      ((Builtin.mapping.definition lib).body (id, keys, ()), s.logProgram "mapping") := by
  have kind : Request.kind? "function:mapping" = some .function := by decide
  have arguments : r.arguments (Builtin.mapping.handler (S := S)).options.json =
      .ok (Request.unpack (some .function) r.args) := by
    rw [Request.arguments, calls.method, kind]
    rfl
  simp only [prepare, calls.method, consistent.lookupMethod_mapping registered, arguments,
    bind_mapping lib calls.args]
  rfl

theorem Consistent.dispatch_of_bound (consistent : s.Consistent)
    (registered : s.catalog.get? internalName = some internalComponent)
    (calls : r.CallsBack id keys) {mapping : Mapping} {program : UserProgram S}
    (bound : s.activeMapping id = some (mapping, program)) :
    dispatch lib r s =
      runProgram (lib.call program (Builtin.mappingArgs program keys))
        (s.logProgram "mapping") := by
  have logged : (s.logProgram "mapping").activeMapping id = some (mapping, program) := bound
  simp only [dispatch, execute, consistent.prepare_callback registered calls, runProgram,
    Prog.run_eq_meaning, Builtin.definition, Prog.meaning_map_id, Prog.meaning,
    Prog.meaning_onState, logged]
  rfl

theorem Consistent.dispatch_of_unbound (consistent : s.Consistent)
    (registered : s.catalog.get? internalName = some internalComponent)
    (calls : r.CallsBack id keys) (unbound : s.activeMapping id = none) :
    dispatch lib r s = .done (.error (.unknownMapping id), s.logProgram "mapping") := by
  have logged : (s.logProgram "mapping").activeMapping id = none := unbound
  simp only [dispatch, execute, consistent.prepare_callback registered calls,
    Prog.run_eq_meaning, Builtin.definition, Prog.meaning_map_id, Prog.meaning,
    Prog.meaning_onState, logged]
  rfl

end PluginState

/-- Has the editor run the commands, one after the other. -/
def sendAll (commands : List String) : Action Unit :=
  commands.foldl (fun x command => x.andThen fun () => .command command) (.pure ())

theorem sendAll_append (commands : List String) (command : String) :
    sendAll (commands ++ [command]) = (sendAll commands).andThen fun () => .command command := by
  simp [sendAll]

def commandQuery (command : String) : Query := .request "nvim_command" [.string command]

theorem asks_command {command : String} {t t' : Evaluate.Trail} {asked : List Exchange}
    {r : Except EditorError Unit} (ran : ((Action.command command).meaning t).Asks asked (r, t')) :
    asked.map Sigma.fst = [commandQuery command] := by
  simp only [Action.command, Action.write, Action.meaning, Body.meaning, Script.asks_ask] at ran
  obtain ⟨answer, later, rfl, rest⟩ := ran
  have silent : later = [] := by
    cases answer with
    | value | error => exact (Script.asks_done.1 rest).1
    | panic => exact (Script.asks_done.1 rest).1
  simp [silent, commandQuery]

-- By induction from the last command, since each runs only if those before it have come to a value.
theorem asks_sendAll {commands : List String} {t t' : Evaluate.Trail} {asked : List Exchange}
    {r : Except EditorError Unit} (ran : ((sendAll commands).meaning t).Asks asked (r, t')) :
    asked.map Sigma.fst <+: commands.map commandQuery ∧
      (r = .ok () → asked.map Sigma.fst = commands.map commandQuery) := by
  induction commands using List.reverseRecOn generalizing asked r t' with
  | nil =>
    obtain ⟨rfl, -⟩ := Script.asks_done.1 ran
    simp
  | append_singleton commands command ih =>
    rw [sendAll_append, Action.andThen, Action.flatMap, Action.meaning, Script.asks_bind] at ran
    obtain ⟨first, ⟨outcome, u⟩, later, rfl, before, rest⟩ := ran
    obtain ⟨sent_first, sent⟩ := ih before
    cases outcome with
    | error e =>
      obtain ⟨rfl, ⟨⟩⟩ := Script.asks_done.1 rest
      simp only [List.append_nil, List.map_append]
      exact ⟨sent_first.trans (List.prefix_append _ _), nofun⟩
    | ok =>
      have last := asks_command rest
      simp [sent rfl, last]

/-- The id is drawn, then bound, and only then is the editor told about it. -/
theorem run_activateMapping {s : PluginState S} {ident : String} {mapping : Mapping}
    {program : UserProgram S} (found : s.findMapping ident = some (mapping, program)) :
    (activateMapping ident).run s = .ask .freshId fun id =>
      ((Prog.editor (sendAll (mapping.definitions s.identity.name id))).map fun () => id).run
        (s.bindMapping id mapping program) := by
  simp only [Prog.run_eq_meaning, activateMapping, Prog.access, Prog.meaning, found, Script.map,
    Script.bind, Script.ask.injEq, heq_eq_eq, true_and]
  funext id
  simp only [Step.runAction, Step.finish, Prog.map, Prog.editor, Prog.editorStep, Prog.meaning,
    Script.map, Script.bind_assoc]
  congr 1
  funext outcome
  cases outcome <;> rfl

def accepted (command : String) : Exchange := ⟨commandQuery command, .value .null⟩

theorem asks_sendAll_of_accepted (commands : List String) (t : Evaluate.Trail) :
    ∃ t', ((sendAll commands).meaning t).Asks (commands.map accepted) (.ok (), t') := by
  induction commands using List.reverseRecOn with
  | nil => exact ⟨t, .done _⟩
  | append_singleton commands command ih =>
    obtain ⟨u, before⟩ := ih
    refine ⟨u.push "write:nvim_command", ?_⟩
    rw [sendAll_append, Action.andThen, Action.flatMap, Action.meaning, List.map_append]
    exact Script.asks_bind.2 ⟨_, _, _, rfl, before, .ask (.done _)⟩

theorem asks_activateMapping_of_accepted {s : PluginState S} {ident : String} {mapping : Mapping}
    {program : UserProgram S} (found : s.findMapping ident = some (mapping, program))
    (id : String) : ((activateMapping ident).run s).Asks
      (⟨.freshId, id⟩ :: (mapping.definitions s.identity.name id).map accepted)
      (.value id, s.bindMapping id mapping program) := by
  let commands := mapping.definitions s.identity.name id
  obtain ⟨trail, sent⟩ := asks_sendAll_of_accepted commands []
  have evaluated : (sendAll commands).evaluate.Asks (commands.map accepted) (.ok ()) := by
    rw [Action.evaluate_eq_meaning]
    exact Script.asks_map.2 ⟨_, sent, rfl⟩
  have stepped := Prog.asks_editorStep.2
    ⟨_, evaluated, Eq.refl (s.bindMapping id mapping program), rfl⟩
  rw [run_activateMapping found]
  refine .ask ?_
  rw [Prog.run_eq_meaning, Prog.map, Prog.meaning, Prog.editor, Prog.meaning, Script.bind_assoc]
  exact Script.asks_bind.2 ⟨_, _, [], (List.append_nil _).symm, stepped, .done _⟩

theorem asks_activateMapping {s t : PluginState S} {ident id : String} {asked : List Exchange}
    (ran : ((activateMapping ident).run s).Asks asked (.value id, t)) :
    ∃ mapping program sent, s.findMapping ident = some (mapping, program) ∧
      t = s.bindMapping id mapping program ∧ asked = ⟨.freshId, id⟩ :: sent ∧
      sent.map Sigma.fst = (mapping.definitions s.identity.name id).map commandQuery := by
  cases found : s.findMapping ident with
  | none =>
    simp [Prog.run_eq_meaning, activateMapping, Prog.access, Prog.meaning, found, Script.map,
      Outcome.ofExcept] at ran
  | some bound =>
    obtain ⟨mapping, program⟩ := bound
    rw [run_activateMapping found, Script.asks_ask] at ran
    obtain ⟨drawn_id, sent, rfl, ran⟩ := ran
    simp only [Prog.run_eq_meaning, Prog.map, Prog.editor, Prog.meaning, Script.bind_assoc] at ran
    obtain ⟨first, ⟨outcome, u⟩, later, rfl, stepped, rest⟩ := Script.asks_bind.1 ran
    obtain ⟨evaluated, sending, rfl, rfl⟩ := Prog.asks_editorStep.1 stepped
    -- The id is the result only if the editor has taken every command.
    cases evaluated with
    | error e => simp [Outcome.ofExcept, Except.mapError] at rest
    | ok =>
      simp only [Outcome.ofExcept, Except.mapError, Script.done_bind, Script.asks_done,
        Prod.mk.injEq, Outcome.value.injEq] at rest
      obtain ⟨rfl, rfl, rfl⟩ := rest
      rw [Action.evaluate_eq_meaning] at sending
      obtain ⟨⟨_, trail⟩, sending, rfl⟩ := Script.asks_map.1 sending
      refine ⟨mapping, program, first, rfl, rfl, by simp, ?_⟩
      exact (asks_sendAll sending).2 rfl

section

variable {lib : Library S} {config : PluginConfig S} {data : S.Data} {settings : Settings}
  {limits : Limits} {s t : PluginState S} {asked : List Exchange}

theorem PluginConfig.active_of_build (built : config.build data settings limits = .ok s) :
    s.active = [] := by
  obtain ⟨catalog, -, rest⟩ := exists_of_bind_eq_ok built
  obtain ⟨_, -, rest⟩ := exists_of_bind_eq_ok rest
  obtain ⟨_, -, rest⟩ := exists_of_bind_eq_ok rest
  obtain ⟨_, -, result_eq⟩ := exists_of_bind_eq_ok rest
  cases result_eq
  rfl

theorem Evolves.consistent (evolves : Evolves s asked t)
    (built : config.build data settings limits = .ok s) :
    t.Consistent ∧ t.catalog.get? internalName = some internalComponent := by
  obtain ⟨consistent, registered, -, -⟩ := config.build_consistent built
  have kept := Reaches.kept (evolves.allowed Prog.reaching_closed) consistent
  exact ⟨kept.consistent, kept.grown.catalog ▸ config.get?_internal registered⟩

theorem PluginState.Consistent.callbackSpec_unique (consistent : t.Consistent)
    (registered : t.catalog.get? internalName = some internalComponent) :
    callbackSpec t.identity ∈ t.distinctSpecs ∧ ∀ spec ∈ t.distinctSpecs,
      spec.method = "function:mapping" → spec = callbackSpec t.identity := by
  have member := consistent.mem_handlers_of_builtin registered .mapping (by decide)
  have listed : callbackSpec t.identity ∈ PluginState.allSpecs t.handlers t.identity :=
    List.mem_flatMap.2 ⟨_, member, by simp [specs_mapping]⟩
  rw [consistent.distinctSpecs_eq]
  exact ⟨listed, fun spec also same => List.inj_on_of_nodup_map consistent.distinct.methods also
    listed same⟩

/-- An activated mapping is bound before the editor is told to call its function. From then on a
call with the id runs the program. An id that was never drawn is unknown. -/
theorem callbacks_of_history (careful : lib.Obeys Evolves)
    (built : config.build data settings limits = .ok s) (history : History lib s asked t) :
    (∀ id, id ∉ drawn asked → ∀ (r : Request) keys, r.CallsBack id keys →
      dispatch lib r t = .done (.error (.unknownMapping id), t.logProgram "mapping")) ∧
    ∀ ident id exchanges t', ((activateMapping ident).run t).Asks exchanges (.value id, t') →
      ∃ mapping program sent, t.findMapping ident = some (mapping, program) ∧
        t' = t.bindMapping id mapping program ∧ exchanges = ⟨.freshId, id⟩ :: sent ∧
        sent.map Sigma.fst = (mapping.definitions t.identity.name id).map commandQuery ∧
        ((activateMapping ident).run t = .ask .freshId fun id =>
          ((Prog.editor (sendAll (mapping.definitions t.identity.name id))).map fun () => id).run
            (t.bindMapping id mapping program)) ∧
        (∃ spec ∈ t.distinctSpecs, spec.method = "function:mapping" ∧
          (∀ other ∈ t.distinctSpecs, other.method = "function:mapping" → other = spec) ∧
          ∀ command ∈ mapping.definitions t.identity.name id,
            mapping.Calls spec.name id command) ∧
        ∀ later v, History lib t' later v → id ∉ drawn later →
          v.activeMapping id = some (mapping, program) ∧
          ∀ (r : Request) keys, r.CallsBack id keys →
            dispatch lib r v = runProgram (lib.call program (match keys with
              | some keys => if program.arity.accepts 1 then [.string keys] else []
              | none => [])) (v.logProgram "mapping") := by
  have evolved := history.evolves careful
  obtain ⟨consistent, registered⟩ := evolved.consistent built
  constructor
  · intro id undrawn r keys calls
    -- What was not drawn is bound as it was when the plugin was built, which is not at all.
    have unbound : t.activeMapping id = none := by
      rw [evolved.allowed sparing_closed id undrawn, PluginState.activeMapping,
        config.active_of_build built]
      rfl
    exact consistent.dispatch_of_unbound registered calls unbound
  · intro ident id exchanges t' activated
    obtain ⟨mapping, program, sent, found, rfl, rfl, commands⟩ := asks_activateMapping activated
    obtain ⟨listed, unique⟩ := consistent.callbackSpec_unique registered
    refine ⟨mapping, program, sent, found, rfl, rfl, commands, run_activateMapping found,
      ⟨callbackSpec t.identity, listed, rfl, unique, fun _ => calls_of_mem_definitions⟩, ?_⟩
    intro later v goes_on undrawn
    -- The id is not drawn again, so it stays bound to what it was bound to here.
    have passed := goes_on.evolves careful
    have bound : v.activeMapping id = some (mapping, program) := by
      rw [passed.allowed sparing_closed id undrawn, PluginState.activeMapping_bindMapping_self]
    have since := (evolved.trans (.activation found id)).trans passed
    obtain ⟨later_consistent, later_registered⟩ := since.consistent built
    exact ⟨bound, fun r keys calls =>
      later_consistent.dispatch_of_bound later_registered calls bound⟩

end

-- The notebook with a key that turns its pages.
namespace Notebook

def shortcut : Mapping := ⟨"open", "<leader>o", ["n", "v"], false⟩

def opener : UserProgram schema := ⟨"open", .block, ⟨1, some 1⟩, [], some view, ()⟩

def mapped : PluginConfig schema :=
  { PluginConfig.ofIdentity { Identity.ofName "notes" "nt" with chosen := ["pages"] } with
    components := [⟨"pages", [turn], some ⟨(), .nat 1⟩, none, [(shortcut, opener)]⟩] }

def mappedBuild : Except PluginError (PluginState schema) :=
  mapped.build .null ⟨none, false⟩ ⟨⟨0⟩, 1, ⟨0⟩⟩

theorem mapped_builds : mappedBuild.toOption.isSome = true := by decide +kernel

def keyed : PluginState schema := mappedBuild.toOption.get mapped_builds

theorem mappedBuild_eq : mappedBuild = .ok keyed := eq_ok_get mapped_builds

theorem keyed_opens : keyed.findMapping "open" = some (shortcut, opener) := by rfl

theorem library_obeys : library.Obeys Evolves := by
  rintro _ _ prog ⟨⟩
  refine Prog.Obeys.on (S := schema) evolves_closed.steady view (fun v asked w a _ m m' before _ => ?_)
    fun a _ => .pure _
  cases before

def pressed (id : String) : Request :=
  ⟨"function:mapping", [.array [.string id, .string "<leader>o"]], true⟩

theorem pressed_callsBack (id : String) : (pressed id).CallsBack id (some "<leader>o") :=
  ⟨rfl, .keys "<leader>o"⟩

end Notebook

-- The mapping is activated once more before the key is pressed.
open Notebook in
theorem callbacks_of_pressing :
    mapped.build .null ⟨none, false⟩ ⟨⟨0⟩, 1, ⟨0⟩⟩ = .ok keyed ∧ library.Obeys Evolves ∧
      History library keyed [] keyed ∧
      dispatch library (pressed "id-0") keyed =
        .done (.error (.unknownMapping "id-0"), keyed.logProgram "mapping") ∧
      ∃ exchanges t v, ((activateMapping "open").run keyed).Asks exchanges (.value "id-1", t) ∧
        History library t [⟨.freshId, "id-2"⟩] v ∧
        v.activeMapping "id-1" = some (shortcut, opener) ∧
        dispatch library (pressed "id-1") v =
          runProgram (library.call opener [.string "<leader>o"]) (v.logProgram "mapping") := by
  have history : History library keyed [] keyed := .start
  obtain ⟨unknown, activated⟩ := callbacks_of_history library_obeys mappedBuild_eq history
  have ran := asks_activateMapping_of_accepted keyed_opens "id-1"
  obtain ⟨mapping, program, _, found, -, -, -, -, -, later⟩ := activated _ _ _ _ ran
  rw [keyed_opens] at found
  cases found
  have again : (keyed.bindMapping "id-1" shortcut opener).findMapping "open" =
      some (shortcut, opener) := by
    rw [PluginState.findMapping_bindMapping, keyed_opens]
  have goes_on : History library (keyed.bindMapping "id-1" shortcut opener)
      [⟨.freshId, "id-2"⟩] _ := .change .start (.activation again "id-2")
  obtain ⟨bound, runs⟩ := later _ _ goes_on (by decide)
  exact ⟨mappedBuild_eq, library_obeys, history,
    unknown "id-0" (by decide) _ _ (pressed_callsBack "id-0"), _, _, _, ran, goes_on, bound,
    runs _ _ (pressed_callsBack "id-1")⟩

namespace Notebook

/-- Activates the mapping, all on a copy of the state, and then fails. -/
def torn : Prog (PluginState schema) String :=
  (activateMapping "open").bind fun _ => .error "torn"

def tearingLibrary : Library schema :=
  ⟨fun _ _ => .ok ((torn.asStep "torn").map .string), fun _ _ _ _ => .pure ⟨.unit, ()⟩⟩

theorem tearingLibrary_obeys : tearingLibrary.Obeys Evolves := by
  rintro _ _ prog ⟨⟩
  have obeys : torn.Obeys Evolves :=
    .bind (activateMapping_obeys evolves_closed.steady "open") fun _ => .failed _
  exact (obeys.asStep evolves_closed.steady "torn").map _

theorem asks_torn {s t : PluginState schema} {told : List Exchange}
    (activated : ((activateMapping "open").run s).Asks told (.value "id-1", t)) :
    (((torn.asStep "torn").map Json.string).run s).Asks told (.error (.program "torn"), s) := by
  have failing : (torn.run s).Asks told (.error (.program "torn"), t) := by
    rw [Prog.run_eq_meaning] at activated ⊢
    rw [torn, Prog.meaning]
    exact Script.asks_bind.2 ⟨_, _, [], (List.append_nil told).symm, activated, .done _⟩
  have undone : ((torn.asStep "torn").run s).Asks told (.error (.program "torn"), s) := by
    rw [Prog.run_asStep_eq]
    exact Script.asks_map.2 ⟨_, failing, rfl⟩
  rw [Prog.run_eq_meaning] at undone ⊢
  rw [Prog.map, Prog.meaning]
  exact Script.asks_bind.2 ⟨_, _, [], (List.append_nil told).symm, undone, .done _⟩

theorem prepare_tearing : prepare tearingLibrary ⟨"command:turn", [], true⟩ keyed =
    ((torn.asStep "torn").map .string, keyed.logProgram "turn") := by
  have found : keyed.lookupMethod "command:turn" = some turn := by rfl
  have arguments : Request.arguments ⟨"command:turn", [], true⟩ turn.options.json = .ok [] := rfl
  have bound : turn.program.bind (tearingLibrary.source turn.program.code) [] =
    .ok ((torn.asStep "torn").map .string) := rfl
  simp only [prepare, found, arguments, bound]
  rfl

end Notebook

-- What the binding is lost with: the failure of a program that was evaluated as one step, and an
-- older state that is written back as a whole.
open Notebook in
theorem unbound_after_rollback :
    mapped.build .null ⟨none, false⟩ ⟨⟨0⟩, 1, ⟨0⟩⟩ = .ok keyed ∧ tearingLibrary.Obeys Evolves ∧
    ∃ told t,
      ((activateMapping "open").run (keyed.logProgram "turn")).Asks told (.value "id-1", t) ∧
      t.activeMapping "id-1" = some (shortcut, opener) ∧
      (dispatch tearingLibrary ⟨"command:turn", [], true⟩ keyed).Asks told
        (.error (.program "torn"), keyed.logProgram "turn") ∧
      dispatch tearingLibrary (pressed "id-1") (keyed.logProgram "turn") =
        .done (.error (.unknownMapping "id-1"),
          (keyed.logProgram "turn").logProgram "mapping") ∧
      (Prog.on "undo" Prog.wholeView (Stateful.set keyed) fun _ _ => .pure ()).run t =
        .done (.value (), keyed) ∧
      dispatch tearingLibrary (pressed "id-1") keyed =
        .done (.error (.unknownMapping "id-1"), keyed.logProgram "mapping") := by
  have fresh : Evolves keyed [] keyed := .idle keyed []
  have logged : Evolves keyed [] (keyed.logProgram "turn") :=
    .operation (.logProgram "turn") id keyed
  have unbound : keyed.activeMapping "id-1" = none := by
    simp [PluginState.activeMapping, mapped.active_of_build mappedBuild_eq]
  have still_unbound : (keyed.logProgram "turn").activeMapping "id-1" = none :=
    (logged.allowed sparing_closed "id-1" (by simp [drawn])).trans unbound
  have unknown {s : PluginState schema} (evolves : Evolves keyed [] s)
      (none_yet : s.activeMapping "id-1" = none) :
      dispatch tearingLibrary (pressed "id-1") s =
        .done (.error (.unknownMapping "id-1"), s.logProgram "mapping") := by
    obtain ⟨consistent, registered⟩ := evolves.consistent mappedBuild_eq
    exact consistent.dispatch_of_unbound registered (pressed_callsBack "id-1") none_yet
  have found : (keyed.logProgram "turn").findMapping "open" = some (shortcut, opener) := by
    rw [PluginState.findMapping_logProgram, keyed_opens]
  have ran := asks_activateMapping_of_accepted found "id-1"
  refine ⟨mappedBuild_eq, tearingLibrary_obeys, _, _, ran,
    PluginState.activeMapping_bindMapping_self _ _ _ _, ?_, unknown logged still_unbound, ?_,
    unknown fresh unbound⟩
  · rw [dispatch, execute, prepare_tearing]
    exact Script.asks_map.2 ⟨_, asks_torn ran, rfl⟩
  · rw [Prog.run_eq_meaning, Prog.on, Prog.meaning, Prog.viewStep_set rfl]
    rfl

end PluginHost
