import PluginHost.Proofs.Dispatch.Builtins

/-!
Programs that a plugin calls by itself: the one it starts with and the one that gets its messages.
The configuration that names them is not asked whether they take the arguments of these calls.
-/

set_option autoImplicit false

namespace PluginHost

variable {S : Schema}

namespace PluginState

/-- No operation, and no work on data and component states, reaches that part of the state. -/
structure Fixed {β : Type} (f : PluginState S → β) : Prop extends Hidden f where
  operation : ∀ op : Operation S, op.Sets → ∀ s, f (op.apply s) = f s

theorem Fixed.eq_of_reaches {β : Type} {f : PluginState S → β} (fixed : Fixed f)
    {s t : PluginState S} (reaches : Reaches s t) : f t = f s := by
  induction reaches with
  | refl => rfl
  | @operation s t _ op ih =>
    by_cases sets : op.Sets
    next => exact (fixed.operation op sets t).trans ih
    next => exact (fixed.toHidden.apply sets t).trans ih
  | @project s t _ shape ih => exact (fixed.toHidden.project shape t).trans ih
  | writeBack _ shape w projected _ ih changed =>
    rcases fixed.toHidden.writeBack w projected with same | ⟨m, m', viewed, written, first, last⟩
    next => exact same.trans ih
    next => exact last.trans ((changed m m' viewed written).trans (first.trans ih))

end PluginState

/-- What the configuration fixes about the calls that the plugin makes by itself. -/
structure Wiring (S : Schema) where
  init : Option (UserProgram S)
  logger : Option (UserProgram S)
  settings : Settings
  interpreter : Interpreter S.Code

def PluginState.wiring (s : PluginState S) : Wiring S :=
  ⟨s.init, s.logger, s.settings, s.interpreter⟩

def PluginConfig.wiring (config : PluginConfig S) (settings : Settings) (limits : Limits) :
    Wiring S where
  init := config.init
  logger := config.logger
  settings
  interpreter := match config.interpreter with
    | some code => .custom code
    | none => .pool limits.threads limits.gatherTimeout

theorem PluginState.wiring_fixed : Fixed fun s : PluginState S => s.wiring where
  data _ _ := rfl
  store _ _ _ := rfl
  activation _ _ _ := rfl
  operation op sets s := by
    cases op with
    | logProgram | setTriggers | bindMapping | setExecutor | setLogFilter => rfl
    | _ => cases sets

theorem PluginConfig.wiring_of_build {config : PluginConfig S} {data : S.Data}
    {settings : Settings} {limits : Limits} {s : PluginState S}
    (built : config.build data settings limits = .ok s) :
    s.wiring = config.wiring settings limits := by
  obtain ⟨catalog, -, rest⟩ := exists_of_bind_eq_ok built
  obtain ⟨_, -, rest⟩ := exists_of_bind_eq_ok rest
  obtain ⟨_, -, rest⟩ := exists_of_bind_eq_ok rest
  obtain ⟨_, -, result_eq⟩ := exists_of_bind_eq_ok rest
  cases result_eq
  rfl

namespace Library

variable {lib : Library S} {p : UserProgram S} {args : List Json} {e : PluginError}
  {prog : Prog (PluginState S) Json}

theorem call_of_bind (bound : lib.bind p args = .ok prog) : lib.call p args = prog := by
  unfold bind at bound
  rw [call, Program.call, bound]

theorem call_of_bind_error (refused : lib.bind p args = .error e) : lib.call p args = .failed e := by
  unfold bind at refused
  rw [call, Program.call, refused]

theorem bind_of_outside (outside : ¬ p.arity.Within args.length) :
    lib.bind p args = .error (.arity p.name p.arity.describe args.length) :=
  if_neg (mt Arity.accepts_iff.1 outside)

theorem bind_of_within (inside : p.arity.Within args.length) :
    lib.bind p args = lib.code p.code args :=
  if_pos (Arity.accepts_iff.2 inside)

theorem Defined.refuses_count_iff (defined : lib.Defined) (p : UserProgram S) (args : List Json) :
    lib.bind p args = .error (.arity p.name p.arity.describe args.length) ↔
      ¬ p.arity.Within args.length := by
  constructor
  next =>
    intro refused inside
    obtain ⟨d, meant⟩ := defined p.code
    rw [bind_of_within inside, meant, Definition.code_eq_error] at refused
    obtain ⟨message, same⟩ := Signature.exists_decode_of_decode refused
    cases same
  next => exact bind_of_outside

/-- Nothing is left to be refused when a program that takes no argument gets none. -/
theorem exists_bind_nil {d : Definition (PluginState S)} (meant : lib.code p.code = d.code)
    (own : p.arity = d.signature.arity) (inside : p.arity.Within 0) :
    ∃ a, d.signature.Binds [] a ∧ lib.bind p [] = .ok (d.body a) := by
  have bound : lib.bind p [] = d.code [] := meant ▸ bind_of_within inside
  cases decoded : d.signature.decode [] with
  | error e =>
    have enough : d.signature.arity.min ≤ ([] : List Json).length := own ▸ inside.1
    exact absurd (Signature.decode_eq_error enough decoded) PluginError.Blames.not_nil
  | ok a =>
    exact ⟨a, Signature.decode_eq_ok.1 decoded, bound.trans (Definition.code_of_decode decoded)⟩

end Library

namespace PluginState

variable {lib : Library S} {s : PluginState S} {p : UserProgram S}

theorem Ready.dispatch_internalInit (ready : s.Ready)
    (enabled : s.settings.internalInit = true) (named : s.init = some p) {r : Request}
    (asks : r.method = Builtin.internalInit.method) (bare : r.given = []) :
    dispatch lib r s = runProgram (lib.call p []) (s.logProgram "internal_init") := by
  have takes : Builtin.Takes lib .internalInit r.given () := by
    rw [bare]
    exact ⟨Arity.accepts_iff.1 rfl, trivial⟩
  have binds := ready.binds_builtin asks rfl takes
  have still_enabled : (s.logProgram "internal_init").settings.internalInit = true := enabled
  have still_named : (s.logProgram "internal_init").init = some p := named
  rw [binds.dispatch_eq rfl]
  change (Prog.run _ (s.logProgram "internal_init")).map _ = _
  simp only [runProgram, Prog.run_eq_meaning, Builtin.definition, Prog.meaning_map_id,
    Prog.meaning, Prog.meaning_onState, still_enabled, still_named, if_true, Outcome.ofExcept,
    Script.done_bind]

theorem interpret_echo (pool : ∃ threads timeout, s.interpreter = .pool threads timeout)
    (named : s.logger = some p) (messages : List String) (level : EchoLevel) :
    (Effect.echo messages level).interpret lib s =
      (lib.call p [.strings messages, .string level.text]).map fun _ => ⟨.unit, ()⟩ := by
  obtain ⟨threads, timeout, pool⟩ := pool
  simp only [Effect.interpret, pool, Effect.carryOut, named]

variable {e : PluginError}

theorem Ready.internalInit_of_refused (ready : s.Ready)
    (enabled : s.settings.internalInit = true) (named : s.init = some p) {r : Request}
    (asks : r.method = Builtin.internalInit.method) (bare : r.given = [])
    (refused : lib.bind p [] = .error e) :
    dispatch lib r s = .done (.error e, s.logProgram "internal_init") := by
  rw [ready.dispatch_internalInit enabled named asks bare,
    Library.call_of_bind_error refused, runProgram, Prog.run_eq_meaning]
  rfl

theorem echo_of_refused (pool : ∃ threads timeout, s.interpreter = .pool threads timeout)
    (named : s.logger = some p) {messages : List String} {level : EchoLevel}
    (refused : lib.bind p [.strings messages, .string level.text] = .error e)
    (u : PluginState S) :
    ((Effect.echo messages level).interpret lib s).run u = .done (.error e, u) := by
  rw [interpret_echo pool named, Library.call_of_bind_error refused, Prog.run_eq_meaning, Prog.map,
    Prog.meaning]
  rfl

end PluginState

/-- What becomes of the calls that a plugin makes by itself is up to the bounds of the programs that
the configuration names. A call that they refuse fails with nothing but the request in the log. -/
theorem calls_of_runs {lib : Library S} (orderly : lib.Orderly) (defined : lib.Defined)
    {config : PluginConfig S} {data : S.Data} {settings : Settings} {limits : Limits}
    {s t : PluginState S} (built : config.build data settings limits = .ok s)
    (runs : Runs lib s t) :
    (∀ p args, lib.bind p args = .error (.arity p.name p.arity.describe args.length) ↔
      ¬ p.arity.Within args.length) ∧
    (∀ p ∈ config.init, settings.internalInit = true →
      (∀ d : Definition (PluginState S), lib.code p.code = d.code → p.arity = d.signature.arity →
        p.arity.Within 0 → ∃ a, d.signature.Binds [] a ∧ lib.bind p [] = .ok (d.body a)) ∧
      ∀ r : Request, r.method = Builtin.internalInit.method → r.given = [] →
        (∀ prog, lib.bind p [] = .ok prog →
          dispatch lib r t = runProgram prog (t.logProgram "internal_init")) ∧
        ∀ e, lib.bind p [] = .error e →
          dispatch lib r t = .done (.error e, t.logProgram "internal_init")) ∧
    ∀ p ∈ config.logger, config.interpreter = none → ∀ messages (level : EchoLevel),
      let args := [.strings messages, .string level.text]
      (∀ prog, lib.bind p args = .ok prog → (Effect.echo messages level).interpret lib t =
        prog.map fun _ => ⟨.unit, ()⟩) ∧
      ∀ e, lib.bind p args = .error e → ∀ u,
        ((Effect.echo messages level).interpret lib t).run u = .done (.error e, u) := by
  have wired : t.wiring = config.wiring settings limits :=
    (PluginState.wiring_fixed.eq_of_reaches (runs.reaches orderly)).trans
      (config.wiring_of_build built)
  have init : t.init = config.init := congrArg Wiring.init wired
  have logger : t.logger = config.logger := congrArg Wiring.logger wired
  have settings_eq : t.settings = settings := congrArg Wiring.settings wired
  have interpreter := congrArg Wiring.interpreter wired
  have ready := runs.ready orderly built
  refine ⟨defined.refuses_count_iff, ?_, ?_⟩
  next =>
    intro p named enabled
    refine ⟨fun d => Library.exists_bind_nil, fun r asks bare => ?_⟩
    have enabled := settings_eq ▸ enabled
    have named := init.trans named
    constructor
    next =>
      intro prog bound
      rw [ready.dispatch_internalInit enabled named asks bare,
        Library.call_of_bind bound]
    next =>
      intro e refused
      exact ready.internalInit_of_refused enabled named asks bare refused
  next =>
    intro p named standard messages level args
    have named := logger.trans named
    have pool : t.interpreter = .pool limits.threads limits.gatherTimeout := by
      simpa [PluginState.wiring, PluginConfig.wiring, standard] using interpreter
    constructor
    next =>
      intro prog bound
      rw [PluginState.interpret_echo ⟨_, _, pool⟩ named, Library.call_of_bind bound]
    next =>
      intro e refused u
      exact PluginState.echo_of_refused ⟨_, _, pool⟩ named refused u

namespace Notebook

/-- A notebook whose author has named one program for both calls. -/
def configWith (p : UserProgram schema) : PluginConfig schema :=
  { config with init := some p, logger := some p }

def buildWith (p : UserProgram schema) : Except PluginError (PluginState schema) :=
  (configWith p).build .null ⟨none, true⟩ ⟨⟨0⟩, 1, ⟨0⟩⟩

def turns : Definition (PluginState schema) := ⟨Unit, .positional .nil, fun () => turning⟩

def begin : UserProgram schema := turns.program "begin" .block (some view) ()

theorem begin_builds : (buildWith begin).toOption.isSome = true := by decide +kernel

def begun : PluginState schema := (buildWith begin).toOption.get begin_builds

theorem library_defined : library.Defined := fun _ => ⟨turns, rfl⟩

def startUp : Request := ⟨"function:internal_init", [], true⟩

end Notebook

open Notebook in
theorem calls_of_begun :
    (configWith begin).build .null ⟨none, true⟩ ⟨⟨0⟩, 1, ⟨0⟩⟩ = .ok begun ∧ library.Orderly ∧
      library.Defined ∧ ∃ t, Runs library begun t ∧ "pages" ∈ t.components ∧
      dispatch library startUp t = runProgram turning (t.logProgram "internal_init") ∧
      ∀ messages (level : EchoLevel) u, ((Effect.echo messages level).interpret library t).run u =
        .done (.error (.arity "begin" "exactly 0" 2), u) := by
  have built : buildWith begin = .ok begun := eq_ok_get begin_builds
  have runs : Runs library begun (Operation.apply begun (.enable ["pages"])) :=
    .change (.start begun) (.of_operation begun (.enable ["pages"]))
  obtain ⟨counts, starts, echoes⟩ := calls_of_runs library_orderly library_defined built runs
  obtain ⟨binds, started⟩ := starts begin rfl rfl
  refine ⟨built, library_orderly, library_defined, _, runs, by decide +kernel, ?_, ?_⟩
  next =>
    obtain ⟨_, -, bound⟩ := binds turns rfl rfl (Arity.accepts_iff.1 rfl)
    exact (started startUp rfl rfl).1 _ bound
  next =>
    intro messages level u
    have outside : ¬ begin.arity.Within 2 := fun within => by cases Arity.accepts_iff.2 within
    exact (echoes begin rfl rfl messages level).2 _ ((counts _ _).2 outside) u

namespace Notebook

def narration : Definition (PluginState schema) :=
  ⟨String × Unit, .positional Builtin.strings, fun _ => turning⟩

/-- Takes one argument, which is neither of the two calls. -/
def narrate : UserProgram schema := narration.program "narrate" .block (some view) ()

def narrator : Library schema := ⟨fun _ => narration.code, fun _ _ _ _ => .pure ⟨.unit, ()⟩⟩

theorem narrate_builds : (buildWith narrate).toOption.isSome = true := by decide +kernel

def narrated : PluginState schema := (buildWith narrate).toOption.get narrate_builds

end Notebook

-- The plugin starts all the same, and both calls fail.
open Notebook in
theorem narrate_fits_no_call :
    (configWith narrate).build .null ⟨none, true⟩ ⟨⟨0⟩, 1, ⟨0⟩⟩ = .ok narrated ∧
      dispatch narrator startUp narrated =
        .done (.error (.arity "narrate" "exactly 1" 0), narrated.logProgram "internal_init") ∧
      ∀ messages (level : EchoLevel) u,
        ((Effect.echo messages level).interpret narrator narrated).run u =
          .done (.error (.arity "narrate" "exactly 1" 2), u) := by
  have built : buildWith narrate = .ok narrated := eq_ok_get narrate_builds
  obtain ⟨consistent, catalog, -, -⟩ := PluginConfig.build_consistent built
  have ready : narrated.Ready := ⟨consistent, PluginConfig.get?_internal catalog⟩
  have none_refused : narrator.bind narrate [] = .error (.arity "narrate" "exactly 1" 0) := rfl
  refine ⟨built, ?_, ?_⟩
  next => exact ready.internalInit_of_refused rfl rfl rfl rfl none_refused
  next =>
    intro messages level u
    have two_refused : narrator.bind narrate [.strings messages, .string level.text] =
      .error (.arity "narrate" "exactly 1" 2) := rfl
    exact PluginState.echo_of_refused ⟨_, _, rfl⟩ rfl two_refused u

end PluginHost
