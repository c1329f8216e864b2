import PluginHost.Proofs.Dispatch.Unlogged
import PluginHost.Proofs.Editor.World

/-!
Requests that only look. They change nothing but the log, and what other requests come to does not
tell whether there have been any.
-/

set_option autoImplicit false

namespace PluginHost

variable {S : Schema} {W α β : Type}

namespace World

/-- What the world has answered, one question after the other. -/
inductive Exchanges (world : World W) : W → List Exchange → W → Prop where
  | nil (w : W) : Exchanges world w [] w
  | cons {w v w' : W} {q : Query} {a : q.Answer} {later : List Exchange}
      (answered : world.answers w q a v) (rest : Exchanges world v later w') :
      Exchanges world w (⟨q, a⟩ :: later) w'

/-- The same answers may come from now on. -/
def Alike (world : World W) (w v : W) : Prop :=
  ∀ asked, (∃ w', world.Exchanges w asked w') ↔ ∃ v', world.Exchanges v asked v'

theorem Alike.refl {world : World W} (w : W) : world.Alike w w := fun _ => .rfl

theorem Alike.symm {world : World W} {w v : W} (alike : world.Alike w v) : world.Alike v w :=
  fun asked => (alike asked).symm

end World

namespace Script

variable {world : World W} {w v w' : W} {q : Query} {x : Script α} {a : α}

theorem plays_iff_asks :
    Plays world w x a w' ↔ ∃ asked, x.Asks asked a ∧ world.Exchanges w asked w' := by
  constructor
  next =>
    intro played
    induction played with
    | done w a => exact ⟨[], .done a, .nil w⟩
    | ask answered _ ih =>
      obtain ⟨asked, asks, exchanged⟩ := ih
      exact ⟨_, .ask asks, .cons answered exchanged⟩
  next =>
    rintro ⟨asked, asks, exchanged⟩
    induction asks generalizing w with
    | done a =>
      cases exchanged
      exact .done _ _
    | ask _ ih =>
      cases exchanged with
      | cons answered rest => exact .ask answered (ih rest)

theorem exists_plays_of_map_eq {y : Script α} {f : α → β} (same : x.map f = y.map f)
    (played : Plays world w x a w') : ∃ b, Plays world w y b w' ∧ f b = f a := by
  have shown : Plays world w (x.map f) (f a) w' := plays_map.2 ⟨a, played, rfl⟩
  rw [same] at shown
  obtain ⟨b, played, same⟩ := plays_map.1 shown
  exact ⟨b, played, same.symm⟩

theorem exists_plays_of_alike (alike : world.Alike w v) (played : Plays world w x a w') :
    ∃ v', Plays world v x a v' := by
  obtain ⟨asked, asks, exchanged⟩ := plays_iff_asks.1 played
  obtain ⟨v', exchanged⟩ := (alike asked).1 ⟨w', exchanged⟩
  exact ⟨v', plays_iff_asks.2 ⟨asked, asks, exchanged⟩⟩

inductive AsksOnly (q : Query) : Script α → Prop where
  | done (a : α) : AsksOnly q (.done a)
  | ask {next : q.Answer → Script α} (later : ∀ answer, AsksOnly q (next answer)) :
      AsksOnly q (.ask q next)

namespace AsksOnly

theorem bind {f : α → Script β} (only : x.AsksOnly q) (later : ∀ a, (f a).AsksOnly q) :
    (x.bind f).AsksOnly q := by
  induction only with
  | done a => exact later a
  | ask _ ih => exact .ask ih

theorem map (only : x.AsksOnly q) (f : α → β) : (x.map f).AsksOnly q :=
  only.bind fun a => .done (f a)

theorem alike (only : x.AsksOnly q)
    (free : ∀ w a v, world.answers w q a v → world.Alike w v) (played : Plays world w x a w') :
    world.Alike w w' := by
  induction only generalizing w with
  | done =>
    obtain ⟨-, rfl⟩ := plays_done.1 played
    exact fun _ => .rfl
  | ask _ ih =>
    obtain ⟨answer, v, answered, rest⟩ := plays_ask.1 played
    exact fun asked => (free w answer v answered asked).trans (ih answer rest asked)

theorem exists_plays (only : x.AsksOnly q) (answers : ∀ w, ∃ a v, world.answers w q a v) (w : W) :
    ∃ a w', Plays world w x a w' := by
  induction only generalizing w with
  | done a => exact ⟨a, w, .done w a⟩
  | ask _ ih =>
    obtain ⟨answer, v, answered⟩ := answers w
    obtain ⟨a, w', played⟩ := ih answer v
    exact ⟨a, w', .ask answered played⟩

end AsksOnly

end Script

open Script (AsksOnly Plays)

/-- The question for the option that the editor searches its files by. -/
def readPath : Query := .request "nvim_get_option" [.string "runtimepath"]

/-- Reading the option has no effect on what the editor answers later. -/
def World.ReadsFreely (world : World W) : Prop :=
  ∀ w a v, world.answers w readPath a v → world.Alike w v

theorem Action.asksOnly_read {method : String} {args : List Json}
    {decode : Json → Except String α} (f : α → β) (t : Evaluate.Trail) :
    (((Action.read method args decode).map f).meaning t).AsksOnly (.request method args) := by
  unfold Action.map Action.read
  simp only [Action.meaning]
  apply AsksOnly.bind
  next =>
    simp only [Body.meaning]
    refine .ask fun answer => ?_
    cases answer with
    | value v =>
      simp only
      cases decode v with
      | ok | error => exact .done _
    | error | panic => exact .done _
  next =>
    rintro ⟨r, u⟩
    cases r with
    | ok | error => exact .done _

namespace Builtin

variable {lib : Library S} {b : Builtin}

theorem isBuilt_body (a : (b.definition lib).Args) :
    ((b.definition lib).body a).isBuilt = true := by
  cases b <;> rfl

/-- The state is left as it was, and that before anything is asked. -/
theorem meaning_of_reads (reads : b.options.write = false) (a : (b.definition lib).Args)
    (s : PluginState S) : ∃ y : Script (Outcome PluginError Json), y.AsksOnly readPath ∧
      ((b.definition lib).body a).meaning s = y.map fun outcome => (outcome, s) := by
  cases b with
  | programLog | state | rpcTriggers => exact ⟨_, .done _, meaning_inspection _ _ s⟩
  | componentState => exact ⟨_, .done _, Prog.meaning_onState_map _ _ _ s⟩
  | poll =>
    refine ⟨.done (.value (.bool true)), .done _, ?_⟩
    simp only [definition, Prog.map, Prog.meaning, Script.done_bind]
    rfl
  | showRuntimePath =>
    let read := Action.readAs Decode.string "nvim_get_option" [.string "runtimepath"]
    refine ⟨(read.map entries).evaluate.map fun paths =>
      .ofExcept ((paths.map Json.strings).mapError .ofEditor), ?_, ?_⟩
    next =>
      rw [Action.evaluate_eq_meaning]
      exact ((Action.asksOnly_read entries []).map _).map _
    next =>
      simp only [definition, Prog.map, Prog.editor, Prog.meaning, Prog.editorStep, Script.map,
        Script.bind_assoc, Script.done_bind]
      congr 1
      funext outcome
      cases outcome with
      | ok | error => rfl
  | setLogLevel | updateState | updateComponentState | enableComponents | appendRuntimePath
    | mapping | internalInit => cases reads

theorem bind_eq_ok {args : List Json} {prog : Prog (PluginState S) Json} :
    (b.program (S := S)).bind (lib.source (.builtin b)) args = .ok prog ↔
      ∃ a, Takes lib b args a ∧ prog = (b.definition lib).body a := by
  rw [Program.bind, arity_program lib]
  by_cases inside : (b.definition lib).signature.arity.Within args.length
  next =>
    rw [if_pos (Arity.accepts_iff.2 inside)]
    simp only [Library.source, Definition.code_eq_ok, Takes, inside, true_and]
  next =>
    rw [if_neg (mt Arity.accepts_iff.1 inside)]
    simp only [Takes, inside, false_and, exists_false, reduceCtorEq]

/-- What a request for the program adds to the log. -/
def logged (lib : Library S) (b : Builtin) (args : List Json) : List String :=
  match (b.program (S := S)).bind (lib.source (.builtin b)) args with
  | .ok _ => [b.name]
  | .error _ => []

theorem logged_of_takes {args : List Json} {a : (b.definition lib).Args}
    (takes : Takes lib b args a) : b.logged lib args = [b.name] := by
  rw [logged, bind_eq_ok.2 ⟨a, takes, rfl⟩]

theorem logged_of_not_takes {args : List Json} (refused : ∀ a, ¬ Takes lib b args a) :
    b.logged lib args = [] := by
  unfold logged
  split
  next prog bound =>
    obtain ⟨a, takes, -⟩ := bind_eq_ok.1 bound
    exact absurd takes (refused a)
  next => rfl

theorem exists_takes_poll (lib : Library S) (args : List Json) : ∃ as, Takes lib .poll args as := by
  have decodes (index : Nat) : ∃ as, Signature.BindsEach Param.json index args as := by
    induction args generalizing index with
    | nil => exact ⟨[], .nil index⟩
    | cons v args ih =>
      obtain ⟨as, later⟩ := ih (index + 1)
      exact ⟨v.canonical :: as, .cons rfl later⟩
  obtain ⟨as, binds⟩ := decodes 0
  have variadic : (definition lib .poll).signature.isVariadic = true := rfl
  exact ⟨as, Signature.within_of_variadic variadic args.length, binds⟩

end Builtin

def PluginState.logAll (s : PluginState S) (names : List String) : PluginState S :=
  { s with log := s.log ++ names }

section

variable {lib : Library S} {b : Builtin} {r : Request} {s : PluginState S}

theorem PluginState.Ready.dispatch_of_reads (ready : s.Ready) (lib : Library S)
    (reads : b.options.write = false) (asks : r.method = b.method) :
    ∃ y : Script (Except PluginError Json), y.AsksOnly readPath ∧
      dispatch lib r s = y.map fun result => (result, s.logAll (b.logged lib r.given)) := by
  have plain : b.options.json = false := by
    cases b <;> first | rfl | cases reads
  by_cases takes : ∃ a, Builtin.Takes lib b r.given a
  next =>
    obtain ⟨a, takes⟩ := takes
    have binds := ready.binds_builtin asks plain takes
    obtain ⟨y, only, meant⟩ := Builtin.meaning_of_reads reads a (s.logAll [b.name])
    refine ⟨y.map settled, only.map settled, ?_⟩
    rw [binds.dispatch_eq (Builtin.isBuilt_body a), Prog.run_eq_meaning,
      Builtin.logged_of_takes takes, Script.map_map]
    exact (congrArg (Script.map _) meant).trans (Script.map_map _ _ _)
  next =>
    have refuses : ∀ a, ¬ Builtin.Takes lib b r.given a := fun a taken => takes ⟨a, taken⟩
    obtain ⟨e, refused⟩ := ready.refused_builtin lib asks plain refuses
    refine ⟨.done (.error e), .done _, ?_⟩
    rw [refused.dispatch_eq, Builtin.logged_of_not_takes refuses, PluginState.logAll,
      List.append_nil]
    rfl

theorem PluginState.Ready.dispatch_poll (ready : s.Ready)
    (asks : r.method = Builtin.poll.method) :
    dispatch lib r s = .done (.ok (.bool true), s.logProgram "poll") := by
  obtain ⟨as, takes⟩ := Builtin.exists_takes_poll lib r.given
  have binds := ready.binds_builtin asks rfl takes
  rw [binds.dispatch_eq rfl, Prog.run_eq_meaning]
  simp only [Builtin.definition, Prog.map, Prog.meaning, Script.done_bind]
  rfl

theorem settled_ofExcept (result : Except PluginError Json) :
    settled (.ofExcept result) = result := by
  cases result <;> rfl

theorem PluginState.Ready.dispatch_state (ready : s.Ready)
    (asks : r.method = Builtin.state.method) (takes : Builtin.Takes lib .state r.given ()) :
    dispatch lib r s =
      .done (((S.text s.data).map Json.string).mapError .program, s.logProgram "state") := by
  have binds := ready.binds_builtin asks rfl takes
  rw [binds.dispatch_eq rfl, Prog.run_eq_meaning]
  refine (congrArg (Script.map _) (Builtin.meaning_inspection .state _ _)).trans ?_
  exact congrArg (fun result => Script.done (result, s.logProgram "state")) (settled_ofExcept _)

theorem PluginState.Ready.dispatch_componentState (ready : s.Ready)
    (asks : r.method = Builtin.componentState.method)
    (takes : Builtin.Takes lib .componentState r.given ()) :
    dispatch lib r s = .done ((s.componentStates.map Json.render).map Json.string,
      s.logProgram "component_state") := by
  have binds := ready.binds_builtin asks rfl takes
  rw [binds.dispatch_eq rfl, Prog.run_eq_meaning]
  refine (congrArg (Script.map _) (Prog.meaning_onState_map _ _ _ _)).trans ?_
  exact congrArg (fun result => Script.done (result, s.logProgram "component_state"))
    (settled_ofExcept _)

end

/-- A request, one that is there to look, or entries that come into the log by themselves. -/
inductive Visit where
  | own (r : Request)
  | look (b : Builtin) (reads : b.options.write = false) (args : List Json) (sync : Bool)
  | entries (names : List String)

structure Note where
  request : Request
  /-- Whether it was the program that shows the log. -/
  showsLog : Bool
  result : Except PluginError Json

def Note.visible (note : Note) : Note :=
  { note with result := PluginHost.visible note.showsLog note.result }

/-- Notes and a state apart from the log. -/
def seen (p : List Note × PluginState S) : List Note × PluginState S :=
  (p.1.map Note.visible, p.2.withoutLog)

namespace Visit

def isOwn : Visit → Bool
  | .own _ => true
  | _ => false

/-- What is left of a look if only its entries in the log are. -/
def logged (lib : Library S) : Visit → Visit
  | .look b _ args sync => .entries (b.logged lib (Request.given ⟨b.method, args, sync⟩))
  | visit => visit

def serve (lib : Library S) (s : PluginState S) : Visit → Script (List Note × PluginState S)
  | .own r => (handle lib r s).map fun p => ([⟨r, s.showsLog r, p.1⟩], p.2)
  | .look b _ args sync => (dispatch lib ⟨b.method, args, sync⟩ s).map fun p => ([], p.2)
  | .entries names => .done ([], s.logAll names)

/-- Serves visits one after the other and notes what comes of the requests among them. -/
def serveAll (lib : Library S) : List Visit → PluginState S → Script (List Note × PluginState S)
  | [], s => .done ([], s)
  | visit :: visits, s => (visit.serve lib s).bind fun p =>
    (serveAll lib visits p.2).map fun q => (p.1 ++ q.1, q.2)

end Visit

open Visit (serveAll)

namespace Visit

variable {lib : Library S} {world : World W} {visit : Visit} {visits : List Visit}
  {p : List Note × PluginState S} {s s' : PluginState S} {w v : W}

theorem serve_look (ready : s.Ready) (lib : Library S) (b : Builtin)
    (reads : b.options.write = false) (args : List Json) (sync : Bool) :
    ∃ y : Script (Except PluginError Json), y.AsksOnly readPath ∧
      (look b reads args sync).serve lib s = y.map fun _ =>
        ([], s.logAll (b.logged lib (Request.given ⟨b.method, args, sync⟩))) := by
  obtain ⟨y, only, dispatched⟩ :=
    ready.dispatch_of_reads lib reads (r := ⟨b.method, args, sync⟩) rfl
  refine ⟨y, only, ?_⟩
  rw [serve, dispatched, Script.map_map]

theorem plays_serve_logged (free : world.ReadsFreely) (ready : s.Ready)
    (played : Plays world w (visit.serve lib s) p v) :
    ∃ v', world.Alike v v' ∧ Plays world w ((visit.logged lib).serve lib s) p v' := by
  cases visit with
  | own | entries => exact ⟨v, .refl v, played⟩
  | look b reads args sync =>
    obtain ⟨y, only, look_eq⟩ := serve_look ready lib b reads args sync
    rw [look_eq] at played
    obtain ⟨_, looked, rfl⟩ := Script.plays_map.1 played
    exact ⟨w, (only.alike free looked).symm, .done _ _⟩

theorem plays_serve_of_logged (free : world.ReadsFreely)
    (answers : ∀ w, ∃ a v, world.answers w readPath a v) (ready : s.Ready)
    (played : Plays world w ((visit.logged lib).serve lib s) p v) :
    ∃ v', world.Alike v v' ∧ Plays world w (visit.serve lib s) p v' := by
  cases visit with
  | own | entries => exact ⟨v, .refl v, played⟩
  | look b reads args sync =>
    obtain ⟨rfl, rfl⟩ := Script.plays_done.1 played
    obtain ⟨y, only, look_eq⟩ := serve_look ready lib b reads args sync
    obtain ⟨result, v', looked⟩ := only.exists_plays answers v
    exact ⟨v', only.alike free looked, look_eq ▸ Script.plays_map.2 ⟨result, looked, rfl⟩⟩

theorem ready_of_serve (orderly : lib.Orderly) (ready : s.Ready)
    (played : Plays world w (visit.serve lib s) p v) : p.2.Ready := by
  cases visit with
  | own r =>
    obtain ⟨q, handled, rfl⟩ := Script.plays_map.1 played
    obtain ⟨asked, asks, -⟩ := Script.plays_iff_asks.1 handled
    have returned := dispatch_returns_of_handle (Script.returns_iff_asks.2 ⟨asked, asks⟩)
    have kept := (dispatch_reaches orderly returned).kept ready.consistent
    exact ⟨kept.consistent, kept.grown.catalog ▸ ready.registered⟩
  | look b reads args sync =>
    obtain ⟨y, -, look_eq⟩ := serve_look ready lib b reads args sync
    rw [look_eq] at played
    obtain ⟨_, -, rfl⟩ := Script.plays_map.1 played
    exact ⟨{ ready.consistent with }, ready.registered⟩
  | entries names =>
    obtain ⟨rfl, -⟩ := Script.plays_done.1 played
    exact ⟨{ ready.consistent with }, ready.registered⟩

theorem plays_serveAll_cons : Plays world w (serveAll lib (visit :: visits) s) p v ↔
    ∃ q v', Plays world w (visit.serve lib s) q v' ∧
      ∃ r, Plays world v' (serveAll lib visits q.2) r v ∧ p = (q.1 ++ r.1, r.2) := by
  simp only [serveAll, Script.plays_bind, Script.plays_map]

/-- What comes of a run with looks can come of one with their entries in the log instead. -/
theorem plays_logged (orderly : lib.Orderly) (free : world.ReadsFreely) (ready : s.Ready)
    (played : Plays world w (serveAll lib visits s) p v) :
    ∃ v', Plays world w (serveAll lib (visits.map (logged lib)) s) p v' := by
  induction visits generalizing s p w v with
  | nil => exact ⟨v, played⟩
  | cons visit visits ih =>
    obtain ⟨q, u, served, r, rest, rfl⟩ := plays_serveAll_cons.1 played
    obtain ⟨u', alike, entered⟩ := plays_serve_logged free ready served
    obtain ⟨v', rest⟩ := Script.exists_plays_of_alike alike rest
    obtain ⟨v', rest⟩ := ih (ready_of_serve orderly ready served) rest
    exact ⟨v', plays_serveAll_cons.2 ⟨q, u', entered, r, rest, rfl⟩⟩

theorem plays_of_logged (orderly : lib.Orderly) (free : world.ReadsFreely)
    (answers : ∀ w, ∃ a v, world.answers w readPath a v) (ready : s.Ready)
    (played : Plays world w (serveAll lib (visits.map (logged lib)) s) p v) :
    ∃ v', Plays world w (serveAll lib visits s) p v' := by
  induction visits generalizing s p w v with
  | nil => exact ⟨v, played⟩
  | cons visit visits ih =>
    obtain ⟨q, u, entered, r, rest, rfl⟩ := plays_serveAll_cons.1 played
    obtain ⟨u', alike, served⟩ := plays_serve_of_logged free answers ready entered
    obtain ⟨v', rest⟩ := Script.exists_plays_of_alike alike rest
    obtain ⟨v', rest⟩ := ih (ready_of_serve orderly ready served) rest
    exact ⟨v', plays_serveAll_cons.2 ⟨q, u', served, r, rest, rfl⟩⟩

theorem seen_own (ignores : lib.IgnoresLog) (same : s.withoutLog = s'.withoutLog) (r : Request) :
    ((own r).serve lib s).map seen = ((own r).serve lib s').map seen := by
  have shows : s.withoutLog.showsLog r = s'.withoutLog.showsLog r := by rw [same]
  have noted (u : PluginState S) : ((own r).serve lib u).map seen =
      (((handle lib r u).map fun p => (visible (u.showsLog r) p.1, p.2)).map unlogged).map
        fun p => ([⟨r, u.withoutLog.showsLog r, p.1⟩], p.2) := by
    simp only [serve, Script.map_map]
    rfl
  rw [noted, noted, shows, (handle_blind ignores r).map_eq same]

theorem serveAll_entries (names : List String) (visits : List Visit) (s : PluginState S) :
    serveAll lib (entries names :: visits) s = serveAll lib visits (s.logAll names) := by
  simp only [serveAll, serve, Script.done_bind, List.nil_append]
  exact Script.bind_done _

/-- Where nothing reads the log, entries in it are not seen. -/
theorem seen_serveAll (ignores : lib.IgnoresLog) (same : s.withoutLog = s'.withoutLog)
    (visits : List Visit) : (serveAll lib (visits.map (logged lib)) s).map seen =
      (serveAll lib (visits.filter isOwn) s').map seen := by
  induction visits generalizing s s' with
  | nil => exact congrArg (fun u => Script.done ([], u)) same
  | cons visit visits ih =>
    cases visit with
    | own r =>
      simp only [List.map_cons, logged, List.filter_cons, isOwn, if_true, serveAll,
        Script.map_bind]
      apply Script.bind_congr_of_map (seen_own ignores same r)
      intro p p' same_seen
      obtain ⟨same_notes, same_state⟩ := Prod.mk.inj same_seen
      have later := congrArg (Script.map fun q => (p.1.map Note.visible ++ q.1, q.2))
        (ih same_state)
      simp only [Script.map_map, seen, same_notes] at later
      simp only [Script.map_map, seen, List.map_append, same_notes]
      exact later
    | look | entries => exact (congrArg _ (serveAll_entries _ _ s)).trans (ih same)

end Visit

/-- What shows of looks, from some state on, is what they log. -/
structure Traceless (lib : Library S) (world : World W) (s : PluginState S) : Prop where
  logs {visits : List Visit} {p : List Note × PluginState S} {w v : W} :
    Plays world w (serveAll lib visits s) p v →
      ∃ v', Plays world w (serveAll lib (visits.map (Visit.logged lib)) s) p v'
  looks {visits : List Visit} {p : List Note × PluginState S} {w v : W} :
    (∀ w, ∃ a v, world.answers w readPath a v) →
      Plays world w (serveAll lib (visits.map (Visit.logged lib)) s) p v →
      ∃ v', Plays world w (serveAll lib visits s) p v'
  left_out {visits : List Visit} {p : List Note × PluginState S} {w v : W} :
    lib.IgnoresLog → Plays world w (serveAll lib visits s) p v →
      ∃ q v', Plays world w (serveAll lib (visits.filter Visit.isOwn) s) q v' ∧ seen q = seen p
  put_in {visits : List Visit} {p : List Note × PluginState S} {w v : W} :
    lib.IgnoresLog → (∀ w, ∃ a v, world.answers w readPath a v) →
      Plays world w (serveAll lib (visits.filter Visit.isOwn) s) p v →
      ∃ q v', Plays world w (serveAll lib visits s) q v' ∧ seen q = seen p

theorem Traceless.of_ready {lib : Library S} (orderly : lib.Orderly) {world : World W}
    (free : world.ReadsFreely) {s : PluginState S} (ready : s.Ready) : Traceless lib world s where
  logs := Visit.plays_logged orderly free ready
  looks answers := Visit.plays_of_logged orderly free answers ready
  left_out ignores played := by
    obtain ⟨v, logged⟩ := Visit.plays_logged orderly free ready played
    obtain ⟨q, others, same⟩ :=
      Script.exists_plays_of_map_eq (Visit.seen_serveAll ignores rfl _) logged
    exact ⟨q, v, others, same⟩
  put_in ignores answers played := by
    obtain ⟨q, logged, same⟩ :=
      Script.exists_plays_of_map_eq (Visit.seen_serveAll ignores rfl _).symm played
    obtain ⟨v, served⟩ := Visit.plays_of_logged orderly free answers ready logged
    exact ⟨q, v, served, same⟩

/-- A program that only looks adds its name to the log at most and changes nothing else, whatever it
comes to, and asks for nothing but an option. Such requests leave no trace in a run of others. -/
theorem looks_of_runs {lib : Library S} (orderly : lib.Orderly) {config : PluginConfig S}
    {data : S.Data} {settings : Settings} {limits : Limits} {s t : PluginState S}
    (built : config.build data settings limits = .ok s) (runs : Runs lib s t) :
    (∀ b : Builtin, b.options.write = false → ∀ r : Request, r.method = b.method →
      ∃ y : Script (Except PluginError Json), y.AsksOnly readPath ∧
        dispatch lib r t = y.map fun result => (result, t.logAll (b.logged lib r.given))) ∧
    (∀ r : Request, r.method = Builtin.poll.method →
      dispatch lib r t = .done (.ok (.bool true), t.logProgram "poll")) ∧
    (∀ r : Request, r.method = Builtin.state.method → Builtin.Takes lib .state r.given () →
      dispatch lib r t =
        .done (((S.text t.data).map Json.string).mapError .program, t.logProgram "state")) ∧
    (∀ r : Request, r.method = Builtin.componentState.method →
      Builtin.Takes lib .componentState r.given () →
      dispatch lib r t = .done ((t.componentStates.map Json.render).map Json.string,
        t.logProgram "component_state")) ∧
    ∀ {W : Type} (world : World W), world.ReadsFreely → Traceless lib world t := by
  have ready := runs.ready orderly built
  refine ⟨?_, ?_, ?_, ?_, fun world free => .of_ready orderly free ready⟩
  next => exact fun b reads r asks => ready.dispatch_of_reads lib reads asks
  next => exact fun r asks => ready.dispatch_poll asks
  next => exact fun r asks takes => ready.dispatch_state asks takes
  next => exact fun r asks takes => ready.dispatch_componentState asks takes

namespace Notebook

/-- An editor that may say anything. -/
def anybody : World Unit where
  channel := 1
  answers _ q a _ := match q, a with
    | .channel, a => a = 1
    | _, _ => True
  channel_stays := fun answered => ⟨answered, rfl⟩

theorem anybody_readsFreely : anybody.ReadsFreely := fun _ _ _ _ _ => .rfl

theorem library_ignoresLog : library.IgnoresLog := by
  rintro _ _ _ ⟨⟩
  have blind : ¬ view.SeesLog := nofun
  exact @Prog.IgnoresLog.on schema _ _ _ view blind _ _ (fun _ _ => rfl) fun _ _ => .pure _

def turnPage : Request := ⟨"command:turn", [], true⟩

theorem showsLog_turnPage : opened.showsLog turnPage = false := by
  simp only [PluginState.showsLog, turnPage, opened_turn]
  rfl

theorem handle_turnPage : handle library turnPage opened =
    .done (.ok .null, view.restore (S := schema) turned read) := by
  have executed : execute library turnPage opened =
    .done (.value .null, view.restore (S := schema) turned read) := execute_turn
  simp only [handle, PluginHost.dispatch, executed, Script.map, Script.done_bind]
  rfl

def pageTurned : List Note × PluginState schema :=
  ([⟨turnPage, false, .ok .null⟩], view.restore (S := schema) turned read)

def looking : List Visit :=
  [.look .showRuntimePath rfl [] true, .own turnPage, .look .state rfl [.null] false,
    .look .poll rfl [] false]

end Notebook

-- The option is asked for before the page is turned, and two more requests come after it.
open Notebook in
theorem looks_of_turning :
    config.build .null ⟨none, false⟩ ⟨⟨0⟩, 1, ⟨0⟩⟩ = .ok start ∧ library.Orderly ∧
      Runs library start opened ∧ library.IgnoresLog ∧ anybody.ReadsFreely ∧
      (∀ w, ∃ a v, anybody.answers w readPath a v) ∧
      dispatch library ⟨"function:poll", [.null, .nat 1], false⟩ opened =
        .done (.ok (.bool true), opened.logProgram "poll") ∧
      Runs library start bare ∧
      dispatch library ⟨"function:component_state", [], true⟩ bare =
        .done (.error (.decode "no pages"), bare.logProgram "component_state") ∧
      ∃ p, Plays anybody () (serveAll library looking opened) p () ∧ seen p = seen pageTurned := by
  have answers (w : Unit) : ∃ a v, anybody.answers w readPath a v := ⟨.value .null, (), trivial⟩
  obtain ⟨-, poll, -, -, traceless⟩ := looks_of_runs library_orderly build_eq opened_runs
  obtain ⟨-, -, -, shows, -⟩ := looks_of_runs library_orderly build_eq bare_runs
  have unwritten : bare.componentStates = .error (.decode "no pages") := rfl
  have shown := shows ⟨"function:component_state", [], true⟩ rfl ⟨Arity.accepts_iff.1 rfl, trivial⟩
  rw [unwritten] at shown
  have turns : Plays anybody () (serveAll library (looking.filter Visit.isOwn) opened)
      pageTurned () := by
    refine Visit.plays_serveAll_cons.2 ⟨pageTurned, (), ?_, ([], _), .done _ _, rfl⟩
    rw [Visit.serve, handle_turnPage, showsLog_turnPage]
    exact .done _ _
  obtain ⟨p, _, played, same⟩ :=
    (traceless anybody anybody_readsFreely).put_in library_ignoresLog answers turns
  exact ⟨build_eq, library_orderly, opened_runs, library_ignoresLog, anybody_readsFreely, answers,
    poll _ rfl, bare_runs, shown, p, played, same⟩

end PluginHost
