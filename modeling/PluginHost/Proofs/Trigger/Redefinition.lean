import PluginHost.Proofs.Plugin.Running
import PluginHost.Proofs.Trigger.Specs
import PluginHost.Proofs.Trigger.Table

/-!
Redefinition of triggers and activation of components, in any order and with failures anywhere: the
recorded triggers are the first of the plugin's, and those the editor has.
-/

set_option autoImplicit false

namespace PluginHost

open ActiveTrigger (definitions removals)
open PluginState (Kept Extends)

section Runs

variable {S : Schema} {W : Type} {world : World W} {w w' : W}

section Outcome

variable {ε α β : Type}

def Outcome.map (f : α → β) : Outcome ε α → Outcome ε β
  | .value a => .value (f a)
  | .error e => .error e
  | .panic m => .panic m

end Outcome

namespace Prog

variable {σ α β : Type} {s t : σ}

theorem plays_access {name : String} {step : σ → Script (Except PluginError α × σ)}
    {r : Outcome PluginError α}
    (played : Script.Plays world w ((Prog.access name step).meaning s) (r, t) w') :
    ∃ result, Script.Plays world w (step s) (result, t) w' ∧ r = .ofExcept result := by
  simp only [access, meaning, Script.plays_bind, Script.plays_map] at played
  obtain ⟨⟨outcome, u⟩, v, ⟨⟨result, u'⟩, stepped, same⟩, rest⟩ := played
  cases same
  cases result <;> simp [Outcome.ofExcept] at rest <;> obtain ⟨⟨rfl, rfl⟩, rfl⟩ := rest <;>
    exact ⟨_, stepped, rfl⟩

theorem plays_map {x : Prog σ α} {f : α → β} {r : Outcome PluginError β}
    (played : Script.Plays world w ((x.map f).meaning s) (r, t) w') :
    ∃ outcome, Script.Plays world w (x.meaning s) (outcome, t) w' ∧ r = outcome.map f := by
  simp only [map, meaning, Script.plays_bind] at played
  obtain ⟨⟨outcome, u⟩, v, inner, rest⟩ := played
  cases outcome <;> simp only [Script.plays_done, Prod.mk.injEq] at rest <;>
    obtain ⟨⟨rfl, rfl⟩, rfl⟩ := rest <;> exact ⟨_, inner, rfl⟩

end Prog

variable {lib : Library S} {s t : PluginState S}

/-- The triggers as they are recorded once the editor has defined them. -/
def World.registered (world : World W) (specs : List TriggerSpec) : List ActiveTrigger :=
  specs.map fun spec => ⟨spec, world.channel⟩

-- The three ways in which a redefinition may end.
inductive Redefines (world : World W) (s : PluginState S) (w : W) :
    Except PluginError Nat → PluginState S → W → Prop where
  | unremoved {e : PluginError} {w' : W}
      (refused : world.Refuses w (removals s.triggers s.identity.name) w') :
      Redefines world s w (.error e) s w'
  | undefined {e : PluginError} {v w' : W}
      (removed : world.Performs w s.triggers (removals s.triggers s.identity.name) v)
      (refused : world.Refuses v (definitions s.distinctSpecs world.channel s.identity.name) w') :
      Redefines world s w (.error e) { s with triggers := [] } w'
  | finished {v w' : W}
      (removed : world.Performs w s.triggers (removals s.triggers s.identity.name) v)
      (defined : world.Performs v s.distinctSpecs
        (definitions s.distinctSpecs world.channel s.identity.name) w') :
      Redefines world s w (.ok s.distinctSpecs.length)
        { s with triggers := world.registered s.distinctSpecs } w'

theorem plays_redefineTriggers {r : Outcome PluginError Nat}
    (played : Script.Plays world w (redefineTriggers.meaning s) (r, t) w') :
    ∃ result, r = .ofExcept result ∧ Redefines world s w result t w' := by
  obtain ⟨result, stepped, rfl⟩ := Prog.plays_access played
  refine ⟨result, rfl, ?_⟩
  simp only [Step.runAction, Script.plays_bind] at stepped
  obtain ⟨removal, v, removing, rest⟩ := stepped
  rcases ActiveTrigger.plays_undefine removing with ⟨rfl, removed⟩ | ⟨e, rfl, refused⟩
  · simp only [Script.plays_ask, Script.plays_bind] at rest
    obtain ⟨channel, v', answered, definition, v'', defining, rest⟩ := rest
    obtain ⟨rfl, rfl⟩ := world.channel_stays answered
    rcases ActiveTrigger.plays_define defining with ⟨rfl, defined⟩ | ⟨e, rfl, refused⟩
    · simp only [Script.plays_done, Prod.mk.injEq] at rest
      obtain ⟨⟨rfl, rfl⟩, rfl⟩ := rest
      rw [List.length_map]
      exact .finished removed defined
    · simp only [Script.plays_done, Prod.mk.injEq] at rest
      obtain ⟨⟨rfl, rfl⟩, rfl⟩ := rest
      exact .undefined removed refused
  · simp only [Script.plays_done, Prod.mk.injEq] at rest
    obtain ⟨⟨rfl, rfl⟩, rfl⟩ := rest
    exact .unremoved refused

theorem plays_enableComponents {names : List String} {r : Outcome PluginError Json}
    (played : Script.Plays world w
      (((Builtin.enableComponents.definition lib).body names).meaning s) (r, t) w') :
    (∃ e, s.enable names = .error e ∧ r = .error e ∧ t = s ∧ w' = w) ∨
      ∃ added u result, s.enable names = .ok (added, u) ∧ Redefines world u w result t w' ∧
        r = .ofExcept (result.map fun _ => Json.strings added) := by
  obtain ⟨outcome, inner, rfl⟩ := Prog.plays_map played
  simp only [Prog.meaning, Script.plays_bind] at inner
  obtain ⟨⟨enabled, u⟩, v, enabling, rest⟩ := inner
  obtain ⟨result, stepped, rfl⟩ := Prog.plays_access enabling
  simp only [Step.onState, Builtin.enableStep, Script.plays_done] at stepped
  cases known : s.enable names with
  | error e =>
    simp only [known, Prod.mk.injEq] at stepped
    obtain ⟨⟨rfl, rfl⟩, rfl⟩ := stepped
    simp only [Outcome.ofExcept, Script.plays_done, Prod.mk.injEq] at rest
    obtain ⟨⟨rfl, rfl⟩, rfl⟩ := rest
    exact .inl ⟨e, rfl, rfl, rfl, rfl⟩
  | ok value =>
    obtain ⟨added, enabled⟩ := value
    simp only [known, Prod.mk.injEq] at stepped
    obtain ⟨⟨rfl, rfl⟩, rfl⟩ := stepped
    obtain ⟨number, redefined, rfl⟩ := Prog.plays_map rest
    obtain ⟨result, rfl, redefines⟩ := plays_redefineTriggers redefined
    exact .inr ⟨added, u, result, rfl, redefines, by cases result <;> rfl⟩

variable (world lib) in
inductive TriggerRuns (s : PluginState S) (w : W) : PluginState S → W → Prop where
  | start : TriggerRuns s w s w
  | activate {t : PluginState S} {v : W} (before : TriggerRuns s w t v) (names : List String) :
      TriggerRuns s w (Builtin.enableStep names t).2 v
  | redefine {t u : PluginState S} {v v' : W} (before : TriggerRuns s w t v)
      {r : Outcome PluginError Nat}
      (played : Script.Plays world v (redefineTriggers.run t) (r, u) v') : TriggerRuns s w u v'
  | enable {t u : PluginState S} {v v' : W} (before : TriggerRuns s w t v) (names : List String)
      {r : Outcome PluginError Json}
      (played : Script.Plays world v
        (((Builtin.enableComponents.definition lib).body names).run t) (r, u) v') :
      TriggerRuns s w u v'

-- What is recorded are the triggers of an earlier state, if any.
structure Recorded (world : World W) (s t : PluginState S) : Prop where
  kept : Kept s t
  earlier : t.triggers = [] ∨
    ∃ u, Kept s u ∧ Extends u t ∧ t.triggers = world.registered u.distinctSpecs

theorem Recorded.first (recorded : Recorded world s t) :
    ∃ specs, specs <+: t.distinctSpecs ∧ t.triggers = world.registered specs := by
  rcases recorded.earlier with none | ⟨u, kept, more, triggers⟩
  · exact ⟨[], List.nil_prefix, none⟩
  · exact ⟨u.distinctSpecs,
      kept.consistent.distinctSpecs_prefix recorded.kept.consistent more, triggers⟩

theorem Recorded.activate (recorded : Recorded world s t) (names : List String) :
    Recorded world s (Builtin.enableStep names t).2 := by
  unfold Builtin.enableStep
  split
  · next added u enabled =>
    obtain ⟨consistent, more⟩ := recorded.kept.consistent.enable enabled
    refine ⟨recorded.kept.trans ⟨consistent, more⟩, ?_⟩
    rw [(PluginState.triggers_of_enable enabled).1]
    exact recorded.earlier.imp_right fun ⟨v, kept, older, triggers⟩ =>
      ⟨v, kept, older.trans more, triggers⟩
  · exact recorded

theorem PluginState.Kept.setTriggers (kept : Kept s t) (triggers : List ActiveTrigger) :
    Kept s { t with triggers } :=
  ⟨{ kept.consistent with },
    kept.grown.trans ⟨rfl, rfl, rfl, List.prefix_rfl, fun _ stored => stored⟩⟩

theorem Recorded.redefine (recorded : Recorded world s t) {u : PluginState S}
    {r : Except PluginError Nat} (redefines : Redefines world t w r u w') :
    Recorded world s u := by
  cases redefines with
  | unremoved => exact recorded
  | undefined => exact ⟨recorded.kept.setTriggers [], .inl rfl⟩
  | finished =>
    have kept := recorded.kept.setTriggers (world.registered t.distinctSpecs)
    exact ⟨kept, .inr ⟨_, kept, .refl _, rfl⟩⟩

namespace TriggerRuns

variable {v : W} (runs : TriggerRuns world lib s w t v)

include runs

theorem recorded (start : Recorded world s s) : Recorded world s t := by
  induction runs with
  | start => exact start
  | activate _ names ih => exact ih.activate names
  | redefine _ played ih =>
    rw [Prog.run_eq_meaning] at played
    obtain ⟨_, -, redefines⟩ := plays_redefineTriggers played
    exact ih.redefine redefines
  | enable _ names played ih =>
    rw [Prog.run_eq_meaning] at played
    rcases plays_enableComponents played with ⟨_, -, -, rfl, -⟩ | ⟨added, u, _, enabled, redefines, -⟩
    · exact ih
    · have activated := ih.activate names
      rw [Builtin.enableStep, enabled] at activated
      exact activated.redefine redefines

end TriggerRuns

/-- An editor that runs a source to its end or not at all, and that understands the texts it is
sent. -/
structure AtomicEditor (world : World W) (visited : PluginState S → Prop) where
  table : W → List TriggerEntry
  reads : String → List TriggerCommand
  whole : ∀ {w source w'}, world.Executes w source w' →
    table w' = TriggerCommand.runAll (table w) (reads source)
  nothing : ∀ {w source w'}, world.Refuses w source w' → table w' = table w
  reads_definitions : ∀ t, visited t →
    reads (definitions t.distinctSpecs world.channel t.identity.name) =
      t.distinctSpecs.map fun spec => .define (spec.entry world.channel t.identity.name)
  reads_removals : ∀ t, visited t →
    reads (removals t.triggers t.identity.name) = t.triggers.map fun a => .remove a.spec.key

namespace AtomicEditor

variable {visited : PluginState S → Prop} (editor : AtomicEditor world visited)

end AtomicEditor

end Runs

-- An editor for the notebook plugin. It understands the four texts that plugin may send.
namespace Notebook

def states : List (PluginState schema) := [start, opened]

/-- The texts the plugin sends, with what they say. -/
def sources : List (String × List TriggerCommand) := states.flatMap fun s =>
  [(definitions s.distinctSpecs 1 "notes",
      s.distinctSpecs.map fun spec => .define (spec.entry 1 "notes")),
    (removals (s.distinctSpecs.map fun spec => ⟨spec, 1⟩) "notes",
      s.distinctSpecs.map fun spec => .remove spec.key)]

def reads (source : String) : List TriggerCommand := (sources.lookup source).getD []

theorem sources_differ : ("" :: sources.map (·.1)).Nodup := by decide +kernel

theorem reads_of_mem {source : String} {commands : List TriggerCommand}
    (member : (source, commands) ∈ sources) : reads source = commands := by
  have found : sources.lookup source = some commands := by
    obtain ⟨before, after, split⟩ := List.append_of_mem member
    have differ := (List.nodup_cons.1 sources_differ).2
    rw [split, List.map_append, List.nodup_append] at differ
    refine List.lookup_eq_some_iff.2 ⟨before, after, split, fun entry earlier => ?_⟩
    have other := differ.2.2 entry.1 (List.mem_map_of_mem earlier) source (by simp)
    simpa using other.symm
  rw [reads, found, Option.getD_some]

theorem reads_nothing : reads "" = [] := by
  have unknown : sources.lookup "" = none := by
    have differ := (List.nodup_cons.1 sources_differ).1
    refine List.lookup_eq_none_iff.2 fun entry member => ?_
    have other : "" ≠ entry.1 := fun same => differ (same ▸ List.mem_map_of_mem member)
    simpa using other
  rw [reads, unknown, Option.getD_none]

inductive Answers : List TriggerEntry → (q : Query) → q.Answer → List TriggerEntry → Prop where
  | channel (table : List TriggerEntry) : Answers table .channel (1 : Int) table
  | ran (table : List TriggerEntry) (source : String) (v : Json) :
      Answers table (.request "nvim_exec2" [.string source, .object [("output", .bool false)]])
        (.value v) (TriggerCommand.runAll table (reads source))
  | failed (table : List TriggerEntry) (method : String) (args : List Json) (e : EditorError) :
      Answers table (.request method args) (.error e) table

def world : World (List TriggerEntry) where
  channel := 1
  answers := Answers
  channel_stays := by
    rintro _ _ _ ⟨⟩
    exact ⟨rfl, rfl⟩

theorem opened_kept : Kept start opened :=
  (Reaches.of_operation start (.enable ["pages"])).kept (config.build_consistent build_eq).1

theorem components_of_kept {t : PluginState schema} (kept : Kept start t) :
    t.components = start.components ∨ t.components = opened.components := by
  have places : start.catalog.places = [("pages", 1), ("internal", 0)] := rfl
  have first : start.components = ["internal"] := rfl
  have last : opened.components = ["internal", "pages"] := rfl
  obtain ⟨added, split⟩ := kept.grown.components
  have nodup := kept.consistent.nodup
  rw [← split, first, List.singleton_append, List.nodup_cons] at nodup
  have pages : ∀ name ∈ added, name = "pages" := by
    intro name member
    have known := kept.consistent.known name (split ▸ List.mem_append_right _ member)
    have other : name ≠ "internal" := fun same => nodup.1 (same ▸ member)
    rw [kept.grown.catalog, Catalog.contains, places, List.lookup_isSome_iff] at known
    simpa [other] using known
  rcases added with _ | ⟨a, _ | ⟨b, rest⟩⟩
  · exact .inl (by simpa using split.symm)
  · refine .inr ?_
    rw [← split, first, last, pages a (by simp)]
    rfl
  · have same : a = b := (pages a (by simp)).trans (pages b (by simp)).symm
    simp [same] at nodup

theorem specs_of_kept {t : PluginState schema} (kept : Kept start t) :
    ∃ s ∈ states, t.distinctSpecs = s.distinctSpecs := by
  have same : ∀ u, Kept start u → t.components = u.components →
      t.distinctSpecs = u.distinctSpecs := by
    intro u kept_u components
    rw [kept.consistent.distinctSpecs_eq, kept_u.consistent.distinctSpecs_eq,
      kept.consistent.handlers, kept_u.consistent.handlers, components, kept.grown.catalog,
      kept.grown.own, kept.grown.identity, kept_u.grown.catalog, kept_u.grown.own,
      kept_u.grown.identity]
  rcases components_of_kept kept with early | late
  · exact ⟨start, by simp [states], same start (config.build_consistent build_eq).1.kept early⟩
  · exact ⟨opened, by simp [states], same opened opened_kept late⟩

theorem started : Recorded world start start :=
  ⟨(config.build_consistent build_eq).1.kept, .inl rfl⟩

def editor : AtomicEditor world (fun u => ∃ v, TriggerRuns world library start [] u v) where
  table := id
  reads := reads
  whole := by
    rintro w source w' ⟨v, answered⟩
    cases answered
    rfl
  nothing := by
    rintro w source w' ⟨r, refused, answered⟩
    cases answered with
    | ran => exact absurd rfl (refused _)
    | failed => rfl
  reads_definitions := by
    rintro t ⟨v, runs⟩
    have kept := (runs.recorded started).kept
    have name : t.identity.name = "notes" := by rw [kept.grown.identity]; rfl
    obtain ⟨s, listed, specs⟩ := specs_of_kept kept
    rw [specs, name]
    exact reads_of_mem (List.mem_flatMap.2 ⟨s, listed, List.mem_cons_self⟩)
  reads_removals := by
    rintro t ⟨v, runs⟩
    obtain ⟨kept, earlier⟩ := runs.recorded started
    have name : t.identity.name = "notes" := by rw [kept.grown.identity]; rfl
    rcases earlier with none | ⟨u, kept_u, -, triggers⟩
    · rw [none, name]
      exact reads_nothing
    · obtain ⟨s, listed, specs⟩ := specs_of_kept kept_u
      have member : (removals (s.distinctSpecs.map fun spec => ⟨spec, 1⟩) "notes",
          s.distinctSpecs.map fun spec => TriggerCommand.remove spec.key) ∈ sources :=
        List.mem_flatMap.2 ⟨s, listed, by simp⟩
      rw [triggers, specs, name]
      simpa [World.registered, Function.comp_def, world] using reads_of_mem member

def first : PluginState schema :=
  { start with triggers := world.registered start.distinctSpecs }

end Notebook

end PluginHost
