import PluginHost.Proofs.Plugin.Orderly

/-!
Runs of a plugin: requests, programs, and operations on its state, in any order. Whatever they come
to, the state they leave is consistent.
-/

set_option autoImplicit false

namespace PluginHost

variable {S : Schema}

inductive Runs (lib : Library S) : PluginState S → PluginState S → Prop where
  | start (s : PluginState S) : Runs lib s s
  | dispatch {s t u : PluginState S} (before : Runs lib s t) (r : Request)
      {result : Except PluginError Json} (returned : (dispatch lib r t).Returns (result, u)) :
      Runs lib s u
  | handle {s t u : PluginState S} (before : Runs lib s t) (r : Request)
      {result : Except PluginError Json} (returned : (handle lib r t).Returns (result, u)) :
      Runs lib s u
  | program {s t u : PluginState S} (before : Runs lib s t) {α : Type}
      {prog : Prog (PluginState S) α} (orderly : prog.Orderly) {result : Except PluginError α}
      (returned : (runProgram prog t).Returns (result, u)) : Runs lib s u
  | change {s t u : PluginState S} (before : Runs lib s t) (change : Reaches t u) : Runs lib s u

theorem Runs.reaches {lib : Library S} (orderly : lib.Orderly) {s t : PluginState S}
    (runs : Runs lib s t) : Reaches s t := by
  induction runs with
  | start => exact .refl _
  | dispatch _ r returned ih => exact ih.trans (dispatch_reaches orderly returned)
  | handle _ r returned ih =>
    exact ih.trans (dispatch_reaches orderly (dispatch_returns_of_handle returned))
  | program _ orderly returned ih =>
    simp only [runProgram, Script.returns_map] at returned
    obtain ⟨⟨outcome, u⟩, ran, result_eq⟩ := returned
    cases result_eq
    exact ih.trans (orderly.run_reaches ran)
  | change _ change ih => exact ih.trans change

theorem Runs.consistent {lib : Library S} (orderly : lib.Orderly) {config : PluginConfig S}
    {data : S.Data} {settings : Settings} {limits : Limits} {s t : PluginState S}
    (built : config.build data settings limits = .ok s) (runs : Runs lib s t) : t.Consistent :=
  ((runs.reaches orderly).kept (config.build_consistent built).1).consistent

/-- Components, handlers and component states fit together after whatever a plugin has done. -/
theorem consistent_of_runs {lib : Library S} (orderly : lib.Orderly) {config : PluginConfig S}
    {data : S.Data} {settings : Settings} {limits : Limits} {s t : PluginState S}
    (built : config.build data settings limits = .ok s) (runs : Runs lib s t) :
    t.Consistent ∧ config.catalog = .ok t.catalog ∧ t.own = config.own := by
  obtain ⟨consistent, catalog, own, -⟩ := config.build_consistent built
  have kept := (runs.reaches orderly).kept consistent
  exact ⟨kept.consistent, kept.grown.catalog ▸ catalog, kept.grown.own.trans own⟩

-- A plugin with one component, which counts the pages of a notebook. Pages that are missing have no
-- JSON form.
namespace Notebook

def pages : Codec Json where
  encode
    | .null => .error "no pages"
    | v => .ok v
  decode := Decode.json

@[reducible] def schema : Schema where
  Data := Json
  data := .json
  Kind := Unit
  kindEq := inferInstance
  kindName _ := "Pages"
  State _ := Json
  state _ := pages
  Code := Unit

def view : Shape Unit := .plain .data (some ())

def turned : WithComponent Json Json := ⟨.string "turned", .nat 2⟩

def turning : Prog (PluginState schema) Json :=
  .on "turn" (view.view (S := schema)) (Stateful.set turned) fun _ _ => .pure .null

def turn : Handler schema :=
  ⟨⟨"turn", .block, ⟨0, some 0⟩, [], some view, .user ()⟩, .ofMethods [.command true false]⟩

def library : Library schema := ⟨fun _ _ => .ok turning, fun _ _ _ _ => .pure ⟨.unit, ()⟩⟩

def config : PluginConfig schema :=
  { PluginConfig.ofIdentity (.ofName "notes" "nt") with
    components := [⟨"pages", [turn], some ⟨(), .nat 1⟩, none, []⟩] }

def build : Except PluginError (PluginState schema) :=
  config.build .null ⟨none, false⟩ ⟨⟨0⟩, 1, ⟨0⟩⟩

theorem builds : build.toOption.isSome = true := by decide +kernel

def start : PluginState schema := build.toOption.get builds

theorem build_eq : build = .ok start := eq_ok_get builds

theorem library_orderly : library.Orderly := by
  rintro _ _ prog ⟨⟩
  refine Prog.Orderly.on (S := schema) view (fun v w a _ m m' before _ => ?_) fun a _ => .pure _
  cases before

def opened : PluginState schema := Operation.apply start (.enable ["pages"])

theorem opened_turn : opened.lookupMethod "command:turn" = some turn := by rfl

def read : PluginState schema := (view.project (S := schema) (opened.logProgram "turn")).2

theorem meaning_turning : turning.meaning (opened.logProgram "turn") =
    .done (.value .null, view.restore (S := schema) turned read) := by
  have projected : view.project (S := schema) (opened.logProgram "turn") =
    (.ok ⟨.null, .nat 1⟩, read) := rfl
  have evaluated := @Stateful.evaluate_direct _ (view.Carrier schema) (fun _ => .ok (turned, ()))
    ⟨.null, .nat 1⟩
  simp only [turning, Prog.on, Prog.meaning, Prog.viewStep, Shape.view, projected, Stateful.set]
  rw [evaluated]
  rfl

theorem execute_turn : execute library ⟨"command:turn", [], true⟩ opened =
    .done (.value .null, view.restore (S := schema) turned read) := by
  have arguments : Request.arguments ⟨"command:turn", [], true⟩ turn.options.json = .ok [] := rfl
  have bound : turn.program.bind (library.source turn.program.code) [] = .ok turning := rfl
  have built : turning.isBuilt = true := rfl
  simp only [execute, prepare, opened_turn, arguments, bound, built, if_true, Prog.run_eq_meaning]
  exact meaning_turning

theorem turn_returns : (PluginHost.dispatch library ⟨"command:turn", [], true⟩ opened).Returns
    (.ok .null, view.restore (S := schema) turned read) := by
  simp only [PluginHost.dispatch, execute_turn]
  exact .done _

end Notebook

open Notebook in
theorem consistent_of_turning :
    ∃ t, config.build .null ⟨none, false⟩ ⟨⟨0⟩, 1, ⟨0⟩⟩ = .ok start ∧ library.Orderly ∧
      Runs library start t ∧ Store.find? () t.store = some (.nat 2) ∧
      (t.Consistent ∧ config.catalog = .ok t.catalog ∧ t.own = config.own) := by
  have runs : Runs library start (view.restore (S := schema) turned read) :=
    .dispatch (.change (.start start) (.of_operation start (.enable ["pages"]))) _ turn_returns
  exact ⟨_, build_eq, library_orderly, runs, rfl, consistent_of_runs library_orderly build_eq runs⟩

end PluginHost
