import PluginHost.Proofs.Plugin.WriteBacks

/-!
The private states of other components are out of a program's sight. A block whose view is the data,
alone or with the state of its own component, does the same from states that differ only there, and
leaves those states as they are.
-/

set_option autoImplicit false

namespace PluginHost

variable {S : Schema} {own : Option S.Kind} {s t u v s' t' : PluginState S}

namespace PluginState

/-- The states differ at most in the private states of other components than the owner of `own`. -/
structure Apart (own : Option S.Kind) (s t : PluginState S) : Prop where
  rest : t = { s with store := t.store }
  owned : ∀ k, own = some k → Store.find? k t.store = Store.find? k s.store

/-- The private states of other components are as they were. -/
def Spared (own : Option S.Kind) (s s' : PluginState S) : Prop :=
  ∀ k, own ≠ some k → Store.find? k s'.store = Store.find? k s.store

/-- Two runs have come from states that are apart to states that are apart in the same way. -/
structure Beside (own : Option S.Kind) (s t s' t' : PluginState S) : Prop where
  apart : s'.Apart own t'
  left : s.Spared own s'
  right : t.Spared own t'

theorem Apart.beside (apart : s.Apart own t) : Beside own s t s t :=
  ⟨apart, fun _ _ => rfl, fun _ _ => rfl⟩

theorem Beside.trans (first : Beside own s t u v) (later : Beside own u v s' t') :
    Beside own s t s' t' where
  apart := later.apart
  left k other := (later.left k other).trans (first.left k other)
  right k other := (later.right k other).trans (first.right k other)

theorem Apart.exists_store (apart : s.Apart own t) : ∃ store, t = { s with store } ∧
    ∀ k, own = some k → Store.find? k store = Store.find? k s.store :=
  ⟨t.store, apart.rest, apart.owned⟩

theorem Apart.activeSpec_eq (apart : s.Apart own t) (k : S.Kind) :
    t.activeSpec k = s.activeSpec k := by
  obtain ⟨store, rfl, -⟩ := apart.exists_store
  rfl

theorem Apart.withData (apart : s.Apart own t) (data : S.Data) :
    Beside own s t { s with data } { t with data } := by
  obtain ⟨store, rfl, owned⟩ := apart.exists_store
  exact ⟨⟨rfl, owned⟩, fun _ _ => rfl, fun _ _ => rfl⟩

theorem Apart.logProgram (apart : s.Apart own t) (name : String) :
    Beside own s t (s.logProgram name) (t.logProgram name) := by
  obtain ⟨store, rfl, owned⟩ := apart.exists_store
  exact ⟨⟨rfl, owned⟩, fun _ _ => rfl, fun _ _ => rfl⟩

theorem spared_withState (s : PluginState S) (k : S.Kind) (c : S.State k) :
    s.Spared (some k) (s.withState k c) := by
  intro other ne
  exact Store.find?_insert_of_ne c (fun same => ne (by rw [same])) s.store

theorem apart_withState {k : S.Kind} (other : own ≠ some k) (s : PluginState S) (c d : S.State k) :
    (s.withState k c).Apart own (s.withState k d) where
  rest := rfl
  owned := by
    rintro k' rfl
    have ne : k' ≠ k := fun same => other (by rw [same])
    exact (Store.find?_insert_of_ne d ne s.store).trans (Store.find?_insert_of_ne c ne s.store).symm

theorem Apart.withState {k : S.Kind} (apart : s.Apart (some k) t) (c : S.State k) :
    Beside (some k) s t (s.withState k c) (t.withState k c) where
  apart := by
    obtain ⟨store, rfl, -⟩ := apart.exists_store
    refine ⟨rfl, ?_⟩
    rintro _ ⟨⟩
    exact (Store.find?_insert_self k c store).trans (Store.find?_insert_self k c s.store).symm
  left := s.spared_withState k c
  right := t.spared_withState k c

-- The first state of a component comes from its declaration, which both states share.
theorem Apart.componentValue {k : S.Kind} (apart : s.Apart (some k) t) :
    ∃ r u v, s.componentValue k = (r, u) ∧ t.componentValue k = (r, v) ∧
      Beside (some k) s t u v := by
  have owned := apart.owned k rfl
  have active := apart.activeSpec_eq k
  unfold PluginState.componentValue
  rw [owned, active]
  cases Store.find? k s.store with
  | some c => exact ⟨_, _, _, rfl, rfl, apart.beside⟩
  | none =>
    cases s.activeSpec k with
    | ok c => exact ⟨_, _, _, rfl, rfl, apart.withState c⟩
    | error e => exact ⟨_, _, _, rfl, rfl, apart.beside⟩

end PluginState

open PluginState

namespace Shape

theorem projectInner_beside {component : Option S.Kind} (apart : s.Apart component t) :
    ∃ r u v, projectInner .data component s = (r, u) ∧ projectInner .data component t = (r, v) ∧
      Beside component s t u v := by
  cases component with
  | none =>
    obtain ⟨store, rfl, -⟩ := apart.exists_store
    exact ⟨_, _, _, rfl, rfl, apart.beside⟩
  | some k =>
    obtain ⟨r, u, v, ofS, ofT, beside⟩ := apart.componentValue
    obtain ⟨store, rfl, -⟩ := beside.apart.exists_store
    simp only [projectInner, ofS, ofT]
    cases r with
    | ok c => exact ⟨_, _, _, rfl, rfl, beside⟩
    | error e => exact ⟨_, _, _, rfl, rfl, beside⟩

theorem project_beside {shape : Shape S.Kind} (data : shape.main = .data)
    (apart : s.Apart shape.component t) :
    ∃ r u v, shape.project s = (r, u) ∧ shape.project t = (r, v) ∧
      Beside shape.component s t u v := by
  cases shape with
  | plain m component =>
    cases data
    exact projectInner_beside apart
  | resources m component =>
    cases data
    change s.Apart component t at apart
    obtain ⟨r, u, v, ofS, ofT, beside⟩ := projectInner_beside apart
    obtain ⟨store, rfl, -⟩ := beside.apart.exists_store
    simp only [project, ofS, ofT]
    cases r with
    | ok w => exact ⟨_, _, _, rfl, rfl, beside⟩
    | error e => exact ⟨_, _, _, rfl, rfl, beside⟩
  | whole k => cases data

theorem restoreInner_beside {component : Option S.Kind} (apart : s.Apart component t)
    (w : InnerCarrier S .data component) :
    Beside component s t (restoreInner .data component w s)
      (restoreInner .data component w t) := by
  cases component with
  | none => exact apart.withData w
  | some k =>
    have written := apart.withData w.main
    exact written.trans (written.apart.withState w.comp)

theorem restore_beside {shape : Shape S.Kind} (data : shape.main = .data)
    (apart : s.Apart shape.component t) (w : shape.Carrier S) :
    Beside shape.component s t (shape.restore w s) (shape.restore w t) := by
  cases shape with
  | plain m component =>
    cases data
    exact restoreInner_beside apart w
  | resources m component =>
    cases data
    exact restoreInner_beside apart w.inner
  | whole k => cases data

end Shape

/-- Whatever the answers, the second run asks what the first one asks and comes to the same, and both
leave the private states of other components as they were. -/
def Isolated {α : Type} (own : Option S.Kind) (s t : PluginState S)
    (x y : Script (α × PluginState S)) : Prop :=
  ∀ asked r s', x.Asks asked (r, s') → ∃ t', y.Asks asked (r, t') ∧ Beside own s t s' t'

section

variable {α β : Type}

theorem Isolated.done (r : α) (beside : Beside own s t s' t') :
    Isolated own s t (.done (r, s')) (.done (r, t')) := by
  intro asked _ _ ran
  obtain ⟨rfl, ⟨⟩⟩ := Script.asks_done.1 ran
  exact ⟨t', .done _, beside⟩

theorem Isolated.bind {x y : Script (α × PluginState S)}
    {f g : α × PluginState S → Script (β × PluginState S)} (first : Isolated own s t x y)
    (later : ∀ r u v, u.Apart own v → Isolated own u v (f (r, u)) (g (r, v))) :
    Isolated own s t (x.bind f) (y.bind g) := by
  intro asked r s' ran
  obtain ⟨before, ⟨a, u⟩, after, rfl, begun, ended⟩ := Script.asks_bind.1 ran
  obtain ⟨v, begun', beside⟩ := first before a u begun
  obtain ⟨t', ended', beside'⟩ := later a u v beside.apart after r s' ended
  exact ⟨t', Script.asks_bind.2 ⟨before, (a, v), after, rfl, begun', ended'⟩, beside.trans beside'⟩

theorem Isolated.mapValue {x y : Script (α × PluginState S)} (isolated : Isolated own s t x y)
    (f : α → β) :
    Isolated own s t (x.map fun r => (f r.1, r.2)) (y.map fun r => (f r.1, r.2)) :=
  isolated.bind fun r _ _ apart => .done (f r) apart.beside

theorem Isolated.after {x y : Script (α × PluginState S)} (isolated : Isolated own u v x y)
    (moved : Beside own s t u v) : Isolated own s t x y := by
  intro asked r s' ran
  obtain ⟨t', ran', beside⟩ := isolated asked r s' ran
  exact ⟨t', ran', moved.trans beside⟩

theorem Isolated.map {γ : Type} (x : Script γ) {f g : γ → α × PluginState S}
    (same : ∀ c, (g c).1 = (f c).1 ∧ Beside own s t (f c).2 (g c).2) :
    Isolated own s t (x.map f) (x.map g) := by
  intro asked r s' ran
  obtain ⟨c, begun, left⟩ := Script.asks_map.1 ran
  obtain ⟨value, beside⟩ := same c
  rw [← left] at value beside
  exact ⟨(g c).2, Script.asks_map.2 ⟨c, begun, Prod.ext value.symm rfl⟩, beside⟩

end

namespace Prog

variable {α : Type}

theorem committed_beside {shape : Shape S.Kind} (data : shape.main = .data)
    (moved : Beside shape.component s t u v)
    (outcome : Outcome EditorError (shape.Carrier S × α)) :
    (committed shape.view v outcome).1 = (committed shape.view u outcome).1 ∧
      Beside shape.component s t (committed shape.view u outcome).2
        (committed shape.view v outcome).2 := by
  cases outcome with
  | value r => exact ⟨rfl, moved.trans (shape.restore_beside data moved.apart r.1)⟩
  | error e => exact ⟨rfl, moved⟩
  | panic m => exact ⟨rfl, moved⟩

theorem viewStep_isolated {shape : Shape S.Kind} (data : shape.main = .data)
    (apart : s.Apart shape.component t) (code : Stateful (shape.Carrier S) α) :
    Isolated shape.component s t (viewStep shape.view code s) (viewStep shape.view code t) := by
  obtain ⟨r, u, v, ofS, ofT, beside⟩ := shape.project_beside data apart
  cases r with
  | error e =>
    rw [viewStep_refused ofS, viewStep_refused ofT]
    exact .done _ beside
  | ok w =>
    rw [viewStep_projected ofS, viewStep_projected ofT]
    exact .map _ (committed_beside data beside)

/-- The state is not touched any more. -/
def ofOutcome {σ : Type} : Outcome PluginError α → Prog σ α
  | .value a => .pure a
  | .error e => .failed e
  | .panic m => .panic m

/-- One computation on a view, whose value is encoded in the end. The encoder may refuse it, and the
code that builds the computation may panic. -/
inductive IsBlock (shape : Shape S.Kind) : Prog (PluginState S) Json → Prop where
  | step {α : Type} (name : String) (code : Stateful (shape.Carrier S) α)
      (encode : α → Outcome PluginError Json) :
      IsBlock shape ((Prog.on name shape.view code fun a _ => .pure a).bind fun a =>
        .ofOutcome (encode a))
  | panic (m : String) : IsBlock shape (.panic m)

theorem ofOutcome_ofExcept {σ : Type} (r : Except PluginError α) :
    (ofOutcome (.ofExcept r) : Prog σ α) = ofResult r := by
  cases r <;> rfl

theorem block_isBlock (shape : Shape S.Kind) (name : String) (code : Stateful (shape.Carrier S) α)
    (encode : α → Except String Json) : (Prog.block name shape.view code encode).IsBlock shape := by
  unfold Prog.block
  simp only [← ofOutcome_ofExcept]
  exact .step name code _

/-- Runs from states that are apart are isolated. -/
def Isolates (own : Option S.Kind) (prog : Prog (PluginState S) α) : Prop :=
  ∀ {s t : PluginState S}, s.Apart own t → Isolated own s t (prog.run s) (prog.run t)

theorem ofOutcome_isolates (own : Option S.Kind) (r : Outcome PluginError α) :
    (ofOutcome r : Prog (PluginState S) α).Isolates own := by
  intro s t apart
  rw [run_eq_meaning, run_eq_meaning]
  cases r <;> exact .done _ apart.beside

theorem IsBlock.isolates {shape : Shape S.Kind} (data : shape.main = .data)
    {prog : Prog (PluginState S) Json} (block : prog.IsBlock shape) :
    prog.Isolates shape.component := by
  cases block with
  | panic m => exact ofOutcome_isolates _ (.panic m)
  | step name code encode =>
    intro s t apart
    simp only [run_eq_meaning, Prog.on, meaning]
    refine .bind (.bind (viewStep_isolated data apart code) ?_) ?_
    · rintro (a | e | m) u v apart
      all_goals exact .done _ apart.beside
    · rintro (a | e | m) u v apart
      · simpa only [run_eq_meaning] using ofOutcome_isolates _ (encode a) apart
      all_goals exact .done _ apart.beside

end Prog

namespace Library

/-- The program is one computation on a view of that shape, whatever its arguments. -/
structure Blocks (lib : Library S) (p : UserProgram S) (shape : Shape S.Kind) : Prop where
  declares : p.shape = some shape
  code : ∀ args prog, lib.code p.code args = .ok prog → prog.IsBlock shape

variable {lib : Library S} {p : UserProgram S} {shape : Shape S.Kind}

theorem Blocks.isolates (blocks : lib.Blocks p shape) (data : shape.main = .data)
    {args : List Json} {prog : Prog (PluginState S) Json} (bound : lib.bind p args = .ok prog) :
    prog.Isolates shape.component := by
  unfold Library.bind Program.bind at bound
  split at bound
  · exact (blocks.code args prog bound).isolates data
  · cases bound

theorem Blocks.call_isolates (blocks : lib.Blocks p shape) (data : shape.main = .data)
    (args : List Json) : (lib.call p args).Isolates shape.component := by
  unfold Library.call Program.call
  split
  · next prog bound => exact blocks.isolates data bound
  · next e _ => exact Prog.ofOutcome_isolates _ (.error e)

theorem Blocks.prepare (blocks : lib.Blocks p shape) (data : shape.main = .data)
    (apart : s.Apart shape.component t) {r : Request} {h : Handler S}
    (found : s.lookupMethod r.method = some h) (runs : h.program = p.asSource) :
    ∃ prog u v, PluginHost.prepare lib r s = (prog, u) ∧ PluginHost.prepare lib r t = (prog, v) ∧
      Beside shape.component s t u v ∧ prog.Isolates shape.component := by
  have found' : t.lookupMethod r.method = some h := by
    obtain ⟨store, rfl, -⟩ := apart.exists_store
    exact found
  unfold PluginHost.prepare
  simp only [found, found']
  cases r.arguments h.options.json with
  | error e => exact ⟨_, _, _, rfl, rfl, apart.beside, Prog.ofOutcome_isolates _ (.error e)⟩
  | ok args =>
    have source : h.program.bind (lib.source h.program.code) args = lib.bind p args := by
      rw [runs]
      rfl
    simp only [source]
    cases bound : lib.bind p args with
    | error e => exact ⟨_, _, _, rfl, rfl, apart.beside, Prog.ofOutcome_isolates _ (.error e)⟩
    | ok prog =>
      refine ⟨_, _, _, rfl, rfl, ?_, blocks.isolates data bound⟩
      split
      · exact apart.logProgram h.program.name
      · exact apart.beside

end Library

/-- A block whose view is the data, alone, beside the state of its component or with the plugin's
resources, does not see the private states of other components, nor does it touch them: from states
that differ only there it asks the same, comes to the same and leaves the same data and the same
state of its own component. This holds for calls and for requests that run the block. -/
theorem blocks_isolated {lib : Library S} {p : UserProgram S} {shape : Shape S.Kind}
    (blocks : lib.Blocks p shape) (data : shape.main = .data) {s t : PluginState S}
    (apart : s.Apart shape.component t) :
    (∀ args, Isolated shape.component s t ((lib.call p args).run s) ((lib.call p args).run t)) ∧
    ∀ r h, s.lookupMethod r.method = some h → h.program = p.asSource →
      Isolated shape.component s t (dispatch lib r s) (dispatch lib r t) := by
  refine ⟨fun args => blocks.call_isolates data args apart, fun r h found runs => ?_⟩
  obtain ⟨prog, u, v, ofS, ofT, moved, isolates⟩ := blocks.prepare data apart found runs
  unfold dispatch execute
  rw [ofS, ofT]
  exact .mapValue ((isolates moved.apart).after moved) settled

-- A plugin with two components, one of which has a program that adds to a tally. The tally is made
-- when the program first runs.
namespace Tallies

@[reducible] def schema : Schema where
  Data := Json
  data := .json
  Kind := Bool
  kindEq := inferInstance
  kindName own := if own then "Own" else "Other"
  State _ := Nat
  state _ := .nat64
  Code := Unit

def shape : Shape Bool := .resources .data (some true)

def tally (v : shape.Carrier schema) : Calc (shape.Carrier schema × Nat) :=
  .ok (⟨⟨v.inner.main, v.inner.comp + 1⟩, v.settings, v.components⟩, v.inner.comp)

def adding : Stateful (shape.Carrier schema) Nat := .direct tally

def program : UserProgram schema := ⟨"add", .block, ⟨0, some 0⟩, [], some shape, ()⟩

def adder : Handler schema := ⟨program.asSource, .ofMethods [.command true false]⟩

def block : Prog (PluginState schema) Json :=
  .block "add" (shape.view (S := schema)) adding Codec.nat64.encode

def library : Library schema := ⟨fun _ _ => .ok block, fun _ _ _ _ => .pure ⟨.unit, ()⟩⟩

def config : PluginConfig schema :=
  { PluginConfig.ofIdentity (.ofName "tallies" "ta") with
    components := [⟨"own", [adder], some ⟨true, 1⟩, none, []⟩,
      ⟨"other", [], some ⟨false, 5⟩, none, []⟩] }

def build : Except PluginError (PluginState schema) :=
  config.build .null ⟨some ["own", "other"], false⟩ ⟨⟨0⟩, 1, ⟨0⟩⟩

theorem builds : build.toOption.isSome = true := by decide +kernel

def start : PluginState schema := build.toOption.get builds

-- The same plugin after the other component has been given a state.
def low : PluginState schema := start.withState (S := schema) false 7

def high : PluginState schema := start.withState (S := schema) false 9

theorem library_blocks : library.Blocks program shape where
  declares := rfl
  code := by
    rintro _ _ ⟨⟩
    exact Prog.block_isBlock (S := schema) shape "add" adding Codec.nat64.encode

theorem low_apart_high : low.Apart shape.component high := by
  have other : shape.component ≠ some false := by decide
  exact apart_withState (S := schema) other start 7 9

theorem low_adder : low.lookupMethod "command:add" = some adder := by rfl

def opened : PluginState schema := (shape.project (S := schema) (low.logProgram "add")).2

def added : PluginState schema := opened.withState (S := schema) true 2

def first : shape.Carrier schema := ⟨⟨.null, 1⟩, low.settings, low.components⟩

theorem viewStep_adding : Prog.viewStep (shape.view (S := schema)) adding (low.logProgram "add") =
    .done (.value 1, added) := by
  have projected : (shape.view (S := schema)).project (low.logProgram "add") =
    (.ok first, opened) := rfl
  rw [Prog.viewStep_projected projected, adding, Stateful.evaluate_direct]
  rfl

theorem dispatch_add : dispatch library ⟨"command:add", [], true⟩ low =
    .done (.ok (.nat 1), added) := by
  have arguments : Request.arguments ⟨"command:add", [], true⟩ adder.options.json = .ok [] := rfl
  have bound : adder.program.bind (library.source adder.program.code) [] = .ok block := rfl
  have built : block.isBuilt = true := rfl
  simp only [dispatch, execute, prepare, low_adder, arguments, bound, built, if_true,
    Prog.run_eq_meaning]
  change Script.map _ (block.meaning (low.logProgram "add")) = _
  simp only [block, Prog.block, Prog.on, Prog.meaning, viewStep_adding]
  rfl

end Tallies

open Tallies in
theorem blocks_isolated_adding :
    library.Blocks program shape ∧ shape.main = .data ∧ low.Apart shape.component high ∧
      low.lookupMethod "command:add" = some adder ∧ adder.program = program.asSource ∧
      ∃ t, (dispatch library ⟨"command:add", [], true⟩ high).Asks [] (.ok (.nat 1), t) ∧
        Store.find? true t.store = some 2 ∧ Store.find? false t.store = some 9 := by
  refine ⟨library_blocks, rfl, low_apart_high, low_adder, rfl, ?_⟩
  obtain ⟨-, requests⟩ := blocks_isolated library_blocks rfl low_apart_high
  have isolated := requests ⟨"command:add", [], true⟩ adder low_adder rfl
  obtain ⟨t, ran, beside⟩ := isolated [] (.ok (.nat 1)) added (dispatch_add ▸ .done _)
  refine ⟨t, ran, ?_, ?_⟩
  · exact (beside.apart.owned true rfl).trans (Store.find?_insert_self (S := schema) true 2 _)
  · exact (beside.right false (by decide)).trans (Store.find?_insert_self (S := schema) false 9 _)

end PluginHost
