import PluginHost.Proofs.Document.Patching
import PluginHost.Proofs.Json.RoundTrip
import PluginHost.Proofs.Plugin.WriteBacks
import PluginHost.Proofs.Program.Bounds

/-!
The programs that patch the plugin's data and the states of its components. A patch takes effect as
a whole or not at all, and nothing but the value it is for changes.
-/

set_option autoImplicit false

namespace PluginHost

variable {S : Schema}

namespace Codec

variable {α : Type} {c : Codec α} {patch : Patch} {v w : α}

/-- What a value becomes when its JSON form is patched. The value has to have one, and the patched
form has to decode. -/
def patched (c : Codec α) (patch : Patch) (v : α) : Except PluginError α := do
  let document ← c.toValue v
  let document ← patch.apply document
  c.ofValue document

theorem bind_eq_patched (c : Codec α) (patch : Patch) (v : α) :
    c.toValue v >>= patch.apply >>= c.ofValue = c.patched patch v :=
  bind_assoc _ _ _

theorem ofValue_eq_ok {document : Json} :
    c.ofValue document = .ok w ↔ c.decode document = .ok w := by
  cases decoded : c.decode document <;> simp [ofValue, decoded, Except.mapError]

theorem patched_eq_ok : c.patched patch v = .ok w ↔
    ∃ before after, c.toValue v = .ok before ∧ patch.apply before = .ok after ∧
      c.decode after = .ok w := by
  simp only [patched, bind_eq_ok_iff, ofValue_eq_ok, exists_and_left]

theorem toValue_ordered {document : Json} (written : c.toValue v = .ok document) :
    document.Ordered := by
  unfold toValue at written
  cases encoded : c.encode v with
  | error reason => simp [encoded, Except.map, Except.mapError] at written
  | ok raw =>
    obtain rfl : raw.canonical = document := by
      simpa [encoded, Except.map, Except.mapError] using written
    exact Json.canonical_ordered raw

end Codec

namespace Patch

variable {p : Patch}

theorem ordered_of_decode {v : Json} (decoded : decode v = .ok p) : p.data.Ordered := by
  obtain ⟨values, -, built⟩ := bind_eq_ok_iff.1 decoded
  split at built
  next query data =>
    obtain ⟨text, -, rest⟩ := bind_eq_ok_iff.1 built
    cases rest
    exact Json.canonical_ordered data
  next => cases built

theorem ordered_of_decodeRequest {v : Json} (decoded : decodeRequest v = .ok p) :
    p.data.Ordered := by
  obtain ⟨values, -, built⟩ := bind_eq_ok_iff.1 decoded
  split at built
  next => exact ordered_of_decode built
  next => cases built

theorem ordered_of_decodeArg {index : Nat} {v : Json}
    (decoded : Param.patch.decodeArg index (some v) = .ok p) : p.data.Ordered := by
  simp only [Param.decodeArg] at decoded
  split at decoded
  next whole =>
    cases decoded
    exact ordered_of_decodeRequest whole
  next =>
    split at decoded
    next quoted =>
      cases decoded
      obtain ⟨text, -, read⟩ := Option.bind_eq_some_iff.1 quoted
      simp only [Param.decodeText] at read
      split at read
      next u _ =>
        cases written : decodeRequest u with
        | error e => simp [Param.patch, Codec.patch, Codec.total, written, Except.toOption] at read
        | ok q =>
          obtain rfl : q = p := by
            simpa [Param.patch, Codec.patch, Codec.total, written, Except.toOption] using read
          exact ordered_of_decodeRequest written
      next => cases read
    next => cases decoded

theorem ordered_of_binds {β : Type} {rest : Params β} {index : Nat} {args : List Json} {b : β}
    (binds : (Params.cons Param.patch rest).Binds index args (p, b)) : p.data.Ordered := by
  cases args with
  | nil => exact ordered_of_decodeRequest binds.1
  | cons v args => exact ordered_of_decodeArg binds.1

theorem apply_ordered {s t : Json} (ordered : s.Ordered) (data_ordered : p.data.Ordered)
    (applied : p.apply s = .ok t) : t.Ordered := by
  obtain ⟨path, place, w, parsed, leads⟩ := exists_leads_of_apply ordered applied
  have replaced := (apply_of_leads ordered parsed leads).symm.trans applied
  obtain rfl := Except.ok.inj replaced
  have merged := Json.merge_ordered w p.data (leads.ordered ordered) data_ordered
  exact ordered.replace merged place

end Patch

namespace PluginState

variable {s : PluginState S} {name : String} {k : S.Kind} {v w : S.State k}

/-- The private state of an active component: the one that is stored, or else the first one. -/
def current? (s : PluginState S) (name : String) : Option (Σ k, S.State k) :=
  if name ∈ s.components then
    ((s.catalog.get? name).bind Component.state).map fun spec =>
      ⟨spec.kind, (Store.find? spec.kind s.store).getD spec.initial⟩
  else none

theorem current?_eq_some (current : s.current? name = some ⟨k, v⟩) :
    name ∈ s.components ∧ ∃ component initial, s.catalog.get? name = some component ∧
      component.state = some ⟨k, initial⟩ ∧ (Store.find? k s.store).getD initial = v := by
  unfold current? at current
  split at current
  next active =>
    obtain ⟨⟨kind, initial⟩, declared, same⟩ := Option.map_eq_some_iff.1 current
    obtain ⟨component, found, declares⟩ := Option.bind_eq_some_iff.1 declared
    cases same
    exact ⟨active, component, initial, found, declares, rfl⟩
  next => cases current

theorem activeKind_of_current (current : s.current? name = some ⟨k, v⟩) :
    s.activeKind name = .ok k := by
  obtain ⟨active, component, initial, found, declares, -⟩ := current?_eq_some current
  simp [activeKind, isActive, active, found, Component.stateKind, declares]

theorem activeKind_of_current_eq_none (missing : s.current? name = none) :
    ∃ e, s.activeKind name = .error e := by
  unfold current? at missing
  by_cases active : name ∈ s.components
  next =>
    have stateless : (s.catalog.get? name).bind Component.stateKind = none := by
      cases found : s.catalog.get? name with
      | none => rfl
      | some component => simpa [active, found, Component.stateKind] using missing
    simp [activeKind, isActive, active, stateless]
  next => simp [activeKind, isActive, active]

theorem Consistent.declaring_of_get? (consistent : s.Consistent) {component : Component S}
    {initial : S.State k} (found : s.catalog.get? name = some component)
    (declares : component.state = some ⟨k, initial⟩) : s.catalog.declaring k = [component] := by
  obtain ⟨member, -⟩ := consistent.sound.get?_eq_some.1 found
  exact consistent.sound.declaring_eq member (by simp [Component.stateKind, declares])

theorem Consistent.componentValue_of_current (consistent : s.Consistent)
    (current : s.current? name = some ⟨k, v⟩) : s.componentValue k = (.ok v, s.withState k v) := by
  obtain ⟨active, component, initial, found, declares, value⟩ := current?_eq_some current
  cases stored : Store.find? k s.store with
  | some x =>
    obtain rfl : x = v := by simpa [stored] using value
    rw [componentValue_of_stored stored, withState_eq_self stored]
  | none =>
    obtain rfl : initial = v := by simpa [stored] using value
    obtain ⟨-, named⟩ := consistent.sound.get?_eq_some.1 found
    have owns := Catalog.ownerOf_of_declaring (consistent.declaring_of_get? found declares)
    have spec : s.activeSpec k = .ok initial := by
      simp [activeSpec, owns, isActive, named, active, declares]
    simp [PluginState.componentValue, stored, spec]

theorem Consistent.modifyData_of_current (consistent : s.Consistent)
    (current : s.current? name = some ⟨k, v⟩) (patch : Patch) : s.modifyData name patch.apply =
      match (S.state k).patched patch v with
      | .ok w => (.ok (), s.withState k w)
      | .error e => (.error e, s.withState k v) := by
  unfold PluginState.modifyData
  simp only [activeKind_of_current current, consistent.componentValue_of_current current,
    Codec.bind_eq_patched]
  cases (S.state k).patched patch v with
  | error e => rfl
  | ok w => simp

theorem current?_withState_self (current : s.current? name = some ⟨k, v⟩) (w : S.State k) :
    (s.withState k w).current? name = some ⟨k, w⟩ := by
  obtain ⟨active, component, initial, found, declares, -⟩ := current?_eq_some current
  simp [current?, withState, active, found, declares]

theorem Consistent.current?_withState_of_ne (consistent : s.Consistent)
    (current : s.current? name = some ⟨k, v⟩) (w : S.State k) {other : String} (ne : other ≠ name) :
    (s.withState k w).current? other = s.current? other := by
  obtain ⟨-, component, initial, found, declares, -⟩ := current?_eq_some current
  unfold current?
  by_cases active : other ∈ s.components
  next =>
    have still : other ∈ (s.withState k w).components := active
    rw [if_pos active, if_pos still]
    apply Option.map_congr
    intro spec declared
    obtain ⟨component', found', declares'⟩ := Option.bind_eq_some_iff.1 declared
    -- Were the kinds the same, one component would have both names.
    have different : spec.kind ≠ k := by
      intro same
      obtain ⟨kind, value⟩ := spec
      subst same
      have only := consistent.declaring_of_get? found declares
      have only' := consistent.declaring_of_get? found' declares'
      obtain rfl : component = component' := by simpa [only] using only'
      obtain ⟨-, named⟩ := consistent.sound.get?_eq_some.1 found
      obtain ⟨-, named'⟩ := consistent.sound.get?_eq_some.1 found'
      exact ne (named'.symm.trans named)
    rw [PluginState.withState, Store.find?_insert_of_ne w different]
  next =>
    have still : other ∉ (s.withState k w).components := active
    rw [if_neg active, if_neg still]

end PluginState

theorem Prog.meaning_onState_map {α β : Type} (name : String)
    (f : PluginState S → Except PluginError α × PluginState S) (g : α → β) (s : PluginState S) :
    ((Prog.access name (Step.onState f)).map g).meaning s =
      .done (.ofExcept ((f s).1.map g), (f s).2) := by
  rw [Prog.map, meaning, meaning_onState]
  rcases f s with ⟨_ | _, t⟩ <;> rfl

namespace Builtin

variable {lib : Library S} {b : Builtin} {args : List Json} {s : PluginState S}

/-- One of the plugin's own programs with arguments. It fails if it refuses them. -/
def applied (lib : Library S) (b : Builtin) (args : List Json) : Prog (PluginState S) Json :=
  (b.program (S := S)).call (lib.source (.builtin b)) args

/-- The arguments are as many as the program takes, and those values are what they decode to. -/
def Takes (lib : Library S) (b : Builtin) (args : List Json) (a : (b.definition lib).Args) : Prop :=
  (b.definition lib).signature.arity.Within args.length ∧ (b.definition lib).signature.Binds args a

theorem arity_program (lib : Library S) (b : Builtin) :
    (b.program (S := S)).arity = (b.definition lib).signature.arity := by
  cases b <;> rfl

theorem applied_of_takes {a : (b.definition lib).Args} (takes : Takes lib b args a) :
    applied lib b args = (b.definition lib).body a := by
  have accepted := Arity.accepts_iff.2 takes.1
  have coded := Definition.code_of_decode (Signature.decode_eq_ok.2 takes.2)
  simp [applied, Program.call, Program.bind, arity_program lib, accepted, Library.source, coded]

theorem applied_of_not_takes (refused : ∀ a, ¬ Takes lib b args a) :
    ∃ e, applied lib b args = .failed e := by
  by_cases within : (b.definition lib).signature.arity.Within args.length
  next =>
    have accepted := Arity.accepts_iff.2 within
    cases coded : (b.definition lib).code args with
    | error e =>
      exact ⟨e, by simp [applied, Program.call, Program.bind, arity_program lib, accepted,
        Library.source, coded]⟩
    | ok prog =>
      obtain ⟨a, binds, -⟩ := Definition.code_eq_ok.1 coded
      exact absurd ⟨within, binds⟩ (refused a)
  next =>
    have rejected : (b.definition lib).signature.arity.accepts args.length = false :=
      Bool.eq_false_iff.2 (mt Arity.accepts_iff.1 within)
    exact ⟨_, by simp [applied, Program.call, Program.bind, arity_program lib, rejected]; rfl⟩

theorem run_updateState {patch : Patch} (takes : Takes lib .updateState args (patch, ())) :
    (applied lib .updateState args).run s =
      match S.data.patched patch s.data with
      | .ok data => .done (.value .null, { s with data })
      | .error e => .done (.error e, s) := by
  rw [applied_of_takes takes, Prog.run_eq_meaning]
  refine (Prog.meaning_onState_map _ _ _ s).trans ?_
  rw [updateData, Codec.bind_eq_patched]
  cases S.data.patched patch s.data <;> rfl

theorem run_updateComponentState (consistent : s.Consistent) {name : String} {k : S.Kind}
    {v : S.State k} (current : s.current? name = some ⟨k, v⟩) {patch : Patch}
    (takes : Takes lib .updateComponentState args (name, patch, ())) :
    (applied lib .updateComponentState args).run s =
      match (S.state k).patched patch v with
      | .ok w => .done (.value .null, s.withState k w)
      | .error e => .done (.error e, s.withState k v) := by
  rw [applied_of_takes takes, Prog.run_eq_meaning]
  refine (Prog.meaning_onState_map _ _ _ s).trans ?_
  rw [consistent.modifyData_of_current current patch]
  cases (S.state k).patched patch v <;> rfl

/-- A program that shows a text fails with the reason if there is none. -/
theorem meaning_inspection (b : Builtin) (f : PluginState S → Except String String)
    (s : PluginState S) : (b.inspection f).meaning s =
      .done (.ofExcept (((f s).map Json.string).mapError .program), s) := by
  have projected : (wholeState (S := S)).project s = (.ok s, s) := rfl
  have stepped : Prog.viewStep (wholeState (S := S)).view (.tryInspect f) s =
      .done (.ofExcept ((f s).mapError .program), s) := by
    rw [Prog.viewStep_projected projected]
    change Script.map _ ((Stateful.tryInspect f).run s).evaluate = _
    rw [Stateful.evaluate_tryInspect]
    cases f s <;> rfl
  rw [inspection, Prog.block, Prog.meaning, Prog.on, Prog.meaning, stepped]
  cases f s <;> rfl

end Builtin

/-- The plugin's data is plain JSON. -/
structure Schema.Plain (S : Schema) : Prop where
  data : S.Data = Json
  codec : S.data ≍ Codec.json
  text : S.text ≍ fun v : Json => (.ok v.render : Except String String)

namespace Schema.Plain

theorem exists_value (plain : S.Plain) (data : S.Data) :
    ∃ document, S.data.toValue data = .ok document := by
  obtain ⟨Data, codec, _, _, _, _, _, _, _⟩ := S
  obtain ⟨same_type, same_codec, -⟩ := plain
  subst same_type
  obtain rfl := eq_of_heq same_codec
  exact ⟨_, rfl⟩

theorem exists_decode (plain : S.Plain) {document : Json} (ordered : document.Ordered) :
    ∃ data, S.data.decode document = .ok data ∧ S.text data = .ok document.render := by
  obtain ⟨Data, codec, text, _, _, _, _, _, _⟩ := S
  obtain ⟨same_type, same_codec, same_text⟩ := plain
  subst same_type
  obtain rfl := eq_of_heq same_codec
  obtain rfl := eq_of_heq same_text
  exact ⟨document.canonical, rfl, by rw [Json.canonical_eq_self document ordered]⟩

end Schema.Plain

namespace PluginState

/-- The states differ in nothing but the private state of one component, whose kind is `k`. -/
structure OnlyIn (name : String) (k : S.Kind) (s u : PluginState S) : Prop where
  rest : u = { s with store := u.store }
  kinds : ∀ other, other ≠ k → Store.find? other u.store = Store.find? other s.store
  components : ∀ other, other ≠ name → u.current? other = s.current? other

end PluginState

namespace Library

open Builtin

structure PatchesData (lib : Library S) (s : PluginState S) : Prop where
  replaced : ∀ args patch data, Takes lib .updateState args (patch, ()) →
    S.data.patched patch s.data = .ok data →
    (applied lib .updateState args).run s = .done (.value .null, { s with data })
  refused : ∀ args patch e, Takes lib .updateState args (patch, ()) →
    S.data.patched patch s.data = .error e →
    (applied lib .updateState args).run s = .done (.error e, s)
  untaken : ∀ args, (∀ a, ¬ Takes lib .updateState args a) →
    ∃ e, (applied lib .updateState args).run s = .done (.error e, s)

structure PatchesComponents (lib : Library S) (s : PluginState S) : Prop where
  replaced : ∀ args name patch k v w, Takes lib .updateComponentState args (name, patch, ()) →
    s.current? name = some ⟨k, v⟩ → (S.state k).patched patch v = .ok w →
    (applied lib .updateComponentState args).run s = .done (.value .null, s.withState k w) ∧
      s.OnlyIn name k (s.withState k w) ∧ (s.withState k w).current? name = some ⟨k, w⟩
  refused : ∀ args name patch k v e, Takes lib .updateComponentState args (name, patch, ()) →
    s.current? name = some ⟨k, v⟩ → (S.state k).patched patch v = .error e →
    ∃ u, (applied lib .updateComponentState args).run s = .done (.error e, u) ∧ s.Opens k u ∧
      ∀ other, u.current? other = s.current? other
  absent : ∀ args name patch, Takes lib .updateComponentState args (name, patch, ()) →
    s.current? name = none →
    ∃ e, (applied lib .updateComponentState args).run s = .done (.error e, s)
  untaken : ∀ args, (∀ a, ¬ Takes lib .updateComponentState args a) →
    ∃ e, (applied lib .updateComponentState args).run s = .done (.error e, s)

/-- What the program `state` shows after the data was patched is the patched document. -/
def ShowsPatched (lib : Library S) (s : PluginState S) : Prop :=
  ∃ before, S.data.toValue s.data = .ok before ∧
    ∀ args patch document, Takes lib .updateState args (patch, ()) →
      patch.apply before = .ok document → document.Integral →
      document.depth ≤ Json.nestingLimit →
      ∃ u text, (applied lib .updateState args).run s = .done (.value .null, u) ∧
        (∀ later : PluginState S, later.data = u.data →
          (applied lib .state []).run later = .done (.value (.string text), later)) ∧
        Json.parse text = .ok document

variable {lib : Library S} {s : PluginState S}

theorem run_of_not_takes {b : Builtin} {args : List Json} (refused : ∀ a, ¬ Takes lib b args a)
    (s : PluginState S) : ∃ e, (applied lib b args).run s = .done (.error e, s) := by
  obtain ⟨e, fails⟩ := applied_of_not_takes refused
  exact ⟨e, by rw [fails, Prog.run_eq_meaning, Prog.meaning]⟩

theorem patchesData (lib : Library S) (s : PluginState S) : lib.PatchesData s where
  replaced := by
    intro args patch data takes patched
    rw [run_updateState takes, patched]
  refused := by
    intro args patch e takes patched
    rw [run_updateState takes, patched]
  untaken args refused := run_of_not_takes refused s

theorem patchesComponents (lib : Library S) (consistent : s.Consistent) :
    lib.PatchesComponents s where
  replaced := by
    intro args name patch k v w takes current patched
    have run := run_updateComponentState consistent current takes
    rw [patched] at run
    refine ⟨run, ⟨rfl, ?_, ?_⟩, PluginState.current?_withState_self current w⟩
    next => exact fun other ne => Store.find?_insert_of_ne w ne s.store
    next => exact fun other ne => consistent.current?_withState_of_ne current w ne
  refused := by
    intro args name patch k v e takes current patched
    have run := run_updateComponentState consistent current takes
    rw [patched] at run
    have value := consistent.componentValue_of_current current
    refine ⟨s.withState k v, run, (PluginState.componentValue_eq_ok value).2, ?_⟩
    intro other
    by_cases same : other = name
    next => rw [same, PluginState.current?_withState_self current, current]
    next => exact consistent.current?_withState_of_ne current v same
  absent := by
    intro args name patch takes missing
    obtain ⟨e, inactive⟩ := PluginState.activeKind_of_current_eq_none missing
    refine ⟨e, ?_⟩
    rw [applied_of_takes takes, Prog.run_eq_meaning]
    refine (Prog.meaning_onState_map _ _ _ s).trans ?_
    rw [PluginState.modifyData, inactive]
    rfl
  untaken args refused := run_of_not_takes refused s

theorem showsPatched (lib : Library S) (plain : S.Plain) (s : PluginState S) :
    lib.ShowsPatched s := by
  obtain ⟨before, written⟩ := plain.exists_value s.data
  refine ⟨before, written, ?_⟩
  intro args patch document takes applied integral shallow
  have ordered : document.Ordered :=
    Patch.apply_ordered (Codec.toValue_ordered written) (Patch.ordered_of_binds takes.2) applied
  obtain ⟨data, decoded, text⟩ := plain.exists_decode ordered
  have patched := Codec.patched_eq_ok.2 ⟨before, document, written, applied, decoded⟩
  refine ⟨_, document.render, (patchesData lib s).replaced args patch data takes patched, ?_, ?_⟩
  next =>
    intro later same
    have shown : Takes lib .state [] () := ⟨Arity.accepts_iff.1 rfl, trivial⟩
    rw [applied_of_takes shown, Prog.run_eq_meaning]
    refine (meaning_inspection .state _ later).trans ?_
    rw [same, text]
    rfl
  next => simpa using Json.parse_render_append ordered integral shallow "" (by simp)

end Library

/-- Whatever a plugin has done, a patch of its data or of a component's state takes effect as a
whole or not at all, and in that place only. -/
theorem patches_of_runs {lib : Library S} (orderly : lib.Orderly) {config : PluginConfig S}
    {data : S.Data} {settings : Settings} {limits : Limits} {s t : PluginState S}
    (built : config.build data settings limits = .ok s) (runs : Runs lib s t) :
    lib.PatchesData t ∧ lib.PatchesComponents t ∧ (S.Plain → lib.ShowsPatched t) := by
  refine ⟨lib.patchesData t, ?_, fun plain => lib.showsPatched plain t⟩
  exact lib.patchesComponents (runs.consistent orderly built)

namespace Notebook

open Builtin

def heading : Patch := ⟨"", .record [("heading", .string "plans")]⟩

/-- The first state of the component is a number, which has no members. -/
def misplaced : Patch := ⟨"heading", .null⟩

def query (patch : Patch) : Json := patch.toRequest

theorem heading_takes : Takes library .updateState [query heading] (heading, ()) :=
  ⟨Arity.accepts_iff.1 rfl, rfl, trivial⟩

theorem takes_pages (patch : Patch) (canonical : patch.data.canonical = patch.data) :
    Takes library .updateComponentState [.string "pages", query patch] ("pages", patch, ()) := by
  have decoded : Param.patch.decodeArg 1 (some (query patch)) =
    .ok ⟨patch.query, patch.data.canonical⟩ := rfl
  rw [canonical] at decoded
  exact ⟨Arity.accepts_iff.1 rfl, rfl, decoded, trivial⟩

theorem pages_current : opened.current? "pages" = some ⟨(), .nat 1⟩ := rfl

theorem plain : schema.Plain := ⟨rfl, .rfl, .rfl⟩

theorem opened_runs : Runs library start opened :=
  .change (.start start) (.of_operation start (.enable ["pages"]))

/-- The pages have been torn out. -/
def bare : PluginState schema := Operation.apply opened (.store () ⟨(), .null⟩)

theorem bare_runs : Runs library start bare :=
  .change opened_runs (.of_operation opened (.store () ⟨(), .null⟩))

theorem bare_current : bare.current? "pages" = some ⟨(), .null⟩ := rfl

end Notebook

open Notebook Builtin in
theorem patches_of_headings :
    config.build .null ⟨none, false⟩ ⟨⟨0⟩, 1, ⟨0⟩⟩ = .ok start ∧ library.Orderly ∧
      Runs library start opened ∧ schema.Plain ∧
      (∃ u text,
        (applied library .updateState [query heading]).run opened = .done (.value .null, u) ∧
        (applied library .state []).run u = .done (.value (.string text), u) ∧
        Json.parse text = .ok heading.data) ∧
      (applied library .updateComponentState [.string "pages", query heading]).run opened =
        .done (.value .null, opened.withState () heading.data) ∧
      (∃ e u,
        (applied library .updateComponentState [.string "pages", query misplaced]).run opened =
          .done (.error e, u) ∧ u.current? "pages" = some ⟨(), .nat 1⟩) ∧
      Runs library start bare ∧
      ∃ u, (applied library .updateComponentState [.string "pages", query heading]).run bare =
          .done (.error (.decode "no pages"), u) ∧ u.current? "pages" = some ⟨(), .null⟩ := by
  obtain ⟨-, components, shows⟩ := patches_of_runs library_orderly build_eq opened_runs
  refine ⟨build_eq, library_orderly, opened_runs, plain, ?shown, ?replaced, ?refused, bare_runs,
    ?unwritten⟩
  case shown =>
    obtain ⟨before, written, patches⟩ := shows plain
    obtain rfl : .null = before := Except.ok.inj written
    have applied : heading.apply .null = .ok heading.data := by rfl
    have integral : heading.data.Integral := ⟨trivial, trivial⟩
    obtain ⟨u, text, run, state, parsed⟩ :=
      patches _ heading heading.data heading_takes applied integral (by decide +kernel)
    exact ⟨u, text, run, state u rfl, parsed⟩
  case replaced =>
    have patched : (schema.state ()).patched heading (.nat 1) = .ok heading.data := by rfl
    exact (components.replaced _ _ _ _ _ _ (takes_pages heading rfl) pages_current patched).1
  case refused =>
    have patched : (schema.state ()).patched misplaced (.nat 1) =
      .error (.program "no field `heading` in state") := by rfl
    obtain ⟨u, run, -, kept⟩ :=
      components.refused _ _ _ _ _ _ (takes_pages misplaced rfl) pages_current patched
    exact ⟨_, u, run, (kept "pages").trans pages_current⟩
  case unwritten =>
    obtain ⟨-, components, -⟩ := patches_of_runs library_orderly build_eq bare_runs
    have patched : (schema.state ()).patched heading .null = .error (.decode "no pages") := rfl
    obtain ⟨u, run, -, kept⟩ :=
      components.refused _ _ _ _ _ _ (takes_pages heading rfl) bare_current patched
    exact ⟨u, run, (kept "pages").trans bare_current⟩

end PluginHost
