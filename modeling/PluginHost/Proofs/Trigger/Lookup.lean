import PluginHost.Proofs.Plugin.Running
import PluginHost.Proofs.Trigger.Specs

/-!
The methods that a plugin answers to. Each is that of one trigger of one active handler, and tells
the trigger's kind by what stands before its first colon.
-/

set_option autoImplicit false

namespace PluginHost

namespace Text

theorem splitOn_ne_nil (separates : Char → Bool) (cs : List Char) : splitOn separates cs ≠ [] := by
  cases cs with
  | nil => simp [splitOn]
  | cons c rest =>
    unfold splitOn
    split
    · simp
    · split <;> simp

theorem splitOn_append_cons {separates : Char → Bool} {part rest : List Char} {c : Char}
    (free : ∀ d ∈ part, separates d = false) (separator : separates c = true) :
    splitOn separates (part ++ c :: rest) = part :: splitOn separates rest := by
  induction part with
  | nil => simp [splitOn, separator]
  | cons d part ih =>
    have later := ih fun e member => free e (List.mem_cons_of_mem _ member)
    simp [splitOn, free d List.mem_cons_self, later]

end Text

theorem TriggerKind.parse_text (kind : TriggerKind) : parse kind.text = some kind := by
  cases kind <;> rfl

theorem TriggerKind.colon_free (kind : TriggerKind) :
    ∀ c ∈ kind.text.toList, (c == ':') = false := by
  have free : (kind.text.toList.all fun c => !(c == ':')) = true := by
    cases kind <;> rfl
  simpa using free

theorem TriggerOptions.kind?_method (o : TriggerOptions) (program : String) (kind : TriggerKind) :
    Request.kind? (o.method program kind) = some kind := by
  have chars : (o.method program kind).toList =
      kind.text.toList ++ ':' :: (o.rpcName program).toList := by
    simp [method, String.toList_append]
  have split : Text.splitOn (· == ':') (kind.text.toList ++ ':' :: (o.rpcName program).toList) =
      kind.text.toList :: Text.splitOn (· == ':') (o.rpcName program).toList :=
    Text.splitOn_append_cons kind.colon_free (beq_self_eq_true ':')
  obtain ⟨part, parts, rest⟩ :=
    List.exists_cons_of_ne_nil (Text.splitOn_ne_nil (· == ':') (o.rpcName program).toList)
  simp [Request.kind?, Text.splitText, chars, split, rest, TriggerKind.parse_text]

variable {S : Schema}

theorem Handler.kind?_of_mem_specs {h : Handler S} {plugin : Identity} {spec : TriggerSpec}
    (own : spec ∈ h.specs plugin) : Request.kind? spec.method = some spec.kind := by
  obtain ⟨m, -, rfl⟩ := List.mem_map.1 own
  exact h.options.kind?_method h.program.name m.kind

theorem dispatch_of_lookup_eq_none {lib : Library S} {r : Request} {s : PluginState S}
    (unknown : s.lookupMethod r.method = none) :
    dispatch lib r s = .done (.error (.unknownMethod r.method), s) := by
  simp [dispatch, execute, prepare, unknown, Prog.run, Prog.runWith, settled, Script.map]

namespace PluginState

/-- The handler is one of the configuration or of an active component. -/
def Serves (s : PluginState S) (h : Handler S) : Prop :=
  h ∈ s.own ∨ ∃ name ∈ s.components, h ∈ s.catalog.handlersOf name

namespace Consistent

variable {s : PluginState S}

theorem mem_handlers (consistent : s.Consistent) {h : Handler S} :
    h ∈ s.handlers ↔ s.Serves h := by
  simp [consistent.handlers, Serves]

theorem nodup_allSpecs (consistent : s.Consistent) : (allSpecs s.handlers s.identity).Nodup :=
  .of_map _ consistent.distinct.methods

theorem lookupMethod_eq_none (consistent : s.Consistent) {method : String}
    (unlisted : method ∉ s.distinctSpecs.map (·.method)) : s.lookupMethod method = none := by
  refine List.find?_eq_none.2 fun h member answers => unlisted ?_
  have own : method ∈ (h.specs s.identity).map (·.method) := by
    simpa [h.map_method_specs s.identity] using answers
  obtain ⟨spec, has_spec, rfl⟩ := List.mem_map.1 own
  rw [consistent.distinctSpecs_eq]
  exact List.mem_map_of_mem (List.mem_flatMap.2 ⟨h, member, has_spec⟩)

end Consistent

end PluginState

/-- The list of triggers is complete and repeats none. A method leads to the program of its trigger
or to nobody. -/
theorem methods_of_runs {lib : Library S} (orderly : lib.Orderly) {config : PluginConfig S}
    {data : S.Data} {settings : Settings} {limits : Limits} {s t : PluginState S}
    (built : config.build data settings limits = .ok s) (runs : Runs lib s t) :
    t.distinctSpecs = PluginState.allSpecs t.handlers t.identity ∧
    (∀ h, t.Serves h → ∀ spec ∈ h.specs t.identity, t.distinctSpecs.count spec = 1) ∧
    (∀ spec ∈ t.distinctSpecs, ∃ h, t.Serves h ∧ spec ∈ h.specs t.identity ∧
      (∀ other, t.Serves other → spec ∈ other.specs t.identity → other = h) ∧
      t.lookupMethod spec.method = some h ∧ Request.kind? spec.method = some spec.kind) ∧
    ∀ r : Request, r.method ∉ t.distinctSpecs.map (·.method) →
      dispatch lib r t = .done (.error (.unknownMethod r.method), t) := by
  have consistent := runs.consistent orderly built
  have all := consistent.distinctSpecs_eq
  refine ⟨all, ?once, ?found, ?unknown⟩
  case once =>
    intro h serves spec own
    rw [all]
    exact List.count_eq_one_of_mem consistent.nodup_allSpecs
      (List.mem_flatMap.2 ⟨h, consistent.mem_handlers.2 serves, own⟩)
  case found =>
    intro spec listed
    obtain ⟨h, member, own⟩ := List.mem_flatMap.1 (all ▸ listed)
    have leads := consistent.lookupMethod_eq member own
    refine ⟨h, consistent.mem_handlers.1 member, own, fun other serves shared => ?_, leads,
      h.kind?_of_mem_specs own⟩
    have also := consistent.lookupMethod_eq (consistent.mem_handlers.2 serves) shared
    exact Option.some.inj (also.symm.trans leads)
  case unknown =>
    intro r unlisted
    exact dispatch_of_lookup_eq_none (consistent.lookupMethod_eq_none unlisted)

open Notebook in
theorem methods_of_opening :
    ∃ t, config.build .null ⟨none, false⟩ ⟨⟨0⟩, 1, ⟨0⟩⟩ = .ok start ∧ library.Orderly ∧
      Runs library start t ∧ t.Serves turn ∧
      (∀ spec ∈ turn.specs t.identity, t.distinctSpecs.count spec = 1) ∧
      dispatch library ⟨"function:turn", [], true⟩ t =
        .done (.error (.unknownMethod "function:turn"), t) := by
  have runs : Runs library start opened :=
    .change (.start start) (.of_operation start (.enable ["pages"]))
  have serves : opened.Serves turn := .inr ⟨"pages", by decide, by
    have handlers : opened.catalog.handlersOf "pages" = [turn] := rfl
    simp [handlers]⟩
  obtain ⟨-, once, -, unknown⟩ := methods_of_runs library_orderly build_eq runs
  have unlisted : "function:turn" ∉ opened.distinctSpecs.map (·.method) := by decide +kernel
  exact ⟨_, build_eq, library_orderly, runs, serves, once turn serves, unknown _ unlisted⟩

end PluginHost
