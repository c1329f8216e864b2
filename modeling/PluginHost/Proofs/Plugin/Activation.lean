import PluginHost.Proofs.Plugin.Orderly
import Mathlib.Data.List.Flatten

/-!
Activation of components, in one call or in several. What can be active together is a matter of the
components alone, so a list may be cut anywhere and its first part given to the configuration.
-/

set_option autoImplicit false

namespace PluginHost

variable {S : Schema}

namespace Catalog

/-- The names that are not active yet, each where it is named first. -/
def fresh : (active names : List String) → List String
  | _, [] => []
  | active, name :: rest =>
    if name ∈ active then fresh active rest else name :: fresh (active ++ [name]) rest

theorem activate_of_known {c : Catalog S} {active names : List String}
    (known : ∀ name ∈ names, c.contains name = true) :
    c.activate active names = .ok (active ++ fresh active names, fresh active names) := by
  induction names generalizing active with
  | nil => simp [activate, fresh]
  | cons name rest ih =>
    have later (active : List String) := @ih active fun other member =>
      known other (List.mem_cons_of_mem _ member)
    have here := known name List.mem_cons_self
    by_cases running : name ∈ active
    · simp [activate, fresh, here, running, later]
    · simp only [activate, fresh, here, running, later, List.contains_eq_mem, decide_false,
        Bool.not_true, Bool.false_eq_true, if_false, List.append_assoc, List.singleton_append]
      rfl

theorem known_of_activate {c : Catalog S} {active names : List String}
    {result : List String × List String} (activated : c.activate active names = .ok result) :
    ∀ name ∈ names, c.contains name = true := by
  induction names generalizing active result with
  | nil => simp
  | cons name rest ih =>
    unfold activate at activated
    split at activated
    · cases activated
    · next here =>
      have later : ∀ other ∈ rest, c.contains other = true := by
        split at activated
        · exact ih activated
        · obtain ⟨_, more, -⟩ := exists_of_bind_eq_ok activated
          exact ih more
      simpa using ⟨by simpa using here, later⟩

theorem activate_eq_ok {c : Catalog S} {active names : List String}
    {result : List String × List String} :
    c.activate active names = .ok result ↔ (∀ name ∈ names, c.contains name = true) ∧
      result = (active ++ fresh active names, fresh active names) := by
  constructor
  · intro activated
    have known := known_of_activate activated
    rw [activate_of_known known] at activated
    exact ⟨known, (Except.ok.inj activated).symm⟩
  · rintro ⟨known, rfl⟩
    exact activate_of_known known

theorem mem_fresh {active names : List String} {name : String} :
    name ∈ fresh active names ↔ name ∈ names ∧ name ∉ active := by
  induction names generalizing active with
  | nil => simp [fresh]
  | cons first rest ih =>
    unfold fresh
    by_cases same : name = first
    · subst same
      split <;> simp_all
    · split <;> simp [ih, same]

theorem nodup_fresh (active names : List String) : (fresh active names).Nodup := by
  induction names generalizing active with
  | nil => simp [fresh]
  | cons first rest ih =>
    unfold fresh
    split
    · exact ih active
    · simp [mem_fresh, ih]

theorem fresh_append (active xs ys : List String) :
    fresh active (xs ++ ys) = fresh active xs ++ fresh (active ++ fresh active xs) ys := by
  induction xs generalizing active with
  | nil => simp [fresh]
  | cons name rest ih => by_cases here : name ∈ active <;> simp [fresh, here, ih]

theorem fresh_eq_nil {active names : List String} (all : ∀ name ∈ names, name ∈ active) :
    fresh active names = [] := by
  refine List.eq_nil_iff_forall_not_mem.2 fun name new => ?_
  obtain ⟨named, absent⟩ := mem_fresh.1 new
  exact absent (all name named)

end Catalog

open Catalog (fresh)

namespace PluginState

theorem checkDistinct_eq_ok {methods : List String} {names : List (TriggerKind × String)}
    {specs : List TriggerSpec} :
    checkDistinct methods names specs = .ok () ↔ Distinct specs ∧
      (∀ spec ∈ specs, spec.method ∉ methods) ∧ ∀ spec ∈ specs, (spec.kind, spec.name) ∉ names := by
  refine ⟨checkDistinct_spec, ?_⟩
  -- By induction with what has been seen so far, from which the rest has to keep apart as well.
  induction specs generalizing methods names with
  | nil => exact fun _ => rfl
  | cons spec rest ih =>
    rintro ⟨⟨methods_apart, names_apart⟩, no_method, no_name⟩
    obtain ⟨new_method, methods_apart⟩ := List.nodup_cons.1 methods_apart
    obtain ⟨new_name, names_apart⟩ := List.nodup_cons.1 names_apart
    have free_method := no_method spec List.mem_cons_self
    have free_name := no_name spec List.mem_cons_self
    simp only [checkDistinct, List.contains_eq_mem, free_method, free_name, decide_false,
      Bool.false_eq_true, if_false]
    refine ih ⟨⟨methods_apart, names_apart⟩, fun other later old => ?_, fun other later old => ?_⟩
    · rcases List.mem_cons.1 old with same | older
      · exact new_method (List.mem_map.2 ⟨other, later, same⟩)
      · exact no_method other (List.mem_cons_of_mem _ later) older
    · rcases List.mem_cons.1 old with same | older
      · exact new_name (List.mem_map.2 ⟨other, later, same⟩)
      · exact no_name other (List.mem_cons_of_mem _ later) older

/-- The handlers of the configuration and of these components. -/
def table (s : PluginState S) (components : List String) : List (Handler S) :=
  s.own ++ components.flatMap s.catalog.handlersOf

/-- Components that can all be active at once. -/
structure Admits (s : PluginState S) (components : List String) : Prop where
  found : ∀ name ∈ components, (s.catalog.get? name).isSome = true
  distinct : Distinct (allSpecs (s.table components) s.identity)

theorem exists_mapM_componentHandlers {c : Catalog S} {names : List String}
    (found : ∀ name ∈ names, (c.get? name).isSome = true) :
    ∃ handlers, names.mapM (componentHandlers c) = .ok handlers := by
  induction names with
  | nil => exact ⟨[], rfl⟩
  | cons name rest ih =>
    obtain ⟨component, here⟩ := Option.isSome_iff_exists.1 (found name List.mem_cons_self)
    obtain ⟨handlers, later⟩ := ih fun other member => found other (List.mem_cons_of_mem _ member)
    refine ⟨component.handlers :: handlers, ?_⟩
    rw [List.mapM_cons, later]
    simp only [componentHandlers, here]
    rfl

theorem found_of_mapM {c : Catalog S} {names : List String} {handlers : List (List (Handler S))}
    (mapped : names.mapM (componentHandlers c) = .ok handlers) :
    ∀ name ∈ names, (c.get? name).isSome = true := by
  induction names generalizing handlers with
  | nil => simp
  | cons name rest ih =>
    rw [List.mapM_cons] at mapped
    obtain ⟨first, here, others⟩ := exists_of_bind_eq_ok mapped
    obtain ⟨more, later, -⟩ := exists_of_bind_eq_ok others
    rintro other (_ | ⟨_, member⟩)
    · cases component : c.get? name with
      | none => simp [componentHandlers, component] at here
      | some => rfl
    · exact ih later other member

theorem aggregate_eq_ok {s : PluginState S} {components : List String}
    {handlers : List (Handler S)} :
    s.aggregate components = .ok handlers ↔
      s.Admits components ∧ handlers = s.table components := by
  constructor
  · intro aggregated
    obtain ⟨table, distinct⟩ := aggregate_spec aggregated
    obtain ⟨_, mapped, -⟩ := exists_of_bind_eq_ok aggregated
    subst table
    exact ⟨⟨found_of_mapM mapped, distinct⟩, rfl⟩
  · rintro ⟨⟨found, distinct⟩, rfl⟩
    obtain ⟨more, mapped⟩ := exists_mapM_componentHandlers found
    have table : s.own ++ more.flatten = s.table components := by
      rw [handlersOf_of_mapM mapped, PluginState.table]
    have checked := checkDistinct_eq_ok.2
      ⟨distinct, fun _ _ => List.not_mem_nil, fun _ _ => List.not_mem_nil⟩
    unfold aggregate
    rw [mapped]
    change (checkDistinct [] [] (allSpecs (s.own ++ more.flatten) s.identity)).bind _ = _
    rw [table, checked]
    rfl

/-- The state in which exactly these components are active. -/
def activating (s : PluginState S) (components : List String) : PluginState S :=
  { s with components, handlers := s.table components }

theorem enable_eq_ok {s t : PluginState S} {names added : List String} :
    s.enable names = .ok (added, t) ↔ (∀ name ∈ names, s.catalog.contains name = true) ∧
      s.Admits (s.components ++ added) ∧ added = fresh s.components names ∧
      t = s.activating (s.components ++ added) := by
  constructor
  · intro enabled
    obtain ⟨⟨components, _⟩, activated, rest⟩ := exists_of_bind_eq_ok enabled
    obtain ⟨handlers, aggregated, result_eq⟩ := exists_of_bind_eq_ok rest
    cases result_eq
    obtain ⟨known, found⟩ := Catalog.activate_eq_ok.1 activated
    cases found
    obtain ⟨admits, rfl⟩ := aggregate_eq_ok.1 aggregated
    exact ⟨known, admits, rfl, rfl⟩
  · rintro ⟨known, admits, rfl, rfl⟩
    have aggregated := aggregate_eq_ok.2 ⟨admits, rfl⟩
    unfold enable
    rw [Catalog.activate_of_known known]
    change (s.aggregate _).bind _ = _
    rw [aggregated]
    rfl

theorem Admits.of_sublist {s : PluginState S} {fewer components : List String}
    (admits : s.Admits components) (sublist : fewer.Sublist components) : s.Admits fewer where
  found name member := admits.found name (sublist.subset member)
  distinct := by
    have handlers : (s.table fewer).Sublist (s.table components) :=
      (List.Sublist.refl s.own).append (sublist.flatMap _)
    have specs : (allSpecs (s.table fewer) s.identity).Sublist
        (allSpecs (s.table components) s.identity) := handlers.flatMap _
    exact ⟨admits.distinct.methods.sublist (specs.map _),
      admits.distinct.names.sublist (specs.map _)⟩

theorem enable_append {s u : PluginState S} {xs ys added : List String} :
    s.enable (xs ++ ys) = .ok (added, u) ↔ ∃ first t later,
      s.enable xs = .ok (first, t) ∧ t.enable ys = .ok (later, u) ∧ added = first ++ later := by
  constructor
  · intro enabled
    obtain ⟨known, admits, rfl, rfl⟩ := enable_eq_ok.1 enabled
    rw [Catalog.fresh_append, ← List.append_assoc] at admits ⊢
    have known_first name (member : name ∈ xs) := known name (List.mem_append_left _ member)
    have known_later name (member : name ∈ ys) := known name (List.mem_append_right _ member)
    have admits_first := admits.of_sublist (List.sublist_append_left _ _)
    exact ⟨_, _, _, enable_eq_ok.2 ⟨known_first, admits_first, rfl, rfl⟩,
      enable_eq_ok.2 ⟨known_later, ⟨admits.found, admits.distinct⟩, rfl, rfl⟩, rfl⟩
  · rintro ⟨_, _, _, first, later, rfl⟩
    -- The whole list adds what its parts add in turn, so that it asks for the same components.
    obtain ⟨known_first, -, rfl, rfl⟩ := enable_eq_ok.1 first
    obtain ⟨known_later, admits, rfl, rfl⟩ := enable_eq_ok.1 later
    have known : ∀ name ∈ xs ++ ys, s.catalog.contains name = true := fun name member =>
      (List.mem_append.1 member).elim (known_first name) (known_later name)
    have added := Catalog.fresh_append s.components xs ys
    refine enable_eq_ok.2 ⟨known, ?_, added.symm, ?_⟩
    · rw [← List.append_assoc]
      exact ⟨admits.found, admits.distinct⟩
    · rw [← List.append_assoc]
      rfl

theorem enable_again {s t : PluginState S} {names added : List String}
    (enabled : s.enable names = .ok (added, t)) : t.enable names = .ok ([], t) := by
  obtain ⟨known, admits, rfl, rfl⟩ := enable_eq_ok.1 enabled
  have all_active : ∀ name ∈ names, name ∈ s.components ++ fresh s.components names := by
    intro name member
    by_cases here : name ∈ s.components
    · exact List.mem_append_left _ here
    · exact List.mem_append_right _ (Catalog.mem_fresh.2 ⟨member, here⟩)
  have nothing := Catalog.fresh_eq_nil all_active
  refine enable_eq_ok.2 ⟨known, ?_, nothing.symm, ?_⟩
  · rw [List.append_nil]
    exact ⟨admits.found, admits.distinct⟩
  · rw [List.append_nil]
    rfl

theorem enable_eq_error {s : PluginState S} {names : List String} :
    (∃ e, s.enable names = .error e) ↔ (∃ name ∈ names, s.catalog.contains name = false) ∨
      ¬ s.Admits (s.components ++ fresh s.components names) := by
  constructor
  · rintro ⟨e, failed⟩
    by_contra possible
    simp only [not_or, not_exists, not_and, Bool.not_eq_false, not_not] at possible
    have enabled := enable_eq_ok.2 ⟨possible.1, possible.2, rfl, rfl⟩
    rw [failed] at enabled
    cases enabled
  · intro impossible
    cases result : s.enable names with
    | error e => exact ⟨e, rfl⟩
    | ok found =>
      obtain ⟨known, admits, added, -⟩ := enable_eq_ok.1 result
      rcases impossible with ⟨name, member, unknown⟩ | refused
      · simp [known name member] at unknown
      · exact absurd (added ▸ admits) refused

/-- The program that enables components ends at once, with the state it found, if it has to. -/
theorem run_enableComponents_of_error {lib : Library S} {s : PluginState S} {names : List String}
    {e : PluginError} (failed : s.enable names = .error e) :
    ((Builtin.enableComponents.definition lib).body names).run s = .done (.error e, s) := by
  have step : Builtin.enableStep names s = (.error e, s) := by
    simp [Builtin.enableStep, failed]
  rw [Prog.run_eq_meaning]
  simp [Builtin.definition, Prog.map, Prog.access, Prog.meaning, Step.onState, step, Script.map,
    Script.bind, Outcome.ofExcept]

/-- The state with another record of what was to be activated. -/
def relabelled (s : PluginState S) (chosen : List String) (settings : Settings) : PluginState S :=
  { s with identity := { s.identity with chosen }, settings }

theorem enable_relabelled (s : PluginState S) (chosen : List String) (settings : Settings)
    (names : List String) : (s.relabelled chosen settings).enable names =
      (s.enable names).map fun (added, t) => (added, t.relabelled chosen settings) := by
  have aggregated (components : List String) :
      (s.relabelled chosen settings).aggregate components = s.aggregate components := rfl
  simp only [enable, aggregated]
  change (s.catalog.activate s.components names).bind _ = _
  cases s.catalog.activate s.components names with
  | error e => rfl
  | ok found =>
    change (s.aggregate found.1).bind _ = ((s.aggregate found.1).bind _).map _
    cases s.aggregate found.1 <;> rfl

end PluginState

namespace PluginConfig

def choosing (c : PluginConfig S) (chosen : List String) : PluginConfig S :=
  { c with identity := { c.identity with chosen } }

/-- The plugin before any component is active. -/
def inactive (c : PluginConfig S) (catalog : Catalog S) (data : S.Data) (settings : Settings)
    (limits : Limits) : PluginState S where
  identity := c.identity.withInternal
  catalog
  own := c.own
  init := c.init
  data
  components := []
  store := []
  handlers := []
  triggers := []
  active := []
  log := []
  settings
  logFilter := none
  logger := c.logger
  executor := c.executor
  interpreter := match c.interpreter with
    | some code => .custom code
    | none => .pool limits.threads limits.gatherTimeout

theorem build_eq (c : PluginConfig S) (data : S.Data) (settings : Settings) (limits : Limits) :
    c.build data settings limits = (do
      let catalog ← c.catalog
      c.validate catalog
      let (_, t) ← (c.inactive catalog data settings limits).enable
        (c.identity.withInternal.core ++ settings.components.getD c.identity.withInternal.chosen)
      return t) := by
  simp only [build, PluginState.enable, bind_assoc, pure_bind]
  rfl

/-- A plugin starts as if its components had been enabled all at once, whoever has chosen them. -/
theorem build_choosing (c : PluginConfig S) (chosen : List String) (data : S.Data)
    (settings : Settings) (limits : Limits) :
    (c.choosing chosen).build data settings limits = (do
      let catalog ← c.catalog
      c.validate catalog
      let (_, t) ← (c.inactive catalog data ⟨none, false⟩ limits).enable
        (c.identity.withInternal.core ++ settings.components.getD chosen)
      return t.relabelled chosen settings) := by
  have identity : (c.choosing chosen).identity.withInternal =
      { c.identity.withInternal with chosen } := by
    by_cases named : internalName ∈ c.identity.core <;>
      simp [choosing, Identity.withInternal, named]
  have inactive (catalog : Catalog S) : (c.choosing chosen).inactive catalog data settings limits =
      (c.inactive catalog data ⟨none, false⟩ limits).relabelled chosen settings := by
    simp only [PluginConfig.inactive, identity, PluginState.relabelled]
    rfl
  rw [build_eq]
  simp only [identity, inactive, PluginState.enable_relabelled]
  change c.catalog.bind _ = c.catalog.bind _
  congr 1
  funext catalog
  congr 1
  funext _
  cases (c.inactive catalog data ⟨none, false⟩ limits).enable
    (c.identity.withInternal.core ++ settings.components.getD chosen) <;> rfl

theorem build_choosing_append (c : PluginConfig S) (chosen chosen' : List String)
    (settings settings' : Settings) {xs ys : List String} {data : S.Data} {limits : Limits}
    {u : PluginState S}
    (part : settings.components.getD chosen = xs)
    (all : settings'.components.getD chosen' = xs ++ ys) :
    (c.choosing chosen').build data settings' limits = .ok u ↔ ∃ t later v,
      (c.choosing chosen).build data settings limits = .ok t ∧ t.enable ys = .ok (later, v) ∧
        u = v.relabelled chosen' settings' := by
  -- The core components stand before the chosen ones, so the cut is one of the whole list too.
  simp only [build_choosing, part, all, ← List.append_assoc, bind_eq_ok_iff]
  constructor
  · rintro ⟨catalog, registered, _, valid, ⟨_, w⟩, enabled, result_eq⟩
    cases result_eq
    obtain ⟨first, t, later, begun, rest, -⟩ := PluginState.enable_append.1 enabled
    refine ⟨t.relabelled chosen settings, later, w.relabelled chosen settings,
      ⟨catalog, registered, _, valid, _, begun, rfl⟩, ?_, rfl⟩
    rw [PluginState.enable_relabelled, rest]
    rfl
  · rintro ⟨_, later, v, ⟨catalog, registered, _, valid, ⟨first, t⟩, begun, ⟨⟩⟩, rest, rfl⟩
    rw [PluginState.enable_relabelled] at rest
    cases more : t.enable ys with
    | error e => simp [more, Except.map] at rest
    | ok found =>
      rw [more] at rest
      cases rest
      exact ⟨catalog, registered, _, valid, _,
        PluginState.enable_append.2 ⟨first, t, _, begun, more, rfl⟩, rfl⟩

end PluginConfig

namespace PluginState

/-- Components are enabled all or none, and one list of them comes to the same as its parts in turn,
be the first part the one with which the plugin was built. -/
theorem enabling_in_parts (lib : Library S) (s : PluginState S) (xs ys : List String) :
    ((∀ e, s.enable xs = .error e →
        ((Builtin.enableComponents.definition lib).body xs).run s = .done (.error e, s)) ∧
      ((∃ e, s.enable xs = .error e) ↔ (∃ name ∈ xs, s.catalog.contains name = false) ∨
        ¬ s.Admits (s.components ++ fresh s.components xs))) ∧
    (∀ added u, s.enable (xs ++ ys) = .ok (added, u) ↔ ∃ first t later,
      s.enable xs = .ok (first, t) ∧ t.enable ys = .ok (later, u) ∧ added = first ++ later) ∧
    (∀ added t, s.enable xs = .ok (added, t) → t.enable xs = .ok ([], t)) ∧
    ∀ (c : PluginConfig S) (data : S.Data) (init : Bool) (limits : Limits) (u : PluginState S),
      ((c.choosing (xs ++ ys)).build data ⟨none, init⟩ limits = .ok u ↔ ∃ t later v,
        (c.choosing xs).build data ⟨none, init⟩ limits = .ok t ∧ t.enable ys = .ok (later, v) ∧
        u = v.relabelled (xs ++ ys) ⟨none, init⟩) ∧
      (c.build data ⟨some (xs ++ ys), init⟩ limits = .ok u ↔ ∃ t later v,
        c.build data ⟨some xs, init⟩ limits = .ok t ∧ t.enable ys = .ok (later, v) ∧
        u = v.relabelled c.identity.chosen ⟨some (xs ++ ys), init⟩) ∧
      ∀ chosen settings, (u.relabelled chosen settings).components = u.components ∧
        (u.relabelled chosen settings).handlers = u.handlers ∧
        (u.relabelled chosen settings).distinctSpecs = u.distinctSpecs := by
  refine ⟨⟨fun _ => run_enableComponents_of_error, enable_eq_error⟩, fun _ _ => enable_append,
    fun _ _ => enable_again, fun c data init limits u => ⟨?default, ?editor, ?same⟩⟩
  case default =>
    exact c.build_choosing_append xs (xs ++ ys) ⟨none, init⟩ ⟨none, init⟩ rfl rfl
  case editor =>
    exact c.build_choosing_append c.identity.chosen c.identity.chosen ⟨some xs, init⟩
      ⟨some (xs ++ ys), init⟩ rfl rfl
  case same => exact fun chosen settings => ⟨rfl, rfl, rfl⟩

end PluginState

end PluginHost
