import PluginHost.Proofs.Plugin.Reachable

/-!
The triggers of a consistent plugin: none is dropped from the list, each leads to the program it
comes from, and activation adds new ones behind the old.
-/

set_option autoImplicit false

namespace PluginHost

variable {S : Schema}

theorem Handler.map_method_specs (h : Handler S) (plugin : Identity) :
    (h.specs plugin).map (·.method) = h.methods := by
  simp [Handler.specs, Handler.methods, Handler.method, TriggerOptions.spec]

namespace PluginState

theorem firstOfName_eq_self {seen : List (TriggerKind × String)} {specs : List TriggerSpec}
    (names : (specs.map fun spec => (spec.kind, spec.name)).Nodup)
    (fresh : ∀ spec ∈ specs, (spec.kind, spec.name) ∉ seen) : firstOfName seen specs = specs := by
  induction specs generalizing seen with
  | nil => rfl
  | cons spec rest ih =>
    obtain ⟨new, names⟩ := List.nodup_cons.1 names
    have unseen : seen.contains (spec.kind, spec.name) = false := by
      simpa using fresh spec List.mem_cons_self
    simp only [firstOfName, unseen, Bool.false_eq_true, if_false, List.cons.injEq, true_and]
    refine ih names fun other later seen_before => ?_
    rcases List.mem_cons.1 seen_before with same | old
    · exact new (List.mem_map.2 ⟨other, later, same⟩)
    · exact fresh other (List.mem_cons_of_mem _ later) old

theorem find?_of_nodup_methods {handlers : List (Handler S)} {plugin : Identity} {h : Handler S}
    {method : String} (nodup : ((allSpecs handlers plugin).map (·.method)).Nodup)
    (member : h ∈ handlers) (own : method ∈ h.methods) :
    handlers.find? (fun h => h.methods.contains method) = some h := by
  induction handlers with
  | nil => cases member
  | cons first rest ih =>
    simp only [allSpecs, List.flatMap_cons, List.map_append, Handler.map_method_specs] at nodup
    obtain ⟨-, rest_nodup, apart⟩ := List.nodup_append.1 nodup
    rcases List.mem_cons.1 member with rfl | later
    · simp [own]
    · have method_later : method ∈ (allSpecs rest plugin).map (·.method) := by
        obtain ⟨spec, has_spec, rfl⟩ := List.mem_map.1 (h.map_method_specs plugin ▸ own)
        exact List.mem_map_of_mem (List.mem_flatMap.2 ⟨h, later, has_spec⟩)
      have not_first : method ∉ first.methods := fun here => apart _ here _ method_later rfl
      simpa [not_first] using ih rest_nodup later

theorem triggers_of_enable {s t : PluginState S} {names added : List String}
    (enabled : s.enable names = .ok (added, t)) :
    t.triggers = s.triggers ∧ t.identity = s.identity := by
  obtain ⟨_, -, rest⟩ := exists_of_bind_eq_ok enabled
  obtain ⟨_, -, result_eq⟩ := exists_of_bind_eq_ok rest
  cases result_eq
  exact ⟨rfl, rfl⟩

namespace Consistent

variable {s t : PluginState S}

theorem distinctSpecs_eq (consistent : s.Consistent) :
    s.distinctSpecs = allSpecs s.handlers s.identity :=
  firstOfName_eq_self consistent.distinct.names (by simp)

theorem distinctSpecs_prefix (first : s.Consistent) (second : t.Consistent) (more : Extends s t) :
    s.distinctSpecs <+: t.distinctSpecs := by
  obtain ⟨added, components⟩ := more.components
  rw [first.distinctSpecs_eq, second.distinctSpecs_eq, first.handlers, second.handlers,
    more.catalog, more.identity, more.own, ← components]
  simp only [allSpecs, List.flatMap_append, ← List.append_assoc]
  exact List.prefix_append _ _

theorem lookupMethod_eq (consistent : s.Consistent) {h : Handler S} (member : h ∈ s.handlers)
    {spec : TriggerSpec} (own : spec ∈ h.specs s.identity) :
    s.lookupMethod spec.method = some h :=
  find?_of_nodup_methods consistent.distinct.methods member
    (h.map_method_specs s.identity ▸ List.mem_map_of_mem own)

end Consistent

end PluginState

end PluginHost
