import PluginHost.Proofs.Plugin.Catalog
import Mathlib.Data.List.Nodup

/-!
Activation of components and the table of handlers that comes of it.
-/

set_option autoImplicit false

namespace PluginHost

variable {S : Schema}

namespace Catalog

structure Activation (c : Catalog S) (active names result added : List String) : Prop where
  appended : result = active ++ added
  nodup : active.Nodup → result.Nodup
  known : ∀ name ∈ added, c.contains name = true
  covered : ∀ name ∈ names, name ∈ result

theorem activate_spec {c : Catalog S} {active names result added : List String}
    (activated : c.activate active names = .ok (result, added)) :
    c.Activation active names result added := by
  induction names generalizing active result added with
  | nil =>
    cases activated
    exact ⟨by simp, id, by simp, by simp⟩
  | cons name rest ih =>
    unfold activate at activated
    split at activated
    · cases activated
    · next contained =>
      have known : c.contains name = true := by simpa using contained
      split at activated
      · next present =>
        have here : name ∈ active := by simpa using present
        obtain ⟨appended, nodup, added_known, covered⟩ := ih activated
        refine ⟨appended, nodup, added_known, ?_⟩
        rintro other (_ | ⟨_, later⟩)
        · exact appended ▸ List.mem_append_left _ here
        · exact covered other later
      · next absent =>
        have fresh : name ∉ active := by simpa using absent
        obtain ⟨found, more, result_eq⟩ := exists_of_bind_eq_ok activated
        cases result_eq
        obtain ⟨appended, nodup, added_known, covered⟩ := ih more
        refine ⟨by simpa using appended, fun distinct => nodup ?_, ?_, ?_⟩
        · exact List.concat_eq_append ▸ distinct.concat fresh
        · rintro other (_ | ⟨_, later⟩)
          · exact known
          · exact added_known other later
        · rintro other (_ | ⟨_, later⟩)
          · exact appended ▸ by simp
          · exact covered other later

end Catalog

namespace PluginState

/-- No two triggers share a method, nor a kind and name. -/
structure Distinct (specs : List TriggerSpec) : Prop where
  methods : (specs.map (·.method)).Nodup
  names : (specs.map fun spec => (spec.kind, spec.name)).Nodup

theorem checkDistinct_spec {methods : List String} {names : List (TriggerKind × String)}
    {specs : List TriggerSpec} (checked : checkDistinct methods names specs = .ok ()) :
    Distinct specs ∧ (∀ spec ∈ specs, spec.method ∉ methods) ∧
      ∀ spec ∈ specs, (spec.kind, spec.name) ∉ names := by
  induction specs generalizing methods names with
  | nil => exact ⟨⟨by simp, by simp⟩, by simp, by simp⟩
  | cons spec rest ih =>
    unfold checkDistinct at checked
    split at checked
    · cases checked
    · next method_free =>
      split at checked
      · cases checked
      · next name_free =>
        obtain ⟨distinct, no_method, no_name⟩ := ih checked
        have new_method : spec.method ∉ rest.map (·.method) := by
          intro again
          obtain ⟨other, member, same⟩ := List.mem_map.1 again
          exact no_method other member (by simp [same])
        have new_name : (spec.kind, spec.name) ∉ rest.map fun s => (s.kind, s.name) := by
          intro again
          obtain ⟨other, member, same⟩ := List.mem_map.1 again
          exact no_name other member (List.mem_cons.2 (.inl same))
        refine ⟨⟨?_, ?_⟩, ?_, ?_⟩
        · exact List.nodup_cons.2 ⟨new_method, distinct.methods⟩
        · exact List.nodup_cons.2 ⟨new_name, distinct.names⟩
        · rintro other (_ | ⟨_, later⟩)
          · simpa using method_free
          · exact fun old => no_method other later (List.mem_cons_of_mem _ old)
        · rintro other (_ | ⟨_, later⟩)
          · simpa using name_free
          · exact fun old => no_name other later (List.mem_cons_of_mem _ old)

theorem handlersOf_of_mapM {c : Catalog S} {names : List String} {found : List (List (Handler S))}
    (mapped : names.mapM (componentHandlers c) = .ok found) :
    found.flatten = names.flatMap c.handlersOf := by
  induction names generalizing found with
  | nil =>
    cases mapped
    rfl
  | cons name rest ih =>
    rw [List.mapM_cons] at mapped
    obtain ⟨handlers, first, others⟩ := exists_of_bind_eq_ok mapped
    obtain ⟨more, later, found_eq⟩ := exists_of_bind_eq_ok others
    cases found_eq
    have here : handlers = c.handlersOf name := by
      cases component : c.get? name <;>
        simp only [componentHandlers, component] at first <;> cases first
      simp [Catalog.handlersOf, component]
    simp [here, ih later]

theorem aggregate_spec {s : PluginState S} {names : List String} {handlers : List (Handler S)}
    (aggregated : s.aggregate names = .ok handlers) :
    handlers = s.own ++ names.flatMap s.catalog.handlersOf ∧
      Distinct (allSpecs handlers s.identity) := by
  obtain ⟨more, mapped, rest⟩ := exists_of_bind_eq_ok aggregated
  obtain ⟨_, checked, handlers_eq⟩ := exists_of_bind_eq_ok rest
  cases handlers_eq
  exact ⟨by rw [handlersOf_of_mapM mapped], (checkDistinct_spec checked).1⟩

end PluginState

end PluginHost
