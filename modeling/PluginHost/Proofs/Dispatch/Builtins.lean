import PluginHost.Proofs.Dispatch.Logging
import PluginHost.Proofs.Keys.Callbacks
import PluginHost.Proofs.Plugin.Patches

/-!
Requests for the plugin's own programs. Their functions are there whatever components are active.
-/

set_option autoImplicit false

namespace PluginHost

variable {S : Schema}

namespace Builtin

/-- The method of the function that runs the program. -/
def method (b : Builtin) : String := b.options.method b.name .function

theorem mem_all (b : Builtin) : b ∈ all := by
  cases b <;> decide

theorem mem_methods (b : Builtin) : TriggerMethod.function true ∈ b.options.methods := by
  cases b <;> decide

end Builtin

/-- What the editor gives the function. -/
def Request.given (r : Request) : List Json := unpack (some .function) r.args

/-- What requests for the plugin's own programs rely on. -/
structure PluginState.Ready (s : PluginState S) : Prop where
  consistent : s.Consistent
  registered : s.catalog.get? internalName = some internalComponent

namespace PluginState.Ready

open Builtin

variable {lib : Library S} {s : PluginState S} {r : Request} {b : Builtin}

theorem lookupMethod_builtin (ready : s.Ready) (b : Builtin) :
    s.lookupMethod b.method = some b.handler := by
  have member := ready.consistent.mem_handlers_of_builtin ready.registered b b.mem_all
  have own : (b.options.spec b.name (b.program (S := S)).arity s.identity (.function true)) ∈
      (b.handler (S := S)).specs s.identity :=
    List.mem_map_of_mem b.mem_methods
  exact ready.consistent.lookupMethod_eq member own

theorem arguments_builtin (asks : r.method = b.method) (plain : b.options.json = false) :
    r.arguments (b.handler (S := S)).options.json = .ok r.given := by
  have function : Request.kind? r.method = some .function := by
    rw [asks]
    exact b.options.kind?_method b.name .function
  simp only [Request.arguments, Builtin.handler, plain, function]
  rfl

theorem binds_builtin (ready : s.Ready) (asks : r.method = b.method)
    (plain : b.options.json = false) {a : (b.definition lib).Args}
    (takes : Takes lib b r.given a) : r.Binds lib s b.handler ((b.definition lib).body a) := by
  have found : s.lookupMethod r.method = some b.handler :=
    asks ▸ ready.lookupMethod_builtin b
  have inside : (b.handler (S := S)).program.arity.Within r.given.length := by
    rw [Builtin.handler, arity_program lib]
    exact takes.1
  exact .decoded (d := b.definition lib) found (arguments_builtin asks plain) inside rfl
    (Signature.decode_eq_ok.2 takes.2)

theorem refused_builtin (ready : s.Ready) (lib : Library S) (asks : r.method = b.method)
    (plain : b.options.json = false)
    (refuses : ∀ a, ¬ Takes lib b r.given a) : ∃ e, r.Refused lib s e := by
  have found : s.lookupMethod r.method = some b.handler :=
    asks ▸ ready.lookupMethod_builtin b
  have read := arguments_builtin (S := S) asks plain
  by_cases inside : (b.handler (S := S)).program.arity.Within r.given.length
  next =>
    cases decoded : (b.definition lib).signature.decode r.given with
    | error e =>
      obtain ⟨message, rfl⟩ := Signature.exists_decode_of_decode decoded
      exact ⟨_, .argument (d := b.definition lib) found read inside rfl decoded⟩
    | ok a =>
      rw [Builtin.handler, arity_program lib] at inside
      exact absurd ⟨inside, Signature.decode_eq_ok.1 decoded⟩ (refuses a)
  next => exact ⟨_, .count found read inside⟩

end PluginState.Ready

theorem Runs.ready {lib : Library S} (orderly : lib.Orderly) {config : PluginConfig S}
    {data : S.Data} {settings : Settings} {limits : Limits} {s t : PluginState S}
    (built : config.build data settings limits = .ok s) (runs : Runs lib s t) :
    t.Ready := by
  obtain ⟨first, catalog, -, -⟩ := config.build_consistent built
  have kept := (runs.reaches orderly).kept first
  exact ⟨kept.consistent, kept.grown.catalog ▸ config.get?_internal catalog⟩

end PluginHost
