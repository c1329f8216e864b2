import PluginHost.Proofs.Plugin.Discipline
import PluginHost.Proofs.Plugin.Reachable

/-!
Programs whose steps change the state by its operations and by views only, and why every program
and request of such a plugin does no more.
-/

set_option autoImplicit false

namespace PluginHost

variable {S : Schema} {α β : Type}

namespace Prog

inductive Orderly : {α : Type} → Prog (PluginState S) α → Prop where
  | pure {α : Type} (a : α) : Orderly (.pure a)
  | failed {α : Type} (e : PluginError) : Orderly (.failed e : Prog (PluginState S) α)
  | panic {α : Type} (m : String) : Orderly (.panic m : Prog (PluginState S) α)
  | bind {α β : Type} {inner : Prog (PluginState S) β} {next : β → Prog (PluginState S) α}
      (first : Orderly inner) (later : ∀ b, Orderly (next b)) : Orderly (.bind inner next)
  | exec {α β : Type} {name : String} {view : Option String}
      {step : PluginState S → Script (Outcome PluginError β × PluginState S)}
      {output : β → PluginState S → Prog (PluginState S) α}
      (changes : ∀ s r t, (step s).Returns (r, t) → Reaches s t)
      (later : ∀ b s, Orderly (output b s)) : Orderly (.exec name view step output)

/-- Any change by operations and views, whatever is asked. -/
def reaching : Allowance S := fun s _ t => Reaches s t

theorem reaching_closed : (reaching (S := S)).Closed where
  idle s _ := .refl s
  trans first later := Reaches.trans first later
  operation op _ s := .of_operation s op
  activation {s _ mapping program} _ id := .of_operation s (.bindMapping id mapping program)
  project shape s := .project (.refl s) shape
  writeBack {shape s _ _} w _ projected kept := .writeBack (.refl s) shape w projected kept

theorem orderly_iff_obeys {x : Prog (PluginState S) α} : x.Orderly ↔ x.Obeys reaching := by
  constructor
  · intro orderly
    induction orderly with
    | pure a => exact .pure a
    | failed e => exact .failed e
    | panic m => exact .panic m
    | bind _ _ ihInner ihNext => exact .bind ihInner ihNext
    | exec changes _ ih =>
      exact .exec (fun s asked r t ran => changes s r t (Script.returns_iff_asks.2 ⟨asked, ran⟩)) ih
  · intro obeys
    induction obeys with
    | pure a => exact .pure a
    | failed e => exact .failed e
    | panic m => exact .panic m
    | bind _ _ ihInner ihNext => exact .bind ihInner ihNext
    | exec changes _ ih =>
      refine .exec (fun s r t returned => ?_) ih
      obtain ⟨asked, ran⟩ := Script.returns_iff_asks.1 returned
      exact changes s asked r t ran

theorem Orderly.run_reaches {x : Prog (PluginState S) α} (orderly : x.Orderly)
    {s t : PluginState S} {r : Outcome PluginError α} (returned : (x.run s).Returns (r, t)) :
    Reaches s t := by
  obtain ⟨_, ran⟩ := Script.returns_iff_asks.1 returned
  exact (orderly_iff_obeys.1 orderly).asks_run reaching_closed.steady ran

-- On a view without the whole state, any code is orderly.
theorem Orderly.on {name : String} (shape : Shape S.Kind) {code : Stateful (shape.Carrier S) α}
    {output : α → PluginState S → Prog (PluginState S) β}
    (kept : ∀ v w a, (code.run v).evaluate.Returns (.value (w, a)) →
      ∀ m m', shape.whole? v = some m → shape.whole? w = some m' → Reaches m m')
    (later : ∀ a s, (output a s).Orderly) : (Prog.on name shape.view code output).Orderly := by
  refine orderly_iff_obeys.2 (.on reaching_closed.steady shape (fun v asked w a ran => ?_) fun a s => ?_)
  · exact kept v w a (Script.returns_iff_asks.2 ⟨asked, ran⟩)
  · exact orderly_iff_obeys.1 (later a s)

end Prog

/-- The author's programs change the state by its operations and by views only. -/
def Library.Orderly (lib : Library S) : Prop :=
  ∀ code args prog, lib.code code args = .ok prog → prog.Orderly

theorem Library.Orderly.obeys {lib : Library S} (orderly : lib.Orderly) :
    lib.Obeys Prog.reaching :=
  fun code args prog found => Prog.orderly_iff_obeys.1 (orderly code args prog found)

theorem dispatch_reaches {lib : Library S} (orderly : lib.Orderly) {r : Request}
    {s t : PluginState S} {result : Except PluginError Json}
    (returned : (dispatch lib r s).Returns (result, t)) : Reaches s t := by
  obtain ⟨asked, ran⟩ := Script.returns_iff_asks.1 returned
  obtain ⟨⟨outcome, u⟩, executed, result_eq⟩ := Script.asks_map.1 ran
  cases result_eq
  exact asks_execute Prog.reaching_closed orderly.obeys executed

end PluginHost
