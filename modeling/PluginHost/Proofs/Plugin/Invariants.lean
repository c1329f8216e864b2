import PluginHost.Proofs.Plugin.Hidden
import PluginHost.Proofs.Plugin.WriteBacks

/-!
What programs maintain: a condition on the state that holds when a step begins holds when it ends.
A value may satisfy a condition as well, such as a copy of the state that a program takes along.
-/

set_option autoImplicit false

namespace PluginHost

variable {S : Schema} {α β : Type}

namespace Prog

/-- Steps keep what holds of the state, and the program's values satisfy the last predicate. Of what
a step yields only what it can yield in such a state counts. -/
inductive Maintains (I : PluginState S → Prop) :
    {α : Type} → Prog (PluginState S) α → (α → Prop) → Prop where
  | pure {α : Type} {a : α} {post : α → Prop} (holds : post a) : Maintains I (.pure a) post
  | failed {α : Type} (e : PluginError) (post : α → Prop) : Maintains I (.failed e) post
  | panic {α : Type} (m : String) (post : α → Prop) : Maintains I (.panic m) post
  | bind {α β : Type} {inner : Prog (PluginState S) β} {next : β → Prog (PluginState S) α}
      {between : β → Prop} {post : α → Prop} (first : Maintains I inner between)
      (later : ∀ b, between b → Maintains I (next b) post) : Maintains I (.bind inner next) post
  | exec {α β : Type} {name : String} {view : Option String}
      {step : PluginState S → Script (Outcome PluginError β × PluginState S)}
      {output : β → PluginState S → Prog (PluginState S) α} {post : α → Prop}
      (changes : ∀ s asked r t, I s → (step s).Asks asked (r, t) → I t)
      (later : ∀ s asked b t, I s → (step s).Asks asked (.value b, t) →
        Maintains I (output b t) post) :
      Maintains I (.exec name view step output) post

variable {I : PluginState S → Prop} {post : α → Prop} {s t : PluginState S}
  {asked : List Exchange} {r : Outcome PluginError α}

theorem Maintains.asks_meaning {x : Prog (PluginState S) α} (maintains : x.Maintains I post)
    (holds : I s) (ran : (x.meaning s).Asks asked (r, t)) : I t ∧ ∀ a, r = .value a → post a := by
  induction maintains generalizing s t asked with
  | pure satisfied =>
    obtain ⟨-, ⟨⟩⟩ := Script.asks_done.1 ran
    refine ⟨holds, ?_⟩
    rintro _ ⟨⟩
    exact satisfied
  | failed | panic =>
    obtain ⟨-, ⟨⟩⟩ := Script.asks_done.1 ran
    exact ⟨holds, nofun⟩
  | bind _ _ ihInner ihNext =>
    rw [meaning] at ran
    obtain ⟨_, ⟨outcome, u⟩, _, -, inner, rest⟩ := Script.asks_bind.1 ran
    obtain ⟨kept, values⟩ := ihInner holds inner
    cases outcome with
    | value b => exact ihNext b (values b rfl) kept rest
    | error | panic =>
      obtain ⟨-, ⟨⟩⟩ := Script.asks_done.1 rest
      exact ⟨kept, nofun⟩
  | exec changes _ ih =>
    rw [meaning] at ran
    obtain ⟨_, ⟨outcome, u⟩, _, -, stepped, rest⟩ := Script.asks_bind.1 ran
    have kept := changes _ _ _ _ holds stepped
    cases outcome with
    | value b => exact ih _ _ b u holds stepped kept rest
    | error | panic =>
      obtain ⟨-, ⟨⟩⟩ := Script.asks_done.1 rest
      exact ⟨kept, nofun⟩

theorem Obeys.maintains {R : Allowance S} (carries : ∀ s asked t, I s → R s asked t → I t)
    {x : Prog (PluginState S) α} (obeys : x.Obeys R) : x.Maintains I fun _ => True := by
  induction obeys with
  | pure a => exact .pure trivial
  | failed e => exact .failed e _
  | panic m => exact .panic m _
  | bind _ _ ihFirst ihLater => exact .bind ihFirst fun b _ => ihLater b
  | exec changes _ ih =>
    refine .exec (fun s asked r t holds ran => ?_) fun s asked b t _ _ => ih b t
    exact carries s asked t holds (changes s asked r t ran)

/-- Code on a view has to maintain it of a whole state that it sees. -/
theorem Maintains.on {f : PluginState S → β} (hidden : PluginState.Hidden f) {value : β} {γ : Type}
    {name : String} {shape : Shape S.Kind} {code : Stateful (shape.Carrier S) γ}
    {output : γ → PluginState S → Prog (PluginState S) α}
    (kept : ∀ v asked w a, (∀ m, shape.whole? v = some m → f m = value) →
      (code.run v).evaluate.Asks asked (.value (w, a)) →
      (∀ m, shape.whole? w = some m → f m = value) ∧
        ∀ t, f t = value → (output a t).Maintains (f · = value) post) :
    (Prog.on name shape.view code output).Maintains (f · = value) post := by
  have shows {s t : PluginState S} {v : shape.Carrier S} (holds : f s = value)
      (projected : shape.project s = (.ok v, t)) (m : PluginState S)
      (whole : shape.whole? v = some m) : f m = value :=
    (hidden.viewed projected whole).trans holds
  have changes (s : PluginState S) (asked : List Exchange) (r : Outcome PluginError γ)
      (t : PluginState S) (holds : f s = value)
      (ran : (viewStep shape.view code s).Asks asked (r, t)) : f t = value := by
    rcases asks_viewStep ran with
      ⟨e, projected, -, -⟩ | ⟨v, u, outcome, projected, coded, result_eq⟩
    next => exact (hidden.opened projected).trans holds
    next =>
      cases outcome with
      | value result =>
        cases result_eq
        rcases hidden.writeBack result.1 projected with same | ⟨_, m, -, written, -, last⟩
        next => exact same.trans holds
        next =>
          exact last.trans ((kept v asked _ _ (shows holds projected) coded).1 m written)
      | error | panic =>
        cases result_eq
        exact (hidden.opened projected).trans holds
  refine .exec changes fun s asked a t holds ran => ?_
  -- The output gets the state that the step leaves, not the one that the code has worked on.
  have after := changes s asked _ t holds ran
  rcases asks_viewStep ran with ⟨_, -, -, ⟨⟩⟩ | ⟨v, u, outcome, projected, coded, result_eq⟩
  cases outcome with
  | value result =>
    cases result_eq
    exact (kept v asked _ _ (shows holds projected) coded).2 _ after
  | error | panic => cases result_eq

end Prog

namespace Library

variable {lib : Library S}

def Maintains (lib : Library S) (I : PluginState S → Prop) : Prop :=
  ∀ code args prog, lib.code code args = .ok prog → prog.Maintains I fun _ => True

theorem Composed.maintains {I : PluginState S → Prop} {R : Allowance S}
    (carries : ∀ s asked t, I s → R s asked t → I t) (maintains : lib.Maintains I)
    {x : Prog (PluginState S) α} (composed : lib.Composed R x) : x.Maintains I fun _ => True := by
  induction composed with
  | own obeys => exact obeys.maintains carries
  | user found => exact maintains _ _ _ found
  | bind _ _ ihFirst ihLater => exact .bind ihFirst fun b _ => ihLater b

end Library

end PluginHost
