import PluginHost.Proofs.Stateful.Threading

/-!
Computations on a part of the state. Through a lens a chain on the part is the chain of its links on
the whole, with the same errors, and what the lens does not touch stays.
-/

set_option autoImplicit false

namespace PluginHost

open Evaluate (Trail)

variable {σ τ ρ α β γ : Type}

structure Lens.Lawful (lens : Lens τ σ) : Prop where
  set_get : ∀ t, lens.set t (lens.get t) = .ok t
  get_set : ∀ t s, ∃ t', lens.set t s = .ok t' ∧ lens.get t' = s
  set_set : ∀ {t t' s}, lens.set t s = .ok t' → ∀ s', lens.set t' s' = lens.set t s'

/-- What the other lens reads stays when this one sets its part. -/
def Lens.Spares (lens : Lens τ σ) (other : Lens τ ρ) : Prop :=
  ∀ t s t', lens.set t s = .ok t' → other.get t' = other.get t

/-- A value comes from the code that was waiting for one. -/
theorem Body.returns_onBuilt_bind (x : Body β) (next : β → Body α) {a : α}
    (returned : (x.onBuilt fun y => .bind y next).evaluate.Returns (.value a)) :
    ∃ b t u, ((next b).meaning "flat_map" t).Returns (.ok a, u) := by
  match x with
  | .panic m => cases returned
  | .build y =>
    simp only [onBuilt, evaluate, Action.evaluate_eq_meaning, Action.meaning_bind,
      Script.returns_map, Script.returns_bind] at returned
    obtain ⟨ended, ⟨⟨_, v⟩, ⟨⟨r, u⟩, -, later⟩, rfl⟩, value⟩ := returned
    cases ended with
    | error e => cases value
    | ok =>
      cases value
      cases r with
      | error e => cases later
      | ok b => exact ⟨b, u, v, later⟩
  | .ask q k =>
    obtain ⟨answer, later⟩ := Script.returns_ask.1 returned
    exact returns_onBuilt_bind (k answer) next later
  | .fork task k =>
    obtain ⟨_, -, later⟩ := Script.returns_bind.1 returned
    exact returns_onBuilt_bind (k ()) next later

namespace Stateful

/-- The same questions and the same outcome, with all that an error says. -/
def Agrees (x y : Stateful σ α) : Prop := ∀ s, (x.run s).Agrees (y.run s)

/-- Puts the part back and keeps the value. -/
def putBack (lens : Lens τ σ) (t : τ) (r : σ × α) : Body (τ × α) :=
  .ofCalc ((lens.set t r.1).map fun t => (t, r.2))

theorem after_putBack {lens : Lens τ σ} {t t' : τ} {s : σ} (set : lens.set t s = .ok t') (a : α)
    (u : Trail) : Body.after (putBack lens t) (.ok (s, a), u) = .done (.ok (t', a), u) := by
  rw [Body.after, putBack, set]
  rfl

theorem putBack_set {lens : Lens τ σ} (lawful : lens.Lawful) {t t' : τ} {s : σ}
    (set : lens.set t s = .ok t') : putBack (α := α) lens t' = putBack lens t := by
  funext r
  rw [putBack, putBack, lawful.set_set set]

theorem meaning_zoom (x : Stateful σ α) (lens : Lens τ σ) (t : τ) (op : String) (u : Trail) :
    ((x.zoom lens).run t).meaning op u =
      ((x.run (lens.get t)).meaning op u).bind (Body.after (putBack lens t)) :=
  Body.meaning_onBuilt_bind (x.run (lens.get t)) (putBack lens t) op u

theorem meaning_mapCalc (x : Stateful σ α) (h : α → Calc β) (s : σ) (op : String) (t : Trail) :
    ((x.mapCalc h).run s).meaning op t = ((x.run s).meaning "suspend" (t.push "suspend")).bind
      (Body.after fun r => .ofCalc ((h r.2).map fun b => (r.1, b))) := by
  rw [mapCalc, Body.meaning, Action.mapCalc, Action.meaning_bind, Action.suspended, Action.meaning]

theorem zoom_pure {lens : Lens τ σ} (lawful : lens.Lawful) (a : α) :
    ((pure a).zoom lens).Agrees (pure a) := by
  intro t
  refine Body.agrees_of_meaning (.build _) (.build _) fun op u => ?_
  rw [meaning_zoom]
  exact after_putBack (lawful.set_get t) a u

theorem zoom_flatMap {lens : Lens τ σ} (lawful : lens.Lawful) (x : Stateful σ α)
    (f : α → Stateful σ β) :
    ((x.flatMap f).zoom lens).Agrees ((x.zoom lens).flatMap fun a => (f a).zoom lens) := by
  intro t
  refine Body.agrees_of_meaning (.build _) (.build _) fun op u => ?_
  rw [meaning_zoom, meaning_flatMap, meaning_flatMap, meaning_zoom, Script.bind_assoc,
    Script.bind_assoc]
  congr 1
  funext ⟨r, v⟩
  cases r with
  | error e => rfl
  | ok r =>
    obtain ⟨s, a⟩ := r
    obtain ⟨t', set, get⟩ := lawful.get_set t s
    rw [after_putBack set]
    -- The part that is read again is the one just put back, and what is put back last wins.
    change (((f a).run s).meaning "flat_map" v).bind _ = (((f a).zoom lens).run t').meaning _ v
    rw [meaning_zoom, get, putBack_set lawful set]

theorem zoom_mapCalc {lens : Lens τ σ} (lawful : lens.Lawful) (x : Stateful σ α) (h : α → Calc β) :
    ((x.mapCalc h).zoom lens).Agrees ((x.zoom lens).mapCalc h) := by
  intro t
  refine Body.agrees_of_meaning (.build _) (.build _) fun op u => ?_
  rw [meaning_zoom, meaning_mapCalc, meaning_mapCalc, meaning_zoom, Script.bind_assoc,
    Script.bind_assoc]
  congr 1
  funext ⟨r, v⟩
  cases r with
  | error e => rfl
  | ok r =>
    obtain ⟨s, a⟩ := r
    obtain ⟨t', set, get⟩ := lawful.get_set t s
    rw [after_putBack set, Script.done_bind, Body.after, Body.after]
    cases mapped : h a with
    | error p => rfl
    | ok b => exact after_putBack set b v

theorem get_of_zoom {x : Stateful σ α} {lens : Lens τ σ} {other : Lens τ ρ}
    (spares : lens.Spares other) {t t' : τ} {a : α}
    (returned : ((x.zoom lens).run t).evaluate.Returns (.value (t', a))) :
    other.get t' = other.get t := by
  obtain ⟨⟨s, b⟩, u, v, put⟩ :=
    Body.returns_onBuilt_bind (x.run (lens.get t)) (putBack lens t) returned
  cases set : lens.set t s with
  | error p =>
    rw [putBack, set] at put
    cases put
  | ok t'' =>
    rw [putBack, set] at put
    cases put
    exact spares t s t' set

/-- The state goes through a chain from left to right, and chains obey the laws of a monad if their
code is impartial. A lawful lens takes chains on the part to chains on the whole, with the same
errors; what the lens spares is never touched. -/
theorem chains_and_zooms (x : Stateful σ α) (f : α → Stateful σ β) (g : β → Stateful σ γ) :
    (∀ s op t, ((x.flatMap f).run s).meaning op t =
      ((x.run s).meaning "suspend" (t.push "suspend")).bind (Body.after fun r => (f r.2).run r.1)) ∧
    (x.Impartial → (∀ a, (f a).Impartial) → (∀ b, (g b).Impartial) → ∀ s,
      (x.flatMap f).outcome s = (x.outcome s).bind (onward f) ∧
      (x.flatMap pure).outcome s = x.outcome s ∧
      (∀ a, ((pure a).flatMap f).outcome s = (f a).outcome s) ∧
      ((x.flatMap f).flatMap g).outcome s = (x.flatMap fun a => (f a).flatMap g).outcome s) ∧
    (∀ {τ : Type} (lens : Lens τ σ), lens.Lawful →
      (∀ a : α, ((pure a).zoom lens).Agrees (pure a)) ∧
      ((x.flatMap f).zoom lens).Agrees ((x.zoom lens).flatMap fun a => (f a).zoom lens) ∧
      ∀ h : α → Calc β, ((x.mapCalc h).zoom lens).Agrees ((x.zoom lens).mapCalc h)) ∧
    (∀ {τ : Type} (focus : τ → σ) (back : τ → σ → Calc τ),
      x.transform focus back = x.zoom ⟨focus, back⟩) ∧
    ∀ {τ ρ : Type} (lens : Lens τ σ) (other : Lens τ ρ), lens.Spares other → ∀ t t' a,
      ((x.zoom lens).run t).evaluate.Returns (.value (t', a)) → other.get t' = other.get t := by
  refine ⟨x.meaning_flatMap f, ?_, ?_, fun _ _ => rfl, fun _ _ spares _ _ _ => get_of_zoom spares⟩
  · intro impartial next last s
    exact ⟨impartial.outcome_flatMap next s, outcome_flatMap_pure impartial s,
      fun a => outcome_pure_flatMap next a s, outcome_flatMap_flatMap impartial next last s⟩
  · intro τ lens lawful
    exact ⟨zoom_pure lawful, zoom_flatMap lawful x f, zoom_mapCalc lawful x⟩

-- A handler that tells the operation that failed, which the law of `pure` does not cover.
def telling : Stateful Unit (Option String) := lift ((Action.error "gone").recovered EditorError.op)

theorem telling_after_step :
    telling.Calm ∧ telling.outcome () = .done (.value ((), none)) ∧
      (telling.flatMap pure).outcome () = .done (.value ((), some "suspend")) ∧
      (telling.flatMap pure).outcome () ≠ telling.outcome () := by
  have calm : telling.Calm := fun _ => .build _
  have calm' : (telling.flatMap pure).Calm := fun _ => .build _
  have alone : telling.outcome () = .done (.value ((), none)) := by
    rw [calm.outcome_eq () "suspend"]
    rfl
  have chained : (telling.flatMap pure).outcome () = .done (.value ((), some "suspend")) := by
    rw [calm'.outcome_eq () "suspend"]
    rfl
  exact ⟨calm, alone, chained, by simp [alone, chained]⟩

-- A failure that is recovered by its kind, a sum, and a number beside a text.
def attempt : Action Nat := (Action.error "gone").recovered fun e => if e.isLogical then 1 else 0

def gain (n : Nat) : Stateful Nat Nat := direct fun s => .ok (s + n, s)

def left : Lens (Nat × String) Nat := ⟨Prod.fst, fun t n => .ok (n, t.2)⟩

def right : Lens (Nat × String) String := ⟨Prod.snd, fun t s => .ok (t.1, s)⟩

theorem attempt_alike : attempt.Alike attempt := by
  refine .recovered (.failed rfl) fun e e' kind => ?_
  rw [EditorError.isLogical, kind]
  rfl

theorem lift_attempt_impartial : (lift attempt : Stateful Nat Nat).Impartial where
  calm _ := .build _
  alike s := .build (.bind attempt_alike fun n => .build (.pure (s, n)))

theorem gain_impartial (n : Nat) : (gain n).Impartial where
  calm _ := .build _
  alike s := .build (.pure (s + n, s))

theorem left_lawful : left.Lawful where
  set_get _ := rfl
  get_set _ _ := ⟨_, rfl, rfl⟩
  set_set set _ := by
    cases set
    rfl

theorem left_spares_right : left.Spares right := by
  intro t n t' set
  cases set
  rfl

theorem chains_and_zooms_attempt :
    (((lift attempt).flatMap gain).flatMap gain).outcome 4 =
      ((lift attempt).flatMap fun n => (gain n).flatMap gain).outcome 4 ∧
    (((lift attempt).flatMap gain).zoom left).Agrees
      (((lift attempt).zoom left).flatMap fun n => (gain n).zoom left) ∧
    (((lift attempt).zoom left).run (4, "r")).evaluate.Returns (.value ((4, "r"), 1)) ∧
    right.get (4, "r") = "r" := by
  obtain ⟨-, laws, zooms, -, spared⟩ := chains_and_zooms (lift attempt) gain gain
  have returned : (((lift attempt).zoom left).run (4, "r")).evaluate.Returns
      (.value ((4, "r"), 1)) := by
    have builds : (((lift attempt).zoom left).run (4, "r")).Builds := .build _
    rw [builds.evaluate_eq "suspend"]
    exact .done _
  exact ⟨(laws lift_attempt_impartial gain_impartial gain_impartial 4).2.2.2,
    (zooms left left_lawful).2.1, returned, spared left right left_spares_right _ _ _ returned⟩

end Stateful
end PluginHost
