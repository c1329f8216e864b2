import PluginHost.Editor.Evaluate

/-!
Scripts in a world that answers them. What the world may say is a relation, so that one world can
stand for every way in which requests succeed and fail.
-/

set_option autoImplicit false

namespace PluginHost

structure World (W : Type) where
  channel : Int
  answers : W → (q : Query) → q.Answer → W → Prop
  channel_stays : ∀ {w a w'}, answers w .channel a w' → a = channel ∧ w' = w

namespace Script

variable {W α β : Type} {world : World W} {w w' : W}

inductive Plays (world : World W) {α : Type} : W → Script α → α → W → Prop where
  | done (w : W) (a : α) : Plays world w (.done a) a w
  | ask {w v w' : W} {q : Query} {next : q.Answer → Script α} {a : q.Answer} {b : α}
      (answered : world.answers w q a v) (rest : Plays world v (next a) b w') :
      Plays world w (.ask q next) b w'

@[simp] theorem plays_done {a b : α} : Plays world w (.done a) b w' ↔ b = a ∧ w' = w := by
  constructor
  · rintro ⟨⟩
    exact ⟨rfl, rfl⟩
  · rintro ⟨rfl, rfl⟩
    exact .done _ _

@[simp] theorem plays_ask {q : Query} {next : q.Answer → Script α} {b : α} :
    Plays world w (.ask q next) b w' ↔
      ∃ a v, world.answers w q a v ∧ Plays world v (next a) b w' := by
  constructor
  · rintro ⟨⟩
    next v a answered rest => exact ⟨a, v, answered, rest⟩
  · rintro ⟨a, v, answered, rest⟩
    exact .ask answered rest

@[simp] theorem plays_bind {x : Script α} {f : α → Script β} {b : β} :
    Plays world w (x.bind f) b w' ↔
      ∃ a v, Plays world w x a v ∧ Plays world v (f a) b w' := by
  induction x generalizing w with
  | done a =>
    constructor
    · exact fun played => ⟨a, w, .done w a, played⟩
    · rintro ⟨_, _, ⟨⟩, played⟩
      exact played
  | ask q next ih =>
    simp only [bind, plays_ask, ih]
    constructor
    · rintro ⟨a, v, answered, c, u, rest, last⟩
      exact ⟨c, u, ⟨a, v, answered, rest⟩, last⟩
    · rintro ⟨c, u, ⟨a, v, answered, rest⟩, last⟩
      exact ⟨a, v, answered, c, u, rest, last⟩

@[simp] theorem plays_map {x : Script α} {f : α → β} {b : β} :
    Plays world w (x.map f) b w' ↔ ∃ a, Plays world w x a w' ∧ b = f a := by
  constructor
  · intro played
    obtain ⟨a, v, played, last⟩ := plays_bind.1 played
    obtain ⟨rfl, rfl⟩ := plays_done.1 last
    exact ⟨a, played, rfl⟩
  · rintro ⟨a, played, rfl⟩
    exact plays_bind.2 ⟨a, w', played, .done _ _⟩

end Script

end PluginHost
