import PluginHost.Editor.Query

/-!
What a script may come to, whoever answers its questions.
-/

set_option autoImplicit false

namespace PluginHost

/-- A question with the answer it got. -/
abbrev Exchange := Σ q : Query, q.Answer

namespace Script

variable {α β γ δ : Type}

inductive Returns : Script α → α → Prop where
  | done (a : α) : Returns (.done a) a
  | ask (q : Query) (next : q.Answer → Script α) (answer : q.Answer) {a : α}
      (rest : Returns (next answer) a) : Returns (.ask q next) a

@[simp] theorem returns_done {a b : α} : Returns (.done a) b ↔ b = a := by
  constructor
  · intro h
    cases h
    rfl
  · rintro rfl
    exact .done b

@[simp] theorem returns_ask {q : Query} {next : q.Answer → Script α} {a : α} :
    Returns (.ask q next) a ↔ ∃ answer, Returns (next answer) a := by
  constructor
  · intro h
    cases h with
    | ask _ _ answer rest => exact ⟨answer, rest⟩
  · rintro ⟨answer, rest⟩
    exact .ask q next answer rest

@[simp] theorem returns_bind {x : Script α} {f : α → Script β} {b : β} :
    Returns (x.bind f) b ↔ ∃ a, Returns x a ∧ Returns (f a) b := by
  induction x with
  | done a => simp [bind]
  | ask q next ih =>
    simp only [bind, returns_ask, ih]
    constructor
    · rintro ⟨answer, a, first, rest⟩
      exact ⟨a, ⟨answer, first⟩, rest⟩
    · rintro ⟨a, ⟨answer, first⟩, rest⟩
      exact ⟨answer, a, first, rest⟩

@[simp] theorem returns_map {x : Script α} {f : α → β} {b : β} :
    Returns (x.map f) b ↔ ∃ a, Returns x a ∧ b = f a := by
  simp [map]

theorem bind_congr_of_returns {x : Script α} {f g : α → Script β}
    (same : ∀ a, x.Returns a → f a = g a) : x.bind f = x.bind g := by
  induction x with
  | done a => exact same a (.done a)
  | ask q next ih =>
    simp only [bind, ask.injEq, heq_eq_eq, true_and]
    funext answer
    exact ih answer fun a returned => same a (.ask q next answer returned)

theorem map_bind (x : Script α) (f : α → Script β) (g : β → γ) :
    (x.bind f).map g = x.bind fun a => (f a).map g :=
  bind_assoc x f fun b => .done (g b)

theorem map_map (x : Script α) (f : α → β) (g : β → γ) :
    (x.map f).map g = x.map fun a => g (f a) :=
  map_bind x (fun a => .done (f a)) g

theorem bind_congr_of_map {x : Script α} {y : Script β} {p : α → γ} {q : β → γ}
    {f : α → Script δ} {g : β → Script δ} (same : x.map p = y.map q)
    (next : ∀ a b, p a = q b → f a = g b) : x.bind f = y.bind g := by
  induction x generalizing y with
  | done a =>
    cases y with
    | done b => exact next a b (by simpa [map, bind] using same)
    | ask => cases same
  | ask query k ih =>
    cases y with
    | done => cases same
    | ask query' k' =>
      simp only [map, bind, ask.injEq] at same
      obtain ⟨rfl, same⟩ := same
      simp only [bind, ask.injEq, heq_eq_eq, true_and]
      funext answer
      exact ih answer (congrFun (eq_of_heq same) answer)

/-- What a script comes to when these are the answers, and the only questions. -/
inductive Asks : Script α → List Exchange → α → Prop where
  | done (a : α) : Asks (.done a) [] a
  | ask {q : Query} {next : q.Answer → Script α} {answer : q.Answer} {later : List Exchange} {a : α}
      (rest : Asks (next answer) later a) : Asks (.ask q next) (⟨q, answer⟩ :: later) a

@[simp] theorem asks_done {a b : α} {asked : List Exchange} :
    Asks (.done a) asked b ↔ asked = [] ∧ b = a := by
  constructor
  · rintro ⟨⟩
    exact ⟨rfl, rfl⟩
  · rintro ⟨rfl, rfl⟩
    exact .done b

@[simp] theorem asks_ask {q : Query} {next : q.Answer → Script α} {asked : List Exchange} {a : α} :
    Asks (.ask q next) asked a ↔
      ∃ answer later, asked = ⟨q, answer⟩ :: later ∧ Asks (next answer) later a := by
  constructor
  · intro asks
    cases asks with
    | ask rest => exact ⟨_, _, rfl, rest⟩
  · rintro ⟨answer, later, rfl, rest⟩
    exact .ask rest

@[simp] theorem asks_bind {x : Script α} {f : α → Script β} {asked : List Exchange} {b : β} :
    Asks (x.bind f) asked b ↔
      ∃ first a later, asked = first ++ later ∧ Asks x first a ∧ Asks (f a) later b := by
  induction x generalizing asked with
  | done a =>
    constructor
    · exact fun rest => ⟨[], a, asked, rfl, .done a, rest⟩
    · rintro ⟨_, _, later, rfl, ⟨⟩, rest⟩
      exact rest
  | ask q next ih =>
    simp only [bind, asks_ask, ih]
    constructor
    · rintro ⟨answer, _, rfl, first, a, later, rfl, begun, rest⟩
      exact ⟨⟨q, answer⟩ :: first, a, later, rfl, ⟨answer, first, rfl, begun⟩, rest⟩
    · rintro ⟨_, a, later, rfl, ⟨answer, first, rfl, begun⟩, rest⟩
      exact ⟨answer, first ++ later, rfl, first, a, later, rfl, begun, rest⟩

@[simp] theorem asks_map {x : Script α} {f : α → β} {asked : List Exchange} {b : β} :
    Asks (x.map f) asked b ↔ ∃ a, Asks x asked a ∧ b = f a := by
  simp only [map, asks_bind, asks_done]
  constructor
  · rintro ⟨first, a, _, rfl, begun, rfl, rfl⟩
    exact ⟨a, by simpa using begun, rfl⟩
  · rintro ⟨a, begun, rfl⟩
    exact ⟨asked, a, [], by simp, begun, rfl, rfl⟩

/-- A script with one question ends with the answer. -/
theorem asks_once {q : Query} {f : q.Answer → α} {answer : q.Answer} {a : α} :
    Asks (.ask q fun answer => .done (f answer)) [⟨q, answer⟩] a ↔ a = f answer := by
  rw [asks_ask]
  constructor
  next =>
    intro ⟨_, later, asked, came⟩
    cases asked
    exact (asks_done.1 came).2
  next =>
    intro came
    exact ⟨answer, [], rfl, asks_done.2 ⟨rfl, came⟩⟩

theorem returns_iff_asks {x : Script α} {a : α} : x.Returns a ↔ ∃ asked, x.Asks asked a := by
  induction x with
  | done b => simp
  | ask q next ih =>
    simp only [returns_ask, asks_ask, ih]
    constructor
    · rintro ⟨answer, later, rest⟩
      exact ⟨_, answer, later, rfl, rest⟩
    · rintro ⟨_, answer, later, -, rest⟩
      exact ⟨answer, later, rest⟩

/-- Once the answers have brought a script to its end, it asks nothing more. -/
theorem Asks.unique {x : Script α} {asked more : List Exchange} {a b : α} (asks : Asks x asked a)
    (again : Asks x (asked ++ more) b) : more = [] ∧ b = a := by
  induction asks with
  | done a => exact asks_done.1 again
  | ask _ ih =>
    cases again with
    | ask rest => exact ih rest

end Script

end PluginHost
