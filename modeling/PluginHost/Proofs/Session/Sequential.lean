import PluginHost.Proofs.Session.Order

/-!
The worker against a plain loop. Programs that ask nobody but the machine come to what they come to
when they run one after the other, with no session around them.
-/

set_option autoImplicit false

namespace PluginHost

open Session (Handled)

variable {S : Schema} {W : Type} {world : World W} {lib : Library S}

namespace Script

variable {α β : Type} {w : W}

/-- Whatever the machine answers, the script asks nobody else. -/
inductive Private (world : World W) {α : Type} : W → Script α → Prop where
  | done (w : W) (a : α) : Private world w (.done a)
  | ask {w : W} (q : Query) (next : q.Answer → Script α) (machine : q.IsForMachine)
      (rest : ∀ a v, world.answers w q a v → Private world v (next a)) :
      Private world w (.ask q next)

theorem private_bind {x : Script α} {f : α → Script β} :
    Private world w (x.bind f) ↔
      Private world w x ∧ ∀ a v, Plays world w x a v → Private world v (f a) := by
  induction x generalizing w with
  | done a =>
    constructor
    · intro alone
      refine ⟨.done w a, fun b v played => ?_⟩
      obtain ⟨rfl, rfl⟩ := plays_done.1 played
      exact alone
    · exact fun alone => alone.2 a w (.done w a)
  | ask q next ih =>
    constructor
    · rintro ⟨⟩
      next machine rest =>
      refine ⟨.ask q next machine fun a v answered => (ih a).1 (rest a v answered) |>.1, ?_⟩
      intro b u played
      obtain ⟨a, v, answered, played⟩ := plays_ask.1 played
      exact ((ih a).1 (rest a v answered)).2 b u played
    · rintro ⟨⟨⟩, later⟩
      next machine rest =>
      refine .ask q _ machine fun a v answered => (ih a).2 ⟨rest a v answered, ?_⟩
      exact fun b u played => later b u (.ask answered played)

-- The script asks the machine and sends notifications, and comes to nothing but what is allowed.
inductive Secures (world : World W) {α : Type} (post : α → W → Prop) : W → Script α → Prop where
  | done {w : W} {a : α} (holds : post a w) : Secures world post w (.done a)
  | ask {w : W} (q : Query) (next : q.Answer → Script α) (machine : q.IsForMachine)
      (rest : ∀ a v, world.answers w q a v → Secures world post v (next a)) :
      Secures world post w (.ask q next)
  | notify {w : W} (method : String) (args : List Json) (next : Reply → Script α)
      (rest : ∀ reply, Secures world post w (next reply)) :
      Secures world post w (.ask (.notify method args) next)

variable {x : Script α} {f : α → Script β} {post : β → W → Prop}

theorem Private.secures {post : α → W → Prop} (alone : Private world w x)
    (holds : ∀ a v, Plays world w x a v → post a v) : Secures world post w x := by
  induction alone with
  | done w a => exact .done (holds a w (.done w a))
  | ask q next machine rest ih =>
    refine .ask q next machine fun a v answered => ih a v answered fun b u played => ?_
    exact holds b u (.ask answered played)

theorem Secures.bind {first : α → W → Prop} (secures : Secures world first w x)
    (rest : ∀ a v, first a v → Secures world post v (f a)) :
    Secures world post w (x.bind f) := by
  induction secures with
  | done holds => exact rest _ _ holds
  | ask q next machine _ ih => exact .ask q _ machine ih
  | notify method args next _ ih => exact .notify method args _ ih

theorem Secures.map {f : α → β} (secures : Secures world (fun a v => post (f a) v) w x) :
    Secures world post w (x.map f) :=
  secures.bind fun _ _ holds => .done holds

end Script

open Script (Private Plays Secures)

/-- The request that a message stands for. -/
def Message.request? : Message → Option Request
  | .request _ method args => some ⟨method, args, true⟩
  | .notification method args => some ⟨method, args, false⟩
  | .response _ _ _ => none

theorem Message.isWork_iff {m : Message} : m.isWork = true ↔ ∃ r, m.request? = some r := by
  cases m <;> simp [Message.isWork, Message.request?]

/-- What the lines ask for. -/
def Session.requests (lines : List String) : List Request :=
  (Session.due lines).filterMap Message.request?

/-- Runs the requests one after the other. -/
def executeAll (lib : Library S) : List Request → PluginState S →
    Script (List (Outcome PluginError Json) × PluginState S)
  | [], s => .done ([], s)
  | r :: rest, s => (execute lib r s).bind fun (outcome, s) =>
    (executeAll lib rest s).map fun (outcomes, s) => (outcome :: outcomes, s)

/-- A report leaves the machine alone, also when it does not get through. -/
theorem reportUnlessSync_secures (r : Request) (result : Except PluginError Json) (w : W) :
    Secures world (fun _ v => v = w) w (reportUnlessSync r result) := by
  cases result with
  | ok v => exact .done rfl
  | error e =>
    simp only [reportUnlessSync]
    split
    · exact .done rfl
    · simp only [report, Action.notify, Action.evaluate, Evaluate.action, Evaluate.body]
      refine Secures.map (.notify _ _ _ fun reply => ?_)
      cases reply <;> simp only [Evaluate.body, Evaluate.action, Body.pure, Body.failed] <;>
        exact .done rfl

theorem Session.work_secures {m : Message} {r : Request} (request : m.request? = some r)
    {s : PluginState S} {w : W} {post : Handled × PluginState S → W → Prop}
    (alone : Private world w (execute lib r s))
    (holds : ∀ outcome t v, Plays world w (execute lib r s) (outcome, t) v →
      post (⟨some (settled outcome), m.response? (settled outcome)⟩, t) v) :
    Secures world post w (Session.work lib m s) := by
  cases m with
  | request id method args =>
    cases request
    refine Secures.map (Secures.map (alone.secures fun r v played => ?_))
    exact holds r.1 r.2 v played
  | notification method args =>
    cases request
    have dispatched : Secures world (fun r v => post (⟨some r.1, none⟩, r.2) v) w
        (dispatch lib ⟨method, args, false⟩ s) := by
      refine Secures.map (alone.secures fun r v played => ?_)
      exact holds r.1 r.2 v played
    refine (dispatched.bind fun r v allowed => ?_).map
    refine (reportUnlessSync_secures _ r.1 v).bind fun _ u same => ?_
    cases same
    exact .done allowed
  | response id error result => cases request

section Follows

variable (world lib) (lines : List String) (s₀ : PluginState S) (w₀ : W)

/-- What is still to be executed leads on to what the whole list comes to. -/
structure Remains (outcomes : List (Outcome PluginError Json)) (rest : List Request)
    (s : PluginState S) (w : W) : Prop where
  alone : Private world w (executeAll lib rest s)
  leads : ∀ later t v, Plays world w (executeAll lib rest s) (later, t) v →
    Plays world w₀ (executeAll lib (Session.requests lines) s₀) (outcomes ++ later, t) v

def Working.LeadsOn (outcomes : List (Outcome PluginError Json)) (rest : List Request) (w : W) :
    Working S → Prop
  | .idle s | .finished s => Remains world lib lines s₀ w₀ outcomes rest s w
  | .busy (some _) x => Secures world (fun (handled, s) v => ∃ outcome,
      handled.result = some (settled outcome) ∧
        Remains world lib lines s₀ w₀ (outcomes ++ [outcome]) rest s v) w x
  | _ => False

structure Served.Follows (outcomes : List (Outcome PluginError Json)) (rest : List Message)
    (h : Served S W) : Prop where
  left : h.handled.map (·.1) ++ h.working.message?.toList ++ rest = Session.due lines
  results : h.handled.map (·.2.result) = outcomes.map fun outcome => some (settled outcome)
  working : h.working.LeadsOn world lib lines s₀ w₀ outcomes (rest.filterMap Message.request?) h.world

end Follows

variable {lines : List String} {s₀ s : PluginState S} {w₀ w v : W}
  {outcomes : List (Outcome PluginError Json)} {rest : List Request}

theorem Remains.cons {r : Request}
    (remains : Remains world lib lines s₀ w₀ outcomes (r :: rest) s w) :
    Private world w (execute lib r s) ∧ ∀ outcome t v,
      Plays world w (execute lib r s) (outcome, t) v →
        Remains world lib lines s₀ w₀ (outcomes ++ [outcome]) rest t v := by
  obtain ⟨first, later⟩ := Script.private_bind.1 remains.alone
  refine ⟨first, fun outcome t v played => ?_⟩
  constructor
  case alone => exact (Script.private_bind.1 (later _ v played)).1
  case leads =>
    intro more u v' rest_played
    have all := remains.leads (outcome :: more) u v'
      (Script.plays_bind.2 ⟨_, v, played, Script.plays_map.2 ⟨_, rest_played, rfl⟩⟩)
    simpa using all

theorem Working.Step.secures {a b : Session} {m : Option Message}
    {x : Script (Handled × PluginState S)} {after : Working S} {ms : List Message}
    {post : Handled × PluginState S → W → Prop}
    (step : Step world a w (.busy m x) b v after ms) (secures : Secures world post w x) :
    ∃ y, after = .busy m y ∧ Secures world post v y := by
  cases step with
  | ask _ q next answer machine answered =>
    cases secures with
    | ask _ _ _ rest => exact ⟨_, rfl, rest answer v answered⟩
    | notify => exact machine.elim
  | look _ next =>
    cases secures with
    | ask _ _ machine => exact machine.elim
  | notify _ method args next =>
    cases secures with
    | ask _ _ machine => exact machine.elim
    | notify _ _ _ rest => exact ⟨_, rfl, rest _⟩
  | notifyFails _ method args next =>
    cases secures with
    | ask _ _ machine => exact machine.elim
    | notify _ _ _ rest => exact ⟨_, rfl, rest _⟩
  | request _ method args next =>
    cases secures with
    | ask _ _ machine => exact machine.elim

theorem Working.Step.leadsOn {a b : Session} {before after : Working S} {ms : List Message}
    (step : Step world a w before b v after ms)
    (leadsOn : before.LeadsOn world lib lines s₀ w₀ outcomes rest w) :
    after.LeadsOn world lib lines s₀ w₀ outcomes rest v := by
  cases before with
  | idle s => cases step
  | finished s => cases step
  | calling => exact leadsOn.elim
  | busy m x =>
    cases m with
    | none => exact leadsOn.elim
    | some m =>
      obtain ⟨y, rfl, secures⟩ := step.secures leadsOn
      exact secures

namespace Served

variable {left : List Message} {h k : Served S W}

theorem Follows.take (follows : Follows world lib lines s₀ w₀ outcomes left h)
    (inOrder : InOrder lines h) {m : Message} {session : Session} (working : h.working = .idle s)
    (next : h.session.next? = some (m, session)) :
    ∃ left, Follows world lib lines s₀ w₀ outcomes left
      { h with session, working := .busy (some m) (Session.work lib m s) } := by
  obtain ⟨rest, queue, rfl⟩ := Session.next?_eq_some.1 next
  obtain ⟨split, results, leadsOn⟩ := follows
  obtain ⟨later, whole⟩ := inOrder.due_eq
  rw [working] at split leadsOn whole
  -- The oldest message in the queue is the next one of the loop.
  have first : left = m :: (rest ++ later) := by
    simpa [whole, queue, Working.message?] using split
  subst first
  have member : m ∈ Session.due lines := by simp [whole, queue]
  obtain ⟨r, request⟩ := Message.isWork_iff.1 (List.mem_filter.1 member).2
  refine ⟨rest ++ later, ?left, results, ?working⟩
  case left => simpa [Working.message?] using split
  case working =>
    rw [List.filterMap_cons_some request] at leadsOn
    obtain ⟨alone, goesOn⟩ := Remains.cons leadsOn
    exact Session.work_secures request alone fun outcome t v played =>
      ⟨outcome, rfl, goesOn outcome t v played⟩

theorem Follows.done (follows : Follows world lib lines s₀ w₀ outcomes left h)
    {m : Option Message} {handled : Handled} (working : h.working = .busy m (.done (handled, s))) :
    ∃ outcomes, Follows world lib lines s₀ w₀ outcomes left { h with
      working := .idle s
      written := h.write .worker handled.response.toList
      handled := h.handled ++ m.toList.map fun m => (m, handled) } := by
  obtain ⟨split, results, leadsOn⟩ := follows
  rw [working] at split leadsOn
  cases m with
  | none => exact leadsOn.elim
  | some m =>
    cases leadsOn with
    | done holds =>
      obtain ⟨outcome, result, leadsOn⟩ := holds
      exact ⟨outcomes ++ [outcome], by simpa [Working.message?] using split,
        by simp [results, result], leadsOn⟩

theorem Follows.step (follows : Follows world lib lines s₀ w₀ outcomes left h)
    (inOrder : InOrder lines h) (step : Step world lib h k) :
    ∃ outcomes left, Follows world lib lines s₀ w₀ outcomes left k := by
  cases step with
  | take s m session working next => exact ⟨_, follows.take inOrder working next⟩
  | finish s working none gone =>
    obtain ⟨split, results, leadsOn⟩ := follows
    rw [working] at split leadsOn
    exact ⟨outcomes, left, split, results, leadsOn⟩
  | work step =>
    obtain ⟨split, results, leadsOn⟩ := follows
    exact ⟨outcomes, left, step.message?_eq ▸ split, results, step.leadsOn leadsOn⟩
  | done m handled s working =>
    obtain ⟨more, follows⟩ := follows.done working
    exact ⟨more, left, follows⟩
  | _ => exact ⟨outcomes, left, follows.left, follows.results, follows.working⟩

end Served

end PluginHost
