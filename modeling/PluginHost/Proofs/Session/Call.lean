import PluginHost.Proofs.Session.Transport

/-!
The way of one request through the transport, step by step, as its caller goes it.
-/

set_option autoImplicit false

namespace PluginHost

/-- How far a caller has come with its request. -/
inductive Call where
  | idle
  | drawn (id : Nat)
  | entered (id : Nat)
  | admitted (id : Nat)
  | refused (id : Nat)
  | unsent (id : Nat) (reason : String)
  | sent (id : Nat)
  | returned (id : Nat) (answer : Answer)

namespace Call

def id? : Call → Option Nat
  | .idle => none
  | .drawn id | .entered id | .admitted id | .refused id | .unsent id _ | .sent id
  | .returned id _ => some id

/-- The steps that a caller has yet to take, at most. -/
def remaining : Call → Nat
  | .idle => 5
  | .drawn _ => 4
  | .entered _ => 3
  | .admitted _ => 2
  | .refused _ | .unsent _ _ | .sent _ => 1
  | .returned _ _ => 0

/-- The caller has its entry in the table, unless someone else took it out. -/
def HasEntered (id : Nat) : Call → Prop
  | .entered n | .admitted n | .refused n | .unsent n _ | .sent n => n = id
  | _ => False

/-- The caller has not looked at the flag, or has seen that the session is closed. -/
def IsTurnedAway (id : Nat) : Call → Prop
  | .entered n | .refused n => n = id
  | _ => False

theorem HasEntered.id?_eq {id : Nat} {call : Call} (entered : call.HasEntered id) :
    call.id? = some id := by
  cases call <;> simp_all [HasEntered, Call.id?]

theorem HasEntered.ne_drawn {id : Nat} {call : Call} (entered : call.HasEntered id) (n : Nat) :
    call ≠ .drawn n := by
  rintro rfl
  exact entered

theorem IsTurnedAway.id?_eq {id : Nat} {call : Call} (away : call.IsTurnedAway id) :
    call.id? = some id := by
  cases call <;> simp_all [IsTurnedAway, Call.id?]

-- The caller is kept waiting while the reader has the means to answer in its hands.
inductive Step (method : String) (held : Option Nat) :
    Transport → Call → Transport → Call → Prop where
  | draw (t : Transport) : Step method held t .idle t.draw.2 (.drawn t.draw.1)
  | enter (t : Transport) (id : Nat) :
      Step method held t (.drawn id) (t.await id method) (.entered id)
  | allow (t : Transport) (id : Nat) (flag : t.closed = false) :
      Step method held t (.entered id) t (.admitted id)
  | refuse (t : Transport) (id : Nat) (flag : t.closed = true) :
      Step method held t (.entered id) t (.refused id)
  | leave (t : Transport) (id : Nat) :
      Step method held t (.refused id) (t.forget id) (.returned id (.error Transport.closedError))
  | send (t : Transport) (id : Nat) : Step method held t (.admitted id) t (.sent id)
  | sendFails (t : Transport) (id : Nat) (reason : String) :
      Step method held t (.admitted id) t (.unsent id reason)
  | giveUp (t : Transport) (id : Nat) (reason : String) :
      Step method held t (.unsent id reason) (t.forget id)
        (.returned id (.error (.transport reason)))
  | wake (t : Transport) (id : Nat) (ready : t.standing id ≠ .waiting) (free : held ≠ some id) :
      Step method held t (.sent id) t (.returned id (t.taken id method))

variable {method : String} {held : Option Nat} {t t' : Transport} {call call' : Call}

theorem Step.remaining_lt (step : Step method held t call t' call') :
    call'.remaining < call.remaining := by
  cases step <;> simp [remaining]

theorem Step.closed_eq (step : Step method held t call t' call') : t'.closed = t.closed := by
  cases step <;> rfl

theorem Step.isTurnedAway (step : Step method held t call t' call') (flag : t.closed = true)
    (away : ∀ entry ∈ t.pending, call.IsTurnedAway entry.1) :
    ∀ entry ∈ t'.pending, call'.IsTurnedAway entry.1 := by
  intro entry member
  cases step with
  | enter id =>
    rcases Transport.mem_await.1 member with rfl | old
    · rfl
    · exact (away entry old).elim
  | allow id unset => simp [flag] at unset
  | refuse id => exact away entry member
  | leave id =>
    obtain ⟨old, other⟩ := Transport.mem_forget.1 member
    exact other (away entry old).symm
  | giveUp id reason => exact (away entry (Transport.mem_forget.1 member).1).elim
  | _ => exact (away entry member).elim

/-- A caller that need not wait can go on. -/
theorem exists_step (method : String) (running : ∀ id a, call ≠ .returned id a)
    (ready : ∀ id, call = .sent id → t.standing id ≠ .waiting ∧ held ≠ some id) :
    ∃ t' call', Step method held t call t' call' := by
  cases call with
  | idle => exact ⟨_, _, .draw t⟩
  | drawn id => exact ⟨_, _, .enter t id⟩
  | entered id =>
    cases flag : t.closed with
    | false => exact ⟨_, _, .allow t id flag⟩
    | true => exact ⟨_, _, .refuse t id flag⟩
  | admitted id => exact ⟨_, _, .send t id⟩
  | refused id => exact ⟨_, _, .leave t id⟩
  | unsent id reason => exact ⟨_, _, .giveUp t id reason⟩
  | sent id => exact ⟨_, _, .wake t id (ready id rfl).1 (ready id rfl).2⟩
  | returned id a => exact absurd rfl (running id a)

end Call

end PluginHost
