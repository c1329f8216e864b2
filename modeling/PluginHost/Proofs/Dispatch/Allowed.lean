import PluginHost.Proofs.Dispatch.Turns
import PluginHost.Proofs.Plugin.Discipline

/-!
Requests that keep to what they are allowed to do to the state, up to every point between two steps.
-/

set_option autoImplicit false

namespace PluginHost

variable {S : Schema}

def Prog.Pending.Obeys (R : Allowance S) {α β : Type} : Pending (PluginState S) β α → Prop
  | .none => True
  | .push next rest => (∀ b, (next b).Obeys R) ∧ rest.Obeys R

namespace Running

/-- A request that is to begin, or stands between two steps, and whose rest keeps to what it may
do. -/
def Obeys (R : Allowance S) : Running S → Prop
  | .begun => True
  | .before x pending => x.Obeys R ∧ pending.Obeys R
  | .within _ _ _ => False
  | .ended _ => True

def Stands : Running S → Prop
  | .within _ _ _ => False
  | _ => True

-- Within a step the state is still the one that the step began in; what the step makes of it is
-- allowed once it is done, whatever it is yet to ask.
inductive Keeps (R : Allowance S) (s : PluginState S) :
    Running S → List Exchange → PluginState S → Prop where
  | between {run : Running S} {asked : List Exchange} {t : PluginState S} (obeys : run.Obeys R)
      (changed : R s asked t) : Keeps R s run asked t
  | within {β γ : Type} {script : Script (Outcome PluginError β × PluginState S)}
      {output : β → PluginState S → Prog (PluginState S) γ}
      {pending : Prog.Pending (PluginState S) γ Json} {asked : List Exchange} {t : PluginState S}
      (changes : ∀ later r u, script.Asks later (r, u) → R s (asked ++ later) u)
      (outputs : ∀ b u, (output b u).Obeys R) (waiting : pending.Obeys R) :
      Keeps R s (.within script output pending) asked t

variable {R : Allowance S} {lib : Library S} {r : Request} {run next : Running S}
  {s t u : PluginState S} {asked more : List Exchange}

theorem Keeps.turn (closed : R.Closed) (careful : lib.Obeys R) (keeps : Keeps R s run asked t)
    (turn : Turn lib r run t more next u) : Keeps R s next (asked ++ more) u := by
  cases keeps with
  | within changes outputs waiting =>
    cases turn with
    | ask q next answer =>
      refine .within (fun later r u ran => ?_) outputs waiting
      rw [List.append_assoc]
      exact changes _ r u (.ask ran)
    | commit b => exact .between ⟨outputs b _, waiting⟩ (changes [] _ _ (.done _))
    | stepFails => exact .between trivial (changes [] _ _ (.done _))
    | stepPanics => exact .between trivial (changes [] _ _ (.done _))
  | between obeys changed =>
    cases turn with
    | prepare =>
      obtain ⟨program_obeys, prepared⟩ := prepare_obeys closed careful r t
      exact .between ⟨program_obeys, trivial⟩ (closed.trans changed prepared)
    | finish | fail | panic =>
      rw [List.append_nil]
      exact .between trivial changed
    | resume b next pending =>
      rw [List.append_nil]
      obtain ⟨-, goes_on, waiting⟩ := obeys
      exact .between ⟨goes_on b, waiting⟩ changed
    | bind inner next pending =>
      rw [List.append_nil]
      obtain ⟨bound, waiting⟩ := obeys
      cases bound with
      | bind first later => exact .between ⟨first, later, waiting⟩ changed
    | exec name view step output pending =>
      rw [List.append_nil]
      obtain ⟨stepping, waiting⟩ := obeys
      cases stepping with
      | exec changes outputs =>
        refine .within (fun later r u ran => ?_) outputs waiting
        exact closed.trans changed (changes t later r u ran)
    | ask | commit | stepFails | stepPanics => cases obeys

theorem Keeps.turns (closed : R.Closed) (careful : lib.Obeys R) (obeys : run.Obeys R)
    (turns : Turns lib r run s asked next t) : Keeps R s next asked t := by
  induction turns with
  | refl => exact .between obeys (closed.idle s [])
  | tail _ turn ih => exact ih.turn closed careful turn

/-- Between two steps of a request, what it has done to the state is allowed, and so is what it has
still to do. -/
theorem Turns.allowed (closed : R.Closed) (careful : lib.Obeys R) (obeys : run.Obeys R)
    (turns : Turns lib r run s asked next t) (stands : next.Stands) :
    R s asked t ∧ next.Obeys R := by
  cases Keeps.turns closed careful obeys turns with
  | between obeys changed => exact ⟨changed, obeys⟩
  | within => cases stands

end Running

end PluginHost
