import Mathlib.Data.List.Induction
import Mathlib.Logic.Relation
import PluginHost.Proofs.Editor.Meaning
import PluginHost.Proofs.Script

/-!
The steps that an error is raised after. A run of the machine is followed from point to point with
the labels of the steps it has executed: the trail is the latest of them, and an error takes it only
as long as it has no trace of its own.
-/

set_option autoImplicit false

namespace PluginHost

namespace Evaluate

/-- Where a run is: at an action, or in code under the guard of an operation. -/
inductive Point (α : Type) : Type 1 where
  | action {β : Type} (x : Action β) (frames : Frames β α) (t : Trail)
  | body {β : Type} (op : String) (x : Body β) (frames : Frames β α) (t : Trail)

/-- How a run goes on from a point. -/
inductive Next (α : Type) : Type 1 where
  | ended (r : Except EditorError α)
  | on (p : Point α)
  | asks (q : Query) (next : q.Answer → Point α)
  | forks (task : Action Unit) (p : Point α)

namespace Point

variable {α β γ : Type}

def trail : Point α → Trail
  | action _ _ t => t
  | body _ _ _ t => t

def config : Point α → Config α
  | action x frames _ => .action x frames
  | body _ x frames _ => .body x frames

def run : Point α → Script (Except EditorError α)
  | action x frames t => Evaluate.action x frames t
  | body op x frames t => Evaluate.body op x frames t

def next : Point α → Next α
  | action (.suspend label code) frames t => .on (body label (code ()) frames (t.push label))
  | action (.bind x k) frames t => .on (action x (.bind k frames) t)
  | action (.recover x handler) frames t => .on (action x (.recover handler frames) t)
  | action (.pure a) .done _ => .ended (.ok a)
  | action (.pure a) (.bind k rest) t => .on (body "flat_map" (k a) rest t)
  | action (.pure a) (.recover handler rest) t => .on (body "recover" (handler (.ok a)) rest t)
  | action (.failed e) .done t => .ended (.error (raised e t))
  | action (.failed e) (.bind _ rest) t => .on (action (.failed e) rest t)
  | action (.failed e) (.recover handler rest) t =>
    .on (body "recover" (handler (.error (raised e t))) rest t)
  | body _ (.build x) frames t => .on (action x frames t)
  | body op (.panic m) frames t => .on (action (.failed (.fatal op m)) frames t)
  | body op (.ask q k) frames t => .asks q fun answer => body op (k answer) frames t
  | body op (.fork task k) frames t => .forks task (body op (k ()) frames t)

def label? : Point α → Option String
  | action (.suspend label _) _ _ => some label
  | _ => none

def error? : Point α → Option EditorError
  | action (.failed e) _ _ => some e
  | _ => none

/-- A run does at each point what comes next there, and then what the next point does. -/
theorem run_eq (p : Point α) : p.run = match p.next with
    | .ended r => .done r
    | .on p' => p'.run
    | .asks q k => .ask q fun answer => (k answer).run
    | .forks task p' => task.evaluate.bind fun _ => p'.run := by
  fun_cases next p <;> simp [run, Evaluate.action, Evaluate.body, Action.evaluate]

theorem trail_of_on {p p' : Point α} (goes : p.next = .on p') :
    p'.trail = p.label?.toList.foldl Trail.push p.trail := by
  revert goes
  fun_cases next p <;> rintro ⟨⟩ <;> rfl

theorem trail_of_asks {p : Point α} {q : Query} {k : q.Answer → Point α}
    (asks : p.next = .asks q k) (answer : q.Answer) : (k answer).trail = p.trail := by
  revert asks
  fun_cases next p <;> rintro ⟨⟩
  rfl

theorem trail_of_forks {p p' : Point α} {task : Action Unit} (forks : p.next = .forks task p') :
    p'.trail = p.trail := by
  revert forks
  fun_cases next p <;> rintro ⟨⟩
  rfl

theorem below_of_on {p p' : Point α} (goes : p.next = .on p') :
    Below ⟨α, p'.config⟩ ⟨α, p.config⟩ := by
  revert goes
  fun_cases next p <;> rintro ⟨⟩ <;> constructor

theorem below_of_asks {p : Point α} {q : Query} {k : q.Answer → Point α}
    (asks : p.next = .asks q k) (answer : q.Answer) : Below ⟨α, (k answer).config⟩ ⟨α, p.config⟩ := by
  revert asks
  fun_cases next p <;> rintro ⟨⟩
  constructor

theorem below_of_forks {p p' : Point α} {task : Action Unit} (forks : p.next = .forks task p') :
    Below ⟨α, p'.config⟩ ⟨α, p.config⟩ := by
  revert forks
  fun_cases next p <;> rintro ⟨⟩
  constructor

/-- From one point a run comes to another, with these answers, and executes steps with these labels
on the way. A forked task runs apart, with a trail of its own. -/
inductive Leads : Point α → List Exchange → List String → Point α → Prop
  | here (p : Point α) : Leads p [] [] p
  | on {p p' q : Point α} {asked : List Exchange} {ran : List String} (goes : p.next = .on p')
      (later : Leads p' asked ran q) : Leads p asked (p.label?.toList ++ ran) q
  | ask {p q : Point α} {query : Query} {k : query.Answer → Point α} {answer : query.Answer}
      {asked : List Exchange} {ran : List String} (asks : p.next = .asks query k)
      (later : Leads (k answer) asked ran q) : Leads p (⟨query, answer⟩ :: asked) ran q
  | fork {p p' q : Point α} {task : Action Unit} {own asked : List Exchange} {ran : List String}
      {r : Except EditorError Unit} (forks : p.next = .forks task p')
      (apart : task.evaluate.Asks own r) (later : Leads p' asked ran q) :
      Leads p (own ++ asked) ran q

variable {p q : Point α} {asked : List Exchange} {ran : List String} {r : Except EditorError α}

theorem Leads.asks (leads : Leads p asked ran q) {later : List Exchange}
    (rest : q.run.Asks later r) : p.run.Asks (asked ++ later) r := by
  induction leads with
  | here => exact rest
  | on goes _ ih =>
    rw [run_eq, goes]
    exact ih rest
  | ask asks _ ih =>
    rw [run_eq, asks]
    exact .ask (ih rest)
  | fork forks apart _ ih =>
    rw [run_eq, forks, List.append_assoc]
    exact Script.asks_bind.2 ⟨_, _, _, rfl, apart, ih rest⟩

theorem Leads.trans {p' : Point α} {asked' : List Exchange} {ran' : List String}
    (leads : Leads p asked ran q) (on : Leads q asked' ran' p') :
    Leads p (asked ++ asked') (ran ++ ran') p' := by
  induction leads with
  | here => exact on
  | on goes _ ih =>
    rw [List.append_assoc]
    exact .on goes (ih on)
  | ask asks _ ih => exact .ask asks (ih on)
  | fork forks apart _ ih =>
    rw [List.append_assoc]
    exact .fork forks apart (ih on)

theorem exists_leads (p : Point α) {asked : List Exchange} (asks : p.run.Asks asked r) :
    ∃ ran q, Leads p asked ran q ∧ q.next = .ended r := by
  match next_eq : p.next with
  | .ended r' =>
    rw [run_eq, next_eq] at asks
    obtain ⟨rfl, rfl⟩ := Script.asks_done.1 asks
    exact ⟨[], p, .here p, next_eq⟩
  | .on p' =>
    rw [run_eq, next_eq] at asks
    obtain ⟨ran, q, leads, ends⟩ := exists_leads p' asks
    exact ⟨_, q, .on next_eq leads, ends⟩
  | .asks query k =>
    rw [run_eq, next_eq] at asks
    obtain ⟨answer, later, rfl, rest⟩ := Script.asks_ask.1 asks
    obtain ⟨ran, q, leads, ends⟩ := exists_leads (k answer) rest
    exact ⟨ran, q, .ask next_eq leads, ends⟩
  | .forks task p' =>
    rw [run_eq, next_eq] at asks
    obtain ⟨own, _, later, rfl, apart, rest⟩ := Script.asks_bind.1 asks
    obtain ⟨ran, q, leads, ends⟩ := exists_leads p' rest
    exact ⟨ran, q, .fork next_eq apart leads, ends⟩
termination_by (⟨α, p.config⟩ : Σ α : Type, Config α)
decreasing_by
  · exact below_of_on next_eq
  · exact below_of_asks next_eq answer
  · exact below_of_forks next_eq

theorem Leads.trail_eq (leads : Leads p asked ran q) : q.trail = ran.foldl Trail.push p.trail := by
  induction leads with
  | here => rfl
  | on goes _ ih => rw [ih, trail_of_on goes, List.foldl_append]
  | ask asks _ ih => rw [ih, trail_of_asks asks]
  | fork forks _ _ ih => rw [ih, trail_of_forks forks]

theorem leads_handler (e : EditorError) (frames : Frames β α) (t : Trail) {h : Frames.Handling α}
    (nearest : frames.nearest = some h) :
    Leads (.action (.failed e) frames t) [] []
      (.body "recover" (h.handler (.error (raised e t))) h.rest t) := by
  induction frames with
  | done => cases nearest
  | bind next rest ih => exact .on rfl (ih nearest)
  | recover handler rest =>
    cases nearest
    exact .on rfl (.here _)

theorem leads_end (e : EditorError) (frames : Frames β α) (t : Trail)
    (unhandled : frames.nearest = none) :
    ∃ q, Leads (.action (.failed e) frames t) [] [] q ∧ q.next = .ended (.error (raised e t)) := by
  induction frames with
  | done => exact ⟨_, .here _, rfl⟩
  | bind next rest ih =>
    obtain ⟨q, leads, ends⟩ := ih unhandled
    exact ⟨q, .on rfl leads, ends⟩
  | recover handler rest => cases unhandled

/-- An error fails at one point, and the handler that gets it comes to a point where it fails
again. -/
inductive Reraises : Point α → Point α → Prop
  | again {β γ : Type} {e : EditorError} {frames : Frames β α} {t u : Trail} {h : Frames.Handling α}
      {rest : Frames γ α} {asked : List Exchange} {ran : List String}
      (caught : frames.nearest = some h)
      (leads : Leads (.body "recover" (h.handler (.error (raised e t))) h.rest t) asked ran
        (.action (.failed (raised e t)) rest u)) :
      Reraises (.action (.failed e) frames t) (.action (.failed (raised e t)) rest u)

end Point

theorem foldl_push (ran : List String) :
    ran.foldl Trail.push [] = ran.reverse.take trailLength := by
  induction ran using List.reverseRecOn with
  | nil => rfl
  | append_singleton before label ih =>
    rw [List.foldl_append, ih]
    simp [Trail.push, trailLength, List.take_take]

theorem getLast?_latest (ran : List String) {limit : Nat} (positive : 0 < limit) :
    (ran.drop (ran.length - limit)).getLast? = ran.getLast? := by
  rw [List.getLast?_drop]
  by_cases empty : ran = []
  next => simp [empty]
  next =>
    have some_label := List.length_pos_iff.2 empty
    rw [if_neg (by omega)]

theorem raised_of_untraced {e : EditorError} (untraced : e.trace = []) (t : Trail) :
    raised e t = ⟨e.kind, e.op.or t.reverse.getLast?, t.reverse⟩ := by
  simp [raised, EditorError.withTrail, untraced]

theorem raised_of_settled {e : EditorError} (traced : e.trace ≠ []) (named : e.op.isSome)
    (t : Trail) : raised e t = e := by
  obtain ⟨kind, op, trace⟩ := e
  obtain ⟨label, rfl⟩ := Option.isSome_iff_exists.1 named
  simp [raised, EditorError.withTrail, traced]

namespace Point

variable {α : Type} {p q : Point α} {x : Action α} {asked : List Exchange} {ran : List String}

theorem Leads.latest (leads : Leads (.action x .done []) asked ran p) :
    p.trail.reverse = ran.drop (ran.length - trailLength) := by
  rw [leads.trail_eq]
  change (ran.foldl Trail.push []).reverse = _
  rw [foldl_push, List.take_reverse, List.reverse_reverse]

theorem error?_of_reraised {e : EditorError} (traced : e.trace ≠ []) (named : e.op.isSome)
    (fails : p.error? = some e) (reraised : Relation.ReflTransGen Reraises p q) :
    q.error? = some e := by
  induction reraised with
  | refl => exact fails
  | tail _ again ih =>
    cases again
    obtain rfl := Option.some.inj ih
    exact congrArg some (raised_of_settled traced named _)

end Point

end Evaluate

namespace Action

open Evaluate (Point Trail raised)

/-- The answers that bring a computation to its end are those of a run from its first point. At each
point of the run the trail is the labels of the latest eight of the steps executed so far. An error
that fails there without a trace goes on to the nearest handler, or to the end, with that trail, and
with the last label if it names no operation. One that has both goes on as it is, wherever handlers
raise it again. -/
theorem trail_of_run {α : Type} (x : Action α) :
    (∀ asked r, x.evaluate.Asks asked r ↔
      ∃ ran q, Point.Leads (.action x .done []) asked ran q ∧ q.next = .ended r) ∧
    ∀ asked ran p, Point.Leads (.action x .done []) asked ran p →
      p.trail.reverse = ran.drop (ran.length - 8) ∧ p.trail.length = min 8 ran.length ∧
      ∀ {β : Type} e (frames : Frames β α) t, p = .action (.failed e) frames t → ∃ e',
        (∀ h, frames.nearest = some h →
          p.Leads [] [] (.body "recover" (h.handler (.error e')) h.rest t)) ∧
        (frames.nearest = none → ∃ q, p.Leads [] [] q ∧ q.next = .ended (.error e')) ∧
        (e.trace = [] → e' = ⟨e.kind, e.op.or ran.getLast?, ran.drop (ran.length - 8)⟩) ∧
        (e.trace ≠ [] → e.op.isSome →
          e' = e ∧ ∀ q, Relation.ReflTransGen Point.Reraises p q → q.error? = some e) := by
  refine ⟨fun asked r => ⟨fun asks => Point.exists_leads _ asks, ?_⟩, ?_⟩
  next =>
    intro ⟨ran, q, leads, ends⟩
    have last : q.run.Asks [] r := by
      rw [Point.run_eq, ends]
      exact .done r
    have asks := leads.asks last
    rw [List.append_nil] at asks
    exact asks
  next =>
    intro asked ran p leads
    have latest := leads.latest
    have length : p.trail.length = min 8 ran.length := by
      have lengths := congrArg List.length latest
      simp only [List.length_reverse, List.length_drop, Evaluate.trailLength] at lengths
      omega
    refine ⟨latest, length, ?_⟩
    rintro β e frames t rfl
    refine ⟨raised e t, fun h nearest => Point.leads_handler e frames t nearest,
      Point.leads_end e frames t, ?_, ?_⟩
    next =>
      intro untraced
      change t.reverse = ran.drop (ran.length - 8) at latest
      rw [Evaluate.raised_of_untraced untraced, latest, Evaluate.getLast?_latest ran (by decide)]
    next =>
      intro traced named
      exact ⟨Evaluate.raised_of_settled traced named t,
        fun q reraised => Point.error?_of_reraised traced named rfl reraised⟩

/-- Steps with these labels, and then the action. -/
def steps {α : Type} (labels : List String) (x : Action α) : Action α :=
  labels.foldr (fun label rest => .bind (.suspend label fun _ => .pure ()) fun () => .build rest) x

theorem leads_steps {α β : Type} (labels : List String) (x : Action β) (frames : Frames β α)
    (t : Trail) : Point.Leads (.action (steps labels x) frames t) [] labels
      (.action x frames (labels.foldl Trail.push t)) := by
  induction labels generalizing t with
  | nil => exact .here _
  | cons label rest ih =>
    exact .on rfl (.on rfl (.on rfl (.on rfl (.on rfl (ih (t.push label))))))

-- Nine steps before an error, and one more before a handler raises it again.
def climb : List String := ["a", "b", "c", "d", "e", "f", "g", "h", "i"]

def worn : EditorError := ⟨.logical "worn", some "i", climb.drop 1⟩

def climbing : Action Unit :=
  .recover (steps climb (.failed (.logical "worn"))) fun r => .build (steps ["j"] (.ofResult r))

theorem trail_of_climbing : ∃ p q : Point Unit,
    Point.Leads (.action climbing .done []) [] climb p ∧ p.error? = some (.logical "worn") ∧
      Point.Leads (.action climbing .done []) [] (climb ++ ["j"]) q ∧ q.error? = some worn ∧
      q.trail.reverse = climb.drop 2 ++ ["j"] ∧ climbing.evaluate.Asks [] (.error worn) := by
  obtain ⟨runs, points⟩ := trail_of_run climbing
  let caught : Frames Unit Unit := .recover (fun r => .build (steps ["j"] (.ofResult r))) .done
  have climbed := Point.Leads.on (p := .action climbing .done []) rfl
    (leads_steps climb (.failed (.logical "worn")) caught [])
  obtain ⟨-, -, raised⟩ := points [] climb _ climbed
  obtain ⟨e, given, -, taken, -⟩ := raised _ caught _ rfl
  obtain rfl : e = worn := taken rfl
  have again := (climbed.trans (given _ rfl)).trans
    (.on rfl (leads_steps ["j"] (.failed worn) .done _))
  obtain ⟨latest, -, raised⟩ := points [] (climb ++ ["j"]) _ again
  obtain ⟨e, -, ends, -, settled⟩ := raised worn .done _ rfl
  obtain ⟨rfl, -⟩ := settled (by decide) rfl
  obtain ⟨q, last, ended⟩ := ends rfl
  refine ⟨_, _, climbed, rfl, again, rfl, latest, ?_⟩
  exact (runs [] (.error worn)).2 ⟨_, q, again.trans last, ended⟩

end Action

end PluginHost
