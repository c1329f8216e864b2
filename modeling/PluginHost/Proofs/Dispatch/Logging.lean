import PluginHost.Proofs.Dispatch.Panicking
import PluginHost.Proofs.Plugin.Invariants
import PluginHost.Proofs.Program.Bounds

/-!
The log of the programs that ran. A request is refused and changes nothing, or its program is bound
and gets its entry before the first step. The entry stays, however the program ends.
-/

set_option autoImplicit false

namespace PluginHost

variable {S : Schema}

namespace Library

variable {lib : Library S}

/-- The author's programs are code for arguments that a signature decodes. -/
def Defined (lib : Library S) : Prop :=
  ∀ code, ∃ d : Definition (PluginState S), lib.code code = d.code

theorem Defined.source (defined : lib.Defined) (code : Source S.Code) :
    ∃ d : Definition (PluginState S), lib.source code = d.code := by
  cases code with
  | builtin b => exact ⟨b.definition lib, rfl⟩
  | user code => exact defined code

/-- The author's programs leave the log as it is. -/
def SparesLog (lib : Library S) : Prop := ∀ log, lib.Maintains fun s => s.log = log

end Library

theorem log_hidden : PluginState.Hidden fun s : PluginState S => s.log where
  data _ _ := rfl
  store _ _ _ := rfl
  activation _ _ _ := rfl

def keepsLog : Allowance S := fun s _ t => t.log = s.log

theorem keepsLog_steady : Allowance.Steady (keepsLog (S := S)) where
  idle _ _ := rfl
  trans first later := later.trans first
  operation op unbinding unlogging s := by
    by_cases sets : op.Sets
    next =>
      cases op with
      | bindMapping => exact absurd trivial unbinding
      | logProgram => exact absurd trivial unlogging
      | setTriggers | setExecutor | setLogFilter => rfl
      | _ => cases sets
    next => exact log_hidden.apply sets s
  activation _ _ := rfl
  project := log_hidden.project
  writeBack w _ projected kept := by
    rcases log_hidden.writeBack w projected with same | ⟨m, m', viewed, written, first, last⟩
    next => exact same
    next => exact last.trans ((kept m m' viewed written).trans first)

namespace Request

/-- The arguments from the first that opens an object on. -/
def documentPieces (r : Request) : List Json :=
  (unpack (kind? r.method) r.args).dropWhile fun v => !opensObject v

theorem arguments_eq_error {r : Request} {json : Bool} {e : PluginError} :
    r.arguments json = .error e ↔ json = true ∧ r.documentPieces ≠ [] ∧
      ∃ message, Json.parse (" ".intercalate (r.documentPieces.map Json.plainText)) =
        .error message ∧ e = .decode message := by
  cases json with
  | false => simp [arguments]
  | true =>
    have pieces : (unpack (kind? r.method) r.args).dropWhile (fun v => !opensObject v) =
      r.documentPieces := rfl
    simp only [arguments, joinDocument, pieces, if_true]
    cases r.documentPieces with
    | nil => simp
    | cons piece more =>
      cases parsed : Json.parse (" ".intercalate ((piece :: more).map Json.plainText)) <;>
        simp only [parsed] <;> simp [eq_comm]

/-- The request is refused, with this error. -/
inductive Refused (lib : Library S) (r : Request) (s : PluginState S) : PluginError → Prop where
  | unknown (unregistered : s.lookupMethod r.method = none) :
      Refused lib r s (.unknownMethod r.method)
  | document {h : Handler S} {message : String} (found : s.lookupMethod r.method = some h)
      (json : h.options.json = true) (opened : r.documentPieces ≠ [])
      (unparsed : Json.parse (" ".intercalate (r.documentPieces.map Json.plainText)) =
        .error message) :
      Refused lib r s (.decode message)
  | count {h : Handler S} {args : List Json} (found : s.lookupMethod r.method = some h)
      (read : r.arguments h.options.json = .ok args)
      (outside : ¬ h.program.arity.Within args.length) :
      Refused lib r s (.arity h.program.name h.program.arity.describe args.length)
  | argument {h : Handler S} {args : List Json} {d : Definition (PluginState S)} {message : String}
      (found : s.lookupMethod r.method = some h) (read : r.arguments h.options.json = .ok args)
      (inside : h.program.arity.Within args.length) (meant : lib.source h.program.code = d.code)
      (undecoded : d.signature.decode args = .error (.decode message)) :
      Refused lib r s (.decode message)

/-- The request comes to the program of the values that its arguments decode to. -/
inductive Binds (lib : Library S) (r : Request) (s : PluginState S) :
    Handler S → Prog (PluginState S) Json → Prop where
  | decoded {h : Handler S} {args : List Json} {d : Definition (PluginState S)} {a : d.Args}
      (found : s.lookupMethod r.method = some h) (read : r.arguments h.options.json = .ok args)
      (inside : h.program.arity.Within args.length) (meant : lib.source h.program.code = d.code)
      (decodes : d.signature.decode args = .ok a) : Binds lib r s h (d.body a)

variable {lib : Library S} {r : Request} {s t : PluginState S} {h : Handler S}
  {prog : Prog (PluginState S) Json} {e : PluginError}

theorem refused_or_binds (defined : lib.Defined) (r : Request) (s : PluginState S) :
    (∃ e, r.Refused lib s e) ∨ ∃ h prog, r.Binds lib s h prog := by
  cases found : s.lookupMethod r.method with
  | none => exact .inl ⟨_, .unknown found⟩
  | some h =>
    cases read : r.arguments h.options.json with
    | error e =>
      obtain ⟨json, opened, message, unparsed, -⟩ := arguments_eq_error.1 read
      exact .inl ⟨_, .document found json opened unparsed⟩
    | ok args =>
      by_cases inside : h.program.arity.Within args.length
      next =>
        obtain ⟨d, meant⟩ := defined.source h.program.code
        cases decoded : d.signature.decode args with
        | error e =>
          obtain ⟨message, rfl⟩ := Signature.exists_decode_of_decode decoded
          exact .inl ⟨_, .argument found read inside meant decoded⟩
        | ok a => exact .inr ⟨h, _, .decoded found read inside meant decoded⟩
      next => exact .inl ⟨_, .count found read inside⟩

theorem Refused.prepare_eq (refused : r.Refused lib s e) : prepare lib r s = (.failed e, s) := by
  unfold prepare
  cases refused with
  | unknown unregistered => rw [unregistered]
  | document found json opened unparsed =>
    have read := arguments_eq_error.2 ⟨json, opened, _, unparsed, rfl⟩
    simp only [found, read]
  | count found read outside =>
    have refuses := mt Arity.accepts_iff.1 outside
    simp only [found, read, Program.bind, if_neg refuses]
  | argument found read inside meant undecoded =>
    have accepts := Arity.accepts_iff.2 inside
    have refused := Definition.code_eq_error.2 undecoded
    simp only [found, read, Program.bind, if_pos accepts, meant, refused]

theorem Binds.prepare_eq (binds : r.Binds lib s h prog) :
    prepare lib r s = (prog, if prog.isBuilt then s.logProgram h.program.name else s) := by
  cases binds with
  | @decoded args d a found read inside meant decodes =>
    have accepts := Arity.accepts_iff.2 inside
    have bound := Definition.code_of_decode decodes
    simp only [prepare, found, read, Program.bind, if_pos accepts, meant, bound]

theorem Refused.dispatch_eq (refused : r.Refused lib s e) :
    dispatch lib r s = .done (.error e, s) := by
  rw [dispatch, execute, refused.prepare_eq, Prog.run_eq_meaning]
  rfl

theorem Binds.dispatch_eq (binds : r.Binds lib s h prog) (built : prog.isBuilt = true) :
    dispatch lib r s = (prog.run { s with log := s.log ++ [h.program.name] }).map
      fun (outcome, t) => (settled outcome, t) := by
  rw [dispatch, execute, binds.prepare_eq, if_pos built]
  rfl

theorem Binds.dispatch_of_unbuilt (binds : r.Binds lib s h prog) (unbuilt : prog.isBuilt = false) :
    dispatch lib r s = .done (.error (.fatal "program panicked"), s) :=
  PluginHost.dispatch_of_unbuilt (by rw [binds.prepare_eq]; exact unbuilt)

/-- What the request adds to the log. -/
inductive Logs (lib : Library S) (r : Request) (s : PluginState S) : List String → Prop where
  | refused {e : PluginError} (refused : r.Refused lib s e) : Logs lib r s []
  | unbuilt {h : Handler S} {prog : Prog (PluginState S) Json} (binds : r.Binds lib s h prog)
      (unbuilt : prog.isBuilt = false) : Logs lib r s []
  | bound {h : Handler S} {prog : Prog (PluginState S) Json} (binds : r.Binds lib s h prog)
      (built : prog.isBuilt = true) : Logs lib r s [h.program.name]

theorem Binds.spares (spares : lib.SparesLog) (binds : r.Binds lib s h prog) (log : List String) :
    prog.Maintains (fun s => s.log = log) fun _ => True := by
  cases binds with
  | @decoded args d a found read inside meant decodes =>
    have bound : lib.source h.program.code args = .ok (d.body a) :=
      meant ▸ Definition.code_of_decode decodes
    refine (Library.source_composed keepsLog_steady bound).maintains ?_ (spares log)
    exact fun s asked t holds kept => Eq.trans kept holds

theorem Logs.log_eq (spares : lib.SparesLog) {names : List String} (logs : r.Logs lib s names)
    {result : Except PluginError Json} (returned : (dispatch lib r s).Returns (result, t)) :
    t.log = s.log ++ names := by
  cases logs with
  | refused refused =>
    rw [refused.dispatch_eq, Script.returns_done] at returned
    cases returned
    rw [List.append_nil]
  | unbuilt binds unbuilt =>
    rw [binds.dispatch_of_unbuilt unbuilt, Script.returns_done] at returned
    cases returned
    rw [List.append_nil]
  | bound binds built =>
    rw [binds.dispatch_eq built, Script.returns_map] at returned
    obtain ⟨⟨outcome, u⟩, ran, result_eq⟩ := returned
    cases result_eq
    obtain ⟨asked, ran⟩ := Script.returns_iff_asks.1 ran
    rw [Prog.run_eq_meaning] at ran
    exact ((binds.spares spares _).asks_meaning rfl ran).1

end Request

/-- Requests one after the other, with the names of the programs that were bound. -/
inductive Requests (lib : Library S) (s : PluginState S) : List String → PluginState S → Prop where
  | start : Requests lib s [] s
  | dispatch {t u : PluginState S} {names more : List String} (before : Requests lib s names t)
      {r : Request} (logs : r.Logs lib t more) {result : Except PluginError Json}
      (returned : (dispatch lib r t).Returns (result, u)) : Requests lib s (names ++ more) u
  | handle {t u : PluginState S} {names more : List String} (before : Requests lib s names t)
      {r : Request} (logs : r.Logs lib t more) {result : Except PluginError Json}
      (returned : (handle lib r t).Returns (result, u)) : Requests lib s (names ++ more) u

theorem Requests.log_eq {lib : Library S} (spares : lib.SparesLog) {s t : PluginState S}
    {names : List String} (requests : Requests lib s names t) : t.log = s.log ++ names := by
  induction requests with
  | start => rw [List.append_nil]
  | dispatch _ logs returned ih => rw [logs.log_eq spares returned, ih, List.append_assoc]
  | handle _ logs returned ih =>
    rw [logs.log_eq spares (dispatch_returns_of_handle returned), ih, List.append_assoc]

/-- A request is refused with the error of what is wrong with it, and then nothing is asked and
nothing changes; or the name of its program is put at the end of the log, once, and then the program
runs. If the author's programs leave the log alone it has the names of those that were bound. -/
theorem log_of_requests {lib : Library S} (defined : lib.Defined) :
    (∀ (r : Request) s, (∃ e, r.Refused lib s e) ∨ ∃ h prog, r.Binds lib s h prog) ∧
    (∀ (r : Request) s e, r.Refused lib s e → dispatch lib r s = .done (.error e, s)) ∧
    (∀ (r : Request) s h prog, r.Binds lib s h prog →
      (prog.isBuilt = true →
        dispatch lib r s = (prog.run { s with log := s.log ++ [h.program.name] }).map
          fun (outcome, t) => (settled outcome, t)) ∧
      (prog.isBuilt = false →
        dispatch lib r s = .done (.error (.fatal "program panicked"), s))) ∧
    (lib.SparesLog → ∀ s names t, Requests lib s names t → t.log = s.log ++ names) := by
  refine ⟨Request.refused_or_binds defined, fun r s e refused => refused.dispatch_eq,
    fun r s h prog binds => ?_, fun spares s names t requests => requests.log_eq spares⟩
  exact ⟨binds.dispatch_eq, binds.dispatch_of_unbuilt⟩

namespace Notebook

@[reducible] def everything : Shape Unit := .plain .whole none

def look : Prog (PluginState schema) (PluginState schema) :=
  .on "look" (everything.view (S := schema)) Stateful.get fun copy _ => .pure copy

def putBack (copy : PluginState schema) : Prog (PluginState schema) Json :=
  .on "put back" (everything.view (S := schema)) (Stateful.set copy) fun _ _ =>
    .failed (.program "nothing to read")

/-- Turns the page and puts the notebook back as it was before. -/
def glancing : Prog (PluginState schema) Json :=
  .bind look fun copy => .bind turning fun _ => putBack copy

def glances : Library schema := ⟨fun _ _ => .ok glancing, fun _ _ _ _ => .pure ⟨.unit, ()⟩⟩

def definition : Definition (PluginState schema) := ⟨Unit, .positional .nil, fun () => glancing⟩

theorem glances_defined : glances.Defined := fun _ => ⟨definition, rfl⟩

variable {log : List String}

theorem look_maintains : look.Maintains (fun s => s.log = log) fun copy => copy.log = log := by
  refine Prog.Maintains.on log_hidden fun v asked w a shows coded => ?_
  rw [Stateful.evaluate_get] at coded
  obtain ⟨-, ⟨⟩⟩ := Script.asks_done.1 coded
  exact ⟨shows, fun t _ => .pure (shows v rfl)⟩

theorem putBack_maintains {copy : PluginState schema} (same : copy.log = log) :
    (putBack copy).Maintains (fun s => s.log = log) fun _ => True := by
  refine Prog.Maintains.on log_hidden fun v asked w a shows coded => ?_
  rw [Stateful.evaluate_set] at coded
  obtain ⟨-, ⟨⟩⟩ := Script.asks_done.1 coded
  refine ⟨?_, fun t _ => .failed _ _⟩
  rintro _ ⟨⟩
  exact same

theorem turning_maintains : turning.Maintains (fun s => s.log = log) fun _ => True := by
  refine Prog.Maintains.on log_hidden fun v asked w a shows coded => ⟨?_, fun t _ => .pure trivial⟩
  rintro _ ⟨⟩

theorem glances_sparesLog : glances.SparesLog := by
  rintro log _ _ _ ⟨⟩
  exact .bind look_maintains fun copy same => .bind turning_maintains fun _ _ =>
    putBack_maintains same

theorem meaning_look (s : PluginState schema) : look.meaning s = .done (.value s, s) := by
  have projected : (everything.view (S := schema)).project s = (.ok s, s) := rfl
  have stepped : Prog.viewStep (everything.view (S := schema)) Stateful.get s =
      .done (.value s, s) := Prog.viewStep_get projected
  simp only [look, Prog.on, Prog.meaning]
  rw [stepped]
  rfl

theorem meaning_putBack (copy s : PluginState schema) :
    (putBack copy).meaning s = .done (.error (.program "nothing to read"), copy) := by
  have projected : (everything.view (S := schema)).project s = (.ok s, s) := rfl
  have stepped : Prog.viewStep (everything.view (S := schema)) (Stateful.set copy) s =
      .done (.value (), copy) := Prog.viewStep_set projected
  simp only [putBack, Prog.on, Prog.meaning]
  rw [stepped]
  rfl

theorem turn_binds : Request.Binds glances ⟨"command:turn", [], true⟩ opened turn glancing := by
  have within : turn.program.arity.Within ([] : List Json).length := Arity.accepts_iff.1 rfl
  exact .decoded (d := definition) opened_turn rfl within rfl rfl

theorem glancing_returns : (PluginHost.dispatch glances ⟨"command:turn", [], true⟩ opened).Returns
    (.error (.program "nothing to read"), opened.logProgram "turn") := by
  have meaning : glancing.meaning (opened.logProgram "turn") =
      .done (.error (.program "nothing to read"), opened.logProgram "turn") := by
    simp only [glancing, Prog.meaning, meaning_look, meaning_turning, meaning_putBack,
      Script.done_bind]
  rw [turn_binds.dispatch_eq rfl, Prog.run_eq_meaning]
  change ((glancing.meaning (opened.logProgram "turn")).map _).Returns _
  rw [meaning]
  exact .done _

theorem turn_refused : Request.Refused glances ⟨"command:turn", [.null], true⟩
    (opened.logProgram "turn") (.arity "turn" "exactly 0" 1) := by
  have read : Request.arguments ⟨"command:turn", [.null], true⟩ turn.options.json =
      .ok [.null] := rfl
  refine .count opened_turn read fun within => ?_
  cases Arity.accepts_iff.2 within

end Notebook

-- The copy that is put back was taken when the entry was there. The second request is refused.
open Notebook in
theorem log_of_glancing :
    glances.Defined ∧ glances.SparesLog ∧
      Requests glances opened ["turn"] (opened.logProgram "turn") ∧
      (opened.logProgram "turn").log = opened.log ++ ["turn"] := by
  have refused :
      (dispatch glances ⟨"command:turn", [.null], true⟩ (opened.logProgram "turn")).Returns
        (.error (.arity "turn" "exactly 0" 1), opened.logProgram "turn") :=
    turn_refused.dispatch_eq ▸ .done _
  have first : Requests glances opened ["turn"] (opened.logProgram "turn") :=
    .dispatch .start (.bound turn_binds rfl) glancing_returns
  have requests : Requests glances opened ["turn"] (opened.logProgram "turn") :=
    .dispatch first (.refused turn_refused) refused
  exact ⟨glances_defined, glances_sparesLog, requests,
    (log_of_requests glances_defined).2.2.2 glances_sparesLog _ _ _ requests⟩

end PluginHost
