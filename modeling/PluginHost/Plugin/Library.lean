import PluginHost.Plugin.State

/-!
What the code names of a plugin mean, and how effects are carried out.
-/

set_option autoImplicit false

namespace PluginHost

/-- The meaning of a plugin's code names, of programs and of interpreters of effects. -/
structure Library (S : Schema) : Type 1 where
  code : S.Code → List Json → Except PluginError (Prog (PluginState S) Json)
  interpret : S.Code → {r : ResultType} → Effect r → PluginState S → Prog (PluginState S) EffectValue

namespace Library

variable {S : Schema}

def bind (lib : Library S) (p : UserProgram S) (args : List Json) :
    Except PluginError (Prog (PluginState S) Json) :=
  p.bind (lib.code p.code) args

/-- Runs a program of the author as a part of another. -/
def call (lib : Library S) (p : UserProgram S) (args : List Json) : Prog (PluginState S) Json :=
  p.call (lib.code p.code) args

end Library

/-- Runs a task where it stands. A failure shows its outermost message. -/
def Task.body (t : Task) : Body Json :=
  .ask (.sleep t.span) fun () =>
    match t.outcome with
    | .value v => .pure v
    | .failure messages => .failed (.logical (messages.head?.getD ""))
    | .panic m => .panic m

namespace Effect

def gatherTasks (threads : Nat) (tasks : List Task) (timeout : Duration) :
    Action (List (Gathered Json)) :=
  .suspend "simple" fun () => .ask (.runTasks threads tasks timeout) fun
    | .ok completed => .pure (Gathered.collect tasks.length timeout
      (completed.map fun (i, outcome) => (i, outcome.gathered)))
    | .error p => .panic p.message

/-- Subprocesses get some time beyond their timeout to be ended. -/
def grace : Duration := .ofMillis 200

def gatherProcesses (processes : List Subprocess) (timeout : Duration)
    (next : List (Gathered SubprocessResult) → Body EffectValue) : Body EffectValue :=
  let limited := processes.map fun p => (p, p.limit timeout)
  .ask (.runSubprocesses limited (timeout + grace)) fun
    | .ok completed =>
      let ended := completed.filterMap fun (i, outcome) =>
        (processes[i]?).map fun p => (i, outcome.gathered p timeout)
      next (Gathered.collect processes.length timeout ended)
    | .error p => .panic p.message

/-- The only result of a batch of one. -/
def single (results : List (Gathered SubprocessResult)) : Body EffectValue :=
  match results.getLast? with
  | some (.ok r) => .pure ⟨.subprocess, r⟩
  | some (.error e) => .failed (.logical e.message)
  | none => .failed (.logical "no result")

/-- Shows a message to the user of the editor. -/
def display (message : String) : EchoLevel → Action Unit
  | .error => .write "nvim_err_writeln" [.string message]
  | .warning => .write "nvim_echo"
    [.array [.array [.string message, .string "WarningMsg"]], .bool true, .emptyObject]
  | .info => .write "nvim_echo" [.array [.array [.string message]], .bool true, .emptyObject]

def showAll (messages : List String) (level : EchoLevel) : Action Unit :=
  messages.foldl (fun x message => x.andThen fun () => display message level) (.pure ())

variable {S : Schema}

/-- Carries an effect out with a pool of workers, the plugin's logger and its executor. -/
def carryOut (lib : Library S) (threads : Nat) (timeout : Duration) {r : ResultType}
    (e : Effect r) (s : PluginState S) : Prog (PluginState S) EffectValue :=
  match e with
  | .scalar task => .editor ((Action.outside fun () => task.body).map fun v => ⟨.json, v⟩)
  | .gather tasks own =>
    .editor ((gatherTasks threads tasks (own.getD timeout)).map fun vs => ⟨.tasks, vs⟩)
  | .subprocess process =>
    .editor (.outside fun () => gatherProcesses [process] process.timeout single)
  | .gatherSubprocesses processes own =>
    .editor (.suspend "simple" fun () => gatherProcesses processes (own.getD timeout) fun vs =>
      .pure ⟨.subprocesses, vs⟩)
  | .echo messages level =>
    match s.logger with
    | some logger =>
      (lib.call logger [.strings messages, .string level.text]).map fun _ => ⟨.unit, ()⟩
    | none => .editor ((showAll messages level).map fun () => ⟨.unit, ()⟩)
  | .custom payload =>
    match s.executor with
    | some execute =>
      .editor ((Action.outside fun () => (Task.mk ⟨0⟩ (execute payload)).body).map fun v =>
        ⟨.json, v⟩)
    | none => .failed (.program "no io executor configured for custom effects")

/-- Carries an effect out with the interpreter the state holds. -/
def interpret (lib : Library S) {r : ResultType} (e : Effect r) (s : PluginState S) :
    Prog (PluginState S) EffectValue :=
  match s.interpreter with
  | .pool threads timeout => e.carryOut lib threads timeout s
  | .custom code => lib.interpret code e s

/-- The output of a step whose value is an effect: it goes on with the effect's result. -/
def output (lib : Library S) {r : ResultType} (e : Effect r) (s : PluginState S) :
    Prog (PluginState S) r.Value :=
  .bind (e.interpret lib s) fun ⟨r', v⟩ =>
    if h : r' = r then .pure (h ▸ v)
    else .failed (.fatal "`ProgIO` received a value of an unexpected type")

end Effect

end PluginHost
