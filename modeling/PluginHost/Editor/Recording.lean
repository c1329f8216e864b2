import PluginHost.Editor.Machine

/-!
An editor in memory. It keeps variables, writes down every request, and answers a few methods by
itself; other answers are given in advance, used in their order, the last of them again and again.
-/

set_option autoImplicit false

namespace PluginHost

structure Recording where
  /-- The channel of the connection. -/
  channel : Int
  /-- The channel that the editor itself gives. -/
  ownChannel : Int
  vars : List (String × Json)
  replies : List (String × List Reply)
  /-- The requests so far, latest first. -/
  seen : List (String × List Json)
  cancelled : Bool
  logLevel : String
  machine : Machine

namespace Recording

def start (channel : Int) (vars : List (String × Json)) (replies : List (String × List Reply)) :
    Recording :=
  ⟨channel, 1, vars, replies, [], false, "", .start⟩

def requests (r : Recording) : List (String × List Json) := r.seen.reverse

def var? (r : Recording) (name : String) : Option Json := r.vars.lookup name

def setVar (r : Recording) (name : String) (v : Json) : Recording :=
  { r with vars := (name, v) :: r.vars }

/-- The ex commands among the requests. -/
def commands (r : Recording) : List String :=
  r.requests.filterMap fun (method, args) =>
    if method = "nvim_command" then args.head?.bind Json.string? else none

def firstText (args : List Json) : String := (args.head?.bind Json.string?).getD ""

def builtin (r : Recording) (method : String) (args : List Json) : Reply × Recording :=
  let name := firstText args
  match method with
  | "nvim_get_var" =>
    match r.var? name with
    | some v => (.value v, r)
    | none => (.error (.request method s!"Key not found: {name}"), r)
  | "nvim_set_var" => (.value .null, r.setVar name (args[1]?.getD .null))
  | "nvim_get_option" => (.value ((r.var? s!"&{name}").getD .null), r)
  | "nvim_get_api_info" => (.value (.array [.int r.ownChannel, .emptyObject]), r)
  | _ => (.value .null, r)

/-- Takes the next of the replies given for `method`; the last one stays. -/
def takeReply (method : String) :
    List (String × List Reply) → Option (Reply × List (String × List Reply))
  | [] => none
  | (name, replies) :: rest =>
    if name = method then
      match replies with
      | [] => none
      | [reply] => some (reply, (name, [reply]) :: rest)
      | reply :: later => some (reply, (name, later) :: rest)
    else (takeReply method rest).map fun (reply, rest) => (reply, (name, replies) :: rest)

def request (r : Recording) (method : String) (args : List Json) : Reply × Recording :=
  let r := { r with seen := (method, args) :: r.seen }
  match takeReply method r.replies with
  | some (reply, replies) => (reply, { r with replies })
  | none => r.builtin method args

def answer (r : Recording) : (q : Query) → q.Answer × Recording
  | .request method args => r.request method args
  | .notify method args => r.request method args
  | .channel => (r.channel, r)
  | .cancel => ((), { r with cancelled := true })
  | .isCancelled => (r.cancelled, r)
  | .sleep span => ((), { r with machine := r.machine.pass span.nanos })
  | .freshId =>
    let (id, machine) := r.machine.draw
    (id, { r with machine })
  | .logLevel => (r.logLevel, r)
  | .setLogLevel level => ((), { r with logLevel := level })
  | .runTasks threads tasks wait =>
    let (done, machine) := r.machine.runTasks threads tasks wait
    (done, { r with machine })
  | .runSubprocesses processes wait =>
    let (done, machine) := r.machine.runSubprocesses processes wait
    (done, { r with machine })

end Recording

def Script.runIn {α : Type} (r : Recording) : Script α → α × Recording
  | .done a => (a, r)
  | .ask q next =>
    let (a, r) := r.answer q
    (next a).runIn r

end PluginHost
