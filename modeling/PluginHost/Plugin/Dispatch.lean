import PluginHost.Plugin.Config

/-!
Requests of the editor: looking up the program, reading its arguments, running it on the state.
-/

set_option autoImplicit false

namespace PluginHost

structure Request where
  method : String
  args : List Json
  /-- Whether the editor waits for the result. -/
  sync : Bool
deriving DecidableEq

namespace Request

/-- The kind of trigger that sends a method. -/
def kind? (method : String) : Option TriggerKind :=
  match Text.splitText ':' method with
  | kind :: _ :: _ => TriggerKind.parse kind
  | _ => none

/-- Functions get their arguments as one list. -/
def unpack (kind : Option TriggerKind) (args : List Json) : List Json :=
  match kind, args with
  | some .function, [.array inner] => inner
  | _, args => args

def opensObject (v : Json) : Bool :=
  match v with
  | .string s => (Text.trimStart s.toList).head? == some '\x7b'
  | _ => false

/-- The arguments from the first that opens an object on are one JSON document. -/
def joinDocument (args : List Json) : Except PluginError (List Json) :=
  match args.dropWhile fun v => !opensObject v with
  | [] => .ok args
  | tail =>
    match Json.parse (" ".intercalate (tail.map Json.plainText)) with
    | .ok document => .ok ((args.takeWhile fun v => !opensObject v) ++ [document])
    | .error message => .error (.decode message)

def arguments (r : Request) (json : Bool) : Except PluginError (List Json) :=
  let args := unpack (kind? r.method) r.args
  if json then joinDocument args else .ok args

end Request

variable {S : Schema}

/-- No panic of the code that builds the program stands in its place. -/
def Prog.isBuilt {σ α : Type} : Prog σ α → Bool
  | .panic _ => false
  | .bind inner _ => inner.isBuilt
  | _ => true

/-- Looks up and binds the program of a request. Its name is logged once it is bound; a refusal is
a program that fails. -/
def prepare (lib : Library S) (r : Request) (s : PluginState S) :
    Prog (PluginState S) Json × PluginState S :=
  match s.lookupMethod r.method with
  | none => (.failed (.unknownMethod r.method), s)
  | some handler =>
    match r.arguments handler.options.json with
    | .error e => (.failed e, s)
    | .ok args =>
      match handler.program.bind (lib.source handler.program.code) args with
      | .error e => (.failed e, s)
      | .ok prog => (prog, if prog.isBuilt then s.logProgram handler.program.name else s)

/-- Looks up, binds and runs a request. -/
def execute (lib : Library S) (r : Request) (s : PluginState S) :
    Script (Outcome PluginError Json × PluginState S) :=
  (prepare lib r s).1.run (prepare lib r s).2

/-- A panic that nothing in the program caught fails the request. -/
def settled {α : Type} : Outcome PluginError α → Except PluginError α
  | .value a => .ok a
  | .error e => .error e
  | .panic _ => .error (.fatal "program panicked")

/-- Runs a program outside of any request. -/
def runProgram {α : Type} (prog : Prog (PluginState S) α) (s : PluginState S) :
    Script (Except PluginError α × PluginState S) :=
  (prog.run s).map fun (r, s) => (settled r, s)

def dispatch (lib : Library S) (r : Request) (s : PluginState S) :
    Script (Except PluginError Json × PluginState S) :=
  (execute lib r s).map fun (r, s) => (settled r, s)

/-- Tells the editor about an error nobody waits for. -/
def report (e : PluginError) : Script Unit :=
  (Action.notify "nvim_err_writeln" [.string e.message]).evaluate.map fun _ => ()

/-- Reports the failure of a request that the editor does not wait for. -/
def reportUnlessSync (r : Request) (result : Except PluginError Json) : Script Unit :=
  match result with
  | .error e => if r.sync then .done () else report e
  | .ok _ => .done ()

def handle (lib : Library S) (r : Request) (s : PluginState S) :
    Script (Except PluginError Json × PluginState S) :=
  (dispatch lib r s).bind fun (result, s) =>
    (reportUnlessSync r result).map fun () => (result, s)

end PluginHost
