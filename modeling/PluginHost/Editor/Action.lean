import PluginHost.Editor.Query
import PluginHost.Json.Decode

/-!
Editor computations. An `Action` is a description: nothing reaches the editor until it is
evaluated. A `Body` is the code that runs when a step, a continuation or a handler is reached; it
may ask the world, panic, start a task of its own, and in the end builds the action to go on with.
-/

set_option autoImplicit false

namespace PluginHost

mutual
inductive Action : Type → Type 1 where
  | pure {α : Type} (a : α) : Action α
  | failed {α : Type} (e : EditorError) : Action α
  | suspend {α : Type} (label : String) (body : Unit → Body α) : Action α
  | bind {α β : Type} (inner : Action β) (next : β → Body α) : Action α
  | recover {α β : Type} (inner : Action β) (handler : Except EditorError β → Body α) : Action α

inductive Body : Type → Type 1 where
  | build {α : Type} (x : Action α) : Body α
  | panic {α : Type} (message : String) : Body α
  | ask {α : Type} (query : Query) (next : query.Answer → Body α) : Body α
  /-- Goes on without the outcome of a task. It is meant to run beside the rest, on a thread of its
  own; here it asks all that it asks before the rest goes on. -/
  | fork {α : Type} (task : Action Unit) (next : Unit → Body α) : Body α
end

namespace Body

variable {α β : Type}

def pure (a : α) : Body α := .build (.pure a)

def failed (e : EditorError) : Body α := .build (.failed e)

def ofResult : Except EditorError α → Body α
  | .ok a => .pure a
  | .error e => .failed e

def ofCalc : Calc α → Body α
  | .ok a => .pure a
  | .error p => .panic p.message

/-- Changes the action a body builds in the end. -/
def onBuilt (g : Action α → Action β) : Body α → Body β
  | .build x => .build (g x)
  | .panic m => .panic m
  | .ask q next => .ask q fun a => (next a).onBuilt g
  | .fork task next => .fork task fun u => (next u).onBuilt g

/-- Asks a script's questions before going on. -/
def ofScript (f : α → Body β) : Script α → Body β
  | .done a => f a
  | .ask q next => .ask q fun a => ofScript f (next a)

end Body

namespace Action

variable {α β : Type}

def error (message : String) : Action α := .failed (.logical message)

def ofResult : Except EditorError α → Action α
  | .ok a => .pure a
  | .error e => .failed e

/-- The message of a refusal becomes a logical error. -/
def ofExcept : Except String α → Action α
  | .ok a => .pure a
  | .error message => .error message

def ofOption (value : Option α) (message : String) : Action α :=
  match value with
  | some a => .pure a
  | none => .error message

def delay (body : Unit → Body α) : Action α := .suspend "delay" body

def suspended (body : Unit → Body α) : Action α := .suspend "suspend" body

/-- A step that needs no editor. -/
def simple (f : Unit → Calc α) : Action α := .suspend "simple" fun u => .ofCalc (f u)

/-- A deferred step outside the editor whose refusal is a logical error. -/
def outside (body : Unit → Body α) : Action α := .suspend "from_io" body

def flatMap (x : Action α) (f : α → Action β) : Action β := .bind x fun a => .build (f a)

def andThen (x : Action α) (next : Unit → Action β) : Action β := x.flatMap fun _ => next ()

def mapCalc (x : Action α) (f : α → Calc β) : Action β := .bind x fun a => .ofCalc (f a)

def map (x : Action α) (f : α → β) : Action β := .bind x fun a => .pure (f a)

/-- Hands the whole outcome, value or error, to `f`. -/
def recoverFailure (x : Action α) (f : Except EditorError α → Action β) : Action β :=
  .recover x fun r => .build (f r)

/-- Puts a value in the place of any error. -/
def recovered (x : Action α) (f : EditorError → α) : Action α :=
  x.recoverFailure fun
    | .ok a => .pure a
    | .error e => .pure (f e)

/-- Runs `finalizer` after `x` however `x` ends, then goes on with the outcome of `x`. -/
def ensure (x : Action α) (finalizer : Unit → Action Unit) : Action α :=
  x.recoverFailure fun r => (finalizer ()).flatMap fun () => .ofResult r

/-- Requests `method` and decodes the response. -/
def read (method : String) (args : List Json) (decode : Json → Except String α) : Action α :=
  .suspend s!"read:{method}" fun () => .ask (.request method args) fun
    | .value v =>
      match decode v with
      | .ok a => .pure a
      | .error message => .failed (.decode method message)
    | .error e => .failed e
    | .panic m => .panic m

def decodeWith (d : Decoder α) (v : Json) : Except String α := (d v).mapError DecodeError.message

def readAs (d : Decoder α) (method : String) (args : List Json) : Action α :=
  read method args (decodeWith d)

/-- Requests `method` and applies a constructor that may not fit the response. -/
def readCons (method : String) (cons : Json → Option α) (args : List Json) : Action α :=
  read method args fun v =>
    match cons v with
    | some a => .ok a
    | none => .error s!"unexpected response {v.render}"

def getVar (d : Decoder α) (name : String) : Action α := readAs d "nvim_get_var" [.string name]

def callFunction (d : Decoder α) (name : String) (args : List Json) : Action α :=
  readAs d "nvim_call_function" [.string name, .array args]

/-- Requests `method` and drops the response. -/
def write (method : String) (args : List Json) : Action Unit :=
  .suspend s!"write:{method}" fun () => .ask (.request method args) fun
    | .value _ => .pure ()
    | .error e => .failed e
    | .panic m => .panic m

def notify (method : String) (args : List Json) : Action Unit :=
  .suspend s!"notify:{method}" fun () => .ask (.notify method args) fun
    | .value _ => .pure ()
    | .error e => .failed e
    | .panic m => .panic m

def command (text : String) : Action Unit := write "nvim_command" [.string text]

def sleep (span : Duration) : Action Unit :=
  .suspend "sleep" fun () => .ask (.sleep span) fun () => .pure ()

def fork (task : Unit → Action Unit) : Action Unit :=
  .suspend "fork" fun () => .fork (task ()) fun () => .pure ()

def isCancelled : Action Bool := .suspend "cancelled" fun () => .ask .isCancelled fun b => .pure b

def unlessCancelled : Action Unit :=
  isCancelled.flatMap fun cancelled => if cancelled then .error "cancelled" else .pure ()

/-- The outermost layer of a description. -/
def describe : Action α → String
  | .pure _ => "NvimIO::Pure"
  | .failed e => s!"NvimIO::Failed({e.message})"
  | .suspend label _ => s!"NvimIO::Suspend({label})"
  | .bind _ _ => "NvimIO::BindSuspend"
  | .recover _ _ => "NvimIO::Recover"

end Action

end PluginHost
