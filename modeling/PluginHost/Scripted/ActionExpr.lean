import PluginHost.Editor.Action
import PluginHost.Scripted.Template
import PluginHost.Scripted.Types

/-!
Descriptions of editor computations.
-/

set_option autoImplicit false

namespace PluginHost.Scripted

/-- Reads a value of a type and writes it back. -/
def readAs {α : Type} (encode : α → Json) (decode : Decoder α) : Decoder Json := fun v =>
  (decode v).map fun a => (encode a).canonical

inductive ReadType where
  | int64
  | nat8
  | double
  | bool
  | string
  | strings
  | optionalInt
  | pair
  | counter
  | json

def ReadType.decode : ReadType → Decoder Json
  | .int64 => readAs .int Decode.int64
  | .nat8 => readAs .nat Decode.nat8
  | .double => readAs (fun x => .number (.double x)) Decode.double
  | .bool => readAs .bool Decode.bool
  | .string => readAs .string Decode.string
  | .strings => readAs .strings (Decode.list Decode.string)
  | .optionalInt => readAs (fun n => (n.map .int).getD .null) (Decode.option Decode.int64)
  | .pair => readAs (fun (n, v) => .array [.int n, v]) (Decode.pair Decode.int64 Decode.json)
  | .counter => readAs Counter.encode Counter.decode
  | .json => Decode.json

inductive ActionExpr where
  | pure (x : Template)
  | error (message : Template)
  | failed (e : EditorErrorExpr)
  | delay (x : Template)
  | channel
  | cancel
  | panic (message : Template)
  | tryDelay (r : Except EditorErrorExpr Template)
  | suspend (e : ActionExpr)
  | suspendPanic (message : Template)
  | outside (r : Except Template Template)
  | ofResult (r : Except EditorErrorExpr Template)
  | ofEither (r : Except Template Template)
  | ofMaybe (x message : Template)
  | simple (x : Template)
  | bind (e next : ActionExpr)
  | andThen (e next : ActionExpr)
  | map (e : ActionExpr) (f : Function)
  | seq (es : List ActionExpr)
  | recover (e : ActionExpr)
  | recoverFailure (e handler : ActionExpr)
  | ensure (e finalizer : ActionExpr)
  | read (method args key : Template)
  | readAs (method args : Template) (type : ReadType)
  | readCons (method args : Template)
  | getVar (name : Template) (type : ReadType)
  | callFunction (name args : Template) (type : ReadType)
  | write (method args : Template)
  | notify (method args : Template)
  | command (text : Template)
  | isCancelled
  | unlessCancelled
  | sleep (millis : Nat)
  | fork (e : ActionExpr)
  | left (n : Nat)
  | right (n : Nat) (e : ActionExpr)
deriving Inhabited

namespace ActionExpr

def addOne (v : Json) : Json := wrapped (intOf v + 1)

/-- A chain of binds nested to the left, each of which adds one. -/
def leftChain : Nat → Action Json → Action Json
  | 0, x => x
  | n + 1, x => leftChain n (x.flatMap fun v => .pure (addOne v))

/-- A chain nested to the right around `x`, each layer of which adds one. -/
def rightChain (x : Action Json) : Nat → Action Json
  | 0 => x
  | n + 1 => (Action.suspended fun () => .build (rightChain x n)).map addOne

def toUnit (x : Action Json) : Action Unit := x.map fun _ => ()

def toNull (x : Action Unit) : Action Json := x.map fun () => .null

def memberOf (key : String) (v : Json) : Except String Json :=
  match v.get? key with
  | some member => .ok member
  | none => .error s!"no key {key}"

def byteLength (v : Json) : Option Json := v.string?.map fun s => .nat s.utf8ByteSize

/-- The outcome of a computation as its handler sees it. -/
def outcomeValue : Except EditorError Json → Json
  | .ok v => .record [("ok", v)]
  | .error e =>
    .record [("err", errorValue e), ("fatal", .bool e.isFatal), ("logical", .bool e.isLogical)]

mutual
def meaning (env : Env) : ActionExpr → Action Json
  | .pure x => .pure (x.resolve env)
  | .error m => .error (m.text env)
  | .failed e => .failed (e.meaning env)
  | .delay x => .delay fun () => .pure (x.resolve env)
  | .channel => .delay fun () => .ask .channel fun n => .pure (.int n)
  | .cancel => .delay fun () => .ask .cancel fun () => .pure .null
  | .panic m => .delay fun () => .panic (m.text env)
  | .tryDelay (.ok x) => .delay fun () => .pure (x.resolve env)
  | .tryDelay (.error e) => .delay fun () => .failed (e.meaning env)
  | .suspend e => .suspended fun () => .build (e.meaning env)
  | .suspendPanic m => .suspended fun () => .panic (m.text env)
  | .outside (.ok x) => .outside fun () => .pure (x.resolve env)
  | .outside (.error m) => .outside fun () => .failed (.logical (m.text env))
  | .ofResult (.ok x) => .pure (x.resolve env)
  | .ofResult (.error e) => .failed (e.meaning env)
  | .ofEither (.ok x) => .pure (x.resolve env)
  | .ofEither (.error m) => .error (m.text env)
  | .ofMaybe x m =>
    let v := x.resolve env
    .ofOption (if v.isNull then none else some v) (m.text env)
  | .simple x => .simple fun () => .ok (x.resolve env)
  | .bind e next => (e.meaning env).flatMap fun v => next.meaning (env.withIt v)
  | .andThen e next => (e.meaning env).andThen fun () => next.meaning env
  | .map e f => (e.meaning env).mapCalc (f.apply env)
  | .seq es => chain env es (.pure .null)
  | .recover e => (e.meaning env).recovered fun err => .record [("recovered", errorValue err)]
  | .recoverFailure e handler =>
    (e.meaning env).recoverFailure fun r => handler.meaning (env.withIt (outcomeValue r))
  | .ensure e finalizer => (e.meaning env).ensure fun () => toUnit (finalizer.meaning env)
  | .read method args key => .read (method.text env) (args.list env) (memberOf (key.text env))
  | .readAs method args type =>
    (Action.readAs type.decode (method.text env) (args.list env)).map fun v => v
  | .readCons method args => .readCons (method.text env) byteLength (args.list env)
  | .getVar name type => (Action.getVar type.decode (name.text env)).map fun v => v
  | .callFunction name args type =>
    (Action.callFunction type.decode (name.text env) (args.list env)).map fun v => v
  | .write method args => toNull (.write (method.text env) (args.list env))
  | .notify method args => toNull (.notify (method.text env) (args.list env))
  | .command text => toNull (.command (text.text env))
  | .isCancelled => Action.isCancelled.map .bool
  | .unlessCancelled => toNull .unlessCancelled
  | .sleep millis => toNull (.sleep (.ofMillis millis))
  | .fork e =>
    (Action.fork fun () => (toUnit (e.meaning env)).ensure fun () =>
      .simple fun () => .ok ()).flatMap fun () => .simple fun () => .ok (.bool true)
  | .left n => leftChain n (.pure (.nat 0))
  | .right n e => rightChain (e.meaning env) n

/-- Binds computations one after the other; each sees the value of the one before. -/
def chain (env : Env) : List ActionExpr → Action Json → Action Json
  | [], x => x
  | e :: rest, x => chain env rest (x.flatMap fun v => e.meaning (env.withIt v))
end

end ActionExpr

end PluginHost.Scripted
