import PluginHost.Scripted.ActionExpr
import PluginHost.Stateful

/-!
Descriptions of computations on a view. A view shows its main data and, if it has one, a
component's state as JSON.
-/

set_option autoImplicit false

namespace PluginHost.Scripted

/-- How described code gets at a view of type `ρ`. -/
structure Access (ρ : Type) where
  /-- Whether the view is JSON itself. -/
  plain : Bool
  main : ρ → Json
  setMain : ρ → Json → Except String ρ
  comp : ρ → Except String (ρ × Json)
  setComp : ρ → Json → Except String ρ
  extra : ρ → Json

def noComponent {α : Type} : Except String α := .error "view has no component"

def Access.json : Access Json :=
  ⟨true, id, fun _ v => .ok v, fun _ => noComponent, fun _ _ => noComponent, fun _ => .null⟩

inductive StateExpr where
  | pure (x : Template)
  | error (message : Template)
  | failed (e : EditorErrorExpr)
  | channel
  | panic (message : Template)
  | lift (e : ActionExpr)
  | get
  | set (x : Template)
  | modify (f : Function)
  | inspect (f : Function)
  | inspectEither (key : Template)
  | inspectMaybe (key message : Template)
  | extra
  | comp
  | modifyComp (f : Function)
  | fromId (x : Template)
  | maybe (x message : Template)
  | either (r : Except Template Template)
  | bind (e next : StateExpr)
  | andThen (e next : StateExpr)
  | map (e : StateExpr) (f : Function)
  | seq (es : List StateExpr)
  | list (es : List StateExpr)
  | repeated (n : Nat) (e : StateExpr)
  | zoom (key : Template) (e : StateExpr)
  | transform (key : Template) (e : StateExpr)
deriving Inhabited

namespace Access

variable {ρ : Type} (a : Access ρ)

def member (key : String) (r : ρ) : Json := ((a.main r).get? key).getD .null

/-- Puts a member into the main data; what does not decode then is a bug of the code. -/
def putMember (key : String) (r : ρ) (v : Json) : Calc ρ :=
  (a.setMain r (Scripted.putMember (a.main r) key v)).mapError Panic.mk

def toNull (x : Stateful ρ Unit) : Stateful ρ Json := x.map fun () => .null

/-- Replaces the main data by a function of it. -/
def modifyMain (f : Json → Calc Json) : Stateful ρ Json :=
  if a.plain then
    toNull (.modify fun r => do
      match a.setMain r (← f (a.main r)) with
      | .ok r => return r
      | .error m => throw ⟨m⟩)
  else
    .tryDirect fun r => do
      let v ← f (a.main r)
      return (a.setMain r v).map fun r => (r, .null)

def modifyComponent (f : Json → Calc Json) : Stateful ρ Json :=
  .tryDirect fun r =>
    match a.comp r with
    | .error m => .ok (.error m)
    | .ok (r, v) => do
      let v ← f v
      return (a.setComp r v).map fun r => (r, .null)

def append (vs : Json) (v : Json) : Json :=
  match vs with
  | .array items => .array (items ++ [v])
  | _ => .array [v]

end Access

namespace StateExpr

/-- Binds the same computation `n` times; each run sees the value of the one before. -/
def repeatWith {ρ : Type} (next : Json → Stateful ρ Json) :
    Nat → Stateful ρ Json → Stateful ρ Json
  | 0, x => x
  | n + 1, x => repeatWith next n (x.flatMap next)

mutual
def meaning {ρ : Type} (a : Access ρ) (env : Env) : StateExpr → Stateful ρ Json
  | .pure x => .pure (x.resolve env)
  | .error m => .error (m.text env)
  | .failed e => .failed (e.meaning env)
  | .channel => .delay fun () => .ask .channel fun n => .pure (.int n)
  | .panic m => .delay fun () => .panic (m.text env)
  | .lift e => .lift (e.meaning env)
  | .get => .inspect fun r => .ok (a.main r)
  | .set x => a.modifyMain fun _ => .ok (x.resolve env)
  | .modify f => a.modifyMain (f.apply env)
  | .inspect f => .inspect fun r => f.apply env (a.main r)
  | .inspectEither key => .tryInspect fun r => ActionExpr.memberOf (key.text env) (a.main r)
  | .inspectMaybe key message => .tryInspect fun r =>
    match (a.main r).get? (key.text env) with
    | some v => .ok v
    | none => .error (message.text env)
  | .extra => .inspect fun r => .ok (a.extra r)
  | .comp => .tryDirect fun r => .ok (a.comp r)
  | .modifyComp f => a.modifyComponent (f.apply env)
  | .fromId x => .direct fun r => .ok (r, .array [a.main r, x.resolve env])
  | .maybe x message =>
    let v := x.resolve env
    .ofOption (if v.isNull then none else some v) (message.text env)
  | .either (.ok x) => .ofExcept (.ok (x.resolve env))
  | .either (.error m) => .ofExcept (.error (m.text env))
  | .bind e next => (e.meaning a env).flatMap fun v => next.meaning a (env.withIt v)
  | .andThen e next => (e.meaning a env).andThen fun () => next.meaning a env
  | .map e f => (e.meaning a env).mapCalc (f.apply env)
  | .seq es => chain a env es (.pure .null)
  | .list es => collect a env es (.pure (.array []))
  | .repeated n e => repeatWith (fun v => e.meaning a (env.withIt v)) n (.pure .null)
  | .zoom key e =>
    let key := key.text env
    (e.meaning Access.json env).zoom ⟨a.member key, a.putMember key⟩
  | .transform key e =>
    let key := key.text env
    (e.meaning Access.json env).transform (fun r => .record [("view", a.member key r)])
      fun r v => a.putMember key r ((v.get? "view").getD .null)

/-- Binds computations one after the other; each sees the value of the one before. -/
def chain {ρ : Type} (a : Access ρ) (env : Env) :
    List StateExpr → Stateful ρ Json → Stateful ρ Json
  | [], x => x
  | e :: rest, x => chain a env rest (x.flatMap fun v => e.meaning a (env.withIt v))

/-- Appends the values of computations to a list. -/
def collect {ρ : Type} (a : Access ρ) (env : Env) :
    List StateExpr → Stateful ρ Json → Stateful ρ Json
  | [], x => x
  | e :: rest, x =>
    collect a env rest (x.flatMap fun vs => (e.meaning a env).map (Access.append vs))
end

end StateExpr

end PluginHost.Scripted
