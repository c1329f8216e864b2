import PluginHost.Editor.Query
import PluginHost.Effect.Basic
import PluginHost.Error
import PluginHost.Json.Print

/-!
Programs described by data. Their operands are templates: JSON values in which certain texts stand
for the arguments of the program and for the current value, at any depth.
-/

set_option autoImplicit false

namespace PluginHost.Scripted

structure Env where
  args : List Json
  /-- The current value. -/
  it : Json

namespace Env

def withIt (env : Env) (v : Json) : Env := { env with it := v }

def arg (env : Env) (i : Nat) : Json := env.args[i]?.getD .null

/-- What a text stands for. -/
def lookup (env : Env) (s : String) : Json :=
  match s with
  | "$it" => env.it
  | "$args" => .array env.args
  | _ =>
    match s.toList with
    | ['$', d] => if d.isDigit then env.arg (d.toNat - '0'.toNat) else .string s
    | _ => .string s

end Env

abbrev Template := Json

namespace Template

mutual
/-- Puts values in the place of the texts that stand for them. -/
def fill (env : Env) : Json → Json
  | .string s => env.lookup s
  | .array items => .array (fillItems env items)
  | .object fields => .object (fillFields env fields)
  | v => v

def fillItems (env : Env) : List Json → List Json
  | [] => []
  | v :: rest => fill env v :: fillItems env rest

def fillFields (env : Env) : List (String × Json) → List (String × Json)
  | [] => []
  | (key, v) :: rest => (key, fill env v) :: fillFields env rest
end

def resolve (env : Env) (t : Template) : Json := fill env t

def text (env : Env) (t : Template) : String := (resolve env t).plainText

def list (env : Env) (t : Template) : List Json :=
  match resolve env t with
  | .array items => items
  | .null => []
  | v => [v]

end Template

/-- The integer of a value that is a signed one, else zero. -/
def intOf (v : Json) : Int := v.int64?.getD 0

/-- Integers wrap around at 64 bits. -/
def wrapped (i : Int) : Json := .int (i.bmod Word.size)

/-- Sets a member; values that are no objects stay as they are. -/
def putMember (v : Json) (key : String) (member : Json) : Json :=
  match v with
  | .object fields => .object (Fields.insert fields key member)
  | v => v

inductive Function where
  | id
  | add (x : Template)
  | mul (x : Template)
  | get (key : Template)
  | wrap (key : Template)
  | const (x : Template)
  | len
  | put (key x : Template)
  | incr (key x : Template)
  | push (x : Template)
  | panic (message : Template)

def Function.apply (env : Env) (f : Function) (v : Json) : Calc Json :=
  let value := Template.resolve env
  let text := Template.text env
  match f with
  | .id => .ok v
  | .add x => .ok (wrapped (intOf v + intOf (value x)))
  | .mul x => .ok (wrapped (intOf v * intOf (value x)))
  | .get key => .ok ((v.get? (text key)).getD .null)
  | .wrap key => .ok (.record [(text key, v)])
  | .const x => .ok (value x)
  | .len => .ok (.nat ((v.items?.map List.length).getD 0))
  | .put key x => .ok (putMember v (text key) (value x))
  | .incr key x =>
    let old := ((v.get? (text key)).map intOf).getD 0
    .ok (putMember v (text key) (wrapped (old + intOf (value x))))
  | .push x =>
    match v with
    | .array items => .ok (.array (items ++ [value x]))
    | v => .ok (.array [v, value x])
  | .panic message => .error ⟨text message⟩

inductive EditorErrorExpr where
  | logical (message : Template)
  | request (method message : Template)
  | transport (message : Template)
  | decode (method message : Template)
  | fatal (op message : Template)
  | withOp (e : EditorErrorExpr) (op : Template)

def EditorErrorExpr.meaning (env : Env) : EditorErrorExpr → EditorError
  | .logical m => .logical (m.text env)
  | .request method m => .request (method.text env) (m.text env)
  | .transport m => .transport (m.text env)
  | .decode method m => .decode (method.text env) (m.text env)
  | .fatal op m => .fatal (op.text env) (m.text env)
  | .withOp e op => (e.meaning env).withOp (op.text env)

inductive ErrorExpr where
  | arity (name expected : Template) (got : Nat)
  | decode (message : Template)
  | unknownMethod (method : Template)
  | unknownComponent (message : Template)
  | unknownMapping (id : Template)
  | program (message : Template)
  | editor (e : EditorErrorExpr)
  | invalidProgram (name message : Template)
  | lockTimeout (nanos : Nat)
  | conflict (message : Template)
  | fatal (message : Template)
  | ofEditor (e : EditorErrorExpr)

def ErrorExpr.meaning (env : Env) : ErrorExpr → PluginError
  | .arity name expected got => .arity (name.text env) (expected.text env) got
  | .decode m => .decode (m.text env)
  | .unknownMethod m => .unknownMethod (m.text env)
  | .unknownComponent m => .unknownComponent (m.text env)
  | .unknownMapping m => .unknownMapping (m.text env)
  | .program m => .program (m.text env)
  | .editor e => .editor (e.meaning env)
  | .invalidProgram name m => .invalidProgram (name.text env) (m.text env)
  | .lockTimeout nanos => .lockTimeout ⟨nanos⟩
  | .conflict m => .conflict (m.text env)
  | .fatal m => .fatal (m.text env)
  | .ofEditor e => .ofEditor (e.meaning env)

def kindTitle : ErrorKind → String
  | .logical _ => "Logical"
  | .request _ _ => "Request"
  | .transport _ => "Transport"
  | .decode _ _ => "Decode"
  | .fatal _ => "Fatal"

/-- An error as described programs see it. -/
def errorValue (e : EditorError) : Json :=
  .record [("error", .string (kindTitle e.kind)), ("message", .string e.message),
    ("op", .text e.op), ("trace", .strings e.trace)]

inductive TaskExpr where
  | value (x : Template)
  | failure (root : Template) (contexts : List Template)
  | panic (message : Template)

/-- A task that takes some milliseconds. The last context is the outermost. -/
structure TimedTask where
  millis : Nat
  outcome : TaskExpr

def TimedTask.meaning (env : Env) (t : TimedTask) : Task :=
  ⟨.ofMillis t.millis,
    match t.outcome with
    | .value x => .value (x.resolve env)
    | .failure root contexts =>
      .failure ((contexts.map (Template.text env)).reverse ++ [root.text env])
    | .panic m => .panic (m.text env)⟩

structure SubprocessExpr where
  program : Template
  args : Template
  cwd : Option Template
  millis : Nat

/-- Arguments of subprocesses are texts; anything else stops the program. -/
def argumentText (v : Json) : Calc String :=
  match v.string? with
  | some s => .ok s
  | none => .error ⟨"called `Option::unwrap()` on a `None` value"⟩

def SubprocessExpr.meaning (env : Env) (p : SubprocessExpr) : Calc Subprocess :=
  ((p.args.list env).mapM argumentText).map fun args =>
    ⟨p.program.text env, args, p.cwd.map (Template.text env), .ofMillis p.millis⟩

inductive EffectExpr where
  | scalar (task : TimedTask)
  | gather (tasks : List TimedTask) (millis : Option Nat)
  | subprocess (process : SubprocessExpr)
  | gatherSubprocesses (processes : List SubprocessExpr) (millis : Nat)
  | echo (messages : Template) (level : EchoLevel)
  | custom (payload : Template)

/-- An effect and the type of its result. -/
abbrev SomeEffect := Σ r : ResultType, Effect r

def EffectExpr.meaning (env : Env) : EffectExpr → Calc SomeEffect
  | .scalar task => .ok ⟨_, .scalar (task.meaning env)⟩
  | .gather tasks millis => .ok ⟨_, .gather (tasks.map (·.meaning env)) (millis.map .ofMillis)⟩
  | .subprocess p => (p.meaning env).map fun p => ⟨_, .subprocess p⟩
  | .gatherSubprocesses ps millis => (ps.mapM (SubprocessExpr.meaning env)).map fun ps =>
      ⟨_, .gatherSubprocesses ps (some (.ofMillis millis))⟩
  | .echo messages level => .ok ⟨_, .echo ((messages.list env).map Json.plainText) level⟩
  | .custom payload => .ok ⟨_, .custom (payload.resolve env)⟩

namespace EffectValue

def gatherError : GatherError → Json
  | .failed message => .record [("Failed", .string message)]
  | .timedOut limit =>
    .record [("TimedOut", .record [("secs", .nat limit.secs), ("nanos", .nat limit.subsecNanos)])]

def gathered {α : Type} (encode : α → Json) (rs : List (Gathered α)) : Json :=
  .array (rs.map fun
    | .ok a => .record [("Ok", encode a)]
    | .error e => .record [("Err", gatherError e)])

def subprocess (r : SubprocessResult) : Json :=
  .record [("code", (r.code.map .int).getD .null), ("stdout", .strings r.stdout),
    ("stderr", .strings r.stderr)]

/-- The result of an effect as JSON. -/
def toJson : (r : ResultType) → r.Value → Json
  | .json, v => v
  | .tasks, rs => gathered (fun v => v) rs
  | .subprocess, r => subprocess r
  | .subprocesses, rs => gathered subprocess rs
  | .unit, () | .foreign, () => .null

end EffectValue

end PluginHost.Scripted
