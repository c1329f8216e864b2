import PluginHost.Json.Member
import PluginHost.Scripted.Declaration

/-!
How descriptions are written as JSON: an expression is a list that starts with its head, or only
the head if it has no operands.
-/

set_option autoImplicit false

namespace PluginHost.Scripted

def EditorErrorExpr.ofJson : Json → EditorErrorExpr
  | .array [.string "with_op", e, op] => .withOp (ofJson e) op
  | .array [.string "logical", m] => .logical m
  | .array [.string "request", method, m] => .request method m
  | .array [.string "transport", m] => .transport m
  | .array [.string "decode", method, m] => .decode method m
  | .array [.string "fatal", op, m] => .fatal op m
  | v => .logical v

def natural (v : Json) : Nat := v.nat64?.getD 0

def ErrorExpr.ofJson : Json → ErrorExpr
  | .array [.string "Arity", name, expected, got] => .arity name expected (natural got)
  | .array [.string "Decode", m] => .decode m
  | .array [.string "UnknownMethod", m] => .unknownMethod m
  | .array [.string "UnknownComponent", m] => .unknownComponent m
  | .array [.string "UnknownMapping", m] => .unknownMapping m
  | .array [.string "Prog", m] => .program m
  | .array [.string "Nvim", e] => .editor (.ofJson e)
  | .array [.string "Type", name, m] => .invalidProgram name m
  | .array [.string "LockTimeout", n] => .lockTimeout (natural n)
  | .array [.string "Conflict", m] => .conflict m
  | .array [.string "Fatal", m] => .fatal m
  | .array [.string "from_nvim", e] => .ofEditor (.ofJson e)
  | v => .program v

/-- The head of an expression and its operands; a head without operands may stand alone. -/
def spread : Json → List Json
  | .array vs => vs
  | v => [v]

def Function.ofJson (v : Json) : Function :=
  match spread v with
  | [.string "len"] => .len
  | [.string "add", x] => .add x
  | [.string "mul", x] => .mul x
  | [.string "get", key] => .get key
  | [.string "wrap", key] => .wrap key
  | [.string "const", x] => .const x
  | [.string "put", key, x] => .put key x
  | [.string "incr", key, x] => .incr key x
  | [.string "push", x] => .push x
  | [.string "panic", m] => .panic m
  | _ => .id

/-- A member `ok` with a value, or a member `err` with an error. -/
def resultOf {α : Type} (err : Json → α) (v : Json) : Except α Template :=
  match v.get? "err" with
  | some e => .error (err e)
  | none => .ok (v.member "ok")

def ReadType.ofJson (v : Json) : ReadType :=
  match v.textOrEmpty with
  | "i64" => .int64
  | "u8" => .nat8
  | "f64" => .double
  | "bool" => .bool
  | "str" => .string
  | "strs" => .strings
  | "opt_i64" => .optionalInt
  | "pair" => .pair
  | "counter" => .counter
  | _ => .json

namespace ActionExpr

/-- Reads expressions of at most the given depth. -/
def ofDepth : (depth : Nat) → Json → ActionExpr
  | 0, v => .error v
  | depth + 1, v =>
    let sub := ofDepth depth
    match spread v with
    | [.string "pure", x] => .pure x
    | [.string "error", m] => .error m
    | [.string "failed", e] => .failed (.ofJson e)
    | [.string "delay", x] => .delay x
    | [.string "channel"] => .channel
    | [.string "cancel"] => .cancel
    | [.string "panic", m] => .panic m
    | [.string "panic_static"] => .panic (.string "static panic")
    | [.string "panic_other"] => .panic (.string "unknown panic")
    | [.string "try_delay", r] => .tryDelay (resultOf .ofJson r)
    | [.string "suspend", e] => .suspend (sub e)
    | [.string "suspend_panic", m] => .suspendPanic m
    | [.string "from_io", r] => .outside (resultOf id r)
    | [.string "from_result", r] => .ofResult (resultOf .ofJson r)
    | [.string "from_either", r] => .ofEither (resultOf id r)
    | [.string "from_maybe", x, m] => .ofMaybe x m
    | [.string "simple", x] => .simple x
    | [.string "bind", e, next] => .bind (sub e) (sub next)
    | [.string "then", e, next] => .andThen (sub e) (sub next)
    | [.string "map", e, f] => .map (sub e) (.ofJson f)
    | [.string "seq", es] => .seq (es.items.map sub)
    | [.string "recover", e] => .recover (sub e)
    | [.string "recover_failure", e, handler] => .recoverFailure (sub e) (sub handler)
    | [.string "ensure", e, finalizer] => .ensure (sub e) (sub finalizer)
    | [.string "read", method, args, key] => .read method args key
    | [.string "read_tpe", method, args, type] => .readAs method args (.ofJson type)
    | [.string "read_cons", method, args] => .readCons method args
    | [.string "get_var", name, type] => .getVar name (.ofJson type)
    | [.string "call_function", name, args, type] => .callFunction name args (.ofJson type)
    | [.string "write", method, args] => .write method args
    | [.string "notify", method, args] => .notify method args
    | [.string "command", text] => .command text
    | [.string "cancelled"] => .isCancelled
    | [.string "unless_cancelled"] => .unlessCancelled
    | [.string "sleep", n] => .sleep (natural n)
    | [.string "fork", e] => .fork (sub e)
    | [.string "left", n] => .left (natural n)
    | [.string "right", n, e] => .right (natural n) (sub e)
    | _ => .error v

def ofJson (v : Json) : ActionExpr := ofDepth (v.depth + 1) v

end ActionExpr

namespace StateExpr

/-- Reads expressions of at most the given depth. -/
def ofDepth : (depth : Nat) → Json → StateExpr
  | 0, v => .error v
  | depth + 1, v =>
    let sub := ofDepth depth
    match spread v with
    | [.string "pure", x] => .pure x
    | [.string "error", m] => .error m
    | [.string "failed", e] => .failed (.ofJson e)
    | [.string "channel"] => .channel
    | [.string "panic", m] => .panic m
    | [.string "lift", e] => .lift (.ofJson e)
    | [.string "get"] => .get
    | [.string "set", x] => .set x
    | [.string "modify", f] => .modify (.ofJson f)
    | [.string "inspect", f] => .inspect (.ofJson f)
    | [.string "inspect_either", key] => .inspectEither key
    | [.string "inspect_maybe", key, m] => .inspectMaybe key m
    | [.string "extra"] => .extra
    | [.string "comp"] => .comp
    | [.string "modify_comp", f] => .modifyComp (.ofJson f)
    | [.string "from_id", x] => .fromId x
    | [.string "m", x, m] => .maybe x m
    | [.string "e", r] => .either (resultOf id r)
    | [.string "bind", e, next] => .bind (sub e) (sub next)
    | [.string "then", e, next] => .andThen (sub e) (sub next)
    | [.string "map", e, f] => .map (sub e) (.ofJson f)
    | [.string "seq", es] => .seq (es.items.map sub)
    | [.string "list", es] => .list (es.items.map sub)
    | [.string "repeat", n, e] => .repeated (natural n) (sub e)
    | [.string "zoom", key, e] => .zoom key (sub e)
    | [.string "transform", key, e] => .transform key (sub e)
    | _ => .error v

def ofJson (v : Json) : StateExpr := ofDepth (v.depth + 1) v

end StateExpr

def TimedTask.ofJson (v : Json) : TimedTask :=
  let millis := v.natAt "sleep" 0
  match v.get? "pure", v.get? "delay", v.get? "panic", v.get? "err" with
  | some x, _, _, _ => ⟨0, .value x⟩
  | _, some x, _, _ => ⟨0, .value x⟩
  | _, _, some m, _ => ⟨millis, .panic m⟩
  | _, _, _, some e => ⟨millis, .failure e (v.itemsAt "context")⟩
  | _, _, _, _ => ⟨millis, .value (v.member "ok")⟩

def SubprocessExpr.ofJson (v : Json) : SubprocessExpr :=
  ⟨v.member "program", v.member "args", v.get? "cwd", v.natAt "timeout_ms" 0⟩

def levelOf (v : Json) : EchoLevel :=
  match v.textOrEmpty with
  | "warning" => .warning
  | "error" => .error
  | _ => .info

def EffectExpr.ofJson (v : Json) : EffectExpr :=
  match spread v with
  | [.string "scalar", t] => .scalar (.ofJson t)
  | [.string "gather", ts, n] => .gather (ts.items.map .ofJson) (some (natural n))
  | [.string "gather_default", ts] => .gather (ts.items.map .ofJson) none
  | [.string "subprocess", p] => .subprocess (.ofJson p)
  | [.string "gather_subprocesses", ps, n] =>
    .gatherSubprocesses (ps.items.map .ofJson) (natural n)
  | [.string "echo", messages, level] => .echo messages (levelOf level)
  | [.string "echo_info", m] => .echo (.array [m]) .info
  | [.string "echo_error", m] => .echo (.array [m]) .error
  | [.string "custom", x] => .custom x
  | _ => .custom v

/-- The parameter type of a name; `notes` is the name that notes have in messages. -/
def ParamType.ofName (notes name : String) : ParamType :=
  match name with
  | "i64" => .int64
  | "u8" => .nat8
  | "u64" => .nat64
  | "f64" => .double
  | "bool" => .bool
  | "str" => .string
  | "char" => .char
  | "strs" => .strings
  | "opt_i64" => .optionalInt
  | "opt_str" => .optionalString
  | "nil" => .unit
  | "level" => .level
  | "notes" => .notes notes
  | "query" => .query
  | _ => .json

/-- Parameter types between commas, or one that ends in dots for any number of arguments. -/
def SignatureExpr.ofText (notes sig : String) : SignatureExpr :=
  match sig with
  | "" | "unit" => .positional []
  | "six" => .positional [.int64, .string, .bool, .optionalInt, .int64, .optionalJson]
  | _ =>
    match sig.toList.reverse with
    | '.' :: '.' :: '.' :: name => .variadic (.ofName notes (String.ofList name.reverse))
    | _ => .positional ((Text.splitText ',' sig).map (.ofName notes))

def StateKind.ofName? (name : String) : Option StateKind := StateKind.all.find? fun k => k.name == name

def allShapes : List (Shape StateKind) :=
  let components := none :: StateKind.all.map some
  let mains := [Main.data, Main.whole]
  (mains.flatMap fun m => components.map (Shape.plain m)) ++
    (mains.flatMap fun m => components.map (Shape.resources m)) ++ StateKind.all.map Shape.whole

/-- The view with that text. -/
def shapeOf (text : String) : Shape StateKind :=
  (allShapes.find? fun s => s.text StateKind.name == text).getD (.plain .data none)

namespace ProgExpr

/-- Reads expressions of at most the given depth. -/
def ofDepth : (depth : Nat) → Json → ProgExpr
  | 0, v => .error v
  | depth + 1, v =>
    let sub := ofDepth depth
    match spread v with
    | [.string "pure", x] => .pure x
    | [.string "error", m] => .error m
    | [.string "failed", e] => .failed (.ofJson e)
    | [.string "from_result", r] => .ofResult (resultOf .ofJson r)
    | [.string "nvim", e] => .editor (.ofJson e)
    | [.string "exec", name, view, code, output] =>
      .exec name (shapeOf view.textOrEmpty) (.ofJson code) (output == .string "unit")
    | [.string "exec_sub", name, code] => .execSub name (.ofJson code)
    | [.string "io", name, code, e] => .effect name (.ofJson code) (.ofJson e)
    | [.string "bind", p, next] => .bind (sub p) (sub next)
    | [.string "then", p, next] => .andThen (sub p) (sub next)
    | [.string "map", p, f] => .map (sub p) (.ofJson f)
    | [.string "seq", ps] => .seq (ps.items.map sub)
    | [.string "repeat", n, p] => .repeated (natural n) (sub p)
    | [.string "call", ident, args] => .call ident.textOrEmpty args
    | [.string "activate", ident] => .activate ident
    | [.string "redefine"] => .redefine
    | _ => .error v

def ofJson (v : Json) : ProgExpr := ofDepth (v.depth + 1) v

end ProgExpr

def Declaration.ofJson (notes : String) (v : Json) : Declaration :=
  let name := v.textAt "name"
  let code := (v.get? "code").getD (.array [.string "pure", .string "$args"])
  let shape := shapeOf ((v.text? "view").getD "data")
  let signature := .ofText notes ((v.text? "sig").getD "unit")
  let ident := (v.text? "id").getD name
  match v.textAt "kind" with
  | "io" => ⟨ident, name, .variadic .json, .effect shape (.ofJson code) (.ofJson (v.member "io"))⟩
  | "compose" => ⟨ident, name, signature, .compose (.ofJson code)⟩
  | _ => ⟨ident, name, signature, .block shape (.ofJson code)⟩

/-! Triggers, components and configurations. -/

def methodOf (v : Json) : TriggerMethod :=
  match spread v with
  | [.string "command!"] => .command false true
  | [.string "command-sync"] => .command true false
  | [.string "function"] => .function true
  | [.string "function-async"] => .function false
  | [.string "autocmd", .string pattern] => .autocmd false pattern
  | [.string "autocmd-sync", .string pattern] => .autocmd true pattern
  | _ => .command false false

def styleOf (name : String) : NameStyle :=
  match name with
  | "full" => .full
  | "plain" => .plain
  | _ => .short

/-- The methods that are listed, or the one of the kind that is named. -/
def methodsOf (v : Json) : List TriggerMethod :=
  match v.get? "methods", v.textAt "as" with
  | some ms, _ => ms.items.map methodOf
  | none, "function" => [.function true]
  | none, "autocmd" => [.autocmd false ((v.text? "pattern").getD "*")]
  | none, _ => [.command false false]

def optionsOf (v : Json) : TriggerOptions :=
  let o : TriggerOptions := ⟨v.text? "name", methodsOf v ++ (v.itemsAt "also").map methodOf,
    styleOf (v.textAt "prefix"), v.flagAt "json", !v.flagAt "read_only"⟩
  let o := if v.flagAt "sync" then o.inSync else o
  if v.flagAt "bang" then o.withBang else o

variable {d : DataType}

def handlerOf (es : Entries d) (v : Json) : Option (Handler (schema d)) :=
  (es.get? (v.textAt "program")).map fun e => ⟨e.program.asSource, optionsOf v⟩

def mappingOf (v : Json) : Mapping :=
  let m := Mapping.ofKeys (v.textAt "ident") (v.textAt "keys")
  let m := if (v.get? "modes").isSome then { m with modes := v.textsAt "modes" } else m
  if v.flagAt "buffer" then { m with buffer := true } else m

def stateSpecOf (v : Json) : Option (StateSpec (schema d)) := do
  let kind ← StateKind.ofName? (← v.text? "state")
  let given := (v.get? "init").bind fun init => (kind.decode init).toOption
  return ⟨kind, given.getD kind.default⟩

def componentOf (es : Entries d) (v : Json) : Component (schema d) :=
  { name := v.textAt "name"
    handlers := (v.itemsAt "rpc").filterMap (handlerOf es)
    state := stateSpecOf v
    config := v.get? "config"
    mappings := (v.itemsAt "mappings").filterMap fun m =>
      (es.get? (m.textAt "program")).map fun e => (mappingOf m, e.program) }

/-- Executors that answer, fail or panic. -/
def executorOf (kind : String) : Option (Json → TaskOutcome) :=
  match kind with
  | "echo" => some fun v => .value (.record [("seen", v)])
  | "fail" => some fun v => .failure ["executor failed", "inner " ++ v.render]
  | "panic" => some fun _ => .panic "executor panic"
  | _ => none

def interpreterOf (kind : String) : Option CodeName :=
  match kind with
  | "debug" => some .describing
  | "wrong" => some .mistaken
  | _ => none

def identityOf (v : Json) : Identity :=
  { Identity.ofName ((v.text? "name").getD "test_plugin") ((v.text? "prefix").getD "tst") with
    core := v.textsAt "core", chosen := v.textsAt "default",
    settingsModule := v.text? "settings_module" }

def configOf (es : Entries d) (v : Json) : PluginConfig (schema d) :=
  { identity := identityOf v
    components := (v.itemsAt "components").map (componentOf es)
    own := (v.itemsAt "rpc").filterMap (handlerOf es)
    init := ((v.text? "init").bind es.get?).map (·.program)
    logger := ((v.text? "logger").bind es.get?).map (·.program)
    executor := executorOf (v.textAt "executor")
    interpreter := interpreterOf (v.textAt "interpreter") }

def settingsOf (v : Json) : Settings :=
  ⟨(v.get? "components").bind fun c => c.items?.map fun vs => vs.filterMap Json.string?,
    v.flagAt "internal_init"⟩

def limitsOf (v : Json) : Limits :=
  ⟨.ofMicros (v.natAt "lock_timeout_us" 10000000), v.natAt "threads" 1,
    .ofSecs (v.natAt "gather_timeout_secs" 30)⟩

end PluginHost.Scripted
