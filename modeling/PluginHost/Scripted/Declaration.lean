import PluginHost.Plugin.Dispatch
import PluginHost.Scripted.Access

/-!
Descriptions of programs, and the library that a list of declared programs makes.
-/

set_option autoImplicit false

namespace PluginHost.Scripted

inductive ProgExpr where
  | pure (x : Template)
  | error (message : Template)
  | failed (e : ErrorExpr)
  | ofResult (r : Except ErrorExpr Template)
  | editor (e : ActionExpr)
  | exec (name : Template) (shape : Shape StateKind) (code : StateExpr) (dropped : Bool)
  | execSub (name : Template) (code : StateExpr)
  | effect (name : Template) (code : StateExpr) (effect : EffectExpr)
  | bind (p next : ProgExpr)
  | andThen (p next : ProgExpr)
  | map (p : ProgExpr) (f : Function)
  | seq (ps : List ProgExpr)
  | repeated (n : Nat) (p : ProgExpr)
  | call (program : String) (args : Template)
  | activate (ident : Template)
  | redefine
deriving Inhabited

inductive DeclaredBody where
  | block (shape : Shape StateKind) (code : StateExpr)
  | effect (shape : Shape StateKind) (code : StateExpr) (effect : EffectExpr)
  | compose (code : ProgExpr)

structure Declaration where
  ident : String
  name : String
  signature : SignatureExpr
  body : DeclaredBody

variable {d : DataType}

/-- A declared program together with its code. -/
structure Entry (d : DataType) : Type 1 where
  ident : String
  program : UserProgram (schema d)
  code : List Json → Except PluginError (Prog (State d) Json)

/-- Declared programs, the latest first. -/
abbrev Entries (d : DataType) := List (Entry d)

namespace Entries

def get? (es : Entries d) (ident : String) : Option (Entry d) :=
  List.find? (fun e => e.ident == ident) es

def call (es : Entries d) (ident : String) (args : List Json) : Prog (State d) Json :=
  match es.get? ident with
  | some e => e.program.call e.code args
  | none => .error s!"no program {ident}"

end Entries

/-- The member `sub` of the data. A value that does not fit is not written back. -/
def subView : View (State d) Json where
  text := "data"
  project s :=
    match (d.toJson s.data).get? "sub" with
    | some v => (.ok v, s)
    | none => (.error (.program "no sub view"), s)
  restore v s :=
    match d.decode (putMember (d.toJson s.data) "sub" v) with
    | .ok data => { s with data }
    | .error _ => s

/-- A single subprocess says also whether it succeeded. -/
def resultValue : (r : ResultType) → r.Value → Json
  | .subprocess, r => .record [("success", .bool r.success), ("result", EffectValue.subprocess r)]
  | r, v => EffectValue.toJson r v

/-- Runs code that yields an effect, and goes on with the effect's result. -/
def onEffect (lib : Library (schema d)) (name : String) (shape : Shape StateKind)
    (code : Stateful (shape.Carrier (schema d)) Json) (effect : Json → Calc SomeEffect)
    (encode : (r : ResultType) → r.Value → Json) : Prog (State d) Json :=
  (Prog.on name (shape.view (S := schema d)) (code.mapCalc effect) fun e s =>
    (e.2.output lib s).map (encode e.1)).map id

namespace ProgExpr

/-- Binds the same program `n` times; each run sees the value of the one before. -/
def repeatWith (next : Json → Prog (State d) Json) :
    Nat → Prog (State d) Json → Prog (State d) Json
  | 0, x => x
  | n + 1, x => repeatWith next n (x.bind next)

mutual
/-- The program an expression describes. Its effects are carried out with `lib`. -/
def meaning (lib : Library (schema d)) (es : Entries d) (env : Env) :
    ProgExpr → Prog (State d) Json
  | .pure x => .pure (x.resolve env)
  | .error m => .error (m.text env)
  | .failed e => .failed (e.meaning env)
  | .ofResult (.ok x) => .pure (x.resolve env)
  | .ofResult (.error e) => .failed (e.meaning env)
  | .editor e => .editor (e.meaning env)
  | .exec name shape code dropped =>
    let code := code.meaning (Access.ofShape d shape) env
    if dropped then
      (Prog.on (name.text env) (shape.view (S := schema d)) code fun _ _ => .pure ()).map fun () =>
        .string "unit"
    else Prog.on (name.text env) (shape.view (S := schema d)) code fun v _ => .pure v
  | .execSub name code =>
    Prog.on (name.text env) subView (code.meaning Access.json env) fun v _ => .pure v
  | .effect name code e =>
    let code := code.meaning (Access.ofShape d (.plain .data none)) env
    onEffect lib (name.text env) (.plain .data none) code (fun v => e.meaning (env.withIt v))
      resultValue
  | .bind p next => (p.meaning lib es env).bind fun v => next.meaning lib es (env.withIt v)
  | .andThen p next => (p.meaning lib es env).andThen fun () => next.meaning lib es env
  | .map p f => (p.meaning lib es env).mapCalc (f.apply env)
  | .seq ps => chain lib es env ps (.pure .null)
  | .repeated n p => repeatWith (fun v => p.meaning lib es (env.withIt v)) n (.pure .null)
  | .call ident args => es.call ident (args.list env)
  | .activate ident => (activateMapping (ident.text env)).map .string
  | .redefine => redefineTriggers.map .nat

/-- Binds programs one after the other; each sees the value of the one before. -/
def chain (lib : Library (schema d)) (es : Entries d) (env : Env) :
    List ProgExpr → Prog (State d) Json → Prog (State d) Json
  | [], x => x
  | p :: rest, x => chain lib es env rest (x.bind fun v => p.meaning lib es (env.withIt v))
end

end ProgExpr

namespace Declaration

def kind (decl : Declaration) : ProgramKind :=
  match decl.body with
  | .compose _ => .compose
  | _ => .block

def shape (decl : Declaration) : Option (Shape StateKind) :=
  match decl.body with
  | .block shape _ | .effect shape _ _ => some shape
  | .compose _ => none

def prog (lib : Library (schema d)) (es : Entries d) (decl : Declaration) (env : Env) :
    Prog (State d) Json :=
  match decl.body with
  | .block shape code =>
    .block decl.name (shape.view (S := schema d)) (code.meaning (Access.ofShape d shape) env)
      .ok
  | .effect shape code e =>
    onEffect lib decl.name shape (code.meaning (Access.ofShape d shape) env)
      (fun v => e.meaning (env.withIt v)) EffectValue.toJson
  | .compose code => (code.meaning lib es env).map id

def definition (lib : Library (schema d)) (es : Entries d) (decl : Declaration) :
    Definition (State d) :=
  let sig := decl.signature.signature
  ⟨sig.1, sig.2, fun a =>
    match sig.2.encode a with
    | .ok args => decl.prog lib es ⟨args, .null⟩
    | .error e => .failed e⟩

/-- A declared program may call those declared before it. -/
def entries (lib : Library (schema d)) (decls : List Declaration) : Entries d :=
  decls.foldl (fun es decl =>
    let code := decl.definition lib es
    ⟨decl.ident, code.program decl.name decl.kind decl.shape (.program es.length), code.code⟩ :: es) []

end Declaration

/-- Interpreters that carry nothing out: one describes the effect, the other yields a value that no
effect has. -/
def interpretNamed (code : CodeName) {r : ResultType} (e : Effect r) (s : State d) :
    Prog (State d) EffectValue :=
  match code with
  | .describing => .pure ⟨.json, .string s!"{e.kindText} for {s.identity.name}"⟩
  | _ => .pure ⟨.foreign, ()⟩

def noCode (code : CodeName) : Except PluginError (Prog (State d) Json) :=
  match code with
  | .program i => .error (.fatal s!"no program number {i}")
  | _ => .error (.fatal "an interpreter is no program")

/-- The library of declared programs. An effect of a program may run another program, whose effects
are again carried out, up to the given depth. -/
def library (d : DataType) (decls : List Declaration) : (depth : Nat) → Library (schema d)
  | 0 => ⟨fun code _ => noCode code, interpretNamed⟩
  | depth + 1 =>
    let es := Declaration.entries (library d decls depth) decls
    let code (name : CodeName) (args : List Json) :=
      match name with
      | .program i =>
        match es.reverse[i]? with
        | some e => e.code args
        | none => noCode name
      | _ => noCode name
    ⟨code, interpretNamed⟩

/-- How deeply effects may run programs with effects. -/
def effectDepth : Nat := 16

end PluginHost.Scripted
