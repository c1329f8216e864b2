import PluginHost.Program.Prog
import PluginHost.Program.Signature

/-!
Programs: named code with the metadata that the editor and the dispatcher need.
-/

set_option autoImplicit false

namespace PluginHost

/-- What a view takes for the main data: the plugin's data, or its whole state. -/
inductive Main where
  | data
  | whole
deriving DecidableEq, Repr

def Main.text : Main → String
  | .data => "data"
  | .whole => "state"

/-- The views a program may declare, `K` being the kinds of component states: main data, alone or
with a component's state; either of them with the plugin's resources; or the whole state with
access to a component's state. -/
inductive Shape (K : Type) where
  | plain (main : Main) (component : Option K)
  | resources (main : Main) (component : Option K)
  | whole (component : K)
deriving DecidableEq, Repr

namespace Shape

variable {K : Type}

/-- The component state the view needs. -/
def component : Shape K → Option K
  | .plain _ component | .resources _ component => component
  | .whole component => some component

def innerText (kindName : K → String) (main : Main) : Option K → String
  | none => main.text
  | some k => main.text ++ "+" ++ kindName k

def text (kindName : K → String) : Shape K → String
  | .plain main component => innerText kindName main component
  | .resources main component => "resources(" ++ innerText kindName main component ++ ")"
  | .whole component => "ribosome(" ++ innerText kindName .whole (some component) ++ ")"

end Shape

inductive ProgramKind where
  /-- One computation on a view. -/
  | block
  /-- Composed of other programs. -/
  | compose
deriving DecidableEq, Repr

def ProgramKind.title : ProgramKind → String
  | .block => "Block"
  | .compose => "Compose"

/-- A program's name and metadata, and where its code is found. -/
structure Program (K γ : Type) where
  name : String
  kind : ProgramKind
  arity : Arity
  types : List String
  shape : Option (Shape K)
  code : γ

/-- Code for decoded arguments. -/
structure Definition (σ : Type) : Type 1 where
  Args : Type
  signature : Signature Args
  body : Args → Prog σ Json

namespace Definition

variable {σ : Type}

def code (d : Definition σ) (args : List Json) : Except PluginError (Prog σ Json) :=
  (d.signature.decode args).map d.body

def program {K γ : Type} (d : Definition σ) (name : String) (kind : ProgramKind)
    (shape : Option (Shape K)) (code : γ) : Program K γ :=
  ⟨name, kind, d.signature.arity, d.signature.types, shape, code⟩

end Definition

namespace Program

variable {K γ σ : Type}

/-- Checks the number of arguments and decodes them. -/
def bind (p : Program K γ) (code : List Json → Except PluginError (Prog σ Json))
    (args : List Json) : Except PluginError (Prog σ Json) :=
  if p.arity.accepts args.length then code args
  else .error (.arity p.name p.arity.describe args.length)

/-- Runs a program as a part of another; a refusal of the arguments is the program's failure. -/
def call (p : Program K γ) (code : List Json → Except PluginError (Prog σ Json))
    (args : List Json) : Prog σ Json :=
  match p.bind code args with
  | .ok prog => prog
  | .error e => .failed e

end Program

/-- A program of one computation on a view. Its value is the result, if it has a JSON form. -/
def Prog.block {σ ρ α : Type} (name : String) (view : View σ ρ) (code : Stateful ρ α)
    (encode : α → Except String Json) : Prog σ Json :=
  (Prog.on name view code fun a _ => .pure a).bind fun a =>
    .ofResult ((encode a).mapError fun reason =>
      .program s!"cannot encode result of `{name}`: {reason}")

end PluginHost
