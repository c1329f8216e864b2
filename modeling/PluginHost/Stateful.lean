import PluginHost.Editor.Action

/-!
Editor computations that carry a state along. Nothing is shared: the state goes into the
computation and comes back with its value. Through a lens, a computation over a part becomes one
over the whole.
-/

set_option autoImplicit false

namespace PluginHost

structure Stateful (σ α : Type) : Type 1 where
  run : σ → Body (σ × α)

structure Lens (τ σ : Type) where
  get : τ → σ
  set : τ → σ → Calc τ

namespace Stateful

variable {σ τ α β : Type}

def pure (a : α) : Stateful σ α := ⟨fun s => .pure (s, a)⟩

def failed (e : EditorError) : Stateful σ α := ⟨fun _ => .failed e⟩

def error (message : String) : Stateful σ α := failed (.logical message)

def delay (body : Unit → Body α) : Stateful σ α :=
  ⟨fun s => .build (.delay fun u => (body u).onBuilt fun x => x.map fun a => (s, a))⟩

def lift (x : Action α) : Stateful σ α := ⟨fun s => .build (x.map fun a => (s, a))⟩

/-- Code that works on the state at once, without a step of its own. -/
def direct (f : σ → Calc (σ × α)) : Stateful σ α := ⟨fun s => .ofCalc (f s)⟩

def inspect (f : σ → Calc α) : Stateful σ α := direct fun s => (f s).map fun a => (s, a)

def get : Stateful σ σ := direct fun s => .ok (s, s)

def set (s : σ) : Stateful σ Unit := direct fun _ => .ok (s, ())

def modify (f : σ → Calc σ) : Stateful σ Unit := direct fun s => (f s).map fun s => (s, ())

/-- Works on the state and may refuse; the refusal is a logical error. -/
def tryDirect (f : σ → Calc (Except String (σ × α))) : Stateful σ α :=
  ⟨fun s =>
    match f s with
    | .ok r => .build (.ofExcept r)
    | .error p => .panic p.message⟩

def tryInspect (f : σ → Except String α) : Stateful σ α :=
  tryDirect fun s => .ok ((f s).map fun a => (s, a))

def ofExcept (value : Except String α) : Stateful σ α := lift (.ofExcept value)

def ofOption (value : Option α) (message : String) : Stateful σ α := lift (.ofOption value message)

def flatMap (x : Stateful σ α) (f : α → Stateful σ β) : Stateful σ β :=
  ⟨fun s => .build (.bind (.suspended fun () => x.run s) fun (s, a) => (f a).run s)⟩

def mapCalc (x : Stateful σ α) (f : α → Calc β) : Stateful σ β :=
  ⟨fun s => .build ((Action.suspended fun () => x.run s).mapCalc fun (s, a) =>
    (f a).map fun b => (s, b))⟩

def map (x : Stateful σ α) (f : α → β) : Stateful σ β := x.mapCalc fun a => .ok (f a)

def andThen (x : Stateful σ α) (next : Unit → Stateful σ β) : Stateful σ β :=
  x.flatMap fun _ => next ()

/-- Runs on a part of the state that `focus` takes out and `back` puts in again. -/
def transform (x : Stateful σ α) (focus : τ → σ) (back : τ → σ → Calc τ) : Stateful τ α :=
  ⟨fun t => (x.run (focus t)).onBuilt fun y => y.mapCalc fun (s, a) => (back t s).map fun t => (t, a)⟩

def zoom (x : Stateful σ α) (lens : Lens τ σ) : Stateful τ α := x.transform lens.get lens.set

def value (x : Stateful σ α) (s : σ) : Body α := (x.run s).onBuilt fun y => y.map (·.2)

def state (x : Stateful σ α) (s : σ) : Body σ := (x.run s).onBuilt fun y => y.map (·.1)

end Stateful

end PluginHost
