import PluginHost.Editor.Evaluate

/-!
What an action means, by recursion on the action and with no stack: a bind goes on after a value
only, a handler gets every outcome of the action it guards, and an error is raised with the labels
of the steps that ran before it.
-/

set_option autoImplicit false

namespace PluginHost

open Evaluate (Trail raised)

mutual
def Action.meaning {α : Type} : Action α → Trail → Script (Except EditorError α × Trail)
  | .pure a, t => .done (.ok a, t)
  | .failed e, t => .done (.error (raised e t), t)
  | .suspend label body, t => (body ()).meaning label (t.push label)
  | .bind inner next, t => (inner.meaning t).bind fun
    | (.ok b, t) => (next b).meaning "flat_map" t
    | (.error e, t) => .done (.error e, t)
  | .recover inner handler, t => (inner.meaning t).bind fun (r, t) =>
    (handler r).meaning "recover" t

/-- The meaning of code under the guard of the operation `op`. -/
def Body.meaning {α : Type} : Body α → (op : String) → Trail →
    Script (Except EditorError α × Trail)
  | .build x, _, t => x.meaning t
  | .panic m, op, t => .done (.error (raised (.fatal op m) t), t)
  | .ask q next, op, t => .ask q fun a => (next a).meaning op t
  | .fork task next, op, t => (task.meaning []).bind fun _ => (next ()).meaning op t
end

end PluginHost
