import PluginHost.Proofs.Dispatch.Allowed
import PluginHost.Proofs.Plugin.Hidden

/-!
Ids that key mappings are bound to. A plugin whose programs make no bindings of their own binds an
id only when it has just drawn it, and whatever it does then leaves the other bindings alone.
-/

set_option autoImplicit false

namespace PluginHost

variable {S : Schema} {α β : Type}

/-- The ids that were drawn. -/
def drawn (asked : List Exchange) : List String :=
  asked.filterMap fun
    | ⟨.freshId, id⟩ => some id
    | _ => none

@[simp] theorem drawn_append (first later : List Exchange) :
    drawn (first ++ later) = drawn first ++ drawn later :=
  List.filterMap_append

@[simp] theorem drawn_freshId (id : String) (asked : List Exchange) :
    drawn (⟨.freshId, id⟩ :: asked) = id :: drawn asked := rfl

-- The least that a plugin has to be allowed.
inductive Evolves : PluginState S → List Exchange → PluginState S → Prop where
  | idle (s : PluginState S) (asked : List Exchange) : Evolves s asked s
  | trans {s t u : PluginState S} {first later : List Exchange} (before : Evolves s first t)
      (after : Evolves t later u) : Evolves s (first ++ later) u
  | operation (op : Operation S) (plain : ¬ op.Binds) (s : PluginState S) :
      Evolves s [] (op.apply s)
  | activation {s : PluginState S} {ident : String} {mapping : Mapping} {program : UserProgram S}
      (found : s.findMapping ident = some (mapping, program)) (id : String) :
      Evolves s [⟨.freshId, id⟩] (s.bindMapping id mapping program)
  | project (shape : Shape S.Kind) (s : PluginState S) : Evolves s [] (shape.project s).2
  | writeBack {shape : Shape S.Kind} {s t : PluginState S} {v : shape.Carrier S}
      (w : shape.Carrier S) {asked : List Exchange} (projected : shape.project s = (.ok v, t))
      (kept : ∀ m m', shape.whole? v = some m → shape.whole? w = some m' → Evolves m asked m') :
      Evolves s asked (shape.restore w t)

theorem evolves_closed : Allowance.Closed (Evolves (S := S)) where
  idle := .idle
  trans := .trans
  operation := .operation
  activation := .activation
  project := .project
  writeBack := .writeBack

theorem Evolves.allowed {R : Allowance S} (closed : R.Closed) {s t : PluginState S}
    {asked : List Exchange} (evolves : Evolves s asked t) : R s asked t := by
  induction evolves with
  | idle s asked => exact closed.idle s asked
  | trans _ _ ihBefore ihAfter => exact closed.trans ihBefore ihAfter
  | operation op plain s => exact closed.operation op plain s
  | activation found id => exact closed.activation found id
  | project shape s => exact closed.project shape s
  | writeBack w projected _ ih => exact closed.writeBack w projected ih

namespace PluginState

variable {s t : PluginState S}

@[simp] theorem activeMapping_bindMapping_self (s : PluginState S) (id : String) (m : Mapping)
    (p : UserProgram S) : (s.bindMapping id m p).activeMapping id = some (m, p) := by
  simp [bindMapping, activeMapping]

theorem activeMapping_bindMapping_of_ne {id other : String} (different : other ≠ id)
    (s : PluginState S) (m : Mapping) (p : UserProgram S) :
    (s.bindMapping id m p).activeMapping other = s.activeMapping other := by
  have kept (active : List (String × Mapping × UserProgram S)) :
      (active.filter fun entry => entry.1 != id).lookup other = active.lookup other := by
    induction active with
    | nil => rfl
    | cons entry rest ih =>
      obtain ⟨name, bound⟩ := entry
      have elsewhere : (other == id) = false := by simpa using different
      by_cases dropped : name = id
      · simp [dropped, elsewhere, List.lookup_cons, ih]
      · simp [dropped, List.lookup_cons, ih]
  have elsewhere : (other == id) = false := by simpa using different
  simp [bindMapping, activeMapping, elsewhere, List.lookup_cons, kept]

theorem findMapping_bindMapping (s : PluginState S) (id : String) (m : Mapping)
    (p : UserProgram S) (ident : String) :
    (s.bindMapping id m p).findMapping ident = s.findMapping ident := rfl

theorem findMapping_logProgram (s : PluginState S) (name ident : String) :
    (s.logProgram name).findMapping ident = s.findMapping ident := rfl

theorem activeMapping_congr (same : t.active = s.active) (id : String) :
    t.activeMapping id = s.activeMapping id := by
  simp [activeMapping, same]

theorem active_hidden : Hidden (fun s : PluginState S => s.active) where
  data _ _ := rfl
  store _ _ _ := rfl
  activation _ _ _ := rfl

theorem active_apply {op : Operation S} (plain : ¬ op.Binds) (s : PluginState S) :
    (op.apply s).active = s.active := by
  by_cases sets : op.Sets
  next =>
    cases op with
    | bindMapping => exact absurd trivial plain
    | logProgram | setTriggers | setExecutor | setLogFilter => rfl
    | _ => cases sets
  next => exact active_hidden.apply sets s

end PluginState

/-- Changes that leave alone the binding of every id that was not drawn. -/
def sparing : Allowance S := fun s asked t =>
  ∀ id, id ∉ drawn asked → t.activeMapping id = s.activeMapping id

theorem sparing_closed : Allowance.Closed (sparing (S := S)) where
  idle _ _ _ _ := rfl
  trans first later id undrawn := by
    rw [drawn_append, List.mem_append, not_or] at undrawn
    exact (later id undrawn.2).trans (first id undrawn.1)
  operation _ plain s id _ := PluginState.activeMapping_congr (PluginState.active_apply plain s) id
  activation _ id other undrawn := by
    have different : other ≠ id := by simpa [drawn] using undrawn
    exact PluginState.activeMapping_bindMapping_of_ne different _ _ _
  project shape s id _ :=
    PluginState.activeMapping_congr (PluginState.active_hidden.project shape s) id
  writeBack {shape s t v} w asked projected kept id undrawn := by
    rcases PluginState.active_hidden.writeBack w projected with
      same | ⟨m, m', viewed, written, first, last⟩
    next => exact PluginState.activeMapping_congr same id
    next =>
      -- The whole state in the view has the bindings of the projected one, and kept them.
      calc (shape.restore w t).activeMapping id
          = m'.activeMapping id := PluginState.activeMapping_congr last id
        _ = m.activeMapping id := kept m m' viewed written id undrawn
        _ = s.activeMapping id := PluginState.activeMapping_congr first id

/-- What has happened to a plugin: requests, whole or as far as they have got, and other changes. -/
inductive History (lib : Library S) (s : PluginState S) : List Exchange → PluginState S → Prop where
  | start : History lib s [] s
  | request {t u : PluginState S} {asked more : List Exchange} (before : History lib s asked t)
      (r : Request) {result : Except PluginError Json}
      (handled : (handle lib r t).Asks more (result, u)) : History lib s (asked ++ more) u
  | part {t u : PluginState S} {asked more : List Exchange} (before : History lib s asked t)
      (r : Request) {run next : Running S} (careful : run.Obeys Evolves)
      (turns : Running.Turns lib r run t more next u) (stands : next.Stands) :
      History lib s (asked ++ more) u
  | change {t u : PluginState S} {asked more : List Exchange} (before : History lib s asked t)
      (change : Evolves t more u) : History lib s (asked ++ more) u

theorem asks_handle {R : Allowance S} (closed : R.Closed) {lib : Library S} (obeys : lib.Obeys R)
    {r : Request} {s t : PluginState S} {asked : List Exchange} {result : Except PluginError Json}
    (handled : (handle lib r s).Asks asked (result, t)) : R s asked t := by
  obtain ⟨first, later, rfl, dispatched⟩ := exists_asks_dispatch_of_handle handled
  obtain ⟨⟨outcome, u⟩, executed, result_eq⟩ := Script.asks_map.1 dispatched
  cases result_eq
  exact closed.trans (asks_execute closed obeys executed) (closed.idle _ later)

theorem History.evolves {lib : Library S} (careful : lib.Obeys Evolves) {s t : PluginState S}
    {asked : List Exchange} (history : History lib s asked t) : Evolves s asked t := by
  induction history with
  | start => exact .idle s []
  | request _ r handled ih => exact ih.trans (asks_handle evolves_closed careful handled)
  | part _ r obeys turns stands ih =>
    exact ih.trans (turns.allowed evolves_closed careful obeys stands).1
  | change _ change ih => exact ih.trans change

end PluginHost
