import Mathlib.Data.List.Nodup
import PluginHost.Proofs.Editor.World
import PluginHost.Trigger.Spec

/-!
The triggers as the editor has them: a table that the commands of a source change one after the
other.
-/

set_option autoImplicit false

namespace PluginHost

/-- What a trigger is removed by. Only automatic commands have a pattern. -/
structure TriggerKey where
  kind : TriggerKind
  name : String
  pattern : Option String
deriving DecidableEq

structure TriggerEntry where
  key : TriggerKey
  definition : String
deriving DecidableEq

namespace TriggerSpec

def key (s : TriggerSpec) : TriggerKey :=
  ⟨s.kind, s.name, if s.kind = .autocmd then some s.pattern else none⟩

def entry (s : TriggerSpec) (channel : Int) (plugin : String) : TriggerEntry :=
  ⟨s.key, s.definition channel plugin⟩

end TriggerSpec

inductive TriggerCommand where
  | define (e : TriggerEntry)
  | remove (key : TriggerKey)

namespace TriggerCommand

-- Commands and functions replace those of their name; automatic commands pile up.
def run (table : List TriggerEntry) : TriggerCommand → List TriggerEntry
  | .define e => table.filter (fun d => d.key.kind = .autocmd || d.key ≠ e.key) ++ [e]
  | .remove key => table.filter fun d => d.key ≠ key

def runAll (table : List TriggerEntry) (commands : List TriggerCommand) : List TriggerEntry :=
  commands.foldl run table

end TriggerCommand

namespace ActiveTrigger

def definitions (specs : List TriggerSpec) (channel : Int) (plugin : String) : String :=
  "\n".intercalate (specs.map fun s => s.definition channel plugin)

def removals (triggers : List ActiveTrigger) (plugin : String) : String :=
  "\n".intercalate (triggers.map fun t => t.spec.removal plugin)

end ActiveTrigger

namespace World

variable {W : Type} (world : World W)

/-- The editor ran the source. -/
def Executes (w : W) (source : String) (w' : W) : Prop :=
  ∃ v, world.answers w (.request "nvim_exec2"
    [.string source, .object [("output", .bool false)]]) (.value v) w'

/-- The editor was to run the source, and the request failed. -/
def Refuses (w : W) (source : String) (w' : W) : Prop :=
  ∃ r, (∀ v, r ≠ .value v) ∧ world.answers w (.request "nvim_exec2"
    [.string source, .object [("output", .bool false)]]) r w'

/-- The editor ran the source if there was anything in it. -/
def Performs {α : Type} (w : W) (items : List α) (source : String) (w' : W) : Prop :=
  if items = [] then w' = w else world.Executes w source w'

end World

namespace ActiveTrigger

variable {W : Type} {world : World W} {w w' : W} {plugin : String}

theorem plays_execute {α : Type} {source : String} {frames : Frames Unit α}
    {r : Except EditorError α} (a : α)
    (succeeds : ∀ t, Evaluate.action (.pure ()) frames t = .done (.ok a))
    (fails : ∀ e t, ∃ e', Evaluate.action (.failed e) frames t = .done (.error e'))
    (played : Script.Plays world w (Evaluate.action (execute source) frames []) r w') :
    r = .ok a ∧ world.Executes w source w' ∨ ∃ e, r = .error e ∧ world.Refuses w source w' := by
  simp only [execute, Action.write, Evaluate.action, Evaluate.body, Script.plays_ask] at played
  obtain ⟨reply, v, answered, rest⟩ := played
  cases reply with
  | value b =>
    simp only [Body.pure, Evaluate.body, succeeds, Script.plays_done] at rest
    obtain ⟨rfl, rfl⟩ := rest
    exact .inl ⟨rfl, b, answered⟩
  | error e =>
    obtain ⟨e', failed⟩ := fails e (Evaluate.Trail.push [] "write:nvim_exec2")
    simp only [Body.failed, Evaluate.body] at rest
    obtain ⟨rfl, rfl⟩ := Script.plays_done.1 (failed ▸ rest)
    exact .inr ⟨e', rfl, .error e, by simp, answered⟩
  | panic m =>
    obtain ⟨e', failed⟩ := fails (.fatal "write:nvim_exec2" m)
      (Evaluate.Trail.push [] "write:nvim_exec2")
    simp only [Evaluate.body] at rest
    obtain ⟨rfl, rfl⟩ := Script.plays_done.1 (failed ▸ rest)
    exact .inr ⟨e', rfl, .panic m, by simp, answered⟩

theorem plays_undefine {triggers : List ActiveTrigger} {r : Except EditorError Unit}
    (played : Script.Plays world w (undefine triggers plugin).evaluate r w') :
    r = .ok () ∧ world.Performs w triggers (removals triggers plugin) w' ∨
      ∃ e, r = .error e ∧ world.Refuses w (removals triggers plugin) w' := by
  unfold undefine at played
  split at played
  · next absent =>
    simp only [Action.evaluate, Evaluate.action, Script.plays_done] at played
    exact .inl ⟨played.1, by simpa [World.Performs, List.isEmpty_iff.1 absent] using played.2⟩
  · next present =>
    rcases plays_execute () (fun t => by simp [Evaluate.action])
      (fun e t => ⟨_, by rw [Evaluate.action]⟩) played with ⟨rfl, executed⟩ | refused
    · have nonempty : triggers ≠ [] := by simpa using present
      exact .inl ⟨rfl, by rwa [World.Performs, if_neg nonempty]⟩
    · exact .inr refused

theorem plays_define {specs : List TriggerSpec} {channel : Int}
    {r : Except EditorError (List ActiveTrigger)}
    (played : Script.Plays world w (define specs channel plugin).evaluate r w') :
    r = .ok (specs.map fun s => ⟨s, channel⟩) ∧
        world.Performs w specs (definitions specs channel plugin) w' ∨
      ∃ e, r = .error e ∧ world.Refuses w (definitions specs channel plugin) w' := by
  unfold define at played
  split at played
  · next absent =>
    simp only [Action.evaluate, Evaluate.action, Script.plays_done] at played
    have empty : specs = [] := List.isEmpty_iff.1 absent
    exact .inl ⟨by simpa [empty] using played.1, by simpa [World.Performs, empty] using played.2⟩
  · next present =>
    simp only [Action.evaluate, Action.map, Evaluate.action] at played
    rcases plays_execute (specs.map fun s => ⟨s, channel⟩)
      (fun t => by simp [Evaluate.action, Evaluate.body, Body.pure])
      (fun e t => ⟨_, by rw [Evaluate.action, Evaluate.action]⟩) played with
      ⟨rfl, executed⟩ | refused
    · have nonempty : specs ≠ [] := by simpa using present
      exact .inl ⟨rfl, by rwa [World.Performs, if_neg nonempty]⟩
    · exact .inr refused

end ActiveTrigger

end PluginHost
