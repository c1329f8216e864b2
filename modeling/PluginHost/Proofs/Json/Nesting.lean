import PluginHost.Proofs.Json.Ordered
import PluginHost.Json.Read

/-!
What is read from a text is nested no deeper than the limit, so it can be printed and read again.
-/

set_option autoImplicit false

namespace PluginHost.Json

theorem depthItems_le_iff {items : List Json} {n : Nat} :
    depthItems items ≤ n ↔ ∀ v ∈ items, v.depth ≤ n := by
  induction items with
  | nil => simp [depthItems]
  | cons v rest ih => rw [depthItems, Nat.max_le, ih, List.forall_mem_cons]

theorem depthFields_le_iff {fields : List (String × Json)} {n : Nat} :
    depthFields fields ≤ n ↔ ∀ m ∈ fields, m.2.depth ≤ n := by
  induction fields with
  | nil => simp [depthFields]
  | cons m rest ih =>
    obtain ⟨k, v⟩ := m
    rw [depthFields, Nat.max_le, ih, List.forall_mem_cons]

mutual
theorem depth_canonical_le : (v : Json) → v.canonical.depth ≤ v.depth
  | .null | .bool _ | .number _ | .string _ => Nat.le_refl _
  | .array items => by
    simp only [canonical, depth]
    exact Nat.succ_le_succ (depthItems_canonical_le items)
  | .object fields => by
    simp only [canonical, depth]
    have each := depthFields_le_iff.1 (depthFields_canonical_le fields)
    exact Nat.succ_le_succ (depthFields_le_iff.2 fun m member => each m (Fields.mem_ofList member))

theorem depthItems_canonical_le : (items : List Json) →
    depthItems (canonicalItems items) ≤ depthItems items
  | [] => Nat.le_refl _
  | v :: rest => by
    have first := depth_canonical_le v
    have others := depthItems_canonical_le rest
    simp only [canonicalItems, depthItems]
    omega

theorem depthFields_canonical_le : (fields : List (String × Json)) →
    depthFields (canonicalFields fields) ≤ depthFields fields
  | [] => Nat.le_refl _
  | (_, v) :: rest => by
    have first := depth_canonical_le v
    have others := depthFields_canonical_le rest
    simp only [canonicalFields, depthFields]
    omega
end

/-- A token by itself is no container. -/
def Token.Flat : Token → Prop
  | .scalar v => v.depth = 0
  | _ => True

theorem tokenAt_flat (c : Char) (before after : Cursor) : (tokenAt c before after).1.Flat := by
  have word : ∀ v : Json, v.depth = 0 → ∀ expected, (wordToken v expected after).1.Flat := by
    intro v flat expected
    unfold wordToken
    split
    · exact flat
    · trivial
  have number : ∀ positive cursor, (numberToken positive cursor).1.Flat := by
    intro positive cursor
    unfold numberToken
    split
    · rfl
    · trivial
  unfold tokenAt
  split
  next => trivial
  next => trivial
  next => trivial
  next => trivial
  next => trivial
  next => trivial
  next =>
    unfold stringToken
    split <;> trivial
  next => exact word .null rfl _
  next => exact word (.bool true) rfl _
  next => exact word (.bool false) rfl _
  next => exact number false after
  next =>
    split
    · exact number true before
    · trivial

theorem tokens_flat (steps : Nat) (c : Cursor) : ∀ t ∈ tokens steps c, t.1.Flat := by
  induction steps generalizing c with
  | zero => simp [tokens]
  | succ steps ih =>
    unfold tokens
    split
    · simp
    · split
      · exact ih _
      · exact List.forall_mem_cons.2 ⟨tokenAt_flat _ _ _, ih _⟩

def Open.values : Open → List Json
  | .list items => items
  | .object fields _ => fields.map (·.2)

/-- Nothing that open containers hold is nested too deeply for the place it is at. -/
def Fits : List Open → Prop
  | [] => True
  | o :: rest => rest.length + 1 ≤ nestingLimit ∧
    (∀ v ∈ o.values, rest.length + 1 + v.depth ≤ nestingLimit) ∧ Fits rest

theorem Fits.length {stack : List Open} (fits : Fits stack) : stack.length ≤ nestingLimit := by
  cases stack with
  | nil => exact Nat.zero_le _
  | cons o rest => exact fits.1

namespace Machine

variable {m m' : Machine} {stack : List Open} {t : Token} {o : Nat}

/-- What a token may make of a machine that does not stand at the end of a value. -/
inductive Moves (m : Machine) (t : Token) : Machine → Prop where
  | scalar {v : Json} (token : t = .scalar v) : Moves m t (close v m.stack)
  | text (s : String) : Moves m t (close (.string s) m.stack)
  | openList (room : m.stack.length < nestingLimit) :
      Moves m t ⟨.firstItem, .list [] :: m.stack, .null⟩
  | openObject (room : m.stack.length < nestingLimit) :
      Moves m t ⟨.firstKey, .object [] "" :: m.stack, .null⟩
  | await (expect : Expect) (goesOn : expect ≠ .nothing) : Moves m t ⟨expect, m.stack, .null⟩
  | name {fields : List (String × Json)} {before : String} {rest : List Open} (key : String)
      (stacked : m.stack = .object fields before :: rest) :
      Moves m t ⟨.value, .object fields key :: rest, .null⟩
  | closeList {items : List Json} {rest : List Open} (stacked : m.stack = .list items :: rest) :
      Moves m t (close (.array items.reverse) rest)
  | closeObject {fields : List (String × Json)} {key : String} {rest : List Open}
      (stacked : m.stack = .object fields key :: rest) :
      Moves m t (close (.object fields.reverse) rest)

theorem moves_of_value (done : value m.stack t o = .ok m') : m.Moves t m' := by
  unfold value at done
  split at done
  next v =>
    cases done
    exact .scalar rfl
  next s =>
    cases done
    exact .text s
  next => nomatch done
  next => nomatch done
  next =>
    split at done
    next room =>
      cases done
      exact .openList room
    next => nomatch done
  next =>
    split at done
    next room =>
      cases done
      exact .openObject room
    next => nomatch done
  all_goals nomatch done

theorem moves_of_key (done : key m.stack t o = .ok m') : m.Moves t m' := by
  unfold key at done
  split at done
  next =>
    cases done
    exact .await _ nofun
  next => nomatch done
  next => nomatch done

theorem moves_of_separator (done : separator m.stack t o = .ok m') : m.Moves t m' := by
  unfold separator at done
  split at done
  next items rest stacked =>
    cases done
    exact .closeList stacked
  next items rest stacked =>
    cases done
    exact stacked ▸ .await .nextItem nofun
  next => nomatch done
  next fields key rest stacked =>
    cases done
    exact .closeObject stacked
  next fields key rest stacked =>
    cases done
    exact stacked ▸ .await .nextKey nofun
  next => nomatch done
  next => nomatch done

theorem moves_of_step (done : m.step t o = .ok m') : m.expect ≠ .nothing ∧ m.Moves t m' := by
  unfold Machine.step at done
  split at done
  next expected => exact ⟨by simp [expected], moves_of_separator done⟩
  next => nomatch done
  next expected => exact ⟨by simp [expected], moves_of_value done⟩
  next expected _ => exact ⟨by simp [expected], moves_of_value done⟩
  next expected _ => exact ⟨by simp [expected], moves_of_value done⟩
  next expected => exact ⟨by simp [expected], moves_of_separator done⟩
  next => nomatch done
  next expected _ => exact ⟨by simp [expected], moves_of_key done⟩
  next expected _ => exact ⟨by simp [expected], moves_of_key done⟩
  next key expected =>
    split at done
    next fields before rest stacked =>
      cases done
      exact ⟨by simp [expected], .name key stacked⟩
    next => nomatch done
  next => nomatch done
  next expected => exact ⟨by simp [expected], moves_of_separator done⟩
  next => nomatch done

structure Shallow (m : Machine) : Prop where
  stack : Fits m.stack
  result : m.result.depth ≤ nestingLimit

theorem close_shallow {v : Json} (fits : Fits stack) (shallow : stack.length + v.depth ≤ nestingLimit) :
    (close v stack).Shallow := by
  match stack with
  | [] => exact ⟨trivial, by simpa [close] using shallow⟩
  | .list items :: rest =>
    exact ⟨⟨fits.1, List.forall_mem_cons.2 ⟨shallow, fits.2.1⟩, fits.2.2⟩, Nat.zero_le _⟩
  | .object fields key :: rest =>
    exact ⟨⟨fits.1, List.forall_mem_cons.2 ⟨shallow, fits.2.1⟩, fits.2.2⟩, Nat.zero_le _⟩

theorem Shallow.step (shallow : m.Shallow) (flat : t.Flat) (done : m.step t o = .ok m') :
    m'.Shallow := by
  have fits := shallow.stack
  have within := fits.length
  obtain ⟨-, moves⟩ := moves_of_step done
  cases moves with
  | @scalar v token =>
    subst token
    exact close_shallow fits (by rw [show v.depth = 0 from flat]; exact within)
  | text s => exact close_shallow fits within
  | openList room | openObject room => exact ⟨⟨room, nofun, fits⟩, Nat.zero_le _⟩
  | await => exact ⟨fits, Nat.zero_le _⟩
  | name key stacked =>
    rw [stacked] at fits
    exact ⟨fits, Nat.zero_le _⟩
  | @closeList items rest stacked =>
    rw [stacked] at fits
    obtain ⟨room, each, fits⟩ := fits
    -- The list is one deeper than what it holds, but its place is one further out.
    have inner : depthItems items.reverse ≤ nestingLimit - (rest.length + 1) :=
      depthItems_le_iff.2 fun v member => by
        have within := each v (List.mem_reverse.1 member)
        omega
    exact close_shallow fits (by rw [depth]; omega)
  | @closeObject fields key rest stacked =>
    rw [stacked] at fits
    obtain ⟨room, each, fits⟩ := fits
    have inner : depthFields fields.reverse ≤ nestingLimit - (rest.length + 1) :=
      depthFields_le_iff.2 fun m member => by
        have within := each m.2 (List.mem_map_of_mem (List.mem_reverse.1 member))
        omega
    exact close_shallow fits (by rw [depth]; omega)

theorem Shallow.run (shallow : m.Shallow) {ts : List (Token × Nat)} (flat : ∀ t ∈ ts, t.1.Flat)
    (done : m.run ts = .ok m') : m'.Shallow := by
  induction ts generalizing m with
  | nil =>
    cases done
    exact shallow
  | cons t rest ih =>
    unfold Machine.run at done
    split at done
    next after stepped =>
      exact ih (shallow.step (flat t List.mem_cons_self) stepped)
        (fun u member => flat u (.tail t member)) done
    next => nomatch done

end Machine

theorem depth_of_readChars {cs : List Char} {v : Json} (read : readChars cs = .ok v) :
    v.depth ≤ nestingLimit := by
  have start : Machine.start.Shallow := ⟨trivial, Nat.zero_le _⟩
  unfold readChars at read
  split at read
  next => nomatch read
  next m done =>
    split at read
    next => nomatch read
    next =>
      cases read
      exact (start.run (tokens_flat _ _) done).result

theorem parse_wellFormed {s : String} {v : Json} (parsed : parse s = .ok v) :
    v.Ordered ∧ v.depth ≤ nestingLimit := by
  unfold parse parseRaw at parsed
  split at parsed
  next raw read =>
    cases parsed
    -- Members with a repeated key are dropped after the reading, which makes nothing deeper.
    exact ⟨canonical_ordered raw, Nat.le_trans (depth_canonical_le raw) (depth_of_readChars read)⟩
  next => nomatch parsed

end PluginHost.Json
