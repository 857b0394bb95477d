import Fedqrs.Library.Proc
import Mathlib.Data.List.Forall2

/-! Computations that keep a part of the state and a log, and only add to the log. What each step
of a loop may add holds of the loop's whole log, part by part in the order of the steps it runs.
-/

namespace Proc

variable {σ ε α β ι κ E : Type}

/-- The log has grown by events of a kind, and the part is the same. -/
def Adds (part : σ → κ) (log : σ → List E) (allowed : E → Prop) (before after : σ) : Prop :=
  part after = part before
    ∧ ∃ new, log after = log before ++ new ∧ ∀ event ∈ new, allowed event

/-- Whatever its outcome, from a state with this value of the part the computation adds allowed
events only.
-/
def Emits (part : σ → κ) (value : κ) (log : σ → List E) (allowed : E → Prop)
    (action : Proc σ ε α)
    : Prop :=
  ∀ state, part state = value → Adds part log allowed state (action state).2

/-- The computation can give this result from a state with this value of the part. -/
def Yielded (part : σ → κ) (value : κ) (action : Proc σ ε α) (result : α) : Prop :=
  ∃ state reached, part state = value ∧ action state = (.ok result, reached)

section Rules

variable {part : σ → κ} {value : κ} {log : σ → List E} {allowed : E → Prop}

/-- A change of neither. -/
theorem Adds.same {before after : σ} (parts : part after = part before)
    (logs : log after = log before)
    : Adds part log allowed before after :=
  ⟨parts, [], by rw [logs, List.append_nil], by simp⟩

theorem Adds.trans {first second third : σ} (head : Adds part log allowed first second)
    (tail : Adds part log allowed second third)
    : Adds part log allowed first third := by
  obtain ⟨same, new, grown, fine⟩ := head
  obtain ⟨again, more, further, fine'⟩ := tail
  refine ⟨again.trans same, new ++ more, by rw [further, grown, List.append_assoc], ?_⟩
  intro event member
  rcases List.mem_append.mp member with early | late
  · exact fine event early
  · exact fine' event late

theorem Emits.pure (result : α)
    : Emits part value log allowed (Pure.pure result : Proc σ ε α) :=
  fun _ _ => .same rfl rfl

theorem Emits.fail (failure : ε)
    : Emits part value log allowed (Proc.fail failure : Proc σ ε α) :=
  fun _ _ => .same rfl rfl

theorem Emits.lift (result : Except ε α)
    : Emits part value log allowed (Proc.lift result : Proc σ ε α) := by
  intro state _
  rw [lift_apply]
  exact .same rfl rfl

/-- An update of the rest of the state. -/
theorem Emits.modify {update : σ → σ} (parts : ∀ state, part (update state) = part state)
    (logs : ∀ state, log (update state) = log state)
    : Emits part value log allowed (Proc.modify update : Proc σ ε Unit) :=
  fun state _ => .same (parts state) (logs state)

/-- Sequencing, where the second part may use what the first one can give. -/
theorem Emits.bind {first : Proc σ ε α} {next : α → Proc σ ε β}
    (head : Emits part value log allowed first)
    (tail : ∀ result, Yielded part value first result
      → Emits part value log allowed (next result))
    : Emits part value log allowed (first >>= next) := by
  intro state start
  have added := head state start
  rcases ran : first state with ⟨failure | result, reached⟩ <;> rw [ran] at added
  · rw [bind_of_error ran]
    exact added
  · rw [bind_of_ok ran]
    have given : Yielded part value first result := ⟨state, reached, start, ran⟩
    exact added.trans (tail result given reached (added.1.trans start))

/-- Sequencing of two computations that both add allowed events. -/
theorem Emits.andThen {first : Proc σ ε α} {next : α → Proc σ ε β}
    (head : Emits part value log allowed first)
    (tail : ∀ result, Emits part value log allowed (next result))
    : Emits part value log allowed (first >>= next) :=
  head.bind (fun result _ => tail result)

/-- A pure result first. -/
theorem Emits.liftThen {result : Except ε α} {next : α → Proc σ ε β}
    (tail : ∀ given, result = .ok given → Emits part value log allowed (next given))
    : Emits part value log allowed (Proc.lift result >>= next) := by
  refine (Emits.lift result).bind (fun given yielded => tail given ?_)
  obtain ⟨state, reached, _, ran⟩ := yielded
  rw [lift_apply] at ran
  exact congrArg Prod.fst ran

/-- Reading the state first. -/
theorem Emits.getThen {next : σ → Proc σ ε α}
    (tail : ∀ state, part state = value → Emits part value log allowed (next state))
    : Emits part value log allowed (Proc.get >>= next) :=
  fun state start => tail state start state start

end Rules

/-- The steps that a loop runs, each with the state that it starts from: up to the one that ends it.
-/
def entered (step : ι → Proc σ ε (Option α)) : List ι → σ → List (ι × σ)
  | [], _ => []
  | head :: rest, state =>
      (head, state) ::
        match step head state with
        | (.ok none, reached) => entered step rest reached
        | (.ok (some _), _) | (.error _, _) => []

/-- The log of a loop is that of the steps it runs, in order; by induction on the steps. -/
theorem runUntil_adds {part : σ → κ} {value : κ} {log : σ → List E} {allowed : ι → σ → E → Prop}
    {step : ι → Proc σ ε (Option α)} {missing : ε}
    (adds : ∀ head state, part state = value
      → Adds part log (allowed head state) state (step head state).2)
    (steps : List ι) {state : σ} (start : part state = value)
    : ∃ parts : List (List E),
        log (runUntil step missing steps state).2 = log state ++ parts.flatten
          ∧ List.Forall₂ (fun entry events => ∀ event ∈ events, allowed entry.1 entry.2 event)
            (entered step steps state) parts := by
  induction steps generalizing state with
  | nil => exact ⟨[], (List.append_nil _).symm, .nil⟩
  | cons head rest ih =>
      obtain ⟨same, new, grown, fine⟩ := adds head state start
      -- A step that ends the loop adds the last events.
      have alone : log (step head state).2 = log state ++ [new].flatten := by simpa using grown
      rcases ran : step head state with ⟨failure | (_ | result), reached⟩ <;>
        rw [ran] at grown same alone <;> simp only [entered, ran]
      · rw [runUntil_error ran]
        exact ⟨[new], alone, .cons fine .nil⟩
      · obtain ⟨parts, further, each⟩ := ih (same.trans start)
        refine ⟨new :: parts, ?_, .cons fine each⟩
        rw [runUntil_next ran, further, grown, List.flatten_cons, List.append_assoc]
      · rw [runUntil_done ran]
        exact ⟨[new], alone, .cons fine .nil⟩

end Proc
