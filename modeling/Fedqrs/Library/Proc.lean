import Mathlib.Data.List.Forall2
import Mathlib.Logic.Relation

/-! Stateful computations that may fail, with rules for invariants, for the elementary
changes a computation is made of, for lockstep pairs and for loops that stop at the first
step with a result.
-/

/-- A chain of results succeeds exactly when both parts do. -/
theorem Except.bind_eq_ok {ε α β : Type} {first : Except ε α} {next : α → Except ε β}
    {result : β}
    : (first >>= next) = .ok result ↔ ∃ value, first = .ok value ∧ next value = .ok result := by
  cases first with
  | error failure =>
      constructor
      · intro ran
        cases ran
      · rintro ⟨_, same, _⟩
        cases same
  | ok value =>
      constructor
      · intro ran
        exact ⟨value, rfl, ran⟩
      · rintro ⟨_, same, ran⟩
        cases same
        exact ran

/-- A chain of results fails exactly when one of its parts does. -/
theorem Except.bind_eq_error {ε α β : Type} {first : Except ε α} {next : α → Except ε β}
    {failure : ε}
    : (first >>= next) = .error failure
      ↔ first = .error failure ∨ ∃ value, first = .ok value ∧ next value = .error failure := by
  cases first with
  | error other =>
      constructor
      · intro ran
        cases ran
        exact Or.inl rfl
      · rintro (same | ⟨_, absent, _⟩)
        · cases same
          rfl
        · cases absent
  | ok value =>
      constructor
      · intro ran
        exact Or.inr ⟨value, rfl, ran⟩
      · rintro (absent | ⟨_, same, ran⟩)
        · cases absent
        · cases same
          exact ran

/-- A list is mapped when each of its elements is, by induction along it. -/
theorem Except.mapM_eq_ok {ε α β : Type} {f : α → Except ε β} {items : List α}
    {results : List β} (mapped : items.mapM f = .ok results)
    : List.Forall₂ (fun item result => f item = .ok result) items results := by
  induction items generalizing results with
  | nil =>
      cases mapped
      exact .nil
  | cons item rest ih =>
      rw [List.mapM_cons] at mapped
      obtain ⟨result, here, tail₁⟩ := Except.bind_eq_ok.mp mapped
      obtain ⟨others, there, tail₂⟩ := Except.bind_eq_ok.mp tail₁
      cases tail₂
      exact .cons here (ih there)

/-- A mapped list has every element mapped, by induction along it. -/
theorem Except.mapM_ok_of_mem {ε α β : Type} {f : α → Except ε β} {items : List α}
    {results : List β} (mapped : items.mapM f = .ok results) {item : α} (inside : item ∈ items)
    : ∃ result, f item = .ok result := by
  have all := Except.mapM_eq_ok mapped
  clear mapped
  induction all with
  | nil => cases inside
  | cons here _ ih =>
      rcases List.mem_cons.mp inside with rfl | further
      · exact ⟨_, here⟩
      · exact ih further

/-- Rendered pieces that are each parsed to what was asked for are parsed to all of it, by
induction along them.
-/
theorem Except.mapM_reads {A B C E : Type} {render : A → Except E B} {ask : A → Except E C}
    {read : B → Option C} {items : List A} {printed : List B}
    (one : ∀ item ∈ items, ∀ printed, render item = .ok printed
      → ∃ asked, ask item = .ok asked ∧ read printed = some asked)
    (rendered : items.mapM render = .ok printed)
    : ∃ asked, items.mapM ask = .ok asked ∧ printed.mapM read = some asked := by
  induction items generalizing printed with
  | nil =>
      cases rendered
      exact ⟨[], rfl, rfl⟩
  | cons item rest ih =>
      rw [List.mapM_cons] at rendered
      obtain ⟨first, here, later⟩ := Except.bind_eq_ok.mp rendered
      obtain ⟨others, there, done⟩ := Except.bind_eq_ok.mp later
      cases done
      obtain ⟨asked, asks, reads⟩ := one item List.mem_cons_self first here
      obtain ⟨more, asksMore, readsMore⟩ :=
        ih (fun other member => one other (List.mem_cons_of_mem item member)) there
      refine ⟨asked :: more, ?_, ?_⟩
      · rw [List.mapM_cons, asks, asksMore]
        rfl
      · rw [List.mapM_cons, reads, readsMore]
        rfl

/-- Relabelling the error keeps the successes. -/
@[simp]
theorem Except.mapError_eq_ok {ε δ α : Type} {relabel : ε → δ} {result : Except ε α}
    {value : α}
    : result.mapError relabel = .ok value ↔ result = .ok value := by
  cases result with
  | ok other =>
      constructor
      · intro ran
        cases ran
        rfl
      · intro ran
        cases ran
        rfl
  | error failure =>
      constructor
      · intro ran
        cases ran
      · intro ran
        cases ran

/-- A computation over state `σ` that returns a value or fails with an `ε`. The state
reached so far survives a failure, as memory behind a mutable reference does.
-/
def Proc (σ ε α : Type) : Type := σ → Except ε α × σ

namespace Proc

variable {σ τ ε α β γ ι : Type}

/-- Run `first`; on success continue with its value from the state it left. -/
protected def bind (first : Proc σ ε α) (next : α → Proc σ ε β) : Proc σ ε β :=
  fun state =>
    match first state with
    | (.ok value, reached) => next value reached
    | (.error failure, reached) => (.error failure, reached)

instance : Monad (Proc σ ε) where
  pure value := fun state => (.ok value, state)
  bind := Proc.bind

/-- Fail and leave the state as it is. -/
def fail (failure : ε) : Proc σ ε α := fun state => (.error failure, state)

/-- The current state. -/
def get : Proc σ ε σ := fun state => (.ok state, state)

/-- Replace the state by a function of it. -/
def modify (change : σ → σ) : Proc σ ε Unit := fun state => (.ok (), change state)

/-- A stateless result as a computation. -/
def lift : Except ε α → Proc σ ε α
  | .ok value => pure value
  | .error failure => fail failure

/-- A computation that touches only one component of a larger state. -/
def zoom (read : τ → σ) (write : σ → τ → τ) (action : Proc σ ε α) : Proc τ ε α :=
  fun state =>
    let outcome := action (read state)
    (outcome.1, write outcome.2 state)

@[simp]
theorem pure_apply (value : α) (state : σ)
    : (pure value : Proc σ ε α) state = (.ok value, state) :=
  rfl

@[simp]
theorem fail_apply (failure : ε) (state : σ)
    : (fail failure : Proc σ ε α) state = (.error failure, state) :=
  rfl

@[simp]
theorem get_apply (state : σ) : (get : Proc σ ε σ) state = (.ok state, state) := rfl

@[simp]
theorem modify_apply (change : σ → σ) (state : σ)
    : (modify change : Proc σ ε Unit) state = (.ok (), change state) :=
  rfl

@[simp]
theorem lift_ok (value : α) : (lift (.ok value) : Proc σ ε α) = pure value := rfl

@[simp]
theorem lift_error (failure : ε) : (lift (.error failure) : Proc σ ε α) = fail failure :=
  rfl

/-- A lifted result never changes the state, by cases on the result. -/
@[simp]
theorem lift_apply (result : Except ε α) (state : σ)
    : (lift result : Proc σ ε α) state = (result, state) := by
  cases result <;> rfl

@[simp]
theorem zoom_apply (read : τ → σ) (write : σ → τ → τ) (action : Proc σ ε α) (state : τ)
    : zoom read write action state
      = ((action (read state)).1, write (action (read state)).2 state) :=
  rfl

/-- Binding after a success continues from the state it left; definitional. -/
theorem bind_of_ok {first : Proc σ ε α} {state reached : σ} {value : α}
    (ran : first state = (.ok value, reached)) (next : α → Proc σ ε β)
    : (first >>= next) state = next value reached := by
  change Proc.bind first next state = _
  simp only [Proc.bind, ran]

/-- Binding after a failure is that failure; definitional. -/
theorem bind_of_error {first : Proc σ ε α} {state reached : σ} {failure : ε}
    (ran : first state = (.error failure, reached)) (next : α → Proc σ ε β)
    : (first >>= next) state = (.error failure, reached) := by
  change Proc.bind first next state = _
  simp only [Proc.bind, ran]

@[simp]
theorem pure_bind (value : α) (next : α → Proc σ ε β)
    : (pure value >>= next : Proc σ ε β) = next value :=
  rfl

@[simp]
theorem fail_bind (failure : ε) (next : α → Proc σ ε β)
    : (fail failure >>= next : Proc σ ε β) = fail failure :=
  rfl

@[simp]
theorem get_bind_apply (next : σ → Proc σ ε β) (state : σ)
    : (get >>= next : Proc σ ε β) state = next state state :=
  rfl

@[simp]
theorem modify_bind_apply (change : σ → σ) (next : Unit → Proc σ ε β) (state : σ)
    : (modify change >>= next : Proc σ ε β) state = next () (change state) :=
  rfl

/-- Sequencing associates, by cases on the first outcome. -/
theorem bind_assoc (first : Proc σ ε α) (next : α → Proc σ ε β) (last : β → Proc σ ε γ)
    : (first >>= next) >>= last = first >>= fun value => next value >>= last := by
  funext state
  rcases ran : first state with ⟨failure | value, reached⟩
  · rw [bind_of_error ran, bind_of_error (bind_of_error ran next)]
  · rw [bind_of_ok ran]
    change Proc.bind (first >>= next) last state = Proc.bind (next value) last reached
    simp only [Proc.bind, bind_of_ok ran]

theorem bind_congr {first : Proc σ ε α} {next other : α → Proc σ ε β}
    (same : ∀ value, next value = other value)
    : first >>= next = first >>= other :=
  congrArg (first >>= ·) (funext same)

/-- A sequence succeeds exactly when both parts do, by cases on the first outcome. -/
theorem bind_eq_ok {first : Proc σ ε α} {next : α → Proc σ ε β} {state last : σ}
    {result : β}
    : (first >>= next) state = (.ok result, last)
      ↔ ∃ value reached,
          first state = (.ok value, reached) ∧ next value reached = (.ok result, last) := by
  rcases ran : first state with ⟨outcome | value, reached⟩
  · simp [bind_of_error ran]
  · rw [bind_of_ok ran]
    constructor
    · intro later
      exact ⟨value, reached, rfl, later⟩
    · rintro ⟨_, _, same, later⟩
      cases same
      exact later

/-- A lifted result followed by a continuation succeeds when both do. -/
theorem lift_bind_eq_ok {outcome : Except ε α} {next : α → Proc σ ε β} {state last : σ}
    {result : β}
    : (lift outcome >>= next) state = (.ok result, last)
      ↔ ∃ value, outcome = .ok value ∧ next value state = (.ok result, last) := by
  cases outcome <;> simp

-----------------------------------------------------------------------------------------
-- Rules for one computation
-----------------------------------------------------------------------------------------

/-- From states in `before`, a success ends in `after` and a failure ends in `failed`. -/
def Triple (before : σ → Prop) (action : Proc σ ε α) (after : α → σ → Prop)
    (failed : σ → Prop)
    : Prop :=
  ∀ state, before state →
    match action state with
    | (.ok value, reached) => after value reached
    | (.error _, reached) => failed reached

/-- The computation keeps `inv`, whether it succeeds or fails. -/
abbrev Preserves (inv : σ → Prop) (action : Proc σ ε α) : Prop :=
  Triple inv action (fun _ => inv) inv

section Rules

variable {before middle : σ → Prop} {failed : σ → Prop}

/-- Read a triple at one run, by cases on its outcome. -/
theorem Triple.elim {action : Proc σ ε α} {after : α → σ → Prop}
    (triple : Triple before action after failed) {state : σ} (start : before state)
    : (∃ value reached, action state = (.ok value, reached) ∧ after value reached)
      ∨ ∃ failure reached, action state = (.error failure, reached) ∧ failed reached := by
  have held := triple state start
  rcases ran : action state with ⟨outcome | value, reached⟩
  · rw [ran] at held
    exact Or.inr ⟨outcome, reached, rfl, held⟩
  · rw [ran] at held
    exact Or.inl ⟨value, reached, rfl, held⟩

/-- A returned value keeps the state. -/
theorem Triple.pure {after : α → σ → Prop} {value : α}
    (holds : ∀ state, before state → after value state)
    : Triple before (Pure.pure value : Proc σ ε α) after failed :=
  fun state start => holds state start

/-- A failure keeps the state. -/
theorem Triple.fail {after : α → σ → Prop} {failure : ε}
    (holds : ∀ state, before state → failed state)
    : Triple before (Proc.fail failure : Proc σ ε α) after failed :=
  fun state start => holds state start

/-- A lifted result keeps the state; its value is the one it succeeded with. -/
theorem Triple.lift {after : α → σ → Prop} {result : Except ε α}
    (holds : ∀ value state, result = .ok value → before state → after value state)
    (fails : ∀ state, before state → failed state)
    : Triple before (Proc.lift result : Proc σ ε α) after failed := by
  intro state start
  cases result with
  | ok value => exact holds value state rfl start
  | error failure => exact fails state start

theorem Triple.get {after : σ → σ → Prop}
    (holds : ∀ state, before state → after state state)
    : Triple before (Proc.get : Proc σ ε σ) after failed :=
  fun state start => holds state start

theorem Triple.modify {change : σ → σ} {after : Unit → σ → Prop}
    (holds : ∀ state, before state → after () (change state))
    : Triple before (Proc.modify change : Proc σ ε Unit) after failed :=
  fun state start => holds state start

/-- Sequencing composes triples through the first one's outcome. -/
theorem Triple.bind {first : Proc σ ε α} {next : α → Proc σ ε β}
    {between : α → σ → Prop} {after : β → σ → Prop}
    (head : Triple before first between failed)
    (tail : ∀ value, Triple (between value) (next value) after failed)
    : Triple before (first >>= next) after failed := by
  intro state start
  rcases head.elim start with ⟨value, reached, ran, held⟩ | ⟨failure, reached, ran, held⟩
  · rw [bind_of_ok ran]
    exact tail value reached held
  · rw [bind_of_error ran]
    exact held

/-- What is kept holds in the state a run ends in. -/
theorem Triple.keeps {action : Proc σ ε α} {inv : σ → Prop} (kept : Preserves inv action)
    {state : σ} (start : inv state)
    : inv (action state).2 := by
  rcases kept.elim start with ⟨_, _, ran, held⟩ | ⟨_, _, ran, held⟩
  · rw [ran]
    exact held
  · rw [ran]
    exact held

end Rules

/-- Sequencing from one state keeps what both parts keep, whether they succeed or fail; the
second part may use how the first one ended.
-/
theorem keeps_bind {inv : σ → Prop} {first : Proc σ ε α} {next : α → Proc σ ε β} {state : σ}
    (head : inv (first state).2)
    (tail : ∀ value reached, first state = (.ok value, reached) → inv reached
      → inv (next value reached).2)
    : inv ((first >>= next) state).2 := by
  rcases ran : first state with ⟨failure | value, reached⟩ <;> rw [ran] at head
  · rw [bind_of_error ran]
    exact head
  · rw [bind_of_ok ran]
    exact tail value reached ran head

-----------------------------------------------------------------------------------------
-- Elementary changes
-----------------------------------------------------------------------------------------

/-- Whatever its outcome, the computation changes the state by elementary `change`s only. -/
def Within (change : σ → σ → Prop) (action : Proc σ ε α) : Prop :=
  ∀ state, Relation.ReflTransGen change state (action state).2

section Within

variable {change : σ → σ → Prop}

theorem Within.pure (value : α) : Within change (Pure.pure value : Proc σ ε α) :=
  fun _ => .refl

theorem Within.fail (failure : ε) : Within change (Proc.fail failure : Proc σ ε α) :=
  fun _ => .refl

theorem Within.lift (result : Except ε α)
    : Within change (Proc.lift result : Proc σ ε α) := by
  intro state
  rw [lift_apply]

/-- One elementary change. -/
theorem Within.modify {update : σ → σ} (elementary : ∀ state, change state (update state))
    : Within change (Proc.modify update : Proc σ ε Unit) :=
  fun state => .single (elementary state)

/-- Sequencing from one state, where the second part may use how the first one ended. -/
theorem changes_bind {first : Proc σ ε α} {next : α → Proc σ ε β} {state : σ}
    (head : Relation.ReflTransGen change state (first state).2)
    (tail : ∀ value reached, first state = (.ok value, reached)
      → Relation.ReflTransGen change reached (next value reached).2)
    : Relation.ReflTransGen change state ((first >>= next) state).2 := by
  rcases ran : first state with ⟨failure | value, reached⟩ <;> rw [ran] at head
  · rw [bind_of_error ran]
    exact head
  · rw [bind_of_ok ran]
    exact head.trans (tail value reached ran)

/-- Sequencing of two computations that both stay within the elementary changes. -/
theorem Within.bind {first : Proc σ ε α} {next : α → Proc σ ε β}
    (head : Within change first) (tail : ∀ value, Within change (next value))
    : Within change (first >>= next) :=
  fun state => changes_bind (head state) (fun value reached _ => tail value reached)

/-- Reading the state first. -/
theorem Within.getBind {next : σ → Proc σ ε α}
    (tail : ∀ state, Relation.ReflTransGen change state (next state state).2)
    : Within change (Proc.get >>= next) :=
  fun state => tail state

/-- Reading the state first, where the rest stays within the changes from any state. -/
theorem Within.getThen {next : σ → Proc σ ε α} (tail : ∀ state, Within change (next state))
    : Within change (Proc.get >>= next) :=
  fun state => tail state state

/-- What every elementary change keeps is kept by any sequence of them, by induction. -/
theorem changes_keep {inv : σ → Prop} (kept : ∀ before after, change before after → inv before
      → inv after) {start last : σ} (changes : Relation.ReflTransGen change start last)
    (holds : inv start)
    : inv last := by
  induction changes with
  | refl => exact holds
  | tail _ one ih => exact kept _ _ one ih

/-- The computation leaves the state as it is. -/
def Reads (action : Proc σ ε α) : Prop := ∀ state, (action state).2 = state

theorem Reads.pure (value : α) : Reads (Pure.pure value : Proc σ ε α) := fun _ => rfl

theorem Reads.fail (failure : ε) : Reads (Proc.fail failure : Proc σ ε α) :=
  fun _ => rfl

theorem Reads.lift (result : Except ε α) : Reads (Proc.lift result : Proc σ ε α) :=
  fun state => by rw [lift_apply]

theorem Reads.getThen {next : σ → Proc σ ε α} (tail : ∀ state, Reads (next state))
    : Reads (Proc.get >>= next) :=
  fun state => tail state state

/-- Sequencing of two computations that only read. -/
theorem Reads.bind {first : Proc σ ε α} {next : α → Proc σ ε β} (head : Reads first)
    (tail : ∀ value, Reads (next value))
    : Reads (first >>= next) := by
  intro state
  have start := head state
  rcases ran : first state with ⟨failure | value, reached⟩ <;> rw [ran] at start
  · rw [bind_of_error ran]
    exact start
  · rw [bind_of_ok ran]
    exact (tail value reached).trans start

/-- The state a reading computation ends in is the one it started from. -/
theorem Reads.reached {action : Proc σ ε α} (reads : Reads action) {state last : σ}
    {outcome : Except ε α} (ran : action state = (outcome, last))
    : last = state :=
  (congrArg Prod.snd ran).symm.trans (reads state)

/-- A computation that only reads stays within any changes. -/
theorem Reads.within {action : Proc σ ε α} (reads : Reads action) : Within change action := by
  intro state
  rw [reads state]

end Within

/-- From the state, the computation makes elementary changes only, and a success ends as
`post` says.
-/
structure Leads (change : σ → σ → Prop) (state : σ) (action : Proc σ ε α)
    (post : α → σ → Prop)
    : Prop where
  changes : Relation.ReflTransGen change state (action state).2
  after : ∀ value reached, action state = (.ok value, reached) → post value reached

section Leads

variable {change : σ → σ → Prop} {state : σ}

theorem Leads.pure {value : α} {post : α → σ → Prop} (holds : post value state)
    : Leads change state (Pure.pure value : Proc σ ε α) post where
  changes := .refl
  after other reached ran := by
    cases ran
    exact holds

theorem Leads.fail {failure : ε} {post : α → σ → Prop}
    : Leads change state (Proc.fail failure : Proc σ ε α) post where
  changes := .refl
  after other reached ran := by cases ran

theorem Leads.lift {result : Except ε α} {post : α → σ → Prop}
    (holds : ∀ value, result = .ok value → post value state)
    : Leads change state (Proc.lift result : Proc σ ε α) post := by
  cases result with
  | ok value => exact Leads.pure (holds value rfl)
  | error failure => exact Leads.fail

/-- One elementary change. -/
theorem Leads.modify {update : σ → σ} (elementary : change state (update state))
    : Leads change state (Proc.modify update : Proc σ ε Unit)
        (fun _ reached => reached = update state) where
  changes := .single elementary
  after other reached ran := by
    cases ran
    rfl

/-- Reading the state first. -/
theorem Leads.getBind {next : σ → Proc σ ε α} {post : α → σ → Prop}
    (tail : Leads change state (next state) post)
    : Leads change state (Proc.get >>= next) post where
  changes := tail.changes
  after := tail.after

/-- Sequencing: the second part starts from where the first one ended. -/
theorem Leads.bind {first : Proc σ ε α} {next : α → Proc σ ε β} {between : α → σ → Prop}
    {post : β → σ → Prop} (head : Leads change state first between)
    (tail : ∀ value reached, between value reached → Leads change reached (next value) post)
    : Leads change state (first >>= next) post where
  changes := changes_bind head.changes (fun value reached ran =>
    (tail value reached (head.after value reached ran)).changes)
  after result last ran := by
    obtain ⟨value, reached, began, ended⟩ := bind_eq_ok.mp ran
    exact (tail value reached (head.after value reached began)).after result last ended

/-- A lifted result first; the rest may use that it succeeded. -/
theorem Leads.liftBind {result : Except ε α} {next : α → Proc σ ε β} {post : β → σ → Prop}
    (tail : ∀ value, result = .ok value → Leads change state (next value) post)
    : Leads change state (Proc.lift result >>= next) post := by
  cases result with
  | ok value => exact tail value rfl
  | error failure => exact Leads.fail

theorem Leads.weaken {action : Proc σ ε α} {post weaker : α → σ → Prop}
    (leads : Leads change state action post)
    (finish : ∀ value reached, post value reached → weaker value reached)
    : Leads change state action weaker where
  changes := leads.changes
  after value reached ran := finish value reached (leads.after value reached ran)

end Leads

-----------------------------------------------------------------------------------------
-- Rules for how one run ends
-----------------------------------------------------------------------------------------

/-- A success ends as `after` says, and a failure is blamed where it stopped. -/
def Ends (after : α → σ → Prop) (blamed : ε → σ → Prop) : Except ε α × σ → Prop
  | (.ok value, reached) => after value reached
  | (.error failure, stopped) => blamed failure stopped

section Ends

variable {after : α → σ → Prop} {blamed : ε → σ → Prop} {state : σ}

/-- Read how a run ends, by cases on its outcome. -/
theorem Ends.elim {outcome : Except ε α × σ} (ends : Ends after blamed outcome)
    : (∃ value reached, outcome = (.ok value, reached) ∧ after value reached)
      ∨ ∃ failure stopped, outcome = (.error failure, stopped) ∧ blamed failure stopped := by
  rcases outcome with ⟨failure | value, reached⟩
  · exact Or.inr ⟨failure, reached, rfl, ends⟩
  · exact Or.inl ⟨value, reached, rfl, ends⟩

/-- Sequencing: the second part starts from where the first one ended. -/
theorem Ends.bind {first : Proc σ ε α} {next : α → Proc σ ε β} {between : α → σ → Prop}
    {last : β → σ → Prop} (head : Ends between blamed (first state))
    (tail : ∀ value reached, between value reached → Ends last blamed (next value reached))
    : Ends last blamed ((first >>= next) state) := by
  rcases ran : first state with ⟨failure | value, reached⟩ <;> rw [ran] at head
  · rw [bind_of_error ran]
    exact head
  · rw [bind_of_ok ran]
    exact tail value reached head

theorem Ends.weaken {weaker : α → σ → Prop} {looser : ε → σ → Prop}
    {outcome : Except ε α × σ} (ends : Ends after blamed outcome)
    (finish : ∀ value reached, after value reached → weaker value reached)
    (blames : ∀ failure stopped, blamed failure stopped → looser failure stopped)
    : Ends weaker looser outcome := by
  rcases outcome with ⟨failure | value, reached⟩
  · exact blames failure reached ends
  · exact finish value reached ends

/-- Where it ends is where it ran to. -/
theorem Ends.ran {outcome : Except ε α × σ} (ends : Ends after blamed outcome)
    : Ends (fun value reached => outcome = (.ok value, reached) ∧ after value reached) blamed
        outcome := by
  rcases outcome with ⟨failure | value, reached⟩
  · exact ends
  · exact ⟨rfl, ends⟩

/-- A failure may be blamed on more. -/
theorem Ends.blame {looser : ε → σ → Prop} {outcome : Except ε α × σ}
    (ends : Ends after blamed outcome)
    (blames : ∀ failure stopped, blamed failure stopped → looser failure stopped)
    : Ends after looser outcome :=
  ends.weaken (fun _ _ reached => reached) blames

end Ends

-----------------------------------------------------------------------------------------
-- Rules for two computations in lockstep
-----------------------------------------------------------------------------------------

/-- Two outcomes agree: both succeed with related values in related states, or both fail
with the same error in states that are related as far as a failure needs.
-/
def Alike (related failed : σ → τ → Prop) (values : α → β → Prop)
    : Except ε α × σ → Except ε β × τ → Prop
  | (.ok a, s), (.ok b, t) => values a b ∧ related s t
  | (.error e, s), (.error e', t) => e = e' ∧ failed s t
  | (.ok _, _), (.error _, _) => False
  | (.error _, _), (.ok _, _) => False

/-- From related states the two computations end alike. -/
def Lockstep (related failed : σ → τ → Prop) (values : α → β → Prop)
    (left : Proc σ ε α) (right : Proc τ ε β)
    : Prop :=
  ∀ s t, related s t → Alike related failed values (left s) (right t)

section Lockstep

variable {related failed : σ → τ → Prop} {δ : Type}

/-- The two shapes a pair of agreeing outcomes can have. -/
theorem Alike.elim {values : α → β → Prop} {left : Except ε α × σ}
    {right : Except ε β × τ} (pair : Alike related failed values left right)
    : (∃ a s b t, left = (.ok a, s) ∧ right = (.ok b, t) ∧ values a b ∧ related s t)
      ∨ ∃ e s t, left = (.error e, s) ∧ right = (.error e, t) ∧ failed s t := by
  rcases left with ⟨el | a, s⟩ <;> rcases right with ⟨er | b, t⟩
  · obtain ⟨rfl, lost⟩ := pair
    exact Or.inr ⟨el, s, t, rfl, rfl, lost⟩
  · exact False.elim pair
  · exact False.elim pair
  · exact Or.inl ⟨a, s, b, t, rfl, rfl, pair⟩

/-- Sequencing from agreeing outcomes, where the second parts may use how the first ended. -/
theorem Alike.bind {middle : σ → τ → Prop} {values : α → β → Prop}
    {results : γ → δ → Prop} {left : Proc σ ε α} {right : Proc τ ε β}
    {nextLeft : α → Proc σ ε γ} {nextRight : β → Proc τ ε δ} {s : σ} {t : τ}
    (head : Alike middle failed values (left s) (right t))
    (tail : ∀ a b s' t', left s = (.ok a, s') → right t = (.ok b, t') → values a b
      → middle s' t' → Alike related failed results (nextLeft a s') (nextRight b t'))
    : Alike related failed results ((left >>= nextLeft) s) ((right >>= nextRight) t) := by
  rcases head.elim with ⟨a, s', b, t', hl, hr, same, next⟩ | ⟨e, s', t', hl, hr, lost⟩
  · rw [bind_of_ok hl, bind_of_ok hr]
    exact tail a b s' t' hl hr same next
  · rw [bind_of_error hl, bind_of_error hr]
    exact ⟨rfl, lost⟩

theorem Lockstep.pure {values : α → β → Prop} {a : α} {b : β} (same : values a b)
    : Lockstep related failed values (Pure.pure a : Proc σ ε α)
        (Pure.pure b : Proc τ ε β) :=
  fun _ _ start => ⟨same, start⟩

theorem Lockstep.fail {values : α → β → Prop} (lost : ∀ s t, related s t → failed s t)
    (failure : ε)
    : Lockstep related failed values (Proc.fail failure : Proc σ ε α)
        (Proc.fail failure : Proc τ ε β) :=
  fun s t start => ⟨rfl, lost s t start⟩

theorem Lockstep.modify {left : σ → σ} {right : τ → τ}
    (kept : ∀ s t, related s t → related (left s) (right t))
    : Lockstep related failed Eq (Proc.modify left : Proc σ ε Unit)
        (Proc.modify right : Proc τ ε Unit) :=
  fun s t start => ⟨rfl, kept s t start⟩

/-- Sequencing keeps two computations in lockstep. -/
theorem Lockstep.bind {values : α → β → Prop} {results : γ → δ → Prop}
    {left : Proc σ ε α} {right : Proc τ ε β} {nextLeft : α → Proc σ ε γ}
    {nextRight : β → Proc τ ε δ} (head : Lockstep related failed values left right)
    (tail : ∀ a b, values a b → Lockstep related failed results (nextLeft a) (nextRight b))
    : Lockstep related failed results (left >>= nextLeft) (right >>= nextRight) :=
  fun s t start =>
    (head s t start).bind (fun a b s' t' _ _ same next => tail a b same s' t' next)

end Lockstep

-----------------------------------------------------------------------------------------
-- Loops that stop at the first result
-----------------------------------------------------------------------------------------

/-- Run the steps in order until one returns a result; without one, fail with `missing`. -/
def runUntil (step : ι → Proc σ ε (Option α)) (missing : ε) : List ι → Proc σ ε α
  | [] => fail missing
  | head :: rest => do
      match ← step head with
      | some result => pure result
      | none => runUntil step missing rest

/-- `holds` at each step that the loop starts from `state` on `steps`. -/
def Along (step : ι → Proc σ ε (Option α)) (holds : σ → ι → Prop) : List ι → σ → Prop
  | [], _ => True
  | head :: rest, state =>
      holds state head
      ∧ ∀ reached, step head state = (.ok none, reached) → Along step holds rest reached

/-- The loop can pass from `steps` at one state to a suffix of them at another. -/
inductive Passes (step : ι → Proc σ ε (Option α)) : List ι → σ → List ι → σ → Prop
  | here {steps state} : Passes step steps state steps state
  | next {head rest state reached later last}
    (ran : step head state = (.ok none, reached)) (tail : Passes step rest reached later last)
    : Passes step (head :: rest) state later last

section Loops

variable {step : ι → Proc σ ε (Option α)} {missing : ε} {holds : σ → ι → Prop}

/-- A step without a result passes control to the remaining steps. -/
theorem runUntil_next {head : ι} {rest : List ι} {state reached : σ}
    (ran : step head state = (.ok none, reached))
    : runUntil step missing (head :: rest) state = runUntil step missing rest reached := by
  rw [runUntil, bind_of_ok ran]

/-- A step with a result ends the loop. -/
theorem runUntil_done {head : ι} {rest : List ι} {state reached : σ} {result : α}
    (ran : step head state = (.ok (some result), reached))
    : runUntil step missing (head :: rest) state = (.ok result, reached) := by
  rw [runUntil, bind_of_ok ran]
  rfl

/-- A failing step ends the loop with its failure. -/
theorem runUntil_error {head : ι} {rest : List ι} {state reached : σ} {failure : ε}
    (ran : step head state = (.error failure, reached))
    : runUntil step missing (head :: rest) state = (.error failure, reached) := by
  rw [runUntil, bind_of_error ran]

/-- An invariant of every step that meets `holds` is an invariant of a run whose steps all
do. Witness: induction on the remaining steps.
-/
theorem runUntil_preserves {inv : σ → Prop}
    (kept : ∀ state head, holds state head → inv state → inv (step head state).2)
    (steps : List ι) (state : σ) (start : inv state) (along : Along step holds steps state)
    : inv (runUntil step missing steps state).2 := by
  induction steps generalizing state with
  | nil => exact start
  | cons head rest ih =>
      have next := kept state head along.1 start
      rcases ran : step head state with ⟨failure | (_ | result), reached⟩ <;> rw [ran] at next
      · rw [runUntil_error ran]
        exact next
      · rw [runUntil_next ran]
        exact ih reached next (along.2 reached ran)
      · rw [runUntil_done ran]
        exact next

/-- The same invariant holds at each state the run passes through. -/
theorem Passes.preserves {inv : σ → Prop}
    (kept : ∀ state head, holds state head → inv state → inv (step head state).2)
    {steps later : List ι} {state last : σ} (passes : Passes step steps state later last)
    (start : inv state) (along : Along step holds steps state)
    : inv last := by
  induction passes with
  | here => exact start
  | @next head rest state reached later last ran tail ih =>
      have next := kept state head along.1 start
      rw [ran] at next
      exact ih next (along.2 reached ran)

/-- A property of every step from every state. -/
theorem Along.always (always : ∀ state head, holds state head) (steps : List ι) (state : σ)
    : Along step holds steps state := by
  induction steps generalizing state with
  | nil => trivial
  | cons head rest ih => exact ⟨always state head, fun reached _ => ih reached⟩

/-- A property of each of the steps, by induction along them. -/
theorem Along.of_mem {fits : ι → Prop} {steps : List ι} (each : ∀ head ∈ steps, fits head)
    (state : σ)
    : Along step (fun _ head => fits head) steps state := by
  induction steps generalizing state with
  | nil => trivial
  | cons head rest ih =>
      refine ⟨each head List.mem_cons_self, ?_⟩
      intro reached _
      exact ih (fun other later => each other (List.mem_cons_of_mem head later)) reached

/-- Two properties of each step, by induction on the remaining steps. -/
theorem Along.and {other : σ → ι → Prop} {steps : List ι} {state : σ}
    (along : Along step holds steps state) (also : Along step other steps state)
    : Along step (fun state head => holds state head ∧ other state head) steps state := by
  induction steps generalizing state with
  | nil => trivial
  | cons head rest ih =>
      refine ⟨⟨along.1, also.1⟩, ?_⟩
      intro reached ran
      exact ih (along.2 reached ran) (also.2 reached ran)

/-- What remains is no longer than where the loop came from, by induction on how it passed. -/
theorem Passes.length_le {steps later : List ι} {state last : σ}
    (passes : Passes step steps state later last)
    : later.length ≤ steps.length := by
  induction passes with
  | here => exact Nat.le_refl _
  | next _ _ ih =>
      rw [List.length_cons]
      omega

/-- The loop ends as it does from where it passes. -/
theorem Passes.runUntil_eq {steps later : List ι} {state last : σ}
    (passes : Passes step steps state later last)
    : runUntil step missing steps state = runUntil step missing later last := by
  induction passes with
  | here => rfl
  | next ran _ ih =>
      rw [runUntil_next ran]
      exact ih

/-- Lockstep steps give lockstep loops, as long as the left run meets `holds`. Witness:
induction on the remaining steps.
-/
theorem Lockstep.runUntil {related failed : σ → τ → Prop} {values : α → β → Prop}
    {other : ι → Proc τ ε (Option β)} (lost : ∀ s t, related s t → failed s t)
    (pair : ∀ s t head, related s t → holds s head
      → Alike related failed (Option.Rel values) (step head s) (other head t))
    (steps : List ι) (s : σ) (t : τ) (start : related s t)
    (along : Along step holds steps s)
    : Alike related failed values (Proc.runUntil step missing steps s)
        (Proc.runUntil other missing steps t) := by
  induction steps generalizing s t with
  | nil => exact ⟨rfl, lost s t start⟩
  | cons head rest ih =>
      rcases (pair s t head start along.1).elim with
        ⟨a, s', b, t', hl, hr, same, next⟩ | ⟨e, s', t', hl, hr, end_⟩
      · cases same with
        | none =>
            rw [runUntil_next hl, runUntil_next hr]
            exact ih s' t' next (along.2 s' hl)
        | some same =>
            rw [runUntil_done hl, runUntil_done hr]
            exact ⟨same, next⟩
      · rw [runUntil_error hl, runUntil_error hr]
        exact ⟨rfl, end_⟩

end Loops

end Proc
