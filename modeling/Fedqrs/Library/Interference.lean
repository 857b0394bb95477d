import Fedqrs.Library.Proc

/-! Threads that act on one state by turns, seen by one of them: when the actions of the others
are not seen, a history is seen as that of the thread's own actions, and a computation that is
interrupted by the others ends as one that is not.
-/

namespace Interference

variable {S T A ε α β : Type}

/-- The state after some actions, one after the other. -/
def afterAll (act : A → S → S) (actions : List A) (state : S) : S :=
  actions.foldl (fun reached action => act action reached) state

section Histories

variable {act : A → S → S} {fine : A → Prop}

/-- What every action keeps is kept by all of them, by induction along them. -/
theorem afterAll_keeps {inv : S → Prop}
    (kept : ∀ action state, fine action → inv state → inv (act action state))
    {actions : List A} (allFine : ∀ action ∈ actions, fine action) {state : S}
    (start : inv state)
    : inv (afterAll act actions state) := by
  induction actions generalizing state with
  | nil => exact start
  | cons action rest ih =>
      refine ih (fun other later => allFine other (List.mem_cons_of_mem action later)) ?_
      exact kept action state (allFine action List.mem_cons_self) start

/-- Actions that are not seen and actions that are seen alike: a history is seen as that of the
actions that are seen, by induction along it.
-/
theorem afterAll_purged {seen : A → Bool} {alike : S → S → Prop}
    (unseen : ∀ action s t, fine action → seen action = false → alike s t
      → alike (act action s) t)
    (both : ∀ action s t, fine action → seen action = true → alike s t
      → alike (act action s) (act action t))
    {actions : List A} (allFine : ∀ action ∈ actions, fine action) {s t : S}
    (start : alike s t)
    : alike (afterAll act actions s) (afterAll act (actions.filter seen) t) := by
  induction actions generalizing s t with
  | nil => exact start
  | cons action rest ih =>
      have here := allFine action List.mem_cons_self
      have later : ∀ other ∈ rest, fine other :=
        fun other member => allFine other (List.mem_cons_of_mem action member)
      cases visible : seen action with
      | false =>
          rw [List.filter_cons_of_neg (by simp [visible])]
          exact ih later (unseen action s t here visible start)
      | true =>
          rw [List.filter_cons_of_pos visible]
          exact ih later (both action s t here visible start)

end Histories

-----------------------------------------------------------------------------------------
-- Interrupted computations
-----------------------------------------------------------------------------------------

/-- A state, with the interludes that are still to come. -/
structure Scheduled (S A : Type) where
  state : S
  interludes : List (List A)

/-- The actions of the next interlude happen. -/
def interlude (act : A → S → S) : Proc (Scheduled S A) ε Unit :=
  Proc.modify (fun scheduled =>
    match scheduled.interludes with
    | [] => scheduled
    | actions :: rest =>
        { state := afterAll act actions scheduled.state, interludes := rest })

/-- The computation, after the next interlude. -/
def interrupted (act : A → S → S) (action : Proc S ε α) : Proc (Scheduled S A) ε α := do
  interlude act
  Proc.zoom Scheduled.state (fun state scheduled => { scheduled with state }) action

/-- The actions of all interludes are fine. -/
def Scheduled.Fine (fine : A → Prop) (scheduled : Scheduled S A) : Prop :=
  ∀ actions ∈ scheduled.interludes, ∀ action ∈ actions, fine action

section Interrupted

variable {act : A → S → S} {fine : A → Prop} {alike : T → S → Prop}

/-- An interlude is not seen. -/
theorem interlude_unseen
    (unseen : ∀ action t s, fine action → alike t s → alike t (act action s))
    {t : T} {scheduled : Scheduled S A} (start : alike t scheduled.state)
    (allFine : scheduled.Fine fine)
    : ∃ after, (interlude act : Proc _ ε Unit) scheduled = (.ok (), after)
        ∧ alike t after.state ∧ after.Fine fine := by
  obtain ⟨state, interludes⟩ := scheduled
  cases interludes with
  | nil => exact ⟨_, rfl, start, allFine⟩
  | cons actions rest =>
      refine ⟨_, rfl, ?_, fun other later => allFine other (List.mem_cons_of_mem actions later)⟩
      refine afterAll_keeps (fun action s here => unseen action t s here) ?_ start
      exact allFine actions List.mem_cons_self

/-- A computation in lockstep with one stays so when that one is interrupted. -/
theorem interrupted_lockstep {values : α → β → Prop} {left : Proc T ε α} {right : Proc S ε β}
    (unseen : ∀ action t s, fine action → alike t s → alike t (act action s))
    (lockstep : Proc.Lockstep alike alike values left right)
    : Proc.Lockstep (fun t scheduled => alike t scheduled.state ∧ scheduled.Fine fine)
        (fun t scheduled => alike t scheduled.state ∧ scheduled.Fine fine) values left
        (interrupted act right) := by
  rintro t scheduled ⟨start, allFine⟩
  obtain ⟨after, ran, seen, still⟩ := @interlude_unseen _ _ _ ε _ _ _ unseen _ _ start allFine
  unfold interrupted
  rw [Proc.bind_of_ok ran, Proc.zoom_apply]
  rcases (lockstep t after.state seen).elim with
    ⟨a, t', b, s', ranLeft, ranRight, same, next⟩ | ⟨failure, t', s', ranLeft, ranRight, next⟩
  · rw [ranLeft, ranRight]
    exact ⟨same, next, still⟩
  · rw [ranLeft, ranRight]
    exact ⟨rfl, next, still⟩

end Interrupted

end Interference
