import Fedqrs.Library.SharedPool
import Mathlib.Algebra.BigOperators.Group.Finset.Basic
import Mathlib.Algebra.Order.BigOperators.Group.Finset
import Mathlib.Data.Fintype.Basic

/-! The runs of a shared pool. Whatever the interleaving, a call receives the replies of its own
workers to its own jobs, and no call waits for ever: while one has not ended there is a step to
take, and no run has more steps than its calls owe.
-/

namespace SharedPool

variable {C W J ω ρ : Type} [DecidableEq C] [DecidableEq W]
variable (jobs : C → List J) (assign : J → W) (serve : ω → J → ρ × ω) (stops : ρ → Prop)

-----------------------------------------------------------------------------------------
-- Every interleaving
-----------------------------------------------------------------------------------------

/-- What holds of a pool after any run. -/
structure Sound (first : W → ω) (pool : Pool C W ω ρ) : Prop where
  booked : Booked jobs assign pool
  delivered : Delivered jobs assign serve first pool
  progressed : Progressed jobs assign stops pool

section Runs

variable {jobs assign serve stops} {pool next : Pool C W ω ρ} {first : W → ω} {count : Nat}

/-- By induction along the run. -/
theorem Run.sound (run : Run jobs assign serve stops (Pool.start first) count pool)
    : Sound jobs assign serve stops first pool := by
  induction run with
  | refl => exact ⟨.start first, .start, .start first⟩
  | step _ step ih =>
      exact ⟨ih.booked.step step, ih.delivered.step ih.booked step,
        ih.progressed.step ih.delivered step⟩
  | death _ death ih =>
      exact ⟨ih.booked.death death, ih.delivered.death ih.booked death,
        ih.progressed.death ih.delivered death⟩

/-- A ticket that was sent is served, queued or lost with its own worker. -/
theorem Sound.sent (sound : Sound jobs assign serve stops first pool) {ticket : Ticket C}
    (sent : ticket.2 < pool.sent ticket.1)
    : ∃ job, jobAt jobs ticket = some job
      ∧ (ticket ∈ pool.served (assign job) ∨ ticket ∈ pool.queues (assign job)
        ∨ ticket ∈ pool.lost (assign job)) := by
  have inside : ticket.2 < (jobs ticket.1).length :=
    Nat.lt_of_lt_of_le sent (sound.progressed.sent ticket.1)
  obtain ⟨job, known⟩ := exists_jobAt inside
  have assigned : workerAt jobs assign ticket = some (assign job) :=
    congrArg (Option.map assign) known
  have member := sound.booked.mem_ledger.mpr ⟨sent, assigned⟩
  simp only [Pool.ledger, List.mem_append, or_assoc] at member
  exact ⟨job, known, member⟩

theorem Sound.sent_of_full (sound : Sound jobs assign serve stops first pool)
    {ticket : Ticket C} (full : pool.channels ticket ≠ .empty)
    : ticket.2 < pool.sent ticket.1 := by
  by_contra later
  exact full (sound.delivered.unsent ticket (Nat.not_lt.mp later))

/-- A reply received is that of the ticket's own worker to the ticket's own job. -/
theorem Sound.answered (sound : Sound jobs assign serve stops first pool) {ticket : Ticket C}
    {given : ρ} (replied : pool.channels ticket = .reply given)
    : pool.Answered jobs assign serve first ticket given := by
  have full : pool.channels ticket ≠ .empty := by
    rw [replied]
    intro same
    cases same
  obtain ⟨job, _, served | queued | lost⟩ := sound.sent (sound.sent_of_full full)
  · obtain ⟨other, same, answered⟩ := sound.delivered.served _ ticket served
    rw [replied] at same
    cases same
    exact answered
  · exact absurd (sound.delivered.queued _ ticket queued) full
  · have closed := sound.delivered.lost _ ticket lost
    rw [replied] at closed
    cases closed

/-- A channel is closed by the death of its job's worker. -/
theorem Sound.closed (sound : Sound jobs assign serve stops first pool) {ticket : Ticket C}
    (closed : pool.channels ticket = .closed)
    : ∃ job, jobAt jobs ticket = some job ∧ pool.alive (assign job) = false := by
  have full : pool.channels ticket ≠ .empty := by
    rw [closed]
    intro same
    cases same
  obtain ⟨job, known, served | queued | lost⟩ := sound.sent (sound.sent_of_full full)
  · obtain ⟨other, replied, _⟩ := sound.delivered.served _ ticket served
    rw [closed] at replied
    cases replied
  · exact absurd (sound.delivered.queued _ ticket queued) full
  · refine ⟨job, known, ?_⟩
    cases alive : pool.alive (assign job) with
    | false => rfl
    | true =>
        rw [sound.booked.living _ alive] at lost
        cases lost

/-- What each serving keeps of a worker's state and says of its reply holds of every reply
received.
-/
theorem Sound.related (sound : Sound jobs assign serve stops first pool)
    (inv : W → ω → Prop) (related : J → ρ → Prop)
    (serves : ∀ call, ∀ job ∈ jobs call, ∀ state, inv (assign job) state
      → inv (assign job) (serve state job).2 ∧ related job (serve state job).1)
    (start : ∀ worker, inv worker (first worker)) {ticket : Ticket C} {given : ρ}
    (replied : pool.channels ticket = .reply given)
    : ∃ job, jobAt jobs ticket = some job ∧ related job given := by
  obtain ⟨job, before, after, known, history, reply⟩ := sound.answered replied
  have state : inv (assign job) (replay jobs serve (first (assign job)) before) := by
    apply replay_keeps _ (start (assign job))
    intro other member otherJob otherKnown state held
    have booked : other ∈ pool.ledger (assign job) := by
      simp [Pool.ledger, history, member]
    have assigned := (sound.booked.mem_ledger.mp booked).2
    rw [workerAt, otherKnown, Option.map_some] at assigned
    have here := Option.some.inj assigned
    rw [← here] at held ⊢
    exact (serves other.1 otherJob (List.mem_of_getElem? otherKnown) state held).1
  exact ⟨job, known,
    reply ▸ (serves ticket.1 job (List.mem_of_getElem? known) _ state).2⟩

/-- While a call has not ended, it or a worker can take a step; by cases on how far the call
is and on what is in the channel it waits at.
-/
theorem Sound.exists_step (sound : Sound jobs assign serve stops first pool) {call : C}
    (running : pool.ended call = none)
    : ∃ next, Step jobs assign serve stops pool next := by
  rcases Nat.lt_or_eq_of_le (sound.progressed.sent call) with some' | all
  · obtain ⟨job, known⟩ := exists_jobAt some'
    cases alive : pool.alive (assign job) with
    | true => exact ⟨_, .send running known alive⟩
    | false => exact ⟨_, .refuse running known alive⟩
  · rcases Nat.lt_or_eq_of_le (sound.progressed.within call) with more | received
    · cases channel : pool.channels (call, pool.received call) with
      | reply given =>
          by_cases stopped : stops given
          · exact ⟨_, .stop running all more channel stopped⟩
          · exact ⟨_, .receive running all more channel stopped⟩
      | closed => exact ⟨_, .miss running all more channel⟩
      | empty =>
          have sent : pool.received call < pool.sent call := all ▸ more
          obtain ⟨job, _, served | queued | lost⟩ :=
            @Sound.sent _ _ _ _ _ _ _ _ _ _ _ _ _ sound (call, pool.received call) sent
          · obtain ⟨given, replied, _⟩ := sound.delivered.served _ _ served
            rw [channel] at replied
            cases replied
          · cases waiting : pool.queues (assign job) with
            | nil =>
                rw [waiting] at queued
                cases queued
            | cons head rest =>
                have booked : head ∈ pool.ledger (assign job) :=
                  mem_ledger_of_queued (by simp [waiting])
                have assigned := (sound.booked.mem_ledger.mp booked).2
                obtain ⟨job', known, _⟩ := Option.map_eq_some_iff.mp assigned
                exact ⟨_, .serve waiting known⟩
          · have closed := sound.delivered.lost _ _ lost
            rw [channel] at closed
            cases closed
    · exact ⟨_, .complete running all received⟩

end Runs

-----------------------------------------------------------------------------------------
-- The length of a run
-----------------------------------------------------------------------------------------

/-- The steps a call has still to take, and its jobs' servings. -/
def Pool.owed (pool : Pool C W ω ρ) (call : C) : Nat :=
  match pool.ended call with
  | some _ => 0
  | none =>
      2 * ((jobs call).length - pool.sent call) + ((jobs call).length - pool.received call) + 1

section Length

variable [Fintype C]

/-- The steps that are left at most: those owed, and a serving for each ticket queued. -/
def Pool.rank (crew : Finset W) (pool : Pool C W ω ρ) : Nat :=
  ∑ call, pool.owed jobs call + ∑ worker ∈ crew, (pool.queues worker).length

variable {jobs assign serve stops} {pool next : Pool C W ω ρ} {first : W → ω} {count : Nat}
  {crew : Finset W}

/-- A sum changes by what one of its terms changes. -/
theorem sum_change {ι : Type} [DecidableEq ι] {members : Finset ι} (before after : ι → Nat)
    {item : ι} (member : item ∈ members)
    (others : ∀ other, other ≠ item → after other = before other)
    : ∑ other ∈ members, after other + before item
      = ∑ other ∈ members, before other + after item := by
  rw [← Finset.add_sum_erase _ _ member, ← Finset.add_sum_erase members before member]
  have same
      : ∑ other ∈ members.erase item, after other
        = ∑ other ∈ members.erase item, before other :=
    Finset.sum_congr rfl (fun other inside => others other (Finset.ne_of_mem_erase inside))
  omega

omit [DecidableEq C] [DecidableEq W] [Fintype C] in
theorem owed_running {call : C} (running : pool.ended call = none)
    : pool.owed jobs call
      = 2 * ((jobs call).length - pool.sent call)
        + ((jobs call).length - pool.received call) + 1 := by
  simp only [Pool.owed, running]

omit [DecidableEq W] in
/-- A step of one call that leaves the queues lowers the rank by what it lowers of the owed. -/
theorem rank_call {call : C} (queues : next.queues = pool.queues)
    (others : ∀ other, other ≠ call → next.owed jobs other = pool.owed jobs other)
    (lower : next.owed jobs call < pool.owed jobs call)
    : next.rank jobs crew < pool.rank jobs crew := by
  have calls :=
    sum_change (fun other => pool.owed jobs other) (fun other => next.owed jobs other)
      (Finset.mem_univ call) others
  unfold Pool.rank
  rw [queues]
  omega

omit [DecidableEq W] in
theorem rank_finish {call : C} {ending : Ending} (running : pool.ended call = none)
    : (pool.finish call ending).rank jobs crew < pool.rank jobs crew := by
  refine @rank_call _ _ _ _ _ _ jobs _ pool (pool.finish call ending) crew call rfl ?_ ?_
  · intro other differs
    simp only [Pool.owed, Pool.finish, Function.update_of_ne differs]
  · rw [owed_running running]
    simp only [Pool.owed, Pool.finish, Function.update_self]
    omega

omit [DecidableEq W] in
theorem rank_receive {call : C} (running : pool.ended call = none)
    (more : pool.received call < (jobs call).length)
    : Pool.rank jobs crew
        { pool with
          received := Function.update pool.received call (pool.received call + 1) }
      < pool.rank jobs crew := by
  refine @rank_call _ _ _ _ _ _ jobs _ pool _ crew call rfl ?_ ?_
  · intro other differs
    simp only [Pool.owed, Function.update_of_ne differs]
  · rw [owed_running running]
    simp only [Pool.owed, running, Function.update_self]
    omega

/-- A job sent is owed twice less, and queued once more. -/
theorem rank_send {call : C} {worker : W} (member : worker ∈ crew)
    (running : pool.ended call = none) (more : pool.sent call < (jobs call).length)
    (ticket : Ticket C)
    : Pool.rank jobs crew
        { pool with
          sent := Function.update pool.sent call (pool.sent call + 1)
          queues := Function.update pool.queues worker (pool.queues worker ++ [ticket]) }
      < pool.rank jobs crew := by
  let queues := Function.update pool.queues worker (pool.queues worker ++ [ticket])
  let later : Pool C W ω ρ :=
    { pool with sent := Function.update pool.sent call (pool.sent call + 1), queues }
  have calls :=
    sum_change (fun other => pool.owed jobs other) (fun other => later.owed jobs other)
      (Finset.mem_univ call) (by
        intro other differs
        simp only [later, Pool.owed, Function.update_of_ne differs])
  have workers :=
    sum_change (fun other => (pool.queues other).length) (fun other => (queues other).length)
      member (by
        intro other differs
        simp only [queues, Function.update_of_ne differs])
  have before
      : pool.owed jobs call
        = 2 * ((jobs call).length - pool.sent call)
          + ((jobs call).length - pool.received call) + 1 :=
    owed_running running
  have after
      : later.owed jobs call
        = 2 * ((jobs call).length - (pool.sent call + 1))
          + ((jobs call).length - pool.received call) + 1 := by
    simp only [later, Pool.owed, running, Function.update_self]
  have queued : (queues worker).length = (pool.queues worker).length + 1 := by
    simp [queues]
  change ∑ other, later.owed jobs other + ∑ other ∈ crew, (queues other).length
    < ∑ other, pool.owed jobs other + ∑ other ∈ crew, (pool.queues other).length
  omega

omit [DecidableEq C] in
/-- A ticket served has left its queue. -/
theorem rank_serve {worker : W} (member : worker ∈ crew) {ticket : Ticket C}
    {rest : List (Ticket C)} (waiting : pool.queues worker = ticket :: rest)
    (queues : next.queues = Function.update pool.queues worker rest)
    (calls : ∀ call, next.owed jobs call = pool.owed jobs call)
    : next.rank jobs crew < pool.rank jobs crew := by
  have workers :=
    sum_change (fun other => (pool.queues other).length)
      (fun other => (Function.update pool.queues worker rest other).length) member (by
        intro other differs
        rw [Function.update_of_ne differs])
  simp only [Function.update_self, waiting, List.length_cons] at workers
  have owed : ∑ call, next.owed jobs call = ∑ call, pool.owed jobs call :=
    Finset.sum_congr rfl (fun call _ => calls call)
  unfold Pool.rank
  rw [queues, owed]
  omega

/-- Each step lowers the rank; by cases on the step. -/
theorem rank_step (booked : Booked jobs assign pool) (crewed : ∀ job, assign job ∈ crew)
    (step : Step jobs assign serve stops pool next)
    : next.rank jobs crew < pool.rank jobs crew := by
  cases step with
  | refuse running _ _ | stop running _ _ _ _ | miss running _ _ _ | complete running _ _ =>
      exact rank_finish running
  | send running sends _ => exact rank_send (crewed _) running (jobAt_lt sends) _
  | receive running _ more _ _ => exact rank_receive running more
  | @serve worker ticket rest job waiting _ =>
      have inBooks : ticket ∈ pool.ledger worker := mem_ledger_of_queued (by simp [waiting])
      obtain ⟨other, _, same⟩ := Option.map_eq_some_iff.mp (booked.mem_ledger.mp inBooks).2
      exact rank_serve (same ▸ crewed other) waiting rfl (fun _ => rfl)

/-- A death raises no queue. -/
theorem rank_death (death : Death pool next)
    : next.rank jobs crew ≤ pool.rank jobs crew := by
  cases death with
  | die worker _ =>
      apply Nat.add_le_add (le_refl _)
      apply Finset.sum_le_sum
      intro other _
      by_cases here : other = worker
      · subst here
        simp
      · simp only [Function.update_of_ne here, le_refl]

/-- The steps taken and the rank left come to no more than the rank at first, by induction
along the run.
-/
theorem Run.count_le (crewed : ∀ job, assign job ∈ crew)
    (run : Run jobs assign serve stops (Pool.start first) count pool)
    : count + pool.rank jobs crew
      ≤ (Pool.start first : Pool C W ω ρ).rank jobs crew := by
  induction run with
  | refl => rw [Nat.zero_add]
  | step run step ih =>
      have lower := rank_step run.sound.booked crewed step
      omega
  | death _ death ih =>
      exact (Nat.add_le_add_left (rank_death death) _).trans ih

omit [DecidableEq C] [DecidableEq W] in
/-- At first a call owes three steps for each of its jobs, and its ending. -/
theorem rank_start
    : (Pool.start first : Pool C W ω ρ).rank jobs crew
      = ∑ call, (3 * (jobs call).length + 1) := by
  have queues : ∑ worker ∈ crew, ((Pool.start first : Pool C W ω ρ).queues worker).length = 0 :=
    Finset.sum_eq_zero (fun _ _ => rfl)
  rw [Pool.rank, queues, Nat.add_zero]
  apply Finset.sum_congr rfl
  intro call _
  simp only [Pool.owed, Pool.start, Nat.sub_zero]
  omega

end Length

end SharedPool
