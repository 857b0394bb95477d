import Mathlib.Data.List.Nodup
import Mathlib.Data.List.Range
import Mathlib.Logic.Function.Basic
import Mathlib.Logic.Relation

/-! Workers shared by several calls. A call sends its jobs to their workers, each with a reply
channel of its own, and then receives the replies in the order of its jobs, up to the first
that it stops at. A worker serves its queue in order and may die with what is in it. What the
workers were sent, what the channels hold and how far the calls are is kept by every step.
-/

namespace SharedPool

variable {C W J ω ρ : Type} [DecidableEq C] [DecidableEq W]

/-- A job of a call, by its place among the call's jobs. -/
abbrev Ticket (C : Type) : Type := C × Nat

/-- A reply channel: empty as yet, with its reply, or closed by the death of its worker. -/
inductive Channel (ρ : Type)
  | empty
  | reply (given : ρ)
  | closed

/-- How a call ends: with all its replies, at a reply that stops it, at a job whose worker is
gone, or at a channel that is closed.
-/
inductive Ending
  | complete
  | stopped
  | gone
  | dropped
deriving DecidableEq, Repr

/-- What the calls have sent and received and how they ended, the channels, and the workers
with their queues. What a worker served, and what was lost with it, is kept as its history.
-/
structure Pool (C W ω ρ : Type) where
  sent : C → Nat
  received : C → Nat
  ended : C → Option Ending
  channels : Ticket C → Channel ρ
  queues : W → List (Ticket C)
  states : W → ω
  alive : W → Bool
  served : W → List (Ticket C)
  lost : W → List (Ticket C)

/-- No call has begun. -/
def Pool.start (states : W → ω) : Pool C W ω ρ :=
  {
    sent := fun _ => 0
    received := fun _ => 0
    ended := fun _ => none
    channels := fun _ => .empty
    queues := fun _ => []
    states
    alive := fun _ => true
    served := fun _ => []
    lost := fun _ => []
  }

def Pool.finish (pool : Pool C W ω ρ) (call : C) (ending : Ending) : Pool C W ω ρ :=
  { pool with ended := Function.update pool.ended call (some ending) }

variable (jobs : C → List J) (assign : J → W) (serve : ω → J → ρ × ω) (stops : ρ → Prop)

def jobAt (ticket : Ticket C) : Option J := (jobs ticket.1)[ticket.2]?

/-- The steps of the calls and of the workers. -/
inductive Step : Pool C W ω ρ → Pool C W ω ρ → Prop
  | send {pool : Pool C W ω ρ} {call : C} {job : J} (running : pool.ended call = none)
    (next : jobAt jobs (call, pool.sent call) = some job)
    (alive : pool.alive (assign job) = true)
    : Step pool
        {
          pool with
          sent := Function.update pool.sent call (pool.sent call + 1)
          queues :=
            Function.update pool.queues (assign job)
              (pool.queues (assign job) ++ [(call, pool.sent call)])
        }
  | refuse {pool : Pool C W ω ρ} {call : C} {job : J} (running : pool.ended call = none)
    (next : jobAt jobs (call, pool.sent call) = some job)
    (dead : pool.alive (assign job) = false)
    : Step pool (pool.finish call .gone)
  | serve {pool : Pool C W ω ρ} {worker : W} {ticket : Ticket C} {rest : List (Ticket C)}
    {job : J} (next : pool.queues worker = ticket :: rest)
    (known : jobAt jobs ticket = some job)
    : Step pool
        {
          pool with
          queues := Function.update pool.queues worker rest
          states := Function.update pool.states worker (serve (pool.states worker) job).2
          channels :=
            Function.update pool.channels ticket
              (.reply (serve (pool.states worker) job).1)
          served := Function.update pool.served worker (pool.served worker ++ [ticket])
        }
  | receive {pool : Pool C W ω ρ} {call : C} {given : ρ} (running : pool.ended call = none)
    (sent : pool.sent call = (jobs call).length)
    (more : pool.received call < (jobs call).length)
    (replied : pool.channels (call, pool.received call) = .reply given)
    (goesOn : ¬ stops given)
    : Step pool
        { pool with received := Function.update pool.received call (pool.received call + 1) }
  | stop {pool : Pool C W ω ρ} {call : C} {given : ρ} (running : pool.ended call = none)
    (sent : pool.sent call = (jobs call).length)
    (more : pool.received call < (jobs call).length)
    (replied : pool.channels (call, pool.received call) = .reply given)
    (stopped : stops given)
    : Step pool (pool.finish call .stopped)
  | miss {pool : Pool C W ω ρ} {call : C} (running : pool.ended call = none)
    (sent : pool.sent call = (jobs call).length)
    (more : pool.received call < (jobs call).length)
    (closed : pool.channels (call, pool.received call) = .closed)
    : Step pool (pool.finish call .dropped)
  | complete {pool : Pool C W ω ρ} {call : C} (running : pool.ended call = none)
    (sent : pool.sent call = (jobs call).length)
    (received : pool.received call = (jobs call).length)
    : Step pool (pool.finish call .complete)

/-- A worker dies: the channels of what it was serving and of what it had queued are closed. -/
inductive Death : Pool C W ω ρ → Pool C W ω ρ → Prop
  | die {pool : Pool C W ω ρ} (worker : W) (alive : pool.alive worker = true)
    : Death pool
        {
          pool with
          queues := Function.update pool.queues worker []
          channels := fun ticket =>
            if ticket ∈ pool.queues worker then .closed else pool.channels ticket
          alive := Function.update pool.alive worker false
          lost := Function.update pool.lost worker (pool.queues worker)
        }

/-- A run, with the number of its steps that are no deaths. -/
inductive Run (first : Pool C W ω ρ) : Nat → Pool C W ω ρ → Prop
  | refl : Run first 0 first
  | step {count : Nat} {pool next : Pool C W ω ρ} (run : Run first count pool)
    (step : Step jobs assign serve stops pool next)
    : Run first (count + 1) next
  | death {count : Nat} {pool next : Pool C W ω ρ} (run : Run first count pool)
    (death : Death pool next)
    : Run first count next

-----------------------------------------------------------------------------------------
-- The workers' books
-----------------------------------------------------------------------------------------

/-- The worker of a ticket's job. -/
def workerAt (ticket : Ticket C) : Option W := (jobAt jobs ticket).map assign

/-- All that a worker was ever sent. -/
def Pool.ledger (pool : Pool C W ω ρ) (worker : W) : List (Ticket C) :=
  pool.served worker ++ pool.queues worker ++ pool.lost worker

/-- The tickets that a call has sent to a worker, in the order of its jobs. -/
def Pool.ticketsFor (pool : Pool C W ω ρ) (call : C) (worker : W) : List (Ticket C) :=
  ((List.range (pool.sent call)).map (Prod.mk call)).filter
    (fun ticket => workerAt jobs assign ticket = some worker)

/-- A worker was sent what the calls sent it, each call's jobs in their order and once; a
living one has lost nothing, a dead one has nothing queued.
-/
structure Booked (pool : Pool C W ω ρ) : Prop where
  ledger
    : ∀ worker call,
        (pool.ledger worker).filter (fun ticket => ticket.1 = call)
          = pool.ticketsFor jobs assign call worker
  living : ∀ worker, pool.alive worker = true → pool.lost worker = []
  dead : ∀ worker, pool.alive worker = false → pool.queues worker = []

section Books

variable {jobs assign serve stops} {pool next : Pool C W ω ρ}

omit [DecidableEq C] in
theorem mem_ticketsFor {call : C} {worker : W} {ticket : Ticket C}
    : ticket ∈ pool.ticketsFor jobs assign call worker
      ↔ ticket.1 = call ∧ ticket.2 < pool.sent call
        ∧ workerAt jobs assign ticket = some worker := by
  obtain ⟨owner, place⟩ := ticket
  simp only [Pool.ticketsFor, List.mem_filter, List.mem_map, List.mem_range, Prod.mk.injEq,
    decide_eq_true_eq]
  constructor
  · rintro ⟨⟨_, inside, same, rfl⟩, assigned⟩
    exact ⟨same.symm, inside, assigned⟩
  · rintro ⟨same, inside, assigned⟩
    exact ⟨⟨place, inside, same.symm, rfl⟩, assigned⟩

omit [DecidableEq C] in
theorem ticketsFor_nodup (call : C) (worker : W)
    : (pool.ticketsFor jobs assign call worker).Nodup := by
  apply List.Nodup.filter
  apply List.Nodup.map _ List.nodup_range
  intro first second same
  exact (Prod.mk.inj same).2

/-- What is in a worker's books is what was sent to it. -/
theorem Booked.mem_ledger (booked : Booked jobs assign pool) {worker : W} {ticket : Ticket C}
    : ticket ∈ pool.ledger worker
      ↔ ticket.2 < pool.sent ticket.1 ∧ workerAt jobs assign ticket = some worker := by
  have own := booked.ledger worker ticket.1
  have member
      : ticket ∈ (pool.ledger worker).filter (fun other => other.1 = ticket.1)
        ↔ ticket ∈ pool.ledger worker := by
    simp
  rw [← member, own, mem_ticketsFor]
  simp

/-- Nothing is twice in a worker's books. -/
theorem Booked.nodup (booked : Booked jobs assign pool) (worker : W)
    : (pool.ledger worker).Nodup := by
  rw [List.nodup_iff_count_le_one]
  intro ticket
  have counted
      : (pool.ledger worker).count ticket
        = (pool.ticketsFor jobs assign ticket.1 worker).count ticket := by
    rw [← booked.ledger worker ticket.1, List.count_filter (by simp)]
  rw [counted]
  exact List.nodup_iff_count_le_one.mp (ticketsFor_nodup ticket.1 worker) ticket

/-- A ticket is in the books of one worker only. -/
theorem Booked.unique (booked : Booked jobs assign pool) {worker other : W}
    {ticket : Ticket C} (here : ticket ∈ pool.ledger worker)
    (there : ticket ∈ pool.ledger other)
    : worker = other :=
  Option.some.inj
    ((booked.mem_ledger.mp here).2.symm.trans (booked.mem_ledger.mp there).2)

omit [DecidableEq C] [DecidableEq W] in
theorem mem_ledger_of_queued {worker : W} {ticket : Ticket C}
    (queued : ticket ∈ pool.queues worker)
    : ticket ∈ pool.ledger worker := by
  simp [Pool.ledger, queued]

theorem Booked.start (states : W → ω)
    : Booked jobs assign (Pool.start states : Pool C W ω ρ) :=
  ⟨fun _ _ => rfl, fun _ _ => rfl, fun _ _ => rfl⟩

/-- A job sent is booked last with its worker; by cases on whether the call and the worker are
those in question.
-/
theorem Booked.sending (booked : Booked jobs assign pool) {call : C} {job : J}
    (sends : jobAt jobs (call, pool.sent call) = some job)
    (alive : pool.alive (assign job) = true)
    : Booked jobs assign
        { pool with
          sent := Function.update pool.sent call (pool.sent call + 1)
          queues :=
            Function.update pool.queues (assign job)
              (pool.queues (assign job) ++ [(call, pool.sent call)]) } := by
  have assigned : workerAt jobs assign (call, pool.sent call) = some (assign job) := by
    rw [workerAt, sends, Option.map_some]
  refine ⟨?_, booked.living, ?_⟩
  · intro worker other
    have before := booked.ledger worker other
    have tickets
        : Pool.ticketsFor jobs assign
            { pool with
              sent := Function.update pool.sent call (pool.sent call + 1)
              queues :=
                Function.update pool.queues (assign job)
                  (pool.queues (assign job) ++ [(call, pool.sent call)]) }
            other worker
          = pool.ticketsFor jobs assign other worker
            ++ (if other = call ∧ worker = assign job then [(call, pool.sent call)] else []) := by
      by_cases mine : other = call
      · subst mine
        by_cases here : worker = assign job
        · subst here
          simp [Pool.ticketsFor, List.range_succ, assigned]
        · have elsewhere : ¬ assign job = worker := fun same => here same.symm
          simp [Pool.ticketsFor, List.range_succ, assigned, elsewhere, here]
      · simp [Pool.ticketsFor, mine]
    rw [tickets, ← before]
    by_cases here : worker = assign job
    · subst here
      by_cases mine : other = call
      · subst mine
        simp [Pool.ledger, booked.living _ alive]
      · have theirs : ¬ call = other := fun same => mine same.symm
        simp [Pool.ledger, mine, theirs]
    · simp [Pool.ledger, here]
  · intro worker dead
    have elsewhere : worker ≠ assign job := by
      intro same
      rw [same] at dead
      exact absurd (alive.symm.trans dead) (by simp)
    simpa only [Function.update_of_ne elsewhere] using booked.dead worker dead

/-- Serving moves a ticket within its worker's books. -/
theorem Booked.serving (booked : Booked jobs assign pool) {worker : W} {ticket : Ticket C}
    {rest : List (Ticket C)} (waiting : pool.queues worker = ticket :: rest) (states : W → ω)
    (channels : Ticket C → Channel ρ)
    : Booked jobs assign
        { pool with
          queues := Function.update pool.queues worker rest
          states
          channels
          served := Function.update pool.served worker (pool.served worker ++ [ticket]) } := by
  refine ⟨?_, booked.living, ?_⟩
  · intro other call
    refine Eq.trans ?_ (booked.ledger other call)
    congr 1
    by_cases here : other = worker
    · subst here
      simp [Pool.ledger, waiting]
    · simp [Pool.ledger, Function.update_of_ne here]
  · intro other dead
    have none := booked.dead other dead
    have elsewhere : other ≠ worker := by
      intro same
      rw [same, waiting] at none
      cases none
    simpa only [Function.update_of_ne elsewhere] using none

/-- What a dying worker had queued stays in its books, as lost. -/
theorem Booked.death (booked : Booked jobs assign pool) (death : Death pool next)
    : Booked jobs assign next := by
  cases death with
  | die worker alive =>
      refine ⟨?_, ?_, ?_⟩
      · intro other call
        refine Eq.trans ?_ (booked.ledger other call)
        congr 1
        by_cases here : other = worker
        · subst here
          simp [Pool.ledger, booked.living _ alive]
        · simp [Pool.ledger, Function.update_of_ne here]
      · intro other living
        by_cases here : other = worker
        · subst here
          simp at living
        · simp only [Function.update_of_ne here] at living ⊢
          exact booked.living other living
      · intro other dead
        by_cases here : other = worker
        · subst here
          simp
        · simp only [Function.update_of_ne here] at dead ⊢
          exact booked.dead other dead

theorem Booked.step (booked : Booked jobs assign pool)
    (step : Step jobs assign serve stops pool next)
    : Booked jobs assign next := by
  cases step with
  | send _ sends alive => exact booked.sending sends alive
  | serve waiting _ => exact booked.serving waiting _ _
  | refuse _ _ _ | receive _ _ _ _ _ | stop _ _ _ _ _ | miss _ _ _ _ | complete _ _ _ =>
      exact ⟨booked.ledger, booked.living, booked.dead⟩

end Books

-----------------------------------------------------------------------------------------
-- The channels
-----------------------------------------------------------------------------------------

/-- A worker's state after the jobs of some tickets. -/
def replay : ω → List (Ticket C) → ω
  | state, [] => state
  | state, ticket :: rest =>
      match jobAt jobs ticket with
      | some job => replay (serve state job).2 rest
      | none => replay state rest

/-- A ticket's reply is the one its worker gave to its job, in the state that the jobs served
before left.
-/
def Pool.Answered (pool : Pool C W ω ρ) (first : W → ω) (ticket : Ticket C) (given : ρ) : Prop :=
  ∃ job before after,
    jobAt jobs ticket = some job
      ∧ pool.served (assign job) = before ++ ticket :: after
      ∧ given = (serve (replay jobs serve (first (assign job)) before) job).1

/-- What the channels hold: nothing for a job unsent or queued, the reply to one served, and
what was lost is closed.
-/
structure Delivered (first : W → ω) (pool : Pool C W ω ρ) : Prop where
  states : ∀ worker, pool.states worker = replay jobs serve (first worker) (pool.served worker)
  unsent : ∀ ticket, pool.sent ticket.1 ≤ ticket.2 → pool.channels ticket = .empty
  queued : ∀ worker, ∀ ticket ∈ pool.queues worker, pool.channels ticket = .empty
  lost : ∀ worker, ∀ ticket ∈ pool.lost worker, pool.channels ticket = .closed
  served
    : ∀ worker, ∀ ticket ∈ pool.served worker,
        ∃ given, pool.channels ticket = .reply given
          ∧ pool.Answered jobs assign serve first ticket given

section Channels

variable {jobs assign serve stops} {pool next : Pool C W ω ρ} {first : W → ω}

omit [DecidableEq C] in
/-- The state after one ticket more, by induction over those before it. -/
theorem replay_append (state : ω) (before : List (Ticket C)) {ticket : Ticket C} {job : J}
    (known : jobAt jobs ticket = some job)
    : replay jobs serve state (before ++ [ticket])
      = (serve (replay jobs serve state before) job).2 := by
  induction before generalizing state with
  | nil => simp only [List.nil_append, replay, known]
  | cons head rest ih =>
      rw [List.cons_append]
      unfold replay
      cases jobAt jobs head with
      | none => exact ih state
      | some other => exact ih (serve state other).2

omit [DecidableEq C] in
/-- What each serving keeps of a worker's state holds after any tickets, by induction over
them.
-/
theorem replay_keeps {inv : ω → Prop} {tickets : List (Ticket C)} {state : ω}
    (serves : ∀ ticket ∈ tickets, ∀ job, jobAt jobs ticket = some job
      → ∀ state, inv state → inv (serve state job).2)
    (start : inv state)
    : inv (replay jobs serve state tickets) := by
  induction tickets generalizing state with
  | nil => exact start
  | cons ticket rest ih =>
      have later := fun other (member : other ∈ rest) =>
        serves other (List.mem_cons_of_mem ticket member)
      unfold replay
      cases known : jobAt jobs ticket with
      | none => exact ih later start
      | some job => exact ih later (serves ticket List.mem_cons_self job known state start)

omit [DecidableEq C] [DecidableEq W] in
/-- Replies stay answered as their workers serve more. -/
theorem Pool.Answered.grow {ticket : Ticket C} {given : ρ}
    (answered : pool.Answered jobs assign serve first ticket given)
    (grows : ∀ worker, ∃ more, next.served worker = pool.served worker ++ more)
    : next.Answered jobs assign serve first ticket given := by
  obtain ⟨job, before, after, known, history, reply⟩ := answered
  obtain ⟨more, grown⟩ := grows (assign job)
  refine ⟨job, before, after ++ more, known, ?_, reply⟩
  rw [grown, history, List.append_assoc, List.cons_append]

omit [DecidableEq C] [DecidableEq W] in
theorem Delivered.start
    : Delivered jobs assign serve first (Pool.start first : Pool C W ω ρ) where
  states := fun _ => rfl
  unsent := fun _ _ => rfl
  queued := by
    intro worker ticket member
    cases member
  lost := by
    intro worker ticket member
    cases member
  served := by
    intro worker ticket member
    cases member

/-- A new ticket is queued with an empty channel. -/
theorem Delivered.sending (delivered : Delivered jobs assign serve first pool) {call : C}
    {worker : W}
    : Delivered jobs assign serve first
        { pool with
          sent := Function.update pool.sent call (pool.sent call + 1)
          queues :=
            Function.update pool.queues worker
              (pool.queues worker ++ [(call, pool.sent call)]) } where
  states := delivered.states
  unsent := by
    intro ticket later
    apply delivered.unsent
    by_cases mine : ticket.1 = call
    · simp only [mine, Function.update_self] at later ⊢
      exact Nat.le_of_succ_le later
    · simpa only [Function.update_of_ne mine] using later
  queued := by
    intro other ticket member
    by_cases here : other = worker
    · subst here
      simp only [Function.update_self] at member
      rcases List.mem_append.mp member with queued | new
      · exact delivered.queued other ticket queued
      · rw [List.mem_singleton.mp new]
        exact delivered.unsent _ (le_refl _)
    · simp only [Function.update_of_ne here] at member
      exact delivered.queued other ticket member
  lost := delivered.lost
  served := delivered.served

/-- The worker replies to the head of its queue, on a channel that no other ticket has. -/
theorem Delivered.serving (delivered : Delivered jobs assign serve first pool)
    (booked : Booked jobs assign pool) {worker : W} {ticket : Ticket C}
    {rest : List (Ticket C)} {job : J} (waiting : pool.queues worker = ticket :: rest)
    (known : jobAt jobs ticket = some job)
    : Delivered jobs assign serve first
        { pool with
          queues := Function.update pool.queues worker rest
          states := Function.update pool.states worker (serve (pool.states worker) job).2
          channels :=
            Function.update pool.channels ticket
              (.reply (serve (pool.states worker) job).1)
          served := Function.update pool.served worker (pool.served worker ++ [ticket]) } := by
  have inBooks : ticket ∈ pool.ledger worker := mem_ledger_of_queued (by simp [waiting])
  obtain ⟨sent, assigned⟩ := booked.mem_ledger.mp inBooks
  have mine : assign job = worker := by
    rw [workerAt, known, Option.map_some] at assigned
    exact Option.some.inj assigned
  have grows (other : W)
      : ∃ more,
          Function.update pool.served worker (pool.served worker ++ [ticket]) other
            = pool.served other ++ more := by
    by_cases here : other = worker
    · subst here
      exact ⟨[ticket], Function.update_self ..⟩
    · exact ⟨[], by rw [Function.update_of_ne here, List.append_nil]⟩
  refine ⟨?_, ?_, ?_, ?_, ?_⟩
  · intro other
    by_cases here : other = worker
    · subst here
      simp only [Function.update_self]
      rw [replay_append _ _ known, ← delivered.states]
    · simp only [Function.update_of_ne here]
      exact delivered.states other
  · intro other unsent
    have differs : other ≠ ticket := by
      intro same
      rw [same] at unsent
      exact absurd sent (Nat.not_lt.mpr unsent)
    simpa only [Function.update_of_ne differs] using delivered.unsent other unsent
  · intro holder other member
    have nodup := booked.nodup worker
    by_cases here : holder = worker
    · subst here
      simp only [Function.update_self] at member
      have differs : other ≠ ticket := by
        intro same
        subst same
        simp only [Pool.ledger, waiting] at nodup
        have queue := (List.nodup_append.mp (List.nodup_append.mp nodup).1).2.1
        exact (List.nodup_cons.mp queue).1 member
      have empty := delivered.queued holder other (by simp [waiting, member])
      simpa only [Function.update_of_ne differs] using empty
    · simp only [Function.update_of_ne here] at member
      have differs : other ≠ ticket := by
        intro same
        subst same
        exact here (booked.unique (mem_ledger_of_queued member) inBooks)
      have empty := delivered.queued holder other member
      simpa only [Function.update_of_ne differs] using empty
  · intro holder other member
    have closed := delivered.lost holder other member
    have empty := delivered.queued worker ticket (by simp [waiting])
    have differs : other ≠ ticket := by
      intro same
      rw [same, empty] at closed
      cases closed
    simpa only [Function.update_of_ne differs] using closed
  · intro holder other member
    by_cases same : other = ticket
    · subst same
      refine ⟨_, Function.update_self .., job, pool.served worker, [], known, ?_, ?_⟩
      · simp only [mine, Function.update_self]
      · rw [mine, delivered.states]
    · have before : other ∈ pool.served holder := by
        by_cases here : holder = worker
        · subst here
          simpa [same] using member
        · simpa only [Function.update_of_ne here] using member
      obtain ⟨given, replied, answered⟩ := delivered.served holder other before
      refine ⟨given, ?_, answered.grow grows⟩
      simpa only [Function.update_of_ne same] using replied

/-- A death closes the channels of what was queued, which were empty. -/
theorem Delivered.death (delivered : Delivered jobs assign serve first pool)
    (booked : Booked jobs assign pool) (death : Death pool next)
    : Delivered jobs assign serve first next := by
  cases death with
  | die worker alive =>
      have elsewhere {ticket : Ticket C} (full : pool.channels ticket ≠ .empty)
          : ticket ∉ pool.queues worker :=
        fun member => full (delivered.queued worker ticket member)
      refine ⟨delivered.states, ?_, ?_, ?_, ?_⟩
      · intro ticket unsent
        have absent : ticket ∉ pool.queues worker := by
          intro member
          have sent := booked.mem_ledger.mp (mem_ledger_of_queued member)
          exact absurd sent.1 (Nat.not_lt.mpr unsent)
        simpa only [if_neg absent] using delivered.unsent ticket unsent
      · intro holder ticket member
        by_cases here : holder = worker
        · subst here
          simp at member
        · simp only [Function.update_of_ne here] at member
          have absent : ticket ∉ pool.queues worker := by
            intro other
            exact here (booked.unique (mem_ledger_of_queued member) (mem_ledger_of_queued other))
          simpa only [if_neg absent] using delivered.queued holder ticket member
      · intro holder ticket member
        by_cases here : holder = worker
        · subst here
          simp only [Function.update_self] at member
          simp only [if_pos member]
        · simp only [Function.update_of_ne here] at member
          have closed := delivered.lost holder ticket member
          have absent := elsewhere (by rw [closed]; intro same; cases same)
          simpa only [if_neg absent] using closed
      · intro holder ticket member
        obtain ⟨given, replied, answered⟩ := delivered.served holder ticket member
        have absent := elsewhere (by rw [replied]; intro same; cases same)
        exact ⟨given, by simpa only [if_neg absent] using replied, answered⟩

theorem Delivered.step (delivered : Delivered jobs assign serve first pool)
    (booked : Booked jobs assign pool) (step : Step jobs assign serve stops pool next)
    : Delivered jobs assign serve first next := by
  cases step with
  | send _ _ _ => exact delivered.sending
  | serve waiting known => exact delivered.serving booked waiting known
  | refuse _ _ _ | receive _ _ _ _ _ | stop _ _ _ _ _ | miss _ _ _ _ | complete _ _ _ =>
      exact ⟨delivered.states, delivered.unsent, delivered.queued, delivered.lost,
        delivered.served⟩

end Channels

-----------------------------------------------------------------------------------------
-- The calls
-----------------------------------------------------------------------------------------

/-- Why a call ended as it did. -/
def Pool.Ended (pool : Pool C W ω ρ) (call : C) : Ending → Prop
  | .complete => pool.received call = (jobs call).length
  | .stopped => ∃ given, pool.channels (call, pool.received call) = .reply given ∧ stops given
  | .gone =>
      ∃ job, jobAt jobs (call, pool.sent call) = some job ∧ pool.alive (assign job) = false
  | .dropped => pool.channels (call, pool.received call) = .closed

/-- How far the calls are: none receives before it has sent all its jobs, none goes on after a
reply that stops it, and each that ended had its reason.
-/
structure Progressed (pool : Pool C W ω ρ) : Prop where
  sent : ∀ call, pool.sent call ≤ (jobs call).length
  within : ∀ call, pool.received call ≤ (jobs call).length
  waits : ∀ call, 0 < pool.received call → pool.sent call = (jobs call).length
  replies
    : ∀ call place, place < pool.received call
      → ∃ given, pool.channels (call, place) = .reply given ∧ ¬ stops given
  ended
    : ∀ call ending, pool.ended call = some ending
      → pool.Ended jobs assign stops call ending

section Calls

variable {jobs assign serve stops} {pool next : Pool C W ω ρ} {first : W → ω}

omit [DecidableEq C] in
theorem jobAt_lt {call : C} {place : Nat} {job : J}
    (known : jobAt jobs (call, place) = some job)
    : place < (jobs call).length :=
  (List.getElem?_eq_some_iff.mp known).1

omit [DecidableEq C] in
theorem exists_jobAt {call : C} {place : Nat} (inside : place < (jobs call).length)
    : ∃ job, jobAt jobs (call, place) = some job :=
  ⟨_, List.getElem?_eq_getElem inside⟩

omit [DecidableEq C] [DecidableEq W] in
/-- A call that ended keeps its reason while its channels stay and the dead stay dead. -/
theorem Pool.Ended.keep {call : C} {ending : Ending}
    (ended : pool.Ended jobs assign stops call ending) (sent : next.sent call = pool.sent call)
    (received : next.received call = pool.received call)
    (channels
      : ∀ ticket, pool.channels ticket ≠ .empty → next.channels ticket = pool.channels ticket)
    (dead : ∀ worker, pool.alive worker = false → next.alive worker = false)
    : next.Ended jobs assign stops call ending := by
  cases ending with
  | complete => exact received.trans ended
  | stopped =>
      obtain ⟨given, replied, stopped⟩ := ended
      refine ⟨given, ?_, stopped⟩
      rw [received, channels _ (by rw [replied]; intro same; cases same), replied]
  | gone =>
      obtain ⟨job, known, gone⟩ := ended
      exact ⟨job, by rw [sent, known], dead _ gone⟩
  | dropped =>
      have closed : pool.channels (call, pool.received call) = .closed := ended
      change next.channels (call, next.received call) = .closed
      rw [received, channels _ (by rw [closed]; intro same; cases same), closed]

omit [DecidableEq C] [DecidableEq W] in
theorem Progressed.start (states : W → ω)
    : Progressed jobs assign stops (Pool.start states : Pool C W ω ρ) where
  sent := fun _ => Nat.zero_le _
  within := fun _ => Nat.zero_le _
  waits := fun _ absent => absurd absent (Nat.lt_irrefl 0)
  replies := fun _ _ absent => absurd absent (Nat.not_lt_zero _)
  ended := by
    intro call ending absent
    cases absent

omit [DecidableEq W] in
theorem Progressed.finishing (progressed : Progressed jobs assign stops pool) {call : C}
    {ending : Ending} (ended : pool.Ended jobs assign stops call ending)
    : Progressed jobs assign stops (pool.finish call ending) where
  sent := progressed.sent
  within := progressed.within
  waits := progressed.waits
  replies := progressed.replies
  ended := by
    intro other how found
    have reason : pool.Ended jobs assign stops other how := by
      by_cases mine : other = call
      · subst mine
        simp only [Pool.finish, Function.update_self] at found
        cases found
        exact ended
      · simp only [Pool.finish, Function.update_of_ne mine] at found
        exact progressed.ended other how found
    exact reason.keep rfl rfl (fun _ _ => rfl) (fun _ dead => dead)

omit [DecidableEq C] [DecidableEq W] in
/-- What the workers do to channels and to one another changes no call. -/
theorem Progressed.working (progressed : Progressed jobs assign stops pool)
    (sent : next.sent = pool.sent) (received : next.received = pool.received)
    (ended : next.ended = pool.ended)
    (channels
      : ∀ ticket, pool.channels ticket ≠ .empty → next.channels ticket = pool.channels ticket)
    (dead : ∀ worker, pool.alive worker = false → next.alive worker = false)
    : Progressed jobs assign stops next where
  sent := by
    rw [sent]
    exact progressed.sent
  within := by
    rw [received]
    exact progressed.within
  waits := by
    rw [sent, received]
    exact progressed.waits
  replies := by
    intro call place inside
    rw [received] at inside
    obtain ⟨given, replied, goesOn⟩ := progressed.replies call place inside
    refine ⟨given, ?_, goesOn⟩
    rw [channels _ (by rw [replied]; intro same; cases same), replied]
  ended := by
    intro call ending found
    rw [ended] at found
    exact (progressed.ended call ending found).keep (by rw [sent]) (by rw [received]) channels
      dead

omit [DecidableEq W] in
theorem Progressed.sending (progressed : Progressed jobs assign stops pool) {call : C} {job : J}
    (running : pool.ended call = none) (sends : jobAt jobs (call, pool.sent call) = some job)
    (queues : W → List (Ticket C))
    : Progressed jobs assign stops
        { pool with
          sent := Function.update pool.sent call (pool.sent call + 1)
          queues } where
  sent := by
    intro other
    by_cases mine : other = call
    · subst mine
      simp only [Function.update_self]
      exact jobAt_lt sends
    · simpa only [Function.update_of_ne mine] using progressed.sent other
  within := progressed.within
  waits := by
    intro other some'
    have all := progressed.waits other some'
    have mine : other ≠ call := by
      intro same
      subst same
      exact absurd all (Nat.ne_of_lt (jobAt_lt sends))
    simpa only [Function.update_of_ne mine] using all
  replies := progressed.replies
  ended := by
    intro other ending found
    have mine : other ≠ call := by
      intro same
      rw [same, running] at found
      cases found
    exact (progressed.ended other ending found).keep (Function.update_of_ne mine _ _) rfl
      (fun _ _ => rfl) (fun _ dead => dead)

omit [DecidableEq W] in
theorem Progressed.receiving (progressed : Progressed jobs assign stops pool) {call : C}
    {given : ρ} (running : pool.ended call = none)
    (sent : pool.sent call = (jobs call).length)
    (more : pool.received call < (jobs call).length)
    (replied : pool.channels (call, pool.received call) = .reply given)
    (goesOn : ¬ stops given)
    : Progressed jobs assign stops
        { pool with
          received := Function.update pool.received call (pool.received call + 1) } where
  sent := progressed.sent
  within := by
    intro other
    by_cases mine : other = call
    · subst mine
      simp only [Function.update_self]
      exact more
    · simpa only [Function.update_of_ne mine] using progressed.within other
  waits := by
    intro other some'
    by_cases mine : other = call
    · subst mine
      exact sent
    · simp only [Function.update_of_ne mine] at some'
      exact progressed.waits other some'
  replies := by
    intro other place inside
    by_cases mine : other = call
    · subst mine
      simp only [Function.update_self] at inside
      rcases Nat.lt_succ_iff_lt_or_eq.mp inside with before | rfl
      · exact progressed.replies other place before
      · exact ⟨given, replied, goesOn⟩
    · simp only [Function.update_of_ne mine] at inside
      exact progressed.replies other place inside
  ended := by
    intro other ending found
    have mine : other ≠ call := by
      intro same
      rw [same, running] at found
      cases found
    exact (progressed.ended other ending found).keep rfl (Function.update_of_ne mine _ _)
      (fun _ _ => rfl) (fun _ dead => dead)

theorem Progressed.step (progressed : Progressed jobs assign stops pool)
    (delivered : Delivered jobs assign serve first pool)
    (step : Step jobs assign serve stops pool next)
    : Progressed jobs assign stops next := by
  cases step with
  | send running sends _ => exact progressed.sending running sends _
  | refuse _ sends dead => exact progressed.finishing ⟨_, sends, dead⟩
  | @serve worker ticket rest job waiting _ =>
      have empty := delivered.queued worker ticket (by simp [waiting])
      refine progressed.working rfl rfl rfl ?_ (fun _ dead => dead)
      intro other full
      have differs : other ≠ ticket := by
        intro same
        exact full (same ▸ empty)
      simp only [Function.update_of_ne differs]
  | receive running sent more replied goesOn =>
      exact progressed.receiving running sent more replied goesOn
  | stop _ _ _ replied stopped => exact progressed.finishing ⟨_, replied, stopped⟩
  | miss _ _ _ closed => exact progressed.finishing closed
  | complete _ _ received => exact progressed.finishing received

theorem Progressed.death (progressed : Progressed jobs assign stops pool)
    (delivered : Delivered jobs assign serve first pool) (death : Death pool next)
    : Progressed jobs assign stops next := by
  cases death with
  | die worker alive =>
      refine progressed.working rfl rfl rfl ?_ ?_
      · intro ticket full
        have absent : ticket ∉ pool.queues worker :=
          fun member => full (delivered.queued worker ticket member)
        simp only [if_neg absent]
      · intro other dead
        by_cases here : other = worker
        · simp only [here, Function.update_self]
        · simpa only [Function.update_of_ne here] using dead

end Calls

end SharedPool
