import Mathlib.Data.List.Forall2
import Mathlib.Logic.Function.Basic
import Mathlib.Logic.Relation

/-! Workers with a queue each. Every job goes to one worker, which serves its queue in order
against a state of its own; replies are kept per job. Whatever the order in which workers
take their turns, the replies are those of serving the jobs one after the other.
-/

namespace WorkerPool

variable {W J ω ρ : Type} [DecidableEq W] [DecidableEq J]

/-- The jobs still to be sent, the workers' queues and states, and the replies given. -/
structure Pool (W J ω ρ : Type) where
  unsent : List J
  queues : W → List J
  states : W → ω
  replies : J → Option ρ

variable (assign : J → W) (serve : ω → J → ρ × ω)

/-- Either the next job is sent to its worker, or a worker serves the head of its queue. -/
inductive Step : Pool W J ω ρ → Pool W J ω ρ → Prop
  | send {pool : Pool W J ω ρ} {job : J} {rest : List J} (next : pool.unsent = job :: rest)
    : Step pool
        {
          pool with
          unsent := rest
          queues :=
            Function.update pool.queues (assign job) (pool.queues (assign job) ++ [job])
        }
  | serve {pool : Pool W J ω ρ} {worker : W} {job : J} {rest : List J}
    (next : pool.queues worker = job :: rest)
    : Step pool
        {
          pool with
          queues := Function.update pool.queues worker rest
          states := Function.update pool.states worker (serve (pool.states worker) job).2
          replies :=
            Function.update pool.replies job (some (serve (pool.states worker) job).1)
        }

/-- Nothing is left to send or to serve. -/
structure Pool.Idle (pool : Pool W J ω ρ) : Prop where
  unsent : pool.unsent = []
  queues : ∀ worker, pool.queues worker = []

/-- Every queued job is in the queue of its worker. -/
def Pool.Routed (pool : Pool W J ω ρ) : Prop :=
  ∀ worker, ∀ job ∈ pool.queues worker, assign job = worker

/-- Serve some jobs in order: the state and the replies after them. -/
def drain : ω → (J → Option ρ) → List J → ω × (J → Option ρ)
  | state, replies, [] => (state, replies)
  | state, replies, job :: rest =>
      drain (serve state job).2 (Function.update replies job (some (serve state job).1)) rest

/-- The jobs a worker has still to serve, in the order it will. -/
def Pool.jobsOf (pool : Pool W J ω ρ) (worker : W) : List J :=
  pool.queues worker ++ pool.unsent.filter (fun job => assign job = worker)

/-- The state a worker ends in. -/
def Pool.lastState (pool : Pool W J ω ρ) (worker : W) : ω :=
  (drain serve (pool.states worker) pool.replies (pool.jobsOf assign worker)).1

/-- The reply a job ends up with. -/
def Pool.lastReply (pool : Pool W J ω ρ) (job : J) : Option ρ :=
  (drain serve (pool.states (assign job)) pool.replies (pool.jobsOf assign (assign job))).2 job

section Drain

variable {assign serve}

/-- The state does not depend on earlier replies, nor another job's reply on them. -/
theorem drain_congr {state : ω} {replies others : J → Option ρ} (jobs : List J)
    : (drain serve state replies jobs).1 = (drain serve state others jobs).1
      ∧ ∀ job, replies job = others job
          → (drain serve state replies jobs).2 job = (drain serve state others jobs).2 job := by
  induction jobs generalizing state replies others with
  | nil => exact ⟨rfl, fun _ same => same⟩
  | cons head rest ih =>
      refine ⟨ih.1, ?_⟩
      intro job same
      apply ih.2
      by_cases here : job = head
      · rw [here, Function.update_self, Function.update_self]
      · rw [Function.update_of_ne here, Function.update_of_ne here, same]

/-- A job that is not served keeps its reply. -/
theorem drain_of_not_mem {state : ω} {replies : J → Option ρ} {jobs : List J} {job : J}
    (absent : job ∉ jobs)
    : (drain serve state replies jobs).2 job = replies job := by
  induction jobs generalizing state replies with
  | nil => rfl
  | cons head rest ih =>
      have later : job ∉ rest := fun member => absent (List.mem_cons_of_mem head member)
      have differs : job ≠ head := fun same => absent (by simp [same])
      rw [drain, ih later, Function.update_of_ne differs]

/-- A job that is served has a reply of its own. -/
theorem drain_of_mem {state : ω} {replies others : J → Option ρ} {jobs : List J} {job : J}
    (member : job ∈ jobs)
    : (drain serve state replies jobs).2 job = (drain serve state others jobs).2 job := by
  induction jobs generalizing state replies others with
  | nil => cases member
  | cons head rest ih =>
      by_cases later : job ∈ rest
      · exact ih later
      · have here : job = head := by
          rcases List.mem_cons.mp member with same | inside
          · exact same
          · exact absurd inside later
        apply (drain_congr rest).2
        rw [here, Function.update_self, Function.update_self]

omit [DecidableEq W] in
theorem drain_append (state : ω) (replies : J → Option ρ) (first second : List J)
    : drain serve state replies (first ++ second)
      = drain serve (drain serve state replies first).1 (drain serve state replies first).2
          second := by
  induction first generalizing state replies with
  | nil => rfl
  | cons head rest ih => exact ih _ _

end Drain

-----------------------------------------------------------------------------------------
-- Every order of turns
-----------------------------------------------------------------------------------------

section Runs

variable {assign serve} {pool next : Pool W J ω ρ}

theorem Step.routed (step : Step assign serve pool next) (routed : pool.Routed assign)
    : next.Routed assign := by
  intro worker job member
  cases step with
  | @send sent rest waiting =>
      dsimp only at member
      by_cases same : worker = assign sent
      · subst same
        rw [Function.update_self] at member
        rcases List.mem_append.mp member with queued | new
        · exact routed _ job queued
        · rw [List.mem_singleton.mp new]
      · rw [Function.update_of_ne same] at member
        exact routed worker job member
  | @serve turn served rest waiting =>
      dsimp only at member
      by_cases same : worker = turn
      · subst same
        rw [Function.update_self] at member
        apply routed
        rw [waiting]
        exact List.mem_cons_of_mem served member
      · rw [Function.update_of_ne same] at member
        exact routed worker job member

omit [DecidableEq J] in
/-- Sending a job leaves every worker with the same jobs to serve. -/
theorem jobsOf_send {job : J} {rest : List J} (waiting : pool.unsent = job :: rest)
    (worker : W)
    : Pool.jobsOf assign
        { pool with
          unsent := rest
          queues :=
            Function.update pool.queues (assign job) (pool.queues (assign job) ++ [job]) }
        worker
      = pool.jobsOf assign worker := by
  by_cases same : worker = assign job
  · subst same
    simp [Pool.jobsOf, waiting]
  · have differs : ¬ assign job = worker := fun other => same other.symm
    simp [Pool.jobsOf, waiting, Function.update_of_ne same, differs]

/-- A step changes neither the states nor the replies that the workers will end with; by
cases on the step and on whether the worker in question is the one that takes its turn.
-/
theorem Step.last (step : Step assign serve pool next) (routed : pool.Routed assign)
    : next.lastState assign serve = pool.lastState assign serve
      ∧ next.lastReply assign serve = pool.lastReply assign serve := by
  cases step with
  | send waiting =>
      refine ⟨?_, ?_⟩
      · funext worker
        simp only [Pool.lastState, jobsOf_send waiting]
      · funext job
        simp only [Pool.lastReply, jobsOf_send waiting]
  | @serve turn served rest waiting =>
      refine ⟨?_, ?_⟩
      · funext worker
        simp only [Pool.lastState]
        by_cases same : worker = turn
        · subst same
          simp only [Pool.jobsOf, waiting, Function.update_self, List.cons_append, drain]
        · simp only [Pool.jobsOf, Function.update_of_ne same]
          exact (drain_congr _).1
      · funext job
        simp only [Pool.lastReply]
        by_cases same : assign job = turn
        · subst same
          simp only [Pool.jobsOf, waiting, Function.update_self, List.cons_append, drain]
        · simp only [Pool.jobsOf, Function.update_of_ne same]
          apply (drain_congr _).2
          have owner : assign served = turn := routed turn served (by simp [waiting])
          have differs : job ≠ served := fun other => same (other ▸ owner)
          rw [Function.update_of_ne differs]

/-- What the workers will end with stays the same over a run, by induction over its steps. -/
theorem run_keeps (run : Relation.ReflTransGen (Step assign serve) pool next)
    (routed : pool.Routed assign)
    : next.Routed assign ∧ next.lastState assign serve = pool.lastState assign serve
      ∧ next.lastReply assign serve = pool.lastReply assign serve := by
  induction run with
  | refl => exact ⟨routed, rfl, rfl⟩
  | tail _ step ih =>
      have last := step.last ih.1
      exact ⟨step.routed ih.1, last.1.trans ih.2.1, last.2.trans ih.2.2⟩

/-- A run that leaves nothing to do ends with what the workers were to end with, so any two
such runs from one pool end alike.
-/
theorem run_last (run : Relation.ReflTransGen (Step assign serve) pool next)
    (routed : pool.Routed assign) (idle : next.Idle)
    : next.states = pool.lastState assign serve
      ∧ next.replies = pool.lastReply assign serve := by
  obtain ⟨_, states, replies⟩ := run_keeps run routed
  have nothing (worker : W) : next.jobsOf assign worker = [] := by
    simp [Pool.jobsOf, idle.unsent, idle.queues]
  refine ⟨?_, ?_⟩
  · rw [← states]
    funext worker
    simp [Pool.lastState, nothing, drain]
  · rw [← replies]
    funext job
    simp [Pool.lastReply, nothing, drain]

end Runs

-----------------------------------------------------------------------------------------
-- One after the other
-----------------------------------------------------------------------------------------

/-- Serve the jobs one after the other, each by its worker. -/
def serveInOrder : (W → ω) → List J → List ρ × (W → ω)
  | states, [] => ([], states)
  | states, job :: rest =>
      let served := serve (states (assign job)) job
      let others := serveInOrder (Function.update states (assign job) served.2) rest
      (served.1 :: others.1, others.2)

/-- Queue jobs behind those of earlier calls. -/
def Pool.submit (pool : Pool W J ω ρ) (jobs : List J) : Pool W J ω ρ :=
  { pool with unsent := jobs }

section Order

variable {assign serve}

/-- In order, each worker ends in the state after its own jobs; by induction over them. -/
theorem serveInOrder_states (states : W → ω) (replies : J → Option ρ) (jobs : List J)
    (worker : W)
    : (serveInOrder assign serve states jobs).2 worker
      = (drain serve (states worker) replies (jobs.filter (fun job => assign job = worker))).1 := by
  induction jobs generalizing states replies with
  | nil => rfl
  | cons head rest ih =>
      rw [serveInOrder]
      by_cases same : assign head = worker
      · subst same
        have mine
            : (head :: rest).filter (fun job => assign job = assign head)
              = head :: rest.filter (fun job => assign job = assign head) := by
          simp
        rw [mine, drain]
        have later := ih
          (Function.update states (assign head) (serve (states (assign head)) head).2)
          (Function.update replies head (some (serve (states (assign head)) head).1))
        rw [Function.update_self] at later
        exact later
      · have others
            : (head :: rest).filter (fun job => assign job = worker)
              = rest.filter (fun job => assign job = worker) := by
          simp [same]
        rw [others]
        have later := ih
          (Function.update states (assign head) (serve (states (assign head)) head).2) replies
        rw [Function.update_of_ne (fun other => same other.symm)] at later
        exact later

/-- In order, each job gets the reply its worker gives it; by induction over the jobs. -/
theorem serveInOrder_replies (states : W → ω) (replies : J → Option ρ) {jobs : List J}
    (distinct : jobs.Nodup)
    : (serveInOrder assign serve states jobs).1.map some
      = jobs.map (fun job =>
          (drain serve (states (assign job)) replies
            (jobs.filter (fun other => assign other = assign job))).2 job) := by
  induction jobs generalizing states replies with
  | nil => rfl
  | cons head rest ih =>
      obtain ⟨fresh, others⟩ := List.nodup_cons.mp distinct
      rw [serveInOrder, List.map_cons, List.map_cons]
      congr 1
      · have mine
            : (head :: rest).filter (fun other => assign other = assign head)
              = head :: rest.filter (fun other => assign other = assign head) := by
          simp
        have absent : head ∉ rest.filter (fun other => assign other = assign head) :=
          fun member => fresh (List.mem_filter.mp member).1
        rw [mine, drain, drain_of_not_mem absent, Function.update_self]
      · rw [ih _ replies others]
        apply List.map_congr_left
        intro job member
        by_cases same : assign head = assign job
        · have mine
              : (head :: rest).filter (fun other => assign other = assign job)
                = head :: rest.filter (fun other => assign other = assign job) := by
            simp [same]
          have differs : job ≠ head := fun other => fresh (other ▸ member)
          rw [mine, drain, ← same, Function.update_self]
          apply (drain_congr _).2
          rw [Function.update_of_ne differs]
        · have theirs
              : (head :: rest).filter (fun other => assign other = assign job)
                = rest.filter (fun other => assign other = assign job) := by
            simp [same]
          rw [theirs, Function.update_of_ne (fun other => same other.symm)]

omit [DecidableEq J] in
/-- What each serving of its jobs keeps of a worker's state and says of its reply holds of all
replies; by induction over the jobs.
-/
theorem serveInOrder_related {inv : W → ω → Prop} {related : J → ρ → Prop} {jobs : List J}
    (serves : ∀ state, ∀ job ∈ jobs, inv (assign job) state
      → inv (assign job) (serve state job).2 ∧ related job (serve state job).1)
    {states : W → ω} (start : ∀ worker, inv worker (states worker))
    : List.Forall₂ related jobs (serveInOrder assign serve states jobs).1 := by
  induction jobs generalizing states with
  | nil => exact .nil
  | cons head rest ih =>
      obtain ⟨kept, reply⟩ := serves _ head (by simp) (start (assign head))
      refine .cons reply (ih ?_ ?_)
      · intro state job member
        exact serves state job (List.mem_cons_of_mem head member)
      · intro worker
        by_cases same : worker = assign head
        · rw [same, Function.update_self]
          exact kept
        · rw [Function.update_of_ne same]
          exact start worker

omit [DecidableEq J] in
/-- What each serving says of its reply holds of all replies; read off the jobs' replies. -/
theorem serveInOrder_replied {inv : ω → Prop} {replied : ρ → Prop} {jobs : List J}
    (serves : ∀ state, inv state → ∀ job ∈ jobs,
      inv (serve state job).2 ∧ replied (serve state job).1)
    {states : W → ω} (start : ∀ worker, inv (states worker))
    : ∀ reply ∈ (serveInOrder assign serve states jobs).1, replied reply := by
  have each
      : List.Forall₂ (fun reply (_ : J) => replied reply ∧ True)
          (serveInOrder assign serve states jobs).1 jobs := by
    apply List.Forall₂.flip
    have replies
        : List.Forall₂ (fun (_ : J) => replied) jobs (serveInOrder assign serve states jobs).1 :=
      @serveInOrder_related _ _ _ _ _ assign serve (fun _ => inv) _ _
        (fun state job member holds => serves state holds job member) _ start
    exact replies.imp (fun _ _ holds => ⟨holds, trivial⟩)
  exact ((List.forall₂_and_left _ _).mp each).1

omit [DecidableEq J] in
/-- An invariant of each worker's own state, which serving its jobs keeps; by induction over
the jobs.
-/
theorem serveInOrder_keeps {inv : W → ω → Prop} {jobs : List J}
    (serves : ∀ state, ∀ job ∈ jobs, inv (assign job) state
      → inv (assign job) (serve state job).2)
    {states : W → ω} (start : ∀ worker, inv worker (states worker)) (worker : W)
    : inv worker ((serveInOrder assign serve states jobs).2 worker) := by
  induction jobs generalizing states with
  | nil => exact start worker
  | cons head rest ih =>
      refine ih (fun state job member => serves state job (List.mem_cons_of_mem head member)) ?_
      intro other
      by_cases same : other = assign head
      · subst same
        rw [Function.update_self]
        exact serves _ head List.mem_cons_self (start _)
      · rw [Function.update_of_ne same]
        exact start other

/-- Jobs submitted behind others are served, in any order of turns, as one after the other
from the states the others leave.
-/
theorem run_submit {pool last : Pool W J ω ρ} {jobs : List J} (sent : pool.unsent = [])
    (routed : pool.Routed assign) (distinct : jobs.Nodup)
    (run : Relation.ReflTransGen (Step assign serve) (pool.submit jobs) last)
    (idle : last.Idle)
    : last.states = (serveInOrder assign serve (pool.lastState assign serve) jobs).2
      ∧ jobs.map last.replies
        = (serveInOrder assign serve (pool.lastState assign serve) jobs).1.map some := by
  have ends := run_last run routed idle
  have queued (worker : W)
      : (pool.submit jobs).jobsOf assign worker
        = pool.jobsOf assign worker ++ jobs.filter (fun job => assign job = worker) := by
    simp [Pool.jobsOf, Pool.submit, sent]
  refine ⟨?_, ?_⟩
  · rw [ends.1]
    funext worker
    rw [serveInOrder_states _ pool.replies, Pool.lastState, queued, drain_append]
    exact (drain_congr _).1
  · rw [ends.2, serveInOrder_replies _ pool.replies distinct]
    apply List.map_congr_left
    intro job member
    rw [Pool.lastReply, queued, drain_append]
    apply drain_of_mem
    simp [member]

/-- With empty queues, the next job can be sent and then served, which empties them again. -/
theorem exists_turns {pool : Pool W J ω ρ} {job : J} {rest : List J}
    (waiting : pool.unsent = job :: rest) (empty : ∀ worker, pool.queues worker = [])
    : ∃ sent next, Step assign serve pool sent ∧ Step assign serve sent next
        ∧ next.unsent = rest ∧ ∀ worker, next.queues worker = [] := by
  let queued := Function.update pool.queues (assign job) (pool.queues (assign job) ++ [job])
  have head : queued (assign job) = [job] := by simp [queued, empty]
  refine ⟨{ pool with unsent := rest, queues := queued }, _, .send waiting, .serve head, rfl, ?_⟩
  intro worker
  by_cases same : worker = assign job
  · simp [same]
  · simp [queued, Function.update_of_ne same, empty]

/-- A pool whose queues are empty can send and serve all its jobs; by induction over them. -/
theorem exists_run_idle (jobs : List J) {pool : Pool W J ω ρ} (waiting : pool.unsent = jobs)
    (empty : ∀ worker, pool.queues worker = [])
    : ∃ last, Relation.ReflTransGen (Step assign serve) pool last ∧ last.Idle := by
  induction jobs generalizing pool with
  | nil => exact ⟨pool, .refl, ⟨waiting, empty⟩⟩
  | cons job rest ih =>
      obtain ⟨sent, next, sends, serves, unsent, queues⟩ := exists_turns waiting empty
      obtain ⟨last, run, idle⟩ := ih unsent queues
      exact ⟨last, .head sends (.head serves run), idle⟩

end Order

end WorkerPool
