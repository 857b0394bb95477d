import Fedqrs.Connectors.SharedReads
import Fedqrs.Correctness.CtidRead

/-! Parallel reads do not disturb each other. Through whatever interleaving of the reads and the
workers, a read returns what it returns alone, unless a connection of its own cannot be opened
or a worker of its own dies; its jobs are served once each; and it does return.
-/

namespace Fedqrs

-----------------------------------------------------------------------------------------
-- A read on its own
-----------------------------------------------------------------------------------------

/-- What a read returns when its jobs run on its own database. -/
def ParallelRead.alone (drivers : Drivers) (shown : ScalarValue → String)
    (catalogs : Database → Catalog) (read : ParallelRead)
    : Except PyErr Batches :=
  gatherReplies shown
    (read.jobs.map (answerJob drivers shown catalogs read.found.target))

/-- A reply is the answer to the job on its own database, or tells why no connection to it could
be opened.
-/
def Own (drivers : Drivers) (shown : ScalarValue → String) (catalogs : Database → Catalog)
    (job : Job) (reply : Reply)
    : Prop :=
  reply.result = (answerJob drivers shown catalogs job.spec.target job).result
    ∨ ∃ failure, openPg drivers job.call job.spec = .error failure ∧ reply.result = .error failure

section Workers

variable {drivers : Drivers} {shown : ScalarValue → String} {catalogs : Database → Catalog}

/-- The result of a job is its database's, whatever the connection to it was opened with. -/
theorem answerJob_result {target other : Target} (same : target.database = other.database)
    (job : Job)
    : (answerJob drivers shown catalogs target job).result
      = (answerJob drivers shown catalogs other job).result := by
  simp only [answerJob, Drivers.query, Session.fresh, Session.database, same]

/-- Serving a job keeps a connection's database, if jobs under its name are for that. -/
theorem runJob_connectedTo {conns : NameMap Target} {job : Job} {name : String}
    {database : Database} (connected : ConnectedTo name database conns)
    (own : job.name = name → job.spec.database = database)
    : ConnectedTo name database (runJob drivers shown catalogs conns job).2 := by
  unfold runJob
  cases conns.lookup job.name with
  | some held => exact connected
  | none =>
      cases openPg drivers job.call job.spec with
      | error failure => exact connected
      | ok _ =>
          intro other found
          by_cases mine : job.name = name
          · subst mine
            simp only [AList.lookup_insert] at found
            cases found
            exact own rfl
          · have differs : name ≠ job.name := fun same => mine same.symm
            simp only [AList.lookup_insert_ne differs] at found
            exact connected other found

/-- On a connection to the job's own database, or with none, the reply is the job's own. -/
theorem runJob_own {conns : NameMap Target} {job : Job}
    (connected : ConnectedTo job.name job.spec.database conns)
    : Own drivers shown catalogs job (runJob drivers shown catalogs conns job).1 := by
  unfold runJob
  cases held : conns.lookup job.name with
  | some target => exact Or.inl (answerJob_result (connected target held) job)
  | none =>
      cases opened : openPg drivers job.call job.spec with
      | error failure => exact Or.inr ⟨failure, opened, rfl⟩
      | ok _ => exact Or.inl rfl

/-- An own reply that does not fail is the answer. -/
theorem Own.answer {job : Job} {reply : Reply} (own : Own drivers shown catalogs job reply)
    (succeeds : ¬ reply.Fails)
    : reply.result = (answerJob drivers shown catalogs job.spec.target job).result := by
  rcases own with answer | ⟨failure, _, failed⟩
  · exact answer
  · exact absurd ⟨failure, failed⟩ succeeds

end Workers

/-- A premise for comparing a read with the same one done alone on some sources: it begins
there as it does in the pool, its connections can be opened, and those there are go to its
database.
-/
structure ParallelRead.BeginsOn (drivers : Drivers) (shown : ScalarValue → String)
    (read : ParallelRead) (sources : Sources) (partitions : Nat)
    : Prop where
  registered : sources.registry.lookup read.name = some read.found
  postgres : read.found.kind = .postgres
  split
    : ∃ pages paged,
        relpages drivers shown read.name read.source.schema read.source.table sources
            = (.ok pages, paged)
          ∧ ctidRanges pages partitions = .ok read.ranges
          ∧ paged.clock = read.call
  connected : ∀ worker, ConnectedTo read.name read.found.database (sources.workers worker)
  opens : ∀ job ∈ read.jobs, openPg drivers job.call read.found = .ok ()

/-- Served one after the other, the jobs of a read are answered on its database. -/
theorem serveInOrder_own {drivers : Drivers} {shown : ScalarValue → String}
    {catalogs : Database → Catalog} {read : ParallelRead} {workers : Nat → NameMap Target}
    (connected : ∀ worker, ConnectedTo read.name read.found.database (workers worker))
    (opens : ∀ job ∈ read.jobs, openPg drivers job.call read.found = .ok ())
    : (WorkerPool.serveInOrder workerOf (runJob drivers shown catalogs) workers
          read.jobs).1.map Reply.result
      = (read.jobs.map (answerJob drivers shown catalogs read.found.target)).map Reply.result := by
  have each
      : List.Forall₂
          (fun job reply =>
            (answerJob drivers shown catalogs read.found.target job).result = reply.result)
          read.jobs
          (WorkerPool.serveInOrder workerOf (runJob drivers shown catalogs) workers
            read.jobs).1 := by
    apply WorkerPool.serveInOrder_related _ connected
    intro conns job member held
    obtain ⟨named, own⟩ := partitionJobs_mem member
    refine ⟨runJob_connectedTo held (fun _ => by rw [own]), ?_⟩
    have reply :=
      @runJob_own drivers shown catalogs conns job (by rw [named, own]; exact held)
    rcases reply with answer | ⟨failure, closed, _⟩
    · rw [answer, own]
    · rw [own, opens job member] at closed
      cases closed
  have mapped := List.forall₂_map_right_iff.mpr (List.forall₂_map_left_iff.mpr each)
  rw [List.forall₂_eq_eq_eq] at mapped
  rw [List.map_map]
  exact mapped.symm

/-- Gathering replies looks at their results only. -/
theorem gatherReplies_congr {replies others : List Reply}
    (same : replies.map Reply.result = others.map Reply.result)
    : gatherReplies shown replies = gatherReplies shown others := by
  have received : replies.mapM Reply.result = others.mapM Reply.result := by
    simpa only [List.mapM_map, Function.id_comp] using congrArg (List.mapM id) same
  rw [gatherReplies, gatherReplies, received]

/-- Alone on the sources, a read returns what its jobs return on its own database. -/
theorem fetchParallel_alone {drivers : Drivers} {shown : ScalarValue → String}
    {read : ParallelRead} {sources : Sources} {partitions : Nat}
    (begins : read.BeginsOn drivers shown sources partitions)
    : (fetchParallel drivers shown read.name read.source read.list partitions read.whereClause
          sources).1
      = read.alone drivers shown sources.catalogs := by
  obtain ⟨pages, paged, counted, split, clock⟩ := begins.split
  obtain ⟨_, workers, catalogs⟩ := relpages_frame counted
  have asked : spec read.name sources = (.ok read.found, sources) := by
    simp [spec, begins.registered]
  have ranged
      : (Proc.lift (ctidRanges pages partitions) : SourceM _) paged = (.ok read.ranges, paged) := by
    rw [split]
    rfl
  have replies
      : (WorkerPool.serveInOrder workerOf (runJob drivers shown sources.catalogs)
            sources.workers read.jobs).1.map Reply.result
        = (read.jobs.map
            (answerJob drivers shown sources.catalogs read.found.target)).map Reply.result :=
    serveInOrder_own begins.connected begins.opens
  rw [fetchParallel, Proc.bind_of_ok asked]
  simp only [begins.postgres, if_true]
  rw [Proc.bind_of_ok counted, Proc.bind_of_ok ranged, Proc.get_bind_apply,
    Proc.bind_of_ok (runJobs_apply _ paged), Proc.lift_apply, workers, catalogs, clock]
  change gatherReplies shown
      (WorkerPool.serveInOrder workerOf (runJob drivers shown sources.catalogs) sources.workers
        read.jobs).1
    = _
  exact gatherReplies_congr replies

/-- Gathering gives up at the first reply that fails, by induction over those before it. -/
theorem gatherReplies_stops (shown : ScalarValue → String) {before after : List Reply}
    {reply : Reply} {failure : String} (fine : ∀ earlier ∈ before, ¬ earlier.Fails)
    (failed : reply.result = .error failure)
    : gatherReplies shown (before ++ reply :: after) = .error failure := by
  have stops : (before ++ reply :: after).mapM Reply.result = .error failure := by
    induction before with
    | nil =>
        rw [List.nil_append, List.mapM_cons, failed]
        rfl
    | cons earlier rest ih =>
        have rest := ih (fun other member => fine other (List.mem_cons_of_mem earlier member))
        rw [List.cons_append, List.mapM_cons]
        cases result : earlier.result with
        | error other => exact absurd ⟨other, result⟩ (fine earlier List.mem_cons_self)
        | ok part =>
            rw [rest]
            rfl
  rw [gatherReplies, stops]
  rfl

/-- Where each item is related to something, a list is, by induction over it. -/
theorem exists_forall₂ {α β : Type} {related : α → β → Prop} {items : List α}
    (each : ∀ item ∈ items, ∃ result, related item result)
    : ∃ results, List.Forall₂ related items results := by
  induction items with
  | nil => exact ⟨[], .nil⟩
  | cons item rest ih =>
      obtain ⟨result, here⟩ := each item List.mem_cons_self
      obtain ⟨others, there⟩ :=
        ih (fun other member => each other (List.mem_cons_of_mem item member))
      exact ⟨result :: others, .cons here there⟩

-----------------------------------------------------------------------------------------
-- Every interleaving
-----------------------------------------------------------------------------------------

section Interleavings

variable {R : Type} [DecidableEq R] {drivers : Drivers} {shown : ScalarValue → String}
  {catalogs : Database → Catalog} {reads : R → ParallelRead} {count : Nat} {pool : ReadPool R}

/-- Reads under one name found one database. -/
def NamesAgree (reads : R → ParallelRead) : Prop :=
  ∀ read other, (reads read).name = (reads other).name
    → (reads read).found.database = (reads other).found.database

/-- What the pool's invariants say of the reads' jobs. -/
abbrev ReadsSound (drivers : Drivers) (shown : ScalarValue → String)
    (catalogs : Database → Catalog) (reads : R → ParallelRead) (pool : ReadPool R)
    : Prop :=
  SharedPool.Sound (fun read => (reads read).jobs) workerOf (runJob drivers shown catalogs)
    Reply.Fails (fun _ => ∅) pool

/-- A reply that a read receives is its job's own: every connection of a worker goes to the
database of its name, whichever read had it opened.
-/
theorem received_own (agree : NamesAgree reads)
    (sound : ReadsSound drivers shown catalogs reads pool) {read : R} {place : Nat}
    {reply : Reply}
    (received : pool.channels (read, place) = .reply reply)
    : ∃ job, (reads read).jobs[place]? = some job ∧ Own drivers shown catalogs job reply := by
  have serves (other : R) (job : Job) (member : job ∈ (reads other).jobs)
      (conns : NameMap Target)
      (connected : ∀ some', ConnectedTo (reads some').name (reads some').found.database conns)
      : (∀ some', ConnectedTo (reads some').name (reads some').found.database
            (runJob drivers shown catalogs conns job).2)
          ∧ Own drivers shown catalogs job (runJob drivers shown catalogs conns job).1 := by
    obtain ⟨named, own⟩ := partitionJobs_mem member
    refine ⟨?_, runJob_own (by rw [named, own]; exact connected other)⟩
    intro some'
    apply runJob_connectedTo (connected some')
    intro same
    rw [own]
    exact agree other some' (named.symm.trans same)
  have start (worker : Nat) (some' : R)
      : ConnectedTo (reads some').name (reads some').found.database (∅ : NameMap Target) := by
    intro other absent
    cases absent
  exact sound.related
    (fun _ conns => ∀ some', ConnectedTo (reads some').name (reads some').found.database conns)
    (Own drivers shown catalogs) serves start received

/-- A reply that a read received and that did not stop it is the answer to its job. -/
theorem received_answer (agree : NamesAgree reads)
    (sound : ReadsSound drivers shown catalogs reads pool) {read : R} {place : Nat}
    (before : place < pool.received read)
    : ∃ job reply, (reads read).jobs[place]? = some job
        ∧ pool.channels (read, place) = .reply reply ∧ ¬ reply.Fails
        ∧ reply.result
          = (answerJob drivers shown catalogs (reads read).found.target job).result := by
  obtain ⟨reply, received, succeeds⟩ := sound.progressed.replies read place before
  obtain ⟨job, known, own⟩ := received_own agree sound received
  have spec := (partitionJobs_mem (List.mem_of_getElem? known)).2
  have answer := own.answer succeeds
  rw [spec] at answer
  exact ⟨job, reply, known, received, succeeds, answer⟩

/-- With all its replies received, a read gathers the answers to its jobs, in their order. -/
theorem complete_alone (agree : NamesAgree reads)
    (sound : ReadsSound drivers shown catalogs reads pool) {read : R} {replies : List Reply}
    (all : pool.received read = (reads read).jobs.length)
    (received
      : List.Forall₂ (fun place reply => pool.channels (read, place) = .reply reply)
          (List.range (pool.received read)) replies)
    : gatherReplies shown replies = (reads read).alone drivers shown catalogs := by
  have count : replies.length = (reads read).jobs.length := by
    rw [← received.length_eq, List.length_range, all]
  have same
      : replies.map Reply.result
        = ((reads read).jobs.map
            (answerJob drivers shown catalogs (reads read).found.target)).map Reply.result := by
    apply List.ext_getElem (by rw [List.length_map, List.length_map, List.length_map, count])
    intro place inside _
    rw [List.length_map] at inside
    have before : place < pool.received read := by
      rw [all, ← count]
      exact inside
    obtain ⟨job, reply, known, here, _, answer⟩ := received_answer agree sound before
    have there := received.get (by rwa [List.length_range]) inside
    simp only [List.get_eq_getElem, List.getElem_range, here] at there
    cases there
    rw [List.getElem_map, List.getElem_map, List.getElem_map, answer,
      (List.getElem?_eq_some_iff.mp known).2]
  exact gatherReplies_congr same

/-- Stopped at a reply that fails, a read has a failed answer where it has one alone, or could
not open a connection.
-/
theorem stopped_alone (agree : NamesAgree reads)
    (sound : ReadsSound drivers shown catalogs reads pool) {read : R} {reply : Reply}
    {failure : String} (received : pool.channels (read, pool.received read) = .reply reply)
    (failed : reply.result = .error failure)
    : (∃ job ∈ (reads read).jobs,
          openPg drivers job.call (reads read).found = .error failure)
        ∨ (reads read).alone drivers shown catalogs = .error failure := by
  obtain ⟨job, known, own⟩ := received_own agree sound received
  have member := List.mem_of_getElem? known
  have spec := (partitionJobs_mem member).2
  rcases own with answer | ⟨other, closed, reason⟩
  · right
    rw [spec] at answer
    obtain ⟨inside, here⟩ := List.getElem?_eq_some_iff.mp known
    have split
        : (reads read).jobs
          = (reads read).jobs.take (pool.received read)
            ++ job :: (reads read).jobs.drop (pool.received read + 1) := by
      rw [← here, List.cons_getElem_drop_succ, List.take_append_drop]
    rw [ParallelRead.alone, split, List.map_append, List.map_cons]
    apply gatherReplies_stops
    · intro earlier listed
      obtain ⟨first, taken, rfl⟩ := List.mem_map.mp listed
      obtain ⟨place, before, rfl⟩ := List.mem_take_iff_getElem.mp taken
      obtain ⟨other, given, found, _, succeeds, whole⟩ :=
        received_answer agree sound (Nat.lt_of_lt_of_le before (Nat.min_le_left _ _))
      rw [(List.getElem?_eq_some_iff.mp found).2, Reply.Fails, ← whole]
      exact succeeds
    · rw [← answer]
      exact failed
  · left
    rw [failed] at reason
    cases reason
    exact ⟨job, member, spec ▸ closed⟩

/-- Whatever other reads and whatever interleaving: a read returns what it returns alone,
unless a connection of its own cannot be opened or a worker of its own has died.
-/
theorem parallelReads_isolated (agree : NamesAgree reads)
    (run : PoolRun drivers shown catalogs reads count pool) (read : R)
    {result : Except PyErr Batches} (returns : Returns shown pool read result)
    : (∃ job ∈ (reads read).jobs, ∃ failure,
            openPg drivers job.call (reads read).found = .error failure
              ∧ result = .error failure)
        ∨ (∃ job ∈ (reads read).jobs, pool.alive (workerOf job) = false
            ∧ (result = .error "parallel worker gone"
              ∨ result = .error "parallel worker dropped its reply"))
        ∨ (result = (reads read).alone drivers shown catalogs
            ∧ ∀ sources partitions, sources.catalogs = catalogs
              → (reads read).BeginsOn drivers shown sources partitions
              → result
                = (fetchParallel drivers shown (reads read).name (reads read).source
                    (reads read).list partitions (reads read).whereClause sources).1) := by
  have sound : ReadsSound drivers shown catalogs reads pool := SharedPool.Run.sound run
  have onSources (alone : result = (reads read).alone drivers shown catalogs)
      : result = (reads read).alone drivers shown catalogs
        ∧ ∀ sources partitions, sources.catalogs = catalogs
          → (reads read).BeginsOn drivers shown sources partitions
          → result
            = (fetchParallel drivers shown (reads read).name (reads read).source
                (reads read).list partitions (reads read).whereClause sources).1 := by
    refine ⟨alone, ?_⟩
    intro sources partitions same begins
    rw [fetchParallel_alone begins, same, alone]
  cases returns with
  | complete ended received =>
      have all : pool.received read = (reads read).jobs.length :=
        sound.progressed.ended read _ ended
      exact Or.inr (Or.inr (onSources (complete_alone agree sound all received)))
  | stopped ended received failed =>
      rcases stopped_alone agree sound received failed with ⟨job, member, closed⟩ | alone
      · exact Or.inl ⟨job, member, _, closed, rfl⟩
      · exact Or.inr (Or.inr (onSources alone.symm))
  | gone ended =>
      obtain ⟨job, known, dead⟩ := sound.progressed.ended read _ ended
      exact Or.inr (Or.inl ⟨job, List.mem_of_getElem? known, dead, Or.inl rfl⟩)
  | dropped ended =>
      obtain ⟨job, known, dead⟩ := sound.closed (sound.progressed.ended read _ ended)
      exact Or.inr (Or.inl ⟨job, List.mem_of_getElem? known, dead, Or.inr rfl⟩)

end Interleavings

/-- Two reads of one datasource, of one range each. -/
def twoReads (second : Bool) : ParallelRead where
  name := "pg"
  found := { kind := .postgres, uri := "db", adbcDriver := some "driver" }
  call := if second then 1 else 0
  list := .columns ["v"]
  source := { schema := none, table := "t", aliasName := none }
  whereClause := none
  ranges := [if second then (1, u32Max) else (0, 1)]

/-- Both jobs wait for one worker, which serves them in turn, and the second read ends. -/
theorem twoReads_run
    : ∃ pool,
        PoolRun twoPageDrivers (fun _ => "") twoPages.catalogs twoReads 6 pool
          ∧ pool.ended = Function.update (fun _ => none) true (some .complete)
          ∧ pool.received true = 1
          ∧ (∀ worker, pool.alive worker = true)
          ∧ ∃ reply, pool.channels (true, 0) = .reply reply := by
  have sends : PoolRun twoPageDrivers (fun _ => "") twoPages.catalogs twoReads 2 _ :=
    .step (.step .refl (@SharedPool.Step.send Bool _ _ _ _ _ _ _ _ _ _ _ false _ rfl rfl rfl))
      (@SharedPool.Step.send Bool _ _ _ _ _ _ _ _ _ _ _ true _ rfl rfl rfl)
  have serves : PoolRun twoPageDrivers (fun _ => "") twoPages.catalogs twoReads 4 _ :=
    .step (.step sends
        (@SharedPool.Step.serve Bool Nat _ _ _ _ _ _ _ _ _ _ 0 (false, 0) [(true, 0)] _ rfl rfl))
      (@SharedPool.Step.serve Bool Nat _ _ _ _ _ _ _ _ _ _ 0 (true, 0) [] _ rfl rfl)
  have receives : PoolRun twoPageDrivers (fun _ => "") twoPages.catalogs twoReads 6 _ :=
    .step (.step serves
        (@SharedPool.Step.receive Bool Nat _ _ _ _ _ _ _ _ _ _ true _ rfl rfl (by decide) rfl
          (by
            rintro ⟨failure, failed⟩
            cases failed)))
      (@SharedPool.Step.complete Bool Nat _ _ _ _ _ _ _ _ _ _ true rfl rfl rfl)
  exact ⟨_, receives, rfl, rfl, fun _ => rfl, _, rfl⟩

theorem parallelReads_isolated_twoReads
    : ∃ pool result,
        PoolRun twoPageDrivers (fun _ => "") twoPages.catalogs twoReads 6 pool
          ∧ Returns (fun _ => "") pool true result
          ∧ result = (twoReads true).alone twoPageDrivers (fun _ => "") twoPages.catalogs := by
  have agree : NamesAgree twoReads := fun _ _ _ => rfl
  obtain ⟨pool, run, ended, received, alive, reply, replied⟩ := twoReads_run
  have returns : Returns (fun _ => "") pool true (gatherReplies (fun _ => "") [reply]) := by
    apply Returns.complete (by rw [ended, Function.update_self])
    rw [received]
    exact .cons replied .nil
  refine ⟨pool, _, run, returns, ?_⟩
  rcases parallelReads_isolated agree run true returns with
    ⟨job, member, failure, closed, _⟩ | ⟨job, _, dead, _⟩ | ⟨alone, _⟩
  · cases closed
  · rw [alive] at dead
    cases dead
  · exact alone

section Interleavings

variable {R : Type} [DecidableEq R] {drivers : Drivers} {shown : ScalarValue → String}
  {catalogs : Database → Catalog} {reads : R → ParallelRead} {count : Nat} {pool : ReadPool R}

omit [DecidableEq R] in
/-- A job of a read goes to the worker of its place. -/
theorem workerAt_iff {read : R} {place worker : Nat}
    : SharedPool.workerAt (fun read => (reads read).jobs) workerOf (read, place) = some worker
      ↔ place < (reads read).ranges.length ∧ place % parallelWorkers = worker := by
  unfold SharedPool.workerAt SharedPool.jobAt ParallelRead.jobs partitionJobs workerOf
  simp only [List.getElem?_mapIdx, Option.map_map, Option.map_eq_some_iff, Function.comp_apply]
  constructor
  · rintro ⟨range, known, same⟩
    exact ⟨(List.getElem?_eq_some_iff.mp known).1, same⟩
  · rintro ⟨inside, same⟩
    exact ⟨_, List.getElem?_eq_getElem inside, same⟩

theorem jobs_length (read : ParallelRead) : read.jobs.length = read.ranges.length := by
  simp [ParallelRead.jobs, partitionJobs]

/-- The places of a read's jobs that a worker serves, in order. -/
def ParallelRead.placesOf (read : ParallelRead) (worker : Nat) : List Nat :=
  (List.range read.ranges.length).filter (fun place => place % parallelWorkers = worker)

/-- The tickets a read has sent to a worker are for the first of those places. -/
theorem ticketsFor_places (sound : ReadsSound drivers shown catalogs reads pool) (read : R)
    (worker : Nat)
    : (pool.ticketsFor (fun read => (reads read).jobs) workerOf read worker).map Prod.snd
        = (List.range (pool.sent read)).filter (fun place => place % parallelWorkers = worker) := by
  have within : pool.sent read ≤ (reads read).ranges.length :=
    jobs_length (reads read) ▸ sound.progressed.sent read
  rw [SharedPool.Pool.ticketsFor, List.filter_map, List.map_map]
  have places : Prod.snd ∘ Prod.mk read = (id : Nat → Nat) := rfl
  rw [places, List.map_id]
  apply List.filter_congr
  intro place sent
  have inside : place < (reads read).ranges.length :=
    Nat.lt_of_lt_of_le (List.mem_range.mp sent) within
  simp [workerAt_iff, inside]

/-- A worker has served a read's jobs in order, from the first of its places on, with none left
out or served twice, and all of them when the read has all its replies.
-/
theorem parallelReads_once (run : PoolRun drivers shown catalogs reads count pool) (read : R)
    (worker : Nat)
    : ((pool.served worker).filter (fun ticket => ticket.1 = read)).map Prod.snd
          <+: (reads read).placesOf worker
        ∧ (pool.ended read = some .complete
          → ((pool.served worker).filter (fun ticket => ticket.1 = read)).map Prod.snd
            = (reads read).placesOf worker) := by
  have sound : ReadsSound drivers shown catalogs reads pool := SharedPool.Run.sound run
  have ledger := congrArg (List.map Prod.snd) (sound.booked.ledger worker read)
  rw [ticketsFor_places sound read worker, SharedPool.Pool.ledger, List.filter_append,
    List.filter_append, List.map_append, List.map_append, List.append_assoc] at ledger
  have within : pool.sent read ≤ (reads read).ranges.length :=
    jobs_length (reads read) ▸ sound.progressed.sent read
  refine ⟨?_, ?_⟩
  · have sent
        : (List.range (pool.sent read)).filter (fun place => place % parallelWorkers = worker)
          <+: (reads read).placesOf worker := by
      apply List.IsPrefix.filter
      rw [← Nat.min_eq_left within, ← List.take_range]
      exact List.take_prefix _ _
    exact (ledger ▸ List.prefix_append _ _).trans sent
  · intro ended
    have all : pool.received read = (reads read).jobs.length :=
      sound.progressed.ended read _ ended
    have replied {ticket : SharedPool.Ticket R} (mine : ticket.1 = read)
        (booked : ticket ∈ pool.ledger worker)
        : ∃ reply, pool.channels ticket = .reply reply := by
      have sent := (sound.booked.mem_ledger.mp booked).1
      rw [mine] at sent
      have before : ticket.2 < pool.received read :=
        all ▸ Nat.lt_of_lt_of_le sent (sound.progressed.sent read)
      obtain ⟨reply, received, _⟩ := sound.progressed.replies read ticket.2 before
      exact ⟨reply, by rw [← received, ← mine]⟩
    have queued : (pool.queues worker).filter (fun ticket => ticket.1 = read) = [] := by
      rw [List.filter_eq_nil_iff]
      intro ticket member mine
      obtain ⟨reply, received⟩ :=
        replied (of_decide_eq_true mine) (SharedPool.mem_ledger_of_queued member)
      rw [sound.delivered.queued worker ticket member] at received
      cases received
    have lost : (pool.lost worker).filter (fun ticket => ticket.1 = read) = [] := by
      rw [List.filter_eq_nil_iff]
      intro ticket member mine
      obtain ⟨reply, received⟩ :=
        replied (of_decide_eq_true mine) (by simp [SharedPool.Pool.ledger, member])
      rw [sound.delivered.lost worker ticket member] at received
      cases received
    have sent : pool.sent read = (reads read).ranges.length := by
      apply Nat.le_antisymm within
      rcases Nat.eq_zero_or_pos (pool.received read) with none | some'
      · rw [← jobs_length, ← all, none]
        exact Nat.zero_le _
      · rw [sound.progressed.waits read some', jobs_length]
    rw [queued, lost, List.map_nil, List.append_nil, List.append_nil, sent] at ledger
    exact ledger

theorem parallelReads_once_twoReads
    : ∃ pool,
        PoolRun twoPageDrivers (fun _ => "") twoPages.catalogs twoReads 6 pool
          ∧ pool.ended true = some .complete
          ∧ ((pool.served 0).filter (fun ticket => ticket.1 = true)).map Prod.snd = [0] := by
  obtain ⟨pool, run, ended, _⟩ := twoReads_run
  have complete : pool.ended true = some .complete := by rw [ended, Function.update_self]
  exact ⟨pool, run, complete, (parallelReads_once run true 0).2 complete⟩

/-- The workers of the pool. -/
theorem workerOf_mem (job : Job) : workerOf job ∈ Finset.range parallelWorkers :=
  Finset.mem_range.mpr (Nat.mod_lt _ (by decide))

/-- No read waits for ever: in a run the reads and the workers take at most three steps for each
range and one for each read, and while a read has nothing to return there is a step to take.
-/
theorem parallelReads_end [Fintype R] (run : PoolRun drivers shown catalogs reads count pool)
    : count ≤ ∑ read, (3 * (reads read).ranges.length + 1)
      ∧ ∀ read, (∃ result, Returns shown pool read result)
        ∨ (pool.ended read = none ∧ ∃ next, PoolStep drivers shown catalogs reads pool next) := by
  have sound : ReadsSound drivers shown catalogs reads pool := SharedPool.Run.sound run
  refine ⟨?_, ?_⟩
  · have bound := SharedPool.Run.count_le workerOf_mem run
    rw [SharedPool.rank_start] at bound
    simp only [jobs_length] at bound
    exact (Nat.le_add_right _ _).trans bound
  · intro read
    cases ended : pool.ended read with
    | none => exact Or.inr ⟨rfl, sound.exists_step ended⟩
    | some ending =>
        left
        have reason := sound.progressed.ended read _ ended
        cases ending with
        | complete =>
            have each (place : Nat) (member : place ∈ List.range (pool.received read))
                : ∃ reply, pool.channels (read, place) = .reply reply := by
              obtain ⟨reply, received, _⟩ :=
                sound.progressed.replies read place (List.mem_range.mp member)
              exact ⟨reply, received⟩
            obtain ⟨replies, received⟩ := exists_forall₂ each
            exact ⟨_, .complete ended received⟩
        | stopped =>
            obtain ⟨reply, received, failure, failed⟩ := reason
            exact ⟨_, .stopped ended received failed⟩
        | gone => exact ⟨_, .gone ended⟩
        | dropped => exact ⟨_, .dropped ended⟩

theorem parallelReads_end_twoReads
    : ∃ pool,
        PoolRun twoPageDrivers (fun _ => "") twoPages.catalogs twoReads 6 pool
          ∧ pool.ended false = none
          ∧ ∃ next, PoolStep twoPageDrivers (fun _ => "") twoPages.catalogs twoReads pool next := by
  obtain ⟨pool, run, ended, _⟩ := twoReads_run
  have running : pool.ended false = none := by
    rw [ended]
    rfl
  refine ⟨pool, run, running, ?_⟩
  rcases (parallelReads_end run).2 false with ⟨result, returns⟩ | ⟨_, step⟩
  · cases returns with
    | complete how _ | stopped how _ _ | gone how | dropped how =>
        rw [running] at how
        cases how
  · exact step

end Interleavings

end Fedqrs
