import Fedqrs.Connectors.Answers
import Fedqrs.Semantics.Reference

/-! The parallel read returns the rows of the single query, whatever the order in which the
workers serve its partitions.
-/

namespace Fedqrs

-----------------------------------------------------------------------------------------
-- Partitions of a table
-----------------------------------------------------------------------------------------

/-- Selections that pick each item of some once, and no other, make up those items; by
counting each item.
-/
theorem flatMap_filter_perm {ι α : Type} [DecidableEq α] {picks : ι → α → Bool}
    {kept : α → Bool} {indices : List ι} {items : List α}
    (once : ∀ item ∈ items,
      indices.countP (fun i => picks i item) = if kept item then 1 else 0)
    : (indices.flatMap (fun i => items.filter (picks i))).Perm (items.filter kept) := by
  have counted (item : α)
      : (indices.flatMap (fun i => items.filter (picks i))).count item
        = indices.countP (fun i => picks i item) * items.count item := by
    clear once
    induction indices with
    | nil => simp
    | cons head rest ih =>
        rw [List.flatMap_cons, List.count_append, ih, List.countP_cons]
        by_cases picked : picks head item = true
        · rw [List.count_filter picked]
          simp only [picked, if_true]
          ring
        · have absent : (items.filter (picks head)).count item = 0 := by
            apply List.count_eq_zero.mpr
            intro member
            exact picked (List.mem_filter.mp member).2
          simp [absent, picked]
  rw [List.perm_iff_count]
  intro item
  rw [counted]
  by_cases member : item ∈ items
  · rw [once item member]
    by_cases passes : kept item = true
    · rw [List.count_filter passes]
      simp [passes]
    · have absent : (items.filter kept).count item = 0 := by
        apply List.count_eq_zero.mpr
        intro inside
        exact passes (List.mem_filter.mp inside).2
      simp [absent, passes]
  · have none : items.count item = 0 := List.count_eq_zero.mpr member
    have absent : (items.filter kept).count item = 0 := by
      apply List.count_eq_zero.mpr
      intro inside
      exact member (List.mem_filter.mp inside).1
    rw [none, absent, Nat.mul_zero]

/-- The query of one partition. -/
def ctidSelect (list : SelectList) (source : TableRef) (whereClause : Option SqlExpr)
    (range : Nat × Nat)
    : SelectSql where
  distinct := false
  list
  source
  filter :=
    some
      (match whereClause with
      | some clause => .binaryOp (.ctidRange range.1 range.2) .and (.nested clause)
      | none => .ctidRange range.1 range.2)
  limit := none

theorem ctidSql_eq (list : SelectList) (source : TableRef) (whereClause : Option SqlExpr)
    (range : Nat × Nat)
    : ctidSql list source range whereClause
      = .select (ctidSelect list source whereClause range) := by
  cases whereClause <;> rfl

/-- The query over the whole table. -/
def wholeSelect (list : SelectList) (source : TableRef) (whereClause : Option SqlExpr)
    : SelectSql :=
  { distinct := false, list, source, filter := whereClause, limit := none }

section Partitions

variable {meaning : SqlMeaning} {catalog : Catalog} {temps : TempTables} {heap : Heap}
  {list : SelectList} {source : TableRef} {whereClause : Option SqlExpr}

/-- Ranges that cover all pages give the rows of the whole query, each once, if its list makes them
of each stored row apart.
-/
theorem ctidSelect_perm (rowWise : meaning.RowWise list) {ranges : List (Nat × Nat)} {last : Nat}
    (contiguous : Contiguous 0 ranges last)
    (pages : ∀ tuple ∈ heap.tuples, tuple.block < last)
    : (ranges.flatMap (fun range =>
          meaning.plainRows catalog temps (ctidSelect list source whereClause range) heap)).Perm
        (meaning.plainRows catalog temps (wholeSelect list source whereClause) heap) := by
  have selections
      : (ranges.flatMap (fun range =>
            meaning.selected catalog temps (ctidSelect list source whereClause range).filter
              heap)).Perm
          (meaning.selected catalog temps whereClause heap) := by
    have covered : ∀ tuple ∈ heap.tuples, ranges.countP (inRange tuple.block) = 1 := by
      intro tuple member
      rw [contiguous.countP]
      simp [pages tuple member]
    cases whereClause with
    | none =>
        have all : heap.tuples = heap.tuples.filter (fun _ => true) := by simp
        change (ranges.flatMap (fun range => heap.tuples.filter _)).Perm heap.tuples
        nth_rewrite 2 [all]
        apply flatMap_filter_perm
        intro tuple member
        simp only [SqlMeaning.passes_ctidRange, if_true]
        exact covered tuple member
    | some clause =>
        apply flatMap_filter_perm
        intro tuple member
        simp only [SqlMeaning.passes_and, SqlMeaning.passes_ctidRange, SqlMeaning.passes_nested]
        by_cases passes : meaning.passes catalog temps heap.columns clause tuple = true
        · simp only [passes, Bool.and_true, if_true]
          exact covered tuple member
        · simp [passes]
  have projected
      := selections.flatMap_right (fun tuple =>
          meaning.project temps.kind heap.columns list [tuple])
  rw [List.flatMap_assoc, ← rowWise temps.kind heap.columns] at projected
  simp only [← rowWise temps.kind heap.columns] at projected
  exact projected

end Partitions

-----------------------------------------------------------------------------------------
-- Workers
-----------------------------------------------------------------------------------------

/-- The worker's connection under a name, if it has one, is to the database. -/
def ConnectedTo (name : String) (database : Database) (conns : NameMap Target) : Prop :=
  ∀ other, conns.lookup name = some other → other.database = database

section Workers

variable {drivers : Drivers} {shown : ScalarValue → String} {catalogs : Database → Catalog}
  {database : Database} {name : String}

/-- Workers connected to the registered database read that. -/
theorem workerTarget_of_connectedTo {sources : Sources} {found : DsSpec} {worker : Nat}
    (connected : ConnectedTo name found.database (sources.workers worker))
    : (sources.workerTarget name found worker).database = found.database := by
  unfold Sources.workerTarget
  cases held : (sources.workers worker).lookup name with
  | some other => exact connected other held
  | none => rfl

theorem partitionJobs_nodup (name : String) (found : DsSpec) (call : Nat) (list : SelectList)
    (source : TableRef) (whereClause : Option SqlExpr) (ranges : List (Nat × Nat))
    : (partitionJobs name found call list source whereClause ranges).Nodup := by
  apply List.Nodup.of_map Job.index
  have indices
      : (partitionJobs name found call list source whereClause ranges).map Job.index
        = List.range ranges.length := by
    apply List.ext_getElem
    · simp [partitionJobs]
    · intro index inside other
      simp [partitionJobs]
  rw [indices]
  exact List.nodup_range

/-- A failed reply fails the whole read, by induction over the replies. -/
theorem gatherReplies_error (shown : ScalarValue → String) {replies : List Reply}
    (failed : ∃ reply ∈ replies, ∃ failure, reply.result = .error failure)
    : ∃ failure, gatherReplies shown replies = .error failure := by
  have received : ∃ failure, replies.mapM Reply.result = .error failure := by
    induction replies with
    | nil =>
        obtain ⟨_, member, _⟩ := failed
        cases member
    | cons reply rest ih =>
        rw [List.mapM_cons]
        cases here : reply.result with
        | error failure => exact ⟨failure, rfl⟩
        | ok part =>
            obtain ⟨other, member, failure, lost⟩ := failed
            rcases List.mem_cons.mp member with rfl | inside
            · rw [here] at lost
              cases lost
            · obtain ⟨failure', later⟩ := ih ⟨other, inside, failure, lost⟩
              rw [later]
              exact ⟨failure', rfl⟩
  obtain ⟨failure, lost⟩ := received
  refine ⟨failure, ?_⟩
  rw [gatherReplies, lost]
  rfl

/-- Answers to the partitions' queries hold the rows of the whole query, each once. -/
theorem answers_perm {meaning : SqlMeaning} (answers : meaning.Answers drivers)
    {list : SelectList} (rowWise : meaning.RowWise list) {source : TableRef}
    {whereClause : Option SqlExpr} {heap : Heap}
    (resolved
      : resolveTable (catalogs database) (.empty database.kind) source.schema source.table
        = some heap)
    {ranges : List (Nat × Nat)} {last : Nat} (contiguous : Contiguous 0 ranges last)
    (pages : ∀ tuple ∈ heap.tuples, tuple.block < last) {jobs : List Job}
    (asked
      : List.Forall₂ (fun job range => job.sql = ctidSql list source range whereClause) jobs
          ranges)
    {results : List Batches}
    (answered
      : List.Forall₂ (fun job answer =>
            drivers.answer job.call (catalogs database) database (.empty database.kind) job.sql
              = .ok answer)
          jobs results)
    : (results.flatMap Batches.rows).Perm
        (meaning.plainRows (catalogs database) (.empty database.kind)
          (wholeSelect list source whereClause) heap) := by
  refine List.Perm.trans ?_ (ctidSelect_perm rowWise contiguous pages)
  clear contiguous pages
  induction asked generalizing results with
  | nil =>
      cases answered
      exact .refl _
  | cons same _ ih =>
      cases answered with
      | cons head tail =>
          have denotes := answers _ _ (.fresh { database, driver := none }) _ _ head
          rw [same, ctidSql_eq, SqlMeaning.denotes_select rfl rfl] at denotes
          obtain ⟨other, found, perm⟩ := denotes
          have table : other = heap := by
            have known : some other = some heap := found.symm.trans resolved
            exact Option.some.inj known
          rw [table] at perm
          rw [List.flatMap_cons, List.flatMap_cons]
          exact perm.append (ih tail)

end Workers

-----------------------------------------------------------------------------------------
-- Any order of turns
-----------------------------------------------------------------------------------------

section Turns

noncomputable local instance : DecidableEq Job := Classical.decEq Job

/-- The pool can serve the jobs, queued behind those of earlier calls, with these replies; the
states the earlier jobs leave are the workers'.
-/
def PoolServes (drivers : Drivers) (shown : ScalarValue → String) (sources : Sources)
    (jobs : List Job) (replies : List Reply)
    : Prop :=
  ∃ pool last : WorkerPool.Pool Nat Job (NameMap Target) Reply,
    pool.unsent = []
      ∧ pool.Routed workerOf
      ∧ pool.lastState workerOf (runJob drivers shown sources.catalogs) = sources.workers
      ∧ Relation.ReflTransGen
          (WorkerPool.Step workerOf (runJob drivers shown sources.catalogs))
          (pool.submit jobs) last
      ∧ last.Idle
      ∧ jobs.map last.replies = replies.map some

/-- Whatever the order of turns, the replies are those of one job after the other. -/
theorem PoolServes.replies {drivers : Drivers} {shown : ScalarValue → String}
    {sources : Sources} {jobs : List Job} {replies : List Reply} (distinct : jobs.Nodup)
    (serves : PoolServes drivers shown sources jobs replies)
    : replies
      = (WorkerPool.serveInOrder workerOf (runJob drivers shown sources.catalogs)
          sources.workers jobs).1 := by
  obtain ⟨pool, last, sent, routed, states, run, idle, received⟩ := serves
  have ends := (WorkerPool.run_submit sent routed distinct run idle).2
  rw [states, received] at ends
  exact List.map_injective_iff.mpr (Option.some_injective _) ends

/-- A pool can always serve distinct jobs. -/
theorem poolServes_inOrder (drivers : Drivers) (shown : ScalarValue → String)
    (sources : Sources) {jobs : List Job} (distinct : jobs.Nodup)
    : PoolServes drivers shown sources jobs
        (WorkerPool.serveInOrder workerOf (runJob drivers shown sources.catalogs)
          sources.workers jobs).1 := by
  let pool : WorkerPool.Pool Nat Job (NameMap Target) Reply :=
    { unsent := [], queues := fun _ => [], states := sources.workers, replies := fun _ => none }
  have routed : pool.Routed workerOf := by
    intro worker job member
    cases member
  have states
      : pool.lastState workerOf (runJob drivers shown sources.catalogs) = sources.workers := rfl
  obtain ⟨last, run, idle⟩
      : ∃ last,
          Relation.ReflTransGen
              (WorkerPool.Step workerOf (runJob drivers shown sources.catalogs))
              (pool.submit jobs) last
            ∧ last.Idle :=
    WorkerPool.exists_run_idle jobs rfl (fun _ => rfl)
  refine ⟨pool, last, rfl, routed, states, run, idle, ?_⟩
  have ends := (WorkerPool.run_submit rfl routed distinct run idle).2
  rw [states] at ends
  exact ends

end Turns

/-- The replies that a parallel read can receive: the pages are asked for and split, and the
pool serves the ranges in some order.
-/
def Receives (drivers : Drivers) (shown : ScalarValue → String) (name : String)
    (source : TableRef) (list : SelectList) (partitions : Nat) (whereClause : Option SqlExpr)
    (sources : Sources) (replies : List Reply)
    : Prop :=
  ∃ found pages paged ranges,
    sources.registry.lookup name = some found
      ∧ found.kind = .postgres
      ∧ relpages drivers shown name source.schema source.table sources = (.ok pages, paged)
      ∧ ctidRanges pages partitions = .ok ranges
      ∧ PoolServes drivers shown paged
          (partitionJobs name found paged.clock list source whereClause ranges) replies

/-- Pages are counted in 32 bits. -/
theorem relpagesOf_le {table : String} {batches : List RecordBatch} {pages : Nat}
    (counted : relpagesOf table batches = .ok pages)
    : pages ≤ u32Max := by
  induction batches with
  | nil => cases counted
  | cons batch rest ih =>
      unfold relpagesOf at counted
      split at counted
      · obtain ⟨column, _, cast⟩ := Except.bind_eq_ok.mp counted
        split at cast
        · cases cast
          simp only [u32Max]
          omega
        · cases cast
      · exact ih counted

theorem runJobs_apply {drivers : Drivers} {shown : ScalarValue → String} (jobs : List Job)
    (sources : Sources)
    : runJobs drivers shown jobs sources
      = (.ok
            (WorkerPool.serveInOrder workerOf (runJob drivers shown sources.catalogs)
              sources.workers jobs).1,
          (runJobs drivers shown jobs sources).2) :=
  rfl

/-- Asking for the pages leaves the workers and the tables as they are. -/
theorem relpages_frame {drivers : Drivers} {shown : ScalarValue → String} {name table : String}
    {schema : Option String} {sources paged : Sources} {pages : Nat}
    (counted : relpages drivers shown name schema table sources = (.ok pages, paged))
    : pages ≤ u32Max ∧ paged.workers = sources.workers ∧ paged.catalogs = sources.catalogs := by
  obtain ⟨answer, reached, fetched, counts⟩ := Proc.bind_eq_ok.mp counted
  have frame : AnsweredLast (fun _ => True) name sources reached :=
    (leads_fetch (relpagesSql schema table) trivial).after answer reached fetched
  rw [Proc.lift_apply] at counts
  obtain ⟨counted', same⟩ := Prod.mk.inj counts
  subst same
  exact ⟨relpagesOf_le counted', frame.workers, frame.catalogs⟩

/-- A Postgres database with two pages of `public.t`. -/
def twoPages : Sources :=
  .new [("pg", { kind := .postgres, uri := "db", adbcDriver := some "driver" })] (fun _ =>
    {
      searchPath := ["public"]
      tables := [(("public", "t"), intHeap "v" [(0, 1), (1, 2), (7, 3)])]
    })

/-- Drivers that report two pages of every table. -/
def twoPageDrivers : Drivers :=
  (intMeaning (fun _ _ _ => intHeap "v" [])).drivers (fun _ => intBatches "n" [2])

end Fedqrs
