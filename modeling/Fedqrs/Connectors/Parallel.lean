import Fedqrs.Connectors.Fetch
import Fedqrs.Core.Partition
import Fedqrs.Library.WorkerPool

/-! The parallel read of a Postgres table: its page ranges are read by a fixed pool of
workers, each with connections of its own, and concatenated in range order.
-/

namespace Fedqrs

def parallelWorkers : Nat := 8

/-- A partition read for a worker to run: which range it is, and which driver call. -/
structure Job where
  index : Nat
  call : Nat
  name : String
  spec : DsSpec
  sql : Sql

/-- What a worker sends back, with the read it ran for it. -/
structure Reply where
  events : List Event
  result : Except String Batches

section Workers

variable (drivers : Drivers) (shown : ScalarValue → String) (catalogs : Database → Catalog)

/-- Run a job's query on a connection opened for a target. -/
def answerJob (target : Target) (job : Job) : Reply :=
  let session := Session.fresh target
  let answer := drivers.query job.call (catalogs target.database) session job.sql
  {
    events := [.read job.name session job.sql answer]
    result := answer.mapError Failure.adbc >>= normalizeAnswer shown
  }

/-- Serve a job on the worker's connection under its name, opened if there is none. -/
def runJob (conns : NameMap Target) (job : Job) : Reply × NameMap Target :=
  match conns.lookup job.name with
  | some target => (answerJob drivers shown catalogs target job, conns)
  | none =>
      match openPg drivers job.call job.spec with
      | .error failure => ({ events := [], result := .error failure }, conns)
      | .ok () =>
          (answerJob drivers shown catalogs job.spec.target job,
            conns.insert job.name job.spec.target)

/-- The worker of a job. -/
def workerOf (job : Job) : Nat := job.index % parallelWorkers

end Workers

/-- One job for each range. -/
def partitionJobs (name : String) (found : DsSpec) (call : Nat) (list : SelectList)
    (source : TableRef) (whereClause : Option SqlExpr) (ranges : List (Nat × Nat))
    : List Job :=
  ranges.mapIdx (fun index range =>
    {
      index
      call := call + index
      name
      spec := found
      sql := ctidSql list source range whereClause
    })

/-- The jobs of a parallel read are all for its datasource. -/
theorem partitionJobs_mem {name : String} {found : DsSpec} {call : Nat} {list : SelectList}
    {source : TableRef} {whereClause : Option SqlExpr} {ranges : List (Nat × Nat)} {job : Job}
    (member : job ∈ partitionJobs name found call list source whereClause ranges)
    : job.name = name ∧ job.spec = found := by
  obtain ⟨index, _, rfl⟩ := List.mem_mapIdx.mp member
  exact ⟨rfl, rfl⟩

/-- The jobs ask for the ranges, in their order. -/
theorem partitionJobs_forall₂ (name : String) (found : DsSpec) (call : Nat) (list : SelectList)
    (source : TableRef) (whereClause : Option SqlExpr) (ranges : List (Nat × Nat))
    : List.Forall₂ (fun job range => job.sql = ctidSql list source range whereClause)
        (partitionJobs name found call list source whereClause ranges) ranges := by
  rw [List.forall₂_iff_get]
  refine ⟨by simp [partitionJobs], ?_⟩
  intro index inside other
  simp [partitionJobs]

section ParallelRead

variable (drivers : Drivers) (shown : ScalarValue → String)

/-- Run jobs on the workers. They are served one after the other here, which no other order
of turns can be told from.
-/
def runJobs (jobs : List Job) : SourceM (List Reply) := fun sources =>
  let served :=
    WorkerPool.serveInOrder workerOf (runJob drivers shown sources.catalogs) sources.workers jobs
  (.ok served.1,
    {
      sources with
      workers := served.2
      clock := sources.clock + jobs.length
      log := sources.log ++ served.1.flatMap Reply.events
    })

/-- Receive the replies in range order; the first failure is the result's. -/
def gatherReplies (replies : List Reply) : Except PyErr Batches := do
  let partitions ← replies.mapM Reply.result
  gatherPartitions shown partitions

/-- Read a select list from a Postgres table with page-partitioned reads. -/
def fetchParallel (name : String) (source : TableRef) (list : SelectList) (partitions : Nat)
    (whereClause : Option SqlExpr)
    : SourceM Batches := do
  let found ← spec name
  if found.kind = .postgres then do
    let pages ← relpages drivers shown name source.schema source.table
    let ranges ← Proc.lift (ctidRanges pages partitions)
    let sources ← Proc.get
    let replies ←
      runJobs drivers shown
        (partitionJobs name found sources.clock list source whereClause ranges)
    Proc.lift (gatherReplies shown replies)
  else
    Proc.fail "parallel fetch is Postgres-only"

end ParallelRead

end Fedqrs
