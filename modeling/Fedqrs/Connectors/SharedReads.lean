import Fedqrs.Connectors.Parallel
import Fedqrs.Library.SharedPoolRuns

/-! Parallel reads of several threads at once. The reader threads and their connections belong
to the process, so the jobs of all reads go through one pool.
-/

namespace Fedqrs

/-- A parallel read, once it has found its datasource and split the table's pages: the driver
call of its first job, and what it reads.
-/
structure ParallelRead where
  name : String
  found : DsSpec
  call : Nat
  list : SelectList
  source : TableRef
  whereClause : Option SqlExpr
  ranges : List (Nat × Nat)

def ParallelRead.jobs (read : ParallelRead) : List Job :=
  partitionJobs read.name read.found read.call read.list read.source read.whereClause
    read.ranges

/-- A worker answers a failed query with the failure, at which the reader gives up. -/
def Reply.Fails (reply : Reply) : Prop := ∃ failure, reply.result = .error failure

/-- The pool, with the reads that go through it. -/
abbrev ReadPool (R : Type) : Type := SharedPool.Pool R Nat (NameMap Target) Reply

section Pool

variable {R : Type} [DecidableEq R] (drivers : Drivers) (shown : ScalarValue → String)
  (catalogs : Database → Catalog) (reads : R → ParallelRead)

/-- A step of one of the reads, which are sending their jobs or receiving replies, or of one of
the workers.
-/
def PoolStep : ReadPool R → ReadPool R → Prop :=
  SharedPool.Step (fun read => (reads read).jobs) workerOf (runJob drivers shown catalogs)
    Reply.Fails

/-- The pool after some steps, from the start of the process, when no worker has connections. -/
def PoolRun (count : Nat) (pool : ReadPool R) : Prop :=
  SharedPool.Run (fun read => (reads read).jobs) workerOf (runJob drivers shown catalogs)
    Reply.Fails (.start (fun _ => ∅)) count pool

end Pool

/-- What a read that has ended returns: its replies gathered, or the first failure among them,
or the failure of a channel whose worker is gone.
-/
inductive Returns {R : Type} (shown : ScalarValue → String) (pool : ReadPool R) (read : R)
    : Except PyErr Batches → Prop
  | complete {replies : List Reply} (ended : pool.ended read = some .complete)
    (received
      : List.Forall₂ (fun place reply => pool.channels (read, place) = .reply reply)
          (List.range (pool.received read)) replies)
    : Returns shown pool read (gatherReplies shown replies)
  | stopped {reply : Reply} {failure : String} (ended : pool.ended read = some .stopped)
    (received : pool.channels (read, pool.received read) = .reply reply)
    (failed : reply.result = .error failure)
    : Returns shown pool read (.error failure)
  | gone (ended : pool.ended read = some .gone)
    : Returns shown pool read (.error "parallel worker gone")
  | dropped (ended : pool.ended read = some .dropped)
    : Returns shown pool read (.error "parallel worker dropped its reply")

end Fedqrs
