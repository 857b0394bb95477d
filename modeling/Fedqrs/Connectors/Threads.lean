import Fedqrs.Connectors.Native
import Fedqrs.Engine.Probe
import Fedqrs.Library.Interference

/-! Query threads. Each one has Postgres connections and pinned DuckDB connections of its own;
the registry, the open instances, the workers and the index verdicts belong to the process.
-/

namespace Fedqrs

open Interference

/-- What a query thread has of its own. -/
structure Locals where
  pgCache : NameMap Session
  pinnedDuck : NameMap Session

def Sources.locals (sources : Sources) : Locals :=
  { pgCache := sources.pgCache, pinnedDuck := sources.pinnedDuck }

/-- The same process as seen from a thread with these locals. -/
def Sources.seenBy (sources : Sources) (own : Locals) : Sources :=
  { sources with pgCache := own.pgCache, pinnedDuck := own.pinnedDuck }

/-- The state that threads share, with whatever locals, and the locals of each thread. -/
structure Process (I : Type) where
  sources : Sources
  locals : I → Locals

/-- A call of a connector operation by the engine. -/
inductive ConnectorCall
  | kind (name : String)
  | fetch (name : String) (sql : Sql)
  | fetchParallel (name : String) (source : TableRef) (list : SelectList) (partitions : Nat)
      (whereClause : Option SqlExpr)
  | fetchTempJoin (name tempTable : String) (keys : Batches) (joinSql : Sql)
  | columnHasIndex (name : String) (schema : Option String) (table column : String)
  | estimateSelectivity (name : String) (schema : Option String) (table column : String)
      (numKeys : Nat)
  | shipTable (name table : String) (rows : Batches)
  | clearShipments

/-- The sources after a call. -/
def ConnectorCall.after (connectors : Connectors Sources Batches)
    : ConnectorCall → Sources → Sources
  | .kind name, sources => (connectors.kind name sources).2
  | .fetch name sql, sources => (connectors.fetch name sql sources).2
  | .fetchParallel name source list partitions whereClause, sources =>
      (connectors.fetchParallel name source list partitions whereClause sources).2
  | .fetchTempJoin name tempTable keys joinSql, sources =>
      (connectors.fetchTempJoin name tempTable keys joinSql sources).2
  | .columnHasIndex name schema table column, sources =>
      (connectors.columnHasIndex name schema table column sources).2
  | .estimateSelectivity name schema table column numKeys, sources =>
      (connectors.estimateSelectivity name schema table column numKeys sources).2
  | .shipTable name table rows, sources => (connectors.shipTable name table rows sources).2
  | .clearShipments, sources => connectors.clearShipments sources

/-- A process that has started: some datasources are registered, and nothing is open. -/
def Sources.fresh (registry : NameMap DsSpec) (catalogs : Database → Catalog) : Sources :=
  {
    registry
    pgCache := ∅
    pinnedDuck := ∅
    duckInstances := []
    parquetContexts := []
    workers := fun _ => ∅
    verdicts := ∅
    catalogs
    clock := 0
    log := []
  }

section Threads

variable {I : Type} [DecidableEq I]

def Process.fresh (registry : NameMap DsSpec) (catalogs : Database → Catalog) : Process I :=
  { sources := .fresh registry catalogs, locals := fun _ => { pgCache := ∅, pinnedDuck := ∅ } }

/-- The sources as a thread sees them. -/
def Process.view (process : Process I) (thread : I) : Sources :=
  process.sources.seenBy (process.locals thread)

/-- The process after a thread has left the sources so. -/
def Process.put (process : Process I) (thread : I) (sources : Sources) : Process I :=
  { sources, locals := Function.update process.locals thread sources.locals }

@[simp]
theorem Process.view_put (process : Process I) (thread : I) (sources : Sources)
    : (process.put thread sources).view thread = sources := by
  simp [Process.view, Process.put, Sources.seenBy, Sources.locals]

/-- Another thread sees what is shared, and has its own locals. -/
theorem Process.view_put_of_ne (process : Process I) {thread other : I} (sources : Sources)
    (distinct : other ≠ thread)
    : (process.put thread sources).view other
      = sources.seenBy (process.view other).locals := by
  simp [Process.view, Process.put, Sources.seenBy, Sources.locals, distinct]

variable (connectors : Connectors Sources Batches)

/-- A thread makes a call. -/
def Process.call (made : I × ConnectorCall) (process : Process I) : Process I :=
  process.put made.1 (made.2.after connectors (process.view made.1))

/-- A thread's own operation, on the whole process. -/
def onThread {α : Type} (thread : I) (action : SourceM α) : Proc (Process I) PyErr α :=
  Proc.zoom (fun process => process.view thread) (fun sources process => process.put thread sources)
    action

/-- A thread's operation, after the next calls of the other threads. -/
def amid {α : Type} (thread : I) (action : SourceM α)
    : Proc (Scheduled (Process I) (I × ConnectorCall)) PyErr α :=
  interrupted (Process.call connectors) (onThread thread action)

/-- A thread's connectors, with calls of other threads between its own. -/
def busyConnectors (thread : I)
    : Connectors (Scheduled (Process I) (I × ConnectorCall)) Batches where
  kind name := amid connectors thread (connectors.kind name)
  fetch name sql := amid connectors thread (connectors.fetch name sql)
  fetchParallel name source list partitions whereClause :=
    amid connectors thread (connectors.fetchParallel name source list partitions whereClause)
  fetchTempJoin name tempTable keys joinSql :=
    amid connectors thread (connectors.fetchTempJoin name tempTable keys joinSql)
  columnHasIndex name schema table column :=
    amid connectors thread (connectors.columnHasIndex name schema table column)
  estimateSelectivity name schema table column numKeys :=
    amid connectors thread (connectors.estimateSelectivity name schema table column numKeys)
  shipTable name table rows := amid connectors thread (connectors.shipTable name table rows)
  clearShipments scheduled :=
    {
      scheduled with
      state :=
        scheduled.state.put thread (connectors.clearShipments (scheduled.state.view thread))
    }

end Threads

end Fedqrs
