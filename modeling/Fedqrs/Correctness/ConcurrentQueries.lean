import Fedqrs.Connectors.ViewedCalls
import Fedqrs.Semantics.ReferenceEngine
import Fedqrs.Semantics.Uniform

/-! Queries on several threads of a process: what a query returns does not depend on the calls
that the other threads have made before it or make meanwhile.
-/

namespace Fedqrs

open Interference

section Calls

variable (drivers : Drivers) (shown : ScalarValue → String) (deployment : Deployment)

/-- The kinds of the registered datasources. -/
def Deployment.kinds (name : String) : Option DsKind :=
  (deployment.registry.lookup name).map DsSpec.kind

/-- A shipment that replaces no permanent table. -/
def Deployment.Ships (_ table : String) : Prop :=
  ∀ database, (deployment.catalogs database).schemaOf database.kind table = none

/-- A call of a query: only the keys are ingested for a semi-join, only a Postgres datasource is
asked for an index, and a shipment replaces no permanent table.
-/
def ConnectorCall.Harmless : ConnectorCall → Prop
  | .fetchTempJoin _ tempTable _ _ => tempTable = dynKeysTempTable
  | .columnHasIndex name schema table _ =>
      Askable name schema table ∧ deployment.kinds name = some .postgres
  | .shipTable name table _ => deployment.Ships name table
  | .kind _ | .fetch _ _ | .fetchParallel _ _ _ _ _ | .estimateSelectivity _ _ _ _ _
  | .clearShipments => True

variable {drivers shown deployment}

/-- After computations that answer alike the states are seen alike. -/
theorem Oblivious.viewed {α : Type} {post : α → Prop} {action : SourceM α}
    (oblivious : Oblivious drivers shown deployment post action) {left right : Sources}
    (viewed : Viewed drivers shown deployment left right)
    : Viewed drivers shown deployment (action left).2 (action right).2 := by
  rcases (oblivious left right viewed).elim with
    ⟨_, _, _, _, ranLeft, ranRight, _, next⟩ | ⟨_, _, _, ranLeft, ranRight, next⟩
  · rw [ranLeft, ranRight]
    exact next
  · rw [ranLeft, ranRight]
    exact next

/-- A call leaves states as alike as it finds them, by cases on the call. -/
theorem ConnectorCall.after_viewed (steady : drivers.Steady) {call : ConnectorCall}
    (harmless : call.Harmless deployment) {left right : Sources}
    (viewed : Viewed drivers shown deployment left right)
    : Viewed drivers shown deployment (call.after (nativeConnectors drivers shown) left)
        (call.after (nativeConnectors drivers shown) right) := by
  cases call with
  | kind name => exact (kind_oblivious name).viewed viewed
  | fetch name sql => exact (fetch_oblivious steady name sql).viewed viewed
  | fetchParallel name source list partitions whereClause =>
      exact (fetchParallel_oblivious steady name source list partitions whereClause).viewed viewed
  | fetchTempJoin name tempTable keys joinSql =>
      cases harmless
      exact (fetchTempJoin_oblivious steady name keys joinSql).viewed viewed
  | columnHasIndex name schema table column =>
      obtain ⟨askable, postgres⟩ := harmless
      obtain ⟨found, registered, isPostgres⟩ := Option.map_eq_some_iff.mp postgres
      exact (columnHasIndex_oblivious steady registered isPostgres askable column).viewed viewed
  | estimateSelectivity name schema table column numKeys =>
      exact (estimateSelectivity_oblivious steady name schema table column numKeys).viewed viewed
  | shipTable name table rows =>
      exact (shipTable_oblivious steady name harmless rows).viewed viewed
  | clearShipments => exact viewed.cleared

/-- The shared part of one settled state with the locals of another. -/
theorem Settled.seenBy {sources other : Sources}
    (settled : Settled drivers shown deployment sources)
    (own : Settled drivers shown deployment other)
    : Settled drivers shown deployment (sources.seenBy other.locals) :=
  ⟨settled.registry, settled.catalogs, settled.instances, settled.contexts, own.pooled,
    settled.workers, settled.verdicts⟩

/-- At the start nothing is open. -/
theorem settled_fresh
    : Settled drivers shown deployment (.fresh deployment.registry deployment.catalogs) where
  registry := rfl
  catalogs := rfl
  instances path inside := by cases inside
  contexts dir inside := by cases inside
  pooled name session cached := by cases cached
  workers worker name target held := by cases held
  verdicts name schema table column verdict _ cached := by cases cached

end Calls

-----------------------------------------------------------------------------------------
-- Threads
-----------------------------------------------------------------------------------------

section Threads

variable {I τ : Type} [DecidableEq I] {drivers : Drivers} {shown : ScalarValue → String}
  {deployment : Deployment}

/-- The process is seen by each of its threads in a state that calls lead to, and by the thread
as these sources are.
-/
structure Alongside (drivers : Drivers) (shown : ScalarValue → String)
    (deployment : Deployment) (thread : I) (sources : Sources) (process : Process I)
    : Prop where
  viewed : Viewed drivers shown deployment sources (process.view thread)
  settled : ∀ other, Settled drivers shown deployment (process.view other)

/-- A thread leaves the others in states that calls lead to. -/
theorem settled_put {process : Process I}
    (settled : ∀ other, Settled drivers shown deployment (process.view other)) {thread : I}
    {sources : Sources} (after : Settled drivers shown deployment sources) (other : I)
    : Settled drivers shown deployment ((process.put thread sources).view other) := by
  by_cases same : other = thread
  · subst same
    rw [Process.view_put]
    exact after
  · rw [Process.view_put_of_ne process sources same]
    exact after.seenBy (settled other)

/-- Locals that are the same are seen alike, whatever is shared. -/
theorem viewed_seenBy {sources other : Sources}
    (settled : Settled drivers shown deployment sources)
    (own : Settled drivers shown deployment other)
    : Viewed drivers shown deployment other (sources.seenBy other.locals) :=
  ⟨own, settled.seenBy own, fun _ _ _ => rfl, rfl⟩

/-- A call of another thread is not seen. -/
theorem Alongside.call_unseen (steady : drivers.Steady) {thread : I} {sources : Sources}
    {process : Process I} (alongside : Alongside drivers shown deployment thread sources process)
    {made : I × ConnectorCall} (harmless : made.2.Harmless deployment)
    (others : made.1 ≠ thread)
    : Alongside drivers shown deployment thread sources
        (process.call (nativeConnectors drivers shown) made) := by
  have after := (made.2.after_viewed steady harmless
    (Viewed.refl (alongside.settled made.1))).settledRight
  refine ⟨alongside.viewed.trans ?_, settled_put alongside.settled after⟩
  unfold Process.call
  rw [Process.view_put_of_ne process _ (Ne.symm others)]
  exact viewed_seenBy after (alongside.settled thread)

/-- A call of the thread itself is made alike. -/
theorem Alongside.call_seen (steady : drivers.Steady) {thread : I} {sources : Sources}
    {process : Process I} (alongside : Alongside drivers shown deployment thread sources process)
    {call : ConnectorCall} (harmless : call.Harmless deployment)
    : Alongside drivers shown deployment thread
        (call.after (nativeConnectors drivers shown) sources)
        (process.call (nativeConnectors drivers shown) (thread, call)) := by
  have after := call.after_viewed steady harmless alongside.viewed
  refine ⟨?_, settled_put alongside.settled after.settledRight⟩
  unfold Process.call
  rw [Process.view_put]
  exact after

/-- What other threads' calls of queries are. -/
def OthersHarmless (deployment : Deployment) (thread : I) (made : I × ConnectorCall) : Prop :=
  made.1 ≠ thread ∧ made.2.Harmless deployment

/-- A process with calls of other threads to come is alongside these sources. -/
def Amid (drivers : Drivers) (shown : ScalarValue → String) (deployment : Deployment)
    (thread : I) (sources : Sources) (scheduled : Scheduled (Process I) (I × ConnectorCall))
    : Prop :=
  Alongside drivers shown deployment thread sources scheduled.state
    ∧ scheduled.Fine (OthersHarmless deployment thread)

/-- An operation that answers alike does so amid the calls of other threads. -/
theorem Oblivious.amid {α : Type} {post : α → Prop} {action : SourceM α}
    (steady : drivers.Steady) (oblivious : Oblivious drivers shown deployment post action)
    (thread : I)
    : TwinReads (Amid drivers shown deployment thread) (fun a b => a = b ∧ post a) action
        (Fedqrs.amid (nativeConnectors drivers shown) thread action) := by
  refine interrupted_lockstep ?_ ?_
  · rintro made sources process ⟨others, harmless⟩ alongside
    exact alongside.call_unseen steady harmless others
  · intro sources process alongside
    unfold onThread
    rw [Proc.zoom_apply]
    rcases (oblivious _ _ alongside.viewed).elim with
      ⟨_, _, _, reached, ranLeft, ranRight, same, next⟩
        | ⟨_, _, reached, ranLeft, ranRight, next⟩
    · rw [ranLeft, ranRight]
      refine ⟨same, ?_, settled_put alongside.settled next.settledRight⟩
      rw [Process.view_put]
      exact next
    · rw [ranLeft, ranRight]
      refine ⟨rfl, ?_, settled_put alongside.settled next.settledRight⟩
      rw [Process.view_put]
      exact next

theorem Oblivious.amid_eq {α : Type} {action : SourceM α} (steady : drivers.Steady)
    (oblivious : Oblivious drivers shown deployment (fun _ => True) action) (thread : I)
    : TwinReads (Amid drivers shown deployment thread) Eq action
        (Fedqrs.amid (nativeConnectors drivers shown) thread action) := by
  intro sources scheduled amid
  rcases (oblivious.amid steady thread sources scheduled amid).elim with
    ⟨_, _, _, _, ranLeft, ranRight, ⟨rfl, _⟩, next⟩ | ⟨_, _, _, ranLeft, ranRight, next⟩
  · rw [ranLeft, ranRight]
    exact ⟨rfl, next⟩
  · rw [ranLeft, ranRight]
    exact ⟨rfl, next⟩

/-- A thread's connectors answer alike amid the calls of other threads. -/
theorem busyConnectors_uniform (steady : drivers.Steady) (thread : I)
    : Uniform deployment.kinds (fun name schema table _ => Askable name schema table)
        deployment.Ships (Amid drivers shown deployment thread)
        (nativeConnectors drivers shown)
        (busyConnectors (nativeConnectors drivers shown) thread) where
  kind name := (kind_oblivious name).amid steady thread
  fetch name sql := (fetch_oblivious steady name sql).amid_eq steady thread
  fetchParallel name table list partitions clause :=
    (fetchParallel_oblivious steady name table list partitions clause).amid_eq steady thread
  fetchTempJoin name keys sql :=
    (fetchTempJoin_oblivious steady name keys sql).amid_eq steady thread
  columnHasIndex name schema table column postgres askable := by
    obtain ⟨found, registered, isPostgres⟩ := Option.map_eq_some_iff.mp postgres
    exact (columnHasIndex_oblivious steady registered isPostgres askable column).amid_eq steady
      thread
  estimateSelectivity name schema table column numKeys :=
    (estimateSelectivity_oblivious steady name schema table column numKeys).amid_eq steady thread
  shipTable name table rows absent :=
    (shipTable_oblivious steady name absent rows).amid_eq steady thread
  clearShipments := by
    rintro sources scheduled ⟨alongside, fine⟩
    have next := alongside.viewed.cleared
    refine ⟨⟨?_, settled_put alongside.settled next.settledRight⟩, fine⟩
    rw [busyConnectors, Process.view_put]
    exact next

/-- Two processes that a thread sees alike. -/
def SeenAlike (drivers : Drivers) (shown : ScalarValue → String) (deployment : Deployment)
    (thread : I) (left right : Process I)
    : Prop :=
  Alongside drivers shown deployment thread (right.view thread) left
    ∧ ∀ other, Settled drivers shown deployment (right.view other)

/-- What a process went through is seen as the thread's own calls alone. -/
theorem history_purged (steady : drivers.Steady) (thread : I)
    {history : List (I × ConnectorCall)}
    (harmless : ∀ made ∈ history, made.2.Harmless deployment)
    : SeenAlike drivers shown deployment thread
        (afterAll (Process.call (nativeConnectors drivers shown)) history
          (.fresh deployment.registry deployment.catalogs))
        (afterAll (Process.call (nativeConnectors drivers shown))
          (history.filter (fun made => made.1 = thread))
          (.fresh deployment.registry deployment.catalogs)) := by
  have fresh : Settled drivers shown deployment
      (.fresh deployment.registry deployment.catalogs) :=
    settled_fresh
  refine afterAll_purged ?_ ?_ harmless ⟨⟨.refl fresh, fun _ => fresh⟩, fun _ => fresh⟩
  · rintro made left right harmless other ⟨alongside, settled⟩
    exact ⟨alongside.call_unseen steady harmless (of_decide_eq_false other), settled⟩
  · rintro ⟨caller, call⟩ left right harmless own ⟨alongside, settled⟩
    cases of_decide_eq_true own
    have seen := alongside.call_seen steady harmless
    have after := (call.after_viewed steady harmless
      (Viewed.refl (settled caller))).settledRight
    refine ⟨?_, settled_put settled after⟩
    unfold Process.call at seen ⊢
    rw [Process.view_put _ _ (call.after _ (right.view caller))]
    exact seen

/-- A query returns what it would if the other threads of the process had never made a call:
neither those before it nor those that they make meanwhile, between the query's own, change its
result.
-/
theorem execute_undisturbed (engine : Engine τ Batches) (drivers : Drivers)
    (shown : ScalarValue → String) (deployment : Deployment) (steady : drivers.Steady)
    (thread : I) {history : List (I × ConnectorCall)}
    (past : ∀ made ∈ history, made.2.Harmless deployment)
    {interludes : List (List (I × ConnectorCall))}
    (meanwhile : ∀ calls ∈ interludes, ∀ made ∈ calls,
      made.1 ≠ thread ∧ made.2.Harmless deployment)
    {ir : Ir}
    (fits : ∀ step ∈ ir.steps,
      step.Fits (fun name schema table _ => Askable name schema table) deployment.Ships)
    : (execute (engine.on (busyConnectors (nativeConnectors drivers shown) thread)) ir
          {
            state :=
              afterAll (Process.call (nativeConnectors drivers shown)) history
                (.fresh deployment.registry deployment.catalogs)
            interludes
          }).1
      = (execute (engine.on (nativeConnectors drivers shown)) ir
          ((afterAll (Process.call (nativeConnectors drivers shown))
              (history.filter (fun made => made.1 = thread))
              (.fresh deployment.registry deployment.catalogs)).view thread)).1 := by
  have seen := (@history_purged I _ drivers shown deployment steady thread history past).1
  have uniform : Uniform deployment.kinds (fun name schema table _ => Askable name schema table)
      deployment.Ships (Amid drivers shown deployment thread)
      (engine.on (nativeConnectors drivers shown)).connectors
      (busyConnectors (nativeConnectors drivers shown) thread) :=
    busyConnectors_uniform steady thread
  have ran := uniform.execute fits _ { state := _, interludes } ⟨seen, meanwhile⟩
  rcases ran.elim with
    ⟨_, _, _, _, ranLeft, ranRight, rfl, _⟩ | ⟨_, _, _, ranLeft, ranRight, _⟩
  · rw [ranLeft]
    exact congrArg Prod.fst ranRight
  · rw [ranLeft]
    exact congrArg Prod.fst ranRight

end Threads

theorem tableDrivers_steady : tableDrivers.Steady where
  openPg _ := rfl
  openDuck _ := rfl
  cloneDuck _ := rfl
  openParquet _ := rfl
  query _ := rfl
  drop _ := rfl
  create _ := rfl
  ingest _ := rfl
  indexed _ _ _ _ _ _ := rfl

/-- A DuckDB file with a table `dim` and a Postgres database with a table `facts`. -/
def sharedDeployment : Deployment where
  registry :=
    AList.insert "duck" { kind := .duckDb, uri := "d.db", adbcDriver := none }
      (AList.insert "pg" { kind := .postgres, uri := "db", adbcDriver := some "driver" } ∅)
  catalogs database :=
    match database.kind with
    | .duckDb =>
        { searchPath := ["main"], tables := [(("main", "dim"), intHeap "v" [(0, 1)])] }
    | .postgres =>
        { searchPath := ["public"], tables := [(("public", "facts"), intHeap "v" [(0, 2)])] }
    | .parquet => .empty
  unshadowed database := by cases database.kind <;> decide

/-- Ship the rows of `dim` as `built`, read that back, and ask Postgres for its values as keys. -/
def shipJoinPlan : Ir where
  outputs := []
  steps :=
    [.sourceScan "duck" { table := some "dim", columns := ["v"] } "x" true,
      .ship "duck" "x" "built",
      .sourceScan "duck" { rawSql := some "built" } "z" true,
      .collectDistinct "z" "v" 10 "k",
      .injectedScan "pg" { rawSql := some "facts", injectedSql := some "fedq_dyn_keys" } "v" "k" "y"
        none [],
      .return "y"]
  fragments := ∅

/-- Another query ships rows of its own as `built`, and joins keys of its own on Postgres. -/
def otherQuery : List (Bool × ConnectorCall) :=
  [(false, .shipTable "duck" "BUILT" (intBatches "v" [7])),
    (false, .fetchTempJoin "pg" dynKeysTempTable (intBatches "v" [8, 9]) (.raw "facts"))]

/-- The other query goes before and between all calls of this one, which reads what it shipped and
joins its own keys.
-/
theorem execute_undisturbed_shipJoinPlan
    : ((execute
            ((referenceEngine tableDrivers).on
              (busyConnectors (nativeConnectors tableDrivers (fun _ => "")) true))
            shipJoinPlan
            {
              state :=
                afterAll (Process.call (nativeConnectors tableDrivers (fun _ => ""))) otherQuery
                  (.fresh sharedDeployment.registry sharedDeployment.catalogs)
              interludes := List.replicate 10 otherQuery
            }).1
        = (execute ((referenceEngine tableDrivers).on (nativeConnectors tableDrivers (fun _ => "")))
            shipJoinPlan (.fresh sharedDeployment.registry sharedDeployment.catalogs)).1)
      ∧ ∃ rows,
        (execute ((referenceEngine tableDrivers).on (nativeConnectors tableDrivers (fun _ => "")))
              shipJoinPlan (.fresh sharedDeployment.registry sharedDeployment.catalogs)).1
            = .ok rows
          ∧ rows.rows = [[.int64 1]] := by
  have harmless : ∀ made ∈ otherQuery, made.1 ≠ true ∧ made.2.Harmless sharedDeployment := by
    intro made member
    rcases List.mem_cons.mp member with rfl | last
    · refine ⟨by decide, ?_⟩
      intro database
      simp only [sharedDeployment]
      cases database.kind <;> decide
    · rcases List.mem_singleton.mp last with rfl
      exact ⟨by decide, rfl⟩
  refine ⟨?_, _, rfl, by decide⟩
  refine execute_undisturbed (referenceEngine tableDrivers) tableDrivers (fun _ => "")
    sharedDeployment tableDrivers_steady true (fun made member => (harmless made member).2) ?_ ?_
  · intro calls member made inside
    cases List.eq_of_mem_replicate member
    exact harmless made inside
  · intro step member
    simp only [shipJoinPlan, List.mem_cons, List.not_mem_nil, or_false] at member
    rcases member with rfl | rfl | rfl | rfl | rfl | rfl
    · trivial
    · intro database
      simp only [sharedDeployment]
      cases database.kind <;> decide
    · trivial
    · trivial
    · intro table structured
      cases structured
    · trivial

end Fedqrs
