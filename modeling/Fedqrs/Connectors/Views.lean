import Fedqrs.Connectors.Threads

/-! What a query thread can see of the connectors' state. Two states are seen alike when every
Postgres datasource has the same connection, open or to be opened, and the same DuckDB
connections are pinned; each connector operation answers alike on them, whatever the process has
open, pooled for workers or cached.
-/

namespace Fedqrs

open Interference

/-- Drivers that answer a call alike whenever it is made, and an index question about a table
alike on connections without a temp table of its name.
-/
structure Drivers.Steady (drivers : Drivers) : Prop where
  openPg : ∀ call, drivers.openPg call = drivers.openPg 0
  openDuck : ∀ call, drivers.openDuck call = drivers.openDuck 0
  cloneDuck : ∀ call, drivers.cloneDuck call = drivers.cloneDuck 0
  openParquet : ∀ call, drivers.openParquet call = drivers.openParquet 0
  query : ∀ call, drivers.query call = drivers.query 0
  drop : ∀ call, drivers.drop call = drivers.drop 0
  create : ∀ call, drivers.create call = drivers.create 0
  ingest : ∀ call, drivers.ingest call = drivers.ingest 0
  indexed : ∀ catalog session schema table column, session.temps.lookup table = none
    → drivers.query 0 catalog session (indexedSql schema table column)
      = drivers.query 0 catalog (.fresh session.target) (indexedSql schema table column)

/-- What stays as it is while queries run: the registered datasources and the databases, which
have no permanent table under the name of the keys' temp table.
-/
structure Deployment where
  registry : NameMap DsSpec
  catalogs : Database → Catalog
  unshadowed : ∀ database, (catalogs database).schemaOf database.kind dynKeysTempTable = none

/-- An index question whose cache key says what it asks. -/
structure Askable (name : String) (schema : Option String) (table : String) : Prop where
  plainName : '\x01' ∉ name.toList
  plainSchema : '\x01' ∉ (schema.getD "").toList
  plainTable : '\x01' ∉ table.toList
  named : schema ≠ some ""
  permanent : table ≠ dynKeysTempTable

section Views

variable (drivers : Drivers) (shown : ScalarValue → String) (deployment : Deployment)

/-- A connection that a thread may have under a name. -/
structure Connected (name : String) (session : Session) : Prop where
  opened : ∃ found, deployment.registry.lookup name = some found ∧ found.kind = .postgres
    ∧ openPg drivers 0 found = .ok () ∧ session.target = found.target
  temps : ∀ table, table ≠ dynKeysTempTable → session.temps.lookup table = none

/-- What the workers may have connections to. -/
def WorkersSettled (workers : Nat → NameMap Target) : Prop :=
  ∀ worker name target, (workers worker).lookup name = some target
    → ∃ found, deployment.registry.lookup name = some found
      ∧ openPg drivers 0 found = .ok () ∧ target = found.target

/-- The answer to a partition's query, whichever worker runs it on whatever connection. -/
def partitionAnswer (found : DsSpec) (sql : Sql) : Except String Batches := do
  openPg drivers 0 found
  (drivers.query 0 (deployment.catalogs found.database) (.fresh found.target) sql).mapError
      Failure.adbc
    >>= normalizeAnswer shown

/-- The answer to an index question. -/
def indexAnswer (found : DsSpec) (schema : Option String) (table column : String)
    : Except PyErr Bool := do
  let _ ← openPg drivers 0 found
  let answer ←
    (drivers.query 0 (deployment.catalogs found.database) (.fresh found.target)
      (indexedSql schema table column)).mapError Failure.adbc
  let normalized ← normalizeAnswer shown answer
  pure (normalized.batches.any (fun batch => 0 < batch.numRows))

/-- A state that calls of threads lead to. -/
structure Settled (sources : Sources) : Prop where
  registry : sources.registry = deployment.registry
  catalogs : sources.catalogs = deployment.catalogs
  instances : ∀ path ∈ sources.duckInstances, drivers.openDuck 0 path = .ok ()
  contexts : ∀ dir ∈ sources.parquetContexts, drivers.openParquet 0 dir = .ok ()
  pooled : ∀ name session, sources.pgCache.lookup name = some session
    → Connected drivers deployment name session
  workers : WorkersSettled drivers deployment sources.workers
  verdicts : ∀ name schema table column verdict, Askable name schema table
    → sources.verdicts.lookup (verdictKey name schema table column) = some verdict
    → ∃ found, deployment.registry.lookup name = some found
      ∧ indexAnswer drivers shown deployment found schema table column = .ok verdict.indexed

/-- The connection under a name, open or to be opened. -/
def sessionOf (sources : Sources) (name : String) (found : DsSpec) : Except PyErr Session :=
  match sources.pgCache.lookup name with
  | some session => .ok session
  | none => (openPg drivers 0 found).map (fun _ => .fresh found.target)

/-- Two states that a thread sees alike. -/
structure Viewed (left right : Sources) : Prop where
  settledLeft : Settled drivers shown deployment left
  settledRight : Settled drivers shown deployment right
  sessions : ∀ name found, deployment.registry.lookup name = some found
    → sessionOf drivers left name found = sessionOf drivers right name found
  pinned : left.pinnedDuck = right.pinnedDuck

/-- The computation answers alike on states that are seen alike, and leaves them so. -/
def Oblivious {α : Type} (post : α → Prop) (action : SourceM α) : Prop :=
  Proc.Lockstep (Viewed drivers shown deployment) (Viewed drivers shown deployment)
    (fun left right => left = right ∧ post left) action action

end Views

section Rules

variable {drivers : Drivers} {shown : ScalarValue → String} {deployment : Deployment}
  {α β : Type} {post : α → Prop}

theorem Viewed.refl {sources : Sources} (settled : Settled drivers shown deployment sources)
    : Viewed drivers shown deployment sources sources :=
  ⟨settled, settled, fun _ _ _ => rfl, rfl⟩

theorem Viewed.symm {left right : Sources} (viewed : Viewed drivers shown deployment left right)
    : Viewed drivers shown deployment right left :=
  ⟨viewed.settledRight, viewed.settledLeft,
    fun name found registered => (viewed.sessions name found registered).symm,
    viewed.pinned.symm⟩

theorem Viewed.trans {left middle right : Sources}
    (first : Viewed drivers shown deployment left middle)
    (second : Viewed drivers shown deployment middle right)
    : Viewed drivers shown deployment left right :=
  ⟨first.settledLeft, second.settledRight,
    fun name found registered =>
      (first.sessions name found registered).trans (second.sessions name found registered),
    first.pinned.trans second.pinned⟩

/-- The clock and the log are not seen. -/
theorem Settled.stamped {sources : Sources} (settled : Settled drivers shown deployment sources)
    (clock : Nat) (log : List Event)
    : Settled drivers shown deployment { sources with clock, log } :=
  ⟨settled.registry, settled.catalogs, settled.instances, settled.contexts, settled.pooled,
    settled.workers, settled.verdicts⟩

theorem Viewed.stamped {left right : Sources} (viewed : Viewed drivers shown deployment left right)
    (clock clock' : Nat) (log log' : List Event)
    : Viewed drivers shown deployment { left with clock, log }
        { right with clock := clock', log := log' } :=
  ⟨viewed.settledLeft.stamped clock log, viewed.settledRight.stamped clock' log', viewed.sessions,
    viewed.pinned⟩

/-- A value that is lifted. -/
theorem oblivious_lift {result : Except PyErr α} (holds : ∀ value, result = .ok value → post value)
    : Oblivious drivers shown deployment post (Proc.lift result) := by
  intro s t viewed
  cases result with
  | ok value => exact ⟨⟨rfl, holds value rfl⟩, viewed⟩
  | error failure => exact ⟨rfl, viewed⟩

theorem oblivious_pure {value : α} (holds : post value)
    : Oblivious drivers shown deployment post (pure value) :=
  Proc.Lockstep.pure ⟨rfl, holds⟩

theorem oblivious_fail (failure : PyErr)
    : Oblivious drivers shown deployment post (Proc.fail failure) :=
  Proc.Lockstep.fail (fun _ _ viewed => viewed) failure

theorem Oblivious.bind {before : α → Prop} {after : β → Prop} {action : SourceM α}
    {next : α → SourceM β} (head : Oblivious drivers shown deployment before action)
    (tail : ∀ value, before value → Oblivious drivers shown deployment after (next value))
    : Oblivious drivers shown deployment after (action >>= next) := by
  refine Proc.Lockstep.bind head ?_
  rintro value _ ⟨rfl, holds⟩
  exact tail value holds

/-- What the number of a call does not change. -/
theorem oblivious_ticket {next : Nat → SourceM α} (steady : ∀ call, next call = next 0)
    (tail : Oblivious drivers shown deployment post (next 0))
    : Oblivious drivers shown deployment post (ticket >>= next) := by
  intro s t viewed
  change Proc.Alike _ _ _ (next s.clock _) (next t.clock _)
  rw [steady s.clock, steady t.clock]
  exact tail _ _ (viewed.stamped _ _ _ _)

theorem oblivious_record (event : Event)
    : Oblivious drivers shown deployment (fun _ => True) (record event) :=
  fun _ _ viewed => ⟨⟨rfl, trivial⟩, viewed.stamped _ _ _ _⟩

/-- A computation that leaves the state as it is seen, with an answer that is. -/
theorem Oblivious.of_answer {action : SourceM α} (answer : Sources → Except PyErr α)
    (answers : ∀ sources, Settled drivers shown deployment sources
      → ∃ after, action sources = (answer sources, after)
          ∧ Viewed drivers shown deployment sources after
          ∧ ∀ value, answer sources = .ok value → post value)
    (seen : ∀ left right, Viewed drivers shown deployment left right
      → answer left = answer right)
    : Oblivious drivers shown deployment post action := by
  intro s t viewed
  obtain ⟨s', ranLeft, keptLeft, holds⟩ := answers s viewed.settledLeft
  obtain ⟨t', ranRight, keptRight, _⟩ := answers t viewed.settledRight
  have next := keptLeft.symm.trans (viewed.trans keptRight)
  rw [ranLeft, ranRight, ← seen s t viewed]
  cases outcome : answer s with
  | ok value => exact ⟨⟨rfl, holds value outcome⟩, next⟩
  | error failure => exact ⟨rfl, next⟩

end Rules

-----------------------------------------------------------------------------------------
-- Connections
-----------------------------------------------------------------------------------------

section Connections

variable {drivers : Drivers} {shown : ScalarValue → String} {deployment : Deployment}

theorem spec_oblivious (name : String)
    : Oblivious drivers shown deployment
        (fun found => deployment.registry.lookup name = some found) (spec name) := by
  refine .of_answer (fun _ =>
    (deployment.registry.lookup name).elim
      (.error ("datasource '" ++ name ++ "' is not registered")) .ok) ?_ (fun _ _ _ => rfl)
  intro sources settled
  refine ⟨sources, ?_, .refl settled, ?_⟩
  · unfold spec
    rw [Proc.get_bind_apply, settled.registry]
    cases deployment.registry.lookup name <;> rfl
  · intro found outcome
    cases registered : deployment.registry.lookup name with
    | none =>
        rw [registered] at outcome
        cases outcome
    | some other =>
        rw [registered] at outcome
        cases outcome
        rfl

theorem kind_oblivious (name : String)
    : Oblivious drivers shown deployment
        (fun found => (deployment.registry.lookup name).map DsSpec.kind = some found)
        (kind name) := by
  refine (spec_oblivious name).bind (fun found registered => oblivious_pure ?_)
  rw [registered]
  rfl

/-- A connection put back under its name. -/
theorem Settled.insertPg {sources : Sources} (settled : Settled drivers shown deployment sources)
    {name : String} {session : Session} (pooled : Connected drivers deployment name session)
    : Settled drivers shown deployment
        { sources with pgCache := sources.pgCache.insert name session } where
  registry := settled.registry
  catalogs := settled.catalogs
  instances := settled.instances
  contexts := settled.contexts
  workers := settled.workers
  verdicts := settled.verdicts
  pooled other held := by
    intro cached
    by_cases same : other = name
    · subst same
      rw [AList.lookup_insert] at cached
      cases cached
      exact pooled
    · rw [AList.lookup_insert_ne same] at cached
      exact settled.pooled other held cached

theorem sessionOf_insert (sources : Sources) (name : String) (session : Session) (other : String)
    (found : DsSpec)
    : sessionOf drivers { sources with pgCache := sources.pgCache.insert name session } other found
      = if other = name then .ok session else sessionOf drivers sources other found := by
  unfold sessionOf
  by_cases same : other = name
  · subst same
    simp
  · simp [AList.lookup_insert_ne same, same]

theorem putPg_oblivious {name : String} {session : Session}
    (pooled : Connected drivers deployment name session)
    : Oblivious drivers shown deployment (fun _ => True) (putPg name session) := by
  intro s t viewed
  refine ⟨⟨rfl, trivial⟩, viewed.settledLeft.insertPg pooled, viewed.settledRight.insertPg pooled,
    ?_, viewed.pinned⟩
  intro other found registered
  simp only [sessionOf_insert]
  split
  · rfl
  · exact viewed.sessions other found registered

/-- The connection under a name is found or opened, by cases on whether it is open. -/
theorem pgSession_answer (steady : drivers.Steady) {sources : Sources}
    (settled : Settled drivers shown deployment sources) {name : String} {found : DsSpec}
    (registered : deployment.registry.lookup name = some found) (postgres : found.kind = .postgres)
    : ∃ after, pgSession drivers name found sources = (sessionOf drivers sources name found, after)
        ∧ Viewed drivers shown deployment sources after
        ∧ ∀ session, sessionOf drivers sources name found = .ok session
          → Connected drivers deployment name session := by
  have same : openPg drivers sources.clock found = openPg drivers 0 found := by
    simp only [openPg, steady.openPg sources.clock]
  unfold pgSession sessionOf
  rw [Proc.get_bind_apply]
  cases cached : sources.pgCache.lookup name with
  | some session =>
      refine ⟨sources, rfl, .refl settled, ?_⟩
      intro other outcome
      cases outcome
      exact settled.pooled name session cached
  | none =>
      change ∃ after, (Proc.lift (openPg drivers sources.clock found) >>= _)
        { sources with clock := sources.clock + 1 } = _ ∧ _
      rw [same]
      cases opens : openPg drivers 0 found with
      | error failure =>
          refine ⟨_, rfl, (Viewed.refl settled).stamped _ _ _ _, ?_⟩
          intro session outcome
          cases outcome
      | ok opened =>
          have pooled : Connected drivers deployment name (.fresh found.target) :=
            ⟨⟨found, registered, postgres, opens, rfl⟩, fun _ _ => TempTables.lookup_empty _ _⟩
          refine ⟨_, rfl, ⟨settled, ?_, ?_, rfl⟩, ?_⟩
          · exact (settled.stamped _ _).insertPg pooled
          · intro other other' registered'
            rw [sessionOf_insert]
            split
            · next same =>
                subst same
                cases registered.symm.trans registered'
                simp [sessionOf, cached, opens, Except.map]
            · rfl
          · intro session outcome
            cases outcome
            exact pooled

theorem pgSession_oblivious (steady : drivers.Steady) {name : String} {found : DsSpec}
    (registered : deployment.registry.lookup name = some found) (postgres : found.kind = .postgres)
    : Oblivious drivers shown deployment (Connected drivers deployment name)
        (pgSession drivers name found) :=
  .of_answer _ (fun _ settled => pgSession_answer steady settled registered postgres)
    (fun _ _ viewed => viewed.sessions name found registered)

/-- An instance that is open could be opened. -/
theorem duckInstance_oblivious (steady : drivers.Steady) (path : String)
    : Oblivious drivers shown deployment (fun _ => True) (duckInstance drivers path) := by
  refine .of_answer (fun _ =>
    (drivers.openDuck 0 path).mapError (fun e => "duckdb open '" ++ path ++ "': " ++ e)) ?_
    (fun _ _ _ => rfl)
  intro sources settled
  unfold duckInstance
  rw [Proc.get_bind_apply]
  by_cases inside : path ∈ sources.duckInstances
  · rw [if_pos inside, settled.instances path inside]
    exact ⟨sources, rfl, .refl settled, fun _ _ => trivial⟩
  · rw [if_neg inside]
    change ∃ after, (Proc.lift ((drivers.openDuck sources.clock path).mapError _) >>= _)
      { sources with clock := sources.clock + 1 } = _ ∧ _
    rw [steady.openDuck sources.clock]
    cases opens : drivers.openDuck 0 path with
    | error failure =>
        exact ⟨_, rfl, (Viewed.refl settled).stamped _ _ _ _, fun _ _ => trivial⟩
    | ok opened =>
        refine ⟨_, rfl, ⟨settled, ⟨settled.registry, settled.catalogs, ?_, settled.contexts,
          settled.pooled, settled.workers, settled.verdicts⟩, fun _ _ _ => rfl, rfl⟩,
          fun _ _ => trivial⟩
        intro other member
        rcases List.mem_cons.mp member with rfl | member
        · exact opens
        · exact settled.instances other member

theorem duckCursor_oblivious (steady : drivers.Steady) (path : String)
    : Oblivious drivers shown deployment (fun _ => True) (duckCursor drivers path) := by
  refine (duckInstance_oblivious steady path).bind (fun _ _ => ?_)
  refine oblivious_ticket (fun call => by rw [steady.cloneDuck call]) ?_
  exact (oblivious_lift (fun _ _ => trivial)).bind (fun _ _ => oblivious_pure trivial)

theorem parquetCtx_oblivious (steady : drivers.Steady) (dir : String)
    : Oblivious drivers shown deployment (fun _ => True) (parquetCtx drivers dir) := by
  refine .of_answer (fun _ =>
    (drivers.openParquet 0 dir).mapError (fun e => "parquet: " ++ e)) ?_ (fun _ _ _ => rfl)
  intro sources settled
  unfold parquetCtx
  rw [Proc.get_bind_apply]
  by_cases inside : dir ∈ sources.parquetContexts
  · rw [if_pos inside, settled.contexts dir inside]
    exact ⟨sources, rfl, .refl settled, fun _ _ => trivial⟩
  · rw [if_neg inside]
    change ∃ after, (Proc.lift ((drivers.openParquet sources.clock dir).mapError _) >>= _)
      { sources with clock := sources.clock + 1 } = _ ∧ _
    rw [steady.openParquet sources.clock]
    cases opens : drivers.openParquet 0 dir with
    | error failure =>
        exact ⟨_, rfl, (Viewed.refl settled).stamped _ _ _ _, fun _ _ => trivial⟩
    | ok opened =>
        refine ⟨_, rfl, ⟨settled, ⟨settled.registry, settled.catalogs, settled.instances, ?_,
          settled.pooled, settled.workers, settled.verdicts⟩, fun _ _ _ => rfl, rfl⟩,
          fun _ _ => trivial⟩
        intro other member
        rcases List.mem_cons.mp member with rfl | member
        · exact opens
        · exact settled.contexts other member

end Connections

end Fedqrs
