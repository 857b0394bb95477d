import Fedqrs.Connectors.Answers
import Fedqrs.Correctness.Registration

/-! No stale keys: over any sequence of calls, whatever fails and whatever is left behind by it, a
semi-join that succeeds was answered with its own keys in its keys table.
-/

namespace Fedqrs

/-- Ingest in Create mode on Postgres: it fails if there is the table, and what it reports as
stored is exactly the rows it was given.
-/
def CreatesExactly (drivers : Drivers) : Prop :=
  ∀ call session table rows kept, session.database.kind = .postgres
    → drivers.ingest call session table rows = .stored kept
    → session.temps.lookup table = none ∧ kept = rows

/-- A result that the connector made of the answer to its query on a session where the keys
table holds the keys and every other temp table is as before.
-/
structure JoinedWith (drivers : Drivers) (shown : ScalarValue → String) (before : Session)
    (table : String) (keys : Batches) (sql : Sql) (result : Batches) (session : Session)
    : Prop where
  database : session.database = before.database
  keys : ∀ catalog, resolveTable catalog session.temps none table = some keys.heap
  others : ∀ other, other ≠ table → session.temps.lookup other = before.temps.lookup other
  answered : ∃ call catalog answer,
    drivers.query call catalog session sql = .ok answer
      ∧ normalizeAnswer shown answer = .ok result

-----------------------------------------------------------------------------------------
-- The pooled connections of a run
-----------------------------------------------------------------------------------------

/-- Only connections to Postgres are pooled. -/
def PoolsPostgres (sources : Sources) : Prop :=
  ∀ name session, sources.pgCache.lookup name = some session → session.database.kind = .postgres

section Runs

variable {drivers : Drivers} {shown : ScalarValue → String} {sources reached : Sources}

/-- A pooled connection replaced by one to a Postgres database. -/
theorem PoolsPostgres.insert (pools : PoolsPostgres sources) {name : String} {session : Session}
    (postgres : session.database.kind = .postgres)
    : PoolsPostgres { sources with pgCache := sources.pgCache.insert name session } := by
  intro other held found
  by_cases same : other = name
  · subst same
    rw [AList.lookup_insert] at found
    cases found
    exact postgres
  · rw [AList.lookup_insert_ne same] at found
    exact pools other held found

/-- Every elementary change keeps the pool one of Postgres connections; by cases on it. -/
theorem PoolsPostgres.step {may : Touch → Prop} {next : Sources}
    (change : SourceEffect may sources next) (pools : PoolsPostgres sources)
    : PoolsPostgres next := by
  cases change with
  | connected name found registered postgres none => exact pools.insert postgres
  | altered name session changed allowed held target =>
      apply pools.insert
      rw [Session.database, target]
      exact pools name session held
  | ticked | registered | instanced | contexted | answered | recalled | judged | worked
  | dropped | pinned | shipping | replaced | shipped => exact pools

/-- A call makes elementary changes only, whether it succeeds or fails; by cases on the call. -/
theorem Call.changes_any (drivers : Drivers) (shown : ScalarValue → String) (sources : Sources)
    (call : Call)
    : Relation.ReflTransGen (SourceEffect (fun _ => True)) sources
        (call.perform drivers shown sources) := by
  cases call with
  | register name found => exact (leads_register trivial).changes
  | fetch name sql => exact (leads_fetch sql trivial).changes
  | fetchParallel name source list partitions whereClause =>
      exact (leads_fetchParallel trivial trivial).changes
  | fetchTempJoin name tempTable keys joinSql =>
      refine (leads_fetchTempJoin trivial ?_).changes
      intro found _
      unfold JoinAllowed
      split
      · exact ⟨trivial, fun _ => trivial⟩
      · exact fun _ _ _ _ => trivial
      · trivial
  | columnHasIndex name schema table column =>
      exact (leads_columnHasIndex schema table column trivial trivial).changes

/-- Over any sequence of calls, only connections to Postgres are pooled; by induction on the
calls.
-/
theorem performAll_poolsPostgres (pools : PoolsPostgres sources) (calls : List Call)
    : PoolsPostgres (performAll drivers shown sources calls) := by
  induction calls generalizing sources with
  | nil => exact pools
  | cons call rest ih =>
      have kept
          : ∀ before after, SourceEffect (fun _ => True) before after
              → PoolsPostgres before → PoolsPostgres after :=
        fun _ _ => PoolsPostgres.step
      exact ih (Proc.changes_keep kept (call.changes_any drivers shown sources) pools)

/-- The connection that a semi-join runs on is one to Postgres. -/
theorem PoolsPostgres.pooled (pools : PoolsPostgres sources) {name : String} {found : DsSpec}
    (postgres : found.kind = .postgres)
    : (sources.pooled name found).database.kind = .postgres := by
  unfold Sources.pooled
  cases held : sources.pgCache.lookup name with
  | some session => exact pools name session held
  | none => exact postgres

-----------------------------------------------------------------------------------------
-- One semi-join
-----------------------------------------------------------------------------------------

/-- A semi-join that succeeds had its keys table dropped or missing and then filled with its
own keys, from whatever was there before.
-/
theorem fetchTempJoinPg_joinedWith (creates : CreatesExactly drivers)
    (pools : PoolsPostgres sources)
    {name table : String} {found : DsSpec} {keys result : Batches} {sql : Sql}
    (registered : sources.registry.lookup name = some found) (postgres : found.kind = .postgres)
    (joined
      : fetchTempJoinPg drivers shown name found table keys sql sources = (.ok result, reached))
    : ∃ session,
        JoinedWith drivers shown (sources.pooled name found) table keys sql result session := by
  obtain ⟨dropped, session, rows, answer, opened, joins, _⟩ :=
    fetchTempJoinPg_eq_ok registered postgres joined
  obtain ⟨call, stored⟩ := joins.ingested
  obtain ⟨asked, reads⟩ := joins.reads
  obtain ⟨number, answered⟩ := reads.answered
  have toPostgres : dropped.database.kind = .postgres := by
    rw [joins.emptied.database]
    exact pools.pooled postgres
  obtain ⟨_, own⟩ := creates call dropped table keys rows toPostgres stored
  refine ⟨session, joins.filled.database.trans joins.emptied.database, ?_, ?_, number, _, answer,
    answered, reads.received⟩
  · intro catalog
    simp only [resolveTable, DsKind.reachesTemps, if_true, joins.holds, own]
  · intro other differs
    apply (joins.emptied.trans joins.filled).others
    rw [Session.named_database, pools.pooled postgres, DsKind.sameName_postgres]
    exact differs

/-- In any sequence of calls, each with its own keys and query and failing wherever it may, a
semi-join on Postgres that succeeds was answered with exactly its own keys.
-/
theorem tempJoins_read_own_keys (drivers : Drivers) (shown : ScalarValue → String)
    (creates : CreatesExactly drivers) (catalogs : Database → Catalog) (calls : List Call)
    : ∀ before name table keys sql rest,
        calls = before ++ .fetchTempJoin name table keys sql :: rest
        → ∀ sources, sources = performAll drivers shown (Sources.new [] catalogs) before
          → ∀ found, sources.registry.lookup name = some found → found.kind = .postgres
            → ∀ result reached,
                fetchTempJoin drivers shown name table keys sql sources = (.ok result, reached)
                → ∃ session,
                    JoinedWith drivers shown (sources.pooled name found) table keys sql result
                      session := by
  intro before name table keys sql rest _ sources after found registered postgres result reached
    joined
  have pools : PoolsPostgres sources := by
    rw [after]
    refine performAll_poolsPostgres ?_ before
    intro other session held
    cases held
  obtain ⟨known, same, named, ran⟩ := Proc.bind_eq_ok.mp joined
  obtain ⟨rfl, again⟩ := spec_eq_ok named
  cases registered.symm.trans again
  simp only [postgres] at ran
  exact fetchTempJoinPg_joinedWith creates pools registered postgres ran

end Runs

/-- Drivers whose ingest fails where there is the table already, and whose fifth call fails if it is
a drop: the cleanup after the semi-join below.
-/
def leavingDrivers : Drivers :=
  {
    countedDrivers with
    drop := fun call _ _ =>
      if call = 4 then .error { stage := .execute, message := "canceled" } else .ok ()
    ingest := fun _ session table rows =>
      match session.temps.lookup table with
      | some _ => .failed { stage := .execute, message := "table exists" } none
      | none => .stored rows
  }

theorem leavingDrivers_creates : CreatesExactly leavingDrivers := by
  intro call session table rows kept _ stored
  cases found : session.temps.lookup table with
  | some old =>
      simp only [leavingDrivers, found] at stored
      cases stored
  | none =>
      simp only [leavingDrivers, found] at stored
      cases stored
      exact ⟨rfl, rfl⟩

/-- A semi-join on the keys 1 whose cleanup fails. -/
def leavingCalls : List Call :=
  [.register "pg" (pgSpec "a" "driver"), .fetchTempJoin "pg" "k" (intBatches "k" [1]) (.raw "k")]

/-- The sources with the keys of that semi-join left behind. -/
def leftKeys : Sources :=
  performAll leavingDrivers (fun _ => "") (Sources.new [] oneTable) leavingCalls

/-- The next semi-join, on the keys 2, finds the keys 1 in its table and reads the keys 2. -/
theorem tempJoins_read_own_keys_leftKeys
    : (leftKeys.pooled "pg" (pgSpec "a" "driver")).temps.lookup "k" = some (intBatches "k" [1])
        ∧ ∃ result reached session,
          fetchTempJoin leavingDrivers (fun _ => "") "pg" "k" (intBatches "k" [2]) (.raw "k")
                leftKeys
              = (.ok result, reached)
            ∧ JoinedWith leavingDrivers (fun _ => "")
                (leftKeys.pooled "pg" (pgSpec "a" "driver")) "k" (intBatches "k" [2]) (.raw "k")
                result session := by
  refine ⟨rfl, ?_⟩
  have ran
      : ∃ result reached,
          fetchTempJoin leavingDrivers (fun _ => "") "pg" "k" (intBatches "k" [2]) (.raw "k")
              leftKeys
            = (.ok result, reached) :=
    ⟨_, _, rfl⟩
  obtain ⟨result, reached, joined⟩ := ran
  obtain ⟨session, read⟩ :=
    tempJoins_read_own_keys leavingDrivers (fun _ => "") leavingDrivers_creates oneTable
      (leavingCalls ++ [.fetchTempJoin "pg" "k" (intBatches "k" [2]) (.raw "k")]) leavingCalls "pg"
      "k" (intBatches "k" [2]) (.raw "k") [] rfl leftKeys rfl (pgSpec "a" "driver") rfl rfl result
      reached joined
  exact ⟨result, reached, session, joined, read⟩

end Fedqrs
