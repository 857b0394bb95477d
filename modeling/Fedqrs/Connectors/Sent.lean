import Fedqrs.Connectors.Answers
import Fedqrs.Library.Emission

/-! What a connector call sends to the sources, and what else it writes down: nothing but the
statements it was given and the catalog queries of its own.
-/

namespace Fedqrs

open Proc

variable {drivers : Drivers} {shown : ScalarValue → String} {registry : NameMap DsSpec}
  {allowed : Event → Prop} {name : String} {found : DsSpec}

/-- With these datasources registered, the call writes down allowed events only. -/
abbrev Sends {α : Type} (registry : NameMap DsSpec) (allowed : Event → Prop)
    (action : SourceM α)
    : Prop :=
  Emits Sources.registry registry Sources.log allowed action

/-- The statement may be sent for the datasource, on any connection. -/
def Permits (allowed : Event → Prop) (name : String) (sql : Sql) : Prop :=
  ∀ session answer, allowed (.read name session sql answer)

-----------------------------------------------------------------------------------------
-- Connections
-----------------------------------------------------------------------------------------

section Connections

theorem sends_spec (name : String) : Sends registry allowed (spec name) := by
  refine Emits.getThen (fun sources _ => ?_)
  cases sources.registry.lookup name with
  | none => exact Emits.fail _
  | some found => exact Emits.pure found

theorem sends_kind (name : String) : Sends registry allowed (kind name) :=
  (sends_spec name).andThen (fun _ => Emits.pure _)

theorem registered_of_spec (given : Yielded Sources.registry registry (spec name) found)
    : registry.lookup name = some found := by
  obtain ⟨sources, reached, rfl, ran⟩ := given
  exact (spec_eq_ok ran).2

theorem registered_of_kind {kind : DsKind}
    (given : Yielded Sources.registry registry (Fedqrs.kind name) kind)
    : ∃ found, registry.lookup name = some found ∧ found.kind = kind := by
  obtain ⟨sources, reached, rfl, ran⟩ := given
  exact (kind_eq_ok ran).2

theorem sends_ticket : Sends registry allowed ticket := fun _ _ => .same rfl rfl

theorem sends_record {event : Event} (fine : allowed event)
    : Sends registry allowed (record event) :=
  fun _ _ => ⟨rfl, [event], rfl, by simpa using fine⟩

theorem sends_pgSession : Sends registry allowed (pgSession drivers name found) := by
  refine Emits.getThen (fun sources _ => ?_)
  cases sources.pgCache.lookup name with
  | some session => exact Emits.pure session
  | none =>
      refine sends_ticket.andThen (fun call => (Emits.lift _).andThen (fun _ => ?_))
      exact Emits.andThen (Emits.modify (fun _ => rfl) (fun _ => rfl)) (fun _ => Emits.pure _)

theorem sends_duckInstance (path : String)
    : Sends registry allowed (duckInstance drivers path) := by
  refine Emits.getThen (fun sources _ => ?_)
  split
  · exact Emits.pure ()
  · refine sends_ticket.andThen (fun call => (Emits.lift _).andThen (fun _ => ?_))
    exact Emits.modify (fun _ => rfl) (fun _ => rfl)

theorem sends_duckCursor (path : String) : Sends registry allowed (duckCursor drivers path) := by
  refine (sends_duckInstance path).andThen (fun _ => sends_ticket.andThen (fun call => ?_))
  exact (Emits.lift _).andThen (fun _ => Emits.pure _)

theorem sends_parquetCtx (dir : String) : Sends registry allowed (parquetCtx drivers dir) := by
  refine Emits.getThen (fun sources _ => ?_)
  split
  · exact Emits.pure ()
  · refine sends_ticket.andThen (fun call => (Emits.lift _).andThen (fun _ => ?_))
    exact Emits.modify (fun _ => rfl) (fun _ => rfl)

end Connections

-----------------------------------------------------------------------------------------
-- Reads
-----------------------------------------------------------------------------------------

section Reads

variable {sql : Sql}

theorem sends_runStatement (session : Session) (permits : Permits allowed name sql)
    : Sends registry allowed (runStatement drivers name session sql) := by
  refine Emits.getThen (fun sources _ => sends_ticket.andThen (fun call => ?_))
  exact (sends_record (permits session _)).andThen (fun _ => Emits.pure _)

theorem sends_runQuery (session : Session) (permits : Permits allowed name sql)
    : Sends registry allowed (runQuery drivers shown name session sql) :=
  (sends_runStatement session permits).andThen (fun _ => Emits.pure _)

/-- A fetch sends the statement it is given; by cases on the datasource's kind. -/
theorem sends_fetch (permits : Permits allowed name sql)
    : Sends registry allowed (fetch drivers shown name sql) := by
  refine (sends_spec name).andThen (fun found => ?_)
  cases found.kind with
  | postgres =>
      refine sends_pgSession.andThen (fun session => ?_)
      exact (sends_runQuery session permits).andThen (fun _ => Emits.lift _)
  | duckDb =>
      have session : Sends registry allowed (duckSession drivers found.uri) := by
        refine Emits.getThen (fun sources _ => ?_)
        cases sources.pinnedDuck.lookup found.uri with
        | some session => exact Emits.pure session
        | none => exact sends_duckCursor found.uri
      refine session.andThen (fun session => ?_)
      exact (sends_runStatement session permits).andThen (fun _ => Emits.lift _)
  | parquet =>
      refine (sends_parquetCtx found.uri).andThen (fun _ => ?_)
      exact (sends_runStatement _ permits).andThen (fun _ => Emits.lift _)

theorem sends_relpages {schema : Option String} {table : String}
    (permits : Permits allowed name (relpagesSql schema table))
    : Sends registry allowed (relpages drivers shown name schema table) :=
  (sends_fetch permits).andThen (fun _ => Emits.lift _)

/-- The estimate asks for the size of a DuckDB table, and for the statistics of any other. -/
theorem sends_estimateSelectivity {schema : Option String} {table column : String}
    (numKeys : Nat)
    (permits : ∀ found, registry.lookup name = some found
      → Permits allowed name
        (if found.kind = .duckDb then
          duckSizeSql schema table
        else
          selectivitySql schema table column))
    : Sends registry allowed
        (estimateSelectivity drivers shown name schema table column numKeys) := by
  refine (sends_kind name).bind (fun kind given => ?_)
  obtain ⟨found, registered, rfl⟩ := registered_of_kind given
  have permitted := permits found registered
  split <;> rename_i duck
  · rw [if_pos duck] at permitted
    exact (sends_fetch permitted).andThen (fun _ => Emits.lift _)
  · rw [if_neg duck] at permitted
    exact (sends_fetch permitted).andThen (fun _ => Emits.lift _)

theorem sends_columnHasIndex {schema : Option String} {table column : String}
    (recalls : ∀ target, allowed (.recalled name target))
    (permits : Permits allowed name (indexedSql schema table column))
    : Sends registry allowed (columnHasIndex drivers shown name schema table column) := by
  refine Emits.getThen (fun sources _ => ?_)
  cases sources.verdicts.lookup (verdictKey name schema table column) with
  | some cached => exact (sends_record (recalls _)).andThen (fun _ => Emits.pure _)
  | none =>
      have asked
          : Sends registry allowed
              (pgColumnIndexed drivers shown name schema table column) :=
        (sends_fetch permits).andThen (fun _ => Emits.pure _)
      refine asked.andThen (fun indexed => ?_)
      exact Emits.andThen (Emits.modify (fun _ => rfl) (fun _ => rfl)) (fun _ => Emits.pure _)

/-- The workers send what the jobs say. -/
theorem sends_runJobs {jobs : List Job}
    (permits : ∀ job ∈ jobs, Permits allowed job.name job.sql)
    : Sends registry allowed (runJobs drivers shown jobs) := by
  intro sources _
  refine ⟨rfl, _, rfl, ?_⟩
  have replies
      : ∀ reply ∈ (WorkerPool.serveInOrder workerOf (runJob drivers shown sources.catalogs)
          sources.workers jobs).1,
        ∀ event ∈ reply.events, allowed event := by
    have each
        : ∀ conns : NameMap Target, True → ∀ job ∈ jobs,
          True ∧ ∀ event ∈ (runJob drivers shown sources.catalogs conns job).1.events,
            allowed event := ?_
    exact WorkerPool.serveInOrder_replied each (fun _ => trivial)
    intro conns _ job member
    refine ⟨trivial, ?_⟩
    intro event read
    unfold runJob at read
    split at read
    · simp only [answerJob, List.mem_singleton] at read
      rw [read]
      exact permits job member _ _
    · split at read
      · cases read
      · simp only [answerJob, List.mem_singleton] at read
        rw [read]
        exact permits job member _ _
  intro event member
  obtain ⟨reply, served, inside⟩ := List.mem_flatMap.mp member
  exact replies reply served event inside

/-- The partitioned read asks for the page count of a Postgres table, and for its ranges. -/
theorem sends_fetchParallel {source : TableRef} {list : SelectList} {partitions : Nat}
    {whereClause : Option SqlExpr}
    (counted : ∀ found, registry.lookup name = some found → found.kind = .postgres
      → Permits allowed name (relpagesSql source.schema source.table))
    (permits : ∀ found, registry.lookup name = some found → found.kind = .postgres
      → ∀ range, Permits allowed name (ctidSql list source range whereClause))
    : Sends registry allowed
        (fetchParallel drivers shown name source list partitions whereClause) := by
  refine (sends_spec name).bind (fun found given => ?_)
  have registered := registered_of_spec given
  split <;> rename_i postgres
  · refine (sends_relpages (counted found registered postgres)).andThen (fun pages => ?_)
    refine (Emits.lift _).andThen (fun ranges => ?_)
    refine Emits.getThen (fun sources _ => ?_)
    refine (sends_runJobs ?_).andThen (fun replies => Emits.lift _)
    intro job member
    obtain ⟨index, _, rfl⟩ := List.mem_mapIdx.mp member
    exact permits found registered postgres _
  · exact Emits.fail _

end Reads

-----------------------------------------------------------------------------------------
-- Temp tables
-----------------------------------------------------------------------------------------

section TempTables

variable {sql : Sql}

theorem sends_dropIfExists (session : Session) (table : String)
    : Sends registry allowed (dropIfExists drivers session table) := by
  refine sends_ticket.andThen (fun call => ?_)
  split
  · exact Emits.pure _
  · split
    · exact Emits.pure _
    · exact Emits.andThen (Emits.modify (fun _ => rfl) (fun _ => rfl)) (fun _ => Emits.pure _)

theorem sends_ingestRows (session : Session) (table : String) (rows : Batches)
    : Sends registry allowed (ingestRows drivers session table rows) := by
  refine sends_ticket.andThen (fun call => ?_)
  split <;> exact Emits.pure _

theorem sends_putPg (session : Session) : Sends registry allowed (putPg name session) :=
  Emits.modify (fun _ => rfl) (fun _ => rfl)

theorem sends_createTemp (what : String) (session : Session) (table : String) (schema : Schema)
    : Sends registry allowed (createTemp drivers what session table schema) := by
  refine sends_ticket.andThen (fun call => ?_)
  exact (Emits.lift _).andThen (fun _ => Emits.pure _)

theorem sends_fetchTempJoinPg (tempTable : String) (keys : Batches)
    (permits : Permits allowed name sql)
    : Sends registry allowed (fetchTempJoinPg drivers shown name found tempTable keys sql) := by
  refine sends_pgSession.andThen (fun session => ?_)
  refine (sends_dropIfExists session tempTable).andThen (fun dropped => ?_)
  refine (sends_putPg dropped.2).andThen (fun _ => (Emits.lift _).andThen (fun _ => ?_))
  refine (sends_ingestRows dropped.2 tempTable keys).andThen (fun ingested => ?_)
  refine (sends_putPg ingested.2).andThen (fun _ => (Emits.lift _).andThen (fun _ => ?_))
  refine (sends_runQuery ingested.2 permits).andThen (fun result => ?_)
  refine (sends_dropIfExists ingested.2 tempTable).andThen (fun cleaned => ?_)
  exact (sends_putPg cleaned.2).andThen (fun _ => Emits.lift _)

theorem sends_fetchTempJoinDuckdb (tempTable : String) (keys : Batches)
    (permits : Permits allowed name sql)
    : Sends registry allowed (fetchTempJoinDuckdb drivers name found tempTable keys sql) := by
  refine (sends_duckCursor found.uri).andThen (fun cursor => (Emits.lift _).andThen (fun _ => ?_))
  refine (sends_createTemp _ cursor tempTable _).andThen (fun created => ?_)
  refine (sends_ingestRows created tempTable keys).andThen (fun filled => ?_)
  refine (Emits.lift _).andThen (fun _ => ?_)
  exact (sends_runStatement filled.2 permits).andThen (fun _ => Emits.lift _)

theorem sends_fetchTempJoin (tempTable : String) (keys : Batches)
    (permits : Permits allowed name sql)
    : Sends registry allowed (fetchTempJoin drivers shown name tempTable keys sql) := by
  refine (sends_spec name).andThen (fun found => ?_)
  cases found.kind with
  | postgres => exact sends_fetchTempJoinPg tempTable keys permits
  | duckDb => exact sends_fetchTempJoinDuckdb tempTable keys permits
  | parquet => exact Emits.fail _

theorem sends_pinnedSession (path : String)
    : Sends registry allowed (pinnedSession drivers path) := by
  refine Emits.getThen (fun sources _ => ?_)
  cases sources.pinnedDuck.lookup path with
  | some session => exact Emits.pure session
  | none =>
      refine (sends_duckCursor path).andThen (fun cursor => ?_)
      exact Emits.andThen (Emits.modify (fun _ => rfl) (fun _ => rfl)) (fun _ => Emits.pure _)

/-- A shipment sends nothing but itself, to the file of a DuckDB datasource. -/
theorem sends_shipTable {table : String} {rows : Batches}
    (begins : ∀ found, registry.lookup name = some found → found.kind = .duckDb
      → allowed (.shipping found.uri table))
    (ends : ∀ found, registry.lookup name = some found → found.kind = .duckDb
      → allowed (.shipped found.uri table rows))
    : Sends registry allowed (shipTable drivers name table rows) := by
  have put : ∀ path session, Sends registry allowed (putPinned path session) :=
    fun _ _ => Emits.modify (fun _ => rfl) (fun _ => rfl)
  refine (sends_spec name).bind (fun found given => ?_)
  have registered := registered_of_spec given
  split <;> rename_i duck
  · refine (sends_pinnedSession found.uri).andThen (fun session => ?_)
    refine (Emits.lift _).andThen (fun _ => ?_)
    refine (sends_record (begins found registered duck)).andThen (fun _ => ?_)
    refine (sends_dropIfExists session table).andThen (fun dropped => ?_)
    refine (put _ dropped.2).andThen (fun _ => (Emits.lift _).andThen (fun _ => ?_))
    refine (sends_createTemp _ dropped.2 table _).andThen (fun created => ?_)
    refine (put _ created).andThen (fun _ => ?_)
    refine (sends_ingestRows created table rows).andThen (fun filled => ?_)
    refine (put _ filled.2).andThen (fun _ => (Emits.lift _).andThen (fun _ => ?_))
    exact sends_record (ends found registered duck)
  · exact Emits.fail _

end TempTables

end Fedqrs
