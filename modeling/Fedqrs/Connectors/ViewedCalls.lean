import Fedqrs.Connectors.Views

/-! Each connector operation answers alike on states that a thread sees alike, and leaves them so.
-/

namespace Fedqrs

-----------------------------------------------------------------------------------------
-- Statements
-----------------------------------------------------------------------------------------

section Statements

variable {drivers : Drivers} {shown : ScalarValue → String} {deployment : Deployment}

/-- A query answers by the databases, which are the same, and by its session. -/
theorem runStatement_oblivious (steady : drivers.Steady) (datasource : String)
    (session : Session) (sql : Sql)
    : Oblivious drivers shown deployment (fun _ => True)
        (runStatement drivers datasource session sql) := by
  intro s t viewed
  refine ⟨⟨?_, trivial⟩, viewed.stamped _ _ _ _⟩
  rw [steady.query s.clock, steady.query t.clock, viewed.settledLeft.catalogs,
    viewed.settledRight.catalogs]

theorem runQuery_oblivious (steady : drivers.Steady) (datasource : String) (session : Session)
    (sql : Sql)
    : Oblivious drivers shown deployment (fun _ => True)
        (runQuery drivers shown datasource session sql) :=
  (runStatement_oblivious steady datasource session sql).bind (fun _ _ => oblivious_pure trivial)

/-- Dropping a table whose name is no permanent table's leaves the databases as they are. -/
theorem Catalog.dropUnqualified_absent {kind : DsKind} {catalog : Catalog} {table : String}
    (absent : catalog.schemaOf kind table = none)
    : catalog.dropUnqualified kind table = catalog := by
  unfold Catalog.dropUnqualified
  rw [absent]

/-- What is kept of a session: what it was opened for, and which names its temp tables may have. -/
structure SessionKept (table : String) (before after : Session) : Prop where
  target : after.target = before.target
  temps : ∀ other, ¬ before.temps.kind.SameName other table → before.temps.lookup other = none
    → after.temps.lookup other = none

theorem Settled.catalogs_dropped {sources : Sources}
    (settled : Settled drivers shown deployment sources) {table : String}
    (absent : ∀ database, (deployment.catalogs database).schemaOf database.kind table = none)
    (database : Database)
    : {
        sources with
        catalogs :=
          Function.update sources.catalogs database
            ((sources.catalogs database).dropUnqualified database.kind table)
      } = sources := by
  have same
      : (sources.catalogs database).dropUnqualified database.kind table
        = sources.catalogs database := by
    refine Catalog.dropUnqualified_absent ?_
    rw [settled.catalogs]
    exact absent database
  rw [same, Function.update_eq_self]

theorem dropIfExists_oblivious (steady : drivers.Steady) (session : Session) {table : String}
    (absent : ∀ database, (deployment.catalogs database).schemaOf database.kind table = none)
    : Oblivious drivers shown deployment
        (fun dropped => SessionKept table session dropped.2)
        (dropIfExists drivers session table) := by
  refine oblivious_ticket (fun call => by rw [steady.drop call]) ?_
  cases drivers.drop 0 session table with
  | error failure => exact oblivious_pure ⟨rfl, fun _ _ kept => kept⟩
  | ok done =>
      cases session.temps.lookup table with
      | some rows =>
          refine oblivious_pure ⟨rfl, ?_⟩
          intro other distinct kept
          simpa only [TempTables.lookup_erase_ne distinct] using kept
      | none =>
          have unchanged : Oblivious drivers shown deployment (fun _ => True)
              (Proc.modify (fun sources =>
                {
                  sources with
                  catalogs :=
                    Function.update sources.catalogs session.database
                      ((sources.catalogs session.database).dropUnqualified session.database.kind
                        table)
                })) := by
            intro s t viewed
            rw [Proc.modify_apply, Proc.modify_apply,
              viewed.settledLeft.catalogs_dropped absent,
              viewed.settledRight.catalogs_dropped absent]
            exact ⟨⟨rfl, trivial⟩, viewed⟩
          exact unchanged.bind (fun _ _ => oblivious_pure ⟨rfl, fun _ _ kept => kept⟩)

theorem ingestRows_oblivious (steady : drivers.Steady) (session : Session) (table : String)
    (rows : Batches)
    : Oblivious drivers shown deployment
        (fun ingested => SessionKept table session ingested.2)
        (ingestRows drivers session table rows) := by
  refine oblivious_ticket (fun call => by rw [steady.ingest call]) ?_
  have inserted : ∀ kept : Batches,
      SessionKept table session { session with temps := session.temps.insert table kept } :=
    fun kept => ⟨rfl, fun other distinct absent => by
      rw [TempTables.lookup_insert_ne kept distinct]
      exact absent⟩
  cases drivers.ingest 0 session table rows with
  | stored kept => exact oblivious_pure (inserted kept)
  | failed failure left =>
      cases left with
      | none => exact oblivious_pure ⟨rfl, fun _ _ kept => kept⟩
      | some left => exact oblivious_pure (inserted left)

theorem fetchPostgres_oblivious (steady : drivers.Steady) {name : String} {found : DsSpec}
    (registered : deployment.registry.lookup name = some found) (postgres : found.kind = .postgres)
    (sql : Sql)
    : Oblivious drivers shown deployment (fun _ => True)
        (fetchPostgres drivers shown name found sql) := by
  refine (pgSession_oblivious steady registered postgres).bind (fun session _ => ?_)
  refine (runQuery_oblivious steady name session sql).bind (fun result _ => ?_)
  exact oblivious_lift (fun _ _ => trivial)

theorem duckSession_oblivious (steady : drivers.Steady) (path : String)
    : Oblivious drivers shown deployment (fun _ => True) (duckSession drivers path) := by
  intro s t viewed
  unfold duckSession
  rw [Proc.get_bind_apply, Proc.get_bind_apply, viewed.pinned]
  cases t.pinnedDuck.lookup path with
  | some session => exact ⟨⟨rfl, trivial⟩, viewed⟩
  | none => exact duckCursor_oblivious steady path s t viewed

theorem fetchDuckdb_oblivious (steady : drivers.Steady) (name : String) (found : DsSpec)
    (sql : Sql)
    : Oblivious drivers shown deployment (fun _ => True) (fetchDuckdb drivers name found sql) := by
  refine (duckSession_oblivious steady found.uri).bind (fun session _ => ?_)
  refine (runStatement_oblivious steady name session sql).bind (fun answer _ => ?_)
  exact oblivious_lift (fun _ _ => trivial)

theorem fetchParquet_oblivious (steady : drivers.Steady) (name : String) (found : DsSpec)
    (sql : Sql)
    : Oblivious drivers shown deployment (fun _ => True)
        (fetchParquet drivers name found sql) := by
  refine (parquetCtx_oblivious steady found.uri).bind (fun _ _ => ?_)
  refine (runStatement_oblivious steady name _ sql).bind (fun answer _ => ?_)
  exact oblivious_lift (fun _ _ => trivial)

theorem fetch_oblivious (steady : drivers.Steady) (name : String) (sql : Sql)
    : Oblivious drivers shown deployment (fun _ => True) (fetch drivers shown name sql) := by
  refine (spec_oblivious name).bind (fun found registered => ?_)
  cases kind : found.kind with
  | postgres => exact fetchPostgres_oblivious steady registered kind sql
  | duckDb => exact fetchDuckdb_oblivious steady name found sql
  | parquet => exact fetchParquet_oblivious steady name found sql

theorem relpages_oblivious (steady : drivers.Steady) (name : String) (schema : Option String)
    (table : String)
    : Oblivious drivers shown deployment (fun _ => True)
        (relpages drivers shown name schema table) := by
  refine (fetch_oblivious steady name _).bind (fun answer _ => ?_)
  exact oblivious_lift (fun _ _ => trivial)

theorem estimateSelectivity_oblivious (steady : drivers.Steady) (name : String)
    (schema : Option String) (table column : String) (numKeys : Nat)
    : Oblivious drivers shown deployment (fun _ => True)
        (estimateSelectivity drivers shown name schema table column numKeys) := by
  refine (kind_oblivious name).bind (fun found _ => ?_)
  split
  · refine (fetch_oblivious steady name _).bind (fun answer _ => ?_)
    exact oblivious_lift (fun _ _ => trivial)
  · refine (fetch_oblivious steady name _).bind (fun answer _ => ?_)
    exact oblivious_lift (fun _ _ => trivial)

end Statements

-----------------------------------------------------------------------------------------
-- Index verdicts
-----------------------------------------------------------------------------------------

section Verdicts

variable {drivers : Drivers} {shown : ScalarValue → String} {deployment : Deployment}

/-- A mark that is in neither text shows where both end. -/
theorem marked_inj {mark : Char} {first second rest rest' : List Char} (absent : mark ∉ first)
    (absent' : mark ∉ second) (same : first ++ mark :: rest = second ++ mark :: rest')
    : first = second ∧ rest = rest' := by
  have upTo : ∀ {text tail : List Char}, mark ∉ text
      → (text ++ mark :: tail).takeWhile (· ≠ mark) = text := by
    intro text tail missing
    rw [List.takeWhile_append_of_pos]
    · simp
    · intro char inside
      exact decide_eq_true (fun equal => missing (equal ▸ inside))
  have start : first = second := by
    rw [← @upTo first rest absent, same, upTo absent']
  subst start
  exact ⟨rfl, (List.cons.inj (List.append_cancel_left same)).2⟩

/-- The keys of index questions whose parts have no mark in them are different. -/
theorem verdictKey_inj {name name' : String} {schema schema' : Option String}
    {table table' column column' : String} (askable : Askable name schema table)
    (askable' : Askable name' schema' table')
    (same : verdictKey name schema table column = verdictKey name' schema' table' column')
    : name = name' ∧ schema = schema' ∧ table = table' ∧ column = column' := by
  have mark : ("\x01" : String).toList = ['\x01'] := rfl
  have texts := congrArg String.toList same
  simp only [verdictKey, String.toList_append, mark, List.append_assoc, List.singleton_append]
    at texts
  obtain ⟨names, texts⟩ := marked_inj askable.plainName askable'.plainName texts
  obtain ⟨schemas, texts⟩ := marked_inj askable.plainSchema askable'.plainSchema texts
  obtain ⟨tables, columns⟩ := marked_inj askable.plainTable askable'.plainTable texts
  refine ⟨String.toList_inj.mp names, ?_, String.toList_inj.mp tables,
    String.toList_inj.mp columns⟩
  have inner := String.toList_inj.mp schemas
  have nonempty := askable.named
  have nonempty' := askable'.named
  cases schema with
  | none =>
      cases schema' with
      | none => rfl
      | some other => exact absurd (congrArg some inner.symm) nonempty'
  | some own =>
      cases schema' with
      | none => exact absurd (congrArg some inner) nonempty
      | some other => exact congrArg some inner

/-- The query of a statement, run on a connection. -/
theorem runQuery_answer (steady : drivers.Steady) {sources : Sources}
    (settled : Settled drivers shown deployment sources) (datasource : String)
    (session : Session) (sql : Sql)
    : ∃ after, runQuery drivers shown datasource session sql sources
          = (.ok ((drivers.query 0 (deployment.catalogs session.database) session sql).mapError
              Failure.adbc >>= normalizeAnswer shown), after)
        ∧ Viewed drivers shown deployment sources after := by
  refine ⟨(runQuery drivers shown datasource session sql sources).2, ?_,
    (Viewed.refl settled).stamped _ _ _ _⟩
  refine Prod.ext ?_ rfl
  change Except.ok ((drivers.query sources.clock (sources.catalogs _) session sql).mapError _ >>= _)
    = _
  rw [steady.query sources.clock, settled.catalogs]

/-- Only a connection that cannot be opened is missing. -/
theorem openPg_of_sessionOf {sources : Sources} {name : String} {found : DsSpec}
    {failure : PyErr} (missing : sessionOf drivers sources name found = .error failure)
    : openPg drivers 0 found = .error failure := by
  unfold sessionOf at missing
  cases cached : sources.pgCache.lookup name with
  | some session =>
      rw [cached] at missing
      cases missing
  | none =>
      rw [cached] at missing
      cases opens : openPg drivers 0 found with
      | ok opened =>
          rw [opens] at missing
          cases missing
      | error other =>
          rw [opens] at missing
          cases missing
          rfl

/-- The catalog query of an index question answers what a new connection would. -/
theorem pgColumnIndexed_answer (steady : drivers.Steady) {sources : Sources}
    (settled : Settled drivers shown deployment sources) {name : String} {found : DsSpec}
    (registered : deployment.registry.lookup name = some found)
    (postgres : found.kind = .postgres) {schema : Option String} {table : String}
    (askable : Askable name schema table) (column : String)
    : ∃ after, pgColumnIndexed drivers shown name schema table column sources
          = (indexAnswer drivers shown deployment found schema table column, after)
        ∧ Viewed drivers shown deployment sources after := by
  have asked : fetch drivers shown name (indexedSql schema table column) sources
      = fetchPostgres drivers shown name found (indexedSql schema table column) sources := by
    have looked : spec name sources = (.ok found, sources) := by
      unfold spec
      rw [Proc.get_bind_apply, settled.registry, registered]
      rfl
    unfold fetch
    rw [Proc.bind_of_ok looked, postgres]
  obtain ⟨opened, began, viewed, pooled⟩ := pgSession_answer steady settled registered postgres
  unfold pgColumnIndexed indexAnswer
  cases connected : sessionOf drivers sources name found with
  | error failure =>
      rw [connected] at began
      refine ⟨opened, ?_, viewed⟩
      rw [openPg_of_sessionOf connected]
      refine Proc.bind_of_error ?_ _
      rw [asked]
      exact Proc.bind_of_error began _
  | ok session =>
      rw [connected] at began
      obtain ⟨⟨other, registered', _, opens, target⟩, temps⟩ := pooled session connected
      cases registered.symm.trans registered'
      obtain ⟨after, ran, later⟩ :=
        runQuery_answer steady viewed.settledRight name session (indexedSql schema table column)
      refine ⟨after, ?_, viewed.trans later⟩
      rw [steady.indexed _ _ _ _ _ (temps table askable.permanent), Session.database,
        target, DsSpec.target_database] at ran
      have fetched : fetch drivers shown name (indexedSql schema table column) sources
          = ((drivers.query 0 (deployment.catalogs found.database) (.fresh found.target)
              (indexedSql schema table column)).mapError Failure.adbc >>= normalizeAnswer shown,
            after) := by
        rw [asked]
        unfold fetchPostgres
        rw [Proc.bind_of_ok began, Proc.bind_of_ok ran, Proc.lift_apply]
      rw [opens]
      cases answered
          : drivers.query 0 (deployment.catalogs found.database) (.fresh found.target)
              (indexedSql schema table column) with
      | error failure =>
          rw [answered] at fetched
          exact Proc.bind_of_error fetched _
      | ok answer =>
          rw [answered] at fetched
          change _ = ((normalizeAnswer shown answer >>= _ : Except PyErr Bool), after)
          change _ = (normalizeAnswer shown answer, after) at fetched
          cases normalized : normalizeAnswer shown answer with
          | error failure =>
              rw [normalized] at fetched
              exact Proc.bind_of_error fetched _
          | ok batches =>
              rw [normalized] at fetched
              exact Proc.bind_of_ok fetched _

/-- An index question is answered alike, whether its verdict is cached or not. -/
theorem columnHasIndex_oblivious (steady : drivers.Steady) {name : String} {found : DsSpec}
    (registered : deployment.registry.lookup name = some found)
    (postgres : found.kind = .postgres) {schema : Option String} {table : String}
    (askable : Askable name schema table) (column : String)
    : Oblivious drivers shown deployment (fun _ => True)
        (columnHasIndex drivers shown name schema table column) := by
  refine .of_answer (fun _ => indexAnswer drivers shown deployment found schema table column) ?_
    (fun _ _ _ => rfl)
  intro sources settled
  unfold columnHasIndex
  rw [Proc.get_bind_apply]
  cases cached : sources.verdicts.lookup (verdictKey name schema table column) with
  | some verdict =>
      obtain ⟨other, registered', answer⟩ :=
        settled.verdicts name schema table column verdict askable cached
      cases registered.symm.trans registered'
      rw [answer]
      exact ⟨_, rfl, (Viewed.refl settled).stamped _ _ _ _, fun _ _ => trivial⟩
  | none =>
      obtain ⟨after, ran, viewed⟩ :=
        pgColumnIndexed_answer steady settled registered postgres askable column
      cases outcome : indexAnswer drivers shown deployment found schema table column with
      | error failure =>
          rw [outcome] at ran
          exact ⟨after, Proc.bind_of_error ran _, viewed, fun _ _ => trivial⟩
      | ok indexed =>
          rw [outcome] at ran
          refine ⟨_, Proc.bind_of_ok ran _, ?_, fun _ _ => trivial⟩
          refine ⟨settled, ?_, viewed.sessions, viewed.pinned⟩
          have kept := viewed.settledRight
          refine ⟨kept.registry, kept.catalogs, kept.instances, kept.contexts, kept.pooled,
            kept.workers, ?_⟩
          intro name' schema' table' column' verdict askable' held
          by_cases same : verdictKey name' schema' table' column'
              = verdictKey name schema table column
          · obtain ⟨rfl, rfl, rfl, rfl⟩ := verdictKey_inj askable' askable same
            change (AList.insert _ _ _).lookup _ = _ at held
            rw [AList.lookup_insert] at held
            cases held
            exact ⟨found, registered, outcome⟩
          · change (AList.insert _ _ _).lookup _ = _ at held
            rw [AList.lookup_insert_ne same] at held
            exact kept.verdicts name' schema' table' column' verdict askable' held

end Verdicts

-----------------------------------------------------------------------------------------
-- Temp tables
-----------------------------------------------------------------------------------------

section TempTables

variable {drivers : Drivers} {shown : ScalarValue → String} {deployment : Deployment}

/-- A connection stays one that may be pooled when only the keys' temp table changes. -/
theorem Connected.kept {name : String} {session after : Session}
    (pooled : Connected drivers deployment name session)
    (kept : SessionKept dynKeysTempTable session after)
    : Connected drivers deployment name after := by
  obtain ⟨⟨found, registered, postgres, opens, target⟩, temps⟩ := pooled
  refine ⟨⟨found, registered, postgres, opens, kept.target.trans target⟩, ?_⟩
  intro table permanent
  have named : session.temps.kind = .postgres := by
    rw [session.named, target]
    exact postgres
  refine kept.temps table ?_ (temps table permanent)
  rw [named, DsKind.sameName_postgres]
  exact permanent

theorem fetchTempJoinPg_oblivious (steady : drivers.Steady) {name : String} {found : DsSpec}
    (registered : deployment.registry.lookup name = some found) (postgres : found.kind = .postgres)
    (keys : Batches) (sql : Sql)
    : Oblivious drivers shown deployment (fun _ => True)
        (fetchTempJoinPg drivers shown name found dynKeysTempTable keys sql) := by
  refine (pgSession_oblivious steady registered postgres).bind (fun session pooled => ?_)
  refine (dropIfExists_oblivious steady session deployment.unshadowed).bind
    (fun dropped afterDrop => ?_)
  have pooled₁ := pooled.kept afterDrop
  refine (putPg_oblivious pooled₁).bind (fun _ _ => ?_)
  refine (oblivious_lift (fun _ _ => trivial)).bind (fun _ _ => ?_)
  refine (ingestRows_oblivious steady dropped.2 dynKeysTempTable keys).bind
    (fun ingested afterIngest => ?_)
  have pooled₂ := pooled₁.kept afterIngest
  refine (putPg_oblivious pooled₂).bind (fun _ _ => ?_)
  refine (oblivious_lift (fun _ _ => trivial)).bind (fun _ _ => ?_)
  refine (runQuery_oblivious steady name ingested.2 sql).bind (fun result _ => ?_)
  refine (dropIfExists_oblivious steady ingested.2 deployment.unshadowed).bind
    (fun cleaned afterClean => ?_)
  refine (putPg_oblivious (pooled₂.kept afterClean)).bind (fun _ _ => ?_)
  exact oblivious_lift (fun _ _ => trivial)

theorem createTemp_oblivious (steady : drivers.Steady) (what : String) (session : Session)
    (table : String) (schema : Schema)
    : Oblivious drivers shown deployment (fun _ => True)
        (createTemp drivers what session table schema) := by
  refine oblivious_ticket (fun call => by rw [steady.create call]) ?_
  exact (oblivious_lift (fun _ _ => trivial)).bind (fun _ _ => oblivious_pure trivial)

theorem fetchTempJoinDuckdb_oblivious (steady : drivers.Steady) (name : String)
    (found : DsSpec) (tempTable : String) (keys : Batches) (sql : Sql)
    : Oblivious drivers shown deployment (fun _ => True)
        (fetchTempJoinDuckdb drivers name found tempTable keys sql) := by
  refine (duckCursor_oblivious steady found.uri).bind (fun cursor _ => ?_)
  refine (oblivious_lift (fun _ _ => trivial)).bind (fun _ _ => ?_)
  refine (createTemp_oblivious steady _ cursor tempTable _).bind (fun created _ => ?_)
  refine (ingestRows_oblivious steady created tempTable keys).bind (fun filled _ => ?_)
  refine (oblivious_lift (fun _ _ => trivial)).bind (fun _ _ => ?_)
  refine (runStatement_oblivious steady name filled.2 sql).bind (fun answer _ => ?_)
  exact oblivious_lift (fun _ _ => trivial)

theorem fetchTempJoin_oblivious (steady : drivers.Steady) (name : String) (keys : Batches)
    (sql : Sql)
    : Oblivious drivers shown deployment (fun _ => True)
        (fetchTempJoin drivers shown name dynKeysTempTable keys sql) := by
  refine (spec_oblivious name).bind (fun found registered => ?_)
  cases kind : found.kind with
  | postgres => exact fetchTempJoinPg_oblivious steady registered kind keys sql
  | duckDb => exact fetchTempJoinDuckdb_oblivious steady name found dynKeysTempTable keys sql
  | parquet => exact oblivious_fail _

theorem putPinned_oblivious (path : String) (session : Session)
    : Oblivious drivers shown deployment (fun _ => True) (putPinned path session) := by
  intro s t viewed
  refine ⟨⟨rfl, trivial⟩, ?_, ?_, viewed.sessions, congrArg (·.insert path session) viewed.pinned⟩
  · have kept := viewed.settledLeft
    exact ⟨kept.registry, kept.catalogs, kept.instances, kept.contexts, kept.pooled,
      kept.workers, kept.verdicts⟩
  · have kept := viewed.settledRight
    exact ⟨kept.registry, kept.catalogs, kept.instances, kept.contexts, kept.pooled,
      kept.workers, kept.verdicts⟩

theorem pinnedSession_oblivious (steady : drivers.Steady) (path : String)
    : Oblivious drivers shown deployment (fun _ => True) (pinnedSession drivers path) := by
  intro s t viewed
  unfold pinnedSession
  rw [Proc.get_bind_apply, Proc.get_bind_apply, viewed.pinned]
  cases t.pinnedDuck.lookup path with
  | some session => exact ⟨⟨rfl, trivial⟩, viewed⟩
  | none =>
      refine ((duckCursor_oblivious steady path).bind (fun cursor _ => ?_)) s t viewed
      exact (putPinned_oblivious path cursor).bind (fun _ _ => oblivious_pure trivial)

theorem createShippedTable_oblivious (steady : drivers.Steady) (path : String)
    (session : Session) {table : String}
    (absent : ∀ database, (deployment.catalogs database).schemaOf database.kind table = none)
    (rows : Batches)
    : Oblivious drivers shown deployment (fun _ => True)
        (createShippedTable drivers path session table rows) := by
  refine (oblivious_lift (fun _ _ => trivial)).bind (fun _ _ => ?_)
  refine (oblivious_record _).bind (fun _ _ => ?_)
  refine (dropIfExists_oblivious steady session absent).bind (fun dropped _ => ?_)
  refine (putPinned_oblivious path dropped.2).bind (fun _ _ => ?_)
  refine (oblivious_lift (fun _ _ => trivial)).bind (fun _ _ => ?_)
  refine (createTemp_oblivious steady _ dropped.2 table _).bind (fun created _ => ?_)
  refine (putPinned_oblivious path created).bind (fun _ _ => ?_)
  refine (ingestRows_oblivious steady created table rows).bind (fun filled _ => ?_)
  refine (putPinned_oblivious path filled.2).bind (fun _ _ => ?_)
  exact (oblivious_lift (fun _ _ => trivial)).bind (fun _ _ => oblivious_record _)

theorem shipTable_oblivious (steady : drivers.Steady) (name : String) {table : String}
    (absent : ∀ database, (deployment.catalogs database).schemaOf database.kind table = none)
    (rows : Batches)
    : Oblivious drivers shown deployment (fun _ => True)
        (shipTable drivers name table rows) := by
  refine (spec_oblivious name).bind (fun found _ => ?_)
  split
  · refine (pinnedSession_oblivious steady found.uri).bind (fun session _ => ?_)
    exact createShippedTable_oblivious steady found.uri session absent rows
  · exact oblivious_fail _

theorem Viewed.cleared {left right : Sources} (viewed : Viewed drivers shown deployment left right)
    : Viewed drivers shown deployment (clearShipments left) (clearShipments right) := by
  refine ⟨?_, ?_, viewed.sessions, rfl⟩
  · have kept := viewed.settledLeft
    exact ⟨kept.registry, kept.catalogs, kept.instances, kept.contexts, kept.pooled,
      kept.workers, kept.verdicts⟩
  · have kept := viewed.settledRight
    exact ⟨kept.registry, kept.catalogs, kept.instances, kept.contexts, kept.pooled,
      kept.workers, kept.verdicts⟩

end TempTables

-----------------------------------------------------------------------------------------
-- Parallel reads
-----------------------------------------------------------------------------------------

section Parallel

variable {drivers : Drivers} {shown : ScalarValue → String} {deployment : Deployment}

/-- A worker that has a connection could have opened it, and any other one opens it. -/
theorem runJob_answer (steady : drivers.Steady) {workers : Nat → NameMap Target}
    (settled : WorkersSettled drivers deployment workers) {name : String} {found : DsSpec}
    (registered : deployment.registry.lookup name = some found) {job : Job}
    (named : job.name = name) (described : job.spec = found) (worker : Nat)
    : (runJob drivers shown deployment.catalogs (workers worker) job).1.result
          = partitionAnswer drivers shown deployment found job.sql
        ∧ WorkersSettled drivers deployment
            (Function.update workers worker
              (runJob drivers shown deployment.catalogs (workers worker) job).2) := by
  have answered : ∀ target, target = found.target → openPg drivers 0 found = .ok ()
      → (answerJob drivers shown deployment.catalogs target job).result
        = partitionAnswer drivers shown deployment found job.sql := by
    rintro target rfl opens
    simp only [answerJob, partitionAnswer, steady.query job.call, opens]
    rfl
  unfold runJob
  subst named
  subst described
  cases held : (workers worker).lookup job.name with
  | some target =>
      obtain ⟨other, registered', opens, same⟩ := settled worker job.name target held
      cases registered.symm.trans registered'
      refine ⟨answered target same opens, ?_⟩
      rw [Function.update_eq_self]
      exact settled
  | none =>
      have same : openPg drivers job.call job.spec = openPg drivers 0 job.spec := by
        simp only [openPg, steady.openPg job.call]
      rw [same]
      cases opens : openPg drivers 0 job.spec with
      | error failure =>
          refine ⟨?_, ?_⟩
          · simp only [partitionAnswer, opens]
            rfl
          · rw [Function.update_eq_self]
            exact settled
      | ok opened =>
          refine ⟨answered job.spec.target rfl opens, ?_⟩
          intro other name' target' held'
          by_cases here : other = worker
          · subst here
            rw [Function.update_self] at held'
            by_cases mine : name' = job.name
            · subst mine
              rw [AList.lookup_insert] at held'
              cases held'
              exact ⟨job.spec, registered, opens, rfl⟩
            · rw [AList.lookup_insert_ne mine] at held'
              exact settled other name' target' held'
          · rw [Function.update_of_ne here] at held'
            exact settled other name' target' held'

/-- The jobs of one read are answered alike by any workers, by induction over the jobs. -/
theorem serveInOrder_answers (steady : drivers.Steady) {name : String} {found : DsSpec}
    (registered : deployment.registry.lookup name = some found) {jobs : List Job}
    (own : ∀ job ∈ jobs, job.name = name ∧ job.spec = found)
    {workers : Nat → NameMap Target} (settled : WorkersSettled drivers deployment workers)
    : let served := WorkerPool.serveInOrder workerOf (runJob drivers shown deployment.catalogs)
        workers jobs
      served.1.map Reply.result
          = jobs.map (fun job => partitionAnswer drivers shown deployment found job.sql)
        ∧ WorkersSettled drivers deployment served.2 := by
  induction jobs generalizing workers with
  | nil => exact ⟨rfl, settled⟩
  | cons job rest ih =>
      obtain ⟨named, described⟩ := own job List.mem_cons_self
      obtain ⟨answer, after⟩ :=
        @runJob_answer _ shown _ steady _ settled _ _ registered job named described
          (workerOf job)
      obtain ⟨answers, final⟩ := ih (fun other later => own other (List.mem_cons_of_mem job later))
        after
      exact ⟨congrArg₂ List.cons answer answers, final⟩

/-- The jobs of a parallel read, from wherever the drivers' calls are counted. -/
theorem partitionJobs_answers (steady : drivers.Steady) {name : String} {found : DsSpec}
    (registered : deployment.registry.lookup name = some found) (list : SelectList)
    (source : TableRef) (whereClause : Option SqlExpr) (ranges : List (Nat × Nat))
    {sources : Sources} (settled : Settled drivers shown deployment sources)
    : ∃ replies after,
        runJobs drivers shown
            (partitionJobs name found sources.clock list source whereClause ranges) sources
          = (.ok replies, after)
        ∧ replies.map Reply.result
          = ranges.map (fun range =>
              partitionAnswer drivers shown deployment found
                (ctidSql list source range whereClause))
        ∧ Viewed drivers shown deployment sources after := by
  let jobs := partitionJobs name found sources.clock list source whereClause ranges
  obtain ⟨answers, final⟩ := @serveInOrder_answers _ shown _ steady _ _ registered jobs
    (fun job member => partitionJobs_mem member) _ settled.workers
  rw [← settled.catalogs] at answers final
  refine ⟨_, _, rfl, ?_, ⟨settled, ?_, fun _ _ _ => rfl, rfl⟩⟩
  · refine answers.trans (List.ext_getElem ?_ ?_)
    · simp [jobs, partitionJobs]
    · intro index inside inside'
      simp [jobs, partitionJobs]
  · exact ⟨settled.registry, settled.catalogs, settled.instances, settled.contexts,
      settled.pooled, final, settled.verdicts⟩

theorem fetchParallel_oblivious (steady : drivers.Steady) (name : String) (source : TableRef)
    (list : SelectList) (partitions : Nat) (whereClause : Option SqlExpr)
    : Oblivious drivers shown deployment (fun _ => True)
        (fetchParallel drivers shown name source list partitions whereClause) := by
  refine (spec_oblivious name).bind (fun found registered => ?_)
  split
  · refine (relpages_oblivious steady name source.schema source.table).bind (fun pages _ => ?_)
    refine (oblivious_lift (fun _ _ => trivial)).bind (fun ranges _ => ?_)
    refine .of_answer (fun _ =>
      (ranges.map (fun range =>
          partitionAnswer drivers shown deployment found
            (ctidSql list source range whereClause))).mapM id
        >>= gatherPartitions shown) ?_ (fun _ _ _ => rfl)
    intro sources settled
    obtain ⟨replies, after, ran, results, viewed⟩ :=
      partitionJobs_answers steady registered list source whereClause ranges settled
    refine ⟨after, ?_, viewed, fun _ _ => trivial⟩
    rw [Proc.get_bind_apply, Proc.bind_of_ok ran, Proc.lift_apply, ← results]
    unfold gatherReplies
    rw [List.mapM_map]
    rfl
  · exact oblivious_fail _

end Parallel

end Fedqrs
