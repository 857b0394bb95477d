import Fedqrs.Connectors.CallEffects

/-! What a connector read that succeeds returns: the driver's answer to one query, logged with
the session it ran on, its numeric columns normalized where the source is Postgres.
-/

namespace Fedqrs

variable {drivers : Drivers} {shown : ScalarValue → String} {sources reached : Sources}
  {name : String} {found : DsSpec} {sql : Sql} {result : Batches}

/-- The session that a query for a datasource runs on. -/
def Sources.sessionFor (sources : Sources) (name : String) (found : DsSpec) : Session :=
  match found.kind with
  | .postgres => sources.pooled name found
  | .duckDb => sources.pinnedOn found.uri
  | .parquet => .fresh found.target

/-- A relation as the connector makes it of an answer. -/
def Received (shown : ScalarValue → String) (kind : DsKind) (answer result : Batches) : Prop :=
  match kind with
  | .postgres => normalizeAnswer shown answer = .ok result
  | .duckDb | .parquet => result = answer

/-- The sources after a query of a datasource. -/
def Sources.asked (sources : Sources) (name : String) (session : Session) (sql : Sql)
    (answer : Except Failure Batches)
    : Sources :=
  {
    sources with
    clock := sources.clock + 1
    log := sources.log ++ [.read name session sql answer]
  }

theorem runStatement_apply (session : Session) (sql : Sql) (sources : Sources)
    : runStatement drivers name session sql sources
      = (.ok (drivers.query sources.clock (sources.catalogs session.database) session sql),
          sources.asked name session sql
            (drivers.query sources.clock (sources.catalogs session.database) session sql)) :=
  rfl

/-- A session's query that was answered, and what the connector made of the answer. -/
structure Reads (drivers : Drivers) (shown : ScalarValue → String) (kind : DsKind)
    (sources : Sources) (name : String) (session : Session) (sql : Sql) (answer result : Batches)
    (reached : Sources)
    : Prop where
  answered : ∃ call, drivers.query call (sources.catalogs session.database) session sql = .ok answer
  received : Received shown kind answer result
  logged : reached = sources.asked name session sql (.ok answer)

/-- A query whose answer is passed on, with its failure worded. -/
theorem reads_of_statement {kind : DsKind} (native : kind ≠ .postgres)
    {wording : Failure → String} {session : Session}
    (ran : (do
        let answer ← runStatement drivers name session sql
        Proc.lift (answer.mapError wording)
        : SourceM Batches) sources = (.ok result, reached))
    : Reads drivers shown kind sources name session sql result result reached := by
  rw [Proc.bind_of_ok (runStatement_apply session sql sources), Proc.lift_apply] at ran
  obtain ⟨passed, same⟩ := Prod.mk.inj ran
  have answered := Except.mapError_eq_ok.mp passed
  refine ⟨⟨sources.clock, answered⟩, ?_, ?_⟩
  · cases kind with
    | postgres => exact absurd rfl native
    | duckDb | parquet => rfl
  · rw [← same, answered]

/-- A query on Postgres, whose numeric columns are normalized. -/
theorem reads_of_query {session : Session} {asked : Sources}
    (ran : runQuery drivers shown name session sql sources = (.ok (.ok result), asked))
    : ∃ answer, Reads drivers shown .postgres sources name session sql answer result asked := by
  rw [runQuery, Proc.bind_of_ok (runStatement_apply session sql sources)] at ran
  obtain ⟨normalized, same⟩ := Prod.mk.inj ran
  obtain ⟨answer, answered, received⟩ := Except.bind_eq_ok.mp (Except.ok.inj normalized)
  have answered := Except.mapError_eq_ok.mp answered
  refine ⟨answer, ⟨sources.clock, answered⟩, received, ?_⟩
  rw [← same, answered]

-----------------------------------------------------------------------------------------
-- Sessions of reads
-----------------------------------------------------------------------------------------

theorem spec_eq_ok (ran : spec name sources = (.ok found, reached))
    : reached = sources ∧ sources.registry.lookup name = some found := by
  have leads
      : Proc.Leads (SourceEffect (fun _ => True)) sources (spec name) (fun found reached =>
          reached = sources ∧ sources.registry.lookup name = some found) :=
    leads_spec name
  exact leads.after found reached ran

theorem kind_eq_ok {kind : DsKind} (ran : Fedqrs.kind name sources = (.ok kind, reached))
    : reached = sources
        ∧ ∃ spec, sources.registry.lookup name = some spec ∧ spec.kind = kind := by
  obtain ⟨spec, same, named, done⟩ := Proc.bind_eq_ok.mp ran
  obtain ⟨rfl, registered⟩ := spec_eq_ok named
  cases done
  exact ⟨rfl, spec, registered, rfl⟩

/-- The pooled connection is that of the datasource. -/
theorem pgSession_eq_ok {session : Session} (registered : sources.registry.lookup name = some found)
    (postgres : found.kind = .postgres)
    (ran : pgSession drivers name found sources = (.ok session, reached))
    : session = sources.pooled name found ∧ Pooled name session sources reached := by
  have leads
      : Proc.Leads (SourceEffect (fun _ => True)) sources (pgSession drivers name found)
          (fun session reached =>
            session = sources.pooled name found ∧ Pooled name session sources reached) :=
    leads_pgSession registered postgres
  exact leads.after session reached ran

/-- So is the pinned one, or a fresh cursor. -/
theorem duckSession_eq_ok {session : Session} {path : String}
    (ran : duckSession drivers path sources = (.ok session, reached))
    : session = sources.pinnedOn path ∧ Quiet sources reached := by
  unfold duckSession at ran
  rw [Proc.get_bind_apply] at ran
  cases held : sources.pinnedDuck.lookup path with
  | some pinned =>
      rw [held] at ran
      cases ran
      exact ⟨by simp [Sources.pinnedOn, held], Quiet.refl sources⟩
  | none =>
      rw [held] at ran
      have leads
          : Proc.Leads (SourceEffect (fun _ => True)) sources (duckCursor drivers path)
              (fun session reached =>
                session = .fresh (.duck path) ∧ Quiet sources reached) :=
        leads_duckCursor path
      obtain ⟨rfl, quiet⟩ := leads.after session reached ran
      exact ⟨by simp [Sources.pinnedOn, held], quiet⟩

theorem parquetCtx_eq_ok {dir : String}
    (ran : parquetCtx drivers dir sources = (.ok (), reached))
    : Quiet sources reached := by
  have leads
      : Proc.Leads (SourceEffect (fun _ => True)) sources (parquetCtx drivers dir)
          (fun _ reached => Quiet sources reached) :=
    leads_parquetCtx dir
  exact leads.after () reached ran

/-- What a fetch that succeeds returns: the answer to its query, as its source's kind makes it,
on the session for its datasource; by cases on the kind.
-/
theorem fetch_reads (fetched : fetch drivers shown name sql sources = (.ok result, reached))
    : ∃ found opened answer,
        sources.registry.lookup name = some found
          ∧ opened.log = sources.log ∧ opened.catalogs = sources.catalogs
          ∧ Reads drivers shown found.kind opened name (sources.sessionFor name found) sql answer
              result reached := by
  obtain ⟨found, same, named, ran⟩ := Proc.bind_eq_ok.mp fetched
  obtain ⟨rfl, registered⟩ := spec_eq_ok named
  refine ⟨found, ?_⟩
  cases kind : found.kind with
  | postgres =>
      simp only [kind] at ran
      obtain ⟨session, opened, connected, ran⟩ := Proc.bind_eq_ok.mp ran
      obtain ⟨rfl, pooled⟩ := pgSession_eq_ok registered kind connected
      obtain ⟨outcome, asked, queried, passed⟩ := Proc.bind_eq_ok.mp ran
      rw [Proc.lift_apply] at passed
      obtain ⟨rfl, rfl⟩ := Prod.mk.inj passed
      obtain ⟨answer, reads⟩ := reads_of_query queried
      refine ⟨opened, answer, registered, pooled.log, pooled.catalogs, ?_⟩
      simpa only [Sources.sessionFor, kind] using reads
  | duckDb =>
      simp only [kind] at ran
      obtain ⟨session, opened, connected, ran⟩ := Proc.bind_eq_ok.mp ran
      obtain ⟨rfl, quiet⟩ := duckSession_eq_ok connected
      refine ⟨opened, result, registered, quiet.log, quiet.catalogs, ?_⟩
      simpa only [Sources.sessionFor, kind] using reads_of_statement (by decide) ran
  | parquet =>
      simp only [kind] at ran
      obtain ⟨_, opened, connected, ran⟩ := Proc.bind_eq_ok.mp ran
      have quiet := parquetCtx_eq_ok connected
      refine ⟨opened, result, registered, quiet.log, quiet.catalogs, ?_⟩
      simpa only [Sources.sessionFor, kind] using reads_of_statement (by decide) ran

-----------------------------------------------------------------------------------------
-- Semi-joins
-----------------------------------------------------------------------------------------

/-- The permanent tables after an unqualified drop on a session: those before it, unless it
missed a temp table.
-/
def DropsOnly (session : Session) (table : String) (before after : Database → Catalog) : Prop :=
  after = before
    ∨ session.temps.lookup table = none
      ∧ after
        = Function.update before session.database
            ((before session.database).dropUnqualified session.database.kind table)

theorem dropIfExists_eq_ok {session : Session} {table : String}
    {dropped : Except Failure Unit × Session}
    (ran : dropIfExists drivers session table sources = (.ok dropped, reached))
    : Retabled table session dropped.2 ∧ Kept sources reached
        ∧ DropsOnly session table sources.catalogs reached.catalogs := by
  obtain ⟨call, ticked, first, ran⟩ := Proc.bind_eq_ok.mp ran
  cases first
  cases outcome : drivers.drop sources.clock session table with
  | error failure =>
      simp only [outcome] at ran
      cases ran
      exact ⟨.refl table session, ⟨rfl, rfl, rfl, rfl, rfl⟩, Or.inl rfl⟩
  | ok _ =>
      cases temp : session.temps.lookup table with
      | some rows =>
          simp only [outcome, temp] at ran
          cases ran
          exact ⟨.erase table session, ⟨rfl, rfl, rfl, rfl, rfl⟩, Or.inl rfl⟩
      | none =>
          simp only [outcome, temp] at ran
          cases ran
          exact ⟨.refl table session, ⟨rfl, rfl, rfl, rfl, rfl⟩, Or.inr ⟨temp, rfl⟩⟩

theorem ingestRows_eq_ok {session : Session} {table : String} {rows : Batches}
    {ingested : Except Failure Unit × Session}
    (ran : ingestRows drivers session table rows sources = (.ok ingested, reached))
    : Retabled table session ingested.2 ∧ Quiet sources reached
        ∧ (ingested.1 = .ok () → ∃ call kept,
          drivers.ingest call session table rows = .stored kept
            ∧ ingested.2.temps.lookup table = some kept) := by
  have leads
      : Proc.Leads (SourceEffect (fun _ => True)) sources
          (ingestRows drivers session table rows)
          (fun ingested reached =>
            Retabled table session ingested.2 ∧ Quiet sources reached
              ∧ (ingested.1 = .ok () → ∃ call kept,
                drivers.ingest call session table rows = .stored kept
                  ∧ ingested.2.temps.lookup table = some kept)) :=
    leads_ingestRows
  exact leads.after ingested reached ran

/-- The session of a semi-join: that of its datasource on Postgres, a fresh cursor on DuckDB. -/
def Sources.joinSession (sources : Sources) (name : String) (found : DsSpec) : Session :=
  match found.kind with
  | .postgres => sources.pooled name found
  | .duckDb | .parquet => .fresh found.target

/-- The session of a semi-join with its keys table, which holds what the driver stored of the
keys.
-/
structure Keyed (drivers : Drivers) (table : String) (keys : Batches) (session next : Session)
    : Prop
    extends Retabled table session next where
  stored : ∃ call cursor kept, drivers.ingest call cursor table keys = .stored kept
    ∧ next.temps.lookup table = some kept

/-- A semi-join that succeeds returns an answer on the session with the keys table. -/
structure Joins (drivers : Drivers) (shown : ScalarValue → String) (found : DsSpec)
    (sources : Sources) (name table : String) (keys : Batches) (sql : Sql)
    (session : Session) (answer result : Batches) (opened : Sources)
    : Prop where
  log : opened.log = sources.log
  catalogs
    : DropsOnly (sources.joinSession name found) table sources.catalogs opened.catalogs
  keyed : Keyed drivers table keys (sources.joinSession name found) session
  reads : ∃ asked, Reads drivers shown found.kind opened name session sql answer result asked

/-- A semi-join on Postgres that succeeds, by its steps: the keys table is dropped from the pooled
connection, made again by the ingest, and read by the query.
-/
structure PgJoins (drivers : Drivers) (shown : ScalarValue → String) (sources : Sources)
    (name table : String) (keys : Batches) (sql : Sql) (pooled dropped session : Session)
    (rows answer result : Batches) (opened : Sources)
    : Prop where
  log : opened.log = sources.log
  catalogs : DropsOnly pooled table sources.catalogs opened.catalogs
  emptied : Retabled table pooled dropped
  ingested : ∃ call, drivers.ingest call dropped table keys = .stored rows
  filled : Retabled table dropped session
  holds : session.temps.lookup table = some rows
  reads : ∃ asked, Reads drivers shown .postgres opened name session sql answer result asked

theorem fetchTempJoinPg_eq_ok {table : String} {keys : Batches}
    (registered : sources.registry.lookup name = some found) (postgres : found.kind = .postgres)
    (joined
      : fetchTempJoinPg drivers shown name found table keys sql sources = (.ok result, reached))
    : ∃ dropped session rows answer opened,
        PgJoins drivers shown sources name table keys sql (sources.pooled name found) dropped
          session rows answer result opened
          ∧ reached.log = sources.log ++ [.read name session sql (.ok answer)] := by
  obtain ⟨session, opened, connected, ran⟩ := Proc.bind_eq_ok.mp joined
  obtain ⟨rfl, pooled⟩ := pgSession_eq_ok registered postgres connected
  obtain ⟨dropped, missing, drops, ran⟩ := Proc.bind_eq_ok.mp ran
  obtain ⟨retabled, kept, only⟩ := dropIfExists_eq_ok drops
  obtain ⟨_, held, put, ran⟩ := Proc.bind_eq_ok.mp ran
  cases put
  obtain ⟨_, _, ran⟩ := Proc.lift_bind_eq_ok.mp ran
  obtain ⟨ingested, filled, ingests, ran⟩ := Proc.bind_eq_ok.mp ran
  obtain ⟨retabled', quiet, stored⟩ := ingestRows_eq_ok ingests
  obtain ⟨_, held, put, ran⟩ := Proc.bind_eq_ok.mp ran
  cases put
  obtain ⟨_, succeeded, ran⟩ := Proc.lift_bind_eq_ok.mp ran
  obtain ⟨call, rows, stored, holds⟩ := stored (Except.mapError_eq_ok.mp succeeded)
  obtain ⟨outcome, asked, queried, ran⟩ := Proc.bind_eq_ok.mp ran
  obtain ⟨cleaned, emptied, cleans, ran⟩ := Proc.bind_eq_ok.mp ran
  obtain ⟨_, kept', _⟩ := dropIfExists_eq_ok cleans
  obtain ⟨_, last, put, passed⟩ := Proc.bind_eq_ok.mp ran
  cases put
  rw [Proc.lift_apply] at passed
  obtain ⟨rfl, rfl⟩ := Prod.mk.inj passed
  obtain ⟨answer, reads⟩ := reads_of_query queried
  have log : filled.log = sources.log := quiet.log.trans (kept.log.trans pooled.log)
  refine
    ⟨dropped.2, ingested.2, rows, answer,
      { filled with pgCache := filled.pgCache.insert name ingested.2 },
      ⟨log, ?_, retabled, ⟨call, stored⟩, retabled', holds, ⟨asked, reads⟩⟩, ?_⟩
  · rw [← pooled.catalogs]
    exact quiet.catalogs ▸ only
  · have same : emptied.log = filled.log ++ [.read name ingested.2 sql (.ok answer)] := by
      rw [kept'.log, reads.logged]
      rfl
    exact same.trans (by rw [log])

theorem fetchTempJoinPg_joins {table : String} {keys : Batches}
    (registered : sources.registry.lookup name = some found) (postgres : found.kind = .postgres)
    (joined
      : fetchTempJoinPg drivers shown name found table keys sql sources = (.ok result, reached))
    : ∃ session answer opened,
        Joins drivers shown found sources name table keys sql session answer result opened
          ∧ reached.log = sources.log ++ [.read name session sql (.ok answer)] := by
  obtain ⟨dropped, session, rows, answer, opened, joins, log⟩ :=
    fetchTempJoinPg_eq_ok registered postgres joined
  obtain ⟨call, stored⟩ := joins.ingested
  refine ⟨session, answer, opened, ⟨joins.log, ?_, ?_, ?_⟩, log⟩
  · simp only [Sources.joinSession, postgres]
    exact joins.catalogs
  · simp only [Sources.joinSession, postgres]
    exact ⟨joins.emptied.trans joins.filled, call, dropped, rows, stored, joins.holds⟩
  · rw [postgres]
    exact joins.reads

theorem fetchTempJoinDuckdb_joins {table : String} {keys : Batches} (duck : found.kind = .duckDb)
    (joined
      : fetchTempJoinDuckdb drivers name found table keys sql sources = (.ok result, reached))
    : ∃ session answer opened,
        Joins drivers shown found sources name table keys sql session answer result opened
          ∧ reached.log = sources.log ++ [.read name session sql (.ok answer)] := by
  obtain ⟨cursor, opened, connected, ran⟩ := Proc.bind_eq_ok.mp joined
  have leads
      : Proc.Leads (SourceEffect (fun _ => True)) sources (duckCursor drivers found.uri)
          (fun session reached =>
            session = .fresh (.duck found.uri) ∧ Quiet sources reached) :=
    leads_duckCursor found.uri
  obtain ⟨rfl, quiet⟩ := leads.after cursor opened connected
  obtain ⟨_, _, ran⟩ := Proc.lift_bind_eq_ok.mp ran
  obtain ⟨created, made, creates, ran⟩ := Proc.bind_eq_ok.mp ran
  have leads
      : Proc.Leads (SourceEffect (fun _ => True)) opened
          (createTemp drivers "duckdb temp table" (.fresh (.duck found.uri)) table
            (keySchema keys))
          (fun created reached =>
            Retabled table (.fresh (.duck found.uri)) created ∧ Quiet opened reached) :=
    leads_createTemp
  obtain ⟨retabled, quiet'⟩ := leads.after created made creates
  obtain ⟨ingested, filled, ingests, ran⟩ := Proc.bind_eq_ok.mp ran
  obtain ⟨retabled', quiet'', stored⟩ := ingestRows_eq_ok ingests
  obtain ⟨_, succeeded, ran⟩ := Proc.lift_bind_eq_ok.mp ran
  obtain ⟨call, rows, stored, holds⟩ := stored (Except.mapError_eq_ok.mp succeeded)
  have reads : Reads drivers shown .duckDb filled name ingested.2 sql result result reached :=
    reads_of_statement (by decide) ran
  have all : Quiet sources filled := (quiet.trans quiet').trans quiet''
  refine ⟨ingested.2, result, filled, ⟨all.log, Or.inl all.catalogs, ?_, ?_⟩, ?_⟩
  · simp only [Sources.joinSession, duck, DsSpec.target_duck duck]
    exact ⟨retabled.trans retabled', call, created, rows, stored, holds⟩
  · rw [duck]
    exact ⟨reached, reads⟩
  · rw [reads.logged, ← all.log]
    rfl

/-- What a semi-join that succeeds returns; by cases on the kind. -/
theorem fetchTempJoin_joins {table : String} {keys : Batches}
    (joined : fetchTempJoin drivers shown name table keys sql sources = (.ok result, reached))
    : ∃ found session answer opened,
        sources.registry.lookup name = some found
          ∧ Joins drivers shown found sources name table keys sql session answer result opened
          ∧ reached.log = sources.log ++ [.read name session sql (.ok answer)] := by
  obtain ⟨found, same, named, ran⟩ := Proc.bind_eq_ok.mp joined
  obtain ⟨rfl, registered⟩ := spec_eq_ok named
  cases kind : found.kind with
  | postgres =>
      simp only [kind] at ran
      obtain ⟨session, answer, opened, held⟩ := fetchTempJoinPg_joins registered kind ran
      exact ⟨found, session, answer, opened, registered, held⟩
  | duckDb =>
      simp only [kind] at ran
      obtain ⟨session, answer, opened, held⟩ := fetchTempJoinDuckdb_joins kind ran
      exact ⟨found, session, answer, opened, registered, held⟩
  | parquet =>
      simp only [kind] at ran
      cases ran

-----------------------------------------------------------------------------------------
-- The parallel read
-----------------------------------------------------------------------------------------

/-- What a worker's connection for a datasource is opened for: the one it has under the name, or a
new one.
-/
def Sources.workerTarget (sources : Sources) (name : String) (found : DsSpec) (worker : Nat)
    : Target :=
  ((sources.workers worker).lookup name).getD found.target

/-- The session that a worker reads a datasource on, which has no temp tables. -/
def Sources.workerSession (sources : Sources) (name : String) (found : DsSpec) (worker : Nat)
    : Session :=
  .fresh (sources.workerTarget name found worker)

/-- A worker's connections are such that it reads the datasource where it read it at first. -/
def StaysOn (sources : Sources) (name : String) (found : DsSpec) (worker : Nat)
    (conns : NameMap Target)
    : Prop :=
  (conns.lookup name).getD found.target = sources.workerTarget name found worker

/-- An answer to a job's query, on the connection of its worker. -/
structure AnsweredOn (drivers : Drivers) (sources : Sources) (name : String) (found : DsSpec)
    (events : List Event) (job : Job) (answer : Batches)
    : Prop where
  answered
    : drivers.query job.call
        (sources.catalogs (sources.workerSession name found (workerOf job)).database)
        (sources.workerSession name found (workerOf job)) job.sql
      = .ok answer
  logged
    : .read name (sources.workerSession name found (workerOf job)) job.sql (.ok answer) ∈ events

theorem AnsweredOn.mono {events more : List Event} {job : Job} {answer : Batches}
    (answered : AnsweredOn drivers sources name found events job answer)
    (subset : ∀ event ∈ events, event ∈ more)
    : AnsweredOn drivers sources name found more job answer :=
  ⟨answered.answered, subset _ answered.logged⟩

/-- A reply that is no failure is an answer, normalized. -/
def Replied (drivers : Drivers) (shown : ScalarValue → String) (sources : Sources)
    (name : String) (found : DsSpec) (job : Job) (reply : Reply)
    : Prop :=
  ∀ result, reply.result = .ok result
    → ∃ answer, AnsweredOn drivers sources name found reply.events job answer
        ∧ normalizeAnswer shown answer = .ok result

theorem answerJob_replied {job : Job} (named : job.name = name)
    : Replied drivers shown sources name found job
        (answerJob drivers shown sources.catalogs
          (sources.workerTarget name found (workerOf job)) job) := by
  intro result succeeded
  obtain ⟨answer, answered, normalized⟩ := Except.bind_eq_ok.mp succeeded
  have answered := Except.mapError_eq_ok.mp answered
  refine ⟨answer, ⟨answered, ?_⟩, normalized⟩
  simp [answerJob, named, answered, Sources.workerSession]

/-- Whether it has its connection or opens it, a worker replies on its own and keeps that
for later jobs; by cases on the connection.
-/
theorem runJob_replied {conns : NameMap Target} {job : Job}
    (stays : StaysOn sources name found (workerOf job) conns)
    (named : job.name = name) (own : job.spec = found)
    : StaysOn sources name found (workerOf job)
          (runJob drivers shown sources.catalogs conns job).2
        ∧ Replied drivers shown sources name found job
          (runJob drivers shown sources.catalogs conns job).1 := by
  unfold StaysOn at stays ⊢
  unfold runJob
  rw [named, own]
  cases held : conns.lookup name with
  | some target =>
      have same : target = sources.workerTarget name found (workerOf job) := by
        simpa only [held, Option.getD_some] using stays
      subst same
      exact ⟨stays, answerJob_replied named⟩
  | none =>
      have same : found.target = sources.workerTarget name found (workerOf job) := by
        simpa only [held, Option.getD_none] using stays
      cases openPg drivers job.call found with
      | error failure =>
          refine ⟨stays, ?_⟩
          intro result succeeded
          cases succeeded
      | ok _ =>
          rw [same]
          refine ⟨?_, answerJob_replied named⟩
          simp only [AList.lookup_insert, Option.getD_some]

/-- The replies of the pool to the jobs of a parallel read. -/
theorem partitionJobs_replied (call : Nat) (list : SelectList) (source : TableRef)
    (whereClause : Option SqlExpr) (ranges : List (Nat × Nat))
    : List.Forall₂ (Replied drivers shown sources name found)
        (partitionJobs name found call list source whereClause ranges)
        (WorkerPool.serveInOrder workerOf (runJob drivers shown sources.catalogs) sources.workers
          (partitionJobs name found call list source whereClause ranges)).1 := by
  have before : ∀ worker, StaysOn sources name found worker (sources.workers worker) :=
    fun worker => rfl
  apply WorkerPool.serveInOrder_related _ before
  intro conns job member stays
  obtain ⟨named, own⟩ := partitionJobs_mem member
  exact runJob_replied stays named own

/-- The replies to the jobs, gathered, are what the code makes of the answers to them; by
induction over the replies.
-/
theorem gatherReplies_replied {jobs : List Job} {replies : List Reply}
    (replied : List.Forall₂ (Replied drivers shown sources name found) jobs replies)
    (gathered : gatherReplies shown replies = .ok result)
    : ∃ answers,
        List.Forall₂ (AnsweredOn drivers sources name found (replies.flatMap Reply.events)) jobs
            answers
          ∧ gatherAnswers shown answers = .ok result := by
  obtain ⟨parts, received, whole⟩ := Except.bind_eq_ok.mp gathered
  have collected := Except.mapM_eq_ok received
  have normalized
      : ∃ answers,
          List.Forall₂ (AnsweredOn drivers sources name found (replies.flatMap Reply.events)) jobs
              answers
            ∧ answers.mapM (normalizeAnswer shown) = .ok parts := by
    clear received whole gathered
    induction replied generalizing parts with
    | nil =>
        cases collected
        exact ⟨[], .nil, rfl⟩
    | cons head _ ih =>
        cases collected with
        | cons here there =>
            obtain ⟨answer, answered, part⟩ := head _ here
            obtain ⟨answers, others, rest⟩ := ih _ there
            refine ⟨answer :: answers, .cons ?_ ?_, ?_⟩
            · exact answered.mono (fun event member => by simp [member])
            · refine others.imp (fun job other found => found.mono (fun event member => ?_))
              rw [List.flatMap_cons]
              exact List.mem_append_right _ member
            · rw [List.mapM_cons, part, rest]
              rfl
  obtain ⟨answers, each, all⟩ := normalized
  refine ⟨answers, each, ?_⟩
  rw [gatherAnswers, all]
  exact whole

/-- Answers to jobs for some ranges are answers to the ranges' queries; by induction along the
jobs.
-/
theorem forall₂_asked {α : Type} {asked : Nat × Nat → Sql} {holds : Sql → α → Prop}
    {jobs : List Job} {ranges : List (Nat × Nat)} {answers : List α}
    (asks : List.Forall₂ (fun job range => job.sql = asked range) jobs ranges)
    (answered : List.Forall₂ (fun job answer => holds job.sql answer) jobs answers)
    : List.Forall₂ (fun range answer => holds (asked range) answer) ranges answers := by
  induction asks generalizing answers with
  | nil =>
      cases answered
      exact .nil
  | cons same _ ih =>
      cases answered with
      | cons head tail => exact .cons (same ▸ head) (ih tail)

/-- What a parallel read that succeeds returns: the answers to the jobs for its page ranges,
gathered.
-/
theorem fetchParallel_gathers {source : TableRef} {list : SelectList} {partitions : Nat}
    {whereClause : Option SqlExpr}
    (fetched : fetchParallel drivers shown name source list partitions whereClause sources
      = (.ok result, reached))
    : ∃ found pages paged ranges answers events,
        sources.registry.lookup name = some found
          ∧ found.kind = .postgres
          ∧ relpages drivers shown name source.schema source.table sources = (.ok pages, paged)
          ∧ ctidRanges pages partitions = .ok ranges
          ∧ List.Forall₂ (AnsweredOn drivers paged name found events)
            (partitionJobs name found paged.clock list source whereClause ranges) answers
          ∧ gatherAnswers shown answers = .ok result
          ∧ reached.log = paged.log ++ events := by
  obtain ⟨found, same, named, ran⟩ := Proc.bind_eq_ok.mp fetched
  obtain ⟨rfl, registered⟩ := spec_eq_ok named
  by_cases postgres : found.kind = .postgres
  · simp only [postgres, if_true] at ran
    obtain ⟨pages, paged, counted, ran⟩ := Proc.bind_eq_ok.mp ran
    obtain ⟨ranges, split, ran⟩ := Proc.lift_bind_eq_ok.mp ran
    rw [Proc.get_bind_apply] at ran
    obtain ⟨replies, served, serves, ran⟩ := Proc.bind_eq_ok.mp ran
    rw [Proc.lift_apply] at ran
    obtain ⟨gathered, rfl⟩ := Prod.mk.inj ran
    cases serves
    obtain ⟨answers, answered, whole⟩ :=
      gatherReplies_replied (partitionJobs_replied ..) gathered
    exact ⟨found, pages, paged, ranges, answers, _, registered, postgres, counted, split,
      answered, whole, rfl⟩
  · simp only [postgres, if_false] at ran
    cases ran

end Fedqrs
