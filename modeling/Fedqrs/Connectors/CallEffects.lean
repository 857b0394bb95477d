import Fedqrs.Connectors.Effects

/-! What the calls with temp tables, the parallel read and the catalog questions can do to
the sources.
-/

namespace Fedqrs

section Operations

variable {may : Touch → Prop} {drivers : Drivers} {shown : ScalarValue → String}
  {sources : Sources} {name : String} {found : DsSpec}

-----------------------------------------------------------------------------------------
-- Temp tables of a session
-----------------------------------------------------------------------------------------

/-- Only the clock and the permanent tables differ. -/
structure Kept (before after : Sources) : Prop where
  registry : after.registry = before.registry
  pgCache : after.pgCache = before.pgCache
  pinnedDuck : after.pinnedDuck = before.pinnedDuck
  workers : after.workers = before.workers
  log : after.log = before.log

theorem Quiet.kept {before after : Sources} (quiet : Quiet before after) : Kept before after :=
  ⟨quiet.registry, quiet.pgCache, quiet.pinnedDuck, quiet.workers, quiet.log⟩

/-- At most one temp table of a session differs. -/
structure Retabled (table : String) (session next : Session) : Prop where
  target : next.target = session.target
  others : ∀ other, ¬ session.temps.kind.SameName other table
    → next.temps.lookup other = session.temps.lookup other

theorem Retabled.refl (table : String) (session : Session) : Retabled table session session :=
  ⟨rfl, fun _ _ => rfl⟩

theorem Retabled.insert (table : String) (session : Session) (rows : Batches)
    : Retabled table session { session with temps := session.temps.insert table rows } :=
  ⟨rfl, fun _ other => TempTables.lookup_insert_ne rows other⟩

theorem Retabled.erase (table : String) (session : Session)
    : Retabled table session { session with temps := session.temps.erase table } :=
  ⟨rfl, fun _ other => TempTables.lookup_erase_ne other⟩

section Retabled

variable {table : String} {session next : Session}

theorem Retabled.database (temps : Retabled table session next)
    : next.database = session.database :=
  congrArg Target.database temps.target

/-- Its names are compared as before. -/
theorem Retabled.kind (temps : Retabled table session next)
    : next.temps.kind = session.temps.kind := by
  rw [next.named, session.named, temps.target]

theorem Retabled.trans {last : Session} (first : Retabled table session next)
    (second : Retabled table next last)
    : Retabled table session last where
  target := second.target.trans first.target
  others other differs := by
    rw [second.others other (first.kind ▸ differs), first.others other differs]

end Retabled

/-- A drop reaches the permanent tables only from a session without that temp table. -/
theorem leads_dropIfExists {session : Session} {table : String}
    (allowed : session.temps.lookup table = none → may (.drop session.database table))
    : Proc.Leads (SourceEffect may) sources (dropIfExists drivers session table)
        (fun result reached => Retabled table session result.2 ∧ Kept sources reached) := by
  refine leads_ticket.bind ?_
  intro call ticked quiet
  cases drivers.drop call session table with
  | error failure => exact Proc.Leads.pure ⟨.refl table session, quiet.kept⟩
  | ok _ =>
      cases temp : session.temps.lookup table with
      | some rows => exact Proc.Leads.pure ⟨.erase table session, quiet.kept⟩
      | none =>
          have change := SourceEffect.dropped ticked session.database table (allowed temp)
          refine (Proc.Leads.modify change).bind ?_
          intro _ reached same
          subst same
          apply Proc.Leads.pure
          exact ⟨.refl table session, quiet.registry, quiet.pgCache, quiet.pinnedDuck,
            quiet.workers, quiet.log⟩

/-- An ingest that succeeds leaves what the driver stored in the session's temp table. -/
theorem leads_ingestRows {session : Session} {table : String} {rows : Batches}
    : Proc.Leads (SourceEffect may) sources (ingestRows drivers session table rows)
        (fun result reached =>
          Retabled table session result.2 ∧ Quiet sources reached
            ∧ (result.1 = .ok ()
              → ∃ call kept, drivers.ingest call session table rows = .stored kept
                ∧ result.2.temps.lookup table = some kept)) := by
  refine leads_ticket.bind ?_
  intro call ticked quiet
  cases ran : drivers.ingest call session table rows with
  | stored kept =>
      apply Proc.Leads.pure
      exact ⟨.insert table session kept, quiet,
        fun _ => ⟨call, kept, ran, TempTables.lookup_insert ..⟩⟩
  | failed failure left =>
      cases left with
      | none => exact Proc.Leads.pure ⟨.refl table session, quiet, fun failed => nomatch failed⟩
      | some left =>
          exact Proc.Leads.pure ⟨.insert table session left, quiet, fun failed => nomatch failed⟩

-----------------------------------------------------------------------------------------
-- Semi-joins with a keys table
-----------------------------------------------------------------------------------------

/-- The pooled connection is put back with other temp tables. -/
theorem leads_putPg {session next : Session} (allowed : may (.alter name))
    (held : sources.pgCache.lookup name = some session)
    (target : next.target = session.target)
    : Proc.Leads (SourceEffect may) sources (putPg name next) (fun _ reached =>
        reached = { sources with pgCache := sources.pgCache.insert name next }) :=
  Proc.Leads.modify (.altered sources name session next allowed held target)

theorem leads_fetchTempJoinPg {table : String} {keys : Batches} {sql : Sql}
    (asks : may (.ask name))
    (registered : sources.registry.lookup name = some found) (postgres : found.kind = .postgres)
    (alters : may (.alter name))
    (allowed : (sources.pooled name found).temps.lookup table = none
      → may (.drop (sources.pooled name found).database table))
    : Proc.Leads (SourceEffect may) sources
        (fetchTempJoinPg drivers shown name found table keys sql) (fun _ _ => True) := by
  refine (leads_pgSession registered postgres).bind ?_
  intro session opened held
  obtain ⟨own, pooled⟩ := held
  rw [← own] at allowed
  refine (leads_dropIfExists allowed).bind ?_
  intro dropped first firstKept
  obtain ⟨firstTemps, firstKept⟩ := firstKept
  have firstHeld : first.pgCache.lookup name = some session := by
    rw [firstKept.pgCache]
    exact pooled.held
  refine (leads_putPg alters firstHeld firstTemps.target).bind ?_
  intro _ second same
  subst same
  apply Proc.Leads.liftBind
  intro _ _
  refine leads_ingestRows.bind ?_
  intro ingested third thirdKept
  obtain ⟨thirdTemps, thirdQuiet, stored⟩ := thirdKept
  have thirdHeld : third.pgCache.lookup name = some dropped.2 := by
    rw [thirdQuiet.pgCache]
    exact AList.lookup_insert _
  refine (leads_putPg alters thirdHeld thirdTemps.target).bind ?_
  intro _ fourth same
  subst same
  apply Proc.Leads.liftBind
  intro _ passed
  let fourth : Sources := { third with pgCache := third.pgCache.insert name ingested.2 }
  have known : fourth.registry.lookup name = some found := by
    rw [← registered, ← pooled.registry, ← firstKept.registry]
    exact congrArg (AList.lookup name) thirdQuiet.registry
  have origin : Origin may fourth name found ingested.2 :=
    .pooled postgres (AList.lookup_insert _)
  refine (leads_runQuery sql asks known origin).bind ?_
  intro result fifth answered
  obtain ⟨answer, rfl⟩ := answered
  -- The keys table was just ingested, so the last drop can only meet it.
  obtain ⟨call, kept, _, lookup⟩ := stored (Except.mapError_eq_ok.mp passed)
  have met : ingested.2.temps.lookup table = none → may (.drop ingested.2.database table) := by
    intro missing
    rw [lookup] at missing
    contradiction
  refine (leads_dropIfExists met).bind ?_
  intro cleaned sixth sixthKept
  obtain ⟨sixthTemps, sixthKept⟩ := sixthKept
  have sixthHeld : sixth.pgCache.lookup name = some ingested.2 := by
    rw [sixthKept.pgCache]
    exact AList.lookup_insert _
  refine (leads_putPg alters sixthHeld sixthTemps.target).bind ?_
  intro _ _ _
  exact Proc.Leads.lift (fun _ _ => trivial)

/-- A temp table is created empty. -/
theorem leads_createTemp {what : String} {session : Session} {table : String} {schema : Schema}
    : Proc.Leads (SourceEffect may) sources (createTemp drivers what session table schema)
        (fun next reached => Retabled table session next ∧ Quiet sources reached) := by
  refine leads_ticket.bind ?_
  intro call ticked quiet
  apply Proc.Leads.liftBind
  intro _ _
  exact Proc.Leads.pure ⟨.insert table session _, quiet⟩

/-- The keys are joined on a cursor whose only temp table is the keys'. -/
theorem leads_fetchTempJoinDuckdb {table : String} {keys : Batches} {sql : Sql}
    (asks : may (.ask name))
    (registered : sources.registry.lookup name = some found) (duck : found.kind = .duckDb)
    (allowed : ∀ call cursor kept, drivers.ingest call cursor table keys = .stored kept
      → may (.join found.uri table kept))
    : Proc.Leads (SourceEffect may) sources
        (fetchTempJoinDuckdb drivers name found table keys sql) (fun _ _ => True) := by
  refine (leads_duckCursor found.uri).bind ?_
  intro cursor opened fresh
  obtain ⟨rfl, opens⟩ := fresh
  apply Proc.Leads.liftBind
  intro _ _
  refine leads_createTemp.bind ?_
  intro created first createdKept
  obtain ⟨createdTemps, createdQuiet⟩ := createdKept
  refine leads_ingestRows.bind ?_
  intro filled second filledKept
  obtain ⟨filledTemps, filledQuiet, stored⟩ := filledKept
  apply Proc.Leads.liftBind
  intro _ passed
  obtain ⟨call, kept, ran, lookup⟩ := stored (Except.mapError_eq_ok.mp passed)
  have known : second.registry.lookup name = some found := by
    rw [((opens.trans createdQuiet).trans filledQuiet).registry]
    exact registered
  have temps := createdTemps.trans filledTemps
  have target : filled.2.target = found.target := temps.target.trans (DsSpec.target_duck duck).symm
  have others
      : ∀ other, ¬ filled.2.temps.kind.SameName other table
        → filled.2.temps.lookup other = none := by
    intro other different
    rw [temps.others other (temps.kind ▸ different)]
    exact TempTables.lookup_empty _ _
  have origin : Origin may second name found filled.2 :=
    .keyed duck (allowed call created kept ran) target lookup others
  refine (leads_runStatement sql asks known origin).bind ?_
  intro _ _ _
  exact Proc.Leads.lift (fun _ _ => trivial)

/-- A semi-join may drop a permanent table only from a Postgres connection without a temp
table of that name.
-/
def JoinAllowed (drivers : Drivers) (may : Touch → Prop) (sources : Sources)
    (name table : String) (keys : Batches) (found : DsSpec)
    : Prop :=
  match found.kind with
  | .postgres =>
      may (.alter name)
        ∧ ((sources.pooled name found).temps.lookup table = none
          → may (.drop (sources.pooled name found).database table))
  | .duckDb =>
      ∀ call cursor kept, drivers.ingest call cursor table keys = .stored kept
        → may (.join found.uri table kept)
  | .parquet => True

theorem leads_fetchTempJoin {table : String} {keys : Batches} {sql : Sql}
    (asks : may (.ask name))
    (allowed : ∀ found, sources.registry.lookup name = some found
      → JoinAllowed drivers may sources name table keys found)
    : Proc.Leads (SourceEffect may) sources (fetchTempJoin drivers shown name table keys sql)
        (fun _ _ => True) := by
  refine (leads_spec name).bind ?_
  intro found reached registered
  obtain ⟨rfl, registered⟩ := registered
  have granted := allowed found registered
  cases kind : found.kind with
  | postgres =>
      simp only [JoinAllowed, kind] at granted
      exact leads_fetchTempJoinPg asks registered kind granted.1 granted.2
  | duckDb =>
      simp only [JoinAllowed, kind] at granted
      exact leads_fetchTempJoinDuckdb asks registered kind granted
  | parquet => exact Proc.Leads.fail

-----------------------------------------------------------------------------------------
-- Shipments
-----------------------------------------------------------------------------------------

/-- The connection pinned for a path, a fresh one if there is none. -/
def Sources.pinnedOn (sources : Sources) (path : String) : Session :=
  (sources.pinnedDuck.lookup path).getD (.fresh (.duck path))

/-- The connection pinned for a path, which is pinned from now on. -/
theorem leads_pinnedSession {path : String} (allowed : may (.pin path))
    : Proc.Leads (SourceEffect may) sources (pinnedSession drivers path)
        (fun session reached =>
          session = sources.pinnedOn path
            ∧ reached.pinnedDuck.lookup path = some session) := by
  apply Proc.Leads.getBind
  cases held : sources.pinnedDuck.lookup path with
  | some session => exact Proc.Leads.pure ⟨by simp [Sources.pinnedOn, held], held⟩
  | none =>
      refine (leads_duckCursor path).bind ?_
      intro cursor opened fresh
      obtain ⟨rfl, quiet⟩ := fresh
      have unpinned : opened.pinnedDuck.lookup path = none := by
        rw [quiet.pinnedDuck]
        exact held
      refine (Proc.Leads.modify (.pinned opened path allowed unpinned)).bind ?_
      intro _ reached same
      subst same
      exact Proc.Leads.pure ⟨by simp [Sources.pinnedOn, held], AList.lookup_insert _⟩

/-- The pinned connection of a path is replaced while a shipment to it is under way. -/
theorem leads_putPinned {path table : String} {session next : Session}
    (allowed : may (.pin path)) (held : sources.pinnedDuck.lookup path = some session)
    (begun : sources.log.getLast? = some (.shipping path table))
    (temps : Retabled table session next)
    : Proc.Leads (SourceEffect may) sources (putPinned path next) (fun _ reached =>
        reached.pinnedDuck.lookup path = some next
          ∧ reached.log.getLast? = some (.shipping path table)) := by
  have change :=
    SourceEffect.replaced sources path table session next allowed held temps.target begun
      temps.others
  refine (Proc.Leads.modify change).weaken ?_
  intro _ reached same
  subst same
  exact ⟨AList.lookup_insert _, begun⟩

theorem leads_createShippedTable {path table : String} {session : Session} {rows : Batches}
    (allowed : may (.pin path)) (held : sources.pinnedDuck.lookup path = some session)
    (drops : session.temps.lookup table = none → may (.drop session.database table))
    (ships : ∀ call cursor kept, cursor.database = session.database
      → drivers.ingest call cursor table rows = .stored kept → may (.ship path table rows kept))
    : Proc.Leads (SourceEffect may) sources
        (createShippedTable drivers path session table rows)
        (fun _ reached => reached.log.getLast? = some (.shipped path table rows)) := by
  apply Proc.Leads.liftBind
  intro _ _
  refine (Proc.Leads.modify (.shipping sources path table session allowed held)).bind ?_
  intro _ first same
  subst same
  refine (leads_dropIfExists drops).bind ?_
  intro dropped second secondKept
  obtain ⟨droppedTemps, secondKept⟩ := secondKept
  have secondHeld : second.pinnedDuck.lookup path = some session := by
    rw [secondKept.pinnedDuck]
    exact held
  have secondLast : second.log.getLast? = some (.shipping path table) := by
    simp [secondKept.log]
  refine (leads_putPinned allowed secondHeld secondLast droppedTemps).bind ?_
  intro _ third thirdPut
  obtain ⟨thirdHeld, thirdLast⟩ := thirdPut
  apply Proc.Leads.liftBind
  intro _ _
  refine leads_createTemp.bind ?_
  intro created fourth fourthQuiet
  obtain ⟨createdTemps, fourthQuiet⟩ := fourthQuiet
  rw [← fourthQuiet.pinnedDuck] at thirdHeld
  rw [← fourthQuiet.log] at thirdLast
  refine (leads_putPinned allowed thirdHeld thirdLast createdTemps).bind ?_
  intro _ fifth fifthPut
  obtain ⟨fifthHeld, fifthLast⟩ := fifthPut
  refine leads_ingestRows.bind ?_
  intro filled sixth sixthQuiet
  obtain ⟨filledTemps, sixthQuiet, stored⟩ := sixthQuiet
  rw [← sixthQuiet.pinnedDuck] at fifthHeld
  rw [← sixthQuiet.log] at fifthLast
  refine (leads_putPinned allowed fifthHeld fifthLast filledTemps).bind ?_
  intro _ seventh seventhPut
  obtain ⟨seventhHeld, _⟩ := seventhPut
  apply Proc.Leads.liftBind
  intro _ passed
  obtain ⟨call, kept, ran, lookup⟩ := stored (Except.mapError_eq_ok.mp passed)
  have shipped :=
    SourceEffect.shipped seventh path table filled.2 rows kept
      (ships call created kept (droppedTemps.trans createdTemps).database ran) seventhHeld lookup
  refine (Proc.Leads.modify shipped).weaken ?_
  intro _ reached same
  subst same
  exact List.getLast?_concat

/-- A shipment may drop a permanent table only from a connection without a temp table of that
name, and its table may hold what the driver makes of the rows.
-/
def ShipAllowed (drivers : Drivers) (may : Touch → Prop) (sources : Sources) (table : String)
    (rows : Batches) (found : DsSpec)
    : Prop :=
  found.kind = .duckDb
    → may (.pin found.uri)
      ∧ ((sources.pinnedOn found.uri).temps.lookup table = none
        → may (.drop (sources.pinnedOn found.uri).database table))
      ∧ ∀ call cursor kept, cursor.database = (sources.pinnedOn found.uri).database
        → drivers.ingest call cursor table rows = .stored kept
        → may (.ship found.uri table rows kept)

/-- A shipment that succeeds is logged with its rows. -/
theorem leads_shipTable {table : String} {rows : Batches}
    (allowed : ∀ found, sources.registry.lookup name = some found
      → ShipAllowed drivers may sources table rows found)
    : Proc.Leads (SourceEffect may) sources (shipTable drivers name table rows)
        (fun _ reached => ∃ found, sources.registry.lookup name = some found
          ∧ found.kind = .duckDb
          ∧ reached.log.getLast? = some (.shipped found.uri table rows)) := by
  refine (leads_spec name).bind ?_
  intro found reached registered
  obtain ⟨rfl, registered⟩ := registered
  by_cases duck : found.kind = .duckDb
  · simp only [duck, if_true]
    obtain ⟨pins, drops, ships⟩ := allowed found registered duck
    refine (leads_pinnedSession pins).bind ?_
    intro session reached held
    obtain ⟨rfl, held⟩ := held
    refine (leads_createShippedTable pins held drops ships).weaken ?_
    intro _ last shipped
    exact ⟨found, registered, duck, shipped⟩
  · simp only [duck, if_false]
    exact Proc.Leads.fail

-----------------------------------------------------------------------------------------
-- Catalog questions
-----------------------------------------------------------------------------------------

theorem leads_relpages (schema : Option String) (table : String) (asks : may (.ask name))
    : Proc.Leads (SourceEffect may) sources (relpages drivers shown name schema table)
        (fun _ reached => AnsweredLast may name sources reached) := by
  refine (leads_fetch _ asks).bind ?_
  intro answer reached answered
  exact Proc.Leads.lift (fun _ _ => answered)

theorem leads_estimateSelectivity (schema : Option String) (table column : String)
    (numKeys : Nat) (asks : may (.ask name))
    : Proc.Leads (SourceEffect may) sources
        (estimateSelectivity drivers shown name schema table column numKeys)
        (fun _ _ => True) := by
  refine (leads_kind name).bind ?_
  intro kind reached same
  subst same
  by_cases duck : kind = .duckDb
  · simp only [duck, if_true]
    refine (leads_fetch _ asks).bind ?_
    intro _ _ _
    exact Proc.Leads.lift (fun _ _ => trivial)
  · simp only [duck, if_false]
    refine (leads_fetch _ asks).bind ?_
    intro _ _ _
    exact Proc.Leads.lift (fun _ _ => trivial)

theorem leads_pgColumnIndexed (schema : Option String) (table column : String)
    (asks : may (.ask name))
    : Proc.Leads (SourceEffect may) sources
        (pgColumnIndexed drivers shown name schema table column)
        (fun _ reached => Asked may reached name) := by
  refine (leads_fetch _ asks).bind ?_
  intro answer reached answered
  exact Proc.Leads.pure answered.asked

/-- A verdict is taken from the cache, or asked of the database and cached. -/
theorem leads_columnHasIndex (schema : Option String) (table column : String)
    (asks : may (.ask name)) (recalls : may (.recall (verdictKey name schema table column)))
    : Proc.Leads (SourceEffect may) sources
        (columnHasIndex drivers shown name schema table column) (fun _ _ => True) := by
  apply Proc.Leads.getBind
  cases cached : sources.verdicts.lookup (verdictKey name schema table column) with
  | some verdict =>
      refine (Proc.Leads.modify (.recalled sources name _ verdict asks recalls cached)).bind ?_
      intro _ _ _
      exact Proc.Leads.pure trivial
  | none =>
      refine (leads_pgColumnIndexed schema table column asks).bind ?_
      intro indexed reached asked
      refine (Proc.Leads.modify (.judged reached name _ indexed asks asked)).bind ?_
      intro _ _ _
      exact Proc.Leads.pure trivial

-----------------------------------------------------------------------------------------
-- The parallel read
-----------------------------------------------------------------------------------------

/-- A worker opens a connection for a job only as the job's own spec has it, and reads on the
connection it has under the job's name; by cases on that connection.
-/
theorem runJob_conns {catalogs : Database → Catalog} {conns : NameMap Target} {job : Job}
    {other : String} {target : Target}
    (held : (runJob drivers shown catalogs conns job).2.lookup other = some target)
    : conns.lookup other = some target ∨ other = job.name ∧ target = job.spec.target := by
  unfold runJob at held
  split at held
  · exact Or.inl held
  · split at held
    · exact Or.inl held
    · by_cases same : other = job.name
      · subst same
        rw [AList.lookup_insert] at held
        cases held
        exact Or.inr ⟨rfl, rfl⟩
      · rw [AList.lookup_insert_ne same] at held
        exact Or.inl held

theorem runJob_events {catalogs : Database → Catalog} {conns : NameMap Target} {job : Job}
    {event : Event} (member : event ∈ (runJob drivers shown catalogs conns job).1.events)
    : ∃ target sql answer, event = .read job.name (.fresh target) sql answer
        ∧ (target = job.spec.target ∨ conns.lookup job.name = some target) := by
  unfold runJob at member
  split at member
  · rename_i target held
    simp only [answerJob, List.mem_singleton] at member
    exact ⟨target, _, _, member, Or.inr held⟩
  · split at member
    · cases member
    · simp only [answerJob, List.mem_singleton] at member
      exact ⟨_, _, _, member, Or.inl rfl⟩

/-- The connections of a worker under a name are opened for what is registered, or as one that a
worker had under it before.
-/
def OwnConns (sources : Sources) (name : String) (found : DsSpec) (conns : NameMap Target)
    : Prop :=
  ∀ target, conns.lookup name = some target → target = found.target
    ∨ ∃ worker, (sources.workers worker).lookup name = some target

/-- A worker has the connections it had, and new ones for what is registered. -/
def GrownConns (sources : Sources) (name : String) (found : DsSpec) (worker : Nat)
    (conns : NameMap Target)
    : Prop :=
  ∀ other target, conns.lookup other = some target
    → (sources.workers worker).lookup other = some target
      ∨ other = name ∧ target = found.target

/-- A read of the datasource on a connection for what is registered, or on a worker's. -/
def OwnRead (sources : Sources) (name : String) (found : DsSpec) (event : Event) : Prop :=
  ∃ target sql answer, event = .read name (.fresh target) sql answer
    ∧ (target = found.target
      ∨ ∃ worker, (sources.workers worker).lookup name = some target)

/-- The workers serve the jobs of a datasource on connections for what is registered, or on those
they have under its name.
-/
theorem leads_runJobs {jobs : List Job} (asks : may (.ask name)) (allowed : may .workers)
    (registered : sources.registry.lookup name = some found) (postgres : found.kind = .postgres)
    (own : ∀ job ∈ jobs, job.name = name ∧ job.spec = found)
    : Proc.Leads (SourceEffect may) sources (runJobs drivers shown jobs)
        (fun _ _ => True) where
  changes := by
    have before : ∀ worker, OwnConns sources name found (sources.workers worker) :=
      fun worker target held => Or.inr ⟨worker, held⟩
    have replies
        : ∀ reply ∈ (WorkerPool.serveInOrder workerOf (runJob drivers shown sources.catalogs)
            sources.workers jobs).1,
          ∀ event ∈ reply.events, OwnRead sources name found event := by
      refine WorkerPool.serveInOrder_replied (fun conns kept job member => ?_) before
      obtain ⟨rfl, rfl⟩ := own job member
      refine ⟨?_, ?_⟩
      · intro target held
        rcases runJob_conns held with known | ⟨_, opened⟩
        · exact kept target known
        · exact Or.inl opened
      · intro event read
        obtain ⟨target, sql, answer, read, held⟩ := runJob_events read
        exact ⟨target, sql, answer, read, held.elim Or.inl (kept target)⟩
    have grown
        : ∀ worker, GrownConns sources name found worker
            ((WorkerPool.serveInOrder workerOf (runJob drivers shown sources.catalogs)
              sources.workers jobs).2 worker) := by
      have before : ∀ worker, GrownConns sources name found worker (sources.workers worker) :=
        fun worker other target held => Or.inl held
      apply WorkerPool.serveInOrder_keeps _ before
      intro conns job member kept other target held
      rcases runJob_conns held with known | ⟨named, opened⟩
      · exact kept other target known
      · obtain ⟨rfl, rfl⟩ := own job member
        exact Or.inr ⟨named, opened⟩
    refine
      .single (.worked sources name found _ jobs.length _ asks allowed registered grown ?_ postgres)
    intro event member
    obtain ⟨reply, served, member⟩ := List.mem_flatMap.mp member
    exact replies reply served event member
  after _ _ _ := trivial

theorem leads_fetchParallel {table : TableRef} {list : SelectList} {partitions : Nat}
    {whereClause : Option SqlExpr} (asks : may (.ask name)) (allowed : may .workers)
    : Proc.Leads (SourceEffect may) sources
        (fetchParallel drivers shown name table list partitions whereClause)
        (fun _ _ => True) := by
  refine (leads_spec name).bind ?_
  intro found reached registered
  obtain ⟨rfl, registered⟩ := registered
  by_cases postgres : found.kind = .postgres
  · simp only [postgres, if_true]
    refine (leads_relpages table.schema table.table asks).bind ?_
    intro pages counted answered
    apply Proc.Leads.liftBind
    intro ranges _
    apply Proc.Leads.getBind
    have known : counted.registry.lookup name = some found := by
      rw [answered.registry]
      exact registered
    refine (leads_runJobs asks allowed known postgres (fun _ => partitionJobs_mem)).bind ?_
    intro _ _ _
    exact Proc.Leads.lift (fun _ _ => trivial)
  · simp only [postgres, if_false]
    exact Proc.Leads.fail

/-- Registering a datasource. -/
theorem leads_register (allowed : may .registry)
    : Proc.Leads (SourceEffect may) sources (register name found) (fun _ reached =>
        reached = { sources with registry := sources.registry.insert name found }) :=
  Proc.Leads.modify (.registered sources name found allowed)

end Operations

end Fedqrs
