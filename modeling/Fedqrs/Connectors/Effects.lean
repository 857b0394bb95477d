import Fedqrs.Connectors.Native

/-! What a connector call can do to the sources, said once: every call, whether it succeeds
or fails, is a sequence of the elementary changes below.
-/

namespace Fedqrs

/-- What not every call touches. -/
inductive Touch
  | ask (name : String)
  | recall (key : String)
  | registry
  | workers
  | alter (name : String)
  | drop (database : Database) (table : String)
  | join (path table : String) (kept : Batches)
  | pin (path : String)
  | ship (path table : String) (rows kept : Batches)

/-- Where the session of a query comes from. -/
inductive Origin (may : Touch → Prop) (sources : Sources) (name : String) (found : DsSpec)
    : Session → Prop
  | pooled {session : Session} (postgres : found.kind = .postgres)
    (held : sources.pgCache.lookup name = some session)
    : Origin may sources name found session
  | pinned {session : Session} (duck : found.kind = .duckDb)
    (held : sources.pinnedDuck.lookup found.uri = some session)
    : Origin may sources name found session
  | cursor (duck : found.kind = .duckDb) (unpinned : sources.pinnedDuck.lookup found.uri = none)
    : Origin may sources name found (.fresh found.target)
  | keyed {session : Session} {table : String} {kept : Batches} (duck : found.kind = .duckDb)
    (allowed : may (.join found.uri table kept)) (target : session.target = found.target)
    (keys : session.temps.lookup table = some kept)
    (others : ∀ other, ¬ session.temps.kind.SameName other table
      → session.temps.lookup other = none)
    : Origin may sources name found session
  | context (parquet : found.kind = .parquet)
    : Origin may sources name found (.fresh found.target)

/-- The last event is a query for the datasource, on a session that is its own now. -/
def Asked (may : Touch → Prop) (sources : Sources) (name : String) : Prop :=
  ∃ found session sql answer, sources.registry.lookup name = some found
    ∧ sources.log.getLast? = some (.read name session sql answer)
    ∧ Origin may sources name found session

/-- An elementary change of the sources, restricted in what it may touch. -/
inductive SourceEffect (may : Touch → Prop) : Sources → Sources → Prop
  | ticked (sources : Sources)
    : SourceEffect may sources { sources with clock := sources.clock + 1 }
  | registered (sources : Sources) (name : String) (found : DsSpec) (allowed : may .registry)
    : SourceEffect may sources { sources with registry := sources.registry.insert name found }
  | connected (sources : Sources) (name : String) (found : DsSpec)
    (registered : sources.registry.lookup name = some found)
    (postgres : found.kind = .postgres) (none : sources.pgCache.lookup name = none)
    : SourceEffect may sources
        {
          sources with
          pgCache := sources.pgCache.insert name (.fresh found.target)
        }
  | altered (sources : Sources) (name : String) (session next : Session)
    (allowed : may (.alter name)) (held : sources.pgCache.lookup name = some session)
    (target : next.target = session.target)
    : SourceEffect may sources { sources with pgCache := sources.pgCache.insert name next }
  | instanced (sources : Sources) (path : String)
    : SourceEffect may sources
        { sources with duckInstances := path :: sources.duckInstances }
  | contexted (sources : Sources) (dir : String)
    : SourceEffect may sources
        { sources with parquetContexts := dir :: sources.parquetContexts }
  | answered (sources : Sources) (name : String) (found : DsSpec) (session : Session) (sql : Sql)
    (answer : Except Failure Batches) (asks : may (.ask name))
    (registered : sources.registry.lookup name = some found)
    (origin : Origin may sources name found session)
    : SourceEffect may sources
        { sources with log := sources.log ++ [.read name session sql answer] }
  | recalled (sources : Sources) (name key : String) (verdict : Verdict) (asks : may (.ask name))
    (recalls : may (.recall key)) (cached : sources.verdicts.lookup key = some verdict)
    : SourceEffect may sources
        { sources with log := sources.log ++ [.recalled name verdict.target] }
  | judged (sources : Sources) (name key : String) (indexed : Bool)
    (asks : may (.ask name)) (asked : Asked may sources name)
    : SourceEffect may sources
        {
          sources with
          verdicts :=
            sources.verdicts.insert key
              {
                indexed
                datasource := name
                target := sources.log.getLast?.bind Event.target
              }
        }
  | worked (sources : Sources) (name : String) (found : DsSpec)
    (workers : Nat → NameMap Target) (calls : Nat) (events : List Event)
    (asks : may (.ask name)) (allowed : may .workers)
    (registered : sources.registry.lookup name = some found)
    (conns : ∀ worker other target, (workers worker).lookup other = some target
      → (sources.workers worker).lookup other = some target
        ∨ other = name ∧ target = found.target)
    (reads : ∀ event ∈ events, ∃ target sql answer,
      event = .read name (.fresh target) sql answer
        ∧ (target = found.target
          ∨ ∃ worker, (sources.workers worker).lookup name = some target))
    (postgres : found.kind = .postgres)
    : SourceEffect may sources
        {
          sources with
          workers
          clock := sources.clock + calls
          log := sources.log ++ events
        }
  | dropped (sources : Sources) (database : Database) (table : String)
    (allowed : may (.drop database table))
    : SourceEffect may sources
        {
          sources with
          catalogs :=
            Function.update sources.catalogs database
              ((sources.catalogs database).dropUnqualified database.kind table)
        }
  | pinned (sources : Sources) (path : String) (allowed : may (.pin path))
    (none : sources.pinnedDuck.lookup path = none)
    : SourceEffect may sources
        {
          sources with
          pinnedDuck :=
            sources.pinnedDuck.insert path (.fresh (.duck path))
        }
  | shipping (sources : Sources) (path table : String) (session : Session)
    (allowed : may (.pin path)) (held : sources.pinnedDuck.lookup path = some session)
    : SourceEffect may sources
        { sources with log := sources.log ++ [.shipping path table] }
  | replaced (sources : Sources) (path table : String) (session next : Session)
    (allowed : may (.pin path)) (held : sources.pinnedDuck.lookup path = some session)
    (target : next.target = session.target)
    (begun : sources.log.getLast? = some (.shipping path table))
    (others : ∀ other, ¬ session.temps.kind.SameName other table
      → next.temps.lookup other = session.temps.lookup other)
    : SourceEffect may sources
        { sources with pinnedDuck := sources.pinnedDuck.insert path next }
  | shipped (sources : Sources) (path table : String) (session : Session) (rows kept : Batches)
    (allowed : may (.ship path table rows kept))
    (held : sources.pinnedDuck.lookup path = some session)
    (stored : session.temps.lookup table = some kept)
    : SourceEffect may sources
        { sources with log := sources.log ++ [.shipped path table rows] }

/-- The log only grows; by cases on the change. -/
theorem SourceEffect.log_prefix {may : Touch → Prop} {before after : Sources}
    (change : SourceEffect may before after)
    : before.log <+: after.log := by
  cases change with
  | answered | recalled | worked | shipping | shipped => exact List.prefix_append _ _
  | ticked | registered | connected | altered | instanced | contexted | judged | dropped
  | pinned | replaced => exact List.prefix_rfl

theorem log_prefix_of_changes {may : Touch → Prop} {before after : Sources}
    (changes : Relation.ReflTransGen (SourceEffect may) before after)
    : before.log <+: after.log := by
  have grown : ∀ middle next, SourceEffect may middle next → before.log <+: middle.log
      → before.log <+: next.log :=
    fun middle next change earlier => earlier.trans change.log_prefix
  exact Proc.changes_keep grown changes List.prefix_rfl

-----------------------------------------------------------------------------------------
-- Sessions
-----------------------------------------------------------------------------------------

/-- Only the clock and the open instances and contexts differ. -/
structure Quiet (before after : Sources) : Prop where
  registry : after.registry = before.registry
  pgCache : after.pgCache = before.pgCache
  pinnedDuck : after.pinnedDuck = before.pinnedDuck
  workers : after.workers = before.workers
  catalogs : after.catalogs = before.catalogs
  log : after.log = before.log

theorem Quiet.refl (sources : Sources) : Quiet sources sources :=
  ⟨rfl, rfl, rfl, rfl, rfl, rfl⟩

theorem Quiet.trans {first second third : Sources} (head : Quiet first second)
    (tail : Quiet second third)
    : Quiet first third where
  registry := tail.registry.trans head.registry
  pgCache := tail.pgCache.trans head.pgCache
  pinnedDuck := tail.pinnedDuck.trans head.pinnedDuck
  workers := tail.workers.trans head.workers
  catalogs := tail.catalogs.trans head.catalogs
  log := tail.log.trans head.log

/-- Only the pools decide where a session comes from. -/
theorem Origin.of_same {may : Touch → Prop} {before after : Sources} {name : String}
    {found : DsSpec} {session : Session} (origin : Origin may before name found session)
    (pgCache : after.pgCache = before.pgCache) (pinned : after.pinnedDuck = before.pinnedDuck)
    : Origin may after name found session := by
  cases origin with
  | pooled postgres held => exact .pooled postgres (pgCache ▸ held)
  | pinned duck held => exact .pinned duck (pinned ▸ held)
  | cursor duck unpinned => exact .cursor duck (pinned ▸ unpinned)
  | keyed duck allowed target keys others => exact .keyed duck allowed target keys others
  | context parquet => exact .context parquet

section Operations

variable {may : Touch → Prop} {drivers : Drivers} {shown : ScalarValue → String}
  {sources : Sources} {name : String} {found : DsSpec}

theorem leads_spec (name : String)
    : Proc.Leads (SourceEffect may) sources (spec name) (fun found reached =>
        reached = sources ∧ sources.registry.lookup name = some found) := by
  apply Proc.Leads.getBind
  cases registered : sources.registry.lookup name with
  | none => exact Proc.Leads.fail
  | some found => exact Proc.Leads.pure ⟨rfl, rfl⟩

theorem leads_kind (name : String)
    : Proc.Leads (SourceEffect may) sources (kind name) (fun _ reached => reached = sources) := by
  refine (leads_spec name).bind ?_
  intro found reached same
  exact Proc.Leads.pure same.1

theorem leads_ticket
    : Proc.Leads (SourceEffect may) sources ticket (fun _ reached => Quiet sources reached) where
  changes := .single (.ticked sources)
  after call reached ran := by
    cases ran
    exact ⟨rfl, rfl, rfl, rfl, rfl, rfl⟩

theorem leads_duckInstance (path : String)
    : Proc.Leads (SourceEffect may) sources (duckInstance drivers path) (fun _ reached =>
        Quiet sources reached) := by
  apply Proc.Leads.getBind
  by_cases opened : path ∈ sources.duckInstances
  · simp only [opened, if_true]
    exact Proc.Leads.pure (Quiet.refl sources)
  · simp only [opened, if_false]
    refine leads_ticket.bind ?_
    intro call ticked quiet
    apply Proc.Leads.liftBind
    intro _ _
    refine (Proc.Leads.modify (.instanced ticked path)).weaken ?_
    intro _ last same
    subst same
    exact
      ⟨quiet.registry, quiet.pgCache, quiet.pinnedDuck, quiet.workers, quiet.catalogs, quiet.log⟩

/-- A cursor is a session of its own. -/
theorem leads_duckCursor (path : String)
    : Proc.Leads (SourceEffect may) sources (duckCursor drivers path) (fun session reached =>
        session = .fresh (.duck path) ∧ Quiet sources reached) := by
  refine (leads_duckInstance path).bind ?_
  intro _ opened first
  refine leads_ticket.bind ?_
  intro call ticked second
  apply Proc.Leads.liftBind
  intro _ _
  exact Proc.Leads.pure ⟨rfl, first.trans second⟩

theorem leads_parquetCtx (dir : String)
    : Proc.Leads (SourceEffect may) sources (parquetCtx drivers dir) (fun _ reached =>
        Quiet sources reached) := by
  apply Proc.Leads.getBind
  by_cases built : dir ∈ sources.parquetContexts
  · simp only [built, if_true]
    exact Proc.Leads.pure (Quiet.refl sources)
  · simp only [built, if_false]
    refine leads_ticket.bind ?_
    intro call ticked quiet
    apply Proc.Leads.liftBind
    intro _ _
    refine (Proc.Leads.modify (.contexted ticked dir)).weaken ?_
    intro _ last same
    subst same
    exact
      ⟨quiet.registry, quiet.pgCache, quiet.pinnedDuck, quiet.workers, quiet.catalogs, quiet.log⟩

/-- The query thread's connection under a name, a fresh one if there is none. -/
def Sources.pooled (sources : Sources) (name : String) (found : DsSpec) : Session :=
  (sources.pgCache.lookup name).getD (.fresh found.target)

/-- Nothing but the clock and the pool of the query thread differs, which has the session. -/
structure Pooled (name : String) (session : Session) (before after : Sources) : Prop where
  registry : after.registry = before.registry
  held : after.pgCache.lookup name = some session
  pinnedDuck : after.pinnedDuck = before.pinnedDuck
  workers : after.workers = before.workers
  catalogs : after.catalogs = before.catalogs
  log : after.log = before.log

/-- The pooled connection, or a new one to the registered database. -/
theorem leads_pgSession (registered : sources.registry.lookup name = some found)
    (postgres : found.kind = .postgres)
    : Proc.Leads (SourceEffect may) sources (pgSession drivers name found)
        (fun session reached =>
          session = sources.pooled name found ∧ Pooled name session sources reached) := by
  apply Proc.Leads.getBind
  cases held : sources.pgCache.lookup name with
  | some session =>
      apply Proc.Leads.pure
      exact ⟨by simp [Sources.pooled, held], rfl, held, rfl, rfl, rfl, rfl⟩
  | none =>
      refine leads_ticket.bind ?_
      intro call ticked quiet
      apply Proc.Leads.liftBind
      intro _ _
      have change : SourceEffect may ticked
          { ticked with pgCache := ticked.pgCache.insert name (.fresh found.target) } := by
        apply SourceEffect.connected ticked name found
        · rw [quiet.registry]
          exact registered
        · exact postgres
        · rw [quiet.pgCache]
          exact held
      refine (Proc.Leads.modify change).bind ?_
      intro _ reached same
      subst same
      apply Proc.Leads.pure
      exact ⟨by simp [Sources.pooled, held], quiet.registry, AList.lookup_insert _,
        quiet.pinnedDuck, quiet.workers, quiet.catalogs, quiet.log⟩

/-- A query is logged with its answer. -/
theorem leads_runStatement {session : Session} (sql : Sql) (asks : may (.ask name))
    (registered : sources.registry.lookup name = some found)
    (origin : Origin may sources name found session)
    : Proc.Leads (SourceEffect may) sources (runStatement drivers name session sql)
        (fun answer reached =>
          reached
            = {
                sources with
                clock := sources.clock + 1
                log := sources.log ++ [.read name session sql answer]
              }) where
  changes := by
    refine .head (.ticked sources) (.single ?_)
    exact SourceEffect.answered { sources with clock := sources.clock + 1 } name found session sql
      (drivers.query sources.clock (sources.catalogs session.database) session sql) asks registered
      (origin.of_same rfl rfl)
  after answer reached ran := by
    cases ran
    rfl

theorem leads_runQuery {session : Session} (sql : Sql) (asks : may (.ask name))
    (registered : sources.registry.lookup name = some found)
    (origin : Origin may sources name found session)
    : Proc.Leads (SourceEffect may) sources (runQuery drivers shown name session sql)
        (fun _ reached => ∃ answer,
          reached
            = {
                sources with
                clock := sources.clock + 1
                log := sources.log ++ [.read name session sql answer]
              }) := by
  refine (leads_runStatement sql asks registered origin).bind ?_
  intro answer reached same
  exact Proc.Leads.pure ⟨answer, same⟩

/-- A query for the datasource was asked last, and the workers did nothing. -/
structure AnsweredLast (may : Touch → Prop) (name : String) (before after : Sources) : Prop where
  registry : after.registry = before.registry
  workers : after.workers = before.workers
  catalogs : after.catalogs = before.catalogs
  asked : Asked may after name

theorem leads_fetchPostgres (sql : Sql) (asks : may (.ask name))
    (registered : sources.registry.lookup name = some found)
    (postgres : found.kind = .postgres)
    : Proc.Leads (SourceEffect may) sources (fetchPostgres drivers shown name found sql)
        (fun _ reached => AnsweredLast may name sources reached) := by
  refine (leads_pgSession registered postgres).bind ?_
  intro session opened held
  obtain ⟨_, pooled⟩ := held
  have known : opened.registry.lookup name = some found := by
    rw [pooled.registry]
    exact registered
  have query
      : Proc.Leads (SourceEffect may) opened (runQuery drivers shown name session sql)
          (fun _ reached => AnsweredLast may name sources reached) := by
    refine (leads_runQuery sql asks known (.pooled postgres pooled.held)).weaken ?_
    rintro _ reached ⟨answer, same⟩
    subst same
    refine ⟨pooled.registry, pooled.workers, pooled.catalogs, ?_⟩
    exact ⟨found, session, sql, answer, known, by simp, .pooled postgres pooled.held⟩
  refine query.bind ?_
  intro result reached answered
  exact Proc.Leads.lift (fun _ _ => answered)

/-- The pinned connection of a path or a cursor of its own. -/
theorem leads_duckSession (name : String) (duck : found.kind = .duckDb)
    : Proc.Leads (SourceEffect may) sources (duckSession drivers found.uri)
        (fun session reached =>
          Quiet sources reached ∧ Origin may reached name found session) := by
  apply Proc.Leads.getBind
  cases held : sources.pinnedDuck.lookup found.uri with
  | some session => exact Proc.Leads.pure ⟨Quiet.refl sources, .pinned duck held⟩
  | none =>
      refine (leads_duckCursor found.uri).weaken ?_
      intro session reached fresh
      obtain ⟨rfl, quiet⟩ := fresh
      rw [← DsSpec.target_duck duck]
      refine ⟨quiet, .cursor duck ?_⟩
      rw [quiet.pinnedDuck]
      exact held

theorem leads_fetchDuckdb (sql : Sql) (asks : may (.ask name))
    (registered : sources.registry.lookup name = some found) (duck : found.kind = .duckDb)
    : Proc.Leads (SourceEffect may) sources (fetchDuckdb drivers name found sql)
        (fun _ reached => AnsweredLast may name sources reached) := by
  refine (leads_duckSession name duck).bind ?_
  intro session opened held
  obtain ⟨quiet, origin⟩ := held
  have known : opened.registry.lookup name = some found := by
    rw [quiet.registry]
    exact registered
  refine (leads_runStatement sql asks known origin).bind ?_
  intro answer reached same
  subst same
  apply Proc.Leads.lift
  intro _ _
  refine ⟨quiet.registry, quiet.workers, quiet.catalogs, ?_⟩
  exact ⟨found, session, sql, answer, known, by simp, origin.of_same rfl rfl⟩

theorem leads_fetchParquet (sql : Sql) (asks : may (.ask name))
    (registered : sources.registry.lookup name = some found) (parquet : found.kind = .parquet)
    : Proc.Leads (SourceEffect may) sources (fetchParquet drivers name found sql)
        (fun _ reached => AnsweredLast may name sources reached) := by
  refine (leads_parquetCtx found.uri).bind ?_
  intro _ opened quiet
  have known : opened.registry.lookup name = some found := by
    rw [quiet.registry]
    exact registered
  refine (leads_runStatement sql asks known (.context parquet)).bind ?_
  intro answer reached same
  subst same
  apply Proc.Leads.lift
  intro _ _
  refine ⟨quiet.registry, quiet.workers, quiet.catalogs, ?_⟩
  exact ⟨found, _, sql, answer, known, by simp, .context parquet⟩

/-- A fetch asks one query, on the connection of its datasource; by cases on the kind. -/
theorem leads_fetch (sql : Sql) (asks : may (.ask name))
    : Proc.Leads (SourceEffect may) sources (fetch drivers shown name sql)
        (fun _ reached => AnsweredLast may name sources reached) := by
  refine (leads_spec name).bind ?_
  intro found reached registered
  obtain ⟨rfl, registered⟩ := registered
  cases kind : found.kind with
  | postgres => exact leads_fetchPostgres sql asks registered kind
  | duckDb => exact leads_fetchDuckdb sql asks registered kind
  | parquet => exact leads_fetchParquet sql asks registered kind

end Operations

end Fedqrs
