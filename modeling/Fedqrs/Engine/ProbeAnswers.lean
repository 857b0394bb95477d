import Fedqrs.Connectors.Answers
import Fedqrs.Engine.ProbeEffects

/-! What the engine's source reads return when they succeed: the statements they send, and the
answers to those.
-/

namespace Fedqrs

variable {drivers : Drivers} {shown : ScalarValue → String} {df : ExprServices}
  {sources reached : Sources} {datasource injectColumn : String} {scan : ScanSpec}
  {keys result : Batches}

/-- A scan sends its statement. -/
theorem fetchScan_sends {extraFilter : Option Expr}
    (ran : fetchScan df (nativeConnectors drivers shown) datasource scan extraFilter sources
      = (.ok result, reached))
    : ∃ found sql,
        sources.registry.lookup datasource = some found
          ∧ scanSql df found.kind scan extraFilter = .ok sql
          ∧ fetch drivers shown datasource sql sources = (.ok result, reached) := by
  obtain ⟨kind, same, named, sends⟩ := Proc.bind_eq_ok.mp ran
  obtain ⟨rfl, found, registered, rfl⟩ := kind_eq_ok named
  obtain ⟨sql, rendered, fetched⟩ := Proc.lift_bind_eq_ok.mp sends
  exact ⟨found, sql, registered, Except.mapError_eq_ok.mp rendered, fetched⟩

/-- A page-partitioned scan reads its table under its static filter alone. -/
theorem parallelProbeScan_sends
    (ran : parallelProbeScan df (nativeConnectors drivers shown) datasource scan sources
      = (.ok result, reached))
    : ∃ found table whereClause,
        sources.registry.lookup datasource = some found
          ∧ scan.table = some table
          ∧ baseFilterSql df found.kind scan = .ok whereClause
          ∧ fetchParallel drivers shown datasource (tableRef scan table) (selectListSql scan)
              parallelPartitions whereClause sources = (.ok result, reached) := by
  obtain ⟨kind, same, named, sends⟩ := Proc.bind_eq_ok.mp ran
  obtain ⟨rfl, found, registered, rfl⟩ := kind_eq_ok named
  cases structured : scan.table with
  | none =>
      simp only [structured] at sends
      cases sends
  | some table =>
      simp only [structured] at sends
      obtain ⟨whereClause, rendered, fetched⟩ := Proc.lift_bind_eq_ok.mp sends
      exact ⟨found, table, whereClause, registered, rfl, Except.mapError_eq_ok.mp rendered, fetched⟩

/-- The statement of a semi-join: the prerendered one, or the probe's with its keys. -/
def SemiJoinSql (df : ExprServices) (kind : DsKind) (scan : ScanSpec) (keyColumn : String)
    (injectColumn : String) (sql : Sql)
    : Prop :=
  match scan.injectedSql with
  | some prerendered => sql = .raw prerendered
  | none => tempJoinSql df kind scan dynKeysTempTable keyColumn injectColumn = .ok sql

theorem tempTableProbe_sends
    (ran : tempTableProbe df (nativeConnectors drivers shown) datasource scan keys injectColumn
      sources = (.ok result, reached))
    : ∃ found sql,
        sources.registry.lookup datasource = some found
          ∧ SemiJoinSql df found.kind scan (Fetched.keyName keys) injectColumn sql
          ∧ fetchTempJoin drivers shown datasource dynKeysTempTable keys sql sources
              = (.ok result, reached) := by
  obtain ⟨kind, same, named, sends⟩ := Proc.bind_eq_ok.mp ran
  obtain ⟨rfl, found, registered, rfl⟩ := kind_eq_ok named
  cases prerendered : scan.injectedSql with
  | some text =>
      simp only [prerendered] at sends
      exact ⟨found, .raw text, registered, by simp [SemiJoinSql, prerendered], sends⟩
  | none =>
      simp only [prerendered] at sends
      obtain ⟨sql, rendered, joined⟩ := Proc.lift_bind_eq_ok.mp sends
      refine ⟨found, sql, registered, ?_, joined⟩
      simpa only [SemiJoinSql, prerendered] using Except.mapError_eq_ok.mp rendered

-----------------------------------------------------------------------------------------
-- Relations made of logged answers
-----------------------------------------------------------------------------------------

/-- An answer to a query for a datasource is among some events. -/
def Logged (datasource : String) (events : List Event) (sql : Sql) (answer : Batches) : Prop :=
  ∃ session, .read datasource session sql (.ok answer) ∈ events

/-- A relation that a read of a datasource makes of answers among some events. -/
inductive MadeOf (shown : ScalarValue → String) (datasource : String) (kind : DsKind)
    (events : List Event)
    : Batches → Prop
  | received {sql : Sql} {answer result : Batches}
    (logged : Logged datasource events sql answer) (received : Received shown kind answer result)
    : MadeOf shown datasource kind events result
  | gathered {names : List String} {source : TableRef} {whereClause : Option SqlExpr}
    {ranges : List (Nat × Nat)} {answers : List Batches} {result : Batches}
    (postgres : kind = .postgres)
    (logged
      : List.Forall₂ (fun range =>
          Logged datasource events (ctidSql (.columns names) source range whereClause)) ranges
        answers)
    (gathered : gatherAnswers shown answers = .ok result)
    : MadeOf shown datasource kind events result

theorem MadeOf.mono {kind : DsKind} {events more : List Event}
    (made : MadeOf shown datasource kind events result)
    (subset : ∀ event ∈ events, event ∈ more)
    : MadeOf shown datasource kind more result := by
  cases made with
  | received logged received =>
      obtain ⟨session, member⟩ := logged
      exact .received ⟨session, subset _ member⟩ received
  | @gathered names source whereClause ranges answers _ postgres logged gathered =>
      have kept
          : List.Forall₂ (fun range =>
              Logged datasource more (ctidSql (.columns names) source range whereClause)) ranges
            answers := by
        refine logged.imp ?_
        intro range answer asked
        obtain ⟨session, member⟩ := asked
        exact ⟨session, subset _ member⟩
      exact .gathered postgres kept gathered

/-- The events of the second state that are not of the first. -/
def newEvents (before after : Sources) : List Event := after.log.drop before.log.length

theorem newEvents_of_append {before after : Sources} {events : List Event}
    (log : after.log = before.log ++ events)
    : newEvents before after = events := by
  rw [newEvents, log, List.drop_left]

/-- What is new since a later state is new since an earlier one. -/
theorem newEvents_subset {first second third : Sources} (grown : first.log <+: second.log)
    {event : Event} (new : event ∈ newEvents second third)
    : event ∈ newEvents first third := by
  have longer := grown.length_le
  have split : second.log.length = first.log.length + (second.log.length - first.log.length) := by
    omega
  rw [newEvents, split, ← List.drop_drop] at new
  exact List.mem_of_mem_drop new

/-- A fetched relation is made of an answer on the session for its datasource. -/
theorem fetch_answers {sql : Sql}
    (fetched : fetch drivers shown datasource sql sources = (.ok result, reached))
    : ∃ found answer,
        sources.registry.lookup datasource = some found
          ∧ (∃ call,
            drivers.query call (sources.catalogs (sources.sessionFor datasource found).database)
                (sources.sessionFor datasource found) sql
              = .ok answer)
          ∧ Logged datasource (newEvents sources reached) sql answer
          ∧ Received shown found.kind answer result := by
  obtain ⟨found, opened, answer, registered, log, catalogs, reads⟩ := fetch_reads fetched
  have grown
      : reached.log
        = sources.log
            ++ [.read datasource (sources.sessionFor datasource found) sql (.ok answer)] := by
    rw [reads.logged, ← log]
    rfl
  refine ⟨found, answer, registered, ?_, ⟨sources.sessionFor datasource found, ?_⟩, reads.received⟩
  · rw [← catalogs]
    exact reads.answered
  · rw [newEvents_of_append grown]
    exact List.mem_singleton.mpr rfl

theorem madeOf_fetch {sql : Sql}
    (fetched : fetch drivers shown datasource sql sources = (.ok result, reached))
    : ∃ found, sources.registry.lookup datasource = some found
        ∧ MadeOf shown datasource found.kind (newEvents sources reached) result := by
  obtain ⟨found, answer, registered, _, logged, received⟩ := fetch_answers fetched
  exact ⟨found, registered, .received logged received⟩

/-- A relation read in page ranges is made of answers to the jobs for these. -/
theorem fetchParallel_answers {source : TableRef} {list : SelectList} {partitions : Nat}
    {whereClause : Option SqlExpr}
    (fetched : fetchParallel drivers shown datasource source list partitions whereClause sources
      = (.ok result, reached))
    : ∃ found pages paged ranges answers,
        sources.registry.lookup datasource = some found
          ∧ found.kind = .postgres
          ∧ relpages drivers shown datasource source.schema source.table sources
            = (.ok pages, paged)
          ∧ ctidRanges pages partitions = .ok ranges
          ∧ List.Forall₂ (AnsweredOn drivers paged datasource found (newEvents sources reached))
            (partitionJobs datasource found paged.clock list source whereClause ranges) answers
          ∧ gatherAnswers shown answers = .ok result := by
  obtain ⟨found, pages, paged, ranges, answers, events, registered, postgres, counted, split, asked,
    gathered, log⟩ := fetchParallel_gathers fetched
  have leads
      : Proc.Leads (SourceEffect (fun _ => True)) sources
          (relpages drivers shown datasource source.schema source.table)
          (fun _ reached => AnsweredLast (fun _ => True) datasource sources reached) :=
    leads_relpages source.schema source.table trivial
  have changes := leads.changes
  rw [counted] at changes
  refine ⟨found, pages, paged, ranges, answers, registered, postgres, counted, split, ?_, gathered⟩
  refine asked.imp ?_
  intro job answer held
  refine held.mono ?_
  intro event member
  apply newEvents_subset (log_prefix_of_changes changes)
  rw [newEvents_of_append log]
  exact member

theorem madeOf_fetchParallel {source : TableRef} {names : List String} {partitions : Nat}
    {whereClause : Option SqlExpr}
    (fetched
      : fetchParallel drivers shown datasource source (.columns names) partitions whereClause
          sources
        = (.ok result, reached))
    : ∃ found, sources.registry.lookup datasource = some found
        ∧ MadeOf shown datasource found.kind (newEvents sources reached) result := by
  obtain ⟨found, _, _, ranges, answers, registered, postgres, _, _, asked, gathered⟩ :=
    fetchParallel_answers fetched
  have logged
      : List.Forall₂ (fun range =>
          Logged datasource (newEvents sources reached)
            (ctidSql (.columns names) source range whereClause)) ranges
        answers := by
    refine forall₂_asked (partitionJobs_forall₂ ..) (asked.imp ?_)
    intro job answer held
    exact ⟨_, held.logged⟩
  exact ⟨found, registered, .gathered postgres logged gathered⟩

/-- A semi-joined relation is made of an answer on a session with the keys table. -/
theorem fetchTempJoin_answers {table : String} {sql : Sql}
    (joined : fetchTempJoin drivers shown datasource table keys sql sources
      = (.ok result, reached))
    : ∃ found session catalogs answer,
        sources.registry.lookup datasource = some found
          ∧ DropsOnly (sources.joinSession datasource found) table sources.catalogs catalogs
          ∧ Keyed drivers table keys (sources.joinSession datasource found) session
          ∧ (∃ call, drivers.query call (catalogs session.database) session sql = .ok answer)
          ∧ Logged datasource (newEvents sources reached) sql answer
          ∧ Received shown found.kind answer result := by
  obtain ⟨found, session, answer, opened, registered, joins, log⟩ := fetchTempJoin_joins joined
  obtain ⟨asked, reads⟩ := joins.reads
  refine ⟨found, session, opened.catalogs, answer, registered, joins.catalogs, joins.keyed,
    reads.answered, ⟨session, ?_⟩, reads.received⟩
  rw [newEvents_of_append log]
  exact List.mem_singleton.mpr rfl

theorem madeOf_fetchTempJoin {table : String} {sql : Sql}
    (joined : fetchTempJoin drivers shown datasource table keys sql sources
      = (.ok result, reached))
    : ∃ found, sources.registry.lookup datasource = some found
        ∧ MadeOf shown datasource found.kind (newEvents sources reached) result := by
  obtain ⟨found, _, _, answer, registered, _, _, _, logged, received⟩ :=
    fetchTempJoin_answers joined
  exact ⟨found, registered, .received logged received⟩

/-- A delivered probe is made of answers to it; by cases on the delivery. -/
theorem madeOf_deliver {delivery : Delivery}
    (ran : deliver df (nativeConnectors drivers shown) datasource scan injectColumn keys delivery
      sources = (.ok result, reached))
    : ∃ found, sources.registry.lookup datasource = some found
        ∧ MadeOf shown datasource found.kind (newEvents sources reached) result := by
  cases delivery with
  | filtered extraFilter =>
      obtain ⟨_, _, _, _, fetched⟩ := fetchScan_sends ran
      exact madeOf_fetch fetched
  | parallel =>
      obtain ⟨_, _, _, _, _, _, fetched⟩ := parallelProbeScan_sends ran
      exact madeOf_fetchParallel fetched
  | tempTable =>
      obtain ⟨_, _, _, _, joined⟩ := tempTableProbe_sends ran
      exact madeOf_fetchTempJoin joined

/-- So is a reduced probe, which asks statistics first. -/
theorem madeOf_runInjectedScan {injectColumnNdv : Option Nat} {extras : List (String × Batches)}
    (ran : runInjectedScan df (nativeConnectors drivers shown) datasource scan injectColumn keys
      injectColumnNdv extras sources = (.ok result, reached))
    : ∃ found, sources.registry.lookup datasource = some found
        ∧ MadeOf shown datasource found.kind (newEvents sources reached) result := by
  rw [runInjectedScan_eq] at ran
  obtain ⟨delivery, chosen, chose, delivered⟩ := Proc.bind_eq_ok.mp ran
  have leads
      : Proc.Leads (SourceEffect (fun _ => True)) sources
          (chooseDelivery (nativeConnectors drivers shown) datasource scan injectColumn keys
            injectColumnNdv extras)
          (fun _ _ => True) :=
    leads_chooseDelivery scan injectColumn keys injectColumnNdv extras trivial (fun _ => trivial)
  have changes := leads.changes
  rw [chose] at changes
  obtain ⟨found, registered, made⟩ := madeOf_deliver delivered
  rw [(untouched_chooseDelivery chose).registry] at registered
  refine ⟨found, registered, made.mono ?_⟩
  intro event member
  exact newEvents_subset (log_prefix_of_changes changes) member

/-- And a plain source read. -/
theorem madeOf_fetchSource
    (ran : fetchSource df (nativeConnectors drivers shown) datasource scan sources
      = (.ok result, reached))
    : ∃ found, sources.registry.lookup datasource = some found
        ∧ MadeOf shown datasource found.kind (newEvents sources reached) result := by
  unfold fetchSource at ran
  split at ran
  · obtain ⟨_, checked, checks, read⟩ := Proc.bind_eq_ok.mp ran
    obtain ⟨kind, same, named, passes⟩ := Proc.bind_eq_ok.mp checks
    obtain ⟨rfl, _⟩ := kind_eq_ok named
    split at passes
    · cases passes
      obtain ⟨_, _, _, _, _, _, fetched⟩ := parallelProbeScan_sends read
      exact madeOf_fetchParallel fetched
    · cases passes
  · obtain ⟨_, _, _, _, fetched⟩ := fetchScan_sends ran
    exact madeOf_fetch fetched

end Fedqrs
