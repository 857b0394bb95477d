import Fedqrs.Correctness.CtidRead
import Fedqrs.Correctness.RowValues
import Fedqrs.Engine.ProbeAnswers

/-! The rows that the deliveries of a probe select, and what the sources return of them.
-/

namespace Fedqrs

variable {drivers : Drivers} {shown : ScalarValue → String} {df : ExprServices}
  {meaning : SqlMeaning} {sources reached : Sources} {datasource injectColumn : String}
  {scan : ScanSpec} {keys result : Batches}

-----------------------------------------------------------------------------------------
-- The rows behind a relation
-----------------------------------------------------------------------------------------

/-- The statement asks for rows, not for facts of the catalog. -/
def Sql.AsksRows : Sql → Prop
  | .catalog _ => False
  | .raw _ | .wrapped _ _ | .select _ => True

theorem Sql.Whole.asksRows {sql : Sql} (whole : sql.Whole) : sql.AsksRows := by
  cases sql with
  | catalog text => exact whole.elim
  | raw text | wrapped text filter | select query => trivial

/-- The rows that a datasource answered, among some events, all came under one schema. -/
def AnsweredUnder (datasource : String) (schema : Schema) (events : List Event) : Prop :=
  ∀ sql answer, Logged datasource events sql answer → sql.AsksRows → answer.Under schema

/-- The columns that are re-typed where a source of the kind answers under a schema. -/
def DsKind.retyped (kind : DsKind) (schema : Schema) : List Nat :=
  match kind with
  | .postgres => numericColumns schema
  | .duckDb | .parquet => []

/-- A relation that a read makes of logged answers; each part is the rows of one of them. -/
inductive MadeOfRows (shown : ScalarValue → String) (datasource : String) (kind : DsKind)
    (events : List Event)
    : List (List Row) → Batches → Prop
  | received {sql : Sql} {answer result : Batches} (asks : sql.AsksRows)
    (logged : Logged datasource events sql answer) (received : Received shown kind answer result)
    : MadeOfRows shown datasource kind events [answer.rows] result
  | gathered {asked : List Sql} {answers : List Batches} {result : Batches}
    (postgres : kind = .postgres) (asks : ∀ sql ∈ asked, sql.AsksRows)
    (logged : List.Forall₂ (Logged datasource events) asked answers)
    (gathered : gatherAnswers shown answers = .ok result)
    : MadeOfRows shown datasource kind events (answers.map Batches.rows) result

/-- Answers of one Int64 column come under its schema. -/
theorem answeredUnder_single {name : String} {values : List Int} {events : List Event}
    {session : Session} {sql : Sql}
    (logged : events = [.read datasource session sql (.ok (intBatches name values))])
    : AnsweredUnder datasource (intBatches name []).schema events := by
  intro asked answer found _
  obtain ⟨other, member⟩ := found
  rw [logged, List.mem_singleton] at member
  cases member
  exact ⟨rfl, fun batch inside => List.mem_singleton.mp inside ▸ rfl⟩

section Read

variable {kind : DsKind} {schema : Schema} {events more : List Event} {parts : List (List Row)}

theorem MadeOfRows.mono (made : MadeOfRows shown datasource kind events parts result)
    (subset : ∀ event ∈ events, event ∈ more)
    : MadeOfRows shown datasource kind more parts result := by
  have kept {sql : Sql} {answer : Batches} (logged : Logged datasource events sql answer)
      : Logged datasource more sql answer := by
    obtain ⟨session, member⟩ := logged
    exact ⟨session, subset _ member⟩
  cases made with
  | received asks logged received => exact .received asks (kept logged) received
  | gathered postgres asks logged gathered =>
      exact .gathered postgres asks (logged.imp (fun _ _ => kept)) gathered

/-- Answers to statements that ask for rows come under the schema. -/
theorem AnsweredUnder.under (typed : AnsweredUnder datasource schema events) {asked : List Sql}
    {answers : List Batches} (asks : ∀ sql ∈ asked, sql.AsksRows)
    (logged : List.Forall₂ (Logged datasource events) asked answers)
    : ∀ answer ∈ answers, answer.Under schema := by
  intro answer member
  induction logged with
  | nil => cases member
  | cons head _ ih =>
      rcases List.mem_cons.mp member with rfl | later
      · exact typed _ _ head (asks _ List.mem_cons_self)
      · exact ih (fun sql inside => asks sql (List.mem_cons_of_mem _ inside)) later

/-- The rows of a relation are those of its parts as they are read. -/
theorem MadeOfRows.rows (made : MadeOfRows shown datasource kind events parts result)
    (typed : kind = .postgres → AnsweredUnder datasource schema events)
    : result.rows = readParts shown (kind.retyped schema) parts := by
  cases made with
  | received asks logged received =>
      rw [readParts_single]
      cases kind with
      | postgres => exact normalizeAnswer_rows (typed rfl _ _ logged asks) received
      | duckDb | parquet => exact (congrArg Batches.rows received).trans (readRows_nil _).symm
  | gathered postgres asks logged gathered =>
      subst postgres
      exact gatherAnswers_rows ((typed rfl).under asks logged) gathered

/-- Where the numbers fit, the parts are read as one answer. -/
theorem MadeOfRows.rows_fit (made : MadeOfRows shown datasource kind events parts result)
    (typed : kind = .postgres → AnsweredUnder datasource schema events)
    (fits : FitRows shown (kind.retyped schema) parts.flatten)
    : result.rows = readRows shown (kind.retyped schema) parts.flatten := by
  have rows := made.rows typed
  cases made with
  | received asks logged received =>
      rw [rows, readParts_single, List.flatten_singleton]
  | gathered postgres asks logged gathered =>
      subst postgres
      rw [← List.flatMap_def] at fits ⊢
      exact gatherAnswers_rows_fit ((typed rfl).under asks logged) fits gathered

/-- Then the relation has the values of the source's rows. -/
theorem MadeOfRows.values (made : MadeOfRows shown datasource kind events parts result)
    (typed : kind = .postgres → AnsweredUnder datasource schema events)
    (fits : FitRows shown (kind.retyped schema) parts.flatten)
    : result.values = parts.flatten.map (sourceValues (kind.retyped schema)) := by
  rw [Batches.values, made.rows_fit typed fits]
  exact fits.values

end Read

-----------------------------------------------------------------------------------------
-- What a delivery selects and returns
-----------------------------------------------------------------------------------------

/-- The rows that a delivery's statements select before DISTINCT and LIMIT, a part for each of them,
and the rows that the source can return: those a statement of its own keeps of them, or for page
ranges and semi-joins all, in any order.
-/
inductive Delivers (meaning : SqlMeaning) (drivers : Drivers) (shown : ScalarValue → String)
    (df : ExprServices) (datasource : String) (scan : ScanSpec) (injectColumn : String)
    (keys : Batches) (sources : Sources) (found : DsSpec)
    : Delivery → List (List Row) → List (List Row) → Prop
  | filtered {extraFilter : Option Expr} {sql : Sql} {selected rows : List Row}
    (rendered : scanSql df found.kind scan extraFilter = .ok sql)
    (selects
      : meaning.statementRows
          (sources.catalogs (sources.sessionFor datasource found).database)
          (sources.sessionFor datasource found).temps sql
        = some selected)
    (returns
      : meaning.Denotes (sources.catalogs (sources.sessionFor datasource found).database)
          (sources.sessionFor datasource found).temps sql rows)
    : Delivers meaning drivers shown df datasource scan injectColumn keys sources found
        (.filtered extraFilter) [selected] [rows]
  | parallel {table : String} {whereClause : Option SqlExpr} {pages : Nat} {paged : Sources}
    {ranges : List (Nat × Nat)} {selected parts : List (List Row)}
    (structured : scan.table = some table)
    (rendered : baseFilterSql df found.kind scan = .ok whereClause)
    (counted
      : relpages drivers shown datasource scan.schema table sources = (.ok pages, paged))
    (split : ctidRanges pages parallelPartitions = .ok ranges)
    (selects
      : List.Forall₂ (fun job part =>
            meaning.statementRows
                (sources.catalogs (sources.workerSession datasource found (workerOf job)).database)
                (sources.workerSession datasource found (workerOf job)).temps job.sql
              = some part)
          (partitionJobs datasource found paged.clock (selectListSql scan) (tableRef scan table)
            whereClause ranges)
          selected)
    (returns : List.Forall₂ List.Perm parts selected)
    : Delivers meaning drivers shown df datasource scan injectColumn keys sources found .parallel
        selected parts
  | tempTable {sql : Sql} {session : Session} {catalogs : Database → Catalog}
    {selected rows : List Row}
    (rendered : SemiJoinSql df found.kind scan (Fetched.keyName keys) injectColumn sql)
    (dropped
      : DropsOnly (sources.joinSession datasource found) dynKeysTempTable sources.catalogs
          catalogs)
    (keyed
      : Keyed drivers dynKeysTempTable keys (sources.joinSession datasource found) session)
    (selects
      : meaning.statementRows (catalogs session.database) session.temps sql = some selected)
    (returns : rows.Perm selected)
    : Delivers meaning drivers shown df datasource scan injectColumn keys sources found .tempTable
        [selected] [rows]

-----------------------------------------------------------------------------------------
-- What the builders render
-----------------------------------------------------------------------------------------

/-- A structured scan renders to a query of its table with its DISTINCT and LIMIT. -/
theorem scanSql_query {kind : DsKind} {extraFilter : Option Expr} {sql : Sql}
    (structured : scan.rawSql = none) (rendered : scanSql df kind scan extraFilter = .ok sql)
    : ∃ table filter clause,
        scan.table = some table
          ∧ combinedFilter df scan extraFilter = .ok filter
          ∧ renderOption df kind filter = .ok clause
          ∧ sql = .select
            {
              distinct := scan.distinct
              list := selectListSql scan
              source := tableRef scan table
              filter := clause
              limit := scan.limit
            } := by
  unfold scanSql at rendered
  rw [structured] at rendered
  cases named : scan.table with
  | none =>
      rw [named] at rendered
      cases rendered
  | some table =>
      simp only [named] at rendered
      split at rendered
      · cases rendered
      · obtain ⟨filter, combined, rendered⟩ := Except.bind_eq_ok.mp rendered
        obtain ⟨clause, printed, done⟩ := Except.bind_eq_ok.mp rendered
        cases done
        exact ⟨table, filter, clause, rfl, combined, printed, rfl⟩

/-- A pre-rendered scan is sent as it is, or wrapped to be filtered. -/
theorem scanSql_text {kind : DsKind} {extraFilter : Option Expr} {text : String} {sql : Sql}
    (raw : scan.rawSql = some text) (rendered : scanSql df kind scan extraFilter = .ok sql)
    : extraFilter = none ∧ sql = .raw text
        ∨ ∃ filter clause, extraFilter = some filter
          ∧ df.exprToSql (dialectFor kind) filter = .ok clause
          ∧ sql = .wrapped text clause := by
  unfold scanSql at rendered
  simp only [raw] at rendered
  cases extraFilter with
  | none =>
      cases rendered
      exact Or.inl ⟨rfl, rfl⟩
  | some filter =>
      obtain ⟨clause, printed, done⟩ := Except.bind_eq_ok.mp rendered
      cases done
      exact Or.inr ⟨filter, clause, rfl, printed, rfl⟩

/-- A structured semi-join is a query of the table, without DISTINCT and LIMIT. -/
theorem tempJoinSql_query {kind : DsKind} {tempTable keyColumn : String} {sql : Sql}
    (structured : scan.rawSql = none)
    (rendered : tempJoinSql df kind scan tempTable keyColumn injectColumn = .ok sql)
    : ∃ table base,
        scan.table = some table
          ∧ baseFilterSql df kind scan = .ok base
          ∧ sql = .select
            (wholeSelect (selectListSql scan) (tableRef scan table)
              (some
                (match base with
                | some filter => filter.concatAnd (.inKeys injectColumn keyColumn tempTable)
                | none => .inKeys injectColumn keyColumn tempTable))) := by
  unfold tempJoinSql at rendered
  simp only [structured] at rendered
  cases named : scan.table with
  | none =>
      simp only [named] at rendered
      cases rendered
  | some table =>
      simp only [named] at rendered
      split at rendered
      · cases rendered
      · obtain ⟨base, printed, done⟩ := Except.bind_eq_ok.mp rendered
        cases done
        exact ⟨table, base, rfl, printed, rfl⟩

/-- A semi-join's statement has no modifiers of its own; by cases on the scan's form. -/
theorem SemiJoinSql.whole {kind : DsKind} {keyColumn : String} {sql : Sql}
    (rendered : SemiJoinSql df kind scan keyColumn injectColumn sql)
    : sql.Whole := by
  unfold SemiJoinSql at rendered
  split at rendered
  · rw [rendered]
    trivial
  · cases raw : scan.rawSql with
    | none =>
        obtain ⟨_, _, _, _, rfl⟩ := tempJoinSql_query raw rendered
        exact ⟨rfl, rfl⟩
    | some text =>
        simp only [tempJoinSql, raw] at rendered
        cases rendered
        trivial

/-- So has a job's statement. -/
theorem whole_of_mem_partitionJobs {found : DsSpec} {call : Nat} {list : SelectList}
    {source : TableRef} {whereClause : Option SqlExpr} {ranges : List (Nat × Nat)} {job : Job}
    (member : job ∈ partitionJobs datasource found call list source whereClause ranges)
    : job.sql.Whole := by
  obtain ⟨index, _, rfl⟩ := List.mem_mapIdx.mp member
  exact ⟨rfl, rfl⟩

-----------------------------------------------------------------------------------------
-- The deliveries
-----------------------------------------------------------------------------------------

section Deliveries

variable (answers : meaning.Answers drivers)

include answers

/-- A scan's statement returns rows of those it selects. -/
theorem fetchScan_delivers {extraFilter : Option Expr}
    (ran : fetchScan df (nativeConnectors drivers shown) datasource scan extraFilter sources
      = (.ok result, reached))
    : ∃ found selected parts,
        sources.registry.lookup datasource = some found
          ∧ MadeOfRows shown datasource found.kind (newEvents sources reached) parts result
          ∧ Delivers meaning drivers shown df datasource scan injectColumn keys sources found
            (.filtered extraFilter) selected parts := by
  obtain ⟨found, sql, registered, rendered, fetched⟩ := fetchScan_sends ran
  obtain ⟨found', answer, again, ⟨call, answered⟩, logged, received⟩ := fetch_answers fetched
  cases registered.symm.trans again
  have denotes := answers _ _ _ _ _ answered
  have selects
      : sql.AsksRows
        ∧ ∃ selected,
          meaning.statementRows
              (sources.catalogs (sources.sessionFor datasource found).database)
              (sources.sessionFor datasource found).temps sql
            = some selected := by
    cases raw : scan.rawSql with
    | some text =>
        rcases scanSql_text raw rendered with ⟨_, rfl⟩ | ⟨_, _, _, _, rfl⟩
        · exact ⟨trivial, _, rfl⟩
        · exact ⟨trivial, _, rfl⟩
    | none =>
        obtain ⟨_, _, _, _, _, _, rfl⟩ := scanSql_query raw rendered
        exact ⟨trivial, denotes.selects⟩
  obtain ⟨asks, selected, selects⟩ := selects
  exact ⟨found, [selected], [answer.rows], registered, .received asks logged received,
    .filtered rendered selects denotes⟩

/-- Answers to the jobs' statements hold the rows that these select, in any order; by induction
along the jobs.
-/
theorem answeredOn_rows {found : DsSpec} {events : List Event} {jobs : List Job}
    {relations : List Batches} (whole : ∀ job ∈ jobs, job.sql.Whole)
    (asked : List.Forall₂ (AnsweredOn drivers sources datasource found events) jobs relations)
    : ∃ parts,
        List.Forall₂ (fun job part =>
            meaning.statementRows
                (sources.catalogs (sources.workerSession datasource found (workerOf job)).database)
                (sources.workerSession datasource found (workerOf job)).temps job.sql
              = some part)
          jobs parts
        ∧ List.Forall₂ List.Perm (relations.map Batches.rows) parts := by
  induction asked with
  | nil => exact ⟨[], .nil, .nil⟩
  | cons head _ ih =>
      have denotes := answers _ _ _ _ _ head.answered
      obtain ⟨part, selects, perm⟩ := (SqlMeaning.denotes_whole (whole _ (by simp))).mp denotes
      obtain ⟨parts, others, perms⟩ := ih (fun job member => whole job (by simp [member]))
      exact ⟨part :: parts, .cons selects others, .cons perm perms⟩

theorem parallelProbeScan_delivers
    (ran : parallelProbeScan df (nativeConnectors drivers shown) datasource scan sources
      = (.ok result, reached))
    : ∃ found selected parts,
        sources.registry.lookup datasource = some found
          ∧ MadeOfRows shown datasource found.kind (newEvents sources reached) parts result
          ∧ Delivers meaning drivers shown df datasource scan injectColumn keys sources found
            .parallel selected parts := by
  obtain ⟨found, table, whereClause, registered, structured, rendered, fetched⟩ :=
    parallelProbeScan_sends ran
  obtain ⟨found', pages, paged, ranges, relations, again, postgres, counted, split, asked,
    gathered⟩ := fetchParallel_answers fetched
  cases registered.symm.trans again
  obtain ⟨_, workers, catalogs⟩ := relpages_frame counted
  obtain ⟨selected, selects, perms⟩ :=
    answeredOn_rows answers (fun job => whole_of_mem_partitionJobs) asked
  have logged
      : List.Forall₂ (Logged datasource (newEvents sources reached))
          ((partitionJobs datasource found paged.clock (selectListSql scan) (tableRef scan table)
            whereClause ranges).map Job.sql)
          relations := by
    rw [List.forall₂_map_left_iff]
    refine asked.imp ?_
    intro job answer held
    exact ⟨_, held.logged⟩
  have asks
      : ∀ sql ∈ (partitionJobs datasource found paged.clock (selectListSql scan)
            (tableRef scan table) whereClause ranges).map Job.sql,
          sql.AsksRows := by
    intro sql member
    obtain ⟨job, inside, rfl⟩ := List.mem_map.mp member
    exact (whole_of_mem_partitionJobs inside).asksRows
  simp only [Sources.workerSession, Sources.workerTarget, workers, catalogs] at selects
  exact ⟨found, selected, _, registered, .gathered postgres asks logged gathered,
    .parallel structured rendered counted split selects perms⟩

theorem tempTableProbe_delivers
    (ran : tempTableProbe df (nativeConnectors drivers shown) datasource scan keys injectColumn
      sources = (.ok result, reached))
    : ∃ found selected parts,
        sources.registry.lookup datasource = some found
          ∧ MadeOfRows shown datasource found.kind (newEvents sources reached) parts result
          ∧ Delivers meaning drivers shown df datasource scan injectColumn keys sources found
            .tempTable selected parts := by
  obtain ⟨found, sql, registered, rendered, joined⟩ := tempTableProbe_sends ran
  obtain ⟨found', session, catalogs, answer, again, dropped, keyed, ⟨call, answered⟩, logged,
    received⟩ := fetchTempJoin_answers joined
  cases registered.symm.trans again
  have denotes := answers _ _ _ _ _ answered
  obtain ⟨selected, selects, perm⟩ := (SqlMeaning.denotes_whole rendered.whole).mp denotes
  exact ⟨found, [selected], [answer.rows], registered,
    .received rendered.whole.asksRows logged received,
    .tempTable rendered dropped keyed selects perm⟩

/-- What a delivery that succeeds selects and returns; by cases on the delivery. -/
theorem deliver_delivers {delivery : Delivery}
    (ran : deliver df (nativeConnectors drivers shown) datasource scan injectColumn keys delivery
      sources = (.ok result, reached))
    : ∃ found selected parts,
        sources.registry.lookup datasource = some found
          ∧ MadeOfRows shown datasource found.kind (newEvents sources reached) parts result
          ∧ Delivers meaning drivers shown df datasource scan injectColumn keys sources found
            delivery selected parts := by
  cases delivery with
  | filtered extraFilter => exact fetchScan_delivers answers ran
  | parallel => exact parallelProbeScan_delivers answers ran
  | tempTable => exact tempTableProbe_delivers answers ran

/-- A reduced probe is delivered as its statistics decide, which leave the sources as they are for
it.
-/
theorem runInjectedScan_delivers {injectColumnNdv : Option Nat}
    {extras : List (String × Batches)} {found : DsSpec}
    (registered : sources.registry.lookup datasource = some found)
    (ran
      : runInjectedScan df (nativeConnectors drivers shown) datasource scan injectColumn keys
          injectColumnNdv extras sources
        = (.ok result, reached))
    : ∃ delivery chosen selected parts,
        chooseDelivery (nativeConnectors drivers shown) datasource scan injectColumn keys
            injectColumnNdv extras sources
          = (.ok delivery, chosen)
          ∧ Untouched sources chosen
          ∧ MadeOfRows shown datasource found.kind (newEvents sources reached) parts result
          ∧ Delivers meaning drivers shown df datasource scan injectColumn keys chosen found
            delivery selected parts := by
  rw [runInjectedScan_eq] at ran
  obtain ⟨delivery, chosen, chose, delivered⟩ := Proc.bind_eq_ok.mp ran
  have same := untouched_chooseDelivery chose
  have leads
      : Proc.Leads (SourceEffect (fun _ => True)) sources
          (chooseDelivery (nativeConnectors drivers shown) datasource scan injectColumn keys
            injectColumnNdv extras)
          (fun _ _ => True) :=
    leads_chooseDelivery scan injectColumn keys injectColumnNdv extras trivial (fun _ => trivial)
  have changes := leads.changes
  rw [chose] at changes
  obtain ⟨found', selected, parts, again, made, delivers⟩ := deliver_delivers answers delivered
  rw [same.registry] at again
  cases registered.symm.trans again
  refine ⟨delivery, chosen, selected, parts, chose, same, made.mono ?_, delivers⟩
  intro event member
  exact newEvents_subset (log_prefix_of_changes changes) member

end Deliveries

end Fedqrs
