import Fedqrs.Correctness.ProbeRelation
import Fedqrs.Library.SemiJoin
import Fedqrs.Semantics.ReferenceEngine

/-! Reducing a probe by the keys of the build is transparent: whatever the delivery, the rows it
returns are rows of the whole scan, and those that can join are all among them.
-/

namespace Fedqrs

open SemiJoin

variable {drivers : Drivers} {shown : ScalarValue → String} {df : ExprServices}
  {meaning : SqlMeaning} {sources reached chosen : Sources} {datasource injectColumn : String}
  {found : DsSpec} {scan : ScanSpec} {keys result : Batches} {injectColumnNdv : Option Nat}
  {extras : List (String × Batches)} {delivery : Delivery} {probe : ProbeRelation}
  {ops : ScalarOps}

/-- The collected key values, which are those of the first column. -/
def keyCells (keys : Batches) : List ScalarValue := keys.rows.filterMap List.head?

/-- The condition of a stored row that can join: it passes the static filter, and each column that
keys were collected for is among them.
-/
def ProbeRelation.matching (probe : ProbeRelation) (ops : ScalarOps)
    (conditions : List (String × Batches)) (tuple : Tuple)
    : Bool :=
  probe.whole ops tuple
    && conditions.all (fun condition =>
      ops.isIn (probe.env tuple none condition.1) (keyCells condition.2))

-----------------------------------------------------------------------------------------
-- The added filters
-----------------------------------------------------------------------------------------

/-- The IN list of some keys. -/
theorem inListFilter_passes {column : String} {filter : Expr}
    (rendered : inListFilter keys column = .ok filter) (env : ColumnEnv)
    : passesFilter ops env (some filter) = ops.isIn (env none column) (keyCells keys) := by
  have values : Fetched.keyValues keys = .ok (keyCells keys) := by
    rw [keyCells, Batches.rows_head]
    rfl
  unfold inListFilter at rendered
  rw [values] at rendered
  cases rendered
  simp only [passesFilter, Expr.Holds, Expr.eval, Expr.evalAll_eq_map, Bool.false_eq_true,
    if_false, ScalarValue.truth_ofTruth, List.map_map, Function.comp_def, List.map_id',
    ScalarOps.isIn]
  exact (beq_eq_decide _ _).symm

/-- An added filter and a second one are passed together. -/
theorem andOption_passes (left : Expr) (right : Option Expr) (env : ColumnEnv)
    : passesFilter ops env (some (andOption left right))
      = (passesFilter ops env (some left) && passesFilter ops env right) := by
  cases right with
  | none => exact (Bool.and_true _).symm
  | some other => simp [andOption, passesFilter]

/-- The filter of the extra keys only tests columns for being among their keys; by induction over
the extras.
-/
theorem extrasInFilter_passes {combined filter : Option Expr} {env : ColumnEnv}
    (rendered : extrasInFilter extras combined = .ok filter)
    (matches' : ∀ extra ∈ extras, ops.isIn (env none extra.1) (keyCells extra.2) = true)
    (passes : passesFilter ops env combined = true)
    : passesFilter ops env filter = true := by
  induction extras generalizing combined with
  | nil =>
      cases rendered
      exact passes
  | cons head rest ih =>
      obtain ⟨column, keys⟩ := head
      have others : ∀ extra ∈ rest, ops.isIn (env none extra.1) (keyCells extra.2) = true :=
        fun extra member => matches' extra (List.mem_cons_of_mem _ member)
      simp only [extrasInFilter] at rendered
      split at rendered
      · exact ih rendered others passes
      · obtain ⟨added, listed, rendered⟩ := Except.bind_eq_ok.mp rendered
        refine ih rendered others ?_
        rw [andOption_passes, inListFilter_passes listed, passes, Bool.and_true]
        exact matches' (column, keys) List.mem_cons_self

/-- Without keys no value is among them. -/
theorem keyCells_nil (none : Fetched.numRows keys = 0) : keyCells keys = [] := by
  have empty : keys.rows = [] := by
    rw [← List.length_eq_zero_iff, Batches.length_rows]
    exact none
  rw [keyCells, empty]
  rfl

/-- Whatever filter the chosen delivery adds, rows that can join pass it; by cases on each
decision.
-/
theorem chooseDelivery_passes {extraFilter : Option Expr} {env : ColumnEnv}
    (ran
      : chooseDelivery (nativeConnectors drivers shown) datasource scan injectColumn keys
          injectColumnNdv extras sources
        = (.ok (.filtered extraFilter), chosen))
    (keyed : ops.isIn (env none injectColumn) (keyCells keys) = true)
    (others : ∀ extra ∈ extras, ops.isIn (env none extra.1) (keyCells extra.2) = true)
    : passesFilter ops env extraFilter = true := by
  unfold chooseDelivery at ran
  obtain ⟨extra, rendered, ran⟩ := Proc.lift_bind_eq_ok.mp ran
  have passes : passesFilter ops env extra = true :=
    extrasInFilter_passes (Except.mapError_eq_ok.mp rendered) others rfl
  split at ran
  · rename_i none
    rw [keyCells_nil none] at keyed
    cases keyed
  split at ran
  · obtain ⟨filter, listed, ran⟩ := Proc.lift_bind_eq_ok.mp ran
    cases ran
    rw [andOption_passes, inListFilter_passes (Except.mapError_eq_ok.mp listed), keyed, passes]
    rfl
  obtain ⟨kind, _, _, ran⟩ := Proc.bind_eq_ok.mp ran
  split at ran
  · cases ran
    exact passes
  split at ran
  · cases ran
    exact passes
  have whole (chose : Delivery.whole kind = .filtered extraFilter)
      : passesFilter ops env extraFilter = true := by
    unfold Delivery.whole at chose
    split at chose
    · cases chose
    · cases chose
      rfl
  obtain ⟨unindexed, _, _, ran⟩ := Proc.bind_eq_ok.mp ran
  split at ran
  · exact whole (Except.ok.inj (Prod.mk.inj ran).1)
  obtain ⟨most, _, _, ran⟩ := Proc.bind_eq_ok.mp ran
  split at ran
  · exact whole (Except.ok.inj (Prod.mk.inj ran).1)
  · cases ran

-----------------------------------------------------------------------------------------
-- The deliveries
-----------------------------------------------------------------------------------------

/-- What a semi-join's session has: the keys, as far as membership in them goes, and the probe, or
what the pre-rendered text makes of it.
-/
structure SeesKeyed (meaning : SqlMeaning) (scan : ScanSpec) (injectColumn : String)
    (keys : Batches) (probe : ProbeRelation) (catalog : Catalog) (temps : TempTables)
    : Prop where
  stored : ∀ value, meaning.ops.isIn value (keyCells keys) = true
    → meaning.ops.isIn value
        (columnValues catalog temps dynKeysTempTable (Fetched.keyName keys)) = true
  stores : scan.injectedSql = none → probe.IsStored meaning scan catalog temps
  prerendered : ∀ text, scan.injectedSql = some text
    → ((meaning.relation catalog temps text).tuples.map Tuple.cells).Perm
        (probe.rows scan
          (probe.joined meaning.ops injectColumn
            (columnValues catalog temps dynKeysTempTable (Fetched.keyName keys))))

/-- The delivery reads the probe: a query of its own does; page ranges if every worker's connection
has it, on pages below the last number; a semi-join if its session does, with the keys.
-/
def SeesProbe (meaning : SqlMeaning) (drivers : Drivers) (datasource : String) (found : DsSpec)
    (scan : ScanSpec) (injectColumn : String) (keys : Batches) (sources : Sources)
    (probe : ProbeRelation)
    : Delivery → Prop
  | .filtered _ => True
  | .parallel =>
      (∀ worker,
          probe.IsStored meaning scan
            (sources.catalogs (sources.workerSession datasource found worker).database)
            (sources.workerSession datasource found worker).temps)
        ∧ ∀ tuple ∈ probe.heap.tuples, tuple.block < u32Max
  | .tempTable =>
      ∀ session catalogs,
        DropsOnly (sources.joinSession datasource found) dynKeysTempTable sources.catalogs catalogs
        → Keyed drivers dynKeysTempTable keys (sources.joinSession datasource found) session
        → SeesKeyed meaning scan injectColumn keys probe (catalogs session.database) session.temps

/-- Nothing is in the way of a structured probe: its table has a name of its own and is hidden on no
session, all connections are to one database, and the keys are stored as they are.
-/
structure Unobstructed (drivers : Drivers) (datasource : String) (found : DsSpec)
    (scan : ScanSpec) (table : String) (keys : Batches) (sources : Sources)
    (probe : ProbeRelation)
    : Prop where
  raw : scan.rawSql = none
  unrendered : scan.injectedSql = none
  structured : scan.table = some table
  named : ¬ (sources.sessionFor datasource found).temps.kind.SameName table dynKeysTempTable
  read : (sources.sessionFor datasource found).temps.lookup table = none
  joined : (sources.joinSession datasource found).temps.lookup table = none
  database
    : (sources.joinSession datasource found).database
      = (sources.sessionFor datasource found).database
  workers : ∀ worker,
    (sources.workerSession datasource found worker).database
      = (sources.sessionFor datasource found).database
  below : ∀ tuple ∈ probe.heap.tuples, tuple.block < u32Max
  key : keys.schema.fields ≠ []
  stores : ∀ call session rows,
    drivers.ingest call session dynKeysTempTable keys = .stored rows → rows = keys

/-- Dropping a table leaves those of another name. -/
theorem resolve_dropUnqualified {kind : DsKind} {catalog : Catalog} {schema : Option String}
    {table gone : String} (named : ¬ kind.SameName table gone)
    : (catalog.dropUnqualified kind gone).resolve kind schema table
      = catalog.resolve kind schema table := by
  unfold Catalog.dropUnqualified
  split
  · rename_i holder _
    have found (name : String)
        : { catalog with
              tables :=
                catalog.tables.filter (fun entry => ¬ Catalog.Called kind holder gone entry)
            }.table kind name table
          = catalog.table kind name table := by
      unfold Catalog.table
      rw [List.find?_filter]
      congr 2
      funext entry
      by_cases called : Catalog.Called kind name table entry
      · have stays : ¬ Catalog.Called kind holder gone entry :=
          fun dropped => named (called.2.symm.trans dropped.2)
        simp [called, stays]
      · simp [called]
    cases schema with
    | some name => exact found name
    | none => simp only [Catalog.resolve, Catalog.schemaOf, found]
  · rfl

/-- The key values are those of the keys' own column in their table. -/
theorem mem_columnValues_keys {catalog : Catalog} {temps : TempTables}
    (stored : temps.lookup dynKeysTempTable = some keys) (key : keys.schema.fields ≠ [])
    {value : ScalarValue} (member : value ∈ keyCells keys)
    : value ∈ columnValues catalog temps dynKeysTempTable (Fetched.keyName keys) := by
  obtain ⟨row, inside, head⟩ := List.mem_filterMap.mp member
  have resolved : resolveTable catalog temps none dynKeysTempTable = some keys.heap := by
    simp only [resolveTable, DsKind.reachesTemps, if_true, stored]
  simp only [columnValues, resolved, Batches.heap, List.map_map, List.mem_map,
    Function.comp_apply]
  refine ⟨row, inside, ?_⟩
  cases row with
  | nil => cases head
  | cons first others =>
      cases head
      cases fields : keys.schema.fields with
      | nil => exact absurd fields key
      | cons field rest => simp [DsKind.rowEnv, Fetched.keyName, fields]

/-- Then every delivery reads the probe that the scan's own query does; by cases on it. -/
theorem Unobstructed.seesProbe {table : String}
    (free : Unobstructed drivers datasource found scan table keys sources probe)
    (isRead
      : probe.IsRead meaning df scan
          (sources.catalogs (sources.sessionFor datasource found).database)
          (sources.sessionFor datasource found).temps)
    (delivery : Delivery)
    : SeesProbe meaning drivers datasource found scan injectColumn keys sources probe delivery := by
  have permanent
      : (sources.catalogs (sources.sessionFor datasource found).database).resolve probe.kind
            scan.schema table
        = some probe.heap := by
    rw [← isRead.kind, ← resolveTable_unhidden free.read]
    exact isRead.table free.raw free.structured
  have kinds {session : Session}
      (database : session.database = (sources.sessionFor datasource found).database)
      : session.temps.kind = probe.kind := by
    rw [← isRead.kind, session.named, (sources.sessionFor datasource found).named]
    exact congrArg Database.kind database
  cases delivery with
  | filtered extraFilter => trivial
  | parallel =>
      refine ⟨?_, free.below⟩
      intro worker
      have unhidden
          : (sources.workerSession datasource found worker).temps.lookup table = none :=
        TempTables.lookup_empty _ _
      refine ⟨kinds (free.workers worker), ?_⟩
      simp only [probeHeap, free.raw, free.structured, Option.bind_some]
      rw [resolveTable_unhidden unhidden, kinds (free.workers worker), free.workers]
      exact permanent
  | tempTable =>
      intro session catalogs dropped keyed
      obtain ⟨call, cursor, rows, ingested, stored⟩ := keyed.stored
      have same := free.stores call cursor rows ingested
      rw [same] at stored
      have named : ¬ probe.kind.SameName table dynKeysTempTable := isRead.kind ▸ free.named
      have joined := kinds free.database
      have kind : session.temps.kind = probe.kind := keyed.toRetabled.kind.trans joined
      refine ⟨?_, ?_, ?_⟩
      · intro value among
        obtain ⟨cell, member, equal⟩ := ScalarOps.isIn_iff.mp among
        exact ScalarOps.isIn_iff.mpr ⟨cell, mem_columnValues_keys stored free.key member, equal⟩
      · intro _
        have unhidden : session.temps.lookup table = none := by
          rw [keyed.others table (joined ▸ named)]
          exact free.joined
        have kept
            : (catalogs session.database).resolve probe.kind scan.schema table
              = (sources.catalogs session.database).resolve probe.kind scan.schema table := by
          rcases dropped with same | ⟨_, same⟩
          · rw [same]
          · rw [same, ← keyed.toRetabled.database, Function.update_self, ← session.named_database,
              kind]
            exact resolve_dropUnqualified named
        refine ⟨kind, ?_⟩
        simp only [probeHeap, free.raw, free.structured, Option.bind_some]
        rw [resolveTable_unhidden unhidden, kind, kept, keyed.toRetabled.database, free.database]
        exact permanent
      · intro text prerendered
        rw [free.unrendered] at prerendered
        cases prerendered

/-- A scan without DISTINCT and LIMIT renders to a statement without them. -/
theorem scanSql_isWhole {kind : DsKind} {extraFilter : Option Expr} {sql : Sql}
    (plain : scan.distinct = false) (unlimited : scan.limit = none)
    (rendered : scanSql df kind scan extraFilter = .ok sql)
    : sql.Whole := by
  cases raw : scan.rawSql with
  | some text =>
      rcases scanSql_text raw rendered with ⟨_, rfl⟩ | ⟨_, _, _, _, rfl⟩
      · trivial
      · trivial
  | none =>
      obtain ⟨_, _, _, _, _, _, rfl⟩ := scanSql_query raw rendered
      exact ⟨plain, unlimited⟩

/-- The scan's own query returns the rows that pass its filters. -/
theorem denotes_filtered (renders : df.Renders meaning.ops) (plain : scan.distinct = false)
    (unlimited : scan.limit = none) {kind : DsKind} {catalog : Catalog}
    {temps : TempTables} (isRead : probe.IsRead meaning df scan catalog temps)
    {extraFilter : Option Expr} {sql : Sql} {rows : List Row}
    (rendered : scanSql df kind scan extraFilter = .ok sql)
    (denotes : meaning.Denotes catalog temps sql rows)
    : rows.Perm (probe.rows scan (probe.filtered meaning.ops extraFilter)) := by
  have whole := scanSql_isWhole plain unlimited rendered
  obtain ⟨selected, selects, perm⟩ := (SqlMeaning.denotes_whole whole).mp denotes
  rw [scanSql_selected renders isRead rendered selects] at perm
  exact perm

/-- The page ranges return the rows that pass the static filter, each once: every page is in one
range.
-/
theorem parallel_perm (renders : df.Renders meaning.ops) (raw : scan.rawSql = none)
    {catalogs : Database → Catalog} {sessions : Nat → Session}
    (reads : ∀ worker,
      probe.IsRead meaning df scan (catalogs (sessions worker).database) (sessions worker).temps)
    (below : ∀ tuple ∈ probe.heap.tuples, tuple.block < u32Max) {table : String}
    (structured : scan.table = some table) {kind : DsKind} {whereClause : Option SqlExpr}
    (based : baseFilterSql df kind scan = .ok whereClause) {call : Nat}
    {ranges : List (Nat × Nat)} (contiguous : Contiguous 0 ranges u32Max)
    {parts : List (List Row)}
    (selects
      : List.Forall₂ (fun job part =>
            meaning.statementRows (catalogs (sessions (workerOf job)).database)
                (sessions (workerOf job)).temps job.sql
              = some part)
          (partitionJobs datasource found call (selectListSql scan) (tableRef scan table)
            whereClause ranges)
          parts)
    : parts.flatten.Perm (probe.rows scan (probe.whole meaning.ops)) := by
  have asked
      : List.Forall₂ (fun range part =>
            ∃ worker,
              meaning.statementRows (catalogs (sessions worker).database) (sessions worker).temps
                  (ctidSql (selectListSql scan) (tableRef scan table) range whereClause)
                = some part)
          ranges parts := by
    refine
      @forall₂_asked _ _ (fun sql part =>
          ∃ worker,
            meaning.statementRows (catalogs (sessions worker).database) (sessions worker).temps sql
              = some part) _ _ _
        (partitionJobs_forall₂ ..) (selects.imp ?_)
    intro job part found
    exact ⟨workerOf job, found⟩
  have flat
      : parts.flatten
        = ranges.flatMap (fun range =>
            probe.rows scan (fun tuple =>
              inRange tuple.block range && probe.whole meaning.ops tuple)) := by
    clear selects contiguous
    induction asked with
    | nil => rfl
    | cons head _ ih =>
        obtain ⟨worker, selects⟩ := head
        rw [List.flatten_cons, List.flatMap_cons, ih]
        congr 1
        exact ctidSql_selected renders raw (reads worker) structured based _ selects
  have once
      : (ranges.flatMap (fun range =>
            probe.heap.tuples.filter (fun tuple =>
              inRange tuple.block range && probe.whole meaning.ops tuple))).Perm
          (probe.heap.tuples.filter (probe.whole meaning.ops)) := by
    apply flatMap_filter_perm
    intro tuple member
    by_cases passes : probe.whole meaning.ops tuple = true
    · simp only [passes, Bool.and_true, if_true]
      rw [contiguous.countP]
      simp [below tuple member]
    · simp [passes]
  have mapped := once.map (outputRow scan probe.kind probe.heap)
  rw [List.map_flatMap] at mapped
  rw [flat]
  exact mapped

theorem ProbeRelation.matching_iff {tuple : Tuple} {conditions : List (String × Batches)}
    : probe.matching ops conditions tuple = true
      ↔ probe.whole ops tuple = true
        ∧ ∀ condition ∈ conditions,
          ops.isIn (probe.env tuple none condition.1) (keyCells condition.2) = true := by
  rw [matching, Bool.and_eq_true, List.all_eq_true]

/-- What a delivery returns are the rows of the whole scan that meet a condition, which those that
can join meet; by cases on the delivery.
-/
theorem Delivers.kept (renders : df.Renders meaning.ops)
    (oneForm : scan.rawSql = none ∨ scan.table = none) (plain : scan.distinct = false)
    (unlimited : scan.limit = none)
    (isRead
      : probe.IsRead meaning df scan
          (sources.catalogs (sources.sessionFor datasource found).database)
          (sources.sessionFor datasource found).temps)
    (added : ∀ extraFilter, delivery = .filtered extraFilter
      → ∀ tuple, probe.matching meaning.ops ((injectColumn, keys) :: extras) tuple = true
        → passesFilter meaning.ops (probe.env tuple) extraFilter = true)
    (sees
      : SeesProbe meaning drivers datasource found scan injectColumn keys sources probe delivery)
    {selected parts : List (List Row)}
    (delivers
      : Delivers meaning drivers shown df datasource scan injectColumn keys sources found delivery
          selected parts)
    : ∃ kept,
        parts.flatten.Perm (probe.rows scan kept)
          ∧ probe.matching meaning.ops ((injectColumn, keys) :: extras) ≤ kept
          ∧ kept ≤ probe.whole meaning.ops := by
  cases delivers with
  | filtered rendered _ returns =>
      rw [List.flatten_singleton]
      refine ⟨_, denotes_filtered renders plain unlimited isRead rendered returns, ?_, ?_⟩
      · intro tuple matching
        rw [ProbeRelation.filtered, (ProbeRelation.matching_iff.mp matching).1,
          added _ rfl tuple matching]
        rfl
      · intro tuple passes
        exact (Bool.and_eq_true_iff.mp passes).1
  | parallel structured rendered counted split selects returns =>
      have raw : scan.rawSql = none := by
        rcases oneForm with raw | unstructured
        · exact raw
        · rw [structured] at unstructured
          cases unstructured
      obtain ⟨small, _⟩ := relpages_frame counted
      obtain ⟨ranges, ranged, contiguous⟩ :=
        ctidRanges_contiguous small (by decide : 1 ≤ parallelPartitions) (by decide)
      rw [split] at ranged
      cases ranged
      obtain ⟨reads, below⟩ := sees
      have perm := List.Perm.flatten_congr returns
      refine ⟨probe.whole meaning.ops, perm.trans ?_, ?_, le_refl _⟩
      · exact parallel_perm renders raw (fun worker => ⟨reads worker, isRead.filter⟩) below
          structured rendered contiguous selects
      · intro tuple matching
        exact (ProbeRelation.matching_iff.mp matching).1
  | tempTable rendered dropped keyed selects returns =>
      rename_i sql session catalogs _ _
      have seen := sees session catalogs dropped keyed
      rw [List.flatten_singleton]
      refine
        ⟨probe.joined meaning.ops injectColumn
            (columnValues (catalogs session.database) session.temps dynKeysTempTable
              (Fetched.keyName keys)),
          returns.trans ?_, ?_, ?_⟩
      · unfold SemiJoinSql at rendered
        cases prerendered : scan.injectedSql with
        | some text =>
            simp only [prerendered] at rendered
            rw [rendered] at selects
            cases selects
            exact seen.prerendered text prerendered
        | none =>
            simp only [prerendered] at rendered
            have same :=
              tempJoinSql_selected renders ⟨seen.stores prerendered, isRead.filter⟩ rendered selects
            rw [same]
      · intro tuple matching
        obtain ⟨whole, among⟩ := ProbeRelation.matching_iff.mp matching
        have stored := seen.stored _ (among (injectColumn, keys) List.mem_cons_self)
        rw [ProbeRelation.joined, whole, stored]
        rfl
      · intro tuple passes
        exact (Bool.and_eq_true_iff.mp passes).1

-----------------------------------------------------------------------------------------
-- The join with the build
-----------------------------------------------------------------------------------------

/-- An equi-join of probe rows with a build's rows: each listed column of the one equals a value of
the other.
-/
def joinsOn {β : Type} (ops : ScalarOps) (columns : List String)
    (conditions : List (String × (β → ScalarValue))) (row : Row) (other : β)
    : Bool :=
  conditions.all (fun condition =>
    ops.sqlEq (rowEnv columns row none condition.1) (condition.2 other) == some true)

/-- The keys are those of the build for these conditions: every value of it is a NULL or among
them.
-/
def Collected {β : Type} (build : Multiset β) (keyed : List (String × Batches))
    (conditions : List (String × (β → ScalarValue)))
    : Prop :=
  List.Forall₂ (fun keys condition =>
      keys.1 = condition.1
        ∧ ∀ other ∈ build, condition.2 other = .null ∨ condition.2 other ∈ keyCells keys.2)
    keyed conditions

theorem lookup_zip_map {f : String → ScalarValue} {names : List String} {name : String}
    : (names.zip (names.map f)).lookup name = if name ∈ names then some (f name) else none := by
  induction names with
  | nil => rfl
  | cons head rest ih =>
      rw [List.map_cons, List.zip_cons_cons, List.lookup_cons, ih]
      by_cases same : name = head
      · simp [same]
      · have differs : (name == head) = false := beq_eq_false_iff_ne.mpr same
        simp only [differs, List.mem_cons, same, false_or]

/-- What a returned row equals in a column, the stored one does. -/
theorem sqlEq_outputRow {kind : DsKind} {heap : Heap} {tuple : Tuple} {column : String}
    {value : ScalarValue}
    (equal
      : ops.sqlEq (rowEnv (outputColumns scan heap) (outputRow scan kind heap tuple) none column)
          value
        = some true)
    : ops.sqlEq (kind.rowEnv heap.columns tuple.cells none column) value = some true := by
  cases raw : scan.rawSql with
  | some text =>
      simp only [outputColumns, outputRow, raw] at equal
      rw [DsKind.rowEnv_of_verbatim (ScalarOps.sqlEq_eq_true.mp equal).1]
      exact equal
  | none =>
      simp only [outputColumns, outputRow, raw] at equal
      have lookup
          : rowEnv scan.columns (scan.columns.map (kind.rowEnv heap.columns tuple.cells none)) none
              column
            = if column ∈ scan.columns then kind.rowEnv heap.columns tuple.cells none column
              else .null := by
        simp only [rowEnv, lookup_zip_map]
        split <;> rfl
      rw [lookup] at equal
      split at equal
      · exact equal
      · exact absurd rfl (ScalarOps.sqlEq_eq_true.mp equal).1

/-- A row of the whole scan that has a partner in the build can join; by induction along the
conditions.
-/
theorem matching_of_joined {β : Type} {build : Multiset β} {keyed : List (String × Batches)}
    {conditions : List (String × (β → ScalarValue))} (collected : Collected build keyed conditions)
    {tuple : Tuple} (whole : probe.whole ops tuple = true) {other : β} (inside : other ∈ build)
    (joined
      : joinsOn ops (outputColumns scan probe.heap) conditions
          (outputRow scan probe.kind probe.heap tuple) other
        = true)
    : probe.matching ops keyed tuple = true := by
  refine ProbeRelation.matching_iff.mpr ⟨whole, ?_⟩
  induction collected with
  | nil =>
      intro condition member
      cases member
  | cons head _ ih =>
      obtain ⟨same, covers⟩ := head
      rw [joinsOn, List.all_cons, Bool.and_eq_true] at joined
      intro condition member
      rcases List.mem_cons.mp member with rfl | later
      · have equal := sqlEq_outputRow (beq_iff_eq.mp joined.1)
        rw [same]
        rcases covers other inside with missing | among
        · rw [missing] at equal
          exact absurd rfl (ScalarOps.sqlEq_eq_true.mp equal).2.1
        · exact ScalarOps.isIn_iff.mpr ⟨_, among, equal⟩
      · exact ih joined.2 condition later

/-- A condition on the values of returned rows joins them only with rows of the build whose columns
are equal to theirs for the source.
-/
def JoinsEqual {β : Type} (probe : ProbeRelation) (ops : ScalarOps) (scan : ScanSpec)
    (columns : List Nat) (conditions : List (String × (β → ScalarValue)))
    (on : List CellValue → β → Bool)
    : Prop :=
  ∀ tuple ∈ probe.heap.tuples, ∀ other,
    on (probe.outputValues scan columns tuple) other = true
    → joinsOn ops (outputColumns scan probe.heap) conditions
          (outputRow scan probe.kind probe.heap tuple) other
        = true

-----------------------------------------------------------------------------------------
-- The reduced probe
-----------------------------------------------------------------------------------------

section Untouched

variable {before after : Sources}

theorem Untouched.sessionFor (same : Untouched before after)
    (registered : before.registry.lookup datasource = some found)
    : after.sessionFor datasource found = before.sessionFor datasource found := by
  unfold Sources.sessionFor
  cases found.kind with
  | postgres => exact same.pooled datasource found registered
  | duckDb => simp only [Sources.pinnedOn, same.pinnedDuck]
  | parquet => rfl

theorem Untouched.joinSession (same : Untouched before after)
    (registered : before.registry.lookup datasource = some found)
    : after.joinSession datasource found = before.joinSession datasource found := by
  unfold Sources.joinSession
  cases found.kind with
  | postgres => exact same.pooled datasource found registered
  | duckDb | parquet => rfl

/-- What the statistics ask does not change what a delivery sees. -/
theorem SeesProbe.of_untouched (same : Untouched before after)
    (registered : before.registry.lookup datasource = some found)
    (sees
      : SeesProbe meaning drivers datasource found scan injectColumn keys before probe delivery)
    : SeesProbe meaning drivers datasource found scan injectColumn keys after probe delivery := by
  cases delivery with
  | filtered extraFilter => trivial
  | parallel =>
      simp only [SeesProbe, Sources.workerSession, Sources.workerTarget, same.workers,
        same.catalogs] at sees ⊢
      exact sees
  | tempTable =>
      simp only [SeesProbe, same.joinSession registered, same.catalogs] at sees ⊢
      exact sees

end Untouched

/-- The unreduced scan returns the values of the rows that pass the static filter. -/
theorem fetchScan_whole (answers : meaning.Answers drivers) (renders : df.Renders meaning.ops)
    (plain : scan.distinct = false) (unlimited : scan.limit = none)
    (registered : sources.registry.lookup datasource = some found)
    (isRead
      : probe.IsRead meaning df scan
          (sources.catalogs (sources.sessionFor datasource found).database)
          (sources.sessionFor datasource found).temps)
    {schema : Schema}
    (fits
      : FitRows shown (found.kind.retyped schema) (probe.rows scan (probe.whole meaning.ops)))
    (typed : found.kind = .postgres → AnsweredUnder datasource schema (newEvents sources reached))
    (ran
      : fetchScan df (nativeConnectors drivers shown) datasource scan none sources
        = (.ok result, reached))
    : result.values.Perm
        (probe.values scan (found.kind.retyped schema) (probe.whole meaning.ops)) := by
  obtain ⟨found', selected, parts, again, made, delivers⟩ :=
    @fetchScan_delivers drivers shown df meaning sources reached datasource "" scan result result
      answers _ ran
  cases registered.symm.trans again
  cases delivers with
  | filtered rendered _ returns =>
      have perm := denotes_filtered renders plain unlimited isRead rendered returns
      have same : probe.filtered meaning.ops none = probe.whole meaning.ops := by
        funext tuple
        exact Bool.and_true _
      rw [same] at perm
      rw [made.values typed (fits.mono (fun row member => perm.mem_iff.mp (by simpa using member))),
        List.flatten_singleton, ← probe.map_rows]
      exact perm.map _

/-- A reduced probe whose delivery reads the probe returns the values of the rows of the whole scan
that meet a condition, which those that can join meet.
-/
theorem runInjectedScan_kept (answers : meaning.Answers drivers) (renders : df.Renders meaning.ops)
    (oneForm : scan.rawSql = none ∨ scan.table = none) (plain : scan.distinct = false)
    (unlimited : scan.limit = none)
    (registered : sources.registry.lookup datasource = some found)
    (isRead
      : probe.IsRead meaning df scan
          (sources.catalogs (sources.sessionFor datasource found).database)
          (sources.sessionFor datasource found).temps)
    (sees : ∀ delivery chosen,
      chooseDelivery (nativeConnectors drivers shown) datasource scan injectColumn keys
          injectColumnNdv extras sources
        = (.ok delivery, chosen)
      → SeesProbe meaning drivers datasource found scan injectColumn keys sources probe delivery)
    {schema : Schema}
    (fits
      : FitRows shown (found.kind.retyped schema) (probe.rows scan (probe.whole meaning.ops)))
    (typed : found.kind = .postgres → AnsweredUnder datasource schema (newEvents sources reached))
    (ran
      : runInjectedScan df (nativeConnectors drivers shown) datasource scan injectColumn keys
          injectColumnNdv extras sources
        = (.ok result, reached))
    : ∃ kept,
        result.values.Perm (probe.values scan (found.kind.retyped schema) kept)
          ∧ probe.matching meaning.ops ((injectColumn, keys) :: extras) ≤ kept
          ∧ kept ≤ probe.whole meaning.ops := by
  obtain ⟨delivery, chosen, selected, parts, chose, same, made, delivers⟩ :=
    runInjectedScan_delivers answers registered ran
  have added
      : ∀ extraFilter, delivery = .filtered extraFilter
          → ∀ tuple, probe.matching meaning.ops ((injectColumn, keys) :: extras) tuple = true
            → passesFilter meaning.ops (probe.env tuple) extraFilter = true := by
    intro extraFilter filters tuple matching
    rw [filters] at chose
    obtain ⟨_, among⟩ := ProbeRelation.matching_iff.mp matching
    exact chooseDelivery_passes chose (among (injectColumn, keys) List.mem_cons_self)
      (fun extra member => among extra (List.mem_cons_of_mem _ member))
  have isRead'
      : probe.IsRead meaning df scan
          (chosen.catalogs (chosen.sessionFor datasource found).database)
          (chosen.sessionFor datasource found).temps := by
    rw [same.sessionFor registered, same.catalogs]
    exact isRead
  obtain ⟨kept, perm, lower, upper⟩ :=
    delivers.kept renders oneForm plain unlimited isRead' added
      ((sees delivery chosen chose).of_untouched same registered)
  refine ⟨kept, ?_, lower, upper⟩
  have among : ∀ row ∈ parts.flatten, row ∈ probe.rows scan (probe.whole meaning.ops) := by
    intro row member
    obtain ⟨tuple, held, output⟩ := List.mem_map.mp (perm.mem_iff.mp member)
    obtain ⟨stored, passes⟩ := List.mem_filter.mp held
    exact List.mem_map.mpr ⟨tuple, List.mem_filter.mpr ⟨stored, upper tuple passes⟩, output⟩
  rw [made.values typed (fits.mono among), ← probe.map_rows]
  exact perm.map _

theorem formExprs_renders (ops : ScalarOps) : formExprs.Renders ops := by
  intro dialect expr printed shown
  cases shown
  exact ⟨trivial, fun _ _ _ => rfl⟩

/-- The column of `t`. -/
def valuesOfT : ScanSpec := { table := some "t", columns := ["v"] }

/-- A DuckDB database whose `main.fedq_dyn_keys` holds the value 7. -/
def duckKeysTable : Sources :=
  .new [("duck", { kind := .duckDb, uri := "d.db", adbcDriver := none })] (fun _ =>
    {
      searchPath := ["main"]
      tables := [(("main", "fedq_dyn_keys"), intHeap "v" [(0, 7)])]
    })

/-- The keys from 0 to 1999, each in a batch of its own. -/
def twoThousandKeys : Batches where
  schema := .new [.new "v" .int64 true]
  batches := (List.range 2000).map (fun value => intBatch "v" [Int.ofNat value])

/-- The rows of that table with the value 5. -/
def fives : ScanSpec :=
  {
    table := some "fedq_dyn_keys"
    columns := ["v"]
    filter := some (.binary "=" (.column none "v") (.literal (.int 5)))
  }

end Fedqrs
