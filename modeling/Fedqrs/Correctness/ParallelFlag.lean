import Fedqrs.Correctness.CtidRead
import Fedqrs.Engine.Probe

/-! When the partitioned read that a scan's `parallel` flag asks for reads the relation of the
scan's own query.
-/

namespace Fedqrs

/-- The partitions' queries can return these rows, in range order. -/
def PartitionsDenote (meaning : SqlMeaning) (catalog : Catalog) (temps : TempTables)
    (list : SelectList) (source : TableRef) (whereClause : Option SqlExpr)
    (ranges : List (Nat × Nat)) (rows : List Row)
    : Prop :=
  ∃ parts,
    List.Forall₂
        (fun range part =>
          meaning.Denotes catalog temps (ctidSql list source range whereClause) part)
        ranges parts
      ∧ rows = parts.flatten

/-- Wherever a partitioned read of the table can return some rows, the scan's query renders
and can return them.
-/
def ReadsOwnRelation (df : ExprServices) (scan : ScanSpec) (table : String)
    (whereClause : Option SqlExpr)
    : Prop :=
  ∃ sql,
    scanSql df .postgres scan none = .ok sql
      ∧ ∀ (meaning : SqlMeaning) (catalog : Catalog) (temps : TempTables)
          (ranges : List (Nat × Nat)) (rows : List Row),
          Contiguous 0 ranges u32Max
            → (∀ heap, resolveTable catalog temps scan.schema table = some heap
                → ∀ tuple ∈ heap.tuples, tuple.block < u32Max)
            → PartitionsDenote meaning catalog temps (selectListSql scan) (tableRef scan table)
                whereClause ranges rows
            → meaning.Denotes catalog temps sql rows

section Partitions

variable {meaning : SqlMeaning} {catalog : Catalog} {temps : TempTables}
  {list : SelectList} {source : TableRef} {whereClause : Option SqlExpr}

/-- All partitions read one table; by induction over the ranges. -/
theorem PartitionsDenote.flatMap {heap : Heap}
    (resolved : resolveTable catalog temps source.schema source.table = some heap)
    {ranges : List (Nat × Nat)} {rows : List Row}
    (denotes : PartitionsDenote meaning catalog temps list source whereClause ranges rows)
    : rows.Perm
        (ranges.flatMap (fun range =>
          meaning.plainRows catalog temps (ctidSelect list source whereClause range) heap)) := by
  obtain ⟨parts, each, rfl⟩ := denotes
  induction each with
  | nil => exact .refl _
  | cons head _ ih =>
      rw [ctidSql_eq, SqlMeaning.denotes_select rfl rfl] at head
      obtain ⟨other, found, perm⟩ := head
      have same : other = heap := Option.some.inj (found.symm.trans resolved)
      rw [same] at perm
      rw [List.flatten_cons, List.flatMap_cons]
      exact perm.append ih

/-- Ranges up to the last page give the rows of the query over the whole table. -/
theorem PartitionsDenote.whole (rowWise : meaning.RowWise list)
    {ranges : List (Nat × Nat)} {rows : List Row} {last : Nat}
    (contiguous : Contiguous 0 ranges last) (nonempty : ranges ≠ [])
    (pages
      : ∀ heap, resolveTable catalog temps source.schema source.table = some heap
          → ∀ tuple ∈ heap.tuples, tuple.block < last)
    (denotes : PartitionsDenote meaning catalog temps list source whereClause ranges rows)
    : meaning.Denotes catalog temps (.select (wholeSelect list source whereClause)) rows := by
  obtain ⟨heap, resolved⟩
      : ∃ heap, resolveTable catalog temps source.schema source.table = some heap := by
    obtain ⟨parts, each, _⟩ := denotes
    cases each with
    | nil => exact absurd rfl nonempty
    | cons head _ =>
        rw [ctidSql_eq, SqlMeaning.denotes_select rfl rfl] at head
        obtain ⟨heap, found, _⟩ := head
        exact ⟨heap, found⟩
  rw [SqlMeaning.denotes_select rfl rfl]
  exact ⟨heap, resolved,
    (denotes.flatMap resolved).trans (ctidSelect_perm rowWise contiguous (pages heap resolved))⟩

end Partitions

-----------------------------------------------------------------------------------------
-- The two renderings
-----------------------------------------------------------------------------------------

/-- What the gate lets through. -/
theorem requireParallelizable_accepts {σ β : Type} {connectors : Connectors σ β}
    {datasource : String} {scan : ScanSpec} {source reached : σ}
    (accepted : requireParallelizable connectors datasource scan source = (.ok (), reached))
    : scan.table.isSome ∧ scan.distinct = false ∧ scan.limit = none := by
  obtain ⟨kind, _, _, checked⟩ := Proc.bind_eq_ok.mp accepted
  split at checked
  · rename_i gate
    exact ⟨gate.2.1, gate.2.2.1, Option.isNone_iff_eq_none.mp gate.2.2.2⟩
  · cases checked

/-- A structured scan without DISTINCT and LIMIT renders to the query over the whole table
that the partitions are cut from; by cases on its filter.
-/
theorem scanSql_whole (df : ExprServices) {kind : DsKind} {scan : ScanSpec} {table : String}
    {whereClause : Option SqlExpr} (structured : scan.table = some table)
    (plain : scan.distinct = false) (unlimited : scan.limit = none)
    (rendered : baseFilterSql df kind scan = .ok whereClause) (raw : scan.rawSql = none)
    (columns : scan.columns ≠ [])
    : scanSql df kind scan none
      = .ok (.select (wholeSelect (selectListSql scan) (tableRef scan table) whereClause)) := by
  have listed : scan.columns.isEmpty = false := by simpa using columns
  have filter
      : (combinedFilter df scan none >>= renderOption df kind) = .ok whereClause := by
    unfold baseFilterSql at rendered
    unfold combinedFilter
    cases filter : scan.filter with
    | none =>
        rw [filter] at rendered
        cases rendered
        rfl
    | some f =>
        rw [filter] at rendered
        obtain ⟨clause, printed, done⟩ := Except.bind_eq_ok.mp rendered
        obtain ⟨expr, translated, shown⟩ := Except.bind_eq_ok.mp printed
        cases done
        dsimp only
        rw [translated]
        change renderOption df kind (some expr) = _
        rw [renderOption, shown]
        rfl
  obtain ⟨combined, first, second⟩ := Except.bind_eq_ok.mp filter
  simp only [scanSql, raw, structured, listed, Bool.false_eq_true, if_false, first]
  change (renderOption df kind combined >>= _) = _
  rw [second, plain, unlimited]
  rfl

/-- A scan without columns has no query. -/
theorem not_readsOwnRelation_of_columns {df : ExprServices} {scan : ScanSpec} {table : String}
    {whereClause : Option SqlExpr} (structured : scan.table = some table)
    (raw : scan.rawSql = none) (empty : scan.columns = [])
    : ¬ ReadsOwnRelation df scan table whereClause := by
  intro same
  obtain ⟨sql, scanned, _⟩ := same
  simp [scanSql, raw, structured, empty] at scanned

/-- A pre-rendered text has a relation of its own: here a row, where the table is empty. -/
theorem not_readsOwnRelation_of_raw {df : ExprServices} {scan : ScanSpec} {table text : String}
    {whereClause : Option SqlExpr} (raw : scan.rawSql = some text)
    : ¬ ReadsOwnRelation df scan table whereClause := by
  intro same
  obtain ⟨sql, scanned, agrees⟩ := same
  let heap : Heap := { columns := [], tuples := [{ block := 0, cells := [] }] }
  let catalog : Catalog :=
    {
      searchPath := ["public"]
      tables := [((scan.schema.getD "public", table), { columns := [], tuples := [] })]
    }
  have resolved
      : resolveTable catalog (.empty .postgres) scan.schema table
        = some { columns := [], tuples := [] } := by
    cases schema : scan.schema with
    | none =>
        simp [Catalog.resolve, Catalog.schemaOf, Catalog.table, Catalog.Called, catalog, schema]
    | some name => simp [Catalog.resolve, Catalog.table, Catalog.Called, catalog, schema]
  have itself : sql = .raw text := by
    simp only [scanSql, raw] at scanned
    cases scanned
    rfl
  have nothing
      : PartitionsDenote (intMeaning (fun _ _ _ => heap)) catalog (.empty .postgres)
          (selectListSql scan) (tableRef scan table) whereClause [(0, u32Max)] [] := by
    refine ⟨[[]], .cons ?_ .nil, rfl⟩
    rw [ctidSql_eq, SqlMeaning.denotes_select rfl rfl]
    refine ⟨_, resolved, ?_⟩
    simp [SqlMeaning.plainRows, SqlMeaning.selected, SqlMeaning.project, ctidSelect, selectListSql]
  have pages
      : ∀ found, resolveTable catalog (.empty .postgres) scan.schema table = some found
          → ∀ tuple ∈ found.tuples, tuple.block < u32Max := by
    intro found known tuple member
    rw [resolved] at known
    cases known
    cases member
  have denoted :=
    agrees _ catalog (.empty .postgres) [(0, u32Max)] [] (.cons (by decide) (.nil _)) pages nothing
  rw [itself] at denoted
  simp [SqlMeaning.Denotes, intMeaning, heap] at denoted

/-- Of the scans that the gate accepts and whose filter renders, those without a pre-rendered
text and with columns have one relation with and without the flag, and no others do.
-/
theorem requireParallelizable_faithful_iff {σ β : Type} (df : ExprServices)
    (connectors : Connectors σ β) (datasource : String) (scan : ScanSpec) (source reached : σ)
    (table : String) (whereClause : Option SqlExpr)
    (accepted : requireParallelizable connectors datasource scan source = (.ok (), reached))
    (structured : scan.table = some table)
    (rendered : baseFilterSql df .postgres scan = .ok whereClause)
    : (ReadsOwnRelation df scan table whereClause ↔ scan.rawSql = none ∧ scan.columns ≠ [])
      ∧ (scan.rawSql = none ∧ scan.columns ≠ []
        → scanSql df .postgres scan none
            = .ok
              (.select (wholeSelect (selectListSql scan) (tableRef scan table) whereClause))) := by
  obtain ⟨_, plain, unlimited⟩ := requireParallelizable_accepts accepted
  have whole
      : scan.rawSql = none ∧ scan.columns ≠ []
        → scanSql df .postgres scan none
            = .ok
              (.select (wholeSelect (selectListSql scan) (tableRef scan table) whereClause)) :=
    fun both => scanSql_whole df structured plain unlimited rendered both.1 both.2
  refine ⟨⟨?_, ?_⟩, whole⟩
  · intro same
    cases raw : scan.rawSql with
    | some text => exact absurd same (not_readsOwnRelation_of_raw raw)
    | none =>
        refine ⟨rfl, ?_⟩
        intro empty
        exact not_readsOwnRelation_of_columns structured raw empty same
  · intro both
    refine ⟨_, whole both, ?_⟩
    intro meaning catalog temps ranges rows contiguous pages denotes
    exact denotes.whole (meaning.rowWise_columns _) contiguous (contiguous.ne_nil (by decide)) pages

def plainScan : ScanSpec := { table := some "t", columns := ["v"], parallel := true }

theorem requireParallelizable_faithful_plainScan
    : ReadsOwnRelation formExprs plainScan "t" none :=
  (requireParallelizable_faithful_iff formExprs
    (nativeConnectors twoPageDrivers (fun _ => "")) "pg" plainScan twoPages twoPages "t" none rfl
    rfl rfl).1.mpr ⟨rfl, by decide⟩

/-- A scan with both a pre-rendered text and a table passes the gate, and so does one without
columns; neither reads its own relation.
-/
theorem requireParallelizable_unfaithful
    : (requireParallelizable (nativeConnectors twoPageDrivers (fun _ => "")) "pg"
            { plainScan with rawSql := some "SELECT 1" } twoPages
          = (.ok (), twoPages)
        ∧ ¬ ReadsOwnRelation formExprs { plainScan with rawSql := some "SELECT 1" } "t" none)
      ∧ requireParallelizable (nativeConnectors twoPageDrivers (fun _ => "")) "pg"
            { plainScan with columns := [] } twoPages
          = (.ok (), twoPages)
        ∧ ¬ ReadsOwnRelation formExprs { plainScan with columns := [] } "t" none :=
  ⟨⟨rfl, not_readsOwnRelation_of_raw rfl⟩, rfl, not_readsOwnRelation_of_columns rfl rfl rfl⟩

end Fedqrs
