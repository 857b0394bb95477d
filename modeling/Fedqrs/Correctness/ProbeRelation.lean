import Fedqrs.Correctness.ProbeRows

/-! The rows of a probe that a statement selects, as conditions on its stored rows: the static
filter, the filter that is added to it, and the semi-join with a table of keys.
-/

namespace Fedqrs

/-- `value IN (values)`, true only if it is neither false nor unknown. -/
def ScalarOps.isIn (ops : ScalarOps) (value : ScalarValue) (values : List ScalarValue) : Bool :=
  ThreeValued.any (values.map (ops.sqlEq value)) == some true

theorem ScalarOps.isIn_iff {ops : ScalarOps} {value : ScalarValue} {values : List ScalarValue}
    : ops.isIn value values = true ↔ ∃ key ∈ values, ops.sqlEq value key = some true := by
  rw [isIn, beq_iff_eq, ThreeValued.any_eq_true, List.mem_map]

/-- Whether a row passes a filter that there may be. -/
def passesFilter (ops : ScalarOps) (env : ColumnEnv) : Option Expr → Bool
  | none => true
  | some filter => decide (filter.Holds ops env)

/-- A printed expression evaluates as the expression does, whatever else is in the session, and
a binary one is printed in parentheses.
-/
def ExprServices.Renders (df : ExprServices) (ops : ScalarOps) : Prop :=
  ∀ dialect expr printed, df.exprToSql dialect expr = .ok printed
    → printed.Closed
        ∧ ∀ values block env, printed.eval ops values block env = expr.eval ops env

/-- The stored rows that a scan reads: those of its text, or of its table. -/
def probeHeap (meaning : SqlMeaning) (scan : ScanSpec) (catalog : Catalog)
    (temps : TempTables)
    : Option Heap :=
  match scan.rawSql with
  | some text => some (meaning.relation catalog temps text)
  | none => scan.table.bind (resolveTable catalog temps scan.schema)

/-- The columns that a scan returns. -/
def outputColumns (scan : ScanSpec) (heap : Heap) : List String :=
  match scan.rawSql with
  | some _ => heap.columns
  | none => scan.columns

/-- The row that a scan returns of a stored one. -/
def outputRow (scan : ScanSpec) (kind : DsKind) (heap : Heap) (tuple : Tuple) : Row :=
  match scan.rawSql with
  | some _ => tuple.cells
  | none => scan.columns.map (kind.rowEnv heap.columns tuple.cells none)

/-- The static filter of a scan; a pre-rendered text has none of its own. -/
def staticFilter (df : ExprServices) (scan : ScanSpec) : Except DfError (Option Expr) :=
  match scan.rawSql with
  | some _ => .ok none
  | none => combinedFilter df scan none

/-- A probe as a source has it: the kind of its database, which finds columns by name in its own
way, its stored rows, and the static filter on them.
-/
structure ProbeRelation where
  kind : DsKind
  heap : Heap
  filter : Option Expr

namespace ProbeRelation

variable (probe : ProbeRelation)

def env (tuple : Tuple) : ColumnEnv := probe.kind.rowEnv probe.heap.columns tuple.cells

/-- The rows that a scan returns of the stored ones that meet a condition. -/
def rows (scan : ScanSpec) (kept : Tuple → Bool) : List Row :=
  (probe.heap.tuples.filter kept).map (outputRow scan probe.kind probe.heap)

/-- The values of a stored row as a scan returns it, with these numeric columns. -/
def outputValues (scan : ScanSpec) (columns : List Nat) (tuple : Tuple) : List CellValue :=
  sourceValues columns (outputRow scan probe.kind probe.heap tuple)

/-- The values of the rows that a scan returns of the stored ones that meet a condition. -/
def values (scan : ScanSpec) (columns : List Nat) (kept : Tuple → Bool)
    : List (List CellValue) :=
  (probe.heap.tuples.filter kept).map (probe.outputValues scan columns)

theorem map_rows (scan : ScanSpec) (columns : List Nat) (kept : Tuple → Bool)
    : (probe.rows scan kept).map (sourceValues columns) = probe.values scan columns kept :=
  List.map_map ..

/-- The condition of the unreduced scan. -/
def whole (ops : ScalarOps) (tuple : Tuple) : Bool :=
  passesFilter ops (probe.env tuple) probe.filter

/-- The condition of the scan with a filter added. -/
def filtered (ops : ScalarOps) (extraFilter : Option Expr) (tuple : Tuple) : Bool :=
  probe.whole ops tuple && passesFilter ops (probe.env tuple) extraFilter

/-- The condition of the scan semi-joined with some keys. -/
def joined (ops : ScalarOps) (injectColumn : String) (values : List ScalarValue) (tuple : Tuple)
    : Bool :=
  probe.whole ops tuple && ops.isIn (probe.env tuple none injectColumn) values

/-- The stored rows that a scan reads in a session are the probe's. -/
structure IsStored (meaning : SqlMeaning) (scan : ScanSpec) (catalog : Catalog)
    (temps : TempTables)
    : Prop where
  kind : temps.kind = probe.kind
  heap : probeHeap meaning scan catalog temps = some probe.heap

/-- The probe that a scan reads in a session. -/
structure IsRead (meaning : SqlMeaning) (df : ExprServices) (scan : ScanSpec) (catalog : Catalog)
    (temps : TempTables)
    : Prop
    extends probe.IsStored meaning scan catalog temps where
  filter : staticFilter df scan = .ok probe.filter

end ProbeRelation

section Statements

variable {meaning : SqlMeaning} {df : ExprServices} {scan : ScanSpec} {kind : DsKind}
  {catalog : Catalog} {temps : TempTables} {probe : ProbeRelation} {sql : Sql}
  {selected : List Row}

/-- A printed condition is passed by the rows for which its expression holds. -/
theorem passes_printed (renders : df.Renders meaning.ops) {dialect : Dialect} {filter : Expr}
    {clause : SqlExpr} (printed : df.exprToSql dialect filter = .ok clause)
    (columns : List String) (tuple : Tuple)
    : meaning.passes catalog temps columns clause tuple
      = passesFilter meaning.ops (temps.kind.rowEnv columns tuple.cells) (some filter) := by
  have same := (renders dialect filter clause printed).2
  simp only [SqlMeaning.passes, same, passesFilter, Expr.Holds]
  exact beq_eq_decide _ _

/-- The static filter and an added one are passed together. -/
theorem passesFilter_combined {ops : ScalarOps} {static extraFilter both : Option Expr}
    (raw : scan.rawSql = none) (filter : staticFilter df scan = .ok static)
    (combined : combinedFilter df scan extraFilter = .ok both) (env : ColumnEnv)
    : passesFilter ops env both
      = (passesFilter ops env static && passesFilter ops env extraFilter) := by
  simp only [staticFilter, raw, combinedFilter] at filter
  unfold combinedFilter at combined
  cases given : scan.filter with
  | none =>
      simp only [given] at filter combined
      cases filter
      cases extraFilter with
      | none =>
          cases combined
          rfl
      | some added =>
          cases combined
          simp [passesFilter]
  | some f =>
      simp only [given] at filter combined
      obtain ⟨base, translated, done⟩ := Except.bind_eq_ok.mp filter
      cases done
      cases extraFilter with
      | none =>
          obtain ⟨again, same, done⟩ := Except.bind_eq_ok.mp combined
          cases translated.symm.trans same
          cases done
          simp [passesFilter]
      | some added =>
          obtain ⟨again, same, done⟩ := Except.bind_eq_ok.mp combined
          cases translated.symm.trans same
          cases done
          simp [passesFilter]

/-- The filter that a query prints is passed by the rows that pass the expression. -/
theorem selected_printed (renders : df.Renders meaning.ops) {filter : Option Expr}
    {clause : Option SqlExpr} (printed : renderOption df kind filter = .ok clause) (heap : Heap)
    : meaning.selected catalog temps clause heap
      = heap.tuples.filter (fun tuple =>
          passesFilter meaning.ops (temps.kind.rowEnv heap.columns tuple.cells) filter) := by
  cases filter with
  | none =>
      cases printed
      simp [SqlMeaning.selected, passesFilter]
  | some filter =>
      obtain ⟨text, shown, done⟩ := Except.bind_eq_ok.mp printed
      cases done
      exact List.filter_congr (fun tuple _ => passes_printed renders shown heap.columns tuple)

/-- A structured scan's table is there, and its rows are projected to its columns. -/
theorem ProbeRelation.IsRead.table (raw : scan.rawSql = none)
    (isRead : probe.IsRead meaning df scan catalog temps) {table : String}
    (structured : scan.table = some table)
    : resolveTable catalog temps scan.schema table = some probe.heap := by
  have heap := isRead.heap
  simp only [probeHeap, raw, structured] at heap
  exact heap

theorem outputRow_structured (raw : scan.rawSql = none) (kind : DsKind) (heap : Heap)
    (tuples : List Tuple)
    : meaning.project kind heap.columns (selectListSql scan) tuples
      = tuples.map (outputRow scan kind heap) := by
  simp only [SqlMeaning.project, selectListSql, List.map_map]
  refine List.map_congr_left (fun tuple _ => ?_)
  simp only [outputRow, raw, Function.comp_apply]

/-- The rows that a query of the probe's table selects. -/
theorem ProbeRelation.IsRead.statementRows (raw : scan.rawSql = none)
    (isRead : probe.IsRead meaning df scan catalog temps) {table : String}
    (structured : scan.table = some table) {distinct : Bool} {clause : Option SqlExpr}
    {limit : Option Nat}
    : meaning.statementRows catalog temps
          (.select
            {
              distinct
              list := selectListSql scan
              source := tableRef scan table
              filter := clause
              limit
            })
        = some
          ((meaning.selected catalog temps clause probe.heap).map
            (outputRow scan probe.kind probe.heap)) := by
  have resolved := isRead.table raw structured
  simp only [SqlMeaning.statementRows, tableRef, resolved, Option.map_some, SqlMeaning.plainRows,
    outputRow_structured raw, isRead.kind]

/-- The scan's own query selects the rows that pass its static filter and the added one; by cases
on the scan's form.
-/
theorem scanSql_selected (renders : df.Renders meaning.ops)
    (isRead : probe.IsRead meaning df scan catalog temps) {extraFilter : Option Expr}
    (rendered : scanSql df kind scan extraFilter = .ok sql)
    (selects : meaning.statementRows catalog temps sql = some selected)
    : selected = probe.rows scan (probe.filtered meaning.ops extraFilter) := by
  have filter := isRead.filter
  cases raw : scan.rawSql with
  | some text =>
      have heap := isRead.heap
      simp only [probeHeap, raw, Option.some.injEq] at heap
      simp only [staticFilter, raw, Except.ok.injEq] at filter
      have output : outputRow scan probe.kind probe.heap = Tuple.cells := by
        funext tuple
        simp only [outputRow, raw]
      rw [ProbeRelation.rows, output]
      rcases scanSql_text raw rendered with ⟨rfl, rfl⟩ | ⟨added, clause, rfl, printed, rfl⟩
      · simp only [SqlMeaning.statementRows, heap, Option.some.injEq] at selects
        rw [← selects, List.filter_eq_self.mpr]
        intro tuple _
        simp [ProbeRelation.filtered, ProbeRelation.whole, ← filter, passesFilter]
      · simp only [SqlMeaning.statementRows, SqlMeaning.selected, heap, Option.some.injEq]
          at selects
        rw [← selects]
        refine congrArg (List.map _) (List.filter_congr (fun tuple _ => ?_))
        rw [passes_printed renders printed, isRead.kind, ProbeRelation.filtered,
          ProbeRelation.whole, ← filter]
        rfl
  | none =>
      obtain ⟨table, both, clause, structured, combined, printed, rfl⟩ :=
        scanSql_query raw rendered
      rw [isRead.statementRows raw structured] at selects
      cases selects
      rw [selected_printed renders printed, isRead.kind]
      refine congrArg (List.map _) (List.filter_congr (fun tuple _ => ?_))
      exact passesFilter_combined raw filter combined _

/-- A test against the keys table is passed by the rows whose column is among its values. -/
theorem passes_inKeys (columns : List String) (tuple : Tuple) (column keyColumn keyTable : String)
    : meaning.passes catalog temps columns (.inKeys column keyColumn keyTable) tuple
      = meaning.ops.isIn (temps.kind.rowEnv columns tuple.cells none column)
          (columnValues catalog temps keyTable keyColumn) := by
  simp only [SqlMeaning.passes, SqlExpr.eval, ScalarValue.truth_ofTruth, ScalarOps.isIn]

/-- The static filter alone, as the strategies that build their own statements print it. -/
theorem baseFilterSql_printed (raw : scan.rawSql = none) {static : Option Expr}
    {clause : Option SqlExpr} (filter : staticFilter df scan = .ok static)
    (printed : baseFilterSql df kind scan = .ok clause)
    : renderOption df kind static = .ok clause := by
  simp only [staticFilter, raw, combinedFilter] at filter
  unfold baseFilterSql at printed
  cases given : scan.filter with
  | none =>
      simp only [given] at filter printed
      cases filter
      cases printed
      rfl
  | some f =>
      simp only [given] at filter printed
      obtain ⟨base, translated, done⟩ := Except.bind_eq_ok.mp filter
      cases done
      obtain ⟨rendered, shown, done⟩ := Except.bind_eq_ok.mp printed
      cases done
      obtain ⟨again, same, shown⟩ := Except.bind_eq_ok.mp shown
      cases translated.symm.trans same
      simp only [renderOption, shown]
      rfl

/-- The semi-join selects the rows that pass the static filter and whose column is among the keys
in the table; by cases on the scan's form and on the filter.
-/
theorem tempJoinSql_selected (renders : df.Renders meaning.ops)
    (isRead : probe.IsRead meaning df scan catalog temps)
    {tempTable keyColumn injectColumn : String}
    (rendered : tempJoinSql df kind scan tempTable keyColumn injectColumn = .ok sql)
    (selects : meaning.statementRows catalog temps sql = some selected)
    : selected
      = probe.rows scan
          (probe.joined meaning.ops injectColumn
            (columnValues catalog temps tempTable keyColumn)) := by
  have filter := isRead.filter
  cases raw : scan.rawSql with
  | some text =>
      have heap := isRead.heap
      simp only [probeHeap, raw, Option.some.injEq] at heap
      simp only [staticFilter, raw, Except.ok.injEq] at filter
      simp only [tempJoinSql, raw, Except.ok.injEq] at rendered
      have output : outputRow scan probe.kind probe.heap = Tuple.cells := by
        funext tuple
        simp only [outputRow, raw]
      rw [ProbeRelation.rows, output]
      simp only [← rendered, SqlMeaning.statementRows, SqlMeaning.selected, heap,
        Option.some.injEq] at selects
      rw [← selects]
      refine congrArg (List.map _) (List.filter_congr (fun tuple _ => ?_))
      rw [passes_inKeys, isRead.kind, ProbeRelation.joined, ProbeRelation.whole, ← filter]
      rfl
  | none =>
      obtain ⟨table, base, structured, based, rfl⟩ := tempJoinSql_query raw rendered
      have printed := baseFilterSql_printed raw filter based
      rw [wholeSelect, isRead.statementRows raw structured] at selects
      cases selects
      refine congrArg (List.map _) (List.filter_congr (fun tuple _ => ?_))
      unfold ProbeRelation.joined ProbeRelation.whole
      generalize probe.filter = static at printed
      cases static with
      | none =>
          cases printed
          rw [passes_inKeys, isRead.kind]
          rfl
      | some f =>
          obtain ⟨clause, shown, done⟩ := Except.bind_eq_ok.mp printed
          cases done
          simp only
          rw [SqlExpr.concatAnd_closed (renders _ _ _ shown).1, SqlMeaning.passes_and,
            passes_printed renders shown, passes_inKeys, isRead.kind]
          rfl

/-- A page range selects the rows on its pages that pass the static filter. -/
theorem ctidSql_selected (renders : df.Renders meaning.ops) (raw : scan.rawSql = none)
    (isRead : probe.IsRead meaning df scan catalog temps) {table : String}
    (structured : scan.table = some table) {whereClause : Option SqlExpr}
    (based : baseFilterSql df kind scan = .ok whereClause) (range : Nat × Nat)
    (selects
      : meaning.statementRows catalog temps
          (ctidSql (selectListSql scan) (tableRef scan table) range whereClause)
        = some selected)
    : selected
      = probe.rows scan (fun tuple =>
          inRange tuple.block range && probe.whole meaning.ops tuple) := by
  have printed := baseFilterSql_printed raw isRead.filter based
  rw [ctidSql_eq] at selects
  unfold ctidSelect at selects
  rw [isRead.statementRows raw structured] at selects
  cases selects
  refine congrArg (List.map _) (List.filter_congr (fun tuple _ => ?_))
  unfold ProbeRelation.whole
  generalize probe.filter = static at printed
  cases static with
  | none =>
      cases printed
      simp [passesFilter]
  | some f =>
      obtain ⟨clause, shown, done⟩ := Except.bind_eq_ok.mp printed
      cases done
      simp only [SqlMeaning.passes_and, SqlMeaning.passes_ctidRange, SqlMeaning.passes_nested,
        passes_printed renders shown, isRead.kind]
      rfl

end Statements

end Fedqrs
