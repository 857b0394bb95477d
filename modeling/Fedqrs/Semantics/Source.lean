import Fedqrs.Connectors.State
import Fedqrs.Core.Partition
import Mathlib.Data.List.Perm.Basic

/-! What statements mean at a source: the rows a query returns, by the tables its names
resolve to. Rows of a query without an order come in any.
-/

namespace Fedqrs

/-- How a source reads what SQL leaves to it: operations on scalars, which rows DISTINCT
takes for equal, a pre-rendered text's relation, and what a select list given as text makes of
the rows at hand: a row of each, or one of all in an aggregate.
-/
structure SqlMeaning where
  ops : ScalarOps
  same : Row → Row → Bool
  relation : Catalog → TempTables → String → Heap
  list : String → List ColumnEnv → List Row

/-- The row at hand as an environment for expressions: its first column of a name. -/
def rowEnv (columns : List String) (cells : Row) : ColumnEnv := fun _ name =>
  ((columns.zip cells).lookup name).getD .null

/-- The row at hand as a database of the kind sees it: its column of the very name, else its first
one that the database takes for the same.
-/
def DsKind.rowEnv (kind : DsKind) (columns : List String) (cells : Row) : ColumnEnv := fun _ name =>
  (((columns.zip cells).lookup name).or
    (((columns.map kind.key).zip cells).lookup (kind.key name))).getD .null

/-- A column that a row has under the very name is the one that a database finds. -/
theorem DsKind.rowEnv_of_verbatim {kind : DsKind} {columns : List String} {cells : Row}
    {name : String} (found : Fedqrs.rowEnv columns cells none name ≠ .null)
    : kind.rowEnv columns cells none name = Fedqrs.rowEnv columns cells none name := by
  unfold DsKind.rowEnv Fedqrs.rowEnv at *
  cases verbatim : (columns.zip cells).lookup name with
  | some value => rfl
  | none =>
      rw [verbatim] at found
      exact absurd rfl found

/-- A temp table's rows, which are on no page of their own. -/
def Batches.heap (relation : Batches) : Heap where
  columns := relation.schema.fields.map Field.name
  tuples := relation.rows.map (fun cells => { block := 0, cells })

/-- The table a name refers to: a temp table hides a permanent one. -/
def resolveTable (catalog : Catalog) (temps : TempTables) (schema : Option String)
    (table : String)
    : Option Heap :=
  let hidden := if temps.kind.reachesTemps schema then temps.lookup table else none
  match hidden with
  | some relation => some relation.heap
  | none => catalog.resolve temps.kind schema table

/-- No temp table of the name hides it. -/
theorem resolveTable_unhidden {catalog : Catalog} {temps : TempTables} {schema : Option String}
    {table : String} (unhidden : temps.lookup table = none)
    : resolveTable catalog temps schema table = catalog.resolve temps.kind schema table := by
  simp only [resolveTable, unhidden, ite_self]

@[simp]
theorem resolveTable_empty (catalog : Catalog) (kind : DsKind) (schema : Option String)
    (table : String)
    : resolveTable catalog (.empty kind) schema table = catalog.resolve kind schema table :=
  resolveTable_unhidden (TempTables.lookup_empty _ _)

/-- The values of a column of a table, none where there is no such table. -/
def columnValues (catalog : Catalog) (temps : TempTables) (table column : String)
    : List ScalarValue :=
  match resolveTable catalog temps none table with
  | some heap =>
      heap.tuples.map (fun tuple => temps.kind.rowEnv heap.columns tuple.cells none column)
  | none => []

/-- The value of a condition on a row, given the page it is on and the values of a table's
column.
-/
def SqlExpr.eval (ops : ScalarOps) (values : String → String → List ScalarValue) (block : Nat)
    (env : ColumnEnv)
    : SqlExpr → ScalarValue
  | .nested inner => inner.eval ops values block env
  | .binaryOp left op right =>
      ops.applyBinary op (left.eval ops values block env) (right.eval ops values block env)
  | .form _ meaning => meaning.eval ops env
  | .inKeys column keyColumn keyTable =>
      .ofTruth (ThreeValued.any ((values keyTable keyColumn).map (ops.sqlEq (env none column))))
  | .ctidRange lo hi => .boolean (inRange block (lo, hi))

namespace SqlMeaning

variable (meaning : SqlMeaning)

/-- Whether a row of a table passes a condition. -/
def passes (catalog : Catalog) (temps : TempTables) (columns : List String)
    (filter : SqlExpr) (tuple : Tuple)
    : Bool :=
  (filter.eval meaning.ops (columnValues catalog temps) tuple.block
    (temps.kind.rowEnv columns tuple.cells)).truth == some true

/-- The rows a select list makes of stored ones. -/
def project (kind : DsKind) (columns : List String) (list : SelectList) (tuples : List Tuple)
    : List Row :=
  let envs := tuples.map (fun tuple => kind.rowEnv columns tuple.cells)
  match list with
  | .columns names => envs.map (fun env => names.map (env none))
  | .text sql => meaning.list sql envs

/-- The list makes its rows of each stored row apart, none of several together: it has no
aggregate, window function or DISTINCT of its own.
-/
def RowWise (list : SelectList) : Prop :=
  ∀ kind columns tuples,
    meaning.project kind columns list tuples
      = tuples.flatMap (fun tuple => meaning.project kind columns list [tuple])

/-- A list of columns does. -/
theorem rowWise_columns (names : List String) : meaning.RowWise (.columns names) := by
  intro kind columns tuples
  simp only [project, List.map_map, List.map_cons, List.map_nil]
  exact List.map_eq_flatMap ..

/-- The stored rows that pass a query's filter. -/
def selected (catalog : Catalog) (temps : TempTables) (filter : Option SqlExpr)
    (heap : Heap)
    : List Tuple :=
  match filter with
  | some condition => heap.tuples.filter (meaning.passes catalog temps heap.columns condition)
  | none => heap.tuples

/-- The rows of a query before DISTINCT and LIMIT. -/
def plainRows (catalog : Catalog) (temps : TempTables) (query : SelectSql) (heap : Heap)
    : List Row :=
  meaning.project temps.kind heap.columns query.list
    (meaning.selected catalog temps query.filter heap)

/-- One row of each kind. -/
structure Deduplicates (rows kept : List Row) : Prop where
  distinct : kept.Pairwise (fun a b => meaning.same a b = false)
  members : ∀ row ∈ kept, row ∈ rows
  covers : ∀ row ∈ rows, ∃ other ∈ kept, meaning.same row other = true

/-- How many of some rows a limit lets through. -/
def allowance : Option Nat → Nat → Nat
  | some limit, count => min limit count
  | none, count => count

/-- Some of the rows, as many as a limit allows. -/
structure Limited (limit : Option Nat) (rows kept : List Row) : Prop where
  among : kept.Subperm rows
  count : kept.length = allowance limit rows.length

/-- The statement can return these rows. -/
def Denotes (catalog : Catalog) (temps : TempTables) (sql : Sql) (rows : List Row)
    : Prop :=
  match sql with
  | .raw text =>
      rows.Perm ((meaning.relation catalog temps text).tuples.map Tuple.cells)
  | .wrapped text filter =>
      rows.Perm
        ((meaning.selected catalog temps (some filter)
          (meaning.relation catalog temps text)).map Tuple.cells)
  | .select query =>
      ∃ heap kept,
        resolveTable catalog temps query.source.schema query.source.table = some heap
          ∧ (if query.distinct then
              meaning.Deduplicates (meaning.plainRows catalog temps query heap) kept
            else
              kept = meaning.plainRows catalog temps query heap)
          ∧ Limited query.limit kept rows
  | .catalog _ => True

/-- The rows that a statement selects, before DISTINCT and LIMIT; none where its table is missing
or it asks the catalog.
-/
def statementRows (catalog : Catalog) (temps : TempTables) : Sql → Option (List Row)
  | .raw text => some ((meaning.relation catalog temps text).tuples.map Tuple.cells)
  | .wrapped text filter =>
      some
        ((meaning.selected catalog temps (some filter)
          (meaning.relation catalog temps text)).map Tuple.cells)
  | .select query =>
      (resolveTable catalog temps query.source.schema query.source.table).map
        (meaning.plainRows catalog temps query)
  | .catalog _ => none

/-- The drivers answer every statement by its meaning, in the catalog of the session's
database and with its temp tables; they may also fail.
-/
def Answers (drivers : Drivers) : Prop :=
  ∀ call catalog session sql answer, drivers.query call catalog session sql = .ok answer
    → meaning.Denotes catalog session.temps sql answer.rows

section Filters

variable {meaning} {catalog : Catalog} {temps : TempTables} {columns : List String}
  {tuple : Tuple}

/-- Conditions joined by AND are passed by the rows that pass both. -/
theorem passes_and (left right : SqlExpr)
    : meaning.passes catalog temps columns (.binaryOp left .and right) tuple
      = (meaning.passes catalog temps columns left tuple
        && meaning.passes catalog temps columns right tuple) := by
  simp only [passes, SqlExpr.eval, ScalarOps.applyBinary, ScalarValue.truth_ofTruth]
  rw [Bool.eq_iff_iff]
  simp

@[simp]
theorem passes_nested (inner : SqlExpr)
    : meaning.passes catalog temps columns (.nested inner) tuple
      = meaning.passes catalog temps columns inner tuple :=
  rfl

@[simp]
theorem passes_ctidRange (lo hi : Nat)
    : meaning.passes catalog temps columns (.ctidRange lo hi) tuple
      = inRange tuple.block (lo, hi) := by
  simp only [passes, SqlExpr.eval, ScalarValue.truth]
  cases inRange tuple.block (lo, hi) <;> rfl

/-- Without DISTINCT and LIMIT a query returns its plain rows. -/
theorem denotes_select {query : SelectSql} (whole : query.distinct = false)
    (unlimited : query.limit = none) {rows : List Row}
    : meaning.Denotes catalog temps (.select query) rows
      ↔ ∃ heap,
          resolveTable catalog temps query.source.schema query.source.table = some heap
            ∧ rows.Perm (meaning.plainRows catalog temps query heap) := by
  simp only [Denotes, whole, Bool.false_eq_true, if_false]
  constructor
  · intro denotes
    obtain ⟨heap, kept, resolved, rfl, limited⟩ := denotes
    have count := limited.count
    rw [unlimited] at count
    exact ⟨heap, resolved, limited.among.perm_of_length_le count.ge⟩
  · intro plain
    obtain ⟨heap, resolved, perm⟩ := plain
    refine ⟨heap, _, resolved, rfl, perm.subperm, ?_⟩
    rw [unlimited]
    exact perm.length_eq

end Filters

section Selections

variable {meaning} {catalog : Catalog} {temps : TempTables} {rows : List Row}

/-- Without DISTINCT and LIMIT a statement returns what it selects; by cases on its form. -/
theorem denotes_whole {sql : Sql} (whole : sql.Whole)
    : meaning.Denotes catalog temps sql rows
      ↔ ∃ selected, meaning.statementRows catalog temps sql = some selected
          ∧ rows.Perm selected := by
  cases sql with
  | raw text => simp only [Denotes, statementRows, Option.some.injEq, exists_eq_left']
  | wrapped text filter => simp only [Denotes, statementRows, Option.some.injEq, exists_eq_left']
  | catalog text => exact whole.elim
  | select query =>
      rw [denotes_select whole.1 whole.2]
      constructor
      · intro denotes
        obtain ⟨heap, resolved, perm⟩ := denotes
        exact ⟨_, Option.map_eq_some_iff.mpr ⟨heap, resolved, rfl⟩, perm⟩
      · intro selects
        obtain ⟨selected, found, perm⟩ := selects
        obtain ⟨heap, resolved, rfl⟩ := Option.map_eq_some_iff.mp found
        exact ⟨heap, resolved, perm⟩

/-- What a query returns is some of what it selects, apart and few as its modifiers say. -/
theorem Denotes.modified (symmetric : ∀ a b, meaning.same a b = meaning.same b a)
    {query : SelectSql} (denotes : meaning.Denotes catalog temps (.select query) rows)
    : (query.distinct = true → rows.Pairwise (fun a b => meaning.same a b = false))
        ∧ ∀ limit, query.limit = some limit → rows.length ≤ limit := by
  obtain ⟨heap, kept, _, chosen, limited⟩ := denotes
  refine ⟨?_, ?_⟩
  · intro distinct
    rw [if_pos distinct] at chosen
    obtain ⟨few, perm, among⟩ := limited.among
    have apart : few.Pairwise (fun a b => meaning.same a b = false) :=
      chosen.distinct.sublist among
    refine (perm.pairwise_iff ?_).mp apart
    intro a b differs
    rw [symmetric]
    exact differs
  · intro limit bounded
    have count := limited.count
    rw [bounded] at count
    rw [count]
    exact Nat.min_le_left _ _

/-- A query that returns rows has selected some. -/
theorem Denotes.selects {query : SelectSql}
    (denotes : meaning.Denotes catalog temps (.select query) rows)
    : ∃ selected, meaning.statementRows catalog temps (.select query) = some selected := by
  obtain ⟨heap, _, resolved, _⟩ := denotes
  exact ⟨_, Option.map_eq_some_iff.mpr ⟨heap, resolved, rfl⟩⟩

end Selections

end SqlMeaning

end Fedqrs
