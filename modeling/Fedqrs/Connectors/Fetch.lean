import Fedqrs.Connectors.State

/-! Reading from the sources: one statement over the datasource's driver, and the catalog
questions that are asked with such statements.
-/

namespace Fedqrs

section Reading

variable (drivers : Drivers) (shown : ScalarValue → String)

/-- Run a query on a Postgres connection; its numeric columns are normalized. -/
def runQuery (datasource : String) (session : Session) (sql : Sql)
    : SourceM (Except String Batches) := do
  let answer ← runStatement drivers datasource session sql
  pure (answer.mapError Failure.adbc >>= normalizeAnswer shown)

def fetchPostgres (name : String) (found : DsSpec) (sql : Sql) : SourceM Batches := do
  let session ← pgSession drivers name found
  let result ← runQuery drivers shown name session sql
  Proc.lift result

/-- The connection a DuckDB read runs on: the pinned one, or a fresh cursor. -/
def duckSession (path : String) : SourceM Session := do
  let sources ← Proc.get
  match sources.pinnedDuck.lookup path with
  | some session => pure session
  | none => duckCursor drivers path

def fetchDuckdb (name : String) (found : DsSpec) (sql : Sql) : SourceM Batches := do
  let session ← duckSession drivers found.uri
  let answer ← runStatement drivers name session sql
  Proc.lift (answer.mapError (Failure.duck "duckdb query"))

/-- The result's schema is the frame's logical one, its batches are those executed. -/
def fetchParquet (name : String) (found : DsSpec) (sql : Sql) : SourceM Batches := do
  parquetCtx drivers found.uri
  let answer ← runStatement drivers name (.fresh found.target) sql
  Proc.lift (answer.mapError (fun failure => "parquet query: " ++ failure.message))

/-- Run a statement against the named source over its native driver. -/
def fetch (name : String) (sql : Sql) : SourceM Batches := do
  let found ← spec name
  match found.kind with
  | .postgres => fetchPostgres drivers shown name found sql
  | .duckDb => fetchDuckdb drivers name found sql
  | .parquet => fetchParquet drivers name found sql

end Reading

-----------------------------------------------------------------------------------------
-- Catalog answers
-----------------------------------------------------------------------------------------

/-- A cell of a column, a NULL past the end. -/
def ArrayRef.value (column : ArrayRef) (row : Nat) : ScalarValue := column.cells.getD row .null

/-- The raw value of an Int64 cell, zero where it is NULL. -/
def ScalarValue.toInt : ScalarValue → Int
  | .int64 value => value
  | _ => 0

/-- The raw value of a Float64 cell, zero where it is NULL. -/
def ScalarValue.toFloat : ScalarValue → Float
  | .float64 bits => Float.ofBits bits
  | _ => 0

/-- A column by its index, a panic past the last one. -/
def columnAt (batch : RecordBatch) (index : Nat) : Except PyErr ArrayRef :=
  match batch.columns[index]? with
  | some column => .ok column
  | none => .error "index out of bounds"

/-- The page count in the answer to the catalog query: the first row's, cast to 32 bits. -/
def relpagesOf (table : String) : List RecordBatch → Except PyErr Nat
  | [] => .error ("table '" ++ table ++ "' not found for relpages")
  | batch :: rest =>
      if 0 < batch.numRows then do
        let column ← columnAt batch 0
        if column.dataType = .int64 then
          pure ((max (column.value 0).toInt 0).toNat % 2 ^ 32)
        else
          .error "relpages is not int8"
      else
        relpagesOf table rest

/-- The fraction of a table that some distinct filter values select, from `reltuples` and
`n_distinct`; none when the statistics are missing.
-/
def selectivityFromStats (batches : List RecordBatch) (numKeys : Nat)
    : Except PyErr (Option Float) :=
  match batches.find? (fun batch => 0 < batch.numRows) with
  | none => .ok none
  | some batch => do
      let rel ← columnAt batch 0
      if rel.dataType ≠ .float64 then
        pure none
      else do
        let reltuples := (rel.value 0).toFloat
        let ndist ← columnAt batch 1
        if ndist.dataType ≠ .float64 ∨ ndist.value 0 = .null then
          pure none
        else
          let nDistinct := (ndist.value 0).toFloat
          let distinct :=
            if 0 < nDistinct then
              some nDistinct
            else if nDistinct < 0 ∧ 0 < reltuples then
              some (-nDistinct * reltuples)
            else
              none
          match distinct with
          | none => pure none
          | some count =>
              if count ≤ 0 then pure none else pure (some (min (numKeys.toFloat / count) 1))

/-- Keys over the catalog's row count, when the catalog knows the table. -/
def duckFraction (batches : List RecordBatch) (numKeys : Nat) : Except PyErr (Option Float) :=
  match batches.find? (fun batch => 0 < batch.numRows) with
  | none => .ok none
  | some batch => do
      let rows ← columnAt batch 0
      if rows.dataType ≠ .float64 ∨ rows.value 0 = .null ∨ (rows.value 0).toFloat ≤ 0 then
        pure none
      else
        pure (some (numKeys.toFloat / (rows.value 0).toFloat))

/-- The predicate on a table in `pg_class` and its schema in `pg_namespace`. -/
def classPredicate (schema : Option String) (table : String) : String :=
  match schema with
  | some name => "c.relname='" ++ esc table ++ "' AND n.nspname='" ++ esc name ++ "'"
  | none => "c.relname='" ++ esc table ++ "'"

def relpagesSql (schema : Option String) (table : String) : Sql :=
  .catalog
    ("SELECT c.relpages::bigint FROM pg_class c "
      ++ "JOIN pg_namespace n ON n.oid = c.relnamespace WHERE "
      ++ (match schema with
        | some name => "c.relname = '" ++ esc table ++ "' AND n.nspname = '" ++ esc name ++ "'"
        | none => "c.relname = '" ++ esc table ++ "'"))

def selectivitySql (schema : Option String) (table column : String) : Sql :=
  .catalog
    ("SELECT c.reltuples::float8, s.n_distinct::float8 FROM pg_class c "
      ++ "JOIN pg_namespace n ON n.oid=c.relnamespace "
      ++ "LEFT JOIN pg_stats s ON s.schemaname=n.nspname AND s.tablename=c.relname "
      ++ "AND s.attname='" ++ esc column ++ "' WHERE " ++ classPredicate schema table)

def indexedSql (schema : Option String) (table column : String) : Sql :=
  .catalog
    ("SELECT 1 FROM pg_index i "
      ++ "JOIN pg_class c ON c.oid=i.indrelid "
      ++ "JOIN pg_namespace n ON n.oid=c.relnamespace "
      ++ "JOIN pg_attribute a ON a.attrelid=c.oid AND a.attnum=i.indkey[0] "
      ++ "WHERE " ++ classPredicate schema table ++ " AND a.attname='" ++ esc column
      ++ "' LIMIT 1")

def duckSizeSql (schema : Option String) (table : String) : Sql :=
  .catalog
    ("SELECT estimated_size::DOUBLE FROM duckdb_tables() WHERE "
      ++ (match schema with
        | some name => "table_name='" ++ esc table ++ "' AND schema_name='" ++ esc name ++ "'"
        | none => "table_name='" ++ esc table ++ "'"))

section Statistics

variable (drivers : Drivers) (shown : ScalarValue → String)

/-- The table's heap page count, for sizing the ranges. -/
def relpages (name : String) (schema : Option String) (table : String) : SourceM Nat := do
  let answer ← fetch drivers shown name (relpagesSql schema table)
  Proc.lift (relpagesOf table answer.batches)

/-- Estimate the fraction of the probe table that a filter of `numKeys` values selects. -/
def estimateSelectivity (name : String) (schema : Option String) (table column : String)
    (numKeys : Nat)
    : SourceM (Option Float) := do
  let found ← kind name
  if found = .duckDb then do
    let answer ← fetch drivers shown name (duckSizeSql schema table)
    Proc.lift (duckFraction answer.batches numKeys)
  else do
    let answer ← fetch drivers shown name (selectivitySql schema table column)
    Proc.lift (selectivityFromStats answer.batches numKeys)

/-- The key of an index verdict: its parts with a control character between them. -/
def verdictKey (name : String) (schema : Option String) (table column : String) : String :=
  name ++ "\x01" ++ schema.getD "" ++ "\x01" ++ table ++ "\x01" ++ column

/-- The catalog query behind `column_has_index`. -/
def pgColumnIndexed (name : String) (schema : Option String) (table column : String)
    : SourceM Bool := do
  let answer ← fetch drivers shown name (indexedSql schema table column)
  pure (answer.batches.any (fun batch => 0 < batch.numRows))

/-- Whether the column leads an index, cached by datasource, schema, table and column. -/
def columnHasIndex (name : String) (schema : Option String) (table column : String)
    : SourceM Bool := do
  let sources ← Proc.get
  match sources.verdicts.lookup (verdictKey name schema table column) with
  | some cached => do
      record (.recalled name cached.target)
      pure cached.indexed
  | none => do
      let indexed ← pgColumnIndexed drivers shown name schema table column
      Proc.modify (fun sources =>
        {
          sources with
          verdicts :=
            sources.verdicts.insert (verdictKey name schema table column)
              {
                indexed
                datasource := name
                target := sources.log.getLast?.bind Event.target
              }
        })
      pure indexed

end Statistics

end Fedqrs
