import Fedqrs.Connectors.Fetch

/-! Temp tables on the sources: the keys of a semi-join, and tables shipped to DuckDB. -/

namespace Fedqrs

section TempJoin

variable (drivers : Drivers) (shown : ScalarValue → String)

/-- Put the query thread's connection under a name back. -/
def putPg (name : String) (session : Session) : SourceM Unit :=
  Proc.modify (fun sources =>
    { sources with pgCache := sources.pgCache.insert name session })

/-- Drop the keys table if there is one, ingest the keys, run the query and drop the table
again, whose outcome is ignored.
-/
def fetchTempJoinPg (name : String) (found : DsSpec) (tempTable : String) (keys : Batches)
    (joinSql : Sql)
    : SourceM Batches := do
  let session ← pgSession drivers name found
  let dropped ← dropIfExists drivers session tempTable
  putPg name dropped.2
  Proc.lift (dropped.1.mapError Failure.adbcUpdate)
  let ingested ← ingestRows drivers dropped.2 tempTable keys
  putPg name ingested.2
  Proc.lift (ingested.1.mapError Failure.adbcIngest)
  let result ← runQuery drivers shown name ingested.2 joinSql
  let cleaned ← dropIfExists drivers ingested.2 tempTable
  putPg name cleaned.2
  Proc.lift result

/-- Create a temp table on a session. -/
def createTemp (what : String) (session : Session) (table : String) (schema : Schema)
    : SourceM Session := do
  let call ← ticket
  Proc.lift ((drivers.create call session table schema).mapError (fun e => what ++ ": " ++ e))
  pure { session with temps := session.temps.insert table { schema, batches := [] } }

/-- The first column of the keys' schema. -/
def keySchema (keys : Batches) : Schema := .new (keys.schema.fields.take 1)

/-- The failure of a DuckDB appender: making it, or a batch through it. -/
def Failure.appender (making appending : String) (failure : Failure) : String :=
  match failure.stage with
  | .prepare => making ++ ": " ++ failure.message
  | _ => appending ++ ": " ++ failure.message

/-- The keys are ingested and joined on one cursor of its own, dropped with its temp table
at the end.
-/
def fetchTempJoinDuckdb (name : String) (found : DsSpec) (tempTable : String) (keys : Batches)
    (joinSql : Sql)
    : SourceM Batches := do
  let cursor ← duckCursor drivers found.uri
  Proc.lift ((duckTypeName (Fetched.keyType keys)).map (fun _ => ()))
  let created ← createTemp drivers "duckdb temp table" cursor tempTable (keySchema keys)
  let filled ← ingestRows drivers created tempTable keys
  Proc.lift (filled.1.mapError (Failure.appender "duckdb appender" "duckdb key ingest"))
  let answer ← runStatement drivers name filled.2 joinSql
  Proc.lift (answer.mapError (Failure.duck "duckdb temp-join"))

/-- Push keys into a temp table and run a query against it on the same connection. -/
def fetchTempJoin (name tempTable : String) (keys : Batches) (joinSql : Sql)
    : SourceM Batches := do
  let found ← spec name
  match found.kind with
  | .postgres => fetchTempJoinPg drivers shown name found tempTable keys joinSql
  | .duckDb => fetchTempJoinDuckdb drivers name found tempTable keys joinSql
  | .parquet => Proc.fail "temp-join pushdown does not apply to in-process Parquet"

end TempJoin

-----------------------------------------------------------------------------------------
-- Shipments
-----------------------------------------------------------------------------------------

section Shipments

variable (drivers : Drivers)

def putPinned (path : String) (session : Session) : SourceM Unit :=
  Proc.modify (fun sources =>
    { sources with pinnedDuck := sources.pinnedDuck.insert path session })

/-- The connection pinned for a path, a new cursor if there is none. -/
def pinnedSession (path : String) : SourceM Session := do
  let sources ← Proc.get
  match sources.pinnedDuck.lookup path with
  | some session => pure session
  | none => do
      let cursor ← duckCursor drivers path
      putPinned path cursor
      pure cursor

/-- Every column of a shipped relation has a DuckDB type. -/
def duckColumns : List Field → Except String Unit
  | [] => .ok ()
  | field :: rest => do
      let _ ← duckTypeName field.dataType
      duckColumns rest

/-- Replace a temp table of a pinned connection by a relation. -/
def createShippedTable (path : String) (session : Session) (table : String) (rows : Batches)
    : SourceM Unit := do
  Proc.lift (duckColumns rows.schema.fields)
  record (.shipping path table)
  let dropped ← dropIfExists drivers session table
  putPinned path dropped.2
  Proc.lift (dropped.1.mapError (fun failure => "duckdb ship table: " ++ failure.message))
  let created ← createTemp drivers "duckdb ship table" dropped.2 table rows.schema
  putPinned path created
  let filled ← ingestRows drivers created table rows
  putPinned path filled.2
  Proc.lift (filled.1.mapError (Failure.appender "duckdb ship appender" "duckdb ship ingest"))
  record (.shipped path table rows)

/-- Materialize a relation as a temp table on a DuckDB source, on a connection pinned for the
rest of the query.
-/
def shipTable (name table : String) (rows : Batches) : SourceM Unit := do
  let found ← spec name
  if found.kind = .duckDb then do
    let session ← pinnedSession drivers found.uri
    createShippedTable drivers found.uri session table rows
  else
    Proc.fail
      ("ship target '" ++ name ++ "' is not DuckDB (dim shipping supports DuckDB only)")

/-- Drop every pinned connection, and with it every shipped table. -/
def clearShipments (sources : Sources) : Sources :=
  { sources with pinnedDuck := ∅, log := sources.log ++ [.cleared] }

end Shipments

end Fedqrs
