import Fedqrs.Arrow.Numeric
import Fedqrs.Connectors.Interface

/-! The state behind the connectors: the datasource registry, the pools and caches of
connections, the permanent tables of the databases, and a log of what ran where.
-/

namespace Fedqrs

/-- Connection parameters for one registered datasource. -/
structure DsSpec where
  kind : DsKind
  uri : String
  adbcDriver : Option String
deriving DecidableEq, Repr

/-- A database that a connection speaks to. -/
structure Database where
  kind : DsKind
  uri : String
deriving DecidableEq, Repr

def DsSpec.database (spec : DsSpec) : Database := { kind := spec.kind, uri := spec.uri }

/-- What a connection is opened for: its database, and the driver library that serves it, which
DuckDB and Parquet have none of.
-/
structure Target where
  database : Database
  driver : Option String
deriving DecidableEq, Repr

def DsSpec.target (spec : DsSpec) : Target where
  database := spec.database
  driver :=
    match spec.kind with
    | .postgres => spec.adbcDriver
    | .duckDb | .parquet => none

@[simp]
theorem DsSpec.target_database (spec : DsSpec) : spec.target.database = spec.database := rfl

/-- A connection to a DuckDB file. -/
def Target.duck (path : String) : Target :=
  { database := { kind := .duckDb, uri := path }, driver := none }

theorem DsSpec.target_duck {spec : DsSpec} (duck : spec.kind = .duckDb)
    : spec.target = .duck spec.uri := by
  simp only [DsSpec.target, Target.duck, DsSpec.database, duck]

-----------------------------------------------------------------------------------------
-- Names
-----------------------------------------------------------------------------------------

/-- A name as a database compares it. -/
abbrev NameKey : Type := List Char

/-- DuckDB takes no notice of the case of a name, quoted or not. -/
def DsKind.key : DsKind → String → NameKey
  | .duckDb, name => name.toList.map Char.toLower
  | .postgres, name | .parquet, name => name.toList

/-- The two names are one to a database of the kind. -/
def DsKind.SameName (kind : DsKind) (name other : String) : Prop := kind.key name = kind.key other

instance (kind : DsKind) (name other : String) : Decidable (kind.SameName name other) :=
  inferInstanceAs (Decidable (kind.key name = kind.key other))

@[simp]
theorem DsKind.SameName.refl (kind : DsKind) (name : String) : kind.SameName name name := rfl

theorem DsKind.SameName.symm {kind : DsKind} {name other : String}
    (same : kind.SameName name other)
    : kind.SameName other name :=
  Eq.symm same

/-- Postgres takes a quoted name as it is written. -/
@[simp]
theorem DsKind.sameName_postgres {name other : String}
    : DsKind.postgres.SameName name other ↔ name = other :=
  String.toList_inj

/-- An unqualified name may be that of a temp table; in DuckDB a name in the schema `main` too,
which is what the temp tables' own schema is called.
-/
def DsKind.reachesTemps (kind : DsKind) : Option String → Bool
  | none => true
  | some schema => kind == .duckDb && decide (kind.SameName schema "main")

/-- The temp tables of a connection, under their names as its database compares them. -/
structure TempTables where
  kind : DsKind
  tables : AList (fun _ : NameKey => Batches)

namespace TempTables

variable (temps : TempTables) (table : String) (rows : Batches)

/-- No temp table. -/
def empty (kind : DsKind) : TempTables := { kind, tables := ∅ }

def lookup : Option Batches := temps.tables.lookup (temps.kind.key table)

def insert : TempTables :=
  { temps with tables := temps.tables.insert (temps.kind.key table) rows }

def erase : TempTables := { temps with tables := temps.tables.erase (temps.kind.key table) }

@[simp]
theorem lookup_empty (kind : DsKind) : (empty kind).lookup table = none := AList.lookup_empty _

@[simp]
theorem lookup_insert : (temps.insert table rows).lookup table = some rows := AList.lookup_insert _

@[simp]
theorem lookup_erase : (temps.erase table).lookup table = none := AList.lookup_erase _ _

variable {temps table} {other : String}

/-- Two spellings of a name find the same. -/
theorem lookup_congr (same : temps.kind.SameName other table)
    : temps.lookup other = temps.lookup table :=
  congrArg temps.tables.lookup same

theorem lookup_insert_ne (differs : ¬ temps.kind.SameName other table)
    : (temps.insert table rows).lookup other = temps.lookup other :=
  AList.lookup_insert_ne differs

theorem lookup_erase_ne (differs : ¬ temps.kind.SameName other table)
    : (temps.erase table).lookup other = temps.lookup other :=
  AList.lookup_erase_ne differs

end TempTables

/-- A live connection: what it was opened for, and the temp tables it has created, which its
database names.
-/
structure Session where
  target : Target
  temps : TempTables
  named : temps.kind = target.database.kind

/-- The database that a connection speaks to. -/
def Session.database (session : Session) : Database := session.target.database

theorem Session.named_database (session : Session) : session.temps.kind = session.database.kind :=
  session.named

/-- A session without temp tables. -/
def Session.fresh (target : Target) : Session :=
  { target, temps := .empty target.database.kind, named := rfl }

/-- A stored row: the page it is on, and its cells. -/
structure Tuple where
  block : Nat
  cells : Row
deriving DecidableEq, Repr

structure Heap where
  columns : List String
  tuples : List Tuple
deriving DecidableEq, Repr

/-- The permanent tables of a database, by schema and name. -/
structure Catalog where
  searchPath : List String
  tables : List ((String × String) × Heap)

namespace Catalog

variable (kind : DsKind) (catalog : Catalog)

def empty : Catalog := { searchPath := [], tables := [] }

/-- A database of the kind finds the entry under the name in the schema. -/
def Called (schema table : String) (entry : (String × String) × Heap) : Prop :=
  kind.SameName entry.1.1 schema ∧ kind.SameName entry.1.2 table

instance (schema table : String) (entry : (String × String) × Heap)
    : Decidable (Called kind schema table entry) :=
  inferInstanceAs (Decidable (_ ∧ _))

/-- A table by its schema and name. -/
def table (schema name : String) : Option Heap :=
  (catalog.tables.find? (Called kind schema name ·)).map Prod.snd

/-- The schema on the search path that an unqualified name resolves to. -/
def schemaOf (name : String) : Option String :=
  catalog.searchPath.find? (fun schema => (catalog.table kind schema name).isSome)

/-- A table by its (possibly qualified) name. -/
def resolve (schema : Option String) (name : String) : Option Heap :=
  match schema with
  | some schema => catalog.table kind schema name
  | none => (catalog.schemaOf kind name).bind (fun schema => catalog.table kind schema name)

/-- The catalog without the table an unqualified name resolves to. -/
def dropUnqualified (name : String) : Catalog :=
  match catalog.schemaOf kind name with
  | some schema =>
      {
        catalog with
        tables := catalog.tables.filter (fun entry => ¬ Called kind schema name entry)
      }
  | none => catalog

end Catalog

/-- An index verdict, with the datasource it was asked for and what the connection that gave it
was opened for; only the verdict itself is stored by the code.
-/
structure Verdict where
  indexed : Bool
  datasource : String
  target : Option Target
deriving DecidableEq, Repr

-----------------------------------------------------------------------------------------
-- Drivers
-----------------------------------------------------------------------------------------

/-- The calls a driver can fail at. -/
inductive Stage
  | loadDriver
  | openDatabase
  | connect
  | prepare
  | setSql
  | targetTable
  | temporary
  | ingestMode
  | bind
  | execute
  | batch
deriving DecidableEq, Repr

structure Failure where
  stage : Stage
  message : String
deriving DecidableEq, Repr

/-- How an ingest into a table ends, and what it leaves in the table if it fails. -/
inductive Ingested
  | stored (rows : Batches)
  | failed (failure : Failure) (left : Option Batches)

/-- The native drivers. Every call gets the number of calls before it, so that no two of
them need to go the same way.
-/
structure Drivers where
  openPg : Nat → DsSpec → Except Failure Unit
  openDuck : Nat → String → Except String Unit
  cloneDuck : Nat → String → Except String Unit
  openParquet : Nat → String → Except String Unit
  answer : Nat → Catalog → Database → TempTables → Sql → Except Failure Batches
  drop : Nat → Session → String → Except Failure Unit
  create : Nat → Session → String → Schema → Except String Unit
  ingest : Nat → Session → String → Batches → Ingested

/-- A query on a connection is answered by its database, with the connection's temp tables. -/
def Drivers.query (drivers : Drivers) (call : Nat) (catalog : Catalog) (session : Session)
    (sql : Sql)
    : Except Failure Batches :=
  drivers.answer call catalog session.database session.temps sql

/-- A failure of the ADBC driver as the connector words it. -/
def Failure.adbc (failure : Failure) : String :=
  (match failure.stage with
    | .loadDriver => "load adbc driver: "
    | .openDatabase => "adbc database: "
    | .connect => "adbc connection: "
    | .prepare => "adbc statement: "
    | .setSql => "adbc set sql: "
    | .targetTable => "adbc target table: "
    | .temporary => "adbc temporary: "
    | .ingestMode => "adbc ingest mode: "
    | .bind => "adbc bind: "
    | .execute => "adbc execute: "
    | .batch => "adbc batch: ")
    ++ failure.message

/-- A failed update has a text of its own. -/
def Failure.adbcUpdate (failure : Failure) : String :=
  match failure.stage with
  | .execute => "adbc execute_update: " ++ failure.message
  | _ => failure.adbc

/-- So has a failed ingest. -/
def Failure.adbcIngest (failure : Failure) : String :=
  match failure.stage with
  | .execute => "adbc ingest: " ++ failure.message
  | _ => failure.adbc

/-- A failure of the DuckDB driver in a query that the connector calls `what`. -/
def Failure.duck (what : String) (failure : Failure) : String :=
  match failure.stage with
  | .prepare => "duckdb prepare: " ++ failure.message
  | _ => what ++ ": " ++ failure.message

-----------------------------------------------------------------------------------------
-- Sources
-----------------------------------------------------------------------------------------

/-- What happened on the sources: a query for a datasource on a session, a verdict taken
from the cache, a shipment to a table of a DuckDB path begun and done, and the end of all
shipments.
-/
inductive Event
  | read (datasource : String) (session : Session) (sql : Sql) (answer : Except Failure Batches)
  | recalled (datasource : String) (target : Option Target)
  | shipping (path table : String)
  | shipped (path table : String) (rows : Batches)
  | cleared

/-- What the connection behind an answer was opened for. -/
def Event.target : Event → Option Target
  | .read _ session _ _ => some session.target
  | .recalled _ target => target
  | .shipping _ _ | .shipped _ _ _ | .cleared => none

/-- The process-wide state of the connectors, that of the query thread, and the databases.
Workers only run queries, so their connections have no temp tables.
-/
structure Sources where
  registry : NameMap DsSpec
  pgCache : NameMap Session
  pinnedDuck : NameMap Session
  duckInstances : List String
  parquetContexts : List String
  workers : Nat → NameMap Target
  verdicts : NameMap Verdict
  catalogs : Database → Catalog
  clock : Nat
  log : List Event

abbrev SourceM (α : Type) : Type := Proc Sources PyErr α

/-- Register (or replace) a datasource under a name. -/
def register (name : String) (spec : DsSpec) : SourceM Unit :=
  Proc.modify (fun sources => { sources with registry := sources.registry.insert name spec })

/-- The spec registered under a name. -/
def spec (name : String) : SourceM DsSpec := do
  let sources ← Proc.get
  match sources.registry.lookup name with
  | some found => pure found
  | none => Proc.fail ("datasource '" ++ name ++ "' is not registered")

/-- The kind of a registered datasource. -/
def kind (name : String) : SourceM DsKind := do
  let found ← spec name
  pure found.kind

/-- The number of driver calls before this one. -/
def ticket : SourceM Nat := fun sources =>
  (.ok sources.clock, { sources with clock := sources.clock + 1 })

def record (event : Event) : SourceM Unit :=
  Proc.modify (fun sources => { sources with log := sources.log ++ [event] })

section Sessions

variable (drivers : Drivers)

/-- Connect to Postgres; which call of the drivers it is decides how it goes. -/
def openPg (call : Nat) (found : DsSpec) : Except String Unit :=
  match found.adbcDriver with
  | none => .error "postgres datasource requires an 'adbc_driver' path"
  | some _ => (drivers.openPg call found).mapError Failure.adbc

/-- The query thread's connection under a name, opened if there is none. -/
def pgSession (name : String) (found : DsSpec) : SourceM Session := do
  let sources ← Proc.get
  match sources.pgCache.lookup name with
  | some session => pure session
  | none => do
      let call ← ticket
      Proc.lift (openPg drivers call found)
      Proc.modify (fun sources =>
        {
          sources with
          pgCache := sources.pgCache.insert name (.fresh found.target)
        })
      pure (.fresh found.target)

/-- The process-wide instance of a database file, opened if it is not. -/
def duckInstance (path : String) : SourceM Unit := do
  let sources ← Proc.get
  if path ∈ sources.duckInstances then
    pure ()
  else do
    let call ← ticket
    Proc.lift
      ((drivers.openDuck call path).mapError (fun e => "duckdb open '" ++ path ++ "': " ++ e))
    Proc.modify (fun sources =>
      { sources with duckInstances := path :: sources.duckInstances })

/-- A cursor of its own on the open instance of a database file. -/
def duckCursor (path : String) : SourceM Session := do
  duckInstance drivers path
  let call ← ticket
  Proc.lift
    ((drivers.cloneDuck call path).mapError (fun e => "duckdb cursor '" ++ path ++ "': " ++ e))
  pure (.fresh (.duck path))

/-- The DataFusion context of a directory, built if there is none. -/
def parquetCtx (dir : String) : SourceM Unit := do
  let sources ← Proc.get
  if dir ∈ sources.parquetContexts then
    pure ()
  else do
    let call ← ticket
    Proc.lift ((drivers.openParquet call dir).mapError (fun e => "parquet: " ++ e))
    Proc.modify (fun sources =>
      { sources with parquetContexts := dir :: sources.parquetContexts })

/-- Run a query on a session. -/
def runStatement (datasource : String) (session : Session) (sql : Sql)
    : SourceM (Except Failure Batches) := do
  let sources ← Proc.get
  let call ← ticket
  let answer := drivers.query call (sources.catalogs session.database) session sql
  record (.read datasource session sql answer)
  pure answer

/-- `DROP TABLE IF EXISTS` of an unqualified name, which is the session's temp table if it
has one and a permanent table on the search path otherwise. The session after it.
-/
def dropIfExists (session : Session) (table : String)
    : SourceM (Except Failure Unit × Session) := do
  let call ← ticket
  match drivers.drop call session table with
  | .error failure => pure (.error failure, session)
  | .ok () =>
      match session.temps.lookup table with
      | some _ => pure (.ok (), { session with temps := session.temps.erase table })
      | none => do
          Proc.modify (fun sources =>
            {
              sources with
              catalogs :=
                Function.update sources.catalogs session.database
                  ((sources.catalogs session.database).dropUnqualified session.database.kind table)
            })
          pure (.ok (), session)

/-- Ingest into a temp table of the session, which afterwards holds what was stored. -/
def ingestRows (session : Session) (table : String) (rows : Batches)
    : SourceM (Except Failure Unit × Session) := do
  let call ← ticket
  match drivers.ingest call session table rows with
  | .stored kept => pure (.ok (), { session with temps := session.temps.insert table kept })
  | .failed failure (some left) =>
      pure (.error failure, { session with temps := session.temps.insert table left })
  | .failed failure none => pure (.error failure, session)

end Sessions

end Fedqrs
