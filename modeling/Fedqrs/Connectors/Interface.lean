import Fedqrs.Arrow.Batches
import Fedqrs.Core.Sql
import Fedqrs.Library.Proc

/-! What the engine asks of a fetched relation and of the source connectors. -/

namespace Fedqrs

/-- The questions the engine and the connectors ask of a relation held as Arrow batches:
its row count, and the name, type and values of its first column.
-/
class Fetched (β : Type) where
  numRows : β → Nat
  keyName : β → String
  keyType : β → DataType
  keyValues : β → Except DfError (List ScalarValue)

instance : Fetched Batches where
  numRows := Batches.numRows
  keyName relation := ((relation.schema.fields.head?).map Field.name).getD ""
  keyType relation := ((relation.schema.fields.head?).map Field.dataType).getD .null
  keyValues relation :=
    .ok (relation.batches.flatMap (fun batch =>
      ((batch.columns.head?).map ArrayRef.cells).getD []))

/-- The connector operations the engine calls, over the sources' state `σ`. -/
structure Connectors (σ β : Type) where
  kind : String → Proc σ PyErr DsKind
  fetch : String → Sql → Proc σ PyErr β
  fetchParallel
    : String → TableRef → SelectList → Nat → Option SqlExpr → Proc σ PyErr β
  fetchTempJoin : String → String → β → Sql → Proc σ PyErr β
  columnHasIndex : String → Option String → String → String → Proc σ PyErr Bool
  estimateSelectivity
    : String → Option String → String → String → Nat → Proc σ PyErr (Option Float)
  shipTable : String → String → β → Proc σ PyErr Unit
  clearShipments : σ → σ

/-- The DuckDB column type for one Arrow key type, an error for a type the ingest does not
map.
-/
def duckTypeName : DataType → Except String String
  | .boolean => .ok "BOOLEAN"
  | .int8 => .ok "TINYINT"
  | .int16 => .ok "SMALLINT"
  | .int32 => .ok "INTEGER"
  | .int64 => .ok "BIGINT"
  | .uint8 => .ok "UTINYINT"
  | .uint16 => .ok "USMALLINT"
  | .uint32 => .ok "UINTEGER"
  | .uint64 => .ok "UBIGINT"
  | .float32 => .ok "FLOAT"
  | .float64 => .ok "DOUBLE"
  | .utf8 => .ok "VARCHAR"
  | .largeUtf8 => .ok "VARCHAR"
  | .date32 => .ok "DATE"
  | .date64 => .ok "DATE"
  | .timestamp _ _ => .ok "TIMESTAMP"
  | .decimal128 precision scale =>
      .ok ("DECIMAL(" ++ toString precision ++ "," ++ toString scale ++ ")")
  | .null => .error "no DuckDB ingest type for Arrow Null"
  | .other name => .error ("no DuckDB ingest type for Arrow " ++ name)

/-- Whether the DuckDB temp-table ingest can represent the key column's type. -/
def duckCanIngest {β : Type} [Fetched β] (keys : β) : Bool :=
  match duckTypeName (Fetched.keyType keys) with
  | .ok _ => true
  | .error _ => false

end Fedqrs
