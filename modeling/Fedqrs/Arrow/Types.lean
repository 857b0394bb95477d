import Mathlib.Algebra.Order.Ring.Nat

/-! Arrow's types, fields and schemas, and DataFusion's scalar values over them. -/

namespace Fedqrs

inductive TimeUnit
  | second
  | millisecond
  | microsecond
  | nanosecond
deriving DecidableEq, Repr

/-- The Arrow types the engine distinguishes; every other type keeps only its name. -/
inductive DataType
  | null
  | boolean
  | int8
  | int16
  | int32
  | int64
  | uint8
  | uint16
  | uint32
  | uint64
  | float32
  | float64
  | utf8
  | largeUtf8
  | date32
  | date64
  | timestamp (unit : TimeUnit) (timezone : Option String)
  | decimal128 (precision : Nat) (scale : Int)
  | other (name : String)
deriving DecidableEq, Repr

/-- Whether the type is a `Decimal128` of some precision and scale. -/
def DataType.isDecimal128 : DataType → Bool
  | .decimal128 _ _ => true
  | _ => false

def TimeUnit.text : TimeUnit → String
  | .second => "Second"
  | .millisecond => "Millisecond"
  | .microsecond => "Microsecond"
  | .nanosecond => "Nanosecond"

/-- The type as Arrow prints it. -/
def DataType.text : DataType → String
  | .null => "Null"
  | .boolean => "Boolean"
  | .int8 => "Int8"
  | .int16 => "Int16"
  | .int32 => "Int32"
  | .int64 => "Int64"
  | .uint8 => "UInt8"
  | .uint16 => "UInt16"
  | .uint32 => "UInt32"
  | .uint64 => "UInt64"
  | .float32 => "Float32"
  | .float64 => "Float64"
  | .utf8 => "Utf8"
  | .largeUtf8 => "LargeUtf8"
  | .date32 => "Date32"
  | .date64 => "Date64"
  | .timestamp unit none => "Timestamp(" ++ unit.text ++ ", None)"
  | .timestamp unit (some timezone) =>
      "Timestamp(" ++ unit.text ++ ", Some(\"" ++ timezone ++ "\"))"
  | .decimal128 precision scale =>
      "Decimal128(" ++ toString precision ++ ", " ++ toString scale ++ ")"
  | .other name => name

structure Field where
  name : String
  dataType : DataType
  nullable : Bool
  metadata : List (String × String)
deriving DecidableEq, Repr

/-- A field as `Field::new` builds it: without metadata. -/
def Field.new (name : String) (dataType : DataType) (nullable : Bool) : Field :=
  { name, dataType, nullable, metadata := [] }

structure Schema where
  fields : List Field
  metadata : List (String × String)
deriving DecidableEq, Repr

/-- A schema as `Schema::new` builds it: without metadata. -/
def Schema.new (fields : List Field) : Schema := { fields, metadata := [] }

def Schema.types (schema : Schema) : List DataType := schema.fields.map Field.dataType

/-- Whether every entry of `other` is one of `metadata`. -/
def containsMetadata (metadata other : List (String × String)) : Bool :=
  other.all (fun entry => metadata.lookup entry.1 == some entry.2)

/-- `Field::contains`: the same column, at least as nullable and with at least the metadata. -/
def Field.contains (field other : Field) : Bool :=
  field.name == other.name
    && field.dataType == other.dataType
    && (field.nullable || !other.nullable)
    && containsMetadata field.metadata other.metadata

/-- `Schema::contains`: field by field, with at least the metadata. -/
def Schema.contains (schema other : Schema) : Bool :=
  schema.fields.length == other.fields.length
    && (schema.fields.zip other.fields).all (fun pair => pair.1.contains pair.2)
    && containsMetadata schema.metadata other.metadata

/-- A DataFusion scalar. Floats are bit patterns; `typed` is the raw integer of a value of
any other fixed-width type.
-/
inductive ScalarValue
  | null
  | boolean (value : Bool)
  | int64 (value : Int)
  | float64 (bits : UInt64)
  | utf8 (value : String)
  | decimal128 (value : Int) (precision : Nat) (scale : Int)
  | typed (dataType : DataType) (raw : Int)
deriving DecidableEq, Repr

/-- Whether values of the type have a scalar form of their own. -/
def DataType.ownForm : DataType → Bool
  | .boolean | .int64 | .float64 | .utf8 | .largeUtf8 | .decimal128 _ _ => true
  | _ => false

/-- Whether a scalar can stand in an array of a type; NULL can in any. -/
def ScalarValue.fits (dataType : DataType) : ScalarValue → Bool
  | .null => true
  | .boolean _ => dataType == .boolean
  | .int64 _ => dataType == .int64
  | .float64 _ => dataType == .float64
  | .utf8 _ => dataType == .utf8 || dataType == .largeUtf8
  | .decimal128 _ precision scale => dataType == .decimal128 precision scale
  | .typed own _ => dataType == own && !own.ownForm

-----------------------------------------------------------------------------------------
-- What a schema contains
-----------------------------------------------------------------------------------------

/-- Metadata built by `Field::new` and `Schema::new` is empty, and contained in any. -/
@[simp]
theorem containsMetadata_nil (metadata : List (String × String))
    : containsMetadata metadata [] = true :=
  rfl

/-- A schema without metadata contains itself, field by field. -/
theorem Schema.contains_self {schema : Schema} (plain : schema.metadata = [])
    (fields : ∀ field ∈ schema.fields, field.metadata = [])
    : schema.contains schema = true := by
  simp only [Schema.contains, plain, containsMetadata_nil, beq_self_eq_true, Bool.and_true,
    Bool.true_and, List.all_eq_true]
  intro pair member
  obtain ⟨field, stored, rfl⟩ : ∃ field ∈ schema.fields, (field, field) = pair := by
    simpa [List.zip_eq_zipWith, List.zipWith_self] using member
  simp [Field.contains, fields field stored]

end Fedqrs
