import Fedqrs.Connectors.Interface
import Fedqrs.Library.Reading
import Mathlib.Algebra.Order.Ring.Int
import Mathlib.Data.List.Forall2
import Mathlib.Data.Rat.Defs
import Mathlib.Tactic.FieldSimp
import Mathlib.Tactic.Ring

/-! What the values of Arrow's types and of DuckDB's types stand for, so that a value of one
can be compared with a value of the other. A DuckDB `TIMESTAMP` is a signed 64-bit count of
microseconds, a `DATE` a count of days, and `DECIMAL(p, s)` exists for `s ≤ p ≤ 38`.
-/

namespace Fedqrs

/-- What a value stands for, however it is stored. Floats stand for their bit patterns;
instants count nanoseconds and dates milliseconds, the finest steps of any type.
-/
inductive Datum
  | truth (value : Bool)
  | whole (value : Int)
  | single (bits : Int)
  | double (bits : UInt64)
  | text (value : String)
  | date (millis : Int)
  | instant (nanos : Int)
  | decimal (value : ℚ)

/-- A signed integer of this many bits. -/
def Signed (bits : Nat) (n : Int) : Prop := -2 ^ (bits - 1) ≤ n ∧ n < 2 ^ (bits - 1)

/-- An unsigned integer of this many bits. -/
def Unsigned (bits : Nat) (n : Int) : Prop := 0 ≤ n ∧ n < 2 ^ bits

/-- An unscaled decimal of at most this many digits. -/
def Digits (precision : Nat) (n : Int) : Prop := n.natAbs < 10 ^ precision

def millisPerDay : Int := 86400000

def nanosPerMicro : Int := 1000

-----------------------------------------------------------------------------------------
-- Arrow
-----------------------------------------------------------------------------------------

def TimeUnit.nanos : TimeUnit → Int
  | .second => 1000000000
  | .millisecond => 1000000
  | .microsecond => 1000
  | .nanosecond => 1

/-- The raw integers of a type whose values are `ScalarValue.typed`. -/
def DataType.Raw : DataType → Int → Prop
  | .int8 => Signed 8
  | .int16 => Signed 16
  | .int32 => Signed 32
  | .uint8 => Unsigned 8
  | .uint16 => Unsigned 16
  | .uint32 => Unsigned 32
  | .uint64 => Unsigned 64
  | .float32 => Unsigned 32
  | .date32 => Signed 32
  | .date64 => Signed 64
  | .timestamp _ _ => Signed 64
  | .null | .boolean | .int64 | .float64 | .utf8 | .largeUtf8 | .decimal128 _ _ | .other _ =>
      fun _ => False

/-- The values of an Arrow type, NULL apart. -/
def DataType.Holds (dataType : DataType) : ScalarValue → Prop
  | .null => False
  | .boolean _ => dataType = .boolean
  | .int64 n => dataType = .int64 ∧ Signed 64 n
  | .float64 _ => dataType = .float64
  | .utf8 _ => dataType = .utf8 ∨ dataType = .largeUtf8
  | .decimal128 n precision scale => dataType = .decimal128 precision scale ∧ Digits precision n
  | .typed own raw => dataType = own ∧ own.Raw raw

/-- What the raw integer of a type stands for. -/
def DataType.datum : DataType → Int → Option Datum
  | .int8, n | .int16, n | .int32, n | .uint8, n | .uint16, n | .uint32, n | .uint64, n =>
      some (.whole n)
  | .float32, bits => some (.single bits)
  | .date32, days => some (.date (days * millisPerDay))
  | .date64, millis => some (.date millis)
  | .timestamp unit _, count => some (.instant (count * unit.nanos))
  | .null, _ | .boolean, _ | .int64, _ | .float64, _ | .utf8, _ | .largeUtf8, _
  | .decimal128 _ _, _ | .other _, _ => none

/-- An unscaled number at a scale of either sign. -/
def scaled (n : Int) : Int → ℚ
  | .ofNat scale => n / 10 ^ scale
  | .negSucc less => n * 10 ^ (less + 1)

/-- What an Arrow value stands for; NULL stands for nothing. -/
def ScalarValue.datum : ScalarValue → Option Datum
  | .null => none
  | .boolean value => some (.truth value)
  | .int64 n => some (.whole n)
  | .float64 bits => some (.double bits)
  | .utf8 text => some (.text text)
  | .decimal128 n _ scale => some (.decimal (scaled n scale))
  | .typed own raw => own.datum raw

-----------------------------------------------------------------------------------------
-- DuckDB
-----------------------------------------------------------------------------------------

/-- DuckDB's types, as far as a column is ever created with one. -/
inductive DuckType
  | boolean
  | tinyInt
  | smallInt
  | integer
  | bigInt
  | uTinyInt
  | uSmallInt
  | uInteger
  | uBigInt
  | float
  | double
  | varchar
  | date
  | timestamp
  | decimal (width scale : Nat)
deriving DecidableEq, Repr

/-- The values of a DuckDB type, each within its range. -/
def DuckType.Value : DuckType → Type
  | .boolean => Bool
  | .tinyInt => { n : Int // Signed 8 n }
  | .smallInt => { n : Int // Signed 16 n }
  | .integer => { n : Int // Signed 32 n }
  | .bigInt => { n : Int // Signed 64 n }
  | .uTinyInt => { n : Int // Unsigned 8 n }
  | .uSmallInt => { n : Int // Unsigned 16 n }
  | .uInteger => { n : Int // Unsigned 32 n }
  | .uBigInt => { n : Int // Unsigned 64 n }
  | .float => { bits : Int // Unsigned 32 bits }
  | .double => UInt64
  | .varchar => String
  | .date => { days : Int // Signed 32 days }
  | .timestamp => { micros : Int // Signed 64 micros }
  | .decimal width _ => { n : Int // Digits width n }

/-- What a value of a DuckDB type stands for. -/
def DuckType.datum : (type : DuckType) → type.Value → Datum
  | .boolean, value => .truth value
  | .tinyInt, n | .smallInt, n | .integer, n | .bigInt, n => .whole n.val
  | .uTinyInt, n | .uSmallInt, n | .uInteger, n | .uBigInt, n => .whole n.val
  | .float, bits => .single bits.val
  | .double, bits => .double bits
  | .varchar, text => .text text
  | .date, days => .date (days.val * millisPerDay)
  | .timestamp, micros => .instant (micros.val * nanosPerMicro)
  | .decimal _ scale, n => .decimal (scaled n.val scale)

/-- The types whose name is one word. -/
def DuckType.words : List (String × DuckType) :=
  [
    ("BOOLEAN", .boolean),
    ("TINYINT", .tinyInt),
    ("SMALLINT", .smallInt),
    ("INTEGER", .integer),
    ("BIGINT", .bigInt),
    ("UTINYINT", .uTinyInt),
    ("USMALLINT", .uSmallInt),
    ("UINTEGER", .uInteger),
    ("UBIGINT", .uBigInt),
    ("FLOAT", .float),
    ("DOUBLE", .double),
    ("VARCHAR", .varchar),
    ("DATE", .date),
    ("TIMESTAMP", .timestamp)
  ]

/-- `DECIMAL(width,scale)`. -/
def DuckType.decimalName : Reading.TextReader (Nat × Nat) := do
  Reading.keyword "DECIMAL("
  let width ← Reading.number
  Reading.keyword ","
  let scale ← Reading.number
  Reading.keyword ")"
  pure (width, scale)

/-- The type a name in a column definition stands for, if it is valid. -/
def DuckType.named (name : String) : Option DuckType :=
  match Reading.readAll decimalName name with
  | some (width, scale) =>
      if scale ≤ width ∧ width ≤ 38 then some (.decimal width scale) else none
  | none => words.lookup name

/-- A one-word name is that of its type. -/
theorem DuckType.named_word : ∀ entry ∈ words, named entry.1 = some entry.2 := by
  decide

-----------------------------------------------------------------------------------------
-- Relations
-----------------------------------------------------------------------------------------

/-- NULL, or a value that the DuckDB type of its column has. -/
def DataType.Storable (dataType : DataType) (cell : ScalarValue) : Prop :=
  cell = .null
    ∨ ∃ name type stored, duckTypeName dataType = .ok name ∧ DuckType.named name = some type
      ∧ cell.datum = some (type.datum stored)

/-- DuckDB's types have every value of the relation. -/
def Batches.Storable (relation : Batches) : Prop :=
  ∀ row ∈ relation.rows, List.Forall₂ DataType.Storable relation.schema.types row

/-- What the cells of each row stand for. -/
def Batches.data (relation : Batches) : List (List (Option Datum)) :=
  relation.rows.map (List.map ScalarValue.datum)

/-- The relations have columns of the same names, and rows that stand for the same. -/
structure Batches.SameData (relation other : Batches) : Prop where
  columns : relation.schema.fields.map Field.name = other.schema.fields.map Field.name
  rows : relation.data.Perm other.data

theorem Batches.SameData.refl (relation : Batches) : relation.SameData relation := ⟨rfl, .refl _⟩

end Fedqrs
