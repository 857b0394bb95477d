import Fedqrs.Arrow.Types
import Mathlib.Data.Multiset.Basic

/-! Arrow arrays, record batches and fully-read relations. -/

namespace Fedqrs

/-- The errors of Arrow, by kind. -/
inductive ArrowError
  | invalidArgument (message : String)
  | schema (message : String)
  | cast (message : String)
deriving DecidableEq, Repr

/-- The error as Arrow displays it. -/
def ArrowError.text : ArrowError → String
  | .invalidArgument message => "Invalid argument error: " ++ message
  | .schema message => "Schema error: " ++ message
  | .cast message => "Cast error: " ++ message

/-- A column of values of one type. -/
structure ArrayRef where
  dataType : DataType
  cells : List ScalarValue
  typed : ∀ cell ∈ cells, cell.fits dataType = true

def ArrayRef.nullCount (column : ArrayRef) : Nat :=
  column.cells.countP (· == .null)

/-- Columns of one length under a schema that declares their types, with NULLs in nullable
columns only.
-/
structure RecordBatch where
  schema : Schema
  columns : List ArrayRef
  numRows : Nat
  types : columns.map ArrayRef.dataType = schema.types
  lengths : ∀ column ∈ columns, column.cells.length = numRows
  nonNull : ∀ pair ∈ schema.fields.zip columns, pair.1.nullable = true ∨ pair.2.nullCount = 0

/-- Fully-read Arrow data with its schema. -/
structure Batches where
  schema : Schema
  batches : List RecordBatch

def Batches.numRows (relation : Batches) : Nat :=
  (relation.batches.map RecordBatch.numRows).sum

/-- The first field that does not allow the NULLs of its column. -/
def nullViolation (schema : Schema) (columns : List ArrayRef) : Option Field :=
  ((schema.fields.zip columns).find?
    (fun pair => !pair.1.nullable && pair.2.nullCount != 0)).map Prod.fst

/-- The first place where two type lists differ: expected type, found type, index. -/
def typeMismatch : List DataType → List DataType → Nat → Option (DataType × DataType × Nat)
  | expected :: restExpected, found :: restFound, index =>
      if expected = found then
        typeMismatch restExpected restFound (index + 1)
      else
        some (expected, found, index)
  | _, _, _ => none

/-- The checks of `RecordBatch::try_new`, in its order; the row count when all pass. -/
def RecordBatch.check (schema : Schema) (columns : List ArrayRef) : Except ArrowError Nat :=
  if columns.length ≠ schema.fields.length then
    .error
      (.invalidArgument
        ("number of columns(" ++ toString columns.length ++ ") must match number of fields("
          ++ toString schema.fields.length ++ ") in schema"))
  else
    match columns.head? with
    | none =>
        .error (.invalidArgument "must either specify a row count or at least one column")
    | some first =>
        match nullViolation schema columns with
        | some field =>
            .error
              (.invalidArgument
                ("Column '" ++ field.name
                  ++ "' is declared as non-nullable but contains null values"))
        | none =>
            if columns.all (fun column => column.cells.length == first.cells.length) then
              match typeMismatch schema.types (columns.map ArrayRef.dataType) 0 with
              | some (expected, found, index) =>
                  .error
                    (.invalidArgument
                      ("column types must match schema types, expected " ++ expected.text
                        ++ " but found " ++ found.text ++ " at column index "
                        ++ toString index))
              | none => .ok first.cells.length
            else
              .error
                (.invalidArgument "all columns in a record batch must have the same length")

/-- Type lists of one length without a mismatch are equal, by induction along both. -/
theorem eq_of_typeMismatch_none {expected found : List DataType} {index : Nat}
    (lengths : expected.length = found.length)
    (same : typeMismatch expected found index = none)
    : expected = found := by
  induction expected generalizing found index with
  | nil => exact (List.length_eq_zero_iff.mp lengths.symm).symm
  | cons head rest ih =>
      cases found with
      | nil => simp at lengths
      | cons head' rest' =>
          unfold typeMismatch at same
          split at same
          · rename_i eq
            rw [eq, ih (by simpa using lengths) same]
          · contradiction

/-- What the checks establish of the columns. -/
structure RecordBatch.Checked (schema : Schema) (columns : List ArrayRef) (numRows : Nat)
    : Prop where
  types : columns.map ArrayRef.dataType = schema.types
  lengths : ∀ column ∈ columns, column.cells.length = numRows
  nonNull : ∀ pair ∈ schema.fields.zip columns, pair.1.nullable = true ∨ pair.2.nullCount = 0

/-- Passing all checks establishes the invariants of a batch, check by check. -/
theorem RecordBatch.checked_of_ok {schema : Schema} {columns : List ArrayRef} {numRows : Nat}
    (passed : RecordBatch.check schema columns = .ok numRows)
    : RecordBatch.Checked schema columns numRows := by
  unfold RecordBatch.check at passed
  split at passed
  · contradiction
  rename_i counts
  split at passed
  · contradiction
  rename_i first _
  split at passed
  · contradiction
  rename_i noNulls
  split at passed
  case isFalse => contradiction
  rename_i lengths
  split at passed
  · contradiction
  rename_i sameTypes
  cases passed
  refine ⟨?_, ?_, ?_⟩
  · have equal := eq_of_typeMismatch_none
      (by simpa [Schema.types] using (Decidable.not_not.mp counts).symm) sameTypes
    exact equal.symm
  · intro column member
    simpa using List.all_eq_true.mp lengths column member
  · intro pair member
    have unviolated := List.find?_eq_none.mp (Option.map_eq_none_iff.mp noNulls) pair member
    cases nullable : pair.1.nullable with
    | true => exact Or.inl rfl
    | false => exact Or.inr (by simpa [nullable] using unviolated)

/-- `RecordBatch::try_new`: the columns under the schema, or the first check they fail. -/
def RecordBatch.tryNew (schema : Schema) (columns : List ArrayRef)
    : Except ArrowError RecordBatch :=
  match passed : RecordBatch.check schema columns with
  | .error failure => .error failure
  | .ok numRows =>
      have checked := RecordBatch.checked_of_ok passed
      .ok
        {
          schema
          columns
          numRows
          types := checked.types
          lengths := checked.lengths
          nonNull := checked.nonNull
        }

/-- A batch built from columns has that schema and those columns. -/
theorem RecordBatch.tryNew_eq_ok {schema : Schema} {columns : List ArrayRef}
    {batch : RecordBatch} (built : RecordBatch.tryNew schema columns = .ok batch)
    : batch.schema = schema ∧ batch.columns = columns
      ∧ RecordBatch.check schema columns = .ok batch.numRows := by
  unfold RecordBatch.tryNew at built
  split at built
  · contradiction
  · rename_i passed
    cases built
    exact ⟨rfl, rfl, passed⟩

/-- Without a column there is no row count to check. -/
theorem RecordBatch.columns_of_check {schema : Schema} {columns : List ArrayRef} {numRows : Nat}
    (passed : RecordBatch.check schema columns = .ok numRows)
    : columns ≠ [] := by
  intro empty
  subst empty
  unfold RecordBatch.check at passed
  split at passed <;> contradiction

/-- A type list has no mismatch with itself, by induction along it. -/
theorem typeMismatch_self (types : List DataType) (index : Nat)
    : typeMismatch types types index = none := by
  induction types generalizing index with
  | nil => rfl
  | cons head rest ih => simp [typeMismatch, ih]

/-- Columns that meet the checks, with at least one among them, make a batch. -/
theorem RecordBatch.tryNew_of_checked {schema : Schema} {columns : List ArrayRef}
    {numRows : Nat} (checked : RecordBatch.Checked schema columns numRows)
    (nonempty : columns ≠ [])
    : ∃ batch, RecordBatch.tryNew schema columns = .ok batch ∧ batch.numRows = numRows := by
  have counts : columns.length = schema.fields.length := by
    have same := congrArg List.length checked.types
    simpa [Schema.types] using same
  have passed : RecordBatch.check schema columns = .ok numRows := by
    cases columns with
    | nil => exact absurd rfl nonempty
    | cons first others =>
        have length := checked.lengths first (by simp)
        have noNulls : nullViolation schema (first :: others) = none := by
          simp only [nullViolation, Option.map_eq_none_iff, List.find?_eq_none]
          intro pair member
          rcases checked.nonNull pair member with nullable | none
          · simp [nullable]
          · simp [none]
        have lengths
            : (first :: others).all (fun column => column.cells.length == numRows) = true := by
          apply List.all_eq_true.mpr
          intro column member
          simp [checked.lengths column member]
        unfold RecordBatch.check
        rw [if_neg (by simp [counts])]
        simp only [List.head?_cons, noNulls, lengths, if_true, checked.types, typeMismatch_self,
          length]
  unfold RecordBatch.tryNew
  split
  · rename_i failed
    rw [passed] at failed
    cases failed
  · rename_i passed'
    rw [passed] at passed'
    cases passed'
    exact ⟨_, rfl, rfl⟩

-----------------------------------------------------------------------------------------
-- Rows
-----------------------------------------------------------------------------------------

abbrev Row : Type := List ScalarValue

def RecordBatch.row (batch : RecordBatch) (index : Nat) : Row :=
  batch.columns.map (fun column => column.cells.getD index .null)

def RecordBatch.rows (batch : RecordBatch) : List Row :=
  (List.range batch.numRows).map batch.row

/-- The rows of all batches, in order. -/
def Batches.rows (relation : Batches) : List Row := relation.batches.flatMap RecordBatch.rows

@[simp]
theorem RecordBatch.length_rows (batch : RecordBatch) : batch.rows.length = batch.numRows := by
  simp [RecordBatch.rows]

@[simp]
theorem Batches.length_rows (relation : Batches) : relation.rows.length = relation.numRows := by
  simp [Batches.rows, Batches.numRows, List.length_flatMap]

/-- The first cells of the rows are the cells of the first column. -/
theorem RecordBatch.rows_head (batch : RecordBatch)
    : batch.rows.filterMap List.head? = ((batch.columns.head?).map ArrayRef.cells).getD [] := by
  cases columns : batch.columns with
  | nil => simp [RecordBatch.rows, RecordBatch.row, columns, List.filterMap_eq_nil_iff]
  | cons first others =>
      have length := batch.lengths first (by simp [columns])
      have heads
          : batch.rows.filterMap List.head?
            = (List.range first.cells.length).map (fun i => first.cells.getD i .null) := by
        simp [RecordBatch.rows, RecordBatch.row, columns, length, List.filterMap_map,
          Function.comp_def]
      rw [heads]
      apply List.ext_getElem
      · simp
      · intro i inside _
        simp at inside
        simp [inside]

/-- What a relation says, however it is batched: its columns and the bag of its rows. -/
structure Table where
  columns : List (String × DataType)
  rows : Multiset Row

/-- The heads of rows that come batch by batch. -/
theorem Batches.rows_head (relation : Batches)
    : relation.rows.filterMap List.head?
      = relation.batches.flatMap (fun batch =>
          ((batch.columns.head?).map ArrayRef.cells).getD []) := by
  simp only [Batches.rows, List.filterMap_flatMap, RecordBatch.rows_head]

def Batches.table (relation : Batches) : Table where
  columns := relation.schema.fields.map (fun field => (field.name, field.dataType))
  rows := relation.rows

-----------------------------------------------------------------------------------------
-- Truthful relations
-----------------------------------------------------------------------------------------

/-- Every batch has the declared number of columns, each of the declared type. -/
def Batches.Truthful (relation : Batches) : Prop :=
  ∀ batch ∈ relation.batches,
    batch.columns.length = relation.schema.fields.length
      ∧ batch.columns.map ArrayRef.dataType = relation.schema.types

/-- A relation whose schema declares the types of each batch's own one is truthful. -/
theorem Batches.truthful_of_types {relation : Batches}
    (types : ∀ batch ∈ relation.batches, batch.schema.types = relation.schema.types)
    : relation.Truthful := by
  intro batch member
  have declared := batch.types.trans (types batch member)
  refine ⟨?_, declared⟩
  simpa [Schema.types] using congrArg List.length declared

end Fedqrs
