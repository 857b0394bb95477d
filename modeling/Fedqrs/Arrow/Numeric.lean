import Fedqrs.Arrow.Batches
import Fedqrs.Library.DecimalText

/-! `NUMERIC` columns. They arrive as texts and are re-typed to one `Decimal128(38, scale)`
per column, its scale derived from the values; the same round trip settles a result whose
batches disagree with the reported decimal types.
-/

namespace Fedqrs

/-- How a conversion can end early: with an Arrow error, or with a panic. -/
inductive Fault
  | arrow (failure : ArrowError)
  | panic (message : String)
deriving DecidableEq, Repr

/-- The message a caller reports, which names the step that failed. -/
def Fault.describe (step : String) : Fault → String
  | .arrow failure => step ++ ": " ++ failure.text
  | .panic message => message

/-- Max Decimal128 precision. -/
def decimalPrecision : Nat := 38

-----------------------------------------------------------------------------------------
-- Casts
-----------------------------------------------------------------------------------------

/-- A value as Arrow casts it to Utf8; `shown` is the text of the forms other than texts and
decimals.
-/
def ScalarValue.toUtf8 (shown : ScalarValue → String) : ScalarValue → ScalarValue
  | .null => .null
  | .utf8 text => .utf8 text
  | .decimal128 value precision scale =>
      if 0 ≤ scale then
        .utf8 (String.ofList (DecimalText.print { unscaled := value, scale := scale.toNat }))
      else
        .utf8 (shown (.decimal128 value precision scale))
  | other => .utf8 (shown other)

/-- A text as a 38-digit decimal of a scale: rounded to it, nothing when it is no number or
has too many digits.
-/
def decimalOf (scale : Nat) (text : String) : Option Int :=
  (DecimalText.read text.toList).bind (fun x =>
    let unscaled := x.rounded scale
    if unscaled.natAbs < 10 ^ decimalPrecision then some unscaled else none)

/-- A text cast to `Decimal128(38, scale)` with safe options: NULL where it fails. -/
def ScalarValue.toDecimal (scale : Nat) : ScalarValue → ScalarValue
  | .utf8 text =>
      match decimalOf scale text with
      | some unscaled => .decimal128 unscaled decimalPrecision scale
      | none => .null
  | _ => .null

theorem ScalarValue.toUtf8_fits (shown : ScalarValue → String) (cell : ScalarValue)
    : (cell.toUtf8 shown).fits .utf8 = true := by
  cases cell with
  | decimal128 value precision scale =>
      by_cases printable : 0 ≤ scale <;> simp [ScalarValue.toUtf8, printable, ScalarValue.fits]
  | _ => rfl

theorem ScalarValue.toDecimal_fits (scale : Nat) (cell : ScalarValue)
    : (cell.toDecimal scale).fits (.decimal128 decimalPrecision scale) = true := by
  cases cell with
  | utf8 text =>
      simp only [ScalarValue.toDecimal]
      cases decimalOf scale text with
      | none => rfl
      | some unscaled => simp [ScalarValue.fits]
  | _ => rfl

/-- `cast(column, Utf8)`. -/
def castUtf8 (shown : ScalarValue → String) (column : ArrayRef) : ArrayRef where
  dataType := .utf8
  cells := column.cells.map (ScalarValue.toUtf8 shown)
  typed := by
    intro cell member
    obtain ⟨source, _, rfl⟩ := List.mem_map.mp member
    exact ScalarValue.toUtf8_fits shown source

/-- `cast(column, Decimal128(38, scale))` of a Utf8 column. -/
def castDecimal128 (scale : Nat) (column : ArrayRef) : ArrayRef where
  dataType := .decimal128 decimalPrecision scale
  cells := column.cells.map (ScalarValue.toDecimal scale)
  typed := by
    intro cell member
    obtain ⟨source, _, rfl⟩ := List.mem_map.mp member
    exact ScalarValue.toDecimal_fits scale source

-----------------------------------------------------------------------------------------
-- Rebuilding decimal columns
-----------------------------------------------------------------------------------------

/-- The number of digits after the decimal point of one text, at most 37. -/
def fractionalDigits : ScalarValue → Nat
  | .utf8 text => min (DecimalText.fractionalBytes text.toList) 37
  | _ => 0

/-- The widest number of digits after the decimal point in a string array. -/
def maxFractionalDigits (column : ArrayRef) : Nat :=
  (column.cells.map fractionalDigits).foldr max 0

/-- A column by its index, which panics past the last one. -/
def RecordBatch.column (batch : RecordBatch) (index : Nat) : Except Fault ArrayRef :=
  match batch.columns[index]? with
  | some column => .ok column
  | none => .error (.panic "index out of bounds")

/-- The Utf8 form of each of the numeric columns of a batch. -/
def decimalStrings (shown : ScalarValue → String) (batch : RecordBatch)
    : List Nat → Except Fault (List (Nat × ArrayRef))
  | [] => .ok []
  | index :: rest => do
      let column ← batch.column index
      let others ← decimalStrings shown batch rest
      pure ((index, castUtf8 shown column) :: others)

/-- The scales widened by what one batch shows. -/
def widenedScales (strings : List (Nat × ArrayRef)) (scales : List (Nat × Nat))
    : List (Nat × Nat) :=
  scales.map (fun entry =>
    (entry.1, max entry.2 (((strings.lookup entry.1).map maxFractionalDigits).getD 0)))

/-- Every batch's texts, and the widest fractional-digit count of each numeric column. -/
def decimalStringsAndScales (shown : ScalarValue → String) (numeric : List Nat)
    : List RecordBatch → List (Nat × Nat)
        → Except Fault (List (List (Nat × ArrayRef)) × List (Nat × Nat))
  | [], scales => .ok ([], scales)
  | batch :: rest, scales => do
      let strings ← decimalStrings shown batch numeric
      let (others, widest) ←
        decimalStringsAndScales shown numeric rest (widenedScales strings scales)
      pure (strings :: others, widest)

/-- The schema with each numeric column re-typed to its scale. -/
def decimalSchema (schema : Schema) (scales : List (Nat × Nat)) : Schema :=
  .new (schema.fields.mapIdx (fun index field =>
    match scales.lookup index with
    | some scale => .new field.name (.decimal128 decimalPrecision scale) field.nullable
    | none => field))

/-- A column with a scale is cast from its texts, any other is kept. -/
def rebuiltColumn (scales : List (Nat × Nat)) (strings : List (Nat × ArrayRef)) (index : Nat)
    (column : ArrayRef)
    : ArrayRef :=
  match scales.lookup index, strings.lookup index with
  | some scale, some utf8 => castDecimal128 scale utf8
  | _, _ => column

/-- One batch under the new schema. -/
def rebuildBatch (schema : Schema) (scales : List (Nat × Nat)) (strings : List (Nat × ArrayRef))
    (batch : RecordBatch)
    : Except Fault RecordBatch :=
  (RecordBatch.tryNew schema
    (batch.columns.mapIdx (rebuiltColumn scales strings))).mapError .arrow

def rebuildBatches (schema : Schema) (scales : List (Nat × Nat))
    : List (RecordBatch × List (Nat × ArrayRef)) → Except Fault (List RecordBatch)
  | [] => .ok []
  | (batch, strings) :: rest => do
      let rebuilt ← rebuildBatch schema scales strings batch
      let others ← rebuildBatches schema scales rest
      pure (rebuilt :: others)

/-- Re-derive the given columns as Decimal128 and rebuild every batch under one schema. -/
def rebuildDecimals (shown : ScalarValue → String) (relation : Batches) (columns : List Nat)
    : Except Fault Batches := do
  let (strings, scales) ←
    decimalStringsAndScales shown columns relation.batches
      (columns.map (fun index => (index, 0)))
  let schema := decimalSchema relation.schema scales
  let batches ← rebuildBatches schema scales (relation.batches.zip strings)
  pure { schema, batches }

/-- Whether a field is a Postgres numeric, by its metadata. -/
def Field.isNumeric (field : Field) : Bool :=
  field.metadata.lookup "ADBC:postgresql:typname" == some "numeric"
    || field.metadata.lookup "ADBC:postgresql:typname" == some "decimal"

/-- The indices of the numeric columns. -/
def numericColumns (schema : Schema) : List Nat :=
  (schema.fields.zipIdx.filter (fun entry => entry.1.isNumeric)).map Prod.snd

/-- Convert the numeric columns to exact decimals at the boundary. -/
def normalizeNumeric (shown : ScalarValue → String) (relation : Batches)
    : Except Fault Batches :=
  let numeric := numericColumns relation.schema
  if numeric.isEmpty then
    .ok relation
  else
    rebuildDecimals shown relation numeric

-----------------------------------------------------------------------------------------
-- Reconciling with the executed batches
-----------------------------------------------------------------------------------------

/-- Record the columns, from an index on, where two schemas disagree on a Decimal128 type;
any other disagreement fails.
-/
def collectDecimalDisagreements (executed : Schema)
    : List Field → Nat → List Nat → Except Fault (List Nat)
  | [], _, decimals => .ok decimals
  | field :: rest, index, decimals =>
      match executed.fields[index]? with
      | none => .error (.panic "index out of bounds")
      | some other =>
          if other.dataType = field.dataType then
            collectDecimalDisagreements executed rest (index + 1) decimals
          else if field.dataType.isDecimal128 && other.dataType.isDecimal128 then
            collectDecimalDisagreements executed rest (index + 1)
              (if decimals.contains index then decimals else decimals ++ [index])
          else
            .error
              (.arrow
                (.schema
                  ("column '" ++ field.name ++ "' reported as " ++ field.dataType.text
                    ++ " but executed as " ++ other.dataType.text)))

/-- The columns on which some batch disagrees with the reported schema. -/
def decimalDisagreements (schema : Schema)
    : List RecordBatch → List Nat → Except Fault (List Nat)
  | [], decimals => .ok decimals
  | batch :: rest, decimals =>
      if batch.schema = schema then
        decimalDisagreements schema rest decimals
      else do
        let more ← collectDecimalDisagreements batch.schema schema.fields 0 decimals
        decimalDisagreements schema rest more

/-- Make the reported schema agree with the executed batches. -/
def reconcileExecuted (shown : ScalarValue → String) (relation : Batches)
    : Except Fault Batches := do
  let decimals ← decimalDisagreements relation.schema relation.batches []
  if decimals.isEmpty then
    pure relation
  else
    rebuildDecimals shown relation decimals

/-- What `run_query` does with the answer of the driver. -/
def normalizeAnswer (shown : ScalarValue → String) (answer : Batches)
    : Except String Batches := do
  let normalized ← (normalizeNumeric shown answer).mapError (Fault.describe "numeric normalize")
  (reconcileExecuted shown normalized).mapError (Fault.describe "schema reconcile")

/-- All partitions' batches under the schema of the first one, reconciled with each other. -/
def gatherPartitions (shown : ScalarValue → String) : List Batches → Except String Batches
  | [] => .error "parallel fetch produced no partitions"
  | first :: rest =>
      (reconcileExecuted shown
        { schema := first.schema, batches := (first :: rest).flatMap Batches.batches }).mapError
          (Fault.describe "parallel schema reconcile")

/-- What a parallel read makes of the answers to its partitions' queries, in range order. -/
def gatherAnswers (shown : ScalarValue → String) (answers : List Batches)
    : Except String Batches := do
  let partitions ← answers.mapM (normalizeAnswer shown)
  gatherPartitions shown partitions

end Fedqrs
