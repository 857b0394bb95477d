import Fedqrs.Arrow.NumericRows
import Mathlib.Tactic.NormNum

/-! When the numeric columns of a result are re-typed without loss. -/

namespace Fedqrs

open DecimalText

-----------------------------------------------------------------------------------------
-- Exact cells
-----------------------------------------------------------------------------------------

/-- A text Postgres prints a numeric as. -/
def NumericText (text : String) : Prop :=
  (∃ x, read text.toList = some x) ∨ text = "NaN" ∨ text = "Infinity" ∨ text = "-Infinity"

/-- The number a text stands for, if it is finite. -/
def textValue (text : String) : Option ℚ := (read text.toList).map Numeral.value

/-- The number a decimal cell stands for. -/
def ScalarValue.decimalValue : ScalarValue → Option ℚ
  | .decimal128 unscaled _ scale => some ((unscaled : ℚ) / 10 ^ scale.toNat)
  | _ => none

/-- The converted cell is NULL exactly when the source cell is, and otherwise denotes the
value of its text.
-/
def ExactCell (source converted : ScalarValue) : Prop :=
  (converted = .null ↔ source = .null)
    ∧ ∀ text, source = .utf8 text
        → ∃ value, textValue text = some value ∧ converted.decimalValue = some value

/-- Every numeric column is a `Decimal128(38, scale)` of exact cells, row by row. -/
structure ExactNumerics (relation normalized : Batches) : Prop where
  types : ∀ index ∈ numericColumns relation.schema,
    ∃ scale, normalized.schema.types[index]? = some (.decimal128 decimalPrecision scale)
  rows : List.Forall₂ (fun row other => ∀ index ∈ numericColumns relation.schema,
      ExactCell (row.getD index .null) (other.getD index .null))
    relation.rows normalized.rows

/-- A result as the driver delivers it: batches under the reported schema, with texts and
NULLs in the numeric columns.
-/
structure NumericResult (relation : Batches) : Prop where
  batches : ∀ batch ∈ relation.batches, batch.schema = relation.schema
  texts : ∀ index ∈ numericColumns relation.schema, ∀ row ∈ relation.rows,
    row.getD index .null = .null
      ∨ ∃ text, row.getD index .null = .utf8 text ∧ NumericText text

/-- The text is a finite number with at most `scale` digits after the point, up to trailing
zeros, and at most 38 digits at that scale.
-/
def FitsScale (scale : Nat) (text : String) : Prop :=
  ∃ unscaled : Int, textValue text = some ((unscaled : ℚ) / 10 ^ scale)
    ∧ unscaled.natAbs < 10 ^ decimalPrecision

/-- The text is no finite number, or one of more than 38 digits when rounded to the scale. -/
def OutOfRange (scale : Nat) (text : String) : Prop :=
  ∀ x, read text.toList = some x → 10 ^ decimalPrecision ≤ (x.rounded scale).natAbs

/-- Every number of every numeric column fits the one scale of its column. -/
def Representable (shown : ScalarValue → String) (relation : Batches) : Prop :=
  ∀ index ∈ numericColumns relation.schema, ∀ row ∈ relation.rows, ∀ text,
    row.getD index .null = .utf8 text
      → FitsScale (widestScale shown relation.rows index) text

/-- A numeric column declared NOT NULL holds a text that is out of range at its scale. -/
def Refused (shown : ScalarValue → String) (relation : Batches) : Prop :=
  ∃ index ∈ numericColumns relation.schema, ∃ field,
    relation.schema.fields[index]? = some field
      ∧ field.nullable = false
      ∧ ∃ row ∈ relation.rows, ∃ text, row.getD index .null = .utf8 text
          ∧ OutOfRange (widestScale shown relation.rows index) text

section Cells

variable {scale : Nat} {text : String}

/-- A cast succeeds with the rounded number when that has at most 38 digits. -/
theorem decimalOf_eq_some {unscaled : Int}
    : decimalOf scale text = some unscaled
      ↔ ∃ x, read text.toList = some x ∧ x.rounded scale = unscaled
          ∧ unscaled.natAbs < 10 ^ decimalPrecision := by
  unfold decimalOf
  cases reads : read text.toList with
  | none => simp
  | some x =>
      by_cases small : (x.rounded scale).natAbs < 10 ^ decimalPrecision
      · simp only [Option.bind_some, small, if_true, Option.some.injEq, exists_eq_left']
        constructor
        · intro same
          exact ⟨same, same ▸ small⟩
        · intro same
          exact same.1
      · simp only [Option.bind_some, small, if_false, Option.some.injEq, exists_eq_left']
        constructor
        · intro impossible
          cases impossible
        · intro same
          exact absurd (same.1 ▸ same.2) small

theorem decimalOf_eq_none : decimalOf scale text = none ↔ OutOfRange scale text := by
  unfold decimalOf OutOfRange
  cases reads : read text.toList with
  | none => simp
  | some x => simp

/-- A cast to decimal is a decimal or NULL. -/
theorem toDecimal_utf8 (scale : Nat) (text : String)
    : (ScalarValue.utf8 text).toDecimal scale
      = match decimalOf scale text with
        | some unscaled => .decimal128 unscaled decimalPrecision scale
        | none => .null :=
  rfl

/-- The cast of a text is exact exactly when the text fits the scale. -/
theorem exactCell_toDecimal_iff
    : ExactCell (.utf8 text) ((ScalarValue.utf8 text).toDecimal scale)
      ↔ FitsScale scale text := by
  constructor
  · intro exact
    obtain ⟨value, reads, denotes⟩ := exact.2 text rfl
    rw [toDecimal_utf8] at denotes
    cases cast : decimalOf scale text with
    | none =>
        rw [cast] at denotes
        cases denotes
    | some unscaled =>
        rw [cast] at denotes
        cases denotes
        obtain ⟨x, _, _, small⟩ := decimalOf_eq_some.mp cast
        exact ⟨unscaled, by simpa using reads, small⟩
  · intro fits
    obtain ⟨unscaled, value, small⟩ := fits
    obtain ⟨x, reads, whole⟩ := Option.map_eq_some_iff.mp value
    have cast : decimalOf scale text = some unscaled :=
      decimalOf_eq_some.mpr ⟨x, reads, rounded_of_value whole, small⟩
    rw [toDecimal_utf8, cast]
    refine ⟨by simp, ?_⟩
    intro other same
    cases same
    exact ⟨_, value, by simp [ScalarValue.decimalValue]⟩

end Cells

-----------------------------------------------------------------------------------------
-- Exact results
-----------------------------------------------------------------------------------------

section Results

variable {shown : ScalarValue → String} {relation normalized : Batches}

/-- The numeric columns are columns of the schema, those marked numeric. -/
theorem mem_numericColumns {schema : Schema} {index : Nat}
    : index ∈ numericColumns schema
      ↔ ∃ field, schema.fields[index]? = some field ∧ field.isNumeric = true := by
  simp only [numericColumns, List.mem_map, List.mem_filter, Prod.exists,
    List.mem_zipIdx_iff_getElem?, exists_eq_right]

/-- Numeric columns can be rebuilt in batches under the reported schema. -/
theorem NumericResult.rebuildable (result : NumericResult relation)
    (some : numericColumns relation.schema ≠ [])
    : Rebuildable (numericColumns relation.schema) relation where
  nonempty := some
  within index member := by
    obtain ⟨field, found, _⟩ := mem_numericColumns.mp member
    exact (List.getElem?_eq_some_iff.mp found).1
  counts batch member := by
    have same := congrArg List.length batch.types
    rw [result.batches batch member] at same
    simpa [Schema.types] using same
  types batch member index _ := by rw [result.batches batch member]

/-- A column that is converted holds the casts of its texts. -/
theorem convertCell_numeric {columns : List Nat} {rows : List Row} {index : Nat}
    (member : index ∈ columns) (cell : ScalarValue)
    : convertCell shown (dataScales shown rows columns) index cell
      = (cell.toUtf8 shown).toDecimal (widestScale shown rows index) := by
  simp [convertCell, lookup_dataScales, member]

/-- What the conversion puts at an index of a row. -/
theorem convertRow_getD (scales : List (Nat × Nat)) (row : Row) (index : Nat)
    : (convertRow shown scales row).getD index .null
      = convertCell shown scales index (row.getD index .null) := by
  rw [List.getD_eq_getElem?_getD, List.getD_eq_getElem?_getD, convertRow, List.getElem?_mapIdx]
  cases row[index]? <;> simp

/-- Nothing is refused exactly when no NOT NULL column gets a NULL; by cases on whether the
column is converted, and on what the source cell is.
-/
theorem NumericResult.nullFree_iff (result : NumericResult relation)
    : NullFree shown (numericColumns relation.schema) relation ↔ ¬ Refused shown relation := by
  constructor
  · intro nullFree refused
    obtain ⟨index, numeric, field, declared, required, row, member, text, cell, range⟩ := refused
    apply nullFree index field declared required row member
    rw [convertCell_numeric numeric, cell, ScalarValue.toUtf8, toDecimal_utf8,
      decimalOf_eq_none.mpr range]
  · intro accepted index field declared required row member
    obtain ⟨batch, held, inside⟩ := List.mem_flatMap.mp member
    have cell : row.getD index .null ≠ .null := by
      rw [← result.batches batch held] at declared
      exact RecordBatch.ne_null_of_field declared required inside
    by_cases numeric : index ∈ numericColumns relation.schema
    · rcases result.texts index numeric row member with null | ⟨text, shows, _⟩
      · exact absurd null cell
      · rw [convertCell_numeric numeric, shows, ScalarValue.toUtf8, toDecimal_utf8]
        cases cast : decimalOf (widestScale shown relation.rows index) text with
        | some unscaled => simp
        | none =>
            exact absurd ⟨index, numeric, field, declared, required, row, member, text, shows,
              decimalOf_eq_none.mp cast⟩ accepted
    · simpa [convertCell, lookup_dataScales, numeric] using cell

/-- The rebuilt result is exact exactly when every number fits the scale of its column. -/
theorem NumericResult.exact_iff (result : NumericResult relation)
    (rebuilt : Rebuilt shown (numericColumns relation.schema) relation normalized)
    : ExactNumerics relation normalized ↔ Representable shown relation := by
  have cells
      : (List.Forall₂ (fun row other => ∀ index ∈ numericColumns relation.schema,
            ExactCell (row.getD index .null) (other.getD index .null))
          relation.rows normalized.rows)
        ↔ ∀ row ∈ relation.rows, ∀ index ∈ numericColumns relation.schema,
            ExactCell (row.getD index .null)
              (((row.getD index .null).toUtf8 shown).toDecimal
                (widestScale shown relation.rows index)) := by
    rw [rebuilt.rows, List.forall₂_map_right_iff, List.forall₂_same]
    apply forall₂_congr
    intro row _
    apply forall₂_congr
    intro index numeric
    rw [convertRow_getD, convertCell_numeric numeric]
  constructor
  · intro exact index numeric row member text shows
    have cell := cells.mp exact.rows row member index numeric
    rw [shows] at cell
    exact exactCell_toDecimal_iff.mp cell
  · intro representable
    refine ⟨?_, cells.mpr ?_⟩
    · intro index numeric
      obtain ⟨field, declared, _⟩ := mem_numericColumns.mp numeric
      refine ⟨widestScale shown relation.rows index, ?_⟩
      simp [Schema.types, rebuilt.schema, declared, lookup_dataScales, numeric, Field.new]
    · intro row member index numeric
      rcases result.texts index numeric row member with null | ⟨text, shows, _⟩
      · rw [null]
        exact ⟨Iff.rfl, fun text shows => by cases shows⟩
      · rw [shows]
        exact exactCell_toDecimal_iff.mpr (representable index numeric row member text shows)

/-- Without numeric columns there is nothing to convert. -/
theorem exactNumerics_none (none : numericColumns relation.schema = [])
    : ExactNumerics relation relation where
  types := by simp [none]
  rows := by
    rw [none, List.forall₂_same]
    intro row _ index member
    cases member

end Results

/-- Numeric columns are converted exactly, or the result is refused, exactly when every
number fits 38 digits at the widest scale of its column, or some NOT NULL numeric column
holds a text that is out of range there.
-/
theorem normalizeNumeric_exact_iff (shown : ScalarValue → String) (relation : Batches)
    (result : NumericResult relation)
    : (∀ normalized, normalizeNumeric shown relation = .ok normalized
          → ExactNumerics relation normalized)
      ↔ Representable shown relation ∨ Refused shown relation := by
  unfold normalizeNumeric
  by_cases none : numericColumns relation.schema = []
  · simp only [none, List.isEmpty_nil, if_true, Except.ok.injEq]
    constructor
    · intro _
      refine Or.inl ?_
      intro index numeric
      rw [none] at numeric
      cases numeric
    · intro _ normalized same
      subst same
      exact exactNumerics_none none
  have some : (numericColumns relation.schema).isEmpty = false := by simpa using none
  simp only [some, Bool.false_eq_true, if_false]
  have succeeds := rebuildDecimals_ok_iff shown (result.rebuildable none)
  rw [result.nullFree_iff] at succeeds
  constructor
  · intro exact
    by_cases refused : Refused shown relation
    · exact Or.inr refused
    · obtain ⟨normalized, ran⟩ := succeeds.mpr refused
      exact Or.inl ((result.exact_iff (rebuildDecimals_spec ran)).mp (exact normalized ran))
  · intro condition normalized ran
    rcases condition with representable | refused
    · exact (result.exact_iff (rebuildDecimals_spec ran)).mpr representable
    · exact absurd refused (succeeds.mp ⟨normalized, ran⟩)

-----------------------------------------------------------------------------------------
-- A long fraction beside a large integer
-----------------------------------------------------------------------------------------

def amountSchema : Schema where
  fields :=
    [
      {
        name := "amount"
        dataType := .utf8
        nullable := true
        metadata := [("ADBC:postgresql:typname", "numeric")]
      }
    ]
  metadata := []

/-- A batch of one text of the column. -/
def amountBatch (text : String) : RecordBatch where
  schema := amountSchema
  columns := [{ dataType := .utf8, cells := [.utf8 text], typed := by simp [ScalarValue.fits] }]
  numRows := 1
  types := rfl
  lengths := by simp
  nonNull := by simp [amountSchema]

def amounts (texts : List String) : Batches where
  schema := amountSchema
  batches := texts.map amountBatch

theorem amounts_rows (texts : List String)
    : (amounts texts).rows = texts.map (fun text => [.utf8 text]) := by
  simp only [Batches.rows, amounts]
  induction texts with
  | nil => rfl
  | cons head rest ih => exact congrArg ([.utf8 head] :: ·) ih

/-- Any numeric texts make a result the driver can deliver. -/
theorem amounts_result {texts : List String} (numeric : ∀ text ∈ texts, NumericText text)
    : NumericResult (amounts texts) where
  batches batch member := by
    obtain ⟨text, _, rfl⟩ := List.mem_map.mp member
    rfl
  texts index column row member := by
    rw [amounts_rows] at member
    obtain ⟨text, inside, rfl⟩ := List.mem_map.mp member
    have first : index = 0 := by
      have columns : numericColumns (amounts texts).schema = [0] := rfl
      rw [columns] at column
      simpa using column
    subst first
    exact Or.inr ⟨text, rfl, numeric text inside⟩

/-- 38 nines beside one half: the scale of the half leaves no room for the nines, which
become NULL without an error.
-/
theorem normalizeNumeric_loses_nines
    : NumericResult (amounts ["99999999999999999999999999999999999999", "0.5"])
      ∧ ∃ normalized,
          normalizeNumeric (fun _ => "")
                (amounts ["99999999999999999999999999999999999999", "0.5"])
              = .ok normalized
            ∧ normalized.rows = [[.null], [.decimal128 5 38 1]]
            ∧ ¬ ExactNumerics (amounts ["99999999999999999999999999999999999999", "0.5"])
                normalized := by
  refine ⟨amounts_result ?_, _, rfl, rfl, ?_⟩
  · intro text member
    refine Or.inl ?_
    simp only [List.mem_cons, List.not_mem_nil, or_false] at member
    rcases member with rfl | rfl
    · exact ⟨⟨99999999999999999999999999999999999999, 0⟩, by decide⟩
    · exact ⟨⟨5, 1⟩, by decide⟩
  · intro exact
    rcases exact.rows with _ | ⟨cells, _⟩
    have lost := (cells 0 (by decide)).1
    have text := lost.mp rfl
    cases text

theorem twoAmounts_numeric : ∀ text ∈ ["12.50", "-3"], NumericText text := by
  intro text member
  refine Or.inl ?_
  simp only [List.mem_cons, List.not_mem_nil, or_false] at member
  rcases member with rfl | rfl
  · exact ⟨⟨1250, 2⟩, by decide⟩
  · exact ⟨⟨-3, 0⟩, by decide⟩

/-- Both amounts fit the two digits of the wider one. -/
theorem twoAmounts_fit : Representable (fun _ => "") (amounts ["12.50", "-3"]) := by
  intro index column row member text shows
  have first : index = 0 := by
    have columns : numericColumns (amounts ["12.50", "-3"]).schema = [0] := rfl
    rw [columns] at column
    simpa using column
  subst first
  have scale : widestScale (fun _ => "") (amounts ["12.50", "-3"]).rows 0 = 2 := by decide
  rw [scale]
  rw [amounts_rows] at member
  obtain ⟨other, inside, rfl⟩ := List.mem_map.mp member
  cases shows
  simp only [List.mem_cons, List.not_mem_nil, or_false] at inside
  rcases inside with rfl | rfl
  · refine ⟨1250, ?_, by decide⟩
    have reads : read "12.50".toList = some ⟨1250, 2⟩ := by decide
    rw [textValue, reads]
    rfl
  · refine ⟨-300, ?_, by decide⟩
    have reads : read "-3".toList = some ⟨-3, 0⟩ := by decide
    simp only [textValue, reads, Numeral.value, Option.map_some, Option.some.injEq]
    norm_num

theorem normalizeNumeric_exact_amounts
    : ∃ normalized, normalizeNumeric (fun _ => "") (amounts ["12.50", "-3"]) = .ok normalized
        ∧ ExactNumerics (amounts ["12.50", "-3"]) normalized := by
  refine ⟨_, rfl, ?_⟩
  have exact :=
    (normalizeNumeric_exact_iff (fun _ => "") _ (amounts_result twoAmounts_numeric)).mpr
      (Or.inl twoAmounts_fit)
  exact exact _ rfl

end Fedqrs
