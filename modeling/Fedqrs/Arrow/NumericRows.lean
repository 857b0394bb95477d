import Fedqrs.Arrow.Numeric
import Fedqrs.Library.Proc

/-! What re-typing decimal columns does to rows, and when it succeeds. -/

namespace Fedqrs

-----------------------------------------------------------------------------------------
-- Rebuilt rows
-----------------------------------------------------------------------------------------

/-- The cells of one column of some rows. -/
def cellsAt (rows : List Row) (index : Nat) : List ScalarValue :=
  rows.map (fun row => row.getD index .null)

/-- The widest number of digits after the point in one column of some rows. -/
def widestScale (shown : ScalarValue → String) (rows : List Row) (index : Nat) : Nat :=
  ((cellsAt rows index).map (fun cell => fractionalDigits (cell.toUtf8 shown))).foldr max 0

/-- The scale each of the columns gets from the rows. -/
def dataScales (shown : ScalarValue → String) (rows : List Row) (columns : List Nat)
    : List (Nat × Nat) :=
  columns.map (fun index => (index, widestScale shown rows index))

/-- A cell re-typed if its column has a scale. -/
def convertCell (shown : ScalarValue → String) (scales : List (Nat × Nat)) (index : Nat)
    (cell : ScalarValue)
    : ScalarValue :=
  match scales.lookup index with
  | some scale => (cell.toUtf8 shown).toDecimal scale
  | none => cell

/-- A row re-typed in the columns that have a scale. -/
def convertRow (shown : ScalarValue → String) (scales : List (Nat × Nat)) (row : Row) : Row :=
  row.mapIdx (convertCell shown scales)

section Scales

variable {shown : ScalarValue → String}

theorem foldr_max_append (a b : List Nat)
    : (a ++ b).foldr max 0 = max (a.foldr max 0) (b.foldr max 0) := by
  induction a with
  | nil => simp
  | cons head rest ih => simp [ih, max_assoc]

theorem widestScale_append (a b : List Row) (index : Nat)
    : widestScale shown (a ++ b) index
      = max (widestScale shown a index) (widestScale shown b index) := by
  simp only [widestScale, cellsAt, List.map_append, foldr_max_append]

/-- A row's own digits count. -/
theorem le_widestScale {rows : List Row} {row : Row} (member : row ∈ rows) (index : Nat)
    : fractionalDigits ((row.getD index .null).toUtf8 shown) ≤ widestScale shown rows index := by
  obtain ⟨before, after, rfl⟩ := List.append_of_mem member
  rw [widestScale_append, widestScale, widestScale]
  simp [cellsAt]

/-- A column's scale among those of the data, if it is one of the columns. -/
theorem lookup_dataScales (rows : List Row) (columns : List Nat) (index : Nat)
    : (dataScales shown rows columns).lookup index
      = if index ∈ columns then some (widestScale shown rows index) else none := by
  induction columns with
  | nil => rfl
  | cons head rest ih =>
      unfold dataScales at ih ⊢
      by_cases same : index = head
      · subst same
        simp
      · have differs : (index == head) = false := by simpa using same
        simp only [List.map_cons, List.lookup_cons, differs, ih, List.mem_cons, same, false_or]

/-- The cells of a column are those of the rows at its index. -/
theorem RecordBatch.cellsAt_rows {batch : RecordBatch} {index : Nat} {column : ArrayRef}
    (found : batch.columns[index]? = some column)
    : cellsAt batch.rows index = column.cells := by
  have length := batch.lengths column (List.mem_of_getElem? found)
  apply List.ext_getElem
  · simp [cellsAt, length]
  · intro i _ inside
    simp [cellsAt, RecordBatch.rows, RecordBatch.row, List.getD_eq_getElem?_getD, found, inside]

/-- The widest digits of a column are those of the rows at its index. -/
theorem RecordBatch.maxFractionalDigits_castUtf8 {batch : RecordBatch} {index : Nat}
    {column : ArrayRef} (found : batch.columns[index]? = some column)
    : maxFractionalDigits (castUtf8 shown column) = widestScale shown batch.rows index := by
  simp only [maxFractionalDigits, castUtf8, widestScale, RecordBatch.cellsAt_rows found,
    List.map_map, Function.comp_def]

/-- Every index is that of a column of the batch. -/
def RecordBatch.HasColumns (batch : RecordBatch) (columns : List Nat) : Prop :=
  ∀ index ∈ columns, index < batch.columns.length

/-- The texts of a batch by column, by induction over the columns. -/
theorem decimalStrings_spec {batch : RecordBatch} {columns : List Nat}
    {strings : List (Nat × ArrayRef)}
    (ran : decimalStrings shown batch columns = .ok strings) (index : Nat)
    : strings.lookup index
      = if index ∈ columns then (batch.columns[index]?).map (castUtf8 shown) else none := by
  induction columns generalizing strings with
  | nil =>
      cases ran
      rfl
  | cons head rest ih =>
      obtain ⟨column, first, tail₁⟩ := Except.bind_eq_ok.mp ran
      obtain ⟨others, later, tail₂⟩ := Except.bind_eq_ok.mp tail₁
      cases tail₂
      have found : batch.columns[head]? = some column := by
        unfold RecordBatch.column at first
        cases held : batch.columns[head]? with
        | none => simp [held] at first
        | some other =>
            rw [held] at first
            cases first
            rfl
      by_cases same : index = head
      · subst same
        simp [found]
      · have differs : (index == head) = false := by simpa using same
        simp only [List.lookup_cons, differs, ih later, List.mem_cons, same, false_or]

/-- The texts are there exactly when every column is; by induction over the columns. -/
theorem decimalStrings_ok (shown : ScalarValue → String) {batch : RecordBatch}
    {columns : List Nat} (has : batch.HasColumns columns)
    : ∃ strings, decimalStrings shown batch columns = .ok strings := by
  induction columns with
  | nil => exact ⟨[], rfl⟩
  | cons head rest ih =>
      obtain ⟨others, later⟩ := ih (fun index member => has index (List.mem_cons_of_mem _ member))
      have inside := has head (by simp)
      have first : batch.column head = .ok batch.columns[head] := by
        simp [RecordBatch.column, inside]
      refine ⟨(head, castUtf8 shown batch.columns[head]) :: others, ?_⟩
      rw [decimalStrings, first, later]
      rfl

/-- One batch widens the scales by its own rows. -/
theorem widenedScales_dataScales {batch : RecordBatch} {columns : List Nat}
    {strings : List (Nat × ArrayRef)} {rows : List Row} (has : batch.HasColumns columns)
    (ran : decimalStrings shown batch columns = .ok strings)
    : widenedScales strings (dataScales shown rows columns)
      = dataScales shown (rows ++ batch.rows) columns := by
  simp only [widenedScales, dataScales, List.map_map]
  apply List.map_congr_left
  intro index member
  have inside := has index member
  have found : batch.columns[index]? = some batch.columns[index] :=
    List.getElem?_eq_getElem inside
  simp only [Function.comp_def, decimalStrings_spec ran, member, if_true, found, Option.map_some,
    Option.getD_some, RecordBatch.maxFractionalDigits_castUtf8 found, widestScale_append]

/-- Texts are there only when every column is. -/
theorem hasColumns_of_decimalStrings {batch : RecordBatch} {columns : List Nat}
    {strings : List (Nat × ArrayRef)}
    (ran : decimalStrings shown batch columns = .ok strings)
    : batch.HasColumns columns := by
  intro index member
  induction columns generalizing strings with
  | nil => simp at member
  | cons head rest ih =>
      obtain ⟨column, first, tail₁⟩ := Except.bind_eq_ok.mp ran
      obtain ⟨others, later, _⟩ := Except.bind_eq_ok.mp tail₁
      rcases List.mem_cons.mp member with rfl | member
      · by_contra outside
        have missing : batch.columns[index]? = none := List.getElem?_eq_none (by omega)
        simp [RecordBatch.column, missing] at first
      · exact ih later member

/-- Each batch with its texts, and the scales of all rows so far; by induction over the
batches.
-/
theorem decimalStringsAndScales_spec {columns : List Nat} {batches : List RecordBatch}
    {rows : List Row} {strings : List (List (Nat × ArrayRef))} {scales : List (Nat × Nat)}
    (ran
      : decimalStringsAndScales shown columns batches (dataScales shown rows columns)
        = .ok (strings, scales))
    : List.Forall₂ (fun batch texts => decimalStrings shown batch columns = .ok texts) batches
          strings
        ∧ scales = dataScales shown (rows ++ batches.flatMap RecordBatch.rows) columns := by
  induction batches generalizing rows strings scales with
  | nil =>
      cases ran
      simp
  | cons batch rest ih =>
      obtain ⟨texts, first, tail₁⟩ := Except.bind_eq_ok.mp ran
      rw [widenedScales_dataScales (hasColumns_of_decimalStrings first) first] at tail₁
      obtain ⟨⟨others, widest⟩, later, tail₂⟩ := Except.bind_eq_ok.mp tail₁
      cases tail₂
      obtain ⟨each, final⟩ := ih later
      refine ⟨.cons first each, ?_⟩
      rw [final, List.flatMap_cons, List.append_assoc]

/-- Texts and scales are there when every batch has the columns. -/
theorem decimalStringsAndScales_ok (shown : ScalarValue → String) {columns : List Nat}
    {batches : List RecordBatch} (has : ∀ batch ∈ batches, batch.HasColumns columns)
    (scales : List (Nat × Nat))
    : ∃ result, decimalStringsAndScales shown columns batches scales = .ok result := by
  induction batches generalizing scales with
  | nil => exact ⟨([], scales), rfl⟩
  | cons batch rest ih =>
      obtain ⟨texts, first⟩ := decimalStrings_ok shown (has batch (by simp))
      obtain ⟨result, later⟩ :=
        ih (fun other member => has other (List.mem_cons_of_mem _ member))
          (widenedScales texts scales)
      refine ⟨(texts :: result.1, result.2), ?_⟩
      rw [decimalStringsAndScales, first]
      change (decimalStringsAndScales shown columns rest (widenedScales texts scales) >>= _) = _
      rw [later]
      rfl

/-- A rebuilt column holds the converted cells. -/
theorem rebuiltColumn_cells {batch : RecordBatch} {columns : List Nat}
    {strings : List (Nat × ArrayRef)} {rows : List Row}
    (ran : decimalStrings shown batch columns = .ok strings) {index : Nat} {column : ArrayRef}
    (found : batch.columns[index]? = some column)
    : (rebuiltColumn (dataScales shown rows columns) strings index column).cells
      = column.cells.map (convertCell shown (dataScales shown rows columns) index) := by
  unfold rebuiltColumn
  rw [decimalStrings_spec ran, found]
  by_cases member : index ∈ columns
  · simp [convertCell, lookup_dataScales, member, castDecimal128, castUtf8]
  · have kept : convertCell shown (dataScales shown rows columns) index = id := by
      funext cell
      simp [convertCell, lookup_dataScales, member]
    simp [lookup_dataScales, member, kept]

/-- A rebuilt column has the type of its scale. -/
theorem rebuiltColumn_type {batch : RecordBatch} {columns : List Nat}
    {strings : List (Nat × ArrayRef)} {rows : List Row}
    (ran : decimalStrings shown batch columns = .ok strings) {index : Nat} {column : ArrayRef}
    (found : batch.columns[index]? = some column)
    : (rebuiltColumn (dataScales shown rows columns) strings index column).dataType
      = if index ∈ columns then .decimal128 decimalPrecision (widestScale shown rows index)
        else column.dataType := by
  unfold rebuiltColumn
  rw [decimalStrings_spec ran, found, lookup_dataScales]
  by_cases member : index ∈ columns
  · simp [member, castDecimal128]
  · simp [member]

@[simp]
theorem convertCell_null (scales : List (Nat × Nat)) (index : Nat)
    : convertCell shown scales index .null = .null := by
  unfold convertCell
  cases scales.lookup index with
  | none => rfl
  | some scale => rfl

/-- A rebuilt batch holds the converted rows. -/
theorem rebuildBatch_spec {schema : Schema} {batch rebuilt : RecordBatch} {columns : List Nat}
    {strings : List (Nat × ArrayRef)} {rows : List Row}
    (texts : decimalStrings shown batch columns = .ok strings)
    (ran : rebuildBatch schema (dataScales shown rows columns) strings batch = .ok rebuilt)
    : rebuilt.schema = schema
        ∧ rebuilt.rows
          = batch.rows.map (convertRow shown (dataScales shown rows columns)) := by
  obtain ⟨schemas, held, passed⟩ := RecordBatch.tryNew_eq_ok (Except.mapError_eq_ok.mp ran)
  have nonempty := RecordBatch.columns_of_check passed
  refine ⟨schemas, ?_⟩
  rw [← held] at nonempty
  have cells
      : ∀ (index : Nat) (column : ArrayRef), batch.columns[index]? = some column
          → ∃ other : ArrayRef, rebuilt.columns[index]? = some other
            ∧ other.cells
              = column.cells.map (convertCell shown (dataScales shown rows columns) index) := by
    intro index column found
    refine ⟨_, ?_, rebuiltColumn_cells texts found⟩
    rw [held, List.getElem?_mapIdx, found]
    rfl
  have counts : rebuilt.columns.length = batch.columns.length := by
    rw [held, List.length_mapIdx]
  have rowCounts : rebuilt.numRows = batch.numRows := by
    have inside : 0 < batch.columns.length := by
      rw [← counts]
      exact List.length_pos_iff.mpr nonempty
    obtain ⟨other, found, same⟩ := cells 0 _ (List.getElem?_eq_getElem inside)
    have here := batch.lengths _ (List.getElem_mem inside)
    have there := rebuilt.lengths other (List.mem_of_getElem? found)
    rw [same, List.length_map, here] at there
    exact there.symm
  have row
      : ∀ i, rebuilt.row i
          = convertRow shown (dataScales shown rows columns) (batch.row i) := by
    intro i
    apply List.ext_getElem?
    intro index
    cases found : batch.columns[index]? with
    | none =>
        have outside : rebuilt.columns[index]? = none := by
          rw [List.getElem?_eq_none_iff] at found ⊢
          omega
        simp [RecordBatch.row, convertRow, found, outside]
    | some column =>
        obtain ⟨other, there, same⟩ := cells index column found
        have cell
            : other.cells.getD i .null
              = convertCell shown (dataScales shown rows columns) index
                  (column.cells.getD i .null) := by
          rw [same, List.getD_eq_getElem?_getD, List.getD_eq_getElem?_getD, List.getElem?_map]
          cases column.cells[i]? <;> simp
        simp only [RecordBatch.row, convertRow, List.getElem?_map, List.getElem?_mapIdx, found,
          there, Option.map_some, cell]
  simp only [RecordBatch.rows, rowCounts, List.map_map]
  apply List.map_congr_left
  intro i _
  exact row i

/-- The batches rebuilt hold the converted rows, by induction over them. -/
theorem rebuildBatches_spec {schema : Schema} {batches rebuilt : List RecordBatch}
    {columns : List Nat} {strings : List (List (Nat × ArrayRef))} {rows : List Row}
    (texts
      : List.Forall₂ (fun batch texts => decimalStrings shown batch columns = .ok texts) batches
          strings)
    (ran
      : rebuildBatches schema (dataScales shown rows columns) (batches.zip strings)
        = .ok rebuilt)
    : List.Forall₂ (fun batch other => other.schema = schema
          ∧ other.rows = batch.rows.map (convertRow shown (dataScales shown rows columns)))
        batches rebuilt := by
  induction texts generalizing rebuilt with
  | nil =>
      cases ran
      exact .nil
  | cons first _ ih =>
      obtain ⟨other, here, tail₁⟩ := Except.bind_eq_ok.mp ran
      obtain ⟨others, there, tail₂⟩ := Except.bind_eq_ok.mp tail₁
      cases tail₂
      exact .cons (rebuildBatch_spec first here) (ih there)

end Scales

-----------------------------------------------------------------------------------------
-- Rebuilt relations
-----------------------------------------------------------------------------------------

/-- One relation is the other with the columns re-typed to the scales of its own rows, batch
by batch.
-/
structure Rebuilt (shown : ScalarValue → String) (columns : List Nat)
    (relation rebuilt : Batches)
    : Prop where
  schema : rebuilt.schema = decimalSchema relation.schema (dataScales shown relation.rows columns)
  batches : List.Forall₂ (fun batch other => other.schema = rebuilt.schema
      ∧ other.rows = batch.rows.map (convertRow shown (dataScales shown relation.rows columns)))
    relation.batches rebuilt.batches

theorem Rebuilt.rows {shown : ScalarValue → String} {columns : List Nat}
    {relation other : Batches} (rebuilt : Rebuilt shown columns relation other)
    : other.rows
      = relation.rows.map (convertRow shown (dataScales shown relation.rows columns)) := by
  have batches := rebuilt.batches
  generalize dataScales shown relation.rows columns = scales at batches ⊢
  unfold Batches.rows
  generalize relation.batches = before at batches ⊢
  generalize other.batches = after at batches ⊢
  induction batches with
  | nil => rfl
  | cons head _ ih => rw [List.flatMap_cons, List.flatMap_cons, List.map_append, head.2, ih]

/-- What `rebuild_decimals` returns. -/
theorem rebuildDecimals_spec {shown : ScalarValue → String} {relation rebuilt : Batches}
    {columns : List Nat} (ran : rebuildDecimals shown relation columns = .ok rebuilt)
    : Rebuilt shown columns relation rebuilt := by
  obtain ⟨⟨strings, scales⟩, derived, tail₁⟩ := Except.bind_eq_ok.mp ran
  obtain ⟨batches, built, tail₂⟩ := Except.bind_eq_ok.mp tail₁
  cases tail₂
  have start : columns.map (fun index => (index, 0)) = dataScales shown [] columns := rfl
  rw [start] at derived
  obtain ⟨texts, rfl⟩ := decimalStringsAndScales_spec derived
  exact { schema := rfl, batches := rebuildBatches_spec texts built }

/-- Each element on the right has a partner on the left. -/
theorem forall₂_right {α β : Type} {related : α → β → Prop} {left : List α} {right : List β}
    (pairs : List.Forall₂ related left right) {b : β} (member : b ∈ right)
    : ∃ a ∈ left, related a b := by
  induction pairs with
  | nil => simp at member
  | cons head _ ih =>
      rcases List.mem_cons.mp member with rfl | member
      · exact ⟨_, by simp, head⟩
      · obtain ⟨a, inside, pair⟩ := ih member
        exact ⟨a, List.mem_cons_of_mem _ inside, pair⟩

/-- A relation whose batches match its schema outside the columns to be re-typed. -/
structure Rebuildable (columns : List Nat) (relation : Batches) : Prop where
  nonempty : columns ≠ []
  within : ∀ index ∈ columns, index < relation.schema.fields.length
  counts : ∀ batch ∈ relation.batches, batch.columns.length = relation.schema.fields.length
  types : ∀ batch ∈ relation.batches, ∀ index, index ∉ columns
    → batch.schema.types[index]? = relation.schema.types[index]?

/-- No column declared NOT NULL gets a NULL from the conversion. -/
def NullFree (shown : ScalarValue → String) (columns : List Nat) (relation : Batches) : Prop :=
  ∀ (index : Nat) (field : Field), relation.schema.fields[index]? = some field
    → field.nullable = false
    → ∀ row ∈ relation.rows,
        convertCell shown (dataScales shown relation.rows columns) index
          (row.getD index .null) ≠ .null

section Success

variable {shown : ScalarValue → String} {columns : List Nat} {relation : Batches}

@[simp]
theorem decimalSchema_getElem? (schema : Schema) (scales : List (Nat × Nat)) (index : Nat)
    : (decimalSchema schema scales).fields[index]?
      = (schema.fields[index]?).map (fun field =>
          match scales.lookup index with
          | some scale => .new field.name (.decimal128 decimalPrecision scale) field.nullable
          | none => field) :=
  List.getElem?_mapIdx

/-- In a NOT NULL column of a batch no row has a NULL. -/
theorem RecordBatch.ne_null_of_field {batch : RecordBatch} {index : Nat} {field : Field}
    (declared : batch.schema.fields[index]? = some field) (required : field.nullable = false)
    {row : Row} (member : row ∈ batch.rows)
    : row.getD index .null ≠ .null := by
  have counts : batch.columns.length = batch.schema.fields.length := by
    have same := congrArg List.length batch.types
    simpa [Schema.types] using same
  have inside : index < batch.schema.fields.length := (List.getElem?_eq_some_iff.mp declared).1
  have found : batch.columns[index]? = some batch.columns[index] :=
    List.getElem?_eq_getElem (by omega)
  have pair : (field, batch.columns[index]) ∈ batch.schema.fields.zip batch.columns := by
    exact List.mem_of_getElem? (List.getElem?_zip_eq_some.mpr ⟨declared, found⟩)
  rcases batch.nonNull _ pair with nullable | none
  · rw [required] at nullable
    cases nullable
  · have cell : row.getD index .null ∈ batch.columns[index].cells := by
      rw [← RecordBatch.cellsAt_rows found]
      exact List.mem_map.mpr ⟨row, member, rfl⟩
    intro null
    rw [null] at cell
    have absent := List.countP_eq_zero.mp none .null cell
    simp at absent

/-- One batch can be rebuilt under the schema of its re-typed columns. -/
theorem rebuildBatch_ok (rebuildable : Rebuildable columns relation)
    (nullFree : NullFree shown columns relation) {batch : RecordBatch}
    (member : batch ∈ relation.batches) {strings : List (Nat × ArrayRef)}
    (texts : decimalStrings shown batch columns = .ok strings)
    : ∃ rebuilt,
        rebuildBatch
            (decimalSchema relation.schema (dataScales shown relation.rows columns))
            (dataScales shown relation.rows columns) strings batch
          = .ok rebuilt := by
  generalize scaled : dataScales shown relation.rows columns = scales
  have scaleAt (index : Nat)
      : scales.lookup index
        = if index ∈ columns then some (widestScale shown relation.rows index) else none := by
    rw [← scaled, lookup_dataScales]
  have cells {index : Nat} {column : ArrayRef} (found : batch.columns[index]? = some column)
      : (rebuiltColumn scales strings index column).cells
        = column.cells.map (convertCell shown scales index) := by
    rw [← scaled]
    exact rebuiltColumn_cells texts found
  have type {index : Nat} {column : ArrayRef} (found : batch.columns[index]? = some column)
      : (rebuiltColumn scales strings index column).dataType
        = if index ∈ columns then
            .decimal128 decimalPrecision (widestScale shown relation.rows index)
          else
            column.dataType := by
    rw [← scaled]
    exact rebuiltColumn_type texts found
  have counts := rebuildable.counts batch member
  have checked
      : RecordBatch.Checked (decimalSchema relation.schema scales)
          (batch.columns.mapIdx (rebuiltColumn scales strings)) batch.numRows := by
    refine ⟨?_, ?_, ?_⟩
    · apply List.ext_getElem?
      intro index
      simp only [Schema.types, List.getElem?_map, decimalSchema_getElem?, List.getElem?_mapIdx,
        Option.map_map]
      cases found : batch.columns[index]? with
      | none =>
          have outside : relation.schema.fields[index]? = none := by
            rw [List.getElem?_eq_none_iff] at found ⊢
            omega
          simp [outside]
      | some column =>
          have inside : index < relation.schema.fields.length := by
            have before := (List.getElem?_eq_some_iff.mp found).1
            omega
          have declared : relation.schema.fields[index]? = some relation.schema.fields[index] :=
            List.getElem?_eq_getElem inside
          simp only [declared, Option.map_some, Function.comp_apply, type found, scaleAt]
          by_cases numeric : index ∈ columns
          · simp [numeric, Field.new]
          · have same := rebuildable.types batch member index numeric
            rw [← batch.types] at same
            simp only [Schema.types, List.getElem?_map, found, declared, Option.map_some] at same
            simpa [numeric] using same
    · intro other held
      obtain ⟨index, place⟩ := List.mem_iff_getElem?.mp held
      rw [List.getElem?_mapIdx] at place
      obtain ⟨column, found, rfl⟩ := Option.map_eq_some_iff.mp place
      rw [cells found, List.length_map]
      exact batch.lengths column (List.mem_of_getElem? found)
    · intro pair held
      obtain ⟨index, place⟩ := List.mem_iff_getElem?.mp held
      rw [List.getElem?_zip_eq_some] at place
      obtain ⟨declared, placed⟩ := place
      rw [List.getElem?_mapIdx] at placed
      obtain ⟨column, found, same⟩ := Option.map_eq_some_iff.mp placed
      rw [decimalSchema_getElem?] at declared
      obtain ⟨field, original, typed⟩ := Option.map_eq_some_iff.mp declared
      have nullable : pair.1.nullable = field.nullable := by
        rw [← typed]
        cases scales.lookup index <;> rfl
      cases required : field.nullable with
      | true => exact Or.inl (nullable.trans required)
      | false =>
          refine Or.inr ?_
          rw [ArrayRef.nullCount, ← same, cells found, List.countP_eq_zero]
          intro cell converted
          obtain ⟨source, stored, rfl⟩ := List.mem_map.mp converted
          rw [← RecordBatch.cellsAt_rows found] at stored
          obtain ⟨row, read, rfl⟩ := List.mem_map.mp stored
          have free := nullFree index field original required row
            (List.mem_flatMap.mpr ⟨batch, member, read⟩)
          rw [scaled] at free
          simpa using free
  have nonempty : batch.columns.mapIdx (rebuiltColumn scales strings) ≠ [] := by
    obtain ⟨index, some⟩ := List.exists_mem_of_ne_nil _ rebuildable.nonempty
    have inside := rebuildable.within index some
    intro empty
    have none := congrArg List.length empty
    simp only [List.length_mapIdx, List.length_nil] at none
    omega
  obtain ⟨rebuilt, built, _⟩ := RecordBatch.tryNew_of_checked checked nonempty
  exact ⟨rebuilt, Except.mapError_eq_ok.mpr built⟩

/-- All batches can be rebuilt, by induction over those still to be. -/
theorem rebuildBatches_ok (rebuildable : Rebuildable columns relation)
    (nullFree : NullFree shown columns relation) {batches : List RecordBatch}
    (members : ∀ batch ∈ batches, batch ∈ relation.batches)
    {strings : List (List (Nat × ArrayRef))}
    (texts
      : List.Forall₂ (fun batch texts => decimalStrings shown batch columns = .ok texts) batches
          strings)
    : ∃ rebuilt,
        rebuildBatches
            (decimalSchema relation.schema (dataScales shown relation.rows columns))
            (dataScales shown relation.rows columns) (batches.zip strings)
          = .ok rebuilt := by
  induction texts with
  | nil => exact ⟨[], rfl⟩
  | @cons batch held rest others first _ ih =>
      obtain ⟨rebuilt, here⟩ :=
        rebuildBatch_ok rebuildable nullFree (members batch (by simp)) first
      obtain ⟨more, there⟩ := ih (fun other member => members other (by simp [member]))
      refine ⟨rebuilt :: more, ?_⟩
      rw [List.zip_cons_cons, rebuildBatches, here, there]
      rfl

/-- Rebuilding succeeds exactly when no NOT NULL column gets a NULL. -/
theorem rebuildDecimals_ok_iff (shown : ScalarValue → String)
    (rebuildable : Rebuildable columns relation)
    : (∃ rebuilt, rebuildDecimals shown relation columns = .ok rebuilt)
      ↔ NullFree shown columns relation := by
  constructor
  · intro success
    obtain ⟨rebuilt, ran⟩ := success
    have spec := rebuildDecimals_spec ran
    intro index field declared required row member
    have converted : convertRow shown (dataScales shown relation.rows columns) row
        ∈ rebuilt.rows := by
      rw [spec.rows]
      exact List.mem_map_of_mem member
    obtain ⟨other, held, inside⟩ := List.mem_flatMap.mp converted
    have schema : other.schema = rebuilt.schema := by
      obtain ⟨batch, _, same, _⟩ := forall₂_right spec.batches held
      exact same
    have retyped
        : ∃ other : Field, rebuilt.schema.fields[index]? = some other
          ∧ other.nullable = false := by
      rw [spec.schema, decimalSchema_getElem?, declared]
      refine ⟨_, rfl, ?_⟩
      cases (dataScales shown relation.rows columns).lookup index with
      | none => exact required
      | some scale => exact required
    obtain ⟨field', declared', required'⟩ := retyped
    rw [← schema] at declared'
    have cell := RecordBatch.ne_null_of_field declared' required' inside
    intro null
    apply cell
    rw [List.getD_eq_getElem?_getD, convertRow, List.getElem?_mapIdx]
    rw [List.getD_eq_getElem?_getD] at null
    cases read : row[index]? with
    | none => rfl
    | some value => simpa [read] using null
  · intro nullFree
    have has : ∀ batch ∈ relation.batches, batch.HasColumns columns := by
      intro batch member index numeric
      rw [rebuildable.counts batch member]
      exact rebuildable.within index numeric
    obtain ⟨⟨strings, scales⟩, derived⟩ :=
      decimalStringsAndScales_ok shown has (dataScales shown [] columns)
    obtain ⟨texts, rfl⟩ := decimalStringsAndScales_spec derived
    obtain ⟨rebuilt, built⟩ := rebuildBatches_ok rebuildable nullFree (fun _ member => member) texts
    have start : columns.map (fun index => (index, 0)) = dataScales shown [] columns := rfl
    rw [rebuildDecimals, start, derived]
    change ∃ _, (rebuildBatches
      (decimalSchema relation.schema (dataScales shown relation.rows columns))
      (dataScales shown relation.rows columns) (relation.batches.zip strings) >>= _) = _
    rw [built]
    exact ⟨_, rfl⟩

end Success

end Fedqrs
