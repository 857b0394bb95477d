import Fedqrs.Correctness.PartitionedNumeric

/-! What becomes of the rows that a source returns: the texts of numeric columns are re-typed, for
page ranges twice. Where every number fits, the rows keep their values.
-/

namespace Fedqrs

open DecimalText

variable {shown : ScalarValue → String}

-----------------------------------------------------------------------------------------
-- Rows as they are read
-----------------------------------------------------------------------------------------

/-- The rows of one answer as they are read: the given columns are re-typed to the widest scale
that is among them.
-/
def readRows (shown : ScalarValue → String) (columns : List Nat) (rows : List Row) : List Row :=
  rows.map (convertRow shown (dataScales shown rows columns))

/-- The rows of several answers: each answer's as they are read, and then all of them again. -/
def readParts (shown : ScalarValue → String) (columns : List Nat) (parts : List (List Row))
    : List Row :=
  readRows shown columns (parts.flatMap (readRows shown columns))

/-- A relation whose batches all come under one schema. -/
structure Batches.Under (relation : Batches) (schema : Schema) : Prop where
  reported : relation.schema = schema
  batches : ∀ batch ∈ relation.batches, batch.schema = schema

theorem readRows_nil (rows : List Row) : readRows shown [] rows = rows :=
  (List.map_congr_left (fun row _ => convertRow_nil row)).trans (List.map_id' rows)

theorem readParts_nil (parts : List (List Row)) : readParts shown [] parts = parts.flatten := by
  rw [readParts, readRows_nil, List.flatMap_congr (fun part _ => readRows_nil part),
    List.flatten_eq_flatMap]
  rfl

theorem readRows_length (columns : List Nat) (rows : List Row)
    : (readRows shown columns rows).length = rows.length :=
  List.length_map _

/-- The order of the answer's rows carries over. -/
theorem readRows_perm {columns : List Nat} {rows others : List Row} (perm : rows.Perm others)
    : (readRows shown columns rows).Perm (readRows shown columns others) := by
  rw [readRows, readRows, dataScales_perm perm columns]
  exact perm.map _

theorem readParts_perm {columns : List Nat} {parts others : List (List Row)}
    (perms : List.Forall₂ List.Perm parts others)
    : (readParts shown columns parts).Perm (readParts shown columns others) := by
  apply readRows_perm
  induction perms with
  | nil => exact .refl _
  | cons head _ ih => exact (readRows_perm head).append ih

/-- An answer under one schema is that schema's stream. -/
theorem Batches.Under.stream {relation : Batches} {schema : Schema} (under : relation.Under schema)
    : relation = Fedqrs.stream schema relation.batches := by
  rw [Fedqrs.stream, ← under.reported]

theorem streams_of_under {answers : List Batches} {schema : Schema}
    (under : ∀ answer ∈ answers, answer.Under schema)
    : (answers.map Batches.batches).map (stream schema) = answers := by
  rw [List.map_map]
  refine (List.map_congr_left (fun answer member => ?_)).trans (List.map_id' answers)
  exact (under answer member).stream.symm

-----------------------------------------------------------------------------------------
-- One answer
-----------------------------------------------------------------------------------------

section Answers

variable {schema : Schema} {answer result : Batches} {answers : List Batches}

/-- With numeric columns, what an answer is read as is rebuilt from it. -/
theorem normalizeAnswer_retyped (under : answer.Under schema) (some : numericColumns schema ≠ [])
    (ran : normalizeAnswer shown answer = .ok result)
    : Rebuilt shown (numericColumns schema) answer result := by
  obtain ⟨normalized, first, second⟩ := Except.bind_eq_ok.mp ran
  have numerics := Except.mapError_eq_ok.mp first
  have some' : (numericColumns answer.schema).isEmpty = false := by
    rw [under.reported]
    simpa using some
  simp only [normalizeNumeric, some', Bool.false_eq_true, if_false] at numerics
  rw [under.reported] at numerics
  have rebuilt := rebuildDecimals_spec numerics
  have same : ∀ batch ∈ normalized.batches, batch.schema = normalized.schema := by
    intro batch member
    obtain ⟨_, _, schema, _⟩ := forall₂_right rebuilt.batches member
    exact schema
  have kept := Except.mapError_eq_ok.mp second
  rw [reconcileExecuted_same same] at kept
  cases kept
  exact rebuilt

/-- The rows of an answer as they are read. -/
theorem normalizeAnswer_rows (under : answer.Under schema)
    (ran : normalizeAnswer shown answer = .ok result)
    : result.rows = readRows shown (numericColumns schema) answer.rows := by
  by_cases none : numericColumns schema = []
  · have plain : normalizeAnswer shown answer = .ok answer := by
      apply normalizeAnswer_plain
      · intro batch member
        rw [under.batches batch member, under.reported]
      · rw [under.reported, none]
    cases plain.symm.trans ran
    rw [none, readRows_nil]
  · exact (normalizeAnswer_retyped under none ran).rows

-----------------------------------------------------------------------------------------
-- Several answers
-----------------------------------------------------------------------------------------

/-- A cell re-typed to a scale stays as it is when that is done again. -/
theorem toDecimal_again (scale : Nat) (cell : ScalarValue)
    : ((cell.toDecimal scale).toUtf8 shown).toDecimal scale = cell.toDecimal scale := by
  cases cell with
  | utf8 text =>
      rw [toDecimal_utf8]
      cases cast : decimalOf scale text with
      | none => rfl
      | some unscaled =>
          obtain ⟨_, _, _, small⟩ := decimalOf_eq_some.mp cast
          have again
              : decimalOf scale (String.ofList (print { unscaled, scale })) = some unscaled := by
            apply decimalOf_eq_some.mpr
            refine ⟨{ unscaled, scale }, ?_, ?_, small⟩
            · rw [String.toList_ofList]
              exact read_print _
            · apply rounded_of_value
              rfl
          simp only [toUtf8_decimal128, toDecimal_utf8, again]
  | _ => rfl

/-- It shows the digits of its scale, unless it is a NULL. -/
theorem digits_toDecimal (shown : ScalarValue → String) {scale : Nat} (bounded : scale ≤ 37)
    (cell : ScalarValue)
    : cell.toDecimal scale = .null
      ∨ fractionalDigits ((cell.toDecimal scale).toUtf8 shown) = scale := by
  cases cell with
  | utf8 text =>
      rw [toDecimal_utf8]
      cases decimalOf scale text with
      | none => exact Or.inl rfl
      | some unscaled =>
          have digits := fractionalBytes_of_read (read_print { unscaled, scale })
          right
          simp only [toUtf8_decimal128, fractionalDigits, String.toList_ofList, digits]
          exact Nat.min_eq_left bounded
  | _ => exact Or.inl rfl

/-- Where a column of re-typed rows has one scale, re-typing it again changes nothing. -/
theorem convertCell_settled {columns : List Nat} {rows : List Row} {index scale : Nat}
    (numeric : index ∈ columns) (bounded : scale ≤ 37)
    (typed : ∀ row ∈ rows, ∃ cell : ScalarValue, row.getD index .null = cell.toDecimal scale)
    {row : Row} (member : row ∈ rows)
    : convertCell shown (dataScales shown rows columns) index (row.getD index .null)
      = row.getD index .null := by
  rw [convertCell_numeric numeric]
  obtain ⟨cell, same⟩ := typed row member
  rcases digits_toDecimal shown bounded cell with null | shows
  · rw [same, null]
    rfl
  · have widest : widestScale shown rows index = scale := by
      apply Nat.le_antisymm
      · apply widestScale_le
        intro other inside
        obtain ⟨cell', same'⟩ := typed other inside
        rw [same']
        rcases digits_toDecimal shown bounded cell' with null | shows'
        · rw [null]
          exact Nat.zero_le _
        · exact shows'.le
      · rw [← shows, ← same]
        exact le_widestScale member index
    rw [widest, same]
    exact toDecimal_again scale cell

/-- The rows of one answer are read once. -/
theorem readParts_single (columns : List Nat) (rows : List Row)
    : readParts shown columns [rows] = readRows shown columns rows := by
  rw [readParts, List.flatMap_singleton]
  nth_rewrite 1 [readRows]
  refine (List.map_congr_left (fun row member => ?_)).trans (List.map_id' _)
  apply List.ext_getElem?
  intro index
  simp only [convertRow, List.getElem?_mapIdx]
  cases read : row[index]? with
  | none => rfl
  | some cell =>
      have held : row.getD index .null = cell := by
        rw [List.getD_eq_getElem?_getD, read, Option.getD_some]
      simp only [Option.map_some, Option.some.injEq]
      by_cases numeric : index ∈ columns
      · have typed
            : ∀ other ∈ readRows shown columns rows, ∃ cell : ScalarValue,
                other.getD index .null = cell.toDecimal (widestScale shown rows index) := by
          intro other inside
          obtain ⟨source, _, rfl⟩ := List.mem_map.mp inside
          exact ⟨_, by rw [convertRow_getD, convertCell_numeric numeric]⟩
        rw [← held]
        exact convertCell_settled numeric (widestScale_le_37 _ _) typed member
      · rw [convertCell, lookup_dataScales, if_neg numeric]

/-- Columns that are not settled again are as they are read in all answers; by cases on whether
the column is numeric and settled.
-/
theorem Retyped.convertRow_settled {first : List RecordBatch} {parts : List (List RecordBatch)}
    {outs : List Batches} (partitioned : Retyped shown schema parts outs) {again : List Nat}
    (resettled : Resettled shown schema first parts again) {row : Row}
    (member : row ∈ outs.flatMap Batches.rows)
    : convertRow shown (dataScales shown (outs.flatMap Batches.rows) again) row
      = convertRow shown (dataScales shown (outs.flatMap Batches.rows) (numericColumns schema))
          row := by
  apply List.ext_getElem?
  intro index
  simp only [convertRow, List.getElem?_mapIdx]
  cases read : row[index]? with
  | none => rfl
  | some cell =>
      have held : row.getD index .null = cell := by
        rw [List.getD_eq_getElem?_getD, read, Option.getD_some]
      simp only [Option.map_some]
      congr 1
      by_cases settled : index ∈ again
      · rw [convertCell_numeric settled, convertCell_numeric (resettled.within index settled)]
      · have kept
            : convertCell shown (dataScales shown (outs.flatMap Batches.rows) again) index cell
              = cell := by
          rw [convertCell, lookup_dataScales, if_neg settled]
        rw [kept]
        by_cases numeric : index ∈ numericColumns schema
        · have typed
              : ∀ other ∈ outs.flatMap Batches.rows, ∃ cell : ScalarValue,
                  other.getD index .null
                    = cell.toDecimal (widestScale shown (stream schema first).rows index) := by
            intro other inside
            rw [partitioned.rows] at inside
            obtain ⟨part, among, converted⟩ := List.mem_flatMap.mp inside
            obtain ⟨source, within, rfl⟩ := List.mem_map.mp converted
            have nonempty : part ≠ [] := by
              intro empty
              rw [empty] at within
              simp [stream, Batches.rows] at within
            refine ⟨(source.getD index .null).toUtf8 shown, ?_⟩
            rw [convertRow_getD, convertCell_numeric numeric,
              resettled.agree index numeric settled part among nonempty]
          rw [← held]
          exact (convertCell_settled numeric (widestScale_le_37 _ _) typed member).symm
        · rw [convertCell, lookup_dataScales, if_neg numeric]

/-- What partitions are gathered to. -/
theorem Retyped.gathered_rows {first : List RecordBatch} {rest : List (List RecordBatch)}
    {out : Batches} {outs : List Batches}
    (partitioned : Retyped shown schema (first :: rest) (out :: outs))
    (ran : gatherPartitions shown (out :: outs) = .ok result)
    : result.rows
      = readRows shown (numericColumns schema) ((out :: outs).flatMap Batches.rows) := by
  have settles
      : ∀ batch ∈ (concatenated out outs).batches,
          Settles (concatenated out outs).schema batch.schema := by
    intro batch member
    obtain ⟨part, _, _, same⟩ := partitioned.schema_of_mem member
    rw [same, partitioned.concatenated_schema]
    exact retyped_settles shown schema _ _ _
  obtain ⟨found, spec, reconciled⟩ := reconcileExecuted_settled shown settles
  have resettled := partitioned.resettled spec
  have rows
      : result.rows
        = (concatenated out outs).rows.map
            (convertRow shown (dataScales shown (concatenated out outs).rows found)) := by
    have built : reconcileExecuted shown (concatenated out outs) = .ok result :=
      Except.mapError_eq_ok.mp ran
    rw [reconciled] at built
    cases found with
    | nil =>
        cases built
        exact (readRows_nil _).symm
    | cons index others => exact (rebuildDecimals_spec built).rows
  rw [rows, concatenated_rows]
  exact List.map_congr_left (fun row member => partitioned.convertRow_settled resettled member)

/-- The rows of several answers under one schema as they are read. -/
theorem gatherAnswers_rows (under : ∀ answer ∈ answers, answer.Under schema)
    (ran : gatherAnswers shown answers = .ok result)
    : result.rows = readParts shown (numericColumns schema) (answers.map Batches.rows) := by
  by_cases none : numericColumns schema = []
  · have some : answers.map Batches.batches ≠ [] := by
      intro empty
      rw [List.map_eq_nil_iff.mp empty] at ran
      cases ran
    have batches
        : ∀ part ∈ answers.map Batches.batches, ∀ batch ∈ part, batch.schema = schema := by
      intro part member batch inside
      obtain ⟨answer, held, rfl⟩ := List.mem_map.mp member
      exact (under answer held).batches batch inside
    have plain
        : gatherAnswers shown ((answers.map Batches.batches).map (stream schema)) = .ok _ :=
      gatherAnswers_plain none some batches
    rw [streams_of_under under] at plain
    cases plain.symm.trans ran
    rw [none, readParts_nil, ← List.flatMap_def, stream, Batches.rows, ← List.flatMap_def,
      List.flatMap_assoc]
    rfl
  · obtain ⟨partitions, each, whole⟩ := Except.bind_eq_ok.mp ran
    have rebuilt
        : List.Forall₂
            (fun part out => Rebuilt shown (numericColumns schema) (stream schema part) out)
            (answers.map Batches.batches) partitions := by
      have normalized := Except.mapM_eq_ok each
      clear each whole ran
      induction normalized with
      | nil => exact .nil
      | cons head _ ih =>
          have first := under _ List.mem_cons_self
          refine .cons ?_ (ih (fun other member => under other (List.mem_cons_of_mem _ member)))
          rw [← first.stream]
          exact normalizeAnswer_retyped first none head
    have retyped : Retyped shown schema (answers.map Batches.batches) partitions := ⟨rebuilt⟩
    have rows : partitions.flatMap Batches.rows
        = (answers.map Batches.rows).flatMap (readRows shown (numericColumns schema)) := by
      rw [retyped.rows, List.flatMap_map, List.flatMap_map]
      apply List.flatMap_congr
      intro answer member
      rw [← (under answer member).stream]
      rfl
    cases answers with
    | nil =>
        cases rebuilt
        cases whole
    | cons first rest =>
        cases partitions with
        | nil => cases whole
        | cons out outs => rw [retyped.gathered_rows whole, readParts, rows]

-----------------------------------------------------------------------------------------
-- Numbers that fit
-----------------------------------------------------------------------------------------

/-- Each numeric cell is a NULL or a number that fits the widest scale of its column. -/
def FitRows (shown : ScalarValue → String) (columns : List Nat) (rows : List Row) : Prop :=
  ∀ index ∈ columns, ∀ row ∈ rows,
    row.getD index .null = .null
      ∨ ∃ text, row.getD index .null = .utf8 text
          ∧ FitsScale (widestScale shown rows index) text

/-- Rows among others fit where these do. -/
theorem FitRows.mono {columns : List Nat} {rows others : List Row}
    (fits : FitRows shown columns others) (members : ∀ row ∈ rows, row ∈ others)
    : FitRows shown columns rows := by
  intro index numeric row member
  rcases fits index numeric row (members row member) with null | ⟨text, shows, fit⟩
  · exact Or.inl null
  · have wide : fractionalDigits ((row.getD index .null).toUtf8 shown)
        ≤ widestScale shown rows index := le_widestScale member index
    rw [shows] at wide
    exact Or.inr ⟨text, shows,
      fit.narrow (widestScale_mono index members) wide (widestScale_le_37 _ _)⟩

/-- An answer of numbers that fit is a numeric result, all whose numbers can be represented. -/
theorem FitRows.numericResult (under : answer.Under schema)
    (fits : FitRows shown (numericColumns schema) answer.rows)
    : NumericResult answer where
  batches batch member := (under.batches batch member).trans under.reported.symm
  texts index numeric row member := by
    rw [under.reported] at numeric
    rcases fits index numeric row member with null | ⟨text, shows, _, value, _⟩
    · exact Or.inl null
    · obtain ⟨x, reads, _⟩ := Option.map_eq_some_iff.mp value
      exact Or.inr ⟨text, shows, Or.inl ⟨x, reads⟩⟩

theorem FitRows.representable (under : answer.Under schema)
    (fits : FitRows shown (numericColumns schema) answer.rows)
    : Representable shown answer := by
  intro index numeric row member text shows
  rw [under.reported] at numeric
  rcases fits index numeric row member with null | ⟨other, shows', fit⟩
  · rw [null] at shows
    cases shows
  · rw [shows'] at shows
    cases shows
    exact fit

/-- Several answers whose numbers fit together are read as one answer with all their rows. -/
theorem gatherAnswers_rows_fit (under : ∀ answer ∈ answers, answer.Under schema)
    (fits : FitRows shown (numericColumns schema) (answers.flatMap Batches.rows))
    (ran : gatherAnswers shown answers = .ok result)
    : result.rows = readRows shown (numericColumns schema) (answers.flatMap Batches.rows) := by
  have some : answers.map Batches.batches ≠ [] := by
    intro empty
    rw [List.map_eq_nil_iff.mp empty] at ran
    cases ran
  have batches
      : ∀ part ∈ answers.map Batches.batches, ∀ batch ∈ part, batch.schema = schema := by
    intro part member batch inside
    obtain ⟨answer, held, rfl⟩ := List.mem_map.mp member
    exact (under answer held).batches batch inside
  have whole : (stream schema (answers.map Batches.batches).flatten).Under schema := by
    refine ⟨rfl, ?_⟩
    intro batch member
    obtain ⟨part, held, inside⟩ := List.mem_flatten.mp member
    exact batches part held batch inside
  have rows
      : (stream schema (answers.map Batches.batches).flatten).rows
        = answers.flatMap Batches.rows := by
    rw [stream, Batches.rows, ← List.flatMap_def, List.flatMap_assoc]
    rfl
  rw [← rows] at fits
  obtain ⟨gathered, one, gathers, normalizes, _, _, _, same⟩ :=
    gatherAnswers_eq_single shown schema (answers.map Batches.batches) _ some batches (.refl _)
      (fits.numericResult whole) (fits.representable whole)
  rw [streams_of_under under] at gathers
  cases gathers.symm.trans ran
  rw [same rfl, normalizeAnswer_rows whole normalizes, rows]

end Answers

-----------------------------------------------------------------------------------------
-- Values
-----------------------------------------------------------------------------------------

/-- What a cell stands for: a decimal for its number, any other cell for itself. -/
inductive CellValue
  | number (value : ℚ)
  | cell (value : ScalarValue)
deriving DecidableEq

/-- The value of a cell of a relation. -/
def ScalarValue.value : ScalarValue → CellValue
  | .decimal128 unscaled _ scale => .number ((unscaled : ℚ) / (10 : ℚ) ^ scale)
  | other => .cell other

/-- The value of a cell as a source has it: in a numeric column a text stands for its number. -/
def ScalarValue.sourceValue (numeric : Bool) (cell : ScalarValue) : CellValue :=
  match numeric, cell with
  | true, .utf8 text =>
      match textValue text with
      | some value => .number value
      | none => .cell (.utf8 text)
  | _, other => other.value

/-- The values of a row of a relation. -/
def rowValues (row : Row) : List CellValue := row.map ScalarValue.value

/-- The values of the rows of a relation. -/
def Batches.values (relation : Batches) : List (List CellValue) := relation.rows.map rowValues

/-- The values of a row as a source has it, with these numeric columns. -/
def sourceValues (columns : List Nat) (row : Row) : List CellValue :=
  row.mapIdx (fun index cell => cell.sourceValue (columns.contains index))

theorem sourceValue_false (cell : ScalarValue) : cell.sourceValue false = cell.value := by
  cases cell <;> rfl

theorem sourceValue_null (numeric : Bool) : ScalarValue.null.sourceValue numeric = .cell .null := by
  cases numeric <;> rfl

/-- A number that fits a scale keeps its value. -/
theorem FitsScale.value {scale : Nat} {text : String} (fits : FitsScale scale text)
    : ((ScalarValue.utf8 text).toDecimal scale).value
      = (ScalarValue.utf8 text).sourceValue true := by
  obtain ⟨unscaled, value, small⟩ := fits
  obtain ⟨x, reads, whole⟩ := Option.map_eq_some_iff.mp value
  have cast : decimalOf scale text = some unscaled :=
    decimalOf_eq_some.mpr ⟨x, reads, rounded_of_value whole, small⟩
  rw [toDecimal_utf8, cast]
  simp only [ScalarValue.sourceValue, value, ScalarValue.value, zpow_natCast]

/-- Rows of numbers that fit keep their values when they are read; by cases on whether the column
is numeric and the cell a NULL.
-/
theorem FitRows.values {columns : List Nat} {rows : List Row} (fits : FitRows shown columns rows)
    : (readRows shown columns rows).map rowValues = rows.map (sourceValues columns) := by
  rw [readRows, List.map_map]
  refine List.map_congr_left (fun row member => ?_)
  apply List.ext_getElem?
  intro index
  simp only [Function.comp_apply, rowValues, sourceValues, convertRow, List.getElem?_map,
    List.getElem?_mapIdx]
  cases read : row[index]? with
  | none => rfl
  | some cell =>
      have held : row.getD index .null = cell := by
        rw [List.getD_eq_getElem?_getD, read, Option.getD_some]
      simp only [Option.map_some, Option.some.injEq]
      by_cases numeric : index ∈ columns
      · rw [convertCell_numeric numeric, List.contains_iff_mem.mpr numeric]
        rcases fits index numeric row member with null | ⟨text, shows, fit⟩
        · rw [← held, null, sourceValue_null]
          rfl
        · rw [← held, shows]
          exact fit.value
      · have outside : columns.contains index = false := by simpa using numeric
        rw [convertCell, lookup_dataScales, if_neg numeric, outside, sourceValue_false]

end Fedqrs
