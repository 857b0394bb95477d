import Fedqrs.Correctness.NumericExact

/-! Partitions re-typed on their own and reconciled give what one stream gives. -/

namespace Fedqrs

open DecimalText

variable {shown : ScalarValue → String}

-----------------------------------------------------------------------------------------
-- Through an intermediate scale
-----------------------------------------------------------------------------------------

section Cells

variable {scale middle : Nat} {text : String}

/-- A text that fits a scale fits each smaller one that holds all its digits. -/
theorem FitsScale.narrow (fits : FitsScale scale text) (le : middle ≤ scale)
    (wide : fractionalDigits (.utf8 text) ≤ middle) (bounded : scale ≤ 37)
    : FitsScale middle text := by
  obtain ⟨unscaled, value, small⟩ := fits
  obtain ⟨x, reads, whole⟩ := Option.map_eq_some_iff.mp value
  have digits := fractionalBytes_of_read reads
  rcases Nat.lt_or_ge 37 x.scale with long | short
  · have last : middle = scale := by
      simp only [fractionalDigits, digits] at wide
      omega
    rw [last]
    exact ⟨unscaled, value, small⟩
  · have enough : x.scale ≤ middle := by
      simp only [fractionalDigits, digits] at wide
      omega
    refine ⟨x.rounded middle, ?_, ?_⟩
    · rw [rounded_of_le enough]
      simp [textValue, reads]
    · have same : x.rounded scale = unscaled := rounded_of_value whole
      have steps : x.rounded scale = x.rounded middle * 10 ^ (scale - middle) := by
        simp only [Numeral.rounded, enough, enough.trans le, if_true, mul_assoc, ← pow_add]
        congr 2
        omega
      have grows : (x.rounded middle).natAbs ≤ unscaled.natAbs := by
        rw [← same, steps, Int.natAbs_mul, Int.natAbs_pow]
        exact Nat.le_mul_of_pos_right _ (Nat.pow_pos (by decide))
      exact grows.trans_lt small

/-- A text that fits is cast to its number at the scale. -/
theorem FitsScale.toDecimal (fits : FitsScale scale text)
    : ∃ x, read text.toList = some x
        ∧ decimalOf scale text = some (x.rounded scale)
        ∧ (ScalarValue.utf8 text).toDecimal scale
          = .decimal128 (x.rounded scale) decimalPrecision scale := by
  obtain ⟨unscaled, value, small⟩ := fits
  obtain ⟨x, reads, whole⟩ := Option.map_eq_some_iff.mp value
  have same : x.rounded scale = unscaled := rounded_of_value whole
  have cast : decimalOf scale text = some (x.rounded scale) :=
    decimalOf_eq_some.mpr ⟨x, reads, rfl, same ▸ small⟩
  exact ⟨x, reads, cast, by rw [toDecimal_utf8, cast]⟩

/-- A decimal is printed with its scale's number of digits. -/
theorem toUtf8_decimal128 (unscaled : Int) (scale : Nat)
    : (ScalarValue.decimal128 unscaled decimalPrecision scale).toUtf8 shown
      = .utf8 (String.ofList (print { unscaled, scale })) := by
  simp [ScalarValue.toUtf8]

/-- A converted text shows all digits of the scale it was converted to. -/
theorem FitsScale.fractionalDigits (shown : ScalarValue → String) (fits : FitsScale scale text)
    (bounded : scale ≤ 37)
    : Fedqrs.fractionalDigits (((ScalarValue.utf8 text).toDecimal scale).toUtf8 shown)
      = scale := by
  obtain ⟨x, _, _, cast⟩ := fits.toDecimal
  have digits := fractionalBytes_of_read (read_print { unscaled := x.rounded scale, scale })
  rw [cast, toUtf8_decimal128, Fedqrs.fractionalDigits, String.toList_ofList, digits]
  exact Nat.min_eq_left bounded

/-- Converting to a scale that holds all digits first changes nothing. -/
theorem FitsScale.toDecimal_twice (fits : FitsScale scale text) (le : middle ≤ scale)
    (wide : Fedqrs.fractionalDigits (.utf8 text) ≤ middle) (bounded : scale ≤ 37)
    : (((ScalarValue.utf8 text).toDecimal middle).toUtf8 shown).toDecimal scale
      = (ScalarValue.utf8 text).toDecimal scale := by
  obtain ⟨x, reads, _, first⟩ := (fits.narrow le wide bounded).toDecimal
  obtain ⟨x', reads', once, direct⟩ := fits.toDecimal
  have same : x' = x := by simpa [reads] using reads'.symm
  subst same
  have digits := fractionalBytes_of_read reads
  have enough : x'.scale ≤ middle ∨ middle = scale := by
    simp only [Fedqrs.fractionalDigits, digits] at wide
    omega
  have again
      : decimalOf scale (String.ofList (print { unscaled := x'.rounded middle, scale := middle }))
        = some (x'.rounded scale) := by
    apply decimalOf_eq_some.mpr
    refine ⟨{ unscaled := x'.rounded middle, scale := middle }, ?_, rounded_rounded le enough, ?_⟩
    · rw [String.toList_ofList]
      exact read_print _
    · obtain ⟨_, _, _, small⟩ := decimalOf_eq_some.mp once
      exact small
  rw [first, direct, toUtf8_decimal128, toDecimal_utf8, again]

end Cells

-----------------------------------------------------------------------------------------
-- Widest scales
-----------------------------------------------------------------------------------------

/-- A bound on every row's digits bounds the widest ones. -/
theorem widestScale_le {rows : List Row} {index bound : Nat}
    (each : ∀ row ∈ rows, fractionalDigits ((row.getD index .null).toUtf8 shown) ≤ bound)
    : widestScale shown rows index ≤ bound := by
  induction rows with
  | nil => exact Nat.zero_le bound
  | cons head rest ih =>
      have first := each head (by simp)
      have others := ih (fun row member => each row (by simp [member]))
      exact Nat.max_le.mpr ⟨first, others⟩

/-- Rows among others are no wider. -/
theorem widestScale_mono {rows others : List Row} (index : Nat)
    (members : ∀ row ∈ rows, row ∈ others)
    : widestScale shown rows index ≤ widestScale shown others index :=
  widestScale_le (fun row member => le_widestScale (members row member) index)

theorem fractionalDigits_le (cell : ScalarValue) : fractionalDigits cell ≤ 37 := by
  cases cell with
  | utf8 text => exact Nat.min_le_right _ _
  | _ => exact Nat.zero_le _

theorem widestScale_le_37 (rows : List Row) (index : Nat)
    : widestScale shown rows index ≤ 37 :=
  widestScale_le (fun _ _ => fractionalDigits_le _)

/-- A positive widest scale is shown by some row, by induction over the rows. -/
theorem exists_widest {rows : List Row} {index : Nat}
    (positive : 0 < widestScale shown rows index)
    : ∃ row ∈ rows, fractionalDigits ((row.getD index .null).toUtf8 shown)
        = widestScale shown rows index := by
  induction rows with
  | nil => exact absurd positive (Nat.lt_irrefl 0)
  | cons head rest ih =>
      have split : widestScale shown (head :: rest) index
          = max (fractionalDigits ((head.getD index .null).toUtf8 shown))
              (widestScale shown rest index) := rfl
      rw [split] at positive ⊢
      rcases Nat.le_total (widestScale shown rest index)
          (fractionalDigits ((head.getD index .null).toUtf8 shown)) with small | large
      · exact ⟨head, by simp, (Nat.max_eq_left small).symm⟩
      · rw [Nat.max_eq_right large] at positive ⊢
        obtain ⟨row, member, same⟩ := ih positive
        exact ⟨row, by simp [member], same⟩

-----------------------------------------------------------------------------------------
-- Disagreements
-----------------------------------------------------------------------------------------

/-- Each reported column is executed at its type, or both types are decimals. -/
def Settles (reported executed : Schema) : Prop :=
  ∀ (index : Nat) (field : Field), reported.fields[index]? = some field
    → ∃ other : Field, executed.fields[index]? = some other
      ∧ (other.dataType = field.dataType
        ∨ (field.dataType.isDecimal128 = true ∧ other.dataType.isDecimal128 = true))

/-- A column is executed at another type than reported. -/
def Differs (reported executed : Schema) (index : Nat) : Prop :=
  ∃ field other : Field, reported.fields[index]? = some field
    ∧ executed.fields[index]? = some other ∧ other.dataType ≠ field.dataType

/-- From an index on, the columns where the types differ are added; by induction over the
fields from there on.
-/
theorem collectDecimalDisagreements_spec {reported executed : Schema}
    (settles : Settles reported executed) {fields : List Field} {start : Nat}
    (decimals : List Nat)
    (suffix : ∀ offset : Nat, fields[offset]? = reported.fields[start + offset]?)
    : ∃ found, collectDecimalDisagreements executed fields start decimals = .ok found
        ∧ ∀ index, index ∈ found
            ↔ index ∈ decimals ∨ (start ≤ index ∧ Differs reported executed index) := by
  induction fields generalizing start decimals with
  | nil =>
      refine ⟨decimals, rfl, ?_⟩
      intro index
      constructor
      · exact Or.inl
      · intro held
        rcases held with held | ⟨le, field, other, declared, _⟩
        · exact held
        · have none := suffix (index - start)
          rw [Nat.add_sub_cancel' le, declared] at none
          cases none
  | cons field rest ih =>
      have declared : reported.fields[start]? = some field := (suffix 0).symm
      obtain ⟨other, executedAs, settled⟩ := settles start field declared
      have later : ∀ offset : Nat, rest[offset]? = reported.fields[start + 1 + offset]? := by
        intro offset
        have shifted := suffix (offset + 1)
        rw [List.getElem?_cons_succ] at shifted
        rw [shifted]
        congr 1
        omega
      unfold collectDecimalDisagreements
      rw [executedAs]
      by_cases same : other.dataType = field.dataType
      · obtain ⟨found, ran, spec⟩ := ih decimals later
        refine ⟨found, by simp [same, ran], ?_⟩
        intro index
        rw [spec]
        have here : ¬ Differs reported executed start := by
          intro differs
          obtain ⟨field', other', declared', executed', ne⟩ := differs
          rw [declared] at declared'
          rw [executedAs] at executed'
          cases declared'
          cases executed'
          exact ne same
        constructor
        · intro held
          rcases held with held | ⟨le, differs⟩
          · exact Or.inl held
          · exact Or.inr ⟨by omega, differs⟩
        · intro held
          rcases held with held | ⟨le, differs⟩
          · exact Or.inl held
          · rcases Nat.lt_or_eq_of_le le with lt | rfl
            · exact Or.inr ⟨lt, differs⟩
            · exact absurd differs here
      · have decimal : (field.dataType.isDecimal128 && other.dataType.isDecimal128) = true := by
          rcases settled with equal | both
          · exact absurd equal same
          · simp [both.1, both.2]
        obtain ⟨found, ran, spec⟩ :=
          ih (if decimals.contains start then decimals else decimals ++ [start]) later
        refine ⟨found, by simp only [same, if_false, decimal, if_true, ran], ?_⟩
        intro index
        have recorded
            : index ∈ (if decimals.contains start then decimals else decimals ++ [start])
              ↔ index ∈ decimals ∨ index = start := by
          by_cases known : start ∈ decimals
          · rw [if_pos (by simpa using known)]
            constructor
            · exact Or.inl
            · intro held
              rcases held with held | rfl
              · exact held
              · exact known
          · rw [if_neg (by simpa using known)]
            simp
        rw [spec, recorded]
        constructor
        · intro held
          rcases held with (held | rfl) | ⟨le, differs⟩
          · exact Or.inl held
          · exact Or.inr ⟨Nat.le_refl _, field, other, declared, executedAs, same⟩
          · exact Or.inr ⟨by omega, differs⟩
        · intro held
          rcases held with held | ⟨le, differs⟩
          · exact Or.inl (Or.inl held)
          · rcases Nat.lt_or_eq_of_le le with lt | rfl
            · exact Or.inr ⟨lt, differs⟩
            · exact Or.inl (Or.inr rfl)

/-- No column differs from itself. -/
theorem not_differs_self (schema : Schema) (index : Nat) : ¬ Differs schema schema index := by
  intro differs
  obtain ⟨field, other, declared, executed, ne⟩ := differs
  rw [declared] at executed
  cases executed
  exact ne rfl

/-- The columns found are those where some batch differs, by induction over the batches. -/
theorem decimalDisagreements_spec {schema : Schema} {batches : List RecordBatch}
    (settles : ∀ batch ∈ batches, Settles schema batch.schema) (decimals : List Nat)
    : ∃ found, decimalDisagreements schema batches decimals = .ok found
        ∧ ∀ index, index ∈ found
            ↔ index ∈ decimals ∨ ∃ batch ∈ batches, Differs schema batch.schema index := by
  induction batches generalizing decimals with
  | nil => exact ⟨decimals, rfl, by simp⟩
  | cons batch rest ih =>
      have others := fun other member => settles other (List.mem_cons_of_mem batch member)
      unfold decimalDisagreements
      by_cases same : batch.schema = schema
      · obtain ⟨found, ran, spec⟩ := ih others decimals
        refine ⟨found, by simp [same, ran], ?_⟩
        intro index
        simp [spec, same, not_differs_self]
      · obtain ⟨more, first, collected⟩ :=
          collectDecimalDisagreements_spec (settles batch (by simp)) decimals
            (fun offset => by rw [Nat.zero_add])
        obtain ⟨found, ran, spec⟩ := ih others more
        refine ⟨found, ?_, ?_⟩
        · rw [if_neg same, first]
          exact ran
        · intro index
          rw [spec, collected]
          simp [or_assoc]

/-- Reconciliation rebuilds the columns where some batch differs, if there is one. -/
theorem reconcileExecuted_settled (shown : ScalarValue → String) {relation : Batches}
    (settles : ∀ batch ∈ relation.batches, Settles relation.schema batch.schema)
    : ∃ found : List Nat,
        (∀ index, index ∈ found
          ↔ ∃ batch ∈ relation.batches, Differs relation.schema batch.schema index)
        ∧ reconcileExecuted shown relation
          = if found.isEmpty then .ok relation else rebuildDecimals shown relation found := by
  obtain ⟨found, ran, spec⟩ := decimalDisagreements_spec settles []
  refine ⟨found, by simpa using spec, ?_⟩
  unfold reconcileExecuted
  rw [ran]
  rfl

/-- The columns found can be re-typed, since all other columns agree. -/
theorem rebuildable_of_settles {relation : Batches} {found : List Nat}
    (settles : ∀ batch ∈ relation.batches, Settles relation.schema batch.schema)
    (counts
      : ∀ batch ∈ relation.batches,
          batch.schema.fields.length = relation.schema.fields.length)
    (spec
      : ∀ index, index ∈ found
          ↔ ∃ batch ∈ relation.batches, Differs relation.schema batch.schema index)
    (some : found ≠ [])
    : Rebuildable found relation where
  nonempty := some
  within index member := by
    obtain ⟨batch, _, field, other, declared, _, _⟩ := (spec index).mp member
    exact (List.getElem?_eq_some_iff.mp declared).1
  counts batch member := by
    have same := congrArg List.length batch.types
    simp only [Schema.types, List.length_map] at same
    rw [same, counts batch member]
  types batch member index outside := by
    simp only [Schema.types, List.getElem?_map]
    cases declared : relation.schema.fields[index]? with
    | none =>
        have none : batch.schema.fields[index]? = none := by
          rw [List.getElem?_eq_none_iff] at declared ⊢
          rw [counts batch member]
          exact declared
        rw [none]
    | some field =>
        obtain ⟨other, executed, _⟩ := settles batch member index field declared
        rw [executed]
        by_cases same : other.dataType = field.dataType
        · simp [same]
        · have differs : Differs relation.schema batch.schema index :=
            ⟨field, other, declared, executed, same⟩
          exact absurd ((spec index).mpr ⟨batch, member, differs⟩) outside

section Retyped

variable {schema : Schema} {columns : List Nat} {rows others : List Row}

/-- A field of a schema re-typed to the scales of some rows. -/
theorem retyped_getElem? (shown : ScalarValue → String) (schema : Schema) (rows : List Row)
    (columns : List Nat) (index : Nat)
    : (decimalSchema schema (dataScales shown rows columns)).fields[index]?
      = (schema.fields[index]?).map (fun field =>
          if index ∈ columns then
            .new field.name (.decimal128 decimalPrecision (widestScale shown rows index))
              field.nullable
          else
            field) := by
  rw [decimalSchema_getElem?, lookup_dataScales]
  by_cases member : index ∈ columns
  · simp only [member, if_true]
  · simp only [member, if_false]

theorem retyped_length (shown : ScalarValue → String) (schema : Schema) (rows : List Row)
    (columns : List Nat)
    : (decimalSchema schema (dataScales shown rows columns)).fields.length
      = schema.fields.length := by
  simp [decimalSchema, Schema.new]

/-- Re-typed schemas of one table differ in the scales of decimals only. -/
theorem retyped_settles (shown : ScalarValue → String) (schema : Schema) (columns : List Nat)
    (rows others : List Row)
    : Settles (decimalSchema schema (dataScales shown rows columns))
        (decimalSchema schema (dataScales shown others columns)) := by
  intro index field declared
  rw [retyped_getElem?] at declared ⊢
  obtain ⟨source, found, rfl⟩ := Option.map_eq_some_iff.mp declared
  rw [found]
  refine ⟨_, rfl, ?_⟩
  by_cases member : index ∈ columns
  · simp only [member, if_true]
    exact Or.inr ⟨rfl, rfl⟩
  · simp only [member, if_false]
    exact Or.inl trivial

/-- Re-typed schemas differ in a column that is re-typed to two scales. -/
theorem retyped_differs {index : Nat} {source : Field}
    (found : schema.fields[index]? = some source)
    : Differs (decimalSchema schema (dataScales shown rows columns))
          (decimalSchema schema (dataScales shown others columns)) index
      ↔ index ∈ columns
          ∧ widestScale shown others index ≠ widestScale shown rows index := by
  unfold Differs
  simp only [retyped_getElem?, found, Option.map_some, Option.some.injEq]
  by_cases member : index ∈ columns
  · simp [member, Field.new]
  · simp [member]

/-- The scales are derived again for some of the columns, the others keep theirs. -/
theorem retyped_twice {first second final : List Row} {again : List Nat}
    (within : ∀ index ∈ again, index ∈ columns)
    (renewed
      : ∀ index ∈ again, widestScale shown second index = widestScale shown final index)
    (kept
      : ∀ index ∈ columns, index ∉ again
          → widestScale shown first index = widestScale shown final index)
    : decimalSchema (decimalSchema schema (dataScales shown first columns))
          (dataScales shown second again)
      = decimalSchema schema (dataScales shown final columns) := by
  have fields
      : (decimalSchema (decimalSchema schema (dataScales shown first columns))
            (dataScales shown second again)).fields
        = (decimalSchema schema (dataScales shown final columns)).fields := by
    apply List.ext_getElem?
    intro index
    rw [retyped_getElem?, retyped_getElem?, retyped_getElem?, Option.map_map]
    congr 1
    funext field
    by_cases member : index ∈ again
    · simp [member, within index member, renewed index member, Field.new]
    · by_cases numeric : index ∈ columns
      · simp [member, numeric, kept index numeric member]
      · simp [member, numeric]
  exact congrArg Schema.new fields

end Retyped

-----------------------------------------------------------------------------------------
-- One stream
-----------------------------------------------------------------------------------------

/-- Batches under a reported schema. -/
def stream (schema : Schema) (batches : List RecordBatch) : Batches := { schema, batches }

/-- A relation whose batches have its schema is reconciled as it is. -/
theorem reconcileExecuted_same {relation : Batches}
    (same : ∀ batch ∈ relation.batches, batch.schema = relation.schema)
    : reconcileExecuted shown relation = .ok relation := by
  have settles : ∀ batch ∈ relation.batches, Settles relation.schema batch.schema := by
    intro batch member index field declared
    rw [same batch member]
    exact ⟨field, declared, Or.inl rfl⟩
  obtain ⟨found, spec, ran⟩ := reconcileExecuted_settled shown settles
  have none : found = [] := by
    apply List.eq_nil_iff_forall_not_mem.mpr
    intro index member
    obtain ⟨batch, held, differs⟩ := (spec index).mp member
    rw [same batch held] at differs
    exact not_differs_self _ index differs
  rw [ran, none]
  rfl

/-- Numbers that fit are never refused. -/
theorem Representable.accepted {relation : Batches} (fits : Representable shown relation)
    : ¬ Refused shown relation := by
  intro refused
  obtain ⟨index, numeric, _, _, _, row, member, text, shows, range⟩ := refused
  obtain ⟨x, _, cast, _⟩ := (fits index numeric row member text shows).toDecimal
  rw [decimalOf_eq_none.mpr range] at cast
  cases cast

/-- A stream of numbers that fit is re-typed to the scales of its own rows. -/
theorem normalizeAnswer_rebuilt {relation : Batches} (result : NumericResult relation)
    (some : numericColumns relation.schema ≠ []) (fits : Representable shown relation)
    : ∃ normalized, normalizeAnswer shown relation = .ok normalized
        ∧ Rebuilt shown (numericColumns relation.schema) relation normalized := by
  have nullFree := result.nullFree_iff.mpr fits.accepted
  obtain ⟨normalized, ran⟩ :=
    (rebuildDecimals_ok_iff shown (result.rebuildable some)).mpr nullFree
  have rebuilt := rebuildDecimals_spec ran
  have same : ∀ batch ∈ normalized.batches, batch.schema = normalized.schema := by
    intro batch member
    obtain ⟨_, _, schema, _⟩ := forall₂_right rebuilt.batches member
    exact schema
  refine ⟨normalized, ?_, rebuilt⟩
  have normalizes : normalizeNumeric shown relation = .ok normalized := by
    have some' : (numericColumns relation.schema).isEmpty = false := by simpa using some
    rw [normalizeNumeric]
    simp only [some', Bool.false_eq_true, if_false, ran]
  rw [normalizeAnswer, normalizes]
  change (reconcileExecuted shown normalized).mapError _ = _
  rw [reconcileExecuted_same same]
  rfl

/-- Without numeric columns a stream is taken as it is. -/
theorem normalizeAnswer_plain {relation : Batches}
    (same : ∀ batch ∈ relation.batches, batch.schema = relation.schema)
    (none : numericColumns relation.schema = [])
    : normalizeAnswer shown relation = .ok relation := by
  have normalizes : normalizeNumeric shown relation = .ok relation := by
    simp [normalizeNumeric, none]
  rw [normalizeAnswer, normalizes]
  change (reconcileExecuted shown relation).mapError _ = _
  rw [reconcileExecuted_same same]
  rfl

-----------------------------------------------------------------------------------------
-- Partitions
-----------------------------------------------------------------------------------------

/-- Partitions of one table, each re-typed to the scales of its own rows. -/
structure Retyped (shown : ScalarValue → String) (schema : Schema)
    (parts : List (List RecordBatch)) (outs : List Batches)
    : Prop where
  rebuilt : List.Forall₂
    (fun part out => Rebuilt shown (numericColumns schema) (stream schema part) out) parts outs

/-- They are those of a table whose numbers fit the scales of all its rows. -/
structure Partitioned (shown : ScalarValue → String) (schema : Schema)
    (parts : List (List RecordBatch)) (outs : List Batches)
    : Prop
    extends Retyped shown schema parts outs where
  result : NumericResult (stream schema parts.flatten)
  fits : Representable shown (stream schema parts.flatten)

section Partitions

variable {schema : Schema} {parts : List (List RecordBatch)} {outs : List Batches}

/-- Rows of a partition are rows of the table. -/
theorem mem_stream_flatten {part : List RecordBatch} (member : part ∈ parts) {row : Row}
    (inside : row ∈ (stream schema part).rows)
    : row ∈ (stream schema parts.flatten).rows := by
  obtain ⟨batch, held, read⟩ := List.mem_flatMap.mp inside
  exact List.mem_flatMap.mpr ⟨batch, List.mem_flatten.mpr ⟨part, member, held⟩, read⟩

/-- Every row of the table is one of a partition. -/
theorem exists_part {row : Row} (inside : row ∈ (stream schema parts.flatten).rows)
    : ∃ part ∈ parts, row ∈ (stream schema part).rows := by
  obtain ⟨batch, held, read⟩ := List.mem_flatMap.mp inside
  obtain ⟨part, member, within⟩ := List.mem_flatten.mp held
  exact ⟨part, member, List.mem_flatMap.mpr ⟨batch, within, read⟩⟩

theorem widestScale_part {part : List RecordBatch} (member : part ∈ parts) (index : Nat)
    : widestScale shown (stream schema part).rows index
      ≤ widestScale shown (stream schema parts.flatten).rows index :=
  widestScale_mono index (fun _ inside => mem_stream_flatten member inside)

/-- The concatenated rows, each partition's converted to its own scales. -/
theorem Retyped.rows (partitioned : Retyped shown schema parts outs)
    : outs.flatMap Batches.rows
      = parts.flatMap (fun part =>
          (stream schema part).rows.map
            (convertRow shown
              (dataScales shown (stream schema part).rows (numericColumns schema)))) := by
  have rebuilt := partitioned.rebuilt
  clear partitioned
  induction rebuilt with
  | nil => rfl
  | cons head _ ih =>
      rw [List.flatMap_cons, List.flatMap_cons, ih, head.rows]

/-- The cell a partition's row holds in a numeric column: NULL, or a text that fits the
scale of the whole table and whose digits the partition's own scale holds.
-/
theorem Partitioned.cell (partitioned : Partitioned shown schema parts outs)
    {part : List RecordBatch} (member : part ∈ parts) {row : Row}
    (inside : row ∈ (stream schema part).rows) {index : Nat}
    (numeric : index ∈ numericColumns schema)
    : row.getD index .null = .null
      ∨ ∃ text, row.getD index .null = .utf8 text
          ∧ FitsScale (widestScale shown (stream schema parts.flatten).rows index) text
          ∧ fractionalDigits (.utf8 text)
            ≤ widestScale shown (stream schema part).rows index := by
  have whole := mem_stream_flatten member inside
  rcases partitioned.result.texts index numeric row whole with null | ⟨text, shows, _⟩
  · exact Or.inl null
  · have shown' : fractionalDigits ((row.getD index .null).toUtf8 shown)
        ≤ widestScale shown (stream schema part).rows index := le_widestScale inside index
    rw [shows] at shown'
    exact Or.inr ⟨text, shows, partitioned.fits index numeric row whole text shows, shown'⟩

/-- Converting to a partition's scale first changes nothing. -/
theorem Partitioned.cell_twice (partitioned : Partitioned shown schema parts outs)
    {part : List RecordBatch} (member : part ∈ parts) {row : Row}
    (inside : row ∈ (stream schema part).rows) {index : Nat}
    (numeric : index ∈ numericColumns schema)
    : ((((row.getD index .null).toUtf8 shown).toDecimal
          (widestScale shown (stream schema part).rows index)).toUtf8 shown).toDecimal
            (widestScale shown (stream schema parts.flatten).rows index)
      = ((row.getD index .null).toUtf8 shown).toDecimal
          (widestScale shown (stream schema parts.flatten).rows index) := by
  rcases partitioned.cell member inside numeric with null | ⟨text, shows, fits, wide⟩
  · rw [null]
    rfl
  · rw [shows]
    exact fits.toDecimal_twice (widestScale_part member index) wide (widestScale_le_37 _ _)

/-- What a converted row shows is the scale of its partition, or nothing. -/
theorem Partitioned.digits (partitioned : Partitioned shown schema parts outs)
    {part : List RecordBatch} (member : part ∈ parts) {row : Row}
    (inside : row ∈ (stream schema part).rows) {index : Nat}
    (numeric : index ∈ numericColumns schema)
    : fractionalDigits
          (((((row.getD index .null).toUtf8 shown).toDecimal
            (widestScale shown (stream schema part).rows index))).toUtf8 shown)
        ≤ widestScale shown (stream schema part).rows index
      ∧ fractionalDigits ((row.getD index .null).toUtf8 shown)
        ≤ fractionalDigits
          (((((row.getD index .null).toUtf8 shown).toDecimal
            (widestScale shown (stream schema part).rows index))).toUtf8 shown) := by
  rcases partitioned.cell member inside numeric with null | ⟨text, shows, fits, wide⟩
  · rw [null]
    exact ⟨Nat.zero_le _, Nat.zero_le _⟩
  · have narrow := fits.narrow (widestScale_part member index) wide (widestScale_le_37 _ _)
    have digits := narrow.fractionalDigits shown (widestScale_le_37 _ _)
    rw [shows]
    change fractionalDigits ((((ScalarValue.utf8 text).toDecimal _)).toUtf8 shown) ≤ _
      ∧ fractionalDigits (.utf8 text)
        ≤ fractionalDigits ((((ScalarValue.utf8 text).toDecimal _)).toUtf8 shown)
    rw [digits]
    exact ⟨Nat.le_refl _, wide⟩

/-- The concatenated rows have the widest scale of the table. -/
theorem Partitioned.widest (partitioned : Partitioned shown schema parts outs) {index : Nat}
    (numeric : index ∈ numericColumns schema)
    : widestScale shown (outs.flatMap Batches.rows) index
      = widestScale shown (stream schema parts.flatten).rows index := by
  have converted (part : List RecordBatch) (row : Row)
      : (convertRow shown (dataScales shown (stream schema part).rows (numericColumns schema))
          row).getD index .null
        = ((row.getD index .null).toUtf8 shown).toDecimal
            (widestScale shown (stream schema part).rows index) := by
    rw [convertRow_getD, convertCell_numeric numeric]
  rw [partitioned.rows]
  apply Nat.le_antisymm
  · apply widestScale_le
    intro row member
    obtain ⟨part, held, inside⟩ := List.mem_flatMap.mp member
    obtain ⟨source, read, rfl⟩ := List.mem_map.mp inside
    rw [converted]
    exact (partitioned.digits held read numeric).1.trans (widestScale_part held index)
  · rcases Nat.eq_zero_or_pos (widestScale shown (stream schema parts.flatten).rows index) with
      zero | positive
    · omega
    · obtain ⟨row, member, same⟩ := exists_widest positive
      obtain ⟨part, held, inside⟩ := exists_part member
      rw [← same]
      refine (partitioned.digits held inside numeric).2.trans ?_
      rw [← converted]
      apply le_widestScale
      exact List.mem_flatMap.mpr ⟨part, held, List.mem_map_of_mem inside⟩

/-- Where every partition with batches has the scale of the first one, that is the scale of
the whole table.
-/
theorem widestScale_agreed {first : List RecordBatch} (head : first ∈ parts) {index : Nat}
    (agree : ∀ part ∈ parts, part ≠ [] → widestScale shown (stream schema part).rows index
      = widestScale shown (stream schema first).rows index)
    : widestScale shown (stream schema first).rows index
      = widestScale shown (stream schema parts.flatten).rows index := by
  apply Nat.le_antisymm (widestScale_part head index)
  rcases Nat.eq_zero_or_pos (widestScale shown (stream schema parts.flatten).rows index) with
    zero | positive
  · omega
  · obtain ⟨row, member, same⟩ := exists_widest positive
    obtain ⟨part, held, inside⟩ := exists_part member
    have nonempty : part ≠ [] := by
      intro empty
      rw [empty] at inside
      simp [stream, Batches.rows] at inside
    rw [← same, ← agree part held nonempty]
    exact le_widestScale inside index

-----------------------------------------------------------------------------------------
-- Reconciled partitions
-----------------------------------------------------------------------------------------

/-- All partitions' batches under the schema of the first one. -/
def concatenated (first : Batches) (rest : List Batches) : Batches where
  schema := first.schema
  batches := (first :: rest).flatMap Batches.batches

theorem concatenated_rows (first : Batches) (rest : List Batches)
    : (concatenated first rest).rows = (first :: rest).flatMap Batches.rows := by
  simp only [Batches.rows, concatenated, List.flatMap_assoc]
  rfl

/-- Some columns are settled again, and in the others all partitions with batches have the
scale of the first one.
-/
structure Resettled (shown : ScalarValue → String) (schema : Schema)
    (first : List RecordBatch) (parts : List (List RecordBatch)) (again : List Nat)
    : Prop where
  within : ∀ index ∈ again, index ∈ numericColumns schema
  agree : ∀ index ∈ numericColumns schema, index ∉ again → ∀ part ∈ parts, part ≠ []
    → widestScale shown (stream schema part).rows index
      = widestScale shown (stream schema first).rows index

/-- A batch of a partition's result has the schema of the partition's rows. -/
theorem Retyped.schema_of_mem (partitioned : Retyped shown schema parts outs)
    {batch : RecordBatch} (member : batch ∈ outs.flatMap Batches.batches)
    : ∃ part ∈ parts, part ≠ []
        ∧ batch.schema
          = decimalSchema schema
              (dataScales shown (stream schema part).rows (numericColumns schema)) := by
  obtain ⟨out, held, inside⟩ := List.mem_flatMap.mp member
  obtain ⟨part, source, rebuilt⟩ := forall₂_right partitioned.rebuilt held
  obtain ⟨batch', read, same, _⟩ := forall₂_right rebuilt.batches inside
  refine ⟨part, source, List.ne_nil_of_mem read, ?_⟩
  rw [same, rebuilt.schema]
  rfl

/-- A partition with batches has one of them in its result. -/
theorem Retyped.exists_batch (partitioned : Retyped shown schema parts outs)
    {part : List RecordBatch} (member : part ∈ parts) (some : part ≠ [])
    : ∃ batch ∈ outs.flatMap Batches.batches,
        batch.schema
          = decimalSchema schema
              (dataScales shown (stream schema part).rows (numericColumns schema)) := by
  have flipped := partitioned.rebuilt.flip
  obtain ⟨out, held, rebuilt⟩ := forall₂_right flipped member
  obtain ⟨source, inside⟩ := List.exists_mem_of_ne_nil part some
  have pairs := rebuilt.batches.flip
  obtain ⟨batch, read, same, _⟩ := forall₂_right pairs inside
  refine ⟨batch, List.mem_flatMap.mpr ⟨out, held, read⟩, ?_⟩
  rw [same, rebuilt.schema]
  rfl

/-- Re-typed to its partition's scales and then where columns are settled again, a cell is
what one stream makes of it; by cases on whether the column is numeric, and settled again.
-/
theorem Partitioned.convertCell_again (partitioned : Partitioned shown schema parts outs)
    {first part : List RecordBatch} {again : List Nat} (head : first ∈ parts)
    (resettled : Resettled shown schema first parts again) (member : part ∈ parts) {row : Row}
    (inside : row ∈ (stream schema part).rows) (index : Nat)
    : convertCell shown (dataScales shown (outs.flatMap Batches.rows) again) index
          (convertCell shown
            (dataScales shown (stream schema part).rows (numericColumns schema)) index
            (row.getD index .null))
      = convertCell shown
          (dataScales shown (stream schema parts.flatten).rows (numericColumns schema)) index
          (row.getD index .null) := by
  by_cases numeric : index ∈ numericColumns schema
  · rw [convertCell_numeric numeric, convertCell_numeric numeric]
    by_cases settled : index ∈ again
    · rw [convertCell_numeric settled, partitioned.widest numeric]
      exact partitioned.cell_twice member inside numeric
    · have nonempty : part ≠ [] := by
        intro empty
        rw [empty] at inside
        simp [stream, Batches.rows] at inside
      have agree := resettled.agree index numeric settled
      have scale : widestScale shown (stream schema part).rows index
          = widestScale shown (stream schema parts.flatten).rows index :=
        (agree part member nonempty).trans (widestScale_agreed head agree)
      rw [convertCell, lookup_dataScales, if_neg settled, scale]
  · have settled : index ∉ again := fun held => numeric (resettled.within index held)
    simp [convertCell, lookup_dataScales, numeric, settled]

/-- The same for a whole row. -/
theorem Partitioned.convertRow_again (partitioned : Partitioned shown schema parts outs)
    {first part : List RecordBatch} {again : List Nat} (head : first ∈ parts)
    (resettled : Resettled shown schema first parts again) (member : part ∈ parts) {row : Row}
    (inside : row ∈ (stream schema part).rows)
    : convertRow shown (dataScales shown (outs.flatMap Batches.rows) again)
          (convertRow shown
            (dataScales shown (stream schema part).rows (numericColumns schema)) row)
      = convertRow shown
          (dataScales shown (stream schema parts.flatten).rows (numericColumns schema))
          row := by
  apply List.ext_getElem?
  intro index
  simp only [convertRow, List.getElem?_mapIdx]
  cases read : row[index]? with
  | none => rfl
  | some cell =>
      have same := partitioned.convertCell_again head resettled member inside index
      rw [List.getD_eq_getElem?_getD, read, Option.getD_some] at same
      simp only [Option.map_some, same]

/-- All rows, settled again, are what one stream makes of the rows of the partitions. -/
theorem Partitioned.rows_again (partitioned : Partitioned shown schema parts outs)
    {first : List RecordBatch} {again : List Nat} (head : first ∈ parts)
    (resettled : Resettled shown schema first parts again)
    : (outs.flatMap Batches.rows).map
          (convertRow shown (dataScales shown (outs.flatMap Batches.rows) again))
      = (stream schema parts.flatten).rows.map
          (convertRow shown
            (dataScales shown (stream schema parts.flatten).rows (numericColumns schema))) := by
  have sources
      : (stream schema parts.flatten).rows
        = parts.flatMap (fun part => (stream schema part).rows) := by
    simp only [stream, Batches.rows, List.flatten_eq_flatMap, List.flatMap_assoc, id]
  generalize final : convertRow shown
      (dataScales shown (stream schema parts.flatten).rows (numericColumns schema)) = direct
  generalize second : convertRow shown (dataScales shown (outs.flatMap Batches.rows) again) = later
  rw [sources, partitioned.rows, List.map_flatMap, List.map_flatMap]
  apply List.flatMap_congr
  intro part member
  rw [List.map_map]
  apply List.map_congr_left
  intro row inside
  rw [← final, ← second]
  exact partitioned.convertRow_again head resettled member inside

theorem decimalSchema_nil {source : Schema} (plain : source.metadata = [])
    : decimalSchema source [] = source := by
  have fields : (decimalSchema source []).fields = source.fields := by
    apply List.ext_getElem?
    intro index
    simp
  calc
    decimalSchema source [] = .new source.fields := congrArg Schema.new fields
    _ = source := by rw [Schema.new, ← plain]

theorem convertRow_nil (row : Row) : convertRow shown [] row = row := by
  have kept (index : Nat) : convertCell shown [] index = id := rfl
  apply List.ext_getElem?
  intro index
  simp [convertRow, kept]

section Gathering

variable {first : List RecordBatch} {rest : List (List RecordBatch)} {out : Batches}

/-- The schema the partitions' batches are put under is that of the first partition. -/
theorem Retyped.concatenated_schema
    (partitioned : Retyped shown schema (first :: rest) (out :: outs))
    : (concatenated out outs).schema
      = decimalSchema schema
          (dataScales shown (stream schema first).rows (numericColumns schema)) := by
  rcases partitioned.rebuilt with _ | ⟨head, _⟩
  exact head.schema

/-- The disagreements are in numeric columns, and all of them are found. -/
theorem Retyped.resettled
    (partitioned : Retyped shown schema (first :: rest) (out :: outs)) {found : List Nat}
    (spec
      : ∀ index, index ∈ found ↔ ∃ batch ∈ (concatenated out outs).batches,
          Differs (concatenated out outs).schema batch.schema index)
    : Resettled shown schema first (first :: rest) found := by
  rw [partitioned.concatenated_schema] at spec
  refine ⟨?_, ?_⟩
  · intro index member
    obtain ⟨batch, held, differs⟩ := (spec index).mp member
    obtain ⟨part, _, _, same⟩ := partitioned.schema_of_mem held
    rw [same] at differs
    have declared := differs
    obtain ⟨field, _, declared, _⟩ := declared
    rw [retyped_getElem?] at declared
    obtain ⟨source, original, _⟩ := Option.map_eq_some_iff.mp declared
    exact ((retyped_differs original).mp differs).1
  · intro index numeric outside part member nonempty
    obtain ⟨source, original, _⟩ := mem_numericColumns.mp numeric
    obtain ⟨batch, held, same⟩ := partitioned.exists_batch member nonempty
    by_contra differs
    apply outside
    apply (spec index).mpr
    refine ⟨batch, held, ?_⟩
    rw [same]
    exact (retyped_differs original).mpr ⟨numeric, differs⟩

/-- No NOT NULL column gets a NULL when columns are settled again. -/
theorem Partitioned.nullFree_again
    (partitioned : Partitioned shown schema (first :: rest) (out :: outs)) {again : List Nat}
    (resettled : Resettled shown schema first (first :: rest) again)
    : NullFree shown again (concatenated out outs) := by
  have whole := partitioned.result.nullFree_iff.mpr partitioned.fits.accepted
  intro index field declared required row member
  rw [partitioned.concatenated_schema, retyped_getElem?] at declared
  obtain ⟨source, original, typed⟩ := Option.map_eq_some_iff.mp declared
  have nullable : source.nullable = false := by
    rw [← required, ← typed]
    by_cases numeric : index ∈ numericColumns schema
    · simp [numeric, Field.new]
    · simp [numeric]
  rw [concatenated_rows, partitioned.rows] at member
  obtain ⟨part, held, converted⟩ := List.mem_flatMap.mp member
  obtain ⟨read, inside, rfl⟩ := List.mem_map.mp converted
  rw [concatenated_rows, convertRow_getD,
    partitioned.convertCell_again (by simp) resettled held inside]
  exact whole index source original nullable read (mem_stream_flatten held inside)

/-- Partitions gathered are their rows re-typed to the scales of the whole table, under the
schema of those scales. By cases on whether any column has to be settled again.
-/
theorem Partitioned.gathered
    (partitioned : Partitioned shown schema (first :: rest) (out :: outs))
    : ∃ gathered, gatherPartitions shown (out :: outs) = .ok gathered
        ∧ gathered.schema
          = decimalSchema schema
              (dataScales shown (stream schema (first :: rest).flatten).rows
                (numericColumns schema))
        ∧ (∀ batch ∈ gathered.batches, batch.schema = gathered.schema)
        ∧ gathered.rows
          = (stream schema (first :: rest).flatten).rows.map
              (convertRow shown
                (dataScales shown (stream schema (first :: rest).flatten).rows
                  (numericColumns schema))) := by
  have settles
      : ∀ batch ∈ (concatenated out outs).batches,
          Settles (concatenated out outs).schema batch.schema := by
    intro batch member
    obtain ⟨part, _, _, same⟩ := partitioned.schema_of_mem member
    rw [same, partitioned.concatenated_schema]
    exact retyped_settles shown schema _ _ _
  obtain ⟨found, spec, ran⟩ := reconcileExecuted_settled shown settles
  have resettled := partitioned.resettled spec
  have schemas
      : decimalSchema (concatenated out outs).schema
            (dataScales shown (concatenated out outs).rows found)
        = decimalSchema schema
            (dataScales shown (stream schema (first :: rest).flatten).rows
              (numericColumns schema)) := by
    rw [partitioned.concatenated_schema]
    apply retyped_twice resettled.within
    · intro index member
      rw [concatenated_rows]
      exact partitioned.widest (resettled.within index member)
    · intro index numeric outside
      exact widestScale_agreed (by simp) (resettled.agree index numeric outside)
  have rows := partitioned.rows_again (by simp) resettled
  rw [← concatenated_rows] at rows
  by_cases none : found = []
  · refine ⟨concatenated out outs, ?_, ?_, ?_, ?_⟩
    · rw [none] at ran
      change (reconcileExecuted shown (concatenated out outs)).mapError _ = _
      rw [ran]
      rfl
    · have plain : (concatenated out outs).schema.metadata = [] := by
        rw [partitioned.concatenated_schema]
        rfl
      rw [none] at schemas
      exact (decimalSchema_nil plain).symm.trans schemas
    · intro batch member
      obtain ⟨part, held, nonempty, same⟩ := partitioned.schema_of_mem member
      rw [same, partitioned.concatenated_schema]
      congr 1
      apply List.map_congr_left
      intro index numeric
      rw [resettled.agree index numeric (by simp [none]) part held nonempty]
    · rw [none] at rows
      rw [← rows]
      change _ = (concatenated out outs).rows.map (convertRow shown [])
      rw [List.map_congr_left (fun row _ => convertRow_nil row), List.map_id']
  · have counts
        : ∀ batch ∈ (concatenated out outs).batches,
            batch.schema.fields.length = (concatenated out outs).schema.fields.length := by
      intro batch member
      obtain ⟨part, _, _, same⟩ := partitioned.schema_of_mem member
      rw [same, partitioned.concatenated_schema, retyped_length, retyped_length]
    have rebuildable := rebuildable_of_settles settles counts spec none
    obtain ⟨gathered, built⟩ :=
      (rebuildDecimals_ok_iff shown rebuildable).mpr (partitioned.nullFree_again resettled)
    have rebuilt := rebuildDecimals_spec built
    refine ⟨gathered, ?_, rebuilt.schema.trans schemas, ?_, rebuilt.rows.trans rows⟩
    · have some : found.isEmpty = false := by simpa using none
      rw [some, if_neg Bool.false_ne_true, built] at ran
      change (reconcileExecuted shown (concatenated out outs)).mapError _ = _
      rw [ran]
      rfl
    · intro batch member
      obtain ⟨_, _, same, _⟩ := forall₂_right rebuilt.batches member
      exact same

end Gathering

end Partitions

-----------------------------------------------------------------------------------------
-- One stream or many
-----------------------------------------------------------------------------------------

section Streams

variable {schema : Schema} {parts : List (List RecordBatch)} {single : List RecordBatch}

/-- The order of rows does not show in their widest scale. -/
theorem widestScale_perm {rows others : List Row} (same : rows.Perm others) (index : Nat)
    : widestScale shown rows index = widestScale shown others index := by
  apply Nat.le_antisymm
  · exact widestScale_mono index (fun _ => same.mem_iff.mp)
  · exact widestScale_mono index (fun _ => same.mem_iff.mpr)

theorem dataScales_perm {rows others : List Row} (same : rows.Perm others)
    (columns : List Nat)
    : dataScales shown rows columns = dataScales shown others columns := by
  apply List.map_congr_left
  intro index _
  rw [widestScale_perm same]

/-- Partitions with the rows of one stream are re-typed each on its own; by induction over
them.
-/
theorem exists_partitioned (numeric : numericColumns schema ≠ [])
    (batches : ∀ part ∈ parts, ∀ batch ∈ part, batch.schema = schema)
    (same : (stream schema parts.flatten).rows.Perm (stream schema single).rows)
    (result : NumericResult (stream schema single))
    (fits : Representable shown (stream schema single))
    : ∃ outs, parts.mapM (fun part => normalizeAnswer shown (stream schema part)) = .ok outs
        ∧ Partitioned shown schema parts outs := by
  have whole : NumericResult (stream schema parts.flatten) := by
    refine ⟨?_, ?_⟩
    · intro batch member
      obtain ⟨part, held, inside⟩ := List.mem_flatten.mp member
      exact batches part held batch inside
    · intro index column row member
      exact result.texts index column row (same.mem_iff.mp member)
  have wholeFits : Representable shown (stream schema parts.flatten) := by
    intro index column row member text shows
    rw [widestScale_perm same]
    exact fits index column row (same.mem_iff.mp member) text shows
  have each
      : ∀ part ∈ parts, ∃ out, normalizeAnswer shown (stream schema part) = .ok out
          ∧ Rebuilt shown (numericColumns schema) (stream schema part) out := by
    intro part member
    have partResult : NumericResult (stream schema part) :=
      ⟨batches part member, fun index column row inside =>
        whole.texts index column row (mem_stream_flatten member inside)⟩
    apply normalizeAnswer_rebuilt partResult numeric
    intro index column row inside text shows
    have all := mem_stream_flatten member inside
    have wide : fractionalDigits ((row.getD index .null).toUtf8 shown)
        ≤ widestScale shown (stream schema part).rows index := le_widestScale inside index
    rw [shows] at wide
    exact (wholeFits index column row all text shows).narrow (widestScale_part member index) wide
      (widestScale_le_37 _ _)
  have run
      : ∃ outs, parts.mapM (fun part => normalizeAnswer shown (stream schema part)) = .ok outs
          ∧ List.Forall₂
            (fun part out => Rebuilt shown (numericColumns schema) (stream schema part) out)
            parts outs := by
    clear whole wholeFits same batches
    induction parts with
    | nil => exact ⟨[], rfl, .nil⟩
    | cons part rest ih =>
        obtain ⟨out, here, rebuilt⟩ := each part (by simp)
        obtain ⟨outs, there, others⟩ :=
          ih (fun other member => each other (List.mem_cons_of_mem part member))
        refine ⟨out :: outs, ?_, .cons rebuilt others⟩
        rw [List.mapM_cons, here, there]
        rfl
  obtain ⟨outs, ran, rebuilt⟩ := run
  exact ⟨outs, ran, ⟨rebuilt⟩, whole, wholeFits⟩

/-- Without numeric columns partitions are concatenated. -/
theorem gatherAnswers_plain (none : numericColumns schema = []) (some : parts ≠ [])
    (batches : ∀ part ∈ parts, ∀ batch ∈ part, batch.schema = schema)
    : gatherAnswers shown (parts.map (stream schema)) = .ok (stream schema parts.flatten) := by
  have each
      : (parts.map (stream schema)).mapM (normalizeAnswer shown)
        = .ok (parts.map (stream schema)) := by
    clear some
    induction parts with
    | nil => rfl
    | cons part rest ih =>
        have here
            : normalizeAnswer shown (stream schema part) = .ok (stream schema part) :=
          normalizeAnswer_plain (batches part (by simp)) none
        have there := ih (fun other member => batches other (List.mem_cons_of_mem part member))
        rw [List.map_cons, List.mapM_cons, here, there]
        rfl
  cases parts with
  | nil => exact absurd rfl some
  | cons first rest =>
      have flat
          : (stream schema first :: rest.map (stream schema)).flatMap Batches.batches
            = (first :: rest).flatten := by
        rw [← List.map_cons, List.flatMap_map, List.flatten_eq_flatMap]
        rfl
      have reconciled : reconcileExecuted shown (stream schema (first :: rest).flatten)
          = .ok (stream schema (first :: rest).flatten) := by
        apply reconcileExecuted_same
        intro batch member
        obtain ⟨part, held, inside⟩ := List.mem_flatten.mp member
        exact batches part held batch inside
      rw [gatherAnswers, each]
      change (reconcileExecuted shown
        { schema, batches := (stream schema first :: rest.map (stream schema)).flatMap _ }).mapError
          _ = _
      rw [flat]
      change (reconcileExecuted shown (stream schema (first :: rest).flatten)).mapError _ = _
      rw [reconciled]
      rfl

end Streams

/-- However the rows of one stream are split into partitions, each re-typed on its own and
all reconciled, the types and the cells are those of the stream.
-/
theorem gatherAnswers_eq_single (shown : ScalarValue → String) (schema : Schema)
    (parts : List (List RecordBatch)) (single : List RecordBatch) (some : parts ≠ [])
    (batches : ∀ part ∈ parts, ∀ batch ∈ part, batch.schema = schema)
    (same : (stream schema parts.flatten).rows.Perm (stream schema single).rows)
    (result : NumericResult (stream schema single))
    (fits : Representable shown (stream schema single))
    : ∃ gathered one,
        gatherAnswers shown (parts.map (stream schema)) = .ok gathered
          ∧ normalizeAnswer shown (stream schema single) = .ok one
          ∧ gathered.schema = one.schema
          ∧ (∀ batch ∈ gathered.batches ++ one.batches, batch.schema = one.schema)
          ∧ gathered.rows.Perm one.rows
          ∧ ((stream schema parts.flatten).rows = (stream schema single).rows
              → gathered.rows = one.rows) := by
  by_cases none : numericColumns schema = []
  · refine ⟨_, _, gatherAnswers_plain none some batches,
      normalizeAnswer_plain result.batches none, rfl, ?_, same, id⟩
    intro batch member
    rcases List.mem_append.mp member with inside | inside
    · obtain ⟨part, held, read⟩ := List.mem_flatten.mp inside
      exact batches part held batch read
    · exact result.batches batch inside
  · obtain ⟨outs, ran, partitioned⟩ := exists_partitioned none batches same result fits
    obtain ⟨one, alone, rebuilt⟩ := normalizeAnswer_rebuilt result none fits
    obtain ⟨first, rest, rfl⟩ := List.exists_cons_of_ne_nil some
    obtain ⟨out, others, rfl⟩ : ∃ out others, outs = out :: others := by
      rcases partitioned.rebuilt with _ | ⟨_, _⟩
      exact ⟨_, _, rfl⟩
    obtain ⟨gathered, gathers, schemas, agree, rows⟩ := partitioned.gathered
    have scales
        : dataScales shown (stream schema (first :: rest).flatten).rows (numericColumns schema)
          = dataScales shown (stream schema single).rows (numericColumns schema) :=
      dataScales_perm same (numericColumns schema)
    have schema' : gathered.schema = one.schema := by
      rw [schemas, scales, rebuilt.schema]
      rfl
    have rows' : one.rows = (stream schema single).rows.map
        (convertRow shown
          (dataScales shown (stream schema (first :: rest).flatten).rows
            (numericColumns schema))) := by
      rw [scales, rebuilt.rows]
      rfl
    refine ⟨gathered, one, ?_, alone, schema', ?_, ?_, ?_⟩
    · rw [gatherAnswers, List.mapM_map]
      change (List.mapM (fun part => normalizeAnswer shown (stream schema part)) (first :: rest)
        >>= _) = _
      rw [ran]
      exact gathers
    · intro batch member
      rcases List.mem_append.mp member with inside | inside
      · rw [agree batch inside, schema']
      · obtain ⟨_, _, held, _⟩ := forall₂_right rebuilt.batches inside
        exact held
    · rw [rows, rows']
      exact same.map _
    · intro equal
      rw [rows, rows', equal]

/-- An empty first partition and two of different scales give what one stream gives. -/
theorem gatherAnswers_eq_single_amounts
    : ∃ gathered one,
        gatherAnswers (fun _ => "")
              ([[], [amountBatch "-3"], [amountBatch "12.50"]].map (stream amountSchema))
            = .ok gathered
          ∧ normalizeAnswer (fun _ => "") (amounts ["12.50", "-3"]) = .ok one
          ∧ gathered.schema = one.schema
          ∧ (∀ batch ∈ gathered.batches ++ one.batches, batch.schema = one.schema)
          ∧ gathered.rows.Perm one.rows
          ∧ ((stream amountSchema [amountBatch "-3", amountBatch "12.50"]).rows
                = (amounts ["12.50", "-3"]).rows
              → gathered.rows = one.rows) := by
  apply gatherAnswers_eq_single (fun _ => "") amountSchema
    [[], [amountBatch "-3"], [amountBatch "12.50"]] [amountBatch "12.50", amountBatch "-3"]
  · simp
  · intro part member batch inside
    simp only [List.mem_cons, List.not_mem_nil, or_false] at member
    rcases member with rfl | rfl | rfl
    · cases inside
    · rw [List.mem_singleton.mp inside]
      rfl
    · rw [List.mem_singleton.mp inside]
      rfl
  · exact List.Perm.swap _ _ []
  · exact amounts_result twoAmounts_numeric
  · exact twoAmounts_fit

end Fedqrs
