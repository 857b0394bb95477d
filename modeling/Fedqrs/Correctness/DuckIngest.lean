import Fedqrs.Semantics.DuckTypes

/-! Which Arrow types the DuckDB ingest represents. Every accepted type is given a name; the
name has to be that of a DuckDB type, and the type has to have an exact counterpart for every
value.
-/

namespace Fedqrs

open Reading

-----------------------------------------------------------------------------------------
-- Representation
-----------------------------------------------------------------------------------------

/-- NULL is stored as NULL. -/
def storeCell {type : DuckType} (store : ScalarValue → type.Value)
    : ScalarValue → Option type.Value
  | .null => none
  | cell => some (store cell)

/-- A way to store the values of an Arrow type in a DuckDB type that loses nothing: what is
stored stands for the same, so that a membership test against stored keys, whatever its
equality, selects what the keys themselves would select, and a column read back is the column
that was shipped.
-/
structure StoredExactly (dataType : DataType) (type : DuckType)
    (store : ScalarValue → type.Value) : Prop where
  exact : ∀ value, dataType.Holds value → value.datum = some (type.datum (store value))
  apart : ∀ value other, dataType.Holds value → dataType.Holds other →
    store value = store other → value = other
  selects : ∀ (equal : Datum → Datum → Prop) (probe : Datum) (keys : List ScalarValue),
    (∀ key ∈ keys, dataType.Holds key) →
      ((∃ stored ∈ keys.map store, equal probe (type.datum stored))
        ↔ ∃ key ∈ keys, ∃ meant, key.datum = some meant ∧ equal probe meant)
  ships : ∀ cells : List ScalarValue,
    (∀ cell ∈ cells, cell = .null ∨ dataType.Holds cell) →
      (cells.map (storeCell store)).map (Option.map type.datum)
        = cells.map ScalarValue.datum

/-- The name is that of a DuckDB type that represents the Arrow type. -/
def Represented (dataType : DataType) (name : String) : Prop :=
  ∃ type, DuckType.named name = some type ∧ ∃ store, StoredExactly dataType type store

/-- The types that are represented: a timestamp has to count microseconds already, a decimal
needs a precision and a scale that DuckDB has, and a date in milliseconds never fits.
-/
def DataType.DuckExact : DataType → Prop
  | .date64 => False
  | .timestamp unit _ => unit = .microsecond
  | .decimal128 precision scale => 0 ≤ scale ∧ scale ≤ precision ∧ precision ≤ 38
  | _ => True

-----------------------------------------------------------------------------------------
-- Values of one type stand for different things
-----------------------------------------------------------------------------------------

theorem scaled_injective {n m scale : Int} (same : scaled n scale = scaled m scale)
    : n = m := by
  cases scale with
  | ofNat scale =>
      have positive : (10 : ℚ) ^ scale ≠ 0 := pow_ne_zero _ (by norm_num)
      have numerators : (n : ℚ) = m := by
        simpa [scaled, div_left_inj' positive] using same
      exact_mod_cast numerators
  | negSucc less =>
      have positive : (10 : ℚ) ^ (less + 1) ≠ 0 := pow_ne_zero _ (by norm_num)
      have factors : (n : ℚ) = m := mul_right_cancel₀ positive same
      exact_mod_cast factors

theorem TimeUnit.nanos_pos (unit : TimeUnit) : 0 < unit.nanos := by
  cases unit <;> decide

/-- Raw integers of one type stand for different things, by cases on the type. -/
theorem DataType.datum_injective {dataType : DataType} {n m : Int} (raw : dataType.Raw n)
    (same : dataType.datum n = dataType.datum m)
    : n = m := by
  cases dataType with
  | int8 | int16 | int32 | uint8 | uint16 | uint32 | uint64 | float32 | date64 =>
      cases same
      rfl
  | date32 =>
      have dates : n * millisPerDay = m * millisPerDay := by
        simpa [DataType.datum] using same
      exact Int.eq_of_mul_eq_mul_right (by decide) dates
  | timestamp unit timezone =>
      have instants : n * unit.nanos = m * unit.nanos := by
        simpa [DataType.datum] using same
      exact Int.eq_of_mul_eq_mul_right (Int.ne_of_gt unit.nanos_pos) instants
  | null | boolean | int64 | float64 | utf8 | largeUtf8 | decimal128 | other => exact raw.elim

/-- A value with a raw integer is of no type with a form of its own. -/
theorem DataType.Holds.not_ownForm {dataType own : DataType} {raw : Int}
    (held : dataType.Holds (.typed own raw))
    : dataType.ownForm = false := by
  obtain ⟨type, within⟩ := held
  subst type
  cases dataType with
  | boolean | int64 | float64 | utf8 | largeUtf8 | decimal128 => exact within.elim
  | null | int8 | int16 | int32 | uint8 | uint16 | uint32 | uint64 | float32 | date32 | date64
  | timestamp | other =>
      rfl

/-- Values of one type stand for different things. Values of one type have one form, so the
cases are those of one form twice.
-/
theorem DataType.Holds.datum_injective {dataType : DataType} {value other : ScalarValue}
    (left : dataType.Holds value) (right : dataType.Holds other)
    (same : value.datum = other.datum)
    : value = other := by
  cases value with
  | null => exact left.elim
  | boolean value =>
      subst left
      cases other with
      | boolean other =>
          cases same
          rfl
      | typed => cases right.not_ownForm
      | null | int64 | float64 | utf8 | decimal128 => simp [Holds] at right
  | int64 n =>
      obtain ⟨type, _⟩ := left
      subst type
      cases other with
      | int64 m =>
          cases same
          rfl
      | typed => cases right.not_ownForm
      | null | boolean | float64 | utf8 | decimal128 => simp [Holds] at right
  | float64 bits =>
      subst left
      cases other with
      | float64 others =>
          cases same
          rfl
      | typed => cases right.not_ownForm
      | null | boolean | int64 | utf8 | decimal128 => simp [Holds] at right
  | utf8 text =>
      cases other with
      | utf8 other =>
          cases same
          rfl
      | typed => rcases left with type | type <;> subst type <;> cases right.not_ownForm
      | null | boolean | int64 | float64 | decimal128 =>
          rcases left with type | type <;> subst type <;> simp [Holds] at right
  | decimal128 n precision scale =>
      obtain ⟨type, _⟩ := left
      subst type
      cases other with
      | decimal128 m precision' scale' =>
          obtain ⟨type, _⟩ := right
          cases type
          have values : scaled n scale = scaled m scale := by
            simpa [ScalarValue.datum] using same
          rw [scaled_injective values]
      | typed => cases right.not_ownForm
      | null | boolean | int64 | float64 | utf8 => simp [Holds] at right
  | typed own n =>
      have raws := left.not_ownForm
      obtain ⟨type, within⟩ := left
      subst type
      cases other with
      | typed own m =>
          obtain ⟨type, _⟩ := right
          subst type
          rw [DataType.datum_injective within same]
      | null => exact right.elim
      | boolean | float64 =>
          subst right
          cases raws
      | utf8 => rcases right with type | type <;> subst type <;> cases raws
      | int64 | decimal128 =>
          obtain ⟨type, _⟩ := right
          subst type
          cases raws

-----------------------------------------------------------------------------------------
-- From counterparts to a representation
-----------------------------------------------------------------------------------------

/-- Storing exactly is all there is to representing. -/
theorem storedExactly_of_exact {dataType : DataType} {type : DuckType}
    {store : ScalarValue → type.Value}
    (exact : ∀ value, dataType.Holds value → value.datum = some (type.datum (store value)))
    : StoredExactly dataType type store where
  exact := exact
  apart value other held held' same := by
    apply held.datum_injective held'
    rw [exact value held, exact other held', same]
  selects equal probe keys held := by
    constructor
    · intro matched
      obtain ⟨stored, member, equals⟩ := matched
      obtain ⟨key, inside, same⟩ := List.mem_map.mp member
      subst same
      exact ⟨key, inside, _, exact key (held key inside), equals⟩
    · intro matched
      obtain ⟨key, inside, meant, means, equals⟩ := matched
      rw [exact key (held key inside)] at means
      cases means
      exact ⟨store key, List.mem_map_of_mem inside, equals⟩
  ships cells held := by
    rw [List.map_map]
    apply List.map_congr_left
    intro cell inside
    rcases held cell inside with null | held
    · subst null
      rfl
    · rw [exact cell held]
      cases cell with
      | null => exact held.elim
      | boolean | int64 | float64 | utf8 | decimal128 | typed => rfl

theorem signed_zero (bits : Nat) : Signed bits 0 := by
  have positive : (0 : Int) < 2 ^ (bits - 1) := Int.pow_pos (by decide)
  exact ⟨Int.le_of_lt (Int.neg_neg_of_pos positive), positive⟩

theorem unsigned_zero (bits : Nat) : Unsigned bits 0 := ⟨Int.le_refl 0, Int.pow_pos (by decide)⟩

theorem digits_zero (precision : Nat) : Digits precision 0 := Nat.pow_pos (by decide)

/-- Some value of the type. -/
def DuckType.zero : (type : DuckType) → type.Value
  | .boolean => false
  | .tinyInt | .smallInt | .integer | .bigInt => ⟨0, signed_zero _⟩
  | .uTinyInt | .uSmallInt | .uInteger | .uBigInt => ⟨0, unsigned_zero _⟩
  | .float => ⟨0, unsigned_zero _⟩
  | .double => (0 : UInt64)
  | .varchar => ""
  | .date | .timestamp => ⟨0, signed_zero _⟩
  | .decimal width _ => ⟨0, digits_zero width⟩

/-- A type in which every value has a counterpart represents the values. -/
theorem represented_of_counterparts {dataType : DataType} {name : String} {type : DuckType}
    (named : DuckType.named name = some type)
    (counterparts
      : ∀ value, dataType.Holds value → ∃ stored, value.datum = some (type.datum stored))
    : Represented dataType name := by
  have total : ∀ value, ∃ stored : type.Value,
      dataType.Holds value → value.datum = some (type.datum stored) := by
    intro value
    by_cases held : dataType.Holds value
    · obtain ⟨stored, means⟩ := counterparts value held
      exact ⟨stored, fun _ => means⟩
    · exact ⟨type.zero, fun held' => absurd held' held⟩
  choose store exact using total
  exact ⟨type, named, store, storedExactly_of_exact exact⟩

-----------------------------------------------------------------------------------------
-- Names
-----------------------------------------------------------------------------------------

theorem decimalName_text (precision : Nat) (scale : Int)
    : ("DECIMAL(" ++ toString precision ++ "," ++ toString scale ++ ")").toList
      = "DECIMAL(".toList ++ (Nat.toDigits 10 precision ++ (",".toList
        ++ ((toString scale).toList ++ ")".toList))) := by
  have digits : (toString precision).toList = Nat.toDigits 10 precision := by simp
  simp only [String.toList_append, digits, List.append_assoc]

/-- A decimal name with an unsigned scale is read back. -/
theorem decimalName_reads (precision scale : Nat)
    : readAll DuckType.decimalName
        ("DECIMAL(" ++ toString precision ++ "," ++ toString (scale : Int) ++ ")")
      = some (precision, scale) := by
  have digits : (toString (scale : Int)).toList = Nat.toDigits 10 scale := by
    have unsigned : toString (scale : Int) = toString scale := rfl
    rw [unsigned]
    simp
  have read : ReadsBack DuckType.decimalName
      ("DECIMAL(" ++ toString precision ++ "," ++ toString (scale : Int) ++ ")").toList
      (precision, scale) Anything := by
    rw [decimalName_text, digits]
    refine (keyword_reads "DECIMAL(").bind ?_ (fun _ _ => trivial)
    refine (number_reads precision).bind ?_ ?_
    · refine (keyword_reads ",").bind ?_ (fun _ _ => trivial)
      refine (number_reads scale).bind ((keyword_reads ")").result _) ?_
      intro rest _ c first
      cases first
      rfl
    · intro rest _ c first
      cases first
      rfl
  exact read.readAll trivial

/-- A decimal name with a sign in its scale is not read. -/
theorem decimalName_refuses (precision less : Nat)
    : readAll DuckType.decimalName
        ("DECIMAL(" ++ toString precision ++ "," ++ toString (Int.negSucc less) ++ ")")
      = none := by
  have sign : (toString (Int.negSucc less)).toList = '-' :: (toString (less + 1)).toList := by
    have signed : toString (Int.negSucc less) = "-" ++ toString (less + 1) := rfl
    rw [signed, String.toList_append]
    rfl
  have first := keyword_append "DECIMAL(" (Nat.toDigits 10 precision ++ (",".toList
    ++ ((toString (Int.negSucc less)).toList ++ ")".toList)))
  have width := number_reads precision (",".toList
    ++ ((toString (Int.negSucc less)).toList ++ ")".toList)) (by
      intro c first
      cases first
      rfl)
  have comma := keyword_append "," ((toString (Int.negSucc less)).toList ++ ")".toList)
  have refused : number ((toString (Int.negSucc less)).toList ++ ")".toList) = none := by
    rw [sign]
    rfl
  have whole : DuckType.decimalName
      ("DECIMAL(" ++ toString precision ++ "," ++ toString (Int.negSucc less) ++ ")").toList
        = none := by
    rw [decimalName_text]
    simp only [DuckType.decimalName, bind_apply, first, width, comma, refused, Option.bind_some,
      Option.bind_none]
  rw [readAll, whole]

/-- No one-word name starts like a decimal's. -/
theorem words_lookup_decimal (rest : String)
    : DuckType.words.lookup ("DECIMAL(" ++ rest) = none := by
  have starts : ∀ entry ∈ DuckType.words, entry.1.toList.take 2 ≠ ['D', 'E'] := by
    decide
  apply List.lookup_eq_none_iff.mpr
  intro entry member
  rw [bne_iff_ne]
  intro same
  apply starts entry member
  rw [← same, String.toList_append]
  rfl

/-- Which decimals DuckDB has, by cases on the sign of the scale. -/
theorem named_decimal (precision : Nat) (scale : Int)
    : DuckType.named ("DECIMAL(" ++ toString precision ++ "," ++ toString scale ++ ")")
      = if 0 ≤ scale ∧ scale ≤ precision ∧ precision ≤ 38 then
          some (.decimal precision scale.toNat)
        else
          none := by
  cases scale with
  | ofNat scale =>
      have read := decimalName_reads precision scale
      rw [Int.ofNat_eq_natCast, DuckType.named, read]
      by_cases valid : scale ≤ precision ∧ precision ≤ 38
      · rw [if_pos (by omega)]
        exact if_pos valid
      · rw [if_neg (by omega)]
        exact if_neg valid
  | negSucc less =>
      have negative : ¬ (0 ≤ Int.negSucc less ∧ Int.negSucc less ≤ precision
          ∧ precision ≤ 38) := by
        intro valid
        omega
      rw [if_neg negative, DuckType.named, decimalName_refuses]
      simp only [String.append_assoc]
      exact words_lookup_decimal _

-----------------------------------------------------------------------------------------
-- The types
-----------------------------------------------------------------------------------------

section Exact

variable {dataType : DataType} {value : ScalarValue}

/-- A value with a raw integer of a type without a form of its own. -/
theorem DataType.Holds.raw (held : dataType.Holds value) (own : dataType.ownForm = false)
    : ∃ n, value = .typed dataType n ∧ dataType.Raw n := by
  cases value with
  | null => exact held.elim
  | boolean | float64 =>
      subst held
      cases own
  | int64 | decimal128 =>
      obtain ⟨type, _⟩ := held
      subst type
      cases own
  | utf8 => rcases held with type | type <;> subst type <;> cases own
  | typed other n =>
      obtain ⟨type, within⟩ := held
      subst type
      exact ⟨n, rfl, within⟩

/-- The decimals of a scale DuckDB has are stored as they are. -/
theorem decimal_counterparts (precision scale : Nat)
    : ∀ value, (DataType.decimal128 precision scale).Holds value →
        ∃ stored : (DuckType.decimal precision scale).Value,
          value.datum = some (DuckType.datum _ stored) := by
  intro value held
  cases value with
  | decimal128 n precision' scale' =>
      obtain ⟨type, digits⟩ := held
      cases type
      exact ⟨⟨n, digits⟩, rfl⟩
  | typed own n => cases held.not_ownForm
  | null | boolean | int64 | float64 | utf8 => simp [DataType.Holds] at held

/-- A type that a one-word name stands for and that has the values, raw integer by raw
integer, is represented.
-/
theorem represented_of_raw {name : String} {type : DuckType} (own : dataType.ownForm = false)
    (named : (name, type) ∈ DuckType.words)
    (stored : ∀ n, dataType.Raw n → ∃ stored, dataType.datum n = some (type.datum stored))
    : Represented dataType name := by
  apply represented_of_counterparts (DuckType.named_word _ named)
  intro value held
  obtain ⟨n, shape, within⟩ := held.raw own
  subst shape
  exact stored n within

theorem boolean_counterparts (value : ScalarValue) (held : DataType.boolean.Holds value)
    : ∃ stored : DuckType.boolean.Value, value.datum = some (DuckType.datum _ stored) := by
  cases value with
  | boolean value => exact ⟨value, rfl⟩
  | typed own n => cases held.not_ownForm
  | null | int64 | float64 | utf8 | decimal128 => simp [DataType.Holds] at held

theorem int64_counterparts (value : ScalarValue) (held : DataType.int64.Holds value)
    : ∃ stored : DuckType.bigInt.Value, value.datum = some (DuckType.datum _ stored) := by
  cases value with
  | int64 n => exact ⟨⟨n, held.2⟩, rfl⟩
  | typed own n => cases held.not_ownForm
  | null | boolean | float64 | utf8 | decimal128 => simp [DataType.Holds] at held

theorem float64_counterparts (value : ScalarValue) (held : DataType.float64.Holds value)
    : ∃ stored : DuckType.double.Value, value.datum = some (DuckType.datum _ stored) := by
  cases value with
  | float64 bits => exact ⟨bits, rfl⟩
  | typed own n => cases held.not_ownForm
  | null | boolean | int64 | utf8 | decimal128 => simp [DataType.Holds] at held

theorem text_counterparts (text : dataType = .utf8 ∨ dataType = .largeUtf8)
    (value : ScalarValue) (held : dataType.Holds value)
    : ∃ stored : DuckType.varchar.Value, value.datum = some (DuckType.datum _ stored) := by
  cases value with
  | utf8 value => exact ⟨value, rfl⟩
  | typed own n => rcases text with type | type <;> subst type <;> cases held.not_ownForm
  | null | boolean | int64 | float64 | decimal128 =>
      rcases text with type | type <;> subst type <;> simp [DataType.Holds] at held

end Exact

/-- Every other accepted type is represented, by cases on the type. -/
theorem duckIngest_represents {dataType : DataType} {name : String}
    (accepted : duckTypeName dataType = .ok name) (exact : dataType.DuckExact)
    : Represented dataType name := by
  cases dataType with
  | null | other => cases accepted
  | boolean =>
      cases accepted
      exact represented_of_counterparts
        (DuckType.named_word ("BOOLEAN", .boolean) (by decide)) boolean_counterparts
  | int64 =>
      cases accepted
      exact represented_of_counterparts
        (DuckType.named_word ("BIGINT", .bigInt) (by decide)) int64_counterparts
  | float64 =>
      cases accepted
      exact represented_of_counterparts
        (DuckType.named_word ("DOUBLE", .double) (by decide)) float64_counterparts
  | utf8 =>
      cases accepted
      exact represented_of_counterparts
        (DuckType.named_word ("VARCHAR", .varchar) (by decide)) (text_counterparts (.inl rfl))
  | largeUtf8 =>
      cases accepted
      exact represented_of_counterparts
        (DuckType.named_word ("VARCHAR", .varchar) (by decide)) (text_counterparts (.inr rfl))
  | int8 =>
      cases accepted
      have named : ("TINYINT", DuckType.tinyInt) ∈ DuckType.words := by decide
      exact represented_of_raw rfl named (fun n within => ⟨⟨n, within⟩, rfl⟩)
  | int16 =>
      cases accepted
      have named : ("SMALLINT", DuckType.smallInt) ∈ DuckType.words := by decide
      exact represented_of_raw rfl named (fun n within => ⟨⟨n, within⟩, rfl⟩)
  | int32 =>
      cases accepted
      have named : ("INTEGER", DuckType.integer) ∈ DuckType.words := by decide
      exact represented_of_raw rfl named (fun n within => ⟨⟨n, within⟩, rfl⟩)
  | uint8 =>
      cases accepted
      have named : ("UTINYINT", DuckType.uTinyInt) ∈ DuckType.words := by decide
      exact represented_of_raw rfl named (fun n within => ⟨⟨n, within⟩, rfl⟩)
  | uint16 =>
      cases accepted
      have named : ("USMALLINT", DuckType.uSmallInt) ∈ DuckType.words := by decide
      exact represented_of_raw rfl named (fun n within => ⟨⟨n, within⟩, rfl⟩)
  | uint32 =>
      cases accepted
      have named : ("UINTEGER", DuckType.uInteger) ∈ DuckType.words := by decide
      exact represented_of_raw rfl named (fun n within => ⟨⟨n, within⟩, rfl⟩)
  | uint64 =>
      cases accepted
      have named : ("UBIGINT", DuckType.uBigInt) ∈ DuckType.words := by decide
      exact represented_of_raw rfl named (fun n within => ⟨⟨n, within⟩, rfl⟩)
  | float32 =>
      cases accepted
      have named : ("FLOAT", DuckType.float) ∈ DuckType.words := by decide
      exact represented_of_raw rfl named (fun n within => ⟨⟨n, within⟩, rfl⟩)
  | date32 =>
      cases accepted
      have named : ("DATE", DuckType.date) ∈ DuckType.words := by decide
      exact represented_of_raw rfl named (fun n within => ⟨⟨n, within⟩, rfl⟩)
  | date64 => exact exact.elim
  | timestamp unit timezone =>
      cases accepted
      have micros : unit = .microsecond := exact
      subst micros
      have named : ("TIMESTAMP", DuckType.timestamp) ∈ DuckType.words := by decide
      exact represented_of_raw rfl named (fun n within => ⟨⟨n, within⟩, rfl⟩)
  | decimal128 precision scale =>
      cases accepted
      obtain ⟨scale, natural⟩ := Int.eq_ofNat_of_zero_le exact.1
      subst natural
      have valid : (0 : Int) ≤ scale ∧ (scale : Int) ≤ precision ∧ precision ≤ 38 := exact
      have named := named_decimal precision scale
      rw [if_pos valid] at named
      exact represented_of_counterparts named (decimal_counterparts precision scale)

-----------------------------------------------------------------------------------------
-- Values without a counterpart
-----------------------------------------------------------------------------------------

/-- A value that no value of a DuckDB type stands for. -/
def Missing (dataType : DataType) (type : DuckType) (value : ScalarValue) : Prop :=
  dataType.Holds value ∧ ∀ stored : type.Value, value.datum ≠ some (type.datum stored)

/-- An instant that is not a whole number of microseconds, or too many of them. -/
theorem timestamp_missing (unit : TimeUnit) (timezone : Option String) {n : Int}
    (raw : Signed 64 n) (apart : ∀ micros, Signed 64 micros → n * unit.nanos ≠ micros * 1000)
    : Missing (.timestamp unit timezone) .timestamp (.typed (.timestamp unit timezone) n) := by
  refine ⟨⟨rfl, raw⟩, ?_⟩
  intro stored same
  obtain ⟨micros, within⟩ := stored
  have instants : n * unit.nanos = micros * nanosPerMicro := by
    simpa [ScalarValue.datum, DataType.datum, DuckType.datum] using same
  exact apart micros within instants

/-- Seconds and milliseconds reach further than 64 bits of microseconds, nanoseconds lie
between them.
-/
theorem timestamp_has_missing {unit : TimeUnit} (timezone : Option String)
    (other : unit ≠ .microsecond)
    : ∃ value, Missing (.timestamp unit timezone) .timestamp value := by
  cases unit with
  | second =>
      refine ⟨_, timestamp_missing .second timezone (n := 2 ^ 63 - 1) ?_ ?_⟩
      · unfold Signed
        omega
      · intro micros within
        simp only [Signed, TimeUnit.nanos] at within ⊢
        omega
  | millisecond =>
      refine ⟨_, timestamp_missing .millisecond timezone (n := 2 ^ 63 - 1) ?_ ?_⟩
      · unfold Signed
        omega
      · intro micros within
        simp only [Signed, TimeUnit.nanos] at within ⊢
        omega
  | microsecond => exact absurd rfl other
  | nanosecond =>
      refine ⟨_, timestamp_missing .nanosecond timezone (n := 1) ?_ ?_⟩
      · unfold Signed
        omega
      · intro micros within
        simp only [TimeUnit.nanos]
        omega

/-- A millisecond count is a date's only on a whole day within range. -/
theorem date64_missing {n : Int} (raw : Signed 64 n)
    (apart : ∀ days, Signed 32 days → n ≠ days * millisPerDay)
    : Missing .date64 .date (.typed .date64 n) := by
  refine ⟨⟨rfl, raw⟩, ?_⟩
  intro stored same
  obtain ⟨days, within⟩ := stored
  have dates : n = days * millisPerDay := by
    simpa [ScalarValue.datum, DataType.datum, DuckType.datum] using same
  exact apart days within dates

/-- A time of day is lost. -/
theorem date64_timeOfDay : Missing .date64 .date (.typed .date64 1) := by
  apply date64_missing
  · unfold Signed
    omega
  · intro days _
    unfold millisPerDay
    omega

theorem Missing.not_represented {dataType : DataType} {name : String} {type : DuckType}
    {value : ScalarValue} (missing : Missing dataType type value)
    (named : DuckType.named name = some type)
    : ¬ Represented dataType name := by
  intro represented
  obtain ⟨other, named', store, represents⟩ := represented
  rw [named] at named'
  cases named'
  exact missing.2 _ (represents.exact value missing.1)

/-- An accepted type is represented exactly when its timestamps count microseconds, its
decimals have a scale between zero and a precision of at most 38, and it is not the date in
milliseconds.
-/
theorem duckIngest_represents_iff (dataType : DataType) (name : String)
    (accepted : duckTypeName dataType = .ok name)
    : Represented dataType name ↔ dataType.DuckExact := by
  constructor
  · intro represented
    cases dataType with
    | date64 =>
        cases accepted
        have named : DuckType.named "DATE" = some .date :=
          DuckType.named_word ("DATE", .date) (by decide)
        exact absurd represented (date64_timeOfDay.not_represented named)
    | timestamp unit timezone =>
        cases accepted
        have named : DuckType.named "TIMESTAMP" = some .timestamp :=
          DuckType.named_word ("TIMESTAMP", .timestamp) (by decide)
        by_contra other
        obtain ⟨value, missing⟩ := timestamp_has_missing timezone other
        exact missing.not_represented named represented
    | decimal128 precision scale =>
        cases accepted
        obtain ⟨type, named, _⟩ := represented
        rw [named_decimal] at named
        by_contra invalid
        have none : ¬ (0 ≤ scale ∧ scale ≤ precision ∧ precision ≤ 38) := invalid
        rw [if_neg none] at named
        cases named
    | null | boolean | int8 | int16 | int32 | int64 | uint8 | uint16 | uint32 | uint64
    | float32 | float64 | utf8 | largeUtf8 | date32 | other =>
        trivial
  · exact duckIngest_represents accepted

/-- Microseconds in a time zone are represented. -/
theorem duckIngest_represents_micros
    : Represented (.timestamp .microsecond (some "UTC")) "TIMESTAMP" :=
  (duckIngest_represents_iff (.timestamp .microsecond (some "UTC")) "TIMESTAMP" rfl).mpr rfl

/-- Nanoseconds are accepted, and one nanosecond after the epoch has no counterpart. -/
theorem duckIngest_loses_nanos
    : duckTypeName (.timestamp .nanosecond none) = .ok "TIMESTAMP"
        ∧ DuckType.named "TIMESTAMP" = some .timestamp
        ∧ (DataType.timestamp .nanosecond none).Holds (.typed (.timestamp .nanosecond none) 1)
        ∧ (∀ stored : DuckType.timestamp.Value,
          (ScalarValue.typed (.timestamp .nanosecond none) 1).datum
            ≠ some (DuckType.datum _ stored))
        ∧ ¬ Represented (.timestamp .nanosecond none) "TIMESTAMP" := by
  have named : DuckType.named "TIMESTAMP" = some .timestamp :=
    DuckType.named_word ("TIMESTAMP", .timestamp) (by decide)
  have missing : Missing (.timestamp .nanosecond none) .timestamp
      (.typed (.timestamp .nanosecond none) 1) := by
    apply timestamp_missing
    · unfold Signed
      omega
    · intro micros _
      simp only [TimeUnit.nanos]
      omega
  exact ⟨rfl, named, missing.1, missing.2, missing.not_represented named⟩

end Fedqrs
