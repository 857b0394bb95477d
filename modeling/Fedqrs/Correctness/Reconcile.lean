import Fedqrs.Correctness.PartitionedNumeric

/-! When the reconciliation of a reported schema with the executed batches is loud or right:
exactly which disagreements it reports, settles, lets through or panics at.
-/

namespace Fedqrs

-----------------------------------------------------------------------------------------
-- Disagreements
-----------------------------------------------------------------------------------------

/-- Some column is executed at another type than reported, the two not both decimals. -/
def Clashes (reported executed : Schema) : Prop :=
  ∃ (index : Nat) (field other : Field),
    reported.fields[index]? = some field ∧ executed.fields[index]? = some other
      ∧ other.dataType ≠ field.dataType
      ∧ (field.dataType.isDecimal128 && other.dataType.isDecimal128) = false

/-- There are fewer columns than reported. -/
def Short (reported executed : Schema) : Prop :=
  executed.fields.length < reported.fields.length

/-- The columns have the reported number and names, and none is nullable but reported NOT
NULL.
-/
structure Accepts (reported executed : Schema) : Prop where
  counts : executed.fields.length = reported.fields.length
  names : ∀ (index : Nat) (field other : Field), reported.fields[index]? = some field
    → executed.fields[index]? = some other → other.name = field.name
  nullable : ∀ (index : Nat) (field other : Field), reported.fields[index]? = some field
    → executed.fields[index]? = some other → other.nullable = true → field.nullable = true

/-- They also have the reported types. -/
structure Agrees (reported executed : Schema) : Prop extends Accepts reported executed where
  types : ∀ (index : Nat) (field other : Field), reported.fields[index]? = some field
    → executed.fields[index]? = some other → other.dataType = field.dataType

/-- Some batch clashes, and none before it lacks a column. -/
inductive Loud (reported : Schema) : List RecordBatch → Prop
  | here {batch : RecordBatch} {rest : List RecordBatch}
    (clashes : Clashes reported batch.schema)
    : Loud reported (batch :: rest)
  | later {batch : RecordBatch} {rest : List RecordBatch}
    (covers : ¬ Short reported batch.schema) (tail : Loud reported rest)
    : Loud reported (batch :: rest)

/-- Some batch has the column at another type than reported. -/
def Disagrees (relation : Batches) (index : Nat) : Prop :=
  ∃ batch ∈ relation.batches, Differs relation.schema batch.schema index

/-- A column reported NOT NULL holds a NULL, or would after the round trip of its texts. -/
def LosesRequired (shown : ScalarValue → String) (relation : Batches) : Prop :=
  ∃ (index : Nat) (field : Field),
    relation.schema.fields[index]? = some field ∧ field.nullable = false
      ∧ ∃ row ∈ relation.rows,
          row.getD index .null = .null
            ∨ (Disagrees relation index
              ∧ ((row.getD index .null).toUtf8 shown).toDecimal
                  (widestScale shown relation.rows index)
                = .null)

/-- Nothing but decimals that disagreed has changed: the other fields are those reported, the
other cells those executed.
-/
structure OnlyDecimalsChanged (relation result : Batches) : Prop where
  decimals : ∀ index (field : Field), Disagrees relation index
    → relation.schema.fields[index]? = some field → field.dataType.isDecimal128 = true
  fields : ∀ index, ¬ Disagrees relation index
    → result.schema.fields[index]? = relation.schema.fields[index]?
  rows : List.Forall₂
    (fun batch other => ∃ change : Row → Row, other.rows = batch.rows.map change
      ∧ ∀ row (index : Nat), ¬ Disagrees relation index → (change row)[index]? = row[index]?)
    relation.batches result.batches

/-- The reconciliation is loud or right: it never panics, what it returns agrees with itself
and with what was executed, and what it cannot settle is an error.
-/
structure LoudOrRight (shown : ScalarValue → String) (relation : Batches) : Prop where
  calm : ∀ message, reconcileExecuted shown relation ≠ .error (.panic message)
  agrees : ∀ result, reconcileExecuted shown relation = .ok result
    → ∀ batch ∈ result.batches, Agrees result.schema batch.schema
  unchanged : ∀ result, reconcileExecuted shown relation = .ok result
    → OnlyDecimalsChanged relation result
  loud : ∀ batch ∈ relation.batches,
    ¬ (Accepts relation.schema batch.schema ∧ ¬ Clashes relation.schema batch.schema)
      → ∃ failure, reconcileExecuted shown relation = .error (.arrow failure)

-----------------------------------------------------------------------------------------
-- One batch
-----------------------------------------------------------------------------------------

/-- A schema without clashes that covers the reported columns settles with them. -/
theorem settles_iff {reported executed : Schema}
    : Settles reported executed ↔ ¬ Clashes reported executed ∧ ¬ Short reported executed := by
  constructor
  · intro settles
    constructor
    · intro clashes
      obtain ⟨index, field, other, declared, executed', ne, apart⟩ := clashes
      obtain ⟨other', executed'', settled⟩ := settles index field declared
      rw [executed'] at executed''
      cases executed''
      rcases settled with same | both
      · exact ne same
      · simp [both.1, both.2] at apart
    · intro short
      have inside : executed.fields.length < reported.fields.length := short
      obtain ⟨other, found, _⟩ :=
        settles executed.fields.length _ (List.getElem?_eq_getElem inside)
      exact absurd (List.getElem?_eq_some_iff.mp found).1 (Nat.lt_irrefl _)
  · intro both index field declared
    obtain ⟨calm, covers⟩ := both
    have inside := (List.getElem?_eq_some_iff.mp declared).1
    have within : index < executed.fields.length := by
      simp only [Short, Nat.not_lt] at covers
      omega
    refine ⟨_, List.getElem?_eq_getElem within, ?_⟩
    by_contra unsettled
    rw [not_or] at unsettled
    apply calm
    refine ⟨index, field, _, declared, List.getElem?_eq_getElem within, unsettled.1, ?_⟩
    simpa using unsettled.2

/-- A clash from an index on is reported, as long as the columns before it are there; by
induction over the fields from there on.
-/
theorem collectDecimalDisagreements_clash {executed : Schema} (fields : List Field)
    (start : Nat) (decimals : List Nat)
    (clash
      : ∃ (offset : Nat) (field other : Field), fields[offset]? = some field
          ∧ executed.fields[start + offset]? = some other
          ∧ other.dataType ≠ field.dataType
          ∧ (field.dataType.isDecimal128 && other.dataType.isDecimal128) = false)
    : ∃ failure,
        collectDecimalDisagreements executed fields start decimals = .error (.arrow failure) := by
  induction fields generalizing start decimals with
  | nil =>
      obtain ⟨offset, field, other, declared, _⟩ := clash
      cases declared
  | cons head rest ih =>
      obtain ⟨offset, field, other, declared, there, ne, apart⟩ := clash
      have inside : start < executed.fields.length := by
        have := (List.getElem?_eq_some_iff.mp there).1
        omega
      unfold collectDecimalDisagreements
      rw [List.getElem?_eq_getElem inside]
      cases offset with
      | zero =>
          cases declared
          rw [Nat.add_zero, List.getElem?_eq_getElem inside] at there
          cases there
          simp [ne, apart]
      | succ offset =>
          have next (found : List Nat)
              : ∃ failure,
                  collectDecimalDisagreements executed rest (start + 1) found
                    = .error (.arrow failure) := by
            apply ih (start + 1) found
            refine ⟨offset, field, other, by simpa using declared, ?_, ne, apart⟩
            rw [← there]
            congr 1
            omega
          dsimp only
          split
          · exact next decimals
          · split
            · exact next _
            · exact ⟨_, rfl⟩

/-- A missing column without a clash before it panics; by induction over the fields. -/
theorem collectDecimalDisagreements_short {executed : Schema} (fields : List Field)
    (start : Nat) (decimals : List Nat) (inside : start ≤ executed.fields.length)
    (short : executed.fields.length < start + fields.length)
    (calm
      : ∀ (offset : Nat) (field other : Field), fields[offset]? = some field
          → executed.fields[start + offset]? = some other
          → other.dataType = field.dataType
            ∨ (field.dataType.isDecimal128 && other.dataType.isDecimal128) = true)
    : ∃ message,
        collectDecimalDisagreements executed fields start decimals = .error (.panic message) := by
  induction fields generalizing start decimals with
  | nil =>
      simp only [List.length_nil, Nat.add_zero] at short
      omega
  | cons head rest ih =>
      unfold collectDecimalDisagreements
      cases found : executed.fields[start]? with
      | none => exact ⟨_, rfl⟩
      | some other =>
          have within := (List.getElem?_eq_some_iff.mp found).1
          have next (recorded : List Nat)
              : ∃ message,
                  collectDecimalDisagreements executed rest (start + 1) recorded
                    = .error (.panic message) := by
            apply ih (start + 1) recorded (by omega)
            · rw [List.length_cons] at short
              omega
            · intro offset field other' declared there
              apply calm (offset + 1) field other' (by simpa using declared)
              rw [← there]
              congr 1
              omega
          rcases calm 0 head other rfl (by simpa using found) with same | both
          · simpa [same] using next decimals
          · dsimp only
            split
            · exact next decimals
            · exact next _

-----------------------------------------------------------------------------------------
-- All batches
-----------------------------------------------------------------------------------------

/-- No schema clashes with itself. -/
theorem not_clashes_self (schema : Schema) : ¬ Clashes schema schema := by
  intro clashes
  obtain ⟨index, field, other, declared, executed, ne, _⟩ := clashes
  rw [declared] at executed
  cases executed
  exact ne rfl

/-- A clash is reported when the batches before it have all columns; by induction on where it
is.
-/
theorem decimalDisagreements_loud {schema : Schema} {batches : List RecordBatch}
    (decimals : List Nat) (loud : Loud schema batches)
    : ∃ failure, decimalDisagreements schema batches decimals = .error (.arrow failure) := by
  induction loud generalizing decimals with
  | @here batch rest clashes =>
      have departs : ¬ batch.schema = schema := by
        intro same
        rw [same] at clashes
        exact not_clashes_self schema clashes
      obtain ⟨index, field, other, declared, executed, ne, apart⟩ := clashes
      obtain ⟨failure, ran⟩ := collectDecimalDisagreements_clash schema.fields 0 decimals
        ⟨index, field, other, declared, by rwa [Nat.zero_add], ne, apart⟩
      refine ⟨failure, ?_⟩
      rw [decimalDisagreements, if_neg departs, ran]
      rfl
  | @later batch rest covers tail ih =>
      rw [decimalDisagreements]
      by_cases same : batch.schema = schema
      · rw [if_pos same]
        exact ih decimals
      rw [if_neg same]
      by_cases clashes : Clashes schema batch.schema
      · obtain ⟨index, field, other, declared, executed, ne, apart⟩ := clashes
        obtain ⟨failure, ran⟩ := collectDecimalDisagreements_clash schema.fields 0 decimals
          ⟨index, field, other, declared, by rwa [Nat.zero_add], ne, apart⟩
        rw [ran]
        exact ⟨failure, rfl⟩
      · obtain ⟨more, ran, _⟩ := collectDecimalDisagreements_spec
          (settles_iff.mpr ⟨clashes, covers⟩) decimals (fun offset => by rw [Nat.zero_add])
        rw [ran]
        exact ih more

/-- A batch that lacks a column is a panic when no clash is reported; by induction over the
batches.
-/
theorem decimalDisagreements_panics {schema : Schema} {batches : List RecordBatch}
    (decimals : List Nat) (quiet : ¬ Loud schema batches)
    (short : ∃ batch ∈ batches, Short schema batch.schema)
    : ∃ message, decimalDisagreements schema batches decimals = .error (.panic message) := by
  induction batches generalizing decimals with
  | nil =>
      obtain ⟨batch, member, _⟩ := short
      cases member
  | cons batch rest ih =>
      have calm : ¬ Clashes schema batch.schema := fun clashes => quiet (.here clashes)
      by_cases here : Short schema batch.schema
      · have departs : ¬ batch.schema = schema := by
          intro same
          rw [same] at here
          exact Nat.lt_irrefl _ here
        obtain ⟨message, ran⟩ := collectDecimalDisagreements_short schema.fields 0 decimals
          (Nat.zero_le _) (by rwa [Nat.zero_add]) (by
            intro offset field other declared executed
            by_contra apart
            rw [not_or] at apart
            rw [Nat.zero_add] at executed
            exact calm ⟨offset, field, other, declared, executed, apart.1, by
              simpa using apart.2⟩)
        refine ⟨message, ?_⟩
        rw [decimalDisagreements, if_neg departs, ran]
        rfl
      · have later : ∃ other ∈ rest, Short schema other.schema := by
          obtain ⟨other, member, lacks⟩ := short
          rcases List.mem_cons.mp member with rfl | inside
          · exact absurd lacks here
          · exact ⟨other, inside, lacks⟩
        have quiet' : ¬ Loud schema rest := fun loud => quiet (.later here loud)
        rw [decimalDisagreements]
        by_cases same : batch.schema = schema
        · rw [if_pos same]
          exact ih decimals quiet' later
        · obtain ⟨more, ran, _⟩ := collectDecimalDisagreements_spec
            (settles_iff.mpr ⟨calm, here⟩) decimals (fun offset => by rw [Nat.zero_add])
          rw [if_neg same, ran]
          exact ih more quiet' later

/-- Without a loud clash and a short batch, every batch settles with the reported schema. -/
theorem settles_of_quiet {schema : Schema} {batches : List RecordBatch}
    (quiet : ¬ Loud schema batches) (covers : ∀ batch ∈ batches, ¬ Short schema batch.schema)
    : ∀ batch ∈ batches, Settles schema batch.schema := by
  induction batches with
  | nil =>
      intro batch member
      cases member
  | cons head rest ih =>
      intro batch member
      rcases List.mem_cons.mp member with rfl | inside
      · exact settles_iff.mpr ⟨fun clashes => quiet (.here clashes), covers batch (by simp)⟩
      · exact ih (fun loud => quiet (.later (covers head (by simp)) loud))
          (fun other member => covers other (List.mem_cons_of_mem _ member)) batch inside

-----------------------------------------------------------------------------------------
-- Rebuilding what disagrees
-----------------------------------------------------------------------------------------

section Rebuilding

variable {shown : ScalarValue → String} {relation result : Batches} {found : List Nat}

/-- Rebuilding batches ends in an Arrow error, if in any; by induction over them. -/
theorem rebuildBatches_error {schema : Schema} {scales : List (Nat × Nat)}
    {pairs : List (RecordBatch × List (Nat × ArrayRef))} {fault : Fault}
    (ran : rebuildBatches schema scales pairs = .error fault)
    : ∃ failure, fault = .arrow failure := by
  induction pairs with
  | nil => cases ran
  | cons pair rest ih =>
      obtain ⟨batch, strings⟩ := pair
      rw [rebuildBatches] at ran
      cases built : rebuildBatch schema scales strings batch with
      | error other =>
          rw [built] at ran
          cases ran
          unfold rebuildBatch at built
          cases checked : RecordBatch.tryNew schema
              (batch.columns.mapIdx (rebuiltColumn scales strings)) with
          | ok rebuilt =>
              rw [checked] at built
              cases built
          | error failure =>
              rw [checked] at built
              cases built
              exact ⟨failure, rfl⟩
      | ok rebuilt =>
          rw [built] at ran
          cases later : rebuildBatches schema scales rest with
          | error other =>
              rw [later] at ran
              cases ran
              exact ih later
          | ok others =>
              rw [later] at ran
              cases ran

/-- Rebuilding columns that every batch has never panics. -/
theorem rebuildDecimals_error (has : ∀ batch ∈ relation.batches, batch.HasColumns found)
    {fault : Fault} (ran : rebuildDecimals shown relation found = .error fault)
    : ∃ failure, fault = .arrow failure := by
  obtain ⟨⟨strings, scales⟩, derived⟩ :=
    decimalStringsAndScales_ok shown has (found.map (fun index => (index, 0)))
  rw [rebuildDecimals, derived] at ran
  cases built : rebuildBatches (decimalSchema relation.schema scales) scales
      (relation.batches.zip strings) with
  | ok batches =>
      change (rebuildBatches (decimalSchema relation.schema scales) scales
        (relation.batches.zip strings) >>= _) = _ at ran
      rw [built] at ran
      cases ran
  | error other =>
      change (rebuildBatches (decimalSchema relation.schema scales) scales
        (relation.batches.zip strings) >>= _) = _ at ran
      rw [built] at ran
      cases ran
      exact rebuildBatches_error built

/-- A rebuilt batch has as many columns as its schema has fields; by induction. -/
theorem rebuildBatches_counts {schema : Schema} {scales : List (Nat × Nat)}
    {batches rebuilt : List RecordBatch} {strings : List (List (Nat × ArrayRef))}
    (lengths : batches.length = strings.length)
    (ran : rebuildBatches schema scales (batches.zip strings) = .ok rebuilt)
    : ∀ batch ∈ batches, batch.columns.length = schema.fields.length := by
  induction batches generalizing strings rebuilt with
  | nil =>
      intro batch member
      cases member
  | cons head rest ih =>
      cases strings with
      | nil => cases lengths
      | cons texts others =>
          rw [List.zip_cons_cons] at ran
          obtain ⟨other, here, tail₁⟩ := Except.bind_eq_ok.mp ran
          obtain ⟨more, there, _⟩ := Except.bind_eq_ok.mp tail₁
          intro batch member
          rcases List.mem_cons.mp member with rfl | inside
          · obtain ⟨schemas, columns, _⟩ :=
              RecordBatch.tryNew_eq_ok (Except.mapError_eq_ok.mp here)
            have types := congrArg List.length other.types
            rw [columns, schemas] at types
            simpa [Schema.types] using types
          · exact ih (by simpa using lengths) there batch inside

theorem rebuildDecimals_counts (ran : rebuildDecimals shown relation found = .ok result)
    : ∀ batch ∈ relation.batches, batch.columns.length = relation.schema.fields.length := by
  obtain ⟨⟨strings, scales⟩, derived, tail₁⟩ := Except.bind_eq_ok.mp ran
  obtain ⟨batches, built, _⟩ := Except.bind_eq_ok.mp tail₁
  have start : found.map (fun index => (index, 0)) = dataScales shown [] found := rfl
  rw [start] at derived
  obtain ⟨texts, _⟩ := decimalStringsAndScales_spec derived
  have counts := rebuildBatches_counts texts.length_eq built
  simpa [decimalSchema, Schema.new] using counts

/-- A batch has a column for each field. -/
theorem RecordBatch.columns_length (batch : RecordBatch)
    : batch.columns.length = batch.schema.fields.length := by
  have types := congrArg List.length batch.types
  simpa [Schema.types] using types

/-- What rebuilding the columns that disagree returns has changed nothing else. -/
theorem onlyDecimalsChanged_of_rebuilt
    (settles : ∀ batch ∈ relation.batches, Settles relation.schema batch.schema)
    (spec : ∀ index, index ∈ found ↔ Disagrees relation index)
    (rebuilt : Rebuilt shown found relation result)
    : OnlyDecimalsChanged relation result where
  decimals index field disagrees declared := by
    obtain ⟨batch, member, field', other, declared', executed, ne⟩ := disagrees
    rw [declared] at declared'
    cases declared'
    obtain ⟨other', executed', settled⟩ := settles batch member index field declared
    rw [executed] at executed'
    cases executed'
    rcases settled with same | both
    · exact absurd same ne
    · exact both.1
  fields index agrees := by
    have outside : index ∉ found := fun member => agrees ((spec index).mp member)
    rw [rebuilt.schema, decimalSchema_getElem?, lookup_dataScales, if_neg outside]
    simp
  rows := by
    refine rebuilt.batches.imp ?_
    intro batch other pair
    refine ⟨_, pair.2, ?_⟩
    intro row index agrees
    have outside : index ∉ found := fun member => agrees ((spec index).mp member)
    rw [convertRow, List.getElem?_mapIdx]
    cases row[index]? with
    | none => rfl
    | some cell => simp [convertCell, lookup_dataScales, outside]

/-- Converting the columns that disagree loses a required cell where one would be NULL. -/
theorem nullFree_iff (spec : ∀ index, index ∈ found ↔ Disagrees relation index)
    : NullFree shown found relation ↔ ¬ LosesRequired shown relation := by
  have converted (index : Nat) (cell : ScalarValue)
      : convertCell shown (dataScales shown relation.rows found) index cell = .null
        ↔ cell = .null
          ∨ (Disagrees relation index
            ∧ (cell.toUtf8 shown).toDecimal (widestScale shown relation.rows index) = .null) := by
    rw [convertCell, lookup_dataScales]
    by_cases member : index ∈ found
    · simp only [member, if_true]
      constructor
      · intro null
        exact Or.inr ⟨(spec index).mp member, null⟩
      · intro held
        rcases held with null | ⟨_, null⟩
        · rw [null]
          rfl
        · exact null
    · have agrees : ¬ Disagrees relation index := fun disagrees =>
        member ((spec index).mpr disagrees)
      simp [member, agrees]
  constructor
  · intro free loses
    obtain ⟨index, field, declared, required, row, member, null⟩ := loses
    exact free index field declared required row member ((converted index _).mpr null)
  · intro keeps index field declared required row member null
    exact keeps ⟨index, field, declared, required, row, member, (converted index _).mp null⟩

end Rebuilding

-----------------------------------------------------------------------------------------
-- Loud or right
-----------------------------------------------------------------------------------------

section Outcomes

variable {shown : ScalarValue → String} {relation : Batches}

/-- Schemas of what was rebuilt are one schema. -/
theorem agrees_self (schema : Schema) : Agrees schema schema where
  counts := rfl
  names index field other declared executed := by
    rw [declared] at executed
    cases executed
    rfl
  nullable index field other declared executed nullable := by
    rw [declared] at executed
    cases executed
    exact nullable
  types index field other declared executed := by
    rw [declared] at executed
    cases executed
    rfl

/-- A clash that is reported is loud. -/
theorem loudOrRight_of_loud (loud : Loud relation.schema relation.batches)
    : LoudOrRight shown relation := by
  obtain ⟨failure, ran⟩ := decimalDisagreements_loud [] loud
  have ends : reconcileExecuted shown relation = .error (.arrow failure) := by
    rw [reconcileExecuted, ran]
    rfl
  constructor
  · intro message panics
    rw [ends] at panics
    cases panics
  · intro result returned
    rw [ends] at returned
    cases returned
  · intro result returned
    rw [ends] at returned
    cases returned
  · exact fun _ _ _ => ⟨failure, ends⟩

/-- Without a loud clash, a short batch is a panic. -/
theorem not_loudOrRight_of_short (quiet : ¬ Loud relation.schema relation.batches)
    (short : ∃ batch ∈ relation.batches, Short relation.schema batch.schema)
    : ¬ LoudOrRight shown relation := by
  intro loudOrRight
  obtain ⟨message, ran⟩ := decimalDisagreements_panics [] quiet short
  apply loudOrRight.calm message
  rw [reconcileExecuted, ran]
  rfl

/-- Accepted batches without a disagreement are returned as they are, and agree. -/
theorem loudOrRight_of_same
    (settles : ∀ batch ∈ relation.batches, Settles relation.schema batch.schema)
    (same : ∀ index, ¬ Disagrees relation index)
    (accepts : ∀ batch ∈ relation.batches, Accepts relation.schema batch.schema)
    (ran : reconcileExecuted shown relation = .ok relation)
    : LoudOrRight shown relation where
  calm message panics := by
    rw [ran] at panics
    cases panics
  agrees result returned batch member := by
    rw [ran] at returned
    cases returned
    refine { accepts batch member with types := ?_ }
    intro index field other declared executed
    by_contra ne
    exact same index ⟨batch, member, field, other, declared, executed, ne⟩
  unchanged result returned := by
    rw [ran] at returned
    cases returned
    refine ⟨fun index field disagrees => absurd disagrees (same index), fun _ _ => rfl, ?_⟩
    refine List.forall₂_same.mpr ?_
    intro batch _
    exact ⟨id, by simp, fun _ _ _ => rfl⟩
  loud batch member disagrees :=
    absurd ⟨accepts batch member, (settles_iff.mp (settles batch member)).1⟩ disagrees

/-- Accepted batches that were rebuilt agree. -/
theorem loudOrRight_of_rebuilt {found : List Nat} {rebuilt : Batches}
    (settles : ∀ batch ∈ relation.batches, Settles relation.schema batch.schema)
    (spec : ∀ index, index ∈ found ↔ Disagrees relation index)
    (accepts : ∀ batch ∈ relation.batches, Accepts relation.schema batch.schema)
    (ran : reconcileExecuted shown relation = .ok rebuilt)
    (built : rebuildDecimals shown relation found = .ok rebuilt)
    : LoudOrRight shown relation where
  calm message panics := by
    rw [ran] at panics
    cases panics
  agrees result returned batch member := by
    rw [ran] at returned
    cases returned
    obtain ⟨_, _, schema, _⟩ := forall₂_right (rebuildDecimals_spec built).batches member
    rw [schema]
    exact agrees_self _
  unchanged result returned := by
    rw [ran] at returned
    cases returned
    exact onlyDecimalsChanged_of_rebuilt settles spec (rebuildDecimals_spec built)
  loud batch member disagrees :=
    absurd ⟨accepts batch member, (settles_iff.mp (settles batch member)).1⟩ disagrees

/-- What is returned was accepted, or a disagreement would have been silent. -/
theorem LoudOrRight.accepts (loudOrRight : LoudOrRight shown relation) {result : Batches}
    (ran : reconcileExecuted shown relation = .ok result)
    : ∀ batch ∈ relation.batches, Accepts relation.schema batch.schema := by
  intro batch member
  by_contra rejects
  obtain ⟨failure, fails⟩ := loudOrRight.loud batch member (fun both => rejects both.1)
  rw [ran] at fails
  cases fails

/-- When every batch settles with the reported schema; by cases on whether one disagrees and
whether the columns that do can be rebuilt.
-/
theorem loudOrRight_settled_iff
    (settles : ∀ batch ∈ relation.batches, Settles relation.schema batch.schema)
    : LoudOrRight shown relation
      ↔ (∀ batch ∈ relation.batches, Accepts relation.schema batch.schema)
        ∨ ((∃ index, Disagrees relation index)
          ∧ ((∃ batch ∈ relation.batches,
              batch.schema.fields.length ≠ relation.schema.fields.length)
            ∨ LosesRequired shown relation)) := by
  obtain ⟨found, spec, ran⟩ := reconcileExecuted_settled shown settles
  replace spec : ∀ index, index ∈ found ↔ Disagrees relation index := spec
  by_cases none : found = []
  · subst none
    have same : ∀ index, ¬ Disagrees relation index := by
      intro index disagrees
      cases (spec index).mpr disagrees
    replace ran : reconcileExecuted shown relation = .ok relation := ran
    constructor
    · intro loudOrRight
      exact Or.inl (loudOrRight.accepts ran)
    · intro held
      rcases held with accepts | ⟨⟨index, disagrees⟩, _⟩
      · exact loudOrRight_of_same settles same accepts ran
      · exact absurd disagrees (same index)
  have disagree : ∃ index, Disagrees relation index := by
    obtain ⟨index, member⟩ := List.exists_mem_of_ne_nil found none
    exact ⟨index, (spec index).mp member⟩
  have some : found.isEmpty = false := by simpa using none
  replace ran : reconcileExecuted shown relation = rebuildDecimals shown relation found := by
    rw [ran, some]
    rfl
  have has : ∀ batch ∈ relation.batches, batch.HasColumns found := by
    intro batch member index recorded
    obtain ⟨_, _, field, _, declared, _, _⟩ := (spec index).mp recorded
    obtain ⟨other, executed, _⟩ := settles batch member index field declared
    rw [batch.columns_length]
    exact (List.getElem?_eq_some_iff.mp executed).1
  cases built : rebuildDecimals shown relation found with
  | error fault =>
      obtain ⟨failure, rfl⟩ := rebuildDecimals_error has built
      rw [built] at ran
      constructor
      · intro _
        by_cases counts : ∀ batch ∈ relation.batches,
            batch.schema.fields.length = relation.schema.fields.length
        · have rebuildable := rebuildable_of_settles settles counts spec none
          refine Or.inr ⟨disagree, Or.inr ?_⟩
          by_contra keeps
          obtain ⟨rebuilt, returned⟩ :=
            (rebuildDecimals_ok_iff shown rebuildable).mpr ((nullFree_iff spec).mpr keeps)
          rw [built] at returned
          cases returned
        · simp only [not_forall] at counts
          obtain ⟨batch, member, ne⟩ := counts
          exact Or.inr ⟨disagree, Or.inl ⟨batch, member, ne⟩⟩
      · intro _
        constructor
        · intro message panics
          rw [ran] at panics
          cases panics
        · intro result returned
          rw [ran] at returned
          cases returned
        · intro result returned
          rw [ran] at returned
          cases returned
        · exact fun _ _ _ => ⟨failure, ran⟩
  | ok rebuilt =>
      rw [built] at ran
      have counts : ∀ batch ∈ relation.batches,
          batch.schema.fields.length = relation.schema.fields.length := by
        intro batch member
        rw [← batch.columns_length]
        exact rebuildDecimals_counts built batch member
      have rebuildable := rebuildable_of_settles settles counts spec none
      have keeps : ¬ LosesRequired shown relation :=
        (nullFree_iff spec).mp ((rebuildDecimals_ok_iff shown rebuildable).mp ⟨rebuilt, built⟩)
      constructor
      · intro loudOrRight
        exact Or.inl (loudOrRight.accepts ran)
      · intro held
        rcases held with accepts | ⟨_, ⟨batch, member, ne⟩ | loses⟩
        · exact loudOrRight_of_rebuilt settles spec accepts ran built
        · exact absurd (counts batch member) ne
        · exact absurd loses keeps

/-- Reconciliation is loud or right exactly when a clash is met before any missing column, or
no column is missing and what else disagrees is refused by the rebuilding of a decimal that
disagrees too.
-/
theorem reconcileExecuted_loudOrRight_iff (shown : ScalarValue → String) (relation : Batches)
    : LoudOrRight shown relation
      ↔ Loud relation.schema relation.batches
        ∨ ((∀ batch ∈ relation.batches, Settles relation.schema batch.schema)
          ∧ ((∀ batch ∈ relation.batches, Accepts relation.schema batch.schema)
            ∨ ((∃ index, Disagrees relation index)
              ∧ ((∃ batch ∈ relation.batches,
                  batch.schema.fields.length ≠ relation.schema.fields.length)
                ∨ LosesRequired shown relation)))) := by
  by_cases loud : Loud relation.schema relation.batches
  · exact ⟨fun _ => Or.inl loud, fun _ => loudOrRight_of_loud loud⟩
  by_cases short : ∃ batch ∈ relation.batches, Short relation.schema batch.schema
  · constructor
    · intro loudOrRight
      exact absurd loudOrRight (not_loudOrRight_of_short loud short)
    · intro held
      rcases held with heard | ⟨settles, _⟩
      · exact absurd heard loud
      · obtain ⟨batch, member, lacks⟩ := short
        exact absurd lacks (settles_iff.mp (settles batch member)).2
  · have covers : ∀ batch ∈ relation.batches, ¬ Short relation.schema batch.schema :=
      fun batch member lacks => short ⟨batch, member, lacks⟩
    have settles := settles_of_quiet loud covers
    rw [loudOrRight_settled_iff settles]
    constructor
    · exact fun held => Or.inr ⟨settles, held⟩
    · intro held
      rcases held with heard | ⟨_, held⟩
      · exact absurd heard loud
      · exact held

end Outcomes

/-- A nullable column with a NULL under a schema that declares it NOT NULL. -/
def lyingAnswer : Batches where
  schema := .new [.new "v" .int64 false]
  batches :=
    [
      {
        schema := .new [.new "v" .int64 true]
        columns := [{ dataType := .int64, cells := [.null], typed := by decide }]
        numRows := 1
        types := rfl
        lengths := by decide
        nonNull := by decide
      }
    ]

/-- A batch of one column under a schema of two. -/
def shortAnswer : Batches where
  schema := .new [.new "v" .int64 true, .new "w" .int64 true]
  batches := lyingAnswer.batches

/-- The first goes through as it is, the second panics. -/
theorem reconcileExecuted_silent
    : ¬ LoudOrRight (fun _ => "") lyingAnswer ∧ ¬ LoudOrRight (fun _ => "") shortAnswer := by
  constructor
  · intro loudOrRight
    have agrees := loudOrRight.agrees lyingAnswer rfl _ (List.mem_singleton.mpr rfl)
    cases agrees.nullable 0 _ _ rfl rfl rfl
  · intro loudOrRight
    exact loudOrRight.calm _ rfl

end Fedqrs
