import Fedqrs.Engine.Collect

/-! When a projection with repeated output names gives what it would under different ones. The
plain path takes its schema from the executed batches, the eager one from the logical plan.
-/

namespace Fedqrs

-----------------------------------------------------------------------------------------
-- Rebuilt batches
-----------------------------------------------------------------------------------------

/-- The rows of a batch are those of its columns, if it has one. -/
theorem RecordBatch.rows_of_columns {batch other : RecordBatch}
    (same : other.columns = batch.columns) (nonempty : batch.columns ≠ [])
    : other.rows = batch.rows := by
  obtain ⟨first, rest, columns⟩ := List.exists_cons_of_ne_nil nonempty
  have here := batch.lengths first (by simp [columns])
  have there := other.lengths first (by simp [same, columns])
  have row : other.row = batch.row := by
    funext index
    simp only [RecordBatch.row, same]
  rw [RecordBatch.rows, RecordBatch.rows, ← here, ← there, row]

/-- Rebuilding succeeds where every batch meets the checks and has a column; by induction over
the batches.
-/
theorem reschema_of_checked {schema : Schema} {batches : List RecordBatch}
    (checked : ∀ batch ∈ batches, RecordBatch.Checked schema batch.columns batch.numRows)
    (nonempty : ∀ batch ∈ batches, batch.columns ≠ [])
    : ∃ rebuilt, reschema schema batches = .ok rebuilt := by
  induction batches with
  | nil => exact ⟨[], rfl⟩
  | cons head rest ih =>
      obtain ⟨batch, built, _⟩ :=
        RecordBatch.tryNew_of_checked (checked head (by simp)) (nonempty head (by simp))
      obtain ⟨others, more⟩ := ih
        (fun other member => checked other (List.mem_cons_of_mem _ member))
        (fun other member => nonempty other (List.mem_cons_of_mem _ member))
      refine ⟨batch :: others, ?_⟩
      rw [reschema, built, more]
      rfl

/-- What was rebuilt met the checks, and kept its columns; by induction over the batches. -/
theorem reschema_spec {schema : Schema} {batches rebuilt : List RecordBatch}
    (ran : reschema schema batches = .ok rebuilt)
    : (∀ batch ∈ batches, RecordBatch.Checked schema batch.columns batch.numRows)
        ∧ (∀ batch ∈ batches, batch.columns ≠ [])
        ∧ rebuilt.flatMap RecordBatch.rows = batches.flatMap RecordBatch.rows := by
  induction batches generalizing rebuilt with
  | nil =>
      cases ran
      simp
  | cons head rest ih =>
      obtain ⟨batch, built, later⟩ := Except.bind_eq_ok.mp ran
      obtain ⟨others, more, done⟩ := Except.bind_eq_ok.mp later
      cases done
      obtain ⟨_, columns, passed⟩ := RecordBatch.tryNew_eq_ok (Except.mapError_eq_ok.mp built)
      have nonempty := RecordBatch.columns_of_check passed
      have checked := RecordBatch.checked_of_ok passed
      obtain ⟨checks, filled, rows⟩ := ih more
      have here : RecordBatch.Checked schema head.columns head.numRows :=
        ⟨checked.types, head.lengths, checked.nonNull⟩
      refine ⟨?_, ?_, ?_⟩
      · intro other member
        rcases List.mem_cons.mp member with rfl | inside
        · exact here
        · exact checks other inside
      · intro other member
        rcases List.mem_cons.mp member with rfl | inside
        · exact nonempty
        · exact filled other inside
      · rw [List.flatMap_cons, List.flatMap_cons, rows,
          RecordBatch.rows_of_columns columns nonempty]

-----------------------------------------------------------------------------------------
-- Schemas that differ in names
-----------------------------------------------------------------------------------------

/-- The columns have the same types and the same nullability. -/
structure SameShape (schema other : Schema) : Prop where
  types : other.types = schema.types
  nullable : other.fields.map Field.nullable = schema.fields.map Field.nullable

theorem SameShape.symm {schema other : Schema} (same : SameShape schema other)
    : SameShape other schema :=
  ⟨same.types.symm, same.nullable.symm⟩

theorem SameShape.trans {first second third : Schema} (head : SameShape first second)
    (tail : SameShape second third)
    : SameShape first third :=
  ⟨tail.types.trans head.types, tail.nullable.trans head.nullable⟩

theorem nonNull_iff {fields : List Field} {columns : List ArrayRef}
    : (∀ pair ∈ fields.zip columns, pair.1.nullable = true ∨ pair.2.nullCount = 0)
      ↔ ∀ pair ∈ (fields.map Field.nullable).zip columns,
          pair.1 = true ∨ pair.2.nullCount = 0 := by
  simp only [List.zip_map_left, List.forall_mem_map, Prod.map_fst, Prod.map_snd, id]

/-- The checks of a batch do not look at names. -/
theorem RecordBatch.Checked.of_sameShape {schema other : Schema} {columns : List ArrayRef}
    {numRows : Nat} (same : SameShape schema other)
    (checked : RecordBatch.Checked schema columns numRows)
    : RecordBatch.Checked other columns numRows where
  types := checked.types.trans same.types.symm
  lengths := checked.lengths
  nonNull := by
    rw [nonNull_iff, same.nullable]
    exact nonNull_iff.mp checked.nonNull

/-- The output schema has the columns of the internal one under the intended names. -/
theorem outputSchema_sameShape {internal : Schema} {outputs : List Projection}
    (width : internal.fields.length = outputs.length)
    : SameShape internal (outputSchema internal outputs)
        ∧ (outputSchema internal outputs).fields.map Field.name
          = outputs.map Projection.aliasName := by
  have firsts : (internal.fields.zip outputs).map Prod.fst = internal.fields :=
    List.map_fst_zip width.le
  have seconds : (internal.fields.zip outputs).map Prod.snd = outputs :=
    List.map_snd_zip width.ge
  refine ⟨⟨?_, ?_⟩, ?_⟩
  · simp only [Schema.types, outputSchema, Schema.new, Field.new, List.map_map]
    nth_rewrite 2 [← firsts]
    rw [List.map_map]
    rfl
  · simp only [outputSchema, Schema.new, Field.new, List.map_map]
    nth_rewrite 2 [← firsts]
    rw [List.map_map]
    rfl
  · simp only [outputSchema, Schema.new, Field.new, List.map_map]
    nth_rewrite 2 [← seconds]
    rw [List.map_map]
    rfl

-----------------------------------------------------------------------------------------
-- Internal names
-----------------------------------------------------------------------------------------

/-- The internal names are different, since numbers are when their texts are. -/
theorem internalAliases_unique (outputs : List Projection)
    : uniqueAliases (internalAliases outputs) = true := by
  have names
      : (internalAliases outputs).map Projection.aliasName
        = (List.range outputs.length).map (fun index => "__c" ++ toString index) := by
    apply List.ext_getElem
    · simp [internalAliases]
    · intro index inside other
      simp [internalAliases]
  have injective : Function.Injective (fun index : Nat => "__c" ++ toString index) := by
    intro index other same
    have texts := congrArg String.toList same
    simp only [String.toList_append, List.append_cancel_left_eq] at texts
    have digits : Nat.toDigits 10 index = Nat.toDigits 10 other := by
      rw [← Nat.toList_repr, ← Nat.toList_repr]
      exact texts
    rw [← Nat.ofDigitChars_ten_toDigits (n := index), digits, Nat.ofDigitChars_ten_toDigits]
  rw [uniqueAliases, names, decide_eq_true_iff]
  exact (List.nodup_range).map injective

theorem internalAliases_exprs (outputs : List Projection)
    : (internalAliases outputs).map Projection.expr = outputs.map Projection.expr := by
  apply List.ext_getElem
  · simp [internalAliases]
  · intro index inside other
    simp [internalAliases]

-----------------------------------------------------------------------------------------
-- Frames that differ in names
-----------------------------------------------------------------------------------------

/-- A frame with the shape and the columns of another one. -/
structure Frame.Alike (frame other : Frame) : Prop where
  shape : SameShape frame.logical other.logical
  executed : ∀ batches, frame.collectTracked = .ok batches
    → ∃ others, other.collectTracked = .ok others
        ∧ others.map RecordBatch.columns = batches.map RecordBatch.columns

/-- What is taken of DataFusion's projections: a frame has a field for each output, and
different names for the outputs change nothing but the names.
-/
structure Projecting (frames : Frames) : Prop where
  width : ∀ {fragment : Fragment} {names inputs frame}, fragment.projections ≠ []
    → frames.frame (.fragment fragment names inputs) false = .ok frame
    → frame.logical.fields.length = fragment.projections.length
  renamed : ∀ {fragment : Fragment} {outputs others names inputs frame},
    outputs.map Projection.expr = others.map Projection.expr
    → uniqueAliases outputs = true
    → uniqueAliases others = true
    → frames.frame (.fragment (fragment.withProjections outputs) names inputs) false = .ok frame
    → ∃ other,
        frames.frame (.fragment (fragment.withProjections others) names inputs) false = .ok other
          ∧ frame.Alike other

section Alike

variable {batches others : List RecordBatch} {schema : Schema}

/-- Batches with the same columns meet the same checks. -/
theorem checked_of_columns (same : others.map RecordBatch.columns = batches.map RecordBatch.columns)
    (checked : ∀ batch ∈ batches, RecordBatch.Checked schema batch.columns batch.numRows)
    : ∀ other ∈ others, RecordBatch.Checked schema other.columns other.numRows := by
  intro other member
  have inside : other.columns ∈ batches.map RecordBatch.columns := by
    rw [← same]
    exact List.mem_map_of_mem member
  obtain ⟨batch, held, columns⟩ := List.mem_map.mp inside
  have checks := checked batch held
  rw [columns] at checks
  exact ⟨checks.types, other.lengths, checks.nonNull⟩

/-- Batches with the same columns, at least one each, hold the same rows; by induction over
them.
-/
theorem rows_of_sameColumns
    (same : others.map RecordBatch.columns = batches.map RecordBatch.columns)
    (nonempty : ∀ batch ∈ batches, batch.columns ≠ [])
    : others.flatMap RecordBatch.rows = batches.flatMap RecordBatch.rows := by
  induction batches generalizing others with
  | nil =>
      rw [List.map_nil, List.map_eq_nil_iff] at same
      rw [same]
  | cons head rest ih =>
      obtain ⟨other, more, rfl, columns, later⟩ := List.map_eq_cons_iff.mp same
      rw [List.flatMap_cons, List.flatMap_cons,
        RecordBatch.rows_of_columns columns (nonempty head (by simp)),
        ih later (fun batch member => nonempty batch (List.mem_cons_of_mem _ member))]

end Alike

-----------------------------------------------------------------------------------------
-- The two paths
-----------------------------------------------------------------------------------------

/-- The relation has the types and the rows of the other one, under repeated names. -/
structure UnderNames (outputs : List Projection) (plain deduped : Batches) : Prop where
  names : deduped.schema.fields.map Field.name = outputs.map Projection.aliasName
  types : deduped.schema.types = plain.schema.types
  rows : deduped.rows.Perm plain.rows

/-- Executed with hash joins the plan succeeds, with the types of its logical schema and without
a NULL in a column that the logical schema declares NOT NULL.
-/
def FitsLogical (frames : Frames) (plan : LogicalPlan Batches) : Prop :=
  ∃ frame executed,
    frames.frame plan false = .ok frame
      ∧ frame.collectTracked = .ok executed
      ∧ ∀ batch ∈ executed, RecordBatch.Checked frame.logical batch.columns batch.numRows

/-- The plan gives one relation whatever the joins it runs with, up to the order of its rows. -/
def Steady (frames : Frames) (plan : LogicalPlan Batches) : Prop :=
  ∀ hashed sorted, frames.fusion.executeRegion plan false = .ok hashed
    → frames.fusion.executeRegion plan true = .ok sorted
    → hashed.schema.types = sorted.schema.types ∧ hashed.rows.Perm sorted.rows

section Paths

variable {frames : Frames} {fragment : Fragment} {unique : List Projection}
  {ctx : Context Batches} {inputBytes : Nat}

/-- Only a join or a projection fragment has outputs to project. -/
theorem composeFragment_projected (frames : Frames) (ctx : Context Batches) (inputBytes : Nat)
    (projects : fragment.projections ≠ []) (outputs : List Projection)
    : composeFragment frames.fusion (fragment.withProjections outputs) ctx inputBytes
          = projectedBinding frames.fusion (fragment.withProjections outputs) outputs ctx
              inputBytes
        ∧ (fragment.withProjections outputs).projections = outputs := by
  cases fragment with
  | hashJoin | nestedLoopJoin | project => exact ⟨rfl, rfl⟩
  | aggregate | sort | filter | limit | singleRowGuard | rawSql => exact absurd rfl projects

theorem withProjections_self (fragment : Fragment)
    : fragment.withProjections fragment.projections = fragment := by
  cases fragment <;> rfl

/-- Under different names a projection stays a plan. -/
theorem composeFragment_unique (projects : fragment.projections ≠ [])
    (different : uniqueAliases unique = true) {region : LazyRegion Batches}
    (composed
      : composeFragment frames.fusion (fragment.withProjections unique) ctx inputBytes
        = .ok (.lazy region))
    : region.plan = composedPlan (fragment.withProjections unique) ctx := by
  rw [(composeFragment_projected frames ctx inputBytes projects unique).1, projectedBinding,
    if_pos different] at composed
  obtain ⟨_, _, done⟩ := Except.bind_eq_ok.mp composed
  cases done
  rfl

theorem projections_of_repeated (repeated : uniqueAliases fragment.projections = false)
    : fragment.projections ≠ [] := by
  intro none
  rw [none] at repeated
  exact absurd repeated (by decide)

/-- Under repeated ones it is executed at once. -/
theorem composeFragment_repeated (repeated : uniqueAliases fragment.projections = false)
    (deduped : Batches)
    : composeFragment frames.fusion fragment ctx inputBytes = .ok (.materialized deduped)
      ↔ projectDataframeDedup frames (composedPlan fragment ctx) = .ok deduped := by
  have projected := (composeFragment_projected frames ctx inputBytes
    (projections_of_repeated repeated) fragment.projections).1
  rw [withProjections_self] at projected
  rw [projected, projectedBinding, repeated]
  constructor
  · intro composed
    obtain ⟨batches, executed, done⟩ := Except.bind_eq_ok.mp composed
    cases done
    exact executed
  · intro executed
    have executed : frames.fusion.projectDataframeDedup (composedPlan fragment ctx) = .ok deduped :=
      executed
    simp only [Bool.false_eq_true, if_false, executed]
    rfl

/-- The frame under internal names has a field for each output. -/
theorem internal_width (projecting : Projecting frames) (projects : fragment.projections ≠ [])
    {names : List String} {inputs : List (LogicalPlan Batches)} {frame : Frame}
    (planned
      : frames.frame
          (.fragment (fragment.withProjections (internalAliases fragment.projections)) names
            inputs)
          false
        = .ok frame)
    : frame.logical.fields.length = fragment.projections.length := by
  have outputs
      : (fragment.withProjections (internalAliases fragment.projections)).projections
        = internalAliases fragment.projections :=
    (composeFragment_projected frames [] 0 projects _).2
  have some : (internalAliases fragment.projections) ≠ [] := by
    simpa [internalAliases] using projects
  have counted := projecting.width (by rwa [outputs]) planned
  rw [counted, outputs, internalAliases, List.length_mapIdx]

/-- Columns of a projection are at least one. -/
theorem filled_of_checked {schema : Schema} {executed : List RecordBatch}
    (width : schema.fields.length = fragment.projections.length)
    (projects : fragment.projections ≠ [])
    (checked : ∀ batch ∈ executed, RecordBatch.Checked schema batch.columns batch.numRows)
    : ∀ batch ∈ executed, batch.columns ≠ [] := by
  intro batch member none
  have lengths := congrArg List.length (checked batch member).types
  rw [none] at lengths
  simp only [Schema.types, List.length_map, List.length_nil, width] at lengths
  exact projects (List.length_eq_zero_iff.mp lengths.symm)

/-- A frame whose batches fit its logical schema is collected with its types. -/
theorem collectBatches_of_checked {frame : Frame} {executed : List RecordBatch}
    (collected : frame.collectTracked = .ok executed)
    (checked : ∀ batch ∈ executed, RecordBatch.Checked frame.logical batch.columns batch.numRows)
    (filled : ∀ batch ∈ executed, batch.columns ≠ [])
    : ∃ relation, collectBatches frame = .ok relation
        ∧ relation.schema.types = frame.logical.types
        ∧ relation.rows = executed.flatMap RecordBatch.rows := by
  have ofNullable : ∀ schema : Schema, (nullableSchema schema).types = schema.types := by
    intro schema
    simp [Schema.types, nullableSchema, Schema.new, Field.new, Function.comp_def]
  obtain ⟨schema, collects, types, fits⟩
      : ∃ schema,
          (∀ rebuilt, reschema schema executed = .ok rebuilt
            → collectBatches frame = .ok { schema, batches := rebuilt })
          ∧ schema.types = frame.logical.types
          ∧ ∀ batch ∈ executed, RecordBatch.Checked schema batch.columns batch.numRows := by
    cases executed with
    | nil =>
        refine ⟨frame.logical, ?_, rfl, fun batch member => by cases member⟩
        intro rebuilt rebuilds
        refine Except.bind_eq_ok.mpr ⟨[], collected, ?_⟩
        exact Except.bind_eq_ok.mpr ⟨rebuilt, rebuilds, rfl⟩
    | cons first rest =>
        have types : (nullableSchema first.schema).types = frame.logical.types := by
          rw [ofNullable, ← first.types]
          exact (checked first (by simp)).types
        refine ⟨nullableSchema first.schema, ?_, types, ?_⟩
        · intro rebuilt rebuilds
          refine Except.bind_eq_ok.mpr ⟨first :: rest, collected, ?_⟩
          exact Except.bind_eq_ok.mpr ⟨rebuilt, rebuilds, rfl⟩
        · intro batch member
          refine ⟨(checked batch member).types.trans types.symm, batch.lengths, ?_⟩
          intro pair inside
          obtain ⟨field, _, same⟩ := List.mem_map.mp (List.of_mem_zip inside).1
          left
          rw [← same]
          rfl
  obtain ⟨rebuilt, rebuilds⟩ := reschema_of_checked fits filled
  exact ⟨{ schema, batches := rebuilt }, collects rebuilt rebuilds, types,
    (reschema_spec rebuilds).2.2⟩

/-- A frame that fits its logical schema is deduplicated to the same rows. -/
theorem projectDataframeDedup_of_fits (projecting : Projecting frames)
    (projects : fragment.projections ≠ []) (different : uniqueAliases unique = true)
    (same : unique.map Projection.expr = fragment.projections.map Projection.expr)
    {frame : Frame} {executed : List RecordBatch}
    (planned : frames.frame (composedPlan (fragment.withProjections unique) ctx) false = .ok frame)
    (collected : frame.collectTracked = .ok executed)
    (checked : ∀ batch ∈ executed, RecordBatch.Checked frame.logical batch.columns batch.numRows)
    : ∃ deduped,
        projectDataframeDedup frames (composedPlan fragment ctx) = .ok deduped
          ∧ deduped.schema.fields.map Field.name = fragment.projections.map Projection.aliasName
          ∧ deduped.schema.types = frame.logical.types
          ∧ deduped.rows = executed.flatMap RecordBatch.rows
          ∧ ∀ batch ∈ executed, batch.columns ≠ [] := by
  have exprs
      : unique.map Projection.expr = (internalAliases fragment.projections).map Projection.expr :=
    same.trans (internalAliases_exprs fragment.projections).symm
  obtain ⟨other, renamed, alike⟩ :=
    projecting.renamed exprs different (internalAliases_unique fragment.projections) planned
  obtain ⟨others, ran, columns⟩ := alike.executed executed collected
  have width := internal_width projecting projects renamed
  obtain ⟨shape, names⟩ := outputSchema_sameShape width
  have whole := alike.shape.trans shape
  have checks : ∀ batch ∈ others,
      RecordBatch.Checked (outputSchema other.logical fragment.projections) batch.columns
        batch.numRows := by
    intro batch member
    exact (checked_of_columns columns checked batch member).of_sameShape whole
  have fields : frame.logical.fields.length = fragment.projections.length := by
    have same := congrArg List.length alike.shape.types
    simpa [Schema.types, width] using same.symm
  have filled := filled_of_checked fields projects checked
  have others_filled : ∀ batch ∈ others, batch.columns ≠ [] := by
    intro batch member none
    have inside : batch.columns ∈ executed.map RecordBatch.columns := by
      rw [← columns]
      exact List.mem_map_of_mem member
    obtain ⟨source, held, same⟩ := List.mem_map.mp inside
    exact filled source held (same.trans none)
  obtain ⟨rebuilt, rebuilds⟩ := reschema_of_checked checks others_filled
  refine ⟨{ schema := _, batches := rebuilt }, ?_, names, whole.types, ?_, filled⟩
  · refine Except.bind_eq_ok.mpr ⟨other, renamed, ?_⟩
    refine Except.bind_eq_ok.mpr ⟨others, ran, ?_⟩
    exact Except.bind_eq_ok.mpr ⟨rebuilt, rebuilds, rfl⟩
  · have rows := (reschema_spec rebuilds).2.2
    rw [rows_of_sameColumns columns filled] at rows
    exact rows

/-- What is deduplicated fits its logical schema. -/
theorem fits_of_projectDataframeDedup (projecting : Projecting frames)
    (projects : fragment.projections ≠ []) (different : uniqueAliases unique = true)
    (same : unique.map Projection.expr = fragment.projections.map Projection.expr)
    {deduped : Batches}
    (ran : projectDataframeDedup frames (composedPlan fragment ctx) = .ok deduped)
    : FitsLogical frames (composedPlan (fragment.withProjections unique) ctx) := by
  obtain ⟨projected, planned, later⟩ := Except.bind_eq_ok.mp ran
  obtain ⟨executed, collected, later⟩ := Except.bind_eq_ok.mp later
  obtain ⟨batches, rebuilt, done⟩ := Except.bind_eq_ok.mp later
  cases done
  have exprs
      : (internalAliases fragment.projections).map Projection.expr = unique.map Projection.expr :=
    (internalAliases_exprs fragment.projections).trans same.symm
  obtain ⟨frame, renamed, alike⟩ :=
    projecting.renamed exprs (internalAliases_unique fragment.projections) different planned
  obtain ⟨others, run, columns⟩ := alike.executed executed collected
  have shape := (outputSchema_sameShape (internal_width projecting projects planned)).1
  have checked := (reschema_spec rebuilt).1
  refine ⟨frame, others, renamed, run, ?_⟩
  intro batch member
  have checks := checked_of_columns columns checked batch member
  exact checks.of_sameShape (shape.symm.trans alike.shape)

end Paths

/-- Where the plain path under different names succeeds, the eager one under the repeated names
gives the same types and rows exactly when the plan fits its logical schema.
-/
theorem repeatedNames_agree_iff (frames : Frames) (projecting : Projecting frames)
    (fragment : Fragment) (unique : List Projection) (ctx : Context Batches) (inputBytes : Nat)
    (region : LazyRegion Batches) (plain : Batches)
    (repeated : uniqueAliases fragment.projections = false)
    (different : uniqueAliases unique = true)
    (same : unique.map Projection.expr = fragment.projections.map Projection.expr)
    (composed
      : composeFragment frames.fusion (fragment.withProjections unique) ctx inputBytes
        = .ok (.lazy region))
    (steady : Steady frames region.plan)
    (forced : executeWithRetry frames.fusion region = .ok plain)
    : (∃ deduped,
          composeFragment frames.fusion fragment ctx inputBytes = .ok (.materialized deduped)
            ∧ UnderNames fragment.projections plain deduped
            ∧ (frames.fusion.executeRegion region.plan false = .ok plain
              → deduped.rows = plain.rows))
        ↔ FitsLogical frames region.plan := by
  have projects := projections_of_repeated repeated
  have plan := composeFragment_unique projects different composed
  constructor
  · intro agrees
    obtain ⟨deduped, materialized, _, _⟩ := agrees
    rw [composeFragment_repeated repeated] at materialized
    rw [plan]
    exact fits_of_projectDataframeDedup projecting projects different same materialized
  · intro fits
    obtain ⟨frame, executed, planned, collected, checked⟩ := fits
    obtain ⟨deduped, ran, names, types, rows, filled⟩ :=
      projectDataframeDedup_of_fits projecting projects different same (plan ▸ planned) collected
        checked
    obtain ⟨hashed, collects, types', rows'⟩ :=
      collectBatches_of_checked collected checked filled
    have executes : frames.fusion.executeRegion region.plan false = .ok hashed :=
      Except.bind_eq_ok.mpr ⟨frame, planned, collects⟩
    have agrees : hashed.schema.types = plain.schema.types ∧ hashed.rows.Perm plain.rows := by
      obtain ⟨spillable, ended⟩ := executeWithRetry_eq_ok forced
      cases spillable with
      | true => exact steady hashed plain executes ended
      | false =>
          rw [executes] at ended
          cases ended
          exact ⟨rfl, .refl _⟩
    refine ⟨deduped, (composeFragment_repeated repeated deduped).mpr ran, ⟨names, ?_, ?_⟩, ?_⟩
    · exact types.trans (types'.symm.trans agrees.1)
    · rw [rows, ← rows']
      exact agrees.2
    · intro ended
      rw [executes] at ended
      cases ended
      exact rows.trans rows'.symm

-----------------------------------------------------------------------------------------
-- Unions whose type widens
-----------------------------------------------------------------------------------------

/-- The two values of a union for each output. -/
def totalsBatch (outputs : List Projection) : RecordBatch where
  schema := .new (outputs.map (fun output => .new output.aliasName (.decimal128 27 2) true))
  columns :=
    outputs.map (fun _ =>
      {
        dataType := .decimal128 27 2
        cells := [.decimal128 100 27 2, .decimal128 250 27 2]
        typed := by decide
      })
  numRows := 2
  types := by simp [Schema.new, Schema.types, Field.new, Function.comp_def]
  lengths := by simp
  nonNull := by
    rw [nonNull_iff]
    intro pair member
    have nullable := (List.of_mem_zip member).1
    simp [Schema.new, Field.new] at nullable
    exact Or.inl nullable.2

/-- DataFusion that executes every projection as unions, under a logical type. -/
def totalsFrames (logical : DataType) : Frames where
  registerTable _ _ := .ok ()
  compose _ _ := .ok ()
  frame plan _ :=
    match plan with
    | .fragment fragment _ _ =>
        .ok
          {
            logical :=
              .new (fragment.projections.map (fun output =>
                .new output.aliasName logical true))
            collectTracked := .ok [totalsBatch fragment.projections]
          }
    | .memTable _ | .spillStream _ => .error (.plan "no projection")
  keyFrame _ _ := .error (.plan "no keys")
  tableFrame _ _ := .error (.plan "no table")
  violations _ _ := .ok 0
  debug field := field.name

/-- Outputs under some names. -/
def totals (names : List String) : List Projection :=
  names.map (fun aliasName => { expr := .column none "total", aliasName })

def totalsTwice : Fragment := .project (totals ["a", "a"]) false

/-- Names are all that the outputs of such a projection have. -/
theorem totalsFrames_projecting (logical : DataType) : Projecting (totalsFrames logical) where
  width _ planned := by
    cases planned
    simp [Schema.new]
  renamed := by
    intro fragment outputs others names inputs frame exprs _ _ planned
    cases planned
    have lengths : outputs.length = others.length := by
      simpa using congrArg List.length exprs
    have projected
        : (fragment.withProjections others).projections.length
          = (fragment.withProjections outputs).projections.length := by
      cases fragment <;> simp [Fragment.withProjections, Fragment.projections, lengths]
    refine ⟨_, rfl, ⟨⟨?_, ?_⟩, ?_⟩⟩
    · simp [Schema.types, Schema.new, Field.new, Function.comp_def, List.map_const', projected]
    · simp [Schema.new, Field.new, Function.comp_def, List.map_const', projected]
    · intro batches collected
      cases collected
      exact ⟨_, rfl, by simp [totalsBatch, List.map_const', projected]⟩

/-- Unions executed at the logical type are the same under repeated names. -/
theorem repeatedNames_agree_totals
    : ∃ region plain deduped,
        executeWithRetry (totalsFrames (.decimal128 27 2)).fusion region = .ok plain
          ∧ composeFragment (totalsFrames (.decimal128 27 2)).fusion totalsTwice [] 0
            = .ok (.materialized deduped)
          ∧ UnderNames totalsTwice.projections plain deduped := by
  have projecting := totalsFrames_projecting (.decimal128 27 2)
  obtain ⟨region, composed⟩
      : ∃ region,
          composeFragment (totalsFrames (.decimal128 27 2)).fusion
              (totalsTwice.withProjections (totals ["a", "b"])) [] 0
            = .ok (.lazy region) :=
    ⟨_, rfl⟩
  cases composed
  obtain ⟨plain, forced⟩
      : ∃ plain, executeWithRetry (totalsFrames (.decimal128 27 2)).fusion
          {
            plan := composedPlan (totalsTwice.withProjections (totals ["a", "b"])) []
            inputBytes := 0
          } = .ok plain :=
    ⟨_, rfl⟩
  have steady
      : Steady (totalsFrames (.decimal128 27 2))
          (composedPlan (totalsTwice.withProjections (totals ["a", "b"])) []) := by
    intro hashed sorted first second
    rw [show (totalsFrames (.decimal128 27 2)).fusion.executeRegion _ true
      = (totalsFrames (.decimal128 27 2)).fusion.executeRegion _ false from rfl, first] at second
    cases second
    exact ⟨rfl, .refl _⟩
  have agree := repeatedNames_agree_iff (totalsFrames (.decimal128 27 2)) projecting totalsTwice
    (totals ["a", "b"]) [] 0 _ plain rfl rfl rfl rfl steady forced
  obtain ⟨deduped, materialized, under, _⟩ := agree.mpr (by
    refine ⟨_, _, rfl, rfl, ?_⟩
    intro batch member
    cases List.mem_singleton.mp member
    exact ⟨rfl, by decide, by decide⟩)
  exact ⟨_, plain, deduped, forced, materialized, under⟩

/-- Unions executed at a wider type are collected under different names, and an error under
repeated ones.
-/
theorem repeatedNames_fail_on_widened_totals
    : (∃ region plain,
        composeFragment (totalsFrames (.decimal128 17 2)).fusion
            (totalsTwice.withProjections (totals ["a", "b"])) [] 0
          = .ok (.lazy region)
          ∧ executeWithRetry (totalsFrames (.decimal128 17 2)).fusion region = .ok plain)
        ∧ ∃ failure,
          composeFragment (totalsFrames (.decimal128 17 2)).fusion totalsTwice [] 0
            = .error failure :=
  ⟨⟨_, _, rfl, rfl⟩, _, rfl⟩

end Fedqrs
