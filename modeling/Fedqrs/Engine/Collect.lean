import Fedqrs.Arrow.Batches
import Fedqrs.Connectors.Interface
import Fedqrs.Engine.Fragments

/-! Collection of DataFusion frames into Arrow relations. Every relation but a collected key
set is stored under one schema taken from what was executed.
-/

namespace Fedqrs

/-- A planned DataFrame: its logical schema, and the batches its execution streams, charged
to the memory pool as they accumulate.
-/
structure Frame where
  logical : Schema
  collectTracked : Except DfError (List RecordBatch)

/-- DataFusion itself. `frame` plans the execution of a composed plan, with or without
spillable joins; `keyFrame` is the DISTINCT of one column's non-null values, `tableFrame` a
registered table read back and `violations` the row count of a guard's probe.
-/
structure Frames where
  registerTable : List String → String → Except DfError Unit
  compose : Fragment → Context Batches → Except DfError Unit
  frame : LogicalPlan Batches → Bool → Except DfError Frame
  keyFrame : LogicalPlan Batches → String → Except DfError Frame
  tableFrame : Context Batches → String → Except DfError Frame
  violations : List IrExpr → Context Batches → Except DfError Nat
  debug : Field → String

/-- An Arrow error inside a DataFusion one. -/
def ofArrow {α : Type} (result : Except ArrowError α) : Except DfError α :=
  result.mapError (fun failure => .other ("Arrow error: " ++ failure.text))

/-- The schema with every field nullable, each with its executed type. -/
def nullableSchema (schema : Schema) : Schema :=
  .new (schema.fields.map (fun field => .new field.name field.dataType true))

/-- The output schema: internal column types under the intended output names. -/
def outputSchema (internal : Schema) (project : List Projection) : Schema :=
  .new ((internal.fields.zip project).map (fun pair =>
    .new pair.2.aliasName pair.1.dataType pair.1.nullable))

/-- Rebuild each batch under the schema. -/
def reschema (schema : Schema) : List RecordBatch → Except DfError (List RecordBatch)
  | [] => .ok []
  | batch :: rest => do
      let rebuilt ← ofArrow (RecordBatch.tryNew schema batch.columns)
      let others ← reschema schema rest
      pure (rebuilt :: others)

/-- Collect a frame under one schema that all its batches conform to: the executed types of
the first batch, every field nullable; the logical schema when there is no batch.
-/
def collectBatches (frame : Frame) : Except DfError Batches := do
  let executed ← frame.collectTracked
  let schema :=
    match executed.head? with
    | some batch => nullableSchema batch.schema
    | none => frame.logical
  let batches ← reschema schema executed
  pure { schema, batches }

/-- The projection of a join or a projection fragment. -/
def Fragment.projections : Fragment → List Projection
  | .hashJoin _ _ _ outputs => outputs
  | .nestedLoopJoin _ _ outputs => outputs
  | .project outputs _ => outputs
  | .aggregate _ _ _ | .sort _ | .filter _ | .limit _ _ | .singleRowGuard _ | .rawSql _ => []

/-- The fragment with another projection. -/
def Fragment.withProjections (fragment : Fragment) (outputs : List Projection) : Fragment :=
  match fragment with
  | .hashJoin joinType leftKeys rightKeys _ => .hashJoin joinType leftKeys rightKeys outputs
  | .nestedLoopJoin joinType condition _ => .nestedLoopJoin joinType condition outputs
  | .project _ distinct => .project outputs distinct
  | .aggregate _ _ _ | .sort _ | .filter _ | .limit _ _ | .singleRowGuard _ | .rawSql _ =>
      fragment

/-- Unique internal names for the outputs of a projection. -/
def internalAliases (project : List Projection) : List Projection :=
  project.mapIdx (fun i output => { output with aliasName := "__c" ++ toString i })

section Frames

variable (frames : Frames)

/-- Execute a projection with repeated output names: under internal names first, then with
the collected schema renamed.
-/
def projectDataframeDedup : LogicalPlan Batches → Except DfError Batches
  | .fragment fragment names inputs => do
      let internal := fragment.withProjections (internalAliases fragment.projections)
      let projected ← frames.frame (.fragment internal names inputs) false
      let executed ← projected.collectTracked
      let schema := outputSchema projected.logical fragment.projections
      let batches ← reschema schema executed
      pure { schema, batches }
  | .memTable _ | .spillStream _ => .error (.plan "no projection to execute")

/-- The distinct keys, under the frame's logical schema. -/
def collectDistinctKeys (build : LogicalPlan Batches) (key : String)
    : Except DfError Batches := do
  let distinct ← frames.keyFrame build key
  let batches ← distinct.collectTracked
  pure { schema := distinct.logical, batches }

/-- `MemTable::try_new`: the schema has to contain every batch's own one. -/
def memTableTryNew (relation : Batches) : Except DfError Unit :=
  if relation.batches.all (fun batch => relation.schema.contains batch.schema) then
    .ok ()
  else
    .error (.plan "Mismatch between schema and batches")

/-- What differs between the declared fields and those of the first batch. -/
def schemaDiffs (relation : Batches) : Option String :=
  relation.batches.head?.map (fun batch =>
    let diffs :=
      (relation.schema.fields.zip batch.schema.fields).filterMap (fun pair =>
        if pair.1.contains pair.2 then
          none
        else
          some ("declared " ++ frames.debug pair.1 ++ " vs executed " ++ frames.debug pair.2))
    String.intercalate "; " diffs)

/-- The engine's operations over Arrow relations. -/
def Frames.fusion : DataFusion Batches where
  memTable := memTableTryNew
  schemaDiffs := schemaDiffs frames
  registerTable := frames.registerTable
  compose := frames.compose
  executeRegion plan spillableJoins := do
    let frame ← frames.frame plan spillableJoins
    collectBatches frame
  projectDataframeDedup := projectDataframeDedup frames
  collectDistinct := collectDistinctKeys frames
  guardViolations := frames.violations
  collectTable ctx name := do
    let frame ← frames.tableFrame ctx name
    collectBatches frame

end Frames

-----------------------------------------------------------------------------------------
-- Collected relations match their schema
-----------------------------------------------------------------------------------------

/-- Rebuilt batches have the schema they were rebuilt under, by induction over them. -/
theorem reschema_schema {schema : Schema} {batches rebuilt : List RecordBatch}
    (ran : reschema schema batches = .ok rebuilt)
    : ∀ batch ∈ rebuilt, batch.schema = schema := by
  induction batches generalizing rebuilt with
  | nil =>
      cases ran
      simp
  | cons head rest ih =>
      obtain ⟨batch, built, later⟩ := Except.bind_eq_ok.mp ran
      obtain ⟨others, more, done⟩ := Except.bind_eq_ok.mp later
      cases done
      intro other member
      rcases List.mem_cons.mp member with rfl | member
      · exact (RecordBatch.tryNew_eq_ok (Except.mapError_eq_ok.mp built)).1
      · exact ih more other member

/-- Batches under one schema without metadata pass the check of a MemTable. -/
theorem memTableTryNew_of_schema {relation : Batches}
    (batches : ∀ batch ∈ relation.batches, batch.schema = relation.schema)
    (plain : relation.batches ≠ [] → relation.schema.metadata = [])
    (fields : relation.batches ≠ [] → ∀ field ∈ relation.schema.fields, field.metadata = [])
    : memTableTryNew relation = .ok () := by
  unfold memTableTryNew
  rw [if_pos]
  apply List.all_eq_true.mpr
  intro batch member
  have some := List.ne_nil_of_mem member
  rw [batches batch member]
  exact Schema.contains_self (plain some) (fields some)

theorem nullableSchema_plain (schema : Schema)
    : ∀ field ∈ (nullableSchema schema).fields, field.metadata = [] := by
  intro field member
  obtain ⟨original, _, rfl⟩ := List.mem_map.mp member
  rfl

theorem outputSchema_plain (internal : Schema) (project : List Projection)
    : ∀ field ∈ (outputSchema internal project).fields, field.metadata = [] := by
  intro field member
  obtain ⟨pair, _, rfl⟩ := List.mem_map.mp member
  rfl

/-- A collected relation's batches have its schema, which is the executed one made nullable
as soon as there is a batch.
-/
theorem collectBatches_spec {frame : Frame} {relation : Batches}
    (ran : collectBatches frame = .ok relation)
    : (∀ batch ∈ relation.batches, batch.schema = relation.schema)
      ∧ (relation.batches ≠ [] → ∃ executed, relation.schema = nullableSchema executed) := by
  obtain ⟨executed, _, later⟩ := Except.bind_eq_ok.mp ran
  obtain ⟨batches, rebuilt, done⟩ := Except.bind_eq_ok.mp later
  cases done
  refine ⟨reschema_schema rebuilt, ?_⟩
  intro some
  cases executed with
  | nil =>
      cases rebuilt
      exact absurd rfl some
  | cons batch rest => exact ⟨batch.schema, rfl⟩

theorem collectBatches_conforms {frame : Frame} {relation : Batches}
    (ran : collectBatches frame = .ok relation)
    : memTableTryNew relation = .ok () := by
  obtain ⟨batches, nullable⟩ := collectBatches_spec ran
  refine memTableTryNew_of_schema batches ?_ ?_
  · intro some
    obtain ⟨executed, schema⟩ := nullable some
    rw [schema]
    rfl
  · intro some
    obtain ⟨executed, schema⟩ := nullable some
    rw [schema]
    exact nullableSchema_plain executed

theorem projectDataframeDedup_spec {frames : Frames} {plan : LogicalPlan Batches}
    {relation : Batches} (ran : projectDataframeDedup frames plan = .ok relation)
    : (∀ batch ∈ relation.batches, batch.schema = relation.schema)
      ∧ ∃ internal project, relation.schema = outputSchema internal project := by
  cases plan with
  | memTable | spillStream => cases ran
  | fragment fragment names inputs =>
      obtain ⟨projected, _, later⟩ := Except.bind_eq_ok.mp ran
      obtain ⟨executed, _, later⟩ := Except.bind_eq_ok.mp later
      obtain ⟨batches, rebuilt, done⟩ := Except.bind_eq_ok.mp later
      cases done
      exact ⟨reschema_schema rebuilt, _, _, rfl⟩

/-- Every relation the engine collects from DataFusion passes the check of a MemTable. -/
theorem Frames.fusion_conforming (frames : Frames) : frames.fusion.Conforming where
  executeRegion ran := by
    obtain ⟨frame, _, collected⟩ := Except.bind_eq_ok.mp ran
    exact collectBatches_conforms collected
  projectDataframeDedup ran := by
    obtain ⟨batches, internal, project, schema⟩ := projectDataframeDedup_spec ran
    refine memTableTryNew_of_schema batches ?_ ?_
    · rw [schema]
      exact fun _ => rfl
    · rw [schema]
      exact fun _ => outputSchema_plain internal project
  collectTable ran := by
    obtain ⟨frame, _, collected⟩ := Except.bind_eq_ok.mp ran
    exact collectBatches_conforms collected

end Fedqrs
