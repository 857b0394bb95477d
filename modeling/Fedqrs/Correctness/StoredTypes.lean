import Fedqrs.Correctness.Reconcile
import Fedqrs.Engine.Effects
import Fedqrs.Engine.ProbeAnswers
import Fedqrs.Semantics.ReferenceEngine

/-! When every stored relation tells the truth about its batches. The Postgres and DuckDB reads
and the collected frames settle their types; a Parquet answer and a key set are stored under
the logical schema of the frame they were executed from.
-/

namespace Fedqrs

-----------------------------------------------------------------------------------------
-- Answers of Postgres
-----------------------------------------------------------------------------------------

/-- Every batch has the declared number of columns. -/
def Batches.Shaped (relation : Batches) : Prop :=
  ∀ batch ∈ relation.batches, batch.columns.length = relation.schema.fields.length

/-- The number of declared columns. -/
def Batches.width (relation : Batches) : Nat := relation.schema.fields.length

theorem Batches.Truthful.shaped {relation : Batches} (truthful : relation.Truthful)
    : relation.Shaped :=
  fun batch member => (truthful batch member).1

/-- Schemas of one length that differ nowhere have the same types. -/
theorem types_of_not_differs {reported executed : Schema}
    (counts : executed.fields.length = reported.fields.length)
    (same : ∀ index, ¬ Differs reported executed index)
    : executed.types = reported.types := by
  apply List.ext_getElem?
  intro index
  simp only [Schema.types, List.getElem?_map]
  cases declared : reported.fields[index]? with
  | none =>
      have none : executed.fields[index]? = none := by
        rw [List.getElem?_eq_none_iff] at declared ⊢
        omega
      rw [none]
  | some field =>
      have within : index < executed.fields.length := by
        rw [counts]
        exact (List.getElem?_eq_some_iff.mp declared).1
      rw [List.getElem?_eq_getElem within, Option.map_some, Option.map_some]
      by_contra differs
      have ne : executed.fields[index].dataType ≠ field.dataType :=
        fun equal => differs (congrArg some equal)
      exact same index ⟨field, _, declared, List.getElem?_eq_getElem within, ne⟩

section Postgres

variable {shown : ScalarValue → String} {relation result : Batches}

/-- Re-typed batches have the schema of the result. -/
theorem Rebuilt.truthful {columns : List Nat} (rebuilt : Rebuilt shown columns relation result)
    : result.Truthful := by
  apply Batches.truthful_of_types
  intro batch member
  obtain ⟨_, _, schema, _⟩ := forall₂_right rebuilt.batches member
  rw [schema]

theorem Rebuilt.width {columns : List Nat} (rebuilt : Rebuilt shown columns relation result)
    : result.width = relation.width := by
  simp [Batches.width, rebuilt.schema, decimalSchema, Schema.new]

/-- Reconciliation of batches with all their columns that succeeds returns the truth. -/
theorem reconcileExecuted_truthful (shaped : relation.Shaped)
    (ran : reconcileExecuted shown relation = .ok result)
    : result.Truthful ∧ result.width = relation.width := by
  have counts : ∀ batch ∈ relation.batches,
      batch.schema.fields.length = relation.schema.fields.length := by
    intro batch member
    rw [← batch.columns_length]
    exact shaped batch member
  have quiet : ¬ Loud relation.schema relation.batches := by
    intro loud
    obtain ⟨failure, failed⟩ := decimalDisagreements_loud [] loud
    obtain ⟨found, recorded, _⟩ := Except.bind_eq_ok.mp ran
    rw [failed] at recorded
    cases recorded
  have settles := settles_of_quiet quiet (fun batch member short => by
    have fewer : batch.schema.fields.length < relation.schema.fields.length := short
    have same := counts batch member
    omega)
  obtain ⟨found, spec, reconciled⟩ := reconcileExecuted_settled shown settles
  rw [reconciled] at ran
  split at ran
  · rename_i none
    cases ran
    refine ⟨Batches.truthful_of_types ?_, rfl⟩
    intro batch member
    apply types_of_not_differs (counts batch member)
    intro index differs
    have recorded := (spec index).mpr ⟨batch, member, differs⟩
    rw [List.isEmpty_iff.mp none] at recorded
    cases recorded
  · have rebuilt := rebuildDecimals_spec ran
    exact ⟨rebuilt.truthful, rebuilt.width⟩

/-- So does the normalization of an answer with all its columns. -/
theorem normalizeAnswer_truthful {answer : Batches} (shaped : answer.Shaped)
    (ran : normalizeAnswer shown answer = .ok result)
    : result.Truthful ∧ result.width = answer.width := by
  obtain ⟨normalized, first, second⟩ := Except.bind_eq_ok.mp ran
  have first := Except.mapError_eq_ok.mp first
  have second := Except.mapError_eq_ok.mp second
  have kept : normalized.Shaped ∧ normalized.width = answer.width := by
    unfold normalizeNumeric at first
    dsimp only at first
    split at first
    · cases first
      exact ⟨shaped, rfl⟩
    · have rebuilt := rebuildDecimals_spec first
      exact ⟨rebuilt.truthful.shaped, rebuilt.width⟩
  obtain ⟨truthful, width⟩ := reconcileExecuted_truthful kept.1 second
  exact ⟨truthful, width.trans kept.2⟩

/-- And the gathering of answers that have the same number of columns. -/
theorem gatherAnswers_truthful {answers : List Batches} {columns : Nat}
    (shaped : ∀ answer ∈ answers, answer.Shaped ∧ answer.width = columns)
    (ran : gatherAnswers shown answers = .ok result)
    : result.Truthful := by
  obtain ⟨parts, mapped, whole⟩ := Except.bind_eq_ok.mp ran
  have each := Except.mapM_eq_ok mapped
  have truthful : ∀ part ∈ parts, part.Shaped ∧ part.width = columns := by
    intro part member
    obtain ⟨answer, inside, normalized⟩ := forall₂_right each member
    obtain ⟨kept, width⟩ := shaped answer inside
    obtain ⟨true, same⟩ := normalizeAnswer_truthful kept normalized
    exact ⟨true.shaped, same.trans width⟩
  cases parts with
  | nil => cases whole
  | cons first rest =>
      refine (reconcileExecuted_truthful ?_ (Except.mapError_eq_ok.mp whole)).1
      intro batch member
      obtain ⟨part, inside, held⟩ := List.mem_flatMap.mp member
      obtain ⟨kept, width⟩ := truthful part inside
      have head : first.width = columns := (truthful first (by simp)).2
      exact (kept batch held).trans (width.trans head.symm)

end Postgres

-----------------------------------------------------------------------------------------
-- Answers of the sources
-----------------------------------------------------------------------------------------

/-- An answer to a select list of columns has that many. -/
def Sql.Fits (sql : Sql) (answer : Batches) : Prop :=
  match sql with
  | .select query =>
      match query.list with
      | .columns names => answer.width = names.length
      | .text _ => True
  | .raw _ | .wrapped _ _ | .catalog _ => True

/-- What is taken of a source's answer. Postgres may report a column at another type than its
batches have, but reports and returns the columns asked for; the batches of DuckDB have the
reported types.
-/
def AnswerConforms (registry : NameMap DsSpec) : Event → Prop
  | .read datasource _ sql (.ok answer) =>
      ∀ found, registry.lookup datasource = some found
        → match found.kind with
          | .postgres => answer.Shaped ∧ sql.Fits answer
          | .duckDb => answer.Truthful
          | .parquet => True
  | .read _ _ _ (.error _) | .recalled _ _ | .shipping _ _ | .shipped _ _ _ | .cleared => True

/-- A Parquet query is executed with the types of its frame's logical schema. -/
def LogicalAnswer (registry : NameMap DsSpec) : Event → Prop
  | .read datasource _ _ (.ok answer) =>
      ∀ found, registry.lookup datasource = some found → found.kind = .parquet → answer.Truthful
  | .read _ _ _ (.error _) | .recalled _ _ | .shipping _ _ | .shipped _ _ _ | .cleared => True

/-- Relations made of such answers are truthful, by cases on how they are made. -/
theorem MadeOf.truthful {shown : ScalarValue → String} {registry : NameMap DsSpec}
    {datasource : String} {found : DsSpec} {events : List Event} {result : Batches}
    (registered : registry.lookup datasource = some found)
    (conform : ∀ event ∈ events, AnswerConforms registry event)
    (logical : ∀ event ∈ events, LogicalAnswer registry event)
    (made : MadeOf shown datasource found.kind events result)
    : result.Truthful := by
  cases made with
  | received logged received =>
      obtain ⟨session, member⟩ := logged
      have conforms := conform _ member found registered
      have typed := logical _ member found registered
      cases kind : found.kind with
      | postgres =>
          simp only [kind] at conforms received
          exact (normalizeAnswer_truthful conforms.1 received).1
      | duckDb =>
          simp only [kind] at conforms received
          cases received
          exact conforms
      | parquet =>
          simp only [kind] at received
          cases received
          exact typed kind
  | @gathered names source whereClause ranges answers _ postgres logged gathered =>
      have fits : ∀ answer ∈ answers, answer.Shaped ∧ answer.width = names.length := by
        intro answer member
        obtain ⟨range, _, session, asked⟩ := forall₂_right logged member
        have conforms := conform _ asked found registered
        simp only [postgres] at conforms
        exact conforms
      exact gatherAnswers_truthful fits gathered

-----------------------------------------------------------------------------------------
-- Collected relations
-----------------------------------------------------------------------------------------

/-- What the engine collects from DataFusion, keys apart, is truthful. -/
theorem Frames.fusion_truthful (frames : Frames)
    : Collects frames.fusion Batches.Truthful where
  executeRegion ran := by
    obtain ⟨frame, _, collected⟩ := Except.bind_eq_ok.mp ran
    have schemas := (collectBatches_spec collected).1
    exact Batches.truthful_of_types (fun batch member => by rw [schemas batch member])
  projectDataframeDedup ran := by
    have schemas := (projectDataframeDedup_spec ran).1
    exact Batches.truthful_of_types (fun batch member => by rw [schemas batch member])
  collectTable ran := by
    obtain ⟨frame, _, collected⟩ := Except.bind_eq_ok.mp ran
    have schemas := (collectBatches_spec collected).1
    exact Batches.truthful_of_types (fun batch member => by rw [schemas batch member])

/-- A frame is executed with the types of its logical schema. -/
def Frame.Logical (frame : Frame) : Prop :=
  ∀ executed, frame.collectTracked = .ok executed
    → ∀ batch ∈ executed, batch.schema.types = frame.logical.types

theorem collectDistinctKeys_truthful {frames : Frames} {build : LogicalPlan Batches}
    {key : String} {keys : Batches}
    (logical : ∀ frame, frames.keyFrame build key = .ok frame → frame.Logical)
    (ran : collectDistinctKeys frames build key = .ok keys)
    : keys.Truthful := by
  obtain ⟨frame, planned, later⟩ := Except.bind_eq_ok.mp ran
  obtain ⟨executed, collected, done⟩ := Except.bind_eq_ok.mp later
  cases done
  exact Batches.truthful_of_types (logical frame planned executed collected)

-----------------------------------------------------------------------------------------
-- Runs
-----------------------------------------------------------------------------------------

/-- A binding whose batches, if it keeps any, have the types it declares. -/
def Binding.Truthful : Binding Batches → Prop
  | .materialized batches | .keys batches => batches.Truthful
  | .lazy _ | .spilled _ => True

/-- Every binding tells the truth about its batches. -/
def AllTruthful (bindings : Bindings Batches) : Prop :=
  ∀ name binding, bindings.lookup name = some binding → binding.Truthful

/-- The plan that the keys of a binding are collected from. -/
def buildPlan (bindings : Bindings Batches) (name : String) : Option (LogicalPlan Batches) :=
  match bindings.lookup name with
  | some (.materialized batches) => some (.memTable batches)
  | some (.spilled spilled) => some (.spillStream spilled.file)
  | some (.keys _) | some (.lazy _) | none => none

section Runs

variable {engine : Engine Sources Batches} {frames : Frames} {drivers : Drivers}
  {shown : ScalarValue → String} {machine : Machine Sources Batches} {step : Step}

/-- The answers that a step receives conform. -/
def Conforms (engine : Engine Sources Batches) : Machine Sources Batches → Step → Prop :=
  Moves engine (fun before after =>
    ∀ event ∈ newEvents before after, AnswerConforms before.registry event)

/-- What a step stores under a logical schema is executed with its types: the Parquet answers
it receives, and the keys it collects.
-/
structure Logical (engine : Engine Sources Batches) (frames : Frames)
    (machine : Machine Sources Batches) (step : Step)
    : Prop where
  answers
    : Moves engine (fun before after =>
        ∀ event ∈ newEvents before after, LogicalAnswer before.registry event) machine step
  keys : ∀ input key maxDistinct binding, step = .collectDistinct input key maxDistinct binding
    → ∀ forced build frame,
        forceMaterialized engine.host engine.fusion input machine = (.ok (), forced)
          → buildPlan forced.bindings input = some build
          → frames.keyFrame build key = .ok frame
          → frame.Logical

/-- A key set is collected from the plan of its binding. -/
theorem collectDistinctFrom_eq_ok {name key : String} {keys : Batches}
    {reached : Machine Sources Batches}
    (ran : collectDistinctFrom frames.fusion name key machine = (.ok keys, reached))
    : ∃ build, buildPlan machine.bindings name = some build
        ∧ collectDistinctKeys frames build key = .ok keys := by
  unfold collectDistinctFrom at ran
  rw [Proc.get_bind_apply] at ran
  cases found : machine.bindings.lookup name with
  | none =>
      simp only [found] at ran
      cases ran
  | some binding =>
      cases binding with
      | materialized batches =>
          simp only [found] at ran
          obtain ⟨_, _, _, collected⟩ := Proc.bind_eq_ok.mp ran
          rw [liftDf_apply] at collected
          refine ⟨.memTable batches, by simp [buildPlan, found], ?_⟩
          exact Except.mapError_eq_ok.mp (Prod.mk.inj collected).1
      | spilled spilled =>
          simp only [found] at ran
          rw [liftDf_apply] at ran
          refine ⟨.spillStream spilled.file, by simp [buildPlan, found], ?_⟩
          exact Except.mapError_eq_ok.mp (Prod.mk.inj ran).1
      | keys | lazy =>
          simp only [found] at ran
          cases ran

/-- What such a step fetches and collects is truthful; by cases on the step. -/
theorem Logical.yields (fusion : engine.fusion = frames.fusion)
    (native : engine.connectors = nativeConnectors drivers shown)
    (conforms : Conforms engine machine step) (logical : Logical engine frames machine step)
    : Yields engine Batches.Truthful Batches.Truthful machine step := by
  have answers := logical.answers
  cases step with
  | sourceScan datasource scan binding _ =>
      intro batches reached ran
      simp only [Conforms, Moves, ran] at conforms answers
      rw [native] at ran
      obtain ⟨found, registered, made⟩ := madeOf_fetchSource ran
      exact made.truthful registered conforms answers
  | injectedScan datasource scan injectColumn keysFrom binding injectColumnNdv extras =>
      intro keys extraSets batches reached readKeys readExtras ran
      have conforms := conforms keys extraSets readKeys readExtras
      have answers := answers keys extraSets readKeys readExtras
      rw [ran] at conforms answers
      rw [native] at ran
      obtain ⟨found, registered, made⟩ := madeOf_runInjectedScan ran
      exact made.truthful registered conforms answers
  | collectDistinct input key maxDistinct binding =>
      intro forced keys forcing collected
      rw [fusion] at collected
      obtain ⟨build, plan, ran⟩ := collectDistinctFrom_eq_ok collected
      refine collectDistinctKeys_truthful ?_ ran
      intro frame planned
      exact logical.keys input key maxDistinct binding rfl forced build frame forcing plan planned
  | ship | merge | «return» => trivial

/-- Such a step keeps every binding truthful. -/
theorem Logical.runStep (fusion : engine.fusion = frames.fusion)
    (native : engine.connectors = nativeConnectors drivers shown) (ir : Ir)
    (conforms : Conforms engine machine step) (logical : Logical engine frames machine step)
    (truthful : AllTruthful machine.bindings)
    : AllTruthful (Fedqrs.runStep engine ir step machine).2.bindings := by
  have collects : Collects engine.fusion Batches.Truthful := by
    rw [fusion]
    exact frames.fusion_truthful
  have moves : Moves engine (fun _ _ => True) machine step := by
    cases step <;> simp [Moves]
  have inserted
      : ∀ (bindings : Bindings Batches) name (binding : Binding Batches), AllTruthful bindings
          → binding.Truthful → AllTruthful (bindings.insert name binding) := by
    intro bindings name binding held holds other found lookup
    by_cases same : other = name
    · subst same
      rw [AList.lookup_insert] at lookup
      cases lookup
      exact holds
    · rw [AList.lookup_insert_ne same] at lookup
      exact held other found lookup
  have kept
      : ∀ before after : Machine Sources Batches,
          Effect engine.host Batches.Truthful Batches.Truthful (fun _ _ => True) before after
            → AllTruthful before.bindings → AllTruthful after.bindings := by
    intro before after change held
    cases change with
    | dropped name =>
        intro other binding lookup
        by_cases same : other = name
        · subst same
          rw [AList.lookup_erase] at lookup
          cases lookup
        · rw [AList.lookup_erase_ne same] at lookup
          exact held other binding lookup
    | counted | moved | written => exact held
    | stored name batches holds => exact inserted _ _ _ held holds
    | collected name batches holds => exact inserted _ _ _ held holds
    | onDisk | composed => exact inserted _ _ _ held trivial
  exact runStep_keeps collects ir kept machine step (logical.yields fusion native conforms) moves
    truthful

/-- In a run whose Parquet answers and key sets are executed with their logical types, every
binding tells the truth about its batches, in each state between two steps and at the end.
-/
theorem execute_truthful (engine : Engine Sources Batches) (frames : Frames)
    (drivers : Drivers) (shown : ScalarValue → String)
    (fusion : engine.fusion = frames.fusion)
    (native : engine.connectors = nativeConnectors drivers shown) (ir : Ir) (sources : Sources)
    (conforms : Proc.Along (Fedqrs.runStep engine ir) (Conforms engine) ir.steps
      (Machine.start ir (engine.connectors.clearShipments sources)))
    (logical : Proc.Along (Fedqrs.runStep engine ir) (Logical engine frames) ir.steps
      (Machine.start ir (engine.connectors.clearShipments sources)))
    : (∀ later machine,
        Proc.Passes (Fedqrs.runStep engine ir) ir.steps
            (Machine.start ir (engine.connectors.clearShipments sources)) later machine
          → AllTruthful machine.bindings)
        ∧ AllTruthful
            (runSteps engine ir (engine.connectors.clearShipments sources)).2.bindings := by
  have kept
      : ∀ machine step,
          Conforms engine machine step ∧ Logical engine frames machine step
            → AllTruthful machine.bindings
            → AllTruthful (Fedqrs.runStep engine ir step machine).2.bindings := by
    intro machine step held truthful
    exact held.2.runStep fusion native ir held.1 truthful
  have start : AllTruthful (∅ : Bindings Batches) := by
    intro name binding found
    simp at found
  constructor
  · intro later machine passes
    exact passes.preserves kept start (conforms.and logical)
  · exact Proc.runUntil_preserves kept ir.steps _ start (conforms.and logical)

end Runs

-----------------------------------------------------------------------------------------
-- A union whose type widens
-----------------------------------------------------------------------------------------

theorem unionCells_typed
    : ∀ cell ∈ [ScalarValue.decimal128 100 27 2, .decimal128 250 27 2],
        cell.fits (.decimal128 27 2) = true := by
  decide

/-- The rows of a union of two columns. -/
def unionBatch : RecordBatch where
  schema := .new [.new "total" (.decimal128 27 2) true]
  columns :=
    [{
      dataType := .decimal128 27 2
      cells := [.decimal128 100 27 2, .decimal128 250 27 2]
      typed := unionCells_typed
    }]
  numRows := 2
  types := rfl
  lengths := by decide
  nonNull := by decide

/-- The union under a logical type. -/
def widenedUnion (logical : DataType) : Batches where
  schema := .new [.new "total" logical true]
  batches := [unionBatch]

/-- Drivers that answer every query with a union under a logical type. -/
def unionDrivers (logical : DataType) : Drivers :=
  { tableDrivers with answer := fun _ _ _ _ _ => .ok (widenedUnion logical) }

/-- DataFusion that executes every distinct key frame as a union under a logical type. -/
def unionFrames (logical : DataType) : Frames where
  registerTable _ _ := .ok ()
  compose _ _ := .ok ()
  frame _ _ :=
    .ok
      {
        logical := (widenedUnion logical).schema
        collectTracked := .ok (widenedUnion logical).batches
      }
  keyFrame _ _ :=
    .ok
      {
        logical := (widenedUnion logical).schema
        collectTracked := .ok (widenedUnion logical).batches
      }
  tableFrame _ _ := .error (.plan "no table")
  violations _ _ := .ok 0
  debug field := field.name

/-- The engine over such drivers and such a DataFusion. -/
def unionEngine (answers keys : DataType) : Engine Sources Batches where
  host := roomyHost
  fusion := (unionFrames keys).fusion
  exprs := formExprs
  connectors := nativeConnectors (unionDrivers answers) (fun _ => "")

def unionSources : Sources :=
  Sources.new
    [("lake", { kind := .parquet, uri := "dir", adbcDriver := none })]
    (fun _ => Catalog.empty)

/-- Unite two columns of a Parquet table and collect the distinct values. -/
def unionPlan : Ir where
  outputs := []
  steps :=
    [.sourceScan "lake" { rawSql := some "SELECT v AS total FROM t UNION ALL SELECT w FROM t" }
        "x" true,
      .collectDistinct "x" "total" 10 "k",
      .return "x"]
  fragments := ∅

def widened : DataType := .decimal128 27 2

def narrow : DataType := .decimal128 17 2

/-- Where both are executed with their logical types, the stored relations are truthful. -/
theorem execute_truthful_unionPlan
    : AllTruthful
        (runSteps (unionEngine widened widened) unionPlan
          ((unionEngine widened widened).connectors.clearShipments unionSources)).2.bindings := by
  have truthful : (widenedUnion widened).Truthful := by
    apply Batches.truthful_of_types
    intro batch member
    cases List.mem_singleton.mp member
    rfl
  refine (execute_truthful (unionEngine widened widened) (unionFrames widened)
    (unionDrivers widened) (fun _ => "") rfl rfl unionPlan unionSources ?_ ?_).2
  · refine ⟨?_, ?_⟩
    · intro event member
      cases List.mem_singleton.mp member
      intro found registered
      cases registered
      trivial
    · intro scanned ran
      cases ran
      refine ⟨trivial, ?_⟩
      intro collected ran
      cases ran
      exact ⟨trivial, fun _ _ => trivial⟩
  · refine ⟨⟨?_, fun _ _ _ _ same => by cases same⟩, ?_⟩
    · intro event member
      cases List.mem_singleton.mp member
      intro found registered _
      exact truthful
    · intro scanned ran
      cases ran
      refine ⟨⟨trivial, ?_⟩, ?_⟩
      · intro _ _ _ _ _ _ _ frame _ _ planned executed collected batch member
        cases planned
        cases collected
        cases List.mem_singleton.mp member
        rfl
      · intro collected ran
        cases ran
        exact ⟨⟨trivial, fun _ _ _ _ same => by cases same⟩, fun _ _ => trivial⟩

/-- A Parquet union is stored under a type its batches do not have, and so is a key set. -/
theorem execute_stores_logical_types
    : (∃ machine,
        Proc.Passes (runStep (unionEngine narrow widened) unionPlan) unionPlan.steps
            (Machine.start unionPlan (clearShipments unionSources)) (unionPlan.steps.drop 1) machine
          ∧ ¬ AllTruthful machine.bindings)
      ∧ ∃ machine,
        Proc.Passes (runStep (unionEngine widened narrow) unionPlan) unionPlan.steps
            (Machine.start unionPlan (clearShipments unionSources)) (unionPlan.steps.drop 2) machine
          ∧ ¬ AllTruthful machine.bindings := by
  constructor
  · refine ⟨_, .next rfl .here, ?_⟩
    intro truthful
    have types := (truthful "x" _ rfl unionBatch (List.mem_singleton.mpr rfl)).2
    exact absurd types (by decide)
  · refine ⟨_, .next rfl (.next rfl .here), ?_⟩
    intro truthful
    have types := (truthful "k" _ rfl unionBatch (List.mem_singleton.mpr rfl)).2
    exact absurd types (by decide)

end Fedqrs
