import Fedqrs.Correctness.NaiveRefinement
import Fedqrs.Correctness.SpillTransparency

/-! Whole runs of the engine against whole runs of the naive interpreter. -/

namespace Fedqrs

variable {σ β R : Type}

-----------------------------------------------------------------------------------------
-- The counts a run starts with
-----------------------------------------------------------------------------------------

/-- Counting names one by one adds the number of their occurrences, by induction over them. -/
theorem usesOf_foldl_bump (names : List String) (counts : NameMap Nat) (name : String)
    : usesOf (names.foldl bump counts) name = usesOf counts name + names.count name := by
  induction names generalizing counts with
  | nil => simp
  | cons head rest ih =>
      rw [List.foldl_cons, ih]
      unfold bump usesOf
      by_cases same : name = head
      · subst same
        simp
        omega
      · simp [AList.lookup_insert_ne same, List.count_cons_of_ne (Ne.symm same)]

/-- At the start each count is the number of reads of its name in the whole plan. -/
theorem usesOf_bindingUseCounts (ir : Ir) (name : String)
    : usesOf (bindingUseCounts ir) name = (ir.steps.flatMap Step.reads).count name := by
  rw [bindingUseCounts, usesOf_foldl_bump]
  simp [usesOf]

-----------------------------------------------------------------------------------------
-- Runs without a budget
-----------------------------------------------------------------------------------------

section Runs

variable [Fetched β] {engine : Engine σ β} {rows : β → R}
  {op : Fragment → List String → List R → Option R} {same : σ → σ → Prop}
  {naive naive' : NaiveState σ β} {machine machine' : Machine σ β}

omit [Fetched β] in
/-- Both interpreters start from the same sources and the counts of the whole plan. -/
theorem Refines.start (op : Fragment → List String → List R → Option R)
    (sources : RowSources engine rows same) (ir : Ir) (source : σ)
    : Refines engine.fusion rows op same (Naive.start source) (Machine.start ir source)
        (ir.steps.flatMap Step.reads) where
  source := sources.unchanged source
  uses := usesOf_bindingUseCounts ir
  values name _ value found := by simp [Naive.start] at found

/-- A loop follows the naive one, by induction over the steps. -/
theorem Refines.runUntil (fetched : FetchedRows rows) (sources : RowSources engine rows same)
    (operators : RowOperators engine.fusion rows op) (conforming : engine.fusion.Conforming)
    (ir : Ir) (missing : PyErr) (steps : List Step)
    (refines : Refines engine.fusion rows op same naive machine (steps.flatMap Step.reads))
    {batches : β}
    (ran : Proc.runUntil (Naive.runStep engine ir) missing steps naive = (.ok batches, naive'))
    : Follows (fun other _ => rows batches = rows other)
        (Proc.runUntil (Fedqrs.runStep engine.unlimited ir) missing steps machine) := by
  induction steps generalizing naive machine with
  | nil => cases ran
  | cons step rest ih =>
      obtain ⟨result, reached, first, later⟩ := Proc.bind_eq_ok.mp ran
      rw [List.flatMap_cons] at refines
      refine (refines.runStep fetched sources operators conforming ir step first).bind ?_
      rintro other after ⟨equal, next⟩
      cases equal with
      | none => exact ih (next rfl) later
      | some equal =>
          cases later
          exact equal

/-- Wherever both interpreters pass through, the refinement holds, by induction on how the
naive one got there.
-/
theorem Refines.passes (fetched : FetchedRows rows) (sources : RowSources engine rows same)
    (operators : RowOperators engine.fusion rows op) (conforming : engine.fusion.Conforming)
    {ir : Ir} {steps later : List Step}
    (refines : Refines engine.fusion rows op same naive machine (steps.flatMap Step.reads))
    (onNaive : Proc.Passes (Naive.runStep engine ir) steps naive later naive')
    (onMachine : Proc.Passes (Fedqrs.runStep engine.unlimited ir) steps machine later machine')
    : Refines engine.fusion rows op same naive' machine' (later.flatMap Step.reads) := by
  induction onNaive generalizing machine with
  | here =>
      cases onMachine with
      | here => exact refines
      | next ran tail => exact absurd tail.length_le (by simp)
  | next ran tail ih =>
      cases onMachine with
      | here => exact absurd tail.length_le (by simp)
      | next ran' tail' =>
          rw [List.flatMap_cons] at refines
          have follows := refines.runStep fetched sources operators conforming ir _ ran
          rw [ran'] at follows
          exact ih (follows.2 rfl) tail'

end Runs

-----------------------------------------------------------------------------------------
-- Refinement of the naive interpreter
-----------------------------------------------------------------------------------------

section Refinement

variable {same : σ → σ → Prop} {op : Fragment → List String → List Table → Option Table}

/-- A run that hands no relation to a file and does not fail for an exhausted pool returns
what the naive interpreter returns, as a bag of rows. On the way, a name that a step still
reads is bound wherever the naive interpreter has written it.
-/
theorem execute_refines_naive (engine : Engine σ Batches) (frames : Frames)
    (arrow : engine.fusion = frames.fusion)
    (sources : RowSources engine Batches.table same)
    (operators : RowOperators engine.fusion Batches.table op) (ir : Ir) (source : σ)
    (relation : Batches) (final : NaiveState σ Batches)
    (naive : Naive.execute engine ir source = (.ok relation, final))
    (unspilled
      : (runSteps engine ir (engine.connectors.clearShipments source)).2.files = [])
    (unexhausted
      : ∀ message,
          (execute engine ir source).1 ≠ .error (DfError.resourcesExhausted message).toPy)
    : (∃ returned, (execute engine ir source).1 = .ok returned
          ∧ returned.table = relation.table)
      ∧ ∀ later naiveState machine,
          Proc.Passes (Naive.runStep engine ir) ir.steps
              (Naive.start (engine.connectors.clearShipments source)) later naiveState
            → Proc.Passes (runStep engine ir) ir.steps
                (Machine.start ir (engine.connectors.clearShipments source)) later machine
            → ∀ step ∈ later, ∀ name ∈ step.reads,
                (naiveState.values.lookup name).isSome → (machine.bindings.lookup name).isSome := by
  have conforming : engine.fusion.Conforming := arrow ▸ frames.fusion_conforming
  have begun := Refines.start op sources ir (engine.connectors.clearShipments source)
  constructor
  · have follows := begun.runUntil Batches.fetchedRows sources operators conforming ir
      "IR had no `return` step" ir.steps naive
    obtain ⟨_, same⟩ := runUntil_unspilled ir "IR had no `return` step" ir.steps _ unspilled
    rw [same] at follows
    rcases ran : runSteps engine ir (engine.connectors.clearShipments source) with
      ⟨failure | returned, machine⟩
    · rw [runSteps] at ran
      rw [ran] at follows
      obtain ⟨message, rfl⟩ := follows
      exact absurd (by rw [execute, runSteps, ran]) (unexhausted message)
    · refine ⟨returned, by rw [execute, ran], ?_⟩
      rw [runSteps] at ran
      rw [ran] at follows
      exact follows.symm
  · intro later naiveState machine onNaive onMachine step member name read found
    have none : machine.files = [] := by
      rw [runSteps, onMachine.runUntil_eq] at unspilled
      exact (runUntil_unspilled ir _ later machine unspilled).1
    have refines := begun.passes Batches.fetchedRows sources operators conforming onNaive
      (passes_unspilled onMachine none).2
    obtain ⟨value, held⟩ := Option.isSome_iff_exists.mp found
    obtain ⟨binding, bound, _⟩ :=
      refines.values name (List.mem_flatMap.mpr ⟨step, member, read⟩) value held
    exact Option.isSome_iff_exists.mpr ⟨binding, bound⟩

end Refinement

-----------------------------------------------------------------------------------------
-- A run with a rebound name
-----------------------------------------------------------------------------------------

/-- DataFusion for plans that keep the one row of the sample relation. -/
def dimFrames : Frames where
  registerTable _ _ := .ok ()
  compose _ _ := .ok ()
  frame _ _ := .ok { logical := dimSchema, collectTracked := .ok dimRelation.batches }
  keyFrame _ _ := .ok { logical := dimSchema, collectTracked := .ok dimRelation.batches }
  tableFrame _ _ := .ok { logical := dimSchema, collectTracked := .ok dimRelation.batches }
  violations _ _ := .ok 0
  debug _ := ""

def dimEngine : Engine (List (String × Batches)) Batches :=
  { oversizedEngine with
    host := { oversizedHost with batchesBytes := fun _ => 1024 }
    fusion := dimFrames.fusion
  }

/-- Scan a relation, limit it twice under one name and return it. -/
def limitPlan : Ir :=
  {
    outputs := ["k"]
    steps :=
      [
        .sourceScan "d" rawScan "dim" true,
        .merge "top" (AList.insert "t" "dim" ∅) "top",
        .merge "top" (AList.insert "t" "top" ∅) "top",
        .return "top"
      ]
    fragments := AList.insert "top" (.limit (some 1) 0) ∅
  }

/-- The sources cannot tell shipments of the same rows apart. -/
def SameShipments (left right : List (String × Batches)) : Prop :=
  left.map (fun shipped => (shipped.1, shipped.2.table))
    = right.map (fun shipped => (shipped.1, shipped.2.table))

theorem dimEngine_sources : RowSources dimEngine Batches.table SameShipments where
  unchanged _ := rfl
  prints _ _ _ _ := .error _
  kind _ := Proc.Lockstep.pure rfl
  fetch _ _ _ _ := Proc.Lockstep.pure ⟨rfl, id⟩
  fetchParallel _ _ _ _ _ := alikeReads_fail _
  fetchTempJoin _ _ _ _ _ _ := Proc.Lockstep.pure ⟨rfl, id⟩
  columnHasIndex _ _ _ _ := Proc.Lockstep.pure rfl
  estimateSelectivity _ _ _ _ _ := Proc.Lockstep.pure rfl
  shipTable _ _ _ _ equal := by
    refine Proc.Lockstep.modify (fun s t same => ?_)
    simp only [SameShipments, List.map_append, List.map_cons, List.map_nil, equal] at same ⊢
    rw [same]
  clearShipments _ _ same := same

theorem dimFrames_operators
    : RowOperators dimFrames.fusion Batches.table (fun _ _ _ => some dimRelation.table) where
  executed _ ran := by
    cases ran
    rfl
  executes _ result := by
    cases result
    rfl
  compose _ _ := rfl
  projectDataframeDedup := by
    intro fragment left right batches _ ran
    have same
        : dimFrames.fusion.projectDataframeDedup (composedPlan fragment right) = .ok batches :=
      ran
    rw [same]
    rfl
  guardViolations _ counted := by
    cases counted
    rfl
  collectTable _ ran := by
    cases ran
    rfl
  collectDistinct _ ran := by
    cases ran
    rfl

theorem execute_refines_naive_limit
    : ∃ returned, (execute dimEngine limitPlan []).1 = .ok returned
        ∧ returned.table = dimRelation.table := by
  have refined := execute_refines_naive dimEngine dimFrames rfl dimEngine_sources
    dimFrames_operators limitPlan [] dimRelation _ rfl rfl
    (fun _ exhausted => by cases exhausted)
  exact refined.1

end Fedqrs
