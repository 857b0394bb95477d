import Fedqrs.Correctness.AggregateMeaning
import Fedqrs.Semantics.ReferenceEngine

/-! When the cardinality guard guards what it returns: its probe and its pass-through are two
executions of the registered input, which a view over a lazy region need not answer alike.
-/

namespace Fedqrs

open EngineM

-----------------------------------------------------------------------------------------
-- The probe
-----------------------------------------------------------------------------------------

/-- The only position that the probe has holds the constant that the position is. -/
theorem itemAt_probeItems {position : Int} {key : Expr}
    (stands : itemAt probeItems position = some key)
    : key = .literal (.int64 position) := by
  unfold itemAt at stands
  by_cases low : position < 1
  · rw [if_pos low] at stands
    cases stands
  · rw [if_neg low] at stands
    cases offset : position.toNat - 1 with
    | zero =>
        have first : position = 1 := by omega
        rw [offset] at stands
        cases stands
        rw [first]
    | succ further =>
        rw [offset] at stands
        cases stands

/-- The probe groups by the keys that are asked for, positions among them included. -/
theorem groupKey_probeItems {item key : Expr} (stands : groupKey probeItems item = some key)
    : key = item := by
  unfold groupKey at stands
  cases item with
  | literal value =>
      cases value with
      | int64 position => exact itemAt_probeItems stands
      | _ =>
          cases stands
          rfl
  | _ =>
      cases stands
      rfl

theorem probeKeys_reads {df : ExprServices} (roundTrips : df.RoundTrips) {keys : List IrExpr}
    {printed : List SqlExpr} {resolved : List Expr}
    (rendered : guardProbe df keys = .ok printed) (resolves : probeKeys printed = some resolved)
    : keys.mapM (toDfExpr df.functions) = .ok resolved := by
  obtain ⟨asked, asks, reads⟩ :=
    Except.mapM_reads (fun _ _ _ => renderExpr_reads roundTrips) rendered
  obtain ⟨parsed, parses, resolvesParsed⟩ := Option.bind_eq_some_iff.mp resolves
  cases reads.symm.trans parses
  have same : resolved = asked := by
    clear resolves asks reads parses rendered
    induction asked generalizing resolved with
    | nil =>
        cases resolvesParsed
        rfl
    | cons item rest ih =>
        rw [List.mapM_cons] at resolvesParsed
        obtain ⟨key, here, later⟩ := Option.bind_eq_some_iff.mp resolvesParsed
        obtain ⟨others, there, done⟩ := Option.bind_eq_some_iff.mp later
        cases done
        rw [groupKey_probeItems here, ih there]
  rw [same]
  exact asks

/-- The probe returns a row exactly when the bound is violated. -/
theorem probeRows_pos_iff (ops : ScalarOps) (keys : List Expr) (rows : List ColumnEnv)
    : 0 < probeRows ops keys rows ↔ ¬ SingleRows ops keys rows := by
  unfold probeRows SingleRows
  cases keys.isEmpty with
  | true =>
      by_cases several : 1 < rows.length
      · simp [several]
      · simp [several, Nat.not_lt.mp several]
  | false =>
      simp only [Bool.false_eq_true, if_false]
      rw [← groupsBy_single]
      constructor
      · intro found single
        have occurs := lt_of_lt_of_le found (Nat.min_le_right 1 _)
        obtain ⟨group, member⟩ := List.exists_mem_of_length_pos occurs
        obtain ⟨inside, several⟩ := List.mem_filter.mp member
        exact absurd (single group inside) (Nat.not_le.mpr (of_decide_eq_true several))
      · intro several
        obtain ⟨group, inside, long⟩ : ∃ group ∈ groupsBy _ rows, ¬ group.length ≤ 1 := by
          simpa using several
        apply lt_min Nat.one_pos
        apply List.length_pos_of_mem
        exact List.mem_filter.mpr ⟨inside, decide_eq_true (Nat.not_le.mp long)⟩

/-- The bound is on the rows in any order. -/
theorem SingleRows.perm {ops : ScalarOps} {keys : List Expr} {rows other : List ColumnEnv}
    (same : rows.Perm other) (single : SingleRows ops keys rows)
    : SingleRows ops keys other := by
  unfold SingleRows at single ⊢
  cases empty : keys.isEmpty with
  | true =>
      rw [empty] at single
      exact same.length_eq ▸ single
  | false =>
      rw [empty] at single
      exact (same.map _).nodup_iff.mp single

-----------------------------------------------------------------------------------------
-- The guard's two executions
-----------------------------------------------------------------------------------------

/-- A relation's rows for expressions over its columns. -/
def Batches.envs (relation : Batches) : List ColumnEnv :=
  relation.rows.map (rowEnv (relation.schema.fields.map Field.name))

/-- The same named columns and rows, the rows in any order. An execution may widen what a column
is declared as, so the types are not compared.
-/
structure Batches.SameBag (left right : Batches) : Prop where
  names : left.schema.fields.map Field.name = right.schema.fields.map Field.name
  rows : left.rows.Perm right.rows

theorem Batches.SameBag.envs {left right : Batches} (same : left.SameBag right)
    : left.envs.Perm right.envs := by
  unfold Batches.envs
  rw [same.names]
  exact same.rows.map _

/-- What a plan can be executed to. A relation in memory or in a file is only executed to
itself; a lazy region may give other rows at every execution.
-/
structure Executions (evaluates : LogicalPlan Batches → Batches → Prop) : Prop where
  memTable : ∀ {batches found}, evaluates (.memTable batches) found → found.SameBag batches
  spillStream : ∀ {file found}, evaluates (.spillStream file) found → found.SameBag file

/-- The error of the guard. -/
def cardinalityError : DfError := .execution "Scalar subquery produced more than one row"

/-- The ways the guard's input is held, with the plan that it is registered as. -/
inductive HeldAs {σ : Type} (machine : Machine σ Batches) (name : String)
    : LogicalPlan Batches → Prop
  | materialized {batches} (found : machine.bindings.lookup name = some (.materialized batches))
    : HeldAs machine name (.memTable batches)
  | spilled {spilled} (found : machine.bindings.lookup name = some (.spilled spilled))
    : HeldAs machine name (.spillStream spilled.file)
  | view {region} (found : machine.bindings.lookup name = some (.lazy region))
    (last : usesOf machine.remaining name ≤ 1)
    : HeldAs machine name region.plan

section Guard

variable (df : ExprServices) (ops : ScalarOps)
  (evaluates : LogicalPlan Batches → Batches → Prop)

/-- DataFusion under the guard: the probe and the pass-through each execute the plan that the
input is registered as, and no failure of its own reads as the guard's error.
-/
structure GuardServices (fusion : DataFusion Batches) : Prop where
  probes : ∀ {keys ctx violations},
    fusion.guardViolations keys ctx = .ok violations
    → ∃ printed resolved plan seen,
        guardProbe df keys = .ok printed
          ∧ probeKeys printed = some resolved
          ∧ ctx.lookup "in_0" = some plan
          ∧ evaluates plan seen
          ∧ probeRows ops resolved seen.envs = violations
  collects : ∀ {ctx batches},
    fusion.collectTable ctx "in_0" = .ok batches
    → ∃ plan, ctx.lookup "in_0" = some plan ∧ evaluates plan batches
  memTable : ∀ {batches failure},
    fusion.memTable batches = .error failure → failure.toPy ≠ cardinalityError.toPy
  registerTable : ∀ {names name failure},
    fusion.registerTable names name = .error failure → failure.toPy ≠ cardinalityError.toPy
  guardViolations : ∀ {keys ctx failure},
    fusion.guardViolations keys ctx = .error failure → failure.toPy ≠ cardinalityError.toPy
  collectTable : ∀ {ctx name failure},
    fusion.collectTable ctx name = .error failure → failure.toPy ≠ cardinalityError.toPy

/-- The guard over one input. -/
def runGuard {σ : Type} (fusion : DataFusion Batches) (host : Host Batches)
    (keys : List IrExpr) (name : String)
    : EngineM σ Batches (Binding Batches) :=
  runFragment fusion host (.singleRowGuard keys) (AList.singleton "in_0" name)

/-- What the guard returns is one evaluation of its input and within the bound, and its error
means that an evaluation was not.
-/
structure GuardsInput {σ : Type} (fusion : DataFusion Batches) (host : Host Batches)
    (machine : Machine σ Batches) (name : String) (plan : LogicalPlan Batches)
    (keys : List IrExpr)
    : Prop where
  returned : ∀ {binding reached},
    runGuard fusion host keys name machine = (.ok binding, reached)
    → ∃ asked batches,
        keys.mapM (toDfExpr df.functions) = .ok asked
          ∧ binding = .materialized batches
          ∧ evaluates plan batches
          ∧ SingleRows ops asked batches.envs
  refused : ∀ {reached},
    runGuard fusion host keys name machine = (.error cardinalityError.toPy, reached)
    → ∃ asked seen,
        keys.mapM (toDfExpr df.functions) = .ok asked
          ∧ evaluates plan seen
          ∧ ¬ SingleRows ops asked seen.envs

-----------------------------------------------------------------------------------------
-- One run of the guard
-----------------------------------------------------------------------------------------

variable {df ops evaluates} {σ : Type} {fusion : DataFusion Batches} {host : Host Batches}
  {machine : Machine σ Batches} {name : String} {plan : LogicalPlan Batches}
  {keys : List IrExpr}

/-- What is planned wrongly does not read as the guard's error; by their first difference. -/
theorem plan_ne_cardinalityError (message : String)
    : (DfError.plan message).toPy ≠ cardinalityError.toPy := by
  intro same
  have second : ("Error during planning: " ++ message).toList[1]?
      = ("Execution error: " ++ "Scalar subquery produced more than one row").toList[1]? :=
    congrArg (fun text : String => text.toList[1]?) same
  rw [String.toList_append, String.toList_append, List.getElem?_append_left (by decide),
    List.getElem?_append_left (by decide)] at second
  exact absurd second (by decide)

/-- The machine after a name's only reader took its region. -/
def Machine.taking (machine : Machine σ Batches) (name : String) : Machine σ Batches :=
  {
    machine with
    remaining := countedDown machine.remaining name
    bindings := machine.bindings.erase name
  }

/-- The input is registered as its plan, or registering it fails in its own words; by cases
on how it is held.
-/
theorem registerInput_held (services : GuardServices df ops evaluates fusion)
    (held : HeldAs machine name plan)
    : (∃ bytes reached,
        registerInput host fusion [] "in_0" name machine = (.ok ([("in_0", plan)], bytes), reached))
      ∨ ∃ failure reached,
          registerInput host fusion [] "in_0" name machine = (.error failure, reached)
            ∧ failure ≠ cardinalityError.toPy := by
  cases held with
  | materialized found =>
      rename_i batches
      simp only [registerInput, registerStored, Proc.get_bind_apply, found]
      rw [registerResident_of_materialized found]
      cases checked : fusion.memTable batches with
      | error failure =>
          right
          refine ⟨_, _, rfl, ?_⟩
          unfold bindingSchemaError
          cases fusion.schemaDiffs batches with
          | some diffs => exact plan_ne_cardinalityError _
          | none => exact services.memTable checked
      | ok _ =>
          cases registered : fusion.registerTable [] "in_0" with
          | error failure =>
              right
              refine ⟨failure.toPy, machine.afterRead name, ?_, services.registerTable registered⟩
              simp [Except.mapError, registered]
          | ok _ =>
              left
              refine ⟨host.batchesBytes batches, machine.afterRead name, ?_⟩
              simp [Except.mapError, registered]
  | spilled found =>
      rename_i spilled
      simp only [registerInput, registerStored, Proc.get_bind_apply, found]
      rw [registerSpilled_apply]
      cases registered : fusion.registerTable [] "in_0" with
      | error failure =>
          right
          refine ⟨failure.toPy, machine, ?_, services.registerTable registered⟩
          simp [registered]
      | ok _ =>
          left
          refine ⟨spilled.bytes, machine.afterRead name, ?_⟩
          simp [registered]
  | view found last =>
      rename_i region
      simp only [registerInput, Proc.get_bind_apply, found, last, if_true]
      rw [registerView_of_lazy found]
      cases registered : fusion.registerTable [] "in_0" with
      | error failure =>
          right
          refine ⟨failure.toPy, machine.taking name, ?_, services.registerTable registered⟩
          simp [registered, Machine.taking]
      | ok _ =>
          left
          refine ⟨region.inputBytes, machine.taking name, ?_⟩
          simp [registered, Machine.taking]

/-- Once its input is registered, a run of the guard is its two executions. -/
theorem runGuard_registered {bytes : Nat} {reached : Machine σ Batches}
    (registered
      : registerInput host fusion [] "in_0" name machine = (.ok ([("in_0", plan)], bytes), reached))
    : runGuard fusion host keys name machine
      = (((runSingleRowGuard fusion keys [("in_0", plan)]).map .materialized).mapError
          DfError.toPy, reached) := by
  have inputs
      : (AList.singleton "in_0" name).entries.map
          (fun entry : Sigma fun _ : String => String => (entry.1, entry.2))
        = [("in_0", name)] :=
    rfl
  have inputsRan
      : registerInputs host fusion [("in_0", name)] [] 0 machine
        = (.ok ([("in_0", plan)], saturatingAdd 0 bytes), reached) :=
    Proc.bind_of_ok registered _
  unfold runGuard runFragment
  rw [inputs, Proc.bind_of_ok inputsRan]
  change liftDf (composeFragment fusion (.singleRowGuard keys) [("in_0", plan)] _) reached = _
  rw [liftDf_apply]
  simp only [composeFragment]
  cases runSingleRowGuard fusion keys [("in_0", plan)] with
  | error failure => rfl
  | ok batches => rfl

/-- A run of the guard is a failure in words of its own or its two executions. -/
theorem runGuard_held (services : GuardServices df ops evaluates fusion)
    (held : HeldAs machine name plan)
    : (∃ failure reached,
        runGuard fusion host keys name machine = (.error failure, reached)
          ∧ failure ≠ cardinalityError.toPy)
      ∨ ∃ reached,
          runGuard fusion host keys name machine
            = (((runSingleRowGuard fusion keys [("in_0", plan)]).map .materialized).mapError
                DfError.toPy, reached) := by
  rcases registerInput_held services held with registered | failed
  · obtain ⟨bytes, reached, registered⟩ := registered
    exact .inr ⟨reached, runGuard_registered registered⟩
  · obtain ⟨failure, reached, failed, other⟩ := failed
    left
    refine ⟨failure, reached, ?_, other⟩
    apply Proc.bind_of_error
    exact Proc.bind_of_error failed _

/-- A guard that returns had its bound met by the rows its probe saw. -/
theorem runGuard_returned (services : GuardServices df ops evaluates fusion)
    (held : HeldAs machine name plan)
    {binding : Binding Batches} {reached : Machine σ Batches}
    (ran : runGuard fusion host keys name machine = (.ok binding, reached))
    : ∃ printed asked seen batches,
        guardProbe df keys = .ok printed
          ∧ probeKeys printed = some asked
          ∧ evaluates plan seen
          ∧ SingleRows ops asked seen.envs
          ∧ binding = .materialized batches
          ∧ evaluates plan batches := by
  rcases runGuard_held services held with failed | guarded
  · obtain ⟨failure, reached, failed, _⟩ := failed
    cases failed.symm.trans ran
  · obtain ⟨reached, guarded⟩ := guarded
    have outcome := congrArg Prod.fst (guarded.symm.trans ran)
    rw [runSingleRowGuard] at outcome
    cases probed : fusion.guardViolations keys [("in_0", plan)] with
    | error failure =>
        rw [probed] at outcome
        cases outcome
    | ok violations =>
        rw [probed] at outcome
        by_cases violated : 0 < violations
        · simp only [Except.bind, bind, violated, if_true] at outcome
          cases outcome
        · simp only [Except.bind, bind, violated, if_false] at outcome
          cases collected : fusion.collectTable [("in_0", plan)] "in_0" with
          | error failure =>
              rw [collected] at outcome
              cases outcome
          | ok batches =>
              rw [collected] at outcome
              cases outcome
              obtain ⟨printed, asked, probedPlan, seen, rendered, resolves, found, sees, counts⟩ :=
                services.probes probed
              obtain ⟨collectedPlan, foundCollected, collects⟩ := services.collects collected
              cases found
              cases foundCollected
              refine ⟨printed, asked, seen, batches, rendered, resolves, sees, ?_, rfl, collects⟩
              by_contra several
              rw [← counts] at violated
              exact violated ((probeRows_pos_iff ops asked seen.envs).mpr several)

/-- A guard that refuses had its bound violated by the rows its probe saw. -/
theorem runGuard_refused (roundTrips : df.RoundTrips)
    (services : GuardServices df ops evaluates fusion) (held : HeldAs machine name plan)
    {reached : Machine σ Batches}
    (ran : runGuard fusion host keys name machine = (.error cardinalityError.toPy, reached))
    : ∃ asked seen,
        keys.mapM (toDfExpr df.functions) = .ok asked
          ∧ evaluates plan seen
          ∧ ¬ SingleRows ops asked seen.envs := by
  rcases runGuard_held services held with failed | guarded
  · obtain ⟨failure, reached, failed, other⟩ := failed
    cases failed.symm.trans ran
    exact absurd rfl other
  · obtain ⟨reached, guarded⟩ := guarded
    have outcome := congrArg Prod.fst (guarded.symm.trans ran)
    rw [runSingleRowGuard] at outcome
    cases probed : fusion.guardViolations keys [("in_0", plan)] with
    | error failure =>
        rw [probed] at outcome
        exact absurd (Except.error.inj outcome) (services.guardViolations probed)
    | ok violations =>
        rw [probed] at outcome
        by_cases violated : 0 < violations
        · obtain ⟨printed, asked, probedPlan, seen, rendered, resolves, found, sees, counts⟩ :=
            services.probes probed
          cases found
          refine ⟨asked, seen, probeKeys_reads roundTrips rendered resolves, sees, ?_⟩
          rw [← counts] at violated
          exact (probeRows_pos_iff ops asked seen.envs).mp violated
        · simp only [Except.bind, bind, violated, if_false] at outcome
          cases collected : fusion.collectTable [("in_0", plan)] "in_0" with
          | error failure =>
              rw [collected] at outcome
              exact absurd (Except.error.inj outcome) (services.collectTable collected)
          | ok batches =>
              rw [collected] at outcome
              cases outcome

-----------------------------------------------------------------------------------------
-- When the two executions agree
-----------------------------------------------------------------------------------------

/-- All evaluations of a lazy region meet the bound as soon as one does. -/
def SteadyBound (df : ExprServices) (ops : ScalarOps)
    (evaluates : LogicalPlan Batches → Batches → Prop) (plan : LogicalPlan Batches)
    (keys : List IrExpr)
    : Prop :=
  ∀ printed asked, guardProbe df keys = .ok printed → probeKeys printed = some asked
    → ∀ one other, evaluates plan one → evaluates plan other
      → SingleRows ops asked one.envs → SingleRows ops asked other.envs

/-- A relation held in memory or in a file is steady. -/
theorem steadyBound_stored {stored : Batches}
    (same : ∀ found, evaluates plan found → found.SameBag stored)
    : SteadyBound df ops evaluates plan keys := by
  intro printed asked _ _ one other givesOne givesOther single
  have perm := (same one givesOne).envs.trans (same other givesOther).envs.symm
  exact single.perm perm

/-- DataFusion whose probe of a plan sees no violation and whose pass-through of it returns
some relation.
-/
noncomputable def twoEvaluations (plan : LogicalPlan Batches) (keys : List IrExpr)
    (passed : Batches)
    : DataFusion Batches := by
  classical
  exact
    {
      memTable := fun _ => .ok ()
      schemaDiffs := fun _ => none
      registerTable := fun _ _ => .ok ()
      compose := fun _ _ => .ok ()
      executeRegion := fun _ _ => .error (.other "")
      projectDataframeDedup := fun _ => .error (.other "")
      collectDistinct := fun _ _ => .error (.other "")
      guardViolations := fun asked ctx =>
        if asked = keys ∧ ctx = [("in_0", plan)] then .ok 0 else .error (.other "")
      collectTable := fun ctx _ =>
        if ctx = [("in_0", plan)] then .ok passed else .error (.other "")
    }

theorem twoEvaluations_services {printed : List SqlExpr} {asked : List Expr}
    {seen passed : Batches} (rendered : guardProbe df keys = .ok printed)
    (resolves : probeKeys printed = some asked) (sees : evaluates plan seen)
    (single : SingleRows ops asked seen.envs) (passes : evaluates plan passed)
    : GuardServices df ops evaluates (twoEvaluations plan keys passed) where
  probes := by
    intro others ctx violations probed
    unfold twoEvaluations at probed
    by_cases those : others = keys ∧ ctx = [("in_0", plan)]
    · simp only [those, and_self, if_true] at probed
      cases probed
      obtain ⟨rfl, rfl⟩ := those
      refine ⟨printed, asked, plan, seen, rendered, resolves, rfl, sees, ?_⟩
      by_contra counted
      exact (probeRows_pos_iff ops asked seen.envs).mp (Nat.pos_of_ne_zero counted) single
    · simp only [those, if_false] at probed
      cases probed
  collects := by
    intro ctx batches collected
    unfold twoEvaluations at collected
    by_cases that : ctx = [("in_0", plan)]
    · simp only [that, if_true] at collected
      cases collected
      refine ⟨plan, ?_, passes⟩
      rw [that]
      rfl
    · simp only [that, if_false] at collected
      cases collected
  memTable := by
    intro batches failure checked
    cases checked
  registerTable := by
    intro names table failure registered
    cases registered
  guardViolations := by
    intro others ctx failure probed
    unfold twoEvaluations at probed
    by_cases those : others = keys ∧ ctx = [("in_0", plan)]
    · simp only [those, and_self, if_true] at probed
      cases probed
    · simp only [those, if_false] at probed
      cases probed
      decide
  collectTable := by
    intro ctx table failure collected
    unfold twoEvaluations at collected
    by_cases that : ctx = [("in_0", plan)]
    · simp only [that, if_true] at collected
      cases collected
    · simp only [that, if_false] at collected
      cases collected
      decide

/-- Over a view, the guard returns what its second execution gives. -/
theorem runGuard_twoEvaluations (host : Host Batches) (machine : Machine σ Batches)
    (name : String) (keys : List IrExpr) {region : LazyRegion Batches} (passed : Batches)
    (found : machine.bindings.lookup name = some (.lazy region))
    (last : usesOf machine.remaining name ≤ 1)
    : runGuard (twoEvaluations region.plan keys passed) host keys name machine
      = (.ok (.materialized passed), machine.taking name) := by
  have registered
      : registerInput host (twoEvaluations region.plan keys passed) [] "in_0" name machine
        = (.ok ([("in_0", region.plan)], region.inputBytes), machine.taking name) := by
    simp only [registerInput, Proc.get_bind_apply, found, last, if_true]
    rw [registerView_of_lazy found]
    rfl
  rw [runGuard_registered registered]
  simp [runSingleRowGuard, twoEvaluations, bind, Except.bind, Except.map, Except.mapError]

/-- Whatever DataFusion's two executions give, the guard guards what it returns, exactly when
its input is in memory, in a file, or a region whose evaluations meet the bound together.
-/
theorem singleRowGuard_guards_iff (roundTrips : df.RoundTrips) (executions : Executions evaluates)
    (held : HeldAs machine name plan)
    : (∀ fusion, GuardServices df ops evaluates fusion
        → GuardsInput df ops evaluates fusion host machine name plan keys)
      ↔ ((∃ region, machine.bindings.lookup name = some (.lazy region))
          → SteadyBound df ops evaluates plan keys) := by
  constructor
  · intro guards lazily printed asked rendered resolves one other givesOne givesOther single
    obtain ⟨region, found⟩ := lazily
    cases held with
    | materialized there => cases found.symm.trans there
    | spilled there => cases found.symm.trans there
    | view there last =>
        rename_i taken
        cases found.symm.trans there
        have services : GuardServices df ops evaluates (twoEvaluations region.plan keys other) :=
          twoEvaluations_services rendered resolves givesOne single givesOther
        have ran := runGuard_twoEvaluations host machine name keys other there last
        obtain ⟨asks, batches, reads, same, _, within⟩ := (guards _ services).returned ran
        cases same
        cases (probeKeys_reads roundTrips rendered resolves).symm.trans reads
        exact within
  · intro condition fusion services
    refine ⟨?_, ?_⟩
    · intro binding reached ran
      obtain ⟨printed, asked, seen, batches, rendered, resolves, sees, single, same, gives⟩ :=
        runGuard_returned services held ran
      refine ⟨asked, batches, probeKeys_reads roundTrips rendered resolves, same, gives, ?_⟩
      have steady : SteadyBound df ops evaluates plan keys := by
        cases held with
        | materialized found =>
            exact steadyBound_stored (fun found gives => executions.memTable gives)
        | spilled found =>
            exact steadyBound_stored (fun found gives => executions.spillStream gives)
        | view found last => exact condition ⟨_, found⟩
      exact steady printed asked rendered resolves seen batches sees gives single
    · intro reached ran
      exact runGuard_refused roundTrips services held ran

end Guard

/-- `random() < 0.5`, which DataFusion evaluates again for every row of every execution. -/
def belowHalf : IrExpr :=
  .binary "<" (.function "random" []) (.literal (.float 0x3FE0000000000000))

/-- Executions where a filter by `random() < 0.5` over a relation in memory gives any rows of
it.
-/
def randomEvaluates : LogicalPlan Batches → Batches → Prop
  | .memTable batches, found => found.SameBag batches
  | .spillStream file, found => found.SameBag file
  | .fragment (.filter predicate) _ [.memTable batches], found =>
      predicate = belowHalf ∧ found.schema = batches.schema ∧ found.rows.Subperm batches.rows
  | .fragment _ _ _, _ => False

theorem randomEvaluates_executions : Executions randomEvaluates where
  memTable gives := gives
  spillStream gives := gives

/-- A machine that holds one binding. -/
def holding (binding : Binding Batches) : Machine Unit Batches :=
  { bindings := AList.singleton "rows" binding, remaining := ∅, files := [], source := () }

/-- A filter by `random() < 0.5` over the rows 1, 1 and 2. -/
def randomRegion : LazyRegion Batches where
  plan := .fragment (.filter belowHalf) ["in_0"] [.memTable (intBatches "k" [1, 1, 2])]
  inputBytes := 0

/-- A relation in memory is guarded whatever its rows are. -/
theorem singleRowGuard_guards_memTable
    : (∀ fusion, GuardServices formExprs countOps.toScalarOps randomEvaluates fusion
        → GuardsInput formExprs countOps.toScalarOps randomEvaluates fusion roomyHost
            (holding (.materialized (intBatches "k" [1, 1]))) "rows"
            (.memTable (intBatches "k" [1, 1])) [.column none "k"])
      ∧ HeldAs (holding (.materialized (intBatches "k" [1, 1]))) "rows"
          (.memTable (intBatches "k" [1, 1])) := by
  have held : HeldAs (holding (.materialized (intBatches "k" [1, 1]))) "rows"
      (.memTable (intBatches "k" [1, 1])) :=
    .materialized rfl
  refine ⟨?_, held⟩
  apply (singleRowGuard_guards_iff formExprs_roundTrips randomEvaluates_executions held).mpr
  intro lazily
  obtain ⟨region, found⟩ := lazily
  cases found

/-- Over a filter by `random()`, the probe can see the rows 1 and 2 and the guard return 1
and 1, two rows of one key.
-/
theorem singleRowGuard_returns_unprobed
    : ∃ fusion,
        GuardServices formExprs countOps.toScalarOps randomEvaluates fusion
          ∧ ¬ GuardsInput formExprs countOps.toScalarOps randomEvaluates fusion roomyHost
              (holding (.lazy randomRegion)) "rows" randomRegion.plan [.column none "k"] := by
  have sees : randomEvaluates randomRegion.plan (intBatches "k" [1, 2]) := by
    refine ⟨rfl, rfl, ?_⟩
    exact List.Sublist.subperm (.cons _ (.refl _))
  have passes : randomEvaluates randomRegion.plan (intBatches "k" [1, 1]) := by
    refine ⟨rfl, rfl, ?_⟩
    exact List.Sublist.subperm (.cons_cons _ (.cons_cons _ (.cons _ .slnil)))
  refine ⟨twoEvaluations randomRegion.plan [.column none "k"] (intBatches "k" [1, 1]), ?_, ?_⟩
  · refine twoEvaluations_services rfl rfl sees ?_ passes
    unfold SingleRows Batches.envs
    rw [intBatches_rows]
    decide
  · intro guards
    have ran :=
      runGuard_twoEvaluations roomyHost (holding (.lazy randomRegion)) "rows" [.column none "k"]
        (intBatches "k" [1, 1]) rfl (by decide)
    obtain ⟨asked, batches, reads, same, _, within⟩ := guards.returned ran
    cases same
    cases reads
    unfold SingleRows Batches.envs at within
    rw [intBatches_rows] at within
    exact absurd within (by decide)

end Fedqrs
