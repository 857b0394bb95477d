import Fedqrs.Engine.Bindings

/-! Registration of a merge's inputs, forcing of lazy regions, and the composition of one
fragment on DataFusion.
-/

namespace Fedqrs

open EngineM

/-- The tables registered on a fragment's scratch context, in registration order. -/
abbrev Context (β : Type) : Type := List (String × LogicalPlan β)

/-- The engine's operations on DataFusion, each failing as DataFusion may. `memTable` is the
check a MemTable makes of a relation's batches against its schema and `schemaDiffs` describes
what differs; `compose` plans a fragment over the registered tables.
-/
structure DataFusion (β : Type) where
  memTable : β → Except DfError Unit
  schemaDiffs : β → Option String
  registerTable : List String → String → Except DfError Unit
  compose : Fragment → Context β → Except DfError Unit
  executeRegion : LogicalPlan β → Bool → Except DfError β
  projectDataframeDedup : LogicalPlan β → Except DfError β
  collectDistinct : LogicalPlan β → String → Except DfError β
  guardViolations : List IrExpr → Context β → Except DfError Nat
  collectTable : Context β → String → Except DfError β

/-- Every relation the engine collects from DataFusion, keys apart, satisfies `stored`. -/
structure Collects {β : Type} (fusion : DataFusion β) (stored : β → Prop) : Prop where
  executeRegion : ∀ {plan spillable batches},
    fusion.executeRegion plan spillable = .ok batches → stored batches
  projectDataframeDedup : ∀ {plan batches},
    fusion.projectDataframeDedup plan = .ok batches → stored batches
  collectTable : ∀ {ctx name batches},
    fusion.collectTable ctx name = .ok batches → stored batches

/-- Every relation collected from DataFusion matches its own schema. -/
abbrev DataFusion.Conforming {β : Type} (fusion : DataFusion β) : Prop :=
  Collects fusion (fun batches => fusion.memTable batches = .ok ())

variable {σ β : Type}

/-- A region fed by more input data than this plans sort-merge joins from the start. -/
def regionSpillJoinInputBytes : Nat := 8 * 1024 * 1024 * 1024

/-- Whether `needle` occurs in `text`. -/
def containsText (text needle : String) : Bool :=
  (List.range (text.toList.length + 1)).any (fun start =>
    needle.toList.isPrefixOf (text.toList.drop start))

/-- Whether a region failure warrants the sort-merge retry: the pool was exhausted by an
operator, not by the accumulation of the result.
-/
def retryWithSpillableJoins : DfError → Bool
  | .resourcesExhausted message => !containsText message "fedq_collect"
  | _ => false

section Regions

variable (host : Host β) (fusion : DataFusion β)

/-- Execute a region, retrying once with spillable joins where that can help. -/
def executeWithRetry (region : LazyRegion β) : Except DfError β :=
  if regionSpillJoinInputBytes < region.inputBytes then
    fusion.executeRegion region.plan true
  else
    match fusion.executeRegion region.plan false with
    | .ok batches => .ok batches
    | .error failure =>
        if retryWithSpillableJoins failure then
          fusion.executeRegion region.plan true
        else
          .error failure

/-- Execute a lazy binding's plan and replace it with the relation; other bindings stay. -/
def forceMaterialized (name : String) : EngineM σ β Unit := do
  let machine ← Proc.get
  match machine.bindings.lookup name with
  | some (.lazy _) => do
      let region ← takeLazy name
      let batches ← liftDf (executeWithRetry fusion region)
      storeRelation host name batches
  | _ => pure ()

/-- Register the stream over a spilled relation's file; its last reader drops the entry. -/
def registerSpilled (ctx : Context β) (tableName bindingName : String)
    (spilled : SpilledBinding β)
    : EngineM σ β (Context β × Nat) := do
  let machine ← Proc.get
  liftDf (fusion.registerTable (ctx.map Prod.fst) tableName)
  noteUse bindingName
  if usesOf machine.remaining bindingName ≤ 1 then
    setBindings (fun bindings => bindings.erase bindingName)
  pure (ctx ++ [(tableName, .spillStream spilled.file)], spilled.bytes)

/-- Name the binding and the field differences when its batches do not match its schema. -/
def bindingSchemaError (name : String) (batches : β) (source : DfError) : DfError :=
  match fusion.schemaDiffs batches with
  | some diffs => .plan ("binding '" ++ name ++ "' schema/batches mismatch: " ++ diffs)
  | none => source

/-- Register a materialized relation as a MemTable, consuming the binding. -/
def registerResident (ctx : Context β) (tableName bindingName : String)
    : EngineM σ β (Context β × Nat) := do
  let batches ← consumeMaterialized bindingName
  liftDf ((fusion.memTable batches).mapError (bindingSchemaError fusion bindingName batches))
  liftDf (fusion.registerTable (ctx.map Prod.fst) tableName)
  pure (ctx ++ [(tableName, .memTable batches)], host.batchesBytes batches)

/-- Register a single-use lazy region as a view over its plan. -/
def registerView (ctx : Context β) (tableName bindingName : String)
    : EngineM σ β (Context β × Nat) := do
  noteUse bindingName
  let region ← takeLazy bindingName
  liftDf (fusion.registerTable (ctx.map Prod.fst) tableName)
  pure (ctx ++ [(tableName, region.plan)], region.inputBytes)

/-- Register what a name holds by now: the stream of what is on disk, else a MemTable. -/
def registerStored (ctx : Context β) (tableName bindingName : String)
    : EngineM σ β (Context β × Nat) := do
  let machine ← Proc.get
  match machine.bindings.lookup bindingName with
  | some (.spilled spilled) => registerSpilled fusion ctx tableName bindingName spilled
  | _ => registerResident host fusion ctx tableName bindingName

/-- Register one merge input. A single-use lazy binding becomes a view; any other lazy one is
materialized first, and forcing a big region can itself spill.
-/
def registerInput (ctx : Context β) (tableName bindingName : String)
    : EngineM σ β (Context β × Nat) := do
  let machine ← Proc.get
  match machine.bindings.lookup bindingName with
  | some (.lazy _) =>
      if usesOf machine.remaining bindingName ≤ 1 then
        registerView fusion ctx tableName bindingName
      else do
        forceMaterialized host fusion bindingName
        registerStored host fusion ctx tableName bindingName
  | _ => registerStored host fusion ctx tableName bindingName

/-- Register the inputs in key order, summing their measured bytes. -/
def registerInputs : List (String × String) → Context β → Nat
    → EngineM σ β (Context β × Nat)
  | [], ctx, inputBytes => pure (ctx, inputBytes)
  | (tableName, bindingName) :: rest, ctx, inputBytes => do
      let (next, bytes) ← registerInput host fusion ctx tableName bindingName
      registerInputs rest next (saturatingAdd inputBytes bytes)

end Regions

section Fragments

variable (fusion : DataFusion β)

/-- The plan node of a fragment over its registered tables. -/
def composedPlan (fragment : Fragment) (ctx : Context β) : LogicalPlan β :=
  .fragment fragment (ctx.map Prod.fst) (ctx.map Prod.snd)

/-- Wrap a composed frame as a lazy binding. -/
def lazyBinding (fragment : Fragment) (ctx : Context β) (inputBytes : Nat)
    : Except DfError (Binding β) := do
  fusion.compose fragment ctx
  pure (.lazy { plan := composedPlan fragment ctx, inputBytes })

/-- Whether every projection output name is unique. -/
def uniqueAliases (project : List Projection) : Bool :=
  decide (project.map Projection.aliasName).Nodup

/-- A projection stays lazy unless it repeats an output name. -/
def projectedBinding (fragment : Fragment) (project : List Projection) (ctx : Context β)
    (inputBytes : Nat)
    : Except DfError (Binding β) :=
  if uniqueAliases project then
    lazyBinding fusion fragment ctx inputBytes
  else do
    let batches ← fusion.projectDataframeDedup (composedPlan fragment ctx)
    pure (.materialized batches)

/-- The cardinality guard: an error when its probe finds a group of several rows, else the
input unchanged.
-/
def runSingleRowGuard (keys : List IrExpr) (ctx : Context β) : Except DfError β := do
  let violations ← fusion.guardViolations keys ctx
  if 0 < violations then
    .error (.execution "Scalar subquery produced more than one row")
  else
    fusion.collectTable ctx "in_0"

/-- Compose one fragment over its registered inputs. -/
def composeFragment (fragment : Fragment) (ctx : Context β) (inputBytes : Nat)
    : Except DfError (Binding β) :=
  match fragment with
  | .hashJoin _ _ _ project => projectedBinding fusion fragment project ctx inputBytes
  | .nestedLoopJoin _ _ project => projectedBinding fusion fragment project ctx inputBytes
  | .project project _ => projectedBinding fusion fragment project ctx inputBytes
  | .singleRowGuard keys => do
      let batches ← runSingleRowGuard fusion keys ctx
      pure (.materialized batches)
  | .aggregate _ _ _ | .sort _ | .filter _ | .limit _ _ | .rawSql _ =>
      lazyBinding fusion fragment ctx inputBytes

/-- Register a fragment's inputs and compose it. -/
def runFragment (host : Host β) (fragment : Fragment) (inputs : NameMap String)
    : EngineM σ β (Binding β) := do
  let (ctx, inputBytes) ←
    registerInputs host fusion (inputs.entries.map (fun entry => (entry.1, entry.2))) [] 0
  liftDf (composeFragment fusion fragment ctx inputBytes)

end Fragments

/-- DISTINCT of one key column, NULL-free, over a materialized or a spilled relation. -/
def collectDistinctFrom (fusion : DataFusion β) (name key : String) : EngineM σ β β := do
  let machine ← Proc.get
  match machine.bindings.lookup name with
  | some (.materialized batches) => do
      liftDf (fusion.memTable batches)
      liftDf (fusion.collectDistinct (.memTable batches) key)
  | some (.spilled spilled) => liftDf (fusion.collectDistinct (.spillStream spilled.file) key)
  | some _ =>
      liftDf
        (.error (.plan ("binding '" ++ name ++ "' is not a relation (key collection needs one)")))
  | none => liftDf (.error (.plan ("unknown binding '" ++ name ++ "'")))

-----------------------------------------------------------------------------------------
-- One equation for each way an input is registered
-----------------------------------------------------------------------------------------

section Equations

variable {host : Host β} {fusion : DataFusion β} {machine : Machine σ β} {name : String}

/-- The machine after a read of a stored binding: counted, and dropped by its last reader. -/
def Machine.afterRead (machine : Machine σ β) (name : String) : Machine σ β :=
  {
    machine with
    remaining := countedDown machine.remaining name
    bindings :=
      if usesOf machine.remaining name ≤ 1 then machine.bindings.erase name
      else machine.bindings
  }

/-- A region that executes did so at one of its attempts. -/
theorem executeWithRetry_eq_ok {region : LazyRegion β} {batches : β}
    (ran : executeWithRetry fusion region = .ok batches)
    : ∃ spillable, fusion.executeRegion region.plan spillable = .ok batches := by
  unfold executeWithRetry at ran
  split at ran
  · exact ⟨true, ran⟩
  · split at ran
    case h_1 found =>
      cases ran
      exact ⟨false, found⟩
    case h_2 =>
      split at ran
      · exact ⟨true, ran⟩
      · contradiction

theorem forceMaterialized_of_lazy {region : LazyRegion β}
    (found : machine.bindings.lookup name = some (.lazy region))
    : forceMaterialized host fusion name machine
      = (liftDf (executeWithRetry fusion region) >>= storeRelation host name)
          { machine with bindings := machine.bindings.erase name } := by
  simp only [forceMaterialized, Proc.get_bind_apply, found]
  rw [Proc.bind_of_ok (takeLazy_of_lazy found)]

theorem forceMaterialized_of_not_lazy
    (stored : ∀ region, machine.bindings.lookup name ≠ some (.lazy region))
    : forceMaterialized host fusion name machine = (.ok (), machine) := by
  simp only [forceMaterialized, Proc.get_bind_apply]
  rfl

theorem registerSpilled_apply (ctx : Context β) (tableName bindingName : String)
    (spilled : SpilledBinding β) (machine : Machine σ β)
    : registerSpilled fusion ctx tableName bindingName spilled machine
      = match fusion.registerTable (ctx.map Prod.fst) tableName with
        | .ok _ =>
            (.ok (ctx ++ [(tableName, .spillStream spilled.file)], spilled.bytes),
              machine.afterRead bindingName)
        | .error failure => (.error failure.toPy, machine) := by
  simp only [registerSpilled, Proc.get_bind_apply]
  cases fusion.registerTable (ctx.map Prod.fst) tableName with
  | error failure => rfl
  | ok _ =>
      simp only [liftDf_ok, Proc.pure_bind]
      rw [Proc.bind_of_ok (noteUse_apply bindingName machine)]
      by_cases last : usesOf machine.remaining bindingName ≤ 1
      · simp only [last, if_true, Machine.afterRead]
        rfl
      · simp only [last, if_false, Machine.afterRead]
        rfl

/-- A resident input is consumed first and then checked against its schema. -/
theorem registerResident_of_materialized {ctx : Context β} {tableName : String} {batches : β}
    (found : machine.bindings.lookup name = some (.materialized batches))
    : registerResident host fusion ctx tableName name machine
      = (do
          liftDf ((fusion.memTable batches).mapError (bindingSchemaError fusion name batches))
          liftDf (fusion.registerTable (ctx.map Prod.fst) tableName)
          pure (ctx ++ [(tableName, .memTable batches)], host.batchesBytes batches)
          : EngineM σ β (Context β × Nat)) (machine.afterRead name) := by
  rw [registerResident, Proc.bind_of_ok (consumeMaterialized_of_materialized found)]
  by_cases last : usesOf machine.remaining name ≤ 1
  · simp only [Machine.afterRead, last, if_true, Nat.not_lt.mpr last, if_false]
  · simp only [Machine.afterRead, last, if_false, Nat.lt_of_not_le last, if_true]

/-- What is no resident relation is refused, after the read of it; by cases on the binding. -/
theorem registerResident_of_missing {ctx : Context β} {tableName : String}
    (missing : ∀ batches, machine.bindings.lookup name ≠ some (.materialized batches))
    : registerResident host fusion ctx tableName name machine
      = (.error
          (match machine.bindings.lookup name with
          | some _ => DfError.plan ("binding '" ++ name ++ "' is not a relation")
          | none => DfError.plan ("unknown binding '" ++ name ++ "'")).toPy,
          machine.afterRead name) := by
  have consumed
      : consumeMaterialized name machine
        = (.error
            (match machine.bindings.lookup name with
            | some _ => DfError.plan ("binding '" ++ name ++ "' is not a relation")
            | none => DfError.plan ("unknown binding '" ++ name ++ "'")).toPy,
            machine.afterRead name) := by
    unfold consumeMaterialized takeMaterialized Machine.afterRead
    rw [Proc.get_bind_apply, Proc.bind_of_ok (noteUse_apply name machine)]
    by_cases shared : 1 < usesOf machine.remaining name
    · simp only [shared, if_true, Nat.not_le.mpr shared, if_false]
      cases found : machine.bindings.lookup name with
      | none => rfl
      | some binding =>
          cases binding with
          | materialized batches => exact absurd found (missing batches)
          | keys | lazy | spilled => rfl
    · simp only [shared, if_false, Nat.not_lt.mp shared, if_true, Proc.get_bind_apply, setBindings,
        Proc.modify_bind_apply]
      cases found : machine.bindings.lookup name with
      | none => rfl
      | some binding =>
          cases binding with
          | materialized batches => exact absurd found (missing batches)
          | keys | lazy | spilled => rfl
  rw [registerResident, Proc.bind_of_error consumed]

theorem registerView_of_lazy {ctx : Context β} {tableName : String} {region : LazyRegion β}
    (found : machine.bindings.lookup name = some (.lazy region))
    : registerView fusion ctx tableName name machine
      = (do
          liftDf (fusion.registerTable (ctx.map Prod.fst) tableName)
          pure (ctx ++ [(tableName, region.plan)], region.inputBytes)
          : EngineM σ β (Context β × Nat))
          {
            machine with
            remaining := countedDown machine.remaining name
            bindings := machine.bindings.erase name
          } := by
  have taken
      : takeLazy name { machine with remaining := countedDown machine.remaining name }
        = (.ok region,
            {
              machine with
              remaining := countedDown machine.remaining name
              bindings := machine.bindings.erase name
            }) :=
    takeLazy_of_lazy found
  rw [registerView, Proc.bind_of_ok (noteUse_apply name machine), Proc.bind_of_ok taken]

/-- A composed fragment is a relation, or the plan over its context with the bytes given. -/
theorem composeFragment_region {ctx : Context β} {fragment : Fragment} {inputBytes : Nat}
    {result : Binding β}
    (composed : composeFragment fusion fragment ctx inputBytes = .ok result)
    : result = .lazy { plan := composedPlan fragment ctx, inputBytes }
      ∨ ∃ batches, result = .materialized batches := by
  have lazily (ran : lazyBinding fusion fragment ctx inputBytes = .ok result)
      : result = .lazy { plan := composedPlan fragment ctx, inputBytes } := by
    obtain ⟨_, _, done⟩ := Except.bind_eq_ok.mp ran
    cases done
    rfl
  have projecting (project : List Projection)
      (ran : projectedBinding fusion fragment project ctx inputBytes = .ok result)
      : result = .lazy { plan := composedPlan fragment ctx, inputBytes }
        ∨ ∃ batches, result = .materialized batches := by
    unfold projectedBinding at ran
    split at ran
    · exact Or.inl (lazily ran)
    · obtain ⟨batches, _, done⟩ := Except.bind_eq_ok.mp ran
      cases done
      exact Or.inr ⟨batches, rfl⟩
  cases fragment with
  | hashJoin | nestedLoopJoin | project => exact projecting _ composed
  | aggregate | sort | filter | limit | rawSql => exact Or.inl (lazily composed)
  | singleRowGuard keys =>
      obtain ⟨batches, _, done⟩ := Except.bind_eq_ok.mp composed
      cases done
      exact Or.inr ⟨batches, rfl⟩

end Equations

end Fedqrs
