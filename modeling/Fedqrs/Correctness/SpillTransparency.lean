import Fedqrs.Correctness.SameMachine
import Fedqrs.Engine.Collect
import Fedqrs.Engine.Effects

/-! A run under a resident budget and the same run without one go in lockstep, as long as
no spilled relation is shipped and every fetched relation matches its own schema.
-/

namespace Fedqrs

open EngineM

variable {σ β α : Type}

/-- The two outcomes agree as far as spilling may tell. -/
abbrev Agree (host : Host β) (fusion : DataFusion β) {γ δ : Type} (values : γ → δ → Prop)
    : Except PyErr γ × Machine σ β → Except PyErr δ × Machine σ β → Prop :=
  Proc.Alike (SameMachine host fusion) SameSource values

-----------------------------------------------------------------------------------------
-- Readers
-----------------------------------------------------------------------------------------

section Readers

variable {host : Host β} {fusion : DataFusion β} {l r : Machine σ β}

/-- A stateless result agrees with itself. -/
theorem agree_liftDf (same : SameMachine host fusion l r) (result : Except DfError α)
    : Agree host fusion Eq (liftDf result l) (liftDf result r) := by
  cases result with
  | ok value => exact ⟨rfl, same⟩
  | error failure => exact ⟨rfl, same.source⟩

theorem SameMachine.afterRead (same : SameMachine host fusion l r) (name : String)
    : SameMachine host fusion (l.afterRead name) (r.afterRead name) := by
  unfold Machine.afterRead
  rw [same.remaining]
  split
  · exact { (same.erase name).countedDown name with remaining := rfl }
  · exact { same.countedDown name with remaining := rfl }

/-- Regions that read the same relations execute to the same outcome. -/
theorem executeWithRetry_same (streams : Streams host fusion) {region other : LazyRegion β}
    (plan : region.plan.resident = other.plan.resident)
    (bytes : region.inputBytes = other.inputBytes)
    : executeWithRetry fusion region = executeWithRetry fusion other := by
  have run
      : ∀ spillable,
          fusion.executeRegion region.plan spillable
            = fusion.executeRegion other.plan spillable := by
    intro spillable
    rw [← streams.executeRegion region.plan, plan, streams.executeRegion]
  simp only [executeWithRetry, run, bytes]

/-- The relation a forced region leaves in memory, unless it is past the whole budget. -/
def StaysResident (host : Host β) (fusion : DataFusion β) (machine : Machine σ β)
    (name : String)
    : Prop :=
  match machine.bindings.lookup name with
  | some (.spilled _) => False
  | some (.lazy region) =>
      ∀ batches, executeWithRetry fusion region = .ok batches
        → host.exceeds (host.batchesBytes batches) = false
  | _ => True

/-- No plan is left under the name, and on the left no file if the forced relation fits. -/
structure Forced (host : Host β) (fusion : DataFusion β) (before l r : Machine σ β)
    (name : String)
    : Prop where
  same : SameMachine host fusion l r
  executed : ∀ region, l.bindings.lookup name ≠ some (.lazy region)
  resident : StaysResident host fusion before name
    → ∀ spilled, l.bindings.lookup name ≠ some (.spilled spilled)

/-- Forcing a binding agrees, by cases on what the name holds. -/
theorem forceMaterialized_agree (streams : Streams host fusion)
    (conforming : fusion.Conforming) (same : SameMachine host fusion l r) (name : String)
    : Proc.Alike (fun l' r' => Forced host fusion l l' r' name) SameSource Eq
        (forceMaterialized host fusion name l)
        (forceMaterialized host.unlimited fusion name r) := by
  have binding := same.bindings name
  generalize hl : l.bindings.lookup name = left at binding
  generalize hr : r.bindings.lookup name = right at binding
  have unforced
      : (∀ region, left ≠ some (.lazy region)) → (∀ region, right ≠ some (.lazy region))
        → Proc.Alike (fun l' r' => Forced host fusion l l' r' name) SameSource Eq
            (forceMaterialized host fusion name l)
            (forceMaterialized host.unlimited fusion name r) := by
    intro notLeft notRight
    rw [forceMaterialized_of_not_lazy (fun region => hl ▸ notLeft region),
      forceMaterialized_of_not_lazy (fun region => hr ▸ notRight region)]
    refine ⟨rfl, same, fun region => hl ▸ notLeft region, ?_⟩
    intro stays spilled found
    simp only [StaysResident, found] at stays
  cases binding with
  | none => exact unforced (by simp) (by simp)
  | some held =>
      cases held with
      | materialized | spilled | keys => exact unforced (by simp) (by simp)
      | lazy region other plan bytes =>
          rw [forceMaterialized_of_lazy hl, forceMaterialized_of_lazy hr,
            executeWithRetry_same streams plan bytes]
          cases ran : executeWithRetry fusion other with
          | error failure => exact ⟨rfl, same.source⟩
          | ok batches =>
              simp only [liftDf_ok, Proc.pure_bind]
              obtain ⟨l', r', hl', hr', same', onRight, fits⟩ :=
                storeRelation_same streams name (conforming.executeWithRetry ran)
                  (same.erase name)
              rw [hl', hr']
              refine ⟨rfl, same', ?_, ?_⟩
              · intro region' found
                have binding' := same'.bindings name
                rw [found, onRight] at binding'
                cases binding' with
                | some held' => cases held'
              · intro stays spilled found
                simp only [StaysResident, hl] at stays
                have ran' := (executeWithRetry_same streams plan bytes).trans ran
                rw [fits (stays batches ran')] at found
                simp at found

/-- A spilled input streamed on one side is a resident one registered on the other. -/
theorem registerSpilled_agree (same : SameMachine host fusion l r)
    {left right : Context β} (contexts : residentContext left = residentContext right)
    (tableName : String) {name : String} {batches : β}
    (onRight : r.bindings.lookup name = some (.materialized batches))
    (conforms : fusion.memTable batches = .ok ())
    : Agree host fusion SameInputs
        (registerSpilled fusion left tableName name
          { file := batches, bytes := host.batchesBytes batches } l)
        (registerResident host.unlimited fusion right tableName name r) := by
  have names := congrArg (List.map Prod.fst) contexts
  simp only [residentContext_names] at names
  rw [registerSpilled_apply, registerResident_of_materialized onRight, conforms, names]
  cases fusion.registerTable (right.map Prod.fst) tableName with
  | error failure => exact ⟨rfl, same.source⟩
  | ok =>
      refine ⟨⟨?_, rfl⟩, same.afterRead name⟩
      simp [contexts, LogicalPlan.resident]

/-- A resident input is registered alike. -/
theorem registerResident_agree (same : SameMachine host fusion l r)
    {left right : Context β} (contexts : residentContext left = residentContext right)
    (tableName : String) {name : String} {batches : β}
    (onLeft : l.bindings.lookup name = some (.materialized batches))
    (onRight : r.bindings.lookup name = some (.materialized batches))
    (conforms : fusion.memTable batches = .ok ())
    : Agree host fusion SameInputs
        (registerResident host fusion left tableName name l)
        (registerResident host.unlimited fusion right tableName name r) := by
  have names := congrArg (List.map Prod.fst) contexts
  simp only [residentContext_names] at names
  rw [registerResident_of_materialized onLeft, registerResident_of_materialized onRight,
    conforms, names]
  cases fusion.registerTable (right.map Prod.fst) tableName with
  | error failure => exact ⟨rfl, same.source⟩
  | ok =>
      refine ⟨⟨?_, rfl⟩, same.afterRead name⟩
      simp [contexts, LogicalPlan.resident]

/-- Whatever a name holds, it is registered alike; by cases on the two forms. -/
theorem registerStored_agree (same : SameMachine host fusion l r)
    {left right : Context β} (contexts : residentContext left = residentContext right)
    (tableName name : String)
    : Agree host fusion SameInputs (registerStored host fusion left tableName name l)
        (registerStored host.unlimited fusion right tableName name r) := by
  have binding := same.bindings name
  unfold registerStored
  rw [Proc.get_bind_apply, Proc.get_bind_apply]
  generalize hl : l.bindings.lookup name = onLeft at binding
  generalize hr : r.bindings.lookup name = onRight at binding
  have refused
      : (∀ batches, onLeft ≠ some (.materialized batches))
        → (∀ batches, onRight ≠ some (.materialized batches))
        → onLeft.isSome = onRight.isSome
        → Agree host fusion SameInputs (registerResident host fusion left tableName name l)
            (registerResident host.unlimited fusion right tableName name r) := by
    intro notLeft notRight both
    rw [registerResident_of_missing (fun batches => hl ▸ notLeft batches),
      registerResident_of_missing (fun batches => hr ▸ notRight batches), hl, hr]
    refine ⟨?_, same.source⟩
    cases onLeft <;> cases onRight <;> simp_all
  cases binding with
  | none => exact refused (by simp) (by simp) rfl
  | some held =>
      cases held with
      | materialized batches conforms =>
          exact registerResident_agree same contexts tableName hl hr conforms
      | spilled batches conforms =>
          exact registerSpilled_agree same contexts tableName hr conforms
      | keys | lazy => exact refused (by simp) (by simp) rfl

/-- One input is registered alike, by cases on a single-use plan. -/
theorem registerInput_agree (streams : Streams host fusion) (conforming : fusion.Conforming)
    (same : SameMachine host fusion l r) {left right : Context β}
    (contexts : residentContext left = residentContext right) (tableName name : String)
    : Agree host fusion SameInputs (registerInput host fusion left tableName name l)
        (registerInput host.unlimited fusion right tableName name r) := by
  have names := congrArg (List.map Prod.fst) contexts
  simp only [residentContext_names] at names
  unfold registerInput
  rw [Proc.get_bind_apply, Proc.get_bind_apply]
  have binding := same.bindings name
  generalize hl : l.bindings.lookup name = onLeft at binding
  generalize hr : r.bindings.lookup name = onRight at binding
  cases binding with
  | none => exact registerStored_agree same contexts tableName name
  | some held =>
      cases held with
      | materialized | spilled | keys => exact registerStored_agree same contexts tableName name
      | lazy region other plan bytes =>
          simp only [same.remaining]
          split
          · rw [registerView_of_lazy hl, registerView_of_lazy hr, names]
            cases fusion.registerTable (right.map Prod.fst) tableName with
            | error failure => exact ⟨rfl, same.source⟩
            | ok =>
                refine ⟨⟨?_, bytes⟩, (same.countedDown name).erase name⟩
                simp [contexts, plan]
          · refine (forceMaterialized_agree streams conforming same name).bind ?_
            intro _ _ l' r' _ _ _ forced
            exact registerStored_agree forced.same contexts tableName name

/-- All inputs are registered alike, by induction over them. -/
theorem registerInputs_agree (streams : Streams host fusion)
    (conforming : fusion.Conforming) (inputs : List (String × String))
    (same : SameMachine host fusion l r) {left right : Context β}
    (contexts : residentContext left = residentContext right) (inputBytes : Nat)
    : Agree host fusion SameInputs (registerInputs host fusion inputs left inputBytes l)
        (registerInputs host.unlimited fusion inputs right inputBytes r) := by
  induction inputs generalizing l r left right inputBytes with
  | nil => exact ⟨⟨contexts, rfl⟩, same⟩
  | cons head rest ih =>
      obtain ⟨tableName, name⟩ := head
      refine (registerInput_agree streams conforming same contexts tableName name).bind ?_
      rintro ⟨nextLeft, bytes⟩ ⟨nextRight, _⟩ l' r' _ _ ⟨contexts', rfl⟩ same'
      exact ih same' contexts' _

/-- What a fragment composes over inputs that read the same relations. -/
theorem composeFragment_same (streams : Streams host fusion) (conforming : fusion.Conforming)
    (fragment : Fragment) {left right : Context β}
    (contexts : residentContext left = residentContext right) (inputBytes : Nat)
    : (∃ failure, composeFragment fusion fragment left inputBytes = .error failure
        ∧ composeFragment fusion fragment right inputBytes = .error failure)
      ∨ ∃ onLeft onRight, composeFragment fusion fragment left inputBytes = .ok onLeft
        ∧ composeFragment fusion fragment right inputBytes = .ok onRight
        ∧ SameRelation host fusion onLeft onRight := by
  have compose : fusion.compose fragment left = fusion.compose fragment right := by
    rw [← streams.compose fragment left, contexts, streams.compose]
  have plans
      : (composedPlan fragment left).resident = (composedPlan fragment right).resident := by
    rw [composedPlan_resident, contexts, ← composedPlan_resident]
  have lazily
      : (∃ failure, lazyBinding fusion fragment left inputBytes = .error failure
          ∧ lazyBinding fusion fragment right inputBytes = .error failure)
        ∨ ∃ onLeft onRight, lazyBinding fusion fragment left inputBytes = .ok onLeft
          ∧ lazyBinding fusion fragment right inputBytes = .ok onRight
          ∧ SameRelation host fusion onLeft onRight := by
    unfold lazyBinding
    rw [compose]
    cases fusion.compose fragment right with
    | error failure => exact Or.inl ⟨failure, rfl, rfl⟩
    | ok => exact Or.inr ⟨_, _, rfl, rfl, .lazy _ _ plans rfl⟩
  have projected
      : ∀ project,
          (∃ failure, projectedBinding fusion fragment project left inputBytes = .error failure
            ∧ projectedBinding fusion fragment project right inputBytes = .error failure)
          ∨ ∃ onLeft onRight,
            projectedBinding fusion fragment project left inputBytes = .ok onLeft
              ∧ projectedBinding fusion fragment project right inputBytes = .ok onRight
              ∧ SameRelation host fusion onLeft onRight := by
    intro project
    unfold projectedBinding
    split
    · exact lazily
    · have run
          : fusion.projectDataframeDedup (composedPlan fragment left)
            = fusion.projectDataframeDedup (composedPlan fragment right) := by
        rw [← streams.projectDataframeDedup, plans, streams.projectDataframeDedup]
      rw [run]
      cases ran : fusion.projectDataframeDedup (composedPlan fragment right) with
      | error failure => exact Or.inl ⟨failure, rfl, rfl⟩
      | ok batches =>
          exact Or.inr
            ⟨_, _, rfl, rfl, .materialized batches (conforming.projectDataframeDedup ran)⟩
  cases fragment with
  | hashJoin | nestedLoopJoin | project => exact projected _
  | aggregate | sort | filter | limit | rawSql => exact lazily
  | singleRowGuard keys =>
      have guarded
          : runSingleRowGuard fusion keys left = runSingleRowGuard fusion keys right := by
        unfold runSingleRowGuard
        rw [← streams.guardViolations keys left, ← streams.collectTable left, contexts,
          streams.guardViolations, streams.collectTable]
      simp only [composeFragment, guarded]
      cases ran : runSingleRowGuard fusion keys right with
      | error failure => exact Or.inl ⟨failure, rfl, rfl⟩
      | ok batches =>
          have conforms : fusion.memTable batches = .ok () := by
            unfold runSingleRowGuard at ran
            cases counted : fusion.guardViolations keys right with
            | error failure => simp [counted, bind, Except.bind] at ran
            | ok violations =>
                simp only [counted, bind, Except.bind] at ran
                split at ran
                · contradiction
                · exact conforming.collectTable ran
          exact Or.inr ⟨_, _, rfl, rfl, .materialized batches conforms⟩

/-- A fragment over inputs that denote the same gives the same binding. -/
theorem runFragment_agree (streams : Streams host fusion) (conforming : fusion.Conforming)
    (fragment : Fragment) (inputs : NameMap String) (same : SameMachine host fusion l r)
    : Agree host fusion (SameRelation host fusion)
        (runFragment fusion host fragment inputs l)
        (runFragment fusion host.unlimited fragment inputs r) := by
  have empty : residentContext ([] : Context β) = residentContext [] := rfl
  refine (registerInputs_agree streams conforming _ same empty 0).bind ?_
  rintro ⟨left, inputBytes⟩ ⟨right, _⟩ l' r' _ _ ⟨contexts, rfl⟩ same'
  rcases composeFragment_same streams conforming fragment contexts inputBytes with
    ⟨failure, onLeft, onRight⟩ | ⟨left', right', onLeft, onRight, binding⟩
  · change Agree host fusion _ (liftDf (composeFragment fusion fragment left inputBytes) l')
      (liftDf (composeFragment fusion fragment right inputBytes) r')
    rw [onLeft, onRight]
    exact ⟨rfl, same'.source⟩
  · change Agree host fusion _ (liftDf (composeFragment fusion fragment left inputBytes) l')
      (liftDf (composeFragment fusion fragment right inputBytes) r')
    rw [onLeft, onRight]
    exact ⟨binding, same'⟩

/-- The same keys are collected, from a table or from a stream. -/
theorem collectDistinctFrom_agree (streams : Streams host fusion)
    (same : SameMachine host fusion l r) (name key : String)
    (executed : ∀ region, l.bindings.lookup name ≠ some (.lazy region))
    : Agree host fusion Eq (collectDistinctFrom fusion name key l)
        (collectDistinctFrom fusion name key r) := by
  have binding := same.bindings name
  unfold collectDistinctFrom
  rw [Proc.get_bind_apply, Proc.get_bind_apply]
  generalize hl : l.bindings.lookup name = onLeft at binding executed
  generalize hr : r.bindings.lookup name = onRight at binding
  cases binding with
  | none => exact agree_liftDf same _
  | some held =>
      cases held with
      | keys => exact agree_liftDf same _
      | lazy region => exact absurd rfl (executed region)
      | materialized batches conforms =>
          simp only [conforms, liftDf_ok, Proc.pure_bind]
          exact agree_liftDf same _
      | spilled batches conforms =>
          simp only [conforms, liftDf_ok, Proc.pure_bind]
          rw [← streams.collectDistinct (.spillStream batches) key]
          exact agree_liftDf same _

theorem keysBinding_agree (same : SameMachine host fusion l r) (name : String)
    : Agree host fusion Eq (keysBinding name l) (keysBinding name r) := by
  have binding := same.bindings name
  unfold keysBinding
  rw [Proc.get_bind_apply, Proc.get_bind_apply]
  generalize l.bindings.lookup name = onLeft at binding
  generalize r.bindings.lookup name = onRight at binding
  cases binding with
  | none => exact ⟨rfl, same.source⟩
  | some held =>
      cases held with
      | keys => exact ⟨rfl, same⟩
      | lazy | materialized | spilled => exact ⟨rfl, same.source⟩

theorem extraKeys_agree (same : SameMachine host fusion l r) (extras : List ExtraInjection)
    : Agree host fusion Eq (extraKeys extras l) (extraKeys extras r) := by
  induction extras generalizing l r with
  | nil => exact ⟨rfl, same⟩
  | cons extra rest ih =>
      refine (keysBinding_agree same extra.keysFrom).bind ?_
      rintro keys _ l' r' _ _ rfl same'
      refine (ih same').bind ?_
      rintro others _ l'' r'' _ _ rfl same''
      exact ⟨rfl, same''⟩

theorem noteUses_agree (same : SameMachine host fusion l r) (names : List String)
    : Agree host fusion Eq (noteUses names l) (noteUses names r) := by
  induction names generalizing l r with
  | nil => exact ⟨rfl, same⟩
  | cons name rest ih =>
      rw [noteUses, Proc.bind_of_ok (noteUse_apply name l),
        Proc.bind_of_ok (noteUse_apply name r)]
      exact ih (same.countedDown name)

/-- A source operation from equal source states ends in equal ones. -/
theorem onSource_agree (same : SameMachine host fusion l r) (action : Proc σ PyErr α)
    : Agree host fusion Eq (onSource action l) (onSource action r) := by
  rw [onSource_apply, onSource_apply, same.source]
  rcases action r.source with ⟨failure | value, reached⟩
  · exact ⟨rfl, rfl⟩
  · exact ⟨rfl, { same with source := rfl }⟩

/-- A binding that is in memory is borrowed alike. -/
theorem materialized_agree (same : SameMachine host fusion l r) (name : String)
    (resident : ∀ spilled, l.bindings.lookup name ≠ some (.spilled spilled))
    : Agree host fusion Eq (materialized name l) (materialized name r) := by
  have binding := same.bindings name
  unfold materialized
  rw [Proc.get_bind_apply, Proc.get_bind_apply]
  generalize l.bindings.lookup name = onLeft at binding resident
  generalize r.bindings.lookup name = onRight at binding
  cases binding with
  | none => exact ⟨rfl, same.source⟩
  | some held =>
      cases held with
      | materialized => exact ⟨rfl, same⟩
      | keys | lazy => exact ⟨rfl, same.source⟩
      | spilled => exact absurd rfl (resident _)

/-- The returned relation is the same, from memory or from its file. -/
theorem export_agree (same : SameMachine host fusion l r) (name : String)
    : Agree host fusion Eq («export» name l) («export» name r) := by
  have binding := same.bindings name
  simp only [«export», Proc.get_bind_apply, setBindings, Proc.modify_bind_apply]
  generalize l.bindings.lookup name = onLeft at binding
  generalize r.bindings.lookup name = onRight at binding
  cases binding with
  | none => exact ⟨rfl, same.source⟩
  | some held =>
      cases held with
      | materialized | spilled => exact ⟨rfl, same.erase name⟩
      | keys | lazy => exact ⟨rfl, same.source⟩

end Readers

-----------------------------------------------------------------------------------------
-- Steps and runs
-----------------------------------------------------------------------------------------

section Runs

variable {engine : Engine σ β} {l r : Machine σ β}

/-- The step neither ships a relation that is on disk by then nor fetches one whose batches
do not match its schema.
-/
structure SpillSafe [Fetched β] (engine : Engine σ β) (machine : Machine σ β) (step : Step)
    : Prop where
  fetched
    : Yields engine (fun batches => engine.fusion.memTable batches = .ok ()) (fun _ => True)
        machine step
  shipped
    : ∀ datasource input table, step = .ship datasource input table
      → StaysResident engine.host engine.fusion machine input

/-- Storing a fragment's result agrees; a plan is inserted on both sides. -/
theorem storeResult_agree (streams : Streams engine.host engine.fusion) (name : String)
    {left right : Binding β} (result : SameRelation engine.host engine.fusion left right)
    (same : SameMachine engine.host engine.fusion l r)
    : Agree engine.host engine.fusion Eq (storeResult engine name left l)
        (storeResult engine.unlimited name right r) := by
  cases result with
  | materialized batches conforms => exact storeRelation_agree streams name conforms same
  | spilled batches conforms =>
      have stored := storeRelation_unlimited engine.host.unlimited rfl name batches r
      change Agree engine.host engine.fusion Eq _
        (storeRelation engine.host.unlimited name batches r)
      rw [stored]
      exact ⟨rfl, same.insert name (.spilled batches conforms)⟩
  | keys keys => exact ⟨rfl, same.insert name (.keys keys)⟩
  | lazy region other plan bytes => exact ⟨rfl, same.insert name (.lazy region other plan bytes)⟩

/-- A step agrees, as long as it is safe for the limited machine; by cases on the step. -/
theorem runStep_agree [Fetched β] (streams : Streams engine.host engine.fusion)
    (conforming : engine.fusion.Conforming) (ir : Ir) (step : Step)
    (same : SameMachine engine.host engine.fusion l r) (safe : SpillSafe engine l step)
    : Agree engine.host engine.fusion (Option.Rel Eq) (runStep engine ir step l)
        (runStep engine.unlimited ir step r) := by
  cases step with
  | sourceScan datasource scan binding _ =>
      refine (onSource_agree same _).bind ?_
      rintro batches _ l' r' ran _ rfl same'
      have conforms := safe.fetched batches _ (onSource_eq_ok ran)
      refine (storeRelation_agree streams binding conforms same').bind ?_
      intro _ _ _ _ _ _ _ same''
      exact ⟨.none, same''⟩
  | collectDistinct input key _ binding =>
      refine (forceMaterialized_agree streams conforming same input).bind ?_
      intro _ _ l' r' _ _ _ forced
      refine (collectDistinctFrom_agree streams forced.same input key forced.executed).bind ?_
      rintro keys _ l'' r'' _ _ rfl same'
      exact ⟨.none, (same'.countedDown input).insert binding (.keys keys)⟩
  | injectedScan datasource scan injectColumn keysFrom binding injectColumnNdv extras =>
      refine (keysBinding_agree same keysFrom).bind ?_
      rintro keys _ l' r' read _ rfl same'
      cases (keysBinding_reads keysFrom).reached read
      refine (extraKeys_agree same' extras).bind ?_
      rintro extraSets _ l'' r'' readExtras _ rfl same''
      cases (extraKeys_reads extras).reached readExtras
      refine (onSource_agree same'' _).bind ?_
      rintro batches _ l₃ r₃ ran _ rfl same₃
      have conforms :=
        safe.fetched keys extraSets batches _ read readExtras (onSource_eq_ok ran)
      refine (noteUses_agree same₃ _).bind ?_
      intro _ _ l₄ r₄ _ _ _ same₄
      refine (storeRelation_agree streams binding conforms same₄).bind ?_
      intro _ _ _ _ _ _ _ same₅
      exact ⟨.none, same₅⟩
  | ship datasource input table =>
      refine (forceMaterialized_agree streams conforming same input).bind ?_
      intro _ _ l' r' _ _ _ forced
      have resident := forced.resident (safe.shipped _ _ _ rfl)
      refine (materialized_agree forced.same input resident).bind ?_
      rintro batches _ l'' r'' _ _ rfl same'
      refine (onSource_agree same' _).bind ?_
      intro _ _ l₃ r₃ _ _ _ same₃
      exact ⟨.none, same₃.countedDown input⟩
  | merge fragment inputs binding =>
      simp only [runStep]
      cases ir.fragments.lookup fragment with
      | none => exact ⟨rfl, same.source⟩
      | some frag =>
          refine (runFragment_agree streams conforming frag inputs same).bind ?_
          intro left right l' r' _ _ result same'
          refine (storeResult_agree streams binding result same').bind ?_
          intro _ _ _ _ _ _ _ same''
          exact ⟨.none, same''⟩
  | «return» input =>
      refine (forceMaterialized_agree streams conforming same input).bind ?_
      intro _ _ l' r' _ _ _ forced
      refine (export_agree forced.same input).bind ?_
      rintro batches _ l'' r'' _ _ rfl same'
      exact ⟨.some rfl, same'⟩

/-- The start states of both runs are the same. -/
theorem start_same (ir : Ir) (source : σ)
    : SameMachine engine.host engine.fusion (Machine.start ir source)
        (Machine.start ir source) where
  source := rfl
  remaining := rfl
  bindings _ := .none

/-- A run all of whose steps are safe agrees with the unlimited one. -/
theorem runSteps_agree [Fetched β] (streams : Streams engine.host engine.fusion)
    (conforming : engine.fusion.Conforming) (ir : Ir) (source : σ)
    (safe : Proc.Along (runStep engine ir) (SpillSafe engine) ir.steps
      (Machine.start ir source))
    : Agree engine.host engine.fusion Eq (runSteps engine ir source)
        (runSteps engine.unlimited ir source) :=
  Proc.Lockstep.runUntil (fun _ _ same => same.source)
    (fun _ _ step same safe => runStep_agree streams conforming ir step same safe)
    ir.steps _ _ (start_same ir source) safe

/-- Agreeing outcomes are equal in what a caller sees of them. -/
theorem Agree.result {host : Host β} {fusion : DataFusion β}
    {left right : Except PyErr α × Machine σ β} (agree : Agree host fusion Eq left right)
    : left.1 = right.1 ∧ left.2.source = right.2.source := by
  rcases agree.elim with ⟨a, s, b, t, rfl, rfl, same, machines⟩ | ⟨e, s, t, rfl, rfl, sources⟩
  · exact ⟨congrArg Except.ok same, machines.source⟩
  · exact ⟨rfl, sources⟩

end Runs

-----------------------------------------------------------------------------------------
-- Executions over Arrow relations
-----------------------------------------------------------------------------------------

/-- DataFusion plans and executes over the stream of a file as over a table of what the
file holds.
-/
structure Frames.ReadsFiles (frames : Frames) : Prop where
  compose : ∀ fragment ctx,
    frames.compose fragment (residentContext ctx) = frames.compose fragment ctx
  frame : ∀ plan spillable, frames.frame plan.resident spillable = frames.frame plan spillable
  keyFrame : ∀ plan key, frames.keyFrame plan.resident key = frames.keyFrame plan key
  tableFrame : ∀ ctx name,
    frames.tableFrame (residentContext ctx) name = frames.tableFrame ctx name
  violations : ∀ keys ctx,
    frames.violations keys (residentContext ctx) = frames.violations keys ctx

/-- The engine's operations on such frames tell no file from a table either. -/
theorem Frames.ReadsFiles.streams {frames : Frames} (reads : frames.ReadsFiles)
    {host : Host Batches}
    (back : ∀ relation, memTableTryNew relation = .ok ()
      → host.writeIpc relation = .ok relation)
    : Streams host frames.fusion where
  back := back
  compose := reads.compose
  executeRegion plan spillable := by simp only [Frames.fusion, reads.frame]
  projectDataframeDedup plan := by
    cases plan with
    | memTable | spillStream => rfl
    | fragment fragment names inputs =>
        have same := reads.frame
          (.fragment (fragment.withProjections (internalAliases fragment.projections)) names
            inputs) false
        simp only [LogicalPlan.resident] at same
        simp only [Frames.fusion, LogicalPlan.resident, projectDataframeDedup, same]
  collectDistinct plan key := by
    simp only [Frames.fusion, collectDistinctKeys, reads.keyFrame]
  guardViolations := reads.violations
  collectTable ctx name := by simp only [Frames.fusion, reads.tableFrame]

/-- A run in which no spilled relation is shipped, and every fetched one matches its schema,
has the same outcome and the same effect on the sources as without a budget. Witness:
lockstep with the unlimited run.
-/
theorem execute_spill_transparent (engine : Engine σ Batches) (frames : Frames)
    (onArrow : engine.fusion = frames.fusion) (reads : frames.ReadsFiles)
    (back : ∀ relation, memTableTryNew relation = .ok ()
      → engine.host.writeIpc relation = .ok relation)
    (ir : Ir) (source : σ)
    (safe : Proc.Along (runStep engine ir) (SpillSafe engine) ir.steps
      (Machine.start ir (engine.connectors.clearShipments source)))
    : execute engine ir source = execute engine.unlimited ir source := by
  have streams : Streams engine.host engine.fusion := onArrow ▸ reads.streams back
  have conforming : engine.fusion.Conforming := onArrow ▸ frames.fusion_conforming
  obtain ⟨outcome, sources⟩ := (runSteps_agree streams conforming ir _ safe).result
  unfold execute
  simp only [outcome, sources]
  rfl

-----------------------------------------------------------------------------------------
-- Runs past the budget
-----------------------------------------------------------------------------------------

def dimSchema : Schema := .new [.new "k" .int64 true]

/-- A relation of one row, standing for what a source answers at any assigned size. -/
def dimRelation : Batches where
  schema := dimSchema
  batches :=
    [
      {
        schema := dimSchema
        columns := [{ dataType := .int64, cells := [.int64 7], typed := by decide }]
        numRows := 1
        types := rfl
        lengths := by simp
        nonNull := by decide
      }
    ]

/-- A machine where every relation takes 17 GiB, one more than the budget. -/
def oversizedHost : Host Batches where
  batchesBytes _ := 17 * 1024 * 1024 * 1024
  residentBindingsBudget := some residentBudget
  iterationOrder := id
  iterationOrder_perm _ := .refl _
  writeIpc := .ok

/-- DataFusion refusing every plan, which the runs below never ask it for. -/
def idleFrames : Frames where
  registerTable _ _ := .ok ()
  compose _ _ := .error (.plan "unused")
  frame _ _ := .error (.plan "unused")
  keyFrame _ _ := .error (.plan "unused")
  tableFrame _ _ := .error (.plan "unused")
  violations _ _ := .error (.plan "unused")
  debug _ := ""

theorem idleFrames_readsFiles : idleFrames.ReadsFiles where
  compose _ _ := rfl
  frame _ _ := rfl
  keyFrame _ _ := rfl
  tableFrame _ _ := rfl
  violations _ _ := rfl

/-- One DuckDB datasource that answers every fetch and records what is shipped to it. -/
def recordingConnectors : Connectors (List (String × Batches)) Batches where
  kind _ := pure .duckDb
  fetch _ _ := pure dimRelation
  fetchParallel _ _ _ _ _ := Proc.fail "parallel fetch is Postgres-only"
  fetchTempJoin _ _ _ _ := pure dimRelation
  columnHasIndex _ _ _ _ := pure false
  estimateSelectivity _ _ _ _ _ := pure none
  shipTable _ table batches := Proc.modify (fun shipped => shipped ++ [(table, batches)])
  clearShipments := id

def oversizedEngine : Engine (List (String × Batches)) Batches where
  host := oversizedHost
  fusion := idleFrames.fusion
  exprs :=
    {
      functions := { scalar := fun _ => none, aggregate := fun _ => none }
      exprToSql := fun _ _ => .error (.plan "unused")
    }
  connectors := recordingConnectors

def rawScan : ScanSpec := { rawSql := some "SELECT k FROM dim" }

/-- Scan a relation, ship it to a source and return it. -/
def shipPlan : Ir :=
  {
    outputs := ["k"]
    steps :=
      [
        .sourceScan "d" rawScan "dim" true,
        .ship "d" "dim" "shipped_dim",
        .return "dim"
      ]
    fragments := ∅
  }

/-- The same machine where every relation takes 10 GiB, so that a second one has no room. -/
def evictingEngine : Engine (List (String × Batches)) Batches :=
  { oversizedEngine with
    host := { oversizedHost with batchesBytes := fun _ => 10 * 1024 * 1024 * 1024 }
  }

/-- Scan two relations, the second of which evicts the first, and return the first. -/
def evictPlan : Ir :=
  {
    outputs := ["k"]
    steps :=
      [
        .sourceScan "d" rawScan "first" true,
        .sourceScan "d" rawScan "second" true,
        .return "first"
      ]
    fragments := ∅
  }

/-- Shipping a relation past the budget fails, while without a budget it is shipped. -/
theorem execute_spilled_ship_differs
    : (∀ relation, memTableTryNew relation = .ok ()
        → oversizedEngine.host.writeIpc relation = .ok relation)
      ∧ execute oversizedEngine shipPlan []
          = (.error "binding 'dim' is not a relation", [])
      ∧ execute oversizedEngine.unlimited shipPlan []
          = (.ok dimRelation, [("shipped_dim", dimRelation)]) :=
  ⟨fun _ _ => rfl, rfl, rfl⟩

theorem execute_spill_transparent_evict
    : execute evictingEngine evictPlan [] = execute evictingEngine.unlimited evictPlan []
      ∧ (runSteps evictingEngine evictPlan []).2.files = [dimRelation] := by
  have scanned
      : ∀ (machine : Machine (List (String × Batches)) Batches) (binding : String),
          SpillSafe evictingEngine machine (.sourceScan "d" rawScan binding true) := by
    intro machine binding
    refine ⟨?_, ?_⟩
    · intro batches reached ran
      cases ran
      rfl
    · intro _ _ _ ship
      cases ship
  have returned
      : ∀ (machine : Machine (List (String × Batches)) Batches),
          SpillSafe evictingEngine machine (.return "first") :=
    fun _ => ⟨trivial, fun _ _ _ ship => by cases ship⟩
  have transparent := execute_spill_transparent evictingEngine idleFrames rfl
    idleFrames_readsFiles (fun _ _ => rfl) evictPlan []
    ⟨scanned _ _, fun _ _ =>
      ⟨scanned _ _, fun _ _ => ⟨returned _, fun _ _ => trivial⟩⟩⟩
  exact ⟨transparent, rfl⟩

end Fedqrs
