import Fedqrs.Correctness.SameMachine
import Fedqrs.Engine.Effects

/-! A run that hands no relation to a file is the run without a budget. -/

namespace Fedqrs

open EngineM

variable {σ β α γ : Type}

/-- Where the first computation leaves no file behind, none was there and the second one
does the same.
-/
def Unspilled (limited unlimited : EngineM σ β α) : Prop :=
  ∀ machine, (limited machine).2.files = []
    → machine.files = [] ∧ unlimited machine = limited machine

section Rules

/-- Nothing has been handed to a file before if nothing has been after. -/
theorem no_files_before {host : Host β} {action : EngineM σ β α} {machine : Machine σ β}
    (effects : Effects host (fun _ => True) (fun _ => True) (fun _ _ => True) action)
    (none : (action machine).2.files = [])
    : machine.files = [] := by
  have grown := Effects.files_prefix effects machine
  rw [none] at grown
  exact List.prefix_nil.mp grown

/-- A computation that does not depend on the budget. -/
theorem Unspilled.same {action : EngineM σ β α}
    (files : ∀ machine, machine.files <+: (action machine).2.files)
    : Unspilled action action := by
  intro machine none
  have grown := files machine
  rw [none] at grown
  exact ⟨List.prefix_nil.mp grown, rfl⟩

theorem Unspilled.reads {action : EngineM σ β α} (reads : Proc.Reads action)
    : Unspilled action action := by
  refine Unspilled.same (fun machine => ?_)
  exact (reads machine).symm ▸ List.prefix_rfl

/-- Sequencing: the second part leaves no file, so the first one left none. -/
theorem Unspilled.bind {limited unlimited : EngineM σ β α}
    {next nextUnlimited : α → EngineM σ β γ} (head : Unspilled limited unlimited)
    (tail : ∀ value, Unspilled (next value) (nextUnlimited value))
    : Unspilled (limited >>= next) (unlimited >>= nextUnlimited) := by
  intro machine none
  rcases ran : limited machine with ⟨failure | value, reached⟩
  · rw [Proc.bind_of_error ran] at none ⊢
    obtain ⟨before, same⟩ := head machine (by rw [ran]; exact none)
    exact ⟨before, Proc.bind_of_error (same.trans ran) _⟩
  · rw [Proc.bind_of_ok ran] at none ⊢
    obtain ⟨middle, later⟩ := tail value reached none
    obtain ⟨before, same⟩ := head machine (by rw [ran]; exact middle)
    exact ⟨before, (Proc.bind_of_ok (same.trans ran) _).trans later⟩

/-- Reading the machine first. -/
theorem Unspilled.getThen {next nextUnlimited : Machine σ β → EngineM σ β α}
    (tail : ∀ machine, Unspilled (next machine) (nextUnlimited machine))
    : Unspilled (Proc.get >>= next) (Proc.get >>= nextUnlimited) :=
  fun machine none => tail machine machine none

end Rules

section Operations

variable {host : Host β} {fusion : DataFusion β}

/-- Making headroom without a file does nothing: the first sized relation would have been
taken and written.
-/
theorem spillForHeadroom_unspilled (host : Host β) {incoming : Nat} {machine : Machine σ β}
    (none : (spillForHeadroom host incoming machine).2.files = [])
    : spillForHeadroom host incoming machine = (.ok (), machine) := by
  obtain ⟨_, held⟩ := residentSizes_spec host machine.bindings
  have order := (List.perm_insertionSort (fun a b : String × Nat => b.2 ≤ a.2)
    (host.iterationOrder (residentSizes host machine.bindings))).trans
      (host.iterationOrder_perm (residentSizes host machine.bindings))
  simp only [spillForHeadroom, Proc.get_bind_apply] at none ⊢
  generalize List.insertionSort (fun a b : String × Nat => b.2 ≤ a.2)
    (host.iterationOrder (residentSizes host machine.bindings)) = sized at none order ⊢
  generalize ((host.iterationOrder (residentSizes host machine.bindings)).map Prod.snd).sum
    = resident at none ⊢
  cases sized with
  | nil => rfl
  | cons head rest =>
      obtain ⟨name, bytes⟩ := head
      unfold spillInOrder at none ⊢
      split
      · rename_i exceeds
        rw [if_pos exceeds] at none
        obtain ⟨batches, found, _⟩ := held (name, bytes) (order.mem_iff.mp (by simp))
        rw [Proc.bind_of_ok (takeSized_of_materialized found)] at none
        cases written : host.writeIpc batches with
        | error failure =>
            rw [Proc.bind_of_error (spillTo_of_error written _ _)] at none
            simp at none
        | ok file =>
            rw [Proc.bind_of_ok (spillTo_of_ok written _ _)] at none
            have before := no_files_before (effects_spillInOrder incoming rest _) none
            simp at before
      · rfl

/-- Storing without a file is storing without a budget. -/
theorem storeRelation_unspilled (name : String) (batches : β)
    : Unspilled (storeRelation host name batches : EngineM σ β Unit)
        (storeRelation host.unlimited name batches) := by
  intro machine none
  refine ⟨no_files_before (effects_storeRelation name batches trivial) none, ?_⟩
  rw [storeRelation_unlimited host.unlimited rfl]
  unfold storeRelation at none ⊢
  rcases ran : spillForHeadroom host (host.batchesBytes batches) machine with
    ⟨failure | _, reached⟩
  · rw [Proc.bind_of_error ran] at none
    have idle := spillForHeadroom_unspilled host (by rw [ran]; exact none)
    rw [ran] at idle
    cases idle
  · rw [Proc.bind_of_ok ran] at none ⊢
    have roomed : reached.files = [] := by
      split at none
      · exact no_files_before (effects_spillTo name batches) none
      · exact none
    have idle := spillForHeadroom_unspilled host (by rw [ran]; exact roomed)
    rw [ran] at idle
    cases idle
    split
    · rename_i exceeds
      rw [if_pos exceeds] at none
      cases written : host.writeIpc batches with
      | error failure =>
          rw [spillTo_of_error written] at none
          simp at none
      | ok file =>
          rw [spillTo_of_ok written] at none
          simp at none
    · rfl

/-- Taking a plan out of the map touches no file, by cases on what the name holds. -/
theorem takeLazy_files (name : String) (machine : Machine σ β)
    : (takeLazy name machine).2.files = machine.files := by
  simp only [takeLazy, Proc.get_bind_apply, setBindings, Proc.modify_bind_apply]
  cases machine.bindings.lookup name with
  | none => rfl
  | some binding => cases binding <;> rfl

theorem takeLazy_unspilled (name : String)
    : Unspilled (takeLazy name : EngineM σ β (LazyRegion β)) (takeLazy name) := by
  refine Unspilled.same (fun machine => ?_)
  exact (takeLazy_files name machine).symm ▸ List.prefix_rfl

theorem forceMaterialized_unspilled (name : String)
    : Unspilled (forceMaterialized host fusion name : EngineM σ β Unit)
        (forceMaterialized host.unlimited fusion name) := by
  refine Unspilled.getThen (fun machine => ?_)
  split
  · refine (takeLazy_unspilled name).bind (fun region => ?_)
    exact (Unspilled.reads (liftDf_reads _)).bind
      (fun batches => storeRelation_unspilled name batches)
  · exact Unspilled.reads (Proc.Reads.pure ())

theorem registerResident_unspilled (ctx : Context β) (tableName name : String)
    : Unspilled (registerResident host fusion ctx tableName name : EngineM σ β _)
        (registerResident host.unlimited fusion ctx tableName name) := by
  have effects
      : Effects host (fun _ => True) (fun _ => True) (fun _ _ => True)
          (registerResident host fusion ctx tableName name : EngineM σ β (Context β × Nat)) :=
    effects_registerResident ctx tableName name
  exact Unspilled.same (Effects.files_prefix effects)

theorem registerStored_unspilled (ctx : Context β) (tableName name : String)
    : Unspilled (registerStored host fusion ctx tableName name : EngineM σ β _)
        (registerStored host.unlimited fusion ctx tableName name) := by
  refine Unspilled.getThen (fun machine => ?_)
  split
  · rename_i spilled _
    have effects
        : Effects host (fun _ => True) (fun _ => True) (fun _ _ => True)
            (registerSpilled fusion ctx tableName name spilled
              : EngineM σ β (Context β × Nat)) :=
      effects_registerSpilled ctx tableName name spilled
    exact Unspilled.same (Effects.files_prefix effects)
  · exact registerResident_unspilled ctx tableName name

theorem registerView_unspilled (ctx : Context β) (tableName name : String)
    : Unspilled (registerView fusion ctx tableName name : EngineM σ β (Context β × Nat))
        (registerView fusion ctx tableName name) := by
  refine (Unspilled.same (fun _ => List.prefix_rfl)).bind (fun _ => ?_)
  refine (takeLazy_unspilled name).bind (fun region => ?_)
  exact Unspilled.reads ((liftDf_reads _).bind (fun _ => Proc.Reads.pure _))

theorem registerInput_unspilled (ctx : Context β) (tableName name : String)
    : Unspilled (registerInput host fusion ctx tableName name : EngineM σ β _)
        (registerInput host.unlimited fusion ctx tableName name) := by
  refine Unspilled.getThen (fun machine => ?_)
  split
  · split
    · exact registerView_unspilled ctx tableName name
    · exact (forceMaterialized_unspilled name).bind
        (fun _ => registerStored_unspilled ctx tableName name)
  · exact registerStored_unspilled ctx tableName name

theorem registerInputs_unspilled (inputs : List (String × String)) (ctx : Context β)
    (inputBytes : Nat)
    : Unspilled (registerInputs host fusion inputs ctx inputBytes : EngineM σ β _)
        (registerInputs host.unlimited fusion inputs ctx inputBytes) := by
  induction inputs generalizing ctx inputBytes with
  | nil => exact Unspilled.reads (Proc.Reads.pure _)
  | cons head rest ih =>
      exact (registerInput_unspilled ctx head.1 head.2).bind (fun _ => ih _ _)

theorem export_unspilled (name : String)
    : Unspilled («export» name : EngineM σ β β) («export» name) := by
  refine Unspilled.same (fun machine => ?_)
  simp only [«export», Proc.get_bind_apply, setBindings, Proc.modify_bind_apply]
  cases machine.bindings.lookup name with
  | none => exact List.prefix_rfl
  | some binding => cases binding <;> exact List.prefix_rfl

end Operations

section Runs

variable {engine : Engine σ β}

theorem storeResult_unspilled (name : String) (binding : Binding β)
    : Unspilled (storeResult engine name binding)
        (storeResult engine.unlimited name binding) := by
  cases binding with
  | materialized batches => exact storeRelation_unspilled name batches
  | keys | lazy | spilled => exact Unspilled.same (fun _ => List.prefix_rfl)

theorem onSource_unspilled (action : Proc σ PyErr α)
    : Unspilled (onSource action : EngineM σ β α) (onSource action) :=
  Unspilled.same (fun _ => List.prefix_rfl)

theorem noteUses_unspilled (names : List String)
    : Unspilled (noteUses names : EngineM σ β Unit) (noteUses names) := by
  induction names with
  | nil => exact Unspilled.reads (Proc.Reads.pure ())
  | cons name rest ih => exact (Unspilled.same (fun _ => List.prefix_rfl)).bind (fun _ => ih)

/-- A step that leaves no file is the step without a budget; by cases on the step. -/
theorem runStep_unspilled [Fetched β] (ir : Ir) (step : Step)
    : Unspilled (runStep engine ir step) (runStep engine.unlimited ir step) := by
  have done : Unspilled (pure none : EngineM σ β (Option β)) (pure none) :=
    Unspilled.reads (Proc.Reads.pure none)
  cases step with
  | sourceScan datasource scan binding _ =>
      refine (onSource_unspilled _).bind (fun batches => ?_)
      exact (storeRelation_unspilled binding batches).bind (fun _ => done)
  | collectDistinct input key _ binding =>
      refine (forceMaterialized_unspilled input).bind (fun _ => ?_)
      refine (Unspilled.reads (collectDistinctFrom_reads _ _ _)).bind (fun keys => ?_)
      refine (Unspilled.same (fun _ => List.prefix_rfl)).bind (fun _ => ?_)
      exact (Unspilled.same (fun _ => List.prefix_rfl)).bind (fun _ => done)
  | injectedScan datasource scan injectColumn keysFrom binding injectColumnNdv extras =>
      refine (Unspilled.reads (keysBinding_reads _)).bind (fun keys => ?_)
      refine (Unspilled.reads (extraKeys_reads _)).bind (fun extraSets => ?_)
      refine (onSource_unspilled _).bind (fun batches => ?_)
      refine (noteUses_unspilled _).bind (fun _ => ?_)
      exact (storeRelation_unspilled binding batches).bind (fun _ => done)
  | ship datasource input table =>
      refine (forceMaterialized_unspilled input).bind (fun _ => ?_)
      refine (Unspilled.reads (materialized_reads _)).bind (fun batches => ?_)
      refine (onSource_unspilled _).bind (fun _ => ?_)
      exact (Unspilled.same (fun _ => List.prefix_rfl)).bind (fun _ => done)
  | merge fragment inputs binding =>
      simp only [runStep]
      cases ir.fragments.lookup fragment with
      | none => exact Unspilled.reads (Proc.Reads.fail _)
      | some frag =>
          refine ((registerInputs_unspilled _ _ _).bind
            (fun _ => Unspilled.reads (liftDf_reads _))).bind (fun result => ?_)
          exact (storeResult_unspilled binding result).bind (fun _ => done)
  | «return» input =>
      refine (forceMaterialized_unspilled input).bind (fun _ => ?_)
      exact (export_unspilled input).bind (fun _ => Unspilled.reads (Proc.Reads.pure _))

/-- A loop of steps that leave no file is the loop of steps without a budget. -/
theorem runUntil_unspilled [Fetched β] (ir : Ir) (missing : PyErr) (steps : List Step)
    : Unspilled (Proc.runUntil (runStep engine ir) missing steps)
        (Proc.runUntil (runStep engine.unlimited ir) missing steps) := by
  induction steps with
  | nil => exact Unspilled.reads (Proc.Reads.fail _)
  | cons step rest ih =>
      refine (runStep_unspilled ir step).bind (fun result => ?_)
      cases result with
      | none => exact ih
      | some result => exact Unspilled.reads (Proc.Reads.pure _)

/-- Where a run passes without having left a file, it passes without a budget, by induction
on how it got there.
-/
theorem passes_unspilled [Fetched β] {ir : Ir} {steps later : List Step}
    {machine last : Machine σ β}
    (passes : Proc.Passes (runStep engine ir) steps machine later last)
    (none : last.files = [])
    : machine.files = [] ∧ Proc.Passes (runStep engine.unlimited ir) steps machine later last := by
  induction passes with
  | here => exact ⟨none, .here⟩
  | @next step rest machine reached later last ran _ ih =>
      obtain ⟨middle, passes'⟩ := ih none
      obtain ⟨before, same⟩ := runStep_unspilled ir step machine (by rw [ran]; exact middle)
      exact ⟨before, .next (same.trans ran) passes'⟩

end Runs

end Fedqrs
