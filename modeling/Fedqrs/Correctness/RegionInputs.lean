import Fedqrs.Correctness.ResidentBudget

/-! What the measured input bytes of a lazy region stand for. Every relation registered as an
input, of a fragment or of a region fused into it, is counted once for each registration at
its size in memory; a spilled one at the size it had before it was written.
-/

namespace Fedqrs

open EngineM

variable {σ β : Type}

-----------------------------------------------------------------------------------------
-- The relations that feed a plan
-----------------------------------------------------------------------------------------

section Feeding

variable (host : Host β) (files : List β)

mutual
/-- The relations registered in a plan, in order and once for each registration: a MemTable
is its relation, the stream over a file is a relation that was written to it.
-/
inductive FedBy : LogicalPlan β → List β → Prop
  | memTable (batches : β) : FedBy (.memTable batches) [batches]
  | spillStream {file batches : β} (written : batches ∈ files)
    (back : host.writeIpc batches = .ok file)
    : FedBy (.spillStream file) [batches]
  | fragment {fragment : Fragment} {names : List String} {inputs : List (LogicalPlan β)}
    {relations : List β} (all : FedByAll inputs relations)
    : FedBy (.fragment fragment names inputs) relations

inductive FedByAll : List (LogicalPlan β) → List β → Prop
  | nil : FedByAll [] []
  | cons {plan : LogicalPlan β} {rest : List (LogicalPlan β)} {here there : List β}
    (head : FedBy plan here) (tail : FedByAll rest there)
    : FedByAll (plan :: rest) (here ++ there)
end

/-- The bytes in memory of some relations, each counted as often as it occurs. -/
def volume (relations : List β) : Nat := (relations.map host.batchesBytes).sum

/-- A region's input bytes are the saturating sum of the sizes of what feeds it. -/
def LazyRegion.Measured (region : LazyRegion β) : Prop :=
  ∃ relations, FedBy host files region.plan relations
    ∧ region.inputBytes = min (volume host relations) usizeMax

/-- A spilled relation's bytes are its size before it was written. -/
def SpilledBinding.Measured (spilled : SpilledBinding β) : Prop :=
  ∃ batches ∈ files, host.writeIpc batches = .ok spilled.file
    ∧ spilled.bytes = host.batchesBytes batches

def Binding.Measured : Binding β → Prop
  | .lazy region => region.Measured host files
  | .spilled onDisk => onDisk.Measured host files
  | .materialized _ | .keys _ => True

/-- Every binding's bytes are measured. -/
def AllMeasured (machine : Machine σ β) : Prop :=
  ∀ name binding, machine.bindings.lookup name = some binding
    → binding.Measured host machine.files

end Feeding

section Growth

variable {host : Host β} {files more : List β}

mutual
/-- Files written later leave what feeds a plan as it is. -/
theorem FedBy.mono {plan : LogicalPlan β} {relations : List β} (grown : files ⊆ more)
    (fed : FedBy host files plan relations)
    : FedBy host more plan relations := by
  cases fed with
  | memTable batches => exact .memTable batches
  | spillStream written back => exact .spillStream (grown written) back
  | fragment all => exact .fragment (all.mono grown)

theorem FedByAll.mono {plans : List (LogicalPlan β)} {relations : List β}
    (grown : files ⊆ more) (fed : FedByAll host files plans relations)
    : FedByAll host more plans relations := by
  cases fed with
  | nil => exact .nil
  | cons head tail => exact .cons (head.mono grown) (tail.mono grown)
end

theorem FedByAll.append {plans : List (LogicalPlan β)} {relations here : List β}
    {plan : LogicalPlan β} (fed : FedByAll host files plans relations)
    (next : FedBy host files plan here)
    : FedByAll host files (plans ++ [plan]) (relations ++ here) := by
  induction plans generalizing relations with
  | nil =>
      cases fed
      have single : FedByAll host files [plan] (here ++ []) := .cons next .nil
      rw [List.append_nil] at single
      exact single
  | cons first rest ih =>
      cases fed with
      | cons head tail =>
          rw [List.append_assoc]
          exact .cons head (ih tail)

theorem Binding.Measured.mono {binding : Binding β} (grown : files ⊆ more)
    (measured : binding.Measured host files)
    : binding.Measured host more := by
  cases binding with
  | «lazy» region =>
      obtain ⟨relations, fed, bytes⟩ := measured
      exact ⟨relations, fed.mono grown, bytes⟩
  | spilled spilled =>
      obtain ⟨batches, written, rest⟩ := measured
      exact ⟨batches, grown written, rest⟩
  | materialized | keys => trivial

/-- The files tell the sizes of what was written to them. -/
def SizedByFile (host : Host β) (files : List β) : Prop :=
  ∀ batches ∈ files, ∀ others ∈ files, ∀ file,
    host.writeIpc batches = .ok file → host.writeIpc others = .ok file →
      host.batchesBytes batches = host.batchesBytes others

theorem volume_append (relations here : List β)
    : volume host (relations ++ here) = volume host relations + volume host here := by
  simp [volume]

mutual
/-- Then the volume that feeds a plan is the plan's own, by induction along it. -/
theorem FedBy.volume_eq {plan : LogicalPlan β} {relations others : List β}
    (sized : SizedByFile host files) (fed : FedBy host files plan relations)
    (other : FedBy host files plan others)
    : volume host relations = volume host others := by
  cases fed with
  | memTable batches =>
      cases other
      rfl
  | spillStream written back =>
      cases other with
      | spillStream written' back' =>
          have same := sized _ written _ written' _ back back'
          simp [volume, same]
  | fragment all =>
      cases other with
      | fragment all' => exact all.volume_eq sized all'

theorem FedByAll.volume_eq {plans : List (LogicalPlan β)} {relations others : List β}
    (sized : SizedByFile host files) (fed : FedByAll host files plans relations)
    (other : FedByAll host files plans others)
    : volume host relations = volume host others := by
  cases fed with
  | nil =>
      cases other
      rfl
  | cons head tail =>
      cases other with
      | cons head' tail' =>
          rw [volume_append, volume_append, head.volume_eq sized head',
            tail.volume_eq sized tail']
end

/-- Saturating step by step is saturating once. -/
theorem saturatingAdd_volume {inputBytes bytes : Nat} {relations here : List β}
    (sofar : inputBytes = min (volume host relations) usizeMax)
    (next : min bytes usizeMax = min (volume host here) usizeMax)
    : saturatingAdd inputBytes bytes = min (volume host (relations ++ here)) usizeMax := by
  rw [volume_append, saturatingAdd]
  omega

end Growth

-----------------------------------------------------------------------------------------
-- Operations on bindings
-----------------------------------------------------------------------------------------

section Operations

variable {host : Host β} {machine : Machine σ β}

theorem AllMeasured.erase (measured : AllMeasured host machine) (name : String)
    : AllMeasured host { machine with bindings := machine.bindings.erase name } := by
  intro other binding found
  by_cases same : other = name
  · subst same
    rw [AList.lookup_erase] at found
    cases found
  · rw [AList.lookup_erase_ne same] at found
    exact measured other binding found

theorem AllMeasured.insert (measured : AllMeasured host machine) (name : String)
    {binding : Binding β} (holds : binding.Measured host machine.files)
    : AllMeasured host { machine with bindings := machine.bindings.insert name binding } := by
  intro other held found
  by_cases same : other = name
  · subst same
    rw [AList.lookup_insert] at found
    cases found
    exact holds
  · rw [AList.lookup_insert_ne same] at found
    exact measured other held found

theorem AllMeasured.write (measured : AllMeasured host machine) (batches : β)
    : AllMeasured host { machine with files := machine.files ++ [batches] } := by
  intro name binding found
  exact (measured name binding found).mono (List.subset_append_left _ _)

/-- A state with the same bindings and files. -/
theorem AllMeasured.same {reached : Machine σ β} (measured : AllMeasured host machine)
    (bindings : reached.bindings = machine.bindings) (files : reached.files = machine.files)
    : AllMeasured host reached := by
  intro name binding found
  rw [bindings] at found
  rw [files]
  exact measured name binding found

theorem erase_measured (name : String)
    : Proc.Preserves (AllMeasured host)
        (setBindings (fun bindings => bindings.erase name) : EngineM σ β Unit) :=
  .modify (fun _ measured => measured.erase name)

theorem noteUse_measured (name : String)
    : Proc.Preserves (AllMeasured host) (noteUse name : EngineM σ β Unit) :=
  .modify (fun _ measured => measured.same rfl rfl)

theorem liftDf_measured {α : Type} (result : Except DfError α)
    : Proc.Preserves (AllMeasured host) (liftDf result : EngineM σ β α) :=
  .lift (fun _ _ _ measured => measured) (fun _ measured => measured)

theorem spillTo_measured (name : String) (batches : β)
    : Proc.Preserves (AllMeasured host) (spillTo host name batches : EngineM σ β Unit) := by
  intro machine measured
  cases written : host.writeIpc batches with
  | error failure =>
      rw [spillTo_of_error written]
      exact measured.write batches
  | ok file =>
      rw [spillTo_of_ok written]
      have member : batches ∈ machine.files ++ [batches] := by simp
      exact (measured.write batches).insert name ⟨batches, member, written, rfl⟩

theorem takeSized_measured (name : String)
    : Proc.Preserves (AllMeasured host) (takeSized name : EngineM σ β β) := by
  have first : Proc.Triple (AllMeasured host) (Proc.get : EngineM σ β (Machine σ β))
      (fun _ => AllMeasured host) (AllMeasured host) :=
    .get (fun _ measured => measured)
  refine first.bind ?_
  intro machine
  refine (erase_measured name).bind ?_
  intro _
  split
  · exact .pure (fun _ measured => measured)
  · exact .fail (fun _ measured => measured)

/-- The eviction loop, by induction along the sized names. -/
theorem spillInOrder_measured (incoming : Nat) (sized : List (String × Nat)) (resident : Nat)
    : Proc.Preserves (AllMeasured host)
        (spillInOrder host incoming sized resident : EngineM σ β Unit) := by
  induction sized generalizing resident with
  | nil => exact .pure (fun _ measured => measured)
  | cons head rest ih =>
      obtain ⟨name, bytes⟩ := head
      unfold spillInOrder
      split
      · refine (takeSized_measured name).bind ?_
        intro batches
        refine (spillTo_measured name batches).bind ?_
        intro _
        exact ih (resident - bytes)
      · exact .pure (fun _ measured => measured)

theorem storeRelation_measured (name : String) (batches : β)
    : Proc.Preserves (AllMeasured host)
        (storeRelation host name batches : EngineM σ β Unit) := by
  have room : Proc.Preserves (AllMeasured host)
      (spillForHeadroom host (host.batchesBytes batches) : EngineM σ β Unit) := by
    intro machine measured
    exact spillInOrder_measured _ _ _ machine measured
  refine room.bind ?_
  intro _
  split
  · exact spillTo_measured name batches
  · exact .modify (fun _ measured => measured.insert name trivial)

/-- A forced region becomes a relation, other bindings stay. -/
theorem forceMaterialized_measured {fusion : DataFusion β} (name : String)
    : Proc.Preserves (AllMeasured host)
        (forceMaterialized host fusion name : EngineM σ β Unit) := by
  intro machine measured
  by_cases found : ∃ region, machine.bindings.lookup name = some (.lazy region)
  · obtain ⟨region, found⟩ := found
    rw [forceMaterialized_of_lazy found]
    refine ((liftDf_measured _).bind ?_) _ (measured.erase name)
    intro batches
    exact storeRelation_measured name batches
  · rw [forceMaterialized_of_not_lazy (fun region held => found ⟨region, held⟩)]
    exact measured

theorem AllMeasured.afterRead (measured : AllMeasured host machine) (name : String)
    : AllMeasured host (machine.afterRead name) := by
  unfold Machine.afterRead
  split
  · exact (measured.erase name).same rfl rfl
  · exact measured.same rfl rfl

end Operations

-----------------------------------------------------------------------------------------
-- Registration
-----------------------------------------------------------------------------------------

/-- How a registration ends: the bindings are measured; if it succeeds, the context is fed by
what it was fed by before and some relations more, of the size reported.
-/
def RegistersMeasured (host : Host β) (relations : List β)
    : Except PyErr (Context β × Nat) × Machine σ β → Prop
  | (.ok (next, bytes), reached) =>
      AllMeasured host reached
      ∧ ∃ here, FedByAll host reached.files (next.map Prod.snd) (relations ++ here)
          ∧ min bytes usizeMax = min (volume host here) usizeMax
  | (.error _, reached) => AllMeasured host reached

section Registering

variable {host : Host β} {fusion : DataFusion β} {machine : Machine σ β} {ctx : Context β}
  {tableName name : String} {relations : List β}

/-- The last act of every registration, on a machine that keeps the files: one plan more in
the context.
-/
theorem registers_plan {reached : Machine σ β} {plan : LogicalPlan β} {here : List β}
    {bytes : Nat} (measured : AllMeasured host reached)
    (fed : FedByAll host reached.files (ctx.map Prod.snd) relations)
    (next : FedBy host reached.files plan here)
    (counted : min bytes usizeMax = min (volume host here) usizeMax)
    : RegistersMeasured host relations
        ((do
          liftDf (fusion.registerTable (ctx.map Prod.fst) tableName)
          pure (ctx ++ [(tableName, plan)], bytes)
          : EngineM σ β (Context β × Nat)) reached) := by
  cases fusion.registerTable (ctx.map Prod.fst) tableName with
  | error failure => exact measured
  | ok _ =>
      refine ⟨measured, here, ?_, counted⟩
      rw [List.map_append]
      exact fed.append next

theorem registerSpilled_measured {spilled : SpilledBinding β}
    (measured : AllMeasured host machine)
    (fed : FedByAll host machine.files (ctx.map Prod.snd) relations)
    (found : machine.bindings.lookup name = some (.spilled spilled))
    : RegistersMeasured host relations
        (registerSpilled fusion ctx tableName name spilled machine) := by
  obtain ⟨batches, written, back, bytes⟩ := measured name _ found
  rw [registerSpilled_apply]
  cases fusion.registerTable (ctx.map Prod.fst) tableName with
  | error failure => exact measured
  | ok _ =>
      refine ⟨measured.afterRead name, [batches], ?_, ?_⟩
      · rw [List.map_append]
        exact fed.append (.spillStream written back)
      · rw [bytes]
        simp [volume]

/-- A resident input is counted at its own size, by cases on whether there is one. -/
theorem registerResident_measured (measured : AllMeasured host machine)
    (fed : FedByAll host machine.files (ctx.map Prod.snd) relations)
    : RegistersMeasured host relations
        (registerResident host fusion ctx tableName name machine) := by
  have read := measured.afterRead name
  by_cases resident : ∃ batches, machine.bindings.lookup name = some (.materialized batches)
  · obtain ⟨batches, found⟩ := resident
    rw [registerResident_of_materialized found]
    cases fusion.memTable batches with
    | error failure => exact read
    | ok _ => exact registers_plan read fed (.memTable batches) (by simp [volume])
  · rw [registerResident_of_missing (fun batches found => resident ⟨batches, found⟩)]
    exact read

theorem registerStored_measured (measured : AllMeasured host machine)
    (fed : FedByAll host machine.files (ctx.map Prod.snd) relations)
    : RegistersMeasured host relations
        (registerStored host fusion ctx tableName name machine) := by
  unfold registerStored
  rw [Proc.get_bind_apply]
  cases found : machine.bindings.lookup name with
  | none => exact registerResident_measured measured fed
  | some binding =>
      cases binding with
      | spilled spilled => exact registerSpilled_measured measured fed found
      | materialized | keys | «lazy» => exact registerResident_measured measured fed

/-- A view counts what its region counted. -/
theorem registerView_measured {region : LazyRegion β} (measured : AllMeasured host machine)
    (fed : FedByAll host machine.files (ctx.map Prod.snd) relations)
    (found : machine.bindings.lookup name = some (.lazy region))
    : RegistersMeasured host relations
        (registerView fusion ctx tableName name machine) := by
  obtain ⟨here, feeds, bytes⟩ := measured name _ found
  rw [registerView_of_lazy found]
  refine registers_plan ((measured.erase name).same rfl rfl) fed feeds ?_
  rw [bytes]
  omega

/-- One input: a view of a single-use region, else what is stored, forced first if lazy. -/
theorem registerInput_measured (measured : AllMeasured host machine)
    (fed : FedByAll host machine.files (ctx.map Prod.snd) relations)
    : RegistersMeasured host relations
        (registerInput host fusion ctx tableName name machine) := by
  unfold registerInput
  rw [Proc.get_bind_apply]
  by_cases found : ∃ region, machine.bindings.lookup name = some (.lazy region)
  · obtain ⟨region, found⟩ := found
    simp only [found]
    by_cases single : usesOf machine.remaining name ≤ 1
    · rw [if_pos single]
      exact registerView_measured measured fed found
    · rw [if_neg single]
      have forcing : Effects host (fun _ => True) (fun _ => True) (fun _ _ => False)
          (forceMaterialized host fusion name : EngineM σ β Unit) :=
        effects_forceMaterialized name (fun _ _ _ => trivial)
      have grown := (forcing.files_prefix machine).subset
      have kept : Proc.Preserves (AllMeasured host)
          (forceMaterialized host fusion name : EngineM σ β Unit) :=
        forceMaterialized_measured name
      rcases kept.elim measured with ⟨_, reached, ran, held⟩ | ⟨failure, reached, ran, held⟩
      · rw [ran] at grown
        rw [Proc.bind_of_ok ran]
        exact registerStored_measured held (fed.mono grown)
      · rw [Proc.bind_of_error ran]
        exact held
  · have stored : RegistersMeasured host relations
        (registerStored host fusion ctx tableName name machine) :=
      registerStored_measured measured fed
    cases held : machine.bindings.lookup name with
    | none => exact stored
    | some binding =>
        cases binding with
        | «lazy» region => exact absurd ⟨region, held⟩ found
        | materialized | keys | spilled => exact stored

/-- How the registration of all inputs ends: the total is the saturating sum so far. -/
def RegistersTotal (host : Host β) : Except PyErr (Context β × Nat) × Machine σ β → Prop
  | (.ok (ctx, inputBytes), reached) =>
      AllMeasured host reached
      ∧ ∃ relations, FedByAll host reached.files (ctx.map Prod.snd) relations
          ∧ inputBytes = min (volume host relations) usizeMax
  | (.error _, reached) => AllMeasured host reached

/-- All inputs, by induction over them. -/
theorem registerInputs_measured (inputs : List (String × String)) (ctx : Context β)
    (inputBytes : Nat) (machine : Machine σ β) (relations : List β)
    (measured : AllMeasured host machine)
    (fed : FedByAll host machine.files (ctx.map Prod.snd) relations)
    (sofar : inputBytes = min (volume host relations) usizeMax)
    : RegistersTotal host (registerInputs host fusion inputs ctx inputBytes machine) := by
  induction inputs generalizing ctx inputBytes machine relations with
  | nil => exact ⟨measured, relations, fed, sofar⟩
  | cons input rest ih =>
      obtain ⟨tableName, bindingName⟩ := input
      have first : RegistersMeasured host relations
          (registerInput host fusion ctx tableName bindingName machine) :=
        registerInput_measured measured fed
      rcases ran : registerInput host fusion ctx tableName bindingName machine
        with ⟨failure | ⟨next, bytes⟩, reached⟩ <;> rw [ran] at first
      · rw [registerInputs, Proc.bind_of_error ran]
        exact first
      · rw [registerInputs, Proc.bind_of_ok ran]
        obtain ⟨held, here, feeds, counted⟩ := first
        exact ih next _ reached (relations ++ here) held feeds (saturatingAdd_volume sofar counted)

-----------------------------------------------------------------------------------------
-- Steps and runs
-----------------------------------------------------------------------------------------

/-- A fragment's result is measured: a new region has the total of its registered inputs. -/
theorem runFragment_measured (fragment : Fragment) (inputs : NameMap String)
    : Proc.Triple (AllMeasured host)
        (runFragment fusion host fragment inputs : EngineM σ β (Binding β))
        (fun binding reached =>
          AllMeasured host reached ∧ binding.Measured host reached.files)
        (AllMeasured host) := by
  intro machine measured
  have registered : RegistersTotal host
      (registerInputs host fusion (inputs.entries.map (fun entry => (entry.1, entry.2))) [] 0
        machine) :=
    registerInputs_measured _ [] 0 machine [] measured .nil rfl
  rcases ran : registerInputs host fusion (inputs.entries.map (fun entry => (entry.1, entry.2)))
    [] 0 machine with ⟨failure | ⟨ctx, inputBytes⟩, reached⟩ <;> rw [ran] at registered
  · rw [runFragment, Proc.bind_of_error ran]
    exact registered
  · obtain ⟨held, relations, fed, total⟩ := registered
    rw [runFragment, Proc.bind_of_ok ran]
    dsimp only
    rw [liftDf_apply]
    cases composed : composeFragment fusion fragment ctx inputBytes with
    | error failure => exact held
    | ok binding =>
        refine ⟨held, ?_⟩
        rcases composeFragment_region composed with plan | ⟨batches, relation⟩
        · subst plan
          exact ⟨relations, .fragment fed, total⟩
        · subst relation
          trivial

end Registering

section Steps

variable {engine : Engine σ β}

theorem onSource_measured {α : Type} (action : Proc σ PyErr α)
    : Proc.Preserves (AllMeasured engine.host) (onSource action : EngineM σ β α) := by
  intro machine measured
  rw [onSource_apply]
  rcases action machine.source with ⟨failure | value, source⟩
  · exact measured.same rfl rfl
  · exact measured.same rfl rfl

/-- A computation that only reads the machine. -/
theorem reads_measured {α : Type} {action : EngineM σ β α} (reads : Proc.Reads action)
    : Proc.Preserves (AllMeasured engine.host) action := by
  intro machine measured
  have reached := reads machine
  rcases ran : action machine with ⟨failure | value, last⟩ <;> rw [ran] at reached
  · cases reached
    exact measured
  · cases reached
    exact measured

theorem noteUses_measured (names : List String)
    : Proc.Preserves (AllMeasured engine.host) (noteUses names : EngineM σ β Unit) := by
  induction names with
  | nil => exact .pure (fun _ measured => measured)
  | cons name rest ih => exact (noteUse_measured name).bind (fun _ => ih)

theorem storeResult_measured (name : String) (binding : Binding β)
    : Proc.Triple
        (fun machine : Machine σ β =>
          AllMeasured engine.host machine ∧ binding.Measured engine.host machine.files)
        (storeResult engine name binding) (fun _ => AllMeasured engine.host)
        (AllMeasured engine.host) := by
  cases binding with
  | materialized batches =>
      intro machine start
      exact storeRelation_measured name batches machine start.1
  | keys | «lazy» | spilled => exact .modify (fun _ start => start.1.insert name start.2)

theorem export_measured (name : String)
    : Proc.Preserves (AllMeasured engine.host) («export» name : EngineM σ β β) := by
  have first : Proc.Triple (AllMeasured engine.host) (Proc.get : EngineM σ β (Machine σ β))
      (fun _ => AllMeasured engine.host) (AllMeasured engine.host) :=
    .get (fun _ measured => measured)
  refine first.bind ?_
  intro machine
  refine (erase_measured name).bind ?_
  intro _
  split
  · exact .pure (fun _ measured => measured)
  · exact .pure (fun _ measured => measured)
  · exact .fail (fun _ measured => measured)
  · exact .fail (fun _ measured => measured)

/-- The attempts at a region that is not known to be too big for hash joins. -/
def hashJoinsFirst (fusion : DataFusion β) (plan : LogicalPlan β) : Except DfError β :=
  match fusion.executeRegion plan false with
  | .ok batches => .ok batches
  | .error failure =>
      if retryWithSpillableJoins failure then fusion.executeRegion plan true
      else .error failure

/-- A measured region starts with sort-merge joins exactly when more than the limit feeds it:
the limit is far below where the sum saturates.
-/
theorem executeWithRetry_measured (fusion : DataFusion β) {region : LazyRegion β}
    {total : Nat} (bytes : region.inputBytes = min total usizeMax)
    : executeWithRetry fusion region
      = if regionSpillJoinInputBytes < total then fusion.executeRegion region.plan true
        else hashJoinsFirst fusion region.plan := by
  have below : regionSpillJoinInputBytes < usizeMax := by decide
  have same
      : regionSpillJoinInputBytes < region.inputBytes ↔ regionSpillJoinInputBytes < total := by
    rw [bytes]
    omega
  unfold executeWithRetry
  by_cases big : regionSpillJoinInputBytes < total
  · rw [if_pos big, if_pos (same.mpr big)]
  · rw [if_neg big, if_neg (fun more => big (same.mp more))]
    rfl

variable [Fetched β]

/-- Every step keeps the bindings measured, whether it succeeds or fails; by cases on it. -/
theorem runStep_measured (ir : Ir) (step : Step)
    : Proc.Preserves (AllMeasured engine.host) (runStep engine ir step) := by
  have done (result : Option β)
      : Proc.Preserves (AllMeasured engine.host) (pure result : EngineM σ β (Option β)) :=
    .pure (fun _ measured => measured)
  cases step with
  | sourceScan datasource scan binding _ =>
      refine (onSource_measured _).bind ?_
      intro batches
      exact (storeRelation_measured binding batches).bind (fun _ => done none)
  | collectDistinct input key _ binding =>
      refine (forceMaterialized_measured input).bind ?_
      intro _
      refine (reads_measured (collectDistinctFrom_reads engine.fusion input key)).bind ?_
      intro keys
      refine (noteUse_measured input).bind ?_
      intro _
      have kept : Proc.Preserves (AllMeasured engine.host)
          (setBindings (fun bindings => bindings.insert binding (.keys keys))
            : EngineM σ β Unit) :=
        .modify (fun _ measured => measured.insert binding trivial)
      exact kept.bind (fun _ => done none)
  | injectedScan datasource scan injectColumn keysFrom binding injectColumnNdv extras =>
      refine (reads_measured (keysBinding_reads keysFrom)).bind ?_
      intro keys
      refine (reads_measured (extraKeys_reads extras)).bind ?_
      intro sets
      refine (onSource_measured _).bind ?_
      intro batches
      refine (noteUses_measured _).bind ?_
      intro _
      exact (storeRelation_measured binding batches).bind (fun _ => done none)
  | ship datasource input table =>
      refine (forceMaterialized_measured input).bind ?_
      intro _
      refine (reads_measured (materialized_reads input)).bind ?_
      intro batches
      refine (onSource_measured _).bind ?_
      intro _
      exact (noteUse_measured input).bind (fun _ => done none)
  | merge fragment inputs binding =>
      simp only [runStep]
      cases ir.fragments.lookup fragment with
      | none => exact .fail (fun _ measured => measured)
      | some frag =>
          refine (runFragment_measured frag inputs).bind ?_
          intro result
          exact (storeResult_measured binding result).bind (fun _ => done none)
  | «return» input =>
      refine (forceMaterialized_measured input).bind ?_
      intro _
      exact (export_measured input).bind (fun result => done (some result))

/-- What holds of the regions of a state: a region's bytes are the saturating sum of the sizes
of the relations that feed it, no other account of these gives another sum where a file tells
the size of what was written to it, and the sum decides how the region starts.
-/
def RegionsMeasured (engine : Engine σ β) (machine : Machine σ β) : Prop :=
  ∀ name region, machine.bindings.lookup name = some (.lazy region)
    → ∃ relations, FedBy engine.host machine.files region.plan relations
        ∧ region.inputBytes = min (volume engine.host relations) usizeMax
        ∧ (SizedByFile engine.host machine.files →
          ∀ others, FedBy engine.host machine.files region.plan others
            → volume engine.host others = volume engine.host relations)
        ∧ executeWithRetry engine.fusion region
          = if regionSpillJoinInputBytes < volume engine.host relations then
              engine.fusion.executeRegion region.plan true
            else
              hashJoinsFirst engine.fusion region.plan

omit [Fetched β] in
theorem AllMeasured.regions {machine : Machine σ β}
    (measured : AllMeasured engine.host machine)
    : RegionsMeasured engine machine := by
  intro name region found
  obtain ⟨relations, fed, bytes⟩ := measured name _ found
  refine ⟨relations, fed, bytes, ?_, executeWithRetry_measured engine.fusion bytes⟩
  intro sized others other
  exact other.volume_eq sized fed

/-- In every state of every run, the last one included, the input bytes of each lazy region
are the measured volume that feeds it.
-/
theorem execute_regions_measured (engine : Engine σ β) (ir : Ir) (source : σ)
    : RegionsMeasured engine
          (runSteps engine ir (engine.connectors.clearShipments source)).2
        ∧ ∀ later machine,
            Proc.Passes (runStep engine ir) ir.steps
                (Machine.start ir (engine.connectors.clearShipments source)) later machine
              → RegionsMeasured engine machine := by
  have kept (machine : Machine σ β) (step : Step) (_ : True)
      (measured : AllMeasured engine.host machine)
      : AllMeasured engine.host (runStep engine ir step machine).2 :=
    (runStep_measured ir step).keeps measured
  have start : AllMeasured engine.host
      (Machine.start ir (engine.connectors.clearShipments source)) := by
    intro name binding found
    cases found
  have along : Proc.Along (runStep engine ir) (fun _ _ => True) ir.steps
      (Machine.start ir (engine.connectors.clearShipments source)) :=
    .always (fun _ _ => trivial) _ _
  constructor
  · exact (Proc.runUntil_preserves kept ir.steps _ start along).regions
  · intro later machine passes
    exact (passes.preserves kept start along).regions

end Steps

/-- The projection of a ten-gibibyte table is measured at ten gibibytes. -/
theorem execute_regions_measured_projectAndScan
    : ∃ (machine : Machine Sources Batches) (region : LazyRegion Batches)
          (relations : List Batches),
        machine.bindings.lookup "p" = some (.lazy region)
          ∧ FedBy gibibyteEngine.host machine.files region.plan relations
          ∧ region.inputBytes = min (volume gibibyteEngine.host relations) usizeMax
          ∧ region.inputBytes = 10 * gibibyte := by
  have passes : Proc.Passes (runStep gibibyteEngine projectAndScan) projectAndScan.steps
      (Machine.start projectAndScan (gibibyteEngine.connectors.clearShipments gibibyteSources))
      (projectAndScan.steps.drop 2) _ :=
    .next rfl (.next rfl .here)
  have measured := (execute_regions_measured gibibyteEngine projectAndScan gibibyteSources).2
    _ _ passes
  obtain ⟨relations, fed, bytes, _⟩ := measured "p" _ rfl
  exact ⟨_, _, relations, rfl, fed, bytes, rfl⟩

end Fedqrs
