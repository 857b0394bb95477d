import Fedqrs.Correctness.NaiveExecution
import Fedqrs.Correctness.SpillPolicy
import Fedqrs.Semantics.Scope

/-! A plan that finds what it reads fails only where a service fails, and any other plan never
returns. What carries the proof is that the plan alone determines which names are bound
between two steps, as what, and how often each is still to be read.
-/

namespace Fedqrs

open EngineM

variable {σ β α : Type}

-----------------------------------------------------------------------------------------
-- Failures of the services
-----------------------------------------------------------------------------------------

/-- A merge that started at one machine is about to register an input at another, with these
tables registered before it.
-/
def Registering [Fetched β] (engine : Engine σ β) (start : Machine σ β) (inputs : NameMap String)
    (tableName name : String) (ctx : Context β) (midway : Machine σ β)
    : Prop :=
  ∃ done rest inputBytes,
    inputs.entries.map (fun entry => (entry.1, entry.2)) = done ++ (tableName, name) :: rest
      ∧ registerInputs engine.host engine.fusion done [] 0 start = (.ok (ctx, inputBytes), midway)

/-- A merge that started at a machine has registered its inputs as these tables. -/
def RegisteredAll [Fetched β] (engine : Engine σ β) (start : Machine σ β)
    (inputs : NameMap String) (ctx : Context β)
    : Prop :=
  ∃ inputBytes reached,
    registerInputs engine.host engine.fusion
        (inputs.entries.map (fun entry => (entry.1, entry.2))) [] 0 start
      = (.ok (ctx, inputBytes), reached)

/-- The name that a step forces before it reads it. -/
def Step.forces : Step → Option String
  | .ship _ input _ | .collectDistinct input _ _ _ | .return input => some input
  | .sourceScan _ _ _ _ | .injectedScan _ _ _ _ _ _ _ | .merge _ _ _ => none

/-- Forcing a name, which does nothing to one that is no lazy region, succeeded. -/
def ForcesTo [Fetched β] (engine : Engine σ β) (name : String) (before after : Machine σ β)
    : Prop :=
  forceMaterialized engine.host engine.fusion name before = (.ok (), after)

/-- The plan that key collection reads a stored binding by. -/
inductive KeyInput (machine : Machine σ β) (name : String) : LogicalPlan β → Prop
  | materialized {batches : β}
    (found : machine.bindings.lookup name = some (.materialized batches))
    : KeyInput machine name (.memTable batches)
  | spilled {spilled : SpilledBinding β}
    (found : machine.bindings.lookup name = some (.spilled spilled))
    : KeyInput machine name (.spillStream spilled.file)

/-- The failures of a step between two machines that come from outside the bindings: of the
source, of DataFusion, of the spill file that it was writing, and the guard's verdict on its
input. A shipped relation may also be on disk, where a ship step does not find it.
-/
inductive ServiceFailure [Fetched β] (engine : Engine σ β) (ir : Ir)
    (machine stopped : Machine σ β)
    : Step → PyErr → Prop
  | fetched {datasource binding : String} {scan : ScanSpec} {last : Bool} {failure : PyErr}
    (ran : (fetchSource engine.exprs engine.connectors datasource scan machine.source).1
      = .error failure)
    : ServiceFailure engine ir machine stopped (.sourceScan datasource scan binding last) failure
  | injected {datasource injectColumn keysFrom binding : String} {scan : ScanSpec} {keys : β}
    {ndv : Option Nat} {extras : List ExtraInjection} {extraSets : List (String × β)}
    {failure : PyErr} (found : machine.bindings.lookup keysFrom = some (.keys keys))
    (others : extraKeys extras machine = (.ok extraSets, machine))
    (ran
      : (runInjectedScan engine.exprs engine.connectors datasource scan injectColumn keys ndv
            extraSets machine.source).1
        = .error failure)
    : ServiceFailure engine ir machine stopped
        (.injectedScan datasource scan injectColumn keysFrom binding ndv extras) failure
  | shipped {datasource input table : String} {forced : Machine σ β} {batches : β}
    {failure : PyErr} (forces : ForcesTo engine input machine forced)
    (found : forced.bindings.lookup input = some (.materialized batches))
    (ran : (engine.connectors.shipTable datasource table batches forced.source).1 = .error failure)
    : ServiceFailure engine ir machine stopped (.ship datasource input table) failure
  | onDisk {datasource input table : String} {forced : Machine σ β} {spilled : SpilledBinding β}
    (limited : engine.host.residentBindingsBudget ≠ none)
    (forces : ForcesTo engine input machine forced)
    (found : forced.bindings.lookup input = some (.spilled spilled))
    : ServiceFailure engine ir machine stopped (.ship datasource input table)
        ("binding '" ++ input ++ "' is not a relation")
  | distinct {input key binding : String} {cap : Nat} {forced : Machine σ β}
    {plan : LogicalPlan β} {failure : DfError} (forces : ForcesTo engine input machine forced)
    (read : KeyInput forced input plan)
    (ran : engine.fusion.collectDistinct plan key = .error failure)
    : ServiceFailure engine ir machine stopped (.collectDistinct input key cap binding) failure.toPy
  | table {input key binding : String} {cap : Nat} {forced : Machine σ β} {batches : β}
    {failure : DfError} (forces : ForcesTo engine input machine forced)
    (found : forced.bindings.lookup input = some (.materialized batches))
    (ran : engine.fusion.memTable batches = .error failure)
    : ServiceFailure engine ir machine stopped (.collectDistinct input key cap binding) failure.toPy
  | input {fragment binding tableName name : String} {inputs : NameMap String} {ctx : Context β}
    {midway forced : Machine σ β} {batches : β} {failure : DfError}
    (registering : Registering engine machine inputs tableName name ctx midway)
    (forces : ForcesTo engine name midway forced)
    (found : forced.bindings.lookup name = some (.materialized batches))
    (ran : engine.fusion.memTable batches = .error failure)
    : ServiceFailure engine ir machine stopped (.merge fragment inputs binding)
        (bindingSchemaError engine.fusion name batches failure).toPy
  | registered {fragment binding tableName name : String} {inputs : NameMap String}
    {ctx : Context β} {midway : Machine σ β} {failure : DfError}
    (registering : Registering engine machine inputs tableName name ctx midway)
    (ran : engine.fusion.registerTable (ctx.map Prod.fst) tableName = .error failure)
    : ServiceFailure engine ir machine stopped (.merge fragment inputs binding) failure.toPy
  | composed {name binding : String} {inputs : NameMap String} {fragment : Fragment}
    {ctx : Context β} {failure : DfError} (planned : ir.fragments.lookup name = some fragment)
    (registers : RegisteredAll engine machine inputs ctx)
    (ran : engine.fusion.compose fragment ctx = .error failure)
    : ServiceFailure engine ir machine stopped (.merge name inputs binding) failure.toPy
  | repeated {name binding : String} {inputs : NameMap String} {fragment : Fragment}
    {ctx : Context β} {failure : DfError} (planned : ir.fragments.lookup name = some fragment)
    (registers : RegisteredAll engine machine inputs ctx)
    (ran : engine.fusion.projectDataframeDedup (composedPlan fragment ctx) = .error failure)
    : ServiceFailure engine ir machine stopped (.merge name inputs binding) failure.toPy
  | probe {name binding : String} {inputs : NameMap String} {keys : List IrExpr}
    {ctx : Context β} {failure : DfError}
    (planned : ir.fragments.lookup name = some (.singleRowGuard keys))
    (registers : RegisteredAll engine machine inputs ctx)
    (ran : engine.fusion.guardViolations keys ctx = .error failure)
    : ServiceFailure engine ir machine stopped (.merge name inputs binding) failure.toPy
  | cardinality {name binding : String} {inputs : NameMap String} {keys : List IrExpr}
    {ctx : Context β} {violations : Nat}
    (planned : ir.fragments.lookup name = some (.singleRowGuard keys))
    (registers : RegisteredAll engine machine inputs ctx)
    (ran : engine.fusion.guardViolations keys ctx = .ok violations) (several : 0 < violations)
    : ServiceFailure engine ir machine stopped (.merge name inputs binding)
        (DfError.execution "Scalar subquery produced more than one row").toPy
  | passed {name binding : String} {inputs : NameMap String} {keys : List IrExpr}
    {ctx : Context β} {failure : DfError}
    (planned : ir.fragments.lookup name = some (.singleRowGuard keys))
    (registers : RegisteredAll engine machine inputs ctx)
    (ran : engine.fusion.collectTable ctx "in_0" = .error failure)
    : ServiceFailure engine ir machine stopped (.merge name inputs binding) failure.toPy
  | region {step : Step} {input : String} {region : LazyRegion β} {spillable : Bool}
    {failure : DfError} (forces : step.forces = some input)
    (found : machine.bindings.lookup input = some (.lazy region))
    (ran : engine.fusion.executeRegion region.plan spillable = .error failure)
    : ServiceFailure engine ir machine stopped step failure.toPy
  | inputRegion {fragment binding tableName name : String} {inputs : NameMap String}
    {ctx : Context β} {midway : Machine σ β} {region : LazyRegion β} {spillable : Bool}
    {failure : DfError} (registering : Registering engine machine inputs tableName name ctx midway)
    (found : midway.bindings.lookup name = some (.lazy region))
    (ran : engine.fusion.executeRegion region.plan spillable = .error failure)
    : ServiceFailure engine ir machine stopped (.merge fragment inputs binding) failure.toPy
  | spill {step : Step} {batches : β} {failure : DfError}
    (limited : engine.host.residentBindingsBudget ≠ none)
    (writing : stopped.files.getLast? = some batches)
    (ran : engine.host.writeIpc batches = .error failure)
    : ServiceFailure engine ir machine stopped step failure.toPy

/-- The failures of a step that starts at a machine, each where the step stopped. -/
abbrev Blamed [Fetched β] (engine : Engine σ β) (ir : Ir) (start : Machine σ β) (step : Step)
    : PyErr → Machine σ β → Prop :=
  fun failure stopped => ServiceFailure engine ir start stopped step failure

section Composed

variable [Fetched β] {engine : Engine σ β} {ir : Ir} {start stopped : Machine σ β}

omit [Fetched β] in
/-- A region that cannot be executed failed at one of its attempts. -/
theorem executeWithRetry_eq_error {region : LazyRegion β} {failure : DfError}
    (ran : executeWithRetry engine.fusion region = .error failure)
    : ∃ spillable, engine.fusion.executeRegion region.plan spillable = .error failure := by
  unfold executeWithRetry at ran
  split at ran
  · exact ⟨true, ran⟩
  · split at ran
    · cases ran
    · rename_i first
      split at ran
      · exact ⟨true, ran⟩
      · cases ran
        exact ⟨false, first⟩

/-- A fragment that cannot be composed failed in DataFusion, by cases on the fragment. -/
theorem composeFragment_fails {name binding : String} {inputs : NameMap String}
    {fragment : Fragment} {ctx : Context β} {inputBytes : Nat} {failure : DfError}
    (planned : ir.fragments.lookup name = some fragment)
    (registers : RegisteredAll engine start inputs ctx)
    (ran : composeFragment engine.fusion fragment ctx inputBytes = .error failure)
    : ServiceFailure engine ir start stopped (.merge name inputs binding) failure.toPy := by
  have lazily
      (ran : lazyBinding engine.fusion fragment ctx inputBytes = .error failure)
      : ServiceFailure engine ir start stopped (.merge name inputs binding) failure.toPy := by
    rcases Except.bind_eq_error.mp ran with composed | ⟨_, _, absent⟩
    · exact .composed planned registers composed
    · cases absent
  have projecting (project : List Projection)
      (ran : projectedBinding engine.fusion fragment project ctx inputBytes = .error failure)
      : ServiceFailure engine ir start stopped (.merge name inputs binding) failure.toPy := by
    unfold projectedBinding at ran
    split at ran
    · exact lazily ran
    · rcases Except.bind_eq_error.mp ran with repeated | ⟨_, _, absent⟩
      · exact .repeated planned registers repeated
      · cases absent
  cases fragment with
  | hashJoin | nestedLoopJoin | project => exact projecting _ ran
  | aggregate | sort | filter | limit | rawSql => exact lazily ran
  | singleRowGuard keys =>
      rcases Except.bind_eq_error.mp ran with guarded | ⟨_, _, absent⟩
      · rcases Except.bind_eq_error.mp guarded with counted | ⟨violations, counted, verdict⟩
        · exact .probe planned registers counted
        · split at verdict
          · rename_i several
            cases verdict
            exact .cardinality planned registers counted several
          · exact .passed planned registers verdict
      · cases absent

omit [Fetched β] in
/-- One more input is registered after those before it. -/
theorem registerInputs_append {host : Host β} {fusion : DataFusion β}
    (done rest : List (String × String)) (ctx : Context β) (inputBytes : Nat)
    : (registerInputs host fusion (done ++ rest) ctx inputBytes : EngineM σ β (Context β × Nat))
      = registerInputs host fusion done ctx inputBytes >>= fun registered =>
          registerInputs host fusion rest registered.1 registered.2 := by
  induction done generalizing ctx inputBytes with
  | nil => rfl
  | cons head others ih =>
      obtain ⟨tableName, name⟩ := head
      rw [List.cons_append, registerInputs, registerInputs, Proc.bind_assoc]
      congr 1
      funext next
      exact ih _ _

end Composed

-----------------------------------------------------------------------------------------
-- What the plan determines of the machine
-----------------------------------------------------------------------------------------

/-- The machine holds what the plan says: these names with these kinds, each counted as often
as it is still read, and nothing on disk without a budget.
-/
structure Tracks (host : Host β) (held : Scope) (future : List String) (machine : Machine σ β)
    : Prop where
  kinds : ∀ name, (machine.bindings.lookup name).map Binding.kind = held.lookup name
  uses : ∀ name, usesOf machine.remaining name = future.count name
  inMemory : host.residentBindingsBudget = none
    → ∀ name spilled, machine.bindings.lookup name ≠ some (.spilled spilled)

section Tracking

variable {host : Host β} {held : Scope} {future : List String} {machine : Machine σ β}

/-- Nothing is bound and every read is counted, when a run starts. -/
theorem Tracks.start (host : Host β) (ir : Ir) (source : σ)
    : Tracks host ∅ (ir.steps.flatMap Step.reads) (Machine.start ir source : Machine σ β) where
  kinds _ := rfl
  uses := usesOf_bindingUseCounts ir
  inMemory _ name spilled found := by simp [Machine.start] at found

/-- Only the bindings and the counts are tracked. -/
theorem Tracks.same {reached : Machine σ β} (tracks : Tracks host held future machine)
    (bindings : reached.bindings = machine.bindings)
    (remaining : reached.remaining = machine.remaining)
    : Tracks host held future reached where
  kinds := bindings ▸ tracks.kinds
  uses := remaining ▸ tracks.uses
  inMemory := bindings ▸ tracks.inMemory

/-- A name is bound, to a file only under a budget. -/
theorem Tracks.insert (tracks : Tracks host held future machine) (name : String)
    (binding : Binding β)
    (inMemory : host.residentBindingsBudget = none → ∀ spilled, binding ≠ .spilled spilled)
    : Tracks host (AList.insert name binding.kind held) future
        { machine with bindings := machine.bindings.insert name binding } where
  kinds other := by
    by_cases same : other = name
    · subst same
      simp
    · simp only [AList.lookup_insert_ne same, tracks.kinds]
  uses := tracks.uses
  inMemory unlimited other spilled found := by
    by_cases same : other = name
    · subst same
      rw [AList.lookup_insert] at found
      exact inMemory unlimited spilled (Option.some.inj found)
    · rw [AList.lookup_insert_ne same] at found
      exact tracks.inMemory unlimited other spilled found

theorem Tracks.erase (tracks : Tracks host held future machine) (name : String)
    : Tracks host (AList.erase name held) future
        { machine with bindings := machine.bindings.erase name } where
  kinds other := by
    by_cases same : other = name
    · subst same
      simp
    · simp only [AList.lookup_erase_ne same, tracks.kinds]
  uses := tracks.uses
  inMemory unlimited other spilled found := by
    by_cases same : other = name
    · subst same
      simp at found
    · rw [AList.lookup_erase_ne same] at found
      exact tracks.inMemory unlimited other spilled found

/-- One of the reads to come has been made. -/
theorem Tracks.counted {name : String} (tracks : Tracks host held (name :: future) machine)
    : Tracks host held future
        { machine with remaining := countedDown machine.remaining name } where
  kinds := tracks.kinds
  uses other := by
    rw [usesOf_countedDown, tracks.uses]
    by_cases same : other = name
    · subst same
      simp
    · simp [same, List.count_cons_of_ne (Ne.symm same)]
  inMemory := tracks.inMemory

/-- The machine knows a last read by its count. -/
theorem Tracks.last_iff {name : String} (tracks : Tracks host held (name :: future) machine)
    : usesOf machine.remaining name ≤ 1 ↔ name ∉ future := by
  rw [tracks.uses, List.count_cons_self, ← List.count_eq_zero]
  omega

/-- What is found under a name has the kind the plan says. -/
theorem Tracks.bound {name : String} {binding : Binding β}
    (tracks : Tracks host held future machine)
    (found : machine.bindings.lookup name = some binding)
    : held.lookup name = some binding.kind := by
  rw [← tracks.kinds, found]
  rfl

/-- Binding a name anew to what it is already to its readers changes no kind. -/
theorem Tracks.rebind {name : String} {binding : Binding β}
    (tracks : Tracks host (AList.insert name binding.kind (AList.erase name held)) future machine)
    (bound : held.lookup name = some binding.kind)
    : Tracks host held future machine where
  kinds other := by
    rw [tracks.kinds]
    by_cases same : other = name
    · subst same
      rw [AList.lookup_insert, bound]
    · rw [AList.lookup_insert_ne same, AList.lookup_erase_ne same]
  uses := tracks.uses
  inMemory := tracks.inMemory

/-- The kinds after one more read, `future` being the reads that follow it. -/
theorem Tracks.afterRead {name : String}
    (tracks : Tracks host held (name :: future) machine)
    : Tracks host (if name ∈ future then held else held.erase name) future
        (machine.afterRead name) := by
  by_cases later : name ∈ future
  · have kept : ¬usesOf machine.remaining name ≤ 1 := fun last => tracks.last_iff.mp last later
    simp only [Machine.afterRead, later, kept, if_true, if_false]
    exact tracks.counted
  · simp only [Machine.afterRead, later, tracks.last_iff.mpr later, if_true, if_false]
    exact tracks.counted.erase name

end Tracking

-----------------------------------------------------------------------------------------
-- Storing, forcing and registering
-----------------------------------------------------------------------------------------

section Operations

variable [Fetched β] {engine : Engine σ β} {ir : Ir} {step : Step} {held : Scope}
  {future : List String} {start machine : Machine σ β} {fragment binding : String}
  {inputs : NameMap String}

/-- A stateless result of DataFusion, with its failures blamed on it. -/
theorem Tracks.liftDf (tracks : Tracks engine.host held future machine)
    {result : Except DfError α}
    (blamed
      : ∀ failure stopped, result = .error failure
          → ServiceFailure engine ir start stopped step failure.toPy)
    : Proc.Ends
        (fun value reached => result = .ok value ∧ Tracks engine.host held future reached)
        (Blamed engine ir start step) (EngineM.liftDf result machine) := by
  cases result with
  | ok value => exact ⟨rfl, tracks⟩
  | error failure => exact blamed failure machine rfl

/-- A name stands for a relation that is stored, in memory or on disk. -/
structure Stored (host : Host β) (held : Scope) (future : List String) (name : String)
    (machine : Machine σ β)
    : Prop where
  tracks : Tracks host held future machine
  executed : ∀ region, machine.bindings.lookup name ≠ some (.lazy region)

/-- Spilling a relation points its name at a file, or the file cannot be written. -/
theorem Tracks.spillTo {budget : Nat}
    (limited : engine.host.residentBindingsBudget = some budget)
    (tracks : Tracks engine.host held future machine) (name : String) (batches : β)
    : Proc.Ends
        (fun _ reached => Stored engine.host (AList.insert name .relation held) future name reached)
        (Blamed engine ir start step) (spillTo engine.host name batches machine) := by
  cases written : engine.host.writeIpc batches with
  | error failure =>
      rw [spillTo_of_error written]
      exact .spill (by simp [limited]) List.getLast?_concat written
  | ok file =>
      rw [spillTo_of_ok written]
      refine ⟨(tracks.insert name (.spilled _) ?_).same rfl rfl, ?_⟩
      · intro unlimited
        rw [limited] at unlimited
        cases unlimited
      · intro region found
        simp at found

/-- The eviction loop changes no kind, by induction over the sized names. -/
theorem Tracks.spillInOrder {incoming : Nat} {sized : List (String × Nat)}
    (distinct : (sized.map Prod.fst).Nodup)
    (resident
      : ∀ entry ∈ sized, ∃ batches,
          machine.bindings.lookup entry.1 = some (.materialized batches)
            ∧ entry.2 = engine.host.batchesBytes batches)
    (tracks : Tracks engine.host held future machine) (total : Nat)
    : Proc.Ends (fun _ reached => Tracks engine.host held future reached)
        (Blamed engine ir start step)
        (spillInOrder engine.host incoming sized total machine) := by
  induction sized generalizing machine total with
  | nil => exact tracks
  | cons head rest ih =>
      obtain ⟨name, bytes⟩ := head
      unfold Fedqrs.spillInOrder
      split
      · rename_i exceeds
        obtain ⟨batches, found, _⟩ := resident (name, bytes) (by simp)
        obtain ⟨fresh, others⟩ := List.nodup_cons.mp distinct
        rw [Proc.bind_of_ok (takeSized_of_materialized found)]
        cases limited : engine.host.residentBindingsBudget with
        | none => simp [Host.exceeds, limited] at exceeds
        | some budget =>
            cases written : engine.host.writeIpc batches with
            | error failure =>
                rw [Proc.bind_of_error (spillTo_of_error written _ _)]
                exact .spill (by simp [limited]) List.getLast?_concat written
            | ok file =>
                rw [Proc.bind_of_ok (spillTo_of_ok written _ _)]
                refine ih others (held_after_spill fresh (fun entry member =>
                  resident entry (List.mem_cons_of_mem _ member))) ?_ _
                have bound : held.lookup name = some .relation := tracks.bound found
                have moved := (tracks.erase name).insert name
                  (.spilled { file, bytes := engine.host.batchesBytes batches })
                  (fun unlimited => by simp [limited] at unlimited)
                exact (moved.rebind bound).same rfl rfl
      · exact tracks

/-- Storing a relation binds its name, or a file cannot be written. -/
theorem Tracks.storeRelation (tracks : Tracks engine.host held future machine) (name : String)
    (batches : β)
    : Proc.Ends
        (fun _ reached => Stored engine.host (AList.insert name .relation held) future name reached)
        (Blamed engine ir start step)
        (storeRelation engine.host name batches machine) := by
  obtain ⟨distinct, resident⟩ := residentSizes_spec engine.host machine.bindings
  have order := (residentOrder engine.host machine.bindings).1
  have roomed
      : Proc.Ends (fun _ reached => Tracks engine.host held future reached)
          (Blamed engine ir start step)
          (spillForHeadroom engine.host (engine.host.batchesBytes batches) machine) :=
    tracks.spillInOrder ((order.map Prod.fst).nodup_iff.mpr distinct)
      (fun entry member => resident entry (order.mem_iff.mp member)) _
  refine roomed.bind (fun _ reached tracks' => ?_)
  split
  · rename_i exceeds
    cases limited : engine.host.residentBindingsBudget with
    | none => simp [Host.exceeds, limited] at exceeds
    | some budget => exact tracks'.spillTo limited name batches
  · refine ⟨tracks'.insert name (.materialized batches) (fun _ _ absent => by cases absent), ?_⟩
    intro region found
    simp at found

/-- Forcing changes no kind and leaves no plan under the name. -/
theorem Tracks.forceMaterialized (tracks : Tracks engine.host held future machine)
    (name : String)
    (blamed
      : ∀ region spillable failure stopped, machine.bindings.lookup name = some (.lazy region)
          → engine.fusion.executeRegion region.plan spillable = .error failure
          → ServiceFailure engine ir start stopped step failure.toPy)
    : Proc.Ends
        (fun _ reached => ForcesTo engine name machine reached
          ∧ Stored engine.host held future name reached)
        (Blamed engine ir start step)
        (forceMaterialized engine.host engine.fusion name machine) := by
  refine Proc.Ends.ran ?_
  by_cases lazy : ∃ region, machine.bindings.lookup name = some (.lazy region)
  · obtain ⟨region, found⟩ := lazy
    rw [forceMaterialized_of_lazy found]
    refine Proc.Ends.bind ((tracks.erase name).liftDf ?_) ?_
    · intro failure stopped ran
      obtain ⟨spillable, executed⟩ := executeWithRetry_eq_error ran
      exact blamed region spillable failure stopped found executed
    rintro batches _ ⟨_, dropped⟩
    refine (dropped.storeRelation name batches).weaken ?_ (fun _ _ blamed => blamed)
    rintro _ reached ⟨stored, executed⟩
    exact ⟨stored.rebind (tracks.bound found), executed⟩
  · rw [forceMaterialized_of_not_lazy (fun region found => lazy ⟨region, found⟩)]
    exact ⟨tracks, fun region found => lazy ⟨region, found⟩⟩

/-- How the registration of one input ends. -/
abbrev Registers (engine : Engine σ β) (ir : Ir) (start : Machine σ β) (step : Step)
    (held : Scope) (future : List String) (name : String)
    : Except PyErr (Context β × Nat) × Machine σ β → Prop :=
  Proc.Ends
    (fun _ reached =>
      held.lookup name = some .relation
        ∧ Tracks engine.host (if name ∈ future then held else held.erase name) future reached)
    (fun failure stopped =>
      held.lookup name = some .relation → Blamed engine ir start step failure stopped)

/-- A stored relation is registered as a table or as the stream over its file. -/
theorem Stored.registerStored {name tableName : String} {ctx : Context β}
    {midway : Machine σ β}
    (registering : Registering engine start inputs tableName name ctx midway)
    (forces : ForcesTo engine name midway machine)
    (stored : Stored engine.host held (name :: future) name machine)
    : Registers engine ir start (.merge fragment inputs binding) held future name
        (registerStored engine.host engine.fusion ctx tableName name machine) := by
  unfold Fedqrs.registerStored
  rw [Proc.get_bind_apply]
  have refused
      (missing : ∀ batches, machine.bindings.lookup name ≠ some (.materialized batches))
      (outside : held.lookup name ≠ some .relation)
      : Registers engine ir start (.merge fragment inputs binding) held future name
          (registerResident engine.host engine.fusion ctx tableName name machine) := by
    rw [registerResident_of_missing missing]
    exact fun bound => absurd bound outside
  cases found : machine.bindings.lookup name with
  | none =>
      have unbound := stored.tracks.kinds name
      rw [found] at unbound
      exact refused (by simp [found]) (by simp [← unbound])
  | some form =>
      have bound := stored.tracks.bound found
      cases form with
      | keys => exact refused (by simp [found]) (by simp [bound, Binding.kind])
      | «lazy» region => exact absurd found (stored.executed region)
      | spilled spilled =>
          simp only [registerSpilled_apply]
          cases registered : engine.fusion.registerTable (ctx.map Prod.fst) tableName with
          | error failure => exact fun _ => .registered registering registered
          | ok _ => exact ⟨bound, stored.tracks.afterRead⟩
      | materialized batches =>
          simp only [registerResident_of_materialized found]
          cases checked : engine.fusion.memTable batches with
          | error failure => exact fun _ => .input registering forces found checked
          | ok _ =>
              cases registered : engine.fusion.registerTable (ctx.map Prod.fst) tableName with
              | error failure => exact fun _ => .registered registering registered
              | ok _ => exact ⟨bound, stored.tracks.afterRead⟩

/-- An input in scope is registered unless a service fails, by cases on a single-use plan. -/
theorem Tracks.registerInput {name tableName : String} {ctx : Context β}
    (registering : Registering engine start inputs tableName name ctx machine)
    (tracks : Tracks engine.host held (name :: future) machine)
    : Registers engine ir start (.merge fragment inputs binding) held future name
        (registerInput engine.host engine.fusion ctx tableName name machine) := by
  unfold Fedqrs.registerInput
  rw [Proc.get_bind_apply]
  have stored
      (executed : ∀ region, machine.bindings.lookup name ≠ some (.lazy region))
      : Registers engine ir start (.merge fragment inputs binding) held future name
          (Fedqrs.registerStored engine.host engine.fusion ctx tableName name machine) :=
    Stored.registerStored registering (forceMaterialized_of_not_lazy executed)
      ⟨tracks, executed⟩
  cases found : machine.bindings.lookup name with
  | none => exact stored (by simp [found])
  | some form =>
      cases form with
      | materialized | keys | spilled => exact stored (by simp [found])
      | «lazy» region =>
          have bound : held.lookup name = some .relation := tracks.bound found
          by_cases later : name ∈ future
          · have shared : ¬usesOf machine.remaining name ≤ 1 :=
              fun last => tracks.last_iff.mp last later
            simp only [shared, if_false]
            exact Proc.Ends.bind
              ((tracks.forceMaterialized name
                  (fun _ _ _ _ lazily ran => .inputRegion registering lazily ran)).blame
                (fun _ _ blamed _ => blamed))
              (fun _ _ executed => executed.2.registerStored registering executed.1)
          · simp only [tracks.last_iff.mpr later, if_true]
            rw [registerView_of_lazy found]
            cases registered : engine.fusion.registerTable (ctx.map Prod.fst) tableName with
            | error failure => exact fun _ => .registered registering registered
            | ok _ =>
                refine ⟨bound, ?_⟩
                simp only [later, if_false]
                exact tracks.counted.erase name

/-- What the inputs of a merge leave bound, by induction over those still to register. -/
theorem Tracks.registerInputs (done entries : List (String × String))
    (ctx : Context β) (inputBytes : Nat)
    (all : inputs.entries.map (fun entry => (entry.1, entry.2)) = done ++ entries)
    (ran
      : Fedqrs.registerInputs engine.host engine.fusion done [] 0 start
        = (.ok (ctx, inputBytes), machine))
    (tracks : Tracks engine.host held (entries.map Prod.snd ++ future) machine)
    : Proc.Ends
        (fun _ reached =>
          (∀ entry ∈ entries, held.lookup entry.2 = some .relation)
            ∧ Tracks engine.host (held.dropRead future (entries.map Prod.snd)) future reached)
        (fun failure stopped =>
          (∀ entry ∈ entries, held.lookup entry.2 = some .relation)
            → Blamed engine ir start (.merge fragment inputs binding) failure stopped)
        (Fedqrs.registerInputs engine.host engine.fusion entries ctx inputBytes machine) := by
  induction entries generalizing done held machine ctx inputBytes with
  | nil => exact ⟨by simp, tracks⟩
  | cons head rest ih =>
      obtain ⟨tableName, name⟩ := head
      have registering : Registering engine start inputs tableName name ctx machine :=
        ⟨done, rest, inputBytes, all, ran⟩
      refine Proc.Ends.bind
        ((Tracks.registerInput registering tracks).ran.blame
          (fun _ _ blamed inside => blamed (inside _ (.head rest))))
        ?_
      rintro next reached ⟨registered, bound, tracks'⟩
      have further
          : Fedqrs.registerInputs engine.host engine.fusion (done ++ [(tableName, name)]) [] 0 start
            = (.ok (next.1, saturatingAdd inputBytes next.2), reached) := by
        rw [registerInputs_append, Proc.bind_of_ok ran]
        exact Proc.bind_of_ok registered _
      have unread
          : ∀ entry ∈ rest,
              AList.lookup entry.2
                  (if name ∈ rest.map Prod.snd ++ future then held else held.erase name)
                = held.lookup entry.2 := by
        intro entry member
        split
        · rfl
        · rename_i last
          refine AList.lookup_erase_ne (fun same => last ?_)
          exact List.mem_append_left _ (List.mem_map.mpr ⟨entry, member, same⟩)
      refine (ih _ next.1 (saturatingAdd inputBytes next.2) (by rw [all, List.append_cons]) further
        tracks').weaken ?_ ?_
      · rintro _ last ⟨others, dropped⟩
        refine ⟨?_, dropped⟩
        intro entry member
        rcases List.mem_cons.mp member with rfl | inside
        · exact bound
        · rw [← unread entry inside]
          exact others entry inside
      · intro failure _ blamed inside
        refine blamed (fun entry member => ?_)
        exact (unread entry member).trans (inside entry (.tail _ member))

end Operations

-----------------------------------------------------------------------------------------
-- One step
-----------------------------------------------------------------------------------------

section Reads

variable {host : Host β} {held : Scope} {future : List String} {machine : Machine σ β}

/-- Several reads are counted, by induction over them. -/
theorem Tracks.noteUses (names : List String)
    (tracks : Tracks host held (names ++ future) machine)
    : ∃ reached, noteUses names machine = (.ok (), reached)
        ∧ Tracks host held future reached := by
  induction names generalizing machine with
  | nil => exact ⟨machine, rfl, tracks⟩
  | cons name rest ih =>
      obtain ⟨reached, ran, counted⟩ := ih tracks.counted
      refine ⟨reached, ?_, counted⟩
      rw [Fedqrs.noteUses, Proc.bind_of_ok (noteUse_apply name machine), ran]

/-- A key set is found where the plan has one, and nowhere else. -/
theorem Tracks.keysBinding (tracks : Tracks host held future machine) (name : String)
    : Proc.Ends
        (fun keys reached => machine.bindings.lookup name = some (.keys keys)
          ∧ held.lookup name = some .keys ∧ reached = machine)
        (fun _ _ => held.lookup name ≠ some .keys) (keysBinding name machine) := by
  have kind := tracks.kinds name
  simp only [Fedqrs.keysBinding, Proc.get_bind_apply, ← kind]
  cases found : machine.bindings.lookup name with
  | none => simp [Proc.Ends]
  | some binding => cases binding <;> simp [Proc.Ends, Binding.kind]

/-- The extra key sets are found where the plan has them all, by induction over them. -/
theorem Tracks.extraKeys (tracks : Tracks host held future machine)
    (extras : List ExtraInjection)
    : Proc.Ends
        (fun _ reached =>
          (∀ extra ∈ extras, held.lookup extra.keysFrom = some .keys) ∧ reached = machine)
        (fun _ _ => ¬∀ extra ∈ extras, held.lookup extra.keysFrom = some .keys)
        (extraKeys extras machine) := by
  induction extras with
  | nil => exact ⟨by simp, rfl⟩
  | cons extra rest ih =>
      refine Proc.Ends.bind ((tracks.keysBinding extra.keysFrom).blame ?_) ?_
      · exact fun _ _ absent all => absent (all extra List.mem_cons_self)
      rintro keys _ ⟨_, here, rfl⟩
      refine Proc.Ends.bind (ih.blame ?_) ?_
      · exact fun _ _ absent all => absent (fun other member => all other (.tail _ member))
      rintro sets _ ⟨there, rfl⟩
      exact ⟨List.forall_mem_cons.mpr ⟨here, there⟩, rfl⟩

/-- A source operation is not seen by the bindings. -/
theorem Tracks.onSource {action : Proc σ PyErr α} {blamed : PyErr → Machine σ β → Prop}
    (tracks : Tracks host held future machine)
    (blames
      : ∀ failure stopped, (action machine.source).1 = .error failure → blamed failure stopped)
    : Proc.Ends (fun _ reached => Tracks host held future reached) blamed
        (onSource action machine) := by
  rw [onSource_apply]
  cases ran : (action machine.source).1 with
  | error failure => exact blames failure _ ran
  | ok value => exact tracks.same rfl rfl

/-- The result is exported from a relation, and from nothing else. -/
theorem Stored.export {name : String} (stored : Stored host held future name machine)
    : Proc.Ends (fun _ _ => held.lookup name = some .relation)
        (fun _ _ => held.lookup name ≠ some .relation) («export» name machine) := by
  have kind := stored.tracks.kinds name
  have executed := stored.executed
  simp only [Fedqrs.export, Proc.get_bind_apply, setBindings, Proc.modify_bind_apply, ← kind]
  cases found : machine.bindings.lookup name with
  | none => simp [Proc.Ends]
  | some binding =>
      cases binding with
      | «lazy» region => exact absurd found (executed region)
      | materialized | spilled | keys => simp [Proc.Ends, Binding.kind]

end Reads

section Steps

variable [Fetched β] {engine : Engine σ β} {ir : Ir} {step : Step} {held : Scope}
  {future : List String} {start machine : Machine σ β}

/-- Keys are collected from a stored relation unless a service fails. -/
theorem Stored.collectDistinctFrom {name : String}
    (forces : ForcesTo engine name start machine)
    (stored : Stored engine.host held future name machine) (key : String) (cap : Nat)
    (binding : String)
    : Proc.Ends (fun _ reached => held.lookup name = some .relation ∧ reached = machine)
        (fun failure stopped =>
          held.lookup name = some .relation
            → Blamed engine ir start (.collectDistinct name key cap binding) failure stopped)
        (collectDistinctFrom engine.fusion name key machine) := by
  have kind := stored.tracks.kinds name
  simp only [Fedqrs.collectDistinctFrom, Proc.get_bind_apply, ← kind]
  cases found : machine.bindings.lookup name with
  | none => simp [Proc.Ends, Except.mapError]
  | some binding =>
      cases binding with
      | keys => simp [Proc.Ends, Except.mapError, Binding.kind]
      | «lazy» region => exact absurd found (stored.executed region)
      | spilled spilled =>
          simp only [liftDf_apply]
          cases ran : engine.fusion.collectDistinct (.spillStream spilled.file) key with
          | error failure => exact fun _ => .distinct forces (.spilled found) ran
          | ok keys => exact ⟨rfl, rfl⟩
      | materialized batches =>
          simp only [Option.map_some, Binding.kind]
          cases checked : engine.fusion.memTable batches with
          | error failure => exact fun _ => .table forces found checked
          | ok _ =>
              simp only [EngineM.liftDf_ok, Proc.pure_bind, liftDf_apply]
              cases ran : engine.fusion.collectDistinct (.memTable batches) key with
              | error failure => exact fun _ => .distinct forces (.materialized found) ran
              | ok keys => exact ⟨trivial, rfl⟩

/-- A stored relation is found in memory, unless it is on disk. -/
theorem Stored.materialized {name : String} (forces : ForcesTo engine name start machine)
    (stored : Stored engine.host held future name machine) (datasource table : String)
    : Proc.Ends
        (fun batches reached => machine.bindings.lookup name = some (.materialized batches)
          ∧ held.lookup name = some .relation ∧ reached = machine)
        (fun failure stopped =>
          held.lookup name = some .relation
            → Blamed engine ir start (.ship datasource name table) failure stopped)
        (materialized name machine) := by
  have kind := stored.tracks.kinds name
  simp only [Fedqrs.materialized, Proc.get_bind_apply, ← kind]
  cases found : machine.bindings.lookup name with
  | none => simp [Proc.Ends]
  | some binding =>
      cases binding with
      | keys => simp [Proc.Ends, Binding.kind]
      | «lazy» region => exact absurd found (stored.executed region)
      | materialized batches => simp [Proc.Ends, Binding.kind]
      | spilled spilled =>
          have limited : engine.host.residentBindingsBudget ≠ none := fun unlimited =>
            stored.tracks.inMemory unlimited name spilled found
          exact fun _ => .onDisk limited forces found

/-- A merge drops the inputs nothing reads later, and composes its fragment. -/
theorem Tracks.runFragment {name : String} {fragment : Fragment}
    (planned : ir.fragments.lookup name = some fragment) (inputs : NameMap String)
    (binding : String)
    (tracks
      : Tracks engine.host held (inputs.entries.map (fun entry => entry.2) ++ future) start)
    : Proc.Ends
        (fun result reached =>
          (∀ input ∈ inputs.entries.map (fun entry => (entry.1, entry.2)),
              held.lookup input.2 = some .relation)
            ∧ Tracks engine.host
                (held.dropRead future (inputs.entries.map (fun entry => entry.2))) future reached
            ∧ result.kind = .relation
            ∧ ∀ spilled, result ≠ .spilled spilled)
        (fun failure stopped =>
          (∀ input ∈ inputs.entries.map (fun entry => (entry.1, entry.2)),
              held.lookup input.2 = some .relation)
            → Blamed engine ir start (.merge name inputs binding) failure stopped)
        (runFragment engine.fusion engine.host fragment inputs start) := by
  have names
      : (inputs.entries.map (fun entry => (entry.1, entry.2))).map Prod.snd
        = inputs.entries.map (fun entry => entry.2) := by
    simp [List.map_map, Function.comp_def]
  rw [← names] at tracks ⊢
  refine (Tracks.registerInputs [] _ [] 0 rfl rfl tracks).ran.bind ?_
  rintro ⟨ctx, inputBytes⟩ reached ⟨ran, bound, dropped⟩
  have registers : RegisteredAll engine start inputs ctx := ⟨inputBytes, reached, ran⟩
  simp only [liftDf_apply]
  cases ran : composeFragment engine.fusion fragment ctx inputBytes with
  | error failure => exact fun _ => composeFragment_fails planned registers ran
  | ok result =>
      refine ⟨bound, dropped, ?_⟩
      rcases composeFragment_region ran with rfl | ⟨batches, rfl⟩
      · exact ⟨rfl, fun _ absent => by cases absent⟩
      · exact ⟨rfl, fun _ absent => by cases absent⟩

/-- A fragment's result is bound to its name, by cases on its form. -/
theorem Tracks.storeResult (tracks : Tracks engine.host held future machine) (name : String)
    {result : Binding β}
    (relation : result.kind = .relation ∧ ∀ spilled, result ≠ .spilled spilled)
    : Proc.Ends
        (fun _ reached => Tracks engine.host (AList.insert name .relation held) future reached)
        (Blamed engine ir start step) (storeResult engine name result machine) := by
  obtain ⟨kind, unspilled⟩ := relation
  cases result with
  | keys => cases kind
  | spilled spilled => exact absurd rfl (unspilled spilled)
  | «lazy» region => exact tracks.insert name (.lazy region) (fun _ => unspilled)
  | materialized batches =>
      exact (tracks.storeRelation name batches).weaken (fun _ _ stored => stored.tracks)
        (fun _ _ blamed => blamed)

/-- What one step does: it ends only if it finds what it reads, leaving bound what the plan
says, and then only a service fails it. By cases on the step.
-/
theorem Tracks.runStep (ir : Ir) (step : Step)
    (tracks : Tracks engine.host held (step.reads ++ future) start)
    : Proc.Ends
        (fun result reached =>
          step.inScope ir held = true
            ∧ result.isSome = step.returns
            ∧ (result = none
              → Tracks engine.host (held.heldAfter future step) future reached))
        (fun failure stopped =>
          step.inScope ir held = true → Blamed engine ir start step failure stopped)
        (runStep engine ir step start) := by
  have always {γ : Type} {after : γ → Machine σ β → Prop} {outcome : Except PyErr γ × Machine σ β}
      (ends : Proc.Ends after (Blamed engine ir start step) outcome)
      : Proc.Ends after
          (fun failure stopped =>
            step.inScope ir held = true → Blamed engine ir start step failure stopped)
          outcome :=
    ends.blame (fun _ _ blamed _ => blamed)
  cases step with
  | sourceScan datasource scan binding _ =>
      refine (tracks.onSource (fun _ _ ran _ => .fetched ran)).bind (fun batches _ tracks => ?_)
      refine (always (tracks.storeRelation binding batches)).bind (fun _ _ stored => ?_)
      exact ⟨rfl, rfl, fun _ => stored.tracks⟩
  | collectDistinct input key cap binding =>
      refine (always (tracks.forceMaterialized input (fun _ _ _ _ => .region rfl))).bind ?_
      rintro _ forced ⟨forces, stored⟩
      refine Proc.Ends.bind
        ((stored.collectDistinctFrom forces key cap binding).blame
          (fun _ _ blamed bound => blamed (of_decide_eq_true bound)))
        ?_
      rintro keys _ ⟨bound, rfl⟩
      refine ⟨decide_eq_true bound, rfl, fun _ => ?_⟩
      exact stored.tracks.counted.insert binding (.keys keys) (fun _ _ absent => by cases absent)
  | injectedScan datasource scan injectColumn keysFrom binding injectColumnNdv extras =>
      have parts
          : Step.inScope ir held
                (.injectedScan datasource scan injectColumn keysFrom binding injectColumnNdv extras)
              = true
            ↔ held.lookup keysFrom = some .keys
              ∧ ∀ extra ∈ extras, held.lookup extra.keysFrom = some .keys := by
        simp [Step.inScope]
      simp only [parts] at always ⊢
      refine Proc.Ends.bind ((tracks.keysBinding keysFrom).blame ?_) ?_
      · exact fun _ _ absent bound => absurd bound.1 absent
      rintro keys _ ⟨keyed, found, rfl⟩
      refine Proc.Ends.bind ((tracks.extraKeys extras).ran.blame ?_) ?_
      · exact fun _ _ absent bound => absurd bound.2 absent
      rintro sets _ ⟨others, extraFound, rfl⟩
      refine (tracks.onSource (fun _ _ ran _ => .injected keyed others ran)).bind
        (fun batches _ tracks => ?_)
      obtain ⟨noted, ran, counted⟩ :=
        Tracks.noteUses (keysFrom :: extras.map ExtraInjection.keysFrom) tracks
      rw [Proc.bind_of_ok ran]
      refine (always (counted.storeRelation binding batches)).bind (fun _ _ stored => ?_)
      exact ⟨⟨found, extraFound⟩, rfl, fun _ => stored.tracks⟩
  | ship datasource input table =>
      refine (always (tracks.forceMaterialized input (fun _ _ _ _ => .region rfl))).bind ?_
      rintro _ forced ⟨forces, stored⟩
      refine Proc.Ends.bind
        ((stored.materialized forces datasource table).blame
          (fun _ _ blamed bound => blamed (of_decide_eq_true bound)))
        ?_
      rintro batches _ ⟨found, bound, rfl⟩
      refine (stored.tracks.onSource (fun _ _ ran _ => .shipped forces found ran)).bind
        (fun _ _ tracks => ?_)
      exact ⟨decide_eq_true bound, rfl, fun _ => tracks.counted⟩
  | merge fragment inputs binding =>
      have parts
          : Step.inScope ir held (.merge fragment inputs binding) = true
            ↔ (ir.fragments.lookup fragment).isSome
              ∧ ∀ input ∈ inputs.entries.map (fun entry => (entry.1, entry.2)),
                  held.lookup input.2 = some .relation := by
        rw [List.forall_mem_map]
        simp [Step.inScope]
      simp only [Fedqrs.runStep]
      cases planned : ir.fragments.lookup fragment with
      | none => exact fun inScope => by simp [Step.inScope, planned] at inScope
      | some frag =>
          refine Proc.Ends.bind
            ((tracks.runFragment planned inputs binding).blame
              (fun _ _ blamed inScope => blamed (parts.mp inScope).2))
            ?_
          rintro result _ ⟨bound, dropped, relation⟩
          refine (always (dropped.storeResult binding relation)).bind (fun _ _ stored => ?_)
          exact ⟨parts.mpr ⟨by simp [planned], bound⟩, rfl, fun _ => stored⟩
  | «return» input =>
      refine (always (tracks.forceMaterialized input (fun _ _ _ _ => .region rfl))).bind ?_
      rintro _ forced ⟨forces, stored⟩
      refine Proc.Ends.bind (stored.export.blame ?_) ?_
      · exact fun _ _ absent bound => absurd (of_decide_eq_true bound) absent
      intro result _ bound
      exact ⟨decide_eq_true bound, rfl, fun absent => by cases absent⟩

end Steps

-----------------------------------------------------------------------------------------
-- Whole runs
-----------------------------------------------------------------------------------------

/-- What a step finds depends on the names it reads only, by cases on the step. -/
theorem Step.inScope_of_serves (ir : Ir) {held scope : Scope} {step : Step}
    (serves : held.Serves scope step.reads)
    : step.inScope ir held = step.inScope ir scope := by
  cases step with
  | sourceScan => rfl
  | collectDistinct | ship | «return» =>
      simp only [Step.inScope, serves _ (List.mem_singleton.mpr rfl)]
  | injectedScan datasource scan injectColumn keysFrom binding ndv extras =>
      have first := serves keysFrom List.mem_cons_self
      have rest
          : extras.all (fun extra => held.lookup extra.keysFrom = some .keys)
            = extras.all (fun extra => scope.lookup extra.keysFrom = some .keys) := by
        rw [Bool.eq_iff_iff]
        simp only [List.all_eq_true, decide_eq_true_eq]
        refine forall₂_congr (fun extra member => ?_)
        rw [serves _ (.tail _ (List.mem_map_of_mem member))]
      simp only [Step.inScope, first, rest]
  | merge fragment inputs binding =>
      have rest
          : inputs.entries.all (fun entry => held.lookup entry.2 = some .relation)
            = inputs.entries.all (fun entry => scope.lookup entry.2 = some .relation) := by
        rw [Bool.eq_iff_iff]
        simp only [List.all_eq_true, decide_eq_true_eq]
        refine forall₂_congr (fun entry member => ?_)
        rw [serves _ (List.mem_map_of_mem member)]
      simp only [Step.inScope, rest]

section Runs

variable [Fetched β] {engine : Engine σ β} {machine last : Machine σ β}

/-- The run passes to a step that fails so, because a service fails there. -/
def FailsAt (engine : Engine σ β) (ir : Ir) (steps : List Step) (machine : Machine σ β)
    (failure : PyErr)
    : Prop :=
  ∃ step rest reached stopped,
    Proc.Passes (Fedqrs.runStep engine ir) steps machine (step :: rest) reached
      ∧ Fedqrs.runStep engine ir step reached = (.error failure, stopped)
      ∧ ServiceFailure engine ir reached stopped step failure

/-- A loop ends only on a plan in scope, and then only a service fails it; by induction over
the steps, the names still to be read being the ones the plan has written.
-/
theorem Tracks.runUntil (ir : Ir) (steps : List Step) {held scope : Scope}
    (serves : held.Serves scope (steps.flatMap Step.reads))
    (tracks : Tracks engine.host held (steps.flatMap Step.reads) machine)
    : Proc.Ends (fun _ _ => scopedFrom ir scope steps = true)
        (fun failure _ =>
          scopedFrom ir scope steps = true → FailsAt engine ir steps machine failure)
        (Proc.runUntil (Fedqrs.runStep engine ir) "IR had no `return` step" steps machine) := by
  induction steps generalizing held scope machine with
  | nil => exact fun absent => by cases absent
  | cons step rest ih =>
      rw [List.flatMap_cons] at serves tracks
      have here : step.inScope ir held = step.inScope ir scope :=
        Step.inScope_of_serves ir (fun name member => serves name (List.mem_append_left _ member))
      rcases (tracks.runStep ir step).elim with
        ⟨result, reached, ran, inScope, returns, next⟩ | ⟨failure, reached, ran, blamed⟩
      · rw [here] at inScope
        cases result with
        | none =>
            rw [Proc.runUntil_next ran]
            have returns' : step.returns = false := returns.symm
            refine (ih serves.after (next rfl)).weaken ?_ ?_
            · intro _ _ later
              simp [scopedFrom, inScope, later]
            · intro failure _ blamed all
              simp only [scopedFrom, inScope, returns', Bool.true_and, Bool.false_or] at all
              obtain ⟨other, later, middle, stopped, passes, fails⟩ := blamed all
              exact ⟨other, later, middle, stopped, .next ran passes, fails⟩
        | some result =>
            rw [Proc.runUntil_done ran]
            have returns' : step.returns = true := returns.symm
            simp [Proc.Ends, scopedFrom, inScope, returns']
      · rw [Proc.runUntil_error ran]
        intro all
        simp only [scopedFrom, Bool.and_eq_true] at all
        exact ⟨step, rest, machine, reached, .here, ran, blamed (here.trans all.1)⟩

/-- Wherever a run passes, it holds what the plan says; by induction on how it got there. -/
theorem Tracks.passes {ir : Ir} {done later : List Step} {held : Scope}
    (tracks : Tracks engine.host held ((done ++ later).flatMap Step.reads) machine)
    (passes : Proc.Passes (Fedqrs.runStep engine ir) (done ++ later) machine later last)
    : Tracks engine.host (Scope.heldThrough (later.flatMap Step.reads) done held)
        (later.flatMap Step.reads) last := by
  induction done generalizing held machine with
  | nil =>
      cases passes with
      | here => exact tracks
      | next _ tail => exact absurd tail.length_le (by simp)
  | cons step rest ih =>
      generalize whole : step :: rest ++ later = steps at passes
      cases passes with
      | here => exact absurd (congrArg List.length whole) (by simp; omega)
      | next ran tail =>
          cases whole
          rw [List.cons_append, List.flatMap_cons] at tracks
          have ends := tracks.runStep ir step
          rw [ran] at ends
          have next := ih (ends.2.2 rfl) tail
          rw [List.flatMap_append] at next
          exact next

/-- A plan that finds what it reads fails only at a step whose service fails, and any other
plan never returns.
-/
theorem execute_scoped (engine : Engine σ β) (ir : Ir) (source : σ)
    : (ir.scoped = true → ∀ failure, (execute engine ir source).1 = .error failure
        → FailsAt engine ir ir.steps
            (Machine.start ir (engine.connectors.clearShipments source)) failure)
      ∧ (ir.scoped = false → ∀ batches, (execute engine ir source).1 ≠ .ok batches) := by
  have serves : Scope.Serves ∅ ∅ (ir.steps.flatMap Step.reads) := fun _ _ => rfl
  have ends := Tracks.runUntil ir ir.steps serves
    (Tracks.start engine.host ir (engine.connectors.clearShipments source))
  rcases ends.elim with ⟨batches, reached, ran, inScope⟩ | ⟨failure, reached, ran, blamed⟩
  · have outcome : (execute engine ir source).1 = .ok batches := by rw [execute, runSteps, ran]
    rw [outcome]
    constructor
    · intro _ failure absent
      cases absent
    · intro unscoped
      rw [Ir.scoped, inScope] at unscoped
      cases unscoped
  · have outcome : (execute engine ir source).1 = .error failure := by
      rw [execute, runSteps, ran]
    rw [outcome]
    constructor
    · intro inScope other same
      cases same
      exact blamed inScope
    · intro _ batches absent
      cases absent

/-- Between two steps of a run, the names bound are the ones the plan says, with the kinds it
says, and each count is the number of the reads still to come.
-/
theorem execute_held (engine : Engine σ β) (ir : Ir) (source : σ) (done later : List Step)
    (reached : Machine σ β) (steps : ir.steps = done ++ later)
    (passes
      : Proc.Passes (runStep engine ir) ir.steps
          (Machine.start ir (engine.connectors.clearShipments source)) later reached)
    : (∀ name,
          (reached.bindings.lookup name).map Binding.kind
            = (Scope.heldThrough (later.flatMap Step.reads) done ∅).lookup name)
      ∧ ∀ name, usesOf reached.remaining name = (later.flatMap Step.reads).count name := by
  have begun := Tracks.start engine.host ir (engine.connectors.clearShipments source)
  rw [steps] at begun passes
  have tracks := begun.passes passes
  exact ⟨tracks.kinds, tracks.uses⟩

end Runs

/-- After its first merge, a plan that limits a scan twice holds the limited rows only. -/
theorem execute_held_limitPlan
    : ∃ reached : Machine (List (String × Batches)) Batches,
        Proc.Passes (runStep dimEngine limitPlan) limitPlan.steps (Machine.start limitPlan [])
            (limitPlan.steps.drop 2) reached
          ∧ (reached.bindings.lookup "dim").map Binding.kind = none
          ∧ (reached.bindings.lookup "top").map Binding.kind = some .relation
          ∧ usesOf reached.remaining "top" = 2 := by
  obtain ⟨kinds, uses⟩ := execute_held dimEngine limitPlan [] (limitPlan.steps.take 2)
    (limitPlan.steps.drop 2) _ rfl (.next rfl (.next rfl .here))
  exact ⟨_, .next rfl (.next rfl .here), kinds "dim", kinds "top", uses "top"⟩

end Fedqrs
