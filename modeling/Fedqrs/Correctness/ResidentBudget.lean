import Fedqrs.Correctness.SpillPolicy
import Fedqrs.Engine.Effects
import Fedqrs.Semantics.ReferenceEngine
import Mathlib.Algebra.Order.BigOperators.Group.List

/-! When all that the bindings keep in memory stays within the resident budget. Making room
counts materialized relations only: key sets, and the relations that lazy plans have captured,
are in memory beside them.
-/

namespace Fedqrs

open EngineM

variable {σ β : Type}

-----------------------------------------------------------------------------------------
-- What bindings keep in memory
-----------------------------------------------------------------------------------------

mutual
/-- The relations that the MemTables of a plan hold. -/
def LogicalPlan.captured : LogicalPlan β → List β
  | .memTable batches => [batches]
  | .spillStream _ => []
  | .fragment _ _ inputs => capturedAll inputs

def capturedAll : List (LogicalPlan β) → List β
  | [] => []
  | plan :: rest => plan.captured ++ capturedAll rest
end

/-- The relations that a binding keeps in memory. -/
def Binding.relations : Binding β → List β
  | .materialized batches | .keys batches => [batches]
  | .lazy region => region.plan.captured
  | .spilled _ => []

/-- Those that making room does not count. -/
def Binding.uncounted : Binding β → List β
  | .keys batches => [batches]
  | .lazy region => region.plan.captured
  | .materialized _ | .spilled _ => []

section Memory

/-- The bytes of some relations, each of them by itself. -/
def bytesOf (host : Host β) (relations : List β) : Nat :=
  (relations.map host.batchesBytes).sum

/-- The bytes of the relations that the bindings have in some part, each binding's by itself. -/
def gathered (host : Host β) (part : Binding β → List β) (bindings : Bindings β) : Nat :=
  (bindings.entries.map (fun entry => bytesOf host (part entry.2))).sum

/-- The bytes of all relations reachable in memory from the bindings. What several bindings share
is counted for each of them, so they take no more than this.
-/
def inMemory (host : Host β) (bindings : Bindings β) : Nat :=
  gathered host Binding.relations bindings

section Parts

variable {host : Host β} {part : Binding β → List β} {bindings : Bindings β} {name : String}

theorem gathered_erase_le
    : gathered host part (bindings.erase name) ≤ gathered host part bindings :=
  List.Sublist.sum_le_sum ((List.kerase_sublist name bindings.entries).map _)
    (fun _ _ => Nat.zero_le _)

theorem gathered_insert_le (binding : Binding β)
    : gathered host part (bindings.insert name binding)
      ≤ bytesOf host (part binding) + gathered host part bindings :=
  Nat.add_le_add_left gathered_erase_le _

/-- A name that is taken out takes its binding's bytes with it. -/
theorem gathered_erase_of_lookup {binding : Binding β}
    (found : bindings.lookup name = some binding)
    : bytesOf host (part binding) + gathered host part (bindings.erase name)
      = gathered host part bindings := by
  have known : name ∈ bindings := AList.lookup_isSome.mp (by rw [found]; rfl)
  obtain ⟨held, before, after, _, split, gone⟩ := List.exists_of_kerase known
  have same : held = binding := by
    have entry : (⟨name, held⟩ : Sigma fun _ => Binding β) ∈ bindings.entries := by
      rw [split]
      simp
    exact Option.some.inj ((AList.mem_lookup_iff.mpr entry).symm.trans found)
  subst same
  have erased : (bindings.erase name).entries = before ++ after := gone
  simp only [gathered, erased, split, List.map_append, List.map_cons, List.sum_append,
    List.sum_cons]
  omega

theorem inMemory_erase_of_lookup {binding : Binding β}
    (found : bindings.lookup name = some binding)
    : bytesOf host binding.relations + inMemory host (bindings.erase name)
      = inMemory host bindings :=
  gathered_erase_of_lookup found

/-- All that is in memory is what making room counts and what it does not. -/
theorem inMemory_eq (host : Host β) (bindings : Bindings β)
    : inMemory host bindings
      = residentBytes host bindings + gathered host Binding.uncounted bindings := by
  rw [residentBytes_eq, inMemory, gathered, gathered, ← List.sum_map_add]
  congr 1
  refine List.map_congr_left (fun entry _ => ?_)
  obtain ⟨name, binding⟩ := entry
  cases binding <;> simp [Binding.relations, Binding.uncounted, Binding.resident, bytesOf]

end Parts

-----------------------------------------------------------------------------------------
-- Storing a relation
-----------------------------------------------------------------------------------------

/-- A relation to be stored is one for the disk, or making room for it would not need to count
more than it does: nothing else in memory goes uncounted, or it fits beside all of it. Beside the
bindings some bytes may be held.
-/
def Storable (host : Host β) (budget : Nat) (bindings : Bindings β) (held : Nat) (batches : β)
    : Prop :=
  budget < host.batchesBytes batches
    ∨ gathered host Binding.uncounted bindings + held = 0
    ∨ inMemory host bindings + held + host.batchesBytes batches ≤ budget

section Storing

variable {host : Host β} {machine : Machine σ β} {part : Binding β → List β}

/-- Pointing a name at a file adds nothing to a part that files have none of. -/
theorem spillTo_gathered (onDisk : ∀ spilled, part (.spilled spilled) = []) (name : String)
    (batches : β) (machine : Machine σ β)
    : gathered host part (spillTo host name batches machine).2.bindings
      ≤ gathered host part machine.bindings := by
  cases written : host.writeIpc batches with
  | error failure => rw [spillTo_of_error written]
  | ok file =>
      rw [spillTo_of_ok written]
      refine (gathered_insert_le _).trans ?_
      rw [onDisk, bytesOf, List.map_nil, List.sum_nil, Nat.zero_add]

/-- Evictions add nothing to it; by induction over the sized names. -/
theorem spillInOrder_gathered (onDisk : ∀ spilled, part (.spilled spilled) = [])
    (incoming : Nat) (sized : List (String × Nat)) (resident : Nat) (machine : Machine σ β)
    : gathered host part (spillInOrder host incoming sized resident machine).2.bindings
      ≤ gathered host part machine.bindings := by
  induction sized generalizing resident machine with
  | nil => exact le_refl _
  | cons head rest ih =>
      obtain ⟨name, bytes⟩ := head
      unfold spillInOrder
      split
      · have taken : (takeSized name machine).2.bindings = machine.bindings.erase name := by
          simp only [takeSized, Proc.get_bind_apply, setBindings, Proc.modify_bind_apply]
          cases machine.bindings.lookup name with
          | none => rfl
          | some binding => cases binding <;> rfl
        have erased : gathered host part (takeSized name machine).2.bindings
            ≤ gathered host part machine.bindings := by
          rw [taken]
          exact gathered_erase_le
        rcases ran : takeSized name machine with ⟨failure | batches, reached⟩
            <;> rw [ran] at erased
        · rw [Proc.bind_of_error ran]
          exact erased
        · rw [Proc.bind_of_ok ran]
          have spilled
              : gathered host part (spillTo host name batches reached).2.bindings
                ≤ gathered host part reached.bindings :=
            spillTo_gathered onDisk name batches reached
          rcases spills : spillTo host name batches reached with ⟨failure | _, last⟩
              <;> rw [spills] at spilled
          · rw [Proc.bind_of_error spills]
            exact spilled.trans erased
          · rw [Proc.bind_of_ok spills]
            exact (ih _ last).trans (spilled.trans erased)
      · exact le_refl _

theorem spillForHeadroom_gathered (onDisk : ∀ spilled, part (.spilled spilled) = [])
    (incoming : Nat) (machine : Machine σ β)
    : gathered host part (spillForHeadroom host incoming machine).2.bindings
      ≤ gathered host part machine.bindings := by
  simp only [spillForHeadroom, Proc.get_bind_apply]
  exact spillInOrder_gathered onDisk _ _ _ _

/-- Storing a storable relation keeps memory within the budget, whether it succeeds or fails;
`held` is in memory besides the bindings.
-/
theorem storeRelation_inMemory {budget : Nat}
    (limited : host.residentBindingsBudget = some budget) (small : budget < usizeMax)
    {name : String} {batches : β} {held : Nat}
    (storable : Storable host budget machine.bindings held batches)
    (within : inMemory host machine.bindings + held ≤ budget)
    : inMemory host (storeRelation host name batches machine).2.bindings + held ≤ budget := by
  have shrunk
      : inMemory host (spillForHeadroom host (host.batchesBytes batches) machine).2.bindings
        ≤ inMemory host machine.bindings :=
    spillForHeadroom_gathered (fun _ => rfl) _ machine
  have uncounted
      : gathered host Binding.uncounted
            (spillForHeadroom host (host.batchesBytes batches) machine).2.bindings
        ≤ gathered host Binding.uncounted machine.bindings :=
    spillForHeadroom_gathered (fun _ => rfl) _ machine
  rcases made : spillForHeadroom host (host.batchesBytes batches) machine
    with ⟨failure | _, roomed⟩ <;> rw [made] at shrunk uncounted
  · rw [storeRelation, Proc.bind_of_error made]
    exact (Nat.add_le_add_right shrunk held).trans within
  rw [storeRelation, Proc.bind_of_ok made]
  have kept := (Nat.add_le_add_right shrunk held).trans within
  by_cases exceeds : host.exceeds (host.batchesBytes batches) = true
  · rw [if_pos exceeds]
    have spilled
        : inMemory host (spillTo host name batches roomed).2.bindings
          ≤ inMemory host roomed.bindings :=
      spillTo_gathered (fun _ => rfl) name batches roomed
    exact (Nat.add_le_add_right spilled held).trans kept
  rw [if_neg exceeds, setBindings_apply]
  have fits : host.batchesBytes batches ≤ budget := by
    simpa [Host.exceeds, limited] using exceeds
  have inserted
      : inMemory host (roomed.bindings.insert name (.materialized batches))
        ≤ host.batchesBytes batches + inMemory host roomed.bindings :=
    gathered_insert_le _
  dsimp only at shrunk uncounted kept ⊢
  rcases storable with large | none | beside
  · omega
  · have room := (spillForHeadroom_roomed limited small made).fits
    have parts := inMemory_eq host roomed.bindings
    omega
  · omega

end Storing

-----------------------------------------------------------------------------------------
-- Registered inputs
-----------------------------------------------------------------------------------------

/-- The bytes of the relations that the registered inputs hold. -/
def ctxHeld (host : Host β) (ctx : Context β) : Nat :=
  bytesOf host (capturedAll (ctx.map Prod.snd))

theorem capturedAll_append (first second : List (LogicalPlan β))
    : capturedAll (first ++ second) = capturedAll first ++ capturedAll second := by
  induction first with
  | nil => rfl
  | cons plan rest ih => simp [capturedAll, ih]

theorem ctxHeld_append (host : Host β) (ctx : Context β) (tableName : String)
    (plan : LogicalPlan β)
    : ctxHeld host (ctx ++ [(tableName, plan)])
      = ctxHeld host ctx + bytesOf host plan.captured := by
  simp [ctxHeld, capturedAll_append, capturedAll, bytesOf]

/-- The bytes that registering a name's relation adds: it stays bound where other readers follow,
and is then held a second time.
-/
def sharedBytes (host : Host β) (machine : Machine σ β) (name : String) : Nat :=
  if usesOf machine.remaining name ≤ 1 then
    0
  else
    match machine.bindings.lookup name with
    | some (.materialized batches) => host.batchesBytes batches
    | some (.keys _) | some (.lazy _) | some (.spilled _) | none => 0

/-- After a registration, memory is within some bytes, registered inputs included. -/
def WithinBudget (host : Host β) (budget : Nat)
    : Except PyErr (Context β × Nat) × Machine σ β → Prop
  | (.ok (next, _), reached) => inMemory host reached.bindings + ctxHeld host next ≤ budget
  | (.error _, reached) => inMemory host reached.bindings ≤ budget

section Registering

variable {host : Host β} {fusion : DataFusion β} {machine : Machine σ β} {ctx : Context β}
  {tableName name : String} {budget held : Nat}

theorem afterRead_inMemory (host : Host β) (machine : Machine σ β) (name : String)
    : inMemory host (machine.afterRead name).bindings ≤ inMemory host machine.bindings := by
  unfold Machine.afterRead
  dsimp only
  split
  · exact gathered_erase_le
  · exact le_refl _

/-- What a name's relation holds when it is read: it moves, or is shared. -/
theorem afterRead_add (host : Host β) {batches : β}
    (found : machine.bindings.lookup name = some (.materialized batches))
    : inMemory host (machine.afterRead name).bindings + host.batchesBytes batches
      = inMemory host machine.bindings + sharedBytes host machine name := by
  unfold Machine.afterRead sharedBytes
  dsimp only
  split
  · have moved : bytesOf host (Binding.materialized batches).relations
          + inMemory host (machine.bindings.erase name)
        = inMemory host machine.bindings :=
      inMemory_erase_of_lookup found
    have one : bytesOf host (Binding.materialized batches).relations
        = host.batchesBytes batches := by
      simp [Binding.relations, bytesOf]
    omega
  · rw [found]

/-- A registration that fails holds no more than the machine it ends in. -/
theorem withinBudget_error {failure : PyErr} {reached : Machine σ β}
    (kept : inMemory host reached.bindings ≤ budget)
    : WithinBudget host budget (.error failure, reached) :=
  kept

/-- One that succeeds holds what it registered besides. -/
theorem withinBudget_ok {plan : LogicalPlan β} {bytes : Nat} {reached : Machine σ β}
    (kept
      : inMemory host reached.bindings + ctxHeld host ctx + bytesOf host plan.captured ≤ budget)
    : WithinBudget host budget (.ok (ctx ++ [(tableName, plan)], bytes), reached) := by
  show inMemory host reached.bindings + ctxHeld host (ctx ++ [(tableName, plan)]) ≤ budget
  rw [ctxHeld_append]
  omega

/-- A registered spill file is no memory. -/
theorem registerSpilled_within (spilled : SpilledBinding β)
    (within : inMemory host machine.bindings + ctxHeld host ctx ≤ budget)
    : WithinBudget host budget (registerSpilled fusion ctx tableName name spilled machine) := by
  have read := afterRead_inMemory host machine name
  rw [registerSpilled_apply]
  cases fusion.registerTable (ctx.map Prod.fst) tableName with
  | error failure => exact withinBudget_error (by omega)
  | ok _ =>
      apply withinBudget_ok
      simp only [LogicalPlan.captured, bytesOf, List.map_nil, List.sum_nil]
      omega

/-- A resident input moves from the bindings, or is shared with them. -/
theorem registerResident_within
    (within
      : inMemory host machine.bindings + ctxHeld host ctx + sharedBytes host machine name ≤ budget)
    : WithinBudget host budget (registerResident host fusion ctx tableName name machine) := by
  have read := afterRead_inMemory host machine name
  by_cases resident : ∃ batches, machine.bindings.lookup name = some (.materialized batches)
  · obtain ⟨batches, found⟩ := resident
    have shared := afterRead_add host found
    rw [registerResident_of_materialized found]
    cases fusion.memTable batches with
    | error failure => exact withinBudget_error (by omega)
    | ok _ =>
        cases fusion.registerTable (ctx.map Prod.fst) tableName with
        | error failure => exact withinBudget_error (by omega)
        | ok _ =>
            apply withinBudget_ok
            simp only [LogicalPlan.captured, bytesOf, List.map_cons, List.map_nil, List.sum_cons,
              List.sum_nil]
            omega
  · rw [registerResident_of_missing (fun batches found => resident ⟨batches, found⟩)]
    exact withinBudget_error (by omega)

theorem registerStored_within
    (within
      : inMemory host machine.bindings + ctxHeld host ctx + sharedBytes host machine name ≤ budget)
    : WithinBudget host budget (registerStored host fusion ctx tableName name machine) := by
  unfold registerStored
  rw [Proc.get_bind_apply]
  cases found : machine.bindings.lookup name with
  | none => exact registerResident_within within
  | some binding =>
      cases binding with
      | spilled spilled => exact registerSpilled_within spilled (by omega)
      | materialized | keys | lazy => exact registerResident_within within

/-- Registering a view moves what its plan has captured. -/
theorem registerView_within {region : LazyRegion β}
    (found : machine.bindings.lookup name = some (.lazy region))
    (within : inMemory host machine.bindings + ctxHeld host ctx ≤ budget)
    : WithinBudget host budget (registerView fusion ctx tableName name machine) := by
  have moved : bytesOf host region.plan.captured + inMemory host (machine.bindings.erase name)
      = inMemory host machine.bindings :=
    inMemory_erase_of_lookup found
  rw [registerView_of_lazy found]
  cases fusion.registerTable (ctx.map Prod.fst) tableName with
  | error failure =>
      apply withinBudget_error
      show inMemory host (machine.bindings.erase name) ≤ budget
      omega
  | ok _ =>
      apply withinBudget_ok
      show inMemory host (machine.bindings.erase name) + _ + _ ≤ budget
      omega

/-- A name's lazy region, when it executes, gives a relation that can be stored. -/
def Forceable (host : Host β) (fusion : DataFusion β) (budget held : Nat) (name : String)
    (machine : Machine σ β)
    : Prop :=
  ∀ region batches, machine.bindings.lookup name = some (.lazy region)
    → executeWithRetry fusion region = .ok batches
    → Storable host budget (machine.bindings.erase name) held batches

/-- Forcing a name keeps memory within the budget, whether it succeeds or fails. -/
theorem forceMaterialized_inMemory (limited : host.residentBindingsBudget = some budget)
    (small : budget < usizeMax) (forceable : Forceable host fusion budget held name machine)
    (within : inMemory host machine.bindings + held ≤ budget)
    : inMemory host (forceMaterialized host fusion name machine).2.bindings + held ≤ budget := by
  by_cases lazy : ∃ region, machine.bindings.lookup name = some (.lazy region)
  · obtain ⟨region, found⟩ := lazy
    have erased : inMemory host (machine.bindings.erase name) + held ≤ budget :=
      (Nat.add_le_add_right gathered_erase_le held).trans within
    rw [forceMaterialized_of_lazy found]
    cases ran : executeWithRetry fusion region with
    | error failure => exact erased
    | ok batches =>
        exact storeRelation_inMemory limited small (forceable region batches found ran) erased
  · rw [forceMaterialized_of_not_lazy (fun region found => lazy ⟨region, found⟩)]
    exact within

/-- An input that further readers follow has room beside what is registered by then: to be stored
if it is a lazy region that has to be forced, and to be held a second time.
-/
def RoomyInput (host : Host β) (fusion : DataFusion β) (budget held : Nat) (name : String)
    (machine : Machine σ β)
    : Prop :=
  1 < usesOf machine.remaining name
    → Forceable host fusion budget held name machine
      ∧ ∀ forced, forceMaterialized host fusion name machine = (.ok (), forced)
        → inMemory host forced.bindings + held + sharedBytes host forced name ≤ budget

/-- Each input of a merge has such room, in the order of the inputs. -/
def RoomyInputs (host : Host β) (fusion : DataFusion β) (budget : Nat)
    : List (String × String) → Context β → Machine σ β → Prop
  | [], _, _ => True
  | (tableName, bindingName) :: rest, ctx, machine =>
      RoomyInput host fusion budget (ctxHeld host ctx) bindingName machine
      ∧ ∀ next bytes reached,
          registerInput host fusion ctx tableName bindingName machine
            = (.ok (next, bytes), reached)
            → RoomyInputs host fusion budget rest next reached

/-- What is stored and read for the last time moves. -/
theorem sharedBytes_last (last : usesOf machine.remaining name ≤ 1)
    : sharedBytes host machine name = 0 := by
  rw [sharedBytes, if_pos last]

/-- One input: a view of a single-use region, else what is stored, forced first if lazy. -/
theorem registerInput_within (limited : host.residentBindingsBudget = some budget)
    (small : budget < usizeMax)
    (roomy : RoomyInput host fusion budget (ctxHeld host ctx) name machine)
    (within : inMemory host machine.bindings + ctxHeld host ctx ≤ budget)
    : WithinBudget host budget (registerInput host fusion ctx tableName name machine) := by
  unfold registerInput
  rw [Proc.get_bind_apply]
  by_cases lazy : ∃ region, machine.bindings.lookup name = some (.lazy region)
  · obtain ⟨region, found⟩ := lazy
    simp only [found]
    by_cases single : usesOf machine.remaining name ≤ 1
    · rw [if_pos single]
      exact registerView_within found within
    rw [if_neg single]
    obtain ⟨forceable, shared⟩ := roomy (by omega)
    have forced
        : inMemory host (forceMaterialized host fusion name machine).2.bindings + ctxHeld host ctx
          ≤ budget :=
      forceMaterialized_inMemory limited small forceable within
    rcases ran : forceMaterialized host fusion name machine with ⟨failure | _, reached⟩
        <;> rw [ran] at forced
    · rw [Proc.bind_of_error ran]
      exact withinBudget_error (by dsimp only at forced; omega)
    · rw [Proc.bind_of_ok ran]
      exact registerStored_within (shared reached ran)
  · have room
        : inMemory host machine.bindings + ctxHeld host ctx + sharedBytes host machine name
          ≤ budget := by
      by_cases last : usesOf machine.remaining name ≤ 1
      · rw [sharedBytes_last last]
        omega
      · exact (roomy (by omega)).2 machine
          (forceMaterialized_of_not_lazy (fun region found => lazy ⟨region, found⟩))
    have stored
        : WithinBudget host budget (registerStored host fusion ctx tableName name machine) :=
      registerStored_within room
    cases found : machine.bindings.lookup name with
    | none => exact stored
    | some binding =>
        cases binding with
        | lazy region => exact absurd ⟨region, found⟩ lazy
        | materialized | keys | spilled => exact stored

/-- All inputs, by induction over them. -/
theorem registerInputs_within (limited : host.residentBindingsBudget = some budget)
    (small : budget < usizeMax) (inputs : List (String × String)) (ctx : Context β)
    (inputBytes : Nat) (machine : Machine σ β)
    (roomy : RoomyInputs host fusion budget inputs ctx machine)
    (within : inMemory host machine.bindings + ctxHeld host ctx ≤ budget)
    : WithinBudget host budget (registerInputs host fusion inputs ctx inputBytes machine) := by
  induction inputs generalizing ctx inputBytes machine with
  | nil => exact within
  | cons input rest ih =>
      obtain ⟨tableName, bindingName⟩ := input
      obtain ⟨room, later⟩ := roomy
      have first
          : WithinBudget host budget
              (registerInput host fusion ctx tableName bindingName machine) :=
        registerInput_within limited small room within
      rcases ran : registerInput host fusion ctx tableName bindingName machine
        with ⟨failure | ⟨next, bytes⟩, reached⟩ <;> rw [ran] at first
      · rw [registerInputs, Proc.bind_of_error ran]
        exact first
      · rw [registerInputs, Proc.bind_of_ok ran]
        exact ih next _ reached (later next bytes reached ran) first

/-- A composed fragment is a relation, or a plan that captures what was registered. -/
theorem composeFragment_captures (host : Host β) {fragment : Fragment}
    {inputBytes : Nat} {result : Binding β}
    (composed : composeFragment fusion fragment ctx inputBytes = .ok result)
    : (∃ batches, result = .materialized batches)
      ∨ ∃ region, result = .lazy region
          ∧ bytesOf host region.plan.captured = ctxHeld host ctx := by
  rcases composeFragment_region composed with rfl | relation
  · exact Or.inr ⟨_, rfl, by simp [composedPlan, LogicalPlan.captured, ctxHeld]⟩
  · exact Or.inl relation

end Registering

-----------------------------------------------------------------------------------------
-- Steps and runs
-----------------------------------------------------------------------------------------

/-- The bindings keep no more in memory than the budget. -/
def InBudget (host : Host β) (budget : Nat) (machine : Machine σ β) : Prop :=
  inMemory host machine.bindings ≤ budget

section Operations

variable {host : Host β} {fusion : DataFusion β} {budget : Nat} {machine : Machine σ β}

theorem InBudget.sameBindings {reached : Machine σ β} (within : InBudget host budget machine)
    (same : reached.bindings = machine.bindings)
    : InBudget host budget reached := by
  unfold InBudget
  rw [same]
  exact within

theorem storeRelation_inBudget (limited : host.residentBindingsBudget = some budget)
    (small : budget < usizeMax) {name : String} {batches : β}
    (storable : Storable host budget machine.bindings 0 batches)
    (within : InBudget host budget machine)
    : InBudget host budget (storeRelation host name batches machine).2 :=
  storeRelation_inMemory limited small storable within

theorem forceMaterialized_inBudget (limited : host.residentBindingsBudget = some budget)
    (small : budget < usizeMax) {name : String}
    (forceable : Forceable host fusion budget 0 name machine)
    (within : InBudget host budget machine)
    : InBudget host budget (forceMaterialized host fusion name machine).2 :=
  forceMaterialized_inMemory limited small forceable within

theorem export_inBudget (name : String) (within : InBudget host budget machine)
    : InBudget host budget («export» name machine).2 := by
  have erased : («export» name machine).2.bindings = machine.bindings.erase name := by
    simp only [«export», Proc.get_bind_apply, setBindings, Proc.modify_bind_apply]
    cases machine.bindings.lookup name with
    | none => rfl
    | some binding => cases binding <;> rfl
  unfold InBudget
  rw [erased]
  exact gathered_erase_le.trans within

/-- What a composed fragment keeps uncounted fits in memory beside the bindings. -/
def ResultWithin (host : Host β) (budget : Nat)
    : Except PyErr (Binding β) × Machine σ β → Prop
  | (.ok result, reached) =>
      bytesOf host result.uncounted + inMemory host reached.bindings ≤ budget
  | (.error _, reached) => InBudget host budget reached

theorem ResultWithin.inBudget {outcome : Except PyErr (Binding β) × Machine σ β}
    (within : ResultWithin host budget outcome)
    : InBudget host budget outcome.2 := by
  obtain ⟨failure | result, reached⟩ := outcome
  · exact within
  · exact (Nat.le_add_left _ _).trans within

/-- Composing a fragment leaves what its plan captured in memory, beside the bindings. -/
theorem runFragment_within (limited : host.residentBindingsBudget = some budget)
    (small : budget < usizeMax) {fragment : Fragment} {inputs : NameMap String}
    (roomy : RoomyInputs host fusion budget
      (inputs.entries.map (fun entry => (entry.1, entry.2))) [] machine)
    (within : InBudget host budget machine)
    : ResultWithin host budget (runFragment fusion host fragment inputs machine) := by
  have start : inMemory host machine.bindings + ctxHeld host [] ≤ budget := within
  have registered := registerInputs_within limited small
    (inputs.entries.map (fun entry => (entry.1, entry.2))) [] 0 machine roomy start
  unfold runFragment
  rcases ran : registerInputs host fusion
      (inputs.entries.map (fun entry => (entry.1, entry.2))) [] 0 machine
    with ⟨failure | ⟨ctx, inputBytes⟩, reached⟩ <;> rw [ran] at registered
  · rw [Proc.bind_of_error ran]
    exact registered
  · rw [Proc.bind_of_ok ran]
    have bindings : InBudget host budget reached :=
      (Nat.le_add_right _ _).trans registered
    show ResultWithin host budget (liftDf (composeFragment fusion fragment ctx inputBytes) reached)
    rw [liftDf_apply]
    cases composed : composeFragment fusion fragment ctx inputBytes with
    | error failure => exact bindings
    | ok result =>
        rcases composeFragment_captures host composed with ⟨batches, rfl⟩
            | ⟨region, rfl, captured⟩
        · exact (Nat.zero_add _).le.trans bindings
        · show bytesOf host region.plan.captured + _ ≤ budget
          rw [captured, Nat.add_comm]
          exact registered

theorem storeResult_inBudget {engine : Engine σ β}
    (limited : engine.host.residentBindingsBudget = some budget)
    (small : budget < usizeMax) {machine : Machine σ β} {result : Binding β} (name : String)
    (storable : ∀ batches, result = .materialized batches
      → Storable engine.host budget machine.bindings 0 batches)
    (within : ResultWithin engine.host budget (.ok result, machine))
    : InBudget engine.host budget (storeResult engine name result machine).2 := by
  cases result with
  | materialized batches =>
      exact storeRelation_inBudget limited small (storable batches rfl) within.inBudget
  | keys | lazy | spilled => exact (gathered_insert_le _).trans within

theorem onSource_bindings {α : Type} {action : Proc σ PyErr α} {machine reached : Machine σ β}
    {value : α} (ran : onSource action machine = (.ok value, reached))
    : reached.bindings = machine.bindings :=
  (congrArg (fun outcome => outcome.2.bindings) ran).symm

theorem noteUses_bindings (names : List String) (machine : Machine σ β)
    : (noteUses names machine).2.bindings = machine.bindings := by
  induction names generalizing machine with
  | nil => rfl
  | cons name rest ih =>
      rw [noteUses, Proc.bind_of_ok (noteUse_apply name machine)]
      exact ih _

end Operations

section Steps

variable [Fetched β] {engine : Engine σ β}

/-- The relations that a step stores can be stored where it does so, and the keys that it
collects fit beside everything in memory.
-/
def Roomy (engine : Engine σ β) (budget : Nat) (ir : Ir) (machine : Machine σ β)
    : Step → Prop
  | .sourceScan datasource scan _ _ =>
      ∀ batches reached,
        fetchSource engine.exprs engine.connectors datasource scan machine.source
            = (.ok batches, reached)
          → Storable engine.host budget machine.bindings 0 batches
  | .injectedScan datasource scan injectColumn keysFrom _ injectColumnNdv extras =>
      ∀ keys extraSets batches reached,
        keysBinding keysFrom machine = (.ok keys, machine)
          → extraKeys extras machine = (.ok extraSets, machine)
          → runInjectedScan engine.exprs engine.connectors datasource scan injectColumn keys
              injectColumnNdv extraSets machine.source = (.ok batches, reached)
          → Storable engine.host budget machine.bindings 0 batches
  | .collectDistinct input key _ _ =>
      Forceable engine.host engine.fusion budget 0 input machine
        ∧ ∀ forced keys,
            forceMaterialized engine.host engine.fusion input machine = (.ok (), forced)
              → collectDistinctFrom engine.fusion input key forced = (.ok keys, forced)
              → inMemory engine.host forced.bindings + engine.host.batchesBytes keys ≤ budget
  | .ship _ input _ | .return input =>
      Forceable engine.host engine.fusion budget 0 input machine
  | .merge fragment inputs _ =>
      ∀ frag, ir.fragments.lookup fragment = some frag →
        RoomyInputs engine.host engine.fusion budget
            (inputs.entries.map (fun entry => (entry.1, entry.2))) [] machine
          ∧ ∀ batches reached,
              runFragment engine.fusion engine.host frag inputs machine
                  = (.ok (.materialized batches), reached)
                → Storable engine.host budget reached.bindings 0 batches

variable {budget : Nat}

/-- A roomy step keeps memory within the budget, whether it succeeds or fails; by cases on the
step.
-/
theorem runStep_inBudget (limited : engine.host.residentBindingsBudget = some budget)
    (small : budget < usizeMax) (ir : Ir) (machine : Machine σ β) (step : Step)
    (roomy : Roomy engine budget ir machine step)
    (within : InBudget engine.host budget machine)
    : InBudget engine.host budget (runStep engine ir step machine).2 := by
  cases step with
  | sourceScan datasource scan binding _ =>
      refine Proc.keeps_bind within ?_
      intro batches reached ran kept
      have storable := roomy batches _ (onSource_eq_ok ran)
      rw [← onSource_bindings ran] at storable
      exact Proc.keeps_bind (storeRelation_inBudget limited small storable kept)
        (fun _ _ _ kept => kept)
  | collectDistinct input key _ binding =>
      obtain ⟨forceable, fits⟩ := roomy
      refine Proc.keeps_bind (forceMaterialized_inBudget limited small forceable within) ?_
      intro _ forced ran kept
      refine Proc.keeps_bind ?_ ?_
      · rwa [collectDistinctFrom_reads engine.fusion input key forced]
      intro keys reached collected _
      obtain rfl := (collectDistinctFrom_reads engine.fusion input key).reached collected
      have room := fits _ keys ran collected
      have inserted
          : inMemory engine.host (reached.bindings.insert binding (.keys keys))
            ≤ engine.host.batchesBytes keys + inMemory engine.host reached.bindings :=
        gathered_insert_le _
      show inMemory engine.host (reached.bindings.insert binding (.keys keys)) ≤ budget
      omega
  | injectedScan datasource scan injectColumn keysFrom binding injectColumnNdv extras =>
      refine Proc.keeps_bind ?_ ?_
      · rwa [keysBinding_reads keysFrom machine]
      intro keys reached keyed _
      obtain rfl := (keysBinding_reads keysFrom).reached keyed
      refine Proc.keeps_bind ?_ ?_
      · rwa [extraKeys_reads extras _]
      intro extraSets reached others _
      obtain rfl := (extraKeys_reads extras).reached others
      refine Proc.keeps_bind within ?_
      intro batches fetched ran kept
      have storable := roomy keys extraSets batches _ keyed others (onSource_eq_ok ran)
      rw [← onSource_bindings ran] at storable
      have same := noteUses_bindings (keysFrom :: extras.map ExtraInjection.keysFrom) fetched
      refine Proc.keeps_bind (kept.sameBindings same) ?_
      intro _ noted counted kept
      rw [counted] at same
      rw [← same] at storable
      exact Proc.keeps_bind (storeRelation_inBudget limited small storable kept)
        (fun _ _ _ kept => kept)
  | ship datasource input table =>
      refine Proc.keeps_bind (forceMaterialized_inBudget limited small roomy within) ?_
      intro _ forced _ kept
      refine Proc.keeps_bind ?_ ?_
      · rwa [materialized_reads input forced]
      intro batches reached held _
      obtain rfl := (materialized_reads input).reached held
      exact Proc.keeps_bind kept (fun _ _ _ kept =>
        Proc.keeps_bind kept (fun _ _ _ kept => kept))
  | merge fragment inputs binding =>
      simp only [runStep]
      cases found : ir.fragments.lookup fragment with
      | none => exact within
      | some frag =>
          obtain ⟨inputsFit, resultFits⟩ := roomy frag found
          have composed
              : ResultWithin engine.host budget
                  (runFragment engine.fusion engine.host frag inputs machine) :=
            runFragment_within limited small inputsFit within
          refine Proc.keeps_bind composed.inBudget ?_
          intro result reached ran _
          rw [ran] at composed
          have storable (batches : β) (same : result = .materialized batches)
              : Storable engine.host budget reached.bindings 0 batches :=
            resultFits batches reached (same ▸ ran)
          exact Proc.keeps_bind (storeResult_inBudget limited small binding storable composed)
            (fun _ _ _ kept => kept)
  | «return» input =>
      refine Proc.keeps_bind (forceMaterialized_inBudget limited small roomy within) ?_
      intro _ forced _ kept
      exact Proc.keeps_bind (export_inBudget input kept) (fun _ _ _ kept => kept)

/-- In every run whose steps are roomy, all that the bindings keep in memory stays within the
resident budget: in each state the run passes through, and in the one it ends in.
-/
theorem execute_inBudget (engine : Engine σ β)
    (limited : engine.host.residentBindingsBudget = some residentBudget) (ir : Ir) (source : σ)
    (roomy : Proc.Along (runStep engine ir) (Roomy engine residentBudget ir) ir.steps
      (Machine.start ir (engine.connectors.clearShipments source)))
    : InBudget engine.host residentBudget
          (runSteps engine ir (engine.connectors.clearShipments source)).2
        ∧ ∀ later last,
            Proc.Passes (runStep engine ir) ir.steps
                (Machine.start ir (engine.connectors.clearShipments source)) later last
              → InBudget engine.host residentBudget last := by
  have small : residentBudget < usizeMax := by decide
  have kept (machine : Machine σ β) (step : Step)
      : Roomy engine residentBudget ir machine step → InBudget engine.host residentBudget machine
        → InBudget engine.host residentBudget (runStep engine ir step machine).2 :=
    runStep_inBudget limited small ir machine step
  have start
      : InBudget engine.host residentBudget
          (Machine.start ir (engine.connectors.clearShipments source)) :=
    Nat.zero_le residentBudget
  constructor
  · exact Proc.runUntil_preserves kept ir.steps _ start roomy
  · intro later last passes
    exact passes.preserves kept start roomy

end Steps

end Memory

-----------------------------------------------------------------------------------------
-- A source of large tables
-----------------------------------------------------------------------------------------

/-- A host on which every row takes a gibibyte. -/
def gibibyteHost : Host Batches where
  batchesBytes relation := relation.numRows * gibibyte
  residentBindingsBudget := some residentBudget
  iterationOrder sized := sized
  iterationOrder_perm := keptOrder_perm
  writeIpc := .ok

def gibibyteEngine : Engine Sources Batches where
  host := gibibyteHost
  fusion := storedFusion
  exprs := formExprs
  connectors := nativeConnectors tableDrivers (fun _ => "")

/-- Tables of ten and of nine rows. -/
def gibibyteSources : Sources :=
  Sources.new [("lake", { kind := .parquet, uri := "dir", adbcDriver := none })]
    (fun _ =>
      {
        searchPath := ["main"]
        tables :=
          [(("main", "ten"), intHeap "v" (List.replicate 10 (0, 1))),
            (("main", "nine"), intHeap "v" (List.replicate 9 (0, 1)))]
      })

/-- Scan both tables. -/
def scanBoth : Ir where
  outputs := []
  steps :=
    [.sourceScan "lake" { rawSql := some "ten" } "x" true,
      .sourceScan "lake" { rawSql := some "nine" } "y" true,
      .return "y"]
  fragments := ∅

/-- Project the first table before the second one is scanned. -/
def projectAndScan : Ir where
  outputs := []
  steps :=
    [.sourceScan "lake" { rawSql := some "ten" } "x" true,
      .merge "p" ((∅ : NameMap String).insert "in_0" "x") "p",
      .sourceScan "lake" { rawSql := some "nine" } "y" true,
      .return "y"]
  fragments :=
    (∅ : NameMap Fragment).insert "p"
      (.project [{ expr := .column none "v", aliasName := "v" }] false)

/-- Two scanned relations: the first one makes room for the second. -/
theorem execute_inBudget_scanBoth
    : InBudget gibibyteHost residentBudget
        (runSteps gibibyteEngine scanBoth (clearShipments gibibyteSources)).2 := by
  have storable (bindings : Bindings Batches)
      (counted : gathered gibibyteHost Binding.uncounted bindings = 0) (batches : Batches)
      : Storable gibibyteHost residentBudget bindings 0 batches :=
    Or.inr (Or.inl counted)
  refine (execute_inBudget gibibyteEngine rfl scanBoth gibibyteSources ?_).1
  refine ⟨fun batches _ _ => storable _ rfl batches, ?_⟩
  intro first ran
  cases ran
  refine ⟨fun batches _ _ => storable _ rfl batches, ?_⟩
  intro second ran
  cases ran
  constructor
  · intro region batches found
    cases found
  · intro third ran
    cases ran

/-- A lazy projection keeps ten gibibytes that making room for nine more does not count. -/
theorem execute_exceeds_residentBudget
    : ∃ machine,
        Proc.Passes (runStep gibibyteEngine projectAndScan) projectAndScan.steps
            (Machine.start projectAndScan (clearShipments gibibyteSources))
            (projectAndScan.steps.drop 3) machine
          ∧ ¬ InBudget gibibyteHost residentBudget machine := by
  refine ⟨_, .next rfl (.next rfl (.next rfl .here)), ?_⟩
  unfold InBudget
  decide

end Fedqrs
