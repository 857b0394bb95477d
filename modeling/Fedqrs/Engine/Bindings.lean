import Fedqrs.Core.Expr
import Fedqrs.Library.Proc
import Mathlib.Data.List.Sort

/-! The named bindings of a run, and the spill policy that keeps the resident ones under a
budget. Relations stay abstract: `β` is a fully-read relation with its schema.
-/

namespace Fedqrs

/-- A fragment composed over its inputs, not yet executed. A registered input is a relation
in memory (`memTable`), the stream over a spill file (`spillStream`), or the plan of a lazy
region that the view registered for it stands for.
-/
inductive LogicalPlan (β : Type)
  | memTable (batches : β)
  | spillStream (file : β)
  | fragment (fragment : Fragment) (names : List String) (inputs : List (LogicalPlan β))

/-- The fused plan and the measured total bytes of the relations feeding it. -/
structure LazyRegion (β : Type) where
  plan : LogicalPlan β
  inputBytes : Nat

/-- The on-disk form of a relation: what its file gives back, and its size in memory before
it was written.
-/
structure SpilledBinding (β : Type) where
  file : β
  bytes : Nat

/-- A named intermediate produced by a step. -/
inductive Binding (β : Type)
  | materialized (batches : β)
  | keys (batches : β)
  | lazy (region : LazyRegion β)
  | spilled (spilled : SpilledBinding β)

abbrev Bindings (β : Type) : Type := NameMap (Binding β)

/-- The machine under the engine: relation sizes, the resident budget (`none` is no limit),
the iteration order of a hash map, and what an IPC file gives back after a write.
-/
structure Host (β : Type) where
  batchesBytes : β → Nat
  residentBindingsBudget : Option Nat
  iterationOrder : List (String × Nat) → List (String × Nat)
  iterationOrder_perm : ∀ sized, (iterationOrder sized).Perm sized
  writeIpc : β → Except DfError β

/-- The state of one run: its bindings, the reads still to come of each name, the relations
handed to temp files so far, and the state of the sources.
-/
structure Machine (σ β : Type) where
  bindings : Bindings β
  remaining : NameMap Nat
  files : List β
  source : σ

abbrev EngineM (σ β α : Type) : Type := Proc (Machine σ β) PyErr α

variable {σ β α : Type}

namespace EngineM

/-- A DataFusion result, its error shown as the Python exception it becomes. -/
def liftDf (result : Except DfError α) : EngineM σ β α :=
  Proc.lift (result.mapError DfError.toPy)

@[simp]
theorem liftDf_ok (value : α) : (liftDf (.ok value) : EngineM σ β α) = pure value := rfl

@[simp]
theorem liftDf_error (failure : DfError)
    : (liftDf (.error failure) : EngineM σ β α) = Proc.fail failure.toPy :=
  rfl

def setBindings (change : Bindings β → Bindings β) : EngineM σ β Unit :=
  Proc.modify (fun machine => { machine with bindings := change machine.bindings })

def setRemaining (change : NameMap Nat → NameMap Nat) : EngineM σ β Unit :=
  Proc.modify (fun machine => { machine with remaining := change machine.remaining })

/-- Run a source operation on the sources' state. -/
def onSource (action : Proc σ PyErr α) : EngineM σ β α :=
  Proc.zoom Machine.source (fun source machine => { machine with source }) action

end EngineM

open EngineM

-----------------------------------------------------------------------------------------
-- Spilling
-----------------------------------------------------------------------------------------

/-- `RESIDENT_BINDINGS_BUDGET`, the budget the engine runs with. -/
def residentBudget : Nat := 16 * 1024 * 1024 * 1024

def usizeMax : Nat := 2 ^ 64 - 1

def saturatingAdd (a b : Nat) : Nat := min (a + b) usizeMax

/-- Whether a size is past the budget. -/
def Host.exceeds (host : Host β) (bytes : Nat) : Bool :=
  match host.residentBindingsBudget with
  | none => false
  | some budget => budget < bytes

/-- Write a relation to a temp file. -/
def spillBinding (host : Host β) (batches : β) : EngineM σ β (SpilledBinding β) := do
  Proc.modify (fun machine => { machine with files := machine.files ++ [batches] })
  let file ← liftDf (host.writeIpc batches)
  pure { file, bytes := host.batchesBytes batches }

/-- Spill a relation and let a name stand for its file. -/
def spillTo (host : Host β) (name : String) (batches : β) : EngineM σ β Unit := do
  let spilled ← spillBinding host batches
  setBindings (fun bindings => bindings.insert name (.spilled spilled))

/-- The resident bindings with their sizes. -/
def residentSizes (host : Host β) (bindings : Bindings β) : List (String × Nat) :=
  bindings.entries.filterMap (fun entry =>
    match entry.2 with
    | .materialized batches => some (entry.1, host.batchesBytes batches)
    | _ => none)

/-- Take a binding that was sized as a resident one out of the map. -/
def takeSized (name : String) : EngineM σ β β := do
  let machine ← Proc.get
  setBindings (fun bindings => bindings.erase name)
  match machine.bindings.lookup name with
  | some (.materialized batches) => pure batches
  | _ => Proc.fail "sized only holds materialized bindings"

/-- Spill the sized bindings in order until `incoming` fits next to the `resident` bytes. -/
def spillInOrder (host : Host β) (incoming : Nat)
    : List (String × Nat) → Nat → EngineM σ β Unit
  | [], _ => pure ()
  | (name, bytes) :: rest, resident =>
      if host.exceeds (saturatingAdd resident incoming) then do
        let taken ← takeSized name
        spillTo host name taken
        spillInOrder host incoming rest (resident - bytes)
      else
        pure ()

/-- Spill the largest resident bindings until `incoming` fits in the budget. -/
def spillForHeadroom (host : Host β) (incoming : Nat) : EngineM σ β Unit := do
  let machine ← Proc.get
  let sized := host.iterationOrder (residentSizes host machine.bindings)
  let resident := (sized.map Prod.snd).sum
  let largestFirst := sized.insertionSort (fun a b => b.2 ≤ a.2)
  spillInOrder host incoming largestFirst resident

/-- Store a relation as a binding; one bigger than the whole budget can only live on disk. -/
def storeRelation (host : Host β) (name : String) (batches : β) : EngineM σ β Unit := do
  let incoming := host.batchesBytes batches
  spillForHeadroom host incoming
  if host.exceeds incoming then
    spillTo host name batches
  else
    setBindings (fun bindings => bindings.insert name (.materialized batches))

-----------------------------------------------------------------------------------------
-- Use counts and taking bindings out
-----------------------------------------------------------------------------------------

/-- The reads of a name still to come, zero when it is not counted. -/
def usesOf (remaining : NameMap Nat) (name : String) : Nat :=
  (remaining.lookup name).getD 0

/-- The counts after one more read of a name. -/
def countedDown (remaining : NameMap Nat) (name : String) : NameMap Nat :=
  match remaining.lookup name with
  | some uses => remaining.insert name (uses - 1)
  | none => remaining

/-- Record one read of a binding in the counts of reads still to come. -/
def noteUse (name : String) : EngineM σ β Unit :=
  setRemaining (fun remaining => countedDown remaining name)

/-- Take a binding out of the map as a lazy plan. -/
def takeLazy (name : String) : EngineM σ β (LazyRegion β) := do
  let machine ← Proc.get
  setBindings (fun bindings => bindings.erase name)
  match machine.bindings.lookup name with
  | some (.lazy region) => pure region
  | some other => do
      setBindings (fun bindings => bindings.insert name other)
      liftDf (.error (.plan ("binding '" ++ name ++ "' is not lazy")))
  | none => liftDf (.error (.plan ("unknown binding '" ++ name ++ "'")))

/-- Take a binding out of the map as materialized batches. -/
def takeMaterialized (name : String) : EngineM σ β β := do
  let machine ← Proc.get
  setBindings (fun bindings => bindings.erase name)
  match machine.bindings.lookup name with
  | some (.materialized batches) => pure batches
  | some _ => liftDf (.error (.plan ("binding '" ++ name ++ "' is not a relation")))
  | none => liftDf (.error (.plan ("unknown binding '" ++ name ++ "'")))

/-- Consume a binding: its last reader takes it out of the map, an earlier one gets a copy. -/
def consumeMaterialized (name : String) : EngineM σ β β := do
  let machine ← Proc.get
  noteUse name
  if 1 < usesOf machine.remaining name then
    match machine.bindings.lookup name with
    | some (.materialized batches) => pure batches
    | some _ => liftDf (.error (.plan ("binding '" ++ name ++ "' is not a relation")))
    | none => liftDf (.error (.plan ("unknown binding '" ++ name ++ "'")))
  else
    takeMaterialized name

/-- Borrow a binding as materialized batches. -/
def materialized (name : String) : EngineM σ β β := do
  let machine ← Proc.get
  match machine.bindings.lookup name with
  | some (.materialized batches) => pure batches
  | some _ => Proc.fail ("binding '" ++ name ++ "' is not a relation")
  | none => Proc.fail ("unknown binding '" ++ name ++ "'")

/-- Borrow the distinct build-key values a keys binding holds. -/
def keysBinding (keysFrom : String) : EngineM σ β β := do
  let machine ← Proc.get
  match machine.bindings.lookup keysFrom with
  | some (.keys batches) => pure batches
  | _ => Proc.fail ("binding '" ++ keysFrom ++ "' does not hold distinct keys")

/-- Take the named binding as the result; a spilled one is read back from its file. -/
def «export» (input : String) : EngineM σ β β := do
  let machine ← Proc.get
  setBindings (fun bindings => bindings.erase input)
  match machine.bindings.lookup input with
  | some (.materialized batches) => pure batches
  | some (.spilled spilled) => pure spilled.file
  | some _ => Proc.fail ("cannot return non-relation binding '" ++ input ++ "'")
  | none => Proc.fail ("return of unknown binding '" ++ input ++ "'")

-----------------------------------------------------------------------------------------
-- One equation for each operation
-----------------------------------------------------------------------------------------

section Equations

variable {machine : Machine σ β} {name : String}

@[simp]
theorem liftDf_apply (result : Except DfError α) (machine : Machine σ β)
    : (liftDf result : EngineM σ β α) machine = (result.mapError DfError.toPy, machine) := by
  simp [liftDf]

@[simp]
theorem setBindings_apply (change : Bindings β → Bindings β) (machine : Machine σ β)
    : setBindings change machine
      = (.ok (), { machine with bindings := change machine.bindings }) :=
  rfl

@[simp]
theorem onSource_apply (action : Proc σ PyErr α) (machine : Machine σ β)
    : onSource action machine
      = ((action machine.source).1, { machine with source := (action machine.source).2 }) :=
  rfl

/-- A source operation succeeds on the machine when it does on the sources. -/
theorem onSource_eq_ok {action : Proc σ PyErr α} {machine reached : Machine σ β}
    {value : α} (ran : onSource action machine = (.ok value, reached))
    : action machine.source = (.ok value, reached.source) := by
  rw [onSource_apply] at ran
  cases ran' : action machine.source with
  | mk outcome source =>
      rw [ran'] at ran
      cases ran
      rfl

@[simp]
theorem noteUse_apply (name : String) (machine : Machine σ β)
    : noteUse name machine
      = (.ok (), { machine with remaining := countedDown machine.remaining name }) :=
  rfl

/-- One use less of the name read, every other count as before; by cases on its entry. -/
theorem usesOf_countedDown (remaining : NameMap Nat) (name other : String)
    : usesOf (countedDown remaining name) other
      = if other = name then usesOf remaining other - 1 else usesOf remaining other := by
  unfold countedDown usesOf
  cases found : remaining.lookup name with
  | none =>
      by_cases same : other = name
      · subst same
        simp [found]
      · simp [same]
  | some uses =>
      by_cases same : other = name
      · subst same
        simp [found]
      · simp [same, AList.lookup_insert_ne same]

theorem takeLazy_of_lazy {region : LazyRegion β}
    (found : machine.bindings.lookup name = some (.lazy region))
    : takeLazy name machine
      = (.ok region, { machine with bindings := machine.bindings.erase name }) := by
  simp only [takeLazy, Proc.get_bind_apply, setBindings, Proc.modify_bind_apply, found]
  rfl

theorem takeSized_of_materialized {batches : β}
    (found : machine.bindings.lookup name = some (.materialized batches))
    : takeSized name machine
      = (.ok batches, { machine with bindings := machine.bindings.erase name }) := by
  simp only [takeSized, Proc.get_bind_apply, setBindings, Proc.modify_bind_apply, found]
  rfl

/-- The last reader of a resident binding takes it, an earlier one copies it. -/
theorem consumeMaterialized_of_materialized {batches : β}
    (found : machine.bindings.lookup name = some (.materialized batches))
    : consumeMaterialized name machine
      = (.ok batches,
          {
            machine with
            remaining := countedDown machine.remaining name
            bindings :=
              if 1 < usesOf machine.remaining name then machine.bindings
              else machine.bindings.erase name
          }) := by
  by_cases shared : 1 < usesOf machine.remaining name <;>
    simp [consumeMaterialized, Proc.bind_of_ok (noteUse_apply name machine), shared, found,
      takeMaterialized, setBindings]

/-- A spill that writes the relation points the name at what the file gives back. -/
theorem spillTo_of_ok {host : Host β} {batches file : β}
    (written : host.writeIpc batches = .ok file) (name : String) (machine : Machine σ β)
    : spillTo host name batches machine
      = (.ok (),
          {
            machine with
            files := machine.files ++ [batches]
            bindings :=
              machine.bindings.insert name
                (.spilled { file, bytes := host.batchesBytes batches })
          }) := by
  have ran
      : spillBinding host batches machine
        = (.ok { file, bytes := host.batchesBytes batches },
            { machine with files := machine.files ++ [batches] }) := by
    simp only [spillBinding, Proc.modify_bind_apply, written, liftDf_ok, Proc.pure_bind]
    rfl
  rw [spillTo, Proc.bind_of_ok ran]
  rfl

/-- A spill that cannot write fails; the relation was handed to a file all the same. -/
theorem spillTo_of_error {host : Host β} {batches : β} {failure : DfError}
    (written : host.writeIpc batches = .error failure) (name : String)
    (machine : Machine σ β)
    : spillTo host name batches machine
      = (.error failure.toPy, { machine with files := machine.files ++ [batches] }) := by
  have ran
      : spillBinding host batches machine
        = (.error failure.toPy, { machine with files := machine.files ++ [batches] }) := by
    simp only [spillBinding, Proc.modify_bind_apply, written, liftDf_error, Proc.fail_bind]
    rfl
  rw [spillTo, Proc.bind_of_error ran]

/-- Without a limit, nothing is ever past the budget. -/
theorem exceeds_unlimited {host : Host β} (unlimited : host.residentBindingsBudget = none)
    (bytes : Nat)
    : host.exceeds bytes = false := by
  simp [Host.exceeds, unlimited]

/-- Without a limit, storing a relation inserts it and does nothing else. -/
theorem storeRelation_unlimited (host : Host β)
    (unlimited : host.residentBindingsBudget = none) (name : String) (batches : β)
    (machine : Machine σ β)
    : storeRelation host name batches machine
      = (.ok (),
          { machine with bindings := machine.bindings.insert name (.materialized batches) }) := by
  have headroom
      : spillForHeadroom host (host.batchesBytes batches) machine = (.ok (), machine) := by
    simp only [spillForHeadroom, Proc.get_bind_apply]
    cases List.insertionSort (fun a b => b.2 ≤ a.2)
        (host.iterationOrder (residentSizes host machine.bindings)) with
    | nil => rfl
    | cons head rest =>
        simp only [spillInOrder, exceeds_unlimited unlimited, Bool.false_eq_true, if_false]
        rfl
  simp [storeRelation, Proc.bind_of_ok headroom, exceeds_unlimited unlimited]

end Equations

end Fedqrs
