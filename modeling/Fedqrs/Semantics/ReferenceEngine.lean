import Fedqrs.Connectors.Native
import Fedqrs.Engine.Execute
import Fedqrs.Semantics.Reference

/-! An engine for small runs: it has room for every relation, and collects a stored relation
as it is.
-/

namespace Fedqrs

theorem keptOrder_perm (sized : List (String × Nat)) : sized.Perm sized := List.Perm.refl sized

/-- A host with room for every relation. -/
def roomyHost : Host Batches where
  batchesBytes _ := 0
  residentBindingsBudget := none
  iterationOrder sized := sized
  iterationOrder_perm := keptOrder_perm
  writeIpc := .ok

/-- A stored relation, as a plan that reads it. -/
def LogicalPlan.stored : LogicalPlan Batches → Except DfError Batches
  | .memTable batches => .ok batches
  | .spillStream file => .ok file
  | .fragment _ _ _ => .error (.plan "not a stored relation")

/-- A local engine that only reads stored relations back. -/
def storedFusion : DataFusion Batches where
  memTable _ := .ok ()
  schemaDiffs _ := none
  registerTable _ _ := .ok ()
  compose _ _ := .ok ()
  executeRegion plan _ := plan.stored
  projectDataframeDedup := LogicalPlan.stored
  collectDistinct plan _ := plan.stored
  guardViolations _ _ := .ok 0
  collectTable ctx name :=
    match ctx.lookup name with
    | some plan => plan.stored
    | none => .error (.plan ("no table named '" ++ name ++ "'"))

/-- The engine over native drivers. -/
def referenceEngine (drivers : Drivers) : Engine Sources Batches where
  host := roomyHost
  fusion := storedFusion
  exprs := formExprs
  connectors := nativeConnectors drivers (fun _ => "")

/-- The meaning of texts that name the table they read. -/
def tableMeaning : SqlMeaning :=
  intMeaning (fun catalog temps name =>
    (resolveTable catalog temps none name).getD { columns := [], tuples := [] })

/-- Drivers of a source whose texts name the table they read. -/
def tableDrivers : Drivers := tableMeaning.drivers (fun _ => intBatches "v" [])

end Fedqrs
