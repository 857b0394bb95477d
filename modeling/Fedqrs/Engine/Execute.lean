import Fedqrs.Engine.Fragments
import Fedqrs.Engine.Probe

/-! The IR interpreter: the step loop over bindings, use counts and sources. -/

namespace Fedqrs

open EngineM

variable {σ β : Type}

/-- Everything a run works with besides its plan and its state. -/
structure Engine (σ β : Type) where
  host : Host β
  fusion : DataFusion β
  exprs : ExprServices
  connectors : Connectors σ β

/-- The names a step reads, one entry per read. -/
def Step.reads : Step → List String
  | .sourceScan _ _ _ _ => []
  | .ship _ input _ => [input]
  | .collectDistinct input _ _ _ => [input]
  | .injectedScan _ _ _ keysFrom _ _ extraInjections =>
      keysFrom :: extraInjections.map ExtraInjection.keysFrom
  | .merge _ inputs _ => inputs.entries.map (fun entry => entry.2)
  | .return input => [input]

/-- Count one read of a name. -/
def bump (counts : NameMap Nat) (name : String) : NameMap Nat :=
  counts.insert name (usesOf counts name + 1)

/-- How many times each binding is read across the whole plan. -/
def bindingUseCounts (ir : Ir) : NameMap Nat :=
  (ir.steps.flatMap Step.reads).foldl bump ∅

section Steps

variable [Fetched β] (engine : Engine σ β)

/-- The key sets of the extra injections, in order. -/
def extraKeys : List ExtraInjection → EngineM σ β (List (String × β))
  | [] => pure []
  | extra :: rest => do
      let keys ← keysBinding extra.keysFrom
      let others ← extraKeys rest
      pure ((extra.column, keys) :: others)

/-- Record the reads of several names. -/
def noteUses : List String → EngineM σ β Unit
  | [] => pure ()
  | name :: rest => do
      noteUse name
      noteUses rest

/-- Store a fragment's result; a relation (the guard's, or a duplicate-name projection's) is
stored like any other.
-/
def storeResult (name : String) : Binding β → EngineM σ β Unit
  | .materialized batches => storeRelation engine.host name batches
  | other => setBindings (fun bindings => bindings.insert name other)

/-- Interpret one step; a return step gives the result. -/
def runStep (ir : Ir) : Step → EngineM σ β (Option β)
  | .sourceScan datasource scan binding _ => do
      let batches ← onSource (fetchSource engine.exprs engine.connectors datasource scan)
      storeRelation engine.host binding batches
      pure none
  | .collectDistinct input key _ binding => do
      forceMaterialized engine.host engine.fusion input
      let keys ← collectDistinctFrom engine.fusion input key
      noteUse input
      setBindings (fun bindings => bindings.insert binding (.keys keys))
      pure none
  | .injectedScan datasource scan injectColumn keysFrom binding injectColumnNdv extras => do
      let keys ← keysBinding keysFrom
      let extraSets ← extraKeys extras
      let batches ←
        onSource
          (runInjectedScan engine.exprs engine.connectors datasource scan injectColumn keys
            injectColumnNdv extraSets)
      noteUses (keysFrom :: extras.map ExtraInjection.keysFrom)
      storeRelation engine.host binding batches
      pure none
  | .ship datasource input table => do
      forceMaterialized engine.host engine.fusion input
      let batches ← materialized input
      onSource (engine.connectors.shipTable datasource table batches)
      noteUse input
      pure none
  | .merge fragment inputs binding => do
      match ir.fragments.lookup fragment with
      | none => Proc.fail ("unknown fragment '" ++ fragment ++ "'")
      | some frag => do
          let result ← runFragment engine.fusion engine.host frag inputs
          storeResult engine binding result
          pure none
  | .return input => do
      forceMaterialized engine.host engine.fusion input
      let result ← «export» input
      pure (some result)

/-- The state a run starts in. -/
def Machine.start (ir : Ir) (source : σ) : Machine σ β :=
  { bindings := ∅, remaining := bindingUseCounts ir, files := [], source }

/-- The step loop, from the start state of the plan. -/
def runSteps (ir : Ir) (source : σ) : Except PyErr β × Machine σ β :=
  Proc.runUntil (runStep engine ir) "IR had no `return` step" ir.steps
    (Machine.start ir source)

/-- Interpret a plan. Shipments are cleared before the run and, by the guard, on every exit.
-/
def execute (ir : Ir) : Proc σ PyErr β := fun source =>
  let outcome := runSteps engine ir (engine.connectors.clearShipments source)
  (outcome.1, engine.connectors.clearShipments outcome.2.source)

end Steps

end Fedqrs
