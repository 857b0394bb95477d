import Fedqrs.Engine.Execute

/-! The naive interpreter: every fragment is evaluated at once, over tables of its inputs, and
every binding is kept for good; a later write to a name replaces it.
-/

namespace Fedqrs

variable {σ β R : Type}

/-- What a name stands for: a relation, or a set of keys. -/
inductive Value (β : Type)
  | relation (batches : β)
  | keys (batches : β)

/-- The values written so far and the state of the sources. -/
structure NaiveState (σ β : Type) where
  values : NameMap (Value β)
  source : σ

abbrev NaiveM (σ β α : Type) : Type := Proc (NaiveState σ β) PyErr α

namespace Naive

/-- The relation a name stands for. -/
def relation (name : String) : NaiveM σ β β := do
  let state ← Proc.get
  match state.values.lookup name with
  | some (.relation batches) => pure batches
  | _ => Proc.fail ("binding '" ++ name ++ "' is not a relation")

/-- The keys a name stands for. -/
def keys (name : String) : NaiveM σ β β := do
  let state ← Proc.get
  match state.values.lookup name with
  | some (.keys batches) => pure batches
  | _ => Proc.fail ("binding '" ++ name ++ "' does not hold distinct keys")

def write (name : String) (value : Value β) : NaiveM σ β Unit :=
  Proc.modify (fun state => { state with values := state.values.insert name value })

def onSource {α : Type} (action : Proc σ PyErr α) : NaiveM σ β α :=
  Proc.zoom NaiveState.source (fun source state => { state with source }) action

section Operators

variable (fusion : DataFusion β)

/-- Register every input as a table of its relation. -/
def registerInputs : List (String × String) → Context β → NaiveM σ β (Context β)
  | [], ctx => pure ctx
  | (tableName, name) :: rest, ctx => do
      let batches ← relation name
      liftSql (fusion.memTable batches)
      liftSql (fusion.registerTable (ctx.map Prod.fst) tableName)
      registerInputs rest (ctx ++ [(tableName, .memTable batches)])

/-- Evaluate a fragment at once. -/
def evaluate (fragment : Fragment) (ctx : Context β) : Except DfError β := do
  let binding ← composeFragment fusion fragment ctx 0
  match binding with
  | .materialized batches => pure batches
  | .lazy region => executeWithRetry fusion region
  | .keys _ | .spilled _ => .error (.plan "not a fragment's result")

/-- DISTINCT of one key column over the table of a relation. -/
def collectDistinct (batches : β) (key : String) : Except DfError β := do
  fusion.memTable batches
  fusion.collectDistinct (.memTable batches) key

end Operators

/-- The key sets of the extra injections, in order. -/
def extraKeys : List ExtraInjection → NaiveM σ β (List (String × β))
  | [] => pure []
  | extra :: rest => do
      let batches ← keys extra.keysFrom
      let others ← extraKeys rest
      pure ((extra.column, batches) :: others)

section Steps

variable [Fetched β] (engine : Engine σ β)

/-- Interpret one step. -/
def runStep (ir : Ir) : Step → NaiveM σ β (Option β)
  | .sourceScan datasource scan binding _ => do
      let batches ← onSource (fetchSource engine.exprs engine.connectors datasource scan)
      write binding (.relation batches)
      pure none
  | .collectDistinct input key _ binding => do
      let batches ← relation input
      let distinct ← liftSql (collectDistinct engine.fusion batches key)
      write binding (.keys distinct)
      pure none
  | .injectedScan datasource scan injectColumn keysFrom binding injectColumnNdv extras => do
      let injected ← keys keysFrom
      let extraSets ← extraKeys extras
      let batches ←
        onSource
          (runInjectedScan engine.exprs engine.connectors datasource scan injectColumn
            injected injectColumnNdv extraSets)
      write binding (.relation batches)
      pure none
  | .ship datasource input table => do
      let batches ← relation input
      onSource (engine.connectors.shipTable datasource table batches)
      pure none
  | .merge fragment inputs binding => do
      match ir.fragments.lookup fragment with
      | none => Proc.fail ("unknown fragment '" ++ fragment ++ "'")
      | some frag => do
          let ctx ←
            registerInputs engine.fusion
              (inputs.entries.map (fun entry => (entry.1, entry.2))) []
          let batches ← liftSql (evaluate engine.fusion frag ctx)
          write binding (.relation batches)
          pure none
  | .return input => do
      let batches ← relation input
      pure (some batches)

def start (source : σ) : NaiveState σ β := { values := ∅, source }

/-- Run the steps in order until one returns. -/
def execute (ir : Ir) (source : σ) : Except PyErr β × NaiveState σ β :=
  Proc.runUntil (runStep engine ir) "IR had no `return` step" ir.steps
    (start (engine.connectors.clearShipments source))

end Steps

end Naive

-----------------------------------------------------------------------------------------
-- Operators as functions of rows
-----------------------------------------------------------------------------------------

section Meaning

variable (fusion : DataFusion β) (rows : β → R)
  (op : Fragment → List String → List R → Option R)

/-- The rows of a relation that can be registered as a table. -/
def tableRows (batches : β) : Option R :=
  match fusion.memTable batches with
  | .ok _ => some (rows batches)
  | .error _ => none

mutual
/-- The rows a composed plan denotes, given what each fragment does to rows. -/
def LogicalPlan.denote : LogicalPlan β → Option R
  | .memTable batches => tableRows fusion rows batches
  | .spillStream file => tableRows fusion rows file
  | .fragment fragment names inputs => (denoteAll inputs).bind (op fragment names)

def denoteAll : List (LogicalPlan β) → Option (List R)
  | [] => some []
  | plan :: rest =>
      plan.denote.bind (fun head => (denoteAll rest).map (head :: ·))
end

/-- Two contexts with the same tables by name, each denoting the same rows. -/
def SameTables (left right : Context β) : Prop :=
  List.Forall₂ (fun a b => a.1 = b.1
    ∧ ∃ table, a.2.denote fusion rows op = some table
      ∧ b.2.denote fusion rows op = some table) left right

end Meaning

/-- The outcome, unless the memory pool is exhausted, is a success with that property. -/
def UnlessExhausted {α : Type} (holds : α → Prop) : Except DfError α → Prop
  | .ok value => holds value
  | .error failure => ∃ message, failure = .resourcesExhausted message

/-- DataFusion's operators are functions of the rows of their inputs: `op` says what a
fragment does to rows, a composed plan is executed to the rows it denotes, and what one
context admits any context with the same rows does, unless the memory pool is exhausted.
-/
structure RowOperators (fusion : DataFusion β) (rows : β → R)
    (op : Fragment → List String → List R → Option R)
    : Prop where
  executed : ∀ {fragment names inputs tables spillable batches},
    denoteAll fusion rows op inputs = some tables
      → fusion.executeRegion (.fragment fragment names inputs) spillable = .ok batches
      → op fragment names tables = some (rows batches)
  executes : ∀ {fragment names inputs tables spillable table},
    denoteAll fusion rows op inputs = some tables → op fragment names tables = some table
      → UnlessExhausted (fun batches => rows batches = table)
          (fusion.executeRegion (.fragment fragment names inputs) spillable)
  compose : ∀ {fragment left right}, SameTables fusion rows op left right
    → fusion.compose fragment left = .ok () → fusion.compose fragment right = .ok ()
  projectDataframeDedup : ∀ {fragment left right batches},
    SameTables fusion rows op left right
      → fusion.projectDataframeDedup (composedPlan fragment left) = .ok batches
      → UnlessExhausted (fun other => rows other = rows batches)
          (fusion.projectDataframeDedup (composedPlan fragment right))
  guardViolations : ∀ {keys left right count}, SameTables fusion rows op left right
    → fusion.guardViolations keys left = .ok count
    → UnlessExhausted (fun other => other = count) (fusion.guardViolations keys right)
  collectTable : ∀ {name left right batches}, SameTables fusion rows op left right
    → fusion.collectTable left name = .ok batches
    → UnlessExhausted (fun other => rows other = rows batches)
        (fusion.collectTable right name)
  collectDistinct : ∀ {key left right keys}, rows left = rows right
    → fusion.collectDistinct (.memTable left) key = .ok keys
    → UnlessExhausted (fun other => rows other = rows keys)
        (fusion.collectDistinct (.memTable right) key)

end Fedqrs
