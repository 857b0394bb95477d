import Fedqrs.Semantics.Naive

/-! Plans read one step at a time where a fragment has several possible results, as a LIMIT
without an order has: each step picks one result, and every reader of its name sees that one.
-/

namespace Fedqrs

variable {σ β : Type}

/-- What evaluating may give: a fragment over named tables, of which one that has no result may
still go unread, the rows that a guard's probe finds, and the keys of a relation.
-/
structure Evaluation (β : Type) where
  results : Fragment → List String → List (Option β) → β → Prop
  violations : List IrExpr → β → Nat
  distinctKeys : β → String → β → Prop

/-- What something turns out to be: what it gives, or nothing where it gives nothing. -/
def TurnsOut (gives : β → Prop) : Option β → Prop
  | some batches => gives batches
  | none => ∀ batches, ¬gives batches

namespace Evaluation

section Plans

variable (evaluation : Evaluation β)

mutual
/-- A composed plan may give what its fragment may give over what its inputs turn out to be. -/
def Gives : LogicalPlan β → β → Prop
  | .memTable batches, found => found = batches
  | .spillStream file, found => found = file
  | .fragment fragment names inputs, found =>
      ∃ tables, AllTurnOut inputs tables ∧ evaluation.results fragment names tables found

def AllTurnOut : List (LogicalPlan β) → List (Option β) → Prop
  | [], tables => tables = []
  | plan :: rest, tables =>
      ∃ outcome others, tables = outcome :: others ∧ TurnsOut (Gives plan) outcome
        ∧ AllTurnOut rest others
end

/-- A plan with at most one result. -/
def Settled (plan : LogicalPlan β) : Prop :=
  ∀ first second, evaluation.Gives plan first → evaluation.Gives plan second → first = second

end Plans

end Evaluation

/-- A guard executes its input twice, and SQL may name a table more than once. -/
def Fragment.rereads : Fragment → Bool
  | .singleRowGuard _ | .rawSql _ => true
  | .hashJoin _ _ _ _ | .nestedLoopJoin _ _ _ | .project _ _ | .aggregate _ _ _ | .sort _
  | .filter _ | .limit _ _ =>
      false

/-- What may be read more than once in a plan has at most one result. -/
inductive Evaluation.Steady (evaluation : Evaluation β) : LogicalPlan β → Prop
  | memTable (batches : β) : evaluation.Steady (.memTable batches)
  | spillStream (file : β) : evaluation.Steady (.spillStream file)
  | fragment {fragment names inputs} (each : ∀ input ∈ inputs, evaluation.Steady input)
    (settled : fragment.rereads = true → ∀ input ∈ inputs, evaluation.Settled input)
    : evaluation.Steady (.fragment fragment names inputs)

/-- What DataFusion collects from a steady plan is one of its results, and so is what a guard's
probe sees; a spill file gives back what was written. A guard gives an input in which its probe
finds nothing.
-/
structure Evaluation.Explains (evaluation : Evaluation β) (host : Host β)
    (fusion : DataFusion β)
    : Prop where
  executeRegion : ∀ {plan spillable batches}, evaluation.Steady plan
    → fusion.executeRegion plan spillable = .ok batches → evaluation.Gives plan batches
  projectDataframeDedup : ∀ {plan batches}, evaluation.Steady plan
    → fusion.projectDataframeDedup plan = .ok batches → evaluation.Gives plan batches
  guardViolations : ∀ {keys ctx violations}, (∀ table ∈ ctx, evaluation.Steady table.2)
    → fusion.guardViolations keys ctx = .ok violations
    → ∃ plan seen, ctx.lookup "in_0" = some plan ∧ evaluation.Gives plan seen
        ∧ evaluation.violations keys seen = violations
  collectInput : ∀ {ctx batches}, (∀ table ∈ ctx, evaluation.Steady table.2)
    → fusion.collectTable ctx "in_0" = .ok batches
    → ∃ plan, ctx.lookup "in_0" = some plan ∧ evaluation.Gives plan batches
  singleRowGuard : ∀ {keys names tables batches},
    (names.zip tables).lookup "in_0" = some (some batches)
    → evaluation.violations keys batches = 0
    → evaluation.results (.singleRowGuard keys) names tables batches
  collectTable : ∀ {batches key keys},
    fusion.collectDistinct (.memTable batches) key = .ok keys
      → evaluation.distinctKeys batches key keys
  collectFile : ∀ {file key keys}, fusion.collectDistinct (.spillStream file) key = .ok keys
    → evaluation.distinctKeys file key keys
  writeIpc : ∀ {batches file}, host.writeIpc batches = .ok file → file = batches

section Steps

variable (engine : Engine σ β) (evaluation : Evaluation β) (ir : Ir)

/-- What a guard or an SQL text registers has at most one result each: what is stored, or a view
of a settled region.
-/
def RereadsSettled (machine : Machine σ β) : Step → Prop
  | .merge name inputs _ =>
      ∀ fragment, ir.fragments.lookup name = some fragment → fragment.rereads = true
        → ∀ ctx inputBytes reached,
            registerInputs engine.host engine.fusion
                (inputs.entries.map (fun entry => (entry.1, entry.2))) [] 0 machine
              = (.ok (ctx, inputBytes), reached)
              → ∀ table ∈ ctx, evaluation.Settled table.2
  | .sourceScan _ _ _ _ | .collectDistinct _ _ _ _ | .injectedScan _ _ _ _ _ _ _ | .ship _ _ _
  | .return _ =>
      True

/-- The names a merge reads stand for these tables, or for nothing where a table is missing. -/
def NaiveState.Holds (state : NaiveState σ β) (inputs : NameMap String)
    (tables : List (Option β))
    : Prop :=
  List.Forall₂ (fun entry table => state.values.lookup entry.2 = table.map Value.relation)
    (inputs.entries.map (fun entry => (entry.1, entry.2))) tables

/-- One step, taken at once. A merge whose fragment has no result leaves its name unbound, so
that only a plan that reads it is stuck.
-/
inductive MayStep [Fetched β] : Step → NaiveState σ β → NaiveState σ β → Prop
  | sourceScan {state datasource scan binding materialize batches source}
    (ran : fetchSource engine.exprs engine.connectors datasource scan state.source
      = (.ok batches, source))
    : MayStep (.sourceScan datasource scan binding materialize) state
        { values := state.values.insert binding (.relation batches), source }
  | collectDistinct {state input key cap binding batches keys}
    (found : state.values.lookup input = some (.relation batches))
    (collected : evaluation.distinctKeys batches key keys)
    : MayStep (.collectDistinct input key cap binding) state
        { state with values := state.values.insert binding (.keys keys) }
  | injectedScan {state datasource scan injectColumn keysFrom binding ndv extras keys extraSets
      batches source}
    (found : state.values.lookup keysFrom = some (.keys keys))
    (others
      : List.Forall₂ (fun extra set => set.1 = extra.column
            ∧ state.values.lookup extra.keysFrom = some (.keys set.2))
          extras extraSets)
    (ran
      : runInjectedScan engine.exprs engine.connectors datasource scan injectColumn keys ndv
            extraSets state.source
        = (.ok batches, source))
    : MayStep (.injectedScan datasource scan injectColumn keysFrom binding ndv extras) state
        { values := state.values.insert binding (.relation batches), source }
  | ship {state datasource input table batches source}
    (found : state.values.lookup input = some (.relation batches))
    (ran : engine.connectors.shipTable datasource table batches state.source = (.ok (), source))
    : MayStep (.ship datasource input table) state { state with source }
  | merge {state name fragment inputs binding tables batches}
    (planned : ir.fragments.lookup name = some fragment) (holds : state.Holds inputs tables)
    (result
      : evaluation.results fragment (inputs.entries.map (fun entry => entry.1)) tables batches)
    : MayStep (.merge name inputs binding) state
        { state with values := state.values.insert binding (.relation batches) }
  | stuck {state name fragment inputs binding}
    (planned : ir.fragments.lookup name = some fragment)
    (none
      : ∀ tables batches, state.Holds inputs tables
          → ¬evaluation.results fragment (inputs.entries.map (fun entry => entry.1)) tables
            batches)
    : MayStep (.merge name inputs binding) state
        { state with values := state.values.erase binding }

/-- The steps, taken in order up to the first return, may return a relation. -/
inductive MayReturn [Fetched β] : List Step → NaiveState σ β → β → NaiveState σ β → Prop
  | «return» {state input rest batches}
    (found : state.values.lookup input = some (.relation batches))
    : MayReturn (.return input :: rest) state batches state
  | next {step rest state reached batches last}
    (steps : MayStep engine evaluation ir step state reached)
    (later : MayReturn rest reached batches last)
    : MayReturn (step :: rest) state batches last

end Steps

end Fedqrs
