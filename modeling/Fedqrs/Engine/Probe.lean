import Fedqrs.Connectors.Interface

/-! Source reads of the engine: plain scans, and the probe scan that build keys reduce with
the cheapest delivery for their number and selectivity.
-/

namespace Fedqrs

variable {σ β : Type}

def inCap : Nat := 2000

def fullScanFraction : Float := 0.40

def pgFullScanFraction : Float := 0.15

def duckTempCap : Nat := 2000000

def parallelPartitions : Nat := 8

def dynKeysTempTable : String := "fedq_dyn_keys"

/-- A DataFusion result in a source read, its error shown as the Python exception. -/
def liftSql {α : Type} (result : Except DfError α) : Proc σ PyErr α :=
  Proc.lift (result.mapError DfError.toPy)

section Reads

variable (df : ExprServices) (connectors : Connectors σ β)

/-- Render a scan to SQL and fetch it. -/
def fetchScan (datasource : String) (scan : ScanSpec) (extraFilter : Option Expr)
    : Proc σ PyErr β := do
  let kind ← connectors.kind datasource
  let sql ← liftSql (scanSql df kind scan extraFilter)
  connectors.fetch datasource sql

/-- The page-partitioned full scan of a structured table: base predicate only. -/
def parallelProbeScan (datasource : String) (scan : ScanSpec) : Proc σ PyErr β := do
  let kind ← connectors.kind datasource
  match scan.table with
  | none => Proc.fail "parallel scan needs a structured table"
  | some table => do
      let whereClause ← liftSql (baseFilterSql df kind scan)
      connectors.fetchParallel datasource (tableRef scan table) (selectListSql scan)
        parallelPartitions whereClause

/-- A `parallel` spec must be a plain structured Postgres table read. -/
def requireParallelizable (datasource : String) (scan : ScanSpec) : Proc σ PyErr Unit := do
  let kind ← connectors.kind datasource
  if kind = .postgres ∧ scan.table.isSome ∧ scan.distinct = false ∧ scan.limit.isNone then
    pure ()
  else
    Proc.fail "parallel scan spec is not a plain Postgres table read"

/-- A plain source read. -/
def fetchSource (datasource : String) (scan : ScanSpec) : Proc σ PyErr β :=
  if scan.parallel then do
    requireParallelizable connectors datasource scan
    parallelProbeScan df connectors datasource scan
  else
    fetchScan df connectors datasource scan none

/-- The probe read when the dynamic filter would select most of the table. -/
def unselectiveProbeScan (kind : DsKind) (datasource : String) (scan : ScanSpec)
    : Proc σ PyErr β :=
  if kind = .postgres then
    parallelProbeScan df connectors datasource scan
  else
    fetchScan df connectors datasource scan none

end Reads

section Keys

variable [Fetched β]

/-- `injectColumn IN (v1, v2, ...)` from the collected key values. -/
def inListFilter (keys : β) (injectColumn : String) : Except DfError Expr := do
  let values ← Fetched.keyValues keys
  pure (.inList (.column none injectColumn) (values.map Expr.literal) false)

/-- `left AND right?`. -/
def andOption (left : Expr) : Option Expr → Expr
  | some other => left.and other
  | none => left

/-- AND of every extra key set as an IN list; empty and over-cap sets are skipped. -/
def extrasInFilter : List (String × β) → Option Expr → Except DfError (Option Expr)
  | [], combined => .ok combined
  | (column, keys) :: rest, combined =>
      let count := Fetched.numRows keys
      if count = 0 ∨ inCap ≤ count then
        extrasInFilter rest combined
      else do
        let filter ← inListFilter keys column
        extrasInFilter rest (some (andOption filter combined))

variable (df : ExprServices) (connectors : Connectors σ β)

/-- Whether the keys are estimated to select more than the source's full-scan fraction. -/
def fetchesMostOfTable (datasource : String) (scan : ScanSpec) (injectColumn : String)
    (numKeys : Nat) (injectColumnNdv : Option Nat)
    : Proc σ PyErr Bool :=
  match scan.table with
  | none => Proc.fail "injected scan needs a structured table"
  | some table => do
      let kind ← connectors.kind datasource
      let threshold := match kind with
        | .postgres => pgFullScanFraction
        | _ => fullScanFraction
      match injectColumnNdv.filter (0 < ·) with
      | some ndv => pure (decide (numKeys.toFloat / ndv.toFloat > threshold))
      | none => do
          let fraction ←
            connectors.estimateSelectivity datasource scan.schema table injectColumn numKeys
          pure
            (match fraction with
            | some f => decide (f > threshold)
            | none => false)

/-- Ingest the keys into a temp table and semi-join them at the source. A prerendered
island text is used as it is.
-/
def tempTableProbe (datasource : String) (scan : ScanSpec) (keys : β)
    (injectColumn : String)
    : Proc σ PyErr β := do
  let kind ← connectors.kind datasource
  let keyCol := Fetched.keyName keys
  let sql ←
    match scan.injectedSql with
    | some prerendered => pure (.raw prerendered)
    | none => liftSql (tempJoinSql df kind scan dynKeysTempTable keyCol injectColumn)
  connectors.fetchTempJoin datasource dynKeysTempTable keys sql

/-- The catalog guard of an unindexed Postgres probe. -/
def unindexedPostgres (kind : DsKind) (datasource : String) (scan : ScanSpec)
    (injectColumn : String)
    : Proc σ PyErr Bool :=
  match kind, scan.table with
  | .postgres, some table => do
      let indexed ← connectors.columnHasIndex datasource scan.schema table injectColumn
      pure (!indexed)
  | _, _ => pure false

/-- The selectivity guard, which only a structured probe has. -/
def unselective (datasource : String) (scan : ScanSpec) (injectColumn : String)
    (numKeys : Nat) (injectColumnNdv : Option Nat)
    : Proc σ PyErr Bool :=
  if scan.table.isSome then
    fetchesMostOfTable connectors datasource scan injectColumn numKeys injectColumnNdv
  else
    pure false

/-- Read the probe, reducing it by the build keys. -/
def runInjectedScan (datasource : String) (scan : ScanSpec) (injectColumn : String)
    (keys : β) (injectColumnNdv : Option Nat) (extras : List (String × β))
    : Proc σ PyErr β := do
  let numKeys := Fetched.numRows keys
  let extraFilter ← liftSql (extrasInFilter extras none)
  if numKeys = 0 then
    fetchScan df connectors datasource scan (some (.lit false))
  else if numKeys < inCap ∧ scan.injectedSql.isNone then do
    let filter ← liftSql (inListFilter keys injectColumn)
    fetchScan df connectors datasource scan (some (andOption filter extraFilter))
  else do
    let kind ← connectors.kind datasource
    if kind = .parquet then
      fetchScan df connectors datasource scan extraFilter
    else if kind = .duckDb ∧ (duckTempCap < numKeys ∨ duckCanIngest keys = false) then
      fetchScan df connectors datasource scan extraFilter
    else do
      let unindexed ← unindexedPostgres connectors kind datasource scan injectColumn
      if unindexed then
        unselectiveProbeScan df connectors kind datasource scan
      else do
        let most ← unselective connectors datasource scan injectColumn numKeys injectColumnNdv
        if most then
          unselectiveProbeScan df connectors kind datasource scan
        else
          tempTableProbe df connectors datasource scan keys injectColumn

-----------------------------------------------------------------------------------------
-- The choice of the delivery, and the delivery
-----------------------------------------------------------------------------------------

/-- How the probe is read: with an extra predicate, in page ranges, or semi-joined with a
table of the keys.
-/
inductive Delivery
  | filtered (extraFilter : Option Expr)
  | parallel
  | tempTable

/-- The whole read of a probe that is not reduced. -/
def Delivery.whole (kind : DsKind) : Delivery :=
  if kind = .postgres then .parallel else .filtered none

/-- The delivery that the probe read chooses. -/
def chooseDelivery (datasource : String) (scan : ScanSpec) (injectColumn : String)
    (keys : β) (injectColumnNdv : Option Nat) (extras : List (String × β))
    : Proc σ PyErr Delivery := do
  let numKeys := Fetched.numRows keys
  let extraFilter ← liftSql (extrasInFilter extras none)
  if numKeys = 0 then
    pure (.filtered (some (.lit false)))
  else if numKeys < inCap ∧ scan.injectedSql.isNone then do
    let filter ← liftSql (inListFilter keys injectColumn)
    pure (.filtered (some (andOption filter extraFilter)))
  else do
    let kind ← connectors.kind datasource
    if kind = .parquet then
      pure (.filtered extraFilter)
    else if kind = .duckDb ∧ (duckTempCap < numKeys ∨ duckCanIngest keys = false) then
      pure (.filtered extraFilter)
    else do
      let unindexed ← unindexedPostgres connectors kind datasource scan injectColumn
      if unindexed then
        pure (.whole kind)
      else do
        let most ← unselective connectors datasource scan injectColumn numKeys injectColumnNdv
        if most then
          pure (.whole kind)
        else
          pure .tempTable

/-- Read the probe in the chosen way. -/
def deliver (datasource : String) (scan : ScanSpec) (injectColumn : String) (keys : β)
    : Delivery → Proc σ PyErr β
  | .filtered extraFilter => fetchScan df connectors datasource scan extraFilter
  | .parallel => parallelProbeScan df connectors datasource scan
  | .tempTable => tempTableProbe df connectors datasource scan keys injectColumn

/-- A whole read is delivered as the unselective probe is. -/
theorem deliver_whole (kind : DsKind) (datasource : String) (scan : ScanSpec)
    (injectColumn : String) (keys : β)
    : deliver df connectors datasource scan injectColumn keys (.whole kind)
      = unselectiveProbeScan df connectors kind datasource scan := by
  by_cases postgres : kind = .postgres <;>
    simp [Delivery.whole, unselectiveProbeScan, deliver, postgres]

/-- The probe read is its choice followed by the delivery; by cases on each decision. -/
theorem runInjectedScan_eq (datasource : String) (scan : ScanSpec) (injectColumn : String)
    (keys : β) (injectColumnNdv : Option Nat) (extras : List (String × β))
    : runInjectedScan df connectors datasource scan injectColumn keys injectColumnNdv extras
      = chooseDelivery connectors datasource scan injectColumn keys injectColumnNdv extras
        >>= deliver df connectors datasource scan injectColumn keys := by
  simp only [runInjectedScan, chooseDelivery, Proc.bind_assoc]
  refine Proc.bind_congr (fun extraFilter => ?_)
  split_ifs
  · rfl
  · simp only [Proc.bind_assoc]
    rfl
  · simp only [Proc.bind_assoc]
    refine Proc.bind_congr (fun kind => ?_)
    split_ifs
    · rfl
    · rfl
    · simp only [Proc.bind_assoc]
      refine Proc.bind_congr (fun unindexed => ?_)
      cases unindexed with
      | true => exact (deliver_whole df connectors kind datasource scan injectColumn keys).symm
      | false =>
          simp only [Bool.false_eq_true, if_false, Proc.bind_assoc]
          refine Proc.bind_congr (fun most => ?_)
          cases most with
          | true => exact (deliver_whole df connectors kind datasource scan injectColumn keys).symm
          | false => rfl

end Keys

end Fedqrs
