import Fedqrs.Engine.Execute

/-! The engine is uniform in its connectors: it learns of the sources only what the connectors'
calls answer, so that connectors that answer alike, whatever their states, give runs that end
alike.
-/

namespace Fedqrs

open EngineM

variable {σ τ β α γ : Type}

/-- Two machines that differ only in their sources, which are related. -/
structure Twin (related : σ → τ → Prop) (left : Machine σ β) (right : Machine τ β) : Prop where
  bindings : left.bindings = right.bindings
  remaining : left.remaining = right.remaining
  files : left.files = right.files
  source : related left.source right.source

/-- From twin machines both computations end with related values, or with the same failure, on
twin machines.
-/
abbrev Twinned (related : σ → τ → Prop) (values : α → γ → Prop) (left : EngineM σ β α)
    (right : EngineM τ β γ)
    : Prop :=
  Proc.Lockstep (Twin related) (Twin related) values left right

-----------------------------------------------------------------------------------------
-- Computations on the bindings
-----------------------------------------------------------------------------------------

section Bindings

variable {related : σ → τ → Prop}

theorem twinned_fail (failure : PyErr)
    : Twinned related Eq (Proc.fail failure : EngineM σ β α) (Proc.fail failure) :=
  Proc.Lockstep.fail (fun _ _ twin => twin) failure

theorem twinned_liftDf (result : Except DfError α)
    : Twinned related Eq (liftDf result : EngineM σ β α) (liftDf result) := by
  cases result with
  | ok value => exact Proc.Lockstep.pure rfl
  | error failure => exact twinned_fail _

theorem twinned_setBindings (change : Bindings β → Bindings β)
    : Twinned related Eq (setBindings change) (setBindings change) := by
  refine Proc.Lockstep.modify ?_
  rintro left right ⟨bindings, remaining, files, source⟩
  exact ⟨congrArg change bindings, remaining, files, source⟩

/-- Both read the same bindings and use counts. -/
theorem twinned_get {next : Machine σ β → EngineM σ β α} {other : Machine τ β → EngineM τ β γ}
    {values : α → γ → Prop}
    (tail : ∀ left right, Twin related left right
      → Twinned related values (next left) (other right))
    : Twinned related values (Proc.get >>= next) (Proc.get >>= other) :=
  fun left right twin => tail left right twin left right twin

/-- Sequencing after an equal value. -/
theorem twinned_bind {left : EngineM σ β α} {right : EngineM τ β α} {next : α → EngineM σ β γ}
    {δ : Type} {other : α → EngineM τ β δ} {values : γ → δ → Prop}
    (head : Twinned related Eq left right)
    (tail : ∀ value, Twinned related values (next value) (other value))
    : Twinned related values (left >>= next) (right >>= other) := by
  refine head.bind ?_
  rintro value _ rfl
  exact tail value

theorem twinned_noteUse (name : String)
    : Twinned related Eq (noteUse name : EngineM σ β Unit) (noteUse name) := by
  refine Proc.Lockstep.modify ?_
  rintro left right ⟨bindings, remaining, files, source⟩
  exact ⟨bindings, congrArg (countedDown · name) remaining, files, source⟩

theorem twinned_spillTo (host : Host β) (name : String) (batches : β)
    : Twinned related Eq (spillTo host name batches : EngineM σ β Unit)
        (spillTo host name batches) := by
  unfold spillTo spillBinding
  refine twinned_bind (twinned_bind ?_ ?_) (fun spilled => twinned_setBindings _)
  · refine Proc.Lockstep.modify ?_
    rintro left right ⟨bindings, remaining, files, source⟩
    exact ⟨bindings, remaining, congrArg (· ++ [batches]) files, source⟩
  · intro _
    exact twinned_bind (twinned_liftDf _) (fun file => Proc.Lockstep.pure rfl)

theorem twinned_takeSized (name : String)
    : Twinned related Eq (takeSized name : EngineM σ β β) (takeSized name) := by
  refine twinned_get ?_
  rintro left right ⟨bindings, _, _, _⟩
  refine twinned_bind (twinned_setBindings _) (fun _ => ?_)
  rw [bindings]
  cases right.bindings.lookup name with
  | none => exact twinned_fail _
  | some binding =>
      cases binding with
      | materialized batches => exact Proc.Lockstep.pure rfl
      | keys | lazy | spilled => exact twinned_fail _

/-- By induction over the sizes. -/
theorem twinned_spillInOrder (host : Host β) (incoming : Nat) (sized : List (String × Nat))
    (resident : Nat)
    : Twinned related Eq (spillInOrder host incoming sized resident : EngineM σ β Unit)
        (spillInOrder host incoming sized resident) := by
  induction sized generalizing resident with
  | nil => exact Proc.Lockstep.pure rfl
  | cons entry rest ih =>
      unfold spillInOrder
      split
      · refine twinned_bind (twinned_takeSized _) (fun taken => ?_)
        exact twinned_bind (twinned_spillTo host _ taken) (fun _ => ih _)
      · exact Proc.Lockstep.pure rfl

theorem twinned_storeRelation (host : Host β) (name : String) (batches : β)
    : Twinned related Eq (storeRelation host name batches : EngineM σ β Unit)
        (storeRelation host name batches) := by
  unfold storeRelation spillForHeadroom
  refine twinned_bind ?_ (fun _ => ?_)
  · refine twinned_get ?_
    rintro left right ⟨bindings, _, _, _⟩
    rw [bindings]
    exact twinned_spillInOrder host _ _ _
  · split
    · exact twinned_spillTo host name batches
    · exact twinned_setBindings _

theorem twinned_takeLazy (name : String)
    : Twinned related Eq (takeLazy name : EngineM σ β (LazyRegion β)) (takeLazy name) := by
  refine twinned_get ?_
  rintro left right ⟨bindings, _, _, _⟩
  refine twinned_bind (twinned_setBindings _) (fun _ => ?_)
  rw [bindings]
  cases right.bindings.lookup name with
  | none => exact twinned_liftDf _
  | some binding =>
      cases binding with
      | lazy region => exact Proc.Lockstep.pure rfl
      | materialized | keys | spilled =>
          exact twinned_bind (twinned_setBindings _) (fun _ => twinned_liftDf _)

theorem twinned_takeMaterialized (name : String)
    : Twinned related Eq (takeMaterialized name : EngineM σ β β) (takeMaterialized name) := by
  refine twinned_get ?_
  rintro left right ⟨bindings, _, _, _⟩
  refine twinned_bind (twinned_setBindings _) (fun _ => ?_)
  rw [bindings]
  cases right.bindings.lookup name with
  | none => exact twinned_liftDf _
  | some binding =>
      cases binding with
      | materialized batches => exact Proc.Lockstep.pure rfl
      | lazy | keys | spilled => exact twinned_liftDf _

theorem twinned_consumeMaterialized (name : String)
    : Twinned related Eq (consumeMaterialized name : EngineM σ β β)
        (consumeMaterialized name) := by
  refine twinned_get ?_
  rintro left right ⟨bindings, remaining, _, _⟩
  refine twinned_bind (twinned_noteUse name) (fun _ => ?_)
  rw [bindings, remaining]
  split
  · cases right.bindings.lookup name with
    | none => exact twinned_liftDf _
    | some binding =>
        cases binding with
        | materialized batches => exact Proc.Lockstep.pure rfl
        | lazy | keys | spilled => exact twinned_liftDf _
  · exact twinned_takeMaterialized name

theorem twinned_materialized (name : String)
    : Twinned related Eq (materialized name : EngineM σ β β) (materialized name) := by
  refine twinned_get ?_
  rintro left right ⟨bindings, _, _, _⟩
  rw [bindings]
  cases right.bindings.lookup name with
  | none => exact twinned_fail _
  | some binding =>
      cases binding with
      | materialized batches => exact Proc.Lockstep.pure rfl
      | lazy | keys | spilled => exact twinned_fail _

theorem twinned_keysBinding (keysFrom : String)
    : Twinned related Eq (keysBinding keysFrom : EngineM σ β β) (keysBinding keysFrom) := by
  refine twinned_get ?_
  rintro left right ⟨bindings, _, _, _⟩
  rw [bindings]
  cases right.bindings.lookup keysFrom with
  | none => exact twinned_fail _
  | some binding =>
      cases binding with
      | keys batches => exact Proc.Lockstep.pure rfl
      | lazy | materialized | spilled => exact twinned_fail _

theorem twinned_export (input : String)
    : Twinned related Eq («export» input : EngineM σ β β) («export» input) := by
  refine twinned_get ?_
  rintro left right ⟨bindings, _, _, _⟩
  refine twinned_bind (twinned_setBindings _) (fun _ => ?_)
  rw [bindings]
  cases right.bindings.lookup input with
  | none => exact twinned_fail _
  | some binding =>
      cases binding with
      | materialized | spilled => exact Proc.Lockstep.pure rfl
      | lazy | keys => exact twinned_fail _

end Bindings

-----------------------------------------------------------------------------------------
-- Fragments
-----------------------------------------------------------------------------------------

section Fragments

variable {related : σ → τ → Prop} (host : Host β) (fusion : DataFusion β)

theorem twinned_forceMaterialized (name : String)
    : Twinned related Eq (forceMaterialized host fusion name : EngineM σ β Unit)
        (forceMaterialized host fusion name) := by
  refine twinned_get ?_
  rintro left right ⟨bindings, _, _, _⟩
  rw [bindings]
  cases right.bindings.lookup name with
  | none => exact Proc.Lockstep.pure rfl
  | some binding =>
      cases binding with
      | materialized | keys | spilled => exact Proc.Lockstep.pure rfl
      | lazy region =>
          refine twinned_bind (twinned_takeLazy name) (fun region => ?_)
          exact twinned_bind (twinned_liftDf _) (fun batches => twinned_storeRelation host _ _)

theorem twinned_registerSpilled (ctx : Context β) (tableName bindingName : String)
    (spilled : SpilledBinding β)
    : Twinned related Eq
        (registerSpilled fusion ctx tableName bindingName spilled
          : EngineM σ β (Context β × Nat))
        (registerSpilled fusion ctx tableName bindingName spilled) := by
  refine twinned_get ?_
  rintro left right ⟨_, remaining, _, _⟩
  refine twinned_bind (twinned_liftDf _) (fun _ => ?_)
  refine twinned_bind (twinned_noteUse _) (fun _ => ?_)
  rw [remaining]
  dsimp only
  split
  · exact twinned_bind (twinned_setBindings _) (fun _ => Proc.Lockstep.pure rfl)
  · exact Proc.Lockstep.pure rfl

theorem twinned_registerResident (ctx : Context β) (tableName bindingName : String)
    : Twinned related Eq
        (registerResident host fusion ctx tableName bindingName
          : EngineM σ β (Context β × Nat))
        (registerResident host fusion ctx tableName bindingName) := by
  refine twinned_bind (twinned_consumeMaterialized _) (fun batches => ?_)
  refine twinned_bind (twinned_liftDf _) (fun _ => ?_)
  exact twinned_bind (twinned_liftDf _) (fun _ => Proc.Lockstep.pure rfl)

theorem twinned_registerStored (ctx : Context β) (tableName bindingName : String)
    : Twinned related Eq
        (registerStored host fusion ctx tableName bindingName : EngineM σ β (Context β × Nat))
        (registerStored host fusion ctx tableName bindingName) := by
  refine twinned_get ?_
  rintro left right ⟨bindings, _, _, _⟩
  rw [bindings]
  cases right.bindings.lookup bindingName with
  | none => exact twinned_registerResident host fusion ctx _ _
  | some binding =>
      cases binding with
      | materialized | keys | lazy => exact twinned_registerResident host fusion ctx _ _
      | spilled spilled => exact twinned_registerSpilled fusion ctx _ _ spilled

theorem twinned_registerInput (ctx : Context β) (tableName bindingName : String)
    : Twinned related Eq
        (registerInput host fusion ctx tableName bindingName : EngineM σ β (Context β × Nat))
        (registerInput host fusion ctx tableName bindingName) := by
  have stored := @twinned_registerStored _ _ _ related host fusion ctx tableName bindingName
  refine twinned_get ?_
  rintro left right ⟨bindings, remaining, _, _⟩
  rw [bindings, remaining]
  cases right.bindings.lookup bindingName with
  | none => exact stored
  | some binding =>
      cases binding with
      | materialized | keys | spilled => exact stored
      | lazy region =>
          dsimp only
          split
          · refine twinned_bind (twinned_noteUse _) (fun _ => ?_)
            refine twinned_bind (twinned_takeLazy _) (fun region => ?_)
            exact twinned_bind (twinned_liftDf _) (fun _ => Proc.Lockstep.pure rfl)
          · exact twinned_bind (twinned_forceMaterialized host fusion _) (fun _ => stored)

/-- By induction over the inputs. -/
theorem twinned_registerInputs (inputs : List (String × String)) (ctx : Context β)
    (inputBytes : Nat)
    : Twinned related Eq
        (registerInputs host fusion inputs ctx inputBytes : EngineM σ β (Context β × Nat))
        (registerInputs host fusion inputs ctx inputBytes) := by
  induction inputs generalizing ctx inputBytes with
  | nil => exact Proc.Lockstep.pure rfl
  | cons input rest ih =>
      exact twinned_bind (twinned_registerInput host fusion ctx _ _) (fun _ => ih _ _)

theorem twinned_runFragment (fragment : Fragment) (inputs : NameMap String)
    : Twinned related Eq (runFragment fusion host fragment inputs : EngineM σ β (Binding β))
        (runFragment fusion host fragment inputs) :=
  twinned_bind (twinned_registerInputs host fusion _ _ _) (fun _ => twinned_liftDf _)

theorem twinned_collectDistinctFrom (name key : String)
    : Twinned related Eq (collectDistinctFrom fusion name key : EngineM σ β β)
        (collectDistinctFrom fusion name key) := by
  refine twinned_get ?_
  rintro left right ⟨bindings, _, _, _⟩
  rw [bindings]
  cases right.bindings.lookup name with
  | none => exact twinned_liftDf _
  | some binding =>
      cases binding with
      | materialized batches =>
          exact twinned_bind (twinned_liftDf _) (fun _ => twinned_liftDf _)
      | keys | lazy | spilled => exact twinned_liftDf _

end Fragments

-----------------------------------------------------------------------------------------
-- Source reads
-----------------------------------------------------------------------------------------

/-- From related sources both reads end with related values, or with the same failure, on
related sources.
-/
abbrev TwinReads (related : σ → τ → Prop) (values : α → γ → Prop) (left : Proc σ PyErr α)
    (right : Proc τ PyErr γ)
    : Prop :=
  Proc.Lockstep related related values left right

/-- Connectors that answer alike: the kinds of the datasources are as given, an index question
that a Postgres source may be asked is one in `asks`, and a shipment is one in `ships`.
-/
structure Uniform (kinds : String → Option DsKind)
    (asks : String → Option String → String → String → Prop) (ships : String → String → Prop)
    (related : σ → τ → Prop) (left : Connectors σ β) (right : Connectors τ β)
    : Prop where
  kind : ∀ datasource,
    TwinReads related (fun a b => a = b ∧ kinds datasource = some a) (left.kind datasource)
      (right.kind datasource)
  fetch : ∀ datasource sql,
    TwinReads related Eq (left.fetch datasource sql) (right.fetch datasource sql)
  fetchParallel : ∀ datasource table list partitions clause,
    TwinReads related Eq (left.fetchParallel datasource table list partitions clause)
      (right.fetchParallel datasource table list partitions clause)
  fetchTempJoin : ∀ datasource keys sql,
    TwinReads related Eq (left.fetchTempJoin datasource dynKeysTempTable keys sql)
      (right.fetchTempJoin datasource dynKeysTempTable keys sql)
  columnHasIndex : ∀ datasource schema table column, kinds datasource = some .postgres
    → asks datasource schema table column
    → TwinReads related Eq (left.columnHasIndex datasource schema table column)
        (right.columnHasIndex datasource schema table column)
  estimateSelectivity : ∀ datasource schema table column numKeys,
    TwinReads related Eq (left.estimateSelectivity datasource schema table column numKeys)
      (right.estimateSelectivity datasource schema table column numKeys)
  shipTable : ∀ datasource table batches, ships datasource table
    → TwinReads related Eq (left.shipTable datasource table batches)
        (right.shipTable datasource table batches)
  clearShipments : ∀ s t, related s t → related (left.clearShipments s) (right.clearShipments t)

section Reads

variable {kinds : String → Option DsKind}
  {asks : String → Option String → String → String → Prop} {ships : String → String → Prop}
  {related : σ → τ → Prop} {left : Connectors σ β} {right : Connectors τ β}

theorem twinReads_fail (failure : PyErr)
    : TwinReads related Eq (Proc.fail failure : Proc σ PyErr α) (Proc.fail failure) :=
  Proc.Lockstep.fail (fun _ _ same => same) failure

theorem twinReads_liftSql (result : Except DfError α)
    : TwinReads related Eq (liftSql result : Proc σ PyErr α) (liftSql result) := by
  cases result with
  | ok value => exact Proc.Lockstep.pure rfl
  | error failure => exact twinReads_fail _

/-- Sequencing after an equal value. -/
theorem twinReads_bind {δ : Type} {first : Proc σ PyErr α} {second : Proc τ PyErr α}
    {next : α → Proc σ PyErr γ} {other : α → Proc τ PyErr δ} {values : γ → δ → Prop}
    (head : TwinReads related Eq first second)
    (tail : ∀ value, TwinReads related values (next value) (other value))
    : TwinReads related values (first >>= next) (second >>= other) := by
  refine head.bind ?_
  rintro value _ rfl
  exact tail value

variable (uniform : Uniform kinds asks ships related left right) (df : ExprServices)

include uniform

/-- Sequencing after the kind of a datasource. -/
theorem Uniform.kindThen (datasource : String) {next : DsKind → Proc σ PyErr α}
    {other : DsKind → Proc τ PyErr γ} {values : α → γ → Prop}
    (tail : ∀ kind, kinds datasource = some kind
      → TwinReads related values (next kind) (other kind))
    : TwinReads related values (left.kind datasource >>= next)
        (right.kind datasource >>= other) := by
  refine (uniform.kind datasource).bind ?_
  rintro kind _ ⟨rfl, registered⟩
  exact tail kind registered

theorem Uniform.fetchScan (datasource : String) (scan : ScanSpec) (extraFilter : Option Expr)
    : TwinReads related Eq (Fedqrs.fetchScan df left datasource scan extraFilter)
        (Fedqrs.fetchScan df right datasource scan extraFilter) := by
  refine uniform.kindThen datasource (fun kind _ => ?_)
  exact twinReads_bind (twinReads_liftSql _) (fun sql => uniform.fetch datasource sql)

theorem Uniform.parallelProbeScan (datasource : String) (scan : ScanSpec)
    : TwinReads related Eq (Fedqrs.parallelProbeScan df left datasource scan)
        (Fedqrs.parallelProbeScan df right datasource scan) := by
  refine uniform.kindThen datasource (fun kind _ => ?_)
  cases scan.table with
  | none => exact twinReads_fail _
  | some table =>
      refine twinReads_bind (twinReads_liftSql _) (fun clause => ?_)
      exact uniform.fetchParallel _ _ _ _ _

theorem Uniform.fetchSource (datasource : String) (scan : ScanSpec)
    : TwinReads related Eq (Fedqrs.fetchSource df left datasource scan)
        (Fedqrs.fetchSource df right datasource scan) := by
  unfold Fedqrs.fetchSource
  split
  · refine twinReads_bind ?_ (fun _ => uniform.parallelProbeScan df datasource scan)
    refine uniform.kindThen datasource (fun kind _ => ?_)
    split
    · exact Proc.Lockstep.pure rfl
    · exact twinReads_fail _
  · exact uniform.fetchScan df datasource scan none

theorem Uniform.unselectiveProbeScan (kind : DsKind) (datasource : String) (scan : ScanSpec)
    : TwinReads related Eq (Fedqrs.unselectiveProbeScan df left kind datasource scan)
        (Fedqrs.unselectiveProbeScan df right kind datasource scan) := by
  unfold Fedqrs.unselectiveProbeScan
  split
  · exact uniform.parallelProbeScan df datasource scan
  · exact uniform.fetchScan df datasource scan none

theorem Uniform.fetchesMostOfTable (datasource : String) (scan : ScanSpec)
    (injectColumn : String) (numKeys : Nat) (ndv : Option Nat)
    : TwinReads related Eq
        (Fedqrs.fetchesMostOfTable left datasource scan injectColumn numKeys ndv)
        (Fedqrs.fetchesMostOfTable right datasource scan injectColumn numKeys ndv) := by
  unfold Fedqrs.fetchesMostOfTable
  cases scan.table with
  | none => exact twinReads_fail _
  | some table =>
      refine uniform.kindThen datasource (fun kind _ => ?_)
      cases ndv.filter (0 < ·) with
      | some ndv => exact Proc.Lockstep.pure rfl
      | none =>
          refine twinReads_bind (uniform.estimateSelectivity _ _ _ _ _) (fun fraction => ?_)
          exact Proc.Lockstep.pure rfl

theorem Uniform.unselective (datasource : String) (scan : ScanSpec) (injectColumn : String)
    (numKeys : Nat) (ndv : Option Nat)
    : TwinReads related Eq
        (Fedqrs.unselective left datasource scan injectColumn numKeys ndv)
        (Fedqrs.unselective right datasource scan injectColumn numKeys ndv) := by
  unfold Fedqrs.unselective
  split
  · exact uniform.fetchesMostOfTable datasource scan injectColumn numKeys ndv
  · exact Proc.Lockstep.pure rfl

/-- Only a registered Postgres source is asked for an index. -/
theorem Uniform.unindexedPostgres {kind : DsKind} {datasource : String} {scan : ScanSpec}
    {injectColumn : String} (registered : kinds datasource = some kind)
    (asked : ∀ table, scan.table = some table → asks datasource scan.schema table injectColumn)
    : TwinReads related Eq (Fedqrs.unindexedPostgres left kind datasource scan injectColumn)
        (Fedqrs.unindexedPostgres right kind datasource scan injectColumn) := by
  cases kind with
  | duckDb | parquet => exact Proc.Lockstep.pure rfl
  | postgres =>
      unfold Fedqrs.unindexedPostgres
      cases structured : scan.table with
      | none => exact Proc.Lockstep.pure rfl
      | some table =>
          refine twinReads_bind ?_ (fun indexed => Proc.Lockstep.pure rfl)
          exact uniform.columnHasIndex _ _ _ _ registered (asked table structured)

variable [Fetched β]

theorem Uniform.tempTableProbe (datasource : String) (scan : ScanSpec) (keys : β)
    (injectColumn : String)
    : TwinReads related Eq (Fedqrs.tempTableProbe df left datasource scan keys injectColumn)
        (Fedqrs.tempTableProbe df right datasource scan keys injectColumn) := by
  refine uniform.kindThen datasource (fun kind _ => ?_)
  cases scan.injectedSql with
  | some prerendered => exact uniform.fetchTempJoin _ _ _
  | none =>
      refine twinReads_bind (twinReads_liftSql _) (fun sql => ?_)
      exact uniform.fetchTempJoin _ _ _

/-- The probe read, on each of its paths. -/
theorem Uniform.runInjectedScan {datasource : String} {scan : ScanSpec} {injectColumn : String}
    (asked : ∀ table, scan.table = some table → asks datasource scan.schema table injectColumn)
    (keys : β) (ndv : Option Nat) (extras : List (String × β))
    : TwinReads related Eq
        (Fedqrs.runInjectedScan df left datasource scan injectColumn keys ndv extras)
        (Fedqrs.runInjectedScan df right datasource scan injectColumn keys ndv extras) := by
  unfold Fedqrs.runInjectedScan
  refine twinReads_bind (twinReads_liftSql _) (fun extraFilter => ?_)
  split
  · exact uniform.fetchScan df datasource scan _
  split
  · refine twinReads_bind (twinReads_liftSql _) (fun filter => ?_)
    exact uniform.fetchScan df datasource scan _
  refine uniform.kindThen datasource (fun kind registered => ?_)
  split
  · exact uniform.fetchScan df datasource scan _
  split
  · exact uniform.fetchScan df datasource scan _
  refine twinReads_bind (uniform.unindexedPostgres registered asked) (fun unindexed => ?_)
  split
  · exact uniform.unselectiveProbeScan df kind datasource scan
  refine twinReads_bind (uniform.unselective datasource scan injectColumn _ ndv)
    (fun most => ?_)
  split
  · exact uniform.unselectiveProbeScan df kind datasource scan
  · exact uniform.tempTableProbe df datasource scan keys injectColumn

end Reads

-----------------------------------------------------------------------------------------
-- Steps and runs
-----------------------------------------------------------------------------------------

/-- The index questions and the shipments of a step are among those given. -/
def Step.Fits (asks : String → Option String → String → String → Prop)
    (ships : String → String → Prop)
    : Step → Prop
  | .injectedScan datasource scan injectColumn _ _ _ _ =>
      ∀ table, scan.table = some table → asks datasource scan.schema table injectColumn
  | .ship datasource _ table => ships datasource table
  | .sourceScan _ _ _ _ | .collectDistinct _ _ _ _ | .merge _ _ _ | .return _ => True

section Steps

variable [Fetched β] {kinds : String → Option DsKind}
  {asks : String → Option String → String → String → Prop} {ships : String → String → Prop}
  {related : σ → τ → Prop}

/-- The same engine on other connectors. -/
def Engine.on (engine : Engine σ β) (connectors : Connectors τ β) : Engine τ β :=
  { host := engine.host, fusion := engine.fusion, exprs := engine.exprs, connectors }

omit [Fetched β] in
theorem twinned_onSource {left : Proc σ PyErr α} {right : Proc τ PyErr α}
    (reads : TwinReads related Eq left right)
    : Twinned related Eq (onSource left : EngineM σ β α) (onSource right) := by
  rintro machine other ⟨bindings, remaining, files, source⟩
  rcases (reads _ _ source).elim with
    ⟨_, s, _, t, ranLeft, ranRight, rfl, after⟩ | ⟨_, s, t, ranLeft, ranRight, after⟩
  · simp only [onSource, Proc.zoom_apply, ranLeft, ranRight]
    exact ⟨rfl, bindings, remaining, files, after⟩
  · simp only [onSource, Proc.zoom_apply, ranLeft, ranRight]
    exact ⟨rfl, bindings, remaining, files, after⟩

omit [Fetched β] in
/-- By induction over the extra injections. -/
theorem twinned_extraKeys (extras : List ExtraInjection)
    : Twinned related Eq (extraKeys extras : EngineM σ β (List (String × β)))
        (extraKeys extras) := by
  induction extras with
  | nil => exact Proc.Lockstep.pure rfl
  | cons extra rest ih =>
      refine twinned_bind (twinned_keysBinding _) (fun keys => ?_)
      exact twinned_bind ih (fun others => Proc.Lockstep.pure rfl)

omit [Fetched β] in
/-- By induction over the names. -/
theorem twinned_noteUses (names : List String)
    : Twinned related Eq (noteUses names : EngineM σ β Unit) (noteUses names) := by
  induction names with
  | nil => exact Proc.Lockstep.pure rfl
  | cons name rest ih => exact twinned_bind (twinned_noteUse name) (fun _ => ih)

variable {engine : Engine σ β} {right : Connectors τ β}
  (uniform : Uniform kinds asks ships related engine.connectors right)

omit [Fetched β] in
theorem twinned_storeResult (name : String) (result : Binding β)
    : Twinned related Eq (storeResult engine name result : EngineM σ β Unit)
        (storeResult (engine.on right) name result) := by
  cases result with
  | materialized batches => exact twinned_storeRelation _ _ _
  | keys | lazy | spilled => exact twinned_setBindings _

include uniform

/-- A step, by cases on it. -/
theorem Uniform.runStep (ir : Ir) {step : Step} (fits : step.Fits asks ships)
    : Twinned related Eq (Fedqrs.runStep engine ir step)
        (Fedqrs.runStep (engine.on right) ir step) := by
  cases step with
  | sourceScan datasource scan binding =>
      refine twinned_bind (twinned_onSource ?_) (fun batches => ?_)
      · exact uniform.fetchSource engine.exprs datasource scan
      · exact twinned_bind (twinned_storeRelation _ _ _) (fun _ => Proc.Lockstep.pure rfl)
  | collectDistinct input key column binding =>
      refine twinned_bind (twinned_forceMaterialized _ _ input) (fun _ => ?_)
      refine twinned_bind (twinned_collectDistinctFrom _ input key) (fun keys => ?_)
      refine twinned_bind (twinned_noteUse input) (fun _ => ?_)
      exact twinned_bind (twinned_setBindings _) (fun _ => Proc.Lockstep.pure rfl)
  | injectedScan datasource scan injectColumn keysFrom binding ndv extras =>
      refine twinned_bind (twinned_keysBinding keysFrom) (fun keys => ?_)
      refine twinned_bind (twinned_extraKeys extras) (fun extraSets => ?_)
      refine twinned_bind (twinned_onSource ?_) (fun batches => ?_)
      · exact uniform.runInjectedScan engine.exprs fits keys ndv extraSets
      · refine twinned_bind (twinned_noteUses _) (fun _ => ?_)
        exact twinned_bind (twinned_storeRelation _ _ _) (fun _ => Proc.Lockstep.pure rfl)
  | ship datasource input table =>
      refine twinned_bind (twinned_forceMaterialized _ _ input) (fun _ => ?_)
      refine twinned_bind (twinned_materialized input) (fun batches => ?_)
      refine twinned_bind (twinned_onSource ?_) (fun _ => ?_)
      · exact uniform.shipTable datasource table batches fits
      · exact twinned_bind (twinned_noteUse input) (fun _ => Proc.Lockstep.pure rfl)
  | merge fragment inputs binding =>
      simp only [Fedqrs.runStep]
      cases ir.fragments.lookup fragment with
      | none => exact twinned_fail _
      | some found =>
          refine twinned_bind (twinned_runFragment _ _ found inputs) (fun result => ?_)
          refine twinned_bind (twinned_storeResult binding result) (fun _ => ?_)
          exact Proc.Lockstep.pure rfl
  | «return» input =>
      refine twinned_bind (twinned_forceMaterialized _ _ input) (fun _ => ?_)
      exact twinned_bind (twinned_export input) (fun result => Proc.Lockstep.pure rfl)

/-- A plan runs alike over connectors that answer alike. -/
theorem Uniform.execute {ir : Ir} (fits : ∀ step ∈ ir.steps, step.Fits asks ships)
    : TwinReads related Eq (Fedqrs.execute engine ir)
        (Fedqrs.execute (engine.on right) ir) := by
  intro s t same
  let start : Machine σ β := .start ir (engine.connectors.clearShipments s)
  let other : Machine τ β := .start ir (right.clearShipments t)
  have started : Twin related start other :=
    ⟨rfl, rfl, rfl, uniform.clearShipments s t same⟩
  have along : Proc.Along (Fedqrs.runStep engine ir) (fun _ step => step.Fits asks ships)
      ir.steps start :=
    Proc.Along.of_mem fits start
  have pair : ∀ (machine : Machine σ β) (other : Machine τ β) (step : Step),
      Twin related machine other → step.Fits asks ships
      → Proc.Alike (Twin related) (Twin related) (Option.Rel Eq)
          (Fedqrs.runStep engine ir step machine)
          (Fedqrs.runStep (engine.on right) ir step other) := by
    intro machine other step twin fit
    rcases (uniform.runStep ir fit machine other twin).elim with
      ⟨value, _, _, _, ranLeft, ranRight, rfl, after⟩ | ⟨_, _, _, ranLeft, ranRight, after⟩
    · rw [ranLeft, ranRight]
      cases value with
      | none => exact ⟨.none, after⟩
      | some result => exact ⟨.some rfl, after⟩
    · rw [ranLeft, ranRight]
      exact ⟨rfl, after⟩
  have ran : Proc.Alike (Twin related) (Twin related) Eq
      (runSteps engine ir (engine.connectors.clearShipments s))
      (runSteps (engine.on right) ir ((engine.on right).connectors.clearShipments t)) :=
    Proc.Lockstep.runUntil (fun _ _ twin => twin) pair ir.steps start other started along
  unfold Fedqrs.execute
  rcases ran.elim with
    ⟨_, _, _, _, ranLeft, ranRight, same, after⟩ | ⟨_, _, _, ranLeft, ranRight, after⟩
  · rw [ranLeft, ranRight]
    exact ⟨same, uniform.clearShipments _ _ after.source⟩
  · rw [ranLeft, ranRight]
    exact ⟨rfl, uniform.clearShipments _ _ after.source⟩

end Steps

end Fedqrs
