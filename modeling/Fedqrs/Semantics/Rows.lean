import Fedqrs.Semantics.Similar
import Fedqrs.Engine.Collect
import Fedqrs.Engine.Execute

/-! Source reads as functions of rows: keys with the same rows, in any order and any batches,
give probe reads with the same rows.
-/

namespace Fedqrs

variable {σ β R : Type}

/-- The second relation has the first one's rows, and can be registered if that one can. -/
def SameRows (fusion : DataFusion β) (rows : β → R) (left right : β) : Prop :=
  rows left = rows right
    ∧ (fusion.memTable left = .ok () → fusion.memTable right = .ok ())

/-- Both sources are in states that later reads cannot tell apart. -/
abbrev AlikeReads (same : σ → σ → Prop) {α γ : Type} (values : α → γ → Prop)
    (left : Proc σ PyErr α) (right : Proc σ PyErr γ)
    : Prop :=
  Proc.Lockstep same (fun _ _ => True) values left right

/-- What is asked of a relation depends on its rows, the key values up to their order. -/
structure FetchedRows [Fetched β] (rows : β → R) : Prop where
  numRows : ∀ a b : β, rows a = rows b → Fetched.numRows a = Fetched.numRows b
  keyName : ∀ a b : β, rows a = rows b → Fetched.keyName a = Fetched.keyName b
  keyType : ∀ a b : β, rows a = rows b → Fetched.keyType a = Fetched.keyType b
  keyValues : ∀ a b : β, rows a = rows b
    → SameOutcome List.Perm (Fetched.keyValues a) (Fetched.keyValues b)

/-- Arrow relations are asked by their tables: the first column's declaration, the number of
rows and their first cells.
-/
theorem Batches.fetchedRows : FetchedRows Batches.table where
  numRows a b equal := by
    have cards := congrArg (fun table => Multiset.card table.rows) equal
    simpa [Batches.table, Fetched.numRows] using cards
  keyName a b equal := by
    have columns := congrArg (fun table => table.columns.head?.map Prod.fst) equal
    simp only [Batches.table, List.head?_map, Option.map_map, Function.comp_def] at columns
    simp only [Fetched.keyName]
    exact congrArg (Option.getD · "") columns
  keyType a b equal := by
    have columns := congrArg (fun table => table.columns.head?.map Prod.snd) equal
    simp only [Batches.table, List.head?_map, Option.map_map, Function.comp_def] at columns
    simp only [Fetched.keyType]
    exact congrArg (Option.getD · .null) columns
  keyValues a b equal := by
    have perm : a.rows.Perm b.rows := Multiset.coe_eq_coe.mp (congrArg Table.rows equal)
    refine .ok ?_
    simpa only [Batches.rows_head] using perm.filterMap List.head?

/-- The sources answer by what a statement means and by the rows handed to them: `same` is
what they cannot tell apart, similar statements included.
-/
structure RowSources (engine : Engine σ β) (rows : β → R) (same : σ → σ → Prop)
    : Prop where
  unchanged : ∀ source, same source source
  prints : engine.exprs.PrintsAlike
  kind : ∀ datasource,
    AlikeReads same Eq (engine.connectors.kind datasource) (engine.connectors.kind datasource)
  fetch : ∀ datasource sql sql', Sql.Similar sql sql'
    → AlikeReads same (SameRows engine.fusion rows) (engine.connectors.fetch datasource sql)
        (engine.connectors.fetch datasource sql')
  fetchParallel : ∀ datasource table list partitions clause,
    AlikeReads same (SameRows engine.fusion rows)
      (engine.connectors.fetchParallel datasource table list partitions clause)
      (engine.connectors.fetchParallel datasource table list partitions clause)
  fetchTempJoin : ∀ datasource table keys keys' sql, rows keys = rows keys'
    → AlikeReads same (SameRows engine.fusion rows)
        (engine.connectors.fetchTempJoin datasource table keys sql)
        (engine.connectors.fetchTempJoin datasource table keys' sql)
  columnHasIndex : ∀ datasource schema table column,
    AlikeReads same Eq (engine.connectors.columnHasIndex datasource schema table column)
      (engine.connectors.columnHasIndex datasource schema table column)
  estimateSelectivity : ∀ datasource schema table column numKeys,
    AlikeReads same Eq
      (engine.connectors.estimateSelectivity datasource schema table column numKeys)
      (engine.connectors.estimateSelectivity datasource schema table column numKeys)
  shipTable : ∀ datasource table batches batches', rows batches = rows batches'
    → AlikeReads same Eq (engine.connectors.shipTable datasource table batches)
        (engine.connectors.shipTable datasource table batches')
  clearShipments : ∀ s t, same s t
    → same (engine.connectors.clearShipments s) (engine.connectors.clearShipments t)

section Reads

variable {same : σ → σ → Prop} {α γ : Type} {values : α → γ → Prop}

theorem alikeReads_fail (failure : PyErr)
    : AlikeReads same values (Proc.fail failure) (Proc.fail failure) :=
  Proc.Lockstep.fail (fun _ _ _ => trivial) failure

/-- Stateless results that are the same, lifted into source reads. -/
theorem SameOutcome.liftSql {results : α → α → Prop} {left right : Except DfError α}
    (outcome : SameOutcome results left right)
    : AlikeReads same results (Fedqrs.liftSql left) (Fedqrs.liftSql right) := by
  cases outcome with
  | ok same => exact Proc.Lockstep.pure same
  | error failure => exact alikeReads_fail _

theorem alikeReads_liftSql (result : Except DfError α)
    : AlikeReads same Eq (liftSql result) (liftSql result) :=
  (SameOutcome.refl (fun _ => rfl) result).liftSql

end Reads

section Scans

variable {engine : Engine σ β} {rows : β → R} {same : σ → σ → Prop}
  (sources : RowSources engine rows same)

section Whole

include sources

/-- A scan with similar extra filters reads the same rows. -/
theorem RowSources.fetchScan (datasource : String) (scan : ScanSpec)
    {left right : Option Expr} (filters : Option.Rel Expr.Similar left right)
    : AlikeReads same (SameRows engine.fusion rows)
        (Fedqrs.fetchScan engine.exprs engine.connectors datasource scan left)
        (Fedqrs.fetchScan engine.exprs engine.connectors datasource scan right) := by
  refine (sources.kind datasource).bind ?_
  rintro kind _ rfl
  refine (scanSql_similar sources.prints kind scan filters).liftSql.bind ?_
  intro sql sql' similar
  exact sources.fetch datasource sql sql' similar

theorem RowSources.parallelProbeScan (datasource : String) (scan : ScanSpec)
    : AlikeReads same (SameRows engine.fusion rows)
        (Fedqrs.parallelProbeScan engine.exprs engine.connectors datasource scan)
        (Fedqrs.parallelProbeScan engine.exprs engine.connectors datasource scan) := by
  refine (sources.kind datasource).bind ?_
  rintro kind _ rfl
  cases scan.table with
  | none => exact alikeReads_fail _
  | some table =>
      refine (alikeReads_liftSql _).bind ?_
      rintro clause _ rfl
      exact sources.fetchParallel _ _ _ _ _

/-- A plain source read gives the same rows again. -/
theorem RowSources.fetchSource (datasource : String) (scan : ScanSpec)
    : AlikeReads same (SameRows engine.fusion rows)
        (Fedqrs.fetchSource engine.exprs engine.connectors datasource scan)
        (Fedqrs.fetchSource engine.exprs engine.connectors datasource scan) := by
  unfold Fedqrs.fetchSource
  split
  · refine Proc.Lockstep.bind (?_ : AlikeReads same Eq _ _) ?_
    · refine (sources.kind datasource).bind ?_
      rintro kind _ rfl
      split
      · exact Proc.Lockstep.pure rfl
      · exact alikeReads_fail _
    · rintro _ _ rfl
      exact sources.parallelProbeScan datasource scan
  · exact sources.fetchScan datasource scan .none

theorem RowSources.unselectiveProbeScan (kind : DsKind) (datasource : String)
    (scan : ScanSpec)
    : AlikeReads same (SameRows engine.fusion rows)
        (Fedqrs.unselectiveProbeScan engine.exprs engine.connectors kind datasource scan)
        (Fedqrs.unselectiveProbeScan engine.exprs engine.connectors kind datasource scan) := by
  unfold Fedqrs.unselectiveProbeScan
  split
  · exact sources.parallelProbeScan datasource scan
  · exact sources.fetchScan datasource scan .none

end Whole

section Keyed

variable [Fetched β] (fetched : FetchedRows rows)

/-- Two lists of extra key sets with the same columns and the same rows. -/
def SameExtras (rows : β → R) (left right : List (String × β)) : Prop :=
  List.Forall₂ (fun a b => a.1 = b.1 ∧ rows a.2 = rows b.2) left right

section Filters

include fetched

/-- The IN lists over the same keys are the same up to the order of their values. -/
theorem FetchedRows.inListFilter {keys keys' : β} (equal : rows keys = rows keys')
    (column : String)
    : SameOutcome Expr.Similar (Fedqrs.inListFilter keys column)
        (Fedqrs.inListFilter keys' column) := by
  refine (fetched.keyValues keys keys' equal).bind ?_
  intro values values' perm
  exact .ok (.inList _ false (perm.map Expr.literal))

/-- The filter of the extra key sets, by induction along both lists. -/
theorem FetchedRows.extrasInFilter {left right : List (String × β)}
    (extras : SameExtras rows left right) {combined combined' : Option Expr}
    (filters : Option.Rel Expr.Similar combined combined')
    : SameOutcome (Option.Rel Expr.Similar) (Fedqrs.extrasInFilter left combined)
        (Fedqrs.extrasInFilter right combined') := by
  induction extras generalizing combined combined' with
  | nil => exact .ok filters
  | @cons head head' rest rest' equal _ ih =>
      obtain ⟨column, keys⟩ := head
      obtain ⟨column', keys'⟩ := head'
      obtain ⟨rfl, equal⟩ := equal
      simp only [Fedqrs.extrasInFilter, fetched.numRows keys keys' equal]
      split
      · exact ih filters
      · refine (fetched.inListFilter equal column).bind ?_
        intro filter filter' similar
        refine ih ?_
        cases filters with
        | none => exact .some similar
        | some others => exact .some (.binaryExpr .and similar others)

end Filters

include sources

omit [Fetched β] in
theorem RowSources.fetchesMostOfTable (datasource : String) (scan : ScanSpec)
    (injectColumn : String) (numKeys : Nat) (ndv : Option Nat)
    : AlikeReads same Eq
        (Fedqrs.fetchesMostOfTable engine.connectors datasource scan injectColumn numKeys ndv)
        (Fedqrs.fetchesMostOfTable engine.connectors datasource scan injectColumn numKeys
          ndv) := by
  unfold Fedqrs.fetchesMostOfTable
  cases scan.table with
  | none => exact alikeReads_fail _
  | some table =>
      refine (sources.kind datasource).bind ?_
      rintro kind _ rfl
      cases ndv.filter (0 < ·) with
      | some ndv => exact Proc.Lockstep.pure rfl
      | none =>
          refine (sources.estimateSelectivity _ _ _ _ _).bind ?_
          rintro fraction _ rfl
          exact Proc.Lockstep.pure rfl

include fetched

theorem RowSources.tempTableProbe (datasource : String) (scan : ScanSpec) {keys keys' : β}
    (equal : rows keys = rows keys') (injectColumn : String)
    : AlikeReads same (SameRows engine.fusion rows)
        (Fedqrs.tempTableProbe engine.exprs engine.connectors datasource scan keys injectColumn)
        (Fedqrs.tempTableProbe engine.exprs engine.connectors datasource scan keys'
          injectColumn) := by
  unfold Fedqrs.tempTableProbe
  refine (sources.kind datasource).bind ?_
  rintro kind _ rfl
  rw [fetched.keyName keys keys' equal]
  cases scan.injectedSql with
  | some prerendered => exact sources.fetchTempJoin _ _ _ _ _ equal
  | none =>
      refine (alikeReads_liftSql _).bind ?_
      rintro sql _ rfl
      exact sources.fetchTempJoin _ _ _ _ _ equal

/-- The probe read gives the same rows for keys with the same rows, on each of its paths. -/
theorem RowSources.runInjectedScan (datasource : String) (scan : ScanSpec)
    (injectColumn : String) {keys keys' : β} (equal : rows keys = rows keys')
    (ndv : Option Nat) {extras extras' : List (String × β)}
    (others : SameExtras rows extras extras')
    : AlikeReads same (SameRows engine.fusion rows)
        (Fedqrs.runInjectedScan engine.exprs engine.connectors datasource scan injectColumn
          keys ndv extras)
        (Fedqrs.runInjectedScan engine.exprs engine.connectors datasource scan injectColumn
          keys' ndv extras') := by
  have ingest : duckCanIngest keys = duckCanIngest keys' := by
    simp only [duckCanIngest, fetched.keyType keys keys' equal]
  unfold Fedqrs.runInjectedScan
  rw [fetched.numRows keys keys' equal, ingest]
  refine (fetched.extrasInFilter others .none).liftSql.bind ?_
  intro extra extra' similarExtra
  split
  · exact sources.fetchScan datasource scan (.some (.refl _))
  split
  · refine (fetched.inListFilter equal injectColumn).liftSql.bind ?_
    intro filter filter' similar
    refine sources.fetchScan datasource scan ?_
    cases similarExtra with
    | none => exact .some similar
    | some others => exact .some (.binaryExpr .and similar others)
  refine (sources.kind datasource).bind ?_
  rintro kind _ rfl
  split
  · exact sources.fetchScan datasource scan similarExtra
  split
  · exact sources.fetchScan datasource scan similarExtra
  refine Proc.Lockstep.bind (?_ : AlikeReads same Eq _ _) ?_
  · unfold unindexedPostgres
    split
    · refine (sources.columnHasIndex _ _ _ _).bind ?_
      rintro indexed _ rfl
      exact Proc.Lockstep.pure rfl
    · exact Proc.Lockstep.pure rfl
  rintro unindexed _ rfl
  split
  · exact sources.unselectiveProbeScan kind datasource scan
  refine Proc.Lockstep.bind (?_ : AlikeReads same Eq _ _) ?_
  · unfold unselective
    split
    · exact sources.fetchesMostOfTable datasource scan injectColumn _ ndv
    · exact Proc.Lockstep.pure rfl
  rintro most _ rfl
  split
  · exact sources.unselectiveProbeScan kind datasource scan
  · exact sources.tempTableProbe fetched datasource scan equal injectColumn

end Keyed

end Scans

end Fedqrs
