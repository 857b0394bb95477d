import Fedqrs.Connectors.Sent
import Fedqrs.Correctness.PermanentTables

/-! What a run sends to its sources: the steps' own statements, with no predicate added but those
that the keys give, and the catalog questions about the tables of the probes.
-/

namespace Fedqrs

open Proc

/-- The predicates that the key sets of some columns add to a scan: none of the rows, a column
among the keys of its set, and both of two.
-/
inductive Narrowing (sets : List (String × Batches)) : Expr → Prop
  | nothing : Narrowing sets (.lit false)
  | among {column : String} {keys : Batches} {filter : Expr} (member : (column, keys) ∈ sets)
    (rendered : inListFilter keys column = .ok filter)
    : Narrowing sets filter
  | both {left right : Expr} (one : Narrowing sets left) (other : Narrowing sets right)
    : Narrowing sets (left.and right)

/-- The statements of a scan with a predicate of a kind, or with none. -/
def ScanSpec.Scans (df : ExprServices) (narrows : Expr → Prop) (scan : ScanSpec) (kind : DsKind)
    (sql : Sql)
    : Prop :=
  ∃ extraFilter : Option Expr,
    (∀ filter ∈ extraFilter, narrows filter) ∧ scanSql df kind scan extraFilter = .ok sql

/-- The statements of a partitioned scan: the page count of its table, and the page ranges under
the scan's own predicate.
-/
inductive ScanSpec.Pages (df : ExprServices) (scan : ScanSpec) (kind : DsKind) : Sql → Prop
  | count {table : String} (structured : scan.table = some table) (postgres : kind = .postgres)
    : scan.Pages df kind (relpagesSql scan.schema table)
  | range {table : String} {whereClause : Option SqlExpr} (structured : scan.table = some table)
    (postgres : kind = .postgres) (rendered : baseFilterSql df kind scan = .ok whereClause)
    (range : Nat × Nat)
    : scan.Pages df kind (ctidSql (selectListSql scan) (tableRef scan table) range whereClause)

/-- The statements of a probe besides those of its scan: the catalog questions about the injected
column, and the semi-join with the column of the keys table.
-/
inductive ScanSpec.Probes (df : ExprServices) (injectColumn keyCol : String) (scan : ScanSpec)
    (kind : DsKind)
    : Sql → Prop
  | indexed {table : String} (structured : scan.table = some table) (postgres : kind = .postgres)
    : scan.Probes df injectColumn keyCol kind (indexedSql scan.schema table injectColumn)
  | statistics {table : String} (structured : scan.table = some table)
    (postgres : kind = .postgres)
    : scan.Probes df injectColumn keyCol kind (selectivitySql scan.schema table injectColumn)
  | size {table : String} (structured : scan.table = some table) (duck : kind = .duckDb)
    : scan.Probes df injectColumn keyCol kind (duckSizeSql scan.schema table)
  | prerendered {text : String} (given : scan.injectedSql = some text)
    : scan.Probes df injectColumn keyCol kind (.raw text)
  | joined {sql : Sql} (structured : scan.injectedSql = none)
    (rendered : tempJoinSql df kind scan dynKeysTempTable keyCol injectColumn = .ok sql)
    : scan.Probes df injectColumn keyCol kind sql

/-- A read of the datasource by one of the statements, in the dialect it is registered with. -/
inductive ReadOf (registry : NameMap DsSpec) (datasource : String)
    (statements : DsKind → Sql → Prop)
    : Event → Prop
  | read {found : DsSpec} {sql : Sql} (session : Session) (answer : Except Failure Batches)
    (registered : registry.lookup datasource = some found) (stated : statements found.kind sql)
    : ReadOf registry datasource statements (.read datasource session sql answer)

/-- The statements of a probe with its keys and the extra key sets. -/
def ScanSpec.Injects (df : ExprServices) (injectColumn : String) (keys : Batches)
    (extraSets : List (String × Batches)) (scan : ScanSpec) (kind : DsKind) (sql : Sql)
    : Prop :=
  scan.Scans df (Narrowing ((injectColumn, keys) :: extraSets)) kind sql
    ∨ scan.Pages df kind sql
    ∨ scan.Probes df injectColumn (Fetched.keyName keys) kind sql

/-- What a step that starts from this state may send: the statements of its scan, those of its
probe with the keys it is bound to, or its input to a DuckDB file. An index verdict may be recalled
instead of asked for.
-/
def Step.Sends (engine : Engine Sources Batches) (registry : NameMap DsSpec) (step : Step)
    (machine : Machine Sources Batches) (event : Event)
    : Prop :=
  match step with
  | .sourceScan datasource scan _ _ =>
      ReadOf registry datasource
        (if scan.parallel then
          scan.Pages engine.exprs
        else
          scan.Scans engine.exprs (fun _ => False))
        event
  | .injectedScan datasource scan injectColumn keysFrom _ _ extras =>
      ∃ keys extraSets,
        keysBinding keysFrom machine = (.ok keys, machine)
          ∧ extraKeys extras machine = (.ok extraSets, machine)
          ∧ (ReadOf registry datasource (scan.Injects engine.exprs injectColumn keys extraSets)
                event
            ∨ ∃ target, event = .recalled datasource target)
  | .ship datasource input table =>
      ∃ found rows forced,
        registry.lookup datasource = some found ∧ found.kind = .duckDb
          ∧ forceMaterialized engine.host engine.fusion input machine = (.ok (), forced)
          ∧ materialized input forced = (.ok rows, forced)
          ∧ (event = .shipping found.uri table ∨ event = .shipped found.uri table rows)
  | .collectDistinct _ _ _ _ | .merge _ _ _ | .return _ => False

variable {drivers : Drivers} {shown : ScalarValue → String} {df : ExprServices}
  {registry : NameMap DsSpec} {allowed : Event → Prop} {datasource injectColumn : String}
  {scan : ScanSpec} {narrows : Expr → Prop}

-----------------------------------------------------------------------------------------
-- The predicates of the keys
-----------------------------------------------------------------------------------------

theorem Narrowing.andOption {sets : List (String × Batches)} {left : Expr} {right : Option Expr}
    (one : Narrowing sets left) (others : ∀ filter ∈ right, Narrowing sets filter)
    : Narrowing sets (Fedqrs.andOption left right) := by
  cases right with
  | none => exact one
  | some filter => exact one.both (others filter rfl)

/-- The predicate of the extra key sets; by induction over the sets. -/
theorem Narrowing.extrasInFilter {sets extras : List (String × Batches)}
    {combined filter : Option Expr} (members : ∀ extra ∈ extras, extra ∈ sets)
    (start : ∀ filter ∈ combined, Narrowing sets filter)
    (rendered : Fedqrs.extrasInFilter extras combined = .ok filter)
    : ∀ added ∈ filter, Narrowing sets added := by
  induction extras generalizing combined with
  | nil =>
      cases rendered
      exact start
  | cons head rest ih =>
      obtain ⟨column, keys⟩ := head
      have others : ∀ extra ∈ rest, extra ∈ sets :=
        fun extra member => members extra (List.mem_cons_of_mem _ member)
      simp only [Fedqrs.extrasInFilter] at rendered
      split at rendered
      · exact ih others start rendered
      · obtain ⟨list, listed, later⟩ := Except.bind_eq_ok.mp rendered
        refine ih others ?_ later
        intro added same
        cases same
        exact (Narrowing.among (members _ List.mem_cons_self) listed).andOption start

-----------------------------------------------------------------------------------------
-- The reads of a step
-----------------------------------------------------------------------------------------

/-- Every statement of the kind may be sent for the datasource. -/
def Covers (registry : NameMap DsSpec) (allowed : Event → Prop) (datasource : String)
    (statements : DsKind → Sql → Prop)
    : Prop :=
  ∀ found sql, registry.lookup datasource = some found → statements found.kind sql
    → Permits allowed datasource sql

theorem Covers.readOf (datasource : String) (statements : DsKind → Sql → Prop)
    : Covers registry (ReadOf registry datasource statements) datasource statements :=
  fun _ _ registered stated session answer => .read session answer registered stated

theorem sends_fetchScan {extraFilter : Option Expr}
    (scans : Covers registry allowed datasource (scan.Scans df narrows))
    (added : ∀ filter ∈ extraFilter, narrows filter)
    : Sends registry allowed
        (fetchScan df (nativeConnectors drivers shown) datasource scan extraFilter) := by
  refine (sends_kind datasource).bind (fun kind given => ?_)
  obtain ⟨found, registered, rfl⟩ := registered_of_kind given
  refine Emits.liftThen (fun sql rendered => ?_)
  have stated : scan.Scans df narrows found.kind sql :=
    ⟨extraFilter, added, Except.mapError_eq_ok.mp rendered⟩
  exact sends_fetch (scans found sql registered stated)

theorem sends_parallelProbeScan
    (pages : Covers registry allowed datasource (scan.Pages df))
    : Sends registry allowed
        (parallelProbeScan df (nativeConnectors drivers shown) datasource scan) := by
  refine (sends_kind datasource).bind (fun kind given => ?_)
  obtain ⟨found, registered, rfl⟩ := registered_of_kind given
  cases structured : scan.table with
  | none => exact Emits.fail _
  | some table =>
      refine Emits.liftThen (fun whereClause rendered => ?_)
      have rendered := Except.mapError_eq_ok.mp rendered
      apply sends_fetchParallel
      · intro other again postgres
        exact pages other _ again (.count structured postgres)
      · intro other again postgres range
        cases registered.symm.trans again
        exact pages found _ registered (.range structured postgres rendered range)

theorem sends_fetchSource
    (covers : Covers registry allowed datasource
      (if scan.parallel then scan.Pages df else scan.Scans df (fun _ => False)))
    : Sends registry allowed
        (fetchSource df (nativeConnectors drivers shown) datasource scan) := by
  unfold fetchSource
  split <;> rename_i parallel
  · rw [if_pos parallel] at covers
    have checked
        : Sends registry allowed
            (requireParallelizable (nativeConnectors drivers shown) datasource scan) := by
      refine (sends_kind datasource).andThen (fun kind => ?_)
      split
      · exact Emits.pure ()
      · exact Emits.fail _
    exact checked.andThen (fun _ => sends_parallelProbeScan covers)
  · rw [if_neg parallel] at covers
    exact sends_fetchScan covers (by simp)

/-- What a probe sends may be sent, and an index verdict recalled. -/
structure ProbeAllowed (df : ExprServices) (registry : NameMap DsSpec) (allowed : Event → Prop)
    (datasource injectColumn : String) (keys : Batches) (extraSets : List (String × Batches))
    (scan : ScanSpec)
    : Prop where
  scans
    : Covers registry allowed datasource
        (scan.Scans df (Narrowing ((injectColumn, keys) :: extraSets)))
  pages : Covers registry allowed datasource (scan.Pages df)
  probes : Covers registry allowed datasource (scan.Probes df injectColumn (Fetched.keyName keys))
  recalls : ∀ target, allowed (.recalled datasource target)

section Probe

variable {found : DsSpec} {keys : Batches} {extraSets : List (String × Batches)}

theorem ProbeAllowed.unindexedPostgres
    (may : ProbeAllowed df registry allowed datasource injectColumn keys extraSets scan)
    (registered : registry.lookup datasource = some found)
    : Sends registry allowed
        (unindexedPostgres (nativeConnectors drivers shown) found.kind datasource scan
          injectColumn) := by
  unfold Fedqrs.unindexedPostgres
  split
  · rename_i table postgres structured
    have permits := may.probes found _ registered (.indexed structured postgres)
    refine Emits.andThen (sends_columnHasIndex may.recalls permits) (fun _ => ?_)
    exact Emits.pure _
  · exact Emits.pure _

/-- A probe whose datasource has a catalog asks for the estimate. -/
theorem ProbeAllowed.unselective
    (may : ProbeAllowed df registry allowed datasource injectColumn keys extraSets scan)
    (registered : registry.lookup datasource = some found) (catalog : found.kind ≠ .parquet)
    (numKeys : Nat) (injectColumnNdv : Option Nat)
    : Sends registry allowed
        (unselective (nativeConnectors drivers shown) datasource scan injectColumn numKeys
          injectColumnNdv) := by
  unfold Fedqrs.unselective
  split
  · unfold fetchesMostOfTable
    cases structured : scan.table with
    | none => exact Emits.fail _
    | some table =>
        refine (sends_kind datasource).andThen (fun kind => ?_)
        dsimp only
        cases injectColumnNdv.filter (0 < ·) with
        | some ndv => exact Emits.pure _
        | none =>
            have estimated
                : Sends registry allowed
                    (estimateSelectivity drivers shown datasource scan.schema table injectColumn
                      numKeys) := by
              refine sends_estimateSelectivity numKeys (fun other again => ?_)
              cases registered.symm.trans again
              apply may.probes found _ registered
              cases known : found.kind with
              | postgres => exact .statistics structured rfl
              | duckDb => exact .size structured rfl
              | parquet => exact absurd known catalog
            exact estimated.andThen (fun _ => Emits.pure _)
  · exact Emits.pure _

theorem ProbeAllowed.tempTableProbe
    (may : ProbeAllowed df registry allowed datasource injectColumn keys extraSets scan)
    : Sends registry allowed
        (tempTableProbe df (nativeConnectors drivers shown) datasource scan keys injectColumn) := by
  refine (sends_kind datasource).bind (fun kind given => ?_)
  obtain ⟨found, registered, rfl⟩ := registered_of_kind given
  cases structured : scan.injectedSql with
  | some text =>
      have permits := may.probes found _ registered (.prerendered structured)
      exact sends_fetchTempJoin _ _ permits
  | none =>
      refine Emits.liftThen (fun sql rendered => ?_)
      have stated := ScanSpec.Probes.joined structured (Except.mapError_eq_ok.mp rendered)
      exact sends_fetchTempJoin _ _ (may.probes found sql registered stated)

theorem ProbeAllowed.unselectiveProbeScan
    (may : ProbeAllowed df registry allowed datasource injectColumn keys extraSets scan)
    (kind : DsKind)
    : Sends registry allowed
        (unselectiveProbeScan df (nativeConnectors drivers shown) kind datasource scan) := by
  unfold Fedqrs.unselectiveProbeScan
  split
  · exact sends_parallelProbeScan may.pages
  · exact sends_fetchScan may.scans (by simp)

/-- A probe is read with the predicates of its keys, or with a table of them; by cases on each
decision.
-/
theorem ProbeAllowed.runInjectedScan
    (may : ProbeAllowed df registry allowed datasource injectColumn keys extraSets scan)
    (injectColumnNdv : Option Nat)
    : Sends registry allowed
        (runInjectedScan df (nativeConnectors drivers shown) datasource scan injectColumn keys
          injectColumnNdv extraSets) := by
  refine Emits.liftThen (fun extraFilter rendered => ?_)
  have extraNarrows
      : ∀ filter ∈ extraFilter, Narrowing ((injectColumn, keys) :: extraSets) filter :=
    Narrowing.extrasInFilter (fun extra member => List.mem_cons_of_mem _ member) (by simp)
      (Except.mapError_eq_ok.mp rendered)
  split_ifs
  · refine sends_fetchScan may.scans ?_
    intro filter same
    cases same
    exact .nothing
  · refine Emits.liftThen (fun list listed => sends_fetchScan may.scans ?_)
    have narrows : Narrowing ((injectColumn, keys) :: extraSets) list :=
      .among List.mem_cons_self (Except.mapError_eq_ok.mp listed)
    intro filter same
    cases same
    exact narrows.andOption extraNarrows
  · refine (sends_kind datasource).bind (fun kind given => ?_)
    obtain ⟨found, registered, rfl⟩ := registered_of_kind given
    split_ifs with parquet _
    · exact sends_fetchScan may.scans extraNarrows
    · exact sends_fetchScan may.scans extraNarrows
    · refine (may.unindexedPostgres registered).andThen (fun unindexed => ?_)
      cases unindexed with
      | true => exact may.unselectiveProbeScan found.kind
      | false =>
          refine Emits.andThen (may.unselective registered parquet _ _) (fun most => ?_)
          cases most with
          | true => exact may.unselectiveProbeScan found.kind
          | false => exact may.tempTableProbe

end Probe

-----------------------------------------------------------------------------------------
-- A step and a run
-----------------------------------------------------------------------------------------

section Runs

variable {engine : Engine Sources Batches}

/-- What a step does at the sources adds what it may send; by cases on the step. -/
theorem moves_sends (native : engine.connectors = nativeConnectors drivers shown)
    {machine : Machine Sources Batches} (start : machine.source.registry = registry) (step : Step)
    : Moves engine (Adds Sources.registry Sources.log (step.Sends engine registry machine)) machine
        step := by
  cases step with
  | collectDistinct | merge | «return» => trivial
  | sourceScan datasource scan binding _ =>
      simp only [Moves, native]
      exact sends_fetchSource (Covers.readOf datasource _) machine.source start
  | injectedScan datasource scan injectColumn keysFrom binding injectColumnNdv extras =>
      intro keys extraSets readKeys readExtras
      simp only [native]
      have may
          : ProbeAllowed engine.exprs registry
              (Step.Sends engine registry
                (.injectedScan datasource scan injectColumn keysFrom binding injectColumnNdv extras)
                machine)
              datasource injectColumn keys extraSets scan := by
        refine ⟨?_, ?_, ?_, ?_⟩
        · intro found sql registered scans session answer
          exact ⟨keys, extraSets, readKeys, readExtras,
            Or.inl (.read session answer registered (Or.inl scans))⟩
        · intro found sql registered pages session answer
          exact ⟨keys, extraSets, readKeys, readExtras,
            Or.inl (.read session answer registered (Or.inr (Or.inl pages)))⟩
        · intro found sql registered probes session answer
          exact ⟨keys, extraSets, readKeys, readExtras,
            Or.inl (.read session answer registered (Or.inr (Or.inr probes)))⟩
        · intro target
          exact ⟨keys, extraSets, readKeys, readExtras, Or.inr ⟨target, rfl⟩⟩
      exact may.runInjectedScan injectColumnNdv machine.source start
  | ship datasource input table =>
      intro forced batches forcing taken
      rw [native]
      have same : forced.source.registry = registry := by
        rw [forceMaterialized_source forcing]
        exact start
      refine sends_shipTable ?_ ?_ forced.source same
      · intro found registered duck
        exact ⟨found, batches, forced, registered, duck, forcing, taken, Or.inl rfl⟩
      · intro found registered duck
        exact ⟨found, batches, forced, registered, duck, forcing, taken, Or.inr rfl⟩

/-- A step adds to the log what it may send. -/
theorem adds_runStep (native : engine.connectors = nativeConnectors drivers shown) (ir : Ir)
    (step : Step) (machine : Machine Sources Batches) (start : machine.source.registry = registry)
    : Adds (fun machine : Machine Sources Batches => machine.source.registry)
        (fun machine => machine.source.log) (step.Sends engine registry machine) machine
        (runStep engine ir step machine).2 := by
  have further
      : ∀ before after : Sources,
          Adds Sources.registry Sources.log (step.Sends engine registry machine) before after
            → Adds Sources.registry Sources.log (step.Sends engine registry machine)
                machine.source before
            → Adds Sources.registry Sources.log (step.Sends engine registry machine)
                machine.source after :=
    fun _ _ added so => so.trans added
  exact runStep_source ir further (moves_sends native start step) (.same rfl rfl)

/-- Between its two clearings a run logs what the steps that it runs may send, part by part in the
plan's order: a step that fails or returns is the last. In particular only the datasources that
those steps name are asked, in the dialects they are registered with.
-/
theorem execute_sends (engine : Engine Sources Batches) (drivers : Drivers)
    (shown : ScalarValue → String) (native : engine.connectors = nativeConnectors drivers shown)
    (ir : Ir) (sources : Sources)
    : ∃ parts : List (List Event),
        (execute engine ir sources).2.log
            = sources.log ++ [.cleared] ++ parts.flatten ++ [.cleared]
          ∧ List.Forall₂
              (fun entry events =>
                ∀ event ∈ events, Step.Sends engine sources.registry entry.1 entry.2 event)
              (entered (runStep engine ir) ir.steps
                (Machine.start ir (engine.connectors.clearShipments sources)))
              parts := by
  have cleared (other : Sources)
      : (engine.connectors.clearShipments other).registry = other.registry
          ∧ (engine.connectors.clearShipments other).log = other.log ++ [.cleared] := by
    rw [native]
    exact ⟨rfl, rfl⟩
  have start
      : (Machine.start ir (engine.connectors.clearShipments sources)
          : Machine Sources Batches).source.registry = sources.registry :=
    (cleared sources).1
  obtain ⟨parts, grown, each⟩ := runUntil_adds (adds_runStep native ir) ir.steps start
  refine ⟨parts, ?_, each⟩
  have last := (cleared (runSteps engine ir (engine.connectors.clearShipments sources)).2.source).2
  refine last.trans (congrArg (· ++ [Event.cleared]) ?_)
  rw [← (cleared sources).2]
  exact grown

/-- A run that reads a table and ships it back. -/
theorem execute_sends_shipBackPlan
    : ∃ parts : List (List Event),
        (execute (referenceEngine tableDrivers) (shipBackPlan "facts") dimSources).2.log
            = [] ++ [.cleared] ++ parts.flatten ++ [.cleared]
          ∧ List.Forall₂
              (fun entry events =>
                ∀ event ∈ events,
                  Step.Sends (referenceEngine tableDrivers) dimSources.registry entry.1 entry.2
                    event)
              (entered (runStep (referenceEngine tableDrivers) (shipBackPlan "facts"))
                (shipBackPlan "facts").steps
                (Machine.start (shipBackPlan "facts") (clearShipments dimSources)))
              parts :=
  execute_sends (referenceEngine tableDrivers) tableDrivers (fun _ => "") rfl _ dimSources

end Runs

end Fedqrs
