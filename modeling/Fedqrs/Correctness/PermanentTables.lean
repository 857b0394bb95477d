import Fedqrs.Engine.Effects
import Fedqrs.Engine.ProbeEffects
import Fedqrs.Semantics.ReferenceEngine

/-! When a run leaves the permanent tables of its sources alone. Texts that the plan sends are
taken to be read-only, so only the unqualified drops around temp tables can reach one.
-/

namespace Fedqrs

/-- An unqualified drop meets a temp table of the session, or no table at all. -/
def Covered (sources : Sources) (session : Session) (table : String) : Prop :=
  session.temps.lookup table ≠ none
    ∨ (sources.catalogs session.database).schemaOf session.database.kind table = none

/-- The drops of a step from this state are covered: of a shipped table on the connection
pinned for its path, and of the keys table on the pooled connection of a semi-join.
-/
def Spares (connectors : Connectors Sources Batches) (machine : Machine Sources Batches)
    : Step → Prop
  | .ship datasource _ table =>
      ∀ found, machine.source.registry.lookup datasource = some found → found.kind = .duckDb
        → Covered machine.source (machine.source.pinnedOn found.uri) table
  | .injectedScan datasource scan injectColumn keysFrom _ injectColumnNdv extras =>
      ∀ keys extraSets reached found,
        keysBinding keysFrom machine = (.ok keys, machine)
          → extraKeys extras machine = (.ok extraSets, machine)
          → chooseDelivery connectors datasource scan injectColumn keys injectColumnNdv extraSets
              machine.source = (.ok .tempTable, reached)
          → machine.source.registry.lookup datasource = some found → found.kind = .postgres
          → Covered machine.source (machine.source.pooled datasource found) dynKeysTempTable
  | .sourceScan _ _ _ _ | .collectDistinct _ _ _ _ | .merge _ _ _ | .return _ => True

/-- A drop of a name without a permanent table changes no table. -/
theorem Catalog.dropUnqualified_of_none {kind : DsKind} {catalog : Catalog} {table : String}
    (missing : catalog.schemaOf kind table = none)
    : catalog.dropUnqualified kind table = catalog := by
  simp [Catalog.dropUnqualified, missing]

/-- The touches of a run that may drop only names without a permanent table. -/
def HarmlessTouch (sources : Sources) : Touch → Prop
  | .drop database table => (sources.catalogs database).schemaOf database.kind table = none
  | .ask _ | .recall _ | .registry | .workers | .alter _ | .join _ _ _ | .pin _ | .ship _ _ _ _ =>
      True

/-- Harmless changes keep the permanent tables, by induction over them. -/
theorem catalogs_of_harmless {before after : Sources}
    (changes : Relation.ReflTransGen (SourceEffect (HarmlessTouch before)) before after)
    : after.catalogs = before.catalogs := by
  have kept
      : ∀ middle next, SourceEffect (HarmlessTouch before) middle next
          → middle.catalogs = before.catalogs → next.catalogs = before.catalogs := by
    intro middle next change same
    cases change with
    | dropped database table allowed =>
        change Function.update _ _ _ = _
        rw [same, Catalog.dropUnqualified_of_none allowed, Function.update_eq_self]
    | ticked | registered | connected | altered | instanced | contexted | answered | recalled
    | judged | worked | pinned | shipping | replaced | shipped => exact same
  exact Proc.changes_keep kept changes rfl

/-- A covered drop is harmless. -/
theorem Covered.harmless {sources : Sources} {session : Session} {table : String}
    (covered : Covered sources session table) (missing : session.temps.lookup table = none)
    : HarmlessTouch sources (.drop session.database table) :=
  covered.resolve_left (fun present => present missing)

section Runs

variable {engine : Engine Sources Batches} {drivers : Drivers} {shown : ScalarValue → String}

/-- What a step with covered drops does at the sources keeps the permanent tables. -/
theorem Spares.moves (native : engine.connectors = nativeConnectors drivers shown)
    {machine : Machine Sources Batches} {step : Step}
    (spares : Spares engine.connectors machine step)
    : Moves engine (fun before after => after.catalogs = before.catalogs) machine step := by
  cases step with
  | collectDistinct | merge | «return» => trivial
  | sourceScan datasource scan binding _ =>
      simp only [Moves, native]
      exact catalogs_of_harmless (leads_fetchSource scan trivial trivial).changes
  | injectedScan datasource scan injectColumn keysFrom binding injectColumnNdv extras =>
      intro keys extraSets readKeys readExtras
      simp only [native]
      apply catalogs_of_harmless
      refine (leads_runInjectedScan scan injectColumn keys injectColumnNdv extraSets trivial
        (fun _ => trivial) ?_).changes
      intro delivery reached chosen
      cases delivery with
      | filtered extraFilter => trivial
      | parallel => trivial
      | tempTable =>
          intro found registered
          have untouched := untouched_chooseDelivery chosen
          rw [untouched.registry] at registered
          unfold JoinAllowed
          split
          · rename_i postgres
            refine ⟨trivial, ?_⟩
            rw [untouched.pooled datasource found registered]
            have covered :=
              spares keys extraSets reached found readKeys readExtras (native ▸ chosen) registered
                postgres
            exact covered.harmless
          · exact fun _ _ _ _ => trivial
          · trivial
  | ship datasource input table =>
      intro forced batches forcing _
      have source := forceMaterialized_source forcing
      rw [source, native]
      apply catalogs_of_harmless
      refine (leads_shipTable ?_).changes
      intro found registered duck
      exact ⟨trivial, (spares found registered duck).harmless, fun _ _ _ _ _ => trivial⟩

/-- Such a step keeps the permanent tables, as every other change of the machine does. -/
theorem Spares.runStep (native : engine.connectors = nativeConnectors drivers shown) (ir : Ir)
    {machine : Machine Sources Batches} {step : Step}
    (spares : Spares engine.connectors machine step)
    : (Fedqrs.runStep engine ir step machine).2.source.catalogs = machine.source.catalogs := by
  have kept
      : ∀ before after : Sources, after.catalogs = before.catalogs
          → before.catalogs = machine.source.catalogs → after.catalogs = machine.source.catalogs :=
    fun _ _ moved same => moved.trans same
  exact runStep_source ir kept (spares.moves native) rfl

/-- A run whose drops are covered, step by step, leaves the permanent tables of every database
as they were, however it ends.
-/
theorem execute_keeps_catalogs (engine : Engine Sources Batches) (drivers : Drivers)
    (shown : ScalarValue → String) (native : engine.connectors = nativeConnectors drivers shown)
    (ir : Ir) (sources : Sources)
    (spares : Proc.Along (runStep engine ir) (Spares engine.connectors) ir.steps
      (Machine.start ir (engine.connectors.clearShipments sources)))
    : (execute engine ir sources).2.catalogs = sources.catalogs := by
  have cleared
      : ∀ other, (engine.connectors.clearShipments other).catalogs = other.catalogs := by
    intro other
    rw [native]
    rfl
  have run
      : (runSteps engine ir (engine.connectors.clearShipments sources)).2.source.catalogs
        = sources.catalogs := by
    have step
        : ∀ machine step, Spares engine.connectors machine step
            → machine.source.catalogs = sources.catalogs
            → (runStep engine ir step machine).2.source.catalogs = sources.catalogs :=
      fun machine step spared same => (spared.runStep native ir).trans same
    exact Proc.runUntil_preserves step ir.steps _ (cleared sources) spares
  exact (cleared _).trans run

end Runs

def duckFile : Database := { kind := .duckDb, uri := "d.db" }

def pgServer : Database := { kind := .postgres, uri := "pg" }

/-- A DuckDB file with a table `dim`, and a Postgres database that has one and a table with
the name of the keys table.
-/
def dimCatalogs : Database → Catalog
  | { kind := .duckDb, .. } =>
      { searchPath := ["main"], tables := [(("main", "dim"), intHeap "v" [(0, 1)])] }
  | _ =>
      {
        searchPath := ["public"]
        tables :=
          [(("public", "dim"), intHeap "v" [(0, 1)]),
            (("public", "fedq_dyn_keys"), intHeap "v" [(0, 7)])]
      }

def dimSources : Sources :=
  Sources.new
    [("duck", { kind := .duckDb, uri := "d.db", adbcDriver := none }),
      ("pg", { kind := .postgres, uri := "pg", adbcDriver := some "libpq" })]
    dimCatalogs

/-- Read the table `dim` and ship it back under a name. -/
def shipBackPlan (table : String) : Ir where
  outputs := []
  steps :=
    [.sourceScan "duck" { table := some "dim", columns := ["v"] } "x" true,
      .ship "duck" "x" table,
      .return "x"]
  fragments := ∅

/-- Read `dim` of the Postgres database where it joins its own values. -/
def keysPlan : Ir where
  outputs := []
  steps :=
    [.sourceScan "pg" { table := some "dim", columns := ["v"] } "x" true,
      .collectDistinct "x" "v" 10 "k",
      .injectedScan "pg" { rawSql := some "dim", injectedSql := some "dim" } "v" "k" "y" none [],
      .return "y"]
  fragments := ∅

/-- A shipment under a name that no table has drops nothing. -/
theorem execute_keeps_catalogs_shipBackPlan
    : (execute (referenceEngine tableDrivers) (shipBackPlan "facts") dimSources).2.catalogs
      = dimSources.catalogs := by
  apply execute_keeps_catalogs (referenceEngine tableDrivers) tableDrivers (fun _ => "") rfl
  refine ⟨trivial, ?_⟩
  intro scanned ran
  cases ran
  refine ⟨?_, ?_⟩
  · intro found registered _
    cases registered
    exact Or.inr rfl
  · intro shipped _
    exact ⟨trivial, fun _ _ => trivial⟩

/-- A successful run drops the permanent table that a shipment is named like, in whatever case the
name is spelt, and another the one that has the name of the keys table.
-/
theorem execute_drops_tables
    : (∀ table ∈ ["dim", "DIM"], ∃ rows sources,
        execute (referenceEngine tableDrivers) (shipBackPlan table) dimSources
            = (.ok rows, sources)
          ∧ (dimSources.catalogs duckFile).tables ≠ []
          ∧ (sources.catalogs duckFile).tables = [])
      ∧ ∃ rows sources, execute (referenceEngine tableDrivers) keysPlan dimSources
          = (.ok rows, sources)
        ∧ (dimSources.catalogs pgServer).schemaOf .postgres "fedq_dyn_keys" = some "public"
        ∧ (sources.catalogs pgServer).schemaOf .postgres "fedq_dyn_keys" = none := by
  refine ⟨?_, _, _, rfl, by decide, by decide⟩
  intro table member
  simp only [List.mem_cons, List.not_mem_nil, or_false] at member
  rcases member with rfl | rfl
  · exact ⟨_, _, rfl, by decide, by decide⟩
  · exact ⟨_, _, rfl, by decide, by decide⟩

end Fedqrs
