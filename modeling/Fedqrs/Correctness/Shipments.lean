import Fedqrs.Engine.Effects
import Fedqrs.Engine.ProbeEffects
import Fedqrs.Semantics.DuckTypes
import Fedqrs.Semantics.ReferenceEngine

/-! When the reads of a run see the tables it has shipped to DuckDB, and only those. -/

namespace Fedqrs

-----------------------------------------------------------------------------------------
-- Shipments of a run
-----------------------------------------------------------------------------------------

/-- What an event makes of the relation shipped to a table, whose name DuckDB compares. -/
def Event.ships (path table : String) (current : Option Batches) : Event → Option Batches
  | .shipping other name =>
      if other = path ∧ DsKind.duckDb.SameName table name then none else current
  | .shipped other name rows =>
      if other = path ∧ DsKind.duckDb.SameName table name then some rows else current
  | .read _ _ _ _ | .recalled _ _ | .cleared => current

/-- The last relation shipped to a table of a DuckDB path, none while one is under way. -/
def shippedTo (path table : String) (events : List Event) : Option Batches :=
  events.foldl (Event.ships path table) none

/-- An event that is no part of a shipment. -/
def Event.Plain : Event → Prop
  | .read _ _ _ _ | .recalled _ _ | .cleared => True
  | .shipping _ _ | .shipped _ _ _ => False

@[simp]
theorem shippedTo_append (path table : String) (events later : List Event)
    : shippedTo path table (events ++ later)
      = later.foldl (Event.ships path table) (shippedTo path table events) :=
  List.foldl_append

/-- Plain events ship nothing, by induction over them. -/
theorem shippedTo_plain {later : List Event} (plain : ∀ event ∈ later, event.Plain)
    (path table : String) (events : List Event)
    : shippedTo path table (events ++ later) = shippedTo path table events := by
  rw [shippedTo_append]
  generalize shippedTo path table events = current
  induction later with
  | nil => rfl
  | cons event rest ih =>
      have here := plain event List.mem_cons_self
      rw [List.foldl_cons]
      have same : event.ships path table current = current := by
        cases event with
        | read | recalled | cleared => rfl
        | shipping | shipped => cases here
      rw [same]
      exact ih (fun other member => plain other (List.mem_cons_of_mem event member))

/-- A shipment under way has shipped nothing yet. -/
theorem shippedTo_shipping {path table other : String} {events : List Event}
    (last : events.getLast? = some (.shipping path table))
    (same : DsKind.duckDb.SameName other table)
    : shippedTo path other events = none := by
  obtain ⟨before, rfl⟩ := List.getLast?_eq_some_iff.mp last
  simp [Event.ships, same]

/-- A shipment to a table of the name has begun. -/
def Begun (events : List Event) (path table : String) : Prop :=
  ∃ name, DsKind.duckDb.SameName table name ∧ .shipping path name ∈ events

theorem Begun.append {events : List Event} {path table : String}
    (begun : Begun events path table) (later : List Event)
    : Begun (events ++ later) path table := by
  obtain ⟨name, same, member⟩ := begun
  exact ⟨name, same, List.mem_append_left later member⟩

/-- A connection has every shipped table of a path, with rows that stand for those shipped. -/
def HasShipped (events : List Event) (path : String) (session : Session) : Prop :=
  ∀ table rows, shippedTo path table events = some rows
    → ∃ kept, session.temps.lookup table = some kept ∧ kept.SameData rows

/-- Plain events ship nothing to have. -/
theorem HasShipped.append {events later : List Event} {path : String} {session : Session}
    (has : HasShipped events path session) (plain : ∀ event ∈ later, event.Plain)
    : HasShipped (events ++ later) path session := by
  intro table rows shipped
  rw [shippedTo_plain plain] at shipped
  exact has table rows shipped

/-- A pinned connection shows the shipments to its path: every shipped table with its rows, and
no temp table whose shipment has not begun.
-/
structure Shows (events : List Event) (path : String) (session : Session) : Prop where
  database : session.database = { kind := .duckDb, uri := path }
  rows : HasShipped events path session
  only : ∀ table rows, session.temps.lookup table = some rows → Begun events path table

/-- A read sees the shipments to its path: it runs on that database, every shipped table has
the rows of its last shipment, and every temp table is one of this run's shipments or the keys
table that the read itself brought.
-/
structure Sees (drivers : Drivers) (events : List Event) (found : DsSpec) (session : Session)
    : Prop where
  database : session.database = found.database
  rows : HasShipped events found.uri session
  only : ∀ table rows, session.temps.lookup table = some rows
    → Begun events found.uri table
      ∨ DsKind.duckDb.SameName table dynKeysTempTable
        ∧ ∃ call cursor keys, drivers.ingest call cursor dynKeysTempTable keys = .stored rows

theorem Shows.sees {drivers : Drivers} {events : List Event} {found : DsSpec} {session : Session}
    (shows' : Shows events found.uri session) (duck : found.kind = .duckDb)
    : Sees drivers events found session where
  database := by
    rw [shows'.database, DsSpec.database, duck]
  rows := shows'.rows
  only table rows held := Or.inl (shows'.only table rows held)

/-- Plain events change nothing of what a read sees. -/
theorem Sees.append {drivers : Drivers} {events later : List Event} {found : DsSpec}
    {session : Session} (sees : Sees drivers events found session)
    (plain : ∀ event ∈ later, event.Plain)
    : Sees drivers (events ++ later) found session where
  database := sees.database
  rows := sees.rows.append plain
  only table rows held := (sees.only table rows held).imp_left (fun begun => begun.append later)

theorem Shows.append {events later : List Event} {path : String} {session : Session}
    (shows' : Shows events path session) (plain : ∀ event ∈ later, event.Plain)
    : Shows (events ++ later) path session where
  database := shows'.database
  rows := shows'.rows.append plain
  only table rows held := (shows'.only table rows held).append later

-----------------------------------------------------------------------------------------
-- A run under way
-----------------------------------------------------------------------------------------

/-- Every read of a DuckDB source among the events sees the shipments before it. -/
def AllSee (drivers : Drivers) (registry : NameMap DsSpec) (events : List Event) : Prop :=
  ∀ before name session sql answer rest found,
    events = before ++ .read name session sql answer :: rest
      → registry.lookup name = some found → found.kind = .duckDb
      → Sees drivers before found session

/-- A run that has logged some events since it cleared the shipments of the runs before. -/
structure Underway (drivers : Drivers) (specs : NameMap DsSpec) (cleared : List Event)
    (sources : Sources) (events : List Event)
    : Prop where
  registry : sources.registry = specs
  log : sources.log = cleared ++ events
  seen : AllSee drivers specs events
  pinned : ∀ path session, sources.pinnedDuck.lookup path = some session
    → Shows events path session
  unpinned : ∀ path, sources.pinnedDuck.lookup path = none
    → ∀ table, shippedTo path table events = none

/-- Events after others either come among them or after all of them. -/
theorem AllSee.append {drivers : Drivers} {registry : NameMap DsSpec} {events later : List Event}
    (seen : AllSee drivers registry events)
    (sees : ∀ before name session sql answer rest found,
      later = before ++ .read name session sql answer :: rest
        → registry.lookup name = some found → found.kind = .duckDb
        → Sees drivers (events ++ before) found session)
    : AllSee drivers registry (events ++ later) := by
  intro before name session sql answer rest found split registered duck
  rcases List.append_eq_append_iff.mp split with ⟨middle, rfl, inside⟩ | ⟨middle, among, inside⟩
  · exact sees middle name session sql answer rest found inside registered duck
  · cases middle with
    | nil =>
        rw [List.append_nil] at among
        subst among
        have later' : later = [] ++ .read name session sql answer :: rest := inside.symm
        simpa using sees [] name session sql answer rest found later' registered duck
    | cons head middle =>
        cases inside
        exact seen before name session sql answer middle found among registered duck

section Changes

variable {drivers : Drivers} {specs : NameMap DsSpec} {cleared events : List Event}
  {sources : Sources}

/-- The run has logged more plain events, whose reads see the shipments so far. -/
theorem Underway.append (underway : Underway drivers specs cleared sources events)
    {later : List Event} (plain : ∀ event ∈ later, event.Plain)
    (sees : ∀ name session sql answer found, .read name session sql answer ∈ later
      → specs.lookup name = some found → found.kind = .duckDb
      → Sees drivers events found session)
    : Underway drivers specs cleared { sources with log := sources.log ++ later }
        (events ++ later) where
  registry := underway.registry
  log := by
    rw [← List.append_assoc, ← underway.log]
  seen := by
    apply underway.seen.append
    intro before name session sql answer rest found inside registered duck
    have member : Event.read name session sql answer ∈ later := by simp [inside]
    have before_plain : ∀ event ∈ before, event.Plain :=
      fun event among => plain event (by simp [inside, among])
    exact (sees name session sql answer found member registered duck).append before_plain
  pinned path session held := (underway.pinned path session held).append plain
  unpinned path missing table := by
    rw [shippedTo_plain plain]
    exact underway.unpinned path missing table

/-- The same run, for sources with the same registry, log and pinned connections. -/
theorem Underway.of_same (underway : Underway drivers specs cleared sources events)
    {next : Sources} (registry : next.registry = sources.registry) (log : next.log = sources.log)
    (pinned : next.pinnedDuck = sources.pinnedDuck)
    : Underway drivers specs cleared next events where
  registry := registry.trans underway.registry
  log := log.trans underway.log
  seen := underway.seen
  pinned path session held := underway.pinned path session (pinned ▸ held)
  unpinned path missing table := underway.unpinned path (pinned ▸ missing) table

/-- A cursor is pinned for a path without shipments. -/
theorem Underway.pin (underway : Underway drivers specs cleared sources events) {path : String}
    (missing : sources.pinnedDuck.lookup path = none)
    : Underway drivers specs cleared
        {
          sources with
          pinnedDuck :=
            sources.pinnedDuck.insert path (.fresh (.duck path))
        }
        events where
  registry := underway.registry
  log := underway.log
  seen := underway.seen
  pinned other session held := by
    by_cases same : other = path
    · subst same
      rw [AList.lookup_insert] at held
      cases held
      refine ⟨rfl, ?_, fun table rows held => ?_⟩
      · intro table rows shipped
        rw [underway.unpinned other missing table] at shipped
        cases shipped
      · cases (TempTables.lookup_empty table .duckDb).symm.trans held
    · rw [AList.lookup_insert_ne same] at held
      exact underway.pinned other session held
  unpinned other absent table := by
    by_cases same : other = path
    · subst same
      rw [AList.lookup_insert] at absent
      cases absent
    · rw [AList.lookup_insert_ne same] at absent
      exact underway.unpinned other absent table

/-- A shipment is no read. -/
theorem AllSee.ship (seen : AllSee drivers specs events) {event : Event} (ships : ¬ event.Plain)
    : AllSee drivers specs (events ++ [event]) := by
  apply seen.append
  intro before name session sql answer rest found inside _ _
  have member : Event.read name session sql answer ∈ [event] := by simp [inside]
  rw [List.mem_singleton] at member
  subst member
  exact absurd trivial ships

/-- A shipment to a table begins. -/
theorem Underway.begin (underway : Underway drivers specs cleared sources events)
    (path table : String)
    : Underway drivers specs cleared
        { sources with log := sources.log ++ [.shipping path table] }
        (events ++ [.shipping path table]) where
  registry := underway.registry
  log := by
    rw [← List.append_assoc, ← underway.log]
  seen := underway.seen.ship id
  pinned other session held := by
    have shown := underway.pinned other session held
    refine ⟨shown.database, ?_, fun name rows held => ?_⟩
    · intro name rows shipped
      simp only [shippedTo_append, List.foldl_cons, List.foldl_nil, Event.ships] at shipped
      split at shipped
      · cases shipped
      · exact shown.rows name rows shipped
    · exact (shown.only name rows held).append _
  unpinned other absent name := by
    simp only [shippedTo_append, List.foldl_cons, List.foldl_nil, Event.ships]
    split
    · rfl
    · exact underway.unpinned other absent name

/-- While a shipment to a table is under way, that table of its connection may change. -/
theorem Underway.replace (underway : Underway drivers specs cleared sources events)
    {path table : String} {session next : Session}
    (held : sources.pinnedDuck.lookup path = some session)
    (database : next.database = session.database)
    (begun : events.getLast? = some (.shipping path table))
    (others : ∀ other, ¬ session.temps.kind.SameName other table
      → next.temps.lookup other = session.temps.lookup other)
    : Underway drivers specs cleared
        { sources with pinnedDuck := sources.pinnedDuck.insert path next } events where
  registry := underway.registry
  log := underway.log
  seen := underway.seen
  pinned other changed present := by
    by_cases same : other = path
    · subst same
      rw [AList.lookup_insert] at present
      cases present
      have shown := underway.pinned other session held
      rw [session.named_database, shown.database] at others
      refine ⟨database.trans shown.database, ?_, ?_⟩
      · intro name rows shipped
        by_cases its : DsKind.duckDb.SameName name table
        · rw [shippedTo_shipping begun its] at shipped
          cases shipped
        · rw [others name its]
          exact shown.rows name rows shipped
      · intro name rows stored
        by_cases its : DsKind.duckDb.SameName name table
        · exact ⟨table, its, List.mem_of_getLast? begun⟩
        · rw [others name its] at stored
          exact shown.only name rows stored
    · rw [AList.lookup_insert_ne same] at present
      exact underway.pinned other changed present
  unpinned other absent name := by
    by_cases same : other = path
    · subst same
      rw [AList.lookup_insert] at absent
      cases absent
    · rw [AList.lookup_insert_ne same] at absent
      exact underway.unpinned other absent name

/-- A shipment is done when its table holds rows that stand for those given. -/
theorem Underway.finish (underway : Underway drivers specs cleared sources events)
    {path table : String} {session : Session} {rows kept : Batches}
    (held : sources.pinnedDuck.lookup path = some session)
    (stored : session.temps.lookup table = some kept) (same : kept.SameData rows)
    : Underway drivers specs cleared
        { sources with log := sources.log ++ [.shipped path table rows] }
        (events ++ [.shipped path table rows]) where
  registry := underway.registry
  log := by
    rw [← List.append_assoc, ← underway.log]
  seen := underway.seen.ship id
  pinned other changed present := by
    have shown := underway.pinned other changed present
    refine ⟨shown.database, ?_, fun name rows held => (shown.only name rows held).append _⟩
    intro name rows shipped
    simp only [shippedTo_append, List.foldl_cons, List.foldl_nil, Event.ships] at shipped
    split at shipped
    · rename_i its
      obtain ⟨rfl, its⟩ := its
      rw [held] at present
      cases present
      cases shipped
      refine ⟨kept, ?_, same⟩
      rw [← stored]
      apply TempTables.lookup_congr
      rw [session.named_database, shown.database]
      exact its
    · exact shown.rows name rows shipped
  unpinned other absent name := by
    simp only [shippedTo_append, List.foldl_cons, List.foldl_nil, Event.ships]
    split
    · rename_i same
      rw [← same.1, held] at absent
      cases absent
    · exact underway.unpinned other absent name

/-- Keys are joined on cursors of paths that are not pinned, before or meanwhile, and what is
shipped is stored with what it stands for.
-/
structure Separate (drivers : Drivers) (may : Touch → Prop) (start : Sources) : Prop where
  registry : ¬ may .registry
  joins : ∀ path table kept, may (.join path table kept)
    → (∀ other, ¬ may (.pin other)) ∧ start.pinnedDuck.lookup path = none
      ∧ table = dynKeysTempTable
      ∧ ∃ call cursor keys, drivers.ingest call cursor dynKeysTempTable keys = .stored kept
  ships : ∀ path table rows kept, may (.ship path table rows kept) → kept.SameData rows

/-- How far a step of the run has come. -/
structure Advancing (drivers : Drivers) (specs : NameMap DsSpec) (cleared : List Event)
    (may : Touch → Prop) (start sources : Sources)
    : Prop where
  underway : ∃ events, Underway drivers specs cleared sources events
  pins : (∀ other, ¬ may (.pin other)) → sources.pinnedDuck = start.pinnedDuck

variable {may : Touch → Prop} {start : Sources}

/-- Where a read of a DuckDB source runs, it sees the shipments so far; by cases on where that
is.
-/
theorem Underway.origin (underway : Underway drivers specs cleared sources events)
    (separate : Separate drivers may start)
    (pins : (∀ other, ¬ may (.pin other)) → sources.pinnedDuck = start.pinnedDuck)
    {name : String} {found : DsSpec} {session : Session}
    (origin : Origin may sources name found session) (duck : found.kind = .duckDb)
    : Sees drivers events found session := by
  cases origin with
  | pooled postgres held =>
      rw [duck] at postgres
      cases postgres
  | context parquet =>
      rw [duck] at parquet
      cases parquet
  | pinned _ held => exact (underway.pinned found.uri session held).sees duck
  | cursor _ unpinned =>
      refine ⟨rfl, ?_, fun table rows held => ?_⟩
      · intro table rows shipped
        rw [underway.unpinned found.uri unpinned table] at shipped
        cases shipped
      · cases (TempTables.lookup_empty table found.target.database.kind).symm.trans held
  | @keyed _ table kept _ allowed target keys others =>
      obtain ⟨unmoved, missing, named, stored⟩ := separate.joins found.uri table kept allowed
      rw [← pins unmoved] at missing
      have names : session.temps.kind = .duckDb := by
        rw [session.named, target]
        exact duck
      refine ⟨congrArg Target.database target, ?_, ?_⟩
      · intro other rows shipped
        rw [underway.unpinned found.uri missing other] at shipped
        cases shipped
      · intro other rows held
        by_cases its : session.temps.kind.SameName other table
        · rw [TempTables.lookup_congr its, keys] at held
          cases held
          rw [names, named] at its
          exact Or.inr ⟨its, stored⟩
        · rw [others other its] at held
          cases held

/-- Every elementary change keeps the run under way; by cases on the change. -/
theorem Advancing.step {next : Sources} (separate : Separate drivers may start)
    (last : cleared.getLast? = some .cleared) (change : SourceEffect may sources next)
    (advancing : Advancing drivers specs cleared may start sources)
    : Advancing drivers specs cleared may start next := by
  obtain ⟨⟨events, underway⟩, pins⟩ := advancing
  cases change with
  | ticked | connected | altered | instanced | contexted | judged | dropped =>
      exact ⟨⟨events, underway.of_same rfl rfl rfl⟩, pins⟩
  | registered name found allowed => exact absurd allowed separate.registry
  | answered name found session sql answer asks registered origin =>
      refine ⟨⟨_, underway.append ?_ ?_⟩, pins⟩
      · intro event member
        rw [List.mem_singleton] at member
        subst member
        trivial
      · intro other run text reply spec member known duck
        rw [List.mem_singleton] at member
        cases member
        rw [← underway.registry, registered] at known
        cases known
        exact underway.origin separate pins origin duck
  | recalled name key verdict asks recalls cached =>
      refine ⟨⟨_, underway.append ?_ ?_⟩, pins⟩
      · intro event member
        rw [List.mem_singleton] at member
        subst member
        trivial
      · intro other run text reply spec member
        simp at member
  | worked name found workers calls later asks allowed registered grown reads postgres =>
      have plain : ∀ event ∈ later, event.Plain := by
        intro event member
        obtain ⟨database, sql, answer, rfl, _⟩ := reads event member
        trivial
      refine ⟨⟨_, (underway.append plain ?_).of_same rfl rfl rfl⟩, pins⟩
      · intro other run text reply spec member known duck
        obtain ⟨database, sql, answer, same, _⟩ := reads _ member
        cases same
        rw [← underway.registry, registered] at known
        cases known
        rw [duck] at postgres
        cases postgres
  | pinned path allowed missing =>
      exact ⟨⟨events, underway.pin missing⟩, fun unmoved => absurd allowed (unmoved path)⟩
  | shipping path table session allowed held => exact ⟨⟨_, underway.begin path table⟩, pins⟩
  | replaced path table session changed allowed held target begun others =>
      refine ⟨⟨events, underway.replace held (congrArg Target.database target) ?_ others⟩,
        fun unmoved => absurd allowed (unmoved path)⟩
      rw [underway.log] at begun
      cases events with
      | nil =>
          rw [List.append_nil, last] at begun
          cases begun
      | cons head rest =>
          rw [List.getLast?_append] at begun
          simpa using begun
  | shipped path table session rows kept allowed held stored =>
      exact ⟨⟨_, underway.finish held stored (separate.ships path table rows kept allowed)⟩, pins⟩

end Changes

-----------------------------------------------------------------------------------------
-- Steps and runs
-----------------------------------------------------------------------------------------

/-- A probe of a DuckDB source is semi-joined with a keys table only where no connection is
pinned for its path, and a relation is shipped to one only where DuckDB's types have all its
values.
-/
def KeepsShipped (engine : Engine Sources Batches) (machine : Machine Sources Batches)
    : Step → Prop
  | .injectedScan datasource scan injectColumn keysFrom _ injectColumnNdv extras =>
      ∀ keys extraSets reached found,
        keysBinding keysFrom machine = (.ok keys, machine)
          → extraKeys extras machine = (.ok extraSets, machine)
          → chooseDelivery engine.connectors datasource scan injectColumn keys injectColumnNdv
              extraSets machine.source = (.ok .tempTable, reached)
          → machine.source.registry.lookup datasource = some found → found.kind = .duckDb
          → machine.source.pinnedDuck.lookup found.uri = none
  | .ship datasource input _ =>
      ∀ found forced rows,
        machine.source.registry.lookup datasource = some found → found.kind = .duckDb
          → forceMaterialized engine.host engine.fusion input machine = (.ok (), forced)
          → materialized input forced = (.ok rows, forced)
          → rows.Storable
  | .sourceScan _ _ _ _ | .collectDistinct _ _ _ _ | .merge _ _ _ | .return _ => True

/-- The touches of a read: it pins nothing, and joins keys where nothing is pinned. -/
def ReadTouch (drivers : Drivers) (start : Sources) : Touch → Prop
  | .ask _ | .recall _ | .workers | .alter _ | .drop _ _ => True
  | .join path table kept =>
      start.pinnedDuck.lookup path = none ∧ table = dynKeysTempTable
        ∧ ∃ call cursor keys, drivers.ingest call cursor dynKeysTempTable keys = .stored kept
  | .registry | .pin _ | .ship _ _ _ _ => False

/-- The touches of a shipment: it joins no keys. -/
def ShipTouch : Touch → Prop
  | .ask _ | .recall _ | .workers | .alter _ | .drop _ _ | .pin _ => True
  | .ship _ _ rows kept => kept.SameData rows
  | .registry | .join _ _ _ => False

theorem ReadTouch.separate (drivers : Drivers) (start : Sources)
    : Separate drivers (ReadTouch drivers start) start :=
  ⟨id, fun _ _ _ allowed => ⟨fun _ => id, allowed⟩, fun _ _ _ _ allowed => False.elim allowed⟩

theorem ShipTouch.separate (drivers : Drivers) (start : Sources)
    : Separate drivers ShipTouch start :=
  ⟨id, fun _ _ _ allowed => False.elim allowed, fun _ _ _ _ allowed => allowed⟩

/-- An ingest into DuckDB stores a value that its column's type has as that value. -/
def Drivers.StoreValues (drivers : Drivers) : Prop :=
  ∀ call session table rows kept, session.database.kind = .duckDb
    → drivers.ingest call session table rows = .stored kept → rows.Storable → kept.SameData rows

section Runs

variable {engine : Engine Sources Batches} {drivers : Drivers} {shown : ScalarValue → String}
  {specs : NameMap DsSpec} {cleared : List Event}

/-- Separate changes keep the run under way, by induction over them. -/
theorem Underway.changes {may : Touch → Prop} {start reached : Sources}
    (separate : Separate drivers may start) (last : cleared.getLast? = some .cleared)
    (changes : Relation.ReflTransGen (SourceEffect may) start reached)
    (underway : ∃ events, Underway drivers specs cleared start events)
    : ∃ events, Underway drivers specs cleared reached events := by
  have kept
      : ∀ before after, SourceEffect may before after
          → Advancing drivers specs cleared may start before
          → Advancing drivers specs cleared may start after :=
    fun _ _ => Advancing.step separate last
  exact (Proc.changes_keep kept changes ⟨underway, fun _ => rfl⟩).underway

/-- The connection that a shipment runs on is one to its file. -/
theorem Underway.pinnedOn {sources : Sources} {events : List Event}
    (underway : Underway drivers specs cleared sources events) (path : String)
    : (sources.pinnedOn path).database = { kind := .duckDb, uri := path } := by
  unfold Sources.pinnedOn
  cases held : sources.pinnedDuck.lookup path with
  | some session => exact (underway.pinned path session held).database
  | none => rfl

/-- What a step that keeps the shipped tables visible does at the sources keeps the run under way.
-/
theorem KeepsShipped.moves (native : engine.connectors = nativeConnectors drivers shown)
    (stores : drivers.StoreValues) (last : cleared.getLast? = some .cleared)
    {machine : Machine Sources Batches} {step : Step} (keeps : KeepsShipped engine machine step)
    : Moves engine
        (fun before after =>
          (∃ events, Underway drivers specs cleared before events)
            → ∃ events, Underway drivers specs cleared after events)
        machine step := by
  cases step with
  | collectDistinct | merge | «return» => trivial
  | sourceScan datasource scan binding _ =>
      simp only [Moves, native]
      exact Underway.changes (ReadTouch.separate drivers machine.source) last
        (leads_fetchSource scan trivial trivial).changes
  | injectedScan datasource scan injectColumn keysFrom binding injectColumnNdv extras =>
      intro keys extraSets readKeys readExtras
      simp only [native]
      apply Underway.changes (ReadTouch.separate drivers machine.source) last
      refine (leads_runInjectedScan scan injectColumn keys injectColumnNdv extraSets trivial
        (fun _ => trivial) ?_).changes
      intro delivery reached chosen
      cases delivery with
      | filtered extraFilter => trivial
      | parallel => trivial
      | tempTable =>
          intro found registered
          have untouched := untouched_chooseDelivery chosen
          rw [untouched.registry] at registered
          unfold JoinAllowed
          split
          · exact ⟨trivial, fun _ => trivial⟩
          · rename_i duck
            intro call cursor kept stored
            have missing :=
              keeps keys extraSets reached found readKeys readExtras (native ▸ chosen) registered
                duck
            exact ⟨missing, rfl, call, cursor, keys, stored⟩
          · trivial
  | ship datasource input table =>
      intro forced batches forcing taken underway
      rw [native]
      obtain ⟨events, present⟩ := underway
      refine Underway.changes (ShipTouch.separate drivers forced.source) last
        (leads_shipTable ?_).changes ⟨events, present⟩
      intro found registered duck
      rw [forceMaterialized_source forcing] at registered
      refine ⟨trivial, fun _ => trivial, ?_⟩
      intro call cursor kept same stored
      rw [present.pinnedOn] at same
      exact stores call cursor table batches kept (congrArg Database.kind same) stored
        (keeps found forced batches registered duck forcing taken)

/-- Such a step keeps the run under way, as every other change of the machine does. -/
theorem KeepsShipped.runStep (native : engine.connectors = nativeConnectors drivers shown)
    (stores : drivers.StoreValues) (last : cleared.getLast? = some .cleared) (ir : Ir)
    {machine : Machine Sources Batches} {step : Step} (keeps : KeepsShipped engine machine step)
    (underway : ∃ events, Underway drivers specs cleared machine.source events)
    : ∃ events,
        Underway drivers specs cleared (Fedqrs.runStep engine ir step machine).2.source events :=
  runStep_source ir (fun _ _ moved present => moved present) (keeps.moves native stores last)
    underway

/-- A successful shipment is logged with its relation. -/
theorem ship_logs (native : engine.connectors = nativeConnectors drivers shown) (ir : Ir)
    {machine reached : Machine Sources Batches} {datasource input table : String}
    (ran : Fedqrs.runStep engine ir (.ship datasource input table) machine = (.ok none, reached))
    : ∃ found rows forced,
        machine.source.registry.lookup datasource = some found ∧ found.kind = .duckDb
          ∧ forceMaterialized engine.host engine.fusion input machine = (.ok (), forced)
          ∧ materialized input forced = (.ok rows, forced)
          ∧ reached.source.log.getLast? = some (.shipped found.uri table rows) := by
  obtain ⟨_, forced, forcing, ran⟩ := Proc.bind_eq_ok.mp ran
  obtain ⟨rows, same, taken, ran⟩ := Proc.bind_eq_ok.mp ran
  cases (materialized_reads input).reached taken
  obtain ⟨_, shipped, shipping, ran⟩ := Proc.bind_eq_ok.mp ran
  obtain ⟨_, noted, noting, done⟩ := Proc.bind_eq_ok.mp ran
  cases noting
  cases done
  have performed := onSource_eq_ok shipping
  rw [native] at performed
  have leads
      : Proc.Leads (SourceEffect (fun _ => True)) forced.source
          (shipTable drivers datasource table rows)
          (fun _ reached => ∃ found, forced.source.registry.lookup datasource = some found
            ∧ found.kind = .duckDb
            ∧ reached.log.getLast? = some (.shipped found.uri table rows)) :=
    leads_shipTable (fun _ _ _ => ⟨trivial, fun _ => trivial, fun _ _ _ _ _ => trivial⟩)
  obtain ⟨found, registered, duck, logged⟩ := leads.after _ _ performed
  rw [forceMaterialized_source forcing] at registered
  exact ⟨found, rows, forced, registered, duck, forcing, taken, logged⟩

/-- In a run that joins keys on DuckDB only where nothing is pinned, and ships only values that
DuckDB's types have, every read of a DuckDB source sees the shipments of the run before it, each
with its relation's rows, and no others.
-/
theorem execute_shipments_visible (engine : Engine Sources Batches) (drivers : Drivers)
    (shown : ScalarValue → String) (native : engine.connectors = nativeConnectors drivers shown)
    (stores : drivers.StoreValues) (ir : Ir) (sources : Sources)
    (keeps : Proc.Along (runStep engine ir) (KeepsShipped engine) ir.steps
      (Machine.start ir (engine.connectors.clearShipments sources)))
    : (∃ events,
          (execute engine ir sources).2.log = sources.log ++ [.cleared] ++ events ++ [.cleared]
            ∧ AllSee drivers sources.registry events)
        ∧ ∀ machine reached datasource input table,
          Fedqrs.runStep engine ir (.ship datasource input table) machine = (.ok none, reached)
            → ∃ found rows forced,
                machine.source.registry.lookup datasource = some found ∧ found.kind = .duckDb
                  ∧ forceMaterialized engine.host engine.fusion input machine = (.ok (), forced)
                  ∧ materialized input forced = (.ok rows, forced)
                  ∧ reached.source.log.getLast? = some (.shipped found.uri table rows) := by
  refine ⟨?_, fun machine reached datasource input table => ship_logs native ir⟩
  have last : (sources.log ++ [Event.cleared]).getLast? = some .cleared := by simp
  have started
      : ∃ events, Underway drivers sources.registry (sources.log ++ [.cleared])
          (engine.connectors.clearShipments sources) events := by
    rw [native]
    refine ⟨[], rfl, (List.append_nil _).symm, ?_, ?_, fun path missing table => rfl⟩
    · intro before name session sql answer rest found split
      simp at split
    · intro path session held
      cases held
  have step
      : ∀ machine step, KeepsShipped engine machine step
          → (∃ events, Underway drivers sources.registry (sources.log ++ [.cleared])
              machine.source events)
          → ∃ events, Underway drivers sources.registry (sources.log ++ [.cleared])
              (Fedqrs.runStep engine ir step machine).2.source events :=
    fun machine step keeps underway => keeps.runStep native stores last ir underway
  have ended
      : ∃ events, Underway drivers sources.registry (sources.log ++ [.cleared])
          (runSteps engine ir (engine.connectors.clearShipments sources)).2.source events :=
    Proc.runUntil_preserves step ir.steps _ started keeps
  obtain ⟨events, underway⟩ := ended
  refine ⟨events, ?_, underway.seen⟩
  rw [← underway.log]
  change (engine.connectors.clearShipments
    (runSteps engine ir (engine.connectors.clearShipments sources)).2.source).log = _
  generalize (runSteps engine ir (engine.connectors.clearShipments sources)).2.source = finished
  rw [native]
  rfl

end Runs

/-- A DuckDB file with a table `dim`. -/
def shippingSources : Sources :=
  Sources.new [("duck", { kind := .duckDb, uri := "d.db", adbcDriver := none })] (fun _ =>
    { searchPath := ["main"], tables := [(("main", "dim"), intHeap "v" [(0, 1)])] })

/-- Ship the rows of `dim` as the table `built`, and read that. -/
def readShippedPlan : Ir where
  outputs := []
  steps :=
    [.sourceScan "duck" { table := some "dim", columns := ["v"] } "x" true,
      .ship "duck" "x" "built",
      .sourceScan "duck" { rawSql := some "built" } "y" true,
      .return "y"]
  fragments := ∅

/-- Whole numbers of 64 bits are DuckDB's too. -/
theorem intBatches_storable {name : String} {values : List Int}
    (within : ∀ value ∈ values, Signed 64 value)
    : (intBatches name values).Storable := by
  intro row member
  rw [intBatches_rows] at member
  obtain ⟨value, inside, rfl⟩ := List.mem_map.mp member
  have named := DuckType.named_word ("BIGINT", .bigInt) (by decide)
  exact .cons (Or.inr ⟨"BIGINT", .bigInt, ⟨value, within value inside⟩, rfl, named, rfl⟩) .nil

theorem execute_shipments_visible_readShipped
    : ∃ events,
        (execute (referenceEngine tableDrivers) readShippedPlan shippingSources).2.log
            = shippingSources.log ++ [.cleared] ++ events ++ [.cleared]
          ∧ AllSee tableDrivers shippingSources.registry events := by
  refine (execute_shipments_visible (referenceEngine tableDrivers) tableDrivers (fun _ => "") rfl
    ?_ readShippedPlan shippingSources ?_).1
  · intro call session table rows kept _ stored _
    cases stored
    exact .refl rows
  · refine ⟨trivial, fun scanned ran => ⟨?_, fun _ _ => ⟨trivial, fun _ _ => ⟨trivial, ?_⟩⟩⟩⟩
    · intro found forced rows _ _ forcing taken
      cases ran
      cases forcing
      cases taken
      apply intBatches_storable
      intro value member
      have one : value = 1 := by simpa using member
      subst one
      unfold Signed
      omega
    · exact fun _ _ => trivial

/-- Ship the rows of `dim` as the table `built`, and read that where it has their values. -/
def joinShippedPlan : Ir where
  outputs := []
  steps :=
    [.sourceScan "duck" { table := some "dim", columns := ["v"] } "x" true,
      .ship "duck" "x" "built",
      .collectDistinct "x" "v" 10 "k",
      .injectedScan "duck" { rawSql := some "built", injectedSql := some "built" } "v" "k" "y" none
        [],
      .return "y"]
  fragments := ∅

/-- The semi-join runs on a cursor of its own, without the shipped table. -/
theorem execute_shipments_hidden
    : ∃ events,
        (execute (referenceEngine tableDrivers) joinShippedPlan shippingSources).2.log
            = shippingSources.log ++ [.cleared] ++ events ++ [.cleared]
          ∧ ¬ AllSee tableDrivers shippingSources.registry events := by
  refine ⟨[_, _, _, _], rfl, ?_⟩
  intro seen
  have sees := seen [_, _, _] "duck" _ _ _ [] _ rfl rfl rfl
  obtain ⟨kept, held, _⟩ := sees.rows "built" _ rfl
  cases held

end Fedqrs
