import Fedqrs.Connectors.CallEffects
import Fedqrs.Semantics.ReferenceEngine
import Mathlib.Data.List.Induction

/-! When a call on a datasource is answered by the database it is registered with, on connections
opened for that registration, over any sequence of calls and registrations.
-/

namespace Fedqrs

/-- A call on the connectors from the query thread. -/
inductive Call
  | register (name : String) (found : DsSpec)
  | fetch (name : String) (sql : Sql)
  | fetchParallel (name : String) (source : TableRef) (list : SelectList) (partitions : Nat)
    (whereClause : Option SqlExpr)
  | fetchTempJoin (name tempTable : String) (keys : Batches) (joinSql : Sql)
  | columnHasIndex (name : String) (schema : Option String) (table column : String)

/-- The name that a call is on. -/
def Call.datasource : Call → String
  | .register name _ => name
  | .fetch name _ => name
  | .fetchParallel name _ _ _ _ => name
  | .fetchTempJoin name _ _ _ => name
  | .columnHasIndex name _ _ _ => name

/-- The spec most recently registered under a name. -/
def latest (name : String) (calls : List Call) : Option DsSpec :=
  calls.foldl
    (fun known call =>
      match call with
      | .register other found => if other = name then some found else known
      | .fetch _ _ | .fetchParallel _ _ _ _ _ | .fetchTempJoin _ _ _ _
      | .columnHasIndex _ _ _ _ => known)
    none

section Calls

variable (drivers : Drivers) (shown : ScalarValue → String)

/-- The sources after a call, whether it succeeds or fails. -/
def Call.perform (sources : Sources) : Call → Sources
  | .register name found => (Fedqrs.register name found sources).2
  | .fetch name sql => (Fedqrs.fetch drivers shown name sql sources).2
  | .fetchParallel name source list partitions whereClause =>
      (Fedqrs.fetchParallel drivers shown name source list partitions whereClause sources).2
  | .fetchTempJoin name tempTable keys joinSql =>
      (Fedqrs.fetchTempJoin drivers shown name tempTable keys joinSql sources).2
  | .columnHasIndex name schema table column =>
      (Fedqrs.columnHasIndex drivers shown name schema table column sources).2

/-- The sources after a sequence of calls. -/
def performAll (sources : Sources) (calls : List Call) : Sources :=
  calls.foldl (Call.perform drivers shown) sources

/-- What a call adds to the log: its queries and the verdicts it takes from the cache. -/
def Call.events (sources : Sources) (call : Call) : List Event :=
  (call.perform drivers shown sources).log.drop sources.log.length

end Calls

/-- The datasource that an event answers for. -/
def Event.datasource : Event → Option String
  | .read name _ _ _ => some name
  | .recalled name _ => some name
  | .shipping _ _ | .shipped _ _ _ | .cleared => none

/-- The event answers for a datasource from a connection opened for a target: its database, over
its driver.
-/
structure AnsweredBy (name : String) (target : Target) (event : Event) : Prop where
  datasource : event.datasource = some name
  target : event.target = some target

/-- A registration finds no connection and no verdict of another target under its name, and an
index verdict is not one of another name with the same cache key.
-/
def Timely (sources : Sources) : Call → Prop
  | .register name found =>
      (found.kind = .postgres
          → (∀ session, sources.pgCache.lookup name = some session
              → session.target = found.target)
            ∧ ∀ worker target, (sources.workers worker).lookup name = some target
              → target = found.target)
        ∧ ∀ key verdict, sources.verdicts.lookup key = some verdict → verdict.datasource = name
          → verdict.target = some found.target
  | .columnHasIndex name schema table column =>
      ∀ verdict, sources.verdicts.lookup (verdictKey name schema table column) = some verdict
        → verdict.datasource = name
  | .fetch _ _ | .fetchParallel _ _ _ _ _ | .fetchTempJoin _ _ _ _ => True

/-- Every connection and every verdict under a name is of the target it is registered with. -/
structure Current (sources : Sources) : Prop where
  pooled : ∀ name found session, sources.registry.lookup name = some found
    → found.kind = .postgres → sources.pgCache.lookup name = some session
    → session.target = found.target
  worker : ∀ name found worker target, sources.registry.lookup name = some found
    → found.kind = .postgres → (sources.workers worker).lookup name = some target
    → target = found.target
  pinned : ∀ path session, sources.pinnedDuck.lookup path = some session
    → session.target = .duck path
  verdict : ∀ key verdict, sources.verdicts.lookup key = some verdict
    → ∃ found, sources.registry.lookup verdict.datasource = some found
      ∧ verdict.target = some found.target

/-- A query of the datasource runs on a connection for what it is registered with. -/
theorem Origin.target {may : Touch → Prop} {sources : Sources} {name : String}
    {found : DsSpec} {session : Session} (origin : Origin may sources name found session)
    (current : Current sources) (registered : sources.registry.lookup name = some found)
    : session.target = found.target := by
  cases origin with
  | pooled postgres held => exact current.pooled name found session registered postgres held
  | pinned duck held =>
      exact (current.pinned found.uri session held).trans (DsSpec.target_duck duck).symm
  | cursor => rfl
  | keyed duck allowed target => exact target
  | context => rfl

/-- So the last event of a datasource that was just asked is answered by that one. -/
theorem Asked.target {may : Touch → Prop} {sources : Sources} {name : String}
    (asked : Asked may sources name) (current : Current sources)
    : ∃ found, sources.registry.lookup name = some found
        ∧ sources.log.getLast?.bind Event.target = some found.target := by
  obtain ⟨found, session, sql, answer, registered, last, origin⟩ := asked
  refine ⟨found, registered, ?_⟩
  rw [last]
  exact congrArg some (origin.target current registered)

/-- What a call on a datasource may touch when the verdict it may recall is its own. -/
def CallTouch (start : Sources) (name : String) : Touch → Prop
  | .ask other => other = name
  | .recall key =>
      ∀ verdict, start.verdicts.lookup key = some verdict → verdict.datasource = name
  | .registry | .pin _ | .ship _ _ _ _ => False
  | .workers | .alter _ | .drop _ _ | .join _ _ _ => True

/-- How far a call on a datasource has come: what it has answered is by connections for what the
name is registered with, and the verdicts it has cached are its own.
-/
structure Answering (start : Sources) (name : String) (sources : Sources) : Prop where
  registry : sources.registry = start.registry
  current : Current sources
  verdicts : ∀ key verdict, sources.verdicts.lookup key = some verdict
    → start.verdicts.lookup key = some verdict ∨ verdict.datasource = name
  log : ∃ events, sources.log = start.log ++ events
    ∧ ∀ event ∈ events, ∃ found, start.registry.lookup name = some found
      ∧ AnsweredBy name found.target event

theorem Answering.start {sources : Sources} (current : Current sources) (name : String)
    : Answering sources name sources where
  registry := rfl
  current := current
  verdicts _ _ held := Or.inl held
  log := ⟨[], by simp, by simp⟩

/-- More answers of the same kind. -/
theorem Answering.append {start : Sources} {name : String} {sources : Sources}
    (answering : Answering start name sources) {events : List Event}
    (answers : ∀ event ∈ events, ∃ found, start.registry.lookup name = some found
      ∧ AnsweredBy name found.target event)
    : ∃ later, sources.log ++ events = start.log ++ later
        ∧ ∀ event ∈ later, ∃ found, start.registry.lookup name = some found
          ∧ AnsweredBy name found.target event := by
  obtain ⟨before, log, each⟩ := answering.log
  refine ⟨before ++ events, by rw [log, List.append_assoc], ?_⟩
  intro event member
  rcases List.mem_append.mp member with member | member
  · exact each event member
  · exact answers event member

section Changes

variable {start sources : Sources} {name : String}

/-- A new connection of the query thread is for what is registered. -/
theorem Current.connected (current : Current sources) {found : DsSpec}
    (registered : sources.registry.lookup name = some found)
    : Current
        {
          sources with
          pgCache := sources.pgCache.insert name (.fresh found.target)
        } where
  pooled other spec session known postgres held := by
    by_cases same : other = name
    · subst same
      rw [AList.lookup_insert] at held
      cases held
      rw [registered] at known
      cases known
      rfl
    · rw [AList.lookup_insert_ne same] at held
      exact current.pooled other spec session known postgres held
  worker := current.worker
  pinned := current.pinned
  verdict := current.verdict

/-- Other temp tables do not change what a connection is for. -/
theorem Current.altered (current : Current sources) {session next : Session}
    (held : sources.pgCache.lookup name = some session)
    (target : next.target = session.target)
    : Current { sources with pgCache := sources.pgCache.insert name next } where
  pooled other spec changed known postgres present := by
    by_cases same : other = name
    · subst same
      rw [AList.lookup_insert] at present
      cases present
      exact target.trans (current.pooled other spec session known postgres held)
    · rw [AList.lookup_insert_ne same] at present
      exact current.pooled other spec changed known postgres present
  worker := current.worker
  pinned := current.pinned
  verdict := current.verdict

/-- A verdict of what is registered is cached under its datasource. -/
theorem Current.judged (current : Current sources) {verdict : Verdict} {key : String}
    (own : ∃ found, sources.registry.lookup verdict.datasource = some found
      ∧ verdict.target = some found.target)
    : Current { sources with verdicts := sources.verdicts.insert key verdict } where
  pooled := current.pooled
  worker := current.worker
  pinned := current.pinned
  verdict place cached held := by
    by_cases same : place = key
    · subst same
      rw [AList.lookup_insert] at held
      cases held
      exact own
    · rw [AList.lookup_insert_ne same] at held
      exact current.verdict place cached held

/-- The workers open connections for what is registered only. -/
theorem Current.worked (current : Current sources) {found : DsSpec} {calls : Nat}
    {workers : Nat → NameMap Target} {events : List Event}
    (registered : sources.registry.lookup name = some found)
    (grown : ∀ worker, GrownConns sources name found worker (workers worker))
    : Current
        {
          sources with
          workers
          clock := sources.clock + calls
          log := sources.log ++ events
        } where
  pooled := current.pooled
  worker other spec worker target known postgres held := by
    rcases grown worker other target held with before | ⟨rfl, rfl⟩
    · exact current.worker other spec worker target known postgres before
    · rw [registered] at known
      cases known
      rfl
  pinned := current.pinned
  verdict := current.verdict

/-- Every elementary change of a call on a datasource keeps what it has come to; by cases on
the change.
-/
theorem Answering.step {next : Sources} (change : SourceEffect (CallTouch start name) sources next)
    (answering : Answering start name sources)
    : Answering start name next := by
  obtain ⟨registry, current, verdicts, log⟩ := answering
  cases change with
  | ticked | instanced | contexted | dropped =>
      exact ⟨registry, ⟨current.pooled, current.worker, current.pinned, current.verdict⟩, verdicts,
        log⟩
  | registered _ _ allowed | pinned _ allowed | shipping _ _ _ allowed
  | replaced _ _ _ _ allowed | shipped _ _ _ _ _ allowed => cases allowed
  | connected other found registered =>
      exact ⟨registry, current.connected registered, verdicts, log⟩
  | altered other session changed _ held target =>
      exact ⟨registry, current.altered held target, verdicts, log⟩
  | answered other found session sql answer asks registered origin =>
      cases asks
      refine ⟨registry, ⟨current.pooled, current.worker, current.pinned, current.verdict⟩, verdicts,
        ?_⟩
      refine Answering.append ⟨registry, current, verdicts, log⟩ ?_
      intro event member
      rw [List.mem_singleton] at member
      subst member
      refine ⟨found, registry ▸ registered, rfl, ?_⟩
      exact congrArg some (origin.target current registered)
  | recalled other key verdict asks recalls cached =>
      cases asks
      have own : verdict.datasource = name := by
        rcases verdicts key verdict cached with before | own
        · exact recalls verdict before
        · exact own
      obtain ⟨found, registered, target⟩ := current.verdict key verdict cached
      rw [own, registry] at registered
      refine ⟨registry, ⟨current.pooled, current.worker, current.pinned, current.verdict⟩, verdicts,
        ?_⟩
      refine Answering.append ⟨registry, current, verdicts, log⟩ ?_
      intro event member
      rw [List.mem_singleton] at member
      subst member
      exact ⟨found, registered, rfl, target⟩
  | judged other key indexed asks asked =>
      cases asks
      refine ⟨registry, current.judged (asked.target current), ?_, log⟩
      intro place verdict held
      by_cases same : place = key
      · subst same
        rw [AList.lookup_insert] at held
        cases held
        exact Or.inr rfl
      · rw [AList.lookup_insert_ne same] at held
        exact verdicts place verdict held
  | worked other found workers calls events asks allowed registered grown reads postgres =>
      cases asks
      refine ⟨registry, current.worked registered grown, verdicts, ?_⟩
      refine Answering.append ⟨registry, current, verdicts, log⟩ ?_
      intro event member
      obtain ⟨target, sql, answer, rfl, own⟩ := reads event member
      refine ⟨found, registry ▸ registered, rfl, ?_⟩
      rcases own with rfl | ⟨worker, held⟩
      · rfl
      · exact congrArg some (current.worker name found worker target registered postgres held)

end Changes

-----------------------------------------------------------------------------------------
-- Calls
-----------------------------------------------------------------------------------------

section Runs

variable {drivers : Drivers} {shown : ScalarValue → String} {sources : Sources}

/-- A timely registration leaves every connection and verdict of what is registered. -/
theorem Current.register (current : Current sources) {name : String} {found : DsSpec}
    (timely : Timely sources (.register name found))
    : Current { sources with registry := sources.registry.insert name found } where
  pooled other spec session known postgres held := by
    by_cases same : other = name
    · subst same
      rw [AList.lookup_insert] at known
      cases known
      exact (timely.1 postgres).1 session held
    · rw [AList.lookup_insert_ne same] at known
      exact current.pooled other spec session known postgres held
  worker other spec worker target known postgres held := by
    by_cases same : other = name
    · subst same
      rw [AList.lookup_insert] at known
      cases known
      exact (timely.1 postgres).2 worker target held
    · rw [AList.lookup_insert_ne same] at known
      exact current.worker other spec worker target known postgres held
  pinned := current.pinned
  verdict key verdict held := by
    by_cases same : verdict.datasource = name
    · refine ⟨found, ?_, timely.2 key verdict held same⟩
      rw [same]
      exact AList.lookup_insert _
    · obtain ⟨spec, known, target⟩ := current.verdict key verdict held
      refine ⟨spec, ?_, target⟩
      rw [AList.lookup_insert_ne same]
      exact known

/-- A call other than a registration stays within its touches; by cases on the call. -/
theorem Call.changes (call : Call) (timely : Timely sources call)
    (calls : ∀ name found, call ≠ .register name found)
    : Relation.ReflTransGen (SourceEffect (CallTouch sources call.datasource)) sources
        (call.perform drivers shown sources) := by
  have asks (name : String) : CallTouch sources name (.ask name) := rfl
  cases call with
  | register name found => exact absurd rfl (calls name found)
  | fetch name sql => exact (leads_fetch sql (asks name)).changes
  | fetchParallel name source list partitions whereClause =>
      exact (leads_fetchParallel (asks name) trivial).changes
  | fetchTempJoin name tempTable keys joinSql =>
      refine (leads_fetchTempJoin (asks name) ?_).changes
      intro found _
      unfold JoinAllowed
      split
      · exact ⟨trivial, fun _ => trivial⟩
      · exact fun _ _ _ _ => trivial
      · trivial
  | columnHasIndex name schema table column =>
      exact (leads_columnHasIndex schema table column (asks name) timely).changes

/-- Such a call is answered by connections for what its name is registered with. -/
theorem Call.answering (drivers : Drivers) (shown : ScalarValue → String) (call : Call)
    (timely : Timely sources call)
    (calls : ∀ name found, call ≠ .register name found) (current : Current sources)
    : Answering sources call.datasource (call.perform drivers shown sources) := by
  have kept
      : ∀ before after, SourceEffect (CallTouch sources call.datasource) before after
          → Answering sources call.datasource before → Answering sources call.datasource after :=
    fun _ _ => Answering.step
  exact Proc.changes_keep kept (call.changes timely calls) (Answering.start current _)

/-- A timely call keeps the connections and verdicts current, and its registrations are known. -/
theorem Call.perform_current (drivers : Drivers) (shown : ScalarValue → String) (call : Call)
    (timely : Timely sources call) {before : List Call} (current : Current sources)
    (known : ∀ name, sources.registry.lookup name = latest name before)
    : Current (call.perform drivers shown sources)
        ∧ ∀ name, (call.perform drivers shown sources).registry.lookup name
            = latest name (before ++ [call]) := by
  by_cases registers : ∃ name found, call = .register name found
  · obtain ⟨name, found, rfl⟩ := registers
    refine ⟨current.register timely, ?_⟩
    intro other
    simp only [latest, List.foldl_append, List.foldl_cons, List.foldl_nil]
    by_cases same : name = other
    · subst same
      simp [Call.perform, Fedqrs.register]
    · simp only [if_neg same]
      rw [← latest, ← known other]
      exact AList.lookup_insert_ne (fun equal => same equal.symm)
  · have calls : ∀ name found, call ≠ .register name found :=
      fun name found same => registers ⟨name, found, same⟩
    have answering := call.answering drivers shown timely calls current
    refine ⟨answering.current, ?_⟩
    intro name
    rw [answering.registry, known name]
    cases call with
    | register other found => exact absurd rfl (calls other found)
    | fetch | fetchParallel | fetchTempJoin | columnHasIndex => simp [latest]

theorem performAll_append (before : List Call) (call : Call)
    : performAll drivers shown sources (before ++ [call])
      = call.perform drivers shown (performAll drivers shown sources before) := by
  simp [performAll]

/-- A process that has just started has no connection and no verdict. -/
theorem Current.new (catalogs : Database → Catalog) : Current (Sources.new [] catalogs) where
  pooled _ _ _ registered := nomatch registered
  worker _ _ _ _ registered := nomatch registered
  pinned _ _ held := nomatch held
  verdict _ _ held := nomatch held

/-- Timely calls keep the connections and verdicts current; by induction on the calls. -/
theorem performAll_current (drivers : Drivers) (shown : ScalarValue → String)
    (catalogs : Database → Catalog) (calls : List Call)
    (timely : ∀ before call rest, calls = before ++ call :: rest
      → Timely (performAll drivers shown (Sources.new [] catalogs) before) call)
    (before rest : List Call) (split : calls = before ++ rest)
    : Current (performAll drivers shown (Sources.new [] catalogs) before)
        ∧ ∀ name, (performAll drivers shown (Sources.new [] catalogs) before).registry.lookup name
            = latest name before := by
  induction before using List.reverseRecOn generalizing rest with
  | nil => exact ⟨Current.new catalogs, fun _ => rfl⟩
  | append_singleton before call ih =>
      rw [List.append_assoc] at split
      obtain ⟨current, known⟩ := ih _ split
      rw [performAll_append]
      exact call.perform_current drivers shown (timely before call rest split) current known

/-- In any sequence of calls whose registrations are timely, each call is answered by the
database of the spec most recently registered under its name, on a connection opened as that spec
has it.
-/
theorem calls_answered (drivers : Drivers) (shown : ScalarValue → String)
    (catalogs : Database → Catalog) (calls : List Call)
    (timely : ∀ before call rest, calls = before ++ call :: rest
      → Timely (performAll drivers shown (Sources.new [] catalogs) before) call)
    : ∀ before call rest, calls = before ++ call :: rest
        → ∀ event ∈ call.events drivers shown
            (performAll drivers shown (Sources.new [] catalogs) before),
          ∃ found, latest call.datasource before = some found
            ∧ AnsweredBy call.datasource found.target event := by
  intro before call rest split event member
  obtain ⟨current, known⟩ :=
    performAll_current drivers shown catalogs calls timely before (call :: rest) split
  by_cases registers : ∃ name found, call = .register name found
  · obtain ⟨name, found, rfl⟩ := registers
    simp [Call.events, Call.perform, Fedqrs.register] at member
  · have calls : ∀ name found, call ≠ .register name found :=
      fun name found same => registers ⟨name, found, same⟩
    have answering := call.answering drivers shown (timely before call rest split) calls current
    obtain ⟨events, log, each⟩ := answering.log
    rw [Call.events, log, List.drop_left] at member
    obtain ⟨found, registered, answered⟩ := each event member
    exact ⟨found, (known _).symm.trans registered, answered⟩

end Runs

/-- Drivers of a source whose catalog answers every question with a one. -/
def countedDrivers : Drivers := tableMeaning.drivers (fun _ => intBatches "v" [1])

def pgSpec (uri driver : String) : DsSpec := { kind := .postgres, uri, adbcDriver := some driver }

/-- A database with one table, `t`. -/
def oneTable : Database → Catalog := fun _ =>
  { searchPath := ["public"], tables := [(("public", "t"), intHeap "v" [(0, 1)])] }

/-- A registration of the same spec again, between two reads. -/
def againCalls : List Call :=
  [.register "pg" (pgSpec "a" "driver"), .fetch "pg" (.raw "t"),
    .register "pg" (pgSpec "a" "driver"), .fetch "pg" (.raw "t")]

/-- That registration is timely, and the read after it is answered by the pooled connection. -/
theorem calls_answered_againCalls
    : (∀ before call rest, againCalls = before ++ call :: rest
          → ∀ event ∈ call.events countedDrivers (fun _ => "")
              (performAll countedDrivers (fun _ => "") (Sources.new [] oneTable) before),
            ∃ found, latest call.datasource before = some found
              ∧ AnsweredBy call.datasource found.target event)
        ∧ ((Call.fetch "pg" (.raw "t")).events countedDrivers (fun _ => "")
            (performAll countedDrivers (fun _ => "") (Sources.new [] oneTable)
              (againCalls.take 3))).map Event.target
          = [some (pgSpec "a" "driver").target] := by
  refine ⟨?_, rfl⟩
  apply calls_answered
  intro before call rest split
  match before, split with
  | [], split =>
      cases split
      refine ⟨fun _ => ⟨?_, fun _ _ held => nomatch held⟩, fun _ _ held => nomatch held⟩
      intro session held
      cases held
  | [_], split =>
      cases split
      trivial
  | [_, _], split =>
      cases split
      refine ⟨fun _ => ⟨?_, fun _ _ held => nomatch held⟩, fun _ _ held => nomatch held⟩
      intro session held
      cases held
      rfl
  | [_, _, _], split =>
      cases split
      trivial
  | _ :: _ :: _ :: _ :: before, split => simp [againCalls] at split

/-- The calls on a name after it is registered again: the pooled connection, the workers'
connections and the cached verdict answer as the first spec has it.
-/
def staleCalls (call : Call) (next : DsSpec) : List Call :=
  [.register "pg" (pgSpec "a" "driver"), call, .register "pg" next]

/-- What the connections that answer the last of these calls are for. -/
def staleAnswers (call : Call) (next : DsSpec) : List (Option Target) :=
  (call.events countedDrivers (fun _ => "")
    (performAll countedDrivers (fun _ => "") (Sources.new [] oneTable)
      (staleCalls call next))).map Event.target

/-- Whether the database differs or only the driver, the calls are answered by the old one. -/
theorem calls_answered_stale
    : (∀ call next, latest "pg" (staleCalls call next) = some next)
        ∧ ∀ next ∈ [pgSpec "b" "driver", pgSpec "a" "new"],
          next.target ≠ (pgSpec "a" "driver").target
            ∧ staleAnswers (.fetch "pg" (.raw "t")) next = [some (pgSpec "a" "driver").target]
            ∧ staleAnswers
                  (.fetchParallel "pg" { schema := none, table := "t", aliasName := none }
                    (.columns ["v"]) 2 none)
                  next
                = [some (pgSpec "a" "driver").target, some (pgSpec "a" "driver").target]
            ∧ staleAnswers (.columnHasIndex "pg" none "t" "v") next
                = [some (pgSpec "a" "driver").target] := by
  refine ⟨?_, ?_⟩
  · intro call next
    simp [latest, staleCalls]
  · intro next member
    simp only [List.mem_cons, List.not_mem_nil, or_false] at member
    rcases member with rfl | rfl
    · exact ⟨by decide, rfl, rfl, rfl⟩
    · exact ⟨by decide, rfl, rfl, rfl⟩

end Fedqrs
