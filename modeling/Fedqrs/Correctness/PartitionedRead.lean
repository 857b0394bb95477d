import Fedqrs.Correctness.CtidRead
import Fedqrs.Correctness.RowValues

/-! A parallel read returns what the single query would, if its select list makes the rows of each
stored row apart.
-/

namespace Fedqrs

/-- The answers to queries of a list over a table come under one schema, whatever their filter. -/
def TypedAnswers (drivers : Drivers) (catalog : Catalog) (database : Database)
    (list : SelectList) (source : TableRef) (schema : Schema)
    : Prop :=
  ∀ call filter answer,
    drivers.answer call catalog database (.empty database.kind)
        (.select (wholeSelect list source filter))
      = .ok answer
    → answer.Under schema

section Relations

variable {drivers : Drivers} {shown : ScalarValue → String} {catalog : Catalog}
  {database : Database} {list : SelectList} {source : TableRef} {schema : Schema}
  {results : List Batches} {result single : Batches}

/-- A page range is a query of the whole table with a filter of its own. -/
theorem TypedAnswers.partition (typed : TypedAnswers drivers catalog database list source schema)
    {call : Nat} {range : Nat × Nat} {whereClause : Option SqlExpr} {answer : Batches}
    (answered
      : drivers.answer call catalog database (.empty database.kind)
          (ctidSql list source range whereClause)
        = .ok answer)
    : answer.Under schema := by
  rw [ctidSql_eq] at answered
  exact typed call _ answer answered

/-- Answers with the rows of one whose numbers fit are gathered to what that one is read as. -/
theorem gatherAnswers_single (under : ∀ answer ∈ results, answer.Under schema)
    (alone : single.Under schema) (perm : (results.flatMap Batches.rows).Perm single.rows)
    (fits : FitRows shown (numericColumns schema) single.rows)
    (ran : gatherAnswers shown results = .ok result)
    : ∃ one, normalizeAnswer shown single = .ok one ∧ result.schema = one.schema
        ∧ result.rows.Perm one.rows := by
  have some : results.map Batches.batches ≠ [] := by
    intro empty
    rw [List.map_eq_nil_iff.mp empty] at ran
    cases ran
  have batches
      : ∀ part ∈ results.map Batches.batches, ∀ batch ∈ part, batch.schema = schema := by
    intro part member batch inside
    obtain ⟨answer, held, rfl⟩ := List.mem_map.mp member
    exact (under answer held).batches batch inside
  have same
      : (stream schema (results.map Batches.batches).flatten).rows.Perm
          (stream schema single.batches).rows := by
    rw [← alone.stream, stream, Batches.rows, ← List.flatMap_def, List.flatMap_assoc]
    exact perm
  obtain ⟨gathered, one, gathers, normalizes, schemas, _, rows, _⟩ :=
    gatherAnswers_eq_single shown schema (results.map Batches.batches) single.batches some batches
      same (by rw [← alone.stream]; exact fits.numericResult alone)
      (by rw [← alone.stream]; exact fits.representable alone)
  rw [streams_of_under under] at gathers
  rw [← alone.stream] at normalizes
  cases gathers.symm.trans ran
  exact ⟨one, normalizes, schemas, rows⟩

end Relations

/-- Whatever the page count and the order of turns, a parallel read ends as it does with one
job after the other, returns the rows of the single query, each once and its numeric texts
re-typed, and fails when one of its partitions does. If the numbers fit, it is the relation that
the single query is read as, up to the order of the rows.
-/
theorem fetchParallel_exact (drivers : Drivers) (shown : ScalarValue → String)
    (meaning : SqlMeaning) (answers : meaning.Answers drivers) (name : String)
    (source : TableRef) (list : SelectList) (rowWise : meaning.RowWise list) (schema : Schema)
    (partitions : Nat) (whereClause : Option SqlExpr) (sources : Sources) (replies : List Reply)
    (found : DsSpec) (heap : Heap) (some' : 1 ≤ partitions) (bounded : partitions < 2 ^ 32)
    (registered : sources.registry.lookup name = some found)
    (typed
      : TypedAnswers drivers (sources.catalogs found.database) found.database list source schema)
    (pooled : ∀ worker, ConnectedTo name found.database (sources.workers worker))
    (resolved
      : resolveTable (sources.catalogs found.database) (.empty found.kind) source.schema
          source.table
        = some heap)
    (pages : ∀ tuple ∈ heap.tuples, tuple.block < 2 ^ 32 - 1)
    (receives
      : Receives drivers shown name source list partitions whereClause sources replies)
    : (fetchParallel drivers shown name source list partitions whereClause sources).1
          = gatherReplies shown replies
        ∧ (∀ result, gatherReplies shown replies = .ok result
            → ∃ parts,
                parts.flatten.Perm
                    (meaning.plainRows (sources.catalogs found.database) (.empty found.kind)
                      (wholeSelect list source whereClause) heap)
                  ∧ result.rows = readParts shown (numericColumns schema) parts
                  ∧ ∀ call single,
                    drivers.answer call (sources.catalogs found.database) found.database
                        (.empty found.kind) (.select (wholeSelect list source whereClause))
                      = .ok single
                    → FitRows shown (numericColumns schema) single.rows
                    → ∃ one, normalizeAnswer shown single = .ok one
                        ∧ result.schema = one.schema
                        ∧ result.rows.Perm one.rows)
        ∧ ((∃ reply ∈ replies, ∃ failure, reply.result = .error failure)
            → ∃ failure, gatherReplies shown replies = .error failure) := by
  obtain ⟨found', count, paged, ranges, known, postgres, counted, split, serves⟩ := receives
  have same : found' = found := Option.some.inj (known.symm.trans registered)
  subst same
  obtain ⟨small, workers, catalogs⟩ := relpages_frame counted
  have distinct :=
    partitionJobs_nodup name found' paged.clock list source whereClause ranges
  have order := serves.replies distinct
  refine ⟨?_, ?_, gatherReplies_error shown⟩
  · have asked : spec name sources = (.ok found', sources) := by
      simp [spec, registered]
    have ranged : (Proc.lift (ctidRanges count partitions) : SourceM _) paged
        = (.ok ranges, paged) := by
      rw [split]
      rfl
    rw [fetchParallel, Proc.bind_of_ok asked]
    simp only [postgres, if_true]
    rw [Proc.bind_of_ok counted, Proc.bind_of_ok ranged, Proc.get_bind_apply,
      Proc.bind_of_ok (runJobs_apply _ paged), Proc.lift_apply, order]
  · intro result gathered
    rw [order] at gathered
    obtain ⟨results, each, whole⟩ := gatherReplies_replied (partitionJobs_replied ..) gathered
    have answered
        : List.Forall₂ (fun job answer =>
              drivers.answer job.call (sources.catalogs found'.database) found'.database
                  (.empty found'.database.kind) job.sql
                = .ok answer)
            (partitionJobs name found' paged.clock list source whereClause ranges) results := by
      refine each.imp ?_
      intro job answer held
      have connected : ConnectedTo name found'.database (paged.workers (workerOf job)) :=
        workers ▸ pooled (workerOf job)
      have database
          : (paged.workerTarget name found' (workerOf job)).database = found'.database :=
        workerTarget_of_connectedTo connected
      have answered
          : drivers.answer job.call
              (paged.catalogs (paged.workerTarget name found' (workerOf job)).database)
              (paged.workerTarget name found' (workerOf job)).database
              (.empty (paged.workerTarget name found' (workerOf job)).database.kind) job.sql
            = .ok answer :=
        held.answered
      rw [database, catalogs] at answered
      exact answered
    have contiguous : Contiguous 0 ranges u32Max := by
      obtain ⟨other, done, contiguous⟩ :=
        ctidRanges_contiguous small some' (Nat.le_of_lt_succ bounded)
      rw [split] at done
      cases done
      exact contiguous
    have asked := partitionJobs_forall₂ name found' paged.clock list source whereClause ranges
    have rows := answers_perm answers rowWise resolved contiguous pages asked answered
    have under : ∀ answer ∈ results, answer.Under schema := by
      intro answer member
      obtain ⟨job, inside, reply⟩ := forall₂_right answered member
      obtain ⟨range, _, sql⟩ := forall₂_right asked.flip inside
      rw [sql] at reply
      exact typed.partition reply
    refine ⟨results.map Batches.rows, ?_, gatherAnswers_rows under whole, ?_⟩
    · rw [← List.flatMap_def]
      exact rows
    · intro call single alone fits
      have denotes
          := answers call _ (.fresh { database := found'.database, driver := none }) _ _ alone
      obtain ⟨other, again, perm⟩ := (SqlMeaning.denotes_select rfl rfl).mp denotes
      cases again.symm.trans resolved
      exact gatherAnswers_single under (typed call _ single alone) (rows.trans perm.symm) fits whole

/-- The reference drivers answer every query under the schema of one Int64 column. -/
theorem drivers_under {meaning : SqlMeaning} {statistics : String → Batches} {call : Nat}
    {catalog : Catalog} {database : Database} {temps : TempTables} {query : SelectSql}
    {answer : Batches}
    (answered
      : (meaning.drivers statistics).answer call catalog database temps (.select query)
        = .ok answer)
    : answer.Under (.new [.new "v" .int64 true]) := by
  simp only [SqlMeaning.drivers, SqlMeaning.answer] at answered
  split at answered
  · cases answered
    exact ⟨rfl, fun batch member => List.mem_singleton.mp member ▸ rfl⟩
  · cases answered

/-- The jobs of two ranges of `t`, and the replies they get. -/
def twoJobs : List Job :=
  partitionJobs "pg" { kind := .postgres, uri := "db", adbcDriver := some "driver" } 2
    (.columns ["v"]) { schema := none, table := "t", aliasName := none } none
    [(0, 1), (1, u32Max)]

def twoReplies : List Reply :=
  (WorkerPool.serveInOrder workerOf (runJob twoPageDrivers (fun _ => "") twoPages.catalogs)
    twoPages.workers twoJobs).1

theorem fetchParallel_exact_twoPages
    : ∃ result one,
        (fetchParallel twoPageDrivers (fun _ => "") "pg"
            { schema := none, table := "t", aliasName := none } (.columns ["v"]) 2 none
            twoPages).1
            = .ok result
          ∧ normalizeAnswer (fun _ => "") (intBatches "v" [1, 2, 3]) = .ok one
          ∧ result.schema = one.schema
          ∧ result.rows.Perm one.rows := by
  have receives
      : Receives twoPageDrivers (fun _ => "") "pg"
          { schema := none, table := "t", aliasName := none } (.columns ["v"]) 2 none twoPages
          twoReplies := by
    refine ⟨_, 2, _, [(0, 1), (1, u32Max)], rfl, rfl, rfl, rfl, ?_⟩
    exact poolServes_inOrder _ _ _ (partitionJobs_nodup ..)
  have exact := fetchParallel_exact twoPageDrivers (fun _ => "") _
    (drivers_answers (fun _ => by simp [intMeaning]) _) "pg"
    { schema := none, table := "t", aliasName := none } (.columns ["v"])
    (SqlMeaning.rowWise_columns _ _) (.new [.new "v" .int64 true]) 2 none twoPages twoReplies
    { kind := .postgres, uri := "db", adbcDriver := some "driver" }
    (intHeap "v" [(0, 1), (1, 2), (7, 3)]) (by decide) (by decide) rfl
    (fun _ _ _ answered => drivers_under answered) (fun _ _ held => by cases held) rfl
    (by decide) receives
  obtain ⟨same, rows, _⟩ := exact
  obtain ⟨result, gathered⟩
      : ∃ result, gatherReplies (fun _ => "") twoReplies = .ok result := ⟨_, rfl⟩
  obtain ⟨parts, _, _, single⟩ := rows result gathered
  obtain ⟨one, normalizes, schemas, perm⟩ :=
    single 0 (intBatches "v" [1, 2, 3]) rfl (fun _ numeric => by cases numeric)
  exact ⟨result, one, same.trans gathered, normalizes, schemas, perm⟩

/-- A count is taken in each page range, so that the parallel read returns two rows where the query
returns one.
-/
theorem fetchParallel_counts_ranges
    : ((fetchParallel twoPageDrivers (fun _ => "") "pg"
              { schema := none, table := "t", aliasName := none } (.text "count(*)") 2 none
              twoPages).1.toOption.map Batches.rows
          = some [[.int64 1], [.int64 2]])
        ∧ ((twoPageDrivers.answer 0 (twoPages.catalogs { kind := .postgres, uri := "db" })
                { kind := .postgres, uri := "db" } (.empty .postgres)
                (.select
                  (wholeSelect (.text "count(*)")
                    { schema := none, table := "t", aliasName := none } none))).toOption.map
              Batches.rows
          = some [[.int64 3]]) :=
  ⟨by decide +kernel, by decide +kernel⟩

end Fedqrs
