import Fedqrs.Semantics.Source

/-! A source whose queries return one Int64 column: its drivers answer every such query by its
meaning and fail on any other.
-/

namespace Fedqrs

/-- A batch of one Int64 column. -/
def intBatch (name : String) (values : List Int) : RecordBatch where
  schema := .new [.new name .int64 true]
  columns :=
    [
      {
        dataType := .int64
        cells := values.map ScalarValue.int64
        typed := by
          intro cell member
          obtain ⟨value, _, rfl⟩ := List.mem_map.mp member
          rfl
      }
    ]
  numRows := values.length
  types := rfl
  lengths := by simp
  nonNull := by simp [Schema.new, Field.new]

/-- A relation of one Int64 column. -/
def intBatches (name : String) (values : List Int) : Batches where
  schema := .new [.new name .int64 true]
  batches := [intBatch name values]

theorem intBatches_rows (name : String) (values : List Int)
    : (intBatches name values).rows = values.map (fun value => [.int64 value]) := by
  have rows : (intBatch name values).rows = values.map (fun value => [.int64 value]) := by
    apply List.ext_getElem
    · simp [RecordBatch.rows, intBatch]
    · intro index inside other
      have within : index < values.length := by simpa using other
      simp [RecordBatch.rows, RecordBatch.row, intBatch, within]
  rw [Batches.rows, intBatches, List.flatMap_cons, rows]
  simp

/-- A table of one Int64 column, each value with its page. -/
def intHeap (name : String) (values : List (Nat × Int)) : Heap where
  columns := [name]
  tuples := values.map (fun entry => { block := entry.1, cells := [.int64 entry.2] })

def intRow : Row → Option Int
  | [.int64 value] => some value
  | _ => none

/-- SQL over Int64 columns with equality of values; a text is a pre-rendered relation's
name, or as a select list a column's, or the count of the rows.
-/
def intMeaning (relation : Catalog → TempTables → String → Heap) : SqlMeaning where
  ops :=
    {
      equal := fun left right => left == right
      binary := fun _ _ _ => .null
      negative := fun _ => .null
      cast := fun _ value => value
      function := fun _ _ => .null
    }
  same := fun left right => left == right
  relation
  list := fun sql envs =>
    if sql = "count(*)" then [[.int64 envs.length]] else envs.map (fun env => [env none sql])

/-- Expression services that print every expression as a form of its own. -/
def formExprs : ExprServices where
  functions := { scalar := fun _ => none, aggregate := fun _ => none }
  exprToSql _ expr := .ok (.form "" expr)

/-- The sources of a new process, with some datasources registered. -/
def Sources.new (registered : List (String × DsSpec)) (catalogs : Database → Catalog)
    : Sources where
  registry := (registered.map (fun entry => (⟨entry.1, entry.2⟩ : Sigma fun _ => DsSpec))).toAList
  pgCache := ∅
  pinnedDuck := ∅
  duckInstances := []
  parquetContexts := []
  workers _ := ∅
  verdicts := ∅
  catalogs
  clock := 0
  log := []

section Reference

variable (meaning : SqlMeaning)

/-- The rows a statement returns, those DISTINCT would have to merge apart. -/
def SqlMeaning.rowsOf (catalog : Catalog) (temps : TempTables) : Sql → Option (List Row)
  | .raw text => some ((meaning.relation catalog temps text).tuples.map Tuple.cells)
  | .wrapped text filter =>
      some
        ((meaning.selected catalog temps (some filter)
          (meaning.relation catalog temps text)).map Tuple.cells)
  | .select query =>
      (resolveTable catalog temps query.source.schema query.source.table).bind (fun heap =>
        let rows := meaning.plainRows catalog temps query heap
        if query.distinct ∧ ¬ rows.Pairwise (fun a b => meaning.same a b = false) then
          none
        else
          some
            (match query.limit with
            | some n => rows.take n
            | none => rows))
  | .catalog _ => none

/-- The answer to a statement; questions to the catalog have answers of their own. -/
def SqlMeaning.answer (statistics : String → Batches) (catalog : Catalog) (temps : TempTables)
    (sql : Sql)
    : Except Failure Batches :=
  match sql with
  | .catalog text => .ok (statistics text)
  | _ =>
      match (meaning.rowsOf catalog temps sql).bind (fun rows => rows.mapM intRow) with
      | some values => .ok (intBatches "v" values)
      | none => .error { stage := .execute, message := "unsupported" }

/-- Drivers that connect, drop, create and ingest whatever they are asked to. -/
def SqlMeaning.drivers (statistics : String → Batches) : Drivers where
  openPg _ _ := .ok ()
  openDuck _ _ := .ok ()
  cloneDuck _ _ := .ok ()
  openParquet _ _ := .ok ()
  answer _ catalog _ := meaning.answer statistics catalog
  drop _ _ _ := .ok ()
  create _ _ _ _ := .ok ()
  ingest _ _ _ rows := .stored rows

section Meaning

variable {meaning}

/-- Rows that are Int64 values are those values, by induction over them. -/
theorem mapM_intRow {rows : List Row} {values : List Int}
    (read : rows.mapM intRow = some values)
    : rows = values.map (fun value => [.int64 value]) := by
  induction rows generalizing values with
  | nil =>
      cases read
      rfl
  | cons row rest ih =>
      rw [List.mapM_cons] at read
      obtain ⟨value, here, tail₁⟩ := Option.bind_eq_some_iff.mp read
      obtain ⟨others, there, tail₂⟩ := Option.bind_eq_some_iff.mp tail₁
      cases tail₂
      rw [List.map_cons, ih there]
      congr 1
      unfold intRow at here
      split at here
      · cases here
        rfl
      · cases here

/-- The rows of a statement are rows that it can return; by cases on the statement. -/
theorem denotes_rowsOf (reflexive : ∀ row, meaning.same row row = true) {catalog : Catalog}
    {temps : TempTables} {sql : Sql} {rows : List Row}
    (found : meaning.rowsOf catalog temps sql = some rows)
    : meaning.Denotes catalog temps sql rows := by
  cases sql with
  | raw text =>
      cases found
      exact .refl _
  | wrapped text filter =>
      cases found
      exact .refl _
  | catalog text => cases found
  | select query =>
      obtain ⟨heap, resolved, chosen⟩ := Option.bind_eq_some_iff.mp found
      refine ⟨heap, meaning.plainRows catalog temps query heap, resolved, ?_, ?_⟩
      · cases distinct : query.distinct with
        | false => rfl
        | true =>
            dsimp only at chosen
            split at chosen
            · cases chosen
            · rename_i apart
              simp only [distinct, true_and, not_not] at apart
              exact ⟨apart, fun _ member => member, fun row member => ⟨row, member, reflexive row⟩⟩
      · dsimp only at chosen
        split at chosen
        · cases chosen
        · cases limit : query.limit with
          | none =>
              rw [limit] at chosen
              cases chosen
              exact ⟨List.Subperm.refl _, rfl⟩
          | some n =>
              rw [limit] at chosen
              cases chosen
              exact ⟨(List.take_sublist n _).subperm, List.length_take⟩

/-- The reference drivers answer by meaning. -/
theorem drivers_answers (reflexive : ∀ row, meaning.same row row = true)
    (statistics : String → Batches)
    : meaning.Answers (meaning.drivers statistics) := by
  intro call catalog session sql answer answered
  change meaning.answer statistics catalog session.temps sql = .ok answer at answered
  unfold SqlMeaning.answer at answered
  split at answered
  · trivial
  · split at answered
    · rename_i values found
      obtain ⟨rows, chosen, read⟩ := Option.bind_eq_some_iff.mp found
      cases answered
      rw [intBatches_rows, ← mapM_intRow read]
      exact denotes_rowsOf reflexive chosen
    · cases answered

end Meaning

end Reference

end Fedqrs
