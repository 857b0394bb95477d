import Fedqrs.Connectors.Fetch
import Fedqrs.Correctness.ScanText

/-! What a source reads in the texts that the connectors make themselves: which table a catalog is
asked about, and which pages of a table a worker reads. The names may contain anything.
-/

namespace Fedqrs

open Reading

/-- What a text that the connectors make asks for. -/
inductive Request
  | relpages (schema : Option String) (table : String)
  | selectivity (schema : Option String) (table column : String)
  | indexed (schema : Option String) (table column : String)
  | duckSize (schema : Option String) (table : String)
  | pages (columns : List String) (source : TableRef) (range : Nat × Nat) (filter : Option String)
deriving DecidableEq, Repr

-----------------------------------------------------------------------------------------
-- The reader
-----------------------------------------------------------------------------------------

namespace ReadRequest

/-- A single-quoted literal. -/
def literal : TextReader String := quoted '\'' >>= fun text => pure (String.ofList text)

/-- A literal that a word announces. -/
def announced (word : String) : TextReader String := do
  keyword word
  literal

/-- A table's name and its schema's, if there is one. -/
def predicate (tableIs schemaIs : String) : TextReader (Option String × String) := do
  let table ← announced tableIs
  let schema ← optionally (announced schemaIs)
  pure (schema, table)

def relpagesStart : String :=
  "SELECT c.relpages::bigint FROM pg_class c "
    ++ "JOIN pg_namespace n ON n.oid = c.relnamespace WHERE "

def selectivityStart : String :=
  "SELECT c.reltuples::float8, s.n_distinct::float8 FROM pg_class c "
    ++ "JOIN pg_namespace n ON n.oid=c.relnamespace "
    ++ "LEFT JOIN pg_stats s ON s.schemaname=n.nspname AND s.tablename=c.relname "
    ++ "AND s.attname="

def indexedStart : String :=
  "SELECT 1 FROM pg_index i "
    ++ "JOIN pg_class c ON c.oid=i.indrelid "
    ++ "JOIN pg_namespace n ON n.oid=c.relnamespace "
    ++ "JOIN pg_attribute a ON a.attrelid=c.oid AND a.attnum=i.indkey[0] "
    ++ "WHERE "

def duckSizeStart : String := "SELECT estimated_size::DOUBLE FROM duckdb_tables() WHERE "

def relpages : TextReader Request := do
  keyword relpagesStart
  let found ← predicate "c.relname = " " AND n.nspname = "
  pure (.relpages found.1 found.2)

def selectivity : TextReader Request := do
  keyword selectivityStart
  let column ← literal
  keyword " WHERE "
  let found ← predicate "c.relname=" " AND n.nspname="
  pure (.selectivity found.1 found.2 column)

def indexed : TextReader Request := do
  keyword indexedStart
  let found ← predicate "c.relname=" " AND n.nspname="
  let column ← announced " AND a.attname="
  keyword " LIMIT 1"
  pure (.indexed found.1 found.2 column)

def duckSize : TextReader Request := do
  keyword duckSizeStart
  let found ← predicate "table_name=" " AND schema_name="
  pure (.duckSize found.1 found.2)

/-- All that is left but a closing parenthesis. -/
def enclosed : TextReader String := fun text =>
  if text.getLast? = some ')' then some (String.ofList text.dropLast, []) else none

def pages : TextReader Request := do
  keyword "SELECT "
  let columns ← ReadSql.columnList
  keyword " FROM "
  let table ← ReadSql.tableName
  let aliasName ← ReadSql.tableAlias
  keyword " WHERE ctid >= '("
  let lo ← number
  keyword ",0)'::tid AND ctid < '("
  let hi ← number
  keyword ",0)'::tid"
  let filter ← optionally (do
    keyword " AND ("
    enclosed)
  pure (.pages columns { schema := table.1, table := table.2, aliasName } (lo, hi) filter)

def request : TextReader Request :=
  either relpages (either selectivity (either indexed (either duckSize pages)))

end ReadRequest

/-- Read a whole text as one request. -/
def readRequest (text : String) : Option Request := readAll ReadRequest.request text

-----------------------------------------------------------------------------------------
-- Each part is read back
-----------------------------------------------------------------------------------------

namespace ReadRequest

/-- A name as a literal. -/
def literalText (name : String) : String := "'" ++ esc name ++ "'"

def predicateText (tableIs schemaIs : String) (schema : Option String) (table : String) : String :=
  tableIs ++ literalText table
    ++ ReadSql.optionalText (fun name => schemaIs ++ literalText name) schema

theorem literalText_toList (name : String)
    : (literalText name).toList = '\'' :: (doubling '\'' name.toList ++ ['\'']) := by
  simp [literalText, esc, doubled, doubling]

theorem literal_reads (name : String)
    : ReadsBack literal (literalText name).toList name (NotFirst '\'') := by
  have read := (quoted_reads '\'' name.toList).result String.ofList
  rw [String.ofList_toList] at read
  rw [literalText_toList]
  exact read

theorem announced_reads (word name : String)
    : ReadsBack (announced word) (word ++ literalText name).toList name (NotFirst '\'') := by
  rw [String.toList_append]
  exact (keyword_reads word).bind (literal_reads name) (fun _ _ => trivial)

/-- A table is read back with its schema, by cases on whether it has one. -/
theorem predicate_reads {tableIs schemaIs : String} (schema : Option String) (table : String)
    (apart : ∀ rest, NotFirst '\'' (schemaIs.toList ++ rest))
    : ReadsBack (predicate tableIs schemaIs) (predicateText tableIs schemaIs schema table).toList
        (schema, table)
        (fun rest => NotFirst '\'' rest ∧ schemaIs.toList.isPrefixOf rest = false) := by
  cases schema with
  | some schema =>
      have both : ReadsBack (predicate tableIs schemaIs)
          (predicateText tableIs schemaIs (some schema) table).toList (some schema, table)
          (NotFirst '\'') := by
        rw [predicateText, String.toList_append]
        refine (announced_reads tableIs table).bind
          ((announced_reads schemaIs schema).optionally.result (fun schema => (schema, table))) ?_
        intro rest _
        rw [ReadSql.optionalText, Option.elim_some, String.toList_append, List.append_assoc]
        exact apart _
      exact both.weaken (fun _ after => after.1)
  | none =>
      have absent : ReadsBack (optionally (announced schemaIs)) [] none
          (fun rest => NotFirst '\'' rest ∧ schemaIs.toList.isPrefixOf rest = false) :=
        optionally_absent (fun _ after => bind_refuses (keyword_refuses after.2))
      rw [predicateText, String.toList_append]
      refine (announced_reads tableIs table).bind
        (absent.result (fun schema => (schema, table))) ?_
      intro rest after
      exact after.1

theorem predicateText_none (tableIs schemaIs table : String)
    : predicateText tableIs schemaIs none table = tableIs ++ "'" ++ esc table ++ "'" := by
  simp [predicateText, literalText, ReadSql.optionalText, String.append_assoc]

theorem predicateText_some (tableIs schemaIs schema table : String)
    : predicateText tableIs schemaIs (some schema) table
      = tableIs ++ "'" ++ esc table ++ ("'" ++ schemaIs ++ "'") ++ esc schema ++ "'" := by
  simp [predicateText, literalText, ReadSql.optionalText, String.append_assoc]

/-- The predicates on the catalog of Postgres. -/
theorem classPredicate_text (schema : Option String) (table : String)
    : classPredicate schema table
      = predicateText "c.relname=" " AND n.nspname=" schema table := by
  cases schema with
  | none => exact (predicateText_none "c.relname=" _ table).symm
  | some schema => exact (predicateText_some "c.relname=" " AND n.nspname=" schema table).symm

theorem relpages_text (schema : Option String) (table : String)
    : (relpagesSql schema table).text
      = relpagesStart ++ predicateText "c.relname = " " AND n.nspname = " schema table := by
  cases schema with
  | none =>
      rw [predicateText_none]
      rfl
  | some schema =>
      rw [predicateText_some]
      rfl

theorem relpages_reads (schema : Option String) (table : String)
    : ReadsBack relpages (relpagesSql schema table).text.toList (.relpages schema table)
        (fun rest => rest = []) := by
  rw [relpages_text, String.toList_append]
  refine (keyword_reads relpagesStart).bind ?_ (fun _ _ => trivial)
  refine ((predicate_reads schema table ?_).result _).weaken ?_
  · intro rest
    simp [NotFirst]
  · rintro rest rfl
    exact ⟨by simp [NotFirst], rfl⟩

theorem duckSize_text (schema : Option String) (table : String)
    : (duckSizeSql schema table).text
      = duckSizeStart ++ predicateText "table_name=" " AND schema_name=" schema table := by
  cases schema with
  | none =>
      rw [predicateText_none]
      rfl
  | some schema =>
      rw [predicateText_some]
      rfl

theorem duckSize_reads (schema : Option String) (table : String)
    : ReadsBack duckSize (duckSizeSql schema table).text.toList (.duckSize schema table)
        (fun rest => rest = []) := by
  rw [duckSize_text, String.toList_append]
  refine (keyword_reads _).bind ?_ (fun _ _ => trivial)
  refine ((predicate_reads schema table ?_).result _).weaken ?_
  · intro rest
    simp [NotFirst]
  · rintro rest rfl
    exact ⟨by simp [NotFirst], rfl⟩

theorem selectivity_text (schema : Option String) (table column : String)
    : (selectivitySql schema table column).text
      = selectivityStart ++ (literalText column
        ++ (" WHERE " ++ predicateText "c.relname=" " AND n.nspname=" schema table)) := by
  have opening : "AND s.attname='" = "AND s.attname=" ++ "'" := rfl
  have closing : "' WHERE " = "'" ++ " WHERE " := rfl
  unfold selectivitySql selectivityStart Sql.text literalText
  simp only [← classPredicate_text, opening, closing, String.append_assoc]

theorem selectivity_reads (schema : Option String) (table column : String)
    : ReadsBack selectivity (selectivitySql schema table column).text.toList
        (.selectivity schema table column) (fun rest => rest = []) := by
  rw [selectivity_text, String.toList_append, String.toList_append, String.toList_append]
  refine (keyword_reads selectivityStart).bind ?_ (fun _ _ => trivial)
  refine (literal_reads column).bind ?_ ?_
  · refine (keyword_reads " WHERE ").bind ?_ (fun _ _ => trivial)
    refine ((predicate_reads schema table ?_).result _).weaken ?_
    · intro rest
      simp [NotFirst]
    · rintro rest rfl
      exact ⟨by simp [NotFirst], rfl⟩
  · intro rest _
    simp [NotFirst]

theorem indexed_text (schema : Option String) (table column : String)
    : (indexedSql schema table column).text
      = indexedStart ++ (predicateText "c.relname=" " AND n.nspname=" schema table
        ++ ((" AND a.attname=" ++ literalText column) ++ " LIMIT 1")) := by
  have opening : " AND a.attname='" = " AND a.attname=" ++ "'" := rfl
  have closing : "' LIMIT 1" = "'" ++ " LIMIT 1" := rfl
  unfold indexedSql indexedStart Sql.text literalText
  simp only [← classPredicate_text, opening, closing, String.append_assoc]

theorem indexed_reads (schema : Option String) (table column : String)
    : ReadsBack indexed (indexedSql schema table column).text.toList
        (.indexed schema table column) Anything := by
  rw [indexed_text, String.toList_append, String.toList_append, String.toList_append]
  refine (keyword_reads indexedStart).bind ?_ (fun _ _ => trivial)
  refine (predicate_reads schema table ?_).bind ?_ ?_
  · intro rest
    simp [NotFirst]
  · refine (announced_reads " AND a.attname=" column).bind ?_ ?_
    · exact (keyword_reads " LIMIT 1").result (fun _ => Request.indexed schema table column)
    · intro rest _
      simp [NotFirst]
  · intro rest _
    rw [String.toList_append, List.append_assoc, List.append_assoc]
    exact ⟨by simp [NotFirst], rfl⟩

/-- The text of a filter is read back up to its closing parenthesis. -/
theorem enclosed_reads (filter : String)
    : ReadsBack enclosed (filter ++ ")").toList filter (fun rest => rest = []) := by
  rintro rest rfl
  simp [enclosed]

theorem pages_text (columns : List String) (source : TableRef) (range : Nat × Nat)
    (whereClause : Option SqlExpr)
    : (ctidSql (.columns columns) source range whereClause).text
      = "SELECT " ++ (String.intercalate ", " (columns.map quoteIdent) ++ (" FROM "
        ++ (ReadSql.tableText source.table source.schema
        ++ (ReadSql.optionalText (ReadSql.wordText " AS ") source.aliasName
        ++ (" WHERE ctid >= '(" ++ (toString range.1 ++ (",0)'::tid AND ctid < '("
        ++ (toString range.2 ++ (",0)'::tid"
        ++ ReadSql.optionalText (fun filter => " AND (" ++ (filter ++ ")"))
          (whereClause.map SqlExpr.text)))))))))) := by
  have named := ReadSql.tableRef_text source.schema source.table source.aliasName
  have opening : " WHERE " ++ "ctid >= '(" = " WHERE ctid >= '(" := rfl
  cases whereClause with
  | none =>
      simp only [ctidSql, Sql.text, SelectSql.text, SelectList.sql, SqlExpr.text, named,
        Option.map_none, ReadSql.optionalText, Option.elim_none, String.append_assoc, ← opening,
        String.append_empty, Bool.false_eq_true, if_false]
  | some clause =>
      simp only [ctidSql, Sql.text, SelectSql.text, SelectList.sql, SqlExpr.concatAnd_text,
        SqlExpr.text, named,
        Option.map_some, ReadSql.optionalText, Option.elim_some, String.append_assoc, ← opening,
        String.append_empty, Bool.false_eq_true, if_false]
      rfl

/-- A condition on pages opens with WHERE. -/
theorem where_opens (rest : List Char)
    : ReadSql.Opens ['W', 'L'] (" WHERE ctid >= '(".toList ++ rest) :=
  Or.inr ⟨'W', List.mem_cons_self, _, rfl⟩

theorem number_printed (n : Nat) : ReadsBack number (toString n).toList n NoDigitFirst := by
  have digits : (toString n).toList = Nat.toDigits 10 n := by simp
  rw [digits]
  exact number_reads n

theorem filter_reads (filter : Option String)
    : ReadsBack (optionally (do keyword " AND ("; enclosed))
        (ReadSql.optionalText (fun filter => " AND (" ++ (filter ++ ")")) filter).toList filter
        (fun rest => rest = []) := by
  cases filter with
  | some filter =>
      have present : ReadsBack (do keyword " AND ("; enclosed)
          (" AND (" ++ (filter ++ ")")).toList filter (fun rest => rest = []) := by
        rw [String.toList_append]
        exact (keyword_reads " AND (").bind (enclosed_reads filter) (fun _ _ => trivial)
      exact present.optionally
  | none =>
      refine optionally_absent ?_
      rintro rest rfl
      exact bind_refuses (keyword_refuses rfl)

/-- A read of pages is read back part by part. -/
theorem pages_reads (columns : List String) (source : TableRef) (range : Nat × Nat)
    (whereClause : Option SqlExpr) (nonempty : columns ≠ [])
    : ReadsBack pages (ctidSql (.columns columns) source range whereClause).text.toList
        (.pages columns source range (whereClause.map SqlExpr.text)) (fun rest => rest = []) := by
  rw [pages_text]
  simp only [String.toList_append]
  refine (keyword_reads "SELECT ").bind ?_ (fun _ _ => trivial)
  refine (ReadSql.columnList_reads columns nonempty).bind ?_ ?_
  · refine (keyword_reads " FROM ").bind ?_ (fun _ _ => trivial)
    refine (ReadSql.tableName_reads source.schema source.table).bind ?_ ?_
    · refine (ReadSql.tableAlias_reads source.aliasName).bind ?_ ?_
      · refine (keyword_reads " WHERE ctid >= '(").bind ?_ (fun _ _ => trivial)
        refine (number_printed range.1).bind ?_ ?_
        · refine (keyword_reads ",0)'::tid AND ctid < '(").bind ?_ (fun _ _ => trivial)
          refine (number_printed range.2).bind ?_ ?_
          · refine (keyword_reads ",0)'::tid").bind ?_ (fun _ _ => trivial)
            exact (filter_reads (whereClause.map SqlExpr.text)).result _
          · intro rest _ c first
            cases first
            rfl
        · intro rest _ c first
          cases first
          rfl
      · intro rest _
        rw [List.append_assoc]
        have after := where_opens
        exact ⟨(after _).notQuote, (after _).refuses rfl (by simp [List.isPrefixOf])⟩
    · intro rest _
      rw [List.append_assoc, List.append_assoc]
      have after := fun rest => ReadSql.alias_opens source.aliasName (where_opens rest)
      exact ⟨(after _).notQuote, (after _).refuses rfl (by simp [List.isPrefixOf])⟩
  · intro rest _
    exact ⟨by simp [NotFirst], by simp [List.isPrefixOf]⟩

/-- A reader that starts with a word refuses a text that starts with another. -/
theorem refuses {α : Type} {reader : TextReader α} {word start : String} {text more : List Char}
    {next : Unit → TextReader α} (opens : reader = (keyword word >>= next))
    (shape : text = start.toList ++ more)
    (apart : ∀ rest, keyword word (start.toList ++ rest) = none) (rest : List Char)
    : reader (text ++ rest) = none := by
  rw [opens, shape, List.append_assoc]
  exact bind_refuses (apart _)

/-- A read of pages names a column first. -/
theorem pages_start (column : String) (columns : List String) (source : TableRef)
    (range : Nat × Nat) (whereClause : Option SqlExpr)
    : ∃ more, (ctidSql (.columns (column :: columns)) source range whereClause).text.toList
      = "SELECT \"".toList ++ more := by
  rw [pages_text]
  simp only [String.toList_append, List.map_cons, ReadSql.intercalate_toList,
    ReadSql.quoteIdent_toList]
  exact ⟨_, rfl⟩

end ReadRequest

-----------------------------------------------------------------------------------------
-- Whole texts
-----------------------------------------------------------------------------------------

theorem readRequest_relpages (schema : Option String) (table : String)
    : readRequest (relpagesSql schema table).text = some (.relpages schema table) :=
  ((ReadRequest.relpages_reads schema table).first _).readAll rfl

theorem readRequest_selectivity (schema : Option String) (table column : String)
    : readRequest (selectivitySql schema table column).text
      = some (.selectivity schema table column) := by
  have shape := congrArg String.toList (ReadRequest.selectivity_text schema table column)
  rw [String.toList_append] at shape
  have read := (ReadRequest.selectivity_reads schema table column).first
    (either ReadRequest.indexed (either ReadRequest.duckSize ReadRequest.pages))
  refine (read.second (ReadRequest.refuses (rfl : ReadRequest.relpages = _) shape ?_)).readAll rfl
  exact keyword_apart 13 (by decide +kernel) (by decide +kernel) (by decide +kernel)

theorem readRequest_indexed (schema : Option String) (table column : String)
    : readRequest (indexedSql schema table column).text
      = some (.indexed schema table column) := by
  have shape := congrArg String.toList (ReadRequest.indexed_text schema table column)
  rw [String.toList_append] at shape
  have read := (ReadRequest.indexed_reads schema table column).first
    (either ReadRequest.duckSize ReadRequest.pages)
  refine ((read.second
    (ReadRequest.refuses (rfl : ReadRequest.selectivity = _) shape ?_)).second
    (ReadRequest.refuses (rfl : ReadRequest.relpages = _) shape ?_)).readAll trivial
  · exact keyword_apart 8 (by decide +kernel) (by decide +kernel) (by decide +kernel)
  · exact keyword_apart 8 (by decide +kernel) (by decide +kernel) (by decide +kernel)

theorem readRequest_duckSize (schema : Option String) (table : String)
    : readRequest (duckSizeSql schema table).text = some (.duckSize schema table) := by
  have shape := congrArg String.toList (ReadRequest.duckSize_text schema table)
  rw [String.toList_append] at shape
  have read := (ReadRequest.duckSize_reads schema table).first ReadRequest.pages
  refine (((read.second
    (ReadRequest.refuses (rfl : ReadRequest.indexed = _) shape ?_)).second
    (ReadRequest.refuses (rfl : ReadRequest.selectivity = _) shape ?_)).second
    (ReadRequest.refuses (rfl : ReadRequest.relpages = _) shape ?_)).readAll rfl
  · exact keyword_apart 8 (by decide +kernel) (by decide +kernel) (by decide +kernel)
  · exact keyword_apart 8 (by decide +kernel) (by decide +kernel) (by decide +kernel)
  · exact keyword_apart 8 (by decide +kernel) (by decide +kernel) (by decide +kernel)

/-- No catalog query starts as a read of pages does. -/
theorem readRequest_pages (column : String) (columns : List String) (source : TableRef)
    (range : Nat × Nat) (whereClause : Option SqlExpr)
    : readRequest (ctidSql (.columns (column :: columns)) source range whereClause).text
      = some (.pages (column :: columns) source range (whereClause.map SqlExpr.text)) := by
  obtain ⟨more, shape⟩ := ReadRequest.pages_start column columns source range whereClause
  have read := ReadRequest.pages_reads (column :: columns) source range whereClause
    (List.cons_ne_nil _ _)
  refine ((((read.second (ReadRequest.refuses (rfl : ReadRequest.duckSize = _) shape ?_)).second
    (ReadRequest.refuses (rfl : ReadRequest.indexed = _) shape ?_)).second
    (ReadRequest.refuses (rfl : ReadRequest.selectivity = _) shape ?_)).second
    (ReadRequest.refuses (rfl : ReadRequest.relpages = _) shape ?_)).readAll rfl
  · exact keyword_apart 8 (by decide +kernel) (by decide +kernel) (by decide +kernel)
  · exact keyword_apart 8 (by decide +kernel) (by decide +kernel) (by decide +kernel)
  · exact keyword_apart 8 (by decide +kernel) (by decide +kernel) (by decide +kernel)
  · exact keyword_apart 8 (by decide +kernel) (by decide +kernel) (by decide +kernel)

/-- The text of a catalog query. -/
def Request.catalogText : Request → Option String
  | .relpages schema table => some (relpagesSql schema table).text
  | .selectivity schema table column => some (selectivitySql schema table column).text
  | .indexed schema table column => some (indexedSql schema table column).text
  | .duckSize schema table => some (duckSizeSql schema table).text
  | .pages _ _ _ _ => none

/-- Every text that the connectors make of names is read back: each catalog query as the one that it
is, about the very names it was made from, and each read of pages of one or more named columns with
its columns, table and range and with the text of its filter.
-/
theorem readRequest_texts
    : (∀ request text, Request.catalogText request = some text → readRequest text = some request)
      ∧ ∀ (column : String) (columns : List String) (source : TableRef) (range : Nat × Nat)
          (whereClause : Option SqlExpr),
        readRequest (ctidSql (.columns (column :: columns)) source range whereClause).text
          = some (.pages (column :: columns) source range (whereClause.map SqlExpr.text)) := by
  refine ⟨?_, readRequest_pages⟩
  intro request text made
  cases request with
  | relpages schema table =>
      cases made
      exact readRequest_relpages schema table
  | selectivity schema table column =>
      cases made
      exact readRequest_selectivity schema table column
  | indexed schema table column =>
      cases made
      exact readRequest_indexed schema table column
  | duckSize schema table =>
      cases made
      exact readRequest_duckSize schema table
  | pages columns source range filter => cases made

end Fedqrs
