import Fedqrs.Core.Sql
import Fedqrs.Library.Reading

/-! What a reader of SQL finds in the text of a scan without a filter. Names stand in double
quotes with their own quotes doubled, so the text of `scanSql` gives back every part of the
spec, whatever the names contain. The text of `tempJoinSql` gives back all but the two parts
it never prints, DISTINCT and LIMIT.
-/

namespace Fedqrs

open Reading

/-- What the membership test of a keys join names. -/
structure KeysTest where
  inject : String
  key : String
  table : String
deriving DecidableEq, Repr

/-- The parts of a SELECT statement on one table. -/
structure Statement where
  distinct : Bool
  columns : List String
  schema : Option String
  table : String
  aliasName : Option String
  keys : Option KeysTest
  limit : Option Nat
deriving DecidableEq, Repr

-----------------------------------------------------------------------------------------
-- The reader
-----------------------------------------------------------------------------------------

namespace ReadSql

/-- A double-quoted identifier. -/
def identifier : TextReader String := quoted '\"' >>= fun name => pure (String.ofList name)

def columnList : TextReader (List String) := separated ", " identifier

/-- One identifier is a table, two are a schema and a table. -/
def qualified (first : String) : Option String → Option String × String
  | none => (none, first)
  | some second => (some first, second)

def tableName : TextReader (Option String × String) := do
  let first ← identifier
  let second ← optionally (do
    keyword "."
    identifier)
  pure (qualified first second)

def tableAlias : TextReader (Option String) :=
  optionally (do
    keyword " AS "
    identifier)

def keysTest : TextReader KeysTest := do
  keyword " WHERE "
  let inject ← identifier
  keyword " IN (SELECT "
  let key ← identifier
  keyword " FROM "
  let table ← identifier
  keyword ")"
  pure { inject, key, table }

def limitClause : TextReader (Option Nat) :=
  optionally (do
    keyword " LIMIT "
    number)

def statement : TextReader Statement := do
  keyword "SELECT "
  let distinct ← optionally (keyword "DISTINCT ")
  let columns ← columnList
  keyword " FROM "
  let table ← tableName
  let aliasName ← tableAlias
  let keys ← optionally keysTest
  let limit ← limitClause
  pure
    {
      distinct := distinct.isSome
      columns
      schema := table.1
      table := table.2
      aliasName
      keys
      limit
    }

end ReadSql

/-- Read a whole text as one statement. -/
def readStatement (text : String) : Option Statement := readAll ReadSql.statement text

-----------------------------------------------------------------------------------------
-- Each part is read back
-----------------------------------------------------------------------------------------

namespace ReadSql

theorem quoteIdent_toList (name : String)
    : (quoteIdent name).toList = '\"' :: (doubling '\"' name.toList ++ ['\"']) := by
  simp [quoteIdent, doubled, doubling]

theorem identifier_reads (name : String)
    : ReadsBack identifier (quoteIdent name).toList name (NotFirst '\"') := by
  have read := (quoted_reads '\"' name.toList).result String.ofList
  rw [String.ofList_toList] at read
  rw [quoteIdent_toList]
  exact read

theorem intercalate_toList (separator first : String) (others : List String)
    : (String.intercalate separator (first :: others)).toList
      = first.toList ++ listed separator (others.map String.toList) := by
  induction others generalizing first with
  | nil => simp [listed]
  | cons next others ih =>
      have rest := ih next
      simp only [String.toList_intercalate, List.map_cons] at rest ⊢
      rw [List.intercalate_cons_cons, rest, listed_cons, List.append_assoc]

/-- A quoted list of columns is read back, up to something other than a comma. -/
theorem columnList_reads (names : List String) (nonempty : names ≠ [])
    : ReadsBack columnList (String.intercalate ", " (names.map quoteIdent)).toList names
        (fun rest => NotFirst '\"' rest ∧ ", ".toList.isPrefixOf rest = false) := by
  cases names with
  | nil => exact absurd rfl nonempty
  | cons name names =>
      have between : ∀ rest, NotFirst '\"' (", ".toList ++ rest) := by
        intro rest
        simp [NotFirst]
      have read := separated_reads identifier_reads between (by decide) name names
      rw [List.map_cons, intercalate_toList, List.map_map]
      exact read

def distinctText (distinct : Bool) : String := if distinct then "DISTINCT " else ""

/-- A word and a name. -/
def wordText (word name : String) : String := word ++ quoteIdent name

def keysTestText (keys : KeysTest) : String :=
  " WHERE " ++ quoteIdent keys.inject ++ " IN (SELECT " ++ quoteIdent keys.key ++ " FROM "
    ++ quoteIdent keys.table ++ ")"

def limitClauseText (n : Nat) : String := " LIMIT " ++ toString n

def tableText (table : String) (schema : Option String) : String :=
  schema.elim (quoteIdent table) (fun schema => quoteIdent schema ++ wordText "." table)

/-- The text of an optional part. -/
def optionalText {α : Type} (text : α → String) (part : Option α) : String :=
  part.elim "" text

theorem distinct_reads (distinct : Bool)
    : ∃ found, ReadsBack (optionally (keyword "DISTINCT ")) (distinctText distinct).toList found
          (fun rest => rest.head? = some '\"')
        ∧ found.isSome = distinct := by
  cases distinct with
  | true => exact ⟨some (), ((keyword_reads _).weaken (fun _ _ => trivial)).optionally, rfl⟩
  | false =>
      refine ⟨none, optionally_absent ?_, rfl⟩
      intro rest quote
      cases rest with
      | nil => cases quote
      | cons c rest =>
          cases quote
          exact keyword_refuses rfl

/-- A word and an identifier. -/
theorem word_reads (word name : String)
    : ReadsBack (do keyword word; identifier) (wordText word name).toList name
        (NotFirst '\"') := by
  rw [wordText, String.toList_append]
  exact (keyword_reads word).bind (identifier_reads name) (fun _ _ => trivial)

/-- A table name is read back with its schema, by cases on whether it has one. -/
theorem tableName_reads (schema : Option String) (table : String)
    : ReadsBack tableName (tableText table schema).toList (schema, table)
        (fun rest => NotFirst '\"' rest ∧ ".".toList.isPrefixOf rest = false) := by
  cases schema with
  | some schema =>
      have both : ReadsBack tableName (tableText table (some schema)).toList (some schema, table)
          (NotFirst '\"') := by
        rw [tableText, Option.elim_some, String.toList_append]
        refine (identifier_reads schema).bind
          ((word_reads "." table).optionally.result (qualified schema)) ?_
        intro rest _
        simp [wordText, NotFirst]
      exact both.weaken (fun _ after => after.1)
  | none =>
      have absent : ReadsBack (optionally (do keyword "."; identifier)) [] none
          (fun rest => NotFirst '\"' rest ∧ ".".toList.isPrefixOf rest = false) :=
        optionally_absent (fun _ after => bind_refuses (keyword_refuses after.2))
      have both : ReadsBack tableName ((quoteIdent table).toList ++ []) (none, table)
          (fun rest => NotFirst '\"' rest ∧ ".".toList.isPrefixOf rest = false) := by
        refine (identifier_reads table).bind (absent.result (qualified table)) ?_
        intro rest after
        exact after.1
      rw [List.append_nil] at both
      exact both

theorem tableAlias_reads (name : Option String)
    : ReadsBack tableAlias (optionalText (wordText " AS ") name).toList name
        (fun rest => NotFirst '\"' rest ∧ " AS ".toList.isPrefixOf rest = false) := by
  cases name with
  | some name => exact (word_reads " AS " name).optionally.weaken (fun _ after => after.1)
  | none =>
      exact optionally_absent (fun _ after => bind_refuses (keyword_refuses after.2))

/-- The three names of a membership test are read back in order. -/
theorem keysTest_reads (keys : KeysTest)
    : ReadsBack keysTest (keysTestText keys).toList keys Anything := by
  simp only [keysTestText, String.toList_append, List.append_assoc]
  refine (keyword_reads " WHERE ").bind ?_ (fun _ _ => trivial)
  refine (identifier_reads keys.inject).bind ?_ ?_
  · refine (keyword_reads " IN (SELECT ").bind ?_ (fun _ _ => trivial)
    refine (identifier_reads keys.key).bind ?_ ?_
    · refine (keyword_reads " FROM ").bind ?_ (fun _ _ => trivial)
      refine (identifier_reads keys.table).bind ((keyword_reads ")").result (fun _ => keys)) ?_
      intro rest _
      simp [NotFirst]
    · intro rest _
      simp [NotFirst]
  · intro rest _
    simp [NotFirst]

theorem keysClause_reads (keys : Option KeysTest)
    : ReadsBack (optionally keysTest) (optionalText keysTestText keys).toList keys
        (fun rest => " WHERE ".toList.isPrefixOf rest = false) := by
  cases keys with
  | some keys => exact (keysTest_reads keys).optionally.weaken (fun _ _ => trivial)
  | none => exact optionally_absent (fun _ after => bind_refuses (keyword_refuses after))

theorem limitClause_reads (limit : Option Nat)
    : ReadsBack limitClause (optionalText limitClauseText limit).toList limit
        (fun rest => rest = []) := by
  cases limit with
  | some n =>
      have present : ReadsBack (do keyword " LIMIT "; number)
          (limitClauseText n).toList n NoDigitFirst := by
        have digits : (toString n).toList = Nat.toDigits 10 n := by simp
        rw [limitClauseText, String.toList_append, digits]
        exact (keyword_reads " LIMIT ").bind (number_reads n) (fun _ _ => trivial)
      refine present.optionally.weaken ?_
      intro rest ended c first
      rw [ended] at first
      cases first
  | none =>
      refine optionally_absent ?_
      intro rest ended
      rw [ended]
      exact bind_refuses (keyword_refuses rfl)

end ReadSql

-----------------------------------------------------------------------------------------
-- The whole statement
-----------------------------------------------------------------------------------------

/-- The statement with these parts, as the builders make it. -/
def Statement.select (s : Statement) : SelectSql :=
  {
    distinct := s.distinct
    list := .columns s.columns
    source := { schema := s.schema, table := s.table, aliasName := s.aliasName }
    filter := s.keys.map (fun keys => .inKeys keys.inject keys.key keys.table)
    limit := s.limit
  }

namespace ReadSql

theorem tableRef_text (schema : Option String) (table : String) (aliasName : Option String)
    : TableRef.text { schema, table, aliasName }
      = tableText table schema ++ optionalText (wordText " AS ") aliasName := by
  cases schema <;> cases aliasName <;>
    simp [TableRef.text, tableText, optionalText, wordText, String.append_assoc]

/-- The text of a statement is its parts one after the other, by cases on the optional
ones.
-/
theorem select_text (s : Statement)
    : s.select.text
      = "SELECT " ++ (distinctText s.distinct
        ++ (String.intercalate ", " (s.columns.map quoteIdent) ++ (" FROM "
        ++ (tableText s.table s.schema ++ (optionalText (wordText " AS ") s.aliasName
        ++ (optionalText keysTestText s.keys ++ optionalText limitClauseText s.limit)))))) := by
  rcases s with ⟨distinct, columns, schema, table, aliasName, keys, limit⟩
  have source := tableRef_text schema table aliasName
  cases distinct <;> cases keys <;> cases limit <;>
    simp [Statement.select, SelectSql.text, SelectList.sql, SqlExpr.text, source, distinctText,
      keysTestText, limitClauseText, optionalText, String.append_assoc, -String.reduceAppend]

/-- What follows a part is nothing, or a space and a letter that opens a later part. -/
def Opens (letters : List Char) (rest : List Char) : Prop :=
  rest = [] ∨ ∃ c ∈ letters, ∃ more, rest = ' ' :: c :: more

/-- An optional part adds its own letter to those that may come next. -/
theorem optional_opens {α : Type} {text : α → String} {letter : Char}
    (starts : ∀ value, ∃ more, (text value).toList = ' ' :: letter :: more)
    (part : Option α) {letters rest : List Char} (after : Opens letters rest)
    : Opens (letter :: letters) ((optionalText text part).toList ++ rest) := by
  cases part with
  | none =>
      rcases after with ended | ⟨c, found, more, opened⟩
      · exact Or.inl ended
      · exact Or.inr ⟨c, List.mem_cons_of_mem _ found, more, opened⟩
  | some value =>
      obtain ⟨more, opened⟩ := starts value
      refine Or.inr ⟨letter, List.mem_cons_self, more ++ rest, ?_⟩
      rw [optionalText, Option.elim_some, opened]
      rfl

/-- A word that starts with none of the letters is not what follows. -/
theorem Opens.refuses {letters rest : List Char} {word : String} (after : Opens letters rest)
    (nonempty : word.toList.isPrefixOf [] = false)
    (apart : ∀ c ∈ letters, ∀ more, word.toList.isPrefixOf (' ' :: c :: more) = false)
    : word.toList.isPrefixOf rest = false := by
  rcases after with ended | ⟨c, found, more, opened⟩
  · rw [ended]
    exact nonempty
  · rw [opened]
    exact apart c found more

theorem Opens.notQuote {letters rest : List Char} (after : Opens letters rest)
    : NotFirst '\"' rest := by
  rcases after with ended | ⟨c, _, more, opened⟩
  · simp [NotFirst, ended]
  · simp [NotFirst, opened]

theorem limit_opens (limit : Option Nat) {rest : List Char} (after : rest = [])
    : Opens ['L'] ((optionalText limitClauseText limit).toList ++ rest) :=
  optional_opens (fun n => ⟨_, by rw [limitClauseText, String.toList_append]; rfl⟩) limit
    (Or.inl after)

theorem keys_opens (keys : Option KeysTest) {rest : List Char} (after : Opens ['L'] rest)
    : Opens ['W', 'L'] ((optionalText keysTestText keys).toList ++ rest) :=
  optional_opens
    (fun keys => ⟨_, by simp only [keysTestText, String.toList_append, List.append_assoc]; rfl⟩)
    keys after

theorem alias_opens (name : Option String) {rest : List Char} (after : Opens ['W', 'L'] rest)
    : Opens ['A', 'W', 'L'] ((optionalText (wordText " AS ") name).toList ++ rest) :=
  optional_opens (fun name => ⟨_, by rw [wordText, String.toList_append]; rfl⟩) name after

/-- A statement is read back part by part, each optional part being told from what comes
after it by its first letters.
-/
theorem statement_reads (s : Statement) (nonempty : s.columns ≠ [])
    : ReadsBack statement s.select.text.toList s (fun rest => rest = []) := by
  obtain ⟨found, readsDistinct, same⟩ := distinct_reads s.distinct
  rw [select_text]
  rcases s with ⟨distinct, columns, schema, table, aliasName, keys, limit⟩
  subst same
  change columns ≠ [] at nonempty
  simp only [String.toList_append]
  refine (keyword_reads "SELECT ").bind ?_ (fun _ _ => trivial)
  refine readsDistinct.bind ?_ ?_
  · refine (columnList_reads columns nonempty).bind ?_ ?_
    · refine (keyword_reads " FROM ").bind ?_ (fun _ _ => trivial)
      refine (tableName_reads schema table).bind ?_ ?_
      · refine (tableAlias_reads aliasName).bind ?_ ?_
        · refine (keysClause_reads keys).bind ((limitClause_reads limit).result _) ?_
          intro rest ended
          exact (limit_opens limit ended).refuses rfl (by simp [List.isPrefixOf])
        · intro rest ended
          rw [List.append_assoc]
          have after := keys_opens keys (limit_opens limit ended)
          exact ⟨after.notQuote, after.refuses rfl (by simp [List.isPrefixOf])⟩
      · intro rest ended
        rw [List.append_assoc, List.append_assoc]
        have after := alias_opens aliasName (keys_opens keys (limit_opens limit ended))
        exact ⟨after.notQuote, after.refuses rfl (by simp [List.isPrefixOf])⟩
    · intro rest _
      exact ⟨by simp [NotFirst], by simp [List.isPrefixOf]⟩
  · intro rest _
    obtain ⟨name, others, shape⟩ := List.exists_cons_of_ne_nil nonempty
    rw [shape, List.map_cons, intercalate_toList, quoteIdent_toList]
    rfl

end ReadSql

-----------------------------------------------------------------------------------------
-- The texts of the two builders
-----------------------------------------------------------------------------------------

theorem Sql.select_text (query : SelectSql) : (Sql.select query).text = query.text := rfl

theorem readStatement_select (s : Statement) (nonempty : s.columns ≠ [])
    : readStatement s.select.text = some s :=
  (ReadSql.statement_reads s nonempty).readAll rfl

/-- A structured scan of a table without a filter. -/
structure Unfiltered (scan : ScanSpec) (table : String) : Prop where
  structured : scan.rawSql = none
  named : scan.table = some table
  listed : scan.columns ≠ []
  unfiltered : scan.filter = none

/-- The parts of a scan's statement, with a membership test or without. -/
def ScanSpec.statement (scan : ScanSpec) (table : String) (keys : Option KeysTest)
    : Statement :=
  {
    distinct := scan.distinct
    columns := scan.columns
    schema := scan.schema
    table
    aliasName := scan.aliasName
    keys
    limit := scan.limit
  }

/-- The statement as a keys join prints it. -/
def Statement.unmodified (s : Statement) : Statement :=
  { s with distinct := false, limit := none }

section Builders

variable (df : ExprServices) (kind : DsKind) {scan : ScanSpec} {table : String}

theorem scanSql_unfiltered (here : Unfiltered scan table)
    : scanSql df kind scan none = .ok (.select (scan.statement table none).select) := by
  have some_column : ¬ scan.columns.isEmpty = true := by
    rw [List.isEmpty_iff]
    exact here.listed
  simp only [scanSql, here.structured, here.named, combinedFilter, here.unfiltered]
  rw [if_neg some_column]
  rfl

theorem tempJoinSql_unfiltered (here : Unfiltered scan table) (keys : KeysTest)
    : tempJoinSql df kind scan keys.table keys.key keys.inject
      = .ok (.select (scan.statement table (some keys)).unmodified.select) := by
  have some_column : ¬ scan.columns.isEmpty = true := by
    rw [List.isEmpty_iff]
    exact here.listed
  simp only [tempJoinSql, here.structured, here.named, baseFilterSql, here.unfiltered]
  rw [if_neg some_column]
  rfl

end Builders

/-- The parts printed by a keys join are the spec's own exactly when the spec has neither
modifier.
-/
theorem unmodified_eq_iff (s : Statement)
    : s.unmodified = s ↔ s.distinct = false ∧ s.limit = none := by
  rcases s with ⟨distinct, columns, schema, table, aliasName, keys, limit⟩
  constructor
  · intro same
    injection same with distinct _ _ _ _ _ limit
    exact ⟨distinct.symm, limit.symm⟩
  · intro plain
    obtain ⟨noDistinct, noLimit⟩ := plain
    change distinct = false at noDistinct
    change limit = none at noLimit
    subst noDistinct noLimit
    rfl

/-- What the text of a scan says: the reader finds the spec in it, another spec with the same
text has the same parts, and its column list is the one given by `selectListSql`.
-/
structure Decodes (df : ExprServices) (kind : DsKind) (scan : ScanSpec) (table : String)
    (text : String) : Prop where
  read : readStatement text = some (scan.statement table none)
  unique : ∀ other otherTable, Unfiltered other otherTable →
    ∀ sql, scanSql df kind other none = .ok sql → sql.text = text →
      other.statement otherTable none = scan.statement table none
  segment : ∃ rest, text = "SELECT " ++ (if scan.distinct then "DISTINCT " else "")
      ++ (selectListSql scan).sql ++ " FROM " ++ rest
  columns : readAll ReadSql.columnList (selectListSql scan).sql = some scan.columns

theorem scanSql_decodes (df : ExprServices) (kind : DsKind) {scan : ScanSpec}
    {table : String} (here : Unfiltered scan table)
    : Decodes df kind scan table (scan.statement table none).select.text := by
  refine ⟨readStatement_select _ here.listed, ?_,
    ⟨(tableRef scan table).text ++ ReadSql.optionalText ReadSql.limitClauseText scan.limit, ?_⟩,
    ?_⟩
  · intro other otherTable there sql built same
    have read := readStatement_select (other.statement otherTable none) there.listed
    rw [scanSql_unfiltered df kind there] at built
    cases built
    have text : (other.statement otherTable none).select.text
        = (scan.statement table none).select.text := same
    rw [text, readStatement_select _ here.listed] at read
    exact (Option.some.inj read).symm
  · rw [ReadSql.select_text, tableRef, ReadSql.tableRef_text]
    simp only [String.append_assoc]
    rfl
  · exact (ReadSql.columnList_reads scan.columns here.listed).readAll
      ⟨by simp [NotFirst], rfl⟩

/-- Two keys joins with the same text agree on everything they print. -/
theorem tempJoinSql_unique (df : ExprServices) (kind : DsKind) {scan other : ScanSpec}
    {table otherTable : String} (here : Unfiltered scan table)
    (there : Unfiltered other otherTable) (keys otherKeys : KeysTest) {sql : Sql}
    (built : tempJoinSql df kind other otherKeys.table otherKeys.key otherKeys.inject = .ok sql)
    (same : sql.text = (scan.statement table (some keys)).unmodified.select.text)
    : (other.statement otherTable (some otherKeys)).unmodified
      = (scan.statement table (some keys)).unmodified := by
  have read :=
    readStatement_select (other.statement otherTable (some otherKeys)).unmodified there.listed
  rw [tempJoinSql_unfiltered df kind there] at built
  cases built
  have text : (other.statement otherTable (some otherKeys)).unmodified.select.text
      = (scan.statement table (some keys)).unmodified.select.text := same
  rw [text, readStatement_select _ here.listed] at read
  exact (Option.some.inj read).symm

/-- Both texts give back the whole spec exactly when it asks for neither DISTINCT nor LIMIT:
the text of the plain scan always does, that of the keys join gives back everything but
these two, which it never prints.
-/
theorem scanText_decodes_iff (df : ExprServices) (kind : DsKind) (scan : ScanSpec)
    (table : String) (here : Unfiltered scan table) (keys : KeysTest)
    : ∃ scanned joined, scanSql df kind scan none = .ok scanned
        ∧ tempJoinSql df kind scan keys.table keys.key keys.inject = .ok joined
        ∧ Decodes df kind scan table scanned.text
        ∧ readStatement joined.text
          = some (scan.statement table (some keys)).unmodified
        ∧ (∀ other otherTable otherKeys, Unfiltered other otherTable →
          ∀ sql, tempJoinSql df kind other otherKeys.table otherKeys.key otherKeys.inject
            = .ok sql → sql.text = joined.text →
              (other.statement otherTable (some otherKeys)).unmodified
                = (scan.statement table (some keys)).unmodified)
        ∧ (readStatement joined.text = some (scan.statement table (some keys))
          ↔ scan.distinct = false ∧ scan.limit = none) := by
  have read := readStatement_select (scan.statement table (some keys)).unmodified here.listed
  refine ⟨_, _, scanSql_unfiltered df kind here, tempJoinSql_unfiltered df kind here keys,
    scanSql_decodes df kind here, read, ?_, ?_⟩
  · intro other otherTable otherKeys there sql built same
    exact tempJoinSql_unique df kind here there keys otherKeys built same
  · rw [Sql.select_text, read, Option.some_inj]
    exact unmodified_eq_iff (scan.statement table (some keys))

/-- A column named with a quote and a comma, from a schema named like a clause. -/
def awkwardScan : ScanSpec :=
  { schema := some " LIMIT 1", table := some "t", columns := ["a\", \"b", ""] }

/-- Awkward names are read back from both texts. -/
theorem scanText_decodes_awkward
    : Unfiltered awkwardScan "t"
        ∧ ∀ (df : ExprServices) (kind : DsKind),
          ∃ joined, tempJoinSql df kind awkwardScan "temp\"" " AS " "a" = .ok joined
            ∧ readStatement joined.text
              = some (awkwardScan.statement "t" (some ⟨"a", " AS ", "temp\""⟩)) := by
  have here : Unfiltered awkwardScan "t" := ⟨rfl, rfl, by decide, rfl⟩
  refine ⟨here, ?_⟩
  intro df kind
  obtain ⟨_, joined, _, built, _, _, _, full⟩ :=
    scanText_decodes_iff df kind awkwardScan "t" here ⟨"a", " AS ", "temp\""⟩
  exact ⟨joined, built, full.mpr ⟨rfl, rfl⟩⟩

/-- Two specs that differ in LIMIT only have the same text as keys joins. -/
theorem tempJoin_forgets_limit
    : ∃ plain limited : ScanSpec, Unfiltered plain "t" ∧ Unfiltered limited "t"
        ∧ plain.statement "t" none ≠ limited.statement "t" none
        ∧ ∀ (df : ExprServices) (kind : DsKind), ∃ sql,
          tempJoinSql df kind plain "keys" "k" "id" = .ok sql
            ∧ tempJoinSql df kind limited "keys" "k" "id" = .ok sql
            ∧ readStatement sql.text
              ≠ some (limited.statement "t" (some ⟨"id", "k", "keys"⟩)) := by
  have plain : Unfiltered { table := some "t", columns := ["id"] } "t" :=
    ⟨rfl, rfl, by decide, rfl⟩
  have limited : Unfiltered { table := some "t", columns := ["id"], limit := some 5 } "t" :=
    ⟨rfl, rfl, by decide, rfl⟩
  refine ⟨_, _, plain, limited, by decide, ?_⟩
  intro df kind
  refine ⟨_, tempJoinSql_unfiltered df kind plain ⟨"id", "k", "keys"⟩,
    tempJoinSql_unfiltered df kind limited ⟨"id", "k", "keys"⟩, ?_⟩
  rw [Sql.select_text, readStatement_select _ plain.listed]
  decide

end Fedqrs
