import Fedqrs.Core.Expr

/-! Source SQL built from a scan spec. A statement is kept as the pieces the emitter
concatenates; `Sql.text` is the text that goes to the source.
-/

namespace Fedqrs

/-- The unparser dialects in use: Postgres' own, and the default one for the rest. -/
inductive Dialect
  | postgreSql
  | default
deriving DecidableEq, Repr

def dialectFor : DsKind → Dialect
  | .postgres => .postgreSql
  | .duckDb => .default
  | .parquet => .default

/-- A condition in SQL text. `binaryOp` is printed bare and `nested` in parentheses; `form`
is any other printed expression, with the expression it was printed from.
-/
inductive SqlExpr
  | nested (inner : SqlExpr)
  | binaryOp (left : SqlExpr) (op : Operator) (right : SqlExpr)
  | form (text : String) (meaning : Expr)
  | inKeys (column keyColumn keyTable : String)
  | ctidRange (lo hi : Nat)

/-- How SQL reads `left AND right` when the two texts are concatenated: AND binds tighter
than a bare OR on its left.
-/
def SqlExpr.concatAnd : SqlExpr → SqlExpr → SqlExpr
  | .binaryOp a .or b, right => .binaryOp a .or (b.concatAnd right)
  | left, right => .binaryOp left .and right

/-- Not a bare binary operator, so that concatenation cannot regroup it. -/
def SqlExpr.Closed : SqlExpr → Prop
  | .binaryOp _ _ _ => False
  | _ => True

/-- Concatenating after a closed condition is a conjunction, by cases on its form. -/
theorem SqlExpr.concatAnd_closed {left : SqlExpr} (closed : left.Closed) (right : SqlExpr)
    : left.concatAnd right = .binaryOp left .and right := by
  cases left with
  | binaryOp a op b => exact closed.elim
  | nested | form | inKeys | ctidRange => rfl

/-- DataFusion's expression services: the function registries and the unparser. -/
structure ExprServices where
  functions : FunctionRegistry
  exprToSql : Dialect → Expr → Except DfError SqlExpr

/-- `"schema"."table" [AS "alias"]`. -/
structure TableRef where
  schema : Option String
  table : String
  aliasName : Option String
deriving DecidableEq, Repr

/-- A SELECT list: quoted columns, or a text handed in from outside. -/
inductive SelectList
  | columns (names : List String)
  | text (sql : String)
deriving DecidableEq, Repr

structure SelectSql where
  distinct : Bool
  list : SelectList
  source : TableRef
  filter : Option SqlExpr
  limit : Option Nat

/-- A statement for a source. `wrapped` filters a pre-rendered text as a derived table. -/
inductive Sql
  | raw (text : String)
  | wrapped (raw : String) (filter : SqlExpr)
  | select (query : SelectSql)
  | catalog (text : String)

/-- A query of rows without DISTINCT and LIMIT. -/
def Sql.Whole : Sql → Prop
  | .raw _ | .wrapped _ _ => True
  | .select query => query.distinct = false ∧ query.limit = none
  | .catalog _ => False

-----------------------------------------------------------------------------------------
-- Builders
-----------------------------------------------------------------------------------------

def tableRef (scan : ScanSpec) (table : String) : TableRef :=
  { schema := scan.schema, table, aliasName := scan.aliasName }

/-- A pre-rendered subtree filtered on its output columns. -/
def wrappedRawSql (df : ExprServices) (kind : DsKind) (raw : String) (filter : Expr)
    : Except DfError Sql := do
  let rendered ← df.exprToSql (dialectFor kind) filter
  pure (.wrapped raw rendered)

/-- The static filter and the dynamic one, either of which may be absent. -/
def combinedFilter (df : ExprServices) (scan : ScanSpec) (extraFilter : Option Expr)
    : Except DfError (Option Expr) :=
  match scan.filter, extraFilter with
  | some f, some x => do
      let base ← toDfExpr df.functions f
      pure (some (base.and x))
  | some f, none => do
      let base ← toDfExpr df.functions f
      pure (some base)
  | none, some x => .ok (some x)
  | none, none => .ok none

def renderOption (df : ExprServices) (kind : DsKind)
    : Option Expr → Except DfError (Option SqlExpr)
  | none => .ok none
  | some filter => do
      let rendered ← df.exprToSql (dialectFor kind) filter
      pure (some rendered)

/-- Render a scan; the extra filter is ANDed into its WHERE clause. -/
def scanSql (df : ExprServices) (kind : DsKind) (scan : ScanSpec)
    (extraFilter : Option Expr)
    : Except DfError Sql :=
  match scan.rawSql with
  | some raw =>
      match extraFilter with
      | none => .ok (.raw raw)
      | some filter => wrappedRawSql df kind raw filter
  | none =>
      match scan.table with
      | none => .error (.plan "structured scan needs a 'table'")
      | some table =>
          if scan.columns.isEmpty then
            .error (.plan ("scan of '" ++ table ++ "' has no output columns"))
          else do
            let filter ← combinedFilter df scan extraFilter
            let rendered ← renderOption df kind filter
            pure
              (.select
                {
                  distinct := scan.distinct
                  list := .columns scan.columns
                  source := tableRef scan table
                  filter := rendered
                  limit := scan.limit
                })

/-- Render one IR filter expression in the source dialect. -/
def renderFilter (df : ExprServices) (kind : DsKind) (filter : IrExpr)
    : Except DfError SqlExpr := do
  let expr ← toDfExpr df.functions filter
  df.exprToSql (dialectFor kind) expr

/-- The scan's static filter alone, for the partitioned read. -/
def baseFilterSql (df : ExprServices) (kind : DsKind) (scan : ScanSpec)
    : Except DfError (Option SqlExpr) :=
  match scan.filter with
  | some f => do
      let rendered ← renderFilter df kind f
      pure (some rendered)
  | none => .ok none

/-- The scan's SELECT column list, for the partitioned read. -/
def selectListSql (scan : ScanSpec) : SelectList := .columns scan.columns

/-- The probe restricted to rows whose `injectCol` appears in the keys table. The clauses
are joined as texts.
-/
def tempJoinSql (df : ExprServices) (kind : DsKind) (scan : ScanSpec)
    (tempTable keyCol injectCol : String)
    : Except DfError Sql :=
  let membership : SqlExpr := .inKeys injectCol keyCol tempTable
  match scan.rawSql with
  | some raw => .ok (.wrapped raw membership)
  | none =>
      match scan.table with
      | none => .error (.plan "temp-join needs a structured table")
      | some table =>
          if scan.columns.isEmpty then
            .error (.plan "temp-join scan has no columns")
          else do
            let base ← baseFilterSql df kind scan
            pure
              (.select
                {
                  distinct := false
                  list := selectListSql scan
                  source := tableRef scan table
                  filter :=
                    some
                      (match base with
                      | some filter => filter.concatAnd membership
                      | none => membership)
                  limit := none
                })

/-- One partition of a page-partitioned read: the range, then the filter in parentheses. -/
def ctidSql (list : SelectList) (source : TableRef) (range : Nat × Nat)
    (whereClause : Option SqlExpr)
    : Sql :=
  let pages : SqlExpr := .ctidRange range.1 range.2
  .select
    {
      distinct := false
      list
      source
      filter :=
        some
          (match whereClause with
          | some clause => pages.concatAnd (.nested clause)
          | none => pages)
      limit := none
    }

-----------------------------------------------------------------------------------------
-- Text
-----------------------------------------------------------------------------------------

/-- Double a quote character inside a quoted name or literal. -/
def doubled (quote : Char) (name : String) : String :=
  String.ofList (name.toList.flatMap (fun c => if c = quote then [quote, quote] else [c]))

/-- Quote an identifier with double quotes, doubled internally. -/
def quoteIdent (name : String) : String := "\"" ++ doubled '\"' name ++ "\""

/-- `esc`: escape a single-quoted literal. -/
def esc (text : String) : String := doubled '\'' text

def Operator.text : Operator → String
  | .plus => "+"
  | .minus => "-"
  | .multiply => "*"
  | .divide => "/"
  | .modulo => "%"
  | .eq => "="
  | .notEq => "<>"
  | .lt => "<"
  | .ltEq => "<="
  | .gt => ">"
  | .gtEq => ">="
  | .and => "AND"
  | .or => "OR"
  | .likeMatch => "LIKE"
  | .iLikeMatch => "ILIKE"
  | .isDistinctFrom => "IS DISTINCT FROM"
  | .isNotDistinctFrom => "IS NOT DISTINCT FROM"

def SqlExpr.text : SqlExpr → String
  | .nested inner => "(" ++ inner.text ++ ")"
  | .binaryOp left op right => left.text ++ " " ++ op.text ++ " " ++ right.text
  | .form text _ => text
  | .inKeys column keyColumn keyTable =>
      quoteIdent column ++ " IN (SELECT " ++ quoteIdent keyColumn ++ " FROM "
        ++ quoteIdent keyTable ++ ")"
  | .ctidRange lo hi =>
      "ctid >= '(" ++ toString lo ++ ",0)'::tid AND ctid < '(" ++ toString hi ++ ",0)'::tid"

def TableRef.text (source : TableRef) : String :=
  (match source.schema with
    | some schema => quoteIdent schema ++ "."
    | none => "")
    ++ quoteIdent source.table
    ++ (match source.aliasName with
      | some name => " AS " ++ quoteIdent name
      | none => "")

def SelectList.sql : SelectList → String
  | .columns names => String.intercalate ", " (names.map quoteIdent)
  | .text sql => sql

def SelectSql.text (query : SelectSql) : String :=
  "SELECT "
    ++ (if query.distinct then "DISTINCT " else "")
    ++ query.list.sql
    ++ " FROM "
    ++ query.source.text
    ++ (match query.filter with
      | some filter => " WHERE " ++ filter.text
      | none => "")
    ++ (match query.limit with
      | some n => " LIMIT " ++ toString n
      | none => "")

def Sql.text : Sql → String
  | .raw text => text
  | .wrapped subtree filter =>
      "SELECT * FROM (" ++ subtree ++ ") AS \"fedq_probe\" WHERE " ++ filter.text
  | .select query => query.text
  | .catalog text => text

/-- The text of a concatenation is the two texts around AND, whatever the reading; by
induction along the left side's disjunctions.
-/
theorem SqlExpr.concatAnd_text (left right : SqlExpr)
    : (left.concatAnd right).text = left.text ++ " AND " ++ right.text := by
  fun_induction SqlExpr.concatAnd left right with
  | case1 a b right ih => simp [SqlExpr.text, ih, Operator.text, String.append_assoc]
  | case2 left right _ => simp [SqlExpr.text, Operator.text, String.append_assoc]

end Fedqrs
