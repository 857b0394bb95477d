import Mathlib.Data.List.AList

/-! The execution IR: an ordered list of orchestration steps and the relational fragments
that the merge steps name. Both share one expression sub-IR.
-/

namespace Fedqrs

/-- A map with keys in iteration order, standing for `BTreeMap<String, V>`. -/
abbrev NameMap (V : Type) : Type := AList (fun _ : String => V)

/-- The kind of a datasource, used to pick the SQL dialect and read path. -/
inductive DsKind
  | postgres
  | duckDb
  | parquet
deriving DecidableEq, Repr

/-- A typed literal value; a float is its bit pattern. -/
inductive LiteralValue
  | int (value : Int)
  | float (bits : UInt64)
  | str (value : String)
  | bool (value : Bool)
  | null
deriving DecidableEq, Repr

mutual
/-- The expression sub-IR. Columns are already resolved to physical names. -/
inductive IrExpr
  | column (relation : Option String) (name : String)
  | literal (value : LiteralValue)
  | binary (op : String) (left right : IrExpr)
  | unary (op : String) (operand : IrExpr)
  | cast (expr : IrExpr) (target : String)
  | case (operand : Option IrExpr) (whens : List WhenThen) (elseExpr : Option IrExpr)
  | inList (expr : IrExpr) (list : List IrExpr) (negated : Bool)
  | isNull (expr : IrExpr) (negated : Bool)
  | function (name : String) (args : List IrExpr)

inductive WhenThen
  | mk (condition result : IrExpr)
end

/-- An output column of a fragment: an expression under a result name. -/
structure Projection where
  expr : IrExpr
  aliasName : String

inductive JoinKind
  | inner
  | left
  | right
  | full
  | semi
  | anti
deriving DecidableEq, Repr

structure SortKey where
  expr : IrExpr
  ascending : Bool
  nullsFirst : Bool

structure WithinGroup where
  key : IrExpr
  desc : Bool

structure AggCall where
  func : String
  distinct : Bool
  star : Bool
  args : List IrExpr
  withinGroup : Option WithinGroup

/-- One output column of an aggregate: a grouping expression or an aggregate call. -/
structure AggSelectItem where
  expr : Option IrExpr
  agg : Option AggCall
  aliasName : String

/-- A single local relational operator. -/
inductive Fragment
  | hashJoin (joinType : JoinKind) (leftKeys rightKeys : List String)
      (project : List Projection)
  | nestedLoopJoin (joinType : JoinKind) (condition : Option IrExpr)
      (project : List Projection)
  | project (project : List Projection) (distinct : Bool)
  | aggregate (select : List AggSelectItem) (groupBy : List IrExpr)
      (groupingSets : List (List IrExpr))
  | sort (keys : List SortKey)
  | filter (predicate : IrExpr)
  | limit (limit : Option Nat) (offset : Nat)
  | singleRowGuard (keys : List IrExpr)
  | rawSql (sql : String)

/-- One additional key set ANDed onto an injected scan as a bounded IN list. -/
structure ExtraInjection where
  column : String
  keysFrom : String

/-- A source scan: a structured single-table scan or a pre-rendered `rawSql` text. -/
structure ScanSpec where
  rawSql : Option String := none
  schema : Option String := none
  table : Option String := none
  aliasName : Option String := none
  columns : List String := []
  filter : Option IrExpr := none
  limit : Option Nat := none
  distinct : Bool := false
  parallel : Bool := false
  injectedSql : Option String := none

/-- One orchestration step. Every step but `ship` and `return` writes a named binding. -/
inductive Step
  | sourceScan (datasource : String) (scan : ScanSpec) (binding : String)
      (materialize : Bool)
  | collectDistinct (input key : String) (cap : Nat) (binding : String)
  | injectedScan (datasource : String) (scan : ScanSpec) (injectColumn keysFrom : String)
      (binding : String) (injectColumnNdv : Option Nat)
      (extraInjections : List ExtraInjection)
  | ship (datasource input table : String)
  | merge (fragment : String) (inputs : NameMap String) (binding : String)
  | «return» (input : String)

/-- The whole plan: the step list and the fragments the merge steps refer to by name. -/
structure Ir where
  outputs : List String
  steps : List Step
  fragments : NameMap Fragment

end Fedqrs
