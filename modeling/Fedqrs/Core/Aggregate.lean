import Fedqrs.Core.Sql

/-! The SQL that an aggregate fragment and a cardinality guard are rendered to, for DataFusion
itself to parse. Statements are kept as the pieces that are concatenated.
-/

namespace Fedqrs

/-- An aggregate call over expressions of some form; without `args` it is over `*`. -/
structure AggregateCall (E : Type) where
  func : String
  distinct : Bool
  args : Option (List E)
  withinGroup : Option (E × Bool)

/-- One item of an aggregating SELECT list. -/
inductive AggItem (E : Type)
  | call (call : AggregateCall E)
  | expr (expr : E)

inductive Grouping (E : Type)
  | none
  | keys (keys : List E)
  | sets (sets : List (List E))

/-- `SELECT item AS "alias", … FROM "in_0" [GROUP BY …]`. -/
structure Aggregation (E : Type) where
  items : List (AggItem E × String)
  grouping : Grouping E

section Builders

variable (df : ExprServices)

/-- `render_expr` of an IR expression, in the default dialect. -/
def renderExpr (expr : IrExpr) : Except DfError SqlExpr := do
  let built ← toDfExpr df.functions expr
  df.exprToSql .default built

/-- The arguments of a call, `*` where it is a star. -/
def renderArgs (agg : AggCall) : Except DfError (Option (List SqlExpr)) :=
  if agg.star then
    .ok none
  else do
    let parts ← agg.args.mapM (renderExpr df)
    pure (some parts)

def renderWithinGroup : Option WithinGroup → Except DfError (Option (SqlExpr × Bool))
  | none => .ok none
  | some wg => do
      let key ← renderExpr df wg.key
      pure (some (key, wg.desc))

def renderAgg (agg : AggCall) : Except DfError (AggregateCall SqlExpr) := do
  let args ← renderArgs df agg
  let withinGroup ← renderWithinGroup df agg.withinGroup
  pure { func := agg.func, distinct := agg.distinct, args, withinGroup }

/-- A select item: its call if it has one, else its expression. -/
def renderItem (item : AggSelectItem) : Except DfError (AggItem SqlExpr × String) :=
  match item.agg, item.expr with
  | some agg, _ => do
      let rendered ← renderAgg df agg
      pure (.call rendered, item.aliasName)
  | none, some expr => do
      let rendered ← renderExpr df expr
      pure (.expr rendered, item.aliasName)
  | none, none => .error (.plan "aggregate select item has neither expr nor agg")

/-- `GROUP BY GROUPING SETS ((a, b), (a), ())`. -/
def groupingSetsClause (groupingSets : List (List IrExpr)) : Except DfError (Grouping SqlExpr) := do
  let rendered ← groupingSets.mapM (fun set => set.mapM (renderExpr df))
  pure (.sets rendered)

/-- Grouping sets when there are any, else the grouping keys, else nothing. -/
def groupByClause (groupBy : List IrExpr) (groupingSets : List (List IrExpr))
    : Except DfError (Grouping SqlExpr) :=
  if groupingSets.isEmpty then
    if groupBy.isEmpty then
      .ok .none
    else do
      let groups ← groupBy.mapM (renderExpr df)
      pure (.keys groups)
  else
    groupingSetsClause df groupingSets

/-- `run_aggregate`: render the fragment and let DataFusion plan the statement. -/
def runAggregate (plan : Aggregation SqlExpr → Except DfError Unit)
    (select : List AggSelectItem) (groupBy : List IrExpr)
    (groupingSets : List (List IrExpr))
    : Except DfError (Aggregation SqlExpr) := do
  let items ← select.mapM (renderItem df)
  let grouping ← groupByClause df groupBy groupingSets
  plan { items, grouping }
  pure { items, grouping }

/-- The keys of the guard's probe, `SELECT 1 FROM "in_0" … HAVING count(*) > 1`. -/
def guardProbe (keys : List IrExpr) : Except DfError (List SqlExpr) :=
  keys.mapM (renderExpr df)

end Builders

end Fedqrs
