import Fedqrs.Core.Aggregate
import Fedqrs.Library.Grouping
import Fedqrs.Semantics.Source

/-! What an aggregate fragment asks for, and what the SQL it is rendered to says: one row for
each group, with the items evaluated on the group's rows.
-/

namespace Fedqrs

/-- What an aggregate function is given: the number of rows, or its arguments on each row. -/
inductive CallInput
  | rows (count : Nat)
  | values (rows : List Row)

/-- The meaning of aggregate functions, beside that of scalars. `sameExpr` is when two
expressions are one to the planner.
-/
structure GroupOps extends ScalarOps where
  aggregate : String → Bool → CallInput → Option (Row × Bool) → ScalarValue
  sameExpr : Expr → Expr → Bool

-----------------------------------------------------------------------------------------
-- Expressions on a group
-----------------------------------------------------------------------------------------

mutual
/-- Whether an expression calls an aggregate function. -/
def Expr.aggregates : Expr → Bool
  | .column _ _ | .literal _ => false
  | .binaryExpr left _ right => left.aggregates || right.aggregates
  | .not operand | .negative operand | .isNull operand | .isNotNull operand =>
      operand.aggregates
  | .cast expr _ => expr.aggregates
  | .case base whens elseExpr =>
      optionAggregates base || whensAggregate whens || optionAggregates elseExpr
  | .inList expr list _ => expr.aggregates || listAggregates list
  | .scalarFunction _ args => listAggregates args
  | .aggregateFunction _ _ => true

def optionAggregates : Option Expr → Bool
  | none => false
  | some expr => expr.aggregates

def listAggregates : List Expr → Bool
  | [] => false
  | expr :: rest => expr.aggregates || listAggregates rest

def whensAggregate : List (Expr × Expr) → Bool
  | [] => false
  | (condition, result) :: rest =>
      condition.aggregates || result.aggregates || whensAggregate rest
end

section Groups

variable (ops : GroupOps) (absent : Expr → Bool) (rows : List ColumnEnv)

/-- A grouping expression that the grouping set at hand leaves out is NULL. -/
def unlessAbsent (expr settled : Expr) : Expr :=
  if absent expr then .literal .null else settled

mutual
/-- An expression with its aggregate calls replaced by their values on the group. -/
def Expr.settled : Expr → Expr
  | .column relation name => unlessAbsent absent (.column relation name) (.column relation name)
  | .literal value => unlessAbsent absent (.literal value) (.literal value)
  | .binaryExpr left op right =>
      unlessAbsent absent (.binaryExpr left op right)
        (.binaryExpr left.settled op right.settled)
  | .not operand => unlessAbsent absent (.not operand) (.not operand.settled)
  | .negative operand => unlessAbsent absent (.negative operand) (.negative operand.settled)
  | .cast expr dataType => unlessAbsent absent (.cast expr dataType) (.cast expr.settled dataType)
  | .case base whens elseExpr =>
      unlessAbsent absent (.case base whens elseExpr)
        (.case (optionSettled base) (whensSettled whens) (optionSettled elseExpr))
  | .inList expr list negated =>
      unlessAbsent absent (.inList expr list negated)
        (.inList expr.settled (listSettled list) negated)
  | .isNull expr => unlessAbsent absent (.isNull expr) (.isNull expr.settled)
  | .isNotNull expr => unlessAbsent absent (.isNotNull expr) (.isNotNull expr.settled)
  | .scalarFunction udf args =>
      unlessAbsent absent (.scalarFunction udf args) (.scalarFunction udf (listSettled args))
  | .aggregateFunction udf args =>
      .literal
        (ops.aggregate udf false
          (.values (rows.map (fun env => args.map (Expr.eval ops.toScalarOps env)))) none)

def optionSettled : Option Expr → Option Expr
  | none => none
  | some expr => some expr.settled

def listSettled : List Expr → List Expr
  | [] => []
  | expr :: rest => expr.settled :: listSettled rest

def whensSettled : List (Expr × Expr) → List (Expr × Expr)
  | [] => []
  | (condition, result) :: rest => (condition.settled, result.settled) :: whensSettled rest
end

/-- The value of an expression on a group: what is not aggregated is read off its first row,
and is NULL where there is none.
-/
def Expr.onGroup (expr : Expr) : ScalarValue :=
  (expr.settled ops absent rows).eval ops.toScalarOps (rows.head?.getD (fun _ _ => .null))

/-- The value of an item on a group. -/
def AggItem.onGroup : AggItem Expr → ScalarValue
  | .expr plain => plain.onGroup ops absent rows
  | .call agg =>
      ops.aggregate agg.func agg.distinct
        (match agg.args with
        | none => .rows rows.length
        | some args => .values (rows.map (fun env => args.map (Expr.eval ops.toScalarOps env))))
        (agg.withinGroup.map (fun order =>
          (rows.map (fun env => order.1.eval ops.toScalarOps env), order.2)))

end Groups

/-- Whether an item makes a SELECT an aggregating one. -/
def AggItem.aggregates : AggItem Expr → Bool
  | .expr plain => plain.aggregates
  | .call _ => true

-----------------------------------------------------------------------------------------
-- What a fragment asks for
-----------------------------------------------------------------------------------------

section Spec

variable (functions : FunctionRegistry)

/-- The arguments of the call that a fragment asks for, none where it is over `*`. -/
def irArgs (agg : AggCall) : Except DfError (Option (List Expr)) :=
  if agg.star then
    .ok none
  else do
    let args ← agg.args.mapM (toDfExpr functions)
    pure (some args)

def irWithinGroup : Option WithinGroup → Except DfError (Option (Expr × Bool))
  | none => .ok none
  | some wg => do
      let key ← toDfExpr functions wg.key
      pure (some (key, wg.desc))

/-- The call that a fragment asks for. -/
def irCall (agg : AggCall) : Except DfError (AggregateCall Expr) := do
  let args ← irArgs functions agg
  let withinGroup ← irWithinGroup functions agg.withinGroup
  pure { func := agg.func, distinct := agg.distinct, args, withinGroup }

/-- An item is exactly one of a call and an expression. -/
def irItem (item : AggSelectItem) : Except DfError (AggItem Expr × String) :=
  match item.agg, item.expr with
  | some agg, none => do
      let asked ← irCall functions agg
      pure (.call asked, item.aliasName)
  | none, some expr => do
      let asked ← toDfExpr functions expr
      pure (.expr asked, item.aliasName)
  | some _, some _ => .error (.plan "aggregate select item has both expr and agg")
  | none, none => .error (.plan "aggregate select item has neither expr nor agg")

def irGrouping (groupBy : List IrExpr) (groupingSets : List (List IrExpr))
    : Except DfError (Grouping Expr) :=
  if groupingSets.isEmpty then
    if groupBy.isEmpty then
      .ok .none
    else do
      let keys ← groupBy.mapM (toDfExpr functions)
      pure (.keys keys)
  else do
    let sets ← groupingSets.mapM (fun set => set.mapM (toDfExpr functions))
    pure (.sets sets)

/-- The aggregation that a fragment asks for. -/
def irAggregation (select : List AggSelectItem) (groupBy : List IrExpr)
    (groupingSets : List (List IrExpr))
    : Except DfError (Aggregation Expr) := do
  let items ← select.mapM (irItem functions)
  let grouping ← irGrouping functions groupBy groupingSets
  pure { items, grouping }

end Spec

/-- A relation by the names of its columns, its rows in any order. -/
structure NamedRows where
  names : List String
  rows : List Row

structure NamedRows.Same (left right : NamedRows) : Prop where
  names : left.names = right.names
  rows : left.rows.Perm right.rows

namespace Aggregation

variable (ops : GroupOps) (asked : Aggregation Expr)

def names {E : Type} (aggregation : Aggregation E) : List String :=
  aggregation.items.map Prod.snd

/-- The row of a group. -/
def groupRow (absent : Expr → Bool) (group : List ColumnEnv) : Row :=
  asked.items.map (fun item => item.1.onGroup ops absent group)

/-- The values of the grouping expressions on a row. -/
def keyTuple (keys : List Expr) (env : ColumnEnv) : Row :=
  keys.map (Expr.eval ops.toScalarOps env)

/-- The grouping expressions of some sets that one of them leaves out. -/
def leftOut (sets : List (List Expr)) (set : List Expr) (expr : Expr) : Bool :=
  sets.any (fun other => other.any (ops.sameExpr expr)) && !set.any (ops.sameExpr expr)

/-- The rows of one grouping set; the empty one has a single group, even of no rows. -/
def setRows (sets : List (List Expr)) (rows : List ColumnEnv) (set : List Expr) : List Row :=
  (if set.isEmpty then [rows] else groupsBy (keyTuple ops set) rows).map
    (asked.groupRow ops (leftOut ops sets set))

/-- One row for each distinct tuple of values of the grouping expressions, for each grouping
set when there are any; a single row when there are none.
-/
def meaning (rows : List ColumnEnv) : NamedRows where
  names := asked.names
  rows :=
    match asked.grouping with
    | .none => [asked.groupRow ops (fun _ => false) rows]
    | .keys keys =>
        (groupsBy (keyTuple ops keys) rows).map (asked.groupRow ops (fun _ => false))
    | .sets sets => sets.flatMap (asked.setRows ops sets rows)

end Aggregation

-----------------------------------------------------------------------------------------
-- What the SQL says
-----------------------------------------------------------------------------------------

/-- The expression that a printed one is parsed to. -/
def SqlExpr.read : SqlExpr → Option Expr
  | .nested inner => inner.read
  | .binaryOp left op right => do
      let l ← left.read
      let r ← right.read
      pure (.binaryExpr l op r)
  | .form _ meaning => some meaning
  | .inKeys _ _ _ | .ctidRange _ _ => none

/-- What the unparser prints is parsed to what it printed. -/
def ExprServices.RoundTrips (df : ExprServices) : Prop :=
  ∀ expr printed, df.exprToSql .default expr = .ok printed → printed.read = some expr

def readArgs : Option (List SqlExpr) → Option (Option (List Expr))
  | none => some none
  | some args => (args.mapM SqlExpr.read).map some

def readWithinGroup : Option (SqlExpr × Bool) → Option (Option (Expr × Bool))
  | none => some none
  | some (key, desc) => key.read.map (fun key => some (key, desc))

def AggregateCall.read (printed : AggregateCall SqlExpr) : Option (AggregateCall Expr) := do
  let args ← readArgs printed.args
  let withinGroup ← readWithinGroup printed.withinGroup
  pure { func := printed.func, distinct := printed.distinct, args, withinGroup }

def AggItem.read : AggItem SqlExpr → Option (AggItem Expr)
  | .call agg => agg.read.map .call
  | .expr printed => printed.read.map .expr

def Grouping.read : Grouping SqlExpr → Option (Grouping Expr)
  | .none => some .none
  | .keys printed => (printed.mapM SqlExpr.read).map .keys
  | .sets printed => (printed.mapM (List.mapM SqlExpr.read)).map .sets

/-- The statement as it is parsed. -/
def Aggregation.read (sql : Aggregation SqlExpr) : Option (Aggregation Expr) := do
  let items ← sql.items.mapM (fun item => item.1.read.map (fun parsed => (parsed, item.2)))
  let grouping ← sql.grouping.read
  pure { items, grouping }

/-- A bare integer as a GROUP BY item stands for the select item at that position. -/
def Expr.position : Expr → Option Int
  | .literal (.int64 position) => some position
  | _ => none

/-- The select item at a position, which starts at one; an aggregate is no grouping key. -/
def itemAt (items : List (AggItem Expr × String)) (position : Int) : Option Expr :=
  if position < 1 then
    none
  else
    match items[position.toNat - 1]? with
    | some (.expr expr, _) => if expr.aggregates then none else some expr
    | some (.call _, _) | none => none

/-- The grouping key that a GROUP BY item stands for. -/
def groupKey (items : List (AggItem Expr × String)) (item : Expr) : Option Expr :=
  match item.position with
  | some position => itemAt items position
  | none => some item

namespace Aggregation

variable (ops : GroupOps)

/-- The row of a SELECT without aggregates on one row of its table. -/
def plainRow (parsed : Aggregation Expr) (env : ColumnEnv) : Row :=
  parsed.items.map (fun item =>
    match item.1 with
    | .expr expr => expr.eval ops.toScalarOps env
    | .call _ => .null)

/-- The rows that a parsed statement says: without GROUP BY it aggregates only if an item does. -/
def sqlRows (parsed : Aggregation Expr) (rows : List ColumnEnv) : Option (List Row) :=
  match parsed.grouping with
  | .none =>
      if parsed.items.any (fun item => item.1.aggregates) then
        some [parsed.groupRow ops (fun _ => false) rows]
      else
        some (rows.map (parsed.plainRow ops))
  | .keys keys => do
      let resolved ← keys.mapM (groupKey parsed.items)
      pure ((groupsBy (keyTuple ops resolved) rows).map (parsed.groupRow ops (fun _ => false)))
  | .sets sets => some (sets.flatMap (parsed.setRows ops sets rows))

/-- The relation that a statement denotes over the rows of `in_0`. -/
def denotes (sql : Aggregation SqlExpr) (rows : List ColumnEnv) : Option NamedRows := do
  let parsed ← sql.read
  let said ← parsed.sqlRows ops rows
  pure { names := parsed.names, rows := said }

end Aggregation

-----------------------------------------------------------------------------------------
-- The cardinality guard
-----------------------------------------------------------------------------------------

/-- At most one row without keys, and one for each tuple of key values with them, NULLs being
one value.
-/
def SingleRows (ops : ScalarOps) (keys : List Expr) (rows : List ColumnEnv) : Prop :=
  if keys.isEmpty then
    rows.length ≤ 1
  else
    (rows.map (fun env => keys.map (Expr.eval ops env))).Nodup

/-- The select list of the guard's probe. -/
def probeItems : List (AggItem Expr × String) := [(.expr (.literal (.int64 1)), "Int64(1)")]

/-- The keys that the probe groups by. -/
def probeKeys (keys : List SqlExpr) : Option (List Expr) := do
  let parsed ← keys.mapM SqlExpr.read
  parsed.mapM (groupKey probeItems)

/-- How many rows the probe returns: one for a grand total of several rows; one, by its LIMIT,
where some group has several.
-/
def probeRows (ops : ScalarOps) (keys : List Expr) (rows : List ColumnEnv) : Nat :=
  if keys.isEmpty then
    (if 1 < rows.length then 1 else 0)
  else
    min 1
      ((groupsBy (fun env => keys.map (Expr.eval ops env)) rows).filter
        (fun group => decide (1 < group.length))).length

end Fedqrs
