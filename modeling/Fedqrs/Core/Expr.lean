import Fedqrs.Arrow.Types
import Fedqrs.Core.Ir
import Fedqrs.Library.ThreeValued

/-! Translation of the expression sub-IR into DataFusion's `Expr`, and the three-valued
meaning of such an expression on one row.
-/

namespace Fedqrs

/-- The errors of DataFusion that the engine tells apart. -/
inductive DfError
  | plan (message : String)
  | execution (message : String)
  | resourcesExhausted (message : String)
  | other (message : String)
deriving DecidableEq, Repr

/-- A Python exception's message. -/
abbrev PyErr : Type := String

/-- `df_to_py`: the error as DataFusion displays it. -/
def DfError.toPy : DfError → PyErr
  | .plan message => "Error during planning: " ++ message
  | .execution message => "Execution error: " ++ message
  | .resourcesExhausted message => "Resources exhausted: " ++ message
  | .other message => message

inductive Operator
  | plus
  | minus
  | multiply
  | divide
  | modulo
  | eq
  | notEq
  | lt
  | ltEq
  | gt
  | gtEq
  | and
  | or
  | likeMatch
  | iLikeMatch
  | isDistinctFrom
  | isNotDistinctFrom
deriving DecidableEq, Repr

/-- The forms of DataFusion's logical expression that the engine builds. -/
inductive Expr
  | column (relation : Option String) (name : String)
  | literal (value : ScalarValue)
  | binaryExpr (left : Expr) (op : Operator) (right : Expr)
  | not (operand : Expr)
  | negative (operand : Expr)
  | cast (expr : Expr) (dataType : DataType)
  | case (base : Option Expr) (whens : List (Expr × Expr)) (elseExpr : Option Expr)
  | inList (expr : Expr) (list : List Expr) (negated : Bool)
  | isNull (expr : Expr)
  | isNotNull (expr : Expr)
  | scalarFunction (udf : String) (args : List Expr)
  | aggregateFunction (udf : String) (args : List Expr)

/-- `Expr::and`. -/
def Expr.and (left right : Expr) : Expr := .binaryExpr left .and right

/-- `lit` of a boolean. -/
def Expr.lit (value : Bool) : Expr := .literal (.boolean value)

/-- DataFusion's default functions: each name or alias with the function it resolves to. -/
structure FunctionRegistry where
  scalar : String → Option String
  aggregate : String → Option String

def scalar : LiteralValue → ScalarValue
  | .int value => .int64 value
  | .float bits => .float64 bits
  | .str value => .utf8 value
  | .bool value => .boolean value
  | .null => .null

def operator : String → Except DfError Operator
  | "+" => .ok .plus
  | "-" => .ok .minus
  | "*" => .ok .multiply
  | "/" => .ok .divide
  | "%" => .ok .modulo
  | "=" => .ok .eq
  | "!=" => .ok .notEq
  | "<>" => .ok .notEq
  | "<" => .ok .lt
  | "<=" => .ok .ltEq
  | ">" => .ok .gt
  | ">=" => .ok .gtEq
  | "and" => .ok .and
  | "or" => .ok .or
  | "like" => .ok .likeMatch
  | "ilike" => .ok .iLikeMatch
  | "is_distinct_from" => .ok .isDistinctFrom
  | "is_not_distinct_from" => .ok .isNotDistinctFrom
  | other => .error (.plan ("unsupported binary operator '" ++ other ++ "'"))

/-- `data_type`: the cast targets, by the names Python emits. -/
def dataType : String → Except DfError DataType
  | "int16" => .ok .int16
  | "int32" => .ok .int32
  | "int64" => .ok .int64
  | "float32" => .ok .float32
  | "float64" => .ok .float64
  | "utf8" => .ok .utf8
  | "string" => .ok .utf8
  | "boolean" => .ok .boolean
  | "bool" => .ok .boolean
  | "date32" => .ok .date32
  | other => .error (.plan ("unsupported cast target type '" ++ other ++ "'"))

/-- Scalar functions are tried first, then aggregates. -/
def buildFunction (functions : FunctionRegistry) (name : String) (args : List Expr)
    : Except DfError Expr :=
  match functions.scalar name with
  | some udf => .ok (.scalarFunction udf args)
  | none =>
      match functions.aggregate name with
      | some udf => .ok (.aggregateFunction udf args)
      | none => .error (.plan ("function '" ++ name ++ "' not supported"))

mutual
/-- Build a DataFusion expression from an IR expression. -/
def toDfExpr (functions : FunctionRegistry) : IrExpr → Except DfError Expr
  | .column relation name => .ok (.column relation name)
  | .literal value => .ok (.literal (scalar value))
  | .binary op left right => do
      let l ← toDfExpr functions left
      let r ← toDfExpr functions right
      let parsed ← operator op
      pure (.binaryExpr l parsed r)
  | .unary op operand => do
      let inner ← toDfExpr functions operand
      match op with
      | "not" => pure (.not inner)
      | "neg" => pure (.negative inner)
      | "-" => pure (.negative inner)
      | other => .error (.plan ("unsupported unary operator '" ++ other ++ "'"))
  | .cast expr target => do
      let inner ← toDfExpr functions expr
      let parsed ← dataType target
      pure (.cast inner parsed)
  | .case operand whens elseExpr => do
      let base ← optionToDfExpr functions operand
      let pairs ← whensToDfExpr functions whens
      let els ← optionToDfExpr functions elseExpr
      pure (.case base pairs els)
  | .inList expr list negated => do
      let inner ← toDfExpr functions expr
      let items ← listToDfExpr functions list
      pure (.inList inner items negated)
  | .isNull expr negated => do
      let inner ← toDfExpr functions expr
      pure (if negated then .isNotNull inner else .isNull inner)
  | .function name args => do
      let dfArgs ← listToDfExpr functions args
      buildFunction functions name dfArgs

def optionToDfExpr (functions : FunctionRegistry)
    : Option IrExpr → Except DfError (Option Expr)
  | none => .ok none
  | some expr => do
      let inner ← toDfExpr functions expr
      pure (some inner)

def listToDfExpr (functions : FunctionRegistry)
    : List IrExpr → Except DfError (List Expr)
  | [] => .ok []
  | expr :: rest => do
      let head ← toDfExpr functions expr
      let tail ← listToDfExpr functions rest
      pure (head :: tail)

def whensToDfExpr (functions : FunctionRegistry)
    : List WhenThen → Except DfError (List (Expr × Expr))
  | [] => .ok []
  | .mk condition result :: rest => do
      let w ← toDfExpr functions condition
      let t ← toDfExpr functions result
      let tail ← whensToDfExpr functions rest
      pure ((w, t) :: tail)
end

-----------------------------------------------------------------------------------------
-- Meaning on one row
-----------------------------------------------------------------------------------------

/-- The operations on scalars that SQL leaves to the types of its operands. `equal`
compares two non-null values.
-/
structure ScalarOps where
  equal : ScalarValue → ScalarValue → Bool
  binary : Operator → ScalarValue → ScalarValue → ScalarValue
  negative : ScalarValue → ScalarValue
  cast : DataType → ScalarValue → ScalarValue
  function : String → List ScalarValue → ScalarValue

/-- The value of a (possibly qualified) column on the row at hand. -/
abbrev ColumnEnv : Type := Option String → String → ScalarValue

/-- A scalar read as a condition; NULL and non-boolean values are unknown. -/
def ScalarValue.truth : ScalarValue → Option Bool
  | .boolean value => some value
  | _ => none

def ScalarValue.ofTruth : Option Bool → ScalarValue
  | some value => .boolean value
  | none => .null

@[simp]
theorem ScalarValue.truth_ofTruth (truth : Option Bool)
    : (ScalarValue.ofTruth truth).truth = truth := by
  cases truth <;> rfl

/-- SQL equality: unknown when a side is NULL. -/
def ScalarOps.sqlEq (ops : ScalarOps) : ScalarValue → ScalarValue → Option Bool
  | .null, _ => none
  | _, .null => none
  | left, right => some (ops.equal left right)

/-- A binary operator: three-valued connectives and equality, the rest by the operands'
types.
-/
def ScalarOps.applyBinary (ops : ScalarOps) (op : Operator) (left right : ScalarValue)
    : ScalarValue :=
  match op with
  | .and => .ofTruth (ThreeValued.and left.truth right.truth)
  | .or => .ofTruth (ThreeValued.or left.truth right.truth)
  | .eq => .ofTruth (ops.sqlEq left right)
  | other => ops.binary other left right

mutual
def Expr.eval (ops : ScalarOps) (env : ColumnEnv) : Expr → ScalarValue
  | .column relation name => env relation name
  | .literal value => value
  | .binaryExpr left op right => ops.applyBinary op (left.eval ops env) (right.eval ops env)
  | .not operand => .ofTruth (ThreeValued.not (operand.eval ops env).truth)
  | .negative operand => ops.negative (operand.eval ops env)
  | .cast expr dataType => ops.cast dataType (expr.eval ops env)
  | .case none whens elseExpr =>
      (Expr.firstTrue ops env whens).getD (Expr.evalElse ops env elseExpr)
  | .case (some base) whens elseExpr =>
      (Expr.firstEqual ops env (base.eval ops env) whens).getD
        (Expr.evalElse ops env elseExpr)
  | .inList expr list negated =>
      let value := expr.eval ops env
      let found := ThreeValued.any ((Expr.evalAll ops env list).map (ops.sqlEq value))
      .ofTruth (if negated then ThreeValued.not found else found)
  | .isNull expr => .boolean (expr.eval ops env == .null)
  | .isNotNull expr => .boolean (expr.eval ops env != .null)
  | .scalarFunction udf args => ops.function udf (Expr.evalAll ops env args)
  | .aggregateFunction udf args => ops.function udf (Expr.evalAll ops env args)

def Expr.evalAll (ops : ScalarOps) (env : ColumnEnv) : List Expr → List ScalarValue
  | [] => []
  | expr :: rest => expr.eval ops env :: Expr.evalAll ops env rest

def Expr.evalElse (ops : ScalarOps) (env : ColumnEnv) : Option Expr → ScalarValue
  | none => .null
  | some expr => expr.eval ops env

def Expr.firstTrue (ops : ScalarOps) (env : ColumnEnv)
    : List (Expr × Expr) → Option ScalarValue
  | [] => none
  | (condition, result) :: rest =>
      if (condition.eval ops env).truth = some true then
        some (result.eval ops env)
      else
        Expr.firstTrue ops env rest

def Expr.firstEqual (ops : ScalarOps) (env : ColumnEnv) (base : ScalarValue)
    : List (Expr × Expr) → Option ScalarValue
  | [] => none
  | (candidate, result) :: rest =>
      if ops.sqlEq base (candidate.eval ops env) = some true then
        some (result.eval ops env)
      else
        Expr.firstEqual ops env base rest
end

/-- The row passes the condition: it evaluates to true, not to unknown. -/
def Expr.Holds (ops : ScalarOps) (env : ColumnEnv) (condition : Expr) : Prop :=
  (condition.eval ops env).truth = some true

instance (ops : ScalarOps) (env : ColumnEnv) (condition : Expr)
    : Decidable (condition.Holds ops env) :=
  inferInstanceAs (Decidable (_ = _))

/-- Evaluating a list evaluates each member, by list induction. -/
@[simp]
theorem Expr.evalAll_eq_map (ops : ScalarOps) (env : ColumnEnv) (list : List Expr)
    : Expr.evalAll ops env list = list.map (Expr.eval ops env) := by
  induction list with
  | nil => rfl
  | cons expr rest ih => simp only [Expr.evalAll, List.map_cons, ih]

/-- A conjunction passes exactly the rows that both sides pass. -/
@[simp]
theorem Expr.holds_and (ops : ScalarOps) (env : ColumnEnv) (left right : Expr)
    : (left.and right).Holds ops env ↔ left.Holds ops env ∧ right.Holds ops env := by
  simp [Expr.Holds, Expr.and, Expr.eval, ScalarOps.applyBinary]

@[simp]
theorem Expr.holds_lit (ops : ScalarOps) (env : ColumnEnv) (value : Bool)
    : (Expr.lit value).Holds ops env ↔ value = true := by
  simp [Expr.Holds, Expr.lit, Expr.eval, ScalarValue.truth]

/-- SQL equality is true exactly for two non-null values that compare equal. -/
theorem ScalarOps.sqlEq_eq_true {ops : ScalarOps} {left right : ScalarValue}
    : ops.sqlEq left right = some true
      ↔ left ≠ .null ∧ right ≠ .null ∧ ops.equal left right = true := by
  cases left <;> cases right <;> simp [ScalarOps.sqlEq]

end Fedqrs
