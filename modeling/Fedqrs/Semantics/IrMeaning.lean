import Fedqrs.Core.Expr

/-! What an IR expression means on one row, by SQL's three-valued logic and with no regard to
how the engine translates it.
-/

namespace Fedqrs

/-- The binary operators of the IR. -/
def sqlOperators : List (String × (ScalarOps → ScalarValue → ScalarValue → ScalarValue)) :=
  [
    ("+", fun ops => ops.binary .plus),
    ("-", fun ops => ops.binary .minus),
    ("*", fun ops => ops.binary .multiply),
    ("/", fun ops => ops.binary .divide),
    ("%", fun ops => ops.binary .modulo),
    ("=", fun ops left right => .ofTruth (ops.sqlEq left right)),
    ("!=", fun ops => ops.binary .notEq),
    ("<>", fun ops => ops.binary .notEq),
    ("<", fun ops => ops.binary .lt),
    ("<=", fun ops => ops.binary .ltEq),
    (">", fun ops => ops.binary .gt),
    (">=", fun ops => ops.binary .gtEq),
    ("and", fun _ left right => .ofTruth (ThreeValued.and left.truth right.truth)),
    ("or", fun _ left right => .ofTruth (ThreeValued.or left.truth right.truth)),
    ("like", fun ops => ops.binary .likeMatch),
    ("ilike", fun ops => ops.binary .iLikeMatch),
    ("is_distinct_from", fun ops => ops.binary .isDistinctFrom),
    ("is_not_distinct_from", fun ops => ops.binary .isNotDistinctFrom)
  ]

/-- The unary operators of the IR. -/
def sqlUnaryOperators : List (String × (ScalarOps → ScalarValue → ScalarValue)) :=
  [
    ("not", fun _ operand => .ofTruth (ThreeValued.not operand.truth)),
    ("neg", fun ops => ops.negative),
    ("-", fun ops => ops.negative)
  ]

/-- The cast targets of the IR. -/
def sqlTypes : List (String × DataType) :=
  [
    ("int16", .int16),
    ("int32", .int32),
    ("int64", .int64),
    ("float32", .float32),
    ("float64", .float64),
    ("utf8", .utf8),
    ("string", .utf8),
    ("boolean", .boolean),
    ("bool", .boolean),
    ("date32", .date32)
  ]

/-- The function that a name stands for, a scalar one before an aggregate. -/
def FunctionRegistry.named (functions : FunctionRegistry) (name : String) : Option String :=
  (functions.scalar name).or (functions.aggregate name)

def LiteralValue.meaning : LiteralValue → ScalarValue
  | .int value => .int64 value
  | .float bits => .float64 bits
  | .str value => .utf8 value
  | .bool value => .boolean value
  | .null => .null

section Meaning

variable (ops : ScalarOps)

/-- The value of a CASE: that of the first branch whose condition is true, or equals the
operand where there is one, else the ELSE value, NULL where there is none.
-/
def caseValue (operand : Option ScalarValue) (branches : List (ScalarValue × ScalarValue))
    (elseValue : Option ScalarValue)
    : ScalarValue :=
  let taken (branch : ScalarValue × ScalarValue) : Bool :=
    match operand with
    | none => branch.1.truth == some true
    | some value => ops.sqlEq value branch.1 == some true
  match branches.find? taken with
  | some branch => branch.2
  | none => elseValue.getD .null

/-- `x IN (a, b)` is `x = a OR x = b` and `x NOT IN (a, b)` is `NOT x = a AND NOT x = b`. -/
def inListValue (value : ScalarValue) (list : List ScalarValue) (negated : Bool) : ScalarValue :=
  if negated then
    .ofTruth (ThreeValued.all (list.map (fun item => ThreeValued.not (ops.sqlEq value item))))
  else
    .ofTruth (ThreeValued.any (list.map (ops.sqlEq value)))

variable (functions : FunctionRegistry) (env : ColumnEnv)

mutual
/-- The value of an IR expression on a row, NULL where it uses what there is no meaning for. -/
def IrExpr.value : IrExpr → ScalarValue
  | .column relation name => env relation name
  | .literal value => value.meaning
  | .binary op left right =>
      match sqlOperators.lookup op with
      | some meaning => meaning ops left.value right.value
      | none => .null
  | .unary op operand =>
      match sqlUnaryOperators.lookup op with
      | some meaning => meaning ops operand.value
      | none => .null
  | .cast expr target =>
      match sqlTypes.lookup target with
      | some dataType => ops.cast dataType expr.value
      | none => .null
  | .case operand whens elseExpr =>
      caseValue ops (optionValue operand) (whensValues whens) (optionValue elseExpr)
  | .inList expr list negated => inListValue ops expr.value (listValues list) negated
  | .isNull expr negated => .boolean ((expr.value == .null) != negated)
  | .function name args =>
      match functions.named name with
      | some function => ops.function function (listValues args)
      | none => .null

def optionValue : Option IrExpr → Option ScalarValue
  | none => none
  | some expr => some expr.value

def listValues : List IrExpr → List ScalarValue
  | [] => []
  | expr :: rest => expr.value :: listValues rest

def whensValues : List WhenThen → List (ScalarValue × ScalarValue)
  | [] => []
  | .mk condition result :: rest => (condition.value, result.value) :: whensValues rest
end

end Meaning

-----------------------------------------------------------------------------------------
-- What an expression names
-----------------------------------------------------------------------------------------

/-- A name in an expression that stands for an operation. -/
inductive Symbol
  | binary (op : String)
  | unary (op : String)
  | target (name : String)
  | function (name : String)

/-- Whether there is an operation under the name. -/
def Symbol.Supported (functions : FunctionRegistry) : Symbol → Prop
  | .binary op => (sqlOperators.lookup op).isSome
  | .unary op => (sqlUnaryOperators.lookup op).isSome
  | .target name => (sqlTypes.lookup name).isSome
  | .function name => (functions.named name).isSome

mutual
/-- Every operation named anywhere in an expression. -/
def IrExpr.symbols : IrExpr → List Symbol
  | .column _ _ | .literal _ => []
  | .binary op left right => .binary op :: (left.symbols ++ right.symbols)
  | .unary op operand => .unary op :: operand.symbols
  | .cast expr target => .target target :: expr.symbols
  | .case operand whens elseExpr =>
      optionSymbols operand ++ (whensSymbols whens ++ optionSymbols elseExpr)
  | .inList expr list _ => expr.symbols ++ listSymbols list
  | .isNull expr _ => expr.symbols
  | .function name args => .function name :: listSymbols args

def optionSymbols : Option IrExpr → List Symbol
  | none => []
  | some expr => expr.symbols

def listSymbols : List IrExpr → List Symbol
  | [] => []
  | expr :: rest => expr.symbols ++ listSymbols rest

def whensSymbols : List WhenThen → List Symbol
  | [] => []
  | .mk condition result :: rest => condition.symbols ++ (result.symbols ++ whensSymbols rest)
end

end Fedqrs
