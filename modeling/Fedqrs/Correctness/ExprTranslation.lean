import Fedqrs.Library.Proc
import Fedqrs.Semantics.IrMeaning

/-! The translation of expressions succeeds exactly on those all of whose operations there are,
and then keeps their value on every row.
-/

namespace Fedqrs

-----------------------------------------------------------------------------------------
-- The tables of operations
-----------------------------------------------------------------------------------------

/-- What a table has an entry for is one of its names. -/
theorem lookup_names {α : Type} {table : List (String × α)} {name : String}
    (found : (table.lookup name).isSome)
    : name ∈ table.map Prod.fst := by
  obtain ⟨entry, member, same⟩ := List.lookup_isSome_iff.mp found
  exact List.mem_map.mpr ⟨entry, member, (eq_of_beq same).symm⟩

/-- An operator that is found is applied as the operation of its name; by cases on the name. -/
theorem operator_meaning {op : String} {parsed : Operator} (found : operator op = .ok parsed)
    : ∃ meaning, sqlOperators.lookup op = some meaning
        ∧ ∀ ops left right,
          ScalarOps.applyBinary ops parsed left right = meaning ops left right := by
  unfold operator at found
  split at found <;> cases found <;> exact ⟨_, rfl, fun _ _ _ => rfl⟩

theorem operator_of_supported {op : String} (supported : (sqlOperators.lookup op).isSome)
    : ∃ parsed, operator op = .ok parsed := by
  have named : op ∈ sqlOperators.map Prod.fst := lookup_names supported
  simp only [sqlOperators, List.map_cons, List.map_nil, List.mem_cons, List.not_mem_nil,
    or_false] at named
  casesm* _ ∨ _ <;> subst op <;> exact ⟨_, rfl⟩

theorem dataType_meaning {target : String} {parsed : DataType}
    (found : dataType target = .ok parsed)
    : sqlTypes.lookup target = some parsed := by
  unfold dataType at found
  split at found <;> cases found <;> rfl

theorem dataType_of_supported {target : String} (supported : (sqlTypes.lookup target).isSome)
    : ∃ parsed, dataType target = .ok parsed := by
  have named : target ∈ sqlTypes.map Prod.fst := lookup_names supported
  simp only [sqlTypes, List.map_cons, List.map_nil, List.mem_cons, List.not_mem_nil,
    or_false] at named
  casesm* _ ∨ _ <;> subst target <;> exact ⟨_, rfl⟩

section Translation

variable {functions : FunctionRegistry}

/-- A translated unary operator is the operation of its name on the translated operand. -/
theorem toDfExpr_unary {op : String} {operand : IrExpr} {built : Expr}
    (translated : toDfExpr functions (.unary op operand) = .ok built)
    : ∃ inner meaning,
        toDfExpr functions operand = .ok inner
          ∧ sqlUnaryOperators.lookup op = some meaning
          ∧ ∀ ops env, built.eval ops env = meaning ops (inner.eval ops env) := by
  rw [toDfExpr] at translated
  obtain ⟨inner, there, applied⟩ := Except.bind_eq_ok.mp translated
  refine ⟨inner, ?_⟩
  split at applied <;> cases applied <;>
    exact ⟨_, there, rfl, fun _ _ => by simp only [Expr.eval]⟩

theorem toDfExpr_unary_of_supported {op : String} {operand : IrExpr} {inner : Expr}
    (there : toDfExpr functions operand = .ok inner)
    (supported : (sqlUnaryOperators.lookup op).isSome)
    : ∃ built, toDfExpr functions (.unary op operand) = .ok built := by
  have named : op ∈ sqlUnaryOperators.map Prod.fst := lookup_names supported
  simp only [sqlUnaryOperators, List.map_cons, List.map_nil, List.mem_cons, List.not_mem_nil,
    or_false] at named
  simp only [toDfExpr, there]
  casesm* _ ∨ _ <;> subst op <;> exact ⟨_, rfl⟩

/-- A function call is that of the function its name stands for. -/
theorem buildFunction_meaning {name : String} {args : List Expr} {built : Expr}
    (found : buildFunction functions name args = .ok built)
    : ∃ function, functions.named name = some function
        ∧ ∀ ops env, built.eval ops env = ops.function function (args.map (Expr.eval ops env)) := by
  unfold buildFunction at found
  unfold FunctionRegistry.named
  cases inScalar : functions.scalar name with
  | some udf =>
      rw [inScalar] at found
      cases found
      exact ⟨udf, rfl, fun _ _ => by simp only [Expr.eval, Expr.evalAll_eq_map]⟩
  | none =>
      rw [inScalar] at found
      cases inAggregate : functions.aggregate name with
      | some udf =>
          rw [inAggregate] at found
          cases found
          exact ⟨udf, rfl, fun _ _ => by simp only [Expr.eval, Expr.evalAll_eq_map]⟩
      | none =>
          rw [inAggregate] at found
          cases found

theorem buildFunction_of_supported {name : String} (supported : (functions.named name).isSome)
    (args : List Expr)
    : ∃ built, buildFunction functions name args = .ok built := by
  unfold buildFunction
  unfold FunctionRegistry.named at supported
  cases inScalar : functions.scalar name with
  | some udf => exact ⟨_, rfl⟩
  | none =>
      cases inAggregate : functions.aggregate name with
      | some udf => exact ⟨_, rfl⟩
      | none =>
          rw [inScalar, inAggregate] at supported
          cases supported

-----------------------------------------------------------------------------------------
-- The value on a row
-----------------------------------------------------------------------------------------

/-- The first branch of a searched CASE whose condition is true, by induction along them. -/
theorem firstTrue_eq (ops : ScalarOps) (env : ColumnEnv) (whens : List (Expr × Expr))
    : Expr.firstTrue ops env whens
      = ((whens.map (fun branch => (branch.1.eval ops env, branch.2.eval ops env))).find?
          (fun branch => branch.1.truth == some true)).map Prod.snd := by
  induction whens with
  | nil => rfl
  | cons branch rest ih =>
      rw [Expr.firstTrue, List.map_cons, List.find?_cons, ih]
      by_cases taken : (branch.1.eval ops env).truth = some true
      · rw [if_pos taken, taken]
        rfl
      · rw [if_neg taken, beq_false_of_ne taken]

theorem firstEqual_eq (ops : ScalarOps) (env : ColumnEnv) (base : ScalarValue)
    (whens : List (Expr × Expr))
    : Expr.firstEqual ops env base whens
      = ((whens.map (fun branch => (branch.1.eval ops env, branch.2.eval ops env))).find?
          (fun branch => ops.sqlEq base branch.1 == some true)).map Prod.snd := by
  induction whens with
  | nil => rfl
  | cons branch rest ih =>
      rw [Expr.firstEqual, List.map_cons, List.find?_cons, ih]
      by_cases taken : ops.sqlEq base (branch.1.eval ops env) = some true
      · rw [if_pos taken, taken]
        rfl
      · rw [if_neg taken, beq_false_of_ne taken]

theorem evalElse_eq (ops : ScalarOps) (env : ColumnEnv) (elseExpr : Option Expr)
    : Expr.evalElse ops env elseExpr = (elseExpr.map (Expr.eval ops env)).getD .null := by
  cases elseExpr with
  | none => rfl
  | some expr => rfl

theorem eval_case (ops : ScalarOps) (env : ColumnEnv) (base : Option Expr)
    (whens : List (Expr × Expr)) (elseExpr : Option Expr)
    : (Expr.case base whens elseExpr).eval ops env
      = caseValue ops (base.map (Expr.eval ops env))
          (whens.map (fun branch => (branch.1.eval ops env, branch.2.eval ops env)))
          (elseExpr.map (Expr.eval ops env)) := by
  cases base with
  | none =>
      rw [Expr.eval, firstTrue_eq, evalElse_eq]
      simp only [caseValue, Option.map_none]
      cases (whens.map _).find? _ with
      | none => rfl
      | some branch => rfl
  | some base =>
      rw [Expr.eval, firstEqual_eq, evalElse_eq]
      simp only [caseValue, Option.map_some]
      cases (whens.map _).find? _ with
      | none => rfl
      | some branch => rfl

/-- NOT IN denies every membership, as its list's disjunction denied does. -/
theorem eval_inList (ops : ScalarOps) (env : ColumnEnv) (expr : Expr) (list : List Expr)
    (negated : Bool)
    : (Expr.inList expr list negated).eval ops env
      = inListValue ops (expr.eval ops env) (list.map (Expr.eval ops env)) negated := by
  rw [Expr.eval, Expr.evalAll_eq_map, inListValue]
  cases negated with
  | false => rfl
  | true =>
      simp only [if_true]
      rw [ThreeValued.not_any, List.map_map]
      rfl

section Value

variable (ops : ScalarOps) (env : ColumnEnv)

mutual
/-- A translated expression has the expression's value; by cases on its form. -/
theorem toDfExpr_value : ∀ (expr : IrExpr) (built : Expr), toDfExpr functions expr = .ok built
    → built.eval ops env = expr.value ops functions env
  | .column _ _, _, translated => by
      rw [toDfExpr] at translated
      cases translated
      rw [Expr.eval, IrExpr.value]
  | .literal value, _, translated => by
      rw [toDfExpr] at translated
      cases translated
      rw [Expr.eval, IrExpr.value]
      cases value <;> rfl
  | .binary op left right, _, translated => by
      rw [toDfExpr] at translated
      obtain ⟨l, leftDone, later⟩ := Except.bind_eq_ok.mp translated
      obtain ⟨r, rightDone, last⟩ := Except.bind_eq_ok.mp later
      obtain ⟨parsed, found, done⟩ := Except.bind_eq_ok.mp last
      cases done
      obtain ⟨meaning, named, applies⟩ := operator_meaning found
      rw [Expr.eval, IrExpr.value, named, applies, toDfExpr_value left l leftDone,
        toDfExpr_value right r rightDone]
  | .unary op operand, _, translated => by
      obtain ⟨inner, meaning, there, named, applies⟩ := toDfExpr_unary translated
      rw [IrExpr.value, named, applies, toDfExpr_value operand inner there]
  | .cast expr target, _, translated => by
      rw [toDfExpr] at translated
      obtain ⟨inner, there, later⟩ := Except.bind_eq_ok.mp translated
      obtain ⟨parsed, found, done⟩ := Except.bind_eq_ok.mp later
      cases done
      rw [Expr.eval, IrExpr.value, dataType_meaning found, toDfExpr_value expr inner there]
  | .case operand whens elseExpr, _, translated => by
      rw [toDfExpr] at translated
      obtain ⟨base, baseDone, later⟩ := Except.bind_eq_ok.mp translated
      obtain ⟨pairs, pairsDone, last⟩ := Except.bind_eq_ok.mp later
      obtain ⟨els, elseDone, done⟩ := Except.bind_eq_ok.mp last
      cases done
      rw [eval_case, IrExpr.value, optionToDfExpr_value operand base baseDone,
        whensToDfExpr_value whens pairs pairsDone, optionToDfExpr_value elseExpr els elseDone]
  | .inList expr list negated, _, translated => by
      rw [toDfExpr] at translated
      obtain ⟨inner, there, later⟩ := Except.bind_eq_ok.mp translated
      obtain ⟨items, listDone, done⟩ := Except.bind_eq_ok.mp later
      cases done
      rw [eval_inList, IrExpr.value, toDfExpr_value expr inner there,
        listToDfExpr_value list items listDone]
  | .isNull expr negated, _, translated => by
      rw [toDfExpr] at translated
      obtain ⟨inner, there, done⟩ := Except.bind_eq_ok.mp translated
      rw [IrExpr.value, ← toDfExpr_value expr inner there]
      cases negated with
      | true =>
          have negative := Except.ok.inj done
          rw [← negative, if_pos rfl, Expr.eval, bne]
          cases inner.eval ops env == .null <;> rfl
      | false =>
          have positive := Except.ok.inj done
          rw [← positive, if_neg Bool.false_ne_true, Expr.eval]
          cases inner.eval ops env == .null <;> rfl
  | .function name args, _, translated => by
      rw [toDfExpr] at translated
      obtain ⟨dfArgs, argsDone, found⟩ := Except.bind_eq_ok.mp translated
      obtain ⟨function, named, applies⟩ := buildFunction_meaning found
      rw [IrExpr.value, named, applies, listToDfExpr_value args dfArgs argsDone]

theorem optionToDfExpr_value : ∀ (expr : Option IrExpr) (built : Option Expr),
    optionToDfExpr functions expr = .ok built
    → built.map (Expr.eval ops env) = optionValue ops functions env expr
  | none, _, translated => by
      rw [optionToDfExpr] at translated
      cases translated
      rw [optionValue]
      rfl
  | some expr, _, translated => by
      rw [optionToDfExpr] at translated
      obtain ⟨inner, there, done⟩ := Except.bind_eq_ok.mp translated
      cases done
      rw [optionValue, ← toDfExpr_value expr inner there]
      rfl

theorem listToDfExpr_value : ∀ (list : List IrExpr) (built : List Expr),
    listToDfExpr functions list = .ok built
    → built.map (Expr.eval ops env) = listValues ops functions env list
  | [], _, translated => by
      rw [listToDfExpr] at translated
      cases translated
      rw [listValues]
      rfl
  | expr :: rest, _, translated => by
      rw [listToDfExpr] at translated
      obtain ⟨head, there, later⟩ := Except.bind_eq_ok.mp translated
      obtain ⟨tail, restDone, done⟩ := Except.bind_eq_ok.mp later
      cases done
      rw [listValues, ← toDfExpr_value expr head there, ← listToDfExpr_value rest tail restDone]
      rfl

theorem whensToDfExpr_value : ∀ (whens : List WhenThen) (built : List (Expr × Expr)),
    whensToDfExpr functions whens = .ok built
    → built.map (fun branch => (branch.1.eval ops env, branch.2.eval ops env))
      = whensValues ops functions env whens
  | [], _, translated => by
      rw [whensToDfExpr] at translated
      cases translated
      rw [whensValues]
      rfl
  | .mk condition result :: rest, _, translated => by
      rw [whensToDfExpr] at translated
      obtain ⟨w, conditionDone, later⟩ := Except.bind_eq_ok.mp translated
      obtain ⟨t, resultDone, last⟩ := Except.bind_eq_ok.mp later
      obtain ⟨tail, restDone, done⟩ := Except.bind_eq_ok.mp last
      cases done
      rw [whensValues, ← toDfExpr_value condition w conditionDone,
        ← toDfExpr_value result t resultDone, ← whensToDfExpr_value rest tail restDone]
      rfl
end

end Value

-----------------------------------------------------------------------------------------
-- What is translated
-----------------------------------------------------------------------------------------

/-- All of an expression's operations there are. -/
def AllSupported (functions : FunctionRegistry) (symbols : List Symbol) : Prop :=
  ∀ symbol ∈ symbols, symbol.Supported functions

@[simp]
theorem allSupported_nil : AllSupported functions [] := by
  intro symbol member
  cases member

@[simp]
theorem allSupported_cons {symbol : Symbol} {symbols : List Symbol}
    : AllSupported functions (symbol :: symbols)
      ↔ symbol.Supported functions ∧ AllSupported functions symbols :=
  List.forall_mem_cons

@[simp]
theorem allSupported_append {left right : List Symbol}
    : AllSupported functions (left ++ right)
      ↔ AllSupported functions left ∧ AllSupported functions right :=
  List.forall_mem_append

mutual
/-- A translated expression names only what is supported; by cases on its form. -/
theorem toDfExpr_supported : ∀ (expr : IrExpr) (built : Expr), toDfExpr functions expr = .ok built
    → AllSupported functions expr.symbols
  | .column _ _, _, _ => by
      rw [IrExpr.symbols]
      exact allSupported_nil
  | .literal _, _, _ => by
      rw [IrExpr.symbols]
      exact allSupported_nil
  | .binary op left right, _, translated => by
      rw [toDfExpr] at translated
      obtain ⟨l, leftDone, later⟩ := Except.bind_eq_ok.mp translated
      obtain ⟨r, rightDone, last⟩ := Except.bind_eq_ok.mp later
      obtain ⟨parsed, found, _⟩ := Except.bind_eq_ok.mp last
      obtain ⟨meaning, named, _⟩ := operator_meaning found
      rw [IrExpr.symbols, allSupported_cons, allSupported_append]
      exact ⟨Option.isSome_iff_exists.mpr ⟨meaning, named⟩, toDfExpr_supported left l leftDone,
        toDfExpr_supported right r rightDone⟩
  | .unary op operand, _, translated => by
      obtain ⟨inner, meaning, there, named, _⟩ := toDfExpr_unary translated
      rw [IrExpr.symbols, allSupported_cons]
      exact ⟨Option.isSome_iff_exists.mpr ⟨meaning, named⟩,
        toDfExpr_supported operand inner there⟩
  | .cast expr target, _, translated => by
      rw [toDfExpr] at translated
      obtain ⟨inner, there, later⟩ := Except.bind_eq_ok.mp translated
      obtain ⟨parsed, found, _⟩ := Except.bind_eq_ok.mp later
      rw [IrExpr.symbols, allSupported_cons]
      exact ⟨Option.isSome_iff_exists.mpr ⟨parsed, dataType_meaning found⟩,
        toDfExpr_supported expr inner there⟩
  | .case operand whens elseExpr, _, translated => by
      rw [toDfExpr] at translated
      obtain ⟨base, baseDone, later⟩ := Except.bind_eq_ok.mp translated
      obtain ⟨pairs, pairsDone, last⟩ := Except.bind_eq_ok.mp later
      obtain ⟨els, elseDone, _⟩ := Except.bind_eq_ok.mp last
      rw [IrExpr.symbols, allSupported_append, allSupported_append]
      exact ⟨optionToDfExpr_supported operand base baseDone,
        whensToDfExpr_supported whens pairs pairsDone,
        optionToDfExpr_supported elseExpr els elseDone⟩
  | .inList expr list _, _, translated => by
      rw [toDfExpr] at translated
      obtain ⟨inner, there, later⟩ := Except.bind_eq_ok.mp translated
      obtain ⟨items, listDone, _⟩ := Except.bind_eq_ok.mp later
      rw [IrExpr.symbols, allSupported_append]
      exact ⟨toDfExpr_supported expr inner there, listToDfExpr_supported list items listDone⟩
  | .isNull expr _, _, translated => by
      rw [toDfExpr] at translated
      obtain ⟨inner, there, _⟩ := Except.bind_eq_ok.mp translated
      rw [IrExpr.symbols]
      exact toDfExpr_supported expr inner there
  | .function name args, _, translated => by
      rw [toDfExpr] at translated
      obtain ⟨dfArgs, argsDone, found⟩ := Except.bind_eq_ok.mp translated
      obtain ⟨function, named, _⟩ := buildFunction_meaning found
      rw [IrExpr.symbols, allSupported_cons]
      exact ⟨Option.isSome_iff_exists.mpr ⟨function, named⟩,
        listToDfExpr_supported args dfArgs argsDone⟩

theorem optionToDfExpr_supported : ∀ (expr : Option IrExpr) (built : Option Expr),
    optionToDfExpr functions expr = .ok built → AllSupported functions (optionSymbols expr)
  | none, _, _ => by
      rw [optionSymbols]
      exact allSupported_nil
  | some expr, _, translated => by
      rw [optionToDfExpr] at translated
      obtain ⟨inner, there, _⟩ := Except.bind_eq_ok.mp translated
      rw [optionSymbols]
      exact toDfExpr_supported expr inner there

theorem listToDfExpr_supported : ∀ (list : List IrExpr) (built : List Expr),
    listToDfExpr functions list = .ok built → AllSupported functions (listSymbols list)
  | [], _, _ => by
      rw [listSymbols]
      exact allSupported_nil
  | expr :: rest, _, translated => by
      rw [listToDfExpr] at translated
      obtain ⟨head, there, later⟩ := Except.bind_eq_ok.mp translated
      obtain ⟨tail, restDone, _⟩ := Except.bind_eq_ok.mp later
      rw [listSymbols, allSupported_append]
      exact ⟨toDfExpr_supported expr head there, listToDfExpr_supported rest tail restDone⟩

theorem whensToDfExpr_supported : ∀ (whens : List WhenThen) (built : List (Expr × Expr)),
    whensToDfExpr functions whens = .ok built → AllSupported functions (whensSymbols whens)
  | [], _, _ => by
      rw [whensSymbols]
      exact allSupported_nil
  | .mk condition result :: rest, _, translated => by
      rw [whensToDfExpr] at translated
      obtain ⟨w, conditionDone, later⟩ := Except.bind_eq_ok.mp translated
      obtain ⟨t, resultDone, last⟩ := Except.bind_eq_ok.mp later
      obtain ⟨tail, restDone, _⟩ := Except.bind_eq_ok.mp last
      rw [whensSymbols, allSupported_append, allSupported_append]
      exact ⟨toDfExpr_supported condition w conditionDone,
        toDfExpr_supported result t resultDone, whensToDfExpr_supported rest tail restDone⟩
end

mutual
/-- An expression that names only what is supported is translated; by cases on its form. -/
theorem toDfExpr_total : ∀ expr : IrExpr, AllSupported functions expr.symbols
    → ∃ built, toDfExpr functions expr = .ok built
  | .column relation name, _ => ⟨_, by rw [toDfExpr]⟩
  | .literal value, _ => ⟨_, by rw [toDfExpr]⟩
  | .binary op left right, supported => by
      rw [IrExpr.symbols, allSupported_cons, allSupported_append] at supported
      obtain ⟨named, inLeft, inRight⟩ := supported
      obtain ⟨l, leftDone⟩ := toDfExpr_total left inLeft
      obtain ⟨r, rightDone⟩ := toDfExpr_total right inRight
      obtain ⟨parsed, found⟩ := operator_of_supported named
      rw [toDfExpr, leftDone, rightDone, found]
      exact ⟨_, rfl⟩
  | .unary op operand, supported => by
      rw [IrExpr.symbols, allSupported_cons] at supported
      obtain ⟨inner, there⟩ := toDfExpr_total operand supported.2
      exact toDfExpr_unary_of_supported there supported.1
  | .cast expr target, supported => by
      rw [IrExpr.symbols, allSupported_cons] at supported
      obtain ⟨inner, there⟩ := toDfExpr_total expr supported.2
      obtain ⟨parsed, found⟩ := dataType_of_supported supported.1
      rw [toDfExpr, there, found]
      exact ⟨_, rfl⟩
  | .case operand whens elseExpr, supported => by
      rw [IrExpr.symbols, allSupported_append, allSupported_append] at supported
      obtain ⟨inOperand, inWhens, inElse⟩ := supported
      obtain ⟨base, baseDone⟩ := optionToDfExpr_total operand inOperand
      obtain ⟨pairs, pairsDone⟩ := whensToDfExpr_total whens inWhens
      obtain ⟨els, elseDone⟩ := optionToDfExpr_total elseExpr inElse
      rw [toDfExpr, baseDone, pairsDone, elseDone]
      exact ⟨_, rfl⟩
  | .inList expr list _, supported => by
      rw [IrExpr.symbols, allSupported_append] at supported
      obtain ⟨inner, there⟩ := toDfExpr_total expr supported.1
      obtain ⟨items, listDone⟩ := listToDfExpr_total list supported.2
      rw [toDfExpr, there, listDone]
      exact ⟨_, rfl⟩
  | .isNull expr _, supported => by
      rw [IrExpr.symbols] at supported
      obtain ⟨inner, there⟩ := toDfExpr_total expr supported
      rw [toDfExpr, there]
      exact ⟨_, rfl⟩
  | .function name args, supported => by
      rw [IrExpr.symbols, allSupported_cons] at supported
      obtain ⟨dfArgs, argsDone⟩ := listToDfExpr_total args supported.2
      rw [toDfExpr, argsDone]
      exact buildFunction_of_supported supported.1 dfArgs

theorem optionToDfExpr_total : ∀ expr : Option IrExpr, AllSupported functions (optionSymbols expr)
    → ∃ built, optionToDfExpr functions expr = .ok built
  | none, _ => ⟨_, by rw [optionToDfExpr]⟩
  | some expr, supported => by
      rw [optionSymbols] at supported
      obtain ⟨inner, there⟩ := toDfExpr_total expr supported
      rw [optionToDfExpr, there]
      exact ⟨_, rfl⟩

theorem listToDfExpr_total : ∀ list : List IrExpr, AllSupported functions (listSymbols list)
    → ∃ built, listToDfExpr functions list = .ok built
  | [], _ => ⟨_, by rw [listToDfExpr]⟩
  | expr :: rest, supported => by
      rw [listSymbols, allSupported_append] at supported
      obtain ⟨head, there⟩ := toDfExpr_total expr supported.1
      obtain ⟨tail, restDone⟩ := listToDfExpr_total rest supported.2
      rw [listToDfExpr, there, restDone]
      exact ⟨_, rfl⟩

theorem whensToDfExpr_total : ∀ whens : List WhenThen, AllSupported functions (whensSymbols whens)
    → ∃ built, whensToDfExpr functions whens = .ok built
  | [], _ => ⟨_, by rw [whensToDfExpr]⟩
  | .mk condition result :: rest, supported => by
      rw [whensSymbols, allSupported_append, allSupported_append] at supported
      obtain ⟨inCondition, inResult, inRest⟩ := supported
      obtain ⟨w, conditionDone⟩ := toDfExpr_total condition inCondition
      obtain ⟨t, resultDone⟩ := toDfExpr_total result inResult
      obtain ⟨tail, restDone⟩ := whensToDfExpr_total rest inRest
      rw [whensToDfExpr, conditionDone, resultDone, restDone]
      exact ⟨_, rfl⟩
end

end Translation

/-- The translation of an expression is of it all or of nothing: it succeeds exactly when every
operation anywhere in the expression is supported, and then the value on every row is kept.
-/
theorem toDfExpr_faithful (functions : FunctionRegistry) (expr : IrExpr)
    : ((∃ built, toDfExpr functions expr = .ok built)
        ↔ ∀ symbol ∈ expr.symbols, symbol.Supported functions)
      ∧ ∀ built, toDfExpr functions expr = .ok built
          → ∀ ops env, built.eval ops env = expr.value ops functions env := by
  refine ⟨⟨?_, toDfExpr_total expr⟩, ?_⟩
  · intro translated
    obtain ⟨built, done⟩ := translated
    exact toDfExpr_supported expr built done
  · intro built done ops env
    exact toDfExpr_value ops env expr built done

end Fedqrs
