import Fedqrs.Engine.Probe

/-! Expressions and statements that differ only in the order of the values in an IN list, as
those do that are built from the same keys in another order.
-/

namespace Fedqrs

/-- The same expression up to the order of IN-list items. -/
inductive Expr.Similar : Expr → Expr → Prop
  | refl (expr : Expr) : Expr.Similar expr expr
  | inList (expr : Expr) {left right : List Expr} (negated : Bool) (perm : left.Perm right)
    : Expr.Similar (.inList expr left negated) (.inList expr right negated)
  | binaryExpr {a b a' b' : Expr} (op : Operator) (left : Expr.Similar a a')
    (right : Expr.Similar b b')
    : Expr.Similar (.binaryExpr a op b) (.binaryExpr a' op b')

/-- The same condition up to the order of IN-list items in what it was printed from. -/
inductive SqlExpr.Similar : SqlExpr → SqlExpr → Prop
  | refl (sql : SqlExpr) : SqlExpr.Similar sql sql
  | nested {a a' : SqlExpr} (inner : SqlExpr.Similar a a')
    : SqlExpr.Similar (.nested a) (.nested a')
  | binaryOp {a b a' b' : SqlExpr} (op : Operator) (left : SqlExpr.Similar a a')
    (right : SqlExpr.Similar b b')
    : SqlExpr.Similar (.binaryOp a op b) (.binaryOp a' op b')
  | form (text text' : String) {meaning meaning' : Expr} (same : Expr.Similar meaning meaning')
    : SqlExpr.Similar (.form text meaning) (.form text' meaning')

/-- The same statement up to the order of IN-list items. -/
inductive Sql.Similar : Sql → Sql → Prop
  | refl (sql : Sql) : Sql.Similar sql sql
  | wrapped (raw : String) {filter filter' : SqlExpr} (same : SqlExpr.Similar filter filter')
    : Sql.Similar (.wrapped raw filter) (.wrapped raw filter')
  | select {query query' : SelectSql} (distinct : query.distinct = query'.distinct)
    (list : query.list = query'.list) (source : query.source = query'.source)
    (limit : query.limit = query'.limit)
    (filter : Option.Rel SqlExpr.Similar query.filter query'.filter)
    : Sql.Similar (.select query) (.select query')

/-- Both fail the same way, or both succeed with related values. -/
inductive SameOutcome {ε α : Type} (values : α → α → Prop) : Except ε α → Except ε α → Prop
  | ok {a b : α} (same : values a b) : SameOutcome values (.ok a) (.ok b)
  | error (failure : ε) : SameOutcome values (.error failure) (.error failure)

/-- The unparser prints similar expressions alike. -/
def ExprServices.PrintsAlike (df : ExprServices) : Prop :=
  ∀ dialect left right, Expr.Similar left right
    → SameOutcome SqlExpr.Similar (df.exprToSql dialect left) (df.exprToSql dialect right)

section Outcomes

variable {ε α γ : Type}

theorem SameOutcome.refl {values : α → α → Prop} (same : ∀ a, values a a)
    (result : Except ε α)
    : SameOutcome values result result := by
  cases result with
  | ok a => exact .ok (same a)
  | error failure => exact .error failure

/-- Sequencing keeps outcomes the same. -/
theorem SameOutcome.bind {values : α → α → Prop} {results : γ → γ → Prop}
    {left right : Except ε α} {nextLeft nextRight : α → Except ε γ}
    (head : SameOutcome values left right)
    (tail : ∀ a b, values a b → SameOutcome results (nextLeft a) (nextRight b))
    : SameOutcome results (left >>= nextLeft) (right >>= nextRight) := by
  cases head with
  | ok same => exact tail _ _ same
  | error failure => exact .error failure

end Outcomes

-----------------------------------------------------------------------------------------
-- Statements built from similar filters
-----------------------------------------------------------------------------------------

section Builders

variable {df : ExprServices}

theorem Option.Rel.of_eq_refl {α : Type} {values : α → α → Prop} (same : ∀ a, values a a)
    (value : Option α)
    : Option.Rel values value value := by
  cases value with
  | none => exact .none
  | some a => exact .some (same a)

/-- A scan with similar extra filters renders to similar statements, builder by builder. -/
theorem scanSql_similar (prints : df.PrintsAlike) (kind : DsKind) (scan : ScanSpec)
    {left right : Option Expr} (filters : Option.Rel Expr.Similar left right)
    : SameOutcome Sql.Similar (scanSql df kind scan left) (scanSql df kind scan right) := by
  have printed
      : ∀ a b, Expr.Similar a b
        → SameOutcome SqlExpr.Similar (df.exprToSql (dialectFor kind) a)
            (df.exprToSql (dialectFor kind) b) :=
    fun a b similar => prints _ a b similar
  have combined
      : SameOutcome (Option.Rel Expr.Similar) (combinedFilter df scan left)
          (combinedFilter df scan right) := by
    unfold combinedFilter
    cases filters with
    | none =>
        exact SameOutcome.refl (Option.Rel.of_eq_refl Expr.Similar.refl) _
    | some similar =>
        cases scan.filter with
        | none => exact .ok (.some similar)
        | some filter =>
            refine (SameOutcome.refl Expr.Similar.refl (toDfExpr df.functions filter)).bind ?_
            intro base base' same
            exact .ok (.some (.binaryExpr .and same similar))
  unfold scanSql
  cases scan.rawSql with
  | some raw =>
      cases filters with
      | none => exact .ok (.refl _)
      | some similar =>
          refine (printed _ _ similar).bind ?_
          intro rendered rendered' same
          exact .ok (.wrapped raw same)
  | none =>
      cases scan.table with
      | none => exact .error _
      | some table =>
          simp only
          split
          · exact .error _
          · refine combined.bind ?_
            intro filter filter' same
            have rendered
                : SameOutcome (Option.Rel SqlExpr.Similar) (renderOption df kind filter)
                    (renderOption df kind filter') := by
              cases same with
              | none => exact .ok .none
              | some similar =>
                  refine (printed _ _ similar).bind ?_
                  intro sql sql' alike
                  exact .ok (.some alike)
            refine rendered.bind ?_
            intro sql sql' alike
            exact .ok (.select rfl rfl rfl rfl alike)

end Builders

end Fedqrs
