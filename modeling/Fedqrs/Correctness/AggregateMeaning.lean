import Fedqrs.Semantics.Aggregation
import Fedqrs.Semantics.Reference

/-! When the SQL of an aggregate fragment says what the fragment asks for. Rendered and parsed
again, a grouping key that is a bare integer stands for a select item, and a statement without
a GROUP BY aggregates only if one of its items does.
-/

namespace Fedqrs

-----------------------------------------------------------------------------------------
-- Rendering and parsing
-----------------------------------------------------------------------------------------

section Rendering

variable {df : ExprServices} (roundTrips : df.RoundTrips)

include roundTrips

theorem renderExpr_reads {expr : IrExpr} {printed : SqlExpr}
    (rendered : renderExpr df expr = .ok printed)
    : ∃ asked, toDfExpr df.functions expr = .ok asked ∧ printed.read = some asked := by
  obtain ⟨built, builds, prints⟩ := Except.bind_eq_ok.mp rendered
  exact ⟨built, builds, roundTrips built printed prints⟩

theorem renderArgs_reads {agg : AggCall} {printed : Option (List SqlExpr)}
    (rendered : renderArgs df agg = .ok printed)
    : ∃ asked, irArgs df.functions agg = .ok asked ∧ readArgs printed = some asked := by
  unfold renderArgs at rendered
  unfold irArgs
  cases star : agg.star with
  | true =>
      rw [star] at rendered
      cases rendered
      exact ⟨none, rfl, rfl⟩
  | false =>
      rw [star] at rendered
      obtain ⟨parts, ran, done⟩ := Except.bind_eq_ok.mp rendered
      cases done
      obtain ⟨asked, asks, reads⟩ :=
        Except.mapM_reads (fun _ _ _ => renderExpr_reads roundTrips) ran
      refine ⟨some asked, ?_, ?_⟩
      · simp only [Bool.false_eq_true, if_false, asks]
        rfl
      · simp only [readArgs, reads]
        rfl

theorem renderWithinGroup_reads {wg : Option WithinGroup} {printed : Option (SqlExpr × Bool)}
    (rendered : renderWithinGroup df wg = .ok printed)
    : ∃ asked, irWithinGroup df.functions wg = .ok asked
        ∧ readWithinGroup printed = some asked := by
  cases wg with
  | none =>
      cases rendered
      exact ⟨none, rfl, rfl⟩
  | some order =>
      obtain ⟨key, ran, done⟩ := Except.bind_eq_ok.mp rendered
      cases done
      obtain ⟨asked, asks, reads⟩ := renderExpr_reads roundTrips ran
      refine ⟨some (asked, order.desc), ?_, ?_⟩
      · simp only [irWithinGroup, asks]
        rfl
      · simp only [readWithinGroup, reads]
        rfl

theorem renderAgg_reads {agg : AggCall} {printed : AggregateCall SqlExpr}
    (rendered : renderAgg df agg = .ok printed)
    : ∃ asked, irCall df.functions agg = .ok asked ∧ printed.read = some asked := by
  obtain ⟨args, argsRendered, later⟩ := Except.bind_eq_ok.mp rendered
  obtain ⟨order, orderRendered, done⟩ := Except.bind_eq_ok.mp later
  cases done
  obtain ⟨askedArgs, asksArgs, readsArgs⟩ := renderArgs_reads roundTrips argsRendered
  obtain ⟨askedOrder, asksOrder, readsOrder⟩ := renderWithinGroup_reads roundTrips orderRendered
  refine ⟨{ func := agg.func, distinct := agg.distinct, args := askedArgs,
            withinGroup := askedOrder }, ?_, ?_⟩
  · simp only [irCall, asksArgs, asksOrder]
    rfl
  · simp only [AggregateCall.read, readsArgs, readsOrder]
    rfl

/-- An item with a call and an expression is refused by nobody but the contract. -/
theorem renderItem_reads {item : AggSelectItem} {printed : AggItem SqlExpr × String}
    (exactly : ¬(item.expr.isSome ∧ item.agg.isSome))
    (rendered : renderItem df item = .ok printed)
    : ∃ asked, irItem df.functions item = .ok asked
        ∧ printed.1.read.map (fun parsed => (parsed, printed.2)) = some asked := by
  unfold renderItem at rendered
  unfold irItem
  cases agg : item.agg with
  | some call =>
      cases expr : item.expr with
      | some plain => exact absurd ⟨by rw [expr]; rfl, by rw [agg]; rfl⟩ exactly
      | none =>
          rw [agg] at rendered
          obtain ⟨printedCall, ran, done⟩ := Except.bind_eq_ok.mp rendered
          cases done
          obtain ⟨asked, asks, reads⟩ := renderAgg_reads roundTrips ran
          refine ⟨(.call asked, item.aliasName), ?_, ?_⟩
          · simp only [asks]
            rfl
          · simp only [AggItem.read, reads]
            rfl
  | none =>
      cases expr : item.expr with
      | none =>
          rw [agg, expr] at rendered
          cases rendered
      | some plain =>
          rw [agg, expr] at rendered
          obtain ⟨printedExpr, ran, done⟩ := Except.bind_eq_ok.mp rendered
          cases done
          obtain ⟨asked, asks, reads⟩ := renderExpr_reads roundTrips ran
          refine ⟨(.expr asked, item.aliasName), ?_, ?_⟩
          · simp only [asks]
            rfl
          · simp only [AggItem.read, reads]
            rfl

theorem groupByClause_reads {groupBy : List IrExpr} {groupingSets : List (List IrExpr)}
    {printed : Grouping SqlExpr}
    (rendered : groupByClause df groupBy groupingSets = .ok printed)
    : ∃ asked, irGrouping df.functions groupBy groupingSets = .ok asked
        ∧ printed.read = some asked := by
  unfold groupByClause at rendered
  unfold irGrouping
  cases noSets : groupingSets.isEmpty with
  | true =>
      rw [noSets] at rendered
      cases noKeys : groupBy.isEmpty with
      | true =>
          rw [noKeys] at rendered
          cases rendered
          exact ⟨.none, rfl, rfl⟩
      | false =>
          rw [noKeys] at rendered
          obtain ⟨groups, ran, done⟩ := Except.bind_eq_ok.mp rendered
          cases done
          obtain ⟨asked, asks, reads⟩ :=
            Except.mapM_reads (fun _ _ _ => renderExpr_reads roundTrips) ran
          refine ⟨.keys asked, ?_, ?_⟩
          · simp only [Bool.false_eq_true, if_false, if_true, asks]
            rfl
          · simp only [Grouping.read, reads]
            rfl
  | false =>
      rw [noSets] at rendered
      obtain ⟨sets, ran, done⟩ := Except.bind_eq_ok.mp rendered
      cases done
      obtain ⟨asked, asks, reads⟩ :=
        Except.mapM_reads
          (fun _ _ _ => Except.mapM_reads (fun _ _ _ => renderExpr_reads roundTrips)) ran
      refine ⟨.sets asked, ?_, ?_⟩
      · simp only [Bool.false_eq_true, if_false, asks]
        rfl
      · simp only [Grouping.read, reads]
        rfl

/-- A fragment whose items keep their contract is parsed as what it asks for. -/
theorem runAggregate_reads {plan : Aggregation SqlExpr → Except DfError Unit}
    {select : List AggSelectItem} {groupBy : List IrExpr} {groupingSets : List (List IrExpr)}
    {sql : Aggregation SqlExpr}
    (exactly : ∀ item ∈ select, ¬(item.expr.isSome ∧ item.agg.isSome))
    (built : runAggregate df plan select groupBy groupingSets = .ok sql)
    : ∃ spec, irAggregation df.functions select groupBy groupingSets = .ok spec
        ∧ sql.read = some spec := by
  obtain ⟨items, itemsRendered, later⟩ := Except.bind_eq_ok.mp built
  obtain ⟨grouping, groupingRendered, last⟩ := Except.bind_eq_ok.mp later
  obtain ⟨_, _, done⟩ := Except.bind_eq_ok.mp last
  cases done
  obtain ⟨askedItems, asksItems, readsItems⟩ :=
    Except.mapM_reads (fun item member _ => renderItem_reads roundTrips (exactly item member))
      itemsRendered
  obtain ⟨askedGrouping, asksGrouping, readsGrouping⟩ :=
    groupByClause_reads roundTrips groupingRendered
  refine ⟨{ items := askedItems, grouping := askedGrouping }, ?_, ?_⟩
  · simp only [irAggregation, asksItems, asksGrouping]
    rfl
  · simp only [Aggregation.read, readsItems, readsGrouping]
    rfl

end Rendering

-----------------------------------------------------------------------------------------
-- Items on a single row
-----------------------------------------------------------------------------------------

section Settled

variable (ops : GroupOps) (rows : List ColumnEnv)

@[simp]
theorem unlessAbsent_present (expr settled : Expr)
    : unlessAbsent (fun _ => false) expr settled = settled :=
  rfl

mutual
/-- Nothing is to settle in an expression without aggregate calls; by cases on its form. -/
theorem Expr.settled_plain : ∀ expr : Expr, expr.aggregates = false
    → expr.settled ops (fun _ => false) rows = expr
  | .column _ _, _ => by rw [Expr.settled, unlessAbsent_present]
  | .literal _, _ => by rw [Expr.settled, unlessAbsent_present]
  | .binaryExpr left _ right, plain => by
      obtain ⟨plainLeft, plainRight⟩ := Bool.or_eq_false_iff.mp plain
      rw [Expr.settled, unlessAbsent_present, Expr.settled_plain left plainLeft,
        Expr.settled_plain right plainRight]
  | .not operand, plain => by
      rw [Expr.settled, unlessAbsent_present, Expr.settled_plain operand plain]
  | .negative operand, plain => by
      rw [Expr.settled, unlessAbsent_present, Expr.settled_plain operand plain]
  | .cast expr _, plain => by
      rw [Expr.settled, unlessAbsent_present, Expr.settled_plain expr plain]
  | .case base whens elseExpr, plain => by
      obtain ⟨plainFirst, plainElse⟩ := Bool.or_eq_false_iff.mp plain
      obtain ⟨plainBase, plainWhens⟩ := Bool.or_eq_false_iff.mp plainFirst
      rw [Expr.settled, unlessAbsent_present, optionSettled_plain base plainBase,
        whensSettled_plain whens plainWhens, optionSettled_plain elseExpr plainElse]
  | .inList expr list _, plain => by
      obtain ⟨plainExpr, plainList⟩ := Bool.or_eq_false_iff.mp plain
      rw [Expr.settled, unlessAbsent_present, Expr.settled_plain expr plainExpr,
        listSettled_plain list plainList]
  | .isNull expr, plain => by
      rw [Expr.settled, unlessAbsent_present, Expr.settled_plain expr plain]
  | .isNotNull expr, plain => by
      rw [Expr.settled, unlessAbsent_present, Expr.settled_plain expr plain]
  | .scalarFunction _ args, plain => by
      rw [Expr.settled, unlessAbsent_present, listSettled_plain args plain]
  | .aggregateFunction _ _, plain => by cases plain

theorem optionSettled_plain : ∀ expr : Option Expr, optionAggregates expr = false
    → optionSettled ops (fun _ => false) rows expr = expr
  | none, _ => by rw [optionSettled]
  | some expr, plain => by rw [optionSettled, Expr.settled_plain expr plain]

theorem listSettled_plain : ∀ list : List Expr, listAggregates list = false
    → listSettled ops (fun _ => false) rows list = list
  | [], _ => by rw [listSettled]
  | expr :: rest, plain => by
      obtain ⟨plainExpr, plainRest⟩ := Bool.or_eq_false_iff.mp plain
      rw [listSettled, Expr.settled_plain expr plainExpr, listSettled_plain rest plainRest]

theorem whensSettled_plain : ∀ whens : List (Expr × Expr), whensAggregate whens = false
    → whensSettled ops (fun _ => false) rows whens = whens
  | [], _ => by rw [whensSettled]
  | (condition, result) :: rest, plain => by
      obtain ⟨plainPair, plainRest⟩ := Bool.or_eq_false_iff.mp plain
      obtain ⟨plainCondition, plainResult⟩ := Bool.or_eq_false_iff.mp plainPair
      rw [whensSettled, Expr.settled_plain condition plainCondition,
        Expr.settled_plain result plainResult, whensSettled_plain rest plainRest]
end

end Settled

namespace Aggregation

variable {ops : GroupOps}

/-- On a group of one row, items without aggregate calls are their values on the row. -/
theorem groupRow_single {asked : Aggregation Expr} {env : ColumnEnv}
    (plain : asked.items.any (fun item => item.1.aggregates) = false)
    : asked.groupRow ops (fun _ => false) [env] = asked.plainRow ops env := by
  apply List.map_congr_left
  intro item member
  have plainItem : item.1.aggregates = false := by
    simpa using List.any_eq_false.mp plain item member
  obtain ⟨value, name⟩ := item
  cases value with
  | call agg => cases plainItem
  | expr expr =>
      change (expr.settled ops (fun _ => false) [env]).eval ops.toScalarOps env = _
      rw [Expr.settled_plain ops [env] expr plainItem]

-----------------------------------------------------------------------------------------
-- Grouping keys that are positions
-----------------------------------------------------------------------------------------

/-- Rows agree on some grouping keys, those that are positions set aside. -/
def AgreeBeside (ops : GroupOps) (keys : List Expr) (a b : ColumnEnv) : Prop :=
  ∀ key ∈ keys, key.position = none → key.eval ops.toScalarOps a = key.eval ops.toScalarOps b

/-- Rows agree on the items whose positions are grouping keys. -/
def AgreeAtPositions (ops : GroupOps) (items : List (AggItem Expr × String)) (keys : List Expr)
    (a b : ColumnEnv)
    : Prop :=
  ∀ key ∈ keys, ∀ position, key.position = some position →
    ∀ expr, itemAt items position = some expr →
      expr.eval ops.toScalarOps a = expr.eval ops.toScalarOps b

/-- The grouping is what SQL reads it as: without grouping keys an item aggregates, or there
is one row anyway; a position as a grouping key is that of an item that does not aggregate, and
the item is determined by the other keys.
-/
def Unambiguous (ops : GroupOps) (asked : Aggregation Expr) (rows : List ColumnEnv) : Prop :=
  match asked.grouping with
  | .none => asked.items.any (fun item => item.1.aggregates) = true ∨ rows.length = 1
  | .keys keys =>
      (∀ key ∈ keys, (groupKey asked.items key).isSome)
        ∧ ∀ a ∈ rows, ∀ b ∈ rows, AgreeBeside ops keys a b
          → AgreeAtPositions ops asked.items keys a b
  | .sets _ => True

/-- A literal key tells no rows apart. -/
theorem position_const {expr : Expr} {position : Int} (bare : expr.position = some position)
    (a b : ColumnEnv)
    : expr.eval ops.toScalarOps a = expr.eval ops.toScalarOps b := by
  cases expr with
  | literal value => rw [Expr.eval, Expr.eval]
  | _ => cases bare

theorem keyTuple_eq_iff {keys : List Expr} {a b : ColumnEnv}
    : keyTuple ops keys a = keyTuple ops keys b ↔ AgreeBeside ops keys a b := by
  rw [keyTuple, keyTuple, List.map_inj_left]
  constructor
  · intro agree key member _
    exact agree key member
  · intro agree key member
    cases bare : key.position with
    | none => exact agree key member bare
    | some position => exact position_const bare a b

/-- What holds of the keys a statement is grouped by, by induction along its GROUP BY items. -/
theorem forall_resolved {items : List (AggItem Expr × String)} {keys resolved : List Expr}
    (resolves : keys.mapM (groupKey items) = some resolved) (property : Expr → Prop)
    : (∀ expr ∈ resolved, property expr)
      ↔ ∀ key ∈ keys, ∀ expr, groupKey items key = some expr → property expr := by
  induction keys generalizing resolved with
  | nil =>
      cases resolves
      simp
  | cons key rest ih =>
      rw [List.mapM_cons] at resolves
      obtain ⟨first, here, later⟩ := Option.bind_eq_some_iff.mp resolves
      obtain ⟨others, there, done⟩ := Option.bind_eq_some_iff.mp later
      cases done
      rw [List.forall_mem_cons, List.forall_mem_cons, ih there, here]
      simp

theorem resolved_eq_iff {items : List (AggItem Expr × String)} {keys resolved : List Expr}
    {a b : ColumnEnv} (resolves : keys.mapM (groupKey items) = some resolved)
    : keyTuple ops resolved a = keyTuple ops resolved b
      ↔ AgreeBeside ops keys a b ∧ AgreeAtPositions ops items keys a b := by
  rw [keyTuple, keyTuple, List.map_inj_left, forall_resolved resolves]
  constructor
  · intro agree
    refine ⟨?_, ?_⟩
    · intro key member bare
      exact agree key member key (by rw [groupKey, bare])
    · intro key member position bare expr found
      exact agree key member expr (by rw [groupKey, bare]; exact found)
  · intro agree key member expr stands
    obtain ⟨beside, atPositions⟩ := agree
    rw [groupKey] at stands
    cases bare : key.position with
    | none =>
        rw [bare] at stands
        cases stands
        exact beside key member bare
    | some position =>
        rw [bare] at stands
        exact atPositions key member position bare expr stands

-----------------------------------------------------------------------------------------
-- What the statement says
-----------------------------------------------------------------------------------------

/-- Without grouping keys: one group, and a row for each row only where that is the same. -/
theorem plain_same_iff {asked : Aggregation Expr} {rows : List ColumnEnv}
    (plain : asked.items.any (fun item => item.1.aggregates) = false)
    : (rows.map (asked.plainRow ops)).Perm [asked.groupRow ops (fun _ => false) rows]
      ↔ rows.length = 1 := by
  constructor
  · intro same
    simpa using same.length_eq
  · intro one
    obtain ⟨env, rfl⟩ := List.length_eq_one_iff.mp one
    rw [groupRow_single plain, List.map_singleton]

/-- A statement's groups are the fragment's exactly when the keys it adds split none; a count
of the groups tells.
-/
theorem keys_same_iff {asked : Aggregation Expr} {keys resolved : List Expr}
    {rows : List ColumnEnv} (resolves : keys.mapM (groupKey asked.items) = some resolved)
    : ((groupsBy (keyTuple ops resolved) rows).map (asked.groupRow ops (fun _ => false))).Perm
        ((groupsBy (keyTuple ops keys) rows).map (asked.groupRow ops (fun _ => false)))
      ↔ ∀ a ∈ rows, ∀ b ∈ rows, AgreeBeside ops keys a b
          → AgreeAtPositions ops asked.items keys a b := by
  constructor
  · intro same
    have counts
        : (groupsBy (keyTuple ops keys) rows).length
          = (groupsBy (keyTuple ops resolved) rows).length := by
      simpa using same.length_eq.symm
    have refines (a : ColumnEnv) (_ : a ∈ rows) (b : ColumnEnv) (_ : b ∈ rows)
        (agree : keyTuple ops resolved a = keyTuple ops resolved b)
        : keyTuple ops keys a = keyTuple ops keys b :=
      keyTuple_eq_iff.mpr ((resolved_eq_iff resolves).mp agree).1
    intro a first b second beside
    have split := same_of_length_groupsBy refines counts a first b second
      (keyTuple_eq_iff.mpr beside)
    exact ((resolved_eq_iff resolves).mp split).2
  · intro determined
    apply List.Perm.map
    apply groupsBy_perm
    intro a first b second
    rw [resolved_eq_iff resolves, keyTuple_eq_iff]
    constructor
    · intro agree
      exact agree.1
    · intro beside
      exact ⟨beside, determined a first b second beside⟩

/-- The keys of a statement are all resolved exactly if each of them is; by induction along
them.
-/
theorem isSome_resolved {items : List (AggItem Expr × String)} {keys : List Expr}
    : (∃ resolved, keys.mapM (groupKey items) = some resolved)
      ↔ ∀ key ∈ keys, (groupKey items key).isSome := by
  induction keys with
  | nil => exact iff_of_true ⟨[], rfl⟩ (by simp)
  | cons key rest ih =>
      rw [List.forall_mem_cons, ← ih, List.mapM_cons]
      constructor
      · intro resolves
        obtain ⟨_, resolves⟩ := resolves
        obtain ⟨first, here, later⟩ := Option.bind_eq_some_iff.mp resolves
        obtain ⟨others, there, _⟩ := Option.bind_eq_some_iff.mp later
        exact ⟨by rw [here]; rfl, others, there⟩
      · intro each
        obtain ⟨here, others, there⟩ := each
        obtain ⟨first, found⟩ := Option.isSome_iff_exists.mp here
        exact ⟨first :: others, by rw [found, there]; rfl⟩

/-- A statement says the rows that its items ask for exactly if its grouping is unambiguous; by
cases on the grouping.
-/
theorem sqlRows_same_iff {asked : Aggregation Expr} {rows : List ColumnEnv}
    : (∃ said, asked.sqlRows ops rows = some said ∧ said.Perm (asked.meaning ops rows).rows)
      ↔ asked.Unambiguous ops rows := by
  obtain ⟨items, grouping⟩ := asked
  cases grouping with
  | none =>
      cases plain : items.any (fun item => item.1.aggregates) with
      | true => simp [sqlRows, Unambiguous, meaning, plain]
      | false =>
          simp only [sqlRows, Unambiguous, meaning, plain, Bool.false_eq_true, if_false, false_or,
            Option.some.injEq, exists_eq_left']
          exact plain_same_iff plain
  | keys keys =>
      simp only [Unambiguous, meaning]
      rw [← isSome_resolved]
      constructor
      · intro denoting
        obtain ⟨said, denoted, same⟩ := denoting
        obtain ⟨resolved, resolves, done⟩ := Option.bind_eq_some_iff.mp denoted
        cases done
        exact ⟨⟨resolved, resolves⟩, (keys_same_iff resolves).mp same⟩
      · intro unambiguous
        obtain ⟨⟨resolved, resolves⟩, determined⟩ := unambiguous
        refine ⟨_, ?_, (keys_same_iff resolves).mpr determined⟩
        simp only [sqlRows, resolves]
        rfl
  | sets sets => simp [sqlRows, Unambiguous, meaning]

end Aggregation

-----------------------------------------------------------------------------------------
-- Fragments
-----------------------------------------------------------------------------------------

/-- The fragment is rendered to what it asks for: each item is exactly one of an expression
and a call, and the statement denotes the aggregation over the rows of the input.
-/
structure MeansFragment (df : ExprServices) (ops : GroupOps) (select : List AggSelectItem)
    (groupBy : List IrExpr) (groupingSets : List (List IrExpr)) (rows : List ColumnEnv)
    (sql : Aggregation SqlExpr)
    : Prop where
  exactlyOne : ∀ item ∈ select, item.expr.isSome ≠ item.agg.isSome
  same : ∃ spec relation,
    irAggregation df.functions select groupBy groupingSets = .ok spec
      ∧ sql.denotes ops rows = some relation ∧ relation.Same (spec.meaning ops rows)

section Fragments

variable {df : ExprServices} {ops : GroupOps}
  {plan : Aggregation SqlExpr → Except DfError Unit} {select : List AggSelectItem}
  {groupBy : List IrExpr} {groupingSets : List (List IrExpr)} {sql : Aggregation SqlExpr}

/-- An item with neither an expression nor a call is refused. -/
theorem runAggregate_either (built : runAggregate df plan select groupBy groupingSets = .ok sql)
    {item : AggSelectItem} (member : item ∈ select)
    : item.expr.isSome ∨ item.agg.isSome := by
  obtain ⟨items, itemsRendered, _⟩ := Except.bind_eq_ok.mp built
  obtain ⟨printed, rendered⟩ := Except.mapM_ok_of_mem itemsRendered member
  rw [renderItem] at rendered
  cases agg : item.agg with
  | some call => exact .inr rfl
  | none =>
      cases expr : item.expr with
      | some plain => exact .inl rfl
      | none =>
          rw [agg, expr] at rendered
          cases rendered

/-- A statement that is parsed as a fragment asks denotes the fragment's relation exactly if its
grouping is unambiguous.
-/
theorem denotes_same_iff {spec : Aggregation Expr} {rows : List ColumnEnv}
    (reads : sql.read = some spec)
    : (∃ relation, sql.denotes ops rows = some relation ∧ relation.Same (spec.meaning ops rows))
      ↔ spec.Unambiguous ops rows := by
  rw [← Aggregation.sqlRows_same_iff]
  constructor
  · intro means
    obtain ⟨relation, denoted, same⟩ := means
    obtain ⟨parsed, again, later⟩ := Option.bind_eq_some_iff.mp denoted
    obtain ⟨said, saidRows, done⟩ := Option.bind_eq_some_iff.mp later
    cases reads.symm.trans again
    cases done
    exact ⟨said, saidRows, same.rows⟩
  · intro denoting
    obtain ⟨said, saidRows, same⟩ := denoting
    refine ⟨{ names := spec.names, rows := said }, ?_, rfl, same⟩
    simp only [Aggregation.denotes, reads, Option.bind_eq_bind, Option.bind_some, saidRows]
    rfl

end Fragments

/-- A registry without operations on scalars, whose aggregates count. -/
def countOps : GroupOps where
  equal left right := left == right
  binary _ _ _ := .null
  negative _ := .null
  cast _ value := value
  function _ _ := .null
  aggregate _ _ input _ :=
    match input with
    | .rows count => .int64 count
    | .values rows => .int64 rows.length
  sameExpr _ _ := false

/-- A planner that accepts every statement. -/
def planAny (_ : Aggregation SqlExpr) : Except DfError Unit := .ok ()

/-- Two rows of a column `v`. -/
def twoValues : List ColumnEnv := [fun _ _ => .int64 1, fun _ _ => .int64 2]

def countStar : AggCall :=
  { func := "count", distinct := false, star := true, args := [], withinGroup := none }

/-- `count(*) AS "n"`. -/
def countItem : AggSelectItem := { expr := none, agg := some countStar, aliasName := "n" }

/-- An item of an expression only. -/
def exprItem (expr : IrExpr) : AggSelectItem := { expr := some expr, agg := none, aliasName := "v" }

/-- An item with an expression and a call. -/
def bothItem : AggSelectItem :=
  { expr := some (.column none "v"), agg := some countStar, aliasName := "n" }

theorem formExprs_roundTrips : formExprs.RoundTrips := by
  intro expr printed rendered
  cases rendered
  rfl

end Fedqrs
