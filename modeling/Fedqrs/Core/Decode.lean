import Fedqrs.Core.Ir
import Fedqrs.Library.DerivedDecoding

/-! The declarations that the IR is decoded by. No type refuses undeclared fields. Steps and
fragments are read from the document as it comes; whatever one of them holds has been buffered.
-/

namespace Fedqrs

/-- The declared types of the IR. -/
inductive IrType
  | ir
  | step
  | extraInjection
  | scanSpec
  | fragment
  | sortKey
  | aggSelectItem
  | aggCall
  | withinGroup
  | projection
  | joinKind
  | irExpr
  | whenThen
  | literalValue
deriving DecidableEq

def IrType.Node : IrType → Type
  | .ir => Ir
  | .step => Step
  | .extraInjection => ExtraInjection
  | .scanSpec => ScanSpec
  | .fragment => Fragment
  | .sortKey => SortKey
  | .aggSelectItem => AggSelectItem
  | .aggCall => AggCall
  | .withinGroup => WithinGroup
  | .projection => Projection
  | .joinKind => JoinKind
  | .irExpr => IrExpr
  | .whenThen => WhenThen
  | .literalValue => LiteralValue

/-- `Ir` -/
def irLayout : Layout IrType.Node Ir :=
  .struct
    [defaulted "outputs" (.list .string) [],
      required "steps" (.list (.node .step)),
      defaulted "fragments" (.map (.node .fragment)) (∅ : NameMap Fragment)]
    Ir.mk

/-- `Step` -/
def stepLayout : Layout IrType.Node Step :=
  .tagged "op" .streamed
    [{
        tag := "source_scan"
        fields :=
          [required "datasource" .string, required "scan" (.node .scanSpec),
            required "binding" .string, defaulted "materialize" .bool false]
        make := Step.sourceScan
      },
      {
        tag := "collect_distinct"
        fields :=
          [required "input" .string, required "key" .string, required "cap" .unsigned,
            required "binding" .string]
        make := Step.collectDistinct
      },
      {
        tag := "injected_scan"
        fields :=
          [required "datasource" .string, required "scan" (.node .scanSpec),
            required "inject_column" .string, required "keys_from" .string,
            required "binding" .string, defaulted "inject_column_ndv" (.option .unsigned) none,
            defaulted "extra_injections" (.list (.node .extraInjection)) []]
        make := Step.injectedScan
      },
      {
        tag := "ship"
        fields :=
          [required "datasource" .string, required "input" .string, required "table" .string]
        make := Step.ship
      },
      {
        tag := "merge"
        fields :=
          [required "fragment" .string, required "inputs" (.map .string),
            required "binding" .string]
        make := Step.merge
      },
      { tag := "return", fields := [required "input" .string], make := Step.return }]

/-- `ExtraInjection` -/
def extraInjectionLayout : Layout IrType.Node ExtraInjection :=
  .struct [required "column" .string, required "keys_from" .string] ExtraInjection.mk

/-- `ScanSpec` -/
def scanSpecLayout : Layout IrType.Node ScanSpec :=
  .struct
    [defaulted "raw_sql" (.option .string) none,
      defaulted "schema" (.option .string) none,
      defaulted "table" (.option .string) none,
      defaulted "alias" (.option .string) none,
      defaulted "columns" (.list .string) [],
      defaulted "filter" (.option (.node .irExpr)) none,
      defaulted "limit" (.option .unsigned) none,
      defaulted "distinct" .bool false,
      defaulted "parallel" .bool false,
      defaulted "injected_sql" (.option .string) none]
    ScanSpec.mk

/-- `Fragment` -/
def fragmentLayout : Layout IrType.Node Fragment :=
  .tagged "kind" .streamed
    [{
        tag := "hash_join"
        fields :=
          [required "join_type" (.node .joinKind), required "left_keys" (.list .string),
            required "right_keys" (.list .string), required "project" (.list (.node .projection))]
        make := Fragment.hashJoin
      },
      {
        tag := "nested_loop_join"
        fields :=
          [required "join_type" (.node .joinKind),
            defaulted "condition" (.option (.node .irExpr)) none,
            required "project" (.list (.node .projection))]
        make := Fragment.nestedLoopJoin
      },
      {
        tag := "project"
        fields :=
          [required "project" (.list (.node .projection)), defaulted "distinct" .bool false]
        make := Fragment.project
      },
      {
        tag := "aggregate"
        fields :=
          [required "select" (.list (.node .aggSelectItem)),
            defaulted "group_by" (.list (.node .irExpr)) [],
            defaulted "grouping_sets" (.list (.list (.node .irExpr))) []]
        make := Fragment.aggregate
      },
      {
        tag := "sort"
        fields := [required "keys" (.list (.node .sortKey))]
        make := Fragment.sort
      },
      {
        tag := "filter"
        fields := [required "predicate" (.node .irExpr)]
        make := Fragment.filter
      },
      {
        tag := "limit"
        fields :=
          [defaulted "limit" (.option .unsigned) none, defaulted "offset" .unsigned (0 : Nat)]
        make := Fragment.limit
      },
      {
        tag := "single_row_guard"
        fields := [defaulted "keys" (.list (.node .irExpr)) []]
        make := Fragment.singleRowGuard
      },
      { tag := "raw_sql", fields := [required "sql" .string], make := Fragment.rawSql }]

/-- `SortKey` -/
def sortKeyLayout : Layout IrType.Node SortKey :=
  .struct
    [required "expr" (.node .irExpr), required "ascending" .bool, required "nulls_first" .bool]
    SortKey.mk

/-- `AggSelectItem` -/
def aggSelectItemLayout : Layout IrType.Node AggSelectItem :=
  .struct
    [defaulted "expr" (.option (.node .irExpr)) none,
      defaulted "agg" (.option (.node .aggCall)) none,
      required "alias" .string]
    AggSelectItem.mk

/-- `AggCall` -/
def aggCallLayout : Layout IrType.Node AggCall :=
  .struct
    [required "func" .string,
      defaulted "distinct" .bool false,
      defaulted "star" .bool false,
      defaulted "args" (.list (.node .irExpr)) [],
      defaulted "within_group" (.option (.node .withinGroup)) none]
    AggCall.mk

/-- `WithinGroup` -/
def withinGroupLayout : Layout IrType.Node WithinGroup :=
  .struct [required "key" (.node .irExpr), defaulted "desc" .bool false] WithinGroup.mk

/-- `Projection` -/
def projectionLayout : Layout IrType.Node Projection :=
  .struct [required "expr" (.node .irExpr), required "alias" .string] Projection.mk

/-- `JoinKind` -/
def joinKindLayout : Layout IrType.Node JoinKind :=
  .names .buffered
    [("inner", .inner), ("left", .left), ("right", .right), ("full", .full), ("semi", .semi),
      ("anti", .anti)]

/-- `IrExpr` -/
def irExprLayout : Layout IrType.Node IrExpr :=
  .tagged "node" .buffered
    [{
        tag := "column"
        fields := [defaulted "relation" (.option .string) none, required "name" .string]
        make := IrExpr.column
      },
      {
        tag := "literal"
        fields := [required "value" (.node .literalValue)]
        make := IrExpr.literal
      },
      {
        tag := "binary"
        fields :=
          [required "op" .string, required "left" (.node .irExpr),
            required "right" (.node .irExpr)]
        make := IrExpr.binary
      },
      {
        tag := "unary"
        fields := [required "op" .string, required "operand" (.node .irExpr)]
        make := IrExpr.unary
      },
      {
        tag := "cast"
        fields := [required "expr" (.node .irExpr), required "to" .string]
        make := IrExpr.cast
      },
      {
        tag := "case"
        fields :=
          [defaulted "operand" (.option (.node .irExpr)) none,
            required "whens" (.list (.node .whenThen)),
            defaulted "else" (.option (.node .irExpr)) none]
        make := IrExpr.case
      },
      {
        tag := "in_list"
        fields :=
          [required "expr" (.node .irExpr), required "list" (.list (.node .irExpr)),
            defaulted "negated" .bool false]
        make := IrExpr.inList
      },
      {
        tag := "is_null"
        fields := [required "expr" (.node .irExpr), defaulted "negated" .bool false]
        make := IrExpr.isNull
      },
      {
        tag := "function"
        fields := [required "name" .string, defaulted "args" (.list (.node .irExpr)) []]
        make := IrExpr.function
      }]

/-- `WhenThen` -/
def whenThenLayout : Layout IrType.Node WhenThen :=
  .struct [required "when" (.node .irExpr), required "then" (.node .irExpr)] WhenThen.mk

/-- `LiteralValue` -/
def literalValueLayout : Layout IrType.Node LiteralValue :=
  .tagged "lit" .buffered
    [{ tag := "int", fields := [required "value" .signed], make := LiteralValue.int },
      { tag := "float", fields := [required "value" .float], make := LiteralValue.float },
      { tag := "str", fields := [required "value" .string], make := LiteralValue.str },
      { tag := "bool", fields := [required "value" .bool], make := LiteralValue.bool },
      { tag := "null", fields := [], make := LiteralValue.null }]

def irGrammar : Grammar IrType.Node
  | .ir => irLayout
  | .step => stepLayout
  | .extraInjection => extraInjectionLayout
  | .scanSpec => scanSpecLayout
  | .fragment => fragmentLayout
  | .sortKey => sortKeyLayout
  | .aggSelectItem => aggSelectItemLayout
  | .aggCall => aggCallLayout
  | .withinGroup => withinGroupLayout
  | .projection => projectionLayout
  | .joinKind => joinKindLayout
  | .irExpr => irExprLayout
  | .whenThen => whenThenLayout
  | .literalValue => literalValueLayout

/-- Decode the IR of a document, as `execute_ir` does first. -/
def decodeIr (document : Json) : Except DecodeError Ir :=
  decode irGrammar document (.node .ir)

/-- A step of the parser's test document is that step. -/
example
    : decodeIr
          (.object
            [("steps", .array [.object [("op", .string "return"), ("input", .string "b4")]])])
        = .ok { outputs := [], steps := [.return "b4"], fragments := ∅ } :=
  rfl

/-- An unknown tag is refused. -/
example
    : decodeIr
          (.object
            [("steps",
                .array [.object [("op", .string "teleport"), ("binding", .string "b")]]),
              ("fragments", .object [])])
        = .error (.unknownVariant "teleport") :=
  rfl

/-- So is a step's place among the variants; an expression's stands for its variant. -/
example
    : decodeIr (.object [("steps", .array [.object [("op", .number (.posInt 5))]])])
          = .error .invalidType
        ∧ decode irGrammar
            (.object [("node", .number (.posInt 0)), ("name", .string "a")]) (.node .irExpr)
          = .ok (.column none "a") :=
  ⟨rfl, rfl⟩

end Fedqrs
