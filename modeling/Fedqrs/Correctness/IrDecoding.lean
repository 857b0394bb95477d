import Fedqrs.Core.Decode
import Fedqrs.Library.DecodedPositions

/-! What decoding the IR checks and what it skips: every tag stands for a declared variant, and a
member that its type does not declare is as good as absent.
-/

namespace Fedqrs

/-- A part of an IR document, read as a declared type. -/
abbrev IrPart (document : Json) (type : IrType) (part : Json) : Prop :=
  Position irGrammar (.node .ir) document (.node type) part

/-- A document that decodes has tags for declared variants at every depth, and decodes as it does
without its undeclared members; where it has none, nothing is dropped.
-/
theorem decodeIr_skips {document : Json} {ir : Ir} (decoded : decodeIr document = .ok ir)
    : (∀ type part, IrPart document type part → (irGrammar type).TagDeclared part)
      ∧ decodeIr (prune irGrammar document (.node .ir)) = .ok ir
      ∧ (∀ type part, IrPart (prune irGrammar document (.node .ir)) type part
        → (irGrammar type).KeysDeclared part)
      ∧ ((∀ type part, IrPart document type part → (irGrammar type).KeysDeclared part)
        → prune irGrammar document (.node .ir) = document) := by
  refine ⟨?_, ?_, ?_, ?_⟩
  · intro type part position
    obtain ⟨value, read⟩ := position.decodes ⟨ir, decoded⟩
    exact tagDeclared_of_decoded read
  · have same
        : decodeIr (prune irGrammar document (.node .ir)) = decodeIr document :=
      decode_prune document (.node IrType.ir)
    exact same.trans decoded
  · intro type part position
    obtain ⟨whole, above, rfl⟩ := position.of_prune
    obtain ⟨value, read⟩ := above.decodes ⟨ir, decoded⟩
    exact keysDeclared_prune read
  · intro declared
    exact prune_eq_self document (.node IrType.ir) declared

/-- A scan with a field that a scan does not declare. -/
def residualScan : Json :=
  .object
    [("table", .string "t"), ("columns", .array [.string "a"]),
      ("residual_filter",
        .object [("node", .string "is_null"), ("expr", .object [("node", .string "teleport")])])]

def residualStep : Json :=
  .object
    [("op", .string "source_scan"), ("datasource", .string "pg"), ("scan", residualScan),
      ("binding", .string "b")]

/-- A plan of one such scan. -/
def residualPlan : Json :=
  .object
    [("steps",
      .array [residualStep, .object [("op", .string "return"), ("input", .string "b")]])]

/-- The plan decodes; without the field it decodes to the same. -/
theorem decodeIr_skips_residualPlan
    : ∃ ir, decodeIr residualPlan = .ok ir
        ∧ decodeIr (prune irGrammar residualPlan (.node .ir)) = .ok ir :=
  ⟨_, rfl, (decodeIr_skips rfl).2.1⟩

/-- Not every key of a document that decodes is a declared one. -/
theorem decodeIr_accepts_undeclared_keys
    : ¬ ∀ document ir, decodeIr document = .ok ir
        → ∀ type part, IrPart document type part
          → (irGrammar type).TagDeclared part ∧ (irGrammar type).KeysDeclared part := by
  intro all
  have inScan
      : Child irGrammar (.node .step) residualStep
          (required "scan" (.node .scanSpec) : FieldDecl IrType.Node).shape residualScan := by
    have inside
        : ("scan", residualScan)
          ∈ [("op", .string "source_scan"), ("datasource", .string "pg"), ("scan", residualScan),
              ("binding", .string "b")] :=
      List.mem_cons_of_mem _ (List.mem_cons_of_mem _ List.mem_cons_self)
    exact .member inside rfl rfl
  have scan : IrPart residualPlan .scanSpec residualScan := by
    refine .inside (.member List.mem_cons_self rfl rfl) ?_
    refine .inside (.item List.mem_cons_self) ?_
    exact .inside inScan .whole
  have keys := (all residualPlan _ rfl .scanSpec residualScan scan).2
  have member := keys _ rfl _ (List.mem_cons_of_mem _ (List.mem_cons_of_mem _ List.mem_cons_self))
  rcases member with tag | field
  · cases tag
  · cases field

end Fedqrs
