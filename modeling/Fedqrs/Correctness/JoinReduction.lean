import Fedqrs.Correctness.KeyReduction
import Fedqrs.Library.JoinKinds

/-! Which joins of a plan a reduced probe may feed. The plan names the kind of a join and the side
on which the probe is; the probe read drops rows that have no partner in the build, so that it may
feed a join on a side whose rows without partners the join drops as well, and any other join only
when no row was dropped.
-/

namespace Fedqrs

open SemiJoin

/-- The kind of join that DataFusion runs for one of the plan. -/
def datafusionJoinType : JoinKind → JoinType
  | .inner => .inner
  | .left => .left
  | .right => .right
  | .full => .full
  | .semi => .leftSemi
  | .anti => .leftAnti

variable {drivers : Drivers} {shown : ScalarValue → String} {df : ExprServices}
  {meaning : SqlMeaning} {sources reached : Sources} {datasource injectColumn : String}
  {found : DsSpec} {scan : ScanSpec} {keys result : Batches} {injectColumnNdv : Option Nat}
  {extras : List (String × Batches)} {probe : ProbeRelation} {ops : ScalarOps}

/-- Rows that meet a condition, which those that can join meet, lack of the whole scan only rows
that join with no row of the build.
-/
theorem lost_lonely {β : Type} {kept : Tuple → Bool} {columns : List Nat} {build : Multiset β}
    {keyed : List (String × Batches)} {conditions : List (String × (β → ScalarValue))}
    {on : List CellValue → β → Bool} (lower : probe.matching ops keyed ≤ kept)
    (upper : kept ≤ probe.whole ops) (collected : Collected build keyed conditions)
    (equal : JoinsEqual probe ops scan columns conditions on)
    : ∃ lost : Multiset (List CellValue),
        (probe.values scan columns (probe.whole ops) : Multiset (List CellValue))
            = probe.values scan columns kept + lost
          ∧ Lonely on lost build := by
  have between := between_filter (probe.outputValues scan columns) probe.heap.tuples lower upper
  obtain ⟨lost, whole, among⟩ := between.lost
    (coe_filter_split (probe.outputValues scan columns) probe.heap.tuples (lower.trans upper))
  refine ⟨lost, whole, ?_⟩
  intro row member
  refine lonely_filter (probe.outputValues scan columns) ?_ row
    (Multiset.mem_coe.mp (Multiset.mem_of_le among member))
  intro tuple stored passes other inside joined
  exact matching_of_joined collected passes inside (equal tuple stored other joined)

end Fedqrs
