import Fedqrs.Library.SemiJoin
import Mathlib.Data.Multiset.ZeroCons

/-! Outer, semi and anti joins of bags of rows, and what becomes of each kind when rows without a
partner are left out on one side.
-/

namespace SemiJoin

variable {α β : Type}

/-- The kinds of joins. -/
inductive JoinType
  | inner
  | left
  | right
  | full
  | leftSemi
  | leftAnti
deriving DecidableEq, Repr

/-- The kind returns no row of the left side that has no partner. -/
def JoinType.DropsLeft : JoinType → Prop
  | .inner | .right | .leftSemi => True
  | .left | .full | .leftAnti => False

/-- The kind returns no row of the right side that has no partner. -/
def JoinType.DropsRight : JoinType → Prop
  | .inner | .left | .leftSemi | .leftAnti => True
  | .right | .full => False

/-- A row has a partner on the other side. -/
def Partnered (joins : α → β → Bool) (right : Multiset β) (row : α) : Prop :=
  ∃ other ∈ right, joins row other = true

instance (joins : α → β → Bool) (right : Multiset β) : DecidablePred (Partnered joins right) :=
  fun _ => Multiset.decidableExistsMultiset

section Parts

variable (joins : α → β → Bool) (left : Multiset α) (right : Multiset β)

/-- The pairs of partners. -/
def matched : Multiset (Option α × Option β) :=
  (innerJoin joins left right).map (Prod.map some some)

/-- The left rows that have a partner, or those that have none, without the right side. -/
def leftPartnered : Multiset (Option α × Option β) :=
  (left.filter (Partnered joins right)).map (fun row => (some row, none))

def leftLonely : Multiset (Option α × Option β) :=
  (left.filter (fun row => ¬ Partnered joins right row)).map (fun row => (some row, none))

/-- The right rows that have no partner, without the left side. -/
def rightLonely : Multiset (Option α × Option β) :=
  (right.filter (fun other => ¬ Partnered (fun b a => joins a b) left other)).map
    (fun other => (none, some other))

/-- What a join returns: rows of both sides, of which one may be missing. -/
def join : JoinType → Multiset (Option α × Option β)
  | .inner => matched joins left right
  | .left => matched joins left right + leftLonely joins left right
  | .right => matched joins left right + rightLonely joins left right
  | .full => matched joins left right + leftLonely joins left right + rightLonely joins left right
  | .leftSemi => leftPartnered joins left right
  | .leftAnti => leftLonely joins left right

end Parts

/-- No row of the one side joins with one of the other. -/
def Lonely (joins : α → β → Bool) (left : Multiset α) (right : Multiset β) : Prop :=
  ∀ row ∈ left, ∀ other ∈ right, joins row other = false

section Reduction

variable {joins : α → β → Bool} {left rows lost : Multiset α} {right : Multiset β}

theorem Lonely.not_partnered (lonely : Lonely joins lost right) {row : α} (member : row ∈ lost)
    : ¬ Partnered joins right row := by
  rintro ⟨other, inside, joined⟩
  rw [lonely row member other inside] at joined
  cases joined

theorem Lonely.flip (lonely : Lonely joins left right)
    : Lonely (fun b a => joins a b) right left :=
  fun other inside row member => lonely row member other inside

/-- Lonely rows are nobody's partners. -/
theorem partnered_add (lonely : Lonely joins lost right) {other : β} (inside : other ∈ right)
    : Partnered (fun b a => joins a b) (rows + lost) other
      ↔ Partnered (fun b a => joins a b) rows other := by
  constructor
  · rintro ⟨row, member, joined⟩
    rcases Multiset.mem_add.mp member with kept | gone
    · exact ⟨row, kept, joined⟩
    · exact absurd joined (Bool.eq_false_iff.mp (lonely row gone other inside))
  · rintro ⟨row, member, joined⟩
    exact ⟨row, Multiset.mem_add.mpr (Or.inl member), joined⟩

theorem matched_add_left (lonely : Lonely joins lost right)
    : matched joins (rows + lost) right = matched joins rows right := by
  rw [matched, innerJoin_add, innerJoin_eq_zero lonely, add_zero]
  rfl

theorem leftPartnered_add (lonely : Lonely joins lost right)
    : leftPartnered joins (rows + lost) right = leftPartnered joins rows right := by
  have none : lost.filter (Partnered joins right) = 0 :=
    Multiset.filter_eq_nil.mpr (fun _ member => lonely.not_partnered member)
  rw [leftPartnered, Multiset.filter_add, none, add_zero]
  rfl

/-- The lonely rows are returned where rows without partners are. -/
theorem leftLonely_add (lonely : Lonely joins lost right)
    : leftLonely joins (rows + lost) right
      = leftLonely joins rows right + lost.map (fun row => (some row, none)) := by
  have all : lost.filter (fun row => ¬ Partnered joins right row) = lost :=
    Multiset.filter_eq_self.mpr (fun _ member => lonely.not_partnered member)
  rw [leftLonely, Multiset.filter_add, all, Multiset.map_add]
  rfl

theorem rightLonely_add_left (lonely : Lonely joins lost right)
    : rightLonely joins (rows + lost) right = rightLonely joins rows right := by
  unfold rightLonely
  congr 1
  exact Multiset.filter_congr (fun other inside => not_congr (partnered_add lonely inside))

/-- Leaving out lonely rows of the left side changes a join unless its kind drops them or there
are none; by cases on the kind.
-/
theorem join_left_iff (kind : JoinType) (lonely : Lonely joins lost right)
    : join joins rows right kind = join joins (rows + lost) right kind
      ↔ kind.DropsLeft ∨ lost = 0 := by
  cases kind with
  | inner => simp [join, matched_add_left lonely, JoinType.DropsLeft]
  | right =>
      simp [join, matched_add_left lonely, rightLonely_add_left lonely, JoinType.DropsLeft]
  | leftSemi => simp [join, leftPartnered_add lonely, JoinType.DropsLeft]
  | left =>
      simp only [join, matched_add_left lonely, leftLonely_add lonely, JoinType.DropsLeft, false_or]
      rw [← add_assoc, left_eq_add, Multiset.map_eq_zero]
  | full =>
      simp only [join, matched_add_left lonely, leftLonely_add lonely,
        rightLonely_add_left lonely, JoinType.DropsLeft, false_or]
      rw [add_left_inj, ← add_assoc, left_eq_add, Multiset.map_eq_zero]
  | leftAnti =>
      simp only [join, leftLonely_add lonely, JoinType.DropsLeft, false_or]
      rw [left_eq_add, Multiset.map_eq_zero]

end Reduction

section Mirrored

variable {joins : α → β → Bool} {left : Multiset α} {rows lost : Multiset β}

theorem matched_add_right (lonely : Lonely joins left lost)
    : matched joins left (rows + lost) = matched joins left rows := by
  have apart : innerJoin joins left (rows + lost)
      = innerJoin joins left rows + innerJoin joins left lost := by
    simp only [innerJoin, Multiset.filter_add, Multiset.map_add, Multiset.bind_add]
  rw [matched, apart, innerJoin_eq_zero lonely, add_zero]
  rfl

theorem partnered_add_right (lonely : Lonely joins left lost) {row : α} (member : row ∈ left)
    : Partnered joins (rows + lost) row ↔ Partnered joins rows row :=
  partnered_add lonely.flip member

theorem leftPartnered_add_right (lonely : Lonely joins left lost)
    : leftPartnered joins left (rows + lost) = leftPartnered joins left rows := by
  unfold leftPartnered
  congr 1
  exact Multiset.filter_congr (fun row member => partnered_add_right lonely member)

theorem leftLonely_add_right (lonely : Lonely joins left lost)
    : leftLonely joins left (rows + lost) = leftLonely joins left rows := by
  unfold leftLonely
  congr 1
  exact Multiset.filter_congr (fun row member => not_congr (partnered_add_right lonely member))

theorem rightLonely_add (lonely : Lonely joins left lost)
    : rightLonely joins left (rows + lost)
      = rightLonely joins left rows + lost.map (fun other => (none, some other)) := by
  have all : lost.filter (fun other => ¬ Partnered (fun b a => joins a b) left other) = lost :=
    Multiset.filter_eq_self.mpr (fun _ member => lonely.flip.not_partnered member)
  rw [rightLonely, Multiset.filter_add, all, Multiset.map_add]
  rfl

/-- The same for the right side. -/
theorem join_right_iff (kind : JoinType) (lonely : Lonely joins left lost)
    : join joins left rows kind = join joins left (rows + lost) kind
      ↔ kind.DropsRight ∨ lost = 0 := by
  cases kind with
  | inner => simp [join, matched_add_right lonely, JoinType.DropsRight]
  | left => simp [join, matched_add_right lonely, leftLonely_add_right lonely, JoinType.DropsRight]
  | leftSemi => simp [join, leftPartnered_add_right lonely, JoinType.DropsRight]
  | leftAnti => simp [join, leftLonely_add_right lonely, JoinType.DropsRight]
  | right =>
      simp only [join, matched_add_right lonely, rightLonely_add lonely, JoinType.DropsRight,
        false_or]
      rw [← add_assoc, left_eq_add, Multiset.map_eq_zero]
  | full =>
      simp only [join, matched_add_right lonely, leftLonely_add_right lonely,
        rightLonely_add lonely, JoinType.DropsRight, false_or]
      rw [← add_assoc, left_eq_add, Multiset.map_eq_zero]

end Mirrored

end SemiJoin
