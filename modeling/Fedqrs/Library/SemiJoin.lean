import Mathlib.Data.Multiset.Bind
import Mathlib.Data.Multiset.Filter

/-! Reducing one side of an inner join: rows without a partner on the other side can be left out,
all or some of them, and the join is the same bag.
-/

namespace SemiJoin

variable {α β γ : Type} {joins : α → β → Bool}

/-- The pairs of a row and each partner of it on the other side. -/
def innerJoin (joins : α → β → Bool) (left : Multiset α) (right : Multiset β)
    : Multiset (α × β) :=
  left.bind (fun row => (right.filter (fun other => joins row other)).map (Prod.mk row))

theorem innerJoin_add (first second : Multiset α) (right : Multiset β)
    : innerJoin joins (first + second) right
      = innerJoin joins first right + innerJoin joins second right :=
  Multiset.add_bind ..

/-- Rows without a partner join to nothing. -/
theorem innerJoin_eq_zero {left : Multiset α} {right : Multiset β}
    (lonely : ∀ row ∈ left, ∀ other ∈ right, joins row other = false)
    : innerJoin joins left right = 0 := by
  have none
      : ∀ row ∈ left,
          (right.filter (fun other => joins row other)).map (Prod.mk row)
            = (0 : Multiset (α × β)) := by
    intro row member
    rw [Multiset.map_eq_zero, Multiset.filter_eq_nil]
    intro other inside joined
    rw [lonely row member other inside] at joined
    cases joined
  rw [innerJoin, Multiset.bind_congr none, Multiset.bind_zero]

/-- A bag of rows that has those of one bag, and only those of another. -/
structure Between (lower rows upper : Multiset α) : Prop where
  keeps : lower ≤ rows
  among : rows ≤ upper

/-- What is missing is among the rows that the smaller bag lacks. -/
theorem Between.lost {lower rows upper rest : Multiset α} (between : Between lower rows upper)
    (split : upper = lower + rest)
    : ∃ lost, upper = rows + lost ∧ lost ≤ rest := by
  obtain ⟨kept, rfl⟩ := Multiset.le_iff_exists_add.mp between.keeps
  obtain ⟨lost, rfl⟩ := Multiset.le_iff_exists_add.mp between.among
  have same : kept + lost = rest := by
    rw [add_assoc] at split
    exact add_left_cancel split
  exact ⟨lost, rfl, Multiset.le_iff_exists_add.mpr ⟨kept, by rw [← same, add_comm]⟩⟩

/-- Rows that lack some of the rows without partners join as all of them do. -/
theorem Between.innerJoin_eq {lower rows upper rest : Multiset α} {right : Multiset β}
    (between : Between lower rows upper) (split : upper = lower + rest)
    (lonely : ∀ row ∈ rest, ∀ other ∈ right, joins row other = false)
    : innerJoin joins rows right = innerJoin joins upper right := by
  obtain ⟨lost, whole, among⟩ := between.lost split
  have gone : innerJoin joins lost right = 0 := by
    apply innerJoin_eq_zero
    intro row member
    exact lonely row (Multiset.mem_of_le among member)
  rw [whole, innerJoin_add _ lost, gone, add_zero]

section Conditions

variable {strong middle weak : α → Bool} (form : α → γ)

/-- Filtering by a condition between two others gives rows between theirs. -/
theorem between_filter (items : List α) (lower : strong ≤ middle) (upper : middle ≤ weak)
    : Between (((items.filter strong).map form : List γ) : Multiset γ)
        ((items.filter middle).map form) ((items.filter weak).map form) where
  keeps := Multiset.coe_le.mpr ((List.monotone_filter_right items lower).map form).subperm
  among := Multiset.coe_le.mpr ((List.monotone_filter_right items upper).map form).subperm

/-- The items that meet the weak condition are those that meet the strong one and the others. -/
theorem coe_filter_split (items : List α) (implied : strong ≤ weak)
    : (((items.filter weak).map form : List γ) : Multiset γ)
      = ((items.filter strong).map form : List γ)
        + (((items.filter weak).filter (fun item => !strong item)).map form : List γ) := by
  have apart := List.filter_append_perm strong (items.filter weak)
  have kept : (items.filter weak).filter strong = items.filter strong := by
    rw [List.filter_filter]
    refine List.filter_congr (fun item _ => ?_)
    cases holds : strong item with
    | false => rfl
    | true => exact implied item holds
  rw [kept] at apart
  rw [Multiset.coe_add, Multiset.coe_eq_coe, ← List.map_append]
  exact (apart.map form).symm

/-- If a condition is met by every item that has a partner, the items that do not meet it are
lonely.
-/
theorem lonely_filter {joins : γ → β → Bool} {items : List α} {right : Multiset β}
    (partners
      : ∀ item ∈ items, weak item = true → ∀ other ∈ right, joins (form item) other = true
          → strong item = true)
    : ∀ row ∈ (((items.filter weak).filter (fun item => !strong item)).map form : List γ),
        ∀ other ∈ right, joins row other = false := by
  intro row member other inside
  obtain ⟨item, found, rfl⟩ := List.mem_map.mp member
  obtain ⟨among, fails⟩ := List.mem_filter.mp found
  rw [Bool.eq_false_iff]
  intro joined
  obtain ⟨stored, passes⟩ := List.mem_filter.mp among
  rw [partners item stored passes other inside joined] at fails
  cases fails

/-- If a condition is met by every item that has a partner, what lies between the items that meet
it and all of them joins as all do.
-/
theorem Between.innerJoin_filter {joins : γ → β → Bool} {items : List α} {rows : Multiset γ}
    {right : Multiset β} (implied : strong ≤ weak)
    (between
      : Between (((items.filter strong).map form : List γ) : Multiset γ) rows
          ((items.filter weak).map form))
    (partners
      : ∀ item ∈ items, weak item = true → ∀ other ∈ right, joins (form item) other = true
          → strong item = true)
    : innerJoin joins rows right
      = innerJoin joins (((items.filter weak).map form : List γ) : Multiset γ) right :=
  between.innerJoin_eq (coe_filter_split form items implied)
    (fun row member => lonely_filter form partners row (Multiset.mem_coe.mp member))

end Conditions

end SemiJoin
