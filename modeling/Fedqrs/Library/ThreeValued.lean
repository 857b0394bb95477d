/-! Three-valued logic over `Option Bool`, where `none` is unknown, as SQL conditions use. -/

namespace ThreeValued

/-- Conjunction: false wins over unknown, unknown wins over true. -/
def and : Option Bool → Option Bool → Option Bool
  | some false, _ => some false
  | _, some false => some false
  | some true, some true => some true
  | _, _ => none

/-- Disjunction: true wins over unknown, unknown wins over false. -/
def or : Option Bool → Option Bool → Option Bool
  | some true, _ => some true
  | _, some true => some true
  | some false, some false => some false
  | _, _ => none

def not (truth : Option Bool) : Option Bool := truth.map Bool.not

/-- The disjunction of a list, false when it is empty. -/
def any : List (Option Bool) → Option Bool
  | [] => some false
  | head :: rest => or head (any rest)

/-- The conjunction of a list, true when it is empty. -/
def all : List (Option Bool) → Option Bool
  | [] => some true
  | head :: rest => and head (all rest)

/-- A conjunction is true exactly when both sides are, by cases on the truth values. -/
@[simp]
theorem and_eq_true {left right : Option Bool}
    : and left right = some true ↔ left = some true ∧ right = some true := by
  rcases left with _ | (_ | _) <;> rcases right with _ | (_ | _) <;> simp [and]

/-- A disjunction is true exactly when one side is, by cases on the truth values. -/
@[simp]
theorem or_eq_true {left right : Option Bool}
    : or left right = some true ↔ left = some true ∨ right = some true := by
  rcases left with _ | (_ | _) <;> rcases right with _ | (_ | _) <;> simp [or]

/-- A list's disjunction is true exactly when a member is, by list induction. -/
@[simp]
theorem any_eq_true {truths : List (Option Bool)}
    : any truths = some true ↔ some true ∈ truths := by
  induction truths with
  | nil => simp [any]
  | cons head rest ih =>
      rw [any, or_eq_true, ih, List.mem_cons]
      exact or_congr_left ⟨Eq.symm, Eq.symm⟩

theorem not_or (left right : Option Bool) : not (or left right) = and (not left) (not right) := by
  rcases left with _ | (_ | _) <;> rcases right with _ | (_ | _) <;> rfl

/-- A list's disjunction is denied by denying each member, by list induction. -/
theorem not_any (truths : List (Option Bool)) : not (any truths) = all (truths.map not) := by
  induction truths with
  | nil => rfl
  | cons head rest ih => rw [any, not_or, ih, List.map_cons, all]

end ThreeValued
