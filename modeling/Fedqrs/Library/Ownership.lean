import Mathlib.Logic.Function.Basic

/-! Tokens that are each in one place. A token that is being moved is in no place; moving, making
and freeing tokens keep every other one where it is.
-/

namespace Ownership

variable {P T : Type}

/-- Every live token is in exactly one place, but for the moved one, and only live ones are. -/
structure Placed (held : P → Option T) (live : T → Prop) (moved : Option T) : Prop where
  alive : ∀ place token, held place = some token → live token
  once : ∀ place other token, held place = some token → held other = some token → place = other
  owner : ∀ token, live token → moved ≠ some token → ∃ place, held place = some token
  loose : ∀ token, moved = some token → live token ∧ ∀ place, held place ≠ some token

section Tokens

variable {held : P → Option T} {live : T → Prop} {moved : Option T}

theorem placed_nothing : Placed (fun _ : P => (none : Option T)) (fun _ => False) none where
  alive place token here := by cases here
  once place other token here := by cases here
  owner token there := there.elim
  loose token moving := by cases moving

/-- A token is made, and is on the move. -/
theorem Placed.make (placed : Placed held live none) {token : T} (fresh : ¬ live token)
    : Placed held (fun other => other = token ∨ live other) (some token) where
  alive place found here := Or.inr (placed.alive place found here)
  once := placed.once
  owner found there other := by
    rcases there with rfl | there
    · exact absurd rfl other
    · exact placed.owner found there (fun moving => by cases moving)
  loose found moving := by
    cases moving
    exact ⟨Or.inl rfl, fun place here => fresh (placed.alive place token here)⟩

/-- The moved token is freed. -/
theorem Placed.free {token : T} (placed : Placed held live (some token))
    : Placed held (fun other => other ≠ token ∧ live other) none where
  alive place found here := by
    refine ⟨?_, placed.alive place found here⟩
    rintro rfl
    exact (placed.loose found rfl).2 place here
  once := placed.once
  owner found there _ :=
    placed.owner found there.2 (fun moving => there.1 (Option.some.inj moving).symm)
  loose found moving := by cases moving

/-- The places and the live tokens are what matters. -/
theorem Placed.congr {held' : P → Option T} {live' : T → Prop} (placed : Placed held live moved)
    (sameHeld : ∀ place, held' place = held place) (sameLive : ∀ token, live' token ↔ live token)
    : Placed held' live' moved := by
  have places : held' = held := funext sameHeld
  have tokens : live' = live := funext (fun token => propext (sameLive token))
  rw [places, tokens]
  exact placed

end Tokens

section Places

variable [DecidableEq P] {held : P → Option T} {live : T → Prop}

/-- What is in a place after one was set. -/
theorem update_eq_some {place other : P} {content : Option T} {token : T}
    : Function.update held place content other = some token
      ↔ other = place ∧ content = some token ∨ other ≠ place ∧ held other = some token := by
  by_cases same : other = place
  · subst same
    simp
  · simp [same]

/-- The moved token is put into an empty place. -/
theorem Placed.put {token : T} (placed : Placed held live (some token)) {place : P}
    (vacant : held place = none)
    : Placed (Function.update held place (some token)) live none where
  alive other found here := by
    rcases update_eq_some.mp here with ⟨_, same⟩ | ⟨_, there⟩
    · cases same
      exact (placed.loose token rfl).1
    · exact placed.alive other found there
  once first second found here there := by
    rcases update_eq_some.mp here with ⟨atPlace, same⟩ | ⟨_, before⟩
    · rcases update_eq_some.mp there with ⟨alsoThere, _⟩ | ⟨_, after⟩
      · rw [atPlace, alsoThere]
      · cases same
        exact absurd after ((placed.loose token rfl).2 second)
    · rcases update_eq_some.mp there with ⟨_, same⟩ | ⟨_, after⟩
      · cases same
        exact absurd before ((placed.loose token rfl).2 first)
      · exact placed.once first second found before after
  owner found there _ := by
    by_cases same : token = found
    · exact ⟨place, update_eq_some.mpr (Or.inl ⟨rfl, congrArg some same⟩)⟩
    · obtain ⟨other, here⟩ :=
        placed.owner found there (fun moving => same (Option.some.inj moving))
      refine ⟨other, update_eq_some.mpr (Or.inr ⟨?_, here⟩)⟩
      rintro rfl
      rw [vacant] at here
      cases here
  loose found moving := by cases moving

/-- What is in a place is taken out of it. -/
theorem Placed.take (placed : Placed held live none) (place : P)
    : Placed (Function.update held place none) live (held place) where
  alive other found here := by
    rcases update_eq_some.mp here with ⟨_, same⟩ | ⟨_, there⟩
    · cases same
    · exact placed.alive other found there
  once first second found here there := by
    rcases update_eq_some.mp here with ⟨_, same⟩ | ⟨_, before⟩
    · cases same
    · rcases update_eq_some.mp there with ⟨_, same⟩ | ⟨_, after⟩
      · cases same
      · exact placed.once first second found before after
  owner found there still := by
    obtain ⟨other, here⟩ := placed.owner found there (fun moving => by cases moving)
    refine ⟨other, update_eq_some.mpr (Or.inr ⟨?_, here⟩)⟩
    rintro rfl
    exact still here
  loose found taken := by
    refine ⟨placed.alive place found taken, ?_⟩
    intro other here
    rcases update_eq_some.mp here with ⟨_, same⟩ | ⟨apart, there⟩
    · cases same
    · exact apart (placed.once other place found there taken)

end Places

end Ownership
