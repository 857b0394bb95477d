import Mathlib.Data.Finset.Card
import Mathlib.Data.Finset.Image
import Mathlib.Data.List.Dedup

/-! Lists grouped by a key: one group for each value of the key. -/

namespace Fedqrs

variable {α K L : Type} [DecidableEq K] [DecidableEq L]

/-- The items of one key. -/
def groupOf (key : α → K) (items : List α) (value : K) : List α :=
  items.filter (fun item => key item = value)

/-- The groups of the items, one for each key that occurs. -/
def groupsBy (key : α → K) (items : List α) : List (List α) :=
  (items.map key).dedup.map (groupOf key items)

section Groups

variable {key : α → K} {items : List α}

theorem mem_groupOf {item : α} {value : K}
    : item ∈ groupOf key items value ↔ item ∈ items ∧ key item = value := by
  simp [groupOf]

/-- The groups are those of the items' keys. -/
theorem mem_groupsBy {group : List α}
    : group ∈ groupsBy key items ↔ ∃ item ∈ items, group = groupOf key items (key item) := by
  simp only [groupsBy, List.mem_map, List.mem_dedup]
  constructor
  · intro found
    obtain ⟨_, ⟨item, member, rfl⟩, rfl⟩ := found
    exact ⟨item, member, rfl⟩
  · intro found
    obtain ⟨item, member, rfl⟩ := found
    exact ⟨key item, ⟨item, member, rfl⟩, rfl⟩

theorem length_groupsBy (key : α → K) (items : List α)
    : (groupsBy key items).length = (items.map key).toFinset.card := by
  rw [groupsBy, List.length_map, List.card_toFinset]

/-- No group is there twice: each has an item, whose key says which one it is. -/
theorem groupsBy_nodup (key : α → K) (items : List α) : (groupsBy key items).Nodup := by
  refine List.Nodup.map_on ?_ (List.nodup_dedup _)
  intro value occurs other _ same
  obtain ⟨item, member, rfl⟩ := List.mem_map.mp (List.mem_dedup.mp occurs)
  have inside : item ∈ groupOf key items other := by
    rw [← same]
    exact mem_groupOf.mpr ⟨member, rfl⟩
  exact (mem_groupOf.mp inside).2

/-- Keys that tell the same items apart give the same groups. -/
theorem groupsBy_perm {other : α → L}
    (same : ∀ a ∈ items, ∀ b ∈ items, key a = key b ↔ other a = other b)
    : (groupsBy key items).Perm (groupsBy other items) := by
  have groups (item : α) (member : item ∈ items)
      : groupOf key items (key item) = groupOf other items (other item) := by
    apply List.filter_congr
    intro a inside
    simpa using same a inside item member
  refine (List.perm_ext_iff_of_nodup (groupsBy_nodup key items) (groupsBy_nodup other items)).mpr ?_
  intro group
  rw [mem_groupsBy, mem_groupsBy]
  constructor
  · intro found
    obtain ⟨item, member, rfl⟩ := found
    exact ⟨item, member, groups item member⟩
  · intro found
    obtain ⟨item, member, rfl⟩ := found
    exact ⟨item, member, (groups item member).symm⟩

/-- A finer key that gives as many groups is no finer; by counting the values of both. -/
theorem same_of_length_groupsBy {finer : α → L}
    (refines : ∀ a ∈ items, ∀ b ∈ items, finer a = finer b → key a = key b)
    (counts : (groupsBy key items).length = (groupsBy finer items).length)
    : ∀ a ∈ items, ∀ b ∈ items, key a = key b → finer a = finer b := by
  intro a first b second same
  have start : Nonempty K := ⟨key a⟩
  -- the coarser value of each finer one that occurs
  obtain ⟨coarse, maps⟩ : ∃ coarse : L → K, ∀ item ∈ items, coarse (finer item) = key item := by
    classical
    refine ⟨fun value =>
      if occurs : ∃ item ∈ items, finer item = value then key occurs.choose
      else Classical.arbitrary K, ?_⟩
    intro item member
    have occurs : ∃ other ∈ items, finer other = finer item := ⟨item, member, rfl⟩
    simp only [dif_pos occurs]
    exact refines _ occurs.choose_spec.1 item member occurs.choose_spec.2
  have image : (items.map key).toFinset = (items.map finer).toFinset.image coarse := by
    ext value
    simp only [List.mem_toFinset, List.mem_map, Finset.mem_image]
    constructor
    · intro occurs
      obtain ⟨item, member, rfl⟩ := occurs
      exact ⟨finer item, ⟨item, member, rfl⟩, maps item member⟩
    · intro occurs
      obtain ⟨_, ⟨item, member, rfl⟩, rfl⟩ := occurs
      exact ⟨item, member, (maps item member).symm⟩
  rw [length_groupsBy, length_groupsBy, image, Finset.card_image_iff] at counts
  apply counts
  · exact List.mem_toFinset.mpr (List.mem_map_of_mem first)
  · exact List.mem_toFinset.mpr (List.mem_map_of_mem second)
  · rw [maps a first, maps b second, same]

/-- Every group is a single item exactly when no key repeats. -/
theorem groupsBy_single (key : α → K) (items : List α)
    : (∀ group ∈ groupsBy key items, group.length ≤ 1) ↔ (items.map key).Nodup := by
  have counts (item : α)
      : (groupOf key items (key item)).length = (items.map key).count (key item) := by
    rw [groupOf, ← List.countP_eq_length_filter, List.count, List.countP_map]
    rfl
  rw [List.nodup_iff_count_le_one]
  constructor
  · intro single value
    by_cases occurs : value ∈ items.map key
    · obtain ⟨item, member, rfl⟩ := List.mem_map.mp occurs
      rw [← counts]
      exact single _ (mem_groupsBy.mpr ⟨item, member, rfl⟩)
    · rw [List.count_eq_zero_of_not_mem occurs]
      exact Nat.zero_le 1
  · intro distinct group found
    obtain ⟨item, member, rfl⟩ := mem_groupsBy.mp found
    rw [counts]
    exact distinct (key item)

end Groups

end Fedqrs
