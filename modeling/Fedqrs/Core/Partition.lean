import Mathlib.Algebra.Order.Ring.Nat
import Mathlib.Data.List.Count

/-! The page ranges of a partitioned read. -/

namespace Fedqrs

/-- `u32::MAX`. -/
def u32Max : Nat := 2 ^ 32 - 1

/-- The loop of `ctid_ranges`, with fuel for its rounds: ranges of `chunk` pages from `lo` on,
their ends saturating.
-/
def ctidLoop (pages chunk : Nat) : Nat → Nat → List (Nat × Nat)
  | 0, _ => []
  | fuel + 1, lo =>
      if lo < pages then
        let hi := min (lo + chunk) u32Max
        (lo, hi) :: ctidLoop pages chunk fuel hi
      else
        []

/-- The last range extends to the max page. -/
def extendLast : List (Nat × Nat) → List (Nat × Nat)
  | [] => []
  | [last] => [(last.1, u32Max)]
  | range :: next :: rest => range :: extendLast (next :: rest)

/-- Split `[0, pages)` into `partitions` half-open page ranges. The count is cast to 32 bits,
and dividing by it panics when that leaves none.
-/
def ctidRanges (pages partitions : Nat) : Except String (List (Nat × Nat)) :=
  if pages = 0 then
    .ok [(0, u32Max)]
  else
    let count := min (max partitions 1 % 2 ^ 32) pages
    if count = 0 then
      .error "attempt to divide by zero"
    else
      .ok (extendLast (ctidLoop pages (max (pages / count) 1) pages 0))

-----------------------------------------------------------------------------------------
-- Coverage
-----------------------------------------------------------------------------------------

/-- Nonempty ranges, each starting where the one before it ends. -/
inductive Contiguous : Nat → List (Nat × Nat) → Nat → Prop
  | nil (lo : Nat) : Contiguous lo [] lo
  | cons {lo hi last : Nat} {rest : List (Nat × Nat)} (grows : lo < hi)
    (tail : Contiguous hi rest last)
    : Contiguous lo ((lo, hi) :: rest) last

/-- Whether a block is in a range. -/
def inRange (block : Nat) (range : Nat × Nat) : Bool :=
  decide (range.1 ≤ block ∧ block < range.2)

theorem Contiguous.le {lo last : Nat} {ranges : List (Nat × Nat)}
    (contiguous : Contiguous lo ranges last)
    : lo ≤ last := by
  induction contiguous with
  | nil => exact Nat.le_refl _
  | cons grows _ ih => omega

/-- A block between the ends is in exactly one range, any other in none; by induction over
the ranges.
-/
theorem Contiguous.countP {lo last : Nat} {ranges : List (Nat × Nat)}
    (contiguous : Contiguous lo ranges last) (block : Nat)
    : ranges.countP (inRange block) = if lo ≤ block ∧ block < last then 1 else 0 := by
  induction contiguous with
  | nil lo =>
      have outside : ¬ (lo ≤ block ∧ block < lo) := by omega
      simp [outside]
  | @cons lo hi last rest grows tail ih =>
      have le := tail.le
      rw [List.countP_cons, ih]
      by_cases first : lo ≤ block ∧ block < hi
      · have here : lo ≤ block ∧ block < last := by omega
        have later : ¬ hi ≤ block := by omega
        simp [inRange, first, here, later]
      · by_cases later : hi ≤ block ∧ block < last
        · have here : lo ≤ block ∧ block < last := by omega
          have past : ¬ block < hi := by omega
          simp [inRange, past, here, later]
        · have here : ¬ (lo ≤ block ∧ block < last) := by omega
          simp only [inRange, first, here, later, decide_false, Bool.false_eq_true, if_false,
            Nat.add_zero]

/-- With a round for each page left, the loop passes the last page; by induction over the
rounds.
-/
theorem ctidLoop_contiguous {pages chunk : Nat} (some : 1 ≤ chunk) (small : pages ≤ u32Max)
    {fuel lo : Nat} (enough : pages ≤ lo + fuel) (inside : lo ≤ u32Max)
    : ∃ last, Contiguous lo (ctidLoop pages chunk fuel lo) last ∧ pages ≤ last
        ∧ last ≤ u32Max := by
  induction fuel generalizing lo with
  | zero => exact ⟨lo, .nil lo, by omega, inside⟩
  | succ fuel ih =>
      unfold ctidLoop
      by_cases more : lo < pages
      · have grows : lo < min (lo + chunk) u32Max := by omega
        have next : pages ≤ min (lo + chunk) u32Max + fuel := by omega
        obtain ⟨last, contiguous, covers, bounded⟩ := ih next (Nat.min_le_right _ _)
        rw [if_pos more]
        exact ⟨last, .cons grows contiguous, covers, bounded⟩
      · rw [if_neg more]
        exact ⟨lo, .nil lo, by omega, inside⟩

/-- The ranges are not empty when there is a page. -/
theorem ctidLoop_ne_nil {pages chunk fuel : Nat} (page : 0 < pages)
    : ctidLoop pages chunk (fuel + 1) 0 ≠ [] := by
  simp [ctidLoop, page]

/-- Extending the last range extends the coverage; by induction over the ranges. -/
theorem Contiguous.extendLast {lo last : Nat} {ranges : List (Nat × Nat)}
    (contiguous : Contiguous lo ranges last) (some : ranges ≠ []) (bounded : last ≤ u32Max)
    : Contiguous lo (extendLast ranges) u32Max := by
  induction contiguous with
  | nil => exact absurd rfl some
  | @cons lo hi last rest grows tail ih =>
      cases tail with
      | nil => exact .cons (by omega) (.nil _)
      | @cons _ next _ others grows' tail' => exact .cons grows (ih (by simp) bounded)

/-- The pages of a range, by the count that the cast leaves. -/
def ctidChunk (pages partitions : Nat) : Nat :=
  max (pages / min (max partitions 1 % 2 ^ 32) pages) 1

/-- Whenever there is a page and the cast leaves a count, the loop's ranges are extended to
contiguous ones up to the max page.
-/
theorem ctidRanges_walked {pages partitions : Nat} (small : pages ≤ u32Max)
    (page : pages ≠ 0) (count : 0 < max partitions 1 % 2 ^ 32)
    : ctidRanges pages partitions
        = .ok (extendLast (ctidLoop pages (ctidChunk pages partitions) pages 0))
      ∧ Contiguous 0 (extendLast (ctidLoop pages (ctidChunk pages partitions) pages 0)) u32Max := by
  have positive : ¬ min (max partitions 1 % 2 ^ 32) pages = 0 := by omega
  refine ⟨?_, ?_⟩
  · rw [ctidRanges, if_neg page]
    simp only [positive, if_false]
    rfl
  · obtain ⟨last, contiguous, _, bounded⟩ :=
      ctidLoop_contiguous (Nat.le_max_right (pages / min (max partitions 1 % 2 ^ 32) pages) 1)
        small (Nat.le_add_left pages 0) (Nat.zero_le u32Max)
    obtain ⟨rest, rounds⟩ : ∃ rest, pages = rest + 1 := ⟨pages - 1, by omega⟩
    apply contiguous.extendLast _ bounded
    rw [rounds]
    exact ctidLoop_ne_nil (by omega)

/-- Any partition count that survives the cast gives contiguous ranges up to the max page. -/
theorem ctidRanges_contiguous {pages partitions : Nat} (small : pages ≤ u32Max)
    (some : 1 ≤ partitions) (fits : partitions ≤ u32Max)
    : ∃ ranges, ctidRanges pages partitions = .ok ranges ∧ Contiguous 0 ranges u32Max := by
  by_cases empty : pages = 0
  · refine ⟨[(0, u32Max)], ?_, .cons (by decide) (.nil _)⟩
    rw [ctidRanges, if_pos empty]
  · have count : 0 < max partitions 1 % 2 ^ 32 := by
      simp only [u32Max] at fits
      omega
    exact ⟨_, ctidRanges_walked small empty count⟩

theorem Contiguous.ne_nil {lo last : Nat} {ranges : List (Nat × Nat)}
    (contiguous : Contiguous lo ranges last) (more : lo < last)
    : ranges ≠ [] := by
  intro empty
  subst empty
  cases contiguous
  exact absurd more (Nat.lt_irrefl _)

example : ctidRanges 3 8 = .ok [(0, 1), (1, 2), (2, u32Max)] := by decide

-----------------------------------------------------------------------------------------
-- How many ranges
-----------------------------------------------------------------------------------------

/-- With a round for each page left, the loop makes as many ranges as chunks fit into the
pages from `lo` on, a last short one included; by induction over the rounds.
-/
theorem ctidLoop_length {pages chunk : Nat} (some : 1 ≤ chunk) (small : pages ≤ u32Max)
    {fuel lo : Nat} (enough : pages ≤ lo + fuel)
    : (ctidLoop pages chunk fuel lo).length = (pages - lo + (chunk - 1)) / chunk := by
  induction fuel generalizing lo with
  | zero =>
      have none : pages - lo = 0 := by omega
      rw [ctidLoop, none, Nat.zero_add, Nat.div_eq_of_lt (by omega)]
      rfl
  | succ fuel ih =>
      unfold ctidLoop
      by_cases more : lo < pages
      · have grows : lo < min (lo + chunk) u32Max := by omega
        have next : pages ≤ min (lo + chunk) u32Max + fuel := by omega
        rw [if_pos more, List.length_cons, ih next]
        by_cases last : pages ≤ lo + chunk
        · -- The end is past the pages, saturated or not.
          have past : pages - min (lo + chunk) u32Max = 0 := by omega
          have one : (pages - lo + (chunk - 1)) / chunk = 1 := by
            apply Nat.div_eq_of_lt_le <;> omega
          rw [past, one, Nat.zero_add, Nat.div_eq_of_lt (by omega)]
        · have end_ : min (lo + chunk) u32Max = lo + chunk := by omega
          have split : pages - lo + (chunk - 1) = pages - (lo + chunk) + (chunk - 1) + chunk := by
            omega
          rw [end_, split, Nat.add_div_right _ some]
      · have none : pages - lo = 0 := by omega
        rw [if_neg more, none, Nat.zero_add, Nat.div_eq_of_lt (by omega)]
        rfl

theorem extendLast_length (ranges : List (Nat × Nat))
    : (extendLast ranges).length = ranges.length := by
  fun_induction extendLast ranges with
  | case1 | case2 => rfl
  | case3 range next rest ih => rw [List.length_cons, ih, List.length_cons, List.length_cons,
      List.length_cons]

/-- The chunk is the quotient, so a remainder makes further ranges. -/
theorem ctidRanges_length {pages partitions : Nat} (some : 0 < pages) (small : pages ≤ u32Max)
    (asked : 1 ≤ partitions) (fits : partitions < 2 ^ 32)
    : ∃ ranges, ctidRanges pages partitions = .ok ranges
        ∧ ranges.length
          = (pages + (pages / min partitions pages - 1)) / (pages / min partitions pages) := by
  have cast : max partitions 1 % 2 ^ 32 = partitions := by omega
  have nonzero : ¬ pages = 0 := by omega
  have count : ¬ min partitions pages = 0 := by omega
  have chunk : max (pages / min partitions pages) 1 = pages / min partitions pages := by
    apply Nat.max_eq_left
    exact Nat.div_pos (Nat.min_le_right _ _) (by omega)
  unfold ctidRanges
  simp only [nonzero, if_false, cast, count, chunk]
  refine ⟨_, rfl, ?_⟩
  have positive : 1 ≤ pages / min partitions pages :=
    Nat.div_pos (Nat.min_le_right _ _) (by omega)
  rw [extendLast_length, ctidLoop_length positive small (Nat.le_add_left pages 0), Nat.sub_zero]

/-- Rounding up the quotient by a quotient gives the divisor back when there is no remainder,
and more than it otherwise.
-/
theorem ceil_div_quotient {pages count : Nat} (some : 1 ≤ count) (le : count ≤ pages)
    : (pages + (pages / count - 1)) / (pages / count) = count ↔ count ∣ pages := by
  have positive : 0 < pages / count := Nat.div_pos le some
  have division := Nat.div_add_mod pages count
  have split
      : (pages + (pages / count - 1)) / (pages / count)
        = count + (pages % count + (pages / count - 1)) / (pages / count) := by
    have rearranged
        : pages + (pages / count - 1)
          = pages % count + (pages / count - 1) + count * (pages / count) := by
      omega
    rw [rearranged, Nat.add_mul_div_right _ _ positive, Nat.add_comm]
  rw [split, Nat.dvd_iff_mod_eq_zero]
  constructor
  · intro same
    have none : (pages % count + (pages / count - 1)) / (pages / count) = 0 := by omega
    rcases Nat.div_eq_zero_iff.mp none with zero | lt
    · omega
    · omega
  · intro even
    rw [even, Nat.zero_add, Nat.div_eq_of_lt (by omega)]
    rfl

/-- As many ranges as asked for, or as there are pages, exactly when that number divides the
pages.
-/
theorem ctidRanges_count_iff (pages partitions : Nat) (some : 0 < pages)
    (small : pages ≤ u32Max) (asked : 1 ≤ partitions) (fits : partitions < 2 ^ 32)
    : (∃ ranges, ctidRanges pages partitions = .ok ranges
        ∧ ranges.length = min partitions pages)
      ↔ min partitions pages ∣ pages := by
  obtain ⟨ranges, split, length⟩ := ctidRanges_length some small asked fits
  have rounding := ceil_div_quotient (by omega) (Nat.min_le_right partitions pages)
  rw [← rounding, ← length]
  constructor
  · intro counted
    obtain ⟨others, split', same⟩ := counted
    rw [split] at split'
    cases split'
    exact same
  · intro same
    exact ⟨ranges, split, same⟩

theorem ctidRanges_count_iff_even
    : ∃ ranges, ctidRanges 1000 4 = .ok ranges ∧ ranges.length = min 4 1000 :=
  (ctidRanges_count_iff 1000 4 (by decide) (by decide) (by decide) (by decide)).mpr (by decide)

/-- Ten pages make five ranges where four were asked for. -/
theorem ctidRanges_ten_by_four
    : ¬ ∀ pages partitions, 0 < pages → pages ≤ u32Max → 1 ≤ partitions → partitions < 2 ^ 32
        → ∃ ranges, ctidRanges pages partitions = .ok ranges
            ∧ ranges.length = min partitions pages := by
  intro counted
  obtain ⟨ranges, split, length⟩ :=
    counted 10 4 (by decide) (by decide) (by decide) (by decide)
  have five
      : ctidRanges 10 4 = .ok [(0, 2), (2, 4), (4, 6), (6, 8), (8, u32Max)] := by
    decide
  rw [split] at five
  cases five
  cases length

-----------------------------------------------------------------------------------------
-- Every page count and every partition count
-----------------------------------------------------------------------------------------

/-- The `while` loop run to its end, without a bound on its rounds. -/
inductive CtidWhile (pages chunk : Nat) : Nat → List (Nat × Nat) → Prop
  | stop {lo : Nat} (done : ¬ lo < pages) : CtidWhile pages chunk lo []
  | round {lo : Nat} {rest : List (Nat × Nat)} (more : lo < pages)
    (tail : CtidWhile pages chunk (min (lo + chunk) u32Max) rest)
    : CtidWhile pages chunk lo ((lo, min (lo + chunk) u32Max) :: rest)

/-- A round for each page left is enough for the loop to end, as every round goes on by a page
at least; by induction over the rounds.
-/
theorem ctidLoop_ends {pages chunk : Nat} (some : 1 ≤ chunk) (small : pages ≤ u32Max)
    {fuel lo : Nat} (enough : pages ≤ lo + fuel)
    : CtidWhile pages chunk lo (ctidLoop pages chunk fuel lo) := by
  induction fuel generalizing lo with
  | zero => exact .stop (by omega)
  | succ fuel ih =>
      unfold ctidLoop
      by_cases more : lo < pages
      · rw [if_pos more]
        exact .round more (ih (by omega))
      · rw [if_neg more]
        exact .stop more

/-- Ranges that link up from page 0 to the max page, none of them empty. -/
structure PageCover (ranges : List (Nat × Nat)) : Prop where
  starts : ranges.head?.map Prod.fst = some 0
  linked : ranges.IsChain (fun range next => range.2 = next.1)
  nonempty : ∀ range ∈ ranges, range.1 < range.2
  ends : ranges.getLast?.map Prod.snd = some u32Max

theorem Contiguous.head {lo last : Nat} {range : Nat × Nat} {rest : List (Nat × Nat)}
    (contiguous : Contiguous lo (range :: rest) last)
    : range.1 = lo := by
  cases contiguous
  rfl

theorem Contiguous.linked {lo last : Nat} {ranges : List (Nat × Nat)}
    (contiguous : Contiguous lo ranges last)
    : ranges.IsChain (fun range next => range.2 = next.1) := by
  induction contiguous with
  | nil => exact .nil
  | cons grows tail ih =>
      cases tail with
      | nil => exact .singleton _
      | cons grows' tail' => exact .cons_cons rfl ih

theorem Contiguous.nonempty {lo last : Nat} {ranges : List (Nat × Nat)}
    (contiguous : Contiguous lo ranges last)
    : ∀ range ∈ ranges, range.1 < range.2 := by
  induction contiguous with
  | nil =>
      intro range member
      cases member
  | cons grows tail ih =>
      intro range member
      rcases List.mem_cons.mp member with rfl | further
      · exact grows
      · exact ih range further

theorem Contiguous.getLast {lo last : Nat} {ranges : List (Nat × Nat)}
    (contiguous : Contiguous lo ranges last) (some : ranges ≠ [])
    : ranges.getLast?.map Prod.snd = .some last := by
  induction contiguous with
  | nil => exact absurd rfl some
  | cons grows tail ih =>
      cases tail with
      | nil => rfl
      | cons grows' tail' =>
          rw [List.getLast?_cons_cons]
          exact ih (by simp)

theorem Contiguous.pageCover {ranges : List (Nat × Nat)} (contiguous : Contiguous 0 ranges u32Max)
    : PageCover ranges := by
  have some := contiguous.ne_nil (by decide)
  refine ⟨?_, contiguous.linked, contiguous.nonempty, contiguous.getLast some⟩
  cases ranges with
  | nil => exact absurd rfl some
  | cons range rest => exact congrArg Option.some contiguous.head

/-- `ctid_ranges` returns a cover of all pages, by a loop that ends. -/
structure SplitsPages (pages partitions : Nat) (ranges : List (Nat × Nat)) : Prop where
  returned : ctidRanges pages partitions = .ok ranges
  ended : pages ≠ 0
    → ∃ walked,
        CtidWhile pages (ctidChunk pages partitions) 0 walked ∧ ranges = extendLast walked
  cover : PageCover ranges

/-- A page count is split whenever the cast leaves a count to divide by. -/
theorem ctidRanges_splits {pages partitions : Nat} (small : pages ≤ u32Max)
    (divides : pages = 0 ∨ 0 < max partitions 1 % 2 ^ 32)
    : ∃ ranges, SplitsPages pages partitions ranges := by
  by_cases empty : pages = 0
  · refine ⟨[(0, u32Max)], ?_, ?_, ?_⟩
    · rw [ctidRanges, if_pos empty]
    · intro some
      exact absurd empty some
    · exact Contiguous.pageCover (.cons (by decide) (.nil _))
  · have count : 0 < max partitions 1 % 2 ^ 32 := by
      rcases divides with none | some
      · exact absurd none empty
      · exact some
    obtain ⟨returned, contiguous⟩ := ctidRanges_walked small empty count
    refine ⟨_, returned, ?_, contiguous.pageCover⟩
    intro _
    exact ⟨_, ctidLoop_ends (Nat.le_max_right _ _) small (Nat.le_add_left pages 0), rfl⟩

/-- Every count of pages is split, but for counts of partitions that the cast to 32 bits
leaves nothing of.
-/
theorem ctidRanges_total_iff (pages : UInt32) (partitions : UInt64)
    : (∃ ranges, SplitsPages pages.toNat partitions.toNat ranges)
      ↔ pages = 0 ∨ partitions = 0 ∨ partitions.toNat % 2 ^ 32 ≠ 0 := by
  have small : pages.toNat ≤ u32Max := Nat.le_of_lt_succ pages.toNat_lt
  have noPages : pages = 0 ↔ pages.toNat = 0 := UInt32.toNat_inj.symm
  have noPartitions : partitions = 0 ↔ partitions.toNat = 0 := UInt64.toNat_inj.symm
  rw [noPages, noPartitions]
  constructor
  · intro splits
    obtain ⟨ranges, split⟩ := splits
    by_contra none
    have page : ¬ pages.toNat = 0 := by omega
    have nothing : min (max partitions.toNat 1 % 2 ^ 32) pages.toNat = 0 := by omega
    have returned := split.returned
    rw [ctidRanges, if_neg page] at returned
    simp only [nothing, if_true] at returned
    cases returned
  · intro condition
    apply ctidRanges_splits small
    omega

/-- Partitions in a multiple of 2^32 leave nothing to divide ten pages by. -/
theorem ctidRanges_divides_by_zero
    : ctidRanges 10 (2 ^ 32) = .error "attempt to divide by zero"
      ∧ ¬ ∀ (pages : UInt32) (partitions : UInt64),
          ∃ ranges, SplitsPages pages.toNat partitions.toNat ranges := by
  have panics : ctidRanges 10 (2 ^ 32) = .error "attempt to divide by zero" := by decide
  refine ⟨panics, ?_⟩
  intro total
  obtain ⟨ranges, split⟩ := total 10 (2 ^ 32)
  have same : ctidRanges 10 (2 ^ 32) = .ok ranges := split.returned
  rw [panics] at same
  cases same

end Fedqrs
