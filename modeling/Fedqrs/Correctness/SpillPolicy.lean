import Fedqrs.Correctness.SameMachine
import Mathlib.Algebra.Order.BigOperators.Group.List

/-! The spill policy: the largest resident relations go to disk first, no more of them than
the budget needs, and nothing is lost.
-/

namespace Fedqrs

open EngineM

variable {σ β : Type}

/-- Some resident relations have gone to their files; every other binding is as before. -/
structure Evicted (host : Host β) (before after : Bindings β) (gone : List String) : Prop where
  spilled : ∀ name ∈ gone, ∃ batches file,
    before.lookup name = some (.materialized batches)
      ∧ host.writeIpc batches = .ok file
      ∧ after.lookup name = some (.spilled { file, bytes := host.batchesBytes batches })
  kept : ∀ name, name ∉ gone → after.lookup name = before.lookup name

/-- The total of some sizes. -/
def totalBytes (sized : List (String × Nat)) : Nat := (sized.map Prod.snd).sum

/-- The largest resident relations, and no more than needed, have made room in a budget. -/
structure Roomed (host : Host β) (budget incoming : Nat) (before after : Bindings β) : Prop where
  names : ∀ name, name ∈ after ↔ name ∈ before
  others : ∀ name binding, before.lookup name = some binding
    → (∀ batches, binding ≠ .materialized batches) → after.lookup name = some binding
  denotes : ∀ name batches, before.lookup name = some (.materialized batches)
    → after.lookup name = some (.materialized batches)
      ∨ ∃ file, host.writeIpc batches = .ok file
          ∧ after.lookup name = some (.spilled { file, bytes := host.batchesBytes batches })
  largest : ∃ (order : List (String × Nat)) (count : Nat),
    order.Perm (residentSizes host before)
      ∧ order.Pairwise (fun a b => b.2 ≤ a.2)
      ∧ Evicted host before after ((order.take count).map Prod.fst)
      ∧ (totalBytes (order.drop count) + incoming ≤ budget ∨ count = order.length)
      ∧ ∀ fewer < count, budget < totalBytes (order.drop fewer) + incoming

section Loop

variable {host : Host β} {machine reached : Machine σ β} {incoming : Nat}

/-- Nothing has gone from equal bindings. -/
theorem Evicted.refl (bindings : Bindings β) : Evicted host bindings bindings [] where
  spilled name member := by cases member
  kept name _ := rfl

/-- One relation goes, then others. -/
theorem Evicted.cons {before after : Bindings β} {name : String} {batches file : β}
    {gone : List String} (found : before.lookup name = some (.materialized batches))
    (written : host.writeIpc batches = .ok file) (fresh : name ∉ gone)
    (later
      : Evicted host
          ((before.erase name).insert name
            (.spilled { file, bytes := host.batchesBytes batches }))
          after gone)
    : Evicted host before after (name :: gone) where
  spilled other member := by
    rcases List.mem_cons.mp member with rfl | inside
    · refine ⟨batches, file, found, written, ?_⟩
      rw [later.kept _ fresh, AList.lookup_insert]
    · have differs : other ≠ name := fun same => fresh (same ▸ inside)
      obtain ⟨others, disk, held, back, stored⟩ := later.spilled other inside
      rw [AList.lookup_insert_ne differs, AList.lookup_erase_ne differs] at held
      exact ⟨others, disk, held, back, stored⟩
  kept other absent := by
    rw [List.mem_cons, not_or] at absent
    rw [later.kept other absent.2, AList.lookup_insert_ne absent.1,
      AList.lookup_erase_ne absent.1]

/-- What is still to be sized stays resident while another relation goes to disk. -/
theorem held_after_spill {rest : List (String × Nat)} {name : String} {disk : SpilledBinding β}
    {bindings : Bindings β} (fresh : name ∉ rest.map Prod.fst)
    (held : ∀ entry ∈ rest, ∃ batches,
      bindings.lookup entry.1 = some (.materialized batches)
        ∧ entry.2 = host.batchesBytes batches)
    : ∀ entry ∈ rest, ∃ batches,
        ((bindings.erase name).insert name (.spilled disk)).lookup entry.1
            = some (.materialized batches)
          ∧ entry.2 = host.batchesBytes batches := by
  intro entry member
  have differs : entry.1 ≠ name := by
    intro same
    exact fresh (List.mem_map.mpr ⟨entry, member, same⟩)
  rw [AList.lookup_insert_ne differs, AList.lookup_erase_ne differs]
  exact held entry member

/-- A loop that succeeds has evicted a prefix of the sized names: each of its members because
what was left did not fit, and no further one once it did. Witness: induction over the names.
-/
theorem spillInOrder_evicted {sized : List (String × Nat)}
    (distinct : (sized.map Prod.fst).Nodup)
    (held : ∀ entry ∈ sized, ∃ batches,
      machine.bindings.lookup entry.1 = some (.materialized batches)
        ∧ entry.2 = host.batchesBytes batches)
    (ran : spillInOrder host incoming sized (totalBytes sized) machine = (.ok (), reached))
    : ∃ count,
        Evicted host machine.bindings reached.bindings ((sized.take count).map Prod.fst)
          ∧ (host.exceeds (saturatingAdd (totalBytes (sized.drop count)) incoming) = false
            ∨ count = sized.length)
          ∧ ∀ fewer < count,
              host.exceeds (saturatingAdd (totalBytes (sized.drop fewer)) incoming) = true := by
  induction sized generalizing machine with
  | nil =>
      cases ran
      exact ⟨0, Evicted.refl _, Or.inr rfl, by simp⟩
  | cons head rest ih =>
      obtain ⟨name, bytes⟩ := head
      unfold spillInOrder at ran
      by_cases exceeds : host.exceeds (saturatingAdd (totalBytes ((name, bytes) :: rest)) incoming)
      · obtain ⟨batches, found, _⟩ := held (name, bytes) (by simp)
        obtain ⟨fresh, others⟩ := List.nodup_cons.mp distinct
        rw [if_pos exceeds, Proc.bind_of_ok (takeSized_of_materialized found)] at ran
        cases written : host.writeIpc batches with
        | error failure =>
            rw [Proc.bind_of_error (spillTo_of_error written _ _)] at ran
            cases ran
        | ok file =>
            have left : totalBytes ((name, bytes) :: rest) - bytes = totalBytes rest := by
              simp [totalBytes]
            rw [Proc.bind_of_ok (spillTo_of_ok written _ _), left] at ran
            obtain ⟨count, evicted, stops, needed⟩ :=
              ih others (held_after_spill fresh (fun entry member =>
                held entry (List.mem_cons_of_mem _ member))) ran
            have absent : name ∉ (rest.take count).map Prod.fst := by
              intro member
              obtain ⟨entry, inside, same⟩ := List.mem_map.mp member
              exact fresh (List.mem_map.mpr ⟨entry, List.mem_of_mem_take inside, same⟩)
            refine ⟨count + 1, Evicted.cons found written absent evicted, ?_, ?_⟩
            · simpa using stops
            · intro fewer less
              cases fewer with
              | zero => exact exceeds
              | succ fewer => exact needed fewer (by omega)
      · rw [if_neg exceeds] at ran
        cases ran
        exact ⟨0, Evicted.refl _, Or.inl (by simpa using exceeds), by simp⟩

/-- A loop that fails could not write a resident relation to its file. -/
theorem spillInOrder_fails {sized : List (String × Nat)} {resident : Nat} {failure : PyErr}
    (distinct : (sized.map Prod.fst).Nodup)
    (held : ∀ entry ∈ sized, ∃ batches,
      machine.bindings.lookup entry.1 = some (.materialized batches)
        ∧ entry.2 = host.batchesBytes batches)
    (ran : spillInOrder host incoming sized resident machine = (.error failure, reached))
    : ∃ name batches cause,
        machine.bindings.lookup name = some (.materialized batches)
          ∧ host.writeIpc batches = .error cause ∧ failure = cause.toPy := by
  induction sized generalizing machine resident with
  | nil => cases ran
  | cons head rest ih =>
      obtain ⟨name, bytes⟩ := head
      unfold spillInOrder at ran
      split at ran
      · obtain ⟨batches, found, _⟩ := held (name, bytes) (by simp)
        obtain ⟨fresh, others⟩ := List.nodup_cons.mp distinct
        rw [Proc.bind_of_ok (takeSized_of_materialized found)] at ran
        cases written : host.writeIpc batches with
        | error cause =>
            rw [Proc.bind_of_error (spillTo_of_error written _ _)] at ran
            cases ran
            exact ⟨name, batches, cause, found, written, rfl⟩
        | ok file =>
            rw [Proc.bind_of_ok (spillTo_of_ok written _ _)] at ran
            obtain ⟨other, batches', cause, found', same⟩ :=
              ih others (held_after_spill fresh (fun entry member =>
                held entry (List.mem_cons_of_mem _ member))) ran
            have differs : other ≠ name := by
              intro same'
              subst same'
              rw [AList.lookup_insert] at found'
              cases found'
            rw [AList.lookup_insert_ne differs, AList.lookup_erase_ne differs] at found'
            exact ⟨other, batches', cause, found', same⟩
      · cases ran

end Loop

-----------------------------------------------------------------------------------------
-- Headroom
-----------------------------------------------------------------------------------------

section Headroom

variable {host : Host β} {machine reached : Machine σ β} {incoming budget : Nat}

/-- Saturation does not hide what a budget below it is exceeded by. -/
theorem exceeds_saturatingAdd (limited : host.residentBindingsBudget = some budget)
    (small : budget < usizeMax) (resident incoming : Nat)
    : host.exceeds (saturatingAdd resident incoming) = decide (budget < resident + incoming) := by
  have cap : budget < min (resident + incoming) usizeMax ↔ budget < resident + incoming := by
    omega
  simp [Host.exceeds, limited, saturatingAdd, cap]

/-- What evictions leave has the names it had. -/
theorem Evicted.names {before after : Bindings β} {gone : List String}
    (evicted : Evicted host before after gone) (name : String)
    : name ∈ after ↔ name ∈ before := by
  rw [← AList.lookup_isSome, ← AList.lookup_isSome]
  by_cases left : name ∈ gone
  · obtain ⟨batches, file, found, _, stored⟩ := evicted.spilled name left
    rw [found, stored]
    simp
  · rw [evicted.kept name left]

/-- The order of eviction is one of the resident relations by size. -/
theorem residentOrder (host : Host β) (bindings : Bindings β)
    : (((host.iterationOrder (residentSizes host bindings)).insertionSort
          (fun a b => b.2 ≤ a.2)).Perm (residentSizes host bindings))
      ∧ ((host.iterationOrder (residentSizes host bindings)).insertionSort
          (fun a b => b.2 ≤ a.2)).Pairwise (fun a b => b.2 ≤ a.2) := by
  constructor
  · exact (List.perm_insertionSort _ _).trans (host.iterationOrder_perm _)
  · exact List.pairwise_insertionSort _ _

/-- Making room that succeeds evicts the largest resident relations, no more than needed. -/
theorem spillForHeadroom_roomed (limited : host.residentBindingsBudget = some budget)
    (small : budget < usizeMax)
    (ran : spillForHeadroom host incoming machine = (.ok (), reached))
    : Roomed host budget incoming machine.bindings reached.bindings := by
  obtain ⟨distinct, held⟩ := residentSizes_spec host machine.bindings
  obtain ⟨perm, sorted⟩ := residentOrder host machine.bindings
  simp only [spillForHeadroom, Proc.get_bind_apply] at ran
  have total
      : ((host.iterationOrder (residentSizes host machine.bindings)).map Prod.snd).sum
        = totalBytes ((host.iterationOrder (residentSizes host machine.bindings)).insertionSort
            (fun a b => b.2 ≤ a.2)) :=
    ((List.perm_insertionSort _ _).map Prod.snd).sum_nat.symm
  rw [total] at ran
  generalize (host.iterationOrder (residentSizes host machine.bindings)).insertionSort
    (fun a b => b.2 ≤ a.2) = order at ran perm sorted
  obtain ⟨count, evicted, stops, needed⟩ :=
    spillInOrder_evicted ((perm.map Prod.fst).nodup_iff.mpr distinct)
      (fun entry member => held entry (perm.mem_iff.mp member)) ran
  constructor
  · exact evicted.names
  · intro name binding found untouched
    rw [evicted.kept name ?_, found]
    intro gone
    obtain ⟨batches, _, resident, _⟩ := evicted.spilled name gone
    rw [found] at resident
    cases resident
    exact untouched batches rfl
  · intro name batches found
    by_cases gone : name ∈ (order.take count).map Prod.fst
    · obtain ⟨others, file, resident, written, stored⟩ := evicted.spilled name gone
      rw [found] at resident
      cases resident
      exact Or.inr ⟨file, written, stored⟩
    · exact Or.inl ((evicted.kept name gone).trans found)
  · refine ⟨order, count, perm, sorted, evicted, ?_, ?_⟩
    · rcases stops with fits | all
      · rw [exceeds_saturatingAdd limited small] at fits
        exact Or.inl (by simpa using fits)
      · exact Or.inr all
    · intro fewer less
      have exceeds := needed fewer less
      rw [exceeds_saturatingAdd limited small] at exceeds
      simpa using exceeds

/-- Making room fails only where a resident relation cannot be written. -/
theorem spillForHeadroom_fails {failure : PyErr}
    (ran : spillForHeadroom host incoming machine = (.error failure, reached))
    : ∃ name batches cause,
        machine.bindings.lookup name = some (.materialized batches)
          ∧ host.writeIpc batches = .error cause ∧ failure = cause.toPy := by
  obtain ⟨distinct, held⟩ := residentSizes_spec host machine.bindings
  obtain ⟨perm, _⟩ := residentOrder host machine.bindings
  simp only [spillForHeadroom, Proc.get_bind_apply] at ran
  exact spillInOrder_fails ((perm.map Prod.fst).nodup_iff.mpr distinct)
    (fun entry member => held entry (perm.mem_iff.mp member)) ran

end Headroom

-----------------------------------------------------------------------------------------
-- Storing
-----------------------------------------------------------------------------------------

section Storing

variable {host : Host β} {machine reached : Machine σ β} {budget : Nat}

/-- The bytes of the relations that bindings keep in memory. -/
def residentBytes (host : Host β) (bindings : Bindings β) : Nat :=
  totalBytes (residentSizes host bindings)

/-- The bytes a binding keeps in memory as a relation. -/
def Binding.resident (host : Host β) : Binding β → Nat
  | .materialized batches => host.batchesBytes batches
  | .keys _ | .lazy _ | .spilled _ => 0

/-- The bytes of a list of entries, entry by entry. -/
theorem residentBytes_eq (host : Host β) (bindings : Bindings β)
    : residentBytes host bindings
      = (bindings.entries.map (fun entry => entry.2.resident host)).sum := by
  unfold residentBytes residentSizes totalBytes
  induction bindings.entries with
  | nil => rfl
  | cons entry rest ih =>
      obtain ⟨name, binding⟩ := entry
      cases binding with
      | materialized batches => simpa [Binding.resident] using ih
      | keys | lazy | spilled => simpa [Binding.resident] using ih

/-- Taking a name out never adds to the bytes. -/
theorem residentBytes_erase_le (host : Host β) (bindings : Bindings β) (name : String)
    : residentBytes host (bindings.erase name) ≤ residentBytes host bindings := by
  rw [residentBytes_eq, residentBytes_eq]
  exact List.Sublist.sum_le_sum ((List.kerase_sublist name bindings.entries).map _)
    (fun _ _ => Nat.zero_le _)

/-- A name's new binding adds its bytes to what the other names keep. -/
theorem residentBytes_insert (host : Host β) (bindings : Bindings β) (name : String)
    (binding : Binding β)
    : residentBytes host (bindings.insert name binding)
      = binding.resident host + residentBytes host (bindings.erase name) := by
  rw [residentBytes_eq, residentBytes_eq]
  rfl

/-- The sized relations are the resident ones. -/
theorem mem_residentSizes {bindings : Bindings β} {entry : String × Nat}
    : entry ∈ residentSizes host bindings
      ↔ ∃ batches, bindings.lookup entry.1 = some (.materialized batches)
          ∧ entry.2 = host.batchesBytes batches := by
  constructor
  · exact (residentSizes_spec host bindings).2 entry
  · intro held
    obtain ⟨batches, found, bytes⟩ := held
    refine List.mem_filterMap.mpr ⟨⟨entry.1, _⟩, AList.mem_lookup_iff.mp found, ?_⟩
    simp [← bytes]

/-- What evictions leave resident is what was not evicted. -/
theorem Evicted.residentSizes_perm {before after : Bindings β} {order : List (String × Nat)}
    {count : Nat} (perm : order.Perm (residentSizes host before))
    (evicted : Evicted host before after ((order.take count).map Prod.fst))
    : (residentSizes host after).Perm (order.drop count) := by
  have distinct : (order.map Prod.fst).Nodup :=
    (perm.map Prod.fst).nodup_iff.mpr (residentSizes_spec host before).1
  have apart (entry : String × Nat) (inside : entry ∈ order.drop count)
      : entry.1 ∉ (order.take count).map Prod.fst := by
    intro gone
    have split : (order.take count).map Prod.fst ++ (order.drop count).map Prod.fst
        = order.map Prod.fst := by
      rw [← List.map_append, List.take_append_drop]
    rw [← split] at distinct
    exact (List.nodup_append.mp distinct).2.2 entry.1 gone entry.1
      (List.mem_map_of_mem inside) rfl
  refine (List.perm_ext_iff_of_nodup ?_ ?_).mpr ?_
  · exact List.Nodup.of_map _ (residentSizes_spec host after).1
  · exact (List.drop_sublist count order).nodup (List.Nodup.of_map _ distinct)
  intro entry
  rw [mem_residentSizes]
  constructor
  · intro held
    obtain ⟨batches, found, bytes⟩ := held
    by_cases gone : entry.1 ∈ (order.take count).map Prod.fst
    · obtain ⟨_, _, _, _, stored⟩ := evicted.spilled entry.1 gone
      rw [found] at stored
      cases stored
    · rw [evicted.kept entry.1 gone] at found
      have inside : entry ∈ order :=
        perm.mem_iff.mpr (mem_residentSizes.mpr ⟨batches, found, bytes⟩)
      rw [← List.take_append_drop count order, List.mem_append] at inside
      rcases inside with first | later
      · exact absurd (List.mem_map_of_mem first) gone
      · exact later
  · intro inside
    obtain ⟨batches, found, bytes⟩ :=
      mem_residentSizes.mp (perm.mem_iff.mp (List.mem_of_mem_drop inside))
    exact ⟨batches, (evicted.kept entry.1 (apart entry inside)).trans found, bytes⟩

/-- Room made is room for the incoming relation, or all there is. -/
theorem Roomed.fits {before after : Bindings β} {incoming : Nat}
    (roomed : Roomed host budget incoming before after)
    : residentBytes host after + incoming ≤ budget ∨ residentBytes host after = 0 := by
  obtain ⟨order, count, perm, _, evicted, stops, _⟩ := roomed.largest
  have left : residentBytes host after = totalBytes (order.drop count) :=
    ((evicted.residentSizes_perm perm).map Prod.snd).sum_nat
  rw [left]
  rcases stops with fits | all
  · exact Or.inl fits
  · right
    rw [all, List.drop_length]
    rfl

/-- After storing, the resident relations fit the budget, and the name stands for what was
stored.
-/
theorem storeRelation_fits (limited : host.residentBindingsBudget = some budget)
    (small : budget < usizeMax) {name : String} {batches : β}
    (ran : storeRelation host name batches machine = (.ok (), reached))
    : residentBytes host reached.bindings ≤ budget
      ∧ (reached.bindings.lookup name = some (.materialized batches)
        ∨ ∃ file, host.writeIpc batches = .ok file
            ∧ reached.bindings.lookup name
              = some (.spilled { file, bytes := host.batchesBytes batches })) := by
  obtain ⟨_, roomed, made, stored⟩ := Proc.bind_eq_ok.mp ran
  have fits := (spillForHeadroom_roomed limited small made).fits
  have erased := residentBytes_erase_le host roomed.bindings name
  by_cases exceeds : host.exceeds (host.batchesBytes batches) = true
  · rw [if_pos exceeds] at stored
    cases written : host.writeIpc batches with
    | error failure =>
        rw [spillTo_of_error written] at stored
        cases stored
    | ok file =>
        rw [spillTo_of_ok written] at stored
        cases stored
        refine ⟨?_, Or.inr ⟨file, rfl, AList.lookup_insert _⟩⟩
        rw [residentBytes_insert]
        simp only [Binding.resident]
        omega
  · rw [if_neg exceeds] at stored
    cases stored
    refine ⟨?_, Or.inl (AList.lookup_insert _)⟩
    have small' : host.batchesBytes batches ≤ budget := by
      simpa [Host.exceeds, limited] using exceeds
    rw [residentBytes_insert]
    simp only [Binding.resident]
    omega

end Storing

/-- The policy of the engine's budget. Making room evicts the largest relations, no more than
needed, and fails only where one cannot be written; so a relation that is stored is
there, in memory or on disk, and what is in memory fits the budget.
-/
theorem spill_policy (host : Host β) (limited : host.residentBindingsBudget = some residentBudget)
    (machine : Machine σ β)
    : (∀ incoming reached, spillForHeadroom host incoming machine = (.ok (), reached)
        → Roomed host residentBudget incoming machine.bindings reached.bindings)
      ∧ (∀ incoming failure reached,
          spillForHeadroom host incoming machine = (.error failure, reached)
            → ∃ name batches cause,
                machine.bindings.lookup name = some (.materialized batches)
                  ∧ host.writeIpc batches = .error cause ∧ failure = cause.toPy)
      ∧ ∀ name batches reached, storeRelation host name batches machine = (.ok (), reached)
          → residentBytes host reached.bindings ≤ residentBudget
            ∧ (reached.bindings.lookup name = some (.materialized batches)
              ∨ ∃ file, host.writeIpc batches = .ok file
                  ∧ reached.bindings.lookup name
                    = some (.spilled { file, bytes := host.batchesBytes batches })) := by
  have small : residentBudget < usizeMax := by decide
  refine ⟨?_, ?_, ?_⟩
  · intro incoming reached ran
    exact spillForHeadroom_roomed limited small ran
  · intro incoming failure reached ran
    exact spillForHeadroom_fails ran
  · intro name batches reached ran
    exact storeRelation_fits limited small ran

/-- Relations that are their sizes, under the engine's budget. -/
def sizedHost : Host Nat where
  batchesBytes := id
  residentBindingsBudget := some residentBudget
  iterationOrder := id
  iterationOrder_perm := List.Perm.refl
  writeIpc := .ok

def gibibyte : Nat := 1024 * 1024 * 1024

/-- Two resident relations of three and twelve gibibytes. -/
def crowded : Machine Unit Nat where
  bindings :=
    ((∅ : Bindings Nat).insert "small" (.materialized (3 * gibibyte))).insert "large"
      (.materialized (12 * gibibyte))
  remaining := ∅
  files := []
  source := ()

theorem spill_policy_crowded
    : ∃ reached,
        storeRelation sizedHost "next" (2 * gibibyte) crowded = (.ok (), reached)
          ∧ residentBytes sizedHost reached.bindings ≤ residentBudget := by
  obtain ⟨reached, ran⟩
      : ∃ reached, storeRelation sizedHost "next" (2 * gibibyte) crowded = (.ok (), reached) :=
    ⟨_, rfl⟩
  exact ⟨reached, ran, ((spill_policy sizedHost rfl crowded).2.2 _ _ _ ran).1⟩

end Fedqrs
