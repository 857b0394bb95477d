import Fedqrs.Correctness.StreamOwnership
import Mathlib.Logic.Relation

/-! A stream gives the batches that it was created over, in order and each once, however often it
was imported and exported again; and what a reader reads no other reader reads, as readers are not
exposed again.
-/

namespace Fedqrs

open Relation

variable {β : Type} {boundary : Boundary β}

/-- A stream is behind the reader of another. -/
def Boundary.Behind (boundary : Boundary β) (outer inner : Ptr) : Prop :=
  boundary.held (.inside outer) = some inner

theorem Boundary.behind_of_imported {outer inner : Ptr}
    (reads : boundary.readers outer = some (.imported inner))
    : boundary.Behind outer inner := by
  rw [Boundary.Behind, Boundary.held, reads]
  rfl

/-- What was given begins what the stream was created over. -/
theorem Told.given_prefix (told : Told boundary) {stream : Ptr} {items : List β}
    (member : (stream, items) ∈ boundary.created)
    : boundary.given stream <+: items := by
  obtain ⟨rest, whole, _⟩ := told.split stream items member
  exact ⟨rest, whole.symm⟩

/-- A read gives the next batch of the stream that is behind all others, by induction on the fuel.
-/
theorem Intact.nextWith (intact : Intact none boundary) {fuel : Nat} {stream : Ptr}
    (live : boundary.Live stream) (readable : boundary.Readable stream) (enough : stream < fuel)
    : ∃ base items, (base, items) ∈ boundary.created
        ∧ ReflTransGen boundary.Behind stream base
        ∧ (nextWith fuel stream boundary).1 = items[(boundary.given base).length]?
        ∧ (Fedqrs.nextWith fuel stream boundary).2.given base
          = items.take ((boundary.given base).length + 1)
        ∧ ∀ other, other ≠ base
          → (Fedqrs.nextWith fuel stream boundary).2.given other = boundary.given other := by
  induction fuel generalizing stream with
  | zero => exact absurd enough (Nat.not_lt_zero stream)
  | succ fuel ih =>
      rw [Fedqrs.nextWith]
      cases reads : boundary.readers stream with
      | none => exact absurd reads live
      | some reader =>
          cases reader with
          | invalid failure => exact absurd reads (readable failure)
          | imported inner =>
              have behind := Boundary.behind_of_imported reads
              have younger := intact.owned.older stream inner behind
              obtain ⟨base, items, member, chain, answer⟩ :=
                ih (intact.owned.placed.alive _ inner behind)
                  (intact.told.within stream inner reads)
                  (Nat.lt_of_lt_of_le younger (Nat.le_of_lt_succ enough))
              exact ⟨base, items, member, .head behind chain, answer⟩
          | batches rest =>
              obtain ⟨items, member⟩ := intact.told.known stream rest reads
              obtain ⟨left, whole, same⟩ := intact.told.split stream items member
              cases StreamReader.batches.inj (same _ reads)
              refine ⟨stream, items, member, .refl, ?_⟩
              cases rest with
              | nil =>
                  rw [List.append_nil] at whole
                  refine ⟨?_, ?_, fun other _ => rfl⟩
                  · rw [← whole]
                    exact (List.getElem?_eq_none (Nat.le_refl _)).symm
                  · rw [← whole]
                    exact (List.take_of_length_le (Nat.le_succ _)).symm
              | cons batch rest =>
                  refine ⟨?_, ?_, ?_⟩
                  · rw [whole, List.getElem?_append_right (Nat.le_refl _), Nat.sub_self]
                    rfl
                  · refine (given_more boundary stream stream batch _).trans ?_
                    rw [if_pos rfl, whole, List.take_length_add_append]
                    rfl
                  · intro other different
                    refine (given_more boundary stream other batch _).trans ?_
                    exact if_neg (fun equal => different equal.symm)

/-- Two readers that read the same stream are one: the stream behind has one owner. -/
theorem Owned.reader_once (owned : Owned none boundary) {id other : Nat} {stream again base : Ptr}
    (here : boundary.held (.object id) = some stream)
    (there : boundary.held (.object other) = some again)
    (chain : ReflTransGen boundary.Behind stream base)
    (second : ReflTransGen boundary.Behind again base)
    : id = other := by
  have unique : Relator.RightUnique (Function.swap boundary.Behind) := by
    intro inner outer outer' first next
    exact Place.inside.inj (owned.placed.once _ _ inner first next)
  have apart : ∀ {place : Nat} {top low : Ptr}, boundary.held (.object place) = some low
      → ReflTransGen boundary.Behind top low → top = low := by
    intro place top low held along
    rcases ReflTransGen.cases_tail along with same | ⟨outer, _, last⟩
    · exact same.symm
    · have clash : Place.inside outer = Place.object place := owned.placed.once _ _ low last held
      cases clash
  have joined : stream = again := by
    rcases ReflTransGen.total_of_right_unique unique (reflTransGen_swap.mpr chain)
      (reflTransGen_swap.mpr second) with along | along
    · exact (apart here (reflTransGen_swap.mp along)).symm
    · exact apart there (reflTransGen_swap.mp along)
  rw [← joined] at there
  exact Place.object.inj (owned.placed.once _ _ stream here there)

/-- In every run of a Python program what a stream has given begins the batches it was created
over; a reader is at the end of a chain of exports over such a stream, it gives the next batch of
these and their end after the last, and nothing else is given by that; and no two readers are over
one stream.
-/
theorem streams_delivered (released : String) (calls : List (StreamCall β))
    : let boundary := runCalls released calls .empty
      (∀ stream items, (stream, items) ∈ boundary.created → boundary.given stream <+: items)
        ∧ (∀ id stream, boundary.objects id = some (.reader stream)
          → ∃ base items, (base, items) ∈ boundary.created
            ∧ ReflTransGen boundary.Behind stream base
            ∧ (readNext id boundary).1 = .ok items[(boundary.given base).length]?
            ∧ (readNext id boundary).2.given base
              = items.take ((boundary.given base).length + 1)
            ∧ ∀ other, other ≠ base
              → (readNext id boundary).2.given other = boundary.given other)
        ∧ ∀ id other stream again base, boundary.objects id = some (.reader stream)
          → boundary.objects other = some (.reader again)
          → ReflTransGen boundary.Behind stream base
          → ReflTransGen boundary.Behind again base
          → id = other := by
  intro boundary
  have intact : Intact none boundary :=
    runCalls_keeps released (fun call => run_moves released call) calls ⟨owned_empty, told_empty⟩
  have holds : ∀ {id stream}, boundary.objects id = some (.reader stream)
      → boundary.held (.object id) = some stream := by
    intro id stream there
    rw [Boundary.held, there]
    rfl
  refine ⟨fun stream items member => intact.told.given_prefix member, ?_, ?_⟩
  · intro id stream there
    obtain ⟨base, items, member, chain, answer, given, others⟩ :=
      intact.nextWith (intact.owned.placed.alive _ stream (holds there))
        (intact.told.opened id stream there) (Nat.lt_succ_self stream)
    have ran : readNext id boundary = (.ok (nextWith (stream + 1) stream boundary).1,
        (nextWith (stream + 1) stream boundary).2) := by
      unfold readNext
      rw [Proc.get_bind_apply, there]
    rw [ran]
    exact ⟨base, items, member, chain, congrArg Except.ok answer, given, others⟩
  · intro id other stream again base here there chain second
    exact intact.owned.reader_once (holds here) (holds there) chain second

end Fedqrs
