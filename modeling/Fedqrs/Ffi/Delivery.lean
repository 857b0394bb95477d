import Fedqrs.Ffi.Ownership

/-! What the streams of the boundary give: of the batches that a stream was created over, some were
given and the reader has the rest. Each operation on a stream or an object keeps that.
-/

namespace Fedqrs

variable {β : Type}

/-- The batches that a stream has given. -/
def Boundary.given (boundary : Boundary β) (stream : Ptr) : List β :=
  (boundary.delivered.filter (fun item => item.1 = stream)).map Prod.snd

/-- The stream has a schema to give. -/
def Boundary.Readable (boundary : Boundary β) (stream : Ptr) : Prop :=
  ∀ failure, boundary.readers stream ≠ some (.invalid failure)

/-- Each stream over batches has given the first of them and has the rest, and what is read is
readable.
-/
structure Told (boundary : Boundary β) : Prop where
  known : ∀ stream rest, boundary.readers stream = some (.batches rest)
    → ∃ items, (stream, items) ∈ boundary.created
  split : ∀ stream items, (stream, items) ∈ boundary.created
    → ∃ rest, items = boundary.given stream ++ rest
      ∧ ∀ reader, boundary.readers stream = some reader → reader = .batches rest
  made : ∀ stream items, (stream, items) ∈ boundary.created → stream < boundary.nextPtr
  unheard : ∀ stream, boundary.nextPtr ≤ stream → boundary.given stream = []
  within : ∀ outer inner, boundary.readers outer = some (.imported inner)
    → boundary.Readable inner
  opened : ∀ id stream, boundary.objects id = some (.reader stream) → boundary.Readable stream

theorem told_empty : Told (Boundary.empty : Boundary β) where
  known stream rest reads := by cases reads
  split stream items member := by cases member
  made stream items member := by cases member
  unheard stream _ := rfl
  within outer inner reads := by cases reads
  opened id stream there := by cases there

section Operations

variable {moved : Stream} {boundary : Boundary β}

/-- A reader object may be made over a readable stream. -/
theorem Told.setObject (told : Told boundary) {id count : Nat} {object : Option Object}
    (readable : ∀ stream, object = some (.reader stream) → boundary.Readable stream)
    : Told
        { boundary with objects := Function.update boundary.objects id object, nextObject := count }
    where
  known := told.known
  split := told.split
  made := told.made
  unheard := told.unheard
  within := told.within
  opened other stream there := by
    change Function.update boundary.objects id object other = some (.reader stream) at there
    by_cases same : other = id
    · subst same
      rw [Function.update_self] at there
      exact readable stream there
    · rw [Function.update_of_ne same] at there
      exact told.opened other stream there

/-- A stream is made over a readable stream, or over batches of which none was given. -/
theorem Told.newStream (told : Told boundary) (owned : Owned moved boundary)
    {reader : StreamReader β} (holds : reader.inner = moved)
    (readable : ∀ inner, reader = .imported inner → boundary.Readable inner)
    : Told (Fedqrs.newStream reader boundary).2 := by
  have others : ∀ stream, stream ≠ boundary.nextPtr
      → (Fedqrs.newStream reader boundary).2.readers stream = boundary.readers stream :=
    fun stream other => Function.update_of_ne other _ _
  have itself : (Fedqrs.newStream reader boundary).2.readers boundary.nextPtr = some reader :=
    Function.update_self _ _ _
  have older : ∀ place stream, boundary.held place = some stream → stream ≠ boundary.nextPtr := by
    rintro place stream held rfl
    exact owned.unused (owned.placed.alive place _ held)
  have created : ∀ stream items, (stream, items) ∈ (Fedqrs.newStream reader boundary).2.created
      ↔ (stream, items) ∈ boundary.created
        ∨ (stream = boundary.nextPtr ∧ reader = .batches items) := by
    intro stream items
    cases reader with
    | batches rest =>
        change (stream, items) ∈ boundary.created ++ [(boundary.nextPtr, rest)] ↔ _
        rw [List.mem_append, List.mem_singleton, Prod.mk.injEq, StreamReader.batches.injEq,
          eq_comm (a := items)]
    | imported inner => exact (or_iff_left (fun made => by cases made.2)).symm
    | invalid failure => exact (or_iff_left (fun made => by cases made.2)).symm
  have still : ∀ stream, stream ≠ boundary.nextPtr → boundary.Readable stream
      → (Fedqrs.newStream reader boundary).2.Readable stream := by
    intro stream other before failure
    rw [others stream other]
    exact before failure
  refine ⟨?_, ?_, ?_, ?_, ?_, ?_⟩
  · intro stream rest reads
    by_cases same : stream = boundary.nextPtr
    · subst same
      rw [itself] at reads
      exact ⟨rest, (created _ _).mpr (Or.inr ⟨rfl, Option.some.inj reads⟩)⟩
    · rw [others stream same] at reads
      obtain ⟨items, member⟩ := told.known stream rest reads
      exact ⟨items, (created _ _).mpr (Or.inl member)⟩
  · intro stream items member
    rcases (created stream items).mp member with before | ⟨rfl, made⟩
    · obtain ⟨rest, whole, reads⟩ := told.split stream items before
      refine ⟨rest, whole, ?_⟩
      rw [others stream (Nat.ne_of_lt (told.made stream items before))]
      exact reads
    · refine ⟨items, ?_, ?_⟩
      · have none : boundary.given boundary.nextPtr = [] := told.unheard _ (Nat.le_refl _)
        change items = boundary.given boundary.nextPtr ++ items
        rw [none, List.nil_append]
      · intro other reads
        rw [itself] at reads
        rw [← Option.some.inj reads, made]
  · intro stream items member
    rcases (created stream items).mp member with before | ⟨rfl, _⟩
    · exact Nat.lt_succ_of_lt (told.made stream items before)
    · exact Nat.lt_succ_self _
  · intro stream beyond
    exact told.unheard stream (Nat.le_of_succ_le beyond)
  · intro outer inner reads
    by_cases same : outer = boundary.nextPtr
    · subst same
      rw [itself] at reads
      cases Option.some.inj reads
      refine still inner ?_ (readable inner rfl)
      rintro rfl
      exact owned.unused (owned.placed.loose _ holds.symm).1
    · rw [others outer same] at reads
      refine still inner (older (.inside outer) inner ?_) (told.within outer inner reads)
      rw [Boundary.held, reads]
      rfl
  · intro id stream there
    refine still stream (older (.object id) stream ?_) (told.opened id stream there)
    rw [Boundary.held, show boundary.objects id = _ from there]
    rfl

/-- Releasing a stream leaves the others, by induction on the fuel. -/
theorem Told.release {fuel : Nat} {stream : Ptr} (told : Told boundary)
    : Told (releaseWith fuel stream boundary) := by
  induction fuel generalizing stream boundary with
  | zero => exact told
  | succ fuel ih =>
      let after : Boundary β :=
        {
          boundary with
          readers := Function.update boundary.readers stream none
          released := boundary.released ++ [stream]
        }
      have before : ∀ other reader, after.readers other = some reader
          → boundary.readers other = some reader := by
        intro other reader reads
        by_cases same : other = stream
        · subst same
          rw [show after.readers other = none from Function.update_self _ _ _] at reads
          cases reads
        · rw [show after.readers other = _ from Function.update_of_ne same _ _] at reads
          exact reads
      have still : ∀ other, boundary.Readable other → after.Readable other :=
        fun other readable failure reads => readable failure (before other _ reads)
      have freed : Told after := by
        refine ⟨?_, ?_, told.made, told.unheard, ?_, ?_⟩
        · intro other rest reads
          exact told.known other rest (before other _ reads)
        · intro other items member
          obtain ⟨rest, whole, reads⟩ := told.split other items member
          exact ⟨rest, whole, fun reader there => reads reader (before other reader there)⟩
        · intro outer inner reads
          exact still inner (told.within outer inner (before outer _ reads))
        · intro id other there
          exact still other (told.opened id other there)
      rw [releaseWith]
      cases boundary.readers stream with
      | none => exact freed
      | some reader =>
          cases reader with
          | batches | invalid => exact freed
          | imported inner => exact ih freed

/-- What a stream has given once a stream gave one more. -/
theorem given_more (boundary : Boundary β) (stream other : Ptr) (batch : β)
    (readers : Ptr → Option (StreamReader β))
    : ({
        boundary with
        readers
        delivered := boundary.delivered ++ [(stream, batch)]
      } : Boundary β).given other
      = if stream = other then boundary.given other ++ [batch] else boundary.given other := by
  by_cases same : stream = other
  · simp [Boundary.given, List.filter_append, same]
  · simp [Boundary.given, List.filter_append, same]

/-- The first batch of the rest is given. -/
theorem Told.taken (told : Told boundary) {stream : Ptr} {batch : β} {rest : List β}
    (reads : boundary.readers stream = some (.batches (batch :: rest)))
    : Told
        { boundary with
          readers := Function.update boundary.readers stream (some (.batches rest))
          delivered := boundary.delivered ++ [(stream, batch)] } := by
  let after : Boundary β :=
    {
      boundary with
      readers := Function.update boundary.readers stream (some (.batches rest))
      delivered := boundary.delivered ++ [(stream, batch)]
    }
  have itself : after.readers stream = some (.batches rest) := Function.update_self _ _ _
  have others : ∀ other, other ≠ stream → after.readers other = boundary.readers other :=
    fun other different => Function.update_of_ne different _ _
  have given : ∀ other, after.given other
      = if stream = other then boundary.given other ++ [batch] else boundary.given other :=
    fun other => given_more boundary stream other batch _
  have still : ∀ other, boundary.Readable other → after.Readable other := by
    intro other readable failure broken
    by_cases same : other = stream
    · subst same
      rw [itself] at broken
      cases broken
    · rw [others other same] at broken
      exact readable failure broken
  refine ⟨?_, ?_, told.made, ?_, ?_, ?_⟩
  · intro other left there
    by_cases same : other = stream
    · subst same
      exact told.known other _ reads
    · rw [show _ = boundary.readers other from others other same] at there
      exact told.known other left there
  · intro other items member
    obtain ⟨left, whole, there⟩ := told.split other items member
    by_cases same : other = stream
    · subst same
      cases StreamReader.batches.inj (there _ reads)
      refine ⟨rest, ?_, ?_⟩
      · rw [show _ = boundary.given other ++ [batch] from (given other).trans (if_pos rfl),
          List.append_assoc]
        exact whole
      · intro reader now
        rw [show _ = some (StreamReader.batches rest) from itself] at now
        exact (Option.some.inj now).symm
    · refine ⟨left, ?_, ?_⟩
      · rw [show _ = boundary.given other
          from (given other).trans (if_neg (fun equal => same equal.symm))]
        exact whole
      · intro reader now
        rw [show _ = boundary.readers other from others other same] at now
        exact there reader now
  · intro other beyond
    have different : stream ≠ other := by
      rintro rfl
      obtain ⟨items, member⟩ := told.known stream _ reads
      exact absurd (told.made stream items member) (Nat.not_lt.mpr beyond)
    rw [show _ = boundary.given other from (given other).trans (if_neg different)]
    exact told.unheard other beyond
  · intro outer inner there
    by_cases same : outer = stream
    · subst same
      rw [show _ = some (StreamReader.batches rest) from itself] at there
      cases there
    · rw [show _ = boundary.readers outer from others outer same] at there
      exact still inner (told.within outer inner there)
  · intro id other there
    exact still other (told.opened id other there)

/-- Reading takes the first batch of the rest, by induction on the fuel. -/
theorem Told.read (told : Told boundary) (fuel : Nat) (stream : Ptr)
    : Told (nextWith fuel stream boundary).2 := by
  induction fuel generalizing stream with
  | zero => exact told
  | succ fuel ih =>
      rw [nextWith]
      cases reads : boundary.readers stream with
      | none => exact told
      | some reader =>
          cases reader with
          | imported inner => exact ih inner
          | invalid failure => exact told
          | batches rest =>
              cases rest with
              | nil => exact told
              | cons batch rest =>
                  exact told.taken reads

end Operations

end Fedqrs
