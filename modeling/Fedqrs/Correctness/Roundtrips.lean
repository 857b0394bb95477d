import Fedqrs.Correctness.StreamOwnership

/-! Importing a stream and exporting it again cannot be told from the stream: a consumer reads the
same batches, however often that was done.
-/

namespace Fedqrs

variable {β : Type} {boundary : Boundary β}

/-- The stream that an object exposes. -/
def Boundary.exposed (boundary : Boundary β) (id : Nat) : Stream :=
  match boundary.objects id with
  | some (.streamExport inner) => inner
  | some (.source capsule) =>
      match boundary.objects capsule with
      | some (.capsule stream) => stream
      | some (.streamExport _) | some (.source _) | some (.reader _) | some .plain | none => none
  | some (.capsule _) | some (.reader _) | some .plain | none => none

/-- The batches that a stream has still to give, behind any number of exports. -/
inductive Boundary.Serves (boundary : Boundary β) : Ptr → List β → Prop
  | batches {stream : Ptr} {rest : List β}
      (reads : boundary.readers stream = some (.batches rest))
      : Serves boundary stream rest
  | imported {outer inner : Ptr} {rest : List β}
      (reads : boundary.readers outer = some (.imported inner))
      (serves : Serves boundary inner rest)
      : Serves boundary outer rest

/-- Import an object's stream and export it again, some number of times. -/
def roundtrips (released : String) : Nat → Nat → BoundaryM β Nat
  | 0, id => pure id
  | times + 1, id => do
      let again ← roundtrip released id
      roundtrips released times again

/-- Ask a reader for its next batch, some number of times. -/
def readTurns : Nat → Nat → BoundaryM β (List (Option β))
  | 0, _ => pure []
  | count + 1, id => do
      let next ← readNext id
      let rest ← readTurns count id
      pure (next :: rest)

/-- Read from an object's stream after some number of round trips. -/
def readThrough (released : String) (times count id : Nat) : BoundaryM β (List (Option β)) := do
  let again ← roundtrips released times id
  let reader ← readerOf released again
  readTurns count reader

-----------------------------------------------------------------------------------------
-- What a stream serves
-----------------------------------------------------------------------------------------

section Serving

/-- A live stream serves batches unless it has no schema, by induction on the older streams. -/
theorem Intact.serves {moved : Stream} (intact : Intact moved boundary) {stream bound : Ptr}
    (older : stream < bound) (live : boundary.Live stream) (readable : boundary.Readable stream)
    : ∃ rest, boundary.Serves stream rest := by
  induction bound generalizing stream with
  | zero => exact absurd older (Nat.not_lt_zero stream)
  | succ bound ih =>
      cases reads : boundary.readers stream with
      | none => exact absurd reads live
      | some reader =>
          cases reader with
          | batches rest => exact ⟨rest, .batches reads⟩
          | invalid failure => exact absurd reads (readable failure)
          | imported inner =>
              have held : boundary.held (.inside stream) = some inner := by
                rw [Boundary.held, reads]
                rfl
              have younger := intact.owned.older stream inner held
              obtain ⟨rest, serves⟩ :=
                ih (Nat.lt_of_lt_of_le younger (Nat.le_of_lt_succ older))
                  (intact.owned.placed.alive _ inner held)
                  (intact.told.within stream inner reads)
              exact ⟨rest, .imported reads serves⟩

/-- An export exposes what it holds, and a source what its capsule holds. -/
theorem Boundary.exposed_cases {id : Nat} {stream : Ptr}
    (exposed : boundary.exposed id = some stream)
    : boundary.objects id = some (.streamExport (some stream))
      ∨ ∃ capsule, boundary.objects id = some (.source capsule)
        ∧ boundary.objects capsule = some (.capsule (some stream)) := by
  unfold Boundary.exposed at exposed
  cases there : boundary.objects id with
  | none =>
      rw [there] at exposed
      cases exposed
  | some object =>
      rw [there] at exposed
      cases object with
      | capsule | reader | plain => cases exposed
      | streamExport inner =>
          cases exposed
          exact Or.inl rfl
      | source capsule =>
          refine Or.inr ⟨capsule, rfl, ?_⟩
          dsimp only at exposed
          cases holds : boundary.objects capsule with
          | none =>
              rw [holds] at exposed
              cases exposed
          | some handed =>
              rw [holds] at exposed
              cases handed with
              | streamExport | source | reader | plain => cases exposed
              | capsule inner =>
                  cases exposed
                  rfl

theorem Boundary.held_of_exposed {id : Nat} {stream : Ptr}
    (exposed : boundary.exposed id = some stream)
    : ∃ place, boundary.held place = some stream := by
  rcases Boundary.exposed_cases exposed with there | ⟨capsule, _, there⟩
  · refine ⟨.object id, ?_⟩
    rw [Boundary.held, there]
    rfl
  · refine ⟨.object capsule, ?_⟩
    rw [Boundary.held, there]
    rfl

/-- A stream serves what it served while the readers stay, by induction on what it serves. -/
theorem Boundary.Serves.mono {after : Boundary β} {stream : Ptr} {rest : List β}
    (serves : boundary.Serves stream rest)
    (kept : ∀ other reader, boundary.readers other = some reader
      → after.readers other = some reader)
    : after.Serves stream rest := by
  induction serves with
  | batches reads => exact .batches (kept _ _ reads)
  | imported reads _ ih => exact .imported (kept _ _ reads) ih

/-- Reading changes no reader over an imported stream, by induction on the fuel. -/
theorem nextWith_imported {fuel : Nat} {stream outer inner : Ptr}
    (reads : boundary.readers outer = some (.imported inner))
    : (nextWith fuel stream boundary).2.readers outer = some (.imported inner) := by
  induction fuel generalizing stream with
  | zero => exact reads
  | succ fuel ih =>
      rw [nextWith]
      cases there : boundary.readers stream with
      | none => exact reads
      | some reader =>
          cases reader with
          | imported further => exact ih
          | invalid failure => exact reads
          | batches rest =>
              cases rest with
              | nil => exact reads
              | cons batch rest =>
                  refine (Function.update_of_ne ?_ _ _).trans reads
                  rintro rfl
                  rw [reads] at there
                  cases there

/-- A read takes the first batch that the stream serves, by induction on what it serves. -/
theorem Boundary.Serves.next {stream : Ptr} {rest : List β} (serves : boundary.Serves stream rest)
    {moved : Stream} (owned : Owned moved boundary) {fuel : Nat} (enough : stream < fuel)
    : (nextWith fuel stream boundary).1 = rest.head?
      ∧ (nextWith fuel stream boundary).2.Serves stream rest.tail := by
  induction serves generalizing fuel with
  | @batches stream rest reads =>
      obtain ⟨fuel, rfl⟩ := Nat.exists_eq_succ_of_ne_zero (Nat.ne_of_gt (Nat.zero_lt_of_lt enough))
      rw [nextWith, reads]
      cases rest with
      | nil => exact ⟨rfl, .batches reads⟩
      | cons batch rest => exact ⟨rfl, .batches (Function.update_self _ _ _)⟩
  | @imported outer inner rest reads _ ih =>
      obtain ⟨fuel, rfl⟩ := Nat.exists_eq_succ_of_ne_zero (Nat.ne_of_gt (Nat.zero_lt_of_lt enough))
      have held : boundary.held (.inside outer) = some inner := by
        rw [Boundary.held, reads]
        rfl
      have younger := owned.older outer inner held
      obtain ⟨given, left⟩ := @ih fuel (Nat.lt_of_lt_of_le younger (Nat.le_of_lt_succ enough))
      have through : nextWith (fuel + 1) outer boundary = nextWith fuel inner boundary := by
        rw [nextWith, reads]
      rw [through]
      exact ⟨given, .imported (nextWith_imported reads) left⟩

/-- A reader gives what its stream serves and then its end, by induction on the reads. -/
theorem readTurns_serves {id : Nat} {stream : Ptr} {rest : List β} (count : Nat)
    (intact : Intact none boundary) (there : boundary.objects id = some (.reader stream))
    (serves : boundary.Serves stream rest)
    : (readTurns count id boundary).1 = .ok ((List.range count).map (fun turn => rest[turn]?)) := by
  induction count generalizing boundary rest with
  | zero => rfl
  | succ count ih =>
      let after := (nextWith (stream + 1) stream boundary).2
      obtain ⟨given, left⟩ := serves.next intact.owned (Nat.lt_succ_self stream)
      have ran : readNext id boundary = (.ok rest.head?, after) := by
        unfold readNext
        rw [Proc.get_bind_apply, there]
        exact congrArg (fun next => (Except.ok next, after)) given
      have objects : after.objects = boundary.objects :=
        (nextWith_keeps (stream + 1) stream boundary).2.2.1
      have still : Intact none after :=
        ⟨intact.owned.read _ _, intact.told.read _ _⟩
      have more := ih still (by rw [objects]; exact there) left
      rw [readTurns, Proc.bind_of_ok ran]
      rcases rested : readTurns count id after with ⟨failure | others, last⟩
      · rw [rested] at more
        cases more
      · rw [rested] at more
        cases more
        rw [Proc.bind_of_ok rested, Proc.pure_apply, List.range_succ_eq_map]
        simp [List.head?_eq_getElem?]

end Serving

-----------------------------------------------------------------------------------------
-- Round trips
-----------------------------------------------------------------------------------------

section Trips

theorem openStream_readable {stream : Ptr} (readable : boundary.Readable stream)
    : openStream stream boundary = (.ok stream, boundary) := by
  unfold openStream
  rw [Proc.get_bind_apply]
  cases reads : boundary.readers stream with
  | none => rfl
  | some reader =>
      cases reader with
      | batches | imported => rfl
      | invalid failure => exact absurd reads (readable failure)

/-- The exposed stream is imported. -/
theorem importArrowStream_exposed (released : String) {id : Nat} {stream : Ptr}
    (exposed : boundary.exposed id = some stream) (readable : boundary.Readable stream)
    : ∃ reached, importArrowStream released id boundary = (.ok stream, reached)
        ∧ reached.readers = boundary.readers := by
  rcases Boundary.exposed_cases exposed with there | ⟨capsule, there, holds⟩
  · obtain ⟨reached, same, readers, _⟩ := importArrowStream_export released there
    refine ⟨reached, same.trans (openStream_readable ?_), readers⟩
    intro failure
    rw [readers]
    exact readable failure
  · let reached := (putObject capsule (some (.capsule none)) boundary).2
    have took : takeStream released capsule boundary = (.ok stream, reached) := by
      unfold takeStream
      rw [Proc.get_bind_apply, holds]
      rfl
    refine ⟨reached, ?_, rfl⟩
    unfold importArrowStream
    rw [Proc.get_bind_apply, there]
    dsimp only
    rw [Proc.bind_of_ok took]
    exact openStream_readable readable

/-- A round trip serves what the object exposed. -/
theorem roundtrip_serves (released : String) {id : Nat} {stream : Ptr} {rest : List β}
    (intact : Intact none boundary) (exposed : boundary.exposed id = some stream)
    (readable : boundary.Readable stream) (serves : boundary.Serves stream rest)
    : ∃ again reached outer, roundtrip released id boundary = (.ok again, reached)
        ∧ Intact none reached
        ∧ reached.exposed again = some outer
        ∧ reached.Readable outer
        ∧ reached.Serves outer rest := by
  obtain ⟨imported, took, readers⟩ := importArrowStream_exposed released exposed readable
  have moved : Intact (some stream) imported := by
    have kept := importArrowStream_imports released id boundary intact
    rw [took] at kept
    exact kept.1
  have still : imported.Serves stream rest :=
    serves.mono (fun other reader reads => by rw [readers]; exact reads)
  have fresh : ∀ other reader, imported.readers other = some reader
      → other ≠ imported.nextPtr := by
    rintro other reader reads rfl
    refine moved.owned.unused (fun dead => ?_)
    rw [reads] at dead
    cases dead
  let again := imported.nextObject
  let reached : Boundary β :=
    (newObject (.streamExport (some imported.nextPtr)) (newStream (.imported stream) imported).2).2
  have ran : roundtrip released id boundary = (.ok again, reached) := by
    rw [roundtrip, Proc.bind_of_ok took]
    rfl
  have itself : reached.readers imported.nextPtr = some (.imported stream) :=
    Function.update_self _ _ _
  have others : ∀ other reader, imported.readers other = some reader
      → reached.readers other = some reader :=
    fun other reader reads => (Function.update_of_ne (fresh other reader reads) _ _).trans reads
  refine ⟨again, reached, imported.nextPtr, ran, ?_, ?_, ?_, .imported itself (still.mono others)⟩
  · have kept := roundtrip_moves released id boundary intact
    rw [ran] at kept
    exact kept
  · have there : reached.objects again = some (.streamExport (some imported.nextPtr)) :=
      Function.update_self _ _ _
    unfold Boundary.exposed
    rw [there]
  · intro failure broken
    rw [itself] at broken
    cases broken

/-- After any round trips the object serves what it exposed first, by induction on them. -/
theorem roundtrips_serves (released : String) (times : Nat) {id : Nat} {stream : Ptr}
    {rest : List β} (intact : Intact none boundary) (exposed : boundary.exposed id = some stream)
    (readable : boundary.Readable stream) (serves : boundary.Serves stream rest)
    : ∃ again reached outer, roundtrips released times id boundary = (.ok again, reached)
        ∧ Intact none reached
        ∧ reached.exposed again = some outer
        ∧ reached.Readable outer
        ∧ reached.Serves outer rest := by
  induction times generalizing boundary id stream with
  | zero => exact ⟨id, boundary, stream, rfl, intact, exposed, readable, serves⟩
  | succ times ih =>
      obtain ⟨again, reached, outer, ran, whole, shown, fine, served⟩ :=
        roundtrip_serves released intact exposed readable serves
      obtain ⟨last, final, outermost, went, rested⟩ := ih whole shown fine served
      refine ⟨last, final, outermost, ?_, rested⟩
      rw [roundtrips, Proc.bind_of_ok ran]
      exact went

theorem readThrough_serves (released : String) (times count : Nat) {id : Nat} {stream : Ptr}
    {rest : List β} (intact : Intact none boundary) (exposed : boundary.exposed id = some stream)
    (readable : boundary.Readable stream) (serves : boundary.Serves stream rest)
    : (readThrough released times count id boundary).1
      = .ok ((List.range count).map (fun turn => rest[turn]?)) := by
  obtain ⟨again, reached, outer, ran, whole, shown, fine, served⟩ :=
    roundtrips_serves released times intact exposed readable serves
  obtain ⟨imported, took, readers⟩ := importArrowStream_exposed released shown fine
  let reader := imported.nextObject
  let opened : Boundary β := (newObject (.reader outer) imported).2
  have made : readerOf released again reached = (.ok reader, opened) := by
    rw [readerOf, Proc.bind_of_ok took]
    rfl
  have last : Intact none opened := by
    have kept := readerOf_moves released again reached whole
    rw [made] at kept
    exact kept
  have there : opened.objects reader = some (.reader outer) := Function.update_self _ _ _
  have left : opened.Serves outer rest :=
    served.mono (fun other kind reads => (congrFun readers other).trans reads)
  rw [readThrough, Proc.bind_of_ok ran, Proc.bind_of_ok made]
  exact readTurns_serves count last there left

end Trips

/-- In every state that a Python program can reach, what a query returns is read unchanged after
any number of round trips, and so is what any object exposes that has a schema: its batches in
order, and then their end.
-/
theorem roundtrips_transparent (released : String) (calls : List (StreamCall β))
    : let boundary := runCalls released calls .empty
      (∀ batches times count,
          ((do
              let id ← streamFromBatches batches
              readThrough released times count id) boundary).1
            = .ok ((List.range count).map (fun turn => batches[turn]?)))
        ∧ ∀ id stream, boundary.exposed id = some stream → boundary.Readable stream
          → ∃ rest, boundary.Serves stream rest
            ∧ ∀ times count, (readThrough released times count id boundary).1
              = .ok ((List.range count).map (fun turn => rest[turn]?)) := by
  intro boundary
  have intact : Intact none boundary :=
    runCalls_keeps released (fun call => run_moves released call) calls ⟨owned_empty, told_empty⟩
  constructor
  · intro batches times count
    let id := boundary.nextObject
    let reached : Boundary β := (streamFromBatches batches boundary).2
    have ran : streamFromBatches batches boundary = (.ok id, reached) := rfl
    have whole : Intact none reached := by
      have kept := streamFromBatches_moves batches boundary intact
      rw [ran] at kept
      exact kept
    have reads : reached.readers boundary.nextPtr = some (.batches batches) :=
      Function.update_self _ _ _
    have there : reached.objects id = some (.streamExport (some boundary.nextPtr)) :=
      Function.update_self _ _ _
    have exposed : reached.exposed id = some boundary.nextPtr := by
      unfold Boundary.exposed
      rw [there]
    rw [Proc.bind_of_ok ran]
    refine readThrough_serves released times count whole exposed ?_ (.batches reads)
    intro failure broken
    rw [reads] at broken
    cases broken
  · intro id stream exposed readable
    obtain ⟨place, held⟩ := Boundary.held_of_exposed exposed
    have live : boundary.Live stream := intact.owned.placed.alive place stream held
    obtain ⟨rest, serves⟩ := intact.serves (Nat.lt_succ_self stream) live readable
    exact ⟨rest, serves, fun times count =>
      readThrough_serves released times count intact exposed readable serves⟩

end Fedqrs
