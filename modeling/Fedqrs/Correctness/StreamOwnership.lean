import Fedqrs.Ffi.Delivery
import Fedqrs.Library.Ownership

/-! Every stream at the boundary has one owner until it is released, and is released once, however
a Python program moves it between exports, capsules, readers and round trips.
-/

namespace Fedqrs

open Ownership

variable {β : Type}

-----------------------------------------------------------------------------------------
-- Calls
-----------------------------------------------------------------------------------------

section Calls

/-- Where the streams are and what they have given. -/
structure Intact (moved : Stream) (boundary : Boundary β) : Prop where
  owned : Owned moved boundary
  told : Told boundary

/-- The computation takes the stream that is moved before it and leaves the one that is moved by a
success; a failure moves none.
-/
abbrev Conveys {α : Type} (moved : Stream) (action : BoundaryM β α) (after : α → Stream) : Prop :=
  Proc.Triple (Intact moved) action (fun value => Intact (after value)) (Intact none)

/-- The computation leaves a moved stream that can be read. -/
abbrev Imports (moved : Stream) (action : BoundaryM β Ptr) : Prop :=
  Proc.Triple (Intact moved) action
    (fun stream boundary => Intact (some stream) boundary ∧ boundary.Readable stream)
    (Intact none)

theorem newStream_moves {reader : StreamReader β} (alone : reader.inner = none)
    : Conveys none (newStream reader) some := by
  rintro boundary ⟨owned, told⟩
  refine ⟨owned.newStream alone, told.newStream owned alone ?_⟩
  rintro inner rfl
  cases alone

/-- An imported stream is exported again. -/
theorem newStream_imported (imported : Ptr)
    : Proc.Triple (fun boundary => Intact (some imported) boundary ∧ boundary.Readable imported)
        (newStream (.imported imported) : BoundaryM β Ptr) (fun stream => Intact (some stream))
        (Intact none) := by
  rintro boundary ⟨⟨owned, told⟩, readable⟩
  refine ⟨owned.newStream rfl, told.newStream owned rfl ?_⟩
  rintro inner same
  cases same
  exact readable

theorem newObject_moves {stream : Ptr} {object : Object} (holds : object.stream = some stream)
    (closed : ∀ other, object ≠ .reader other)
    : Conveys (some stream) (newObject object : BoundaryM β Nat) (fun _ => none) := by
  rintro boundary ⟨owned, told⟩
  refine ⟨owned.newObject holds, told.setObject ?_⟩
  intro other same
  exact absurd (Option.some.inj same) (closed other)

/-- A consumer's reader is opened on an imported stream. -/
theorem newObject_reader (stream : Ptr)
    : Proc.Triple (fun boundary => Intact (some stream) boundary ∧ boundary.Readable stream)
        (newObject (.reader stream) : BoundaryM β Nat) (fun _ => Intact none) (Intact none) := by
  rintro boundary ⟨⟨owned, told⟩, readable⟩
  refine ⟨owned.newObject rfl, told.setObject ?_⟩
  intro other same
  cases same
  exact readable

theorem newObject_empty_moves {object : Object} (empty : object.stream = none)
    : Conveys none (newObject object : BoundaryM β Nat) (fun _ => none) := by
  rintro boundary ⟨owned, told⟩
  refine ⟨owned.newObject_empty empty, told.setObject ?_⟩
  intro other same
  cases same
  cases empty

/-- What an object holds is moved out of it. -/
theorem Intact.emptied {boundary : Boundary β} (intact : Intact none boundary) {id : Nat}
    {object : Option Object} (there : id < boundary.nextObject ∨ object = none)
    (empty : object.bind Object.stream = none)
    : Intact (boundary.held (.object id)) ((putObject id object) boundary).2 := by
  refine ⟨intact.owned.emptied there empty, intact.told.setObject ?_⟩
  intro other same
  rw [same] at empty
  cases empty

/-- An object that holds nothing is dropped. -/
theorem Intact.dropped {moved : Stream} {boundary : Boundary β} (intact : Intact moved boundary)
    {id : Nat} (vacant : boundary.held (.object id) = none)
    : Intact moved ((putObject id none) boundary).2 :=
  ⟨intact.owned.dropped vacant, intact.told.setObject (fun _ same => by cases same)⟩

theorem streamFromBatches_moves (batches : List β)
    : Conveys none (streamFromBatches batches) (fun _ => none) :=
  (newStream_moves rfl).bind (fun _ => newObject_moves rfl (fun _ same => by cases same))

/-- The stream of a capsule is moved out of it, which is left empty. -/
theorem takeStream_moves (released : String) (id : Nat)
    : Proc.Triple (Intact none) (takeStream released id : BoundaryM β Ptr)
        (fun stream boundary =>
          Intact (some stream) boundary ∧ boundary.objects id = some (.capsule none))
        (Intact none) := by
  intro boundary intact
  unfold takeStream
  rw [Proc.get_bind_apply]
  cases there : boundary.objects id with
  | none => exact intact
  | some object =>
      cases object with
      | streamExport | source | reader | plain => exact intact
      | capsule stream =>
          cases stream with
          | none => exact intact
          | some stream =>
              refine ⟨?_, Function.update_self _ _ _⟩
              have taken : Intact (boundary.held (.object id))
                  ((putObject id (some (.capsule none))) boundary).2 :=
                intact.emptied (Or.inl (intact.owned.inside there)) rfl
              have held : boundary.held (.object id) = some stream := by
                rw [Boundary.held, there]
                rfl
              rw [held] at taken
              exact taken

/-- An export's stream is moved to a new capsule. -/
theorem arrowCStream_moves (id : Nat) (inner : Stream)
    : Proc.Triple (fun boundary => Intact none boundary
          ∧ boundary.objects id = some (.streamExport inner))
        (arrowCStream id inner : BoundaryM β Nat) (fun _ => Intact none) (Intact none) := by
  rintro boundary ⟨intact, there⟩
  cases inner with
  | none => exact intact
  | some stream =>
      have taken : Intact (boundary.held (.object id))
          ((putObject id (some (.streamExport none))) boundary).2 :=
        intact.emptied (Or.inl (intact.owned.inside there)) rfl
      have held : boundary.held (.object id) = some stream := by
        rw [Boundary.held, there]
        rfl
      rw [held] at taken
      exact newObject_moves rfl (fun _ same => by cases same) _ taken

/-- Dropping a stream releases it. -/
theorem dropStream_moves (stream : Stream)
    : Conveys stream (dropStream stream : BoundaryM β Unit) (fun _ => none) := by
  rintro boundary ⟨owned, told⟩
  cases stream with
  | none => exact ⟨owned, told⟩
  | some held => exact ⟨owned.release (Nat.lt_succ_self held), told.release⟩

/-- A stream without a schema is released. -/
theorem openStream_imports (stream : Ptr)
    : Imports (some stream) (openStream stream : BoundaryM β Ptr) := by
  intro boundary intact
  unfold openStream
  rw [Proc.get_bind_apply]
  cases reads : boundary.readers stream with
  | none => exact ⟨intact, fun failure broken => by rw [reads] at broken; cases broken⟩
  | some reader =>
      cases reader with
      | batches | imported =>
          exact ⟨intact, fun failure broken => by rw [reads] at broken; cases broken⟩
      | invalid failure => exact dropStream_moves (some stream) boundary intact

theorem importArrowStream_imports (released : String) (id : Nat)
    : Imports none (importArrowStream released id : BoundaryM β Ptr) := by
  intro boundary intact
  unfold importArrowStream
  rw [Proc.get_bind_apply]
  cases there : boundary.objects id with
  | none => exact intact
  | some object =>
      cases object with
      | capsule | reader | plain => exact intact
      | source capsule =>
          refine ((takeStream_moves released capsule).bind (fun stream => ?_)) boundary intact
          rintro reached ⟨moved, _⟩
          exact openStream_imports stream reached moved
      | streamExport inner =>
          refine ((arrowCStream_moves id inner).bind (fun capsule => ?_)) boundary ⟨intact, there⟩
          refine (takeStream_moves released capsule).bind (fun stream => ?_)
          rintro reached ⟨moved, left⟩
          refine openStream_imports stream _ (moved.dropped ?_)
          rw [Boundary.held, left]
          rfl

theorem roundtrip_moves (released : String) (id : Nat)
    : Conveys none (roundtrip released id : BoundaryM β Nat) (fun _ => none) := by
  refine (importArrowStream_imports released id).bind (fun imported => ?_)
  refine (newStream_imported imported).bind (fun stream => ?_)
  exact newObject_moves rfl (fun _ same => by cases same)

theorem readerOf_moves (released : String) (id : Nat)
    : Conveys none (readerOf released id : BoundaryM β Nat) (fun _ => none) :=
  (importArrowStream_imports released id).bind (fun stream => newObject_reader stream)

theorem handOut_moves (id : Nat) : Conveys none (handOut id : BoundaryM β Nat) (fun _ => none) := by
  intro boundary intact
  unfold handOut
  rw [Proc.get_bind_apply]
  cases there : boundary.objects id with
  | none => exact intact
  | some object =>
      cases object with
      | capsule | reader | plain | source => exact intact
      | streamExport inner => exact arrowCStream_moves id inner boundary ⟨intact, there⟩

theorem readNext_moves (id : Nat)
    : Conveys none (readNext id : BoundaryM β (Option β)) (fun _ => none) := by
  intro boundary intact
  unfold readNext
  rw [Proc.get_bind_apply]
  cases boundary.objects id with
  | none => exact intact
  | some object =>
      cases object with
      | streamExport | capsule | source | plain => exact intact
      | reader stream => exact ⟨intact.owned.read _ _, intact.told.read _ _⟩

theorem dropObject_moves (id : Nat)
    : Conveys none (dropObject id : BoundaryM β Unit) (fun _ => none) := by
  intro boundary intact
  have taken : Intact (boundary.held (.object id)) ((putObject id none) boundary).2 :=
    intact.emptied (Or.inr rfl) rfl
  exact dropStream_moves (boundary.held (.object id)) _ taken

/-- Every call keeps every stream in one place, by cases on the call. -/
theorem run_moves (released : String) (call : StreamCall β)
    : Conveys none (call.run released) (fun _ => none) := by
  have finished : ∀ given : Given β,
      Conveys none (pure given : BoundaryM β (Given β)) (fun _ => none) :=
    fun _ _ intact => intact
  cases call with
  | execute batches => exact (streamFromBatches_moves batches).bind (fun id => finished _)
  | arrowCStream id => exact (handOut_moves id).bind (fun capsule => finished _)
  | fromStream id => exact (readerOf_moves released id).bind (fun reader => finished _)
  | roundtrip id => exact (roundtrip_moves released id).bind (fun again => finished _)
  | makeCapsule reader =>
      have alone : (StreamReader.ofSource reader).inner = none := by cases reader <;> rfl
      refine (newStream_moves alone).bind (fun stream => ?_)
      refine (newObject_moves rfl (fun _ same => ?_)).bind (fun capsule => finished _)
      cases same
  | makeSource capsule => exact (newObject_empty_moves rfl).bind (fun source => finished _)
  | makePlain => exact (newObject_empty_moves rfl).bind (fun plain => finished _)
  | next id => exact (readNext_moves id).bind (fun next => finished _)
  | drop id => exact (dropObject_moves id).bind (fun _ => finished _)

end Calls

-----------------------------------------------------------------------------------------
-- Calls that fail
-----------------------------------------------------------------------------------------

section Failures

/-- The streams that can be read are where they were, with what they have still to give. -/
structure Spared (before after : Boundary β) : Prop where
  held : ∀ place stream, before.held place = some stream → before.Readable stream
    → after.held place = some stream
  readers : ∀ stream, before.Readable stream → after.readers stream = before.readers stream
  delivered : after.delivered = before.delivered

theorem Spared.refl (boundary : Boundary β) : Spared boundary boundary :=
  ⟨fun _ _ held _ => held, fun _ _ => rfl, rfl⟩

/-- The computation spares the streams that can be read when it fails. -/
def Harmless {α : Type} (action : BoundaryM β α) : Prop :=
  ∀ boundary failure after, Owned none boundary → action boundary = (.error failure, after)
    → Spared boundary after

theorem harmless_thenPure {α γ : Type} {action : BoundaryM β α} (harmless : Harmless action)
    {next : α → BoundaryM β γ} (total : ∀ value boundary, ∃ result after,
      next value boundary = (.ok result, after))
    : Harmless (action >>= next) := by
  intro boundary failure after owned ran
  rcases began : action boundary with ⟨other | value, reached⟩
  · rw [Proc.bind_of_error began] at ran
    cases ran
    exact harmless boundary _ _ owned began
  · rw [Proc.bind_of_ok began] at ran
    obtain ⟨result, last, succeeded⟩ := total value reached
    rw [succeeded] at ran
    cases ran

/-- What `takeStream` takes was in a capsule; it changes nothing when it fails. -/
theorem takeStream_cases (released : String) (id : Nat) (boundary : Boundary β)
    : (∃ stream, boundary.objects id = some (.capsule (some stream))
        ∧ takeStream released id boundary
          = (.ok stream, (putObject id (some (.capsule none)) boundary).2))
      ∨ ∃ failure, takeStream released id boundary = (.error failure, boundary) := by
  unfold takeStream
  rw [Proc.get_bind_apply]
  cases there : boundary.objects id with
  | none => exact Or.inr ⟨_, rfl⟩
  | some object =>
      cases object with
      | streamExport | source | reader | plain => exact Or.inr ⟨_, rfl⟩
      | capsule stream =>
          cases stream with
          | none => exact Or.inr ⟨_, rfl⟩
          | some stream => exact Or.inl ⟨stream, rfl, rfl⟩

/-- `openStream` fails where the stream has no schema, and releases it. -/
theorem openStream_failed {stream : Ptr} {boundary after : Boundary β} {failure : PyErr}
    (ran : openStream stream boundary = (.error failure, after))
    : (∃ reason, boundary.readers stream = some (.invalid reason))
      ∧ after.held = boundary.held
      ∧ (∀ other, other ≠ stream → after.readers other = boundary.readers other)
      ∧ after.delivered = boundary.delivered := by
  unfold openStream at ran
  rw [Proc.get_bind_apply] at ran
  cases reads : boundary.readers stream with
  | none =>
      rw [reads] at ran
      cases ran
  | some reader =>
      rw [reads] at ran
      cases reader with
      | batches | imported => cases ran
      | invalid reason =>
          have vacant : boundary.held (.inside stream) = none := by
            rw [Boundary.held, reads]
            rfl
          have dropped : (dropStream (some stream) boundary).2
              = {
                boundary with
                readers := Function.update boundary.readers stream none
                released := boundary.released ++ [stream]
              } := by
            change releaseWith (stream + 1) stream boundary = _
            rw [releaseWith, reads]
          have last : after = (dropStream (some stream) boundary).2 :=
            ((Prod.mk.injEq ..).mp ran).2.symm
          rw [last, dropped]
          refine ⟨⟨reason, rfl⟩, ?_, ?_, rfl⟩
          · exact (held_readers boundary stream none _ _ _ _).trans (update_vacant vacant)
          · exact fun other different => Function.update_of_ne different _ _

/-- A stream without a schema may go. -/
theorem spared_of_broken {boundary after : Boundary β} {stream : Ptr} {reason : String}
    (broken : boundary.readers stream = some (.invalid reason))
    (held : ∀ place, boundary.held place ≠ some stream → after.held place = boundary.held place)
    (readers : ∀ other, other ≠ stream → after.readers other = boundary.readers other)
    (delivered : after.delivered = boundary.delivered)
    : Spared boundary after where
  held place other there readable := by
    refine (held place ?_).trans there
    rw [there]
    rintro same
    cases same
    exact readable reason broken
  readers other readable := by
    refine readers other ?_
    rintro rfl
    exact readable reason broken
  delivered := delivered

/-- The stream of an export goes through a new capsule, from which it is always taken. -/
theorem importArrowStream_export (released : String) {id : Nat} {stream : Ptr}
    {boundary : Boundary β} (there : boundary.objects id = some (.streamExport (some stream)))
    : ∃ reached, importArrowStream released id boundary = openStream stream reached
        ∧ reached.readers = boundary.readers
        ∧ reached.delivered = boundary.delivered
        ∧ reached.objects boundary.nextObject = none
        ∧ ∀ other, other ≠ id → other ≠ boundary.nextObject
          → reached.objects other = boundary.objects other := by
  let capsule := boundary.nextObject
  let exported : Boundary β :=
    (newObject (.capsule (some stream)) (putObject id (some (.streamExport none)) boundary).2).2
  have began : arrowCStream id (some stream) boundary = (.ok capsule, exported) := rfl
  have taken : takeStream released capsule exported
      = (.ok stream, (putObject capsule (some (.capsule none)) exported).2) := by
    have holds : exported.objects capsule = some (.capsule (some stream)) :=
      Function.update_self _ _ _
    unfold takeStream
    rw [Proc.get_bind_apply, holds]
    rfl
  refine
    ⟨(putObject capsule none (putObject capsule (some (.capsule none)) exported).2).2, ?_, rfl, rfl,
      Function.update_self _ _ _, ?_⟩
  · unfold importArrowStream
    rw [Proc.get_bind_apply, there]
    dsimp only
    rw [Proc.bind_of_ok began, Proc.bind_of_ok taken]
    rfl
  · intro other different young
    simp [exported, capsule, putObject, newObject, Proc.modify, different, young]

theorem importArrowStream_harmless (released : String) (id : Nat)
    : Harmless (importArrowStream released id : BoundaryM β Ptr) := by
  intro boundary failure after owned ran
  unfold importArrowStream at ran
  rw [Proc.get_bind_apply] at ran
  cases there : boundary.objects id with
  | none =>
      rw [there] at ran
      cases ran
      exact .refl boundary
  | some object =>
      rw [there] at ran
      cases object with
      | capsule | reader | plain =>
          cases ran
          exact .refl boundary
      | source capsule =>
          dsimp only at ran
          rcases takeStream_cases released capsule boundary
            with ⟨stream, holds, taken⟩ | ⟨reason, kept⟩
          · rw [Proc.bind_of_ok taken] at ran
            obtain ⟨⟨reason, broken⟩, held, readers, delivered⟩ := openStream_failed ran
            refine spared_of_broken broken ?_ readers delivered
            intro place elsewhere
            rw [held]
            refine (congrFun (held_objects boundary capsule _ _) place).trans ?_
            refine Function.update_of_ne ?_ _ _
            rintro rfl
            refine elsewhere ?_
            rw [Boundary.held, holds]
            rfl
          · rw [Proc.bind_of_error kept] at ran
            cases ran
            exact .refl boundary
      | streamExport inner =>
          cases inner with
          | none =>
              cases ran
              exact .refl boundary
          | some stream =>
              obtain ⟨reached, same, readers, delivered, gone, objects⟩ :=
                importArrowStream_export released there
              have opened : openStream stream reached = (.error failure, after) := by
                rw [← same, importArrowStream, Proc.get_bind_apply, there]
                exact ran
              obtain ⟨⟨reason, broken⟩, held, others, last⟩ := openStream_failed opened
              rw [readers] at broken
              have left : ∀ other, other ≠ stream → after.readers other = boundary.readers other :=
                fun other different => (others other different).trans (congrFun readers other)
              refine spared_of_broken broken ?_ left (last.trans delivered)
              intro place elsewhere
              rw [held]
              cases place with
              | inside outer => rw [Boundary.held, Boundary.held, readers]
              | object other =>
                  have different : other ≠ id := by
                    rintro rfl
                    refine elsewhere ?_
                    rw [Boundary.held, there]
                    rfl
                  by_cases young : other = boundary.nextObject
                  · subst young
                    rw [Boundary.held, Boundary.held, gone, owned.objects _ (Nat.le_refl _)]
                  · rw [Boundary.held, Boundary.held, objects other different young]

/-- No call that fails touches a stream that can be read, by cases on the call. -/
theorem run_harmless (released : String) (call : StreamCall β) : Harmless (call.run released) := by
  cases call with
  | execute batches =>
      intro boundary failure after _ ran
      cases ran
  | arrowCStream id =>
      refine harmless_thenPure ?_ (fun capsule boundary => ⟨_, _, rfl⟩)
      intro boundary failure after _ ran
      unfold handOut at ran
      rw [Proc.get_bind_apply] at ran
      cases there : boundary.objects id with
      | none =>
          rw [there] at ran
          cases ran
          exact .refl boundary
      | some object =>
          rw [there] at ran
          cases object with
          | capsule | reader | plain =>
              cases ran
              exact .refl boundary
          | source capsule => cases ran
          | streamExport inner =>
              cases inner with
              | none =>
                  cases ran
                  exact .refl boundary
              | some stream => cases ran
  | fromStream id =>
      refine harmless_thenPure ?_ (fun reader boundary => ⟨_, _, rfl⟩)
      exact harmless_thenPure (importArrowStream_harmless released id)
        (fun stream boundary => ⟨_, _, rfl⟩)
  | roundtrip id =>
      refine harmless_thenPure ?_ (fun again boundary => ⟨_, _, rfl⟩)
      exact harmless_thenPure (importArrowStream_harmless released id)
        (fun imported boundary => ⟨_, _, rfl⟩)
  | makeCapsule reader =>
      intro boundary failure after _ ran
      cases ran
  | makeSource capsule =>
      intro boundary failure after _ ran
      cases ran
  | makePlain =>
      intro boundary failure after _ ran
      cases ran
  | next id =>
      refine harmless_thenPure ?_ (fun next boundary => ⟨_, _, rfl⟩)
      intro boundary failure after _ ran
      unfold readNext at ran
      rw [Proc.get_bind_apply] at ran
      cases there : boundary.objects id with
      | none =>
          rw [there] at ran
          cases ran
          exact .refl boundary
      | some object =>
          rw [there] at ran
          cases object with
          | streamExport | capsule | source | plain =>
              cases ran
              exact .refl boundary
          | reader stream => cases ran
  | drop id =>
      intro boundary failure after _ ran
      cases ran

end Failures

-----------------------------------------------------------------------------------------
-- Runs
-----------------------------------------------------------------------------------------

section Runs

variable {boundary : Boundary β}

/-- What every call keeps holds after any calls, by induction along them. -/
theorem runCalls_keeps {inv : Boundary β → Prop} (released : String)
    (kept : ∀ call : StreamCall β, Proc.Preserves inv (call.run released))
    (calls : List (StreamCall β)) (start : inv boundary)
    : inv (runCalls released calls boundary) := by
  induction calls generalizing boundary with
  | nil => exact start
  | cons call rest ih => exact ih ((kept call).keeps start)

/-- Without objects no stream is live: one that is would be behind a younger one; by induction on
the streams that are younger.
-/
theorem Owned.all_released (owned : Owned none boundary) (gone : ∀ id, boundary.objects id = none)
    {stream : Ptr} {younger : Nat} (count : boundary.nextPtr - stream ≤ younger)
    : ¬ boundary.Live stream := by
  induction younger generalizing stream with
  | zero =>
      intro live
      have small : stream < boundary.nextPtr := owned.below stream live
      exact absurd (Nat.sub_pos_of_lt small) (Nat.not_lt.mpr count)
  | succ younger ih =>
      intro live
      obtain ⟨place, held⟩ := owned.placed.owner stream live (fun moving => by cases moving)
      cases place with
      | object id =>
          rw [Boundary.held, gone id] at held
          cases held
      | inside outer =>
          have older := owned.older outer stream held
          have alive : boundary.Live outer := by
            intro absent
            rw [Boundary.held, absent] at held
            cases held
          refine ih ?_ alive
          have fewer : ∀ all inner around count : Nat, inner < around → around < all
              → all - inner ≤ count + 1 → all - around ≤ count := by
            omega
          exact fewer _ _ _ _ older (owned.below outer alive) count

/-- In every run of a Python program each stream that was made is either live, and then in exactly
one place, or released, and then released once; a call that fails spares the streams that can be
read, and when the program has dropped its objects no stream is left.
-/
theorem streams_owned (released : String) (calls : List (StreamCall β))
    : let boundary := runCalls released calls .empty
      (∀ stream, boundary.Live stream ↔ ∃ place, boundary.held place = some stream)
        ∧ (∀ place other stream, boundary.held place = some stream
          → boundary.held other = some stream → place = other)
        ∧ boundary.released.Nodup
        ∧ (∀ stream, stream ∈ boundary.released
          ↔ stream < boundary.nextPtr ∧ ¬ boundary.Live stream)
        ∧ ((∀ id, boundary.objects id = none)
          → ∀ stream < boundary.nextPtr, stream ∈ boundary.released)
        ∧ ∀ (call : StreamCall β) failure after,
          call.run released boundary = (.error failure, after) → Spared boundary after := by
  intro boundary
  have intact : Intact none boundary :=
    runCalls_keeps released (fun call => run_moves released call) calls ⟨owned_empty, told_empty⟩
  have owned : Owned none boundary := intact.owned
  refine ⟨?_, owned.placed.once, owned.distinct, ?_, ?_, ?_⟩
  · intro stream
    constructor
    · intro live
      exact owned.placed.owner stream live (fun moving => by cases moving)
    · rintro ⟨place, held⟩
      exact owned.placed.alive place stream held
  · intro stream
    constructor
    · intro gone
      exact ⟨(owned.spent stream gone).2, (owned.spent stream gone).1⟩
    · rintro ⟨small, dead⟩
      exact (owned.accounted stream small).resolve_left dead
  · intro gone stream small
    exact (owned.accounted stream small).resolve_left (owned.all_released gone (Nat.le_refl _))
  · intro call failure after ran
    exact run_harmless released call boundary failure after owned ran

end Runs

end Fedqrs
