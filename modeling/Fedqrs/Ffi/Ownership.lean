import Fedqrs.Ffi.Streams
import Fedqrs.Library.Ownership

/-! Where the streams of the boundary are: every live one is in one place, or is being moved. Each
operation on a stream or an object keeps that.
-/

namespace Fedqrs

open Ownership

variable {β : Type}

/-- Where a stream can be: in an object, or behind the reader of another stream. -/
inductive Place
  | object (id : Nat)
  | inside (stream : Ptr)
deriving DecidableEq

def StreamReader.inner : StreamReader β → Stream
  | .imported stream => some stream
  | .batches _ | .invalid _ => none

def Boundary.held (boundary : Boundary β) : Place → Stream
  | .object id => (boundary.objects id).bind Object.stream
  | .inside stream => (boundary.readers stream).bind StreamReader.inner

/-- The stream has not been released. -/
def Boundary.Live (boundary : Boundary β) (stream : Ptr) : Prop := boundary.readers stream ≠ none

/-- Every live stream is in one place, but for the one that is being moved; every other stream that
was made has been released, once.
-/
structure Owned (moved : Stream) (boundary : Boundary β) : Prop where
  placed : Placed boundary.held boundary.Live moved
  older : ∀ outer stream, boundary.held (.inside outer) = some stream → stream < outer
  below : ∀ stream, boundary.Live stream → stream < boundary.nextPtr
  objects : ∀ id, boundary.nextObject ≤ id → boundary.objects id = none
  accounted : ∀ stream, stream < boundary.nextPtr
    → boundary.Live stream ∨ stream ∈ boundary.released
  spent : ∀ stream ∈ boundary.released, ¬ boundary.Live stream ∧ stream < boundary.nextPtr
  distinct : boundary.released.Nodup

theorem owned_empty : Owned none (Boundary.empty : Boundary β) where
  placed := by
    refine placed_nothing.congr ?_ ?_
    · intro place
      cases place <;> rfl
    · intro stream
      exact iff_of_false (fun live => live rfl) id
  older outer stream held := by cases held
  below stream live := absurd rfl live
  objects id _ := rfl
  accounted stream small := absurd small (Nat.not_lt_zero stream)
  spent stream member := by cases member
  distinct := List.nodup_nil

-----------------------------------------------------------------------------------------
-- Primitive moves
-----------------------------------------------------------------------------------------

section Moves

variable {moved : Stream} {boundary : Boundary β}

/-- What the places hold after an object was set. -/
theorem held_objects (boundary : Boundary β) (id : Nat) (object : Option Object) (count : Nat)
    : ({
        boundary with
        objects := Function.update boundary.objects id object
        nextObject := count
      } : Boundary β).held
      = Function.update boundary.held (.object id) (object.bind Object.stream) := by
  funext place
  cases place with
  | object other =>
      by_cases same : other = id
      · subst same
        simp [Boundary.held]
      · simp [Boundary.held, same]
  | inside stream => simp [Boundary.held]

/-- What the places hold after the reader of a stream was set. -/
theorem held_readers (boundary : Boundary β) (stream : Ptr) (reader : Option (StreamReader β))
    (count : Ptr) (created : List (Ptr × List β)) (released : List Ptr)
    (delivered : List (Ptr × β))
    : ({
        boundary with
        readers := Function.update boundary.readers stream reader
        nextPtr := count
        created
        released
        delivered
      } : Boundary β).held
      = Function.update boundary.held (.inside stream) (reader.bind StreamReader.inner) := by
  funext place
  cases place with
  | object id => simp [Boundary.held]
  | inside other =>
      by_cases same : other = stream
      · subst same
        simp [Boundary.held]
      · simp [Boundary.held, same]

/-- A place that already holds nothing can be set to nothing. -/
theorem update_vacant {held : Place → Stream} {place : Place} (vacant : held place = none)
    : Function.update held place none = held := by
  rw [← vacant, Function.update_eq_self]

/-- The state of objects may change where it shows no stream. -/
theorem Owned.setObject (owned : Owned moved boundary) {id count : Nat} {object : Option Object}
    {after : Stream}
    (placed
      : Placed (Function.update boundary.held (.object id) (object.bind Object.stream))
          boundary.Live after)
    (grows : boundary.nextObject ≤ count) (inside : id < count ∨ object = none)
    : Owned after
        { boundary with objects := Function.update boundary.objects id object, nextObject := count }
    where
  placed := by
    rw [held_objects]
    exact placed
  older outer stream held := by
    rw [held_objects, Function.update_of_ne (by simp)] at held
    exact owned.older outer stream held
  below := owned.below
  objects other beyond := by
    change Function.update boundary.objects id object other = none
    by_cases same : other = id
    · subst same
      rw [Function.update_self]
      exact inside.resolve_left (Nat.not_lt.mpr beyond)
    · rw [Function.update_of_ne same]
      exact owned.objects other (Nat.le_trans grows beyond)
  accounted := owned.accounted
  spent := owned.spent
  distinct := owned.distinct

/-- A new object takes the stream that is moved. -/
theorem Owned.newObject {stream : Ptr} (owned : Owned (some stream) boundary) {object : Object}
    (holds : object.stream = some stream)
    : Owned none (Fedqrs.newObject object boundary).2 := by
  refine owned.setObject ?_ (Nat.le_succ _) (Or.inl (Nat.lt_succ_self _))
  have vacant : boundary.held (.object boundary.nextObject) = none := by
    rw [Boundary.held, owned.objects _ (Nat.le_refl _)]
    rfl
  rw [Option.bind_some, holds]
  exact owned.placed.put vacant

/-- A new object that holds nothing changes nothing. -/
theorem Owned.newObject_empty (owned : Owned moved boundary) {object : Object}
    (empty : object.stream = none)
    : Owned moved (Fedqrs.newObject object boundary).2 := by
  refine owned.setObject ?_ (Nat.le_succ _) (Or.inl (Nat.lt_succ_self _))
  have vacant : boundary.held (.object boundary.nextObject) = none := by
    rw [Boundary.held, owned.objects _ (Nat.le_refl _)]
    rfl
  rw [Option.bind_some, empty, update_vacant vacant]
  exact owned.placed

theorem Owned.inside (owned : Owned moved boundary) {id : Nat} {object : Object}
    (there : boundary.objects id = some object)
    : id < boundary.nextObject := by
  by_contra beyond
  rw [owned.objects id (Nat.not_lt.mp beyond)] at there
  cases there

/-- An object is set to hold nothing: what it held is moved. -/
theorem Owned.emptied (owned : Owned none boundary) {id : Nat} {object : Option Object}
    (there : id < boundary.nextObject ∨ object = none)
    (empty : object.bind Object.stream = none)
    : Owned (boundary.held (.object id)) ((putObject id object) boundary).2 := by
  refine owned.setObject ?_ (Nat.le_refl _) there
  rw [empty]
  exact owned.placed.take (.object id)

/-- An object that holds nothing is set to hold nothing. -/
theorem Owned.dropped (owned : Owned moved boundary) {id : Nat}
    (vacant : boundary.held (.object id) = none)
    : Owned moved ((putObject id none) boundary).2 := by
  refine owned.setObject ?_ (Nat.le_refl _) (Or.inr rfl)
  rw [Option.bind_none, update_vacant vacant]
  exact owned.placed

/-- The address of a new stream is new. -/
theorem Owned.unused (owned : Owned moved boundary) : ¬ boundary.Live boundary.nextPtr :=
  fun live => Nat.lt_irrefl _ (owned.below _ live)

/-- A stream is made over a reader; what the reader holds was moved to it. -/
theorem Owned.newStream (owned : Owned moved boundary) {reader : StreamReader β}
    (holds : reader.inner = moved)
    : Owned (some boundary.nextPtr) (Fedqrs.newStream reader boundary).2 := by
  have vacant : boundary.held (.inside boundary.nextPtr) = none := by
    have unused := owned.unused
    rw [Boundary.Live, not_not] at unused
    rw [Boundary.held, unused]
    rfl
  have held : (Fedqrs.newStream reader boundary).2.held
      = Function.update boundary.held (.inside boundary.nextPtr) moved := by
    refine (held_readers boundary _ _ _ _ _ _).trans ?_
    rw [Option.bind_some, holds]
  have live : ∀ stream, (Fedqrs.newStream reader boundary).2.Live stream
      ↔ stream = boundary.nextPtr ∨ boundary.Live stream := by
    intro stream
    by_cases same : stream = boundary.nextPtr
    · subst same
      simp [Fedqrs.newStream, Boundary.Live]
    · simp [Fedqrs.newStream, Boundary.Live, same]
  have kept : Placed (Function.update boundary.held (.inside boundary.nextPtr) moved)
      boundary.Live none := by
    have placed := owned.placed
    cases moved with
    | none =>
        rw [update_vacant vacant]
        exact placed
    | some stream => exact placed.put vacant
  refine ⟨?_, ?_, ?_, owned.objects, ?_, ?_, owned.distinct⟩
  · refine (kept.make owned.unused).congr (fun place => by rw [held]) live
  · intro outer stream there
    rw [held] at there
    rcases update_eq_some.mp there with ⟨same, moving⟩ | ⟨_, before⟩
    · cases same
      exact owned.below stream (owned.placed.loose stream moving).1
    · exact owned.older outer stream before
  · intro stream there
    rcases (live stream).mp there with rfl | before
    · exact Nat.lt_succ_self _
    · exact Nat.lt_succ_of_lt (owned.below stream before)
  · intro stream small
    rw [live]
    rcases Nat.lt_succ_iff_lt_or_eq.mp small with older | rfl
    · rcases owned.accounted stream older with before | gone
      · exact Or.inl (Or.inr before)
      · exact Or.inr gone
    · exact Or.inl (Or.inl rfl)
  · intro stream gone
    obtain ⟨dead, older⟩ := owned.spent stream gone
    refine ⟨?_, Nat.lt_succ_of_lt older⟩
    rw [live]
    rintro (rfl | alive)
    · exact Nat.lt_irrefl _ older
    · exact dead alive

/-- The moved stream is released, and with it the streams behind it, by induction on the fuel. -/
theorem Owned.release {fuel : Nat} {stream : Ptr} (owned : Owned (some stream) boundary)
    (enough : stream < fuel)
    : Owned none (releaseWith fuel stream boundary) := by
  induction fuel generalizing stream boundary with
  | zero => exact absurd enough (Nat.not_lt_zero stream)
  | succ fuel ih =>
      obtain ⟨alive, _⟩ := owned.placed.loose stream rfl
      have unreleased : stream ∉ boundary.released :=
        fun gone => (owned.spent stream gone).1 alive
      let after : Boundary β :=
        {
          boundary with
          readers := Function.update boundary.readers stream none
          released := boundary.released ++ [stream]
        }
      have held : after.held = Function.update boundary.held (.inside stream) none :=
        held_readers boundary stream none _ _ _ _
      have live : ∀ other, after.Live other ↔ other ≠ stream ∧ boundary.Live other := by
        intro other
        by_cases same : other = stream
        · subst same
          simp [after, Boundary.Live]
        · simp [after, Boundary.Live, same]
      have freed : Owned (boundary.held (.inside stream)) after := by
        refine ⟨?_, ?_, ?_, owned.objects, ?_, ?_, ?_⟩
        · exact (owned.placed.free.take (.inside stream)).congr (fun place => by rw [held]) live
        · intro outer inner there
          rw [held] at there
          rcases update_eq_some.mp there with ⟨_, none⟩ | ⟨_, before⟩
          · cases none
          · exact owned.older outer inner before
        · intro other there
          exact owned.below other ((live other).mp there).2
        · intro other small
          by_cases same : other = stream
          · exact Or.inr (List.mem_append.mpr (Or.inr (List.mem_singleton.mpr same)))
          · rcases owned.accounted other small with before | gone
            · exact Or.inl ((live other).mpr ⟨same, before⟩)
            · exact Or.inr (List.mem_append.mpr (Or.inl gone))
        · intro other gone
          rcases List.mem_append.mp gone with before | now
          · obtain ⟨dead, small⟩ := owned.spent other before
            exact ⟨fun there => dead ((live other).mp there).2, small⟩
          · cases List.mem_singleton.mp now
            exact ⟨fun there => ((live stream).mp there).1 rfl, owned.below stream alive⟩
        · refine List.nodup_append.mpr ⟨owned.distinct, List.nodup_singleton stream, ?_⟩
          rintro other gone _ now rfl
          cases List.mem_singleton.mp now
          exact unreleased gone
      rw [releaseWith]
      cases reads : boundary.readers stream with
      | none => exact absurd reads alive
      | some reader =>
          have inside : boundary.held (.inside stream) = reader.inner := by
            rw [Boundary.held, reads]
            rfl
          rw [inside] at freed
          cases reader with
          | batches | invalid => exact freed
          | imported inner =>
              have younger := owned.older stream inner inside
              exact ih freed (Nat.lt_of_lt_of_le younger (Nat.le_of_lt_succ enough))

/-- Reading from a stream moves nothing; by induction on the fuel. -/
theorem nextWith_keeps (fuel : Nat) (stream : Ptr) (boundary : Boundary β)
    : (nextWith fuel stream boundary).2.held = boundary.held
      ∧ (∀ other, (nextWith fuel stream boundary).2.Live other ↔ boundary.Live other)
      ∧ (nextWith fuel stream boundary).2.objects = boundary.objects
      ∧ (nextWith fuel stream boundary).2.nextObject = boundary.nextObject
      ∧ (nextWith fuel stream boundary).2.nextPtr = boundary.nextPtr
      ∧ (nextWith fuel stream boundary).2.released = boundary.released := by
  induction fuel generalizing stream with
  | zero => exact ⟨rfl, fun _ => Iff.rfl, rfl, rfl, rfl, rfl⟩
  | succ fuel ih =>
      rw [nextWith]
      cases reads : boundary.readers stream with
      | none => exact ⟨rfl, fun _ => Iff.rfl, rfl, rfl, rfl, rfl⟩
      | some reader =>
          cases reader with
          | imported inner => exact ih inner
          | invalid failure => exact ⟨rfl, fun _ => Iff.rfl, rfl, rfl, rfl, rfl⟩
          | batches rest =>
              cases rest with
              | nil => exact ⟨rfl, fun _ => Iff.rfl, rfl, rfl, rfl, rfl⟩
              | cons batch rest =>
                  refine ⟨?_, ?_, rfl, rfl, rfl, rfl⟩
                  · refine (held_readers boundary stream _ _ _ _ _).trans ?_
                    refine update_vacant ?_
                    rw [Boundary.held, reads]
                    rfl
                  · intro other
                    by_cases same : other = stream
                    · subst same
                      simp [Boundary.Live, reads]
                    · simp [Boundary.Live, same]

theorem Owned.read (owned : Owned moved boundary) (fuel : Nat) (stream : Ptr)
    : Owned moved (nextWith fuel stream boundary).2 := by
  obtain ⟨held, live, objects, nextObject, nextPtr, released⟩ :=
    nextWith_keeps fuel stream boundary
  refine ⟨owned.placed.congr (fun place => by rw [held]) live, ?_, ?_, ?_, ?_, ?_, ?_⟩
  · rw [held]
    exact owned.older
  · intro other there
    rw [nextPtr]
    exact owned.below other ((live other).mp there)
  · rw [objects, nextObject]
    exact owned.objects
  · intro other small
    rw [nextPtr] at small
    rw [live, released]
    exact owned.accounted other small
  · intro other gone
    rw [released] at gone
    rw [live, nextPtr]
    exact owned.spent other gone
  · rw [released]
    exact owned.distinct

end Moves

end Fedqrs
