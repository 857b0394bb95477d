import Fedqrs.Core.Expr
import Fedqrs.Library.Proc
import Mathlib.Logic.Function.Basic

/-! The boundary between Python and the engine: Arrow C streams, which are moved between stream
exports, capsules and readers, and released by whoever holds them last.
-/

namespace Fedqrs

/-- The private data of a stream, by address. -/
abbrev Ptr : Type := Nat

/-- The reader behind a stream: the batches it has still to give, a stream that was imported, or a
source that fails when it is asked for its schema.
-/
inductive StreamReader (β : Type)
  | batches (rest : List β)
  | imported (stream : Ptr)
  | invalid (failure : String)

/-- The C struct of a stream, which is empty once the stream was moved out of it. -/
abbrev Stream : Type := Option Ptr

/-- Python objects: a stream export, a capsule, an object whose `__arrow_c_stream__` hands out a
capsule that it holds, a consumer's reader, and what has no such method. A reader reads its stream
and does not expose it again.
-/
inductive Object
  | streamExport (inner : Stream)
  | capsule (stream : Stream)
  | source (capsule : Nat)
  | reader (stream : Ptr)
  | plain

/-- What an object holds. -/
def Object.stream : Object → Stream
  | .streamExport inner => inner
  | .capsule stream => stream
  | .reader stream => some stream
  | .source _ | .plain => none

/-- The streams and the Python objects, with the streams that were created over batches, the
releases and the batches given so far.
-/
structure Boundary (β : Type) where
  objects : Nat → Option Object
  nextObject : Nat
  readers : Ptr → Option (StreamReader β)
  nextPtr : Ptr
  created : List (Ptr × List β)
  released : List Ptr
  delivered : List (Ptr × β)

def Boundary.empty {β : Type} : Boundary β where
  objects _ := none
  nextObject := 0
  readers _ := none
  nextPtr := 0
  created := []
  released := []
  delivered := []

abbrev BoundaryM (β α : Type) : Type := Proc (Boundary β) PyErr α

section Streams

variable {β : Type}

/-- A new Python object. -/
def newObject (object : Object) : BoundaryM β Nat := fun boundary =>
  (.ok boundary.nextObject,
    {
      boundary with
      objects := Function.update boundary.objects boundary.nextObject (some object)
      nextObject := boundary.nextObject + 1
    })

/-- Set what an object holds, or drop it. -/
def putObject (id : Nat) (object : Option Object) : BoundaryM β Unit :=
  Proc.modify (fun boundary =>
    { boundary with objects := Function.update boundary.objects id object })

/-- A new stream over a reader. -/
def newStream (reader : StreamReader β) : BoundaryM β Ptr := fun boundary =>
  (.ok boundary.nextPtr,
    {
      boundary with
      readers := Function.update boundary.readers boundary.nextPtr (some reader)
      nextPtr := boundary.nextPtr + 1
      created :=
        match reader with
        | .batches rest => boundary.created ++ [(boundary.nextPtr, rest)]
        | .imported _ | .invalid _ => boundary.created
    })

/-- Call a stream's release callback, which drops its reader and so releases the stream that it
reads; a stream reads only older ones.
-/
def releaseWith : Nat → Ptr → Boundary β → Boundary β
  | 0, _, boundary => boundary
  | fuel + 1, stream, boundary =>
      let after :=
        {
          boundary with
          readers := Function.update boundary.readers stream none
          released := boundary.released ++ [stream]
        }
      match boundary.readers stream with
      | some (.imported inner) => releaseWith fuel inner after
      | some (.batches _) | some (.invalid _) | none => after

/-- Drop a stream struct, which releases what is in it. -/
def dropStream (stream : Stream) : BoundaryM β Unit :=
  Proc.modify (fun boundary =>
    match stream with
    | some held => releaseWith (held + 1) held boundary
    | none => boundary)

/-- The next batch of a stream, none at its end. -/
def nextWith : Nat → Ptr → Boundary β → Option β × Boundary β
  | 0, _, boundary => (none, boundary)
  | fuel + 1, stream, boundary =>
      match boundary.readers stream with
      | some (.batches (batch :: rest)) =>
          (some batch,
            {
              boundary with
              readers := Function.update boundary.readers stream (some (.batches rest))
              delivered := boundary.delivered ++ [(stream, batch)]
            })
      | some (.batches []) | some (.invalid _) | none => (none, boundary)
      | some (.imported inner) => nextWith fuel inner boundary

/-- Build an exportable stream from batches. -/
def streamFromBatches (batches : List β) : BoundaryM β Nat := do
  let stream ← newStream (.batches batches)
  newObject (.streamExport (some stream))

/-- Hand the C stream of an export to a consumer, in a new capsule. -/
def arrowCStream (id : Nat) (inner : Stream) : BoundaryM β Nat :=
  match inner with
  | none => Proc.fail "Arrow stream already consumed"
  | some stream => do
      putObject id (some (.streamExport none))
      newObject (.capsule (some stream))

/-- Move the stream out of a capsule. A struct that is empty gives no reader. -/
def takeStream (released : String) (id : Nat) : BoundaryM β Ptr := do
  let boundary ← Proc.get
  match boundary.objects id with
  | some (.capsule (some stream)) => do
      putObject id (some (.capsule none))
      pure stream
  | some (.capsule none) => Proc.fail ("invalid Arrow stream: " ++ released)
  | some (.streamExport _) | some (.source _) | some (.reader _) | some .plain | none =>
      Proc.fail "__arrow_c_stream__ did not return a PyCapsule"

/-- A reader asks the stream for its schema first, and drops it when it gives none. -/
def openStream (stream : Ptr) : BoundaryM β Ptr := do
  let boundary ← Proc.get
  match boundary.readers stream with
  | some (.invalid failure) => do
      dropStream (some stream)
      Proc.fail ("invalid Arrow stream: " ++ failure)
  | some (.batches _) | some (.imported _) | none => pure stream

/-- Import the stream that an object exposes. The capsule of an export is dropped with its last
reference.
-/
def importArrowStream (released : String) (id : Nat) : BoundaryM β Ptr := do
  let boundary ← Proc.get
  match boundary.objects id with
  | some (.streamExport inner) => do
      let capsule ← arrowCStream id inner
      let stream ← takeStream released capsule
      putObject capsule none
      openStream stream
  | some (.source capsule) => do
      let stream ← takeStream released capsule
      openStream stream
  | some (.capsule _) | some (.reader _) | some .plain | none =>
      Proc.fail "source reader did not return an Arrow stream (no __arrow_c_stream__)"

/-- Import a stream and export it again. -/
def roundtrip (released : String) (id : Nat) : BoundaryM β Nat := do
  let imported ← importArrowStream released id
  let stream ← newStream (.imported imported)
  newObject (.streamExport (some stream))

-----------------------------------------------------------------------------------------
-- What Python does
-----------------------------------------------------------------------------------------

/-- The reader behind a stream that a source makes. -/
def StreamReader.ofSource : Except String (List β) → StreamReader β
  | .ok rest => .batches rest
  | .error failure => .invalid failure

/-- What a call gives back. -/
inductive Given (β : Type)
  | object (id : Nat)
  | batch (next : Option β)
  | nothing

/-- The capsule that an object's `__arrow_c_stream__` hands out. -/
def handOut (id : Nat) : BoundaryM β Nat := do
  let boundary ← Proc.get
  match boundary.objects id with
  | some (.streamExport inner) => arrowCStream id inner
  | some (.source capsule) => pure capsule
  | some (.capsule _) | some (.reader _) | some .plain | none =>
      Proc.fail "no attribute '__arrow_c_stream__'"

/-- A consumer's reader of the stream that an object exposes. -/
def readerOf (released : String) (id : Nat) : BoundaryM β Nat := do
  let stream ← importArrowStream released id
  newObject (.reader stream)

/-- The next batch of a consumer's reader. -/
def readNext (id : Nat) : BoundaryM β (Option β) := do
  let boundary ← Proc.get
  match boundary.objects id with
  | some (.reader stream) => fun boundary =>
      let given := nextWith (stream + 1) stream boundary
      (.ok given.1, given.2)
  | some (.streamExport _) | some (.capsule _) | some (.source _) | some .plain | none =>
      Proc.fail "not a reader"

/-- Drop an object, and the stream that it holds. -/
def dropObject (id : Nat) : BoundaryM β Unit := do
  let boundary ← Proc.get
  putObject id none
  dropStream ((boundary.objects id).bind Object.stream)

/-- The calls of a Python program: to the extension, to a consumer of streams that follows the
protocol as the extension does, and to drop an object. Sources make streams of their own, which
may have no schema to give and do not fail later.
-/
inductive StreamCall (β : Type)
  | execute (batches : List β)
  | arrowCStream (id : Nat)
  | fromStream (id : Nat)
  | roundtrip (id : Nat)
  | makeCapsule (reader : Except String (List β))
  | makeSource (capsule : Nat)
  | makePlain
  | next (id : Nat)
  | drop (id : Nat)

def StreamCall.run (released : String) : StreamCall β → BoundaryM β (Given β)
  | .execute batches => do
      let id ← streamFromBatches batches
      pure (.object id)
  | .arrowCStream id => do
      let capsule ← handOut id
      pure (.object capsule)
  | .fromStream id => do
      let reader ← readerOf released id
      pure (.object reader)
  | .roundtrip id => do
      let again ← Fedqrs.roundtrip released id
      pure (.object again)
  | .makeCapsule reader => do
      let stream ← newStream (StreamReader.ofSource reader)
      let capsule ← newObject (.capsule (some stream))
      pure (.object capsule)
  | .makeSource capsule => do
      let source ← newObject (.source capsule)
      pure (.object source)
  | .makePlain => do
      let plain ← newObject .plain
      pure (.object plain)
  | .next id => do
      let next ← readNext id
      pure (.batch next)
  | .drop id => do
      dropObject id
      pure .nothing

/-- The boundary after some calls, each of which may have failed. -/
def runCalls (released : String) (calls : List (StreamCall β)) (boundary : Boundary β)
    : Boundary β :=
  calls.foldl (fun reached call => (call.run released reached).2) boundary

end Streams

end Fedqrs
