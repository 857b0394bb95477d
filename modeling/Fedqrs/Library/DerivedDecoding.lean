import Fedqrs.Library.Json
import Fedqrs.Library.Proc
import Mathlib.Algebra.Order.Ring.Int
import Mathlib.Algebra.Order.Ring.Nat
import Mathlib.Data.List.AList
import Mathlib.Data.List.Sort

/-! Decoding of JSON documents as it is derived from the declarations of types: structures,
enumerations tagged inside their object, and enumerations of plain names. A tag has to be a
declared one and a field without a default has to be there; other members are skipped. What a
tagged object holds is buffered until its tag is known, and a buffered tag may be a place among
the variants instead of a name.
-/

namespace Fedqrs

/-- Why a document does not decode. -/
inductive DecodeError
  | invalidType
  | invalidLength
  | unknownVariant (tag : String)
  | unknownIndex (place : Nat)
  | invalidValue
  | missingField (name : String)
  | duplicateField (name : String)
deriving DecidableEq

/-- Where a value is read: from the document as it comes, or from what was buffered of it. -/
inductive ReadMode
  | streamed
  | buffered
deriving DecidableEq

/-- The declared shape of a value; `node` is a declared type. -/
inductive Shape (ι : Type)
  | unit (mode : ReadMode)
  | string
  | bool
  | unsigned
  | signed
  | float
  | option (inner : Shape ι)
  | list (item : Shape ι)
  | map (value : Shape ι)
  | node (type : ι)

/-- The values of a shape, `Node` those of the declared types. -/
def Shape.Value {ι : Type} (Node : ι → Type) : Shape ι → Type
  | .unit _ => Unit
  | .string => String
  | .bool => Bool
  | .unsigned => Nat
  | .signed => Int
  | .float => UInt64
  | .option inner => Option (inner.Value Node)
  | .list item => List (item.Value Node)
  | .map value => AList (fun _ : String => value.Value Node)
  | .node type => Node type

-----------------------------------------------------------------------------------------
-- Declarations
-----------------------------------------------------------------------------------------

section Declarations

variable {ι : Type} (Node : ι → Type)

/-- A declared field, with its value where a document leaves it out. -/
structure FieldDecl where
  name : String
  shape : Shape ι
  default : Option (shape.Value Node)

/-- What makes a result of the values of some fields. -/
def Constructor (result : Type) : List (FieldDecl Node) → Type
  | [] => result
  | field :: rest => field.shape.Value Node → Constructor result rest

/-- A variant of an enumeration, under its tag. -/
structure Variant (result : Type) where
  tag : String
  fields : List (FieldDecl Node)
  make : Constructor Node result fields

/-- The declaration of a type: a structure, an enumeration whose tag is a member of the
object, or an enumeration of names; for enumerations also where their values are read.
-/
inductive Layout (result : Type)
  | struct (fields : List (FieldDecl Node)) (make : Constructor Node result fields)
  | tagged (tag : String) (mode : ReadMode) (variants : List (Variant Node result))
  | names (mode : ReadMode) (values : List (String × result))

/-- The declaration of every type. -/
abbrev Grammar : Type := (type : ι) → Layout Node (Node type)

/-- What reads one document as a value of any shape. -/
abbrev Reader : Type := (shape : Shape ι) → Except DecodeError (shape.Value Node)

end Declarations

variable {ι : Type} {Node : ι → Type} {result : Type}

/-- A field that a document has to give. -/
def required (name : String) (shape : Shape ι) : FieldDecl Node := { name, shape, default := none }

/-- A field that a document may leave out. -/
def defaulted (name : String) (shape : Shape ι) (value : shape.Value Node) : FieldDecl Node :=
  { name, shape, default := some value }

/-- The member that is the tag, if the layout has one; an enumeration of names reads an object
whose one key is the name.
-/
def Layout.isTag (layout : Layout Node result) (key : String) : Bool :=
  match layout with
  | .struct _ _ => false
  | .tagged tag _ _ => key = tag
  | .names _ values => values.any (fun value => value.1 = key)

/-- A tag as a document gives it. -/
inductive TagValue
  | name (text : String)
  | index (place : Nat)

/-- The variant that a tag is declared for. -/
def TagValue.pick (variants : List (Variant Node result))
    : TagValue → Except DecodeError (Variant Node result)
  | .name text =>
      match variants.find? (fun variant => variant.tag = text) with
      | some variant => .ok variant
      | none => .error (.unknownVariant text)
  | .index place =>
      match variants[place]? with
      | some variant => .ok variant
      | none => .error (.unknownIndex place)

/-- The fields to read, given what reads the tag. -/
def Layout.chosen (layout : Layout Node result)
    (tagged : ReadMode → String → Except DecodeError TagValue)
    : Except DecodeError (Variant Node result) :=
  match layout with
  | .struct fields make => .ok { tag := "", fields, make }
  | .tagged tag mode variants => do
      let value ← tagged mode tag
      value.pick variants
  | .names _ _ => .error .invalidType

/-- Read a tag: a name, or where it was buffered a place too. -/
def readTag (mode : ReadMode) (reader : Reader Node) : Except DecodeError TagValue :=
  match reader .string, mode with
  | .ok text, _ => .ok (.name text)
  | .error failure, .streamed => .error failure
  | .error _, .buffered => (reader .unsigned).map TagValue.index

section Tags

variable {A : Type} (read : A → Except DecodeError TagValue)

/-- The tag among the members of an object. -/
def tagAmong (members : List (String × A)) (tag : String) : Except DecodeError TagValue :=
  match members.find? (fun member => member.1 = tag) with
  | some member => read member.2
  | none => .error (.missingField tag)

/-- The tag before the items of an array. -/
def tagBefore (items : List A) (tag : String) : Except DecodeError TagValue :=
  match items with
  | first :: _ => read first
  | [] => .error (.missingField tag)

end Tags

-----------------------------------------------------------------------------------------
-- Reading fields
-----------------------------------------------------------------------------------------

/-- The values read so far of some fields. -/
def Slots (Node : ι → Type) : List (FieldDecl Node) → Type
  | [] => Unit
  | field :: rest => Option (field.shape.Value Node) × Slots Node rest

namespace Slots

def empty : (fields : List (FieldDecl Node)) → Slots Node fields
  | [] => ()
  | _ :: rest => (none, empty rest)

/-- Read one member: the first field of its name takes it, and takes only one. -/
def fill (key : String) (reader : Reader Node)
    : (fields : List (FieldDecl Node)) → Slots Node fields
      → Except DecodeError (Slots Node fields)
  | [], slots => .ok slots
  | field :: rest, (slot, others) =>
      if field.name = key then
        match slot with
        | some _ => .error (.duplicateField key)
        | none => do
            let value ← reader field.shape
            pure (some value, others)
      else do
        let filled ← fill key reader rest others
        pure (slot, filled)

/-- Read the members of an object in order. -/
def fillAll (fields : List (FieldDecl Node))
    : List (String × Reader Node) → Slots Node fields
      → Except DecodeError (Slots Node fields)
  | [], slots => .ok slots
  | (key, reader) :: rest, slots => do
      let filled ← fill key reader fields slots
      fillAll fields rest filled

/-- Read the items of an array as the fields in order. -/
def fillInOrder
    : (fields : List (FieldDecl Node)) → List (Reader Node)
      → Except DecodeError (Slots Node fields)
  | [], [] => .ok ()
  | [], _ :: _ => .error .invalidLength
  | field :: rest, [] => .ok (empty (field :: rest))
  | field :: rest, reader :: readers => do
      let value ← reader field.shape
      let others ← fillInOrder rest readers
      pure (some value, others)

/-- Make the result, each field from its slot or its default. -/
def build
    : (fields : List (FieldDecl Node)) → Slots Node fields → Constructor Node result fields
      → Except DecodeError result
  | [], _, made => .ok made
  | field :: rest, (slot, others), make =>
      match slot.or field.default with
      | some value => build rest others (make value)
      | none => .error (.missingField field.name)

end Slots

/-- An object keeps its tag once. -/
def Layout.tagOnce (layout : Layout Node result) (keys : List String)
    : Except DecodeError Unit :=
  match layout with
  | .tagged tag _ _ =>
      if 1 < keys.count tag then .error (.duplicateField tag) else .ok ()
  | .struct _ _ | .names _ _ => .ok ()

/-- Read an object by the fields that its tag chooses. -/
def Layout.readFields (layout : Layout Node result) (members : List (String × Reader Node))
    : Except DecodeError result := do
  let variant ← layout.chosen (fun mode => tagAmong (readTag mode) members)
  layout.tagOnce (members.map Prod.fst)
  let slots ←
    Slots.fillAll variant.fields (members.filter (fun member => !layout.isTag member.1))
      (Slots.empty variant.fields)
  Slots.build variant.fields slots variant.make

/-- The value of a declared name. -/
def nameAmong (values : List (String × result)) (name : String) : Except DecodeError result :=
  match values.lookup name with
  | some value => .ok value
  | none => .error (.unknownVariant name)

/-- Read an object as a name: that of its one member, which has no value. -/
def readNamed (mode : ReadMode) (values : List (String × result))
    : List (String × Reader Node) → Except DecodeError result
  | [(name, reader)] => do
      let value ← nameAmong values name
      let _ ← reader (.unit mode)
      pure value
  | [] | _ :: _ :: _ => .error .invalidValue

/-- Read an object as a declared type. -/
def Layout.readMembers (layout : Layout Node result) (members : List (String × Reader Node))
    : Except DecodeError result :=
  match layout with
  | .names mode values => readNamed mode values members
  | .struct _ _ | .tagged _ _ _ => layout.readFields members

/-- The items of an array besides the tag. -/
def Layout.contents {A : Type} (layout : Layout Node result) (items : List A) : List A :=
  match layout with
  | .tagged _ _ _ => items.tail
  | .struct _ _ | .names _ _ => items

/-- Read an array as a declared type: the tag first, then the fields in order. -/
def Layout.readItems (layout : Layout Node result) (items : List (Reader Node))
    : Except DecodeError result := do
  let variant ← layout.chosen (fun mode => tagBefore (readTag mode) items)
  let slots ← Slots.fillInOrder variant.fields (layout.contents items)
  Slots.build variant.fields slots variant.make

/-- Read a name. -/
def Layout.readName (layout : Layout Node result) (name : String)
    : Except DecodeError result :=
  match layout with
  | .names _ values => nameAmong values name
  | .struct _ _ | .tagged _ _ _ => .error .invalidType

-----------------------------------------------------------------------------------------
-- Reading documents
-----------------------------------------------------------------------------------------

/-- A number where an unsigned 64-bit integer is declared. -/
def JsonNumber.unsigned : JsonNumber → Except DecodeError Nat
  | .posInt value => if value < 2 ^ 64 then .ok value else .error .invalidType
  | .negInt _ | .float _ => .error .invalidType

/-- A number where a signed 64-bit integer is declared. -/
def JsonNumber.signed : JsonNumber → Except DecodeError Int
  | .posInt value => if value < 2 ^ 63 then .ok value else .error .invalidType
  | .negInt value => if -(2 ^ 63) ≤ value then .ok value else .error .invalidType
  | .float _ => .error .invalidType

/-- A number where a float is declared: an integer is rounded to one. -/
def JsonNumber.double : JsonNumber → UInt64
  | .posInt value => (Float.ofNat value).toBits
  | .negInt value => (Float.ofInt value).toBits
  | .float bits => bits

/-- The entries of a map in key order, the last one of a repeated key. -/
def sortedMap {A : Type} (entries : List (String × A)) : AList (fun _ : String => A) :=
  (entries.reverse.insertionSort (fun a b => a.1 ≤ b.1)).foldr
    (fun entry map => map.insert entry.1 entry.2) ∅

/-- What is there is a value of the optional shape too. -/
def optional (read : Reader Node) : Reader Node
  | .option inner => (optional read inner).map some
  | .unit mode => read (.unit mode)
  | .string => read .string
  | .bool => read .bool
  | .unsigned => read .unsigned
  | .signed => read .signed
  | .float => read .float
  | .list item => read (.list item)
  | .map value => read (.map value)
  | .node type => read (.node type)

section Readers

variable (grammar : Grammar Node)

def readNull : Reader Node
  | .option _ => .ok none
  | .unit _ => .ok ()
  | .string | .bool | .unsigned | .signed | .float | .list _ | .map _ | .node _ =>
      .error .invalidType

def readBool (value : Bool) : Reader Node :=
  optional (fun
    | .bool => .ok value
    | .unit _ | .string | .unsigned | .signed | .float | .option _ | .list _ | .map _
    | .node _ =>
        .error .invalidType)

def readNumber (value : JsonNumber) : Reader Node :=
  optional (fun
    | .unsigned => value.unsigned
    | .signed => value.signed
    | .float => .ok value.double
    | .unit _ | .string | .bool | .option _ | .list _ | .map _ | .node _ =>
        .error .invalidType)

def readString (value : String) : Reader Node :=
  optional (fun
    | .string => .ok value
    | .node type => (grammar type).readName value
    | .unit _ | .bool | .unsigned | .signed | .float | .option _ | .list _ | .map _ =>
        .error .invalidType)

def readArray (items : List (Reader Node)) : Reader Node :=
  optional (fun
    | .list item => items.mapM (fun reader => reader item)
    | .node type => (grammar type).readItems items
    | .unit _ | .string | .bool | .unsigned | .signed | .float | .option _ | .map _ =>
        .error .invalidType)

/-- An object without members is a unit value where it was buffered. -/
def unitObject (mode : ReadMode) (members : List (String × Reader Node))
    : Except DecodeError Unit :=
  match mode, members with
  | .buffered, [] => .ok ()
  | .buffered, _ :: _ | .streamed, _ => .error .invalidType

def readObject (members : List (String × Reader Node)) : Reader Node :=
  optional (fun
    | .map value => do
        let entries ←
          members.mapM (fun member => do
            let read ← member.2 value
            pure (member.1, read))
        pure (sortedMap entries)
    | .node type => (grammar type).readMembers members
    | .unit mode => unitObject mode members
    | .string | .bool | .unsigned | .signed | .float | .option _ | .list _ =>
        .error .invalidType)

/-- Decode a document as a value of any shape. -/
def decode : Json → Reader Node :=
  Json.fold {
    null := readNull
    bool := readBool
    number := readNumber
    string := readString grammar
    array := readArray grammar
    object := readObject grammar
  }

end Readers

end Fedqrs
