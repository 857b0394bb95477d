import Mathlib.Data.List.Basic

/-! JSON documents after parsing, and what can be computed from one by folding it. -/

namespace Fedqrs

/-- A number as a JSON parser keeps it: unsigned or negative while it fits an integer, else
the bit pattern of a float.
-/
inductive JsonNumber
  | posInt (value : Nat)
  | negInt (value : Int)
  | float (bits : UInt64)

/-- A JSON document. An object keeps its members in order, repeated keys included. -/
inductive Json
  | null
  | bool (value : Bool)
  | number (value : JsonNumber)
  | string (value : String)
  | array (items : List Json)
  | object (members : List (String × Json))

namespace Json

/-- What is computed at each form of a document from what its parts gave. -/
structure Algebra (A : Type) where
  null : A
  bool : Bool → A
  number : JsonNumber → A
  string : String → A
  array : List A → A
  object : List (String × A) → A

section Fold

variable {A : Type} (algebra : Algebra A)

mutual
def fold : Json → A
  | .null => algebra.null
  | .bool value => algebra.bool value
  | .number value => algebra.number value
  | .string value => algebra.string value
  | .array items => algebra.array (foldItems items)
  | .object members => algebra.object (foldMembers members)

def foldItems : List Json → List A
  | [] => []
  | item :: rest => fold item :: foldItems rest

def foldMembers : List (String × Json) → List (String × A)
  | [] => []
  | (key, json) :: rest => (key, fold json) :: foldMembers rest
end

theorem foldItems_eq (items : List Json) : foldItems algebra items = items.map (fold algebra) := by
  induction items with
  | nil => rfl
  | cons item rest ih => rw [foldItems, ih, List.map_cons]

theorem foldMembers_eq (members : List (String × Json))
    : foldMembers algebra members
      = members.map (fun member => (member.1, fold algebra member.2)) := by
  induction members with
  | nil => rfl
  | cons member rest ih =>
      obtain ⟨key, json⟩ := member
      rw [foldMembers, ih, List.map_cons]

theorem fold_array (items : List Json)
    : fold algebra (.array items) = algebra.array (items.map (fold algebra)) := by
  rw [fold, foldItems_eq]

theorem fold_object (members : List (String × Json))
    : fold algebra (.object members)
      = algebra.object (members.map (fun member => (member.1, fold algebra member.2))) := by
  rw [fold, foldMembers_eq]

end Fold

/-- Induction over a document, through the items of arrays and the members of objects. -/
theorem induct {motive : Json → Prop} (null : motive .null)
    (bool : ∀ value, motive (.bool value)) (number : ∀ value, motive (.number value))
    (string : ∀ value, motive (.string value))
    (array : ∀ items, (∀ item ∈ items, motive item) → motive (.array items))
    (object : ∀ members, (∀ member ∈ members, motive member.2) → motive (.object members))
    (json : Json)
    : motive json := by
  refine @Json.rec motive (fun items => ∀ item ∈ items, motive item)
    (fun members => ∀ member ∈ members, motive member.2) (fun member => motive member.2)
    null bool number string array object ?_ ?_ ?_ ?_ ?_ json
  · intro item inside
    cases inside
  · intro head rest here there
    exact List.forall_mem_cons.mpr ⟨here, there⟩
  · intro member inside
    cases inside
  · intro head rest here there
    exact List.forall_mem_cons.mpr ⟨here, there⟩
  · intro key json here
    exact here

end Json

end Fedqrs
