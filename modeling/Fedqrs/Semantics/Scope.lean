import Fedqrs.Engine.Execute

/-! What the names of a plan stand for, read off the plan alone: which steps find what they
read, and which names are still bound between two steps.
-/

namespace Fedqrs

/-- What a binding is to its readers: a relation, in whatever form it is held, or a key set.
-/
inductive BindingKind
  | relation
  | keys
deriving DecidableEq, Repr

def Binding.kind {β : Type} : Binding β → BindingKind
  | .keys _ => .keys
  | .materialized _ | .lazy _ | .spilled _ => .relation

/-- The kind of each name, as its last write left it. -/
abbrev Scope : Type := NameMap BindingKind

/-- The name a step writes, with its kind. -/
def Step.writes : Step → Option (String × BindingKind)
  | .sourceScan _ _ binding _ => some (binding, .relation)
  | .collectDistinct _ _ _ binding => some (binding, .keys)
  | .injectedScan _ _ _ _ binding _ _ => some (binding, .relation)
  | .merge _ _ binding => some (binding, .relation)
  | .ship _ _ _ | .return _ => none

def Step.returns : Step → Bool
  | .return _ => true
  | _ => false

-----------------------------------------------------------------------------------------
-- Scoped plans
-----------------------------------------------------------------------------------------

def Scope.after (scope : Scope) (step : Step) : Scope :=
  match step.writes with
  | some (name, kind) => scope.insert name kind
  | none => scope

/-- Whether a step finds what it reads: names of the kind it needs, and its fragment. -/
def Step.inScope (ir : Ir) (scope : Scope) : Step → Bool
  | .sourceScan _ _ _ _ => true
  | .collectDistinct input _ _ _ => scope.lookup input = some .relation
  | .injectedScan _ _ _ keysFrom _ _ extras =>
      scope.lookup keysFrom = some .keys
        && extras.all (fun extra => scope.lookup extra.keysFrom = some .keys)
  | .ship _ input _ => scope.lookup input = some .relation
  | .merge fragment inputs _ =>
      (ir.fragments.lookup fragment).isSome
        && inputs.entries.all (fun entry => scope.lookup entry.2 = some .relation)
  | .return input => scope.lookup input = some .relation

/-- Whether every step up to the first return finds what it reads, and there is a return. -/
def scopedFrom (ir : Ir) : Scope → List Step → Bool
  | _, [] => false
  | scope, step :: rest =>
      step.inScope ir scope && (step.returns || scopedFrom ir (scope.after step) rest)

def Ir.scoped (ir : Ir) : Bool := scopedFrom ir ∅ ir.steps

-----------------------------------------------------------------------------------------
-- The names still bound
-----------------------------------------------------------------------------------------

/-- Drop each name that is read here for the last time, the reads to come being `future`. -/
def Scope.dropRead (future : List String) : List String → Scope → Scope
  | [], held => held
  | name :: rest, held =>
      Scope.dropRead future rest (if name ∈ rest ++ future then held else held.erase name)

/-- What is bound after a step: a merge drops the inputs that no later step reads, the other
steps drop nothing.
-/
def Scope.heldAfter (future : List String) (held : Scope) (step : Step) : Scope :=
  match step with
  | .merge _ _ binding => (held.dropRead future step.reads).insert binding .relation
  | _ => held.after step

/-- What is bound after some steps, `future` being the reads of the steps after them. -/
def Scope.heldThrough (future : List String) : List Step → Scope → Scope
  | [], held => held
  | step :: rest, held =>
      Scope.heldThrough future rest
        (held.heldAfter (rest.flatMap Step.reads ++ future) step)

-----------------------------------------------------------------------------------------
-- A name still to be read is still bound
-----------------------------------------------------------------------------------------

/-- The names that are still to be read are bound to what was written. -/
def Scope.Serves (held scope : Scope) (future : List String) : Prop :=
  ∀ name ∈ future, held.lookup name = scope.lookup name

theorem Scope.lookup_dropRead {future : List String} {name : String} (later : name ∈ future)
    (reads : List String) (held : Scope)
    : (held.dropRead future reads).lookup name = held.lookup name := by
  induction reads generalizing held with
  | nil => rfl
  | cons head rest ih =>
      rw [Scope.dropRead, ih]
      split
      · rfl
      · rename_i last
        have differs : name ≠ head := by
          rintro rfl
          exact last (List.mem_append_right rest later)
        exact AList.lookup_erase_ne differs

theorem Scope.Serves.insert {held scope : Scope} {future : List String}
    (serves : held.Serves scope future) (name : String) (kind : BindingKind)
    : Scope.Serves (AList.insert name kind held) (AList.insert name kind scope) future := by
  intro other member
  by_cases same : other = name
  · subst same
    simp
  · rw [AList.lookup_insert_ne same, AList.lookup_insert_ne same]
    exact serves other member

/-- A step leaves every name bound that a later step reads, by cases on the step. -/
theorem Scope.Serves.after {held scope : Scope} {future : List String} {step : Step}
    (serves : held.Serves scope (step.reads ++ future))
    : (held.heldAfter future step).Serves (scope.after step) future := by
  have later : held.Serves scope future :=
    fun name member => serves name (List.mem_append_right _ member)
  cases step with
  | sourceScan | collectDistinct | injectedScan => exact later.insert _ _
  | ship | «return» => exact later
  | merge fragment inputs binding =>
      refine Scope.Serves.insert ?_ binding .relation
      intro name member
      rw [Scope.lookup_dropRead member]
      exact later name member

end Fedqrs
