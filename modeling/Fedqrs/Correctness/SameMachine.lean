import Fedqrs.Engine.Execute

/-! Machines that hold the same relations under the same names, wherever each relation
lives, and evictions, which keep them so.
-/

namespace Fedqrs

open EngineM

variable {σ β α : Type}

-----------------------------------------------------------------------------------------
-- The unlimited run and plans without files
-----------------------------------------------------------------------------------------

def Host.unlimited (host : Host β) : Host β := { host with residentBindingsBudget := none }

def Engine.unlimited (engine : Engine σ β) : Engine σ β :=
  { engine with host := engine.host.unlimited }

mutual
/-- The plan with every stream over a file replaced by a table of the same relation. -/
def LogicalPlan.resident : LogicalPlan β → LogicalPlan β
  | .memTable batches => .memTable batches
  | .spillStream file => .memTable file
  | .fragment fragment names inputs => .fragment fragment names (residentAll inputs)

def residentAll : List (LogicalPlan β) → List (LogicalPlan β)
  | [] => []
  | plan :: rest => plan.resident :: residentAll rest
end

def residentContext (ctx : Context β) : Context β :=
  ctx.map (fun table => (table.1, table.2.resident))

@[simp]
theorem residentAll_eq_map (plans : List (LogicalPlan β))
    : residentAll plans = plans.map LogicalPlan.resident := by
  induction plans with
  | nil => rfl
  | cons plan rest ih => simp only [residentAll, List.map_cons, ih]

@[simp]
theorem residentContext_names (ctx : Context β)
    : (residentContext ctx).map Prod.fst = ctx.map Prod.fst := by
  simp [residentContext, Function.comp_def]

@[simp]
theorem residentContext_append (ctx : Context β) (name : String) (plan : LogicalPlan β)
    : residentContext (ctx ++ [(name, plan)])
      = residentContext ctx ++ [(name, plan.resident)] := by
  simp [residentContext]

/-- Composing and replacing streams commute, tables being replaced one by one. -/
theorem composedPlan_resident (fragment : Fragment) (ctx : Context β)
    : (composedPlan fragment ctx).resident = composedPlan fragment (residentContext ctx) := by
  simp [composedPlan, LogicalPlan.resident, residentContext, Function.comp_def]

/-- What spilling rests on outside the engine: the file of a relation whose batches match
its schema gives the relation back, and DataFusion answers over the stream of a file as
over a table of the same relation.
-/
structure Streams (host : Host β) (fusion : DataFusion β) : Prop where
  back : ∀ batches, fusion.memTable batches = .ok () → host.writeIpc batches = .ok batches
  compose : ∀ fragment ctx,
    fusion.compose fragment (residentContext ctx) = fusion.compose fragment ctx
  executeRegion : ∀ plan spillable,
    fusion.executeRegion plan.resident spillable = fusion.executeRegion plan spillable
  projectDataframeDedup : ∀ plan,
    fusion.projectDataframeDedup plan.resident = fusion.projectDataframeDedup plan
  collectDistinct : ∀ plan key,
    fusion.collectDistinct plan.resident key = fusion.collectDistinct plan key
  guardViolations : ∀ keys ctx,
    fusion.guardViolations keys (residentContext ctx) = fusion.guardViolations keys ctx
  collectTable : ∀ ctx name,
    fusion.collectTable (residentContext ctx) name = fusion.collectTable ctx name

-----------------------------------------------------------------------------------------
-- Bindings and machines that denote the same
-----------------------------------------------------------------------------------------

/-- Two bindings hold the same relation, in memory or on disk. A stored relation matches
its schema; a plan may read a file where the other one reads a table.
-/
inductive SameRelation (host : Host β) (fusion : DataFusion β) : Binding β → Binding β → Prop
  | materialized (batches : β) (conforms : fusion.memTable batches = .ok ())
    : SameRelation host fusion (.materialized batches) (.materialized batches)
  | spilled (batches : β) (conforms : fusion.memTable batches = .ok ())
    : SameRelation host fusion
        (.spilled { file := batches, bytes := host.batchesBytes batches })
        (.materialized batches)
  | keys (batches : β) : SameRelation host fusion (.keys batches) (.keys batches)
  | lazy (region other : LazyRegion β) (plan : region.plan.resident = other.plan.resident)
    (bytes : region.inputBytes = other.inputBytes)
    : SameRelation host fusion (.lazy region) (.lazy other)

/-- A limited and an unlimited machine agree in everything but where relations live. -/
structure SameMachine (host : Host β) (fusion : DataFusion β)
    (limited unlimited : Machine σ β)
    : Prop where
  source : limited.source = unlimited.source
  remaining : limited.remaining = unlimited.remaining
  bindings : ∀ name,
    Option.Rel (SameRelation host fusion) (limited.bindings.lookup name)
      (unlimited.bindings.lookup name)

/-- What is left to agree on after a failure. -/
def SameSource (limited unlimited : Machine σ β) : Prop :=
  limited.source = unlimited.source

/-- Contexts that register the same relations, and equal byte counts. -/
def SameInputs (left right : Context β × Nat) : Prop :=
  residentContext left.1 = residentContext right.1 ∧ left.2 = right.2

section Machines

variable {host : Host β} {fusion : DataFusion β} {l r : Machine σ β}

theorem SameMachine.insert (same : SameMachine host fusion l r) (name : String)
    {left right : Binding β} (binding : SameRelation host fusion left right)
    : SameMachine host fusion { l with bindings := l.bindings.insert name left }
        { r with bindings := r.bindings.insert name right } where
  source := same.source
  remaining := same.remaining
  bindings other := by
    by_cases eq : other = name
    · subst eq
      simpa using Option.Rel.some binding
    · simpa [AList.lookup_insert_ne eq] using same.bindings other

theorem SameMachine.erase (same : SameMachine host fusion l r) (name : String)
    : SameMachine host fusion { l with bindings := l.bindings.erase name }
        { r with bindings := r.bindings.erase name } where
  source := same.source
  remaining := same.remaining
  bindings other := by
    by_cases eq : other = name
    · subst eq
      simp only [AList.lookup_erase]
      exact Option.Rel.none
    · simpa [AList.lookup_erase_ne eq] using same.bindings other

theorem SameMachine.countedDown (same : SameMachine host fusion l r) (name : String)
    : SameMachine host fusion { l with remaining := Fedqrs.countedDown l.remaining name }
        { r with remaining := Fedqrs.countedDown r.remaining name } where
  source := same.source
  remaining := by rw [same.remaining]
  bindings := same.bindings

/-- Replacing what the limited side holds under a name by the same relation. -/
theorem SameMachine.replaceLeft (same : SameMachine host fusion l r) {name : String}
    {left right : Binding β} (found : r.bindings.lookup name = some right)
    (binding : SameRelation host fusion left right) (files : List β)
    : SameMachine host fusion
        { l with files, bindings := (l.bindings.erase name).insert name left } r where
  source := same.source
  remaining := same.remaining
  bindings other := by
    by_cases eq : other = name
    · subst eq
      simpa [found] using Option.Rel.some binding
    · simpa [AList.lookup_insert_ne eq, AList.lookup_erase_ne eq] using same.bindings other

end Machines

-----------------------------------------------------------------------------------------
-- Eviction
-----------------------------------------------------------------------------------------

section Eviction

variable {host : Host β} {fusion : DataFusion β} {l r : Machine σ β}

/-- A resident binding of the limited machine is the same relation on the other side. -/
theorem SameMachine.of_materialized (same : SameMachine host fusion l r) {name : String}
    {batches : β} (found : l.bindings.lookup name = some (.materialized batches))
    : r.bindings.lookup name = some (.materialized batches)
      ∧ fusion.memTable batches = .ok () := by
  have binding := same.bindings name
  rw [found] at binding
  generalize other : r.bindings.lookup name = found' at binding
  cases binding with
  | some binding =>
      cases binding with
      | materialized _ conforms => exact ⟨rfl, conforms⟩

/-- The eviction loop succeeds and moves relations to disk only. Witness: induction over
the sized names, each of which is resident until its turn.
-/
theorem spillInOrder_same (streams : Streams host fusion) (incoming : Nat)
    (sized : List (String × Nat)) (resident : Nat) (same : SameMachine host fusion l r)
    (distinct : (sized.map Prod.fst).Nodup)
    (held : ∀ entry ∈ sized, ∃ batches,
      l.bindings.lookup entry.1 = some (.materialized batches))
    : ∃ l', spillInOrder host incoming sized resident l = (.ok (), l')
      ∧ SameMachine host fusion l' r := by
  induction sized generalizing resident l with
  | nil => exact ⟨l, rfl, same⟩
  | cons head rest ih =>
      obtain ⟨name, bytes⟩ := head
      unfold spillInOrder
      split
      · obtain ⟨batches, found⟩ := held (name, bytes) (by simp)
        obtain ⟨onRight, conforms⟩ := same.of_materialized found
        rw [Proc.bind_of_ok (takeSized_of_materialized found),
          Proc.bind_of_ok (spillTo_of_ok (streams.back batches conforms) name _)]
        have moved := same.replaceLeft onRight (.spilled batches conforms)
          (l.files ++ [batches])
        have parts := List.nodup_cons.mp distinct
        refine ih _ moved parts.2 ?_
        intro entry member
        have ne : entry.1 ≠ name := by
          intro eq
          exact parts.1 (List.mem_map.mpr ⟨entry, member, eq⟩)
        obtain ⟨other, found'⟩ := held entry (List.mem_cons_of_mem _ member)
        exact ⟨other, by simpa [AList.lookup_insert_ne ne, AList.lookup_erase_ne ne] using found'⟩
      · exact ⟨l, rfl, same⟩

/-- The sizes are listed once per name, for names that are resident. -/
theorem residentSizes_spec (host : Host β) (bindings : Bindings β)
    : ((residentSizes host bindings).map Prod.fst).Nodup
      ∧ ∀ entry ∈ residentSizes host bindings, ∃ batches,
          bindings.lookup entry.1 = some (.materialized batches)
            ∧ entry.2 = host.batchesBytes batches := by
  constructor
  · have sub : ((residentSizes host bindings).map Prod.fst).Sublist bindings.keys := by
      unfold residentSizes AList.keys List.keys
      induction bindings.entries with
      | nil => exact List.Sublist.slnil
      | cons entry rest ih =>
          obtain ⟨name, binding⟩ := entry
          cases binding with
          | materialized batches => exact ih.cons_cons name
          | keys | lazy | spilled => exact ih.cons name
    exact sub.nodup bindings.keys_nodup
  · intro entry member
    obtain ⟨⟨name, binding⟩, stored, picked⟩ := List.mem_filterMap.mp member
    cases binding with
    | materialized batches =>
        cases Option.some.inj picked
        exact ⟨batches, AList.mem_lookup_iff.mpr stored, rfl⟩
    | keys | lazy | spilled => exact absurd picked (by simp)

/-- Making headroom succeeds and moves relations to disk only. -/
theorem spillForHeadroom_same (streams : Streams host fusion) (incoming : Nat)
    (same : SameMachine host fusion l r)
    : ∃ l', spillForHeadroom host incoming l = (.ok (), l')
      ∧ SameMachine host fusion l' r := by
  obtain ⟨distinct, held⟩ := residentSizes_spec host l.bindings
  have order := (List.perm_insertionSort (fun a b : String × Nat => b.2 ≤ a.2)
    (host.iterationOrder (residentSizes host l.bindings))).trans
      (host.iterationOrder_perm (residentSizes host l.bindings))
  refine spillInOrder_same streams incoming _ _ same ?_ ?_
  · exact (order.map Prod.fst).nodup_iff.mpr distinct
  · intro entry member
    obtain ⟨batches, found, _⟩ := held entry (order.mem_iff.mp member)
    exact ⟨batches, found⟩

/-- After storing, the stored name holds the relation, in memory if it fits the budget. -/
theorem storeRelation_same (streams : Streams host fusion) (name : String) {batches : β}
    (conforms : fusion.memTable batches = .ok ()) (same : SameMachine host fusion l r)
    : ∃ l' r',
        storeRelation host name batches l = (.ok (), l')
          ∧ storeRelation host.unlimited name batches r = (.ok (), r')
          ∧ SameMachine host fusion l' r'
          ∧ r'.bindings.lookup name = some (.materialized batches)
          ∧ (host.exceeds (host.batchesBytes batches) = false
            → l'.bindings.lookup name = some (.materialized batches)) := by
  obtain ⟨l', roomed, same'⟩ :=
    spillForHeadroom_same streams (host.batchesBytes batches) same
  have right := storeRelation_unlimited host.unlimited rfl name batches r
  unfold storeRelation at right ⊢
  rw [right, Proc.bind_of_ok roomed]
  split
  case isTrue exceeds =>
    refine ⟨_, _, spillTo_of_ok (streams.back batches conforms) name l', rfl, ?_, ?_, ?_⟩
    · exact { same'.insert name (.spilled batches conforms) with }
    · simp
    · intro fits
      rw [exceeds] at fits
      contradiction
  case isFalse =>
    refine ⟨_, _, rfl, rfl, same'.insert name (.materialized batches conforms), ?_, ?_⟩
    · simp
    · simp

/-- Storing the same relation keeps the machines the same. -/
theorem storeRelation_agree (streams : Streams host fusion) (name : String) {batches : β}
    (conforms : fusion.memTable batches = .ok ()) (same : SameMachine host fusion l r)
    : Proc.Alike (SameMachine host fusion) SameSource Eq
        (storeRelation host name batches l) (storeRelation host.unlimited name batches r) := by
  obtain ⟨l', r', left, right, same', _⟩ := storeRelation_same streams name conforms same
  rw [left, right]
  exact ⟨rfl, same'⟩

end Eviction

end Fedqrs
