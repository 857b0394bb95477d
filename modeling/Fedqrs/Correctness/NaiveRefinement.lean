import Fedqrs.Correctness.Unspilled
import Fedqrs.Semantics.Naive
import Fedqrs.Semantics.Rows

/-! The engine refines the naive interpreter. What carries the proof is that the count kept
for a name is the number of its reads in the steps still to come, so that only a last reader
takes a binding out of the map.
-/

namespace Fedqrs

open EngineM

variable {σ β R α γ : Type}

-----------------------------------------------------------------------------------------
-- Outcomes
-----------------------------------------------------------------------------------------

/-- The computation succeeds with that property, unless it fails for an exhausted pool. -/
def Follows (holds : α → Machine σ β → Prop) : Except PyErr α × Machine σ β → Prop
  | (.ok value, machine) => holds value machine
  | (.error failure, _) => ∃ message, failure = (DfError.resourcesExhausted message).toPy

section Outcomes

/-- Sequencing, where the second part may use how the first one ended. -/
theorem Follows.bind {first : EngineM σ β α} {next : α → EngineM σ β γ}
    {holds : α → Machine σ β → Prop} {after : γ → Machine σ β → Prop}
    {machine : Machine σ β} (head : Follows holds (first machine))
    (tail : ∀ value reached, holds value reached → Follows after (next value reached))
    : Follows after ((first >>= next) machine) := by
  rcases ran : first machine with ⟨failure | value, reached⟩ <;> rw [ran] at head
  · rw [Proc.bind_of_error ran]
    exact head
  · rw [Proc.bind_of_ok ran]
    exact tail value reached head

theorem Follows.weaken {holds weaker : α → Machine σ β → Prop}
    {outcome : Except PyErr α × Machine σ β} (follows : Follows holds outcome)
    (implied : ∀ value machine, holds value machine → weaker value machine)
    : Follows weaker outcome := by
  rcases outcome with ⟨failure | value, machine⟩
  · exact follows
  · exact implied value machine follows

/-- A DataFusion result that holds unless exhausted, lifted. -/
theorem UnlessExhausted.liftDf {holds : α → Prop} {result : Except DfError α}
    (outcome : UnlessExhausted holds result) (machine : Machine σ β)
    : Follows (fun value reached => holds value ∧ reached = machine)
        (EngineM.liftDf result machine) := by
  cases result with
  | ok value => exact ⟨outcome, rfl⟩
  | error failure =>
      obtain ⟨message, rfl⟩ := outcome
      exact ⟨message, rfl⟩

theorem UnlessExhausted.bind {holds : α → Prop} {after : γ → Prop} {first : Except DfError α}
    {next : α → Except DfError γ} (head : UnlessExhausted holds first)
    (tail : ∀ value, holds value → UnlessExhausted after (next value))
    : UnlessExhausted after (first >>= next) := by
  cases first with
  | ok value => exact tail value head
  | error failure => exact head

end Outcomes

-----------------------------------------------------------------------------------------
-- The refinement relation
-----------------------------------------------------------------------------------------

section Relation

variable (fusion : DataFusion β) (rows : β → R)
  (op : Fragment → List String → List R → Option R)

/-- What a binding of the engine stands for: a relation in memory, a composed plan that
denotes the relation's rows, or keys.
-/
inductive Represents : Value β → Binding β → Prop
  | materialized {batches other : β} (same : SameRows fusion rows batches other)
    : Represents (.relation batches) (.materialized other)
  | lazy {batches : β} {region : LazyRegion β} {fragment : Fragment} {names : List String}
    {inputs : List (LogicalPlan β)} (composed : region.plan = .fragment fragment names inputs)
    (denotes : region.plan.denote fusion rows op = some (rows batches))
    : Represents (.relation batches) (.lazy region)
  | keys {batches other : β} (same : rows batches = rows other)
    : Represents (.keys batches) (.keys other)

/-- The machine refines the naive state for the reads still to come: each count is the
number of reads of its name, and a name to be read stands for its naive value.
-/
structure Refines (same : σ → σ → Prop) (naive : NaiveState σ β) (machine : Machine σ β)
    (future : List String)
    : Prop where
  source : same naive.source machine.source
  uses : ∀ name, usesOf machine.remaining name = future.count name
  values : ∀ name ∈ future, ∀ value, naive.values.lookup name = some value
    → ∃ binding, machine.bindings.lookup name = some binding
      ∧ Represents fusion rows op value binding

end Relation

section Updates

variable {fusion : DataFusion β} {rows : β → R}
  {op : Fragment → List String → List R → Option R} {same : σ → σ → Prop}
  {naive : NaiveState σ β} {machine : Machine σ β} {future : List String}

/-- A read counted, the binding left in place. -/
theorem Refines.counted {name : String}
    (refines : Refines fusion rows op same naive machine (name :: future))
    : Refines fusion rows op same naive
        { machine with remaining := countedDown machine.remaining name } future where
  source := refines.source
  uses other := by
    have counted := refines.uses other
    rw [usesOf_countedDown, counted]
    by_cases eq : other = name
    · subst eq
      simp
    · simp [eq, List.count_cons_of_ne (Ne.symm eq)]
  values other member := refines.values other (List.mem_cons_of_mem name member)

/-- A binding dropped that no later step reads. -/
theorem Refines.dropped {name : String}
    (refines : Refines fusion rows op same naive machine future) (last : name ∉ future)
    : Refines fusion rows op same naive
        { machine with bindings := machine.bindings.erase name } future where
  source := refines.source
  uses := refines.uses
  values other member value found := by
    have ne : other ≠ name := by
      rintro rfl
      exact last member
    obtain ⟨binding, bound, represents⟩ := refines.values other member value found
    exact ⟨binding, by simpa [AList.lookup_erase_ne ne] using bound, represents⟩

/-- With at most one use counted, no later step reads the name. -/
theorem Refines.last_use {name : String}
    (refines : Refines fusion rows op same naive machine (name :: future))
    (single : usesOf machine.remaining name ≤ 1)
    : name ∉ future := by
  intro member
  have counted := refines.uses name
  have later := List.count_pos_iff.mpr member
  simp only [List.count_cons_self] at counted
  omega

/-- A read of a stored binding, which its last reader drops. -/
theorem Refines.afterRead {name : String}
    (refines : Refines fusion rows op same naive machine (name :: future))
    : Refines fusion rows op same naive (machine.afterRead name) future := by
  unfold Machine.afterRead
  split
  · rename_i single
    exact refines.counted.dropped (refines.last_use single)
  · exact refines.counted

/-- A name written on both sides. -/
theorem Refines.written (refines : Refines fusion rows op same naive machine future)
    (name : String) {value : Value β} {binding : Binding β}
    (represents : Represents fusion rows op value binding)
    : Refines fusion rows op same { naive with values := naive.values.insert name value }
        { machine with bindings := machine.bindings.insert name binding } future where
  source := refines.source
  uses := refines.uses
  values other member found bound := by
    by_cases eq : other = name
    · subst eq
      have equal : value = found := by simpa using bound
      exact ⟨binding, by simp, equal ▸ represents⟩
    · obtain ⟨held, kept, same⟩ :=
        refines.values other member found (by simpa [AList.lookup_insert_ne eq] using bound)
      exact ⟨held, by simpa [AList.lookup_insert_ne eq] using kept, same⟩

/-- A lazy binding replaced by the relation it denotes. -/
theorem Refines.forced (refines : Refines fusion rows op same naive machine future)
    {name : String} {batches other : β}
    (found : naive.values.lookup name = some (.relation batches))
    (executed : SameRows fusion rows batches other)
    : Refines fusion rows op same naive
        {
          machine with
          bindings := (machine.bindings.erase name).insert name (.materialized other)
        }
        future where
  source := refines.source
  uses := refines.uses
  values queried member value bound := by
    by_cases eq : queried = name
    · subst eq
      have equal : Value.relation batches = value := by simpa [found] using bound
      exact ⟨.materialized other, by simp, equal ▸ .materialized executed⟩
    · obtain ⟨held, kept, same⟩ := refines.values queried member value bound
      refine ⟨held, ?_, same⟩
      simpa [AList.lookup_insert_ne eq, AList.lookup_erase_ne eq] using kept

end Updates

-----------------------------------------------------------------------------------------
-- Reading on the naive side
-----------------------------------------------------------------------------------------

section Naive

variable {naive reached : NaiveState σ β} {name : String} {batches : β}

theorem Naive.relation_eq_ok (ran : Naive.relation name naive = (.ok batches, reached))
    : naive.values.lookup name = some (.relation batches) ∧ reached = naive := by
  unfold Naive.relation at ran
  rw [Proc.get_bind_apply] at ran
  cases found : naive.values.lookup name with
  | none => simp [found] at ran
  | some value =>
      cases value with
      | keys => simp [found] at ran
      | relation held =>
          simp only [found, Proc.pure_apply, Prod.mk.injEq, Except.ok.injEq] at ran
          exact ⟨by rw [ran.1], ran.2.symm⟩

theorem Naive.keys_eq_ok (ran : Naive.keys name naive = (.ok batches, reached))
    : naive.values.lookup name = some (.keys batches) ∧ reached = naive := by
  unfold Naive.keys at ran
  rw [Proc.get_bind_apply] at ran
  cases found : naive.values.lookup name with
  | none => simp [found] at ran
  | some value =>
      cases value with
      | relation => simp [found] at ran
      | keys held =>
          simp only [found, Proc.pure_apply, Prod.mk.injEq, Except.ok.injEq] at ran
          exact ⟨by rw [ran.1], ran.2.symm⟩

/-- A lifted result that succeeds leaves the state. -/
theorem liftSql_eq_ok {τ : Type} {result : Except DfError α} {value : α} {state last : τ}
    (ran : (liftSql result : Proc τ PyErr α) state = (.ok value, last))
    : result = .ok value ∧ last = state := by
  cases result with
  | error failure => cases ran
  | ok other =>
      cases ran
      exact ⟨rfl, rfl⟩

theorem Naive.onSource_eq_ok {action : Proc σ PyErr α} {value : α}
    (ran : Naive.onSource action naive = (.ok value, reached))
    : action naive.source = (.ok value, reached.source)
      ∧ reached = { naive with source := reached.source } := by
  unfold Naive.onSource at ran
  rw [Proc.zoom_apply] at ran
  cases ran' : action naive.source with
  | mk outcome source =>
      rw [ran'] at ran
      cases ran
      exact ⟨rfl, rfl⟩

end Naive

-----------------------------------------------------------------------------------------
-- Operations
-----------------------------------------------------------------------------------------

section Operations

variable (host : Host β) {fusion : DataFusion β} {rows : β → R}
  {op : Fragment → List String → List R → Option R} {same : σ → σ → Prop}
  {naive : NaiveState σ β} {machine : Machine σ β} {future : List String} {name : String}
  {batches : β}

/-- A composed plan that denotes rows executes to them. -/
theorem RowOperators.executeRegion (operators : RowOperators fusion rows op)
    {fragment : Fragment} {names : List String} {inputs : List (LogicalPlan β)}
    {table : R} (spillable : Bool)
    (denotes : (LogicalPlan.fragment fragment names inputs).denote fusion rows op = some table)
    : UnlessExhausted (fun batches => rows batches = table)
        (fusion.executeRegion (.fragment fragment names inputs) spillable) := by
  obtain ⟨tables, onInputs, result⟩ := Option.bind_eq_some_iff.mp denotes
  exact operators.executes onInputs result

/-- A region that denotes rows executes to them, at the first attempt or the retry. -/
theorem executeWithRetry_denotes (operators : RowOperators fusion rows op)
    {region : LazyRegion β} {fragment : Fragment} {names : List String}
    {inputs : List (LogicalPlan β)} {table : R}
    (composed : region.plan = .fragment fragment names inputs)
    (denotes : region.plan.denote fusion rows op = some table)
    : UnlessExhausted (fun other => rows other = table) (executeWithRetry fusion region) := by
  unfold executeWithRetry
  rw [composed] at denotes ⊢
  split
  · exact operators.executeRegion true denotes
  · have first := operators.executeRegion false denotes
    split
    · rename_i ran
      rw [ran] at first
      exact first
    · rename_i ran
      rw [ran] at first
      split
      · exact operators.executeRegion true denotes
      · exact first

/-- Forcing a name that stands for a relation leaves the relation in memory. -/
theorem Refines.force (operators : RowOperators fusion rows op)
    (conforming : fusion.Conforming)
    (refines : Refines fusion rows op same naive machine future)
    (found : naive.values.lookup name = some (.relation batches)) (member : name ∈ future)
    : Follows (fun _ reached => Refines fusion rows op same naive reached future
          ∧ ∃ other, reached.bindings.lookup name = some (.materialized other)
            ∧ SameRows fusion rows batches other)
        (forceMaterialized host.unlimited fusion name machine) := by
  obtain ⟨binding, bound, represents⟩ := refines.values name member _ found
  cases represents with
  | @materialized _ other equal =>
      rw [forceMaterialized_of_not_lazy (fun region lazy => by rw [bound] at lazy; cases lazy)]
      exact ⟨refines, other, bound, equal⟩
  | lazy composed denotes =>
      rw [forceMaterialized_of_lazy bound]
      have executed := executeWithRetry_denotes operators composed denotes
      cases ran : executeWithRetry fusion _ with
      | error failure =>
          rw [ran] at executed
          obtain ⟨message, rfl⟩ := executed
          exact ⟨message, rfl⟩
      | ok other =>
          rw [ran] at executed
          have equal : SameRows fusion rows batches other :=
            ⟨executed.symm, fun _ => conforming.executeWithRetry ran⟩
          simp only [liftDf_ok, Proc.pure_bind]
          rw [storeRelation_unlimited host.unlimited rfl]
          exact ⟨refines.forced found equal, other, by simp, equal⟩

/-- Tables stay the same by name and rows when both sides gain one. -/
theorem SameTables.append {left right : Context β} (tables : SameTables fusion rows op left right)
    (tableName : String) (checked : fusion.memTable batches = .ok ()) {plan : LogicalPlan β}
    (denotes : plan.denote fusion rows op = some (rows batches))
    : SameTables fusion rows op (left ++ [(tableName, .memTable batches)])
        (right ++ [(tableName, plan)]) := by
  refine List.rel_append tables (.cons ⟨rfl, rows batches, ?_, denotes⟩ .nil)
  simp only [LogicalPlan.denote, tableRows, checked]

theorem SameTables.names {left right : Context β} (tables : SameTables fusion rows op left right)
    : left.map Prod.fst = right.map Prod.fst := by
  induction tables with
  | nil => rfl
  | cons head _ ih => simp [head.1, ih]

/-- Both contexts denote the same inputs of a plan, by induction along them. -/
theorem SameTables.inputs {left right : Context β} (tables : SameTables fusion rows op left right)
    : ∃ inputs, denoteAll fusion rows op (left.map Prod.snd) = some inputs
      ∧ denoteAll fusion rows op (right.map Prod.snd) = some inputs := by
  induction tables with
  | nil => exact ⟨[], rfl, rfl⟩
  | cons head _ ih =>
      obtain ⟨_, table, onLeft, onRight⟩ := head
      obtain ⟨inputs, restLeft, restRight⟩ := ih
      refine ⟨table :: inputs, ?_, ?_⟩
      · simp only [List.map_cons, denoteAll, onLeft, restLeft, Option.bind_some, Option.map_some]
      · simp only [List.map_cons, denoteAll, onRight, restRight, Option.bind_some,
          Option.map_some]

/-- A relation in memory is registered as the naive interpreter registers it. -/
theorem Refines.registerResident
    (refines : Refines fusion rows op same naive machine (name :: future))
    {left right : Context β} (tables : SameTables fusion rows op left right) {tableName : String}
    (registers : fusion.registerTable (left.map Prod.fst) tableName = .ok ())
    (checked : fusion.memTable batches = .ok ()) {other : β}
    (bound : machine.bindings.lookup name = some (.materialized other))
    (equal : SameRows fusion rows batches other)
    : Follows (fun out reached =>
          SameTables fusion rows op (left ++ [(tableName, .memTable batches)]) out.1
            ∧ Refines fusion rows op same naive reached future)
        (Fedqrs.registerResident host.unlimited fusion right tableName name machine) := by
  rw [registerResident_of_materialized bound, equal.2 checked, ← tables.names, registers]
  refine ⟨tables.append tableName checked ?_, refines.afterRead⟩
  simp only [LogicalPlan.denote, tableRows, equal.2 checked, equal.1]

/-- An input of a fragment is registered: as a view by the only reader of a plan, else from
memory, after forcing a plan that has other readers.
-/
theorem Refines.registerInput (operators : RowOperators fusion rows op)
    (conforming : fusion.Conforming)
    (refines : Refines fusion rows op same naive machine (name :: future))
    {left right : Context β} (tables : SameTables fusion rows op left right) {tableName : String}
    (registers : fusion.registerTable (left.map Prod.fst) tableName = .ok ())
    (checked : fusion.memTable batches = .ok ())
    (found : naive.values.lookup name = some (.relation batches))
    : Follows (fun out reached =>
          SameTables fusion rows op (left ++ [(tableName, .memTable batches)]) out.1
            ∧ Refines fusion rows op same naive reached future)
        (Fedqrs.registerInput host.unlimited fusion right tableName name machine) := by
  have member : name ∈ name :: future := by simp
  have stored
      : ∀ (held : Machine σ β) (other : β),
          Refines fusion rows op same naive held (name :: future)
            → held.bindings.lookup name = some (.materialized other)
            → SameRows fusion rows batches other
            → Follows (fun out reached =>
                SameTables fusion rows op (left ++ [(tableName, .memTable batches)]) out.1
                  ∧ Refines fusion rows op same naive reached future)
              (registerStored host.unlimited fusion right tableName name held) := by
    intro held other refines bound equal
    unfold registerStored
    rw [Proc.get_bind_apply, bound]
    exact refines.registerResident host tables registers checked bound equal
  obtain ⟨binding, bound, represents⟩ := refines.values name member _ found
  unfold Fedqrs.registerInput
  rw [Proc.get_bind_apply, bound]
  cases represents with
  | @materialized _ other equal => exact stored machine other refines bound equal
  | @lazy _ region _ _ _ _ denotes =>
      by_cases single : usesOf machine.remaining name ≤ 1
      · simp only [single, if_true]
        rw [registerView_of_lazy bound, ← tables.names, registers]
        exact ⟨tables.append tableName checked denotes,
          refines.counted.dropped (refines.last_use single)⟩
      · simp only [single, if_false]
        refine (refines.force host operators conforming found member).bind ?_
        rintro _ forced ⟨refines', other, bound', equal⟩
        exact stored forced other refines' bound' equal

/-- All inputs of a fragment are registered, by induction over them. -/
theorem Refines.registerInputs (operators : RowOperators fusion rows op)
    (conforming : fusion.Conforming) (inputs : List (String × String))
    (refines : Refines fusion rows op same naive machine (inputs.map Prod.snd ++ future))
    {left right : Context β} (tables : SameTables fusion rows op left right) {ctx : Context β}
    {naive' : NaiveState σ β}
    (ran : Naive.registerInputs fusion inputs left naive = (.ok ctx, naive'))
    (inputBytes : Nat)
    : Follows (fun out reached => SameTables fusion rows op ctx out.1
          ∧ Refines fusion rows op same naive reached future)
        (Fedqrs.registerInputs host.unlimited fusion inputs right inputBytes machine) := by
  induction inputs generalizing machine left right inputBytes with
  | nil =>
      cases ran
      exact ⟨tables, refines⟩
  | cons head rest ih =>
      obtain ⟨tableName, name⟩ := head
      obtain ⟨batches, _, read, tail₁⟩ := Proc.bind_eq_ok.mp ran
      obtain ⟨found, rfl⟩ := Naive.relation_eq_ok read
      obtain ⟨⟨⟩, _, check, tail₂⟩ := Proc.bind_eq_ok.mp tail₁
      obtain ⟨checked, rfl⟩ := liftSql_eq_ok check
      obtain ⟨⟨⟩, _, register, tail₃⟩ := Proc.bind_eq_ok.mp tail₂
      obtain ⟨registers, rfl⟩ := liftSql_eq_ok register
      refine (refines.registerInput host operators conforming tables registers
        checked found).bind ?_
      rintro ⟨next, bytes⟩ reached ⟨tables', refines'⟩
      exact ih refines' tables' tail₃ _

/-- A relation collected for the same rows, unless the pool is exhausted. -/
theorem UnlessExhausted.represents {result : Except DfError β}
    (same : UnlessExhausted (fun other => rows other = rows batches) result)
    (conforms : ∀ other, result = .ok other → fusion.memTable other = .ok ())
    : UnlessExhausted (Represents fusion rows op (.relation batches))
        (result >>= fun other => pure (.materialized other)) := by
  cases result with
  | error failure => exact same
  | ok other => exact .materialized ⟨same.symm, fun _ => conforms other rfl⟩

/-- What a fragment composes stands for what the naive interpreter evaluates it to. -/
theorem composeFragment_represents (operators : RowOperators fusion rows op)
    (conforming : fusion.Conforming) {fragment : Fragment} {left right : Context β}
    (tables : SameTables fusion rows op left right)
    (evaluated : Naive.evaluate fusion fragment left = .ok batches) (inputBytes : Nat)
    : UnlessExhausted (Represents fusion rows op (.relation batches))
        (composeFragment fusion fragment right inputBytes) := by
  obtain ⟨binding, composed, executed⟩ := Except.bind_eq_ok.mp evaluated
  obtain ⟨inputs, onLeft, onRight⟩ := tables.inputs
  have lazily
      : lazyBinding fusion fragment left 0 = .ok binding
        → UnlessExhausted (Represents fusion rows op (.relation batches))
            (lazyBinding fusion fragment right inputBytes) := by
    intro naively
    obtain ⟨_, composes, done⟩ := Except.bind_eq_ok.mp naively
    cases done
    obtain ⟨_, ran⟩ := executeWithRetry_eq_ok executed
    unfold lazyBinding
    rw [operators.compose tables composes]
    refine .lazy rfl ?_
    simp only [composedPlan, LogicalPlan.denote, onRight, Option.bind_some, ← tables.names]
    exact operators.executed onLeft ran
  have projected
      : ∀ project, projectedBinding fusion fragment project left 0 = .ok binding
        → UnlessExhausted (Represents fusion rows op (.relation batches))
            (projectedBinding fusion fragment project right inputBytes) := by
    intro project naively
    unfold projectedBinding at naively ⊢
    split at naively
    · rename_i unique
      rw [if_pos unique]
      exact lazily naively
    · rename_i repeated
      rw [if_neg repeated]
      obtain ⟨other, ran, done⟩ := Except.bind_eq_ok.mp naively
      cases done
      cases executed
      exact (operators.projectDataframeDedup tables ran).represents
        (fun _ ran => conforming.projectDataframeDedup ran)
  cases fragment with
  | hashJoin | nestedLoopJoin | project => exact projected _ composed
  | aggregate | sort | filter | limit | rawSql => exact lazily composed
  | singleRowGuard keys =>
      obtain ⟨other, guarded, done⟩ := Except.bind_eq_ok.mp composed
      cases done
      cases executed
      obtain ⟨violations, counted, passed⟩ := Except.bind_eq_ok.mp guarded
      split at passed
      · contradiction
      rename_i none
      have same : UnlessExhausted (fun other => rows other = rows batches)
          (runSingleRowGuard fusion keys right) := by
        refine (operators.guardViolations tables counted).bind ?_
        rintro count rfl
        rw [if_neg none]
        exact operators.collectTable tables passed
      refine same.represents (fun other ran => ?_)
      obtain ⟨count, _, collected⟩ := Except.bind_eq_ok.mp ran
      split at collected
      · contradiction
      · exact conforming.collectTable collected

end Operations

-----------------------------------------------------------------------------------------
-- Steps
-----------------------------------------------------------------------------------------

section Steps

variable {engine : Engine σ β} {rows : β → R}
  {op : Fragment → List String → List R → Option R} {same : σ → σ → Prop}
  {naive naive' : NaiveState σ β} {machine : Machine σ β} {future : List String}

/-- Source reads that are alike keep the refinement. -/
theorem Refines.onSource {values : α → γ → Prop} {left : Proc σ PyErr α}
    {right : Proc σ PyErr γ} {fusion : DataFusion β} (alike : AlikeReads same values left right)
    (refines : Refines fusion rows op same naive machine future) {value : α}
    (ran : Naive.onSource left naive = (.ok value, naive'))
    : Follows (fun other reached => values value other
          ∧ Refines fusion rows op same naive' reached future)
        (EngineM.onSource right machine) := by
  obtain ⟨onLeft, moved⟩ := Naive.onSource_eq_ok ran
  have pair := alike _ _ refines.source
  rw [onLeft] at pair
  rw [onSource_apply]
  rcases onRight : right machine.source with ⟨failure | other, source⟩ <;> rw [onRight] at pair
  · exact False.elim pair
  · refine ⟨pair.1, ?_⟩
    rw [moved]
    exact { source := pair.2, uses := refines.uses, values := refines.values }

/-- Keys the naive interpreter reads are read with the same rows. -/
theorem Refines.keysBinding {fusion : DataFusion β} {name : String} {keys : β}
    (refines : Refines fusion rows op same naive machine future) (member : name ∈ future)
    (found : naive.values.lookup name = some (.keys keys))
    : ∃ other, Fedqrs.keysBinding name machine = (.ok other, machine)
      ∧ rows keys = rows other := by
  obtain ⟨binding, bound, represents⟩ := refines.values name member _ found
  cases represents with
  | @keys _ other equal =>
      refine ⟨other, ?_, equal⟩
      unfold Fedqrs.keysBinding
      rw [Proc.get_bind_apply, bound]
      rfl

/-- The extra key sets, by induction over the injections. -/
theorem Refines.extraKeys {fusion : DataFusion β} (extras : List ExtraInjection)
    (refines : Refines fusion rows op same naive machine future)
    (members : ∀ extra ∈ extras, extra.keysFrom ∈ future) {sets : List (String × β)}
    (ran : Naive.extraKeys extras naive = (.ok sets, naive'))
    : naive' = naive ∧ ∃ others, Fedqrs.extraKeys extras machine = (.ok others, machine)
      ∧ SameExtras rows sets others := by
  induction extras generalizing sets naive' with
  | nil =>
      cases ran
      exact ⟨rfl, [], rfl, .nil⟩
  | cons extra rest ih =>
      obtain ⟨keys, _, read, tail₁⟩ := Proc.bind_eq_ok.mp ran
      obtain ⟨found, rfl⟩ := Naive.keys_eq_ok read
      obtain ⟨more, _, readMore, tail₂⟩ := Proc.bind_eq_ok.mp tail₁
      obtain ⟨rfl, others, ranMore, equalMore⟩ :=
        ih (fun extra member => members extra (List.mem_cons_of_mem _ member)) readMore
      cases tail₂
      obtain ⟨other, ranKeys, equal⟩ := refines.keysBinding (members extra (by simp)) found
      refine ⟨rfl, (extra.column, other) :: others, ?_, .cons ⟨rfl, equal⟩ equalMore⟩
      rw [Fedqrs.extraKeys, Proc.bind_of_ok ranKeys, Proc.bind_of_ok ranMore]
      rfl

/-- Reads counted one by one, by induction over the names. -/
theorem Refines.noteUses {fusion : DataFusion β} (names : List String)
    (refines : Refines fusion rows op same naive machine (names ++ future))
    : Follows (fun _ reached => Refines fusion rows op same naive reached future)
        (Fedqrs.noteUses names machine) := by
  induction names generalizing machine with
  | nil => exact refines
  | cons name rest ih =>
      rw [Fedqrs.noteUses, Proc.bind_of_ok (noteUse_apply name machine)]
      exact ih refines.counted

/-- How a step has to end when the naive one ended with `result` in `naive`: with the same
rows, and refining it again unless the step returned.
-/
def StepEnds (fusion : DataFusion β) (rows : β → R)
    (op : Fragment → List String → List R → Option R) (same : σ → σ → Prop)
    (future : List String) (result : Option β) (naive : NaiveState σ β) (other : Option β)
    (reached : Machine σ β)
    : Prop :=
  Option.Rel (fun a b => rows a = rows b) result other
    ∧ (result = none → Refines fusion rows op same naive reached future)

/-- Registering inputs on the naive side only reads, by induction over them. -/
theorem Naive.registerInputs_reads (fusion : DataFusion β) (inputs : List (String × String))
    (ctx : Context β)
    : Proc.Reads (Naive.registerInputs fusion inputs ctx : NaiveM σ β (Context β)) := by
  induction inputs generalizing ctx with
  | nil => exact Proc.Reads.pure ctx
  | cons head rest ih =>
      refine Proc.Reads.bind ?_ (fun batches => ?_)
      · refine Proc.Reads.getThen (fun state => ?_)
        split
        · exact Proc.Reads.pure _
        · exact Proc.Reads.fail _
      · exact (Proc.Reads.lift _).bind (fun _ => (Proc.Reads.lift _).bind (fun _ => ih _))

/-- A step follows the naive one, by cases on the step. -/
theorem Refines.runStep [Fetched β] (fetched : FetchedRows rows)
    (sources : RowSources engine rows same) (operators : RowOperators engine.fusion rows op)
    (conforming : engine.fusion.Conforming) (ir : Ir) (step : Step)
    (refines : Refines engine.fusion rows op same naive machine (step.reads ++ future))
    {result : Option β} (ran : Naive.runStep engine ir step naive = (.ok result, naive'))
    : Follows (StepEnds engine.fusion rows op same future result naive')
        (Fedqrs.runStep engine.unlimited ir step machine) := by
  have stored
      : ∀ (name : String) {naive : NaiveState σ β} {machine : Machine σ β} {batches other : β},
          Refines engine.fusion rows op same naive machine future
            → SameRows engine.fusion rows batches other
            → Follows
                (StepEnds engine.fusion rows op same future none
                  { naive with values := naive.values.insert name (.relation batches) })
                ((do
                  storeRelation engine.host.unlimited name other
                  pure none : EngineM σ β (Option β)) machine) := by
    intro name naive machine batches other refines equal
    rw [Proc.bind_of_ok
      (storeRelation_unlimited engine.host.unlimited rfl name other machine)]
    exact ⟨.none, fun _ => refines.written name (.materialized equal)⟩
  cases step with
  | sourceScan datasource scan binding _ =>
      obtain ⟨batches, _, read, tail⟩ := Proc.bind_eq_ok.mp ran
      cases tail
      refine (refines.onSource (sources.fetchSource datasource scan) read).bind ?_
      rintro other reached ⟨equal, refines'⟩
      exact stored binding refines' equal
  | collectDistinct input key _ binding =>
      obtain ⟨batches, _, read, tail₁⟩ := Proc.bind_eq_ok.mp ran
      obtain ⟨found, rfl⟩ := Naive.relation_eq_ok read
      obtain ⟨keys, _, collected, tail₂⟩ := Proc.bind_eq_ok.mp tail₁
      obtain ⟨distinct, rfl⟩ := liftSql_eq_ok collected
      cases tail₂
      obtain ⟨_, checked, collected⟩ := Except.bind_eq_ok.mp distinct
      refine (refines.force engine.host operators conforming found
        (by simp [Step.reads])).bind ?_
      rintro _ forced ⟨refines', other, bound, equal⟩
      have distinctly
          : Follows (fun found reached => rows found = rows keys ∧ reached = forced)
              (collectDistinctFrom engine.fusion input key forced) := by
        have same := (operators.collectDistinct equal.1 collected).liftDf forced
        unfold collectDistinctFrom
        rw [Proc.get_bind_apply, bound]
        simp only [equal.2 checked, liftDf_ok, Proc.pure_bind]
        exact same
      refine distinctly.bind ?_
      intro found reached ends
      rcases ends with ⟨equalKeys, rfl⟩
      exact ⟨.none, fun _ => refines'.counted.written binding (.keys equalKeys.symm)⟩
  | injectedScan datasource scan injectColumn keysFrom binding injectColumnNdv extras =>
      obtain ⟨keys, _, readKeys, tail₁⟩ := Proc.bind_eq_ok.mp ran
      obtain ⟨found, rfl⟩ := Naive.keys_eq_ok readKeys
      obtain ⟨sets, _, readExtras, tail₂⟩ := Proc.bind_eq_ok.mp tail₁
      obtain ⟨batches, _, read, tail₃⟩ := Proc.bind_eq_ok.mp tail₂
      cases tail₃
      obtain ⟨other, ranKeys, equal⟩ := refines.keysBinding (by simp [Step.reads]) found
      obtain ⟨rfl, others, ranExtras, equalExtras⟩ := refines.extraKeys extras
        (fun extra member => by simp [Step.reads]; exact Or.inr (Or.inl ⟨extra, member, rfl⟩))
        readExtras
      simp only [Fedqrs.runStep]
      rw [Proc.bind_of_ok ranKeys, Proc.bind_of_ok ranExtras]
      refine (refines.onSource (sources.runInjectedScan fetched datasource scan injectColumn
        equal injectColumnNdv equalExtras) read).bind ?_
      rintro fetched reached ⟨equalRows, refines'⟩
      refine (Refines.noteUses (keysFrom :: extras.map ExtraInjection.keysFrom)
        refines').bind ?_
      intro _ noted refines''
      exact stored binding refines'' equalRows
  | ship datasource input table =>
      obtain ⟨batches, _, read, tail₁⟩ := Proc.bind_eq_ok.mp ran
      obtain ⟨found, rfl⟩ := Naive.relation_eq_ok read
      obtain ⟨_, _, shipped, tail₂⟩ := Proc.bind_eq_ok.mp tail₁
      cases tail₂
      refine (refines.force engine.host operators conforming found
        (by simp [Step.reads])).bind ?_
      rintro _ forced ⟨refines', other, bound, equal⟩
      have borrowed : materialized input forced = (.ok other, forced) := by
        unfold materialized
        rw [Proc.get_bind_apply, bound]
        rfl
      rw [Proc.bind_of_ok borrowed]
      refine (refines'.onSource (sources.shipTable datasource table batches other equal.1)
        shipped).bind ?_
      rintro _ reached ⟨_, refines''⟩
      exact ⟨.none, fun _ => refines''.counted⟩
  | merge fragment inputs binding =>
      simp only [Naive.runStep] at ran
      simp only [Fedqrs.runStep]
      cases named : ir.fragments.lookup fragment with
      | none => simp [named] at ran
      | some frag =>
          rw [named] at ran
          obtain ⟨ctx, _, registered, tail₁⟩ := Proc.bind_eq_ok.mp ran
          obtain ⟨batches, _, evaluated, tail₂⟩ := Proc.bind_eq_ok.mp tail₁
          obtain ⟨result, rfl⟩ := liftSql_eq_ok evaluated
          cases tail₂
          cases (Naive.registerInputs_reads _ _ _).reached registered
          have future' : (Step.merge fragment inputs binding).reads
              = (inputs.entries.map (fun entry => (entry.1, entry.2))).map Prod.snd := by
            simp [Step.reads]
          rw [future'] at refines
          have composes
              : Follows
                  (fun composed reached =>
                    Represents engine.fusion rows op (.relation batches) composed
                      ∧ Refines engine.fusion rows op same naive reached future)
                  (runFragment engine.fusion engine.host.unlimited frag inputs machine) := by
            refine (refines.registerInputs engine.host operators conforming _ .nil
              registered 0).bind ?_
            rintro ⟨right, inputBytes⟩ reached ⟨tables, refines'⟩
            refine ((composeFragment_represents operators conforming tables result
              inputBytes).liftDf reached).weaken ?_
            rintro composed _ ⟨represents, rfl⟩
            exact ⟨represents, refines'⟩
          refine composes.bind ?_
          intro composed reached ends
          rcases ends with ⟨represents, refines'⟩
          cases represents with
          | materialized equal => exact stored binding refines' equal
          | lazy composed denotes =>
              exact ⟨.none, fun _ => refines'.written binding (.lazy composed denotes)⟩
  | «return» input =>
      obtain ⟨batches, _, read, tail⟩ := Proc.bind_eq_ok.mp ran
      obtain ⟨found, rfl⟩ := Naive.relation_eq_ok read
      cases tail
      refine (refines.force engine.host operators conforming found
        (by simp [Step.reads])).bind ?_
      rintro _ forced ⟨_, other, bound, equal⟩
      have exported
          : «export» input forced
            = (.ok other, { forced with bindings := forced.bindings.erase input }) := by
        simp only [«export», Proc.get_bind_apply, setBindings, Proc.modify_bind_apply,
          bound]
        rfl
      rw [Proc.bind_of_ok exported]
      exact ⟨.some equal.1, fun returned => by cases returned⟩

end Steps

end Fedqrs
