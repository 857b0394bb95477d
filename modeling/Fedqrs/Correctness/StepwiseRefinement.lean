import Fedqrs.Correctness.NaiveExecution
import Fedqrs.Correctness.SpillPolicy
import Fedqrs.Semantics.Reference
import Fedqrs.Semantics.Stepwise

/-! Every result of the engine is one that the plan may give step by step: although plans are
composed, executed late, and dropped or spilled on the way, each fragment's result is picked
once and all its readers see it. The value of a plan not yet executed is left open, and the
steps so far are explained for whatever it turns out to be.
-/

namespace Fedqrs

open EngineM

variable {σ β α : Type} {evaluation : Evaluation β}

-----------------------------------------------------------------------------------------
-- Values for bindings
-----------------------------------------------------------------------------------------

/-- What a plan turns out to be: one of its results, or nothing where it has none. -/
abbrev Evaluation.Outcome (evaluation : Evaluation β) (plan : LogicalPlan β)
    : Option β → Prop :=
  TurnsOut (evaluation.Gives plan)

theorem Evaluation.gives_memTable {batches found : β}
    : evaluation.Gives (.memTable batches) found ↔ found = batches := by
  rw [Evaluation.Gives]

theorem Evaluation.gives_spillStream {file found : β}
    : evaluation.Gives (.spillStream file) found ↔ found = file := by
  rw [Evaluation.Gives]

/-- All inputs turn out to be something, by induction over them. -/
theorem Evaluation.allTurnOut_iff {inputs : List (LogicalPlan β)} {tables : List (Option β)}
    : evaluation.AllTurnOut inputs tables ↔ List.Forall₂ evaluation.Outcome inputs tables := by
  induction inputs generalizing tables with
  | nil => rw [Evaluation.AllTurnOut, List.forall₂_nil_left_iff]
  | cons plan rest ih =>
      rw [Evaluation.AllTurnOut]
      constructor
      · rintro ⟨outcome, others, rfl, turns, later⟩
        exact .cons turns (ih.mp later)
      · intro each
        cases each with
        | cons turns later => exact ⟨_, _, rfl, turns, ih.mpr later⟩

/-- A composed plan over what its tables turn out to be. -/
theorem Evaluation.gives_composedPlan {fragment : Fragment} {ctx : Context β} {found : β}
    : evaluation.Gives (composedPlan fragment ctx) found
      ↔ ∃ outcomes,
          List.Forall₂ (fun table outcome => evaluation.Outcome table.2 outcome) ctx outcomes
            ∧ evaluation.results fragment (ctx.map Prod.fst) outcomes found := by
  rw [composedPlan, Evaluation.Gives]
  simp only [Evaluation.allTurnOut_iff, List.forall₂_map_left_iff]

theorem Evaluation.exists_outcome (evaluation : Evaluation β) (plan : LogicalPlan β)
    : ∃ outcome, evaluation.Outcome plan outcome := by
  by_cases gives : ∃ batches, evaluation.Gives plan batches
  · obtain ⟨batches, gives⟩ := gives
    exact ⟨some batches, gives⟩
  · exact ⟨none, fun batches given => gives ⟨batches, given⟩⟩

/-- What gives one thing only turns out to be that. -/
theorem turnsOut_iff_of_gives {gives : β → Prop} {batches : β}
    (only : ∀ found, gives found ↔ found = batches) {outcome : Option β}
    : TurnsOut gives outcome ↔ outcome = some batches := by
  constructor
  · intro given
    cases outcome with
    | none => exact absurd ((only batches).mpr rfl) (given batches)
    | some other => exact congrArg some ((only other).mp given)
  · rintro rfl
    exact (only batches).mpr rfl

theorem Evaluation.outcome_memTable {batches : β} {outcome : Option β}
    : evaluation.Outcome (.memTable batches) outcome ↔ outcome = some batches :=
  turnsOut_iff_of_gives (fun _ => Evaluation.gives_memTable)

theorem Evaluation.outcome_spillStream {file : β} {outcome : Option β}
    : evaluation.Outcome (.spillStream file) outcome ↔ outcome = some file :=
  turnsOut_iff_of_gives (fun _ => Evaluation.gives_spillStream)

/-- The values a binding may have for its readers. -/
def MayHold (evaluation : Evaluation β) : Binding β → Option (Value β) → Prop
  | .materialized batches, value => value = some (.relation batches)
  | .keys keys, value => value = some (.keys keys)
  | .spilled spilled, value => value = some (.relation spilled.file)
  | .lazy region, value =>
      ∃ outcome, evaluation.Outcome region.plan outcome ∧ value = outcome.map .relation

theorem exists_mayHold (evaluation : Evaluation β) (binding : Binding β)
    : ∃ value, MayHold evaluation binding value := by
  cases binding with
  | materialized | keys | spilled => exact ⟨_, rfl⟩
  | «lazy» region =>
      obtain ⟨outcome, given⟩ := evaluation.exists_outcome region.plan
      exact ⟨_, outcome, given, rfl⟩

/-- An assignment of values that the bindings may turn out to have. -/
def Admits (evaluation : Evaluation β) (bindings : Bindings β)
    (values : String → Option (Value β))
    : Prop :=
  ∀ name binding, bindings.lookup name = some binding
    → MayHold evaluation binding (values name)

section Admits

variable {bindings : Bindings β} {values : String → Option (Value β)} {name : String}
  {binding : Binding β}

/-- Under a name bound anew, a value of the new binding. -/
theorem Admits.written (admits : Admits evaluation (bindings.insert name binding) values)
    : MayHold evaluation binding (values name) :=
  admits name binding (AList.lookup_insert bindings)

/-- Any value of a binding fits the others' values. -/
theorem Admits.update (admits : Admits evaluation (bindings.erase name) values)
    {value : Option (Value β)}
    (represents
      : ∀ binding, bindings.lookup name = some binding → MayHold evaluation binding value)
    : Admits evaluation bindings (Function.update values name value) := by
  intro other held found
  by_cases same : other = name
  · subst same
    rw [Function.update_self]
    exact represents held found
  · rw [Function.update_of_ne same]
    exact admits other held (by rwa [AList.lookup_erase_ne same])

theorem Admits.erase_insert (admits : Admits evaluation (bindings.insert name binding) values)
    : Admits evaluation (bindings.erase name) values := by
  intro other held found
  by_cases same : other = name
  · subst same
    simp at found
  · rw [AList.lookup_erase_ne same] at found
    exact admits other held (by rwa [AList.lookup_insert_ne same])

/-- What was under the name of a new binding had some value too. -/
theorem Admits.overwritten (admits : Admits evaluation (bindings.insert name binding) values)
    : ∃ before, Admits evaluation bindings before
        ∧ ∀ other, other ≠ name → before other = values other := by
  have value
      : ∃ value, ∀ old, bindings.lookup name = some old → MayHold evaluation old value := by
    cases found : bindings.lookup name with
    | none => exact ⟨none, fun old absent => by cases absent⟩
    | some old =>
        obtain ⟨value, represents⟩ := exists_mayHold evaluation old
        refine ⟨value, fun other same => ?_⟩
        cases same
        exact represents
  obtain ⟨value, represents⟩ := value
  refine ⟨_, admits.erase_insert.update represents, fun other differs => ?_⟩
  exact Function.update_of_ne differs _ _

end Admits

-----------------------------------------------------------------------------------------
-- Changes that narrow what was open
-----------------------------------------------------------------------------------------

/-- The plans of lazy bindings are steady. -/
def SteadyBindings (evaluation : Evaluation β) (bindings : Bindings β) : Prop :=
  ∀ name region, bindings.lookup name = some (.lazy region) → evaluation.Steady region.plan

theorem SteadyBindings.insert {bindings : Bindings β} {name : String} {binding : Binding β}
    (steady : SteadyBindings evaluation bindings)
    (written : ∀ region, binding = .lazy region → evaluation.Steady region.plan)
    : SteadyBindings evaluation (bindings.insert name binding) := by
  intro other region found
  by_cases here : other = name
  · subst here
    rw [AList.lookup_insert] at found
    exact written region (Option.some.inj found)
  · rw [AList.lookup_insert_ne here] at found
    exact steady other region found

theorem SteadyBindings.erase {bindings : Bindings β} {name : String}
    (steady : SteadyBindings evaluation bindings)
    : SteadyBindings evaluation (bindings.erase name) := by
  intro other region found
  by_cases here : other = name
  · subst here
    simp at found
  · rw [AList.lookup_erase_ne here] at found
    exact steady other region found

/-- No new name and no new plan, the same sources, and any values that fit now fitted before. -/
structure Narrows (evaluation : Evaluation β) (before after : Machine σ β) : Prop where
  source : after.source = before.source
  plans : ∀ name region, after.bindings.lookup name = some (.lazy region)
    → before.bindings.lookup name = some (.lazy region)
  names : ∀ name, name ∈ after.bindings → name ∈ before.bindings
  admits : ∀ values, Admits evaluation after.bindings values
    → Admits evaluation before.bindings values

section Narrows

variable {machine before after last : Machine σ β} {name : String} {old new : Binding β}

theorem Narrows.refl (machine : Machine σ β) : Narrows evaluation machine machine :=
  ⟨rfl, fun _ _ found => found, fun _ bound => bound, fun _ admits => admits⟩

theorem Narrows.trans (first : Narrows evaluation before machine)
    (second : Narrows evaluation machine after)
    : Narrows evaluation before after where
  source := second.source.trans first.source
  plans name region found := first.plans name region (second.plans name region found)
  names name bound := first.names name (second.names name bound)
  admits values fits := first.admits values (second.admits values fits)

/-- Only the bindings and the sources count. -/
theorem Narrows.same (narrows : Narrows evaluation before after)
    (bindings : last.bindings = after.bindings) (source : last.source = after.source)
    : Narrows evaluation before last where
  source := source.trans narrows.source
  plans := bindings ▸ narrows.plans
  names := bindings ▸ narrows.names
  admits := bindings ▸ narrows.admits

/-- The same name is bound on both sides, later to what is stored and has fewer values. -/
theorem Narrows.insert (narrows : Narrows evaluation before after)
    (stored : ∀ region, new ≠ .lazy region)
    (narrower : ∀ value, MayHold evaluation new value → MayHold evaluation old value)
    : Narrows evaluation { before with bindings := before.bindings.insert name old }
        { after with bindings := after.bindings.insert name new } where
  source := narrows.source
  plans other region found := by
    by_cases here : other = name
    · subst here
      rw [AList.lookup_insert] at found
      exact absurd (Option.some.inj found) (stored region)
    · rw [AList.lookup_insert_ne here] at found ⊢
      exact narrows.plans other region found
  names other bound := by
    rcases AList.mem_insert after.bindings |>.mp bound with same | inside
    · exact (AList.mem_insert _).mpr (Or.inl same)
    · exact (AList.mem_insert _).mpr (Or.inr (narrows.names other inside))
  admits values fits := by
    obtain ⟨others, fits', same⟩ := fits.overwritten
    intro other binding found
    by_cases here : other = name
    · subst here
      rw [AList.lookup_insert] at found
      cases found
      exact narrower _ fits.written
    · rw [AList.lookup_insert_ne here] at found
      rw [← same other here]
      exact narrows.admits others fits' other binding found

/-- A binding gives way to what is stored and has fewer values. -/
theorem Narrows.replaced (found : machine.bindings.lookup name = some old)
    (bindings : after.bindings = (machine.bindings.erase name).insert name new)
    (stored : ∀ region, new ≠ .lazy region) (source : after.source = machine.source)
    (narrower : ∀ value, MayHold evaluation new value → MayHold evaluation old value)
    : Narrows evaluation machine after where
  source := source
  plans other region held := by
    rw [bindings] at held
    by_cases here : other = name
    · subst here
      rw [AList.lookup_insert] at held
      exact absurd (Option.some.inj held) (stored region)
    · rwa [AList.lookup_insert_ne here, AList.lookup_erase_ne here] at held
  names other bound := by
    rw [bindings] at bound
    rcases AList.mem_insert _ |>.mp bound with rfl | inside
    · exact AList.lookup_isSome.mp (by simp [found])
    · exact (AList.mem_erase.mp inside).2
  admits values fits := by
    rw [bindings] at fits
    intro other binding held
    by_cases here : other = name
    · subst here
      cases found.symm.trans held
      exact narrower _ fits.written
    · refine fits other binding ?_
      rw [AList.lookup_insert_ne here, AList.lookup_erase_ne here, held]

end Narrows

section Operations

variable {host : Host β} {fusion : DataFusion β} {machine : Machine σ β} {name : String}
  {batches : β}

/-- The eviction loop narrows, by induction over the sized names. -/
theorem spillInOrder_narrows (explains : evaluation.Explains host fusion) {incoming : Nat}
    {sized : List (String × Nat)} (distinct : (sized.map Prod.fst).Nodup)
    (resident
      : ∀ entry ∈ sized, ∃ batches,
          machine.bindings.lookup entry.1 = some (.materialized batches)
            ∧ entry.2 = host.batchesBytes batches) (total : Nat)
    : Proc.Ends (fun _ reached => Narrows evaluation machine reached) (fun _ _ => True)
        (spillInOrder host incoming sized total machine) := by
  induction sized generalizing machine total with
  | nil => exact Narrows.refl machine
  | cons head rest ih =>
      obtain ⟨name, bytes⟩ := head
      unfold spillInOrder
      split
      · obtain ⟨batches, found, _⟩ := resident (name, bytes) List.mem_cons_self
        obtain ⟨fresh, others⟩ := List.nodup_cons.mp distinct
        rw [Proc.bind_of_ok (takeSized_of_materialized found)]
        cases written : host.writeIpc batches with
        | error failure =>
            rw [Proc.bind_of_error (spillTo_of_error written _ _)]
            trivial
        | ok file =>
            rw [Proc.bind_of_ok (spillTo_of_ok written _ _)]
            cases explains.writeIpc written
            refine (ih others (held_after_spill fresh (fun entry member =>
              resident entry (.tail _ member))) _).weaken ?_ (fun _ _ _ => trivial)
            intro _ _ narrows
            refine Narrows.trans ?_ narrows
            exact Narrows.replaced found rfl (fun _ same => by cases same) rfl
              (fun _ represents => represents)
      · exact Narrows.refl machine

/-- Storing a relation narrows the machine that has it in memory. -/
theorem storeRelation_narrows (explains : evaluation.Explains host fusion)
    : Proc.Ends
        (fun _ reached =>
          Narrows evaluation
            { machine with bindings := machine.bindings.insert name (.materialized batches) }
            reached)
        (fun _ _ => True) (storeRelation host name batches machine) := by
  obtain ⟨distinct, resident⟩ := residentSizes_spec host machine.bindings
  have order := (residentOrder host machine.bindings).1
  have roomed
      : Proc.Ends (fun _ reached => Narrows evaluation machine reached) (fun _ _ => True)
          (spillForHeadroom host (host.batchesBytes batches) machine) :=
    spillInOrder_narrows explains ((order.map Prod.fst).nodup_iff.mpr distinct)
      (fun entry member => resident entry (order.mem_iff.mp member)) _
  refine roomed.bind (fun _ reached narrows => ?_)
  split
  · cases written : host.writeIpc batches with
    | error failure =>
        rw [spillTo_of_error written]
        trivial
    | ok file =>
        rw [spillTo_of_ok written]
        cases explains.writeIpc written
        have stored
            : Narrows evaluation
                { machine with bindings := machine.bindings.insert name (.materialized batches) }
                {
                  reached with
                  bindings :=
                    reached.bindings.insert name
                      (.spilled { file := batches, bytes := host.batchesBytes batches })
                } :=
          narrows.insert (fun _ same => by cases same) (fun _ represents => represents)
        exact stored.same rfl rfl
  · exact narrows.insert (fun _ same => by cases same) (fun _ represents => represents)

/-- Executing a plan narrows it to one of its results. -/
theorem executeWithRetry_gives (explains : evaluation.Explains host fusion)
    {region : LazyRegion β} (steady : evaluation.Steady region.plan)
    (ran : executeWithRetry fusion region = .ok batches)
    : evaluation.Gives region.plan batches := by
  obtain ⟨_, executed⟩ := executeWithRetry_eq_ok ran
  exact explains.executeRegion steady executed

theorem forceMaterialized_narrows (explains : evaluation.Explains host fusion)
    (steady : SteadyBindings evaluation machine.bindings)
    : Proc.Ends (fun _ reached => Narrows evaluation machine reached) (fun _ _ => True)
        (forceMaterialized host fusion name machine) := by
  by_cases lazy : ∃ region, machine.bindings.lookup name = some (.lazy region)
  · obtain ⟨region, found⟩ := lazy
    rw [forceMaterialized_of_lazy found]
    cases ran : executeWithRetry fusion region with
    | error failure => trivial
    | ok batches =>
        have gives := executeWithRetry_gives explains (steady name region found) ran
        refine (storeRelation_narrows explains).weaken ?_ (fun _ _ _ => trivial)
        intro _ reached narrows
        refine Narrows.trans ?_ narrows
        refine Narrows.replaced found rfl (fun _ same => by cases same) rfl ?_
        rintro _ rfl
        exact ⟨some batches, gives, rfl⟩
  · rw [forceMaterialized_of_not_lazy (fun region found => lazy ⟨region, found⟩)]
    exact Narrows.refl machine

end Operations

-----------------------------------------------------------------------------------------
-- Runs that explain a machine
-----------------------------------------------------------------------------------------

/-- The open plans are steady, and whatever they turn out to be, the steps so far may have left
these values.
-/
structure Explained (evaluation : Evaluation β) (reaches : NaiveState σ β → Prop)
    (machine : Machine σ β)
    : Prop where
  steady : SteadyBindings evaluation machine.bindings
  states : ∀ values, Admits evaluation machine.bindings values
    → ∃ state, reaches state ∧ state.source = machine.source
        ∧ ∀ name ∈ machine.bindings, state.values.lookup name = values name

/-- The registered inputs stand for what their tables turn out to be. -/
structure Registered (evaluation : Evaluation β) (reaches : NaiveState σ β → Prop)
    (entries : List (String × String)) (ctx : Context β) (machine : Machine σ β)
    : Prop where
  names : ctx.map Prod.fst = entries.map Prod.fst
  steady : SteadyBindings evaluation machine.bindings
  plans : ∀ table ∈ ctx, evaluation.Steady table.2
  explained : ∀ values outcomes, Admits evaluation machine.bindings values
    → List.Forall₂ (fun table outcome => evaluation.Outcome table.2 outcome) ctx outcomes
    → ∃ state, reaches state ∧ state.source = machine.source
        ∧ (∀ name ∈ machine.bindings, state.values.lookup name = values name)
        ∧ List.Forall₂ (fun entry outcome =>
            state.values.lookup entry.2 = outcome.map Value.relation) entries outcomes

section Registration

variable {reaches : NaiveState σ β → Prop} {entries : List (String × String)} {ctx : Context β}
  {host : Host β} {fusion : DataFusion β} {machine reached : Machine σ β}
  {tableName name : String} {batches : β}

theorem Explained.narrows (explained : Explained evaluation reaches machine)
    (narrows : Narrows evaluation machine reached)
    : Explained evaluation reaches reached where
  steady name region found := explained.steady name region (narrows.plans name region found)
  states values admits := by
    obtain ⟨state, run, source, held⟩ := explained.states values (narrows.admits values admits)
    exact ⟨state, run, source.trans narrows.source.symm,
      fun name bound => held name (narrows.names name bound)⟩

theorem Registered.narrows (registered : Registered evaluation reaches entries ctx machine)
    (narrows : Narrows evaluation machine reached)
    : Registered evaluation reaches entries ctx reached where
  names := registered.names
  steady name region found := registered.steady name region (narrows.plans name region found)
  plans := registered.plans
  explained values outcomes admits given := by
    obtain ⟨state, run, source, held, read⟩ :=
      registered.explained values outcomes (narrows.admits values admits) given
    exact ⟨state, run, source.trans narrows.source.symm,
      fun name bound => held name (narrows.names name bound), read⟩

/-- One more input is registered, its name dropped or kept: the table turns out to be what the
name stands for.
-/
theorem Registered.next {plan : LogicalPlan β} {binding : Binding β}
    (registered : Registered evaluation reaches entries ctx machine)
    (found : machine.bindings.lookup name = some binding) (steady : evaluation.Steady plan)
    (represents
      : ∀ outcome, evaluation.Outcome plan outcome
          → MayHold evaluation binding (outcome.map .relation))
    (kept
      : reached.bindings = machine.bindings.erase name
        ∨ reached.bindings = machine.bindings
          ∧ ∀ value outcome, MayHold evaluation binding value → evaluation.Outcome plan outcome
            → value = outcome.map .relation)
    (source : reached.source = machine.source)
    : Registered evaluation reaches (entries ++ [(tableName, name)]) (ctx ++ [(tableName, plan)])
        reached where
  names := by simp [registered.names]
  steady := by
    rcases kept with dropped | ⟨kept, _⟩
    · exact dropped ▸ registered.steady.erase
    · exact kept ▸ registered.steady
  plans table inside := by
    rcases List.mem_append.mp inside with earlier | last
    · exact registered.plans table earlier
    · cases List.mem_singleton.mp last
      exact steady
  explained values outcomes admits given := by
    have first := List.forall₂_take_append outcomes ctx [(tableName, plan)] given.flip
    have last := List.forall₂_drop_append outcomes ctx [(tableName, plan)] given.flip
    rw [← List.take_append_drop ctx.length outcomes]
    generalize outcomes.take ctx.length = before at first
    generalize outcomes.drop ctx.length = here at last
    cases last with
    | @cons outcome _ _ _ turns none =>
        cases none
        rcases kept with dropped | ⟨kept, determined⟩
        · rw [dropped] at admits ⊢
          have updated
              : Admits evaluation machine.bindings
                  (Function.update values name (outcome.map .relation)) := by
            refine admits.update (fun other same => ?_)
            cases found.symm.trans same
            exact represents outcome turns
          obtain ⟨state, run, unmoved, held, read⟩ :=
            registered.explained _ before updated first.flip
          refine ⟨state, run, unmoved.trans source.symm, ?_, List.rel_append read ?_⟩
          · intro other bound
            obtain ⟨differs, inside⟩ := AList.mem_erase.mp bound
            rw [held other inside, Function.update_of_ne differs]
          · refine .cons ?_ .nil
            rw [held name (AList.lookup_isSome.mp (by simp [found])), Function.update_self]
        · rw [kept] at admits ⊢
          obtain ⟨state, run, unmoved, held, read⟩ :=
            registered.explained values before admits first.flip
          refine ⟨state, run, unmoved.trans source.symm, held, List.rel_append read ?_⟩
          refine .cons ?_ .nil
          rw [held name (AList.lookup_isSome.mp (by simp [found]))]
          exact determined _ _ (admits name binding found) turns

/-- A stored relation is registered under its own value, whether or not it is dropped. -/
theorem Registered.afterRead {plan : LogicalPlan β} {binding : Binding β}
    (registered : Registered evaluation reaches entries ctx machine)
    (found : machine.bindings.lookup name = some binding) (steady : evaluation.Steady plan)
    (value : ∀ outcome, evaluation.Outcome plan outcome ↔ outcome = some batches)
    (stored : ∀ value, MayHold evaluation binding value ↔ value = some (.relation batches))
    : Registered evaluation reaches (entries ++ [(tableName, name)]) (ctx ++ [(tableName, plan)])
        (machine.afterRead name) := by
  refine registered.next found steady ?_ ?_ rfl
  · intro outcome turns
    rw [(value outcome).mp turns]
    exact (stored _).mpr rfl
  · by_cases last : usesOf machine.remaining name ≤ 1
    · exact Or.inl (by simp [Machine.afterRead, last])
    · refine Or.inr ⟨by simp [Machine.afterRead, last], ?_⟩
      intro held outcome represents turns
      rw [(value outcome).mp turns, (stored held).mp represents]
      rfl

/-- The next input as the engine registers it. -/
abbrev RegistersNext (evaluation : Evaluation β) (reaches : NaiveState σ β → Prop)
    (entries : List (String × String)) (tableName name : String)
    : Except PyErr (Context β × Nat) × Machine σ β → Prop :=
  Proc.Ends
    (fun result reached =>
      Registered evaluation reaches (entries ++ [(tableName, name)]) result.1 reached)
    (fun _ _ => True)

/-- What is stored is registered as it is, by cases on the binding. -/
theorem Registered.registerStored
    (registered : Registered evaluation reaches entries ctx machine)
    : RegistersNext evaluation reaches entries tableName name
        (registerStored host fusion ctx tableName name machine) := by
  unfold Fedqrs.registerStored
  rw [Proc.get_bind_apply]
  have refused
      (missing : ∀ batches, machine.bindings.lookup name ≠ some (.materialized batches))
      : RegistersNext evaluation reaches entries tableName name
          (registerResident host fusion ctx tableName name machine) := by
    rw [registerResident_of_missing missing]
    trivial
  cases found : machine.bindings.lookup name with
  | none => exact refused (by simp [found])
  | some binding =>
      cases binding with
      | keys | «lazy» => exact refused (by simp [found])
      | spilled spilled =>
          simp only [registerSpilled_apply]
          cases fusion.registerTable (ctx.map Prod.fst) tableName with
          | error failure => trivial
          | ok _ =>
              exact registered.afterRead found (.spillStream _)
                (fun _ => Evaluation.outcome_spillStream) (fun _ => Iff.rfl)
      | materialized batches =>
          simp only [registerResident_of_materialized found]
          cases fusion.memTable batches with
          | error failure => trivial
          | ok _ =>
              cases fusion.registerTable (ctx.map Prod.fst) tableName with
              | error failure => trivial
              | ok _ =>
                  exact registered.afterRead found (.memTable _)
                    (fun _ => Evaluation.outcome_memTable) (fun _ => Iff.rfl)

/-- A plan read once is registered as it is, any other input is forced first. -/
theorem Registered.registerInput (explains : evaluation.Explains host fusion)
    (registered : Registered evaluation reaches entries ctx machine)
    : RegistersNext evaluation reaches entries tableName name
        (registerInput host fusion ctx tableName name machine) := by
  unfold Fedqrs.registerInput
  rw [Proc.get_bind_apply]
  cases found : machine.bindings.lookup name with
  | none => exact registered.registerStored
  | some binding =>
      cases binding with
      | materialized | keys | spilled => exact registered.registerStored
      | «lazy» region =>
          by_cases single : usesOf machine.remaining name ≤ 1
          · simp only [single, if_true]
            rw [registerView_of_lazy found]
            cases fusion.registerTable (ctx.map Prod.fst) tableName with
            | error failure => trivial
            | ok _ =>
                exact registered.next found (registered.steady name region found)
                  (fun outcome turns => ⟨outcome, turns, rfl⟩) (Or.inl rfl) rfl
          · simp only [single, if_false]
            refine (forceMaterialized_narrows explains registered.steady).bind
              (fun _ _ narrows => ?_)
            exact (registered.narrows narrows).registerStored

/-- All inputs are registered, by induction over them. -/
theorem Registered.registerInputs (explains : evaluation.Explains host fusion)
    (rest : List (String × String)) (inputBytes : Nat)
    (registered : Registered evaluation reaches entries ctx machine)
    : Proc.Ends
        (fun result reached => Registered evaluation reaches (entries ++ rest) result.1 reached)
        (fun _ _ => True) (registerInputs host fusion rest ctx inputBytes machine) := by
  induction rest generalizing entries ctx machine inputBytes with
  | nil =>
      rw [List.append_nil]
      exact registered
  | cons head rest ih =>
      obtain ⟨tableName, name⟩ := head
      refine (registered.registerInput explains).bind (fun next reached registered' => ?_)
      rw [List.append_cons]
      exact ih _ registered'

end Registration

-----------------------------------------------------------------------------------------
-- Steps
-----------------------------------------------------------------------------------------

section Composed

variable {host : Host β} {fusion : DataFusion β} {fragment : Fragment} {ctx : Context β}

/-- Each table turns out to be something, by induction over them. -/
theorem exists_outcomes (evaluation : Evaluation β) (ctx : Context β)
    : ∃ outcomes, List.Forall₂ (fun table outcome => evaluation.Outcome table.2 outcome) ctx
        outcomes := by
  induction ctx with
  | nil => exact ⟨[], .nil⟩
  | cons table rest ih =>
      obtain ⟨outcome, turns⟩ := evaluation.exists_outcome table.2
      obtain ⟨outcomes, others⟩ := ih
      exact ⟨outcome :: outcomes, .cons turns others⟩

/-- One of the tables can be any of its results, by induction over them. -/
theorem exists_outcomes_of_lookup {name : String} {plan : LogicalPlan β} {batches : β}
    (found : ctx.lookup name = some plan) (gives : evaluation.Gives plan batches)
    : ∃ outcomes,
        List.Forall₂ (fun table outcome => evaluation.Outcome table.2 outcome) ctx outcomes
          ∧ ((ctx.map Prod.fst).zip outcomes).lookup name = some (some batches) := by
  induction ctx with
  | nil => cases found
  | cons table rest ih =>
      obtain ⟨tableName, tablePlan⟩ := table
      by_cases here : name = tableName
      · subst here
        rw [List.lookup_cons_self] at found
        cases found
        obtain ⟨outcomes, others⟩ := exists_outcomes evaluation rest
        exact ⟨some batches :: outcomes, .cons gives others, List.lookup_cons_self⟩
      · have apart : (name == tableName) = false := beq_eq_false_iff_ne.mpr here
        rw [List.lookup_cons, apart] at found
        obtain ⟨outcomes, others, read⟩ := ih found
        obtain ⟨outcome, turns⟩ := evaluation.exists_outcome tablePlan
        refine ⟨outcome :: outcomes, .cons turns others, ?_⟩
        rw [List.map_cons, List.zip_cons_cons, List.lookup_cons, apart]
        exact read

/-- A table that is found is one of the tables. -/
theorem mem_of_lookup_eq_some {name : String} {plan : LogicalPlan β}
    (found : ctx.lookup name = some plan)
    : (name, plan) ∈ ctx := by
  obtain ⟨before, after, split, _⟩ := List.lookup_eq_some_iff.mp found
  rw [split]
  exact List.mem_append_right before List.mem_cons_self

/-- What is composed of steady plans is steady, if what it reads again is settled. -/
theorem steady_composedPlan (steady : ∀ table ∈ ctx, evaluation.Steady table.2)
    (settled : fragment.rereads = true → ∀ table ∈ ctx, evaluation.Settled table.2)
    : evaluation.Steady (composedPlan fragment ctx) := by
  refine .fragment ?_ ?_
  · intro input inside
    obtain ⟨table, member, rfl⟩ := List.mem_map.mp inside
    exact steady table member
  · intro rereads input inside
    obtain ⟨table, member, rfl⟩ := List.mem_map.mp inside
    exact settled rereads table member

/-- A guard over settled tables gives what its plan gives: its probe has seen what it passes. -/
theorem runSingleRowGuard_gives (explains : evaluation.Explains host fusion)
    (steady : ∀ table ∈ ctx, evaluation.Steady table.2)
    (settled : ∀ table ∈ ctx, evaluation.Settled table.2) {keys : List IrExpr} {batches : β}
    (ran : runSingleRowGuard fusion keys ctx = .ok batches)
    : evaluation.Gives (composedPlan (.singleRowGuard keys) ctx) batches := by
  obtain ⟨violations, counted, passed⟩ := Except.bind_eq_ok.mp ran
  by_cases several : 0 < violations
  · rw [if_pos several] at passed
    cases passed
  · rw [if_neg several] at passed
    obtain ⟨plan, seen, probed, gives, found⟩ := explains.guardViolations steady counted
    obtain ⟨other, collected, given⟩ := explains.collectInput steady passed
    cases probed.symm.trans collected
    have same : seen = batches :=
      settled _ (mem_of_lookup_eq_some probed) seen batches gives given
    obtain ⟨outcomes, turns, read⟩ := exists_outcomes_of_lookup probed given
    refine Evaluation.gives_composedPlan.mpr ⟨outcomes, turns, ?_⟩
    exact explains.singleRowGuard read (by rw [← same, found]; omega)

/-- A composed fragment turns out to be what its plan does, by cases on the fragment. -/
theorem composeFragment_outcome (explains : evaluation.Explains host fusion)
    (steady : ∀ table ∈ ctx, evaluation.Steady table.2)
    (settled : fragment.rereads = true → ∀ table ∈ ctx, evaluation.Settled table.2)
    {inputBytes : Nat} {result : Binding β}
    (ran : composeFragment fusion fragment ctx inputBytes = .ok result)
    {value : Option (Value β)} (represents : MayHold evaluation result value)
    : ∃ outcome, evaluation.Outcome (composedPlan fragment ctx) outcome
        ∧ value = outcome.map .relation := by
  have lazily (ran : lazyBinding fusion fragment ctx inputBytes = .ok result)
      : ∃ outcome, evaluation.Outcome (composedPlan fragment ctx) outcome
          ∧ value = outcome.map .relation := by
    obtain ⟨_, _, done⟩ := Except.bind_eq_ok.mp ran
    cases done
    exact represents
  have projecting (project : List Projection)
      (ran : projectedBinding fusion fragment project ctx inputBytes = .ok result)
      : ∃ outcome, evaluation.Outcome (composedPlan fragment ctx) outcome
          ∧ value = outcome.map .relation := by
    unfold projectedBinding at ran
    split at ran
    · exact lazily ran
    · obtain ⟨batches, projected, done⟩ := Except.bind_eq_ok.mp ran
      cases done
      have gives :=
        explains.projectDataframeDedup (steady_composedPlan steady settled) projected
      exact ⟨some batches, gives, represents⟩
  cases fragment with
  | hashJoin | nestedLoopJoin | project => exact projecting _ ran
  | aggregate | sort | filter | limit | rawSql => exact lazily ran
  | singleRowGuard keys =>
      obtain ⟨batches, guarded, done⟩ := Except.bind_eq_ok.mp ran
      cases done
      have gives := runSingleRowGuard_gives explains steady (settled rfl) guarded
      exact ⟨some batches, gives, represents⟩

/-- What the names stand for is determined. -/
theorem NaiveState.Holds.unique {state : NaiveState σ β} {inputs : NameMap String}
    {tables others : List (Option β)} (holds : state.Holds inputs tables)
    (again : state.Holds inputs others)
    : tables = others := by
  refine List.right_unique_forall₂' ?_ holds again
  intro entry first second found other
  have injective : Function.Injective (Value.relation (β := β)) := fun _ _ same => by
    cases same
    rfl
  exact Option.map_injective injective (found.symm.trans other)

end Composed

section Reads

/-- A key set that is found is the one bound. -/
theorem keysBinding_ends (name : String) (machine : Machine σ β)
    : Proc.Ends
        (fun keys reached =>
          machine.bindings.lookup name = some (.keys keys) ∧ reached = machine)
        (fun _ _ => True) (keysBinding name machine) := by
  simp only [keysBinding, Proc.get_bind_apply]
  cases machine.bindings.lookup name with
  | none => trivial
  | some binding =>
      cases binding with
      | keys batches => exact ⟨rfl, rfl⟩
      | materialized | spilled | «lazy» => trivial

/-- So are the extra ones, by induction over them. -/
theorem extraKeys_ends (extras : List ExtraInjection) (machine : Machine σ β)
    : Proc.Ends
        (fun sets reached =>
          List.Forall₂ (fun extra set => set.1 = extra.column
                ∧ machine.bindings.lookup extra.keysFrom = some (.keys set.2))
              extras sets
            ∧ reached = machine)
        (fun _ _ => True) (extraKeys extras machine) := by
  induction extras with
  | nil => exact ⟨.nil, rfl⟩
  | cons extra rest ih =>
      refine (keysBinding_ends extra.keysFrom machine).bind ?_
      rintro keys _ ⟨found, rfl⟩
      refine ih.bind ?_
      rintro sets _ ⟨others, rfl⟩
      exact ⟨.cons ⟨rfl, found⟩ others, rfl⟩

/-- Only the counts change, by induction over the names. -/
theorem noteUses_apply (names : List String) (machine : Machine σ β)
    : ∃ remaining, noteUses names machine = (.ok (), { machine with remaining }) := by
  induction names generalizing machine with
  | nil => exact ⟨machine.remaining, rfl⟩
  | cons name rest ih =>
      rw [noteUses, Proc.bind_of_ok (noteUse_apply name machine)]
      exact ih _

/-- A source operation moves the sources only. -/
theorem onSource_ends (action : Proc σ PyErr α) (machine : Machine σ β)
    : Proc.Ends
        (fun value reached =>
          ∃ source, action machine.source = (.ok value, source) ∧ reached = { machine with source })
        (fun _ _ => True) (onSource action machine) := by
  rw [onSource_apply]
  rcases action machine.source with ⟨failure | value, source⟩
  · trivial
  · exact ⟨source, rfl, rfl⟩

/-- Keys are collected from a stored relation, by cases on the binding. -/
theorem collectDistinctFrom_ends {host : Host β} {fusion : DataFusion β}
    (explains : evaluation.Explains host fusion) (name key : String) (machine : Machine σ β)
    : Proc.Ends
        (fun keys reached =>
          reached = machine
            ∧ ∃ binding batches, machine.bindings.lookup name = some binding
                ∧ (∀ held, MayHold evaluation binding held → held = some (.relation batches))
                ∧ evaluation.distinctKeys batches key keys)
        (fun _ _ => True) (collectDistinctFrom fusion name key machine) := by
  simp only [collectDistinctFrom, Proc.get_bind_apply]
  cases found : machine.bindings.lookup name with
  | none => trivial
  | some binding =>
      cases binding with
      | keys | «lazy» => trivial
      | spilled spilled =>
          simp only [liftDf_apply]
          cases ran : fusion.collectDistinct (.spillStream spilled.file) key with
          | error failure => trivial
          | ok keys =>
              exact ⟨rfl, _, spilled.file, rfl, fun _ held => held, explains.collectFile ran⟩
      | materialized batches =>
          dsimp only
          cases fusion.memTable batches with
          | error failure => trivial
          | ok _ =>
              simp only [liftDf_ok, Proc.pure_bind, liftDf_apply]
              cases ran : fusion.collectDistinct (.memTable batches) key with
              | error failure => trivial
              | ok keys =>
                  exact ⟨rfl, _, batches, rfl, fun _ held => held, explains.collectTable ran⟩

/-- A relation found in memory is the one bound. -/
theorem materialized_ends (name : String) (machine : Machine σ β)
    : Proc.Ends
        (fun batches reached =>
          machine.bindings.lookup name = some (.materialized batches) ∧ reached = machine)
        (fun _ _ => True) (materialized name machine) := by
  simp only [materialized, Proc.get_bind_apply]
  cases machine.bindings.lookup name with
  | none => trivial
  | some binding =>
      cases binding with
      | materialized batches => exact ⟨rfl, rfl⟩
      | keys | spilled | «lazy» => trivial

/-- What is exported was stored. -/
theorem export_ends (evaluation : Evaluation β) (name : String) (machine : Machine σ β)
    : Proc.Ends
        (fun batches reached =>
          reached.source = machine.source
            ∧ ∃ binding, machine.bindings.lookup name = some binding
                ∧ ∀ held, MayHold evaluation binding held → held = some (.relation batches))
        (fun _ _ => True) («export» name machine) := by
  simp only [«export», Proc.get_bind_apply, setBindings, Proc.modify_bind_apply]
  cases machine.bindings.lookup name with
  | none => trivial
  | some binding =>
      cases binding with
      | keys | «lazy» => trivial
      | materialized | spilled => exact ⟨rfl, _, rfl, fun _ held => held⟩

end Reads

section Steps

variable [Fetched β] {engine : Engine σ β} {ir : Ir} {reaches : NaiveState σ β → Prop}
  {machine reached : Machine σ β}

/-- The states one more step may reach. -/
def Reaches (engine : Engine σ β) (evaluation : Evaluation β) (ir : Ir) (step : Step)
    (reaches : NaiveState σ β → Prop) (state : NaiveState σ β)
    : Prop :=
  ∃ before, reaches before ∧ MayStep engine evaluation ir step before state

/-- A composed fragment is explained by the merge that its outcome decides: over tables that
give its result, or stuck on whatever its inputs turn out to be.
-/
theorem Registered.merge {name binding : String} {fragment : Fragment}
    {inputs : NameMap String} {ctx : Context β} {inputBytes : Nat} {result : Binding β}
    (explains : evaluation.Explains engine.host engine.fusion)
    (planned : ir.fragments.lookup name = some fragment)
    (registered
      : Registered evaluation reaches (inputs.entries.map (fun entry => (entry.1, entry.2))) ctx
          machine)
    (settled : fragment.rereads = true → ∀ table ∈ ctx, evaluation.Settled table.2)
    (composed : composeFragment engine.fusion fragment ctx inputBytes = .ok result)
    : Explained evaluation (Reaches engine evaluation ir (.merge name inputs binding) reaches)
        { machine with bindings := machine.bindings.insert binding result } := by
  have steady
      : SteadyBindings evaluation (machine.bindings.insert binding result) := by
    refine registered.steady.insert (fun region written => ?_)
    rcases composeFragment_region composed with lazily | ⟨batches, stored⟩
    · cases lazily.symm.trans written
      exact steady_composedPlan registered.plans settled
    · cases stored.symm.trans written
  refine ⟨steady, fun values admits => ?_⟩
  obtain ⟨outcome, turns, picked⟩ :=
    composeFragment_outcome explains registered.plans settled composed admits.written
  obtain ⟨others, admits', same⟩ := admits.overwritten
  have names : ctx.map Prod.fst = inputs.entries.map (fun entry => entry.1) := by
    rw [registered.names]
    simp [List.map_map, Function.comp_def]
  have elsewhere {state : NaiveState σ β}
      (held : ∀ other ∈ machine.bindings, state.values.lookup other = others other)
      {other : String} (bound : other ∈ machine.bindings.insert binding result)
      (differs : other ≠ binding)
      : state.values.lookup other = values other := by
    rw [held other (((AList.mem_insert _).mp bound).resolve_left differs), same other differs]
  cases outcome with
  | some batches =>
      obtain ⟨outcomes, each, result⟩ := Evaluation.gives_composedPlan.mp turns
      obtain ⟨state, run, source, held, read⟩ := registered.explained others outcomes admits' each
      rw [names] at result
      refine ⟨_, ⟨state, run, .merge planned read result⟩, source, ?_⟩
      intro other bound
      by_cases here : other = binding
      · subst here
        rw [AList.lookup_insert, picked]
        rfl
      · rw [AList.lookup_insert_ne here]
        exact elsewhere held bound here
  | none =>
      obtain ⟨outcomes, given⟩ := exists_outcomes evaluation ctx
      obtain ⟨state, run, source, held, read⟩ :=
        registered.explained others outcomes admits' given
      refine ⟨_, ⟨state, run, .stuck planned ?_⟩, source, ?_⟩
      · intro tables batches holds result
        rw [← names, ← NaiveState.Holds.unique read holds] at result
        exact turns batches (Evaluation.gives_composedPlan.mpr ⟨outcomes, given, result⟩)
      · intro other bound
        by_cases here : other = binding
        · subst here
          rw [AList.lookup_erase, picked]
          rfl
        · rw [AList.lookup_erase_ne here]
          exact elsewhere held bound here

/-- The values of a state are ones the bindings may have. -/
def Reflects (evaluation : Evaluation β) (machine : Machine σ β) (state : NaiveState σ β) : Prop :=
  ∀ name binding, machine.bindings.lookup name = some binding
    → MayHold evaluation binding (state.values.lookup name)

/-- A step that writes a name with a settled value. -/
theorem Explained.step {step : Step} (explained : Explained evaluation reaches machine)
    (name : String) (written : Binding β) (value : Value β)
    (bindings : reached.bindings = machine.bindings.insert name written)
    (stored : ∀ region, written ≠ .lazy region)
    (determined : ∀ held, MayHold evaluation written held → held = some value)
    (steps
      : ∀ state, state.source = machine.source → Reflects evaluation machine state
          → MayStep engine evaluation ir step state
            { values := state.values.insert name value, source := reached.source })
    : Explained evaluation (Reaches engine evaluation ir step reaches) reached := by
  constructor
  · rw [bindings]
    exact explained.steady.insert (fun region same => absurd same (stored region))
  intro values admits
  rw [bindings] at admits ⊢
  obtain ⟨others, admits', same⟩ := admits.overwritten
  obtain ⟨state, run, unmoved, held⟩ := explained.states others admits'
  have reflects : Reflects evaluation machine state := by
    intro other binding found
    rw [held other (AList.lookup_isSome.mp (by simp [found]))]
    exact admits' other binding found
  refine ⟨_, ⟨state, run, steps state unmoved reflects⟩, rfl, ?_⟩
  intro other bound
  by_cases here : other = name
  · subst here
    rw [AList.lookup_insert, determined _ admits.written]
  · rw [AList.lookup_insert_ne here,
      held other (((AList.mem_insert _).mp bound).resolve_left here), same other here]

/-- How a step ends whose machine is explained: with the machine after it explained, or with a
result that the steps so far may have bound.
-/
abbrev StepExplained (engine : Engine σ β) (evaluation : Evaluation β) (ir : Ir) (step : Step)
    (reaches : NaiveState σ β → Prop)
    : Except PyErr (Option β) × Machine σ β → Prop :=
  Proc.Ends
    (fun result reached =>
      (result = none → Explained evaluation (Reaches engine evaluation ir step reaches) reached)
        ∧ ∀ batches, result = some batches
            → ∃ state, reaches state ∧ state.source = reached.source
                ∧ ∀ rest, MayReturn engine evaluation ir (step :: rest) state batches state)
    (fun _ _ => True)

/-- Storing what a step has written ends the step. -/
theorem StepExplained.store {step : Step} {name : String} {batches : β}
    (explains : evaluation.Explains engine.host engine.fusion)
    (explained
      : Explained evaluation (Reaches engine evaluation ir step reaches)
          { machine with bindings := machine.bindings.insert name (.materialized batches) })
    : StepExplained engine evaluation ir step reaches
        ((do
            storeRelation engine.host name batches
            pure none
            : EngineM σ β (Option β))
          machine) := by
  refine (storeRelation_narrows explains).bind (fun _ reached narrows => ?_)
  exact ⟨fun _ => explained.narrows narrows, fun _ absent => by cases absent⟩

omit [Fetched β] in
/-- No input has been registered yet. -/
theorem Explained.registered (explained : Explained evaluation reaches machine)
    : Registered evaluation reaches [] [] machine where
  names := rfl
  steady := explained.steady
  plans _ inside := by cases inside
  explained values outcomes admits given := by
    cases given
    obtain ⟨state, run, source, held⟩ := explained.states values admits
    exact ⟨state, run, source, held, .nil⟩

omit [Fetched β] in
/-- A state that the bindings admit, and whose values are ones they may have. -/
theorem Explained.exists_reflects (explained : Explained evaluation reaches machine)
    : ∃ state, reaches state ∧ state.source = machine.source
        ∧ Reflects evaluation machine state := by
  have values
      : ∃ values : String → Option (Value β), Admits evaluation machine.bindings values := by
    have each
        : ∀ name, ∃ value, ∀ binding, machine.bindings.lookup name = some binding
            → MayHold evaluation binding value := by
      intro name
      cases machine.bindings.lookup name with
      | none => exact ⟨none, fun _ absent => by cases absent⟩
      | some binding =>
          obtain ⟨value, represents⟩ := exists_mayHold evaluation binding
          refine ⟨value, fun other same => ?_⟩
          cases same
          exact represents
    obtain ⟨values, admits⟩ := Classical.axiomOfChoice each
    exact ⟨values, admits⟩
  obtain ⟨values, admits⟩ := values
  obtain ⟨state, run, source, held⟩ := explained.states values admits
  refine ⟨state, run, source, fun name binding found => ?_⟩
  rw [held name (AList.lookup_isSome.mp (by simp [found]))]
  exact admits name binding found

/-- A step of an explained machine is explained, by cases on the step. -/
theorem Explained.runStep (explains : evaluation.Explains engine.host engine.fusion) (ir : Ir)
    (step : Step) (explained : Explained evaluation reaches machine)
    (rereads : RereadsSettled engine evaluation ir machine step)
    : StepExplained engine evaluation ir step reaches (runStep engine ir step machine) := by
  cases step with
  | sourceScan datasource scan binding materialize =>
      refine (onSource_ends _ machine).bind ?_
      rintro batches _ ⟨source, ran, rfl⟩
      refine StepExplained.store explains
        (explained.step binding (.materialized batches) (.relation batches) rfl
          (fun _ same => by cases same) (fun _ held => held) ?_)
      intro state unmoved _
      exact .sourceScan (unmoved ▸ ran)
  | collectDistinct input key cap binding =>
      refine (forceMaterialized_narrows explains explained.steady).bind
        (fun _ forced narrows => ?_)
      refine (collectDistinctFrom_ends explains input key forced).bind ?_
      rintro keys _ ⟨rfl, held, batches, found, determined, collected⟩
      refine ⟨fun _ => ?_, fun _ absent => by cases absent⟩
      refine (explained.narrows narrows).step binding (.keys keys) (.keys keys) rfl
        (fun _ same => by cases same) (fun _ held => held) ?_
      intro state unmoved reflects
      exact unmoved ▸ .collectDistinct (determined _ (reflects input held found)) collected
  | injectedScan datasource scan injectColumn keysFrom binding ndv extras =>
      refine (keysBinding_ends keysFrom machine).bind ?_
      rintro keys reached ⟨found, same⟩
      rw [same]
      refine (extraKeys_ends extras machine).bind ?_
      rintro sets reached ⟨others, same⟩
      rw [same]
      refine (onSource_ends _ _).bind ?_
      rintro batches _ ⟨source, ran, rfl⟩
      obtain ⟨remaining, noted⟩ := noteUses_apply (keysFrom :: extras.map ExtraInjection.keysFrom)
        { machine with source }
      rw [Proc.bind_of_ok noted]
      refine StepExplained.store explains
        (explained.step binding (.materialized batches) (.relation batches) rfl
          (fun _ same => by cases same) (fun _ held => held) ?_)
      intro state unmoved reflects
      refine .injectedScan (reflects keysFrom _ found) ?_ (unmoved ▸ ran)
      exact others.imp (fun _ _ pair => ⟨pair.1, reflects _ _ pair.2⟩)
  | ship datasource input table =>
      refine (forceMaterialized_narrows explains explained.steady).bind
        (fun _ forced narrows => ?_)
      refine (materialized_ends input forced).bind ?_
      rintro batches _ ⟨found, rfl⟩
      refine (onSource_ends _ _).bind ?_
      rintro _ _ ⟨source, ran, rfl⟩
      refine ⟨fun _ => ?_, fun _ absent => by cases absent⟩
      refine ⟨(explained.narrows narrows).steady, fun values admits => ?_⟩
      obtain ⟨state, run, unmoved, held⟩ := (explained.narrows narrows).states values admits
      refine ⟨_, ⟨state, run, .ship ?_ (unmoved ▸ ran)⟩, rfl, held⟩
      rw [held input (AList.lookup_isSome.mp (by simp [found]))]
      exact admits input _ found
  | merge name inputs binding =>
      simp only [Fedqrs.runStep]
      cases planned : ir.fragments.lookup name with
      | none => trivial
      | some fragment =>
          have composed
              : Proc.Ends
                  (fun result reached =>
                    Explained evaluation
                      (Reaches engine evaluation ir (.merge name inputs binding) reaches)
                      { reached with bindings := reached.bindings.insert binding result })
                  (fun _ _ => True)
                  (runFragment engine.fusion engine.host fragment inputs machine) := by
            have registers := explained.registered.registerInputs explains
              (inputs.entries.map (fun entry => (entry.1, entry.2))) 0
            unfold runFragment
            rcases registered : Fedqrs.registerInputs engine.host engine.fusion
                (inputs.entries.map (fun entry => (entry.1, entry.2))) [] 0 machine
              with ⟨failure | ⟨ctx, inputBytes⟩, reached⟩ <;> rw [registered] at registers
            · rw [Proc.bind_of_error registered]
              trivial
            rw [Proc.bind_of_ok registered]
            dsimp only
            rw [liftDf_apply]
            cases ran : composeFragment engine.fusion fragment ctx inputBytes with
            | error failure => trivial
            | ok result =>
                exact registers.merge explains planned
                  (fun again => rereads fragment planned again ctx inputBytes reached registered)
                  ran
          refine composed.bind (fun result reached explained' => ?_)
          cases result with
          | materialized batches => exact StepExplained.store explains explained'
          | keys | spilled | «lazy» =>
              exact ⟨fun _ => explained', fun _ absent => by cases absent⟩
  | «return» input =>
      refine (forceMaterialized_narrows explains explained.steady).bind
        (fun _ forced narrows => ?_)
      refine (export_ends evaluation input forced).bind ?_
      rintro result reached ⟨source, held, found, determined⟩
      refine ⟨(fun absent => by cases absent), ?_⟩
      intro batches same
      cases same
      obtain ⟨state, run, unmoved, reflects⟩ := (explained.narrows narrows).exists_reflects
      refine ⟨state, run, unmoved.trans source.symm, fun rest => .return ?_⟩
      exact determined _ (reflects input held found)

end Steps

-----------------------------------------------------------------------------------------
-- Whole runs
-----------------------------------------------------------------------------------------

section Runs

variable [Fetched β]

/-- What a loop from an explained machine returns, the steps may return from a state that
explains it; by induction over the steps.
-/
theorem Explained.runUntil {engine : Engine σ β}
    (explains : evaluation.Explains engine.host engine.fusion) (ir : Ir) (missing : PyErr)
    (steps : List Step) {reaches : NaiveState σ β → Prop} {machine reached : Machine σ β}
    {batches : β} (explained : Explained evaluation reaches machine)
    (along
      : Proc.Along (Fedqrs.runStep engine ir) (RereadsSettled engine evaluation ir) steps machine)
    (ran : Proc.runUntil (Fedqrs.runStep engine ir) missing steps machine = (.ok batches, reached))
    : ∃ state last, reaches state ∧ MayReturn engine evaluation ir steps state batches last
        ∧ last.source = reached.source := by
  induction steps generalizing reaches machine with
  | nil => cases ran
  | cons step rest ih =>
      obtain ⟨result, middle, first, later⟩ := Proc.bind_eq_ok.mp ran
      have ends := explained.runStep explains ir step along.1
      rw [first] at ends
      cases result with
      | none =>
          obtain ⟨state, last, ⟨before, run, taken⟩, returns, source⟩ :=
            ih (ends.1 rfl) (along.2 middle first) later
          exact ⟨before, last, run, .next taken returns, source⟩
      | some result =>
          cases later
          obtain ⟨state, run, source, returns⟩ := ends.2 batches rfl
          exact ⟨state, state, run, returns rest, source⟩

/-- Whatever the engine returns, the plan may return step by step, each fragment evaluated once
and each name kept, if guards and SQL texts read what is settled; and the sources are left as
those steps leave them.
-/
theorem execute_explained (engine : Engine σ β) (evaluation : Evaluation β)
    (explains : evaluation.Explains engine.host engine.fusion) (ir : Ir) (source reached : σ)
    (batches : β)
    (rereads
      : Proc.Along (Fedqrs.runStep engine ir) (RereadsSettled engine evaluation ir) ir.steps
          (Machine.start ir (engine.connectors.clearShipments source)))
    (ran : execute engine ir source = (.ok batches, reached))
    : ∃ last,
        MayReturn engine evaluation ir ir.steps
            (Naive.start (engine.connectors.clearShipments source)) batches last
          ∧ reached = engine.connectors.clearShipments last.source := by
  have begun
      : Explained evaluation
          (fun state => state = Naive.start (engine.connectors.clearShipments source))
          (Machine.start ir (engine.connectors.clearShipments source)) := by
    constructor
    · intro name region found
      cases found
    intro values _
    refine ⟨_, rfl, rfl, fun name bound => ?_⟩
    exact absurd bound (AList.notMem_empty name)
  rcases run : runSteps engine ir (engine.connectors.clearShipments source) with
    ⟨outcome, machine⟩
  rw [execute, run] at ran
  cases ran
  obtain ⟨_, last, rfl, returns, same⟩ := begun.runUntil explains ir _ ir.steps rereads run
  exact ⟨last, returns, congrArg _ same.symm⟩

end Runs

-----------------------------------------------------------------------------------------
-- A guarded limit
-----------------------------------------------------------------------------------------

/-- A relation of two batches of one row each. -/
def twoRows : Batches where
  schema := (intBatches "k" []).schema
  batches := [intBatch "k" [7], intBatch "k" [8]]

/-- The batches that a limit over a stored relation lets through: the first ones. -/
def LogicalPlan.firstBatches : LogicalPlan Batches → Except DfError Batches
  | .memTable batches => .ok batches
  | .spillStream file => .ok file
  | .fragment (.limit (some limit) _) _ [.memTable table] =>
      .ok { table with batches := table.batches.take limit }
  | .fragment _ _ _ => .error (.plan "neither stored nor a limit of what is")

/-- The plan that a guard's input is registered as. -/
def guardedPlan (ctx : Context Batches) : Except DfError (LogicalPlan Batches) :=
  match ctx.lookup "in_0" with
  | some plan => .ok plan
  | none => .error (.plan "no table named 'in_0'")

/-- The rows of a keyless guard's probe. -/
def severalRows (relation : Batches) : Nat := if 1 < relation.numRows then 1 else 0

def firstBatchesFusion : DataFusion Batches where
  memTable _ := .ok ()
  schemaDiffs _ := none
  registerTable _ _ := .ok ()
  compose _ _ := .ok ()
  executeRegion plan _ := plan.firstBatches
  projectDataframeDedup := LogicalPlan.firstBatches
  collectDistinct _ _ := .error (.plan "no keys are collected")
  guardViolations _ ctx := do
    let plan ← guardedPlan ctx
    let seen ← plan.firstBatches
    pure (severalRows seen)
  collectTable ctx _ := do
    let plan ← guardedPlan ctx
    plan.firstBatches

/-- An engine over a source of the two rows. -/
def firstBatchesEngine : Engine (List (String × Batches)) Batches :=
  { dimEngine with
    fusion := firstBatchesFusion
    connectors := { recordingConnectors with fetch := fun _ _ => pure twoRows }
  }

/-- A limit gives any batches in order, as many as it allows; a guard gives its input. -/
def anyBatches : Evaluation Batches where
  results fragment names tables found :=
    match fragment with
    | .limit (some limit) _ =>
        ∃ table, tables = [some table] ∧ found.schema = table.schema
          ∧ found.batches.Sublist table.batches
          ∧ found.batches.length = min limit table.batches.length
    | .singleRowGuard _ =>
        (names.zip tables).lookup "in_0" = some (some found) ∧ severalRows found = 0
    | _ => False
  violations _ := severalRows
  distinctKeys _ _ _ := False

theorem firstBatches_gives {plan : LogicalPlan Batches} {batches : Batches}
    (ran : plan.firstBatches = .ok batches)
    : anyBatches.Gives plan batches := by
  unfold LogicalPlan.firstBatches at ran
  split at ran
  · cases ran
    exact Evaluation.gives_memTable.mpr rfl
  · cases ran
    exact Evaluation.gives_spillStream.mpr rfl
  · rename_i limit offset names table
    cases ran
    rw [Evaluation.Gives]
    have input : anyBatches.Gives (.memTable table) table := Evaluation.gives_memTable.mpr rfl
    refine ⟨[some table], Evaluation.allTurnOut_iff.mpr ?_, table, rfl, rfl, ?_, ?_⟩
    · exact .cons input .nil
    · exact List.take_sublist limit table.batches
    · exact List.length_take
  · cases ran

theorem guardedPlan_eq_ok {ctx : Context Batches} {plan : LogicalPlan Batches}
    (found : guardedPlan ctx = .ok plan)
    : ctx.lookup "in_0" = some plan := by
  unfold guardedPlan at found
  split at found
  · rename_i other here
    cases found
    exact here
  · cases found

theorem firstBatches_explains
    : anyBatches.Explains firstBatchesEngine.host firstBatchesEngine.fusion where
  executeRegion _ ran := firstBatches_gives ran
  projectDataframeDedup _ ran := firstBatches_gives ran
  guardViolations _ ran := by
    obtain ⟨plan, found, later⟩ := Except.bind_eq_ok.mp ran
    obtain ⟨seen, probed, same⟩ := Except.bind_eq_ok.mp later
    cases same
    exact ⟨plan, seen, guardedPlan_eq_ok found, firstBatches_gives probed, rfl⟩
  collectInput _ ran := by
    obtain ⟨plan, found, collected⟩ := Except.bind_eq_ok.mp ran
    exact ⟨plan, guardedPlan_eq_ok found, firstBatches_gives collected⟩
  singleRowGuard read none := ⟨read, none⟩
  collectTable ran := by cases ran
  collectFile ran := by cases ran
  writeIpc written := by
    cases written
    rfl

/-- Limit a relation to one row, guard it and read it once more. -/
def guardedLimit : Ir where
  outputs := ["k"]
  steps :=
    [.sourceScan "d" rawScan "dim" true,
      .merge "one" ((∅ : NameMap String).insert "in_0" "dim") "top",
      .merge "guard" ((∅ : NameMap String).insert "in_0" "top") "checked",
      .merge "one" ((∅ : NameMap String).insert "in_0" "top") "again",
      .return "checked"]
  fragments :=
    ((∅ : NameMap Fragment).insert "one" (.limit (some 1) 0)).insert "guard" (.singleRowGuard [])

/-- The limit may give either row; the guard passes the one that was picked. -/
theorem execute_explained_guardedLimit
    : (∃ last,
        MayReturn firstBatchesEngine anyBatches guardedLimit guardedLimit.steps (Naive.start [])
          { twoRows with batches := [intBatch "k" [7]] } last)
      ∧ anyBatches.Gives (composedPlan (.limit (some 1) 0) [("in_0", .memTable twoRows)])
          { twoRows with batches := [intBatch "k" [8]] } := by
  constructor
  · have along
        : Proc.Along (runStep firstBatchesEngine guardedLimit)
            (RereadsSettled firstBatchesEngine anyBatches guardedLimit) guardedLimit.steps
            (Machine.start guardedLimit []) := by
      have limits (machine : Machine (List (String × Batches)) Batches) (input binding : String)
          : RereadsSettled firstBatchesEngine anyBatches guardedLimit machine
              (.merge "one" ((∅ : NameMap String).insert "in_0" input) binding) := by
        intro fragment planned again
        cases planned
        cases again
      refine ⟨trivial, fun _ scanned => ?_⟩
      cases scanned
      refine ⟨limits _ "dim" "top", fun _ limited => ?_⟩
      cases limited
      refine ⟨?_, fun _ guarded => ?_⟩
      · intro fragment _ _ ctx inputBytes reached registered
        cases registered
        intro table inside first second gives given
        cases List.mem_singleton.mp inside
        exact (Evaluation.gives_memTable.mp gives).trans (Evaluation.gives_memTable.mp given).symm
      cases guarded
      refine ⟨limits _ "top" "again", fun _ limited => ?_⟩
      cases limited
      exact ⟨trivial, fun _ returned => by cases returned⟩
    obtain ⟨last, returns, _⟩ :=
      execute_explained firstBatchesEngine anyBatches firstBatches_explains guardedLimit [] _ _
        along rfl
    exact ⟨last, returns⟩
  · have input : anyBatches.Gives (.memTable twoRows) twoRows := Evaluation.gives_memTable.mpr rfl
    refine Evaluation.gives_composedPlan.mpr
      ⟨[some twoRows], .cons input .nil, twoRows, rfl, rfl, ?_, rfl⟩
    exact List.sublist_cons_self _ _

end Fedqrs
