import Fedqrs.Engine.Execute

/-! What a step can do to the machine, said once: every engine operation, whether it
succeeds or fails, is a sequence of the elementary changes below.
-/

namespace Fedqrs

open EngineM

variable {σ β α : Type}

/-- An elementary change of the machine. Relations stored in memory satisfy `stored`, key
relations satisfy `keyed`, and the sources move as `shift` says.
-/
inductive Effect (host : Host β) (stored keyed : β → Prop) (shift : σ → σ → Prop)
    : Machine σ β → Machine σ β → Prop
  | dropped (machine : Machine σ β) (name : String)
    : Effect host stored keyed shift machine
        { machine with bindings := machine.bindings.erase name }
  | counted (machine : Machine σ β) (remaining : NameMap Nat)
    : Effect host stored keyed shift machine { machine with remaining }
  | moved (machine : Machine σ β) (source : σ) (holds : shift machine.source source)
    : Effect host stored keyed shift machine { machine with source }
  | stored (machine : Machine σ β) (name : String) (batches : β) (holds : stored batches)
    : Effect host stored keyed shift machine
        { machine with bindings := machine.bindings.insert name (.materialized batches) }
  | written (machine : Machine σ β) (batches : β)
    : Effect host stored keyed shift machine { machine with files := machine.files ++ [batches] }
  | onDisk (machine : Machine σ β) (name : String) (batches file : β)
    (member : batches ∈ machine.files) (back : host.writeIpc batches = .ok file)
    : Effect host stored keyed shift machine
        {
          machine with
          bindings :=
            machine.bindings.insert name
              (.spilled { file, bytes := host.batchesBytes batches })
        }
  | composed (machine : Machine σ β) (name : String) (region : LazyRegion β)
    : Effect host stored keyed shift machine
        { machine with bindings := machine.bindings.insert name (.lazy region) }
  | collected (machine : Machine σ β) (name : String) (batches : β) (holds : keyed batches)
    : Effect host stored keyed shift machine
        { machine with bindings := machine.bindings.insert name (.keys batches) }

/-- The operation changes the machine by elementary changes only. -/
abbrev Effects (host : Host β) (stored keyed : β → Prop) (shift : σ → σ → Prop)
    (action : EngineM σ β α)
    : Prop :=
  Proc.Within (Effect host stored keyed shift) action

section Operations

variable {host : Host β} {stored keyed : β → Prop} {shift : σ → σ → Prop}

theorem effects_liftDf (result : Except DfError α)
    : Effects host stored keyed shift (liftDf result : EngineM σ β α) :=
  Proc.Within.lift _

theorem effects_erase (name : String)
    : Effects host stored keyed shift
        (setBindings (fun bindings => bindings.erase name) : EngineM σ β Unit) :=
  Proc.Within.modify (fun machine => .dropped machine name)

theorem effects_noteUse (name : String)
    : Effects host stored keyed shift (noteUse name : EngineM σ β Unit) :=
  Proc.Within.modify (fun machine => .counted machine _)

theorem effects_noteUses (names : List String)
    : Effects host stored keyed shift (noteUses names : EngineM σ β Unit) := by
  induction names with
  | nil => exact Proc.Within.pure ()
  | cons name rest ih => exact (effects_noteUse name).bind (fun _ => ih)

/-- A source operation moves the sources, and nothing else. -/
theorem effects_onSource {action : Proc σ PyErr α} {machine : Machine σ β}
    (moves : shift machine.source (action machine.source).2)
    : Relation.ReflTransGen (Effect host stored keyed shift) machine
        (onSource action machine).2 :=
  .single (.moved machine _ moves)

/-- Writing a relation and pointing a name at its file. -/
theorem effects_spillTo (name : String) (batches : β)
    : Effects host stored keyed shift (spillTo host name batches : EngineM σ β Unit) := by
  intro machine
  cases written : host.writeIpc batches with
  | error failure =>
      rw [spillTo_of_error written]
      exact .single (.written machine batches)
  | ok file =>
      rw [spillTo_of_ok written]
      refine .head (.written machine batches) (.single ?_)
      exact .onDisk _ name batches file (by simp) written

/-- The eviction loop; by induction over the sized names. -/
theorem effects_spillInOrder (incoming : Nat) (sized : List (String × Nat)) (resident : Nat)
    : Effects host stored keyed shift
        (spillInOrder host incoming sized resident : EngineM σ β Unit) := by
  induction sized generalizing resident with
  | nil => exact Proc.Within.pure ()
  | cons head rest ih =>
      obtain ⟨name, bytes⟩ := head
      unfold spillInOrder
      split
      · have taken : Effects host stored keyed shift (takeSized name : EngineM σ β β) := by
          refine Proc.Within.getBind (fun machine => ?_)
          refine ((effects_erase name).bind (fun _ => ?_)) machine
          split
          · exact Proc.Within.pure _
          · exact Proc.Within.fail _
        refine taken.bind (fun batches => ?_)
        exact (effects_spillTo name batches).bind (fun _ => ih (resident - bytes))
      · exact Proc.Within.pure ()

theorem effects_spillForHeadroom (incoming : Nat)
    : Effects host stored keyed shift (spillForHeadroom host incoming : EngineM σ β Unit) :=
  Proc.Within.getBind (fun machine => effects_spillInOrder incoming _ _ machine)

/-- Storing a relation that satisfies `stored`. -/
theorem effects_storeRelation (name : String) (batches : β) (holds : stored batches)
    : Effects host stored keyed shift (storeRelation host name batches : EngineM σ β Unit) := by
  refine (effects_spillForHeadroom _).bind (fun _ => ?_)
  split
  · exact effects_spillTo name batches
  · exact Proc.Within.modify (fun machine => .stored machine name batches holds)

/-- A lazy binding is dropped, executed and stored; other bindings stay. -/
theorem effects_forceMaterialized {fusion : DataFusion β} (name : String)
    (executed : ∀ region batches, executeWithRetry fusion region = .ok batches
      → stored batches)
    : Effects host stored keyed shift (forceMaterialized host fusion name : EngineM σ β Unit) := by
  intro machine
  by_cases lazy : ∃ region, machine.bindings.lookup name = some (.lazy region)
  · obtain ⟨region, found⟩ := lazy
    rw [forceMaterialized_of_lazy found]
    refine .head (.dropped machine name) ?_
    cases ran : executeWithRetry fusion region with
    | error failure => exact .refl
    | ok batches =>
        exact effects_storeRelation name batches (executed region batches ran) _
  · rw [forceMaterialized_of_not_lazy (fun region found => lazy ⟨region, found⟩)]

theorem effects_afterRead (machine : Machine σ β) (name : String)
    : Relation.ReflTransGen (Effect host stored keyed shift) machine (machine.afterRead name) := by
  unfold Machine.afterRead
  refine .head (.counted machine (countedDown machine.remaining name)) ?_
  split
  · exact .single (.dropped _ name)
  · exact .refl

theorem effects_takeMaterialized (name : String)
    : Effects host stored keyed shift (takeMaterialized name : EngineM σ β β) := by
  refine Proc.Within.getBind (fun machine => ?_)
  refine ((effects_erase name).bind (fun _ => ?_)) machine
  split
  · exact Proc.Within.pure _
  · exact effects_liftDf _
  · exact effects_liftDf _

theorem effects_consumeMaterialized (name : String)
    : Effects host stored keyed shift (consumeMaterialized name : EngineM σ β β) := by
  refine Proc.Within.getBind (fun machine => ?_)
  refine ((effects_noteUse name).bind (fun _ => ?_)) machine
  split
  · split
    · exact Proc.Within.pure _
    · exact effects_liftDf _
    · exact effects_liftDf _
  · exact effects_takeMaterialized name

theorem effects_registerSpilled {fusion : DataFusion β} (ctx : Context β)
    (tableName name : String) (spilled : SpilledBinding β)
    : Effects host stored keyed shift
        (registerSpilled fusion ctx tableName name spilled
          : EngineM σ β (Context β × Nat)) := by
  intro machine
  rw [registerSpilled_apply]
  split
  · exact effects_afterRead machine name
  · exact .refl

theorem effects_registerResident {fusion : DataFusion β} (ctx : Context β)
    (tableName name : String)
    : Effects host stored keyed shift
        (registerResident host fusion ctx tableName name
          : EngineM σ β (Context β × Nat)) := by
  refine (effects_consumeMaterialized name).bind (fun batches => ?_)
  refine (effects_liftDf _).bind (fun _ => ?_)
  exact (effects_liftDf _).bind (fun _ => Proc.Within.pure _)

theorem effects_registerStored {fusion : DataFusion β} (ctx : Context β)
    (tableName name : String)
    : Effects host stored keyed shift
        (registerStored host fusion ctx tableName name
          : EngineM σ β (Context β × Nat)) := by
  refine Proc.Within.getThen (fun machine => ?_)
  split
  · exact effects_registerSpilled ctx tableName name _
  · exact effects_registerResident ctx tableName name

/-- Registering an input, which may force it; by cases on a single-use plan. -/
theorem effects_registerInput {fusion : DataFusion β}
    (executed : ∀ region batches, executeWithRetry fusion region = .ok batches
      → stored batches) (ctx : Context β) (tableName name : String)
    : Effects host stored keyed shift
        (registerInput host fusion ctx tableName name : EngineM σ β (Context β × Nat)) := by
  refine Proc.Within.getBind (fun machine => ?_)
  have registered
      : Effects host stored keyed shift
          (registerStored host fusion ctx tableName name
            : EngineM σ β (Context β × Nat)) :=
    effects_registerStored ctx tableName name
  cases found : machine.bindings.lookup name with
  | none => exact registered machine
  | some binding =>
      cases binding with
      | materialized | keys | spilled => exact registered machine
      | lazy region =>
          by_cases single : usesOf machine.remaining name ≤ 1
          · simp only [single, if_true]
            rw [registerView_of_lazy found]
            refine .head (.counted machine (countedDown machine.remaining name))
              (.head (.dropped _ name) ?_)
            exact ((effects_liftDf _).bind (fun _ => Proc.Within.pure _)) _
          · simp only [single, if_false]
            exact ((effects_forceMaterialized name executed).bind (fun _ => registered)) machine

theorem effects_registerInputs {fusion : DataFusion β}
    (executed : ∀ region batches, executeWithRetry fusion region = .ok batches
      → stored batches) (inputs : List (String × String)) (ctx : Context β)
    (inputBytes : Nat)
    : Effects host stored keyed shift
        (registerInputs host fusion inputs ctx inputBytes
          : EngineM σ β (Context β × Nat)) := by
  induction inputs generalizing ctx inputBytes with
  | nil => exact Proc.Within.pure _
  | cons head rest ih =>
      obtain ⟨tableName, name⟩ := head
      exact (effects_registerInput executed ctx tableName name).bind (fun _ => ih _ _)

theorem effects_runFragment {fusion : DataFusion β}
    (executed : ∀ region batches, executeWithRetry fusion region = .ok batches
      → stored batches) (fragment : Fragment) (inputs : NameMap String)
    : Effects host stored keyed shift
        (runFragment fusion host fragment inputs : EngineM σ β (Binding β)) :=
  (effects_registerInputs executed _ [] 0).bind (fun _ => effects_liftDf _)

theorem effects_export (name : String)
    : Effects host stored keyed shift («export» name : EngineM σ β β) := by
  refine Proc.Within.getBind (fun machine => ?_)
  refine ((effects_erase name).bind (fun _ => ?_)) machine
  split
  · exact Proc.Within.pure _
  · exact Proc.Within.pure _
  · exact Proc.Within.fail _
  · exact Proc.Within.fail _

end Operations

-----------------------------------------------------------------------------------------
-- Operations that only read the machine
-----------------------------------------------------------------------------------------

theorem liftDf_reads (result : Except DfError α)
    : Proc.Reads (liftDf result : EngineM σ β α) :=
  Proc.Reads.lift _

theorem keysBinding_reads (name : String)
    : Proc.Reads (keysBinding name : EngineM σ β β) := by
  refine Proc.Reads.getThen (fun machine => ?_)
  split
  · exact Proc.Reads.pure _
  · exact Proc.Reads.fail _

theorem extraKeys_reads (extras : List ExtraInjection)
    : Proc.Reads (extraKeys extras : EngineM σ β (List (String × β))) := by
  induction extras with
  | nil => exact Proc.Reads.pure _
  | cons extra rest ih =>
      exact (keysBinding_reads _).bind (fun _ => ih.bind (fun _ => Proc.Reads.pure _))

theorem collectDistinctFrom_reads (fusion : DataFusion β) (name key : String)
    : Proc.Reads (collectDistinctFrom fusion name key : EngineM σ β β) := by
  refine Proc.Reads.getThen (fun machine => ?_)
  split
  · exact (liftDf_reads _).bind (fun _ => liftDf_reads _)
  · exact liftDf_reads _
  · exact liftDf_reads _
  · exact liftDf_reads _

theorem materialized_reads (name : String)
    : Proc.Reads (materialized name : EngineM σ β β) := by
  refine Proc.Reads.getThen (fun machine => ?_)
  split
  · exact Proc.Reads.pure _
  · exact Proc.Reads.fail _
  · exact Proc.Reads.fail _

-----------------------------------------------------------------------------------------
-- Steps
-----------------------------------------------------------------------------------------

/-- What the step fetches from a source satisfies `stored`, and the keys it collects satisfy
`keyed`.
-/
def Yields [Fetched β] (engine : Engine σ β) (stored keyed : β → Prop)
    (machine : Machine σ β)
    : Step → Prop
  | .sourceScan datasource scan _ _ =>
      ∀ batches reached,
        fetchSource engine.exprs engine.connectors datasource scan machine.source
            = (.ok batches, reached)
          → stored batches
  | .injectedScan datasource scan injectColumn keysFrom _ injectColumnNdv extras =>
      ∀ keys extraSets batches reached,
        keysBinding keysFrom machine = (.ok keys, machine)
          → extraKeys extras machine = (.ok extraSets, machine)
          → runInjectedScan engine.exprs engine.connectors datasource scan injectColumn keys
              injectColumnNdv extraSets machine.source = (.ok batches, reached)
          → stored batches
  | .collectDistinct input key _ _ =>
      ∀ forced keys,
        forceMaterialized engine.host engine.fusion input machine = (.ok (), forced)
          → collectDistinctFrom engine.fusion input key forced = (.ok keys, forced)
          → keyed keys
  | .ship _ _ _ | .merge _ _ _ | .return _ => True

/-- What the step does at the sources moves them as `shift` says. -/
def Moves [Fetched β] (engine : Engine σ β) (shift : σ → σ → Prop) (machine : Machine σ β)
    : Step → Prop
  | .sourceScan datasource scan _ _ =>
      shift machine.source
        (fetchSource engine.exprs engine.connectors datasource scan machine.source).2
  | .injectedScan datasource scan injectColumn keysFrom _ injectColumnNdv extras =>
      ∀ keys extraSets,
        keysBinding keysFrom machine = (.ok keys, machine)
          → extraKeys extras machine = (.ok extraSets, machine)
          → shift machine.source
              (runInjectedScan engine.exprs engine.connectors datasource scan injectColumn keys
                injectColumnNdv extraSets machine.source).2
  | .ship datasource input table =>
      ∀ forced batches,
        forceMaterialized engine.host engine.fusion input machine = (.ok (), forced)
          → materialized input forced = (.ok batches, forced)
          → shift forced.source
            (engine.connectors.shipTable datasource table batches forced.source).2
  | .collectDistinct _ _ _ _ | .merge _ _ _ | .return _ => True

section Steps

variable {engine : Engine σ β} {stored keyed : β → Prop} {shift : σ → σ → Prop}

/-- Whatever attempt succeeds, its relation satisfies `stored`. -/
theorem Collects.executeWithRetry {fusion : DataFusion β} (collects : Collects fusion stored)
    {region : LazyRegion β} {batches : β}
    (ran : Fedqrs.executeWithRetry fusion region = .ok batches)
    : stored batches := by
  obtain ⟨_, executed⟩ := executeWithRetry_eq_ok ran
  exact collects.executeRegion executed

/-- A composed fragment is a plan, or a relation collected for it. -/
theorem Collects.composeFragment {fusion : DataFusion β} (collects : Collects fusion stored)
    {fragment : Fragment} {ctx : Context β} {inputBytes : Nat} {binding : Binding β}
    (ran : Fedqrs.composeFragment fusion fragment ctx inputBytes = .ok binding)
    : (∃ region, binding = .lazy region)
      ∨ ∃ batches, binding = .materialized batches ∧ stored batches := by
  have lazily
      : lazyBinding fusion fragment ctx inputBytes = .ok binding
        → ∃ region, binding = .lazy region := by
    intro composed
    obtain ⟨_, _, done⟩ := Except.bind_eq_ok.mp composed
    cases done
    exact ⟨_, rfl⟩
  have projected
      : ∀ project, projectedBinding fusion fragment project ctx inputBytes = .ok binding
        → (∃ region, binding = .lazy region)
          ∨ ∃ batches, binding = .materialized batches ∧ stored batches := by
    intro project composed
    unfold projectedBinding at composed
    split at composed
    · exact Or.inl (lazily composed)
    · obtain ⟨batches, found, done⟩ := Except.bind_eq_ok.mp composed
      cases done
      exact Or.inr ⟨batches, rfl, collects.projectDataframeDedup found⟩
  cases fragment with
  | hashJoin | nestedLoopJoin | project => exact projected _ ran
  | aggregate | sort | filter | limit | rawSql => exact Or.inl (lazily ran)
  | singleRowGuard keys =>
      obtain ⟨batches, guarded, done⟩ := Except.bind_eq_ok.mp ran
      cases done
      obtain ⟨violations, _, passed⟩ := Except.bind_eq_ok.mp guarded
      split at passed
      · contradiction
      · exact Or.inr ⟨batches, rfl, collects.collectTable passed⟩

/-- A fragment's result is a plan, or a relation collected for it. -/
theorem Collects.runFragment {fusion : DataFusion β} {host : Host β}
    (collects : Collects fusion stored) {fragment : Fragment} {inputs : NameMap String}
    {machine reached : Machine σ β} {binding : Binding β}
    (ran : Fedqrs.runFragment fusion host fragment inputs machine = (.ok binding, reached))
    : (∃ region, binding = .lazy region)
      ∨ ∃ batches, binding = .materialized batches ∧ stored batches := by
  obtain ⟨⟨ctx, inputBytes⟩, middle, _, composed⟩ := Proc.bind_eq_ok.mp ran
  have outcome
      : (Fedqrs.composeFragment fusion fragment ctx inputBytes).mapError DfError.toPy
        = .ok binding := by
    simpa only [liftDf_apply] using congrArg Prod.fst composed
  exact collects.composeFragment (Except.mapError_eq_ok.mp outcome)

/-- Storing such a result. -/
theorem effects_storeResult (name : String) {binding : Binding β}
    (result : (∃ region, binding = .lazy region)
      ∨ ∃ batches, binding = .materialized batches ∧ stored batches)
    : Effects engine.host stored keyed shift (storeResult engine name binding) := by
  rcases result with ⟨region, rfl⟩ | ⟨batches, rfl, holds⟩
  · exact Proc.Within.modify (fun machine => .composed machine name region)
  · exact effects_storeRelation name batches holds

/-- A step stays within the elementary changes; by cases on the step. -/
theorem effects_runStep [Fetched β] (collects : Collects engine.fusion stored) (ir : Ir)
    (step : Step) (machine : Machine σ β) (yields : Yields engine stored keyed machine step)
    (moves : Moves engine shift machine step)
    : Relation.ReflTransGen (Effect engine.host stored keyed shift) machine
        (runStep engine ir step machine).2 := by
  have executed
      : ∀ region batches, executeWithRetry engine.fusion region = .ok batches
        → stored batches :=
    fun _ _ ran => collects.executeWithRetry ran
  have kept : ∀ name batches, stored batches
      → Effects engine.host stored keyed shift
          (do
            storeRelation engine.host name batches
            pure none
            : EngineM σ β (Option β)) :=
    fun name batches holds =>
      (effects_storeRelation name batches holds).bind (fun _ => Proc.Within.pure _)
  cases step with
  | sourceScan datasource scan binding _ =>
      refine Proc.changes_bind (effects_onSource moves) (fun batches reached ran => ?_)
      exact kept binding batches (yields batches _ (onSource_eq_ok ran)) reached
  | collectDistinct input key _ binding =>
      refine Proc.changes_bind (effects_forceMaterialized input executed machine)
        (fun _ forced ran => ?_)
      have reads := collectDistinctFrom_reads (σ := σ) engine.fusion input key
      refine Proc.changes_bind (reads.within forced) (fun keys reached collected => ?_)
      cases reads.reached collected
      refine .head (.counted forced (countedDown forced.remaining input)) (.single ?_)
      exact .collected _ binding keys (yields forced keys ran collected)
  | injectedScan datasource scan injectColumn keysFrom binding injectColumnNdv extras =>
      have readsKeys := keysBinding_reads (σ := σ) (β := β) keysFrom
      have readsExtras := extraKeys_reads (σ := σ) (β := β) extras
      refine Proc.changes_bind (readsKeys.within machine) (fun keys reached first => ?_)
      cases readsKeys.reached first
      refine Proc.changes_bind (readsExtras.within machine) (fun sets reached second => ?_)
      cases readsExtras.reached second
      refine Proc.changes_bind (effects_onSource (moves keys sets first second))
        (fun batches reached ran => ?_)
      refine Proc.changes_bind (effects_noteUses _ reached) (fun _ noted _ => ?_)
      exact kept binding batches
        (yields keys sets batches _ first second (onSource_eq_ok ran)) noted
  | ship datasource input table =>
      refine Proc.changes_bind (effects_forceMaterialized input executed machine)
        (fun _ forced first => ?_)
      refine Proc.changes_bind ((materialized_reads input).within forced)
        (fun batches reached second => ?_)
      cases (materialized_reads input).reached second
      refine Proc.changes_bind (effects_onSource (moves forced batches first second))
        (fun _ shipped _ => ?_)
      exact ((effects_noteUse input).bind (fun _ => Proc.Within.pure _)) shipped
  | merge fragment inputs binding =>
      simp only [runStep]
      cases ir.fragments.lookup fragment with
      | none => exact .refl
      | some frag =>
          refine Proc.changes_bind (effects_runFragment executed frag inputs machine)
            (fun result reached ran => ?_)
          exact ((effects_storeResult binding (collects.runFragment ran)).bind
            (fun _ => Proc.Within.pure _)) reached
  | «return» input =>
      refine Proc.changes_bind (effects_forceMaterialized input executed machine)
        (fun _ forced _ => ?_)
      exact ((effects_export input).bind (fun _ => Proc.Within.pure _)) forced

-----------------------------------------------------------------------------------------
-- Invariants
-----------------------------------------------------------------------------------------

/-- A property that every elementary change keeps is kept by a step. -/
theorem runStep_keeps [Fetched β] (collects : Collects engine.fusion stored) (ir : Ir)
    {inv : Machine σ β → Prop}
    (kept : ∀ before after, Effect engine.host stored keyed shift before after → inv before
      → inv after)
    (machine : Machine σ β) (step : Step) (yields : Yields engine stored keyed machine step)
    (moves : Moves engine shift machine step) (holds : inv machine)
    : inv (runStep engine ir step machine).2 :=
  Proc.changes_keep kept (effects_runStep collects ir step machine yields moves) holds

/-- What a step's moves keep of the sources the step keeps, as its other changes leave the sources
alone.
-/
theorem runStep_source [Fetched β] (ir : Ir) {holds : σ → Prop}
    (kept : ∀ before after, shift before after → holds before → holds after)
    {machine : Machine σ β} {step : Step} (moves : Moves engine shift machine step)
    (start : holds machine.source)
    : holds (runStep engine ir step machine).2.source := by
  have collects : Collects engine.fusion (fun _ => True) :=
    ⟨fun _ => trivial, fun _ => trivial, fun _ => trivial⟩
  have yields : Yields engine (fun _ => True) (fun _ => True) machine step := by
    cases step <;> simp [Yields]
  have keeps
      : ∀ before after : Machine σ β,
          Effect engine.host (fun _ => True) (fun _ => True) shift before after
            → holds before.source → holds after.source := by
    intro before after change present
    cases change with
    | moved source moved => exact kept _ _ moved present
    | dropped | counted | stored | written | onDisk | composed | collected => exact present
  exact runStep_keeps collects ir keeps machine step yields moves start

/-- Forcing a region leaves the sources alone. -/
theorem forceMaterialized_source {host : Host β} {fusion : DataFusion β} {name : String}
    {machine forced : Machine σ β} {outcome : Except PyErr Unit}
    (ran : forceMaterialized host fusion name machine = (outcome, forced))
    : forced.source = machine.source := by
  have effects
      : Effects host (fun _ => True) (fun _ => True) (fun _ _ => False)
          (forceMaterialized host fusion name : EngineM σ β Unit) :=
    effects_forceMaterialized name (fun _ _ _ => trivial)
  have changes := effects machine
  rw [ran] at changes
  have kept
      : ∀ before after : Machine σ β,
          Effect host (fun _ => True) (fun _ => True) (fun _ _ => False) before after
            → before.source = machine.source → after.source = machine.source := by
    intro before after change same
    cases change with
    | moved _ holds => cases holds
    | dropped | counted | stored | written | onDisk | composed | collected => exact same
  exact Proc.changes_keep kept changes rfl

/-- The relations handed to files so far only grow. -/
theorem Effect.files_prefix {host : Host β} {before after : Machine σ β}
    (change : Effect host stored keyed shift before after)
    : before.files <+: after.files := by
  cases change with
  | written => exact List.prefix_append _ _
  | dropped | counted | moved | stored | onDisk | composed | collected =>
      exact List.prefix_rfl

theorem Effects.files_prefix {host : Host β} {action : EngineM σ β α}
    (effects : Effects host stored keyed shift action) (machine : Machine σ β)
    : machine.files <+: (action machine).2.files := by
  have kept
      : ∀ before after : Machine σ β, Effect host stored keyed shift before after
          → machine.files <+: before.files → machine.files <+: after.files := by
    intro before after change grown
    exact grown.trans (Effect.files_prefix change)
  exact Proc.changes_keep kept (effects machine) List.prefix_rfl

end Steps

end Fedqrs
