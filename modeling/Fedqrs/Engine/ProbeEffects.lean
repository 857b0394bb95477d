import Fedqrs.Connectors.CallEffects
import Fedqrs.Engine.Probe

/-! What the engine's source reads can do to the sources. -/

namespace Fedqrs

variable {may : Touch → Prop} {drivers : Drivers} {shown : ScalarValue → String}
  {df : ExprServices} {sources : Sources} {datasource : String}

theorem leads_fetchScan (scan : ScanSpec) (extraFilter : Option Expr)
    (asks : may (.ask datasource))
    : Proc.Leads (SourceEffect may) sources
        (fetchScan df (nativeConnectors drivers shown) datasource scan extraFilter)
        (fun _ _ => True) := by
  refine (leads_kind datasource).bind ?_
  intro _ _ _
  apply Proc.Leads.liftBind
  intro _ _
  exact (leads_fetch _ asks).weaken (fun _ _ _ => trivial)

theorem leads_parallelProbeScan (scan : ScanSpec) (asks : may (.ask datasource))
    (allowed : may .workers)
    : Proc.Leads (SourceEffect may) sources
        (parallelProbeScan df (nativeConnectors drivers shown) datasource scan)
        (fun _ _ => True) := by
  refine (leads_kind datasource).bind ?_
  intro kind _ _
  cases scan.table with
  | none => exact Proc.Leads.fail
  | some table =>
      apply Proc.Leads.liftBind
      intro _ _
      exact leads_fetchParallel asks allowed

theorem leads_fetchSource (scan : ScanSpec) (asks : may (.ask datasource))
    (allowed : may .workers)
    : Proc.Leads (SourceEffect may) sources
        (fetchSource df (nativeConnectors drivers shown) datasource scan) (fun _ _ => True) := by
  unfold fetchSource
  split
  · have checked
        : Proc.Leads (SourceEffect may) sources
            (requireParallelizable (nativeConnectors drivers shown) datasource scan)
            (fun _ _ => True) := by
      refine (leads_kind datasource).bind ?_
      intro kind _ _
      split
      · exact Proc.Leads.pure trivial
      · exact Proc.Leads.fail
    refine checked.bind ?_
    intro _ _ _
    exact leads_parallelProbeScan scan asks allowed
  · exact leads_fetchScan scan none asks

theorem leads_unindexedPostgres (kind : DsKind) (scan : ScanSpec) (injectColumn : String)
    (asks : may (.ask datasource)) (recalls : ∀ key, may (.recall key))
    : Proc.Leads (SourceEffect may) sources
        (unindexedPostgres (nativeConnectors drivers shown) kind datasource scan injectColumn)
        (fun _ _ => True) := by
  unfold unindexedPostgres
  split
  · refine (leads_columnHasIndex scan.schema _ injectColumn asks (recalls _)).bind ?_
    intro _ _ _
    exact Proc.Leads.pure trivial
  · exact Proc.Leads.pure trivial

theorem leads_unselective (scan : ScanSpec) (injectColumn : String) (numKeys : Nat)
    (injectColumnNdv : Option Nat) (asks : may (.ask datasource))
    : Proc.Leads (SourceEffect may) sources
        (unselective (nativeConnectors drivers shown) datasource scan injectColumn numKeys
          injectColumnNdv)
        (fun _ _ => True) := by
  unfold unselective
  split
  · unfold fetchesMostOfTable
    split
    · exact Proc.Leads.fail
    · refine (leads_kind datasource).bind ?_
      intro kind _ _
      dsimp only
      cases injectColumnNdv.filter (0 < ·) with
      | some ndv => exact Proc.Leads.pure trivial
      | none =>
          refine (leads_estimateSelectivity scan.schema _ injectColumn numKeys asks).bind ?_
          intro _ _ _
          exact Proc.Leads.pure trivial
  · exact Proc.Leads.pure trivial

/-- Choosing the delivery asks statistics at most; by cases on each decision. -/
theorem leads_chooseDelivery (scan : ScanSpec) (injectColumn : String) (keys : Batches)
    (injectColumnNdv : Option Nat) (extras : List (String × Batches))
    (asks : may (.ask datasource)) (recalls : ∀ key, may (.recall key))
    : Proc.Leads (SourceEffect may) sources
        (chooseDelivery (nativeConnectors drivers shown) datasource scan injectColumn keys
          injectColumnNdv extras)
        (fun _ _ => True) := by
  apply Proc.Leads.liftBind
  intro extraFilter _
  split_ifs
  · exact Proc.Leads.pure trivial
  · apply Proc.Leads.liftBind
    intro _ _
    exact Proc.Leads.pure trivial
  · refine (leads_kind datasource).bind ?_
    intro kind _ _
    split_ifs
    · exact Proc.Leads.pure trivial
    · exact Proc.Leads.pure trivial
    · refine (leads_unindexedPostgres kind scan injectColumn asks recalls).bind ?_
      intro unindexed _ _
      cases unindexed with
      | true => exact Proc.Leads.pure trivial
      | false =>
          refine (leads_unselective scan injectColumn _ injectColumnNdv asks).bind ?_
          intro most _ _
          cases most with
          | true => exact Proc.Leads.pure trivial
          | false => exact Proc.Leads.pure trivial

/-- Asking a datasource is all that is done. -/
def Questions : Touch → Prop
  | .ask _ | .recall _ => True
  | .registry | .workers | .alter _ | .drop _ _ | .join _ _ _ | .pin _ | .ship _ _ _ _ => False

/-- What no question to the sources touches. -/
structure Untouched (before after : Sources) : Prop where
  registry : after.registry = before.registry
  pooled : ∀ name found, before.registry.lookup name = some found
    → after.pooled name found = before.pooled name found
  pinnedDuck : after.pinnedDuck = before.pinnedDuck
  workers : after.workers = before.workers
  catalogs : after.catalogs = before.catalogs

theorem Untouched.refl (sources : Sources) : Untouched sources sources :=
  ⟨rfl, fun _ _ _ => rfl, rfl, rfl, rfl⟩

/-- A new connection is the one that was missing from the pool. -/
theorem pooled_connected {sources : Sources} {name : String} {found : DsSpec}
    (registered : sources.registry.lookup name = some found)
    (unpooled : sources.pgCache.lookup name = none) (other : String) (spec : DsSpec)
    (known : sources.registry.lookup other = some spec)
    : Sources.pooled
          { sources with pgCache := sources.pgCache.insert name (.fresh found.target) } other spec
        = sources.pooled other spec := by
  by_cases same : other = name
  · subst same
    rw [registered] at known
    cases known
    simp [Sources.pooled, unpooled]
  · simp [Sources.pooled, AList.lookup_insert_ne same]

/-- Changes that may touch nothing leave the rest untouched, by induction over them. -/
theorem untouched_of_changes {before after : Sources}
    (changes : Relation.ReflTransGen (SourceEffect Questions) before after)
    : Untouched before after := by
  refine Proc.changes_keep ?_ changes (Untouched.refl before)
  intro middle next change holds
  cases change with
  | ticked | instanced | contexted | answered | recalled | judged =>
      exact
        ⟨holds.registry, holds.pooled, holds.pinnedDuck, holds.workers, holds.catalogs⟩
  | connected name found registered postgres unpooled =>
      refine ⟨holds.registry, ?_, holds.pinnedDuck, holds.workers, holds.catalogs⟩
      intro other spec known
      rw [← holds.pooled other spec known]
      rw [← holds.registry] at known
      exact pooled_connected registered unpooled other spec known
  | registered _ _ allowed | altered _ _ _ allowed | worked _ _ _ _ _ _ allowed
  | dropped _ _ allowed | pinned _ allowed | shipping _ _ _ allowed
  | replaced _ _ _ _ allowed | shipped _ _ _ _ _ allowed => cases allowed

/-- Choosing the delivery leaves the rest untouched. -/
theorem untouched_chooseDelivery {scan : ScanSpec} {injectColumn : String} {keys : Batches}
    {injectColumnNdv : Option Nat} {extras : List (String × Batches)}
    {outcome : Except PyErr Delivery} {reached : Sources}
    (ran : chooseDelivery (nativeConnectors drivers shown) datasource scan injectColumn keys
      injectColumnNdv extras sources = (outcome, reached))
    : Untouched sources reached := by
  have leads
      : Proc.Leads (SourceEffect Questions) sources
          (chooseDelivery (nativeConnectors drivers shown) datasource scan injectColumn keys
            injectColumnNdv extras)
          (fun _ _ => True) :=
    leads_chooseDelivery scan injectColumn keys injectColumnNdv extras trivial
      (fun _ => trivial)
  have changes := leads.changes
  rw [ran] at changes
  exact untouched_of_changes changes

/-- What a delivery may touch: the workers, and with the keys table what a semi-join may. -/
def DeliveryAllowed (drivers : Drivers) (may : Touch → Prop) (sources : Sources)
    (datasource : String) (keys : Batches)
    : Delivery → Prop
  | .filtered _ => True
  | .parallel => may .workers
  | .tempTable =>
      ∀ found, sources.registry.lookup datasource = some found
        → JoinAllowed drivers may sources datasource dynKeysTempTable keys found

theorem leads_deliver (scan : ScanSpec) (injectColumn : String) (keys : Batches)
    {delivery : Delivery} (asks : may (.ask datasource))
    (allowed : DeliveryAllowed drivers may sources datasource keys delivery)
    : Proc.Leads (SourceEffect may) sources
        (deliver df (nativeConnectors drivers shown) datasource scan injectColumn keys delivery)
        (fun _ _ => True) := by
  cases delivery with
  | filtered extraFilter => exact leads_fetchScan scan extraFilter asks
  | parallel => exact leads_parallelProbeScan scan asks allowed
  | tempTable =>
      refine (leads_kind datasource).bind ?_
      intro kind reached same
      subst same
      have sent (sql : Sql)
          : Proc.Leads (SourceEffect may) reached
              (fetchTempJoin drivers shown datasource dynKeysTempTable keys sql)
              (fun _ _ => True) :=
        leads_fetchTempJoin asks allowed
      cases scan.injectedSql with
      | some prerendered => exact sent _
      | none =>
          apply Proc.Leads.liftBind
          intro _ _
          exact sent _

/-- The probe read chooses first; what it may touch depends on the choice. -/
theorem leads_runInjectedScan (scan : ScanSpec) (injectColumn : String) (keys : Batches)
    (injectColumnNdv : Option Nat) (extras : List (String × Batches))
    (asks : may (.ask datasource)) (recalls : ∀ key, may (.recall key))
    (allowed : ∀ delivery reached,
      chooseDelivery (nativeConnectors drivers shown) datasource scan injectColumn keys
          injectColumnNdv extras sources = (.ok delivery, reached)
        → DeliveryAllowed drivers may reached datasource keys delivery)
    : Proc.Leads (SourceEffect may) sources
        (runInjectedScan df (nativeConnectors drivers shown) datasource scan injectColumn keys
          injectColumnNdv extras)
        (fun _ _ => True) := by
  rw [runInjectedScan_eq]
  have chosen
      : Proc.Leads (SourceEffect may) sources
          (chooseDelivery (nativeConnectors drivers shown) datasource scan injectColumn keys
            injectColumnNdv extras)
          (fun delivery reached => DeliveryAllowed drivers may reached datasource keys delivery) :=
    ⟨(leads_chooseDelivery scan injectColumn keys injectColumnNdv extras asks recalls).changes,
      allowed⟩
  refine chosen.bind ?_
  intro delivery reached granted
  exact leads_deliver scan injectColumn keys asks granted

end Fedqrs
