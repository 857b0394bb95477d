import Fedqrs.Correctness.ProbeRows
import Fedqrs.Semantics.ReferenceEngine

/-! When a reduced probe honours the DISTINCT and the LIMIT of its scan: only the scan's own query
carries them, page ranges and semi-joins return whatever they select.
-/

namespace Fedqrs

/-- Rows of a relation as the DISTINCT and the LIMIT of a scan ask for: no two are equal, and they
are few.
-/
structure Honours (scan : ScanSpec) (rows : List Row) : Prop where
  distinct : scan.distinct = true → rows.Nodup
  limit : ∀ limit, scan.limit = some limit → rows.length ≤ limit

/-- The order of the rows does not matter. -/
theorem Honours.perm {scan : ScanSpec} {rows others : List Row} (perm : rows.Perm others)
    (honours : Honours scan rows)
    : Honours scan others where
  distinct distinct := perm.nodup_iff.mp (honours.distinct distinct)
  limit limit bounded := perm.length_eq ▸ honours.limit limit bounded

/-- Rows that the DISTINCT of a source tells apart are different as they are read: the texts of no
two of them are re-typed to the same numbers.
-/
def ReadApart (meaning : SqlMeaning) (shown : ScalarValue → String) (columns : List Nat)
    (rows : List Row)
    : Prop :=
  rows.Pairwise (fun a b => meaning.same a b = false
    → convertRow shown (dataScales shown rows columns) a
      ≠ convertRow shown (dataScales shown rows columns) b)

/-- Where nothing is re-typed they are. -/
theorem readApart_nil {meaning : SqlMeaning} (reflexive : ∀ row, meaning.same row row = true)
    (shown : ScalarValue → String) (rows : List Row)
    : ReadApart meaning shown [] rows := by
  apply List.pairwise_of_forall
  intro a b apart same
  rw [dataScales, List.map_nil, convertRow_nil, convertRow_nil] at same
  rw [same, reflexive] at apart
  cases apart

/-- The delivery is the scan's own query, with a filter added. -/
def Delivery.Filters : Delivery → Prop
  | .filtered _ => True
  | .parallel | .tempTable => False

/-- The probe is read by its own query: for no keys; for few, unless there is a pre-rendered text;
and where the source takes no table of keys, or reads most of its own table without page ranges.
-/
def ThroughOwnQuery (drivers : Drivers) (shown : ScalarValue → String) (datasource : String)
    (found : DsSpec) (scan : ScanSpec) (injectColumn : String) (keys : Batches)
    (injectColumnNdv : Option Nat) (sources : Sources)
    : Prop :=
  Fetched.numRows keys = 0
    ∨ Fetched.numRows keys < inCap ∧ scan.injectedSql = none
    ∨ found.kind = .parquet
    ∨ found.kind = .duckDb
      ∧ (duckTempCap < Fetched.numRows keys
        ∨ duckCanIngest keys = false
        ∨ (unselective (nativeConnectors drivers shown) datasource scan injectColumn
            (Fetched.numRows keys) injectColumnNdv sources).1 = .ok true)

section Runs

variable {drivers : Drivers} {shown : ScalarValue → String} {df : ExprServices}
  {meaning : SqlMeaning} {sources reached chosen : Sources} {datasource injectColumn : String}
  {found : DsSpec} {scan : ScanSpec} {keys result : Batches} {injectColumnNdv : Option Nat}
  {extras : List (String × Batches)} {delivery : Delivery}

/-- The whole read of a Postgres probe is in page ranges. -/
theorem filters_whole (kind : DsKind) : (Delivery.whole kind).Filters ↔ kind ≠ .postgres := by
  cases kind <;> simp [Delivery.whole, Delivery.Filters]

/-- The choice of a delivery by its own query; by cases on each decision, in their order. -/
theorem chooseDelivery_filters_iff (registered : sources.registry.lookup datasource = some found)
    (ran
      : chooseDelivery (nativeConnectors drivers shown) datasource scan injectColumn keys
          injectColumnNdv extras sources
        = (.ok delivery, chosen))
    : delivery.Filters
      ↔ ThroughOwnQuery drivers shown datasource found scan injectColumn keys injectColumnNdv
          sources := by
  unfold chooseDelivery at ran
  obtain ⟨extraFilter, _, ran⟩ := Proc.lift_bind_eq_ok.mp ran
  by_cases none : Fetched.numRows keys = 0
  · rw [if_pos none] at ran
    cases ran
    exact iff_of_true trivial (Or.inl none)
  rw [if_neg none] at ran
  by_cases few : Fetched.numRows keys < inCap ∧ scan.injectedSql.isNone
  · rw [if_pos few] at ran
    obtain ⟨filter, _, ran⟩ := Proc.lift_bind_eq_ok.mp ran
    cases ran
    exact iff_of_true trivial (Or.inr (Or.inl ⟨few.1, Option.isNone_iff_eq_none.mp few.2⟩))
  rw [if_neg few] at ran
  obtain ⟨kind, same, named, ran⟩ := Proc.bind_eq_ok.mp ran
  obtain ⟨rfl, found', again, rfl⟩ := kind_eq_ok named
  cases registered.symm.trans again
  have many : ¬ (Fetched.numRows keys < inCap ∧ scan.injectedSql = Option.none) := by
    simpa only [Option.isNone_iff_eq_none] using few
  cases kind : found.kind with
  | parquet =>
      rw [kind, if_pos rfl] at ran
      cases ran
      exact iff_of_true trivial (Or.inr (Or.inr (Or.inl kind)))
  | postgres =>
      rw [kind, if_neg (by decide), if_neg (by simp)] at ran
      have notOwn
          : ¬ ThroughOwnQuery drivers shown datasource found scan injectColumn keys injectColumnNdv
              same := by
        simp [ThroughOwnQuery, none, many, kind]
      refine iff_of_false ?_ notOwn
      obtain ⟨unindexed, indexed, _, ran⟩ := Proc.bind_eq_ok.mp ran
      split at ran
      · cases ran
        simp [filters_whole]
      · obtain ⟨most, judged, _, ran⟩ := Proc.bind_eq_ok.mp ran
        split at ran
        · cases ran
          simp [filters_whole]
        · cases ran
          exact id
  | duckDb =>
      rw [kind, if_neg (by decide)] at ran
      by_cases refuses : duckTempCap < Fetched.numRows keys ∨ duckCanIngest keys = false
      · rw [if_pos ⟨rfl, refuses⟩] at ran
        cases ran
        refine iff_of_true trivial (Or.inr (Or.inr (Or.inr ⟨kind, ?_⟩)))
        exact refuses.imp_right Or.inl
      · rw [if_neg (by simp [refuses])] at ran
        obtain ⟨unindexed, indexed, asked, ran⟩ := Proc.bind_eq_ok.mp ran
        cases asked
        rw [if_neg (by decide)] at ran
        obtain ⟨most, judged, asked, ran⟩ := Proc.bind_eq_ok.mp ran
        simp only [ThroughOwnQuery, none, many, kind, asked, false_or, true_and]
        cases most with
        | true =>
            cases ran
            simp [filters_whole]
        | false =>
            cases ran
            simp [Delivery.Filters] at refuses ⊢
            exact refuses

/-- A scan's own query returns few rows that are told apart; they honour the modifiers exactly if
they are different as they are read.
-/
theorem Delivers.honours_own (symmetric : ∀ a b, meaning.same a b = meaning.same b a)
    (structured : scan.rawSql = none) (filters : delivery.Filters)
    {selected parts : List (List Row)} (columns : List Nat)
    (delivers
      : Delivers meaning drivers shown df datasource scan injectColumn keys sources found delivery
          selected parts)
    : Honours scan (readParts shown columns parts)
      ↔ (scan.distinct = true → ReadApart meaning shown columns parts.flatten) := by
  cases delivers with
  | parallel | tempTable => exact filters.elim
  | filtered rendered _ returns =>
      rename_i rows
      obtain ⟨_, _, _, _, _, _, rfl⟩ := scanSql_query structured rendered
      obtain ⟨apart, few⟩ := returns.modified symmetric
      rw [readParts_single, List.flatten_singleton]
      constructor
      · intro honours distinct
        have nodup := List.pairwise_map.mp (honours.distinct distinct)
        refine nodup.imp ?_
        intro a b differs _
        exact differs
      · intro read
        refine ⟨?_, ?_⟩
        · intro distinct
          apply List.pairwise_map.mpr
          exact (apart distinct).imp₂ (fun _ _ told differs => differs told) (read distinct)
        · intro limit bounded
          rw [readRows_length]
          exact few limit bounded

/-- Page ranges and semi-joins return all that they select. -/
theorem Delivers.perms (unfiltered : ¬ delivery.Filters) {selected parts : List (List Row)}
    (delivers
      : Delivers meaning drivers shown df datasource scan injectColumn keys sources found delivery
          selected parts)
    : List.Forall₂ List.Perm parts selected := by
  cases delivers with
  | filtered => exact absurd trivial unfiltered
  | parallel _ _ _ _ _ returns => exact returns
  | tempTable _ _ _ _ returns => exact .cons returns .nil

end Runs

-----------------------------------------------------------------------------------------
-- One row of those that differ
-----------------------------------------------------------------------------------------

/-- What the catalog answers: the first question with no row, so that no index is found, the
others with a count of one.
-/
def catalogAnswers (call : Nat) (_ : String) : Batches :=
  intBatches "n" (if call = 1 then [] else [1])

/-- Drivers over Int64 columns, with those catalog answers. -/
def unindexedDrivers : Drivers :=
  {
    tableMeaning.drivers (fun _ => intBatches "n" []) with
    answer := fun call catalog _ => tableMeaning.answer (catalogAnswers call) catalog
  }

theorem unindexedDrivers_answers : tableMeaning.Answers unindexedDrivers := by
  intro call
  exact drivers_answers (fun row => by simp [tableMeaning, intMeaning]) (catalogAnswers call) call

/-- One row of `t`, of those that differ. -/
def oneDistinct : ScanSpec :=
  { table := some "t", columns := ["v"], distinct := true, limit := some 1 }

/-- A Postgres database whose `public.t` holds the value 1 twice. -/
def twoOnes : Sources :=
  .new [("pg", { kind := .postgres, uri := "db", adbcDriver := some "driver" })] (fun _ =>
    {
      searchPath := ["public"]
      tables := [(("public", "t"), intHeap "v" [(0, 1), (1, 1)])]
    })

/-- As many keys as take the probe past the IN list. -/
def manyKeys : Batches := intBatches "k" ((List.range 2000).map Int.ofNat)

theorem numRows_manyKeys : Fetched.numRows manyKeys = 2000 := by
  simp [Fetched.numRows, Batches.numRows, manyKeys, intBatches, intBatch]

end Fedqrs
