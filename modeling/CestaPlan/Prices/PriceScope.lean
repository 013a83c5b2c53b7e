import CestaPlan.History.CurrentPrice
import CestaPlan.Library.Selection

/-! The scopes of prices (`services/price_scope.py`), and the gated read that every scope-aware costing goes through. -/

namespace CestaPlan.History

def PriceScope.value : PriceScope → String
  | .exactStore => "exact_store"
  | .deliveryZone => "delivery_zone"
  | .postalCode => "postal_code"
  | .municipality => "municipality"
  | .province => "province"
  | .region => "region"
  | .national => "national"
  | .unknown => "unknown"

end CestaPlan.History

namespace CestaPlan.Prices
open History Selection

/-- `SCOPE_RANK`: the higher, the broader. -/
def scopeRank : List (String × ℕ) :=
  [("exact_store", 1), ("delivery_zone", 2), ("postal_code", 3), ("municipality", 4), ("province", 5), ("region", 6),
    ("national", 7), ("unknown", 8)]

def scopeSatisfies (candidateScope requiredScope : String) : Bool :=
  if candidateScope = "unknown" then requiredScope = "unknown"
  else (scopeRank.lookup requiredScope).getD 99 ≤ (scopeRank.lookup candidateScope).getD 0

section Definitions
variable (db : Db) (productVariantId : Int) (storeId : Option Int) (requiredScope : String) (asOf : Instant) (staging : Bool)

def gatedCurrentPrice (th : Thresholds) : Option CurrentPrice :=
  match (current db th productVariantId storeId none asOf staging).filter
      (fun price => scopeSatisfies price.priceScope.value requiredScope) with
  | some price => some price
  | none => (current db th productVariantId none (some .national) asOf staging).filter
      (fun price => scopeSatisfies price.priceScope.value requiredScope)

/-- The observation of the gated read. -/
def gatedObservation : Option PriceObservation :=
  match (latestValid db productVariantId storeId none staging (some asOf)).filter
      (fun r => scopeSatisfies r.priceScope.value requiredScope) with
  | some r => some r
  | none => (latestValid db productVariantId none (some .national) staging (some asOf)).filter
      (fun r => scopeSatisfies r.priceScope.value requiredScope)

/-- A current valid observation of the variant. -/
def Readable (r : PriceObservation) : Prop :=
  r ∈ db.observations ∧ r.productVariantId = productVariantId ∧ r.rolledBackAt = none ∧ r.isDisputed = false ∧
    r.stagingOnly = staging ∧ inView staging (some asOf) r = true

/-- A national price, or one of the store that is asked for. -/
def BelongsTo (scope : PriceScope) (priceStoreId : Option Int) : Prop :=
  scope = .national ∨ ∃ s ∈ storeId, priceStoreId = some s

/-- The gated read gives only prices that belong to the store, and one whenever some current valid observation that belongs to it
    satisfies the scope. -/
structure Gated (th : Thresholds) : Prop where
  belongs : ∀ price ∈ gatedCurrentPrice db productVariantId storeId requiredScope asOf staging th,
    BelongsTo storeId price.priceScope price.storeId
  found : (∃ r, Readable db productVariantId asOf staging r ∧ BelongsTo storeId r.priceScope r.storeId ∧
      scopeSatisfies r.priceScope.value requiredScope = true) →
    (gatedCurrentPrice db productVariantId storeId requiredScope asOf staging th).isSome = true

/-- Without a store, the latest observation is not a zone's that satisfies the scope. With one, its latest observation satisfies the
    scope if any of its observations does, unless a national one does. -/
def Unshadowed : Prop :=
  match storeId with
  | none => ∀ r ∈ latestValid db productVariantId none none staging (some asOf),
      scopeSatisfies r.priceScope.value requiredScope = true → r.priceScope = .national
  | some s => (∃ r, Readable db productVariantId asOf staging r ∧ r.storeId = some s ∧
        scopeSatisfies r.priceScope.value requiredScope = true) →
      (∃ r ∈ latestValid db productVariantId (some s) none staging (some asOf),
        scopeSatisfies r.priceScope.value requiredScope = true) ∨
      ∃ r, Readable db productVariantId asOf staging r ∧ r.priceScope = .national ∧
        scopeSatisfies r.priceScope.value requiredScope = true

end Definitions

section Latest
variable {db : Db} {productVariantId : Int} {storeId : Option Int} {scope : Option PriceScope} {asOf : Instant} {staging : Bool}
  {r : PriceObservation}

theorem latestValid_eq_first : latestValid db productVariantId storeId scope staging (some asOf) =
    first precedes (db.observations.filter fun r =>
      r.productVariantId = productVariantId && r.rolledBackAt.isNone && !r.isDisputed && r.stagingOnly == staging &&
        storeId.all (fun s => r.storeId = some s) && scope.all (fun s => r.priceScope = s) && inView staging (some asOf) r) := rfl

theorem mem_queried : (r ∈ db.observations.filter fun r =>
      r.productVariantId = productVariantId && r.rolledBackAt.isNone && !r.isDisputed && r.stagingOnly == staging &&
        storeId.all (fun s => r.storeId = some s) && scope.all (fun s => r.priceScope = s) && inView staging (some asOf) r) ↔
    Readable db productVariantId asOf staging r ∧ (∀ s ∈ storeId, r.storeId = some s) ∧ ∀ s ∈ scope, r.priceScope = s := by
  simp only [List.mem_filter, Readable, Bool.and_eq_true, decide_eq_true_eq, Option.isNone_iff_eq_none, Bool.not_eq_true',
    beq_iff_eq, Option.all_eq_true]
  tauto

theorem readable_of_latestValid (h : latestValid db productVariantId storeId scope staging (some asOf) = some r) :
    Readable db productVariantId asOf staging r ∧ (∀ s ∈ storeId, r.storeId = some s) ∧ ∀ s ∈ scope, r.priceScope = s :=
  mem_queried.mp (first_mem (latestValid_eq_first ▸ h))

theorem latestValid_isSome (hr : Readable db productVariantId asOf staging r) (hstore : ∀ s ∈ storeId, r.storeId = some s)
    (hscope : ∀ s ∈ scope, r.priceScope = s) :
    ∃ r', latestValid db productVariantId storeId scope staging (some asOf) = some r' := by
  rw [latestValid_eq_first]
  obtain ⟨r', h, -⟩ := first_precedes (r := precedes) (mem_queried.mpr ⟨hr, hstore, hscope⟩)
  exact ⟨r', h⟩

end Latest

section Gate
variable {db : Db} {productVariantId : Int} {storeId : Option Int} {requiredScope : String} {asOf : Instant} {staging : Bool}
  {th : Thresholds}

theorem filter_current {scope : Option PriceScope} {p : PriceScope → Bool} :
    (current db th productVariantId storeId scope asOf staging).filter (fun price => p price.priceScope) =
      ((latestValid db productVariantId storeId scope staging (some asOf)).filter (fun r => p r.priceScope)).map (toCurrent th asOf) := by
  unfold current
  cases latestValid db productVariantId storeId scope staging (some asOf) with
  | none => rfl
  | some r =>
    rw [Option.map_some, Option.filter_some, Option.filter_some, apply_ite (Option.map (toCurrent th asOf))]
    rfl

theorem gatedCurrentPrice_eq_map : gatedCurrentPrice db productVariantId storeId requiredScope asOf staging th =
    (gatedObservation db productVariantId storeId requiredScope asOf staging).map (toCurrent th asOf) := by
  unfold gatedCurrentPrice gatedObservation
  rw [@filter_current db productVariantId storeId asOf staging th none (fun scope => scopeSatisfies scope.value requiredScope),
    @filter_current db productVariantId none asOf staging th (some .national) (fun scope => scopeSatisfies scope.value requiredScope)]
  cases (latestValid db productVariantId storeId none staging (some asOf)).filter
      (fun r => scopeSatisfies r.priceScope.value requiredScope) with
  | none => rfl
  | some r => rfl

theorem gatedObservation_cases :
    (∃ r ∈ latestValid db productVariantId storeId none staging (some asOf),
      scopeSatisfies r.priceScope.value requiredScope = true ∧
      gatedObservation db productVariantId storeId requiredScope asOf staging = some r) ∨
    ((∀ r ∈ latestValid db productVariantId storeId none staging (some asOf),
        scopeSatisfies r.priceScope.value requiredScope = false) ∧
      gatedObservation db productVariantId storeId requiredScope asOf staging =
        (latestValid db productVariantId none (some .national) staging (some asOf)).filter fun r =>
          scopeSatisfies r.priceScope.value requiredScope) := by
  unfold gatedObservation
  cases hlatest : latestValid db productVariantId storeId none staging (some asOf) with
  | none => exact .inr ⟨fun r h => absurd h (by simp), rfl⟩
  | some r =>
    cases hsat : scopeSatisfies r.priceScope.value requiredScope with
    | true => exact .inl ⟨r, rfl, hsat, by simp [Option.filter_some, hsat]⟩
    | false =>
      refine .inr ⟨fun r' hr' => ?_, by simp [Option.filter_some, hsat]⟩
      obtain rfl := Option.some.inj hr'
      exact hsat

theorem national_isSome_iff : ((latestValid db productVariantId none (some .national) staging (some asOf)).filter fun r =>
      scopeSatisfies r.priceScope.value requiredScope).isSome = true ↔
    ∃ r, Readable db productVariantId asOf staging r ∧ r.priceScope = .national ∧
      scopeSatisfies r.priceScope.value requiredScope = true := by
  constructor
  · intro h
    obtain ⟨r, hr⟩ := Option.isSome_iff_exists.mp h
    obtain ⟨hlatest, hsat⟩ := Option.filter_eq_some_iff.mp hr
    obtain ⟨hread, -, hscope⟩ := readable_of_latestValid hlatest
    exact ⟨r, hread, hscope _ rfl, hsat⟩
  · rintro ⟨r, hread, hnational, hsat⟩
    obtain ⟨r', hlatest⟩ := @latestValid_isSome _ _ none (some .national) _ _ _ hread (by simp) (by simpa using hnational)
    obtain ⟨-, -, hscope⟩ := readable_of_latestValid hlatest
    rw [hlatest, Option.filter_some, if_pos]
    · rfl
    · rw [hscope _ rfl, ← hnational]
      exact hsat

theorem gatedCurrentPrice_isSome_iff :
    (gatedCurrentPrice db productVariantId storeId requiredScope asOf staging th).isSome = true ↔
      (∃ r ∈ latestValid db productVariantId storeId none staging (some asOf),
        scopeSatisfies r.priceScope.value requiredScope = true) ∨
      ∃ r, Readable db productVariantId asOf staging r ∧ r.priceScope = .national ∧
        scopeSatisfies r.priceScope.value requiredScope = true := by
  rw [gatedCurrentPrice_eq_map, Option.isSome_map]
  rcases @gatedObservation_cases db productVariantId storeId requiredScope asOf staging with ⟨r, hr, hsat, heq⟩ | ⟨hno, heq⟩
  · exact iff_of_true (by rw [heq]; rfl) (.inl ⟨r, hr, hsat⟩)
  · rw [heq, national_isSome_iff]
    refine ⟨.inr, fun h => h.resolve_left ?_⟩
    rintro ⟨r, hr, hsat⟩
    exact absurd hsat (by simp [hno r hr])

theorem mem_gatedCurrentPrice {price : CurrentPrice}
    (h : price ∈ gatedCurrentPrice db productVariantId storeId requiredScope asOf staging th) :
    (∃ r ∈ latestValid db productVariantId storeId none staging (some asOf),
      scopeSatisfies r.priceScope.value requiredScope = true ∧ price = toCurrent th asOf r) ∨ price.priceScope = .national := by
  rw [gatedCurrentPrice_eq_map] at h
  obtain ⟨r, hr, rfl⟩ := Option.map_eq_some_iff.mp h
  rcases @gatedObservation_cases db productVariantId storeId requiredScope asOf staging with ⟨r', hr', hsat, heq⟩ | ⟨-, heq⟩
  · obtain rfl := Option.some.inj (hr.symm.trans heq)
    exact .inl ⟨r, hr', hsat, rfl⟩
  · obtain ⟨-, -, hscope⟩ := readable_of_latestValid (Option.filter_eq_some_iff.mp (heq.symm.trans hr)).1
    exact .inr (hscope _ rfl)

/-- The gated read is right exactly if no observation shadows another one. -/
theorem gated_iff_unshadowed : Gated db productVariantId storeId requiredScope asOf staging th ↔
    Unshadowed db productVariantId storeId requiredScope asOf staging := by
  cases storeId with
  | none =>
    constructor
    · intro h r hr hsat
      rcases @gatedObservation_cases db productVariantId none requiredScope asOf staging with ⟨r', hr', -, heq⟩ | ⟨hno, -⟩
      · obtain rfl := Option.some.inj (hr.symm.trans hr')
        have hprice : gatedCurrentPrice db productVariantId none requiredScope asOf staging th = some (toCurrent th asOf r) := by
          rw [gatedCurrentPrice_eq_map, heq, Option.map_some]
        exact (h.belongs _ hprice).resolve_right (by simp)
      · exact absurd hsat (by simp [hno r hr])
    · intro h
      constructor
      · intro price hprice
        rcases mem_gatedCurrentPrice hprice with ⟨r, hr, hsat, rfl⟩ | hnational
        · exact .inl (h r hr hsat)
        · exact .inl hnational
      · rintro ⟨r, hread, hbelongs, hsat⟩
        exact gatedCurrentPrice_isSome_iff.mpr (.inr ⟨r, hread, hbelongs.resolve_right (by simp), hsat⟩)
  | some s =>
    constructor
    · rintro h ⟨r, hread, hstore, hsat⟩
      exact gatedCurrentPrice_isSome_iff.mp (h.found ⟨r, hread, .inr ⟨s, rfl, hstore⟩, hsat⟩)
    · intro h
      constructor
      · intro price hprice
        rcases mem_gatedCurrentPrice hprice with ⟨r, hr, -, rfl⟩ | hnational
        · obtain ⟨-, hstore, -⟩ := readable_of_latestValid hr
          exact .inr ⟨s, rfl, hstore s rfl⟩
        · exact .inl hnational
      · rintro ⟨r, hread, hbelongs, hsat⟩
        refine gatedCurrentPrice_isSome_iff.mpr ?_
        rcases hbelongs with hnational | ⟨s', hs, hstore⟩
        · exact .inr ⟨r, hread, hnational, hsat⟩
        · obtain rfl := Option.some.inj hs
          exact h ⟨r, hread, hstore, hsat⟩

end Gate

/-! ### A scope that is not known -/

/-- A price of milk at store 3. -/
def storeFact (scope : PriceScope) (observedAt : Instant) : PriceFact :=
  { (milk 2 10 1).candidate.fact with storeId := some 3, priceScope := scope, observedAt := observedAt }

theorem milk_fits : (milk 2 10 1).candidate.fact.fits = true := by decide +kernel

theorem storeFact_fits {scope : PriceScope} {observedAt : Instant} : (storeFact scope observedAt).fits = true := milk_fits

def storeRow (id : ℕ) (scope : PriceScope) (observedAt : Instant) : PriceObservation where
  toPriceFact := (storeFact scope observedAt).store
  id := id
  stagingOnly := false
  sourceId := none
  importedAt := observedAt
  validFrom := observedAt
  validUntil := none
  confidenceScore := 1
  rawCaptureId := none
  crawlRunId := none
  verificationStatus := .unverified
  rolledBackAt := none
  rolledBackBy := none
  closedByRunId := none
  columns := PriceFact.store_stored storeFact_fits

/-- The store's price of milk, and a later reading of unknown scope in the same store. -/
def laterUnknown : Db where
  observations := [storeRow 1 .exactStore 10, storeRow 2 .unknown 20]

/-- The later reading hides the price, which is still open. -/
theorem not_gated_laterUnknown : ¬Gated laterUnknown 7 (some 3) "exact_store" 30 false {} := by
  intro h
  have hnone : gatedCurrentPrice laterUnknown 7 (some 3) "exact_store" 30 false {} = none := by decide +kernel
  have hsome := h.found ⟨storeRow 1 .exactStore 10, ⟨List.mem_cons_self, rfl, rfl, rfl, rfl, rfl⟩, .inr ⟨3, rfl, rfl⟩, by decide⟩
  rw [hnone] at hsome
  cases hsome

end CestaPlan.Prices
