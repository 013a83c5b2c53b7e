import CestaPlan.History.LaneLedger
import CestaPlan.History.Projection
import CestaPlan.Library.Runs

/-! The promotion of staged observations to production (`services/provider_promotion.py`), and what it leaves of the
    intervals of the production lanes.

    A promotion clears the routing flag of every staged row of its chains. The flag is part of the lane, so the rows
    join a lane that another writer has kept, and nothing compares their intervals with those that are there. -/

namespace CestaPlan.History

/-! ### The gate -/

structure Settings where
  priceProviderKillSwitch : Bool
  priceProvidersEnabled : Bool
  providerRequireRightsApproval : Bool
deriving DecidableEq

structure ProviderActivation where
  providerCode : String
  transportStatus : String
  mapperStatus : String
  dataQualityStatus : String
  dataRightsStatus : String
  productionEnabled : Bool
  productionApproved : Bool
  productionApprovedAt : Option Instant
  productionApprovedBy : Option Int
deriving DecidableEq

def rightsOkForProd : List String := ["commercial_use_allowed", "storage_allowed", "display_allowed"]

def evaluateProduction (activation : Option ProviderActivation) (settings : Settings) : List String :=
  let reasons := (if settings.priceProviderKillSwitch then ["kill_switch_on"] else []) ++
    if settings.priceProvidersEnabled then [] else ["price_providers_disabled"]
  match activation with
  | none => reasons ++ ["no_activation_record"]
  | some row =>
    reasons ++
      (if row.transportStatus ≠ "operational" then [s!"transport_status={row.transportStatus}"] else []) ++
      (if row.mapperStatus ≠ "verified" then [s!"mapper_status={row.mapperStatus}"] else []) ++
      (if row.dataQualityStatus ≠ "accepted" then [s!"data_quality_status={row.dataQualityStatus}"] else []) ++
      (if settings.providerRequireRightsApproval ∧ row.dataRightsStatus ∉ rightsOkForProd then
        [s!"data_rights_status={row.dataRightsStatus}"] else []) ++
      if row.productionApprovedAt.isNone ∨ row.productionApprovedBy.isNone then ["not_manually_approved"] else []

def productionGateReasons (activation : Option ProviderActivation) (settings : Settings) : List String :=
  evaluateProduction activation settings ++
    if activation.any fun row => !(row.productionEnabled && row.productionApproved) then ["production_flags_not_set"]
    else []

/-! ### The tables -/

inductive MappingStatus where
  | candidate | autoApproved | manuallyApproved | rejected | other (status : String)
deriving DecidableEq

structure ProviderIngredientMapping where
  ingredientId : Int
  providerCode : String
  retailerSlug : String
  normalizedProductId : Option Int
  mappingStatus : MappingStatus
  active : Bool
  confidenceScore : ℚ
deriving DecidableEq

structure IngredientProductMapping where
  ingredientId : Int
  productId : Int
  retailerId : Option Int
  confidenceScore : Option ℚ
  matchMethod : Option String
  verificationStatus : VerificationStatus
  verifiedBy : Option Int
  verifiedAt : Option Instant
  isActive : Bool
deriving DecidableEq

structure Retailer where
  id : Int
  slug : String
deriving DecidableEq

structure Backoffice extends Shop where
  activations : List ProviderActivation := []
  candidates : List ProviderIngredientMapping := []
  retailers : List Retailer := []
  productIds : List Int := []
  mappings : List IngredientProductMapping := []
deriving DecidableEq

inductive PromotionError where
  | promotionBlocked (providerCode : String) (reasons : List String)
  | uniqueViolation (index : String)
deriving DecidableEq

structure PromotionResult where
  providerCode : String
  dryRun : Bool
  approvedCandidates : Nat := 0
  mappingsCreated : Nat := 0
  observationsPromoted : Nat := 0
  pricesWritten : Nat := 0
  retailerIds : List Int := []
deriving DecidableEq

/-! ### The promotion -/

def MappingStatus.approved (s : MappingStatus) : Bool := s = .autoApproved || s = .manuallyApproved

def isSelectableForCosting (row : ProviderIngredientMapping) : Bool := row.active && row.mappingStatus.approved

def approvedCandidates (o : Backoffice) (providerCode : String) : List ProviderIngredientMapping :=
  (o.candidates.filter fun row => row.providerCode = providerCode && row.mappingStatus.approved).filter fun row =>
    isSelectableForCosting row && row.normalizedProductId.isSome

/-- The product and the chain of a candidate; one without either is passed over. -/
def resolveCandidate (o : Backoffice) (c : ProviderIngredientMapping) : Option (Int × Int) := do
  let productId ← c.normalizedProductId
  if o.productIds.contains productId then
    let retailer ← o.retailers.find? (·.slug = c.retailerSlug)
    pure (productId, retailer.id)
  else none

def promotionMatchMethod : String := "provider_promotion"

/-- The mapping that a candidate becomes, unless its pair is in the table. -/
def newMapping (o : Backoffice) (actorId : Int) (now : Instant) (c : ProviderIngredientMapping) :
    Option IngredientProductMapping := do
  let (productId, retailerId) ← resolveCandidate o c
  if o.mappings.any fun m => m.ingredientId = c.ingredientId && m.productId = productId then none
  else
    pure {
      ingredientId := c.ingredientId
      productId := productId
      retailerId := some retailerId
      confidenceScore := some c.confidenceScore
      matchMethod := some promotionMatchMethod
      verificationStatus := .humanVerified
      verifiedBy := some actorId
      verifiedAt := some now
      isActive := true }

def promotedRetailers (o : Backoffice) (providerCode : String) : List Int :=
  ((approvedCandidates o providerCode).filterMap (resolveCandidate o)).map Prod.snd |>.dedup.insertionSort (· ≤ ·)

def PriceObservation.promote (r : PriceObservation) : PriceObservation := { r with stagingOnly := false }

def PriceObservation.stagedFor (retailerId : Int) (r : PriceObservation) : Bool :=
  r.retailerId = retailerId && r.stagingOnly && r.rolledBackAt.isNone

def promoteRetailer (acc : Shop × PromotionResult) (retailerId : Int) : Shop × PromotionResult :=
  let (s, result) := acc
  let staged := s.db.observations.filter (·.stagedFor retailerId)
  let promoted := { s with db := s.db.update (·.stagedFor retailerId) PriceObservation.promote }
  let result := { result with observationsPromoted := result.observationsPromoted + staged.length }
  if staged.isEmpty then (promoted, result)
  else
    let (projected, written) := projectCurrentPrices promoted retailerId
    (projected, { result with pricesWritten := result.pricesWritten + written })

/-- `promote_provider_to_production`. The pending mappings are not found by the search for a pair, so two candidates
    of one pair violate the unique index when the session is flushed, and nothing is written. -/
def promoteProviderToProduction (o : Backoffice) (providerCode : String) (actorId : Int) (dryRun : Bool)
    (settings : Settings) (now : Instant) : Except PromotionError (Backoffice × PromotionResult) :=
  let reasons := productionGateReasons (o.activations.find? (·.providerCode = providerCode)) settings
  if reasons ≠ [] then .error (.promotionBlocked providerCode reasons)
  else
    let candidates := approvedCandidates o providerCode
    let created := candidates.filterMap (newMapping o actorId now)
    let retailerIds := promotedRetailers o providerCode
    if (created.map fun m => (m.ingredientId, m.productId)).Nodup then
      let (shop, result) := retailerIds.foldl promoteRetailer (o.toShop,
        { providerCode := providerCode
          dryRun := dryRun
          approvedCandidates := candidates.length
          mappingsCreated := created.length })
      .ok ({ o with toShop := shop, mappings := o.mappings ++ created }, { result with retailerIds := retailerIds })
    else .error (.uniqueViolation "ux_ing_product")

/-- The tables after a promotion, or those before it where it is refused. -/
def Backoffice.promote (o : Backoffice) (providerCode : String) (actorId : Int) (settings : Settings) (now : Instant) :
    Backoffice :=
  match promoteProviderToProduction o providerCode actorId false settings now with
  | .ok (o', _) => o'
  | .error _ => o

/-! ### The lanes -/

section Lanes
variable {db : Db} {lane : Lane} {r a b : PriceObservation} {t : Instant} {retailerId : Int} {retailerIds : List Int}
  {s : Shop} {result : PromotionResult}

/-- The lane of the staged rows of the same price. -/
def Lane.staged (lane : Lane) : Lane := { lane with stagingOnly := true }

def Lane.IsProduction (lane : Lane) : Prop := lane.stagingOnly = false

/-- At most one active row is open, and at no instant do two of them hold. -/
structure OneAtATime (rows : List PriceObservation) : Prop where
  single : ((activeRows rows).filter (·.validUntil.isNone)).length ≤ 1
  disjoint : ∀ a ∈ rows, ∀ b ∈ rows, ∀ t, a.span.Holds t → b.span.Holds t → a.id = b.id

theorem oneAtATime_of_disjoint {rows : List PriceObservation} (hids : (rows.map (·.id)).Nodup)
    (h : ∀ a ∈ rows, ∀ b ∈ rows, ∀ t, a.span.Holds t → b.span.Holds t → a.id = b.id) : OneAtATime rows := by
  refine ⟨?_, h⟩
  by_contra hlt
  push Not at hlt
  have hnodup : (((activeRows rows).filter (·.validUntil.isNone)).map (·.id)).Nodup :=
    hids.sublist ((List.filter_sublist.trans List.filter_sublist).map _)
  rcases hopen : (activeRows rows).filter (·.validUntil.isNone) with _ | ⟨a, _ | ⟨b, rest⟩⟩
  · rw [hopen] at hlt; simp at hlt
  · rw [hopen] at hlt; simp at hlt
  · have hmem : ∀ x ∈ [a, b], x ∈ rows ∧ x.isDisputed = false ∧ x.validUntil = none := by
      intro x hx
      have hx' : x ∈ (activeRows rows).filter (·.validUntil.isNone) := by
        rw [hopen]
        exact List.mem_of_mem_take (i := 2) hx
      obtain ⟨hact, hnone⟩ := List.mem_filter.mp hx'
      obtain ⟨hrow, hdis⟩ := mem_activeRows.mp hact
      exact ⟨hrow, hdis, Option.isNone_iff_eq_none.mp hnone⟩
    obtain ⟨ha, hadis, hanone⟩ := hmem a (by simp)
    obtain ⟨hb, hbdis, hbnone⟩ := hmem b (by simp)
    have hholds : ∀ x : PriceObservation, x.isDisputed = false → x.validUntil = none → ∀ t, x.validFrom ≤ t → x.span.Holds t := by
      intro x hd hu t ht
      refine span_holds.mpr ⟨hd, ht, fun u hu' => ?_⟩
      rw [hu] at hu'
      cases hu'
    have heq := h a ha b hb (max a.validFrom b.validFrom) (hholds a hadis hanone _ (le_max_left _ _))
      (hholds b hbdis hbnone _ (le_max_right _ _))
    rw [hopen] at hnodup
    simp [heq] at hnodup

theorem promote_lane (hr : r.stagingOnly = true) : r.promote.lane = lane ↔ lane.IsProduction ∧ r.lane = lane.staged := by
  constructor
  · rintro rfl
    refine ⟨rfl, ?_⟩
    show r.toPriceFact.lane r.stagingOnly = _
    rw [hr]
    rfl
  · rintro ⟨hp, hl⟩
    have hlane : r.toPriceFact.lane false = { r.lane with stagingOnly := false } := rfl
    show r.toPriceFact.lane false = lane
    rw [hlane, hl]
    cases lane
    cases hp
    rfl

def Db.promote (db : Db) (retailerId : Int) : Db := db.update (·.stagedFor retailerId) PriceObservation.promote

theorem live_promote_of_ne (hne : lane.retailerId ≠ retailerId) : (db.promote retailerId).live lane = db.live lane := by
  have hother : ∀ r : PriceObservation, r.stagedFor retailerId = true → r.lane ≠ lane := by
    rintro r hst rfl
    simp only [PriceObservation.stagedFor, Bool.and_eq_true, decide_eq_true_eq] at hst
    exact hne hst.1.1
  simp only [Db.live, Db.promote, Db.update, List.filter_map]
  have hpoint : ∀ r : PriceObservation, ((fun r : PriceObservation => decide (r.lane = lane) && r.rolledBackAt.isNone) ∘
      fun r => if r.stagedFor retailerId = true then r.promote else r) r =
        (decide (r.lane = lane) && r.rolledBackAt.isNone) := by
    intro r
    rw [Function.comp_apply]
    by_cases hst : r.stagedFor retailerId = true
    · have hpromoted : r.promote.lane ≠ lane := by
        rintro rfl
        simp only [PriceObservation.stagedFor, Bool.and_eq_true, decide_eq_true_eq] at hst
        exact hne hst.1.1
      simp [hst, hpromoted, hother r hst]
    · simp [hst]
  rw [List.filter_congr fun r _ => hpoint r]
  refine (List.map_congr_left fun r hr => ?_).trans (List.map_id _)
  have hlane := (Bool.and_eq_true_iff.mp (List.mem_filter.mp hr).2).1
  exact if_neg fun hst => hother r hst (of_decide_eq_true hlane)

variable (result) in
theorem promoteRetailer_db : (promoteRetailer (s, result) retailerId).1.db = s.db.promote retailerId := by
  unfold promoteRetailer
  dsimp only
  split
  · rfl
  · exact (projecting_project (s := { s with db := s.db.promote retailerId }) retailerId 0 0).db

theorem promoteRetailers_db : ((retailerIds.foldl promoteRetailer (s, result))).1.db = retailerIds.foldl Db.promote s.db := by
  induction retailerIds generalizing s result with
  | nil => rfl
  | cons retailerId rest ih =>
    rw [List.foldl_cons, List.foldl_cons, ← promoteRetailer_db result]
    exact ih

/-- The live rows of a lane after a promotion of one chain: a staged lane of it is empty, and its rows are in the
    production lane. -/
theorem mem_live_promote : r ∈ (db.promote retailerId).live lane ↔
    (r ∈ db.live lane ∧ ¬(lane.retailerId = retailerId ∧ lane.stagingOnly = true)) ∨
      lane.IsProduction ∧ lane.retailerId = retailerId ∧ ∃ s ∈ db.live lane.staged, s.promote = r := by
  rw [Db.mem_live]
  constructor
  · rintro ⟨hr, rfl, hlive⟩
    obtain ⟨s, hs, rfl⟩ := List.mem_map.mp hr
    by_cases hst : s.stagedFor retailerId = true
    · rw [if_pos hst] at hlive ⊢
      simp only [PriceObservation.stagedFor, Bool.and_eq_true, decide_eq_true_eq] at hst
      obtain ⟨hp, hl⟩ := (promote_lane hst.1.2).mp rfl
      exact Or.inr ⟨hp, hst.1.1, s, Db.mem_live.mpr ⟨hs, hl, hlive⟩, rfl⟩
    · rw [if_neg hst] at hlive ⊢
      refine Or.inl ⟨Db.mem_live.mpr ⟨hs, rfl, hlive⟩, ?_⟩
      rintro ⟨hret, hstaging⟩
      have hret' : s.retailerId = retailerId := hret
      have hstaging' : s.stagingOnly = true := hstaging
      exact hst (by simp [PriceObservation.stagedFor, hret', hstaging', hlive])
  · rintro (⟨hr, hnot⟩ | ⟨hp, hret, s, hs, rfl⟩)
    · obtain ⟨hobs, rfl, hlive⟩ := Db.mem_live.mp hr
      refine ⟨List.mem_map.mpr ⟨r, hobs, if_neg fun hst => hnot ?_⟩, rfl, hlive⟩
      simp only [PriceObservation.stagedFor, Bool.and_eq_true, decide_eq_true_eq] at hst
      exact hst.1
    · obtain ⟨hs, hl, hlive⟩ := Db.mem_live.mp hs
      have hstaging : s.stagingOnly = true := congrArg Lane.stagingOnly hl
      have hret' : s.retailerId = retailerId := (congrArg Lane.retailerId hl).trans hret
      refine ⟨List.mem_map.mpr ⟨s, hs, if_pos ?_⟩, (promote_lane hstaging).mpr ⟨hp, hl⟩, hlive⟩
      simp [PriceObservation.stagedFor, hstaging, hret', hlive]

theorem mem_live_promoteAll : r ∈ (retailerIds.foldl Db.promote db).live lane ↔
    (r ∈ db.live lane ∧ ¬(lane.retailerId ∈ retailerIds ∧ lane.stagingOnly = true)) ∨
      lane.IsProduction ∧ lane.retailerId ∈ retailerIds ∧ ∃ s ∈ db.live lane.staged, s.promote = r := by
  induction retailerIds generalizing db with
  | nil => simp
  | cons retailerId rest ih =>
    have hstaged : ∀ s, s ∈ (db.promote retailerId).live lane.staged ↔
        s ∈ db.live lane.staged ∧ lane.retailerId ≠ retailerId := by
      intro s
      rw [mem_live_promote]
      constructor
      · rintro (⟨hs, hnot⟩ | ⟨hp, -⟩)
        · exact ⟨hs, fun heq => hnot ⟨heq, rfl⟩⟩
        · cases hp
      · rintro ⟨hs, hne⟩
        exact Or.inl ⟨hs, fun h => hne h.1⟩
    rw [List.foldl_cons, ih, mem_live_promote]
    simp only [hstaged, List.mem_cons, Lane.IsProduction]
    by_cases heq : lane.retailerId = retailerId
    · cases hst : lane.stagingOnly <;> simp [heq]
    · simp [heq]

theorem Db.Keyed.promoteAll (h : db.Keyed) : (retailerIds.foldl Db.promote db).Keyed := by
  induction retailerIds generalizing db with
  | nil => exact h
  | cons retailerId rest ih => exact ih (h.update fun _ => rfl)

theorem oneAtATime_promoteAll_iff (hk : db.Keyed) (hp : lane.IsProduction) (hret : lane.retailerId ∈ retailerIds)
    (hlane : OneAtATime (db.live lane)) (hstaged : OneAtATime (db.live lane.staged)) :
    OneAtATime ((retailerIds.foldl Db.promote db).live lane) ↔
      ∀ a ∈ db.live lane, ∀ b ∈ db.live lane.staged, ∀ t, a.span.Holds t → ¬b.span.Holds t := by
  have hmem : ∀ r, r ∈ (retailerIds.foldl Db.promote db).live lane ↔
      r ∈ db.live lane ∨ ∃ s ∈ db.live lane.staged, s.promote = r := by
    intro r
    have hproduction : lane.stagingOnly = false := hp
    rw [mem_live_promoteAll]
    simp [hp, hret, hproduction]
  constructor
  · intro h a ha b hb t hat hbt
    have hid : a.id = b.id := h.disjoint a ((hmem a).mpr (Or.inl ha)) b.promote ((hmem _).mpr (Or.inr ⟨b, hb, rfl⟩)) t hat hbt
    obtain ⟨ha, hal, -⟩ := Db.mem_live.mp ha
    obtain ⟨hb, hbl, -⟩ := Db.mem_live.mp hb
    have heq : a = b := List.inj_on_of_nodup_map hk.ids ha hb hid
    rw [heq, hbl] at hal
    have := congrArg Lane.stagingOnly hal
    rw [show lane.stagingOnly = false from hp] at this
    cases this
  · intro hcross
    refine oneAtATime_of_disjoint hk.promoteAll.live_nodup fun a ha b hb t hat hbt => ?_
    rcases (hmem a).mp ha with ha' | ⟨a', ha', rfl⟩ <;> rcases (hmem b).mp hb with hb' | ⟨b', hb', rfl⟩
    · exact hlane.disjoint a ha' b hb' t hat hbt
    · exact absurd hbt (hcross a ha' b' hb' t hat)
    · exact absurd hat (hcross b hb' a' ha' t hbt)
    · exact hstaged.disjoint a' ha' b' hb' t hat hbt

end Lanes

/-! ### The staged lanes -/

section Staged
variable {db : Db} {lane : Lane} {rows : List PriceObservation} {cur : PriceObservation} {t : Instant}
  {obs : NormalizedObservation} {ctx : ObservationContext}

/-- What is left of the chain of a staged lane when the production writer may have ended its open row. -/
structure Linked (rows : List PriceObservation) : Prop where
  alone : rows.Pairwise fun a b => a.validFrom = b.validFrom → a.isDisputed = true ∧ b.isDisputed = true
  chained : ∀ a ∈ activeRows rows, ∀ b ∈ rows, a.validFrom < b.validFrom → a.endsBy b.validFrom
  empty : ∀ r ∈ disputedRows rows, r.validUntil = some r.validFrom

theorem Chained.linked (h : Chained rows) : Linked rows := ⟨h.alone, h.chained, h.empty⟩

theorem Linked.nil : Linked [] := Chained.nil.linked

theorem Linked.toChained (h : Linked rows) (hh : LaneHolds rows) : Chained rows := ⟨h.alone, h.chained, hh.positive, h.empty⟩

/-- Of two rows with one start both are disputed, and of two others the earlier one ends before the later one. -/
theorem Linked.oneAtATime (h : Linked rows) (hids : (rows.map (·.id)).Nodup) : OneAtATime rows := by
  refine oneAtATime_of_disjoint hids fun a ha b hb t hat hbt => ?_
  obtain ⟨hadis, hafrom, hauntil⟩ := span_holds.mp hat
  obtain ⟨hbdis, hbfrom, hbuntil⟩ := span_holds.mp hbt
  rcases lt_trichotomy a.validFrom b.validFrom with hlt | heq | hgt
  · obtain ⟨u, hu, hle⟩ := PriceObservation.endsBy_iff.mp (h.chained a (mem_activeRows.mpr ⟨ha, hadis⟩) b hb hlt)
    exact absurd (hauntil u hu) (not_lt_of_ge (hle.trans hbfrom))
  · by_contra hne
    have hsymm : Std.Symm fun a b : PriceObservation =>
        a.validFrom = b.validFrom → a.isDisputed = true ∧ b.isDisputed = true := ⟨fun _ _ h he => (h he.symm).symm⟩
    have hboth := h.alone.forall ha hb (fun heq => hne (congrArg _ heq)) heq
    rw [hadis] at hboth
    cases hboth.1
  · obtain ⟨u, hu, hle⟩ := PriceObservation.endsBy_iff.mp (h.chained b (mem_activeRows.mpr ⟨hb, hbdis⟩) a ha hgt)
    exact absurd (hbuntil u hu) (not_lt_of_ge (hle.trans hafrom))

theorem Linked.endOpen (h : Linked rows) (hcur : cur.isDisputed = false) (hopen : cur.validUntil = none)
    (hrow : ∀ r ∈ rows, r.id = cur.id → r = cur) : Linked (rows.map (endOpen cur t)) := by
  refine ⟨?_, fun a ha b hb hlt => ?_, fun d hd => ?_⟩
  · rw [List.pairwise_map]
    exact h.alone.imp fun hab heq => by simpa using hab (by simpa using heq)
  · obtain ⟨ha, hadis⟩ := mem_activeRows.mp ha
    obtain ⟨a, har, rfl⟩ := List.mem_map.mp ha
    obtain ⟨b, hbr, rfl⟩ := List.mem_map.mp hb
    simp only [endOpen_validFrom, endOpen_isDisputed] at hlt hadis ⊢
    have hends := h.chained a (mem_activeRows.mpr ⟨har, hadis⟩) b hbr hlt
    by_cases hid : a.id = cur.id
    · rw [hrow a har hid] at hends
      obtain ⟨u, hu, -⟩ := PriceObservation.endsBy_iff.mp hends
      rw [hopen] at hu
      cases hu
    · rw [endOpen_of_ne hid]
      exact hends
  · obtain ⟨hd, hdis⟩ := mem_disputedRows.mp hd
    obtain ⟨d, hdr, rfl⟩ := List.mem_map.mp hd
    rw [endOpen_isDisputed] at hdis
    have hid : d.id ≠ cur.id := by
      intro hid
      rw [hrow d hdr hid, hcur] at hdis
      cases hdis
    rw [endOpen_of_ne hid]
    exact h.empty d (mem_disputedRows.mpr ⟨hdr, hdis⟩)

theorem Linked.map (h : Linked rows) {g : PriceObservation → PriceObservation} (hd : ∀ r, (g r).isDisputed = r.isDisputed)
    (hf : ∀ r, (g r).validFrom = r.validFrom) (hu : ∀ r, (g r).validUntil = r.validUntil) : Linked (rows.map g) := by
  have hends : ∀ r t, (g r).endsBy t = r.endsBy t := fun r t => by simp only [PriceObservation.endsBy, hu]
  refine ⟨?_, ?_, ?_⟩
  · rw [List.pairwise_map]
    exact h.alone.imp fun hab heq => by rw [hd, hd]; exact hab (by rwa [hf, hf] at heq)
  · simpa [activeRows_map hd, hf, hends] using h.chained
  · simpa [disputedRows_map hd, hf, hu] using h.empty

end Staged

/-! ### The production writer -/

section Observed
variable {db db' : Db} {lane : Lane} {rows : List PriceObservation} {r cur : PriceObservation} {t : Instant}
  {obs : NormalizedObservation} {ctx : ObservationContext}

theorem ObserveStep.keyed (h : ObserveStep db obs ctx db') (hk : db.Keyed) : db'.Keyed := by
  cases h with
  | quarantined hfits =>
    have hins := hk.insert (r := buildRow obs ctx (some ctx.asOf) .disputed db.nextObservationId hfits) (d := false) rfl
    refine ⟨hins.ids, hins.fresh, fun a ha => ?_⟩
    rcases List.mem_append.mp ha with ha | ha
    · exact Nat.lt_succ_of_lt (hk.anomalies a ha)
    · rw [List.mem_singleton.mp ha]
      exact Nat.lt_succ_self _
  | again => exact hk.update fun _ => rfl
  | changed => exact (hk.update (f := (·.endAt ctx.asOf)) fun _ => rfl).insert rfl
  | first => exact hk.insert rfl

theorem holds_of_endOpen (hopen : cur.validUntil = none) (hrow : r.id = cur.id → r = cur) {u : Instant}
    (h : (endOpen cur t r).span.Holds u) : r.span.Holds u ∧ (r.id = cur.id → u < t) := by
  obtain ⟨hd, hf, hu⟩ := span_holds.mp h
  rw [endOpen_isDisputed] at hd
  rw [endOpen_validFrom] at hf
  by_cases hid : r.id = cur.id
  · have heq := hrow hid
    refine ⟨span_holds.mpr ⟨hd, hf, fun v hv => ?_⟩, fun _ => hu t ?_⟩
    · rw [heq, hopen] at hv
      cases hv
    · rw [heq, endOpen_self]
      rfl
  · rw [endOpen_of_ne hid] at hu
    exact ⟨span_holds.mpr ⟨hd, hf, hu⟩, fun h => absurd h hid⟩

theorem live_endAt : (db.update (·.id = cur.id) (·.endAt t)).live lane = (db.live lane).map (endOpen cur t) := by
  rw [Db.live_update (f := fun r => r.endAt t) (fun _ => rfl) (fun _ => rfl)]
  refine List.map_congr_left fun r _ => ?_
  simp only [decide_eq_true_eq]
  rfl

theorem OneAtATime.of_shorter {rows' : List PriceObservation} (h : OneAtATime rows) (hids : (rows'.map (·.id)).Nodup)
    (hsub : ∀ r' ∈ rows', ∀ t, r'.span.Holds t → ∃ r ∈ rows, r.id = r'.id ∧ r.span.Holds t) : OneAtATime rows' := by
  refine oneAtATime_of_disjoint hids fun a ha b hb t hat hbt => ?_
  obtain ⟨a', ha', haid, hat'⟩ := hsub a ha t hat
  obtain ⟨b', hb', hbid, hbt'⟩ := hsub b hb t hbt
  rw [← haid, ← hbid]
  exact h.disjoint a' ha' b' hb' t hat' hbt'

/-- No row of the lane other than the one found holds from the call on. -/
def NothingAfter (rows : List PriceObservation) (found : Option PriceObservation) (t : Instant) : Prop :=
  ∀ a ∈ rows, (∀ cur, found = some cur → a.id ≠ cur.id) → ∀ u, t ≤ u → ¬a.span.Holds u

theorem oneAtATime_append_iff {n : PriceObservation} (found : Option PriceObservation) (h : OneAtATime rows)
    (hids : ((rows ++ [n]).map (·.id)).Nodup) (hn : n.isDisputed = false) (hopen : n.validUntil = none)
    (hfound : ∀ cur, found = some cur → ∀ a ∈ rows, a.id = cur.id → ∀ u, a.span.Holds u → u < n.validFrom) :
    OneAtATime (rows ++ [n]) ↔ NothingAfter rows found n.validFrom := by
  have hholds : ∀ u, n.span.Holds u ↔ n.validFrom ≤ u := by
    intro u
    rw [span_holds, hopen]
    simp [hn]
  constructor
  · intro hone a ha _ u hu hau
    have heq := hone.disjoint a (List.mem_append_left _ ha) n (List.mem_append_right _ List.mem_cons_self) u hau
      ((hholds u).mpr hu)
    rw [List.map_append, List.nodup_append] at hids
    exact hids.2.2 _ (List.mem_map_of_mem ha) _ List.mem_cons_self heq
  · intro hafter
    have hclear : ∀ a ∈ rows, ∀ u, a.span.Holds u → ¬n.span.Holds u := by
      intro a ha u hau hnu
      by_cases hid : ∀ cur, found = some cur → a.id ≠ cur.id
      · exact hafter a ha hid u ((hholds u).mp hnu) hau
      · push Not at hid
        obtain ⟨cur, hcur, hid⟩ := hid
        exact absurd ((hholds u).mp hnu) (not_le_of_gt (hfound cur hcur a ha hid u hau))
    refine oneAtATime_of_disjoint hids fun a ha b hb t hat hbt => ?_
    rcases List.mem_append.mp ha with ha | ha <;> rcases List.mem_append.mp hb with hb | hb
    · exact h.disjoint a ha b hb t hat hbt
    · exact absurd (List.mem_singleton.mp hb ▸ hbt) (hclear a ha t hat)
    · exact absurd (List.mem_singleton.mp ha ▸ hat) (hclear b hb t hbt)
    · rw [List.mem_singleton.mp ha, List.mem_singleton.mp hb]

/-- When a call of the production writer keeps its lane in order: it files the price, or sees the open row again, or
    has no room, or no other row of the lane holds from the call on. -/
def ObserveKeeps (db : Db) (obs : NormalizedObservation) (ctx : ObservationContext) : Prop :=
  let found := latestOpen db ctx.productVariantId ctx.storeId obs.priceScope obs.priceType
  ctx.quarantined = true ∨ (∃ cur, found = some cur ∧ isUnchanged cur obs = true) ∨ (obs.fact ctx).fits = false ∨
    NothingAfter (db.live (obs.lane ctx)) found ctx.asOf

theorem live_quarantined (hne : obs.lane ctx ≠ lane) {hfits : (obs.fact ctx).fits = true} :
    Db.live { db.insert (buildRow obs ctx (some ctx.asOf) .disputed db.nextObservationId hfits) false with
        anomalies := db.anomalies ++ [quarantineAnomaly obs ctx db.nextObservationId] } lane = db.live lane := by
  have hinsert : (db.insert (buildRow obs ctx (some ctx.asOf) .disputed db.nextObservationId hfits) false).live lane =
      db.live lane := Db.live_insert_of_ne hne
  exact hinsert

/-- A lane other than that of the call keeps its rows, but one of them may be ended. -/
theorem ObserveStep.other (h : ObserveStep db obs ctx db') (hk : db.Keyed) (hne : obs.lane ctx ≠ lane)
    (hone : OneAtATime (db.live lane)) : OneAtATime (db'.live lane) := by
  have hids : ((db'.live lane).map (·.id)).Nodup := (h.keyed hk).live_nodup
  cases h with
  | quarantined hfits =>
    rwa [live_quarantined hne]
  | again cur =>
    refine hone.of_shorter hids fun r' hr' t ht => ?_
    rw [Db.live_update (f := fun r => r.revalidate obs.observedAt ctx.asOf) (fun _ => rfl) (fun _ => rfl)] at hr'
    obtain ⟨r, hr, rfl⟩ := List.mem_map.mp hr'
    refine ⟨r, hr, ?_, ?_⟩
    · split <;> rfl
    · split at ht <;> exact ht
  | changed cur hfits hq hun hcur =>
    obtain ⟨hobs, hopen, -⟩ := latestOpen_mem hcur
    refine hone.of_shorter hids fun r' hr' t ht => ?_
    rw [Db.live_insert_of_ne (r := buildRow obs ctx none .unverified db.nextObservationId hfits) hne, live_endAt] at hr'
    obtain ⟨r, hr, rfl⟩ := List.mem_map.mp hr'
    have hrow : r.id = cur.id → r = cur := fun hid => List.inj_on_of_nodup_map hk.ids (Db.mem_live.mp hr).1 hobs hid
    refine ⟨r, hr, ?_, (holds_of_endOpen hopen hrow ht).1⟩
    unfold endOpen
    split <;> rfl
  | first hfits =>
    rw [Db.live_insert_of_ne (r := buildRow obs ctx none .unverified db.nextObservationId hfits) hne]
    exact hone

theorem ObserveStep.own_iff (h : ObserveStep db obs ctx db') (hk : db.Keyed) (hone : OneAtATime (db.live (obs.lane ctx))) :
    OneAtATime (db'.live (obs.lane ctx)) ↔ ObserveKeeps db obs ctx := by
  have hids : ((db'.live (obs.lane ctx)).map (·.id)).Nodup := (h.keyed hk).live_nodup
  cases h with
  | quarantined hfits hq =>
    refine iff_of_true (hone.of_shorter hids fun r' hr' t ht => ?_) (Or.inl hq)
    have heq : Db.live { db.insert (buildRow obs ctx (some ctx.asOf) .disputed db.nextObservationId hfits) false with
        anomalies := db.anomalies ++ [quarantineAnomaly obs ctx db.nextObservationId] } (obs.lane ctx) =
        db.live (obs.lane ctx) ++ [buildRow obs ctx (some ctx.asOf) .disputed db.nextObservationId hfits] :=
      live_insert_buildRow (d := false)
    rw [heq] at hr'
    rcases List.mem_append.mp hr' with hr | hr
    · exact ⟨r', hr, rfl, ht⟩
    · rw [List.mem_singleton.mp hr] at ht
      cases (span_holds.mp ht).1
  | again cur hq hun hcur =>
    refine iff_of_true (hone.of_shorter hids fun r' hr' t ht => ?_) (Or.inr (Or.inl ⟨cur, hcur, hun⟩))
    rw [Db.live_update (f := fun r => r.revalidate obs.observedAt ctx.asOf) (fun _ => rfl) (fun _ => rfl)] at hr'
    obtain ⟨r, hr, rfl⟩ := List.mem_map.mp hr'
    refine ⟨r, hr, ?_, ?_⟩
    · split <;> rfl
    · split at ht <;> exact ht
  | changed cur hfits hq hun hcur =>
    obtain ⟨hobs, hopen, -⟩ := latestOpen_mem hcur
    have hrow : ∀ r ∈ db.live (obs.lane ctx), r.id = cur.id → r = cur := fun r hr hid =>
      List.inj_on_of_nodup_map hk.ids (Db.mem_live.mp hr).1 hobs hid
    have hid : ∀ r, (endOpen cur ctx.asOf r).id = r.id := by
      intro r
      unfold endOpen
      split <;> rfl
    rw [live_insert_buildRow, live_endAt] at hids ⊢
    have hended : OneAtATime ((db.live (obs.lane ctx)).map (endOpen cur ctx.asOf)) := by
      refine hone.of_shorter ?_ fun r' hr' t ht => ?_
      · rw [List.map_append, List.nodup_append] at hids
        exact hids.1
      · obtain ⟨r, hr, rfl⟩ := List.mem_map.mp hr'
        exact ⟨r, hr, (hid r).symm, (holds_of_endOpen hopen (hrow r hr) ht).1⟩
    rw [oneAtATime_append_iff (some cur) hended hids rfl rfl ?_]
    · have hafter : NothingAfter ((db.live (obs.lane ctx)).map (endOpen cur ctx.asOf)) (some cur) ctx.asOf ↔
          NothingAfter (db.live (obs.lane ctx)) (some cur) ctx.asOf := by
        simp only [NothingAfter, List.forall_mem_map, Option.some.injEq, forall_eq', hid]
        refine forall₂_congr fun r _ => forall_congr' fun hne => ?_
        rw [endOpen_of_ne hne]
      show NothingAfter _ _ ctx.asOf ↔ _
      rw [hafter]
      unfold ObserveKeeps
      simp [hq, hcur, hun, hfits]
    · intro cur' hcur' a ha haid u hau
      cases hcur'
      obtain ⟨r, hr, rfl⟩ := List.mem_map.mp ha
      exact (holds_of_endOpen hopen (hrow r hr) hau).2 (by rw [← hid r]; exact haid)
  | first hfits hq hcur =>
    rw [live_insert_buildRow] at hids ⊢
    rw [oneAtATime_append_iff none hone hids rfl rfl fun _ h => by cases h]
    show NothingAfter _ _ ctx.asOf ↔ _
    unfold ObserveKeeps
    simp [hq, hcur, hfits]

theorem observe_iff (hk : db.Keyed) (hone : ∀ lane, lane.IsProduction → OneAtATime (db.live lane)) :
    (∀ lane, lane.IsProduction → OneAtATime ((db.observe obs ctx).live lane)) ↔ ObserveKeeps db obs ctx := by
  rcases observe_cases db obs ctx with ⟨heq, hfits⟩ | hstep
  · rw [heq]
    exact iff_of_true hone (Or.inr (Or.inr (Or.inl hfits)))
  · constructor
    · exact fun h => (hstep.own_iff hk (hone _ rfl)).mp (h (obs.lane ctx) rfl)
    · intro hkeeps lane hp
      by_cases hl : obs.lane ctx = lane
      · exact hl ▸ (hstep.own_iff hk (hone _ rfl)).mpr hkeeps
      · exact hstep.other hk hl (hone lane hp)

theorem Linked.observe (hk : db.Keyed) (hs : lane.stagingOnly = true) (h : Linked (db.live lane)) :
    Linked ((db.observe obs ctx).live lane) := by
  have hne : obs.lane ctx ≠ lane := by
    intro heq
    have : lane.stagingOnly = false := heq ▸ rfl
    rw [hs] at this
    cases this
  rcases observe_cases db obs ctx with ⟨heq, -⟩ | hstep
  · rwa [heq]
  · generalize db.observe obs ctx = db' at hstep
    cases hstep with
    | quarantined hfits =>
      rwa [live_quarantined hne]
    | again cur =>
      rw [Db.live_update (f := fun r => r.revalidate obs.observedAt ctx.asOf) (fun _ => rfl) (fun _ => rfl)]
      refine h.map (fun r => ?_) (fun r => ?_) fun r => ?_ <;> split <;> rfl
    | changed cur hfits hq hun hcur =>
      obtain ⟨hobs, hopen, hact⟩ := latestOpen_mem hcur
      rw [Db.live_insert_of_ne (r := buildRow obs ctx none .unverified db.nextObservationId hfits) hne, live_endAt]
      exact h.endOpen hact hopen fun r hr hid => List.inj_on_of_nodup_map hk.ids (Db.mem_live.mp hr).1 hobs hid
    | first hfits =>
      rw [Db.live_insert_of_ne (r := buildRow obs ctx none .unverified db.nextObservationId hfits) hne]
      exact h

end Observed

/-! ### Runs -/

inductive OfficeOp where
  | observe (obs : NormalizedObservation) (ctx : ObservationContext)
  | record (call : RecordCall)
  | promote (providerCode : String) (actorId : Int) (settings : Settings) (now : Instant)
deriving DecidableEq

def Backoffice.observe (o : Backoffice) (obs : NormalizedObservation) (ctx : ObservationContext) : Backoffice :=
  { o with db := o.db.observe obs ctx }

def Backoffice.apply (o : Backoffice) : OfficeOp → Backoffice
  | .observe obs ctx => o.observe obs ctx
  | .record call => { o with db := o.db.record call }
  | .promote providerCode actorId settings now => o.promote providerCode actorId settings now

def Backoffice.applyAll (o : Backoffice) (ops : List OfficeOp) : Backoffice := ops.foldl Backoffice.apply o

/-- A staged write is a call on a staged lane, with a candidate that does not arrive disputed. -/
def OfficeOp.Staged : OfficeOp → Prop
  | .record call => ∃ lane, lane.stagingOnly = true ∧ call.candidate.lane? = some lane ∧
      call.candidate.verificationStatus ≠ some .disputed
  | _ => True

/-- The gate lets a promotion through, and no two of its candidates are one pair. -/
def Backoffice.Promotes (o : Backoffice) (providerCode : String) (actorId : Int) (settings : Settings) (now : Instant) : Prop :=
  productionGateReasons (o.activations.find? (·.providerCode = providerCode)) settings = [] ∧
    (((approvedCandidates o providerCode).filterMap (newMapping o actorId now)).map
      fun m => (m.ingredientId, m.productId)).Nodup

/-- When an operation keeps the production lanes in order. A promotion does when no staged row of its chains holds at an
    instant at which a production row of the lane holds. -/
def OfficeOp.Keeps (o : Backoffice) : OfficeOp → Prop
  | .observe obs ctx => ObserveKeeps o.db obs ctx
  | .record _ => True
  | .promote providerCode actorId settings now => o.Promotes providerCode actorId settings now →
      ∀ lane, lane.IsProduction → lane.retailerId ∈ promotedRetailers o providerCode →
        ∀ a ∈ o.db.live lane, ∀ b ∈ o.db.live lane.staged, ∀ t, a.span.Holds t → ¬b.span.Holds t

section Run
variable {o : Backoffice} {op : OfficeOp} {ops : List OfficeOp} {providerCode : String} {actorId : Int}
  {settings : Settings} {now : Instant}

theorem promote_of_promotes (h : o.Promotes providerCode actorId settings now) :
    ∃ shop : Shop, shop.db = (promotedRetailers o providerCode).foldl Db.promote o.db ∧
      o.promote providerCode actorId settings now = { o with
        toShop := shop
        mappings := o.mappings ++ (approvedCandidates o providerCode).filterMap (newMapping o actorId now) } := by
  obtain ⟨hgate, hnodup⟩ := h
  simp only [Backoffice.promote, promoteProviderToProduction, hgate, ne_eq, not_true, if_false, hnodup, if_true]
  exact ⟨_, promoteRetailers_db, rfl⟩

theorem promote_of_not (h : ¬o.Promotes providerCode actorId settings now) :
    o.promote providerCode actorId settings now = o := by
  unfold Backoffice.promote promoteProviderToProduction
  by_cases hgate : productionGateReasons (o.activations.find? (·.providerCode = providerCode)) settings = []
  · have hnodup := fun hn => h ⟨hgate, hn⟩
    simp only [hgate, ne_eq, not_true, if_false, if_neg hnodup]
  · simp only [ne_eq, hgate, not_false_eq_true, if_true]

/-- The tables as the operations keep them: numbered rows, linked staged lanes. -/
structure Backoffice.Kept (o : Backoffice) : Prop where
  keyed : o.db.Keyed
  staged : ∀ lane, lane.stagingOnly = true → Linked (o.db.live lane)

theorem Linked.promoteAll {db : Db} {lane : Lane} {retailerIds : List Int} (hs : lane.stagingOnly = true)
    (h : Linked (db.live lane)) : Linked ((retailerIds.foldl Db.promote db).live lane) := by
  induction retailerIds generalizing db with
  | nil => exact h
  | cons retailerId rest ih =>
    refine ih ?_
    by_cases hret : lane.retailerId = retailerId
    · have hnil : (db.promote retailerId).live lane = [] := by
        refine List.eq_nil_iff_forall_not_mem.mpr fun r hr => ?_
        rcases mem_live_promote.mp hr with ⟨-, hnot⟩ | ⟨hp, -⟩
        · exact hnot ⟨hret, hs⟩
        · rw [show lane.stagingOnly = false from hp] at hs
          cases hs
      exact hnil ▸ Linked.nil
    · have hsame : (db.promote retailerId).live lane = db.live lane := live_promote_of_ne hret
      exact hsame ▸ h

theorem Backoffice.Kept.apply (h : o.Kept) (hop : op.Staged) : (o.apply op).Kept := by
  cases op with
  | observe obs ctx =>
    refine ⟨?_, fun lane hs => (h.staged lane hs).observe h.keyed hs⟩
    show (o.db.observe obs ctx).Keyed
    rcases observe_cases o.db obs ctx with ⟨heq, -⟩ | hstep
    · rw [heq]
      exact h.keyed
    · exact hstep.keyed h.keyed
  | record call =>
    obtain ⟨lane, hs, hcall, hdis⟩ := hop
    refine ⟨?_, fun lane' hs' => ?_⟩
    · show (o.db.record call).Keyed
      rcases record_step o.db hcall with heq | ⟨-, -, db₁, hstep, hsame⟩
      · rw [heq]
        exact h.keyed
      · exact hsame.keyed (hstep.keyed h.keyed)
    · show Linked ((o.db.record call).live lane')
      by_cases hl : lane' = lane
      · subst hl
        rcases record_step o.db hcall with heq | ⟨hr, hh, db₁, hstep, hsame⟩
        · rw [heq]
          exact h.staged lane' hs'
        · -- The preflight passed, so the rows of the lane have positive length and form a chain.
          have hlane := (laneInvariantsHold_of_lane fun r hr => lane_of_mem_live hr).mp hh
          rw [hsame.live]
          exact ((hstep.laneStep hcall hr).chained ((h.staged lane' hs').toChained hlane) hdis).linked
      · rw [live_record_of_ne hcall hl]
        exact h.staged lane' hs'
  | promote providerCode actorId settings now =>
    show (o.promote providerCode actorId settings now).Kept
    by_cases hp : o.Promotes providerCode actorId settings now
    · obtain ⟨shop, hdb, heq⟩ := promote_of_promotes hp
      rw [heq]
      refine ⟨hdb ▸ h.keyed.promoteAll, fun lane hs => ?_⟩
      show Linked (shop.db.live lane)
      rw [hdb]
      exact (h.staged lane hs).promoteAll hs
    · rwa [promote_of_not hp]

def Backoffice.InOrder (o : Backoffice) : Prop := ∀ lane : Lane, lane.IsProduction → OneAtATime (o.db.live lane)

theorem inOrder_apply_iff (h : o.Kept) (hprod : o.InOrder) (hop : op.Staged) : (o.apply op).InOrder ↔ op.Keeps o := by
  cases op with
  | observe obs ctx => exact observe_iff h.keyed hprod
  | record call =>
    obtain ⟨lane, hs, hcall, -⟩ := hop
    refine iff_of_true (fun lane' hp => ?_) trivial
    have hne : lane' ≠ lane := by
      rintro rfl
      rw [show lane'.stagingOnly = false from hp] at hs
      cases hs
    show OneAtATime ((o.db.record call).live lane')
    rw [live_record_of_ne hcall hne]
    exact hprod lane' hp
  | promote providerCode actorId settings now =>
    show (o.promote providerCode actorId settings now).InOrder ↔ _
    by_cases hpro : o.Promotes providerCode actorId settings now
    · obtain ⟨shop, hdb, heq⟩ := promote_of_promotes hpro
      have hjoin := fun lane hp (hret : lane.retailerId ∈ promotedRetailers o providerCode) =>
        oneAtATime_promoteAll_iff h.keyed hp hret (hprod lane hp)
        ((h.staged lane.staged rfl).oneAtATime h.keyed.live_nodup)
      rw [heq]
      show (∀ lane : Lane, lane.IsProduction → OneAtATime (shop.db.live lane)) ↔ _
      unfold OfficeOp.Keeps
      rw [hdb]
      constructor
      · exact fun hall _ lane hp hret => (hjoin lane hp hret).mp (hall lane hp)
      · intro hkeeps lane hp
        by_cases hret : lane.retailerId ∈ promotedRetailers o providerCode
        · exact (hjoin lane hp hret).mpr (hkeeps hpro lane hp hret)
        · refine (hprod lane hp).of_shorter h.keyed.promoteAll.live_nodup fun r hr t ht => ?_
          rcases mem_live_promoteAll.mp hr with ⟨hr, -⟩ | ⟨-, hret', -⟩
          · exact ⟨r, hr, rfl, ht⟩
          · exact absurd hret' hret
    · rw [promote_of_not hpro]
      exact iff_of_true hprod fun hp => absurd hp hpro

end Run

/-! ### A second promotion -/

section Again
variable {o : Backoffice} {ops : List OfficeOp} {providerCode : String} {actorId actorId' : Int}
  {settings settings' : Settings} {now now' : Instant} {retailerId : Int} {retailerIds : List Int} {db : Db} {s : Shop} {result : PromotionResult}

def NothingStaged (db : Db) (retailerId : Int) : Prop := ∀ r ∈ db.observations, r.stagedFor retailerId = false

/-- A provider with nothing left to promote: no staged row of its chains, and a mapping for every candidate. -/
structure Backoffice.Promoted (o : Backoffice) (providerCode : String) : Prop where
  staged : ∀ retailerId ∈ promotedRetailers o providerCode, NothingStaged o.db retailerId
  mapped : ∀ c ∈ approvedCandidates o providerCode, ∀ x, resolveCandidate o c = some x →
    ∃ m ∈ o.mappings, m.ingredientId = c.ingredientId ∧ m.productId = x.1

theorem nothingStaged_promote : NothingStaged (db.promote retailerId) retailerId := by
  intro r hr
  obtain ⟨s, -, rfl⟩ := List.mem_map.mp hr
  by_cases hst : s.stagedFor retailerId = true
  · rw [if_pos hst]
    simp [PriceObservation.stagedFor, PriceObservation.promote]
  · rw [if_neg hst]
    simpa using hst

theorem NothingStaged.promote (h : NothingStaged db retailerId) {other : Int} :
    NothingStaged (db.promote other) retailerId := by
  intro r hr
  obtain ⟨s, hs, rfl⟩ := List.mem_map.mp hr
  split
  · simp [PriceObservation.stagedFor, PriceObservation.promote]
  · exact h s hs

theorem NothingStaged.promoteAll (h : NothingStaged db retailerId) : NothingStaged (retailerIds.foldl Db.promote db) retailerId := by
  induction retailerIds generalizing db with
  | nil => exact h
  | cons other rest ih => exact ih h.promote

theorem nothingStaged_promoteAll (hret : retailerId ∈ retailerIds) :
    NothingStaged (retailerIds.foldl Db.promote db) retailerId := by
  induction retailerIds generalizing db with
  | nil => cases hret
  | cons other rest ih =>
    rcases List.mem_cons.mp hret with rfl | hret
    · exact nothingStaged_promote.promoteAll
    · exact ih hret

theorem promoteRetailer_of_nothingStaged (h : NothingStaged s.db retailerId) :
    promoteRetailer (s, result) retailerId = (s, { result with observationsPromoted := result.observationsPromoted + 0 }) := by
  have hnone : s.db.observations.filter (·.stagedFor retailerId) = [] :=
    List.filter_eq_nil_iff.mpr fun r hr => by simp [h r hr]
  have hdb : s.db.update (·.stagedFor retailerId) PriceObservation.promote = s.db := Db.update_of_false h
  simp [promoteRetailer, hnone, hdb]

theorem promoteRetailers_of_nothingStaged (h : ∀ retailerId ∈ retailerIds, NothingStaged s.db retailerId) :
    (retailerIds.foldl promoteRetailer (s, result)).1 = s := by
  induction retailerIds generalizing result with
  | nil => rfl
  | cons retailerId rest ih =>
    rw [List.foldl_cons, promoteRetailer_of_nothingStaged (h retailerId List.mem_cons_self)]
    exact ih fun other hother => h other (List.mem_cons_of_mem _ hother)

theorem newMapping_eq_some {c : ProviderIngredientMapping} {m : IngredientProductMapping}
    (h : newMapping o actorId now c = some m) :
    ∃ x, resolveCandidate o c = some x ∧ m.ingredientId = c.ingredientId ∧ m.productId = x.1 := by
  unfold newMapping at h
  cases hx : resolveCandidate o c with
  | none => simp [hx] at h
  | some x =>
    simp only [hx, Option.bind_eq_bind, Option.bind_some] at h
    split at h
    · cases h
    · cases h
      exact ⟨x, rfl, rfl, rfl⟩

theorem newMapping_eq_none {c : ProviderIngredientMapping} : newMapping o actorId now c = none ↔
    ∀ x, resolveCandidate o c = some x → ∃ m ∈ o.mappings, m.ingredientId = c.ingredientId ∧ m.productId = x.1 := by
  unfold newMapping
  cases hx : resolveCandidate o c with
  | none => simp
  | some x =>
    simp only [Option.bind_eq_bind, Option.bind_some, Option.some.injEq, forall_eq']
    by_cases hm : (o.mappings.any fun m => m.ingredientId = c.ingredientId && m.productId = x.1) = true
    · rw [if_pos hm]
      simpa using hm
    · rw [if_neg hm]
      refine iff_of_false (by simp) fun hex => hm ?_
      simpa using hex

theorem promoted_promote (h : o.Promotes providerCode actorId settings now) :
    (o.promote providerCode actorId settings now).Promoted providerCode := by
  obtain ⟨shop, hdb, heq⟩ := promote_of_promotes h
  rw [heq]
  refine ⟨fun retailerId hret => ?_, fun c hc x hx => ?_⟩
  · show NothingStaged shop.db retailerId
    rw [hdb]
    exact nothingStaged_promoteAll hret
  · show ∃ m ∈ o.mappings ++ _, _
    cases hnew : newMapping o actorId now c with
    | none =>
      obtain ⟨m, hm, hpair⟩ := newMapping_eq_none.mp hnew x hx
      exact ⟨m, List.mem_append_left _ hm, hpair⟩
    | some m =>
      obtain ⟨x', hx', hingredient, hproduct⟩ := newMapping_eq_some hnew
      cases hx.symm.trans hx'
      exact ⟨m, List.mem_append_right _ (List.mem_filterMap.mpr ⟨c, hc, hnew⟩), hingredient, hproduct⟩

theorem Backoffice.Promoted.observe (h : o.Promoted providerCode) {obs : NormalizedObservation} {ctx : ObservationContext} :
    (o.observe obs ctx).Promoted providerCode := by
  refine ⟨fun retailerId hret => ?_, h.mapped⟩
  have hnone := h.staged retailerId hret
  show NothingStaged (o.db.observe obs ctx) retailerId
  have hinsert : ∀ {db : Db} {d : Bool} {u st id} (hfits), NothingStaged db retailerId →
      NothingStaged (db.insert (buildRow obs ctx u st id hfits) d) retailerId := by
    intro db d u st id hfits h r hr
    rcases List.mem_append.mp hr with hr | hr
    · exact h r hr
    · rw [List.mem_singleton.mp hr]
      simp [PriceObservation.stagedFor, buildRow]
  have hupdate : ∀ {p : PriceObservation → Bool} {f : PriceObservation → PriceObservation},
      (∀ r, (f r).stagedFor retailerId = r.stagedFor retailerId) → NothingStaged (o.db.update p f) retailerId := by
    intro p f hf r hr
    obtain ⟨s, hs, rfl⟩ := List.mem_map.mp hr
    split
    · rw [hf]
      exact hnone s hs
    · exact hnone s hs
  rcases observe_cases o.db obs ctx with ⟨heq, -⟩ | hstep
  · rwa [heq]
  · generalize o.db.observe obs ctx = db' at hstep
    cases hstep with
    | quarantined hfits => exact hinsert (d := false) hfits hnone
    | again => exact hupdate fun _ => rfl
    | changed => exact hinsert _ (hupdate (f := (·.endAt ctx.asOf)) fun _ => rfl)
    | first => exact hinsert _ hnone

theorem Backoffice.Promoted.promote_eq (h : o.Promoted providerCode) : o.promote providerCode actorId settings now = o := by
  have hcreated : (approvedCandidates o providerCode).filterMap (newMapping o actorId now) = [] :=
    List.filterMap_eq_nil_iff.mpr fun c hc => newMapping_eq_none.mpr (h.mapped c hc)
  have hshop : ∀ result, ((promotedRetailers o providerCode).foldl promoteRetailer (o.toShop, result)).1 = o.toShop :=
    fun _ => promoteRetailers_of_nothingStaged h.staged
  unfold Backoffice.promote promoteProviderToProduction
  by_cases hgate : productionGateReasons (o.activations.find? (·.providerCode = providerCode)) settings = []
  · simp only [hgate, ne_eq, not_true, if_false, hcreated, List.map_nil, List.nodup_nil, if_true, List.append_nil, hshop]
  · simp only [ne_eq, hgate, not_false_eq_true, if_true]

theorem Backoffice.Promoted.of_shop (h : o.Promoted providerCode) {shop : Shop} {created : List IngredientProductMapping}
    (hs : ∀ retailerId, NothingStaged o.db retailerId → NothingStaged shop.db retailerId) :
    Backoffice.Promoted { o with toShop := shop, mappings := o.mappings ++ created } providerCode := by
  refine ⟨fun retailerId hret => hs retailerId (h.staged retailerId hret), fun c hc x hx => ?_⟩
  obtain ⟨m, hm, hpair⟩ := h.mapped c hc x hx
  exact ⟨m, List.mem_append_left _ hm, hpair⟩

theorem Backoffice.Promoted.promote (h : o.Promoted providerCode) {other : String} :
    (o.promote other actorId settings now).Promoted providerCode := by
  by_cases hp : o.Promotes other actorId settings now
  · obtain ⟨shop, hdb, heq⟩ := promote_of_promotes hp
    rw [heq]
    exact h.of_shop fun retailerId hs => hdb ▸ hs.promoteAll
  · rwa [promote_of_not hp]

theorem promote_again (h : o.Promotes providerCode actorId settings now) (hops : ∀ op ∈ ops, ∀ call, op ≠ .record call) :
    ((o.promote providerCode actorId settings now).applyAll ops).promote providerCode actorId' settings' now' =
      (o.promote providerCode actorId settings now).applyAll ops := by
  have hpromoted : ((o.promote providerCode actorId settings now).applyAll ops).Promoted providerCode := by
    refine Runs.foldl_induction (I := fun o : Backoffice => o.Promoted providerCode) (fun o ho op hop => ?_) (promoted_promote h)
    cases op with
    | observe obs ctx => exact ho.observe
    | record call => exact absurd rfl (hops _ hop call)
    | promote other actor settings now => exact ho.promote
  exact hpromoted.promote_eq

/-- The production lanes are in order all along a run exactly when every operation keeps them; nothing that a second
    promotion could write is left by the first. -/
theorem inOrder_applyAll_iff (h : o.Kept) (hprod : o.InOrder) (hops : ∀ op ∈ ops, op.Staged) :
    ((∀ pre, pre <+: ops → (o.applyAll pre).InOrder) ↔ ∀ pre op, pre ++ [op] <+: ops → op.Keeps (o.applyAll pre)) ∧
      ∀ pre, pre <+: ops → ∀ providerCode actorId settings now,
        (o.applyAll pre).Promotes providerCode actorId settings now →
          ∀ again : List OfficeOp, (∀ op ∈ again, ∀ call, op ≠ .record call) → ∀ actorId' settings' now',
            (((o.applyAll pre).promote providerCode actorId settings now).applyAll again).promote providerCode actorId'
                settings' now' =
              ((o.applyAll pre).promote providerCode actorId settings now).applyAll again := by
  refine ⟨?_, fun pre _ providerCode actorId settings now hpromotes again hagain actorId' settings' now' =>
    promote_again hpromotes hagain⟩
  exact Runs.forall_prefix_iff (fun o ho op hop => ho.apply (hops op hop))
    (fun o ho hprod op hop => inOrder_apply_iff ho hprod (hops op hop)) h hprod

end Again

/-- A chain with one product, and a provider that may be promoted to it. -/
def dairyOffice : Backoffice where
  variants := [{ id := 7, productId := some 70, retailerId := 1 }]
  activations :=
    [{ providerCode := "mercadona"
       transportStatus := "operational"
       mapperStatus := "verified"
       dataQualityStatus := "accepted"
       dataRightsStatus := "display_allowed"
       productionEnabled := true
       productionApproved := true
       productionApprovedAt := some 1
       productionApprovedBy := some 9 }]
  candidates :=
    [{ ingredientId := 3
       providerCode := "mercadona"
       retailerSlug := "mercadona"
       normalizedProductId := some 70
       mappingStatus := .manuallyApproved
       active := true
       confidenceScore := 1 }]
  retailers := [{ id := 1, slug := "mercadona" }]
  productIds := [70]

def openSettings : Settings where
  priceProviderKillSwitch := false
  priceProvidersEnabled := true
  providerRequireRightsApproval := true

def promoteMercadona (now : Instant) : OfficeOp := .promote "mercadona" 9 openSettings now

theorem dairyOffice_kept : dairyOffice.Kept where
  keyed := ⟨List.nodup_nil, fun _ hr => absurd hr List.not_mem_nil, fun _ ha => absurd ha List.not_mem_nil⟩
  staged := fun _ _ => Linked.nil

theorem dairyOffice_inOrder : dairyOffice.InOrder :=
  fun _ _ => oneAtATime_of_disjoint List.nodup_nil fun _ ha => absurd ha List.not_mem_nil

/-- A staged price is promoted, and the next one is written in production. -/
theorem inOrder_applyAll_iff_dairy :
    let ops := [.record (milk 2 10 1), promoteMercadona 15, .observe (milkRead 3 20) (milkContext 20 false)]
    ((∀ pre, pre <+: ops → (dairyOffice.applyAll pre).InOrder) ↔
        ∀ pre op, pre ++ [op] <+: ops → op.Keeps (dairyOffice.applyAll pre)) ∧
      ∀ pre, pre <+: ops → ∀ providerCode actorId settings now,
        (dairyOffice.applyAll pre).Promotes providerCode actorId settings now →
          ∀ again : List OfficeOp, (∀ op ∈ again, ∀ call, op ≠ .record call) → ∀ actorId' settings' now',
            (((dairyOffice.applyAll pre).promote providerCode actorId settings now).applyAll again).promote providerCode
                actorId' settings' now' =
              ((dairyOffice.applyAll pre).promote providerCode actorId settings now).applyAll again := by
  intro ops
  refine inOrder_applyAll_iff dairyOffice_kept dairyOffice_inOrder ?_
  simp only [ops, List.forall_mem_cons]
  exact ⟨⟨milkLane, rfl, rfl, milk_fresh.not_disputed⟩, trivial, trivial, List.forall_mem_nil _⟩

/-- A production price is open when another one is staged and promoted: both rows are open. -/
theorem not_inOrder_promoted :
    ¬(dairyOffice.applyAll [.observe (milkRead 2 10) (milkContext 10 false), .record (milk 3 20 1),
      promoteMercadona 30]).InOrder := by
  intro h
  exact absurd (h ((milkRead 2 10).lane (milkContext 10 false)) rfl).single (by decide +kernel)

end CestaPlan.History
