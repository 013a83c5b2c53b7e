import CestaPlan.History.Anomaly
import CestaPlan.Library.Runs

/-! The judgement of a crawl batch (`run_price_sync` of `ingestion/orchestration.py`) and its recording.

    A variant may have several open prices, one for each scope and type. The batch is judged by the reference of the
    variant: the price that was looked up last stands for all of them, and a verdict on one holds for all of them. -/

namespace CestaPlan.History
open Numeric Runs

/-- `_PendingObservation`: an observation resolved to its variant. -/
structure PendingObservation where
  obs : RefObservation
  variantId : Int
  rawCaptureId : Option Int
  validationOk : Bool
deriving DecidableEq

/-- A pass of `run_price_sync`, from where the observations of the connector are resolved. -/
structure SyncRun where
  retailerId : Int
  storeId : Option Int
  crawlRunId : Option Int
  asOf : Instant
  discovered : Nat
  pending : List PendingObservation
  anyBlockPage : Bool := false

/-- `_current_open`: the query of the writer for the open row. -/
def SyncRun.currentOpen (run : SyncRun) (db : Db) (item : PendingObservation) : Option PriceObservation :=
  latestOpen db item.variantId run.storeId item.obs.priceScope item.obs.priceType

def openCatalogSize (db : Db) (retailerId : Int) (storeId : Option Int) : Nat :=
  ((db.observations.filter fun r =>
    r.retailerId = retailerId && r.validUntil.isNone && !r.isDisputed && r.storeId = storeId).map
      (·.productVariantId)).dedup.length

/-- One round of the loop of `_build_prior_stats`. -/
def SyncRun.seePrior (run : SyncRun) (db : Db) (known : Dict String ℚ × Dict String String)
    (item : PendingObservation) : Dict String ℚ × Dict String String :=
  match run.currentOpen db item with
  | none => known
  | some r => (known.1.set item.obs.variantRef r.amount,
      match r.unitCode with
      | none => known.2
      | some unit => known.2.set item.obs.variantRef unit)

def SyncRun.buildPriorStats (run : SyncRun) (db : Db) : PriorStats :=
  let known := run.pending.foldl (run.seePrior db) (.empty, .empty)
  { catalogSize := openCatalogSize db run.retailerId run.storeId
    prices := known.1
    units := known.2
    currency := "EUR" }

def SyncRun.batch (run : SyncRun) : Batch where
  observations := run.pending.map (·.obs)
  isBlockPage := run.anyBlockPage
  parserReturnedZero := decide (0 < run.discovered ∧ run.pending = [] ∧ run.anyBlockPage = false)

def severityRank : Severity → Nat
  | .low => 0
  | .medium => 1
  | .high => 2
  | .critical => 3

/-- Severe enough for `_QUARANTINE_SEVERITY`. -/
def Anomaly.severe (a : Anomaly) : Bool := severityRank .high ≤ severityRank a.severity

/-- The reference of an anomaly; an empty one counts as none. -/
def Anomaly.ref (a : Anomaly) : Option String := a.variantRef.filter (· ≠ "")

def quarantineTargets (anomalies : List Anomaly) : Bool × List String :=
  ((anomalies.filter (·.severe)).any (·.ref.isNone), (anomalies.filter (·.severe)).filterMap (·.ref))

def batchReason (anomalies : List Anomaly) : String :=
  ((anomalies.find? fun a => a.severe && a.ref.isNone).map (·.anomalyType.text)).getD "batch_quarantined"

def refReason (anomalies : List Anomaly) (ref : String) : String :=
  ((anomalies.find? fun a => a.variantRef = some ref && a.severe).map (·.anomalyType.text)).getD "quarantined"

def decideQuarantine (item : PendingObservation) (anomalies : List Anomaly) (batchQuarantine : Bool)
    (perRefQuarantine : List String) : Bool × String :=
  if batchQuarantine then (true, batchReason anomalies)
  else if item.obs.variantRef ∈ perRefQuarantine then (true, refReason anomalies item.obs.variantRef)
  else if !item.validationOk then (true, "validation_failed")
  else (false, "quarantined")

structure Recorded where
  item : PendingObservation
  quarantined : Bool
  row : PriceObservation

def SyncRun.context (run : SyncRun) (item : PendingObservation) (verdict : Bool × String) : ObservationContext where
  productVariantId := item.variantId
  retailerId := run.retailerId
  asOf := run.asOf
  storeId := run.storeId
  crawlRunId := run.crawlRunId
  rawCaptureId := item.rawCaptureId
  quarantined := verdict.1
  anomalyType := verdict.2

def SyncRun.recordPending (run : SyncRun) (verdict : PendingObservation → Bool × String) (acc : Db × List Recorded)
    (item : PendingObservation) : Except RecordError (Db × List Recorded) := do
  let (db, row) ← recordObservation acc.1 item.obs.toNormalizedObservation (run.context item (verdict item))
  return (db, acc.2 ++ [{ item := item, quarantined := (verdict item).1, row := row }])

/-- `run_price_sync`: the batch is judged against the tables as they are, and then recorded item by item. -/
def runPriceSync (upper : String → String) (detector : AnomalyDetector) (db : Db) (run : SyncRun) :
    Except RecordError (Db × List Recorded) :=
  let anomalies := detector.detect upper run.batch (run.buildPriorStats db)
  let targets := quarantineTargets anomalies
  run.pending.foldlM (run.recordPending fun item => decideQuarantine item anomalies targets.1 targets.2) (db, [])

/-! ### What a reference stands for -/

section Prior
variable {run : SyncRun} {db : Db} {item : PendingObservation} {ref : String} {known : Dict String ℚ × Dict String String}

/-- The open price that was looked up last under a reference. -/
def SyncRun.lastSeenPrice (run : SyncRun) (db : Db) (ref : String) : Option ℚ :=
  ((run.pending.filter (·.obs.variantRef = ref)).filterMap (run.currentOpen db)).getLast?.map (·.amount)

theorem seePrior_prices : (run.seePrior db known item).1.get? ref =
    if item.obs.variantRef = ref then ((run.currentOpen db item).map (·.amount)).or (known.1.get? ref)
    else known.1.get? ref := by
  unfold SyncRun.seePrior
  cases hopen : run.currentOpen db item with
  | none => simp
  | some r =>
    simp only [Dict.get?_set, Option.map_some, Option.some_or]
    by_cases h : item.obs.variantRef = ref
    · rw [if_pos h, if_pos h.symm]
    · rw [if_neg h, if_neg fun he => h he.symm]

theorem buildPriorStats_prices (ref : String) :
    (run.buildPriorStats db).prices.get? ref = run.lastSeenPrice db ref := by
  have main : ∀ (items : List PendingObservation) (known : Dict String ℚ × Dict String String),
      (items.foldl (run.seePrior db) known).1.get? ref =
        (((items.filter (·.obs.variantRef = ref)).filterMap (run.currentOpen db)).getLast?.map (·.amount)).or
          (known.1.get? ref) := by
    intro items
    induction items with
    | nil => simp
    | cons item items ih =>
      intro known
      rw [List.foldl_cons, ih, seePrior_prices]
      by_cases h : item.obs.variantRef = ref
      · rw [if_pos h, List.filter_cons_of_pos (by simpa using h)]
        cases hopen : run.currentOpen db item with
        | none => rw [List.filterMap_cons_none hopen, Option.map_none, Option.none_or]
        | some r =>
          rw [List.filterMap_cons_some hopen, List.getLast?_cons, Option.map_some, Option.some_or]
          cases hlast : ((items.filter (·.obs.variantRef = ref)).filterMap (run.currentOpen db)).getLast? <;> rfl
      · rw [if_neg h, List.filter_cons_of_neg (by simpa using h)]
  exact (main run.pending (.empty, .empty)).trans (by simp [SyncRun.lastSeenPrice])

end Prior

/-! ### The verdict on an observation -/

/-- The anomaly puts the observations of a reference in quarantine: it is one of the batch or of that reference. -/
def Anomaly.Hits (a : Anomaly) (ref : String) : Prop := a.ref = none ∨ a.ref = some ref

/-- A price of the reference, or one without reference, moves away from the price that was looked up last. -/
def SyncRun.Alarmed (run : SyncRun) (detector : AnomalyDetector) (db : Db) (ref : String) : Prop :=
  ∃ item ∈ run.pending, (item.obs.variantRef = "" ∨ item.obs.variantRef = ref) ∧
    ∃ old ∈ run.lastSeenPrice db item.obs.variantRef, 0 < old ∧ detector.Moves old item.obs.amount

instance (a : Anomaly) (ref : String) : Decidable (a.Hits ref) := inferInstanceAs (Decidable (_ ∨ _))

instance (run : SyncRun) (detector : AnomalyDetector) (db : Db) (ref : String) :
    Decidable (run.Alarmed detector db ref) := by
  unfold SyncRun.Alarmed
  infer_instance

/-- A check that compares no prices puts the observation in quarantine. -/
def SyncRun.HeldOtherwise (run : SyncRun) (upper : String → String) (detector : AnomalyDetector) (db : Db)
    (item : PendingObservation) : Prop :=
  item.validationOk = false ∨
    ∃ a ∈ detector.otherChecks upper run.batch (run.buildPriorStats db), a.Hits item.obs.variantRef

instance (run : SyncRun) (upper : String → String) (detector : AnomalyDetector) (db : Db) (item : PendingObservation) :
    Decidable (run.HeldOtherwise upper detector db item) := inferInstanceAs (Decidable (_ ∨ _))

section Verdict
variable {run : SyncRun} {upper : String → String} {detector : AnomalyDetector} {db db' : Db} {item : PendingObservation}
  {anomalies : List Anomaly} {recorded : List Recorded} {a : Anomaly} {ref : String}

theorem severe_of_mem_detect {batch : Batch} {prior : PriorStats} (h : a ∈ detector.detect upper batch prior) :
    a.severe = true := by
  rcases AnomalyDetector.severity_of_mem_detect h with hs | hs <;> simp [Anomaly.severe, severityRank, hs]

theorem ref_of_some (h : a.variantRef = some ref) : a.Hits item.obs.variantRef ↔ ref = "" ∨ ref = item.obs.variantRef := by
  unfold Anomaly.Hits Anomaly.ref
  rw [h, Option.filter_some]
  by_cases hr : ref = ""
  · simp [hr]
  · simp [hr]

theorem decideQuarantine_iff (hsevere : ∀ a ∈ anomalies, a.severe = true) :
    (decideQuarantine item anomalies (quarantineTargets anomalies).1 (quarantineTargets anomalies).2).1 = true ↔
      item.validationOk = false ∨ ∃ a ∈ anomalies, a.Hits item.obs.variantRef := by
  have hall : anomalies.filter (·.severe) = anomalies := List.filter_eq_self.mpr hsevere
  have hhits : (∃ a ∈ anomalies, a.Hits item.obs.variantRef) ↔
      (quarantineTargets anomalies).1 = true ∨ item.obs.variantRef ∈ (quarantineTargets anomalies).2 := by
    simp only [quarantineTargets, hall, List.any_eq_true, List.mem_filterMap, Option.isNone_iff_eq_none, Anomaly.Hits,
      ← exists_or, ← and_or_left]
  rw [hhits]
  unfold decideQuarantine
  cases (quarantineTargets anomalies).1 <;> cases item.validationOk <;>
    by_cases hmem : item.obs.variantRef ∈ (quarantineTargets anomalies).2 <;> simp [hmem]

theorem verdict_iff :
    let anomalies := detector.detect upper run.batch (run.buildPriorStats db)
    (decideQuarantine item anomalies (quarantineTargets anomalies).1 (quarantineTargets anomalies).2).1 = true ↔
      run.HeldOtherwise upper detector db item ∨ run.Alarmed detector db item.obs.variantRef := by
  intro anomalies
  rw [decideQuarantine_iff fun a ha => severe_of_mem_detect ha, SyncRun.HeldOtherwise, or_assoc]
  refine or_congr_right ?_
  constructor
  · rintro ⟨a, ha, hhits⟩
    rcases AnomalyDetector.mem_detect.mp ha with hother | ⟨o, ho, hmove⟩
    · exact Or.inl ⟨a, hother, hhits⟩
    · obtain ⟨item', hitem', rfl⟩ := List.mem_map.mp ho
      have href := (ref_of_some (AnomalyDetector.variantRef_of_mem_moveCheck hmove)).mp hhits
      obtain ⟨old, hold, hpos, hmoves⟩ := AnomalyDetector.mem_moveCheck.mp ⟨a, hmove⟩
      exact Or.inr ⟨item', hitem', href, old, (buildPriorStats_prices _).symm.trans hold, hpos, hmoves⟩
  · rintro (⟨a, hother, hhits⟩ | ⟨item', hitem', href, old, hold, hpos, hmoves⟩)
    · exact ⟨a, AnomalyDetector.mem_detect.mpr (Or.inl hother), hhits⟩
    · obtain ⟨a, hmove⟩ := AnomalyDetector.mem_moveCheck.mpr
        ⟨old, (buildPriorStats_prices _).trans hold, hpos, hmoves⟩
      exact ⟨a, AnomalyDetector.mem_detect.mpr (Or.inr ⟨_, List.mem_map_of_mem hitem', hmove⟩),
        (ref_of_some (AnomalyDetector.variantRef_of_mem_moveCheck hmove)).mpr href⟩

theorem recorded_of_foldlM {verdict : PendingObservation → Bool × String} {items : List PendingObservation}
    {acc : Db × List Recorded} (h : items.foldlM (run.recordPending verdict) acc = .ok (db', recorded)) :
    recorded.map (fun x => (x.item, x.quarantined)) =
      acc.2.map (fun x => (x.item, x.quarantined)) ++ items.map fun item => (item, (verdict item).1) := by
  induction items generalizing acc with
  | nil =>
    obtain rfl := Except.ok.inj h
    simp
  | cons item items ih =>
    obtain ⟨acc', hstep, hrest⟩ := foldlM_cons_eq_ok.mp h
    obtain ⟨⟨db₁, row⟩, -, hacc⟩ := bind_eq_ok.mp hstep
    obtain rfl := Except.ok.inj hacc
    rw [ih hrest]
    simp

theorem runPriceSync_recorded (h : runPriceSync upper detector db run = .ok (db', recorded)) :
    let anomalies := detector.detect upper run.batch (run.buildPriorStats db)
    recorded.map (fun x => (x.item, x.quarantined)) = run.pending.map fun item =>
      (item, (decideQuarantine item anomalies (quarantineTargets anomalies).1 (quarantineTargets anomalies).2).1) :=
  recorded_of_foldlM h

theorem exists_recorded_iff (h : runPriceSync upper detector db run = .ok (db', recorded)) :
    (∃ x ∈ recorded, x.item = item) ↔ item ∈ run.pending := by
  have hfst := congrArg (List.map Prod.fst) (runPriceSync_recorded h)
  simp only [List.map_map, Function.comp_def, List.map_id'] at hfst
  rw [← hfst, List.mem_map]

theorem quarantined_iff (h : runPriceSync upper detector db run = .ok (db', recorded)) {x : Recorded}
    (hx : x ∈ recorded) : x.quarantined = true ↔
      run.HeldOtherwise upper detector db x.item ∨ run.Alarmed detector db x.item.obs.variantRef := by
  obtain ⟨item, -, heq⟩ := List.mem_map.mp (runPriceSync_recorded h ▸ List.mem_map_of_mem hx)
  obtain ⟨rfl, hq⟩ := Prod.mk.inj heq
  exact (iff_of_eq (congrArg (· = true) hq.symm)).trans verdict_iff

theorem runPriceSync_of_fits (hfits : ∀ item ∈ run.pending, ∀ verdict,
      (item.obs.fact (run.context item verdict)).fits = true) :
    ∃ db' recorded, runPriceSync upper detector db run = .ok (db', recorded) := by
  have main : ∀ (verdict : PendingObservation → Bool × String) (items : List PendingObservation)
      (acc : Db × List Recorded), (∀ item ∈ items, item ∈ run.pending) →
      ∃ res, items.foldlM (run.recordPending verdict) acc = .ok res := by
    intro verdict items
    induction items with
    | nil => exact fun acc _ => ⟨acc, rfl⟩
    | cons item items ih =>
      intro acc hsub
      obtain ⟨row, hrow⟩ := recordObservation_of_fits acc.1 (hfits item (hsub item List.mem_cons_self) (verdict item))
      obtain ⟨res, hres⟩ := ih (acc.1.observe item.obs.toNormalizedObservation (run.context item (verdict item)),
        acc.2 ++ [{ item := item, quarantined := (verdict item).1, row := row }])
        fun j hj => hsub j (List.mem_cons_of_mem _ hj)
      refine ⟨res, foldlM_cons_eq_ok.mpr ⟨_, ?_, hres⟩⟩
      exact bind_eq_ok.mpr ⟨_, hrow, rfl⟩
  obtain ⟨res, hres⟩ := main _ run.pending (db, []) fun _ h => h
  exact ⟨res.1, res.2, hres⟩

end Verdict

/-! ### Lanes in a batch -/

/-- Both are of one lane of the run: they agree in variant, scope and type. -/
def PendingObservation.Beside (i j : PendingObservation) : Prop :=
  j.variantId = i.variantId ∧ j.obs.priceScope = i.obs.priceScope ∧ j.obs.priceType = i.obs.priceType

/-- What is recorded outside of quarantine is in the band around the open price of its own lane, and what repeats that
    price is in quarantine only because of another check or of a move in its own lane. -/
structure JudgedByOwnLane (upper : String → String) (detector : AnomalyDetector) (db : Db) (run : SyncRun)
    (recorded : List Recorded) : Prop where
  inside : ∀ x ∈ recorded, x.quarantined = false → ∀ r, run.currentOpen db x.item = some r → 0 < r.amount →
    detector.InBand r.amount x.item.obs.amount
  spared : ∀ x ∈ recorded, ∀ r, run.currentOpen db x.item = some r → x.item.obs.amount = r.amount →
    x.quarantined = true → run.HeldOtherwise upper detector db x.item ∨
      ∃ y ∈ recorded, x.item.Beside y.item ∧ detector.Moves r.amount y.item.obs.amount

/-- Where no other check holds an observation, the prices of its reference alarm if it leaves the band of its lane, and
    if they alarm around a price that its lane has already, then its lane moves as well. -/
def SyncRun.VerdictsAgree (run : SyncRun) (upper : String → String) (detector : AnomalyDetector) (db : Db) : Prop :=
  ∀ item ∈ run.pending, ¬run.HeldOtherwise upper detector db item → ∀ r ∈ run.currentOpen db item,
    (0 < r.amount → ¬detector.InBand r.amount item.obs.amount → run.Alarmed detector db item.obs.variantRef) ∧
    (item.obs.amount = r.amount → run.Alarmed detector db item.obs.variantRef →
      ∃ other ∈ run.pending, item.Beside other ∧ detector.Moves r.amount other.obs.amount)

instance (i j : PendingObservation) : Decidable (i.Beside j) := inferInstanceAs (Decidable (_ ∧ _))

instance (run : SyncRun) (upper : String → String) (detector : AnomalyDetector) (db : Db) :
    Decidable (run.VerdictsAgree upper detector db) := by
  unfold SyncRun.VerdictsAgree
  infer_instance

section Lanes
variable {run : SyncRun} {upper : String → String} {detector : AnomalyDetector} {db db' : Db}
  {recorded : List Recorded}

theorem JudgedByOwnLane.agree (hj : JudgedByOwnLane upper detector db run recorded)
    (h : runPriceSync upper detector db run = .ok (db', recorded)) : run.VerdictsAgree upper detector db := by
  intro item hmem hnot r hr
  obtain ⟨x, hx, rfl⟩ := (exists_recorded_iff h).mpr hmem
  refine ⟨fun hpos hout => ?_, fun hsame halarm => ?_⟩
  · by_contra hquiet
    refine hout (hj.inside x hx ?_ r hr hpos)
    rw [← Bool.not_eq_true, quarantined_iff h hx]
    exact not_or.mpr ⟨hnot, hquiet⟩
  · rcases hj.spared x hx r hr hsame ((quarantined_iff h hx).mpr (Or.inr halarm)) with hheld | ⟨y, hy, hbeside, hmoves⟩
    · exact absurd hheld hnot
    · exact ⟨y.item, (exists_recorded_iff h).mp ⟨y, hy, rfl⟩, hbeside, hmoves⟩

theorem SyncRun.VerdictsAgree.judged (hagree : run.VerdictsAgree upper detector db)
    (h : runPriceSync upper detector db run = .ok (db', recorded)) : JudgedByOwnLane upper detector db run recorded := by
  have hitem : ∀ {x}, x ∈ recorded → x.item ∈ run.pending := fun {x} hx => (exists_recorded_iff h).mp ⟨x, hx, rfl⟩
  refine ⟨fun x hx hq r hr hpos => ?_, fun x hx r hr hsame hq => ?_⟩
  · obtain ⟨hnot, hquiet⟩ := not_or.mp (mt (quarantined_iff h hx).mpr (by simp [hq]))
    by_contra hout
    exact hquiet ((hagree x.item (hitem hx) hnot r hr).1 hpos hout)
  · by_cases hheld : run.HeldOtherwise upper detector db x.item
    · exact Or.inl hheld
    have halarm := ((quarantined_iff h hx).mp hq).resolve_left hheld
    obtain ⟨other, hother, hbeside, hmoves⟩ := (hagree x.item (hitem hx) hheld r hr).2 hsame halarm
    obtain ⟨y, hy, rfl⟩ := (exists_recorded_iff h).mpr hother
    exact Or.inr ⟨y, hy, hbeside, hmoves⟩

/-- The batch is judged by the lanes exactly when the verdicts under the references agree with theirs. -/
theorem judgedByOwnLane_iff (h : runPriceSync upper detector db run = .ok (db', recorded)) :
    JudgedByOwnLane upper detector db run recorded ↔ run.VerdictsAgree upper detector db :=
  ⟨fun hj => hj.agree h, fun hagree => hagree.judged h⟩

/-- A batch with one lane for each reference has the verdicts agree. -/
theorem verdictsAgree_of_oneLane (hrefs : ∀ i ∈ run.pending, i.obs.variantRef ≠ "")
    (hlane : ∀ i ∈ run.pending, ∀ j ∈ run.pending, i.obs.variantRef = j.obs.variantRef → i.Beside j) :
    run.VerdictsAgree upper detector db := by
  intro item hitem hnot r hr
  have hopen : ∀ j ∈ run.pending, j.obs.variantRef = item.obs.variantRef → run.currentOpen db j = some r := by
    intro j hj href
    obtain ⟨hv, hs, ht⟩ := hlane item hitem j hj href.symm
    rw [SyncRun.currentOpen, hv, hs, ht]
    exact hr
  have hlast : run.lastSeenPrice db item.obs.variantRef = some r.amount := by
    have hall : ∀ x ∈ (run.pending.filter (·.obs.variantRef = item.obs.variantRef)).filterMap (run.currentOpen db),
        x = r := by
      intro x hx
      obtain ⟨j, hj, hxj⟩ := List.mem_filterMap.mp hx
      obtain ⟨hj, href⟩ := List.mem_filter.mp hj
      exact (Option.some.inj ((hopen j hj (of_decide_eq_true href)).symm.trans hxj)).symm
    have hmem : r ∈ (run.pending.filter (·.obs.variantRef = item.obs.variantRef)).filterMap (run.currentOpen db) :=
      List.mem_filterMap.mpr ⟨item, List.mem_filter.mpr ⟨hitem, decide_eq_true rfl⟩, hr⟩
    rw [SyncRun.lastSeenPrice, List.getLast?_eq_some_getLast (List.ne_nil_of_mem hmem), Option.map_some,
      hall _ (List.getLast_mem _)]
  refine ⟨fun hpos hout => ?_, fun hsame halarm => ?_⟩
  · refine ⟨item, hitem, Or.inr rfl, r.amount, hlast, hpos, ?_⟩
    exact not_not.mp (mt AnomalyDetector.inBand_of_not_moves hout)
  · obtain ⟨j, hj, href, old, hold, hpos, hmoves⟩ := halarm
    have href := href.resolve_left (hrefs j hj)
    rw [href] at hold
    obtain rfl := Option.some.inj (hold.symm.trans hlast)
    exact ⟨j, hj, hlane item hitem j hj href.symm, hmoves⟩

/-! ### Two prices of one product -/

/-- A price of the product in a crawl, for all customers or for those with the card. -/
def milkSeen (amount : ℚ) (type : PriceType) : PendingObservation where
  obs := { milkRead amount 20 with priceType := type, variantRef := "milk" }
  variantId := 7
  rawCaptureId := none
  validationOk := true

def milkCrawl (pending : List PendingObservation) : SyncRun where
  retailerId := 1
  storeId := none
  crawlRunId := none
  asOf := 20
  discovered := 1
  pending := pending

/-- The product at ten, and at two with the card. -/
def milkCard : Db :=
  (({} : Db).observe (milkRead 10 10) (milkContext 10 false)).observe { milkRead 2 10 with priceType := .loyalty }
    (milkContext 10 false)

theorem milkCrawl_ok (pending : List PendingObservation)
    (h : ∀ item ∈ pending, ∃ amount type, item = milkSeen amount type ∧ |roundScale 4 amount| < 10 ^ 8) :
    ∃ db' recorded, runPriceSync id {} milkCard (milkCrawl pending) = .ok (db', recorded) := by
  refine runPriceSync_of_fits fun item hitem verdict => ?_
  obtain ⟨amount, type, rfl, hfits⟩ := h item hitem
  show (decide (|roundScale 4 amount| < 10 ^ 8) && true) = true
  rw [decide_eq_true hfits, Bool.and_true]

theorem judgedByOwnLane_iff_milk : ∃ db' recorded,
    runPriceSync id {} milkCard (milkCrawl [milkSeen 11 .regular]) = .ok (db', recorded) ∧
      (JudgedByOwnLane id {} milkCard (milkCrawl [milkSeen 11 .regular]) recorded ↔
        (milkCrawl [milkSeen 11 .regular]).VerdictsAgree id {} milkCard) := by
  obtain ⟨db', recorded, h⟩ := milkCrawl_ok [milkSeen 11 .regular] fun item hitem =>
    ⟨11, .regular, List.mem_singleton.mp hitem, by decide +kernel⟩
  exact ⟨db', recorded, h, judgedByOwnLane_iff h⟩

/-- The price with the card is looked up last. A drop of the regular price to the one with the card passes, and the
    regular price seen again is put in quarantine, since it is five times the one with the card. -/
theorem not_judgedByOwnLane_card :
    (∃ db' recorded, runPriceSync id {} milkCard (milkCrawl [milkSeen 2 .regular, milkSeen 2 .loyalty]) =
        .ok (db', recorded) ∧
      ¬JudgedByOwnLane id {} milkCard (milkCrawl [milkSeen 2 .regular, milkSeen 2 .loyalty]) recorded) ∧
    ∃ db' recorded, runPriceSync id {} milkCard (milkCrawl [milkSeen 10 .regular, milkSeen 2 .loyalty]) =
        .ok (db', recorded) ∧
      ¬JudgedByOwnLane id {} milkCard (milkCrawl [milkSeen 10 .regular, milkSeen 2 .loyalty]) recorded := by
  have hok : ∀ amount : ℚ, |roundScale 4 amount| < 10 ^ 8 → ∃ db' recorded,
      runPriceSync id {} milkCard (milkCrawl [milkSeen amount .regular, milkSeen 2 .loyalty]) = .ok (db', recorded) := by
    refine fun amount hfits => milkCrawl_ok _ fun item hitem => ?_
    rcases List.mem_pair.mp hitem with rfl | rfl
    · exact ⟨amount, .regular, rfl, hfits⟩
    · exact ⟨2, .loyalty, rfl, by decide +kernel⟩
  constructor
  · obtain ⟨db', recorded, h⟩ := hok 2 (by decide +kernel)
    exact ⟨db', recorded, h, fun hj => absurd (hj.agree h) (by decide +kernel)⟩
  · obtain ⟨db', recorded, h⟩ := hok 10 (by decide +kernel)
    exact ⟨db', recorded, h, fun hj => absurd (hj.agree h) (by decide +kernel)⟩

end Lanes

end CestaPlan.History
