import CestaPlan.History.RecordStep
import CestaPlan.History.Chain

/-! The production writer (`ingestion/price_history.py`), and what it leaves of the lane invariants.

    It shares the table with the staging writer but not its policy: an observation put in quarantine leaves the
    open row around it, and a change closes the open row at the instant of processing, whatever that is. -/

namespace CestaPlan.History

structure PromotionInfo where
  rawText : Option String := none
  validFrom : Option Instant := none
  validUntil : Option Instant := none
deriving DecidableEq

structure NormalizedObservation where
  amount : ℚ
  currency : String
  priceScope : PriceScope
  priceType : PriceType
  observedAt : Instant
  unitAmount : Option ℚ := none
  unitCode : Option String := none
  promotion : Option PromotionInfo := none
  requiresLoyalty : Bool := false
  available : Option Bool := none
  confidence : ℚ := 1
deriving DecidableEq

structure ObservationContext where
  productVariantId : Int
  retailerId : Int
  asOf : Instant
  storeId : Option Int := none
  sourceId : Option Int := none
  crawlRunId : Option Int := none
  rawCaptureId : Option Int := none
  quarantined : Bool := false
  anomalyType : String := "quarantined"
  anomalySeverity : Severity := .high
deriving DecidableEq

def promotionText (obs : NormalizedObservation) : Option String := obs.promotion.bind (·.rawText)

/-- The order of the query for the open row: the last start first, then the last inserted. -/
def opensAfter (a b : PriceObservation) : Prop :=
  b.validFrom < a.validFrom ∨ (a.validFrom = b.validFrom ∧ b.id ≤ a.id)

instance (a b : PriceObservation) : Decidable (opensAfter a b) := inferInstanceAs (Decidable (_ ∨ _))

/-- `_latest_open`: it compares variant, scope, type and store, and neither the routing flag nor the currency. -/
def latestOpen (db : Db) (productVariantId : Int) (storeId : Option Int) (scope : PriceScope) (type : PriceType) :
    Option PriceObservation :=
  ((db.observations.filter fun r =>
    r.productVariantId = productVariantId && r.priceScope = scope && r.priceType = type && r.validUntil.isNone &&
      !r.isDisputed && r.storeId = storeId).insertionSort opensAfter).head?

def NormalizedObservation.fact (obs : NormalizedObservation) (ctx : ObservationContext) : PriceFact where
  retailerId := ctx.retailerId
  storeId := ctx.storeId
  deliveryZoneId := none
  productVariantId := ctx.productVariantId
  priceScope := obs.priceScope
  priceType := obs.priceType
  amount := obs.amount
  currency := obs.currency
  unitAmount := obs.unitAmount
  unitCode := obs.unitCode
  promotionText := promotionText obs
  requiresLoyalty := obs.requiresLoyalty
  promotionValidFrom := obs.promotion.bind (·.validFrom)
  promotionValidUntil := obs.promotion.bind (·.validUntil)
  available := obs.available
  observedAt := obs.observedAt

def buildRow (obs : NormalizedObservation) (ctx : ObservationContext) (validUntil : Option Instant)
    (status : VerificationStatus) (id : Nat) (h : (obs.fact ctx).fits = true) : PriceObservation where
  toPriceFact := (obs.fact ctx).store
  id := id
  stagingOnly := false
  sourceId := ctx.sourceId
  importedAt := ctx.asOf
  validFrom := ctx.asOf
  validUntil := validUntil
  confidenceScore := Numeric.roundScale 4 obs.confidence
  rawCaptureId := ctx.rawCaptureId
  crawlRunId := ctx.crawlRunId
  verificationStatus := status
  rolledBackAt := none
  rolledBackBy := none
  closedByRunId := none
  columns := PriceFact.store_stored h

def isUnchanged (r : PriceObservation) (obs : NormalizedObservation) : Bool :=
  r.amount = obs.amount && r.currency = obs.currency && r.promotionText = promotionText obs &&
    r.requiresLoyalty == obs.requiresLoyalty

/-- The open row, seen again. -/
def PriceObservation.revalidate (observedAt importedAt : Instant) (r : PriceObservation) : PriceObservation :=
  { r with
    toPriceFact := { r.toPriceFact with observedAt := observedAt }
    importedAt := importedAt
    columns := ⟨by
      have h := r.columns.kept
      simp only [PriceFact.store] at h ⊢
      have ha := congrArg PriceFact.amount h
      have hu := congrArg PriceFact.unitAmount h
      simp only at ha hu
      rw [ha, hu], r.columns.fits⟩ }

/-- The open row, ended by a change. -/
def PriceObservation.endAt (t : Instant) (r : PriceObservation) : PriceObservation := { r with validUntil := some t }

def quarantineAnomaly (obs : NormalizedObservation) (ctx : ObservationContext) (id : Nat) : PriceAnomaly where
  priceObservationId := id
  crawlRunId := ctx.crawlRunId
  anomalyType := ctx.anomalyType
  severity := ctx.anomalySeverity
  actualValue := some (Numeric.roundScale 6 obs.amount)
  status := .quarantined

/-- `record_observation`: the tables after it and the row that stands for the call. -/
def recordObservation (db : Db) (obs : NormalizedObservation) (ctx : ObservationContext) :
    Except RecordError (Db × PriceObservation) :=
  let current := latestOpen db ctx.productVariantId ctx.storeId obs.priceScope obs.priceType
  if ctx.quarantined then
    if h : (obs.fact ctx).fits = true then
      let row := buildRow obs ctx (some ctx.asOf) .disputed db.nextObservationId h
      .ok ({ db.insert row false with anomalies := db.anomalies ++ [quarantineAnomaly obs ctx row.id] }, row)
    else .error .numericFieldOverflow
  else match current.filter (isUnchanged · obs) with
    | some r =>
      .ok (db.update (·.id = r.id) (·.revalidate obs.observedAt ctx.asOf), r.revalidate obs.observedAt ctx.asOf)
    | none =>
      if h : (obs.fact ctx).fits = true then
        let row := buildRow obs ctx none .unverified db.nextObservationId h
        let closed := match current with
          | some r => db.update (·.id = r.id) (·.endAt ctx.asOf)
          | none => db
        .ok (closed.insert row false, row)
      else .error .numericFieldOverflow

def NormalizedObservation.lane (obs : NormalizedObservation) (ctx : ObservationContext) : Lane :=
  (obs.fact ctx).lane false

/-! ### The lane after a call -/

section Rows
variable {r : PriceObservation} {t u : Instant} {obs : NormalizedObservation} {ctx : ObservationContext}
  {validUntil : Option Instant} {status : VerificationStatus} {id : Nat} {h : (obs.fact ctx).fits = true}

@[simp] theorem PriceObservation.revalidate_lane : (r.revalidate t u).lane = r.lane := rfl
@[simp] theorem PriceObservation.revalidate_rolledBackAt : (r.revalidate t u).rolledBackAt = r.rolledBackAt := rfl
@[simp] theorem PriceObservation.revalidate_validFrom : (r.revalidate t u).validFrom = r.validFrom := rfl
@[simp] theorem PriceObservation.revalidate_validUntil : (r.revalidate t u).validUntil = r.validUntil := rfl
@[simp] theorem PriceObservation.revalidate_isDisputed : (r.revalidate t u).isDisputed = r.isDisputed := rfl

@[simp] theorem PriceObservation.endAt_lane : (r.endAt t).lane = r.lane := rfl
@[simp] theorem PriceObservation.endAt_rolledBackAt : (r.endAt t).rolledBackAt = r.rolledBackAt := rfl
@[simp] theorem PriceObservation.endAt_validFrom : (r.endAt t).validFrom = r.validFrom := rfl
@[simp] theorem PriceObservation.endAt_validUntil : (r.endAt t).validUntil = some t := rfl
@[simp] theorem PriceObservation.endAt_isDisputed : (r.endAt t).isDisputed = r.isDisputed := rfl

@[simp] theorem buildRow_lane : (buildRow obs ctx validUntil status id h).lane = obs.lane ctx := rfl
@[simp] theorem buildRow_validFrom : (buildRow obs ctx validUntil status id h).validFrom = ctx.asOf := rfl
@[simp] theorem buildRow_validUntil : (buildRow obs ctx validUntil status id h).validUntil = validUntil := rfl

end Rows

section Appended
variable {rows : List PriceObservation} {r : PriceObservation} {t : Instant}

theorem mem_activeRows_append {n : PriceObservation} :
    r ∈ activeRows (rows ++ [n]) ↔ r ∈ activeRows rows ∨ (r = n ∧ r.isDisputed = false) := by
  simp only [mem_activeRows, List.mem_append, List.mem_singleton]
  tauto

theorem mem_disputedRows_append {n : PriceObservation} :
    r ∈ disputedRows (rows ++ [n]) ↔ r ∈ disputedRows rows ∨ (r = n ∧ r.isDisputed = true) := by
  simp only [mem_disputedRows, List.mem_append, List.mem_singleton]
  tauto

theorem activeRows_append_disputed {n : PriceObservation} (hn : n.isDisputed = true) :
    activeRows (rows ++ [n]) = activeRows rows := by
  simp [activeRows, hn]

theorem laneHolds_append_disputed {n : PriceObservation} (hh : LaneHolds rows) (hn : n.isDisputed = true)
    (hempty : n.validUntil = some n.validFrom) :
    LaneHolds (rows ++ [n]) ↔ ∀ a ∈ activeRows rows, a.validFrom < n.validFrom → a.endsBy n.validFrom := by
  constructor
  · intro h a ha
    exact h.clear a (by rw [activeRows_append_disputed hn]; exact ha) n (mem_disputedRows_append.mpr (Or.inr ⟨rfl, hn⟩))
  · intro h
    have hact : activeRows (rows ++ [n]) = activeRows rows := activeRows_append_disputed hn
    refine ⟨by rw [hact]; exact hh.distinct, by rw [hact]; exact hh.chained, by rw [hact]; exact hh.positive,
      fun d hd => ?_, fun a ha d hd => ?_⟩
    · rcases mem_disputedRows_append.mp hd with hd | ⟨rfl, -⟩
      · exact hh.empty d hd
      · exact hempty
    · rw [hact] at ha
      rcases mem_disputedRows_append.mp hd with hd | ⟨rfl, -⟩
      · exact hh.clear a ha d hd
      · exact h a ha

theorem laneHolds_append_open {n : PriceObservation} (hh : LaneHolds rows) (hn : n.isDisputed = false)
    (hopen : n.validUntil = none) :
    LaneHolds (rows ++ [n]) ↔
      (∀ a ∈ activeRows rows, a.endsBy n.validFrom) ∧ ∀ d ∈ disputedRows rows, d.validFrom ≤ n.validFrom := by
  have hnmem : n ∈ activeRows (rows ++ [n]) := mem_activeRows_append.mpr (Or.inr ⟨rfl, hn⟩)
  have hnever : ∀ t, n.endsBy t = false := by
    intro t
    rw [← Bool.not_eq_true, PriceObservation.endsBy_iff, hopen]
    rintro ⟨u, hu, -⟩
    cases hu
  have hact : activeRows (rows ++ [n]) = activeRows rows ++ [n] := by simp [activeRows, hn]
  constructor
  · intro h
    refine ⟨fun a ha => ?_, fun d hd => ?_⟩
    · have hamem : a ∈ activeRows (rows ++ [n]) := mem_activeRows_append.mpr (Or.inl ha)
      rcases lt_trichotomy a.validFrom n.validFrom with hlt | heq | hgt
      · exact h.chained a hamem n hnmem hlt
      · have hnodup := h.distinct
        rw [hact, List.map_append, List.nodup_append] at hnodup
        exact absurd heq (hnodup.2.2 _ (List.mem_map_of_mem ha) _ (by simp))
      · have := h.chained n hnmem a hamem hgt
        rw [hnever] at this
        cases this
    · by_contra hgt
      have := h.clear n hnmem d (mem_disputedRows_append.mpr (Or.inl hd)) (lt_of_not_ge hgt)
      rw [hnever] at this
      cases this
  · rintro ⟨hends, hbarrier⟩
    have hbefore : ∀ a ∈ activeRows rows, a.validFrom < n.validFrom := by
      intro a ha
      obtain ⟨u, hu, hle⟩ := PriceObservation.endsBy_iff.mp (hends a ha)
      exact (hh.positive a ha u hu).trans_le hle
    refine ⟨?_, fun a ha b hb hlt => ?_, fun a ha u hu => ?_, fun d hd => ?_, fun a ha d hd hlt => ?_⟩
    · rw [hact, List.map_append, List.nodup_append]
      refine ⟨hh.distinct, by simp, fun x hx y hy heq => ?_⟩
      obtain ⟨a, ha, rfl⟩ := List.mem_map.mp hx
      rw [List.map_singleton, List.mem_singleton] at hy
      exact absurd (heq.trans hy) (hbefore a ha).ne
    · rcases mem_activeRows_append.mp ha with ha' | ⟨rfl, -⟩
      · rcases mem_activeRows_append.mp hb with hb' | ⟨rfl, -⟩
        · exact hh.chained a ha' b hb' hlt
        · exact hends a ha'
      · rcases mem_activeRows_append.mp hb with hb' | ⟨rfl, -⟩
        · exact absurd hlt (hbefore b hb').not_gt
        · exact absurd hlt (lt_irrefl _)
    · rcases mem_activeRows_append.mp ha with ha | ⟨rfl, -⟩
      · exact hh.positive a ha u hu
      · rw [hopen] at hu
        cases hu
    · rcases mem_disputedRows_append.mp hd with hd | ⟨rfl, hdis⟩
      · exact hh.empty d hd
      · rw [hn] at hdis
        cases hdis
    · rcases mem_disputedRows_append.mp hd with hd' | ⟨rfl, hdis⟩
      · rcases mem_activeRows_append.mp ha with ha' | ⟨rfl, -⟩
        · exact hh.clear a ha' d hd' hlt
        · exact absurd hlt (not_lt_of_ge (hbarrier d hd'))
      · rw [hn] at hdis
        cases hdis

end Appended

/-! ### The branches -/

section Branches
variable {rows : List PriceObservation} {r cur : PriceObservation} {t : Instant}

theorem LaneHolds.before_open (hh : LaneHolds rows) (hcur : cur ∈ activeRows rows) (hopen : cur.validUntil = none) :
    (∀ a ∈ activeRows rows, a.validFrom ≤ cur.validFrom) ∧ ∀ d ∈ disputedRows rows, d.validFrom ≤ cur.validFrom := by
  have hnever : ∀ t, cur.endsBy t ≠ true := by
    intro t h
    obtain ⟨u, hu, -⟩ := PriceObservation.endsBy_iff.mp h
    rw [hopen] at hu
    cases hu
  exact ⟨fun a ha => le_of_not_gt fun hlt => hnever _ (hh.chained cur hcur a ha hlt),
    fun d hd => le_of_not_gt fun hlt => hnever _ (hh.clear cur hcur d hd hlt)⟩

theorem LaneHolds.eq_of_validFrom (hh : LaneHolds rows) {a b : PriceObservation} (ha : a ∈ activeRows rows)
    (hb : b ∈ activeRows rows) (heq : a.validFrom = b.validFrom) : a = b :=
  List.inj_on_of_nodup_map hh.distinct ha hb heq

theorem activeRows_map {g : PriceObservation → PriceObservation} (hg : ∀ r, (g r).isDisputed = r.isDisputed) :
    activeRows (rows.map g) = (activeRows rows).map g := by
  simp only [activeRows, List.filter_map, Function.comp_def, hg]

theorem disputedRows_map {g : PriceObservation → PriceObservation} (hg : ∀ r, (g r).isDisputed = r.isDisputed) :
    disputedRows (rows.map g) = (disputedRows rows).map g := by
  simp only [disputedRows, List.filter_map, Function.comp_def, hg]

theorem LaneHolds.map (hh : LaneHolds rows) {g : PriceObservation → PriceObservation}
    (hd : ∀ r, (g r).isDisputed = r.isDisputed) (hf : ∀ r, (g r).validFrom = r.validFrom)
    (hu : ∀ r, (g r).validUntil = r.validUntil) : LaneHolds (rows.map g) := by
  have hends : ∀ r t, (g r).endsBy t = r.endsBy t := fun r t => by simp only [PriceObservation.endsBy, hu]
  have hact : activeRows (rows.map g) = (activeRows rows).map g := activeRows_map hd
  have hdis : disputedRows (rows.map g) = (disputedRows rows).map g := disputedRows_map hd
  refine ⟨?_, ?_, ?_, ?_, ?_⟩
  · simpa [hact, Function.comp_def, hf] using hh.distinct
  · simpa [hact, hf, hends] using hh.chained
  · simpa [hact, hf, hu] using hh.positive
  · simpa [hdis, hf, hu] using hh.empty
  · simpa [hact, hdis, hf, hends] using hh.clear

def endOpen (cur : PriceObservation) (t : Instant) (r : PriceObservation) : PriceObservation :=
  if r.id = cur.id then r.endAt t else r

@[simp] theorem endOpen_validFrom : (endOpen cur t r).validFrom = r.validFrom := by
  unfold endOpen; split <;> rfl

@[simp] theorem endOpen_isDisputed : (endOpen cur t r).isDisputed = r.isDisputed := by
  unfold endOpen; split <;> rfl

theorem endOpen_self : endOpen cur t cur = cur.endAt t := if_pos rfl

theorem endOpen_of_ne (h : r.id ≠ cur.id) : endOpen cur t r = r := if_neg h

/-- Ending the open row of the lane and opening another one there keeps the invariants exactly when the ended row
    started before. -/
theorem laneHolds_change (hh : LaneHolds rows) (hids : (rows.map (·.id)).Nodup) (hcur : cur ∈ activeRows rows)
    (hopen : cur.validUntil = none) {n : PriceObservation} (hn : n.isDisputed = false) (hnopen : n.validUntil = none) :
    LaneHolds (rows.map (endOpen cur n.validFrom) ++ [n]) ↔ cur.validFrom < n.validFrom := by
  have hact : activeRows (rows.map (endOpen cur n.validFrom)) = (activeRows rows).map (endOpen cur n.validFrom) :=
    activeRows_map fun _ => endOpen_isDisputed
  have hdis : disputedRows (rows.map (endOpen cur n.validFrom)) = (disputedRows rows).map (endOpen cur n.validFrom) :=
    disputedRows_map fun _ => endOpen_isDisputed
  constructor
  · intro h
    refine h.positive (cur.endAt n.validFrom) (mem_activeRows_append.mpr (Or.inl ?_)) _ rfl
    rw [hact, ← endOpen_self]
    exact List.mem_map_of_mem hcur
  · intro hlt
    obtain ⟨hbefore, hbarrier⟩ := hh.before_open hcur hopen
    -- The ended row is the last one, and no other row has its id.
    have hrow : ∀ a ∈ rows, a.id = cur.id → a = cur := fun a ha hid =>
      List.inj_on_of_nodup_map hids ha (mem_activeRows.mp hcur).1 hid
    have hkept : ∀ a ∈ rows, a ≠ cur → endOpen cur n.validFrom a = a := fun a ha hne =>
      endOpen_of_ne fun hid => hne (hrow a ha hid)
    have hcurDis : ∀ d ∈ disputedRows rows, d ≠ cur := by
      rintro d hd rfl
      have := (mem_disputedRows.mp hd).2
      rw [(mem_activeRows.mp hcur).2] at this
      cases this
    have hlane : LaneHolds (rows.map (endOpen cur n.validFrom)) := by
      refine ⟨?_, fun a ha b hb hab => ?_, fun a ha u hu => ?_, fun d hd => ?_, fun a ha d hd had => ?_⟩
      · simpa [hact, Function.comp_def] using hh.distinct
      · rw [hact] at ha hb
        obtain ⟨a, har, rfl⟩ := List.mem_map.mp ha
        obtain ⟨b, hbr, rfl⟩ := List.mem_map.mp hb
        simp only [endOpen_validFrom] at hab ⊢
        have hne : a ≠ cur := by
          rintro rfl
          exact absurd hab (not_lt_of_ge (hbefore b hbr))
        rw [hkept a (mem_activeRows.mp har).1 hne]
        exact hh.chained a har b hbr hab
      · rw [hact] at ha
        obtain ⟨a, har, rfl⟩ := List.mem_map.mp ha
        by_cases hne : a = cur
        · subst hne
          rw [endOpen_self] at hu ⊢
          exact Option.some.inj hu ▸ hlt
        · rw [hkept a (mem_activeRows.mp har).1 hne] at hu ⊢
          exact hh.positive a har u hu
      · rw [hdis] at hd
        obtain ⟨d, hdr, rfl⟩ := List.mem_map.mp hd
        rw [hkept d (mem_disputedRows.mp hdr).1 (hcurDis d hdr)]
        exact hh.empty d hdr
      · rw [hact] at ha
        rw [hdis] at hd
        obtain ⟨a, har, rfl⟩ := List.mem_map.mp ha
        obtain ⟨d, hdr, rfl⟩ := List.mem_map.mp hd
        simp only [endOpen_validFrom] at had ⊢
        have hne : a ≠ cur := by
          rintro rfl
          exact absurd had (not_lt_of_ge (hbarrier d hdr))
        rw [hkept a (mem_activeRows.mp har).1 hne]
        exact hh.clear a har d hdr had
    refine (laneHolds_append_open hlane hn hnopen).mpr ⟨fun a ha => ?_, fun d hd => ?_⟩
    · rw [hact] at ha
      obtain ⟨a, har, rfl⟩ := List.mem_map.mp ha
      by_cases hne : a = cur
      · subst hne
        rw [endOpen_self]
        exact PriceObservation.endsBy_iff.mpr ⟨_, rfl, le_rfl⟩
      · rw [hkept a (mem_activeRows.mp har).1 hne]
        have hlt' : a.validFrom < cur.validFrom :=
          lt_of_le_of_ne (hbefore a har) fun heq => hne (hh.eq_of_validFrom har hcur heq)
        exact PriceObservation.endsBy_mono (hh.chained a har cur hcur hlt') hlt.le
    · rw [hdis] at hd
      obtain ⟨d, hdr, rfl⟩ := List.mem_map.mp hd
      rw [endOpen_validFrom]
      exact (hbarrier d hdr).trans hlt.le

end Branches

section Observation
variable {db db' : Db} {obs : NormalizedObservation} {ctx : ObservationContext} {row r : PriceObservation}

theorem latestOpen_mem {v : Int} {st : Option Int} {sc : PriceScope} {ty : PriceType}
    (h : latestOpen db v st sc ty = some r) :
    r ∈ db.observations ∧ r.validUntil = none ∧ r.isDisputed = false := by
  have hmem := (List.perm_insertionSort opensAfter _).mem_iff.mp (List.mem_of_mem_head? (Option.mem_def.mpr h))
  obtain ⟨hr, hp⟩ := List.mem_filter.mp hmem
  simp only [Bool.and_eq_true, Option.isNone_iff_eq_none, Bool.not_eq_true'] at hp
  exact ⟨hr, hp.1.1.2, hp.1.2⟩

/-- A row opened at `t` over these rows comes after all of them. -/
def ComesLast (rows : List PriceObservation) (t : Instant) : Prop :=
  (∀ a ∈ activeRows rows, a.endsBy t) ∧ ∀ d ∈ disputedRows rows, d.validFrom ≤ t

/-- When a call keeps the invariants of the lane it writes to. A row put in quarantine hits no active interval.
    Otherwise the open row found is seen again, or it is one of the lane and started before the call, or else
    the new row comes last in the lane. -/
def KeepsLane (db : Db) (obs : NormalizedObservation) (ctx : ObservationContext) : Prop :=
  let rows := db.live (obs.lane ctx)
  if ctx.quarantined = true then ∀ a ∈ activeRows rows, a.validFrom < ctx.asOf → a.endsBy ctx.asOf
  else match latestOpen db ctx.productVariantId ctx.storeId obs.priceScope obs.priceType with
    | some r => isUnchanged r obs = true ∨ if r ∈ rows then r.validFrom < ctx.asOf else ComesLast rows ctx.asOf
    | none => ComesLast rows ctx.asOf

theorem live_insert_buildRow {d : Bool} {u : Option Instant} {st : VerificationStatus} {id : Nat}
    {h : (obs.fact ctx).fits = true} : (db.insert (buildRow obs ctx u st id h) d).live (obs.lane ctx) =
      db.live (obs.lane ctx) ++ [buildRow obs ctx u st id h] :=
  Db.live_insert rfl rfl

theorem map_endOpen_of_not_mem {lane : Lane} {cur : PriceObservation} {t : Instant} (hk : db.Keyed)
    (hcur : cur ∈ db.observations) (hnot : cur ∉ db.live lane) : (db.live lane).map (endOpen cur t) = db.live lane := by
  refine (List.map_congr_left fun a ha => endOpen_of_ne fun hid => hnot ?_).trans (List.map_id _)
  exact List.inj_on_of_nodup_map hk.ids (List.mem_filter.mp ha).1 hcur hid ▸ ha

/-- The tables after a call, or those before it where it fails. -/
def Db.observe (db : Db) (obs : NormalizedObservation) (ctx : ObservationContext) : Db :=
  match recordObservation db obs ctx with
  | .ok (db', _) => db'
  | .error _ => db

/-- What a call that writes does: it files the price for review, sees the open row again, ends it, or is the first. -/
inductive ObserveStep (db : Db) (obs : NormalizedObservation) (ctx : ObservationContext) : Db → Prop
  | quarantined (h : (obs.fact ctx).fits = true) (hq : ctx.quarantined = true) :
      ObserveStep db obs ctx { db.insert (buildRow obs ctx (some ctx.asOf) .disputed db.nextObservationId h) false with
        anomalies := db.anomalies ++ [quarantineAnomaly obs ctx db.nextObservationId] }
  | again (r : PriceObservation) (hq : ctx.quarantined = false) (hun : isUnchanged r obs = true)
      (hcur : latestOpen db ctx.productVariantId ctx.storeId obs.priceScope obs.priceType = some r) :
      ObserveStep db obs ctx (db.update (·.id = r.id) (·.revalidate obs.observedAt ctx.asOf))
  | changed (r : PriceObservation) (h : (obs.fact ctx).fits = true) (hq : ctx.quarantined = false)
      (hun : isUnchanged r obs = false)
      (hcur : latestOpen db ctx.productVariantId ctx.storeId obs.priceScope obs.priceType = some r) :
      ObserveStep db obs ctx ((db.update (·.id = r.id) (·.endAt ctx.asOf)).insert
        (buildRow obs ctx none .unverified db.nextObservationId h) false)
  | first (h : (obs.fact ctx).fits = true) (hq : ctx.quarantined = false)
      (hcur : latestOpen db ctx.productVariantId ctx.storeId obs.priceScope obs.priceType = none) :
      ObserveStep db obs ctx (db.insert (buildRow obs ctx none .unverified db.nextObservationId h) false)

theorem recordObservation_step (h : recordObservation db obs ctx = .ok (db', row)) : ObserveStep db obs ctx db' := by
  unfold recordObservation at h
  cases hq : ctx.quarantined with
  | true =>
    simp only [hq, if_true] at h
    split at h
    · obtain ⟨rfl, -⟩ := Prod.mk.inj (Except.ok.inj h)
      exact .quarantined _ hq
    · cases h
  | false =>
    simp only [hq, Bool.false_eq_true, if_false] at h
    cases hcur : latestOpen db ctx.productVariantId ctx.storeId obs.priceScope obs.priceType with
    | none =>
      simp only [hcur, Option.filter_none] at h
      split at h
      · obtain ⟨rfl, -⟩ := Prod.mk.inj (Except.ok.inj h)
        exact .first _ hq hcur
      · cases h
    | some r =>
      cases hun : isUnchanged r obs with
      | true =>
        simp only [hcur, Option.filter_some, hun, if_true] at h
        obtain ⟨rfl, -⟩ := Prod.mk.inj (Except.ok.inj h)
        exact .again r hq hun hcur
      | false =>
        simp only [hcur, Option.filter_some, hun, Bool.false_eq_true, if_false] at h
        split at h
        · obtain ⟨rfl, -⟩ := Prod.mk.inj (Except.ok.inj h)
          exact .changed r _ hq hun hcur
        · cases h

theorem recordObservation_error {e : RecordError} (h : recordObservation db obs ctx = .error e) :
    (obs.fact ctx).fits = false := by
  by_contra hfits
  have hfits' : (obs.fact ctx).fits = true := by simpa using hfits
  unfold recordObservation at h
  simp only [hfits', dite_true] at h
  split at h
  · cases h
  · split at h <;> cases h

theorem observe_cases (db : Db) (obs : NormalizedObservation) (ctx : ObservationContext) :
    (db.observe obs ctx = db ∧ (obs.fact ctx).fits = false) ∨ ObserveStep db obs ctx (db.observe obs ctx) := by
  unfold Db.observe
  cases h : recordObservation db obs ctx with
  | error e => exact Or.inl ⟨rfl, recordObservation_error h⟩
  | ok res => exact Or.inr (recordObservation_step h)

theorem recordObservation_of_fits (db : Db) (h : (obs.fact ctx).fits = true) :
    ∃ row, recordObservation db obs ctx = .ok (db.observe obs ctx, row) := by
  unfold Db.observe recordObservation
  simp only [h, dite_true]
  split
  · exact ⟨_, rfl⟩
  · split <;> exact ⟨_, rfl⟩

/-- A price of a product in production, read at `t`. -/
def milkRead (amount : ℚ) (t : Instant) : NormalizedObservation where
  amount := amount
  currency := "EUR"
  priceScope := .national
  priceType := .regular
  observedAt := t

def milkContext (t : Instant) (quarantined : Bool) : ObservationContext where
  productVariantId := 7
  retailerId := 1
  asOf := t
  quarantined := quarantined

end Observation

end CestaPlan.History
