import CestaPlan.History.LaneLedger
import Mathlib.Data.List.MinMax

/-! The planner that rebuilds damaged lanes (`tools/plan_history_lane_remediation.py`), one lane at a time.

    It never writes: it keeps one row of each fact, marks the rows that share an instant as disputed, gives
    every other row the interval up to the next instant, and checks the outcome with the lane report. The
    policy is that of recording, carried out on the whole lane at once. -/

namespace CestaPlan.History
open Anchors Ledger

/-! ### The canonical row of a fact -/

/-- `_prov_completeness`: the provenance fields of the best documented occurrence. -/
def provCompleteness (occs : List PriceObservationOccurrence) : Nat :=
  (occs.map fun o =>
    [o.providerCode.isSome, o.sourceId.isSome, o.crawlRunId.isSome, o.rawCaptureId.isSome].count true).max?.getD 0

def verifiableCapture (r : PriceObservation) (occs : List PriceObservationOccurrence) : Bool :=
  r.crawlRunId.isSome || r.rawCaptureId.isSome || occs.any fun o => o.crawlRunId.isSome || o.rawCaptureId.isSome

def statusRank : VerificationStatus → Int
  | .humanVerified => 3
  | .machineVerified => 2
  | .unverified => 1
  | .disputed => 0

/-- `int` of a decimal: towards zero. -/
def truncate (x : ℚ) : Int := if 0 ≤ x then ⌊x⌋ else ⌈x⌉

/-- `_canonical_key`: the smallest comes first, compared from left to right. -/
def canonicalKey (occByObs : Nat → List PriceObservationOccurrence) (r : PriceObservation) : List Int :=
  let occs := occByObs r.id
  let verif := statusRank r.verificationStatus * 1000 + truncate (r.confidenceScore * 100)
  [-occs.length, -provCompleteness occs, -verif, -(verifiableCapture r occs).toNat, r.importedAt, r.id]

def PriceObservation.fingerprint (r : PriceObservation) : PriceFact := priceFactFingerprint r.toPriceFact

section Lane
variable (rows : List PriceObservation) (occByObs : Nat → List PriceObservationOccurrence)

/-- The row kept of the fact with this fingerprint, the first one among equals. -/
def canonicalOf (fingerprint : PriceFact) : Option PriceObservation :=
  (rows.filter (·.fingerprint = fingerprint)).argmin (canonicalKey occByObs)

def isCanonical (r : PriceObservation) : Bool := (canonicalOf rows occByObs r.fingerprint).any (·.id = r.id)

def canonicals : List PriceObservation := rows.filter (isCanonical rows occByObs)

def conflictAt (t : Instant) : Bool := 1 < ((canonicals rows occByObs).filter (·.observedAt = t)).length

def disputedReps : List PriceObservation := (canonicals rows occByObs).filter fun r => conflictAt rows occByObs r.observedAt

def activeReps : List PriceObservation := (canonicals rows occByObs).filter fun r => !conflictAt rows occByObs r.observedAt

def laneAnchors : List Instant :=
  (activeReps rows occByObs).map (·.observedAt) ++ (disputedReps rows occByObs).map (·.observedAt)

def wantUntil (r : PriceObservation) : Option Instant := nextAnchor (laneAnchors rows occByObs) r.observedAt

/-! ### What is proposed for a row -/

inductive LaneAction where
  | keep | reconstructInterval | markDisputedSameTimestampConflict | logicalRollbackExactDuplicate
deriving DecidableEq, Repr

inductive RowClassification where
  | exactDuplicateNoncanonical | sameTimestampSemanticConflictRepresentative | sequentialUnique
  | sequentialUniqueOrCanonical
deriving DecidableEq, Repr

def laneAction (r : PriceObservation) : LaneAction :=
  if !isCanonical rows occByObs r then .logicalRollbackExactDuplicate
  else if conflictAt rows occByObs r.observedAt then .markDisputedSameTimestampConflict
  else if r.validFrom ≠ r.observedAt ∨ r.validUntil ≠ wantUntil rows occByObs r then .reconstructInterval
  else .keep

def rowClassification (r : PriceObservation) : RowClassification :=
  match laneAction rows occByObs r with
  | .logicalRollbackExactDuplicate => .exactDuplicateNoncanonical
  | .markDisputedSameTimestampConflict => .sameTimestampSemanticConflictRepresentative
  | .reconstructInterval => .sequentialUnique
  | .keep => .sequentialUniqueOrCanonical

/-- `rolled_back_at` of a row: as it stands, or the marker for the instant of a later remediation run. -/
inductive RollbackMark where
  | stamped (t : Instant)
  | remediationRun
deriving DecidableEq

structure TemporalState where
  validFrom : Instant
  validUntil : Option Instant
  verificationStatus : VerificationStatus
  rolledBackAt : Option RollbackMark
deriving DecidableEq

/-- `_original_temporal`, the part that the plan may change. -/
def PriceObservation.originalTemporal (r : PriceObservation) : TemporalState where
  validFrom := r.validFrom
  validUntil := r.validUntil
  verificationStatus := r.verificationStatus
  rolledBackAt := r.rolledBackAt.map .stamped

def expectedState (r : PriceObservation) : TemporalState :=
  match laneAction rows occByObs r with
  | .logicalRollbackExactDuplicate => { r.originalTemporal with rolledBackAt := some .remediationRun }
  | .markDisputedSameTimestampConflict =>
    { validFrom := r.observedAt, validUntil := some r.observedAt, verificationStatus := .disputed, rolledBackAt := none }
  | .reconstructInterval | .keep =>
    { validFrom := r.observedAt
      validUntil := wantUntil rows occByObs r
      verificationStatus := r.verificationStatus
      rolledBackAt := none }

def simFrom (r : PriceObservation) : PriceObservation :=
  let exp := expectedState rows occByObs r
  { r with validFrom := exp.validFrom, validUntil := exp.validUntil, verificationStatus := exp.verificationStatus }

/-- The rows that the report of `_simulate` is about. -/
def simulatedRows : List PriceObservation :=
  (rows.filter fun r => (expectedState rows occByObs r).rolledBackAt.isNone).map (simFrom rows occByObs)

def simReportOk (r : LaneReport) : Bool :=
  r.lanesMultipleOpen == 0 && r.lanesOverlappingIntervals == 0 && r.lanesRepeatedTimestamp == 0 &&
    r.rowsNonPositiveInterval == 0 && r.activeIntervalsCrossingDisputed == 0 && r.disputedRowsNonEmpty == 0

/-! ### The plan -/

/-- Why a lane is left out. The timestamps of a row are never null in the table. -/
inductive ExclusionReason where
  | uncoveredFk (ref : String)
  | humanReviewedConflict
  | postSimInvariantFail

def ExclusionReason.text : ExclusionReason → String
  | .uncoveredFk ref => "uncovered_fk:" ++ ref
  | .humanReviewedConflict => "human_reviewed_conflict"
  | .postSimInvariantFail => "post_sim_invariant_fail"

/-- What the manifest says of a row. In an excluded lane there is no classification and no action, and the
    expected state is the original one. -/
structure PlannedRow where
  id : Nat
  factFingerprint : PriceFact
  classification : Option RowClassification
  diagnosticClassification : Option RowClassification
  action : Option LaneAction
  originalTemporalState : TemporalState
  expectedStateTemplate : TemporalState
  occurrences : List PriceObservationOccurrence
deriving DecidableEq

structure LanePlan where
  excluded : Bool
  applyAllowed : Bool
  exclusionReasons : List String
  exactDuplicateGroups : Nat
  exactDuplicateRows : Nat
  semanticConflictGroups : Nat
  semanticConflictRepresentatives : Nat
  intervalsToReconstruct : Nat
  occurrencesInLane : Nat
  rows : List PlannedRow
  /-- The rows that a `create_price_anomaly` is proposed for. -/
  proposedSideEffects : List Nat
  projectedInvariants : Option LaneReport
  plannedChanges : Nat

def occurrencesInLane : Nat := (rows.map fun r => (occByObs r.id).length).sum

def excludedLane (reasons : List ExclusionReason) (diagnostic : PriceObservation → Option RowClassification) :
    LanePlan where
  excluded := true
  applyAllowed := false
  exclusionReasons := (reasons.map (·.text)).eraseDups.insertionSort (· ≤ ·)
  exactDuplicateGroups := 0
  exactDuplicateRows := 0
  semanticConflictGroups := 0
  semanticConflictRepresentatives := 0
  intervalsToReconstruct := 0
  occurrencesInLane := occurrencesInLane rows occByObs
  rows := rows.map fun r =>
    { id := r.id
      factFingerprint := r.fingerprint
      classification := none
      diagnosticClassification := diagnostic r
      action := none
      originalTemporalState := r.originalTemporal
      expectedStateTemplate := r.originalTemporal
      occurrences := occByObs r.id }
  proposedSideEffects := []
  projectedInvariants := none
  plannedChanges := 0

def countActions (action : LaneAction) : Nat := rows.countP fun r => laneAction rows occByObs r = action

def plannedLane (report : LaneReport) : LanePlan where
  excluded := false
  applyAllowed := true
  exclusionReasons := []
  exactDuplicateGroups := ((rows.map (·.fingerprint)).eraseDups.filter fun f =>
    1 < (rows.filter (·.fingerprint = f)).length).length
  exactDuplicateRows := countActions rows occByObs .logicalRollbackExactDuplicate
  semanticConflictGroups := ((disputedReps rows occByObs).map (·.observedAt)).eraseDups.length
  semanticConflictRepresentatives := (disputedReps rows occByObs).length
  intervalsToReconstruct := countActions rows occByObs .reconstructInterval
  occurrencesInLane := occurrencesInLane rows occByObs
  rows := rows.map fun r =>
    { id := r.id
      factFingerprint := r.fingerprint
      classification := some (rowClassification rows occByObs r)
      diagnosticClassification := some (rowClassification rows occByObs r)
      action := some (laneAction rows occByObs r)
      originalTemporalState := r.originalTemporal
      expectedStateTemplate := expectedState rows occByObs r
      occurrences := occByObs r.id }
  proposedSideEffects := (disputedReps rows occByObs).map (·.id)
  projectedInvariants := some report
  plannedChanges := rows.countP fun r => laneAction rows occByObs r ≠ .keep

def humanReviewedConflict : Bool := rows.any fun r =>
  r.verificationStatus = .humanVerified && laneAction rows occByObs r = .markDisputedSameTimestampConflict

/-- `_plan_lane`, for rows of one lane that are not rolled back. -/
def planLane (unknownFk : Nat → List String) : LanePlan :=
  let early := rows.flatMap fun r => (unknownFk r.id).map ExclusionReason.uncoveredFk
  if !early.isEmpty then excludedLane rows occByObs early fun _ => none
  else
    let report := laneInvariantReport (simulatedRows rows occByObs)
    let reasons := (if humanReviewedConflict rows occByObs then [ExclusionReason.humanReviewedConflict] else []) ++
      if simReportOk report then [] else [.postSimInvariantFail]
    if !reasons.isEmpty then excludedLane rows occByObs reasons fun r => some (rowClassification rows occByObs r)
    else plannedLane rows occByObs report

end Lane

/-! ### One row of each fact -/

section Canonical
variable {rows : List PriceObservation} {occByObs : Nat → List PriceObservationOccurrence} {r : PriceObservation}

theorem mem_canonicals : r ∈ canonicals rows occByObs ↔ r ∈ rows ∧ isCanonical rows occByObs r = true := by
  simp [canonicals]

theorem exists_canonical (occByObs : Nat → List PriceObservationOccurrence) (hr : r ∈ rows) :
    ∃ c ∈ canonicals rows occByObs, c.fingerprint = r.fingerprint := by
  have hmem : r ∈ rows.filter (·.fingerprint = r.fingerprint) := by simpa using hr
  cases hc : canonicalOf rows occByObs r.fingerprint with
  | none =>
    rw [List.argmin_eq_none.mp hc] at hmem
    cases hmem
  | some c =>
    obtain ⟨hcr, hfp⟩ := List.mem_filter.mp (List.argmin_mem (Option.mem_def.mpr hc))
    have hfp : c.fingerprint = r.fingerprint := by simpa using hfp
    exact ⟨c, mem_canonicals.mpr ⟨hcr, by simp [isCanonical, hfp, hc]⟩, hfp⟩

theorem canonicals_nodup (hids : (rows.map (·.id)).Nodup) : ((canonicals rows occByObs).map (·.fingerprint)).Nodup := by
  refine List.Nodup.map_on (fun a ha b hb hfp => ?_) ((List.Nodup.of_map _ hids).sublist List.filter_sublist)
  obtain ⟨har, hac⟩ := mem_canonicals.mp ha
  obtain ⟨hbr, hbc⟩ := mem_canonicals.mp hb
  rw [isCanonical, hfp] at hac
  obtain ⟨c, hc, hca⟩ := (Option.any_eq_true _ _).mp hac
  obtain ⟨c', hc', hcb⟩ := (Option.any_eq_true _ _).mp hbc
  have hcc : c = c' := Option.some.inj (hc.symm.trans hc')
  subst hcc
  have hid : a.id = b.id := (of_decide_eq_true hca).symm.trans (of_decide_eq_true hcb)
  exact List.inj_on_of_nodup_map hids har hbr hid

end Canonical

/-! ### The rows of the plan -/

section Planned
variable {rows : List PriceObservation} {occByObs : Nat → List PriceObservationOccurrence} {r : PriceObservation}
  {t : Instant}

@[simp] theorem simFrom_recorded : (simFrom rows occByObs r).recorded = r.recorded := rfl

theorem laneAction_of_noncanonical (h : isCanonical rows occByObs r = false) :
    laneAction rows occByObs r = .logicalRollbackExactDuplicate := by
  simp [laneAction, h]

theorem laneAction_of_conflict (h : isCanonical rows occByObs r = true)
    (hc : conflictAt rows occByObs r.observedAt = true) :
    laneAction rows occByObs r = .markDisputedSameTimestampConflict := by
  simp [laneAction, h, hc]

theorem laneAction_of_active (h : isCanonical rows occByObs r = true)
    (hc : conflictAt rows occByObs r.observedAt = false) :
    laneAction rows occByObs r = .reconstructInterval ∨ laneAction rows occByObs r = .keep := by
  simp only [laneAction, h, hc, Bool.not_true, Bool.false_eq_true, if_false]
  split
  · exact Or.inl rfl
  · exact Or.inr rfl

theorem expectedState_rolledBackAt :
    (expectedState rows occByObs r).rolledBackAt.isNone = isCanonical rows occByObs r := by
  unfold expectedState
  cases h : isCanonical rows occByObs r with
  | false => simp [laneAction_of_noncanonical h]
  | true =>
    cases hc : conflictAt rows occByObs r.observedAt with
    | true => simp [laneAction_of_conflict h hc]
    | false => rcases laneAction_of_active h hc with ha | ha <;> simp [ha]

theorem simulatedRows_eq : simulatedRows rows occByObs = (canonicals rows occByObs).map (simFrom rows occByObs) := by
  simp only [simulatedRows, expectedState_rolledBackAt, canonicals]

theorem ledger_simulated : ledger (simulatedRows rows occByObs) = (canonicals rows occByObs).map (·.recorded) := by
  rw [simulatedRows_eq, ledger, List.map_map]
  rfl

theorem conflictAt_iff : conflictAt rows occByObs t = true ↔
    factScheme.Disputed (ledger (simulatedRows rows occByObs)) t := by
  rw [ledger_simulated, Scheme.Disputed, Scheme.standing, List.filter_map, List.length_map, conflictAt, decide_eq_true_eq]
  rfl

theorem mem_laneAnchors : t ∈ laneAnchors rows occByObs ↔ t ∈ factScheme.times (ledger (simulatedRows rows occByObs)) := by
  rw [ledger_simulated, Scheme.times, List.map_map, laneAnchors, ← List.map_append]
  refine ((List.perm_append_comm.trans ?_).map _).mem_iff
  exact List.filter_append_perm (fun r => conflictAt rows occByObs r.observedAt) (canonicals rows occByObs)

theorem simulated_spans (hact : ∀ r ∈ rows, r.isDisputed = false) : ∀ s ∈ simulatedRows rows occByObs,
    s.span = factScheme.span (ledger (simulatedRows rows occByObs)) s.recorded := by
  intro s hs
  rw [simulatedRows_eq] at hs
  obtain ⟨r, hr, rfl⟩ := List.mem_map.mp hs
  obtain ⟨hmem, hcan⟩ := mem_canonicals.mp hr
  rw [simFrom_recorded]
  cases hc : conflictAt rows occByObs r.observedAt with
  | true =>
    rw [Scheme.span_of_disputed (conflictAt_iff.mp hc)]
    simp only [simFrom, expectedState, laneAction_of_conflict hcan hc]
    rfl
  | false =>
    have hd : ¬factScheme.Disputed (ledger (simulatedRows rows occByObs)) (factScheme.time r.recorded) := fun hd =>
      Bool.false_ne_true (hc.symm.trans (conflictAt_iff.mpr hd))
    have hnext : wantUntil rows occByObs r =
        nextAnchor (factScheme.times (ledger (simulatedRows rows occByObs))) r.observedAt :=
      nextAnchor_congr fun _ => mem_laneAnchors
    have hspan : (simFrom rows occByObs r).span = ⟨r.observedAt, wantUntil rows occByObs r, r.isDisputed⟩ := by
      rcases laneAction_of_active hcan hc with ha | ha <;> simp only [simFrom, expectedState, ha] <;> rfl
    rw [Scheme.span_of_not_disputed hd, hspan, hnext, hact r hmem]
    rfl

theorem simReportOk_iff {l : List PriceObservation} :
    simReportOk (laneInvariantReport l) = true ↔ laneInvariantsHold l = true := by
  simp only [simReportOk, laneInvariantsHold, Bool.and_eq_true]
  tauto

theorem simulated_ok {lane : Lane} (occByObs : Nat → List PriceObservationOccurrence)
    (hlane : ∀ r ∈ rows, r.lane = lane) (hact : ∀ r ∈ rows, r.isDisputed = false) :
    simReportOk (laneInvariantReport (simulatedRows rows occByObs)) = true := by
  have hsim : ∀ s ∈ simulatedRows rows occByObs, s.lane = lane := by
    intro s hs
    obtain ⟨r, hr, rfl⟩ := List.mem_map.mp hs
    exact hlane r (List.mem_filter.mp hr).1
  rw [simReportOk_iff, laneInvariantsHold_of_lane hsim]
  exact laneHolds_of_spans (simulated_spans hact)

end Planned

/-! ### The plan and the recording of the same facts -/

/-- What is compared of a row that stays. -/
abbrev LaneView := PriceFact × Instant × Option Instant × Bool

def PriceObservation.view (r : PriceObservation) : LaneView :=
  (r.fingerprint, r.validFrom, r.validUntil, r.isDisputed)

def LanePlan.projected (p : LanePlan) : List LaneView :=
  (p.rows.filter (·.expectedStateTemplate.rolledBackAt.isNone)).map fun r =>
    (r.factFingerprint, r.expectedStateTemplate.validFrom, r.expectedStateTemplate.validUntil,
      r.expectedStateTemplate.verificationStatus == .disputed)

/-- A key and a span as a view. -/
def viewed (x : (ℚ × PriceFact) × Span Instant) : LaneView := (x.1.2, x.2.since, x.2.till, x.2.disputed)

theorem view_of_spans {l : List PriceObservation}
    (h : ∀ r ∈ l, r.span = factScheme.span (ledger l) r.recorded) :
    l.map (·.view) = ((ledger l).map fun f => (factScheme.key f, factScheme.span (ledger l) f)).map viewed := by
  rw [List.map_map, ledger, List.map_map]
  refine List.map_congr_left fun r hr => ?_
  show _ = viewed (r.toPriceFact.key, factScheme.span (ledger l) r.recorded)
  rw [← h r hr]
  rfl

section Agreement
variable {rows : List PriceObservation} {occByObs : Nat → List PriceObservationOccurrence}
  {unknownFk : Nat → List String} {lane : Lane} {db : Db} {calls : List RecordCall}

/-- The planner goes through with a lane of active rows whose references it knows, unless a conflict was
    reviewed by a person. -/
theorem planLane_eq (hfk : ∀ r ∈ rows, unknownFk r.id = []) (hlane : ∀ r ∈ rows, r.lane = lane)
    (hact : ∀ r ∈ rows, r.isDisputed = false)
    (hhuman : ∀ r ∈ disputedReps rows occByObs, r.verificationStatus ≠ .humanVerified) :
    planLane rows occByObs unknownFk =
      plannedLane rows occByObs (laneInvariantReport (simulatedRows rows occByObs)) := by
  have hearly : rows.flatMap (fun r => (unknownFk r.id).map ExclusionReason.uncoveredFk) = [] :=
    List.flatMap_eq_nil_iff.mpr fun r hr => by rw [hfk r hr, List.map_nil]
  have hreviewed : humanReviewedConflict rows occByObs = false := by
    refine List.any_eq_false.mpr fun r hr hboth => ?_
    obtain ⟨hv, ha⟩ := Bool.and_eq_true_iff.mp hboth
    refine hhuman r ?_ (of_decide_eq_true hv)
    have ha := of_decide_eq_true ha
    cases hcan : isCanonical rows occByObs r with
    | false =>
      rw [laneAction_of_noncanonical hcan] at ha
      cases ha
    | true =>
      refine List.mem_filter.mpr ⟨mem_canonicals.mpr ⟨hr, hcan⟩, ?_⟩
      by_contra hc
      rcases laneAction_of_active hcan (Bool.not_eq_true _ ▸ hc) with h | h <;> rw [h] at ha <;> cases ha
  have hok := simulated_ok occByObs hlane hact
  simp [planLane, hearly, hreviewed, hok]

theorem plannedLane_projected {report : LaneReport} :
    (plannedLane rows occByObs report).projected = (simulatedRows rows occByObs).map (·.view) := by
  simp only [LanePlan.projected, plannedLane, simulatedRows, List.filter_map, List.map_map]
  rfl

/-- The plan for a damaged lane keeps what recording its distinct facts from scratch would leave, in whatever
    order they come and however often. -/
theorem planLane_eq_recordAll (hids : (rows.map (·.id)).Nodup) (hfk : ∀ r ∈ rows, unknownFk r.id = [])
    (hlane : ∀ r ∈ rows, r.lane = lane) (hact : ∀ r ∈ rows, r.isDisputed = false)
    (hhuman : ∀ r ∈ disputedReps rows occByObs, r.verificationStatus ≠ .humanVerified)
    (hempty : db.live lane = []) (hcalls : ∀ call ∈ calls, call.Fresh lane)
    (hfrom : ∀ call ∈ calls, ∃ r ∈ rows, call.candidate.fact = r.toPriceFact)
    (hall : ∀ r ∈ rows, ∃ call ∈ calls, priceFactFingerprint call.candidate.fact = r.fingerprint) :
    (planLane rows occByObs unknownFk).excluded = false ∧
      ((planLane rows occByObs unknownFk).projected.map (·.1)).Nodup ∧
      (planLane rows occByObs unknownFk).projected.Perm (((db.recordAll calls).live lane).map (·.view)) := by
  rw [planLane_eq hfk hlane hact hhuman, plannedLane_projected]
  obtain ⟨hrep, hledger⟩ := represents_of_empty hempty hcalls
  have hsimFp : (simulatedRows rows occByObs).map (·.fingerprint) = (canonicals rows occByObs).map (·.fingerprint) := by
    rw [simulatedRows_eq, List.map_map]
    rfl
  have hfp : ((simulatedRows rows occByObs).map (·.fingerprint)).Nodup := hsimFp ▸ canonicals_nodup hids
  refine ⟨rfl, ?_, ?_⟩
  · rw [List.map_map]
    exact hfp
  rw [view_of_spans (simulated_spans hact), view_of_spans hrep.spans, hledger]
  refine (Scheme.shown_perm (Scheme.offers_perm ?_ (fun f hf => ?_) fun k => ?_)).map _
  · refine List.Nodup.of_map Prod.snd ?_
    rw [ledger, List.map_map, List.map_map]
    exact hfp
  · obtain ⟨call, hcall, hf⟩ := mem_offeredFacts.mp hf
    obtain ⟨r, -, hr⟩ := hfrom call hcall
    rw [hr] at hf
    show f.1.store.key = f.1.key
    rw [← hf, r.columns.kept]
  · rw [ledger_simulated, List.map_map, List.mem_map, List.mem_map]
    constructor
    · rintro ⟨c, hc, rfl⟩
      obtain ⟨call, hcall, hfp⟩ := hall c (mem_canonicals.mp hc).1
      obtain ⟨r, -, hr⟩ := hfrom call hcall
      refine ⟨r.recorded, mem_offeredFacts.mpr ⟨call, hcall, hr⟩, ?_⟩
      exact r.columns.key_of_fingerprint c.columns (hr ▸ hfp)
    · rintro ⟨f, hf, rfl⟩
      obtain ⟨call, hcall, hf⟩ := mem_offeredFacts.mp hf
      obtain ⟨r, hr, hfact⟩ := hfrom call hcall
      obtain ⟨c, hc, hfp⟩ := exists_canonical occByObs hr
      refine ⟨c, hc, (c.columns.key_of_fingerprint r.columns hfp).trans ?_⟩
      rw [← hfact, hf]
      rfl

/-- Four rows of one product, each recorded as if it were alone: all of them are open, two repeat one fact and
    two are in conflict. -/
def fourOpenRows : List PriceObservation :=
  [milk 2 10 1, milk 3 20 1, milk 4 20 2, milk 2 10 2].zipIdx.flatMap fun (call, i) =>
    ((({} : Db).record call).live milkLane).map fun r => { r with id := i }

theorem planLane_eq_recordAll_milk :
    (planLane fourOpenRows (fun _ => []) fun _ => []).excluded = false ∧
      ((planLane fourOpenRows (fun _ => []) fun _ => []).projected.map (·.1)).Nodup ∧
      (planLane fourOpenRows (fun _ => []) fun _ => []).projected.Perm
        (((({} : Db).recordAll [milk 4 20 1, milk 2 10 1, milk 3 20 1]).live milkLane).map (·.view)) :=
  planLane_eq_recordAll (by decide +kernel) (by simp) (by decide +kernel) (by decide +kernel) (by decide +kernel) rfl
    (by simp [milk_fresh]) (by decide +kernel) (by decide +kernel)

end Agreement

end CestaPlan.History
