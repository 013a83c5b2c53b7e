import CestaPlan.History.Remediation
import CestaPlan.Library.Grouping
import CestaPlan.Library.Least

/-! The plan of a lane does not depend on the order in which its rows, their occurrences and the references to them come. -/

namespace CestaPlan.History

theorem provCompleteness_perm {occs occs' : List PriceObservationOccurrence} (h : occs.Perm occs') :
    provCompleteness occs = provCompleteness occs' := by
  have hmax {l l' : List ℕ} (h : l.Perm l') : l.max? = l'.max? := by
    cases hm : l.max? with
    | none =>
      rw [List.max?_eq_none_iff.mp hm] at h
      rw [← h.nil_eq]
      rfl
    | some m =>
      obtain ⟨hmem, hle⟩ := List.max?_eq_some_iff.mp hm
      exact (List.max?_eq_some_iff.mpr ⟨h.mem_iff.mp hmem, fun b hb => hle b (h.mem_iff.mpr hb)⟩).symm
  rw [provCompleteness, provCompleteness, hmax (h.map _)]

theorem canonicalKey_perm {occByObs occByObs' : Nat → List PriceObservationOccurrence}
    (hocc : ∀ id, (occByObs id).Perm (occByObs' id)) : canonicalKey occByObs = canonicalKey occByObs' := by
  funext r
  simp only [canonicalKey, verifiableCapture, (hocc r.id).length_eq, provCompleteness_perm (hocc r.id), (hocc r.id).any_eq]

/-- What the planner reads of a lane, in two orders. -/
structure LaneReordered (rows rows' : List PriceObservation) (occByObs occByObs' : Nat → List PriceObservationOccurrence)
    (unknownFk unknownFk' : Nat → List String) : Prop where
  perm : rows.Perm rows'
  ids : (rows.map (·.id)).Nodup
  lane : ∃ lane, ∀ r ∈ rows, r.lane = lane
  occurrences : ∀ id, (occByObs id).Perm (occByObs' id)
  references : ∀ id, (unknownFk id).Perm (unknownFk' id)

namespace LaneReordered
variable {rows rows' : List PriceObservation} {occByObs occByObs' : Nat → List PriceObservationOccurrence}
  {unknownFk unknownFk' : Nat → List String} (h : LaneReordered rows rows' occByObs occByObs' unknownFk unknownFk')
include h

theorem isCanonical (r : PriceObservation) : isCanonical rows occByObs r = isCanonical rows' occByObs' r := by
  have hargmin : canonicalOf rows occByObs r.fingerprint = canonicalOf rows' occByObs' r.fingerprint := by
    rw [canonicalOf, canonicalOf, ← canonicalKey_perm h.occurrences]
    refine Least.argmin_perm (fun a ha b hb heq => ?_) (h.perm.filter _)
    simp only [canonicalKey, List.cons.injEq, Nat.cast_inj] at heq
    exact List.inj_on_of_nodup_map h.ids (List.mem_of_mem_filter ha) (List.mem_of_mem_filter hb) heq.2.2.2.2.2.1
  rw [History.isCanonical, hargmin, History.isCanonical]

theorem canonicals : (canonicals rows occByObs).Perm (canonicals rows' occByObs') := by
  rw [History.canonicals, History.canonicals, funext h.isCanonical]
  exact h.perm.filter _

theorem conflictAt (t : Instant) : conflictAt rows occByObs t = conflictAt rows' occByObs' t := by
  rw [History.conflictAt, History.conflictAt, (h.canonicals.filter _).length_eq]

theorem disputedReps : (disputedReps rows occByObs).Perm (disputedReps rows' occByObs') := by
  rw [History.disputedReps, History.disputedReps, funext h.conflictAt]
  exact h.canonicals.filter _

theorem activeReps : (activeReps rows occByObs).Perm (activeReps rows' occByObs') := by
  rw [History.activeReps, History.activeReps, funext h.conflictAt]
  exact h.canonicals.filter _

theorem wantUntil (r : PriceObservation) : wantUntil rows occByObs r = wantUntil rows' occByObs' r :=
  Anchors.nextAnchor_congr fun _ => ((h.activeReps.map _).append (h.disputedReps.map _)).mem_iff

theorem laneAction (r : PriceObservation) : laneAction rows occByObs r = laneAction rows' occByObs' r := by
  rw [History.laneAction, History.laneAction, h.isCanonical, h.conflictAt, h.wantUntil]

theorem rowClassification (r : PriceObservation) : rowClassification rows occByObs r = rowClassification rows' occByObs' r := by
  rw [History.rowClassification, History.rowClassification, h.laneAction]

theorem expectedState (r : PriceObservation) : expectedState rows occByObs r = expectedState rows' occByObs' r := by
  rw [History.expectedState, History.expectedState, h.laneAction, h.wantUntil]

theorem simulatedRows : (simulatedRows rows occByObs).Perm (simulatedRows rows' occByObs') := by
  have hsim : simFrom rows occByObs = simFrom rows' occByObs' := funext fun r => by rw [simFrom, h.expectedState, simFrom]
  rw [History.simulatedRows, History.simulatedRows, hsim, funext h.expectedState]
  exact (h.perm.filter _).map _

end LaneReordered

theorem simReportOk_perm {rows rows' : List PriceObservation} (hlane : ∃ lane, ∀ r ∈ rows, r.lane = lane)
    (h : rows.Perm rows') : simReportOk (laneInvariantReport rows) = simReportOk (laneInvariantReport rows') := by
  obtain ⟨lane, hlane⟩ := hlane
  have hlane' : ∀ r ∈ rows', r.lane = lane := fun r hr => hlane r (h.mem_iff.mpr hr)
  rw [Bool.eq_iff_iff, simReportOk_iff, simReportOk_iff, laneInvariantsHold_of_lane hlane, laneInvariantsHold_of_lane hlane']
  exact ⟨fun hholds => hholds.perm h, fun hholds => hholds.perm h.symm⟩

/-- What the manifest shows of the plan for a row. -/
structure ShownPlan where
  classification : Option RowClassification
  diagnosticClassification : Option RowClassification
  action : Option LaneAction
  expectedStateTemplate : TemporalState

def PlannedRow.shown (p : PlannedRow) : ShownPlan :=
  ⟨p.classification, p.diagnosticClassification, p.action, p.expectedStateTemplate⟩

/-- Plans that say the same, but for the order of what they list. -/
structure LanePlan.Alike (rows rows' : List PriceObservation) (p p' : LanePlan) : Prop where
  excluded : p.excluded = p'.excluded
  exclusionReasons : p.exclusionReasons.Perm p'.exclusionReasons
  planned : ∃ f f' : PriceObservation → PlannedRow, p.rows = rows.map f ∧ p'.rows = rows'.map f' ∧
    ∀ r, (f r).shown = (f' r).shown
  proposedSideEffects : p.proposedSideEffects.Perm p'.proposedSideEffects

section
variable {rows rows' : List PriceObservation} {occByObs occByObs' : Nat → List PriceObservationOccurrence}
  {unknownFk unknownFk' : Nat → List String}

theorem excludedLane_alike {reasons reasons' : List ExclusionReason} {diagnostic diagnostic' : PriceObservation → Option RowClassification}
    (hreasons : reasons.Perm reasons') (hdiagnostic : ∀ r, diagnostic r = diagnostic' r) :
    LanePlan.Alike rows rows' (excludedLane rows occByObs reasons diagnostic) (excludedLane rows' occByObs' reasons' diagnostic') where
  excluded := rfl
  exclusionReasons := (List.perm_insertionSort _ _).trans
    ((Grouping.eraseDups_perm (hreasons.map _)).trans (List.perm_insertionSort _ _).symm)
  planned := ⟨_, _, rfl, rfl, fun r => by rw [PlannedRow.shown, PlannedRow.shown, hdiagnostic]⟩
  proposedSideEffects := .refl _

theorem LaneReordered.plannedLane (h : LaneReordered rows rows' occByObs occByObs' unknownFk unknownFk') (report report' : LaneReport) :
    LanePlan.Alike rows rows' (plannedLane rows occByObs report) (plannedLane rows' occByObs' report') where
  excluded := Eq.trans (show (History.plannedLane rows occByObs report).excluded = false from rfl) rfl
  exclusionReasons := (.nil : [].Perm [])
  planned := ⟨_, _, rfl, rfl, fun r => by simp only [PlannedRow.shown, h.rowClassification, h.laneAction, h.expectedState]⟩
  proposedSideEffects := h.disputedReps.map _

theorem LaneReordered.planLane (h : LaneReordered rows rows' occByObs occByObs' unknownFk unknownFk') :
    LanePlan.Alike rows rows' (planLane rows occByObs unknownFk) (planLane rows' occByObs' unknownFk') := by
  have hearly : (rows.flatMap fun r => (unknownFk r.id).map ExclusionReason.uncoveredFk).Perm
      (rows'.flatMap fun r => (unknownFk' r.id).map ExclusionReason.uncoveredFk) :=
    h.perm.flatMap fun r _ => (h.references r.id).map _
  have hreviewed : humanReviewedConflict rows occByObs = humanReviewedConflict rows' occByObs' := by
    rw [humanReviewedConflict, humanReviewedConflict, funext h.laneAction]
    exact h.perm.any_eq
  obtain ⟨lane, hlane⟩ := h.lane
  have hsim : ∀ r ∈ History.simulatedRows rows occByObs, r.lane = lane := by
    intro s hs
    obtain ⟨r, hr, rfl⟩ := List.mem_map.mp hs
    exact hlane r (List.mem_of_mem_filter hr)
  have hreport := simReportOk_perm ⟨lane, hsim⟩ h.simulatedRows
  unfold History.planLane
  simp only [hearly.isEmpty_eq, hreviewed, hreport]
  -- The reasons of a late exclusion are the same on both sides.
  generalize (_ ++ _ : List ExclusionReason) = reasons
  split
  · exact excludedLane_alike hearly fun _ => rfl
  · split
    · exact excludedLane_alike (.refl _) fun r => congrArg some (h.rowClassification r)
    · exact h.plannedLane _ _

end
end CestaPlan.History
