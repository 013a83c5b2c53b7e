import CestaPlan.History.ApplyRestore

/-! What an applied plan leaves of a lane. The rows that the plan lists come out as the planner has simulated them; the
    gates say nothing of the rows of the lane that it does not list. -/

namespace CestaPlan.History
open Updates

/-! ### The plan of a lane -/

/-- The entry of a row in the manifest of its lane. -/
def AuditedDb.entry (db : AuditedDb) (lane : Lane) (r : PriceObservation) : ManifestRow :=
  PlannedRow.manifest
    { id := r.id
      factFingerprint := r.fingerprint
      classification := some (rowClassification (db.live lane) db.occurrencesOf r)
      diagnosticClassification := some (rowClassification (db.live lane) db.occurrencesOf r)
      action := some (laneAction (db.live lane) db.occurrencesOf r)
      originalTemporalState := r.originalTemporal
      expectedStateTemplate := expectedState (db.live lane) db.occurrencesOf r
      occurrences := db.occurrencesOf r.id }
    r db.supportedFk

section Plan
variable {db : AuditedDb} {lane : Lane} {r : PriceObservation} {runTs : Instant}

theorem AuditedDb.mem_live : r ∈ db.live lane ↔ r ∈ db.observations ∧ r.lane = lane ∧ r.rolledBackAt = none := by
  simp [AuditedDb.live]

theorem planLane_of_included {rows : List PriceObservation} {occByObs : Nat → List PriceObservationOccurrence}
    {unknownFk : Nat → List String} (h : (planLane rows occByObs unknownFk).excluded = false) :
    simReportOk (laneInvariantReport (simulatedRows rows occByObs)) = true ∧ planLane rows occByObs unknownFk =
      plannedLane rows occByObs (laneInvariantReport (simulatedRows rows occByObs)) := by
  unfold planLane at h ⊢
  dsimp only at h ⊢
  split at h
  · cases h
  next hearly =>
  rw [if_neg hearly]
  generalize hreasons : (if humanReviewedConflict rows occByObs = true then [ExclusionReason.humanReviewedConflict] else []) ++
    (if simReportOk (laneInvariantReport (simulatedRows rows occByObs)) = true then []
      else [ExclusionReason.postSimInvariantFail]) = reasons at h ⊢
  split at h
  · cases h
  next hnone =>
  refine ⟨?_, if_neg hnone⟩
  by_contra hsim
  rw [if_neg hsim] at hreasons
  have hempty : reasons = [] := by simpa using hnone
  exact List.append_ne_nil_of_right_ne_nil _ (List.cons_ne_nil _ _) (hreasons.trans hempty)

/-- The lane of a plan that is not left out lists all its rows, and is in order as the planner has simulated it. -/
theorem laneManifest_of_included (h : (db.laneManifest lane).excluded = false) :
    (db.laneManifest lane).rows = (db.live lane).map (db.entry lane) ∧
      LaneHolds (simulatedRows (db.live lane) db.occurrencesOf) := by
  have hincluded : (planLane (db.live lane) db.occurrencesOf db.unknownFk).excluded = false := h
  obtain ⟨hok, hplan⟩ := planLane_of_included hincluded
  have hsim : ∀ r ∈ simulatedRows (db.live lane) db.occurrencesOf, r.lane = lane := by
    intro r hr
    obtain ⟨x, hx, rfl⟩ := List.mem_map.mp hr
    exact (AuditedDb.mem_live.mp (List.mem_filter.mp hx).1).2.1
  refine ⟨?_, (laneInvariantsHold_of_lane hsim).mp (simReportOk_iff.mp hok)⟩
  rw [AuditedDb.laneManifest, laneManifest, hplan, plannedLane, List.zipWith_map_left, List.zipWith_self]
  rfl

theorem bound_template (t : TemporalState) (u : TemporalFields) : t.template.bound runTs u =
    { u with
      validFrom := t.validFrom
      validUntil := t.validUntil
      verificationStatus := t.verificationStatus
      rolledBackAt := t.rolledBackAt.map (·.bind runTs) } := by
  have huntil : (t.validUntil.map RollbackMark.stamped).map (·.bind runTs) = t.validUntil := by
    rw [Option.map_map]
    exact Option.map_id'
  have hfrom : RollbackMark.bind runTs (.stamped t.validFrom) = t.validFrom := rfl
  simp only [StateTemplate.bound, TemporalState.template, Option.map_some, Option.getD_some, Option.getD_none, huntil, hfrom]

theorem interval_of_keep {rows : List PriceObservation} {occByObs : Nat → List PriceObservationOccurrence}
    (h : laneAction rows occByObs r = .keep) : r.validFrom = r.observedAt ∧ r.validUntil = wantUntil rows occByObs r := by
  unfold laneAction at h
  split at h
  · cases h
  split at h
  · cases h
  split at h
  · cases h
  next hsame =>
  rw [not_or, not_not, not_not] at hsame
  exact hsame

theorem entry_write (hr : r ∈ db.live lane) (hsup : (db.entry lane r).action.supported = true) :
    ((db.entry lane r).write runTs r).rolledBackAt.isNone =
        (expectedState (db.live lane) db.occurrencesOf r).rolledBackAt.isNone ∧
      ((expectedState (db.live lane) db.occurrencesOf r).rolledBackAt.isNone = true →
        (db.entry lane r).write runTs r = simFrom (db.live lane) db.occurrencesOf r) := by
  have hlive : r.rolledBackAt = none := (AuditedDb.mem_live.mp hr).2.2
  cases haction : laneAction (db.live lane) db.occurrencesOf r with
  | keep =>
    obtain ⟨hfrom, huntil⟩ := interval_of_keep haction
    have hwrite : (db.entry lane r).write runTs r = r := by
      simp only [ManifestRow.write, ManifestRow.bound, AuditedDb.entry, PlannedRow.manifest, haction]
      rfl
    rw [hwrite, hlive]
    simp only [expectedState, haction, simFrom, ← hfrom, ← huntil]
    exact ⟨rfl, fun _ => trivial⟩
  | reconstructInterval =>
    have hwrite : (db.entry lane r).write runTs r = r.withTemporal
        ((expectedState (db.live lane) db.occurrencesOf r).template.bound runTs r.mutableState) := by
      simp only [ManifestRow.write, ManifestRow.bound, AuditedDb.entry, PlannedRow.manifest, PlannedRow.template, haction]
      rfl
    rw [hwrite, bound_template]
    simp only [expectedState, haction, simFrom]
    refine ⟨rfl, fun _ => ?_⟩
    simp only [PriceObservation.withTemporal, Option.map_none, ← hlive]
    rfl
  | logicalRollbackExactDuplicate =>
    have hstate : (expectedState (db.live lane) db.occurrencesOf r).rolledBackAt = some .remediationRun := by
      simp only [expectedState, haction]
    have hwrite : ((db.entry lane r).write runTs r).rolledBackAt = some runTs := by
      simp only [ManifestRow.write, ManifestRow.bound, AuditedDb.entry, PlannedRow.manifest, PlannedRow.template, haction,
        TemporalState.template, hstate]
      rfl
    rw [hwrite, hstate]
    exact ⟨rfl, fun h => by cases h⟩
  | markDisputedSameTimestampConflict =>
    simp only [AuditedDb.entry, PlannedRow.manifest, haction] at hsup
    cases hsup

end Plan

/-! ### The lane after the run -/

/-- The rows of the lane that its plan, made of `db`, does not list. -/
def AuditedDb.unlisted (s db : AuditedDb) (lane : Lane) : List PriceObservation :=
  (s.live lane).filter fun r => !((db.live lane).map (·.id)).contains r.id

section Listed
variable {db s : AuditedDb} {lane : Lane} {lanes : List Lane} {x r : PriceObservation}

theorem listed_nodup (hdb : (db.observations.map (·.id)).Nodup) (hlanes : lanes.Nodup) :
    ((lanes.flatMap db.live).map (·.id)).Nodup := by
  have hobs : db.observations.Nodup := List.Nodup.of_map _ hdb
  have hnodup : (lanes.flatMap db.live).Nodup := by
    refine List.nodup_flatMap.mpr ⟨fun lane _ => hobs.filter _, hlanes.imp fun hne r hr hr' => hne ?_⟩
    exact (AuditedDb.mem_live.mp hr).2.1.symm.trans (AuditedDb.mem_live.mp hr').2.1
  refine List.Nodup.map_on (fun a ha b hb heq => List.inj_on_of_nodup_map hdb ?_ ?_ heq) hnodup
  · obtain ⟨_, -, ha⟩ := List.mem_flatMap.mp ha
    exact (AuditedDb.mem_live.mp ha).1
  · obtain ⟨_, -, hb⟩ := List.mem_flatMap.mp hb
    exact (AuditedDb.mem_live.mp hb).1

end Listed

/-- The plan is one that the planner made of `db`, of different lanes. -/
structure Manifest.PlannedFrom (m : Manifest) (db : AuditedDb) (lanes : List Lane) : Prop where
  plans : m.lanes.Perm (lanes.map db.laneManifest)
  distinct : lanes.Nodup
  ids : (db.observations.map (·.id)).Nodup

section Run
variable {db s : AuditedDb} {m : Manifest} {ctx : ApplyContext} {env : Environment} {now : Instant}
  {supersedes : Option Nat} {st : Applying} {changes : List HistoryRemediationChange} {lane : Lane} {lanes : List Lane}
  {x r : PriceObservation}

namespace Manifest.PlannedFrom
variable (hm : m.PlannedFrom db lanes)
include hm

theorem plannedRows_perm : ∃ included : List Lane, included.Nodup ∧
    (∀ lane, lane ∈ included ↔ lane ∈ lanes ∧ (db.laneManifest lane).excluded = false) ∧
    m.plannedRows.Perm (included.flatMap fun lane => (db.live lane).map (db.entry lane)) := by
  refine ⟨lanes.filter fun lane => !(db.laneManifest lane).excluded, hm.distinct.filter _, fun lane => by simp, ?_⟩
  have hperm := (hm.plans.filter fun lane => !lane.excluded).flatMap_right (·.rows)
  rw [List.filter_map, List.flatMap_map] at hperm
  refine hperm.trans (.of_eq (List.flatMap_congr fun lane hlane => ?_))
  have hincluded := (List.mem_filter.mp hlane).2
  exact (laneManifest_of_included (by simpa using hincluded)).1

theorem mem_plannedRows {e : ManifestRow} : e ∈ m.plannedRows ↔ ∃ lane ∈ lanes,
    (db.laneManifest lane).excluded = false ∧ ∃ r ∈ db.live lane, db.entry lane r = e := by
  obtain ⟨included, -, hincluded, hperm⟩ := hm.plannedRows_perm
  simp only [hperm.mem_iff, List.mem_flatMap, List.mem_map, hincluded, and_assoc]

theorem listed_once : (m.plannedRows.map (·.id)).Nodup := by
  obtain ⟨included, hnodup, -, hperm⟩ := hm.plannedRows_perm
  have hids : ∀ lane, ((db.live lane).map (db.entry lane)).map (·.id) = (db.live lane).map (·.id) := by
    intro lane
    rw [List.map_map]
    rfl
  have hlisted := listed_nodup hm.ids hnodup
  rw [List.map_flatMap] at hlisted
  rw [(hperm.map _).nodup_iff, List.map_flatMap]
  simp only [hids]
  exact hlisted

theorem rewrite_listed (hl : lane ∈ lanes) (hinc : (db.laneManifest lane).excluded = false) (hr : r ∈ db.live lane) :
    rewrite (·.id) (·.id) (ManifestRow.write now) m.plannedRows r = (db.entry lane r).write now r :=
  rewrite_of_mem hm.listed_once (hm.mem_plannedRows.mpr ⟨lane, hl, hinc, r, hr, rfl⟩) rfl

end Manifest.PlannedFrom

namespace Executes
variable (hex : Executes s m ctx env now supersedes st changes) (hk : s.Keyed) (hm : m.PlannedFrom db lanes)
include hex hm

theorem row_of_listed (hl : lane ∈ lanes) (hinc : (db.laneManifest lane).excluded = false) (hr : r ∈ db.live lane) :
    s.row? r.id = some r := by
  obtain ⟨row, hrow, heq⟩ := hex.row_of_planned (hm.mem_plannedRows.mpr ⟨lane, hl, hinc, r, hr, rfl⟩)
  have hsame : r = row := Digest.sha256.inj heq
  exact hsame ▸ hrow

theorem supported_of_listed (hl : lane ∈ lanes) (hinc : (db.laneManifest lane).excluded = false) (hr : r ∈ db.live lane) :
    (db.entry lane r).action.supported = true := by
  have hmem : db.laneManifest lane ∈ m.lanes := hm.plans.mem_iff.mpr (List.mem_map_of_mem hl)
  have hlane := List.all_eq_true.mp hex.actionsSupported _ hmem
  refine List.all_eq_true.mp (Bool.and_eq_true_iff.mp hlane).1 _ ?_
  rw [(laneManifest_of_included hinc).1]
  exact List.mem_map_of_mem hr

include hk

theorem rewrite_unlisted (hx : x ∈ s.observations) (hunlisted : x.id ∉ (db.live x.lane).map (·.id)) :
    rewrite (·.id) (·.id) (ManifestRow.write now) m.plannedRows x = x := by
  refine rewrite_of_not_mem fun hin => hunlisted ?_
  obtain ⟨e, he, hid⟩ := List.mem_map.mp hin
  obtain ⟨lane, hl, hinc, r, hr, rfl⟩ := hm.mem_plannedRows.mp he
  have hid : r.id = x.id := hid
  have hrow := hex.row_of_listed hm hl hinc hr
  rw [hid, AuditedDb.row?, row?_of_mem hk.observations hx] at hrow
  obtain rfl := Option.some.inj hrow
  rw [(AuditedDb.mem_live.mp hr).2.1]
  exact List.mem_map_of_mem hr

theorem listed_perm (hl : lane ∈ lanes) (hinc : (db.laneManifest lane).excluded = false) :
    (s.observations.filter fun x => ((db.live lane).map (·.id)).contains x.id).Perm (db.live lane) := by
  have hlive : (db.live lane).Nodup := (List.Nodup.of_map _ hm.ids).filter _
  have hobs : s.observations.Nodup := List.Nodup.of_map _ hk.observations
  refine (List.perm_ext_iff_of_nodup (hobs.filter _) hlive).mpr fun x => ?_
  simp only [List.mem_filter, List.contains_iff_mem, List.mem_map]
  constructor
  · rintro ⟨hx, r, hr, hid⟩
    have hrow := hex.row_of_listed hm hl hinc hr
    rw [hid, AuditedDb.row?, row?_of_mem hk.observations hx] at hrow
    exact Option.some.inj hrow ▸ hr
  · exact fun hx => ⟨mem_of_row? (hex.row_of_listed hm hl hinc hx), x, hx, rfl⟩

/-- After the run the lane has the rows that the planner has simulated, and those that the plan does not list. -/
theorem live_perm (hl : lane ∈ lanes) (hinc : (db.laneManifest lane).excluded = false) :
    ((appliedDb s m ctx env now supersedes st changes).live lane).Perm
      (simulatedRows (db.live lane) db.occurrencesOf ++ s.unlisted db lane) := by
  have hobs : (appliedDb s m ctx env now supersedes st changes).observations =
      s.observations.map (rewrite (·.id) (·.id) (ManifestRow.write now) m.plannedRows) :=
    (hex.observations hk).trans writeRows_eq_map
  rw [AuditedDb.live, hobs]
  have hsplit := (List.filter_append_perm (fun x : PriceObservation => ((db.live lane).map (·.id)).contains x.id)
    s.observations).symm
  refine ((hsplit.map _).filter _).trans ?_
  rw [List.map_append, List.filter_append]
  refine List.Perm.append ?_ (.of_eq ?_)
  · refine (((hex.listed_perm hk hm hl hinc).map _).filter _).trans (.of_eq ?_)
    rw [List.filter_map, simulatedRows]
    have hfilter : ∀ r ∈ db.live lane,
        ((fun x : PriceObservation => decide (x.lane = lane) && x.rolledBackAt.isNone) ∘
          rewrite (·.id) (·.id) (ManifestRow.write now) m.plannedRows) r =
          (expectedState (db.live lane) db.occurrencesOf r).rolledBackAt.isNone := by
      intro r hr
      have hlane : ((db.entry lane r).write now r).lane = lane := (AuditedDb.mem_live.mp hr).2.1
      rw [Function.comp_apply, hm.rewrite_listed hl hinc hr, (entry_write hr (hex.supported_of_listed hm hl hinc hr)).1,
        hlane, decide_eq_true (p := lane = lane) rfl, Bool.true_and]
    rw [List.filter_congr hfilter]
    refine List.map_congr_left fun r hr => ?_
    obtain ⟨hr, hstays⟩ := List.mem_filter.mp hr
    rw [hm.rewrite_listed hl hinc hr]
    exact (entry_write hr (hex.supported_of_listed hm hl hinc hr)).2 hstays
  · have hkept : ∀ x ∈ s.observations.filter (fun x => !((db.live lane).map (·.id)).contains x.id), x.lane = lane →
        rewrite (·.id) (·.id) (ManifestRow.write now) m.plannedRows x = x := by
      rintro x hx rfl
      obtain ⟨hx, hunlisted⟩ := List.mem_filter.mp hx
      exact hex.rewrite_unlisted hk hm hx (by simpa using hunlisted)
    have hfilter : ∀ x ∈ s.observations.filter (fun x => !((db.live lane).map (·.id)).contains x.id),
        ((fun x : PriceObservation => decide (x.lane = lane) && x.rolledBackAt.isNone) ∘
          rewrite (·.id) (·.id) (ManifestRow.write now) m.plannedRows) x =
          (decide (x.lane = lane) && x.rolledBackAt.isNone) := by
      intro x hx
      rw [Function.comp_apply]
      by_cases hlane : x.lane = lane
      · rw [hkept x hx hlane]
      · have hwrite : ∀ (e : ManifestRow) (x : PriceObservation), (e.write now x).lane = x.lane := fun _ _ => rfl
        have hsame : (rewrite (·.id) (·.id) (ManifestRow.write now) m.plannedRows x).lane = x.lane :=
          key_foldl PriceObservation.lane hwrite _ x
        rw [hsame, decide_eq_false hlane, Bool.false_and, Bool.false_and]
    rw [List.filter_map, List.filter_congr hfilter, AuditedDb.unlisted, AuditedDb.live, List.filter_comm]
    refine (List.map_congr_left fun x hx => ?_).trans (List.map_id _)
    rw [List.filter_comm] at hx
    obtain ⟨hx, hlive⟩ := List.mem_filter.mp hx
    exact hkept x hx (of_decide_eq_true (Bool.and_eq_true_iff.mp hlive).1)

end Executes

/-- After an apply a lane of its plan is in order exactly when the rows that the plan does not list are, and can stand
    beside the rows as they were planned. -/
theorem laneInvariantsHold_applied_iff {s' : AuditedDb} {result : ApplyResult} {retailerId : Option Int} (hk : s.Keyed)
    (hids : (db.observations.map (·.id)).Nodup) (hplan : m.lanes.Perm (db.planLanes retailerId))
    (h : applyLocked s m ctx env now supersedes = .ok (s', result)) (happlied : result.status = .applied) :
    ∀ lane, db.laneManifest lane ∈ m.lanes → (db.laneManifest lane).excluded = false →
      (laneInvariantsHold (s'.live lane) = true ↔ LaneHolds (s.unlisted db lane) ∧
        Beside (simulatedRows (db.live lane) db.occurrencesOf) (s.unlisted db lane)) := by
  obtain ⟨st, changes, hex, rfl, -⟩ := Executes.of_applied h happlied
  have hm : m.PlannedFrom db ((db.stagedLanes retailerId).filter fun lane =>
      !simReportOk (laneInvariantReport (db.live lane))) := ⟨hplan, (Grouping.eraseDups_nodup _).filter _, hids⟩
  intro lane hmem hinc
  obtain ⟨lane', hl, heq⟩ := List.mem_map.mp (hm.plans.mem_iff.mp hmem)
  obtain rfl : lane' = lane := Digest.sha256.inj (congrArg ManifestLane.laneFingerprint heq)
  have hlane : ∀ x ∈ (appliedDb s m ctx env now supersedes st changes).live lane', x.lane = lane' := fun x hx =>
    (AuditedDb.mem_live.mp hx).2.1
  have hperm := hex.live_perm hk hm hl hinc
  rw [laneInvariantsHold_of_lane hlane]
  constructor
  · intro hholds
    exact (laneHolds_append.mp (hholds.perm hperm)).2
  · intro hfits
    exact (laneHolds_append.mpr ⟨(laneManifest_of_included hinc).2, hfits⟩).perm hperm.symm

/-- The two rows of one fact, with a row that is written between the plan and its apply. -/
def insertedDb (amount : ℚ) (t : Instant) (until? : Option Instant) : AuditedDb :=
  { repeatedDb with
    observations := repeatedRows ++ ((({} : Db).record (milk amount t 1)).live milkLane).map fun r =>
      { r with id := 3, validUntil := until? } }

/-- A row that ends where the planned rows start. -/
theorem laneInvariantsHold_applied_iff_milk :
    laneInvariantsHold ((repaired (insertedDb 3 5 (some 10)) repeatedPlan).live milkLane) = true ↔
      LaneHolds ((insertedDb 3 5 (some 10)).unlisted repeatedDb milkLane) ∧
        Beside (simulatedRows (repeatedDb.live milkLane) repeatedDb.occurrencesOf)
          ((insertedDb 3 5 (some 10)).unlisted repeatedDb milkLane) := by
  have hk : (insertedDb 3 5 (some 10)).Keyed :=
    ⟨by decide +kernel, by decide, by decide, by decide, by decide, by decide, by decide, by decide⟩
  have happly : applyLocked (insertedDb 3 5 (some 10)) repeatedPlan (sampleContext repeatedPlan.planHash) sampleEnvironment
      20 none = .ok (repaired (insertedDb 3 5 (some 10)) repeatedPlan,
        { status := .applied, planHash := repeatedPlan.planHash, run := some 1, changes := 2 }) := by
    decide +kernel
  exact laneInvariantsHold_applied_iff hk (by decide +kernel) (.refl _) happly rfl milkLane (by decide +kernel)
    (by decide +kernel)

/-- An open row after the planned ones passes all the gates, and the repaired lane has two open rows. -/
theorem applied_lane_disordered :
    applyLocked (insertedDb 3 20 none) repeatedPlan (sampleContext repeatedPlan.planHash) sampleEnvironment 20 none =
        .ok (repaired (insertedDb 3 20 none) repeatedPlan,
          { status := .applied, planHash := repeatedPlan.planHash, run := some 1, changes := 2 }) ∧
      repeatedDb.laneManifest milkLane ∈ repeatedPlan.lanes ∧ (repeatedDb.laneManifest milkLane).excluded = false ∧
      laneInvariantsHold ((repaired (insertedDb 3 20 none) repeatedPlan).live milkLane) = false := by
  decide +kernel

end Run
end CestaPlan.History
