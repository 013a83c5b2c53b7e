import CestaPlan.History.ApplyRestore
import CestaPlan.Library.Pairing

/-! What the seal of a plan fixes. Two manifests with one `plan_hash` differ in the order of their lists, in the
    instant of their generation, and in the ids of rows and dependencies, which the live rows tell where the gates pass. -/

namespace CestaPlan.History
open Grouping Pairing Runs Updates

/-! ### Manifests with one seal -/

/-- Lanes that look alike to the seal. -/
def ManifestLane.Alike (l₁ l₂ : ManifestLane) : Prop := l₁.seal = l₂.seal

/-- Rows that look alike to the seal, each of a lane that looks like the other. -/
def AlikePairs (p₁ p₂ : ManifestLane × ManifestRow) : Prop := p₁.1.Alike p₂.1 ∧ p₁.2.seal = p₂.2.seal

namespace ManifestLane.Alike
variable {l₁ l₂ : ManifestLane}

theorem fingerprint (h : l₁.Alike l₂) : l₁.laneFingerprint = l₂.laneFingerprint := congrArg LaneSeal.laneFingerprint h

theorem excluded (h : l₁.Alike l₂) : l₁.excluded = l₂.excluded := congrArg LaneSeal.excluded h

theorem rows (h : l₁.Alike l₂) : (l₁.rows.map (·.seal)).Perm (l₂.rows.map (·.seal)) :=
  perm_of_grouped_eq (congrArg LaneSeal.rows h)

theorem sideEffects (h : l₁.Alike l₂) : l₁.proposedSideEffects.Perm l₂.proposedSideEffects :=
  perm_of_grouped_eq (congrArg LaneSeal.proposedSideEffects h)

theorem hashes (h : l₁.Alike l₂) : (l₁.rows.map (·.fullRowHash)).Perm (l₂.rows.map (·.fullRowHash)) := by
  have hmap := h.rows.map RowSeal.fullRowHash
  rw [List.map_map, List.map_map] at hmap
  exact hmap

end ManifestLane.Alike

section Sealed
variable {m₁ m₂ : Manifest} (h : m₁.recomputePlanHash = m₂.recomputePlanHash)
include h

theorem lanes_paired : Paired ManifestLane.Alike m₁.lanes m₂.lanes :=
  paired_of_map_perm (perm_of_grouped_eq (congrArg PlanSeal.lanes (Digest.sha256.inj h)))

theorem appliedLanes_paired : Paired ManifestLane.Alike m₁.appliedLanes m₂.appliedLanes :=
  (lanes_paired h).filter fun _ _ hl => congrArg not hl.excluded

theorem plannedPairs_paired : Paired AlikePairs m₁.plannedPairs m₂.plannedPairs := by
  refine (appliedLanes_paired h).flatMap fun l₁ l₂ hl => ?_
  obtain ⟨rows, hrows, hperm⟩ := paired_of_map_perm hl.rows
  refine ⟨rows.map (l₂, ·), ?_, hperm.map _⟩
  rw [List.forall₂_map_left_iff, List.forall₂_map_right_iff]
  exact hrows.imp fun _ _ heq => ⟨hl, heq⟩

theorem plannedRows_paired : Paired (fun r₁ r₂ : ManifestRow => r₁.seal = r₂.seal) m₁.plannedRows m₂.plannedRows := by
  refine paired_of_map_perm ?_
  rw [← plannedPairs_map_snd, ← plannedPairs_map_snd, List.map_map, List.map_map]
  exact ((plannedPairs_paired h).imp fun _ _ hp => hp.2).map_perm

theorem applyBlockers_perm : m₁.applyBlockers.Perm m₂.applyBlockers :=
  Multiset.coe_eq_coe.mp (congrArg PlanSeal.applyBlockers (Digest.sha256.inj h))

theorem commitProvenance_eq : m₁.commitProvenance = m₂.commitProvenance :=
  congrArg PlanSeal.commitProvenance (Digest.sha256.inj h)

theorem plannerSourceHash_eq : m₁.plannerSourceHash = m₂.plannerSourceHash :=
  congrArg PlanSeal.plannerSourceHash (Digest.sha256.inj h)

/-! ### The gates -/

theorem actionsSupported_eq : m₁.actionsSupported = m₂.actionsSupported := by
  refine (lanes_paired h).all_eq fun l₁ l₂ hl => ?_
  have hactions : (l₁.rows.all fun r => r.action.supported) = l₂.rows.all fun r => r.action.supported := by
    have hall := hl.rows.all_eq (f := fun r : RowSeal => r.action.supported)
    rw [List.all_map, List.all_map] at hall
    exact hall
  have hses := hl.sideEffects.all_eq (f := fun se => se.allowed && (l₁.rows.map (·.fullRowHash)).count se.targetObservationRef = 1)
  rw [hactions, hses]
  simp only [hl.hashes.count_eq]

theorem unresolvedBlockers_isEmpty (writerOk provenanceOk : Bool) :
    (unresolvedBlockers m₁.applyBlockers writerOk provenanceOk).isEmpty =
      (unresolvedBlockers m₂.applyBlockers writerOk provenanceOk).isEmpty := by
  have hperm := (applyBlockers_perm h).filter fun b =>
    if b = "planner_is_plan_only" then false
    else if b = "record_price_fact_rolled_back_reuse_not_remediated" then !(writerOk && provenanceOk)
    else if b = "unknown_commit_provenance" then !provenanceOk
    else true
  exact hperm.isEmpty_eq

end Sealed

/-- The gates that read what the seal leaves out. -/
def unsealedGates : List String :=
  ["plan_not_expired", "row_hashes_match", "occurrences_unchanged", "supported_fk_unchanged", "no_unknown_fk"]

/-- The gates that read the manifest through its seal only, or not at all. -/
def sealedGates (m : Manifest) (ctx : ApplyContext) (env : Environment) (operationNow : Instant) : List (String × Bool) :=
  let provenance := provenanceGates m.commitProvenance.baseMainSha ctx ++ buildIdentityGates ctx env ++
    authorizationGates m.planHash ctx env operationNow
  [("supported_actions_only", m.actionsSupported), ("writer_contract_v2", writerContractGate)] ++ provenance ++
    [("manifest_blockers_resolved",
      (unresolvedBlockers m.applyBlockers writerContractGate (provenance.all (·.2))).isEmpty)] ++
    environmentGates ctx env

/-- What a row is to the gates: its seal, with its id and the keys of its dependencies. -/
def ManifestRow.content (r : ManifestRow) : RowSeal × Nat × Multiset FkEntry := (r.seal, r.id, r.incomingFkState)

section Gates
variable {s : AuditedDb} {m m₁ m₂ : Manifest} {ctx : ApplyContext} {env : Environment} {forApply : Bool} {now : Instant}

theorem runAllGates_eq : runAllGates s m ctx env forApply now =
    ("plan_hash_intact", decide (m.recomputePlanHash = m.planHash)) :: ("plan_not_expired", m.planAgeOk now) ::
      (sealedGates m ctx env now ++ driftGates s m ++
        if forApply then [("backup_verified", backupGate ctx env now)] else []) := by
  simp only [runAllGates, sealedGates, List.cons_append, List.nil_append, List.append_assoc]

theorem sealedGates_eq (h : m₁.recomputePlanHash = m₂.recomputePlanHash) (hplan : m₁.planHash = m₂.planHash) :
    sealedGates m₁ ctx env now = sealedGates m₂ ctx env now := by
  simp only [sealedGates, actionsSupported_eq h, commitProvenance_eq h, hplan, unresolvedBlockers_isEmpty h]

theorem runAllGates_filter_eq (h₁ : m₁.recomputePlanHash = m₁.planHash) (h₂ : m₂.recomputePlanHash = m₂.planHash)
    (hplan : m₁.planHash = m₂.planHash) :
    (runAllGates s m₁ ctx env forApply now).filter (fun gate => !unsealedGates.contains gate.1) =
      (runAllGates s m₂ ctx env forApply now).filter fun gate => !unsealedGates.contains gate.1 := by
  have hage : (!unsealedGates.contains "plan_not_expired") = false := rfl
  have hdrift : ∀ m, (driftGates s m).filter (fun gate => !unsealedGates.contains gate.1) = [] := fun _ => rfl
  have hseal : m₁.recomputePlanHash = m₂.recomputePlanHash := h₁.trans (hplan.trans h₂.symm)
  rw [runAllGates_eq, runAllGates_eq, sealedGates_eq hseal hplan, h₁, h₂]
  simp only [List.filter_cons, List.filter_append, hage, hdrift, hplan, Bool.false_eq_true, if_false]

theorem sealedFk_of_mem {r : ManifestRow} (honce : (m.plannedRows.map (·.id)).Nodup) (hr : r ∈ m.plannedRows) :
    m.sealedFk r.id = r.incomingFkState.toFinset := by
  have hnodup : (m.plannedRows.reverse.map (·.id)).Nodup := by
    rw [List.map_reverse]
    exact List.nodup_reverse.mpr honce
  have hfind : m.plannedRows.reverse.find? (·.id = r.id) = some r := row?_of_mem hnodup (List.mem_reverse.mpr hr)
  rw [Manifest.sealedFk, hfind]
  rfl

theorem supportedFk_gate_eq (honce : (m.plannedRows.map (·.id)).Nodup) :
    (m.plannedRows.all fun r => m.sealedFk r.id = (s.supportedFk r.id).toFinset) =
      m.plannedRows.all fun r => r.incomingFkState.toFinset = (s.supportedFk r.id).toFinset := by
  rw [Bool.eq_iff_iff, List.all_eq_true, List.all_eq_true]
  exact forall₂_congr fun r hr => by rw [sealedFk_of_mem honce hr]

theorem driftGates_eq (h : (m₁.plannedRows.map (·.content)).Perm (m₂.plannedRows.map (·.content)))
    (honce : (m₁.plannedRows.map (·.id)).Nodup) : driftGates s m₁ = driftGates s m₂ := by
  have hpaired := paired_of_map_perm h
  have hids : (m₁.plannedRows.map (·.id)).Perm (m₂.plannedRows.map (·.id)) :=
    (hpaired.imp fun r₁ r₂ hr => (congrArg (·.2.1) hr : r₁.id = r₂.id)).map_perm
  have hrows := hpaired.all_eq (p := fun r => (s.row? r.id).any fun row => Digest.sha256 row = r.fullRowHash)
    (q := fun r => (s.row? r.id).any fun row => Digest.sha256 row = r.fullRowHash) fun r₁ r₂ hr => by
      have hid : r₁.id = r₂.id := congrArg (·.2.1) hr
      have hhash : r₁.fullRowHash = r₂.fullRowHash := congrArg (·.1.fullRowHash) hr
      rw [hid, hhash]
  have hoccs := hpaired.all_eq
    (p := fun r => (s.row? r.id).isNone || ((s.occurrencesOf r.id).map Digest.sha256).toFinset = r.occurrences.toFinset)
    (q := fun r => (s.row? r.id).isNone || ((s.occurrencesOf r.id).map Digest.sha256).toFinset = r.occurrences.toFinset)
    fun r₁ r₂ hr => by
      have hid : r₁.id = r₂.id := congrArg (·.2.1) hr
      have hocc : r₁.occurrences.Perm r₂.occurrences := Multiset.coe_eq_coe.mp (congrArg (·.1.occurrenceHashes) hr)
      rw [hid, List.toFinset_eq_of_perm _ _ hocc]
  have hfk := hpaired.all_eq (p := fun r => r.incomingFkState.toFinset = (s.supportedFk r.id).toFinset)
    (q := fun r => r.incomingFkState.toFinset = (s.supportedFk r.id).toFinset) fun r₁ r₂ hr => by
      have hid : r₁.id = r₂.id := congrArg (·.2.1) hr
      have hentries : r₁.incomingFkState.Perm r₂.incomingFkState := Multiset.coe_eq_coe.mp (congrArg (·.2.2) hr)
      rw [hid, List.toFinset_eq_of_perm _ _ hentries]
  have hunknown : s.unknownFkRefs (m₁.plannedRows.map (·.id)) = s.unknownFkRefs (m₂.plannedRows.map (·.id)) := hids.any_eq
  rw [driftGates, driftGates, hrows, hoccs, supportedFk_gate_eq honce, supportedFk_gate_eq (hids.nodup_iff.mp honce), hfk,
    hunknown]

end Gates

/-! ### The observations -/

section Fields
variable {runTs : Instant} {us us₁ us₂ : List ManifestRow} {t : TemporalFields} {x : PriceObservation}

/-- The state of a row after the entries of a plan, one after the other. -/
def boundAll (runTs : Instant) (us : List ManifestRow) (t : TemporalFields) : TemporalFields :=
  us.foldl (fun t u => u.bound runTs t) t

theorem foldl_write (us : List ManifestRow) (x : PriceObservation) :
    us.foldl (fun x u => u.write runTs x) x = x.withTemporal (boundAll runTs us x.mutableState) := by
  induction us generalizing x with
  | nil => rfl
  | cons u us ih => exact ih (u.write runTs x)

theorem rewrite_eq (us : List ManifestRow) (x : PriceObservation) :
    rewrite (·.id) (·.id) (ManifestRow.write runTs) us x =
      x.withTemporal (boundAll runTs (us.filter (·.id = x.id)) x.mutableState) :=
  foldl_write (us.filter (·.id = x.id)) x

section Field
variable {α : Type} {get : TemporalFields → α} {named : StateTemplate → Option α}
  (hnamed : ∀ tmpl t, get (tmpl.bound runTs t) = (named tmpl).getD (get t))
include hnamed

theorem field_kept (h : ∀ u ∈ us, u.action.writes = true → named u.expectedStateTemplate = none) :
    get (boundAll runTs us t) = get t := by
  induction us generalizing t with
  | nil => rfl
  | cons u us ih =>
    obtain ⟨hu, hus⟩ := List.forall_mem_cons.mp h
    have hstep : get (u.bound runTs t) = get t := by
      unfold ManifestRow.bound
      split
      · next hw => rw [hnamed, hu hw, Option.getD_none]
      · rfl
    exact (ih hus).trans hstep

theorem field_eq (hleft : ∀ u ∈ us₁, ∃ u' ∈ us₂, u.seal = u'.seal) (hright : ∀ u' ∈ us₂, ∃ u ∈ us₁, u.seal = u'.seal)
    (hfix₁ : ∀ u ∈ us₁, u.action.writes = true →
      ∃ t', boundAll runTs us₁ t = u.expectedStateTemplate.bound runTs t')
    (hfix₂ : ∀ u ∈ us₂, u.action.writes = true →
      ∃ t', boundAll runTs us₂ t = u.expectedStateTemplate.bound runTs t') :
    get (boundAll runTs us₁ t) = get (boundAll runTs us₂ t) := by
  have haction : ∀ {u u' : ManifestRow}, u.seal = u'.seal → u.action = u'.action := fun h => congrArg RowSeal.action h
  have htemplate : ∀ {u u' : ManifestRow}, u.seal = u'.seal → u.expectedStateTemplate = u'.expectedStateTemplate :=
    fun h => congrArg RowSeal.expectedStateTemplate h
  by_cases hsome : ∃ u ∈ us₁, u.action.writes = true ∧ named u.expectedStateTemplate ≠ none
  · obtain ⟨u, hu, hw, hname⟩ := hsome
    obtain ⟨v, hv⟩ := Option.ne_none_iff_exists'.mp hname
    obtain ⟨u', hu', hseal⟩ := hleft u hu
    obtain ⟨t₁, ht₁⟩ := hfix₁ u hu hw
    obtain ⟨t₂, ht₂⟩ := hfix₂ u' hu' (haction hseal ▸ hw)
    rw [ht₁, ht₂, ← htemplate hseal, hnamed, hnamed, hv, Option.getD_some, Option.getD_some]
  · have hnone₁ : ∀ u ∈ us₁, u.action.writes = true → named u.expectedStateTemplate = none := by
      intro u hu hw
      by_contra hname
      exact hsome ⟨u, hu, hw, hname⟩
    have hnone₂ : ∀ u' ∈ us₂, u'.action.writes = true → named u'.expectedStateTemplate = none := by
      intro u' hu' hw
      obtain ⟨u, hu, hseal⟩ := hright u' hu'
      exact htemplate hseal ▸ hnone₁ u hu (haction hseal ▸ hw)
    rw [field_kept hnamed hnone₁, field_kept hnamed hnone₂]

end Field

theorem boundAll_eq (hleft : ∀ u ∈ us₁, ∃ u' ∈ us₂, u.seal = u'.seal) (hright : ∀ u' ∈ us₂, ∃ u ∈ us₁, u.seal = u'.seal)
    (hfix₁ : ∀ u ∈ us₁, u.action.writes = true →
      ∃ t', boundAll runTs us₁ t = u.expectedStateTemplate.bound runTs t')
    (hfix₂ : ∀ u ∈ us₂, u.action.writes = true →
      ∃ t', boundAll runTs us₂ t = u.expectedStateTemplate.bound runTs t') :
    boundAll runTs us₁ t = boundAll runTs us₂ t := by
  have hfield : ∀ {α : Type} (get : TemporalFields → α) (named : StateTemplate → Option α),
      (∀ tmpl t, get (tmpl.bound runTs t) = (named tmpl).getD (get t)) →
        get (boundAll runTs us₁ t) = get (boundAll runTs us₂ t) :=
    fun _ _ hnamed => field_eq hnamed hleft hright hfix₁ hfix₂
  refine TemporalFields.ext ?_ ?_ ?_ ?_ ?_ ?_
  · exact hfield (·.validFrom) (fun tmpl => tmpl.validFrom.map (·.bind runTs)) fun _ _ => rfl
  · exact hfield (·.validUntil) (fun tmpl => tmpl.validUntil.map fun v => v.map (·.bind runTs)) fun _ _ => rfl
  · exact hfield (·.verificationStatus) (·.verificationStatus) fun _ _ => rfl
  · exact hfield (·.rolledBackAt) (fun tmpl => tmpl.rolledBackAt.map fun v => v.map (·.bind runTs)) fun _ _ => rfl
  · exact hfield (·.rolledBackBy) (·.rolledBackBy) fun _ _ => rfl
  · exact hfield (·.closedByRunId) (·.closedByRunId) fun _ _ => rfl

end Fields

/-! ### Two runs from the same tables -/

/-- The observation that a hash is of. -/
def hashedId : Digest PriceObservation → Nat
  | .sha256 r => r.id
  | .other _ => 0

/-- The anomaly of a side effect, but for its number. -/
def SideEffect.anomaly (se : SideEffect) : PriceAnomaly where
  priceObservationId := hashedId se.targetObservationRef
  crawlRunId := none
  anomalyType := se.anomalyType
  severity := se.severity.getD .low
  actualValue := none
  status := .open

section Run
variable {s : AuditedDb} {m : Manifest} {ctx : ApplyContext} {env : Environment} {now : Instant}
  {supersedes : Option Nat} {st : Applying} {changes : List HistoryRemediationChange} {lane : ManifestLane}
  {r : ManifestRow} {x : PriceObservation} {se : SideEffect} {next : Nat}

namespace Executes
variable (hex : Executes s m ctx env now supersedes st changes)
include hex

theorem id_eq_hashedId (hr : r ∈ m.plannedRows) : r.id = hashedId r.fullRowHash := by
  obtain ⟨row, hrow, heq⟩ := hex.row_of_planned hr
  rw [heq]
  exact (key_of_row? hrow).symm

theorem obsIdForHash_target (hl : lane ∈ m.appliedLanes) (hse : se ∈ lane.proposedSideEffects) :
    lane.obsIdForHash se.targetObservationRef = some (hashedId se.targetObservationRef) := by
  have hcount := (hex.supported_of_mem hl).targets se hse
  have hmem : se.targetObservationRef ∈ lane.rows.map (·.fullRowHash) :=
    List.count_pos_iff.mp (hcount ▸ Nat.one_pos)
  obtain ⟨r, hr, hhash⟩ := List.mem_map.mp hmem
  have hid := hex.id_eq_hashedId (List.mem_flatMap.mpr ⟨lane, hl, hr⟩ : r ∈ m.plannedRows)
  rw [← hhash, hex.obsIdForHash hl hr, hid]

theorem anomalyFor_eq (hl : lane ∈ m.appliedLanes) (hse : se ∈ lane.proposedSideEffects) (id : Nat) :
    lane.anomalyFor se id = { se.anomaly with id := id } := by
  rw [ManifestLane.anomalyFor, hex.obsIdForHash_target hl hse]
  rfl

theorem createdAnomalies_map {lanes : List ManifestLane} (hlanes : ∀ lane ∈ lanes, lane ∈ m.appliedLanes) :
    (createdAnomalies next lanes).map (·.toPriceAnomaly) =
      (lanes.flatMap (·.proposedSideEffects)).map SideEffect.anomaly := by
  induction lanes generalizing next with
  | nil => rfl
  | cons lane lanes ih =>
    obtain ⟨hlane, hrest⟩ := List.forall_mem_cons.mp hlanes
    rw [createdAnomalies, List.map_append, ih hrest, List.flatMap_cons, List.map_append]
    refine congrArg (· ++ _) ?_
    rw [ManifestLane.created, ManifestLane.numbered, List.map_map, List.map_map]
    have hfst : lane.proposedSideEffects.map SideEffect.anomaly =
        ((lane.proposedSideEffects.zipIdx next).map Prod.fst).map SideEffect.anomaly := by
      rw [List.zipIdx_map_fst]
    rw [hfst, List.map_map]
    refine List.map_congr_left fun p hp => ?_
    have hse : p.1 ∈ lane.proposedSideEffects := List.fst_mem_of_mem_zipIdx hp
    exact congrArg AnomalyRow.toPriceAnomaly (hex.anomalyFor_eq hlane hse p.2)

theorem targets_nodup (hl : lane ∈ m.appliedLanes) : (lane.proposedSideEffects.map (·.targetObservationRef)).Nodup := by
  obtain ⟨t, t', hstep⟩ := exists_step_of_foldlM hex.written hl
  obtain ⟨u, hdone, -⟩ := applyLane_eq_ok hstep
  exact History.targets_nodup (hex.supported_of_mem hl) hdone

theorem lookup_created (hl : lane ∈ m.appliedLanes) (hash : Digest PriceObservation) :
    ((lane.created next).lookup hash).map anomalyHash =
      (row? (·.targetObservationRef) lane.proposedSideEffects hash).map fun se =>
        anomalyHash { se.anomaly with id := 0 } := by
  obtain ⟨id, hid⟩ := lookup_numbered lane hash next lane.proposedSideEffects
  rw [ManifestLane.created, hid, Option.map_map, row?]
  refine Option.map_congr fun se hse => ?_
  rw [Function.comp_apply, hex.anomalyFor_eq hl (List.mem_of_find?_eq_some hse)]
  rfl

variable (hk : s.Keyed)
include hk

theorem bound_of_writes (hx : x ∈ s.observations) (hr : r ∈ m.plannedRows) (hid : r.id = x.id)
    (hw : r.action.writes = true) : ∃ t, boundAll now (m.plannedRows.filter (·.id = x.id)) x.mutableState =
      r.expectedStateTemplate.bound now t := by
  rw [← plannedPairs_map_snd] at hr
  obtain ⟨p, hp, rfl⟩ := List.mem_map.mp hr
  obtain ⟨ch, -, -, next, id, live, after, -, -, hafter, hwrites, -⟩ := (exists_of_forall₂ (hex.changes_spec hk).1).1 p hp
  rw [Applying.row?, hex.observations hk, writeRows_eq_map, row?_map rewrite_id, hid, row?_of_mem hk.observations hx] at hafter
  have hstate := hwrites hw
  rw [← Option.some.inj hafter, rewrite_eq, ManifestRow.bound, if_pos hw] at hstate
  exact ⟨live.mutableState, hstate⟩

end Executes
end Run

/-- A change but for its number, and for those of the anomaly that it names. -/
def HistoryRemediationChange.unnumbered (ch : HistoryRemediationChange) : HistoryRemediationChange :=
  { ch with
    id := 0
    createdAnomalyOriginalId := none
    createdAnomalyLiveId := none
    applyEvidenceHash := .other "" }

/-- A run but for the evidence that holds the numbers of anomalies. -/
def HistoryRemediationRun.unnumbered (run : HistoryRemediationRun) : HistoryRemediationRun :=
  { run with
    postApplySupportedFkHashes := none
    executionHash := none }

/-- Tables that are the same but for the numbers of anomalies and for the order and the numbers of changes. -/
structure SameWrites (once : Prop) (s₁ s₂ : AuditedDb) : Prop where
  observations : s₁.observations = s₂.observations
  occurrences : s₁.occurrences = s₂.occurrences
  promotionRules : s₁.promotionRules = s₂.promotionRules
  anomalies : (s₁.anomalies.map (·.toPriceAnomaly)).Perm (s₂.anomalies.map (·.toPriceAnomaly))
  changes : once → (s₁.changes.map (·.unnumbered)).Perm (s₂.changes.map (·.unnumbered))
  runs : s₁.runs.map (·.unnumbered) = s₂.runs.map (·.unnumbered)
  consumptions : s₁.consumptions.map (fun c => { c with executionHash := none }) =
    s₂.consumptions.map fun c => { c with executionHash := none }

theorem versions_of_shape {m : Manifest} (h : m.shapeError = none) :
    m.schemaVersion = requiredSchemaVersion ∧ m.toolVersion = requiredPlannerToolVersion := by
  unfold Manifest.shapeError at h
  split at h
  · cases h
  next hschema =>
  split at h
  · cases h
  next htool => exact ⟨not_not.mp hschema, not_not.mp htool⟩

section Two
variable {s : AuditedDb} {m₁ m₂ : Manifest} {ctx : ApplyContext} {env : Environment} {now : Instant}
  {supersedes : Option Nat} {st₁ st₂ : Applying} {changes₁ changes₂ : List HistoryRemediationChange}
  (hex₁ : Executes s m₁ ctx env now supersedes st₁ changes₁) (hex₂ : Executes s m₂ ctx env now supersedes st₂ changes₂)
  (hk : s.Keyed) (hseal : m₁.recomputePlanHash = m₂.recomputePlanHash)
include hex₁ hex₂ hseal

theorem listed_paired : Paired (fun r₁ r₂ : ManifestRow => r₁.seal = r₂.seal ∧ r₁.id = r₂.id)
    m₁.plannedRows m₂.plannedRows := by
  refine (plannedRows_paired hseal).imp_of_mem fun r₁ hr₁ r₂ hr₂ heq => ⟨heq, ?_⟩
  rw [hex₁.id_eq_hashedId hr₁, hex₂.id_eq_hashedId hr₂]
  exact congrArg (fun c : RowSeal => hashedId c.fullRowHash) heq

theorem listed_ids_perm : (m₁.plannedRows.map (·.id)).Perm (m₂.plannedRows.map (·.id)) :=
  ((listed_paired hex₁ hex₂ hseal).imp fun _ _ h => h.2).map_perm

include hk

theorem written_observations_eq : st₁.observations = st₂.observations := by
  rw [hex₁.observations hk, hex₂.observations hk, writeRows_eq_map, writeRows_eq_map]
  refine List.map_congr_left fun x hx => ?_
  have hlisted : Paired (fun r₁ r₂ : ManifestRow => r₁.seal = r₂.seal ∧ r₁.id = r₂.id)
      (m₁.plannedRows.filter (·.id = x.id)) (m₂.plannedRows.filter (·.id = x.id)) :=
    (listed_paired hex₁ hex₂ hseal).filter fun r₁ r₂ h => by rw [h.2]
  rw [rewrite_eq, rewrite_eq]
  refine congrArg _ (boundAll_eq (fun r₁ hr₁ => ?_) (fun r₂ hr₂ => ?_) (fun r hr hw => ?_) fun r hr hw => ?_)
  · obtain ⟨r₂, hr₂, h⟩ := hlisted.exists_right hr₁
    exact ⟨r₂, hr₂, h.1⟩
  · obtain ⟨r₁, hr₁, h⟩ := hlisted.exists_left hr₂
    exact ⟨r₁, hr₁, h.1⟩
  · obtain ⟨hr, hid⟩ := List.mem_filter.mp hr
    exact hex₁.bound_of_writes hk hx hr (of_decide_eq_true hid) hw
  · obtain ⟨hr, hid⟩ := List.mem_filter.mp hr
    exact hex₂.bound_of_writes hk hx hr (of_decide_eq_true hid) hw

theorem written_anomalies_perm :
    (st₁.anomalies.map (·.toPriceAnomaly)).Perm (st₂.anomalies.map (·.toPriceAnomaly)) := by
  rw [hex₁.anomalies hk, hex₂.anomalies hk, List.map_append, List.map_append,
    hex₁.createdAnomalies_map fun _ hl => hl, hex₂.createdAnomalies_map fun _ hl => hl]
  refine List.Perm.append_left _ (List.Perm.map _ ?_)
  exact (appliedLanes_paired hseal).flatMap_perm fun _ _ _ _ hl => hl.sideEffects

omit hex₁ hk hseal in
theorem sideEffect_eq {l₁ l₂ : ManifestLane} (hl₂ : l₂ ∈ m₂.appliedLanes) (hl : l₁.Alike l₂) (hash : Digest PriceObservation) :
    row? (·.targetObservationRef) l₁.proposedSideEffects hash = row? (·.targetObservationRef) l₂.proposedSideEffects hash :=
  (row?_perm hl.sideEffects.symm (hex₂.targets_nodup hl₂)).symm

theorem unnumbered_changes_perm (hplan : m₁.planHash = m₂.planHash) (honce : (m₁.plannedRows.map (·.id)).Nodup) :
    (changes₁.map (·.unnumbered)).Perm (changes₂.map (·.unnumbered)) := by
  have hsame := written_observations_eq hex₁ hex₂ hk hseal
  have honce₂ := (listed_ids_perm hex₁ hex₂ hseal).nodup_iff.mp honce
  refine (((plannedPairs_paired hseal).forall₂ (hex₁.changes_spec hk).1 (hex₂.changes_spec hk).1).imp ?_).map_perm
  rintro c₁ c₂ ⟨p₁, p₂, ⟨hl, hr⟩, ⟨hp₁, next₁, id₁, live₁, after₁, hlive₁, -, hafter₁, -, rfl⟩,
    ⟨hp₂, next₂, id₂, live₂, after₂, hlive₂, -, hafter₂, -, rfl⟩⟩
  obtain ⟨hl₁, -, hr₁⟩ := mem_plannedPairs hp₁
  obtain ⟨hl₂, -, hr₂⟩ := mem_plannedPairs hp₂
  have hhash : p₁.2.fullRowHash = p₂.2.fullRowHash := congrArg RowSeal.fullRowHash hr
  have hid : p₁.2.id = p₂.2.id := by rw [hex₁.id_eq_hashedId hr₁, hex₂.id_eq_hashedId hr₂, hhash]
  have haction : p₁.2.action = p₂.2.action := congrArg RowSeal.action hr
  have htemplate : p₁.2.expectedStateTemplate = p₂.2.expectedStateTemplate := congrArg RowSeal.expectedStateTemplate hr
  have hlive : live₁ = live₂ := Option.some.inj ((hlive₁ honce).symm.trans (hid ▸ hlive₂ honce₂))
  have hafter : after₁ = after₂ := by
    rw [Applying.row?, hsame, hid] at hafter₁
    exact Option.some.inj (hafter₁.symm.trans hafter₂)
  have hanomaly : ((p₁.1.created next₁).lookup p₁.2.fullRowHash).map anomalyHash =
      ((p₂.1.created next₂).lookup p₂.2.fullRowHash).map anomalyHash := by
    rw [hex₁.lookup_created hl₁, hex₂.lookup_created hl₂, sideEffect_eq hex₂ hl₂ hl, hhash]
  have href : p₁.1.sealedSideEffectRef p₁.2.fullRowHash = p₂.1.sealedSideEffectRef p₂.2.fullRowHash := by
    have hrow := sideEffect_eq hex₂ hl₂ hl p₁.2.fullRowHash
    unfold row? at hrow
    rw [ManifestLane.sealedSideEffectRef, ManifestLane.sealedSideEffectRef, hrow, hhash]
  have hbound : p₁.2.bound now live₁.mutableState = p₂.2.bound now live₂.mutableState := by
    rw [ManifestRow.bound, ManifestRow.bound, haction, htemplate, hlive]
  rw [hhash] at hanomaly href
  rw [hlive] at hbound
  simp only [HistoryRemediationChange.unnumbered, HistoryRemediationChange.verified, plannedChange, hplan, hl.fingerprint,
    hhash, hid, haction, href, hanomaly, hbound, hlive, hafter]

omit hex₁ hex₂ hk in
theorem startedRun_eq (hshape₁ : m₁.shapeError = none) (hshape₂ : m₂.shapeError = none) (hplan : m₁.planHash = m₂.planHash) :
    startedRun s m₁ ctx env now supersedes = startedRun s m₂ ctx env now supersedes := by
  obtain ⟨hschema₁, htool₁⟩ := versions_of_shape hshape₁
  obtain ⟨hschema₂, htool₂⟩ := versions_of_shape hshape₂
  simp only [startedRun, hplan, hschema₁, hschema₂, htool₁, htool₂, plannerSourceHash_eq hseal, commitProvenance_eq hseal]

theorem countSnapshot_eq : (s.written st₁ changes₁).countSnapshot = (s.written st₂ changes₂).countSnapshot := by
  have hanomalies := (written_anomalies_perm hex₁ hex₂ hk hseal).length_eq
  rw [List.length_map, List.length_map] at hanomalies
  simp only [AuditedDb.countSnapshot, AuditedDb.written, written_observations_eq hex₁ hex₂ hk hseal, hanomalies]

theorem unnumbered_run_eq (hshape₁ : m₁.shapeError = none) (hshape₂ : m₂.shapeError = none)
    (hplan : m₁.planHash = m₂.planHash) : (appliedRun s m₁ ctx env now supersedes st₁ changes₁).unnumbered =
      (appliedRun s m₂ ctx env now supersedes st₂ changes₂).unnumbered := by
  have hids := List.toFinset_eq_of_perm _ _ (listed_ids_perm hex₁ hex₂ hseal)
  have hocc : (s.written st₁ changes₁).occurrenceEvidence (m₁.plannedRows.map (·.id)) =
      (s.written st₂ changes₂).occurrenceEvidence (m₂.plannedRows.map (·.id)) := by
    rw [AuditedDb.occurrenceEvidence, AuditedDb.occurrenceEvidence, hids]
    rfl
  have hfk : (s.written st₁ changes₁).fkFingerprint = (s.written st₂ changes₂).fkFingerprint := rfl
  simp only [HistoryRemediationRun.unnumbered, AuditedDb.sealedRun, startedRun_eq hseal hshape₁ hshape₂ hplan,
    countSnapshot_eq hex₁ hex₂ hk hseal, hocc, hfk]

theorem sameWrites (hshape₁ : m₁.shapeError = none) (hshape₂ : m₂.shapeError = none) (hplan : m₁.planHash = m₂.planHash) :
    SameWrites (m₁.plannedRows.map (·.id)).Nodup (appliedDb s m₁ ctx env now supersedes st₁ changes₁)
      (appliedDb s m₂ ctx env now supersedes st₂ changes₂) where
  observations := written_observations_eq hex₁ hex₂ hk hseal
  occurrences := rfl
  promotionRules := rfl
  anomalies := written_anomalies_perm hex₁ hex₂ hk hseal
  changes honce := by
    have hnew := unnumbered_changes_perm hex₁ hex₂ hk hseal hplan honce
    show ((s.changes ++ changes₁).map _).Perm ((s.changes ++ changes₂).map _)
    rw [List.map_append, List.map_append]
    exact hnew.append_left _
  runs := by
    show (s.runs ++ [_]).map _ = (s.runs ++ [_]).map _
    rw [List.map_append, List.map_append]
    exact congrArg (_ ++ [·]) (unnumbered_run_eq hex₁ hex₂ hk hseal hshape₁ hshape₂ hplan)
  consumptions := by
    show (s.consumptions ++ [_]).map _ = (s.consumptions ++ [_]).map _
    rw [List.map_append, List.map_append, hplan]
    rfl

end Two

section Plans
variable {m₁ m₂ : Manifest}

/-- Two manifests with one intact hash pass the same gates, but for those that read what the seal leaves out; where they
    agree on that as well they pass the same gates; and if both are applied they have written the same. -/
theorem gates_and_writes_of_sealed (hshape₁ : m₁.shapeError = none) (hshape₂ : m₂.shapeError = none)
    (h₁ : m₁.recomputePlanHash = m₁.planHash) (h₂ : m₂.recomputePlanHash = m₂.planHash) (hplan : m₁.planHash = m₂.planHash) :
    (∀ s ctx env forApply now,
      (runAllGates s m₁ ctx env forApply now).filter (fun gate => !unsealedGates.contains gate.1) =
        (runAllGates s m₂ ctx env forApply now).filter (fun gate => !unsealedGates.contains gate.1) ∧
      (m₁.generatedAt = m₂.generatedAt → (m₁.plannedRows.map (·.content)).Perm (m₂.plannedRows.map (·.content)) →
        (m₁.plannedRows.map (·.id)).Nodup → runAllGates s m₁ ctx env forApply now = runAllGates s m₂ ctx env forApply now)) ∧
    ∀ s ctx env now supersedes s₁ s₂ r₁ r₂, AuditedDb.Keyed s →
      applyLocked s m₁ ctx env now supersedes = .ok (s₁, r₁) → r₁.status = .applied →
      applyLocked s m₂ ctx env now supersedes = .ok (s₂, r₂) → r₂.status = .applied →
      SameWrites (m₁.plannedRows.map (·.id)).Nodup s₁ s₂ := by
  have hseal : m₁.recomputePlanHash = m₂.recomputePlanHash := h₁.trans (hplan.trans h₂.symm)
  refine ⟨fun s ctx env forApply now => ⟨runAllGates_filter_eq h₁ h₂ hplan, fun hage hcontent honce => ?_⟩, ?_⟩
  · rw [runAllGates_eq, runAllGates_eq, sealedGates_eq hseal hplan, driftGates_eq hcontent honce, h₁, h₂, Manifest.planAgeOk,
      Manifest.planAgeOk, hage, hplan]
  · intro s ctx env now supersedes s₁ s₂ r₁ r₂ hk hok₁ happlied₁ hok₂ happlied₂
    obtain ⟨st₁, changes₁, hex₁, rfl, -⟩ := Executes.of_applied hok₁ happlied₁
    obtain ⟨st₂, changes₂, hex₂, rfl, -⟩ := Executes.of_applied hok₂ happlied₂
    exact sameWrites hex₁ hex₂ hk hseal hshape₁ hshape₂ hplan

def regenerated (generatedAt : Instant) : Manifest := { repeatedPlan with generatedAt := some generatedAt }

/-- The plan with another id in all its rows. -/
def renumbered (id : Nat) : Manifest :=
  { repeatedPlan with
    lanes := repeatedPlan.lanes.map fun lane => { lane with rows := lane.rows.map fun r => { r with id := id } } }

theorem gates_and_writes_of_sealed_repeated :
    (runAllGates repeatedDb repeatedPlan (sampleContext repeatedPlan.planHash) sampleEnvironment true 20).filter
        (fun gate => !unsealedGates.contains gate.1) =
      (runAllGates repeatedDb (regenerated 5) (sampleContext repeatedPlan.planHash) sampleEnvironment true 20).filter
        (fun gate => !unsealedGates.contains gate.1) ∧
      SameWrites (repeatedPlan.plannedRows.map (·.id)).Nodup (repaired repeatedDb repeatedPlan)
        (repaired repeatedDb (regenerated 5)) := by
  have hplan : repeatedPlan.planHash = (regenerated 5).planHash := rfl
  obtain ⟨hgates, hwrites⟩ := gates_and_writes_of_sealed (by decide +kernel) (by decide +kernel) (by decide +kernel)
    (by decide +kernel) hplan
  have hk : repeatedDb.Keyed := ⟨by decide +kernel, by decide, by decide, by decide, by decide, by decide, by decide, by decide⟩
  have happly : applyLocked repeatedDb repeatedPlan (sampleContext repeatedPlan.planHash) sampleEnvironment 20 none =
      .ok (repaired repeatedDb repeatedPlan,
        { status := .applied, planHash := repeatedPlan.planHash, run := some 1, changes := 2 }) := by
    decide +kernel
  have hagain : applyLocked repeatedDb (regenerated 5) (sampleContext repeatedPlan.planHash) sampleEnvironment 20 none =
      .ok (repaired repeatedDb (regenerated 5),
        { status := .applied, planHash := repeatedPlan.planHash, run := some 1, changes := 2 }) := by
    decide +kernel
  exact ⟨(hgates repeatedDb _ _ true 20).1, hwrites _ _ _ _ _ _ _ _ _ hk happly rfl hagain rfl⟩

/-- A plan that is a day old passes with a later `generated_at`, and its rows are not found with another id. -/
theorem unsealed_fields_decide_gates :
    (∀ m ∈ [repeatedPlan, regenerated 1, renumbered 9],
      m.shapeError = none ∧ m.recomputePlanHash = m.planHash ∧ m.planHash = repeatedPlan.planHash) ∧
    ("plan_not_expired", false) ∈ runAllGates repeatedDb repeatedPlan (sampleContext repeatedPlan.planHash) sampleEnvironment
      true (maxPlanAge + 1) ∧
    ("plan_not_expired", true) ∈ runAllGates repeatedDb (regenerated 1) (sampleContext repeatedPlan.planHash)
      sampleEnvironment true (maxPlanAge + 1) ∧
    ("row_hashes_match", true) ∈ runAllGates repeatedDb repeatedPlan (sampleContext repeatedPlan.planHash) sampleEnvironment
      true 20 ∧
    ("row_hashes_match", false) ∈ runAllGates repeatedDb (renumbered 9) (sampleContext repeatedPlan.planHash)
      sampleEnvironment true 20 := by
  decide +kernel

end Plans
end CestaPlan.History
