import CestaPlan.History.PriceHistory
import CestaPlan.History.Restore

/-! A restore right after its run undoes it, and a restore after the evidence was altered leaves the data alone. -/

namespace CestaPlan.History
open Runs Updates

/-- The package of the context is still in its validity window. -/
structure InWindow (ctx : ApplyContext) (env : Environment) (now later : Instant) : Prop where
  after : now ≤ later
  unexpired : ∀ e, ctx.authorizationExpiresAt = some e → later ≤ e
  fresh : ∀ g, ctx.authorizationGeneratedAt = some g → later - g ≤ maxGenerationAge
  revalidated : authorizationRevalidated ctx env later = true

/-- The run as an apply leaves it, and the tables with it. -/
abbrev appliedRun (s : AuditedDb) (m : Manifest) (ctx : ApplyContext) (env : Environment) (now : Instant)
    (supersedes : Option Nat) (st : Applying) (changes : List HistoryRemediationChange) : HistoryRemediationRun :=
  (s.written st changes).sealedRun m (startedRun s m ctx env now supersedes) changes now

abbrev appliedDb (s : AuditedDb) (m : Manifest) (ctx : ApplyContext) (env : Environment) (now : Instant)
    (supersedes : Option Nat) (st : Applying) (changes : List HistoryRemediationChange) : AuditedDb :=
  s.completeRun m (startedRun s m ctx env now supersedes) st changes now

/-! ### The gates of the restore -/

section Gates
variable {s : AuditedDb} {m : Manifest} {ctx : ApplyContext} {env : Environment} {now later : Instant}

theorem ne_empty_of_validCommit {v : Option String} (h : validCommit v = true) : v.any (· ≠ "") = true := by
  obtain ⟨v, rfl, hv⟩ := (Option.any_eq_true _ _).mp h
  refine (Option.any_eq_true _ _).mpr ⟨v, rfl, decide_eq_true fun hempty => ?_⟩
  rw [hempty] at hv
  cases hv

theorem provenanceGates_base (base base' : Option String) (h : ctx.expectedMainSha.any (· ≠ "") = true) :
    provenanceGates base ctx = provenanceGates base' ctx := by
  simp only [provenanceGates, h, if_true]

theorem authorizationGates_later {planHash : Digest PlanSeal} (hw : InWindow ctx env now later)
    (h : (authorizationGates planHash ctx env now).all (·.2) = true) :
    (authorizationGates planHash ctx env later).all (·.2) = true := by
  obtain ⟨hlater, hunexpired, hfresh, hrevalidated⟩ := hw
  simp only [authorizationGates, List.all_cons, List.all_nil, Bool.and_true, Bool.and_eq_true] at h ⊢
  obtain ⟨h1, h2, h3, h4, h5, h6, h7, h8, hgen, hexp, hage, -⟩ := h
  refine ⟨h1, h2, h3, h4, h5, h6, h7, h8, ?_, ?_, ?_, hrevalidated⟩
  · obtain ⟨g, hg, hle⟩ := (Option.any_eq_true _ _).mp hgen
    exact (Option.any_eq_true _ _).mpr ⟨g, hg, decide_eq_true ((of_decide_eq_true hle).trans hlater)⟩
  · obtain ⟨e, he, -⟩ := (Option.any_eq_true _ _).mp hexp
    exact (Option.any_eq_true _ _).mpr ⟨e, he, decide_eq_true (hunexpired e he)⟩
  · obtain ⟨g, hg, hle⟩ := (Option.any_eq_true _ _).mp hgen
    have hle := (of_decide_eq_true hle).trans hlater
    refine (Option.any_eq_true _ _).mpr ⟨g, hg, Bool.and_eq_true_iff.mpr ⟨?_, decide_eq_true (hfresh g hg)⟩⟩
    exact decide_eq_true (sub_nonneg.mpr hle)

variable {supersedes : Option Nat} {st : Applying} {changes : List HistoryRemediationChange}

theorem Executes.expectedMain (hex : Executes s m ctx env now supersedes st changes) :
    ctx.expectedMainSha.any (· ≠ "") = true := by
  have hall := hex.provenance
  rw [List.all_append, List.all_append, Bool.and_eq_true, Bool.and_eq_true] at hall
  have hmain := List.all_eq_true.mp hall.1.2
    ("package_main_matches_expected", eqCommit ctx.expectedMainSha ctx.expectedProvenance.commitSha)
    (by simp [buildIdentityGates])
  simp only [eqCommit, Bool.and_eq_true] at hmain
  exact ne_empty_of_validCommit hmain.1.1

theorem restoreGates_of_executes (hex : Executes s m ctx env now supersedes st changes)
    (hw : InWindow ctx env now later) : restoreGates m.planHash ctx env later = true := by
  have hall := hex.provenance
  rw [List.all_append, List.all_append, Bool.and_eq_true, Bool.and_eq_true] at hall
  have henv := hex.environment
  rw [environmentGates, List.all_append, Bool.and_eq_true] at henv
  rw [restoreGates, List.all_append, List.all_append, 
    provenanceGates_base none m.commitProvenance.baseMainSha hex.expectedMain, henv.1, hall.1.1, hall.1.2, authorizationGates_later hw hall.2]
  decide

theorem provenanceBound_of_executes (hex : Executes s m ctx env now supersedes st changes) :
    provenanceBoundToRun (appliedRun s m ctx env now supersedes st changes) ctx env = true := by
  have hall := hex.provenance
  rw [List.all_append, Bool.and_eq_true] at hall
  have hplan := List.all_eq_true.mp hall.2
    ("authz_plan_hash_matches", decide (ctx.authorizationPlanHash = some m.planHash)) (by simp [authorizationGates])
  have halembic := List.all_eq_true.mp hex.environment
    ("alembic_revision", ctx.expectedAlembic.isSome && env.alembicRevision == ctx.expectedAlembic) (by simp [environmentGates])
  have hrevision : env.alembicRevision = ctx.expectedAlembic := beq_iff_eq.mp (Bool.and_eq_true_iff.mp halembic).2
  have hmain := hex.expectedMain
  simp only [provenanceBoundToRun, appliedRun, AuditedDb.sealedRun, startedRun, hmain, if_true, hrevision, of_decide_eq_true hplan,
    decide_true, Bool.and_self]

end Gates

/-! ### The evidence right after the run -/

section Evidence
variable {s : AuditedDb} {m : Manifest} {ctx : ApplyContext} {env : Environment} {now : Instant} {supersedes : Option Nat}
  {st : Applying} {changes : List HistoryRemediationChange} {r : ManifestRow} {lane : ManifestLane}
  {ch : HistoryRemediationChange} {hash : Digest PriceObservation} {an : AnomalyRow}

theorem lookup_numbered (lane : ManifestLane) (hash : Digest PriceObservation) (next : Nat) (ses : List SideEffect) : ∃ id, (lane.numbered next ses).lookup hash =
    (ses.find? (·.targetObservationRef = hash)).map (lane.anomalyFor · id) := by
  induction ses generalizing next with
  | nil => exact ⟨0, rfl⟩
  | cons se ses ih =>
    by_cases h : se.targetObservationRef = hash
    · refine ⟨next, ?_⟩
      rw [List.find?_cons_of_pos (by simpa using h)]
      subst h
      exact List.lookup_cons_self
    · obtain ⟨id, hid⟩ := ih (next + 1)
      refine ⟨id, ?_⟩
      rw [List.find?_cons_of_neg (by simpa using h), ← hid]
      exact Dict.lookup_cons_of_ne (Ne.symm h)

theorem run?_applied (hk : s.Keyed) : (appliedDb s m ctx env now supersedes st changes).run? s.nextRunId =
    some (appliedRun s m ctx env now supersedes st changes) := by
  have hnew : s.nextRunId ∉ s.runs.map (·.id) := by
    rintro hin
    obtain ⟨r, hr, hid⟩ := List.mem_map.mp hin
    exact absurd (hk.runIds r hr) (by rw [hid]; exact lt_irrefl _)
  exact (row?_append_of_not_mem hnew).trans (List.find?_cons_of_pos (decide_eq_true rfl))

namespace Executes
variable (hex : Executes s m ctx env now supersedes st changes) (hk : s.Keyed)
include hex

theorem obsIdForHash (hl : lane ∈ m.appliedLanes) (hr : r ∈ lane.rows) : lane.obsIdForHash r.fullRowHash = some r.id := by
  have hplanned : ∀ r ∈ lane.rows, r ∈ m.plannedRows := fun r hr => List.mem_flatMap.mpr ⟨lane, hl, hr⟩
  rw [ManifestLane.obsIdForHash]
  cases hfind : lane.rows.find? (·.fullRowHash = r.fullRowHash) with
  | none => exact absurd (List.find?_eq_none.mp hfind r hr) (by simp)
  | some r' =>
    have hhash : r'.fullRowHash = r.fullRowHash := by simpa using List.find?_some hfind
    obtain ⟨row, hrow, hr⟩ := hex.row_of_planned (hplanned r hr)
    obtain ⟨row', hrow', hr'⟩ := hex.row_of_planned (hplanned r' (List.mem_of_find?_eq_some hfind))
    have heq : row' = row := Digest.sha256.inj (hr'.symm.trans (hhash.trans hr))
    have hid : r'.id = r.id := (key_of_row? hrow').symm.trans (heq ▸ key_of_row? hrow)
    exact congrArg some hid

include hk

omit hk in
theorem consumption_applied : (appliedDb s m ctx env now supersedes st changes).consumptions.find? (·.planHash = m.planHash) =
    some { planHash := m.planHash
           firstRunId := s.nextRunId
           appliedAt := now
           executionHash := (appliedRun s m ctx env now supersedes st changes).executionHash } := by
  have hnone : s.consumptions.find? (·.planHash = m.planHash) = none :=
    List.find?_eq_none.mpr fun c hc heq => hex.unconsumed c hc (of_decide_eq_true heq)
  show (s.consumptions ++ [_]).find? _ = _
  rw [List.find?_append, hnone, Option.none_or, List.find?_cons_of_pos (by exact decide_eq_true rfl)]
  rfl

theorem changesOf_applied : (appliedDb s m ctx env now supersedes st changes).changesOf s.nextRunId = changes := by
  have hold : s.changes.filter (·.remediationRunId = s.nextRunId) = [] :=
    List.filter_eq_nil_iff.mpr fun ch hch heq => absurd (of_decide_eq_true heq) (hk.changes ch hch).ne
  have hnew : changes.filter (·.remediationRunId = s.nextRunId) = changes := by
    refine List.filter_eq_self.mpr fun ch hch => ?_
    obtain ⟨p, -, -, next, id, live, after, -, -, -, -, rfl⟩ := (exists_of_forall₂ (hex.changes_spec hk).1).2 ch hch
    exact decide_eq_true (p := _ = s.nextRunId) rfl
  show (s.changes ++ changes).filter _ = changes
  rw [List.filter_append, hold, hnew, List.nil_append]

theorem changes_ids : changes.map (·.priceObservationId) = m.plannedRows.map (·.id) := by
  rw [map_eq_map_of_forall₂ (p := fun p => p.2.id) (hex.changes_spec hk).1, ← plannedPairs_map_snd, List.map_map]
  · rfl
  · rintro p ch ⟨-, next, id, live, after, -, -, -, -, rfl⟩
    rfl

theorem evidenceDrift_applied : (appliedDb s m ctx env now supersedes st changes).evidenceDrift
    (appliedRun s m ctx env now supersedes st changes) changes = none := by
  have hunknown : (!s.unknownFkRefs (m.plannedRows.map (·.id))) = true :=
    hex.drift (_, _) (List.mem_cons_of_mem _ (List.mem_cons_of_mem _ (List.mem_cons_of_mem _ List.mem_cons_self)))
  have hunknown' : s.unknownFkRefs (m.plannedRows.map (·.id)) = false := by simpa using hunknown
  rw [evidenceDrift_eq_none, hex.changes_ids hk]
  exact ⟨rfl, hunknown', rfl, rfl, rfl⟩

theorem sealDrift_applied : (appliedDb s m ctx env now supersedes st changes).sealDrift
    (appliedRun s m ctx env now supersedes st changes) changes = none := by
  refine sealDrift_eq_none.mpr ⟨fun ch hch => ?_, rfl, _, hex.consumption_applied, rfl, rfl⟩
  obtain ⟨p, -, -, next, id, live, after, -, -, -, -, rfl⟩ := (exists_of_forall₂ (hex.changes_spec hk).1).2 ch hch
  rfl

theorem anomalies_nodup : (st.anomalies.map (·.id)).Nodup := by
  rw [hex.anomalies hk, List.map_append, ids_createdAnomalies]
  refine List.nodup_append.mpr ⟨hk.anomalies, List.nodup_range', fun i hi j hj heq => ?_⟩
  obtain ⟨a, ha, rfl⟩ := List.mem_map.mp hi
  have hlt := hk.anomalyIds a ha
  have hle := (List.mem_range'_1.mp hj).1
  omega

theorem anomaly_of_lookup (hl : lane ∈ m.appliedLanes) (hr : r ∈ lane.rows) {next : Nat}
    (hcreated : ∀ e ∈ lane.created next, e.2 ∈ st.anomalies)
    (h : (lane.created next).lookup r.fullRowHash = some an) :
    (appliedDb s m ctx env now supersedes st changes).anomaly? an.id = some an ∧ an.priceObservationId = r.id ∧
      lane.sealedSideEffectRef r.fullRowHash =
        .sha256 ⟨"create_price_anomaly", r.fullRowHash, an.anomalyType, some an.severity⟩ := by
  have hmem : an ∈ st.anomalies := by
    obtain ⟨l₁, l₂, heq, -⟩ := List.lookup_eq_some_iff.mp h
    exact hcreated (r.fullRowHash, an) (heq ▸ List.mem_append_right _ List.mem_cons_self)
  obtain ⟨id, hid⟩ := lookup_numbered lane r.fullRowHash next lane.proposedSideEffects
  rw [ManifestLane.created, hid] at h
  obtain ⟨se, hse, rfl⟩ := Option.map_eq_some_iff.mp h
  have htarget : se.targetObservationRef = r.fullRowHash := by simpa using List.find?_some hse
  have hallowed := (hex.supported_of_mem hl).allowed se (List.mem_of_find?_eq_some hse)
  simp only [SideEffect.allowed, Bool.and_eq_true, Bool.or_eq_true, decide_eq_true_eq] at hallowed
  have hseverity : se.severity = some (se.severity.getD .low) := by
    rcases hallowed.2 with (h | h) | h <;> rw [h] <;> rfl
  refine ⟨row?_of_mem (hex.anomalies_nodup hk) hmem, ?_, ?_⟩
  · rw [ManifestLane.anomalyFor, htarget, hex.obsIdForHash hl hr]
    rfl
  · rw [ManifestLane.sealedSideEffectRef, hse]
    simp only [ManifestLane.anomalyFor, hallowed.1.1, htarget, ← hseverity]

theorem anomalyDrift_applied (hch : ch ∈ changes) :
    (appliedDb s m ctx env now supersedes st changes).anomalyDrift ch = none := by
  obtain ⟨p, -, hp, next, id, live, after, -, hcreated, -, -, rfl⟩ := (exists_of_forall₂ (hex.changes_spec hk).1).2 ch hch
  obtain ⟨hl, hr, -⟩ := mem_plannedPairs hp
  refine anomalyDrift_eq_none.mpr fun id hid => ?_
  obtain ⟨an, hlookup, rfl⟩ := Option.map_eq_some_iff.mp hid
  obtain ⟨hfound, hobs, -⟩ := hex.anomaly_of_lookup hk hl hr hcreated hlookup
  refine ⟨an, hfound, ?_, hobs⟩
  show ((p.1.created next).lookup p.2.fullRowHash).map anomalyHash = _
  rw [hlookup]
  rfl

theorem changeDrift_applied (hch : ch ∈ changes) :
    (appliedDb s m ctx env now supersedes st changes).changeDrift m.planHash ch = none := by
  obtain ⟨p, -, hp, next, id, live, after, -, hcreated, hafter, -, rfl⟩ :=
    (exists_of_forall₂ (hex.changes_spec hk).1).2 ch hch
  obtain ⟨hl, hr, -⟩ := mem_plannedPairs hp
  have hrow : (appliedDb s m ctx env now supersedes st changes).row? p.2.id = some after := hafter
  have href : changeSideEffectRef
      ((plannedChange s.nextRunId m.planHash p.1 (p.1.created next) now id live p.2).verified m.planHash after.mutableState)
      ((((p.1.created next).lookup p.2.fullRowHash).map (·.id)).bind
        (appliedDb s m ctx env now supersedes st changes).anomaly?) = p.1.sealedSideEffectRef p.2.fullRowHash := by
    cases hlookup : (p.1.created next).lookup p.2.fullRowHash with
    | none =>
      obtain ⟨id, hid⟩ := lookup_numbered p.1 p.2.fullRowHash next p.1.proposedSideEffects
      rw [← ManifestLane.created, hlookup] at hid
      rw [ManifestLane.sealedSideEffectRef, Option.map_eq_none_iff.mp hid.symm]
      rfl
    | some an =>
      obtain ⟨hfound, -, hsealed⟩ := hex.anomaly_of_lookup hk hl hr hcreated hlookup
      rw [hsealed, Option.map_some, Option.bind_some, hfound]
      rfl
  refine changeDrift_eq_none.mpr ⟨after, hrow, rfl, rfl, ?_⟩
  exact congrArg (fun ref => Digest.sha256 (⟨m.planHash, p.1.laneFingerprint, p.2.fullRowHash, p.2.action, ref⟩ : ActionKey))
    href.symm

end Executes

theorem restoreRows_eq_map (changes : List HistoryRemediationChange) (rows : List PriceObservation) :
    restoreRows changes rows = rows.map
      (rewrite (·.id) (·.priceObservationId) (fun ch x => x.withTemporal ch.originalTemporalState) changes) := by
  have hkey : ∀ (ch : HistoryRemediationChange) (x : PriceObservation), (x.withTemporal ch.originalTemporalState).id = x.id :=
    fun _ _ => rfl
  exact foldl_updateAt PriceObservation.id (fun ch : HistoryRemediationChange => ch.priceObservationId) hkey changes rows

theorem duplicateDrift_eq_none {seen changes : List HistoryRemediationChange}
    (hobs : (changes.map (·.priceObservationId)).Nodup) (hdet : (changes.map (·.deterministicActionId)).Nodup)
    (hseen : ∀ c ∈ seen, ∀ ch ∈ changes,
      c.priceObservationId ≠ ch.priceObservationId ∧ c.deterministicActionId ≠ ch.deterministicActionId) :
    duplicateDrift seen changes = none := by
  induction changes generalizing seen with
  | nil => rfl
  | cons ch rest ih =>
    obtain ⟨hch, hobs⟩ := List.nodup_cons.mp hobs
    obtain ⟨hch', hdet⟩ := List.nodup_cons.mp hdet
    rw [duplicateDrift, if_neg, if_neg, ih hobs hdet]
    · rintro c hc ch' hch''
      rcases List.mem_cons.mp hc with rfl | hc
      · exact ⟨fun heq => hch (List.mem_map.mpr ⟨ch', hch'', heq.symm⟩),
          fun heq => hch' (List.mem_map.mpr ⟨ch', hch'', heq.symm⟩)⟩
      · exact hseen c hc ch' (List.mem_cons_of_mem _ hch'')
    · simp only [List.any_eq_true, decide_eq_true_eq, not_exists, not_and]
      exact fun c hc => (hseen c hc ch List.mem_cons_self).2
    · simp only [List.any_eq_true, Bool.and_eq_true, decide_eq_true_eq, not_exists, not_and]
      exact fun c hc heq => absurd heq (hseen c hc ch List.mem_cons_self).1

/-! ### The restored tables -/

namespace Executes
variable (hex : Executes s m ctx env now supersedes st changes) (hk : s.Keyed)
include hex hk

theorem restoreRows_applied (honce : (m.plannedRows.map (·.id)).Nodup) :
    restoreRows changes st.observations = s.observations := by
  rw [restoreRows_eq_map, hex.observations hk, writeRows_eq_map, List.map_map]
  refine (List.map_congr_left fun x hx => ?_).trans (List.map_id _)
  have hids : x.id ∈ changes.map (·.priceObservationId) ↔ x.id ∈ m.plannedRows.map (·.id) := by rw [hex.changes_ids hk]
  by_cases hplanned : x.id ∈ m.plannedRows.map (·.id)
  · rw [← plannedPairs_map_snd, List.map_map] at hplanned
    obtain ⟨p, hp, hid : p.2.id = x.id⟩ := List.mem_map.mp hplanned
    obtain ⟨ch, hch, -, next, id, live, after, hlive, -, -, -, hmade⟩ := (exists_of_forall₂ (hex.changes_spec hk).1).1 p hp
    have hlive := hlive honce
    rw [hid, AuditedDb.row?, row?_of_mem hk.observations hx] at hlive
    obtain rfl := Option.some.inj hlive
    have hone : (changes.map (·.priceObservationId)).Nodup := hex.changes_ids hk ▸ honce
    have hobs : ch.priceObservationId = (p.2.write now x).id := by
      rw [hmade, ManifestRow.write_id, ← hid]
      rfl
    have horiginal : ch.originalTemporalState = x.mutableState := by
      rw [hmade]
      rfl
    rw [Function.comp_apply, rewrite_of_mem honce (mem_plannedPairs hp).2.2 hid, rewrite_of_mem hone hch hobs, horiginal]
    rfl
  · rw [Function.comp_apply, rewrite_of_not_mem hplanned, rewrite_of_not_mem (mt hids.mp hplanned)]
    rfl

theorem restoreAnomalies_applied :
    st.anomalies.filter (fun a => !(liveAnomalyIds changes).contains a.id) = s.anomalies := by
  have hlive : ∀ id, id ∈ liveAnomalyIds changes ↔
      id ∈ (createdAnomalies s.nextAnomalyId m.appliedLanes).map (·.id) := fun id => (hex.changes_spec hk).2.mem_iff
  rw [hex.anomalies hk, List.filter_append, List.filter_eq_self.mpr, List.filter_eq_nil_iff.mpr, List.append_nil]
  · intro a ha hkept
    rw [Bool.not_eq_true', List.contains_eq_mem, decide_eq_false_iff_not] at hkept
    exact hkept ((hlive a.id).mpr (List.mem_map_of_mem ha))
  · intro a ha
    rw [Bool.not_eq_true', List.contains_eq_mem, decide_eq_false_iff_not, hlive, ids_createdAnomalies]
    intro hin
    exact absurd (List.mem_range'_1.mp hin).1 (not_le.mpr (hk.anomalyIds a ha))

theorem restoreEvidence_applied (honce : (m.plannedRows.map (·.id)).Nodup) (later : Instant) :
    restoreEvidence (appliedDb s m ctx env now supersedes st changes) (appliedRun s m ctx env now supersedes st changes) later =
      .ok ((appliedDb s m ctx env now supersedes st changes).restoreRun
        (appliedRun s m ctx env now supersedes st changes) changes later) := by
  have hchanges : (appliedDb s m ctx env now supersedes st changes).changesOf
      (appliedRun s m ctx env now supersedes st changes).id = changes := hex.changesOf_applied hk
  have hone : (changes.map (·.priceObservationId)).Nodup := hex.changes_ids hk ▸ honce
  have hdet : (changes.map (·.deterministicActionId)).Nodup := by
    rw [map_eq_map_of_forall₂ hex.evidence]
    · exact hex.distinct
    · intro ch ch' h
      obtain ⟨after, -, rfl, -⟩ := sealChange_eq_ok h
      rfl
  have hdrift : (appliedDb s m ctx env now supersedes st changes).restoreDrift?
      (appliedRun s m ctx env now supersedes st changes) changes = none :=
    restoreDrift?_eq_none.mpr ⟨hex.sealDrift_applied hk, fun ch hch => hex.anomalyDrift_applied hk hch,
      duplicateDrift_eq_none hone hdet (fun c hc => by cases hc), fun ch hch => hex.changeDrift_applied hk hch⟩
  have hlive : (liveAnomalyIds changes).Nodup := by
    have hperm : (liveAnomalyIds changes).Perm _ := (hex.changes_spec hk).2
    rw [hperm.nodup_iff, ids_createdAnomalies]
    exact List.nodup_range'
  have hback : ∀ ch ∈ changes, (((appliedDb s m ctx env now supersedes st changes).restoreRun
      (appliedRun s m ctx env now supersedes st changes) changes later).row? ch.priceObservationId).map (·.mutableState) =
        some ch.originalTemporalState := by
    intro ch hch
    obtain ⟨p, -, -, next, id, live, after, hrow, -, -, -, rfl⟩ := (exists_of_forall₂ (hex.changes_spec hk).1).2 ch hch
    show ((row? (·.id) (restoreRows changes st.observations) p.2.id).map _) = _
    rw [hex.restoreRows_applied hk honce]
    exact congrArg _ (hrow honce)
  unfold restoreEvidence
  rw [hchanges, hex.evidenceDrift_applied hk]
  dsimp only
  unfold restoreLocked
  rw [hdrift]
  dsimp only
  rw [if_neg (not_not.mpr hlive), if_neg]
  rw [List.any_eq_true]
  rintro ⟨ch, hch, hne⟩
  exact of_decide_eq_true hne (hback ch hch)

end Executes
end Evidence

/-! ### A restore after the evidence was altered -/

/-- The evidence of a run is in the tables `t` what it is in `s`. -/
structure Unaltered (m : Manifest) (runId : Nat) (s t : AuditedDb) : Prop where
  rows : ∀ r ∈ m.plannedRows, (t.row? r.id).map (·.mutableState) = (s.row? r.id).map (·.mutableState)
  occurrences : ∀ r ∈ m.plannedRows, (t.occurrencesOf r.id).Perm (s.occurrencesOf r.id)
  dependencies : ∀ r ∈ m.plannedRows, (t.supportedFk r.id).Perm (s.supportedFk r.id)
  known : t.unknownFkRefs (m.plannedRows.map (·.id)) = false
  foreignKeys : t.fkFingerprint = s.fkFingerprint
  anomalies : ∀ ch ∈ s.changesOf runId, ∀ id, ch.createdAnomalyLiveId = some id →
    (t.anomaly? id).map anomalyHash = (s.anomaly? id).map anomalyHash
  changes : ((t.changesOf runId).map fun ch => (ch.toChangeRecord, ch.applyEvidenceHash)).Perm
    ((s.changesOf runId).map fun ch => (ch.toChangeRecord, ch.applyEvidenceHash))
  run : (t.run? runId).map (fun run => (runEvidence run [], run.executionHash)) =
    (s.run? runId).map fun run => (runEvidence run [], run.executionHash)
  consumption : (t.consumptions.find? (·.planHash = m.planHash)).map (fun c => (c.executionHash, c.firstRunId)) =
    (s.consumptions.find? (·.planHash = m.planHash)).map fun c => (c.executionHash, c.firstRunId)

theorem image_pair_inj {α : Type} [DecidableEq α] {ids : Finset Nat} {f g : Nat → α}
    (h : ids.image (fun id => (id, f id)) = ids.image fun id => (id, g id)) {id : Nat} (hid : id ∈ ids) : f id = g id := by
  have hin : (id, f id) ∈ ids.image fun id => (id, g id) := h ▸ Finset.mem_image_of_mem _ hid
  obtain ⟨id', -, heq⟩ := Finset.mem_image.mp hin
  obtain ⟨rfl, hg⟩ := Prod.mk.inj heq
  exact hg.symm

section Altered
variable {s t : AuditedDb} {m : Manifest} {ctx : ApplyContext} {env : Environment} {now later : Instant}
  {supersedes : Option Nat} {st : Applying} {changes changes' : List HistoryRemediationChange}
  {run run' : HistoryRemediationRun}

theorem runEvidence_nil_of_eq (h : runEvidence run' changes' = runEvidence run changes) :
    runEvidence run' [] = runEvidence run [] := by
  have hnil : ∀ (r : HistoryRemediationRun) (chs : List HistoryRemediationChange),
      runEvidence r [] = { runEvidence r chs with applyEvidenceHashes := 0 } := fun _ _ => rfl
  rw [hnil run' changes', hnil run changes, h]

theorem sealed_changes_perm {planHash : Digest PlanSeal}
    (h : ∀ ch ∈ changes, ch.applyEvidenceHash = applyEvidenceHash planHash ch.toChangeRecord)
    (h' : ∀ ch ∈ changes', ch.applyEvidenceHash = applyEvidenceHash planHash ch.toChangeRecord)
    (heq : (changes'.map (·.applyEvidenceHash)).Perm (changes.map (·.applyEvidenceHash))) :
    (changes'.map (·.toChangeRecord)).Perm (changes.map (·.toChangeRecord)) := by
  have hmap : ∀ {chs : List HistoryRemediationChange},
      (∀ ch ∈ chs, ch.applyEvidenceHash = applyEvidenceHash planHash ch.toChangeRecord) →
        chs.map (·.applyEvidenceHash) = (chs.map (·.toChangeRecord)).map (applyEvidenceHash planHash) := by
    intro chs hchs
    rw [List.map_map]
    exact List.map_congr_left hchs
  have hinj : Function.Injective (applyEvidenceHash planHash) := fun a b hab =>
    (ChangeEvidence.mk.inj (Digest.sha256.inj hab)).2.2
  rw [hmap h, hmap h'] at heq
  exact (List.map_perm_map_iff hinj).mp heq

namespace Executes
variable (hex : Executes s m ctx env now supersedes st changes) (hk : s.Keyed)
include hex hk

omit hex in
/-- Where the consumptions or the run are those that the apply has left, a seal that holds is the one of the apply. -/
theorem sealed_of_kept (hrun : t.run? s.nextRunId = some run)
    (hkept : t.consumptions = (appliedDb s m ctx env now supersedes st changes).consumptions ∨
      t.run? s.nextRunId = (appliedDb s m ctx env now supersedes st changes).run? s.nextRunId)
    (hseal : t.sealDrift run changes' = none) :
    run.executionHash = (appliedRun s m ctx env now supersedes st changes).executionHash ∧
      runEvidence run changes' = runEvidence (appliedRun s m ctx env now supersedes st changes) changes := by
  obtain ⟨-, hhash, c, hc, hexec, hfirst⟩ := sealDrift_eq_none.mp hseal
  have hsame : run.executionHash = (appliedRun s m ctx env now supersedes st changes).executionHash := by
    rcases hkept with hcons | hrow
    · have hmem : c ∈ s.consumptions ++ [_] := hcons ▸ List.mem_of_find?_eq_some hc
      rw [← hexec]
      rcases List.mem_append.mp hmem with hold | hnew
      · have hlt := hk.consumers c hold
        have hid : run.id = s.nextRunId := key_of_row? hrun
        rw [hfirst, hid] at hlt
        exact absurd hlt (lt_irrefl _)
      · rw [List.mem_singleton.mp hnew]
    · rw [hrun, run?_applied hk] at hrow
      rw [Option.some.inj hrow]
  refine ⟨hsame, ?_⟩
  rw [hhash] at hsame
  exact Digest.sha256.inj (Option.some.inj hsame)

theorem unaltered_of_restored (hrun : t.run? s.nextRunId = some run)
    (hkept : t.consumptions = (appliedDb s m ctx env now supersedes st changes).consumptions ∨
      t.run? s.nextRunId = (appliedDb s m ctx env now supersedes st changes).run? s.nextRunId)
    (h : restoreEvidence t run later = .ok (t.restoreRun run (t.changesOf run.id) later)) :
    Unaltered m s.nextRunId (appliedDb s m ctx env now supersedes st changes) t := by
  have hid : run.id = s.nextRunId := key_of_row? hrun
  obtain ⟨hevidence, hdrift, -, -⟩ := restoreEvidence_eq_ok h
  obtain ⟨hseal, hanomalies, -, hchanges⟩ := restoreDrift?_eq_none.mp hdrift
  rw [hid] at hevidence hseal hanomalies hchanges
  obtain ⟨hexec, hsame⟩ := sealed_of_kept hk hrun hkept hseal
  obtain ⟨hown, -, c, hc, hcons, hfirst⟩ := sealDrift_eq_none.mp hseal
  obtain ⟨hown', -⟩ := sealDrift_eq_none.mp (hex.sealDrift_applied hk)
  have hplan : run.planHash = m.planHash := congrArg RunEvidence.planHash hsame
  have hhashes : ((t.changesOf s.nextRunId).map (·.applyEvidenceHash)).Perm (changes.map (·.applyEvidenceHash)) :=
    Multiset.coe_eq_coe.mp (congrArg RunEvidence.applyEvidenceHashes hsame)
  rw [hplan] at hown hc hchanges
  have hrecords := sealed_changes_perm hown' hown hhashes
  have hids : ((t.changesOf s.nextRunId).map (·.priceObservationId)).Perm (m.plannedRows.map (·.id)) := by
    have hmap := hrecords.map ChangeRecord.priceObservationId
    rw [List.map_map, List.map_map] at hmap
    exact hmap.trans (.of_eq (hex.changes_ids hk))
  obtain ⟨hocc, hunknown, -, hfk, hschema⟩ := evidenceDrift_eq_none.mp hevidence
  have hoccEvidence : run.postApplyOccurrenceHashes = _ := congrArg RunEvidence.postApplyOccurrenceHashes hsame
  have hfkEvidence : run.postApplySupportedFkHashes = _ := congrArg RunEvidence.postApplySupportedFkHashes hsame
  have hfingerprint : run.discoveredFkFingerprint = _ := congrArg RunEvidence.discoveredFkFingerprint hsame
  have hfinset := List.toFinset_eq_of_perm _ _ hids
  have hmem : ∀ r ∈ m.plannedRows, r.id ∈ (m.plannedRows.map (·.id)).toFinset := fun r hr =>
    List.mem_toFinset.mpr (List.mem_map_of_mem hr)
  -- The change of the altered tables with the record of a change of the run.
  have hpartner : ∀ ch ∈ changes, ∃ ch' ∈ t.changesOf s.nextRunId, ch'.toChangeRecord = ch.toChangeRecord := by
    intro ch hch
    have hin := hrecords.mem_iff.mpr (List.mem_map_of_mem (f := (·.toChangeRecord)) hch)
    obtain ⟨ch', hch', heq⟩ := List.mem_map.mp hin
    exact ⟨ch', hch', heq⟩
  refine ⟨fun r hr => ?_, fun r hr => ?_, fun r hr => ?_, ?_, ?_, ?_, ?_, ?_, ?_⟩
  · have hin : r.id ∈ changes.map (·.priceObservationId) := hex.changes_ids hk ▸ List.mem_map_of_mem hr
    obtain ⟨ch, hch, hobs⟩ := List.mem_map.mp hin
    obtain ⟨ch', hch', hrecord⟩ := hpartner ch hch
    obtain ⟨row, hrow, -, hstate, -⟩ := changeDrift_eq_none.mp (hex.changeDrift_applied hk hch)
    obtain ⟨row', hrow', -, hstate', -⟩ := changeDrift_eq_none.mp (hchanges ch' hch')
    rw [congrArg ChangeRecord.priceObservationId hrecord, hobs] at hrow'
    rw [hobs] at hrow
    rw [hrow, hrow', Option.map_some, Option.map_some, ← hstate, ← hstate']
    exact congrArg ChangeRecord.actualAfterState hrecord
  · rw [hoccEvidence, AuditedDb.occurrenceEvidence, hfinset] at hocc
    have heq := image_pair_inj hocc (hmem r hr)
    exact (List.map_perm_map_iff fun _ _ => Digest.sha256.inj).mp (Multiset.coe_eq_coe.mp heq)
  · rw [hfkEvidence, AuditedDb.fkEvidence, hfinset] at hfk
    exact Multiset.coe_eq_coe.mp (image_pair_inj hfk (hmem r hr))
  · rw [AuditedDb.unknownFkRefs, ← hids.any_eq]
    exact hunknown
  · rw [hfingerprint] at hschema
    exact (Option.some.inj hschema).symm
  · intro ch hch id hlive
    rw [hex.changesOf_applied hk] at hch
    obtain ⟨ch', hch', hrecord⟩ := hpartner ch hch
    obtain ⟨an, han, hhash, -⟩ := anomalyDrift_eq_none.mp (hex.anomalyDrift_applied hk hch) id hlive
    obtain ⟨an', han', hhash', -⟩ := anomalyDrift_eq_none.mp (hanomalies ch' hch') id
      ((congrArg ChangeRecord.createdAnomalyLiveId hrecord).trans hlive)
    rw [han, han', Option.map_some, Option.map_some, ← hhash, ← hhash']
    exact congrArg ChangeRecord.createdAnomalyHash hrecord
  · rw [hex.changesOf_applied hk]
    have hpairs : ∀ {chs : List HistoryRemediationChange},
        (∀ ch ∈ chs, ch.applyEvidenceHash = applyEvidenceHash m.planHash ch.toChangeRecord) →
        chs.map (fun ch => (ch.toChangeRecord, ch.applyEvidenceHash)) =
          (chs.map (·.toChangeRecord)).map fun record => (record, applyEvidenceHash m.planHash record) := by
      intro chs hchs
      rw [List.map_map]
      exact List.map_congr_left fun ch hch => congrArg (Prod.mk _) (hchs ch hch)
    rw [hpairs hown, hpairs hown']
    exact hrecords.map _
  · rw [hrun, run?_applied hk, Option.map_some, Option.map_some, hexec, runEvidence_nil_of_eq hsame]
  · rw [hc, hex.consumption_applied, Option.map_some, Option.map_some, hcons, hexec, hfirst, hid]

end Executes
end Altered

/-! ### A plan for two rows of one fact -/

/-- Two staged rows of one fact, both open. -/
def repeatedRows : List PriceObservation :=
  [1, 2].flatMap fun id => ((({} : Db).record (milk 2 10 1)).live milkLane).map fun r => { r with id := id }

def seenOnce : PriceObservationOccurrence where
  id := 1
  priceObservationId := 1
  providerCode := some "mercadona"
  sourceId := none
  sourceUrl := none
  crawlRunId := none
  rawCaptureId := none
  connectorVersion := none
  parserVersion := none
  importedAt := 10
  confidenceScore := none
  verificationStatus := .unverified
  evidenceFingerprint := none

def repeatedDb : AuditedDb where
  observations := repeatedRows
  occurrences := [seenOnce]

def sampleSha : String := "aaaaaaaaaaaaaaaaaaaaaaaaaaaaaaaaaaaaaaaaaaaaaaaaaaaaaaaaaaaaaaaa"

def sampleCommit : String := "bbbbbbbbbbbbbbbbbbbbbbbbbbbbbbbbbbbbbbbb"

def sealedPlan (lanes : List ManifestLane) : Manifest :=
  let m : Manifest :=
    { schemaVersion := plannerSchemaVersion
      toolVersion := plannerToolVersion
      plannerSourceHash := sampleSha
      commitProvenance := ⟨none, none, none, true⟩
      generatedAt := some 0
      providerCode := none
      retailerId := some 1
      baselineCounts := ⟨2, 1⟩
      fkDiscovered := []
      applyBlockers := ["planner_is_plan_only"]
      applyPrerequisites := []
      planHash := .other ""
      lanes := lanes }
  { m with planHash := m.recomputePlanHash }

def samplePackage (planHash : Digest PlanSeal) : PackageFields where
  authorizationId := some "authorization-1"
  authorizationPackageHash := some sampleSha
  authorizationKeyFingerprint := some "aaaaaaaaaaaaaaaa"
  authorizationPlanHash := some planHash
  expectedMainSha := some sampleCommit
  expectedAlembic := some "0042"
  expectedProvenance := ⟨some sampleCommit, some sampleSha, some sampleSha, some sampleSha, some sampleSha⟩
  expectedProductPrice := 0
  expectedActiveMappings := 0
  authorizationGeneratedAt := some 0
  authorizationExpiresAt := some 1000
  expectedBackupSha256 := some sampleSha
  expectedBackupStorageReference := some "backup"
  expectedBackupStorageReferenceHash := some sampleSha
  operatorReference := none

def sampleContext (planHash : Digest PlanSeal) : ApplyContext :=
  { samplePackage planHash with
    appCommitSha := some sampleCommit
    deployedApiSha := some sampleCommit
    deployedWorkerSha := some sampleCommit
    observedProvenance :=
      ⟨some sampleCommit, some sampleSha, some sampleSha, some sampleSha, some sampleSha, some "0042", some sampleSha⟩
    packagePresent := true
    signatureValid := true
    authorizationValid := true
    backup := some sampleSha }

def sampleEnvironment : Environment where
  flags := {}
  killSwitch := "1"
  activations := []
  crawlRunStatuses := []
  crawlJobStatuses := []
  productPrices := 0
  activeMappings := 0
  alembicRevision := some "0042"
  trustRootHash := some sampleSha
  loadAuthorization planHash _ := some (samplePackage planHash)
  verifyBackup _ := (true, ⟨some sampleSha, some "backup", some sampleSha⟩)

def repeatedPlan : Manifest := sealedPlan (repeatedDb.planLanes (some 1))

/-- The row that is rolled back, listed once more. -/
def listedTwice : Manifest :=
  let lane := repeatedDb.laneManifest milkLane
  sealedPlan [{ lane with rows := lane.rows ++ (lane.rows.filter (·.action.writes)).map fun r => { r with action := .keep } }]

/-- The tables after an apply at 20. -/
def repaired (s : AuditedDb) (m : Manifest) : AuditedDb :=
  ((applyLocked s m (sampleContext m.planHash) sampleEnvironment 20 none).toOption.map (·.1)).getD s

theorem applyLocked_repaired {s : AuditedDb} {m : Manifest} {n : ℕ}
    (h : (applyLocked s m (sampleContext m.planHash) sampleEnvironment 20 none).toOption.any
      (fun out => out.2.status = .applied && out.2.changes = n) = true) :
    applyLocked s m (sampleContext m.planHash) sampleEnvironment 20 none =
      .ok (repaired s m, { status := .applied, planHash := m.planHash, run := some s.nextRunId, changes := n }) := by
  unfold repaired
  generalize happly : applyLocked s m (sampleContext m.planHash) sampleEnvironment 20 none = out at h
  cases out with
  | error e => cases h
  | ok out =>
    obtain ⟨s', result⟩ := out
    obtain ⟨hstatus, hchanges⟩ := Bool.and_eq_true_iff.mp h
    obtain ⟨st, changes, -, -, rfl⟩ := Executes.of_applied happly (of_decide_eq_true hstatus)
    rw [← of_decide_eq_true hchanges]
    rfl

/-! ### A run and its restore -/

/-- The restore of a run by the operator who has applied it. -/
def reviewedRestore (runId : Nat) (ctx : ApplyContext) (env : Environment) (operationNow : Instant) : RestoreCall where
  runId := runId
  ctx := ctx
  env := env
  operationNow := operationNow
  authorized := true
  confirmations := ["I_UNDERSTAND_THIS_RESTORES", "RUN_REVIEWED"]

theorem executeRestore_eq (t : AuditedDb) (call : RestoreCall) {restored : AuditedDb} {run : HistoryRemediationRun}
    (hfaults : call.faults = {}) (hauth : requireAuthorization call.authorized call.confirmations true = true)
    (hrun : t.run? call.runId = some run) (hunrestored : run.restoreStatus ≠ .restored) (hstatus : run.status = .applied)
    (hgates : restoreGates run.planHash call.ctx call.env call.operationNow = true)
    (hbound : provenanceBoundToRun run call.ctx call.env = true)
    (hevidence : restoreEvidence t run call.operationNow = .ok restored) :
    executeRestore t call =
      (restored, .ok { status := .restored, run := call.runId, restoredRows := (t.changesOf run.id).length }) := by
  have hguarded : restoreGuarded t call = (t, .ok (restored,
      { status := .restored, run := call.runId, restoredRows := (t.changesOf run.id).length })) := by
    unfold restoreGuarded
    rw [hfaults, hauth, hrun]
    simp [hunrestored, hstatus, hgates, hbound, hevidence, Faults.interrupt]
  unfold executeRestore
  rw [hguarded, hfaults]
  rfl

section Restored
variable {s s' : AuditedDb} {m : Manifest} {ctx : ApplyContext} {env : Environment} {now later : Instant}
  {supersedes : Option Nat} {st : Applying} {changes : List HistoryRemediationChange} {result : ApplyResult}

theorem Executes.executeRestore_applied (hex : Executes s m ctx env now supersedes st changes) (hk : s.Keyed)
    (honce : (m.plannedRows.map (·.id)).Nodup) (hwindow : InWindow ctx env now later) :
    executeRestore (appliedDb s m ctx env now supersedes st changes) (reviewedRestore s.nextRunId ctx env later) =
      ((appliedDb s m ctx env now supersedes st changes).restoreRun (appliedRun s m ctx env now supersedes st changes)
        changes later, .ok { status := .restored, run := s.nextRunId, restoredRows := m.plannedRows.length }) := by
  have hrows : changes.length = m.plannedRows.length := by
    rw [← List.length_map (·.priceObservationId), hex.changes_ids hk, List.length_map]
  have hgates : restoreGates (appliedRun s m ctx env now supersedes st changes).planHash ctx env later = true :=
    restoreGates_of_executes hex hwindow
  have hchanges : (appliedDb s m ctx env now supersedes st changes).changesOf
      (appliedRun s m ctx env now supersedes st changes).id = changes := hex.changesOf_applied hk
  have heq := executeRestore_eq (appliedDb s m ctx env now supersedes st changes)
    (reviewedRestore s.nextRunId ctx env later) rfl rfl (run?_applied hk) (fun h => by cases h) rfl hgates
    (provenanceBound_of_executes hex) (hex.restoreEvidence_applied hk honce later)
  rw [hchanges, hrows] at heq
  exact heq

/-- A plan that names each observation once is undone by a restore of its run in the window of its authorization, and
    after the evidence of a run was altered a restore changes nothing, or marks the run for review. -/
theorem restore_of_applied (hk : s.Keyed) (h : applyLocked s m ctx env now supersedes = .ok (s', result))
    (happlied : result.status = .applied) :
    ((m.plannedRows.map (·.id)).Nodup → ∀ later, InWindow ctx env now later → ∃ restored,
      executeRestore s' (reviewedRestore s.nextRunId ctx env later) =
        (restored, .ok { status := .restored, run := s.nextRunId, restoredRows := m.plannedRows.length }) ∧
      restored.observations = s.observations ∧ restored.anomalies = s.anomalies ∧ restored.occurrences = s.occurrences) ∧
    ∀ t call, call.runId = s.nextRunId →
      t.consumptions = s'.consumptions ∨ t.run? s.nextRunId = s'.run? s.nextRunId → ¬Unaltered m s.nextRunId s' t →
      (executeRestore t call).1 = t ∨ ∃ code, (executeRestore t call).1 = t.markManualReview s.nextRunId code := by
  obtain ⟨st, changes, hex, rfl, -⟩ := Executes.of_applied h happlied
  constructor
  · intro honce later hwindow
    exact ⟨_, hex.executeRestore_applied hk honce hwindow, hex.restoreRows_applied hk honce,
      hex.restoreAnomalies_applied hk, rfl⟩
  · intro t call hcall hkept haltered
    have heffect := executeRestore_effect t call
    generalize executeRestore t call = out at heffect ⊢
    cases heffect with
    | untouched r => exact Or.inl rfl
    | marked code e run => exact Or.inr ⟨code, hcall ▸ rfl⟩
    | restored run result hrun _ hevidence =>
      exact absurd (hex.unaltered_of_restored hk (hcall ▸ hrun) hkept hevidence) haltered

/-- Two rows of one fact, repaired and restored, and not restored when the occurrences are gone. -/
theorem restore_of_applied_repeated :
    (∃ restored, executeRestore (repaired repeatedDb repeatedPlan)
        (reviewedRestore 1 (sampleContext repeatedPlan.planHash) sampleEnvironment 30) =
          (restored, .ok { status := .restored, run := 1, restoredRows := 2 }) ∧ restored.observations = repeatedRows) ∧
      ∀ call : RestoreCall, call.runId = 1 →
        (executeRestore { repaired repeatedDb repeatedPlan with occurrences := [] } call).1 =
            { repaired repeatedDb repeatedPlan with occurrences := [] } ∨
          ∃ code, (executeRestore { repaired repeatedDb repeatedPlan with occurrences := [] } call).1 =
            AuditedDb.markManualReview { repaired repeatedDb repeatedPlan with occurrences := [] } 1 code := by
  have hk : repeatedDb.Keyed := ⟨by decide +kernel, by decide, by decide, by decide, by decide, by decide, by decide, by decide⟩
  have happly : applyLocked repeatedDb repeatedPlan (sampleContext repeatedPlan.planHash) sampleEnvironment 20 none =
      .ok (repaired repeatedDb repeatedPlan,
        { status := .applied, planHash := repeatedPlan.planHash, run := some 1, changes := 2 }) :=
    applyLocked_repaired (by decide +kernel)
  obtain ⟨hrestore, haltered⟩ := restore_of_applied hk happly rfl
  have hwindow : InWindow (sampleContext repeatedPlan.planHash) sampleEnvironment 20 30 :=
    ⟨by decide, by rintro e ⟨⟩; decide, by rintro g ⟨⟩; decide, by decide +kernel⟩
  have hrows : repeatedPlan.plannedRows.length = 2 := by decide +kernel
  obtain ⟨restored, hrestored, hobs, -⟩ := hrestore (by decide +kernel) 30 hwindow
  refine ⟨⟨restored, hrows ▸ hrestored, hobs⟩, fun call hcall => haltered _ call hcall (Or.inl rfl) fun h => ?_⟩
  have hone : ∃ r ∈ repeatedPlan.plannedRows, r.id = 1 := by decide +kernel
  obtain ⟨r, hr, hid⟩ := hone
  have hocc := (h.occurrences r hr).length_eq
  rw [hid] at hocc
  have hlength : ((repaired repeatedDb repeatedPlan).occurrencesOf 1).length = 1 := by decide +kernel
  exact absurd (hocc.trans hlength) (by decide)

/-- An observation that is listed twice is not restored; a restore that finds the occurrences gone writes its mark; and
    one that finds another `observed_at` goes through. -/
theorem restore_not_exact :
    applyLocked repeatedDb listedTwice (sampleContext listedTwice.planHash) sampleEnvironment 20 none =
        .ok (repaired repeatedDb listedTwice, { status := .applied, planHash := listedTwice.planHash, run := some 1, changes := 3 }) ∧
      (executeRestore (repaired repeatedDb listedTwice)
        (reviewedRestore 1 (sampleContext listedTwice.planHash) sampleEnvironment 30)).2 =
          .error (restoreDrift "post_restore_mismatch") ∧
      applyLocked repeatedDb repeatedPlan (sampleContext repeatedPlan.planHash) sampleEnvironment 20 none =
        .ok (repaired repeatedDb repeatedPlan,
          { status := .applied, planHash := repeatedPlan.planHash, run := some 1, changes := 2 }) ∧
      (executeRestore { repaired repeatedDb repeatedPlan with occurrences := [] }
        (reviewedRestore 1 (sampleContext repeatedPlan.planHash) sampleEnvironment 30)).1 ≠
          { repaired repeatedDb repeatedPlan with occurrences := [] } ∧
      (executeRestore
        { repaired repeatedDb repeatedPlan with
          observations := updateAt (·.id) 1 (·.revalidate 15 15) (repaired repeatedDb repeatedPlan).observations }
        (reviewedRestore 1 (sampleContext repeatedPlan.planHash) sampleEnvironment 30)).2 =
          .ok { status := .restored, run := 1, restoredRows := 2 } :=
  ⟨applyLocked_repaired (by decide +kernel), by decide +kernel, applyLocked_repaired (by decide +kernel), by decide +kernel,
    by decide +kernel⟩

end Restored
end CestaPlan.History
