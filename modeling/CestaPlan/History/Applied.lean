import CestaPlan.History.Executor
import CestaPlan.Library.Dict
import CestaPlan.Library.Runs

/-! What an apply that goes through has done: the cases of `applyLocked`, and the rows, the anomalies and the changes
    that the run writes. -/

namespace CestaPlan.History
open Runs Updates

/-! ### The locked part -/

/-- A run that writes its rows, with the session after them and its sealed changes. -/
structure Executes (s : AuditedDb) (m : Manifest) (ctx : ApplyContext) (env : Environment) (operationNow : Instant)
    (supersedes : Option Nat) (st : Applying) (changes : List HistoryRemediationChange) : Prop where
  unconsumed : ∀ c ∈ s.consumptions, c.planHash ≠ m.planHash
  gates : ∀ gate ∈ runAllGates s m ctx env true operationNow, gate.2 = true
  accepted : s.acceptsRun (startedRun s m ctx env operationNow supersedes) = true
  written : (m.lanes.filter (!·.excluded)).foldlM (applyLane s.nextRunId m.planHash operationNow) s.applying = .ok st
  distinct : (st.changes.map (·.deterministicActionId)).Nodup
  evidence : List.Forall₂ (fun ch ch' => sealChange m.planHash st ch = .ok ch') st.changes changes

section Locked
variable {s s' : AuditedDb} {m : Manifest} {ctx : ApplyContext} {env : Environment} {operationNow : Instant}
  {supersedes : Option Nat} {result : ApplyResult}

/-- A plan that was consumed is not applied again; any other one has passed its gates and written its rows. -/
theorem applyLocked_cases (h : applyLocked s m ctx env operationNow supersedes = .ok (s', result)) :
    ((∃ c ∈ s.consumptions, c.planHash = m.planHash) ∧ s' = s ∧ result.status ≠ .applied) ∨
    ∃ st changes, Executes s m ctx env operationNow supersedes st changes ∧
      s' = s.completeRun m (startedRun s m ctx env operationNow supersedes) st changes operationNow ∧
      result = { status := .applied, planHash := m.planHash, run := some s.nextRunId, changes := changes.length } := by
  unfold applyLocked at h
  split at h
  · next hconsumed =>
    obtain ⟨c, hc, heq⟩ := List.any_eq_true.mp hconsumed
    obtain ⟨rfl, rfl⟩ := Prod.mk.inj (Except.ok.inj h)
    refine Or.inl ⟨⟨c, hc, of_decide_eq_true heq⟩, rfl, ?_⟩
    dsimp only
    split <;> exact fun h => by cases h
  next hconsumed =>
  split at h
  · cases h
  next hgates =>
  dsimp only at h
  split at h
  · cases h
  next haccepts =>
  split at h
  · cases h
  next st hst =>
  split at h
  · cases h
  next hdistinct =>
  split at h
  · cases h
  next changes hchanges =>
  split at h
  · cases h
  obtain ⟨rfl, rfl⟩ := Prod.mk.inj (Except.ok.inj h)
  refine Or.inr ⟨st, changes, ⟨fun c hc heq => hconsumed ?_, ?_, by simpa using haccepts, hst, not_not.mp hdistinct,
    forall₂_of_mapM_eq_ok hchanges⟩, rfl, rfl⟩
  · exact List.any_eq_true.mpr ⟨c, hc, decide_eq_true heq⟩
  · simpa using hgates

theorem Executes.of_applied (h : applyLocked s m ctx env operationNow supersedes = .ok (s', result))
    (ha : result.status = .applied) :
    ∃ st changes, Executes s m ctx env operationNow supersedes st changes ∧
      s' = s.completeRun m (startedRun s m ctx env operationNow supersedes) st changes operationNow ∧
      result = { status := .applied, planHash := m.planHash, run := some s.nextRunId, changes := changes.length } := by
  rcases applyLocked_cases h with ⟨-, -, hne⟩ | hcase
  · exact absurd ha hne
  · exact hcase

end Locked

/-! ### The observations -/

@[simp] theorem PriceObservation.withTemporal_id (r : PriceObservation) (t : TemporalFields) : (r.withTemporal t).id = r.id := rfl

@[simp] theorem PriceObservation.withTemporal_lane (r : PriceObservation) (t : TemporalFields) :
    (r.withTemporal t).lane = r.lane := rfl

@[simp] theorem PriceObservation.mutableState_withTemporal (r : PriceObservation) (t : TemporalFields) :
    (r.withTemporal t).mutableState = t := rfl

@[simp] theorem PriceObservation.withTemporal_mutableState (r : PriceObservation) : r.withTemporal r.mutableState = r := rfl

@[simp] theorem PriceObservation.withTemporal_withTemporal (r : PriceObservation) (t u : TemporalFields) :
    (r.withTemporal t).withTemporal u = r.withTemporal u := rfl

/-- What a row of the plan makes of its observation. -/
def ManifestRow.write (runTs : Instant) (r : ManifestRow) (x : PriceObservation) : PriceObservation :=
  x.withTemporal (r.bound runTs x.mutableState)

/-- The observations after the rows of a plan, one after the other. -/
def writeRows (runTs : Instant) (rows : List ManifestRow) (observations : List PriceObservation) : List PriceObservation :=
  rows.foldl (fun observations r => updateAt (·.id) r.id (r.write runTs) observations) observations

section Rows
variable {runId : Nat} {planHash : Digest PlanSeal} {lane : ManifestLane} {runTs : Instant}
  {created : List (Digest PriceObservation × AnomalyRow)} {st st' : Applying} {r : ManifestRow} {rows : List ManifestRow}
  {observations : List PriceObservation}

theorem ManifestRow.write_id (r : ManifestRow) (x : PriceObservation) : (r.write runTs x).id = x.id := rfl

theorem writeRows_eq_map : writeRows runTs rows observations =
    observations.map (rewrite (·.id) (·.id) (ManifestRow.write runTs) rows) :=
  foldl_updateAt PriceObservation.id ManifestRow.id ManifestRow.write_id rows observations

theorem rewrite_id (x : PriceObservation) : (rewrite (·.id) (·.id) (ManifestRow.write runTs) rows x).id = x.id :=
  key_rewrite PriceObservation.id ManifestRow.id ManifestRow.write_id rows x

theorem writeRows_ids (runTs : Instant) (rows : List ManifestRow) (observations : List PriceObservation) :
    (writeRows runTs rows observations).map (·.id) = observations.map (·.id) := by
  rw [writeRows_eq_map, List.map_map]
  exact List.map_congr_left fun x _ => rewrite_id x

theorem row?_writeRows_of_not_mem {id : Nat} (h : id ∉ rows.map (·.id)) :
    row? (·.id) (writeRows runTs rows observations) id = row? (·.id) observations id := by
  rw [writeRows_eq_map, row?_map rewrite_id]
  cases hx : row? (·.id) observations id with
  | none => rfl
  | some x =>
    have hid : x.id = id := key_of_row? hx
    exact congrArg some (rewrite_of_not_mem (hid ▸ h))

theorem applyRow_eq_ok (h : applyRow runId planHash lane created runTs st r = .ok st') :
    ∃ live, st.row? r.id = some live ∧ r.action.supported = true ∧ st' = { st with
      observations := updateAt (·.id) r.id (·.withTemporal (r.bound runTs live.mutableState)) st.observations
      changes := st.changes ++ [plannedChange runId planHash lane created runTs st.nextChangeId live r]
      nextChangeId := st.nextChangeId + 1 } := by
  unfold applyRow at h
  split at h
  · cases h
  next live hlive =>
  split at h
  · cases h
  next hsupported => exact ⟨live, hlive, by simpa using hsupported, (Except.ok.inj h).symm⟩

theorem applyRow_observations (hids : (st.observations.map (·.id)).Nodup)
    (h : applyRow runId planHash lane created runTs st r = .ok st') :
    st'.observations = updateAt (·.id) r.id (r.write runTs) st.observations := by
  obtain ⟨live, hlive, -, rfl⟩ := applyRow_eq_ok h
  refine List.map_congr_left fun x hx => ?_
  split
  · next hid =>
    have heq : x = live := List.inj_on_of_nodup_map hids hx (mem_of_row? hlive) (hid.trans (key_of_row? hlive).symm)
    rw [heq]
    rfl
  · rfl

theorem applyRows_spec (hids : (st.observations.map (·.id)).Nodup)
    (h : rows.foldlM (applyRow runId planHash lane created runTs) st = .ok st') :
    st'.observations = writeRows runTs rows st.observations ∧ st'.anomalies = st.anomalies ∧
      st'.nextAnomalyId = st.nextAnomalyId := by
  induction rows generalizing st with
  | nil =>
    cases h
    exact ⟨rfl, rfl, rfl⟩
  | cons r rows ih =>
    obtain ⟨t, ht, hrest⟩ := foldlM_cons_eq_ok.mp h
    have hobs := applyRow_observations hids ht
    obtain ⟨live, -, -, rfl⟩ := applyRow_eq_ok ht
    have hids' : ((writeRows runTs [r] st.observations).map (·.id)).Nodup := by
      rwa [writeRows_ids]
    obtain ⟨hobs', hanom, hnext⟩ := ih (hobs ▸ hids') hrest
    exact ⟨by rw [hobs', hobs]; rfl, hanom, hnext⟩

end Rows

/-! ### The anomalies -/

/-- The anomaly of a side effect. -/
def ManifestLane.anomalyFor (lane : ManifestLane) (se : SideEffect) (id : Nat) : AnomalyRow where
  id := id
  priceObservationId := (lane.obsIdForHash se.targetObservationRef).getD 0
  crawlRunId := none
  anomalyType := se.anomalyType
  severity := se.severity.getD .low
  actualValue := none
  status := .open

/-- The anomalies of side effects, with their targets, numbered from `next`. -/
def ManifestLane.numbered (lane : ManifestLane) (next : Nat) (ses : List SideEffect) :
    List (Digest PriceObservation × AnomalyRow) :=
  (ses.zipIdx next).map fun p => (p.1.targetObservationRef, lane.anomalyFor p.1 p.2)

def ManifestLane.created (lane : ManifestLane) (next : Nat) : List (Digest PriceObservation × AnomalyRow) :=
  lane.numbered next lane.proposedSideEffects

def createdAnomalies (next : Nat) : List ManifestLane → List AnomalyRow
  | [] => []
  | lane :: lanes =>
    (lane.created next).map (·.2) ++ createdAnomalies (next + lane.proposedSideEffects.length) lanes

/-- What the side effects of a lane leave of the session. -/
structure SideEffectsDone (lane : ManifestLane) (st : Applying) (ses : List SideEffect) (st' : Applying)
    (created : List (Digest PriceObservation × AnomalyRow)) : Prop where
  numbered : created = lane.numbered st.nextAnomalyId ses
  session : st' = { st with
    anomalies := st.anomalies ++ created.map (·.2)
    nextAnomalyId := st.nextAnomalyId + ses.length }
  targets : ∀ se ∈ ses, (lane.obsIdForHash se.targetObservationRef).isSome ∧ se.severity.isSome
  new : ∀ se ∈ ses, ∀ a ∈ st.anomalies, a.status = .open → a.anomalyType = se.anomalyType →
    some a.priceObservationId ≠ lane.obsIdForHash se.targetObservationRef
  distinct : (ses.map fun se => (lane.obsIdForHash se.targetObservationRef, se.anomalyType)).Nodup

section SideEffects
variable {lane : ManifestLane} {st st' : Applying} {se : SideEffect} {ses : List SideEffect} {an : AnomalyRow}
  {created : List (Digest PriceObservation × AnomalyRow)} {next : Nat} {lanes : List ManifestLane}

theorem applySideEffect_eq_ok (h : applySideEffect lane st se = .ok (st', an)) :
    an = lane.anomalyFor se st.nextAnomalyId ∧
      st' = { st with anomalies := st.anomalies ++ [an], nextAnomalyId := st.nextAnomalyId + 1 } ∧
      (lane.obsIdForHash se.targetObservationRef).isSome ∧ se.severity.isSome ∧
      ∀ a ∈ st.anomalies, a.status = .open → a.anomalyType = se.anomalyType →
        some a.priceObservationId ≠ lane.obsIdForHash se.targetObservationRef := by
  unfold applySideEffect at h
  split at h
  · cases h
  split at h
  · next obsId severity hobs hsev =>
    split at h
    · cases h
    next hnew =>
    obtain ⟨rfl, rfl⟩ := Prod.mk.inj (Except.ok.inj h)
    refine ⟨by simp [ManifestLane.anomalyFor, hobs, hsev], rfl, by simp [hobs], by simp [hsev], ?_⟩
    intro a ha hopen htype hsame
    refine hnew (List.any_eq_true.mpr ⟨a, ha, ?_⟩)
    rw [hobs] at hsame
    simp [Option.some.inj hsame, htype, hopen]
  · cases h

theorem applySideEffects_done (h : applySideEffects lane st ses = .ok (st', created)) :
    SideEffectsDone lane st ses st' created := by
  induction ses generalizing st st' created with
  | nil =>
    obtain ⟨rfl, rfl⟩ := Prod.mk.inj (Except.ok.inj h)
    exact ⟨rfl, by simp, by simp, by simp, List.nodup_nil⟩
  | cons se ses ih =>
    unfold applySideEffects at h
    split at h
    · cases h
    next t an hse =>
    split at h
    · cases h
    next t' rest hrest =>
    obtain ⟨rfl, rfl⟩ := Prod.mk.inj (Except.ok.inj h)
    obtain ⟨rfl, rfl, htarget, hsev, hnew⟩ := applySideEffect_eq_ok hse
    have hdone := ih hrest
    refine ⟨?_, ?_, ?_, ?_, ?_⟩
    · rw [hdone.numbered]
      rfl
    · rw [hdone.session]
      simp [Nat.add_comm, Nat.add_left_comm]
    · intro se' hse'
      rcases List.mem_cons.mp hse' with rfl | hse'
      · exact ⟨htarget, hsev⟩
      · exact hdone.targets se' hse'
    · intro se' hse' a ha
      rcases List.mem_cons.mp hse' with rfl | hse'
      · exact hnew a ha
      · exact hdone.new se' hse' a (List.mem_append_left _ ha)
    · refine List.nodup_cons.mpr ⟨fun hin => ?_, hdone.distinct⟩
      obtain ⟨se', hse', heq⟩ := List.mem_map.mp hin
      obtain ⟨hobs, htype⟩ := Prod.mk.inj heq
      refine hdone.new se' hse' (lane.anomalyFor se st.nextAnomalyId) (by simp) rfl htype.symm ?_
      rw [hobs, ManifestLane.anomalyFor, Option.getD_of_ne_none]
      exact Option.ne_none_iff_isSome.mpr htarget

theorem ids_created : (lane.created next).map (·.2.id) = List.range' next lane.proposedSideEffects.length := by
  rw [ManifestLane.created, ManifestLane.numbered, List.map_map]
  exact List.zipIdx_map_snd next lane.proposedSideEffects

theorem ids_createdAnomalies : (createdAnomalies next lanes).map (·.id) =
    List.range' next (lanes.map (·.proposedSideEffects.length)).sum := by
  induction lanes generalizing next with
  | nil => rfl
  | cons lane lanes ih =>
    rw [createdAnomalies, List.map_append, List.map_map, ih, List.map_cons, List.sum_cons, ← List.range'_append_1]
    exact congrArg (· ++ _) ids_created

end SideEffects

/-! ### The lanes -/

/-- A change of a planned row. Where `once` holds, the observation was one of `rows`. -/
def ChangeOf (runId : Nat) (planHash : Digest PlanSeal) (runTs : Instant) (rows : List PriceObservation)
    (anomalies : List AnomalyRow) (once : Prop) (p : ManifestLane × ManifestRow) (ch : HistoryRemediationChange) : Prop :=
  ∃ next id live, (once → row? (·.id) rows p.2.id = some live) ∧ (∀ e ∈ p.1.created next, e.2 ∈ anomalies) ∧
    ch = plannedChange runId planHash p.1 (p.1.created next) runTs id live p.2

/-- The session has the observations `observations` of the rows, each named once. -/
def Applying.Fresh (st : Applying) (observations : List PriceObservation) (rows : List ManifestRow) : Prop :=
  (rows.map (·.id)).Nodup ∧ ∀ r ∈ rows, st.row? r.id = Updates.row? (·.id) observations r.id

/-- The part of `_actions_supported` about one lane. -/
structure ManifestLane.Supported (lane : ManifestLane) : Prop where
  allowed : ∀ se ∈ lane.proposedSideEffects, se.allowed = true
  targets : ∀ se ∈ lane.proposedSideEffects, (lane.rows.map (·.fullRowHash)).count se.targetObservationRef = 1

section Lanes
variable {runId : Nat} {planHash : Digest PlanSeal} {lane : ManifestLane} {runTs : Instant} {next : Nat}
  {created : List (Digest PriceObservation × AnomalyRow)} {st st' : Applying} {r : ManifestRow} {rows : List ManifestRow}
  {observations : List PriceObservation} {lanes : List ManifestLane}

theorem applyLane_eq_ok (h : applyLane runId planHash runTs st lane = .ok st') :
    ∃ t, SideEffectsDone lane st lane.proposedSideEffects t (lane.created st.nextAnomalyId) ∧
      lane.rows.foldlM (applyRow runId planHash lane (lane.created st.nextAnomalyId) runTs) t = .ok st' := by
  unfold applyLane at h
  split at h
  · cases h
  next t created hses =>
  have hdone := applySideEffects_done hses
  have hcreated : created = lane.created st.nextAnomalyId := hdone.numbered
  subst hcreated
  exact ⟨t, hdone, h⟩

theorem applyLane_spec (hids : (st.observations.map (·.id)).Nodup) (h : applyLane runId planHash runTs st lane = .ok st') :
    st'.observations = writeRows runTs lane.rows st.observations ∧
      st'.anomalies = st.anomalies ++ (lane.created st.nextAnomalyId).map (·.2) ∧
      st'.nextAnomalyId = st.nextAnomalyId + lane.proposedSideEffects.length := by
  obtain ⟨t, hdone, hrows⟩ := applyLane_eq_ok h
  have hsession := hdone.session
  subst hsession
  exact applyRows_spec (by exact hids) hrows

theorem applyLanes_spec (hids : (st.observations.map (·.id)).Nodup)
    (h : lanes.foldlM (applyLane runId planHash runTs) st = .ok st') :
    st'.observations = writeRows runTs (lanes.flatMap (·.rows)) st.observations ∧
      st'.anomalies = st.anomalies ++ createdAnomalies st.nextAnomalyId lanes := by
  induction lanes generalizing st with
  | nil =>
    cases h
    exact ⟨rfl, (List.append_nil _).symm⟩
  | cons lane lanes ih =>
    obtain ⟨t, ht, hrest⟩ := foldlM_cons_eq_ok.mp h
    obtain ⟨hobs, hanom, hnext⟩ := applyLane_spec hids ht
    have hids' : (t.observations.map (·.id)).Nodup := by
      rw [hobs, writeRows_ids]
      exact hids
    obtain ⟨hobs', hanom'⟩ := ih hids' hrest
    refine ⟨?_, ?_⟩
    · rw [hobs', hobs, List.flatMap_cons]
      exact List.foldl_append.symm
    · rw [hanom', hanom, hnext, List.append_assoc]
      rfl

/-- The observations of the rows that come after others. -/
theorem Applying.Fresh.after {t : Applying} {rows' : List ManifestRow} (h : st.Fresh observations (rows ++ rows'))
    (hobs : t.observations = writeRows runTs rows st.observations) : t.Fresh observations rows' := by
  obtain ⟨hnodup, hfound⟩ := h
  rw [List.map_append] at hnodup
  obtain ⟨-, hrest, hdisjoint⟩ := List.nodup_append.mp hnodup
  refine ⟨hrest, fun r hr => ?_⟩
  rw [Applying.row?, hobs, row?_writeRows_of_not_mem]
  · exact hfound r (List.mem_append_right _ hr)
  · exact fun hin => hdisjoint _ hin _ (List.mem_map_of_mem hr) rfl

theorem applyRows_changes (hids : (st.observations.map (·.id)).Nodup)
    (h : rows.foldlM (applyRow runId planHash lane created runTs) st = .ok st') :
    ∃ new, st'.changes = st.changes ++ new ∧ List.Forall₂ (fun r ch => ∃ id live,
      (st.Fresh observations rows → row? (·.id) observations r.id = some live) ∧
        ch = plannedChange runId planHash lane created runTs id live r) rows new := by
  induction rows generalizing st with
  | nil =>
    cases h
    exact ⟨[], (List.append_nil _).symm, List.Forall₂.nil⟩
  | cons r rows ih =>
    obtain ⟨t, ht, hrest⟩ := foldlM_cons_eq_ok.mp h
    have hobs : t.observations = writeRows runTs [r] st.observations := applyRow_observations hids ht
    obtain ⟨live, hlive, -, hsession⟩ := applyRow_eq_ok ht
    have hids' : (t.observations.map (·.id)).Nodup := by
      rw [hobs, writeRows_ids]
      exact hids
    obtain ⟨new, hchanges, hnew⟩ := ih hids' hrest
    refine ⟨_ :: new, ?_, List.Forall₂.cons ⟨st.nextChangeId, live, fun hfresh => ?_, rfl⟩ (hnew.imp ?_)⟩
    · rw [hchanges, hsession, List.append_assoc]
      rfl
    · rw [← hfresh.2 r List.mem_cons_self]
      exact hlive
    · rintro r' ch ⟨id, live', hlive', hch⟩
      exact ⟨id, live', fun hfresh => hlive' (Applying.Fresh.after (by exact hfresh) hobs), hch⟩

theorem targets_created : (lane.created next).map (·.1) = lane.proposedSideEffects.map (·.targetObservationRef) := by
  rw [ManifestLane.created, ManifestLane.numbered, List.map_map,
    ← List.zipIdx_map_fst next lane.proposedSideEffects, List.map_map, List.zipIdx_map_fst]
  rfl

theorem targets_nodup {t : Applying} (hsup : lane.Supported)
    (h : SideEffectsDone lane st lane.proposedSideEffects t created) :
    (lane.proposedSideEffects.map (·.targetObservationRef)).Nodup := by
  have hmap : lane.proposedSideEffects.map (fun se => (lane.obsIdForHash se.targetObservationRef, se.anomalyType)) =
      (lane.proposedSideEffects.map (·.targetObservationRef)).map fun hash => (lane.obsIdForHash hash, sameTimestampConflict) := by
    rw [List.map_map]
    refine List.map_congr_left fun se hse => Prod.ext rfl ?_
    have hallowed := hsup.allowed se hse
    simp only [SideEffect.allowed, Bool.and_eq_true, decide_eq_true_eq] at hallowed
    exact hallowed.1.2
  exact List.Nodup.of_map _ (hmap ▸ h.distinct)

theorem live_created (hsup : lane.Supported) (htargets : (lane.proposedSideEffects.map (·.targetObservationRef)).Nodup) :
    (lane.rows.filterMap fun r => ((lane.created next).lookup r.fullRowHash).map (·.id)).Perm
      ((lane.created next).map (·.2.id)) := by
  have hkeys : ((lane.created next).map Prod.fst).Nodup := targets_created ▸ htargets
  have hids : ((lane.created next).map (·.2.id)).Nodup := ids_created ▸ List.nodup_range'
  have hlookup : ∀ hash an, (lane.created next).lookup hash = some an ↔ (hash, an) ∈ lane.created next := by
    intro hash an
    have hentry : (hash, an) ∈ (⟨lane.created next, hkeys⟩ : Dict _ _).entries ↔ _ := Dict.mem_entries_iff
    exact hentry.symm
  have hhash : lane.rows.filterMap (fun r => ((lane.created next).lookup r.fullRowHash).map (·.id)) =
      (lane.rows.map (·.fullRowHash)).filterMap fun hash => ((lane.created next).lookup hash).map (·.id) := by
    rw [List.filterMap_map]
    rfl
  rw [hhash]
  refine List.perm_iff_count.mpr fun id => ?_
  rw [List.count_filterMap]
  by_cases hid : id ∈ (lane.created next).map (·.2.id)
  · obtain ⟨⟨hash, an⟩, he, rfl⟩ := List.mem_map.mp hid
    have htarget : hash ∈ lane.proposedSideEffects.map (·.targetObservationRef) :=
      targets_created ▸ List.mem_map_of_mem (f := Prod.fst) he
    obtain ⟨se, hse, hseq⟩ := List.mem_map.mp htarget
    rw [List.count_eq_one_of_mem hids hid, ← hsup.targets se hse, hseq, List.count]
    refine List.countP_congr fun hash' _ => ?_
    rw [beq_iff_eq, beq_iff_eq, Option.map_eq_some_iff]
    constructor
    · rintro ⟨an', han', hid'⟩
      have heq := List.inj_on_of_nodup_map hids ((hlookup _ _).mp han') he hid'
      exact congrArg Prod.fst heq
    · rintro rfl
      exact ⟨an, (hlookup _ _).mpr he, rfl⟩
  · rw [List.count_eq_zero_of_not_mem hid]
    refine List.countP_eq_zero.mpr fun hash _ hsome => hid ?_
    obtain ⟨an, han, rfl⟩ := Option.map_eq_some_iff.mp (beq_iff_eq.mp hsome)
    exact List.mem_map_of_mem ((hlookup _ _).mp han)

theorem applyLanes_changes (hids : (st.observations.map (·.id)).Nodup)
    (h : lanes.foldlM (applyLane runId planHash runTs) st = .ok st') :
    ∃ new, st'.changes = st.changes ++ new ∧
      List.Forall₂
        (ChangeOf runId planHash runTs observations st'.anomalies (st.Fresh observations (lanes.flatMap (·.rows))))
        (lanes.flatMap fun l => l.rows.map (l, ·)) new ∧
      ((∀ l ∈ lanes, l.Supported) →
        (new.filterMap (·.createdAnomalyLiveId)).Perm ((createdAnomalies st.nextAnomalyId lanes).map (·.id))) := by
  induction lanes generalizing st with
  | nil =>
    cases h
    exact ⟨[], (List.append_nil _).symm, List.Forall₂.nil, fun _ => .nil⟩
  | cons lane lanes ih =>
    obtain ⟨t, ht, hrest⟩ := foldlM_cons_eq_ok.mp h
    obtain ⟨hobs, hanom, hnext⟩ := applyLane_spec hids ht
    have hids' : (t.observations.map (·.id)).Nodup := by
      rw [hobs, writeRows_ids]
      exact hids
    obtain ⟨new', hchanges', hnew', hlive'⟩ := ih hids' hrest
    obtain ⟨-, hfinal⟩ := applyLanes_spec hids' hrest
    obtain ⟨u, hdone, hrows⟩ := applyLane_eq_ok ht
    have hsession := hdone.session
    subst hsession
    obtain ⟨new, hchanges, hnew⟩ := applyRows_changes (by exact hids) hrows
    refine ⟨new ++ new', by rw [hchanges', hchanges, List.append_assoc], ?_, fun hsup => ?_⟩
    · refine List.rel_append ?_ (hnew'.imp ?_)
      · rw [List.forall₂_map_left_iff]
        refine hnew.imp ?_
        rintro r ch ⟨id, live, hlive, hch⟩
        refine ⟨st.nextAnomalyId, id, live, fun hfresh => hlive ?_, fun e he => ?_, hch⟩
        · obtain ⟨hnodup, hfound⟩ := hfresh
          rw [List.flatMap_cons, List.map_append] at hnodup
          exact ⟨(List.nodup_append.mp hnodup).1, fun r hr => hfound r (List.mem_append_left _ hr)⟩
        · rw [hfinal, hanom]
          exact List.mem_append_left _ (List.mem_append_right _ (List.mem_map_of_mem he))
      · rintro p ch ⟨next, id, live, hlive, hcreated, hch⟩
        exact ⟨next, id, live, fun hfresh => hlive (Applying.Fresh.after hfresh hobs), hcreated, hch⟩
    · obtain ⟨hlane, hlanes⟩ := List.forall_mem_cons.mp hsup
      rw [List.filterMap_append, createdAnomalies, List.map_append, List.map_map, ← hnext]
      refine List.Perm.append ?_ (hlive' hlanes)
      have hfilter : new.filterMap (·.createdAnomalyLiveId) =
          lane.rows.filterMap fun r => ((lane.created st.nextAnomalyId).lookup r.fullRowHash).map (·.id) :=
        filterMap_eq_filterMap_of_forall₂ hnew fun r ch ⟨id, live, _, hch⟩ => hch ▸ rfl
      rw [hfilter]
      exact live_created hlane (targets_nodup hlane hdone)

end Lanes

/-! ### The run as a whole -/

/-- The lanes that an apply goes through, and their rows with them. -/
def Manifest.appliedLanes (m : Manifest) : List ManifestLane := m.lanes.filter (!·.excluded)

def Manifest.plannedPairs (m : Manifest) : List (ManifestLane × ManifestRow) :=
  m.appliedLanes.flatMap fun lane => lane.rows.map (lane, ·)

/-- What the keys of the tables promise. -/
structure AuditedDb.Keyed (s : AuditedDb) : Prop where
  observations : (s.observations.map (·.id)).Nodup
  anomalies : (s.anomalies.map (·.id)).Nodup
  anomalyIds : ∀ a ∈ s.anomalies, a.id < s.nextAnomalyId
  runs : (s.runs.map (·.id)).Nodup
  runIds : ∀ r ∈ s.runs, r.id < s.nextRunId
  changes : ∀ ch ∈ s.changes, ch.remediationRunId < s.nextRunId
  consumptions : (s.consumptions.map (·.planHash)).Nodup
  consumers : ∀ c ∈ s.consumptions, c.firstRunId < s.nextRunId

/-- A change with the state after the run, sealed. -/
def HistoryRemediationChange.verified (ch : HistoryRemediationChange) (planHash : Digest PlanSeal) (t : TemporalFields) :
    HistoryRemediationChange :=
  let record : ChangeRecord := { ch.toChangeRecord with actualAfterState := some t, actualAfterHash := some (.sha256 t) }
  { ch with
    toChangeRecord := record
    status := .applied
    errorCode := none
    applyEvidenceHash := History.applyEvidenceHash planHash record }

theorem sealChange_eq_ok {planHash : Digest PlanSeal} {st : Applying} {ch ch' : HistoryRemediationChange}
    (h : sealChange planHash st ch = .ok ch') :
    ∃ live, st.row? ch.priceObservationId = some live ∧ ch' = ch.verified planHash live.mutableState ∧
      (ch.actionType.writes = true → .sha256 live.mutableState = ch.expectedBoundHash) := by
  unfold sealChange at h
  split at h
  · cases h
  next live hlive =>
  dsimp only at h
  split at h
  · cases h
  next hsame =>
  refine ⟨live, hlive, (Except.ok.inj h).symm, fun hw => ?_⟩
  by_contra hne
  exact hsame ⟨hw, fun heq => hne (Option.some.inj heq)⟩

section Run
variable {s : AuditedDb} {m : Manifest} {ctx : ApplyContext} {env : Environment} {now : Instant} {supersedes : Option Nat}
  {st : Applying} {changes : List HistoryRemediationChange} {r : ManifestRow} {lane : ManifestLane}

theorem plannedPairs_map_snd : m.plannedPairs.map (·.2) = m.plannedRows := by
  rw [Manifest.plannedPairs, List.map_flatMap, Manifest.plannedRows]
  simp only [List.map_map, Function.comp_def, List.map_id']
  rfl

theorem mem_plannedPairs {p : ManifestLane × ManifestRow} (h : p ∈ m.plannedPairs) :
    p.1 ∈ m.appliedLanes ∧ p.2 ∈ p.1.rows ∧ p.2 ∈ m.plannedRows := by
  obtain ⟨lane, hlane, hp⟩ := List.mem_flatMap.mp h
  obtain ⟨r, hr, rfl⟩ := List.mem_map.mp hp
  exact ⟨hlane, hr, List.mem_flatMap.mpr ⟨lane, hlane, hr⟩⟩

namespace Executes
variable (hex : Executes s m ctx env now supersedes st changes)
include hex

theorem actionsSupported : m.actionsSupported = true :=
  hex.gates ("supported_actions_only", m.actionsSupported) (by simp [runAllGates])

theorem drift (gate : String × Bool) (h : gate ∈ driftGates s m) : gate.2 = true := by
  refine hex.gates gate ?_
  simp only [runAllGates, List.mem_append]
  exact Or.inl (Or.inr h)

theorem provenance : (provenanceGates m.commitProvenance.baseMainSha ctx ++ buildIdentityGates ctx env ++
    authorizationGates m.planHash ctx env now).all (·.2) = true := by
  refine List.all_eq_true.mpr fun gate hgate => hex.gates gate ?_
  simp only [runAllGates, List.mem_append]
  exact Or.inl (Or.inl (Or.inl (Or.inl (Or.inr (by simpa only [List.mem_append] using hgate)))))

theorem environment : (environmentGates ctx env).all (·.2) = true := by
  refine List.all_eq_true.mpr fun gate hgate => hex.gates gate ?_
  simp only [runAllGates, List.mem_append]
  exact Or.inl (Or.inl (Or.inr hgate))

theorem row_of_planned (hr : r ∈ m.plannedRows) : ∃ row, s.row? r.id = some row ∧ r.fullRowHash = .sha256 row := by
  have hgate := hex.drift (_, _) List.mem_cons_self
  have hrow := List.all_eq_true.mp hgate r hr
  obtain ⟨row, hrow, heq⟩ := (Option.any_eq_true _ _).mp hrow
  exact ⟨row, hrow, (of_decide_eq_true heq).symm⟩

theorem supported_of_mem (hl : lane ∈ m.appliedLanes) : lane.Supported := by
  have hlane := List.all_eq_true.mp hex.actionsSupported lane (List.mem_filter.mp hl).1
  obtain ⟨-, hses⟩ := Bool.and_eq_true_iff.mp hlane
  refine ⟨fun se hse => ?_, fun se hse => ?_⟩
  · exact (Bool.and_eq_true_iff.mp (List.all_eq_true.mp hses se hse)).1
  · exact of_decide_eq_true (Bool.and_eq_true_iff.mp (List.all_eq_true.mp hses se hse)).2

theorem observations (hk : s.Keyed) : st.observations = writeRows now m.plannedRows s.observations :=
  (applyLanes_spec (by exact hk.observations) hex.written).1

theorem anomalies (hk : s.Keyed) : st.anomalies = s.anomalies ++ createdAnomalies s.nextAnomalyId m.appliedLanes :=
  (applyLanes_spec (by exact hk.observations) hex.written).2

theorem changes_spec (hk : s.Keyed) :
    List.Forall₂ (fun p ch => p ∈ m.plannedPairs ∧ ∃ next id live after,
      ((m.plannedRows.map (·.id)).Nodup → s.row? p.2.id = some live) ∧ (∀ e ∈ p.1.created next, e.2 ∈ st.anomalies) ∧
      st.row? p.2.id = some after ∧ (p.2.action.writes = true → after.mutableState = p.2.bound now live.mutableState) ∧
      ch = (plannedChange s.nextRunId m.planHash p.1 (p.1.created next) now id live p.2).verified m.planHash after.mutableState)
      m.plannedPairs changes ∧
    (changes.filterMap (·.createdAnomalyLiveId)).Perm ((createdAnomalies s.nextAnomalyId m.appliedLanes).map (·.id)) := by
  obtain ⟨new, hchanges, hnew, hlive⟩ := applyLanes_changes (by exact hk.observations) hex.written
  have hst : st.changes = new := hchanges
  subst hst
  have hpairs := (List.forall₂_and_left m.plannedPairs changes).mpr ⟨fun _ hp => hp, forall₂_comp hnew hex.evidence⟩
  constructor
  · refine hpairs.imp ?_
    rintro p ch' ⟨hmem, ch, ⟨next, id, live, hlive, hcreated, rfl⟩, hsealed⟩
    obtain ⟨after, hafter, rfl, hwrites⟩ := sealChange_eq_ok hsealed
    exact ⟨hmem, next, id, live, after, fun honce => hlive ⟨honce, fun _ _ => rfl⟩, hcreated, hafter,
      fun hw => Digest.sha256.inj (hwrites hw), rfl⟩
  · rw [filterMap_eq_filterMap_of_forall₂ hex.evidence]
    · exact hlive fun lane hl => hex.supported_of_mem hl
    · intro ch ch' h
      obtain ⟨after, -, rfl, -⟩ := sealChange_eq_ok h
      rfl

end Executes
end Run

end CestaPlan.History
