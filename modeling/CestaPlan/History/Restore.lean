import CestaPlan.History.Applied

/-! The restore of a run, and the two operational entry points (`execute_apply` and `execute_restore` of
    `tools/apply_history_lane_remediation.py`). -/

namespace CestaPlan.History

def restoreDrift (code : String) : ApplyError := ⟨.restoreDrift, code⟩

/-! ### What a restore asks for -/

/-- The gates before the evidence: the operational ones, the contract of the writer, and all of the provenance. -/
def restoreGates (planHash : Digest PlanSeal) (ctx : ApplyContext) (env : Environment) (operationNow : Instant) : Bool :=
  (operationalGates env).all (·.2) && writerContractGate &&
    (provenanceGates none ctx ++ buildIdentityGates ctx env ++ authorizationGates planHash ctx env operationNow).all (·.2)

/-- `_restore_provenance_bound_to_run`. -/
def provenanceBoundToRun (run : HistoryRemediationRun) (ctx : ApplyContext) (env : Environment) : Bool :=
  run.mainCommitSha = ctx.expectedMainSha && run.alembicRevision = ctx.expectedAlembic &&
    run.alembicRevision = env.alembicRevision && run.identity = ctx.identity && some run.planHash = ctx.authorizationPlanHash

/-- `_restore_evidence_gates`: the code of the drift. -/
def AuditedDb.evidenceDrift (s : AuditedDb) (run : HistoryRemediationRun) (changes : List HistoryRemediationChange) :
    Option String :=
  let ids := changes.map (·.priceObservationId)
  if s.occurrenceEvidence ids ≠ run.postApplyOccurrenceHashes.getD ∅ then some "occurrences_changed_after_apply"
  else if s.unknownFkRefs ids || run.expectedUnknownFkCount.getD 0 ≠ 0 then some "unknown_fk_after_apply"
  else if s.fkEvidence ids ≠ run.postApplySupportedFkHashes.getD ∅ then some "supported_fk_changed_after_apply"
  else if some s.fkFingerprint ≠ run.discoveredFkFingerprint then some "fk_schema_changed_after_apply"
  else none

/-- `_verify_sealed_evidence`. -/
def AuditedDb.sealDrift (s : AuditedDb) (run : HistoryRemediationRun) (changes : List HistoryRemediationChange) :
    Option String :=
  if changes.any fun ch => applyEvidenceHash run.planHash ch.toChangeRecord ≠ ch.applyEvidenceHash then
    some "apply_evidence_hash_mismatch"
  else if some (runExecutionHash run changes) ≠ run.executionHash then some "run_execution_hash_mismatch"
  else
    match s.consumptions.find? (·.planHash = run.planHash) with
    | none => some "consumption_execution_hash_mismatch"
    | some cons =>
      if cons.executionHash ≠ run.executionHash then some "consumption_execution_hash_mismatch"
      else if cons.firstRunId ≠ run.id then some "consumption_first_run_mismatch"
      else none

def AuditedDb.anomaly? (s : AuditedDb) (id : Nat) : Option AnomalyRow := Updates.row? (·.id) s.anomalies id

/-- `_verify_anomaly_before_delete`. -/
def AuditedDb.anomalyDrift (s : AuditedDb) (ch : HistoryRemediationChange) : Option String :=
  match ch.createdAnomalyLiveId with
  | none => none
  | some id =>
    match s.anomaly? id with
    | none => some "anomaly_missing"
    | some an =>
      if some (anomalyHash an) ≠ ch.createdAnomalyHash ∨ an.priceObservationId ≠ ch.priceObservationId then
        some "anomaly_changed"
      else none

def changeSideEffectRef (ch : HistoryRemediationChange) : Option AnomalyRow → Digest SideEffectKey
  | none => .other ""
  | some an => .sha256 ⟨"create_price_anomaly", ch.originalHash, an.anomalyType, some an.severity⟩

/-- The first pass of `_validate_all_changes`. -/
def duplicateDrift (seen : List HistoryRemediationChange) : List HistoryRemediationChange → Option String
  | [] => none
  | ch :: rest =>
    if seen.any fun c => c.priceObservationId = ch.priceObservationId && c.actionType = ch.actionType then
      some "duplicate_change_for_observation"
    else if seen.any (·.deterministicActionId = ch.deterministicActionId) then some "duplicate_deterministic_action_id"
    else duplicateDrift (ch :: seen) rest

/-- The second pass, for one change. -/
def AuditedDb.changeDrift (s : AuditedDb) (planHash : Digest PlanSeal) (ch : HistoryRemediationChange) : Option String :=
  match s.row? ch.priceObservationId with
  | none => some "observation_missing_or_duplicated"
  | some row =>
    match ch.actualAfterHash, ch.actualAfterState with
    | some hash, some state =>
      let ref := changeSideEffectRef ch (ch.createdAnomalyLiveId.bind s.anomaly?)
      if Digest.sha256 row.mutableState ≠ hash then some "row_changed_after_apply"
      else if row.mutableState ≠ state then some "actual_after_state_mismatch"
      else if Digest.sha256 (⟨planHash, ch.laneFingerprint, ch.originalHash, ch.actionType, ref⟩ : ActionKey) ≠
          ch.deterministicActionId then
        some "deterministic_action_id_invalid"
      else none
    | _, _ => some "actual_after_missing"

/-! ### The writes of a restore -/

/-- The observations with the original state of every change, one change after the other. -/
def restoreRows (changes : List HistoryRemediationChange) (rows : List PriceObservation) : List PriceObservation :=
  changes.foldl (fun rows ch => Updates.updateAt (·.id) ch.priceObservationId (·.withTemporal ch.originalTemporalState) rows) rows

def HistoryRemediationChange.restored (ch : HistoryRemediationChange) (operationNow : Instant) : HistoryRemediationChange :=
  { ch with
    createdAnomalyLiveId := none
    createdAnomalyDeletedAt := if ch.createdAnomalyLiveId.isSome then some operationNow else ch.createdAnomalyDeletedAt
    restoreState := some ch.originalTemporalState
    status := .restored }

def AuditedDb.changesOf (s : AuditedDb) (runId : Nat) : List HistoryRemediationChange :=
  s.changes.filter (·.remediationRunId = runId)

def AuditedDb.updateRun (s : AuditedDb) (runId : Nat) (f : HistoryRemediationRun → HistoryRemediationRun) : AuditedDb :=
  { s with runs := Updates.updateAt (·.id) runId f s.runs }

/-- What `_restore_locked` checks before it writes: the code of the drift. -/
def AuditedDb.restoreDrift? (s : AuditedDb) (run : HistoryRemediationRun) (changes : List HistoryRemediationChange) :
    Option String :=
  (s.sealDrift run changes).or <| (changes.findSome? s.anomalyDrift).or <|
    (duplicateDrift [] changes).or <| changes.findSome? (s.changeDrift run.planHash)

def liveAnomalyIds (changes : List HistoryRemediationChange) : List Nat := changes.filterMap (·.createdAnomalyLiveId)

/-- The tables of the restored run. -/
def AuditedDb.restoreRun (s : AuditedDb) (run : HistoryRemediationRun) (changes : List HistoryRemediationChange)
    (operationNow : Instant) : AuditedDb :=
  AuditedDb.updateRun
    { s with
      observations := restoreRows changes s.observations
      anomalies := s.anomalies.filter fun a => !(liveAnomalyIds changes).contains a.id
      changes := s.changes.map fun ch => if ch.remediationRunId = run.id then ch.restored operationNow else ch }
    run.id fun r => { r with restoreStatus := .restored, status := .rolledBack }

/-- `_restore_locked`. An anomaly that two changes claim would be deleted twice. -/
def restoreLocked (s : AuditedDb) (run : HistoryRemediationRun) (changes : List HistoryRemediationChange)
    (operationNow : Instant) : Except ApplyError AuditedDb :=
  match s.restoreDrift? run changes with
  | some code => .error (restoreDrift code)
  | none =>
    if ¬(liveAnomalyIds changes).Nodup then .error ⟨.unexpected, "unexpected_restore_error"⟩
    else
      let s' := s.restoreRun run changes operationNow
      if changes.any fun ch => (s'.row? ch.priceObservationId).map (·.mutableState) ≠ some ch.originalTemporalState then
        .error (restoreDrift "post_restore_mismatch")
      else .ok s'

/-- `_mark_manual_review`, in a transaction of its own. -/
def AuditedDb.markManualReview (s : AuditedDb) (runId : Nat) (code : String) : AuditedDb :=
  s.updateRun runId fun r => { r with restoreStatus := .manualReviewRequired, errorCode := some code }

/-! ### The entry points -/

inductive RestoreResultStatus where
  | restored | alreadyRestored
deriving DecidableEq

structure RestoreResult where
  status : RestoreResultStatus
  run : Nat
  restoredRows : Nat := 0
deriving DecidableEq

/-- What goes wrong outside the code: before the session has read anything, while the run has its locks (a lock that is
    not free, a write that the guard refuses, an error of the database), at the commit, or in the transaction that
    records the failure. -/
structure Faults where
  stopped : Option ApplyError := none
  interrupted : Option ApplyError := none
  commitFails : Bool := false
  auditFails : Bool := false

def Faults.interrupt {α : Type} (faults : Faults) (work : Except ApplyError α) : Except ApplyError α :=
  match faults.interrupted with
  | some e => .error e
  | none => work

def requireAuthorization (authorized : Bool) (confirmations : List String) (restore : Bool) : Bool :=
  authorized && confirmations = if restore then ["I_UNDERSTAND_THIS_RESTORES", "RUN_REVIEWED"]
    else ["I_UNDERSTAND_THIS_WRITES", "PLAN_REVIEWED", "BACKUP_VERIFIED"]

def AuditedDb.run? (s : AuditedDb) (id : Nat) : Option HistoryRemediationRun := Updates.row? (·.id) s.runs id

/-- The walk along `supersedes_run_id`: whether it comes back to a run. A chain that does not is no longer than the table. -/
def AuditedDb.circularChain (s : AuditedDb) : Nat → List Nat → HistoryRemediationRun → Bool
  | 0, _, _ => false
  | n + 1, seen, cur =>
    match cur.supersedesRunId with
    | none => false
    | some id =>
      seen.contains id ||
        match s.run? id with
        | none => false
        | some next => s.circularChain n (id :: seen) next

/-- `_validate_retry`: the failed run that the call supersedes. -/
def AuditedDb.validateRetry (s : AuditedDb) (planHash : Digest PlanSeal) :
    Option Nat → Except ApplyError (Option Nat)
  | none => .ok none
  | some id =>
    match s.run? id with
    | none => .error ⟨.manifestInvalid, "retry_previous_run_not_found"⟩
    | some prev =>
      if prev.planHash ≠ planHash then .error ⟨.manifestInvalid, "retry_plan_hash_mismatch"⟩
      else if prev.status ≠ .failed then .error ⟨.manifestInvalid, "retry_previous_not_failed"⟩
      else if s.runs.any (·.supersedesRunId = some prev.id) then
        .error ⟨.manifestInvalid, "retry_previous_already_superseded"⟩
      else if s.circularChain s.runs.length [prev.id] prev then .error ⟨.manifestInvalid, "retry_circular_chain"⟩
      else .ok (some prev.id)

structure ApplyCall where
  manifest : Manifest
  ctx : ApplyContext
  env : Environment
  /-- The clock under the locks, and the one of the transaction that records a failure. -/
  operationNow : Instant
  auditNow : Instant
  authorized : Bool
  confirmations : List String
  previousFailedRunId : Option Nat := none
  faults : Faults := {}

structure RestoreCall where
  runId : Nat
  ctx : ApplyContext
  env : Environment
  operationNow : Instant
  authorized : Bool
  confirmations : List String
  faults : Faults := {}

/-- The run that `_record_failed_run` inserts. -/
def failedRun (s : AuditedDb) (call : ApplyCall) (code : String) (supersedes : Option Nat) : HistoryRemediationRun where
  id := s.nextRunId
  planHash := call.manifest.planHash
  manifestSchemaVersion := call.manifest.schemaVersion
  plannerToolVersion := call.manifest.toolVersion
  plannerSourceHash := call.manifest.plannerSourceHash
  writerContractVersion := requiredWriterContract.version
  mainCommitSha :=
    if call.ctx.appCommitSha.any (· ≠ "") then call.ctx.appCommitSha
    else call.ctx.observedProvenance.commitSha.filter (· ≠ "")
  alembicRevision := call.env.alembicRevision.filter (· ≠ "")
  status := .failed
  startedAt := some call.auditNow
  completedAt := some call.auditNow
  operatorReference := call.ctx.operatorReference
  identity := call.ctx.identity
  errorCode := some code
  supersedesRunId := supersedes

def AuditedDb.recordFailedRun (s : AuditedDb) (call : ApplyCall) (code : String) (supersedes : Option Nat) : AuditedDb :=
  if call.faults.auditFails then s
  else { s with runs := s.runs ++ [failedRun s call code supersedes], nextRunId := s.nextRunId + 1 }

/-- `execute_apply`: the tables that other sessions see afterwards, and what the caller gets. -/
def executeApply (s : AuditedDb) (call : ApplyCall) : AuditedDb × Except ApplyError ApplyResult :=
  match call.faults.stopped with
  | some e => (s, .error e)
  | none =>
    if !requireAuthorization call.authorized call.confirmations false then (s, .error ⟨.notAuthorized, "not_authorized"⟩)
    else
      match call.manifest.shapeError with
      | some code => (s, .error ⟨.manifestInvalid, code⟩)
      | none =>
        match s.validateRetry call.manifest.planHash call.previousFailedRunId with
        | .error e => (s, .error e)
        | .ok supersedes =>
          match call.faults.interrupt (applyLocked s call.manifest call.ctx call.env call.operationNow supersedes) with
          | .error e => (if e.kind = .alreadyApplied then s else s.recordFailedRun call e.code supersedes, .error e)
          | .ok (s', result) =>
            if call.faults.commitFails then
              (s.recordFailedRun call "apply_commit_failed" none, .error ⟨.unexpected, "apply_commit_failed"⟩)
            else (s', .ok result)

/-- The part of `_restore_guarded` that may mark the run for review. -/
def restoreEvidence (s : AuditedDb) (run : HistoryRemediationRun) (operationNow : Instant) : Except ApplyError AuditedDb :=
  match s.evidenceDrift run (s.changesOf run.id) with
  | some code => .error (restoreDrift code)
  | none => restoreLocked s run (s.changesOf run.id) operationNow

/-- `_restore_guarded`: the tables as the transaction for the audit leaves them, with the tables of the session that is
    still to be committed. -/
def restoreGuarded (s : AuditedDb) (call : RestoreCall) : AuditedDb × Except ApplyError (AuditedDb × RestoreResult) :=
  match call.faults.stopped with
  | some e => (s, .error e)
  | none =>
    if !requireAuthorization call.authorized call.confirmations true then (s, .error ⟨.notAuthorized, "not_authorized"⟩)
    else
      match s.run? call.runId with
      | none => (s, .error ⟨.manifestInvalid, "run_not_found"⟩)
      | some run =>
        if run.restoreStatus = .restored then (s, .ok (s, { status := .alreadyRestored, run := call.runId }))
        else if run.status ≠ .applied then (s, .error (restoreDrift "run_not_applied"))
        else if !restoreGates run.planHash call.ctx call.env call.operationNow then
          (s, .error ⟨.environmentUnsafe, "restore_gates_blocking"⟩)
        else if !provenanceBoundToRun run call.ctx call.env then
          (s, .error ⟨.provenanceMismatch, "restore_provenance_mismatch"⟩)
        else
          match call.faults.interrupt (restoreEvidence s run call.operationNow) with
          | .error e =>
            (if (e.kind = .restoreDrift ∨ e.kind = .forbiddenWrite) ∧ !call.faults.auditFails then
              s.markManualReview call.runId e.code else s, .error e)
          | .ok s' =>
            (s, .ok (s', { status := .restored, run := call.runId, restoredRows := (s.changesOf run.id).length }))

/-- `execute_restore`. -/
def executeRestore (s : AuditedDb) (call : RestoreCall) : AuditedDb × Except ApplyError RestoreResult :=
  match restoreGuarded s call with
  | (s', .error e) => (s', .error e)
  | (audited, .ok (s', result)) =>
    if call.faults.commitFails then
      (if call.faults.auditFails then audited else audited.markManualReview call.runId "restore_commit_failed",
        .error ⟨.unexpected, "restore_commit_failed"⟩)
    else (s', .ok result)

/-! ### What the checks say -/

section Checks
variable {s : AuditedDb} {run : HistoryRemediationRun} {changes : List HistoryRemediationChange}
  {ch : HistoryRemediationChange} {planHash : Digest PlanSeal}

theorem evidenceDrift_eq_none : s.evidenceDrift run changes = none ↔
    s.occurrenceEvidence (changes.map (·.priceObservationId)) = run.postApplyOccurrenceHashes.getD ∅ ∧
      s.unknownFkRefs (changes.map (·.priceObservationId)) = false ∧ run.expectedUnknownFkCount.getD 0 = 0 ∧
      s.fkEvidence (changes.map (·.priceObservationId)) = run.postApplySupportedFkHashes.getD ∅ ∧
      run.discoveredFkFingerprint = some s.fkFingerprint := by
  unfold AuditedDb.evidenceDrift
  dsimp only
  split_ifs with h1 h2 h3 h4
  · simp [h1]
  · simp only [Bool.or_eq_true, decide_eq_true_eq] at h2
    rcases h2 with h2 | h2 <;> simp [h2]
  · simp [h3]
  · simp [Ne.symm h4]
  · simp only [Bool.or_eq_true, decide_eq_true_eq, not_or, Bool.not_eq_true, not_not] at h2
    exact iff_of_true rfl ⟨not_not.mp h1, h2.1, h2.2, not_not.mp h3, (not_not.mp h4).symm⟩

theorem sealDrift_eq_none : s.sealDrift run changes = none ↔
    (∀ ch ∈ changes, ch.applyEvidenceHash = applyEvidenceHash run.planHash ch.toChangeRecord) ∧
      run.executionHash = some (runExecutionHash run changes) ∧
      ∃ c, s.consumptions.find? (·.planHash = run.planHash) = some c ∧ c.executionHash = run.executionHash ∧
        c.firstRunId = run.id := by
  unfold AuditedDb.sealDrift
  split_ifs with h1 h2
  · obtain ⟨ch, hch, hne⟩ := List.any_eq_true.mp h1
    exact iff_of_false (fun h => by cases h) fun h => of_decide_eq_true hne (h.1 ch hch).symm
  · exact iff_of_false (fun h => by cases h) fun h => h2 h.2.1.symm
  · have hseals : ∀ ch ∈ changes, ch.applyEvidenceHash = applyEvidenceHash run.planHash ch.toChangeRecord := by
      intro ch hch
      by_contra hne
      exact h1 (List.any_eq_true.mpr ⟨ch, hch, decide_eq_true (Ne.symm hne)⟩)
    cases hc : s.consumptions.find? (·.planHash = run.planHash) with
    | none => simp
    | some c =>
      dsimp only
      split_ifs with h3 h4
      · exact iff_of_false (fun h => by cases h) fun ⟨_, _, c', hc', he, _⟩ => h3 (Option.some.inj hc' ▸ he)
      · exact iff_of_false (fun h => by cases h) fun ⟨_, _, c', hc', _, hf⟩ => h4 (Option.some.inj hc' ▸ hf)
      · exact iff_of_true rfl ⟨hseals, (not_not.mp h2).symm, c, rfl, not_not.mp h3, not_not.mp h4⟩

theorem anomalyDrift_eq_none : s.anomalyDrift ch = none ↔ ∀ id, ch.createdAnomalyLiveId = some id →
    ∃ an, s.anomaly? id = some an ∧ ch.createdAnomalyHash = some (anomalyHash an) ∧
      an.priceObservationId = ch.priceObservationId := by
  unfold AuditedDb.anomalyDrift
  cases ch.createdAnomalyLiveId with
  | none => simp
  | some id =>
    cases ha : s.anomaly? id with
    | none => simp [ha]
    | some an =>
      simp only [ha]
      split_ifs with h
      · refine iff_of_false (fun h => by cases h) fun hall => ?_
        obtain ⟨an', han', hhash, hobs⟩ := hall id rfl
        obtain rfl : an = an' := Option.some.inj (ha.symm.trans han')
        exact h.elim (fun hne => hne hhash.symm) fun hne => hne hobs
      · rw [not_or, not_not, not_not] at h
        refine iff_of_true rfl fun id' hid => ?_
        obtain rfl := Option.some.inj hid
        exact ⟨an, ha, h.1.symm, h.2⟩

theorem changeDrift_eq_none : s.changeDrift planHash ch = none ↔ ∃ row, s.row? ch.priceObservationId = some row ∧
    ch.actualAfterHash = some (.sha256 row.mutableState) ∧ ch.actualAfterState = some row.mutableState ∧
    ch.deterministicActionId = .sha256 ⟨planHash, ch.laneFingerprint, ch.originalHash, ch.actionType,
      changeSideEffectRef ch (ch.createdAnomalyLiveId.bind s.anomaly?)⟩ := by
  unfold AuditedDb.changeDrift
  cases s.row? ch.priceObservationId with
  | none => simp
  | some row =>
    cases ch.actualAfterHash with
    | none => simp
    | some hash =>
      cases ch.actualAfterState with
      | none => simp
      | some state =>
        dsimp only
        split_ifs with h1 h2 h3
        · exact iff_of_false (fun h => by cases h) fun ⟨_, hrow, hh, _⟩ =>
            h1 (Option.some.inj hrow ▸ (Option.some.inj hh).symm)
        · exact iff_of_false (fun h => by cases h) fun ⟨_, hrow, _, hs, _⟩ =>
            h2 (Option.some.inj hrow ▸ (Option.some.inj hs).symm)
        · exact iff_of_false (fun h => by cases h) fun ⟨_, _, _, _, hd⟩ => h3 hd.symm
        · exact iff_of_true rfl ⟨row, rfl, congrArg some (not_not.mp h1).symm, congrArg some (not_not.mp h2).symm,
            (not_not.mp h3).symm⟩

theorem restoreDrift?_eq_none : s.restoreDrift? run changes = none ↔ s.sealDrift run changes = none ∧
    (∀ ch ∈ changes, s.anomalyDrift ch = none) ∧ duplicateDrift [] changes = none ∧
    ∀ ch ∈ changes, s.changeDrift run.planHash ch = none := by
  simp only [AuditedDb.restoreDrift?, Option.or_eq_none_iff, List.findSome?_eq_none_iff]

end Checks

/-! ### What a call does -/

/-- The cases of `executeApply`. -/
inductive ApplyEffect (s : AuditedDb) (call : ApplyCall) : AuditedDb × Except ApplyError ApplyResult → Prop where
  | untouched (r) (h : ∀ result, r = .ok result → result.status ≠ .applied) : ApplyEffect s call (s, r)
  | audited (code supersedes e) : ApplyEffect s call
      ({ s with runs := s.runs ++ [failedRun s call code supersedes], nextRunId := s.nextRunId + 1 }, .error e)
  | applied (supersedes st changes)
      (h : Executes s call.manifest call.ctx call.env call.operationNow supersedes st changes) : ApplyEffect s call
      (s.completeRun call.manifest (startedRun s call.manifest call.ctx call.env call.operationNow supersedes) st changes
        call.operationNow,
      .ok { status := .applied, planHash := call.manifest.planHash, run := some s.nextRunId, changes := changes.length })

/-- The cases of `executeRestore`. -/
inductive RestoreEffect (s : AuditedDb) (call : RestoreCall) : AuditedDb × Except ApplyError RestoreResult → Prop where
  | untouched (r) (h : ∀ result, r = .ok result → result.status ≠ .restored) : RestoreEffect s call (s, r)
  | marked (code e run) (hrun : s.run? call.runId = some run)
      (h : run.status = .applied ∨ run.restoreStatus = .restored) :
      RestoreEffect s call (s.markManualReview call.runId code, .error e)
  | restored (run result) (hrun : s.run? call.runId = some run) (hstatus : run.status = .applied)
      (h : restoreEvidence s run call.operationNow =
        .ok (s.restoreRun run (s.changesOf run.id) call.operationNow)) (hresult : result.status = .restored) :
      RestoreEffect s call (s.restoreRun run (s.changesOf run.id) call.operationNow, .ok result)

section Effects
variable {s s' : AuditedDb}

theorem Faults.interrupt_eq_ok {α : Type} {faults : Faults} {work : Except ApplyError α} {a : α}
    (h : faults.interrupt work = .ok a) : work = .ok a := by
  unfold Faults.interrupt at h
  split at h
  · cases h
  · exact h

theorem restoreLocked_eq_ok {run : HistoryRemediationRun} {changes : List HistoryRemediationChange} {now : Instant}
    (h : restoreLocked s run changes now = .ok s') :
    s.restoreDrift? run changes = none ∧ (liveAnomalyIds changes).Nodup ∧ s' = s.restoreRun run changes now := by
  unfold restoreLocked at h
  split at h
  · cases h
  next hdrift =>
  split at h
  · cases h
  next hlive =>
  dsimp only at h
  split at h
  · cases h
  exact ⟨hdrift, not_not.mp hlive, (Except.ok.inj h).symm⟩

theorem restoreEvidence_eq_ok {run : HistoryRemediationRun} {now : Instant} (h : restoreEvidence s run now = .ok s') :
    s.evidenceDrift run (s.changesOf run.id) = none ∧ s.restoreDrift? run (s.changesOf run.id) = none ∧
      (liveAnomalyIds (s.changesOf run.id)).Nodup ∧ s' = s.restoreRun run (s.changesOf run.id) now := by
  unfold restoreEvidence at h
  split at h
  · cases h
  next hdrift => exact ⟨hdrift, restoreLocked_eq_ok h⟩

theorem recordFailedRun_effect (call : ApplyCall) (code : String) (supersedes : Option Nat) (e : ApplyError) :
    ApplyEffect s call (s.recordFailedRun call code supersedes, .error e) := by
  unfold AuditedDb.recordFailedRun
  split
  · exact .untouched _ fun _ h => by cases h
  · exact .audited code supersedes e

theorem executeApply_effect (s : AuditedDb) (call : ApplyCall) : ApplyEffect s call (executeApply s call) := by
  have herror : ∀ e, ApplyEffect s call (s, .error e) := fun e => .untouched _ fun _ h => by cases h
  unfold executeApply
  split
  · exact herror _
  split
  · exact herror _
  split
  · exact herror _
  split
  · exact herror _
  next supersedes _ =>
  split
  · split
    · exact herror _
    · exact recordFailedRun_effect _ _ _ _
  next s' result hok =>
  split
  · exact recordFailedRun_effect _ _ _ _
  rcases applyLocked_cases (Faults.interrupt_eq_ok hok) with ⟨-, rfl, hne⟩ | ⟨st, changes, hex, rfl, rfl⟩
  · exact .untouched _ fun r hr => Except.ok.inj hr ▸ hne
  · exact .applied supersedes st changes hex

theorem executeRestore_effect (s : AuditedDb) (call : RestoreCall) : RestoreEffect s call (executeRestore s call) := by
  have herror : ∀ e, RestoreEffect s call (s, .error e) := fun e => .untouched _ fun _ h => by cases h
  unfold executeRestore restoreGuarded
  cases hstopped : call.faults.stopped with
  | some e => exact herror e
  | none =>
  cases hauth : requireAuthorization call.authorized call.confirmations true with
  | false => exact herror _
  | true =>
  cases hrun : s.run? call.runId with
  | none => exact herror _
  | some run =>
  by_cases hrestored : run.restoreStatus = .restored
  · simp only [Bool.not_true, Bool.false_eq_true, if_false, if_pos hrestored]
    split
    · split
      · exact herror _
      · exact .marked _ _ run hrun (Or.inr hrestored)
    · exact .untouched _ fun r hr => by cases hr; exact fun h => by cases h
  by_cases hstatus : run.status = .applied
  · simp only [Bool.not_true, Bool.false_eq_true, if_false, if_neg hrestored, ne_eq, hstatus, not_true]
    split
    next s' e heq =>
      split at heq
      · obtain ⟨rfl, -⟩ := Prod.mk.inj heq
        exact herror _
      split at heq
      · obtain ⟨rfl, -⟩ := Prod.mk.inj heq
        exact herror _
      split at heq
      · obtain ⟨rfl, -⟩ := Prod.mk.inj heq
        split
        · exact .marked _ _ run hrun (Or.inl hstatus)
        · exact herror _
      · cases (Prod.mk.inj heq).2
    next audited s' result heq =>
      split at heq
      · cases (Prod.mk.inj heq).2
      split at heq
      · cases (Prod.mk.inj heq).2
      split at heq
      · cases (Prod.mk.inj heq).2
      next hok =>
      obtain ⟨rfl, hpair⟩ := Prod.mk.inj heq
      obtain ⟨rfl, rfl⟩ := Prod.mk.inj (Except.ok.inj hpair)
      split
      · split
        · exact herror _
        · exact .marked _ _ run hrun (Or.inl hstatus)
      · have hev := Faults.interrupt_eq_ok hok
        obtain ⟨-, -, -, rfl⟩ := restoreEvidence_eq_ok hev
        exact .restored run _ hrun hstatus hev rfl
  · simp only [Bool.not_true, Bool.false_eq_true, if_false, if_neg hrestored, ne_eq, hstatus, not_false_eq_true, if_true]
    exact herror _

end Effects
end CestaPlan.History
