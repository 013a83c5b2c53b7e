import CestaPlan.History.Manifest
import CestaPlan.History.Promotion
import CestaPlan.Library.Updates

/-! The executor of a sealed remediation plan (`tools/apply_history_lane_remediation.py`): its tables, its gates and
    `_apply_locked`. -/

namespace CestaPlan.History

/-! ### The audit tables -/

/-- The six columns that a run may write (`MUTABLE_STATE_FIELDS`). -/
@[ext]
structure TemporalFields where
  validFrom : Instant
  validUntil : Option Instant
  verificationStatus : VerificationStatus
  rolledBackAt : Option Instant
  rolledBackBy : Option Int
  closedByRunId : Option Int
deriving DecidableEq

/-- What `sealed_side_effect_ref` hashes. -/
structure SideEffectKey where
  type : String
  targetObservationRef : Digest PriceObservation
  anomalyType : String
  severity : Option Severity
deriving DecidableEq

/-- What `_det_action_id` hashes. -/
structure ActionKey where
  planHash : Digest PlanSeal
  laneFingerprint : Digest Lane
  fullRowHash : Digest PriceObservation
  action : RowAction
  sideEffectRef : Digest SideEffectKey
deriving DecidableEq

/-- What `_anomaly_hash` hashes. -/
structure AnomalyKey where
  priceObservationId : Nat
  anomalyType : String
  severity : Severity
  status : AnomalyStatus
deriving DecidableEq

/-- The columns of a change that its seal covers. -/
structure ChangeRecord where
  deterministicActionId : Digest ActionKey
  laneFingerprint : Digest Lane
  priceObservationId : Nat
  actionType : RowAction
  originalTemporalState : TemporalFields
  expectedBoundState : TemporalFields
  actualAfterState : Option TemporalFields
  originalHash : Digest PriceObservation
  expectedBoundHash : Digest TemporalFields
  actualAfterHash : Option (Digest TemporalFields)
  createdAnomalyOriginalId : Option Nat
  createdAnomalyHash : Option (Digest AnomalyKey)
  createdAnomalyLiveId : Option Nat
deriving DecidableEq

structure ChangeEvidence where
  evidenceSchemaVersion : Nat
  planHash : Digest PlanSeal
  record : ChangeRecord
deriving DecidableEq

inductive ChangeStatus where
  | planned | applied | restored | failed
deriving DecidableEq

structure HistoryRemediationChange extends ChangeRecord where
  id : Nat
  remediationRunId : Nat
  applyEvidenceHash : Digest ChangeEvidence
  restoreState : Option TemporalFields := none
  createdAnomalyDeletedAt : Option Instant := none
  status : ChangeStatus
  errorCode : Option String := none
deriving DecidableEq

/-- What the verification of a backup reports, as far as the executor reads it. -/
structure BackupReport where
  observedSha256 : Option String
  storageReferenceSanitized : Option String
  storageReferenceHash : Option String
deriving DecidableEq

/-- The pairs of expected and observed provenance and the identity of the package, as a run records and seals them. -/
structure SealedIdentity where
  observedCommitSha : Option String
  expectedCommitSha : Option String
  observedSourceHash : Option String
  expectedSourceHash : Option String
  observedApiArtifactHash : Option String
  expectedApiArtifactHash : Option String
  observedWorkerArtifactHash : Option String
  expectedWorkerArtifactHash : Option String
  observedProvenanceDocumentHash : Option String
  expectedProvenanceDocumentHash : Option String
  authorizationId : Option String
  authorizationPackageHash : Option String
  authorizationKeyFingerprint : Option String
  authorizationGeneratedAt : Option Instant
  authorizationExpiresAt : Option Instant
  expectedBackupSha256 : Option String
  expectedBackupStorageReferenceHash : Option String
deriving DecidableEq

abbrev OccurrenceEvidence := Finset (Nat × Multiset (Digest PriceObservationOccurrence))

abbrev FkEvidence := Finset (Nat × Multiset FkEntry)

structure RunEvidence where
  evidenceSchemaVersion : Nat
  planHash : Digest PlanSeal
  applyEvidenceHashes : Multiset (Digest ChangeEvidence)
  postApplyOccurrenceHashes : Option OccurrenceEvidence
  postApplySupportedFkHashes : Option FkEvidence
  discoveredFkFingerprint : Option (Digest (Multiset String))
  expectedUnknownFkCount : Option Nat
  identity : SealedIdentity
  backupEvidenceHash : Option (Digest BackupReport)
deriving DecidableEq

structure CountSnapshot where
  priceObservation : Nat
  priceObservationOccurrence : Nat
  rolledBack : Nat
  priceAnomaly : Nat
deriving DecidableEq

inductive RunStatus where
  | pending | verified | simulated | applied | failed | restored | rolledBack
deriving DecidableEq

inductive RestoreStatus where
  | none | restored | restoreFailed | manualReviewRequired
deriving DecidableEq

/-- A run; its public id names the row as its internal one does. -/
structure HistoryRemediationRun where
  id : Nat
  planHash : Digest PlanSeal
  manifestSchemaVersion : Int
  plannerToolVersion : String
  plannerSourceHash : String
  writerContractVersion : String
  mainCommitSha : Option String
  alembicRevision : Option String
  status : RunStatus
  startedAt : Option Instant
  completedAt : Option Instant
  operatorReference : Option String
  identity : SealedIdentity
  backupEvidenceHash : Option (Digest BackupReport) := none
  postApplyOccurrenceHashes : Option OccurrenceEvidence := none
  postApplySupportedFkHashes : Option FkEvidence := none
  discoveredFkFingerprint : Option (Digest (Multiset String)) := none
  expectedUnknownFkCount : Option Nat := none
  beforeCounts : Option CountSnapshot := none
  afterCounts : Option CountSnapshot := none
  executionHash : Option (Digest RunEvidence) := none
  errorCode : Option String := none
  restoreStatus : RestoreStatus := .none
  supersedesRunId : Option Nat := none
deriving DecidableEq

structure HistoryRemediationPlanConsumption where
  planHash : Digest PlanSeal
  firstRunId : Nat
  appliedAt : Instant
  executionHash : Option (Digest RunEvidence)
deriving DecidableEq

/-- The tables that the executor reads and writes. The foreign keys are those of the catalog, and `references` what the
    rows of their tables point at. -/
structure AuditedDb where
  observations : List PriceObservation := []
  occurrences : List PriceObservationOccurrence := []
  anomalies : List AnomalyRow := []
  promotionRules : List PromotionRule := []
  foreignKeys : List ForeignKey := []
  references : List (ForeignKey × Nat) := []
  runs : List HistoryRemediationRun := []
  changes : List HistoryRemediationChange := []
  consumptions : List HistoryRemediationPlanConsumption := []
  nextAnomalyId : Nat := 1
  nextRunId : Nat := 1
  nextChangeId : Nat := 1
deriving DecidableEq

/-! ### Errors and results -/

inductive ErrorKind where
  | manifestInvalid | environmentUnsafe | planDrift | unsupportedAction | forbiddenWrite | requiresPostgres
  | alreadyApplied | notAuthorized | lockUnavailable | provenanceMismatch | restoreDrift | sessionNotClean | unexpected
deriving DecidableEq

structure ApplyError where
  kind : ErrorKind
  code : String
deriving DecidableEq

inductive ApplyStatus where
  | applied | alreadyApplied | planRequiresRegeneration
deriving DecidableEq

structure ApplyResult where
  status : ApplyStatus
  planHash : Digest PlanSeal
  run : Option Nat := none
  changes : Nat := 0
deriving DecidableEq

/-! ### What surrounds the tables -/

structure BuildProvenance where
  commitSha : Option String
  sourceTreeHash : Option String
  apiArtifactHash : Option String
  workerArtifactHash : Option String
  documentHash : Option String
  alembicRevision : Option String
  authorizationTrustRootHash : Option String
deriving DecidableEq

structure ExpectedProvenance where
  commitSha : Option String
  sourceTreeHash : Option String
  apiArtifactHash : Option String
  workerArtifactHash : Option String
  documentHash : Option String
deriving DecidableEq

/-- The fields of the context that come from the signed package. -/
structure PackageFields where
  authorizationId : Option String
  authorizationPackageHash : Option String
  authorizationKeyFingerprint : Option String
  authorizationPlanHash : Option (Digest PlanSeal)
  expectedMainSha : Option String
  expectedAlembic : Option String
  expectedProvenance : ExpectedProvenance
  expectedProductPrice : Nat
  expectedActiveMappings : Nat
  authorizationGeneratedAt : Option Instant
  authorizationExpiresAt : Option Instant
  expectedBackupSha256 : Option String
  expectedBackupStorageReference : Option String
  expectedBackupStorageReferenceHash : Option String
  operatorReference : Option String
deriving DecidableEq

structure ApplyContext extends PackageFields where
  appCommitSha : Option String
  deployedApiSha : Option String
  deployedWorkerSha : Option String
  observedProvenance : BuildProvenance
  packagePresent : Bool
  signatureValid : Bool
  authorizationValid : Bool
  /-- `expected_sha256` of the backup, if there is one. -/
  backup : Option String
deriving DecidableEq

/-- The settings that enable the chains. -/
structure ChainFlags where
  parseBotAlcampoEnabled : Bool := false
  parseBotDiaEnabled : Bool := false
  parseBotCarrefourEnabled : Bool := false
  parseBotLidlEnabled : Bool := false
  parseBotAldiEnabled : Bool := false
  parseBotDezaEnabled : Bool := false
  apifyEnabled : Bool := false
  apifyMercadonaEnabled : Bool := false

/-- What the gates read besides the tables and the context. `loadAuthorization` reads the package and checks its
    signature, and `verifyBackup` checks the dump. -/
structure Environment where
  flags : ChainFlags
  killSwitch : String
  activations : List ProviderActivation
  crawlRunStatuses : List String
  crawlJobStatuses : List String
  productPrices : Nat
  activeMappings : Nat
  alembicRevision : Option String
  trustRootHash : Option String
  loadAuthorization : Digest PlanSeal → Instant → Option PackageFields
  verifyBackup : Instant → Bool × BackupReport

/-! ### Provenance and authorization -/

def isHexDigit (c : Char) : Bool := ('0' ≤ c && c ≤ '9') || ('a' ≤ c && c ≤ 'f')

/-- `^p{n}$`: a line break may follow. -/
def isLineOf (n : Nat) (p : Char → Bool) (cs : List Char) : Bool :=
  (cs.length = n || cs.length = n + 1 && cs.getLast? = some '\n') && (cs.take n).all p

/-- `removeprefix("sha256:")`. -/
def shaDigits (v : String) : List Char :=
  if "sha256:".toList.isPrefixOf v.toList then v.toList.drop 7 else v.toList

def validSha256 (v : Option String) : Bool := v.any fun v => isLineOf 64 isHexDigit (shaDigits v)

def validCommit (v : Option String) : Bool := v.any fun v => isLineOf 40 isHexDigit v.toList

def eqSha (a b : Option String) : Bool := validSha256 a && validSha256 b && a.map shaDigits = b.map shaDigits

def eqCommit (a b : Option String) : Bool := validCommit a && validCommit b && a = b

def isAsciiAlnum (c : Char) : Bool := ('0' ≤ c && c ≤ '9') || ('A' ≤ c && c ≤ 'Z') || ('a' ≤ c && c ≤ 'z')

/-- `_AUTH_ID_RE`. -/
def validAuthorizationId (v : Option String) : Bool := v.any fun v =>
  let cs := if v.toList.getLast? = some '\n' then v.toList.dropLast else v.toList
  cs.length ≤ 128 && cs.head?.any isAsciiAlnum && cs.all fun c => isAsciiAlnum c || "._:-".toList.contains c

def provenanceGates (baseMainSha : Option String) (ctx : ApplyContext) : List (String × Bool) :=
  let expectedMain := if ctx.expectedMainSha.any (· ≠ "") then ctx.expectedMainSha else baseMainSha
  let o := ctx.observedProvenance
  let e := ctx.expectedProvenance
  let fieldGates := [
    ("provenance_document_present", validSha256 o.documentHash),
    ("provenance_document_matches", eqSha o.documentHash e.documentHash),
    ("provenance_commit_matches", eqCommit o.commitSha e.commitSha),
    ("provenance_source_matches", eqSha o.sourceTreeHash e.sourceTreeHash),
    ("provenance_api_artifact_matches", eqSha o.apiArtifactHash e.apiArtifactHash),
    ("provenance_worker_artifact_matches", eqSha o.workerArtifactHash e.workerArtifactHash)]
  [("app_commit_sha_present", validCommit ctx.appCommitSha),
    ("api_worker_aligned",
      validCommit ctx.appCommitSha && ctx.deployedApiSha = ctx.appCommitSha && ctx.deployedWorkerSha = ctx.appCommitSha),
    ("main_commit_sha_matches", eqCommit ctx.appCommitSha expectedMain),
    ("immutable_build_provenance", fieldGates.all (·.2))] ++ fieldGates

def buildIdentityGates (ctx : ApplyContext) (env : Environment) : List (String × Bool) :=
  let o := ctx.observedProvenance
  [("build_doc_commit_matches_app", eqCommit o.commitSha ctx.appCommitSha),
    ("package_main_matches_expected", eqCommit ctx.expectedMainSha ctx.expectedProvenance.commitSha),
    ("build_doc_alembic_matches_package", o.alembicRevision.isSome && o.alembicRevision = ctx.expectedAlembic),
    ("build_doc_alembic_matches_live", o.alembicRevision.isSome && o.alembicRevision = env.alembicRevision),
    ("trust_root_matches_document", validSha256 env.trustRootHash && env.trustRootHash = o.authorizationTrustRootHash)]

def maxGenerationAge : Int := Instant.seconds (24 * 3600)

def authorizationRevalidated (ctx : ApplyContext) (env : Environment) (operationNow : Instant) : Bool :=
  ctx.authorizationPlanHash.any fun planHash =>
    (env.loadAuthorization planHash operationNow).any fun package => package = ctx.toPackageFields

def authorizationGates (planHash : Digest PlanSeal) (ctx : ApplyContext) (env : Environment) (now : Instant) :
    List (String × Bool) :=
  let aidOk := validAuthorizationId ctx.authorizationId
  let phOk := validSha256 ctx.authorizationPackageHash
  let fpOk := ctx.authorizationKeyFingerprint.any fun v => isLineOf 16 isHexDigit v.toList
  let gen := ctx.authorizationGeneratedAt
  let exp := ctx.authorizationExpiresAt
  [("authz_package_present", ctx.packagePresent),
    ("authz_signature_valid", ctx.signatureValid),
    ("authz_valid", ctx.authorizationValid),
    ("authz_identity_complete", aidOk && phOk && fpOk && gen.isSome && exp.isSome),
    ("authz_plan_hash_matches", ctx.authorizationPlanHash = some planHash),
    ("authz_id_valid", aidOk),
    ("authz_package_hash_valid", phOk),
    ("authz_key_fingerprint_valid", fpOk),
    ("authz_generated_before_now", gen.any fun g => g ≤ now),
    ("authz_not_expired", exp.any fun e => now ≤ e),
    ("authz_generation_fresh", gen.any fun g => 0 ≤ now - g && now - g ≤ maxGenerationAge),
    ("authz_revalidated_under_lock", authorizationRevalidated ctx env now)]

/-- The blockers that are not proven resolved. -/
def unresolvedBlockers (blockers : List String) (writerOk fullProvenanceOk : Bool) : List String :=
  blockers.filter fun b =>
    if b = "planner_is_plan_only" then false
    else if b = "record_price_fact_rolled_back_reuse_not_remediated" then !(writerOk && fullProvenanceOk)
    else if b = "unknown_commit_provenance" then !fullProvenanceOk
    else true

structure WriterContract where
  version : String
  exactFactReuseRequiresRolledBackAtNull : Bool
  rolledBackFactNeverReceivesNewOccurrence : Bool
  freshTransientCandidateRequired : Bool
  invalidCandidateRejectedBeforeSql : Bool
  activeExactAmbiguityPolicy : String
deriving DecidableEq

/-- What the recording service declares, as far as it is required. -/
def writerContract : WriterContract where
  version := "record-price-fact-v2-active-only"
  exactFactReuseRequiresRolledBackAtNull := true
  rolledBackFactNeverReceivesNewOccurrence := true
  freshTransientCandidateRequired := true
  invalidCandidateRejectedBeforeSql := true
  activeExactAmbiguityPolicy := "fail_closed"

def requiredWriterContract : WriterContract where
  version := "record-price-fact-v2-active-only"
  exactFactReuseRequiresRolledBackAtNull := true
  rolledBackFactNeverReceivesNewOccurrence := true
  freshTransientCandidateRequired := true
  invalidCandidateRejectedBeforeSql := true
  activeExactAmbiguityPolicy := "fail_closed"

def writerContractGate : Bool := writerContract = requiredWriterContract

/-! ### The environment -/

def remediationChains : List String :=
  ["parsebot-alcampo", "parsebot-dia", "parsebot-carrefour", "parsebot-lidl", "parsebot-aldi", "parsebot-deza",
    "apify-mercadona"]

def Environment.productionEnabled (env : Environment) : Bool := env.activations.any fun a =>
  remediationChains.contains a.providerCode && (a.productionEnabled || a.productionApproved)

def ChainFlags.allFalse (f : ChainFlags) : Bool :=
  !(f.parseBotAlcampoEnabled || f.parseBotDiaEnabled || f.parseBotCarrefourEnabled || f.parseBotLidlEnabled ||
    f.parseBotAldiEnabled || f.parseBotDezaEnabled || f.apifyEnabled || f.apifyMercadonaEnabled)

def Environment.killSwitchActive (env : Environment) : Bool :=
  ["1", "true", "on", "yes"].contains (Text.lowerAscii (Text.strip env.killSwitch)) ||
    (!env.productionEnabled && env.flags.allFalse)

/-- The gates that a restore asks for as well. -/
def operationalGates (env : Environment) : List (String × Bool) :=
  [("production_disabled", !env.productionEnabled),
    ("per_chain_flags_false", env.flags.allFalse),
    ("price_provider_kill_switch", env.killSwitchActive),
    ("crawl_run_not_running", !env.crawlRunStatuses.contains "running"),
    ("crawl_job_not_active", !env.crawlJobStatuses.any fun s => ["queued", "locked", "running"].contains s)]

def environmentGates (ctx : ApplyContext) (env : Environment) : List (String × Bool) :=
  operationalGates env ++
    [("product_price_matches_expected", env.productPrices == ctx.expectedProductPrice),
      ("mappings_match_expected", env.activeMappings == ctx.expectedActiveMappings),
      ("alembic_revision", ctx.expectedAlembic.isSome && env.alembicRevision == ctx.expectedAlembic)]

def backupGate (ctx : ApplyContext) (env : Environment) (operationNow : Instant) : Bool :=
  ctx.backup.any fun expectedSha256 =>
    let (ok, report) := env.verifyBackup operationNow
    ok && validSha256 ctx.expectedBackupSha256 && some expectedSha256 = ctx.expectedBackupSha256 &&
      report.observedSha256 = ctx.expectedBackupSha256 && ctx.expectedBackupStorageReference.isSome &&
      report.storageReferenceSanitized = ctx.expectedBackupStorageReference &&
      report.storageReferenceHash = ctx.expectedBackupStorageReferenceHash

/-! ### Drift -/

def canonicalReferred (fk : ForeignKey) : Bool :=
  fk.referredSchema = "public" && fk.referredTable = "price_observation" && fk.referredColumn = "id"

/-- The tables whose key `_FK_HANDLERS` knows. -/
def handledTables : List String := ["promotion_rule", "price_anomaly", "price_observation_occurrence"]

def hasHandler (fk : ForeignKey) : Bool :=
  fk.referencingSchema = "public" && handledTables.contains fk.referencingTable &&
    fk.referencingColumn = "price_observation_id"

def fkClassification (fk : ForeignKey) : FkClassification :=
  if !canonicalReferred fk then .foreignHomonym else if hasHandler fk then .domainSupported else .domainUnknown

def preserveUnchanged : String := "preserve_unchanged"

namespace AuditedDb
variable (s : AuditedDb)

def row? (id : Nat) : Option PriceObservation := Updates.row? (·.id) s.observations id

def live (lane : Lane) : List PriceObservation :=
  s.observations.filter fun r => r.lane = lane && r.rolledBackAt.isNone

def occurrencesOf (id : Nat) : List PriceObservationOccurrence := s.occurrences.filter (·.priceObservationId = id)

/-- The rows that reference an observation by a supported key, with their primary keys. Occurrences have a handler, and
    are not inventoried. -/
def dependencies (fk : ForeignKey) (id : Nat) : List (Nat × DependencyRow) :=
  if fk.referencingTable = "promotion_rule" then
    (s.promotionRules.filter (·.priceObservationId = id)).map fun r => (r.id, .promotionRule r)
  else if fk.referencingTable = "price_anomaly" then
    (s.anomalies.filter (·.priceObservationId = id)).map fun r => (r.id, .priceAnomaly r)
  else []

def supportedFk (id : Nat) : List FkEntry :=
  (s.foreignKeys.filter (fkClassification · = .domainSupported)).flatMap fun fk =>
    (s.dependencies fk id).map fun (pk, row) =>
      { fk := fk, pk := pk, fullRowHash := .sha256 row, applyPolicy := preserveUnchanged, restorePolicy := preserveUnchanged }

/-- `_unknown_fk_refs` of one observation. -/
def unknownFk (id : Nat) : List String :=
  (s.foreignKeys.filter (fkClassification · = .domainUnknown)).flatMap fun fk =>
    (s.references.filter (· = (fk, id))).map fun _ => fkIdent fk

def unknownFkRefs (ids : List Nat) : Bool := ids.any fun id => !(s.unknownFk id).isEmpty

/-- The lanes that `_load` of the planner finds. -/
def stagedLanes (retailerId : Option Int) : List Lane :=
  let rows := s.observations.filter fun r =>
    r.rolledBackAt.isNone && r.stagingOnly && retailerId.all fun id => r.retailerId = id
  (rows.map (·.lane)).eraseDups

def laneManifest (lane : Lane) : ManifestLane :=
  History.laneManifest lane (s.live lane) s.occurrencesOf s.supportedFk s.unknownFk

/-- The lanes of the manifest that the planner writes: those that are not in order. -/
def planLanes (retailerId : Option Int) : List ManifestLane :=
  ((s.stagedLanes retailerId).filter fun lane => !simReportOk (laneInvariantReport (s.live lane))).map s.laneManifest

end AuditedDb

/-- The dependencies sealed for an observation; of two entries for one row the last one counts. -/
def Manifest.sealedFk (m : Manifest) (id : Nat) : Finset FkEntry :=
  ((m.plannedRows.reverse.find? (·.id = id)).map (·.incomingFkState.toFinset)).getD ∅

def driftGates (s : AuditedDb) (m : Manifest) : List (String × Bool) :=
  let rows := m.plannedRows
  [("row_hashes_match", rows.all fun r => (s.row? r.id).any fun row => Digest.sha256 row = r.fullRowHash),
    ("occurrences_unchanged", rows.all fun r =>
      (s.row? r.id).isNone || ((s.occurrencesOf r.id).map Digest.sha256).toFinset = r.occurrences.toFinset),
    ("supported_fk_unchanged", rows.all fun r => m.sealedFk r.id = (s.supportedFk r.id).toFinset),
    ("no_unknown_fk", !s.unknownFkRefs (rows.map (·.id)))]

def runAllGates (s : AuditedDb) (m : Manifest) (ctx : ApplyContext) (env : Environment) (forApply : Bool)
    (operationNow : Instant) : List (String × Bool) :=
  let provenance := provenanceGates m.commitProvenance.baseMainSha ctx ++ buildIdentityGates ctx env ++
    authorizationGates m.planHash ctx env operationNow
  [("plan_hash_intact", decide (m.recomputePlanHash = m.planHash)),
    ("plan_not_expired", m.planAgeOk operationNow),
    ("supported_actions_only", m.actionsSupported),
    ("writer_contract_v2", writerContractGate)] ++
    provenance ++
    [("manifest_blockers_resolved",
      (unresolvedBlockers m.applyBlockers writerContractGate (provenance.all (·.2))).isEmpty)] ++
    environmentGates ctx env ++
    driftGates s m ++
    if forApply then [("backup_verified", backupGate ctx env operationNow)] else []

/-! ### The writes of a run -/

def PriceObservation.mutableState (r : PriceObservation) : TemporalFields where
  validFrom := r.validFrom
  validUntil := r.validUntil
  verificationStatus := r.verificationStatus
  rolledBackAt := r.rolledBackAt
  rolledBackBy := r.rolledBackBy
  closedByRunId := r.closedByRunId

def PriceObservation.withTemporal (r : PriceObservation) (t : TemporalFields) : PriceObservation :=
  { r with
    validFrom := t.validFrom
    validUntil := t.validUntil
    verificationStatus := t.verificationStatus
    rolledBackAt := t.rolledBackAt
    rolledBackBy := t.rolledBackBy
    closedByRunId := t.closedByRunId }

def RollbackMark.bind (runTs : Instant) : RollbackMark → Instant
  | .stamped t => t
  | .remediationRun => runTs

/-- `_bound_temporal`: the fields that the template names, over those of the row. -/
def StateTemplate.bound (tmpl : StateTemplate) (runTs : Instant) (t : TemporalFields) : TemporalFields where
  validFrom := (tmpl.validFrom.map (·.bind runTs)).getD t.validFrom
  validUntil := (tmpl.validUntil.map fun v => v.map (·.bind runTs)).getD t.validUntil
  verificationStatus := tmpl.verificationStatus.getD t.verificationStatus
  rolledBackAt := (tmpl.rolledBackAt.map fun v => v.map (·.bind runTs)).getD t.rolledBackAt
  rolledBackBy := tmpl.rolledBackBy.getD t.rolledBackBy
  closedByRunId := tmpl.closedByRunId.getD t.closedByRunId

def anomalyHash (a : AnomalyRow) : Digest AnomalyKey :=
  .sha256 ⟨a.priceObservationId, a.anomalyType, a.severity, a.status⟩

/-- `_obs_id_for_hash`. -/
def ManifestLane.obsIdForHash (lane : ManifestLane) (hash : Digest PriceObservation) : Option Nat :=
  (lane.rows.find? (·.fullRowHash = hash)).map (·.id)

def ManifestLane.sealedSideEffectRef (lane : ManifestLane) (hash : Digest PriceObservation) : Digest SideEffectKey :=
  match lane.proposedSideEffects.find? (·.targetObservationRef = hash) with
  | some se => .sha256 ⟨se.type, se.targetObservationRef, se.anomalyType, se.severity⟩
  | none => .other ""

/-- The session while the run writes: the tables that it may change, and the changes that it has recorded. -/
structure Applying where
  observations : List PriceObservation
  anomalies : List AnomalyRow
  nextAnomalyId : Nat
  changes : List HistoryRemediationChange
  nextChangeId : Nat

def AuditedDb.applying (s : AuditedDb) : Applying where
  observations := s.observations
  anomalies := s.anomalies
  nextAnomalyId := s.nextAnomalyId
  changes := []
  nextChangeId := s.nextChangeId

def Applying.row? (st : Applying) (id : Nat) : Option PriceObservation := Updates.row? (·.id) st.observations id

def applySideEffect (lane : ManifestLane) (st : Applying) (se : SideEffect) : Except ApplyError (Applying × AnomalyRow) :=
  if se.type ≠ "create_price_anomaly" then .error ⟨.unsupportedAction, "unsupported_side_effect"⟩
  else
    -- The gates have found the target in the lane, and a severity of the column.
    match lane.obsIdForHash se.targetObservationRef, se.severity with
    | some obsId, some severity =>
      if st.anomalies.any fun a => a.priceObservationId = obsId && a.anomalyType = se.anomalyType && a.status = .open then
        .error ⟨.unsupportedAction, "equivalent_anomaly_exists"⟩
      else
        let an : AnomalyRow :=
          { id := st.nextAnomalyId
            priceObservationId := obsId
            crawlRunId := none
            anomalyType := se.anomalyType
            severity := severity
            actualValue := none
            status := .open }
        .ok ({ st with anomalies := st.anomalies ++ [an], nextAnomalyId := st.nextAnomalyId + 1 }, an)
    | _, _ => .error ⟨.unexpected, "unexpected_apply_error"⟩

/-- `_apply_side_effects`, with the anomaly of each target. -/
def applySideEffects (lane : ManifestLane) (st : Applying) :
    List SideEffect → Except ApplyError (Applying × List (Digest PriceObservation × AnomalyRow))
  | [] => .ok (st, [])
  | se :: rest =>
    match applySideEffect lane st se with
    | .error e => .error e
    | .ok (st, an) =>
      match applySideEffects lane st rest with
      | .error e => .error e
      | .ok (st, created) => .ok (st, (se.targetObservationRef, an) :: created)

/-- The state that the run gives the row. -/
def ManifestRow.bound (r : ManifestRow) (runTs : Instant) (t : TemporalFields) : TemporalFields :=
  if r.action.writes then r.expectedStateTemplate.bound runTs t else t

/-- The change that `_apply_row` records. -/
def plannedChange (runId : Nat) (planHash : Digest PlanSeal) (lane : ManifestLane)
    (created : List (Digest PriceObservation × AnomalyRow)) (runTs : Instant) (id : Nat) (live : PriceObservation)
    (r : ManifestRow) : HistoryRemediationChange :=
  let original := live.mutableState
  let bound := r.bound runTs original
  let anomaly := created.lookup r.fullRowHash
  { id := id
    remediationRunId := runId
    deterministicActionId :=
      .sha256 ⟨planHash, lane.laneFingerprint, r.fullRowHash, r.action, lane.sealedSideEffectRef r.fullRowHash⟩
    laneFingerprint := lane.laneFingerprint
    priceObservationId := r.id
    actionType := r.action
    originalTemporalState := original
    expectedBoundState := bound
    actualAfterState := none
    originalHash := r.fullRowHash
    expectedBoundHash := .sha256 bound
    actualAfterHash := none
    createdAnomalyOriginalId := anomaly.map (·.id)
    createdAnomalyHash := anomaly.map anomalyHash
    createdAnomalyLiveId := anomaly.map (·.id)
    applyEvidenceHash := .other "pending"
    status := .planned }

def applyRow (runId : Nat) (planHash : Digest PlanSeal) (lane : ManifestLane)
    (created : List (Digest PriceObservation × AnomalyRow)) (runTs : Instant) (st : Applying) (r : ManifestRow) :
    Except ApplyError Applying :=
  match st.row? r.id with
  | none => .error ⟨.unexpected, "unexpected_apply_error"⟩
  | some live =>
    if !r.action.supported then .error ⟨.unsupportedAction, "unsupported_action"⟩
    else
      .ok { st with
        observations := Updates.updateAt (·.id) r.id (·.withTemporal (r.bound runTs live.mutableState)) st.observations
        changes := st.changes ++ [plannedChange runId planHash lane created runTs st.nextChangeId live r]
        nextChangeId := st.nextChangeId + 1 }

def applyLane (runId : Nat) (planHash : Digest PlanSeal) (runTs : Instant) (st : Applying) (lane : ManifestLane) :
    Except ApplyError Applying :=
  match applySideEffects lane st lane.proposedSideEffects with
  | .error e => .error e
  | .ok (st, created) => lane.rows.foldlM (applyRow runId planHash lane created runTs) st

def evidenceSchemaVersion : Nat := 2

def applyEvidenceHash (planHash : Digest PlanSeal) (record : ChangeRecord) : Digest ChangeEvidence :=
  .sha256 ⟨evidenceSchemaVersion, planHash, record⟩

/-- The verification after the flush: what the row holds now is recorded, and a write must have had its effect. -/
def sealChange (planHash : Digest PlanSeal) (st : Applying) (ch : HistoryRemediationChange) :
    Except ApplyError HistoryRemediationChange :=
  match st.row? ch.priceObservationId with
  | none => .error ⟨.unexpected, "unexpected_apply_error"⟩
  | some live =>
    let record : ChangeRecord :=
      { ch.toChangeRecord with actualAfterState := some live.mutableState, actualAfterHash := some (.sha256 live.mutableState) }
    if ch.actionType.writes ∧ record.actualAfterHash ≠ some ch.expectedBoundHash then .error ⟨.planDrift, "post_flush_mismatch"⟩
    else
      .ok { ch with
        toChangeRecord := record
        status := .applied
        errorCode := none
        applyEvidenceHash := applyEvidenceHash planHash record }

namespace AuditedDb
variable (s : AuditedDb)

def countSnapshot : CountSnapshot where
  priceObservation := s.observations.length
  priceObservationOccurrence := s.occurrences.length
  rolledBack := s.observations.countP (·.rolledBackAt.isSome)
  priceAnomaly := s.anomalies.length

/-- The evidence of `_live_occ_fk`. -/
def occurrenceEvidence (ids : List Nat) : OccurrenceEvidence :=
  ids.toFinset.image fun id => (id, ((s.occurrencesOf id).map Digest.sha256 : Multiset (Digest PriceObservationOccurrence)))

def fkEvidence (ids : List Nat) : FkEvidence :=
  ids.toFinset.image fun id => (id, (s.supportedFk id : Multiset FkEntry))

def fkFingerprint : Digest (Multiset String) := .sha256 ((s.foreignKeys : Multiset ForeignKey).map fkIdent)

/-- `_completed_run`. -/
def completedRun (planHash : Digest PlanSeal) : Option HistoryRemediationRun :=
  s.runs.find? fun r => r.planHash = planHash && r.status = .applied

end AuditedDb

def ApplyContext.identity (ctx : ApplyContext) : SealedIdentity where
  observedCommitSha := ctx.appCommitSha
  expectedCommitSha := ctx.expectedProvenance.commitSha
  observedSourceHash := ctx.observedProvenance.sourceTreeHash
  expectedSourceHash := ctx.expectedProvenance.sourceTreeHash
  observedApiArtifactHash := ctx.observedProvenance.apiArtifactHash
  expectedApiArtifactHash := ctx.expectedProvenance.apiArtifactHash
  observedWorkerArtifactHash := ctx.observedProvenance.workerArtifactHash
  expectedWorkerArtifactHash := ctx.expectedProvenance.workerArtifactHash
  observedProvenanceDocumentHash := ctx.observedProvenance.documentHash
  expectedProvenanceDocumentHash := ctx.expectedProvenance.documentHash
  authorizationId := ctx.authorizationId
  authorizationPackageHash := ctx.authorizationPackageHash
  authorizationKeyFingerprint := ctx.authorizationKeyFingerprint
  authorizationGeneratedAt := ctx.authorizationGeneratedAt
  authorizationExpiresAt := ctx.authorizationExpiresAt
  expectedBackupSha256 := ctx.expectedBackupSha256
  expectedBackupStorageReferenceHash := ctx.expectedBackupStorageReferenceHash

/-- What `_run_execution_hash` hashes. -/
def runEvidence (run : HistoryRemediationRun) (changes : List HistoryRemediationChange) : RunEvidence where
  evidenceSchemaVersion := evidenceSchemaVersion
  planHash := run.planHash
  applyEvidenceHashes := changes.map (·.applyEvidenceHash)
  postApplyOccurrenceHashes := run.postApplyOccurrenceHashes
  postApplySupportedFkHashes := run.postApplySupportedFkHashes
  discoveredFkFingerprint := run.discoveredFkFingerprint
  expectedUnknownFkCount := run.expectedUnknownFkCount
  identity := run.identity
  backupEvidenceHash := run.backupEvidenceHash

def runExecutionHash (run : HistoryRemediationRun) (changes : List HistoryRemediationChange) : Digest RunEvidence :=
  .sha256 (runEvidence run changes)

/-- The run as it is inserted. -/
def startedRun (s : AuditedDb) (m : Manifest) (ctx : ApplyContext) (env : Environment) (operationNow : Instant)
    (supersedes : Option Nat) : HistoryRemediationRun where
  id := s.nextRunId
  planHash := m.planHash
  manifestSchemaVersion := m.schemaVersion
  plannerToolVersion := m.toolVersion
  plannerSourceHash := m.plannerSourceHash
  writerContractVersion := requiredWriterContract.version
  mainCommitSha := if ctx.expectedMainSha.any (· ≠ "") then ctx.expectedMainSha else m.commitProvenance.baseMainSha
  alembicRevision := env.alembicRevision
  status := .applied
  startedAt := some operationNow
  completedAt := none
  operatorReference := ctx.operatorReference
  identity := ctx.identity
  backupEvidenceHash := some (.sha256 (env.verifyBackup operationNow).2)
  beforeCounts := some s.countSnapshot
  supersedesRunId := supersedes

/-- The unique indexes of the runs. -/
def AuditedDb.acceptsRun (s : AuditedDb) (run : HistoryRemediationRun) : Bool :=
  s.runs.all fun r =>
    !(run.status = .applied && r.status = .applied && r.planHash = run.planHash) &&
      !(run.supersedesRunId.isSome && r.supersedesRunId = run.supersedesRunId)

/-- The tables when the run has written its rows. -/
def AuditedDb.written (s : AuditedDb) (st : Applying) (changes : List HistoryRemediationChange) : AuditedDb :=
  { s with
    observations := st.observations
    anomalies := st.anomalies
    nextAnomalyId := st.nextAnomalyId
    changes := s.changes ++ changes
    nextChangeId := st.nextChangeId
    nextRunId := s.nextRunId + 1 }

/-- The run with the evidence of `_capture_post_apply_evidence` and its seal. -/
def AuditedDb.sealedRun (written : AuditedDb) (m : Manifest) (run : HistoryRemediationRun)
    (changes : List HistoryRemediationChange) (operationNow : Instant) : HistoryRemediationRun :=
  let ids := m.plannedRows.map (·.id)
  let captured := { run with
    afterCounts := some written.countSnapshot
    completedAt := some operationNow
    postApplyOccurrenceHashes := some (written.occurrenceEvidence ids)
    postApplySupportedFkHashes := some (written.fkEvidence ids)
    discoveredFkFingerprint := some written.fkFingerprint
    expectedUnknownFkCount := some 0 }
  { captured with executionHash := some (runExecutionHash captured changes) }

/-- The tables after the run: its evidence and its seal, and the consumption of its plan. -/
def AuditedDb.completeRun (s : AuditedDb) (m : Manifest) (run : HistoryRemediationRun) (st : Applying)
    (changes : List HistoryRemediationChange) (operationNow : Instant) : AuditedDb :=
  let sealedRun := (s.written st changes).sealedRun m run changes operationNow
  { s.written st changes with
    runs := s.runs ++ [sealedRun]
    consumptions := s.consumptions ++ [
      { planHash := m.planHash
        firstRunId := run.id
        appliedAt := operationNow
        executionHash := sealedRun.executionHash }] }

/-- `_apply_locked`. Without a backup the gates have failed, so that its report is read where there is one. -/
def applyLocked (s : AuditedDb) (m : Manifest) (ctx : ApplyContext) (env : Environment) (operationNow : Instant)
    (supersedes : Option Nat) : Except ApplyError (AuditedDb × ApplyResult) :=
  if s.consumptions.any (·.planHash = m.planHash) then
    .ok (s,
      { status := if (s.completedRun m.planHash).isSome then .alreadyApplied else .planRequiresRegeneration
        planHash := m.planHash })
  else if !(runAllGates s m ctx env true operationNow).all (·.2) then .error ⟨.environmentUnsafe, "gates_blocking"⟩
  else
    let run := startedRun s m ctx env operationNow supersedes
    if !s.acceptsRun run then .error ⟨.alreadyApplied, "plan_hash_already_applied"⟩
    else
      match (m.lanes.filter (!·.excluded)).foldlM (applyLane run.id m.planHash operationNow) s.applying with
      | .error e => .error e
      | .ok st =>
        -- The unique constraint of the changes of a run.
        if ¬(st.changes.map (·.deterministicActionId)).Nodup then .error ⟨.unexpected, "unexpected_apply_error"⟩
        else
          match st.changes.mapM (sealChange m.planHash st) with
          | .error e => .error e
          | .ok changes =>
            let s' := s.completeRun m run st changes operationNow
            if s'.countSnapshot.priceObservation ≠ s.countSnapshot.priceObservation ∨
                s'.countSnapshot.priceObservationOccurrence ≠ s.countSnapshot.priceObservationOccurrence then
              .error ⟨.planDrift, "counts_not_preserved"⟩
            else .ok (s', { status := .applied, planHash := m.planHash, run := some run.id, changes := changes.length })

end CestaPlan.History
