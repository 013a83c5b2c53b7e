import CestaPlan.History.Remediation
import CestaPlan.Library.Grouping
import Mathlib.Data.Multiset.MapFold

/-! The manifest of a remediation plan, its seal (`_manifest`, `_seal` of `tools/plan_history_lane_remediation.py`)
    and what the executor checks of it alone (`tools/apply_history_lane_remediation.py`). -/

namespace CestaPlan.History
open Grouping

/-- The text of a SHA-256: that of a value, or a text that is the hash of none. The hash is taken to be injective. -/
inductive Digest (α : Type) where
  | sha256 (x : α)
  | other (text : String)
deriving DecidableEq

/-! ### The data -/

inductive RowAction where
  | keep | excludedNoAction | logicalRollbackExactDuplicate | reconstructInterval | markDisputedSameTimestampConflict
  | other (text : String)
deriving DecidableEq

/-- `expected_state_template`: the fields that it names, with a literal or the marker for the instant of the run. -/
structure StateTemplate where
  validFrom : Option RollbackMark := none
  validUntil : Option (Option RollbackMark) := none
  verificationStatus : Option VerificationStatus := none
  rolledBackAt : Option (Option RollbackMark) := none
  rolledBackBy : Option (Option Int) := none
  closedByRunId : Option (Option Int) := none
deriving DecidableEq

/-- A foreign key to `price_observation.id`, as the catalog describes it. -/
structure ForeignKey where
  referencingSchema : String
  referencingTable : String
  referencingColumn : String
  referredSchema : String
  referredTable : String
  referredColumn : String
  constraintName : Option String
deriving DecidableEq

structure PromotionRule where
  id : Nat
  priceObservationId : Nat
  type : String
deriving DecidableEq

structure AnomalyRow extends PriceAnomaly where
  id : Nat
deriving DecidableEq

/-- A row of a table whose foreign key the planner supports. -/
inductive DependencyRow where
  | promotionRule (r : PromotionRule)
  | priceAnomaly (r : AnomalyRow)
deriving DecidableEq

/-- An entry of `incoming_fk_state`. -/
structure FkEntry where
  fk : ForeignKey
  pk : Nat
  fullRowHash : Digest DependencyRow
  applyPolicy : String
  restorePolicy : String
deriving DecidableEq

structure ManifestRow where
  id : Nat
  classification : String
  action : RowAction
  fullRowHash : Digest PriceObservation
  expectedStateTemplate : StateTemplate
  /-- The hash of the row overlaid with the template. -/
  expectedTemplateHash : Digest (PriceObservation × StateTemplate)
  occurrences : List (Digest PriceObservationOccurrence)
  incomingFkState : List FkEntry
deriving DecidableEq

/-- `expected_payload_template` of a side effect; a severity that the column does not know is none. -/
structure AnomalyPayload where
  anomalyType : String
  severity : Option Severity
  priceObservationRef : Digest PriceObservation
  status : String
deriving DecidableEq

/-- What `deterministic_action_id` of a side effect hashes. -/
structure SideEffectContent where
  lane : Digest Lane
  type : String
  anomalyType : String
  severity : Option Severity
  targetObservationRef : Digest PriceObservation
  restoreAction : String
  expectedPayloadTemplate : AnomalyPayload
deriving DecidableEq

/-- A proposed side effect. -/
structure SideEffect where
  type : String
  anomalyType : String
  severity : Option Severity
  targetObservationRef : Digest PriceObservation
  originalState : String
  restoreAction : String
  expectedPayloadTemplate : AnomalyPayload
  deterministicActionId : Digest SideEffectContent
deriving DecidableEq

structure ManifestLane where
  laneFingerprint : Digest Lane
  excluded : Bool
  exclusionReasons : List String
  rows : List ManifestRow
  proposedSideEffects : List SideEffect
deriving DecidableEq

structure CommitProvenance where
  plannerCommitSha : Option String
  databaseCodeSha : Option String
  baseMainSha : Option String
  complete : Bool
deriving DecidableEq

structure BaselineCounts where
  priceObservation : Nat
  priceObservationOccurrence : Nat
deriving DecidableEq

/-! ### The seal -/

structure FkSeal where
  fk : ForeignKey
  fullRowHash : Digest DependencyRow
  applyPolicy : String
  restorePolicy : String
deriving DecidableEq

abbrev FkSealKey := Digest DependencyRow × String × String

def FkSeal.key (s : FkSeal) : FkSealKey := (s.fullRowHash, s.fk.referencingTable, s.fk.referencingColumn)

/-- What the seal holds of a row. Its lists are sorted by what an item is as a whole, or by a key of the items. -/
structure RowSeal where
  fullRowHash : Digest PriceObservation
  action : RowAction
  classification : String
  expectedStateTemplate : StateTemplate
  expectedTemplateHash : Digest (PriceObservation × StateTemplate)
  occurrenceHashes : Multiset (Digest PriceObservationOccurrence)
  fk : Finset (FkSealKey × List FkSeal)
deriving DecidableEq

structure LaneSeal where
  laneFingerprint : Digest Lane
  excluded : Bool
  exclusionReasons : Multiset String
  rows : Finset (Digest PriceObservation × List RowSeal)
  proposedSideEffects : Finset (Digest SideEffectContent × List SideEffect)
deriving DecidableEq

structure PlanSeal where
  schemaVersion : Int
  toolVersion : String
  plannerSourceHash : String
  commitProvenance : CommitProvenance
  providerCode : Option String
  retailerId : Option Int
  baselineCounts : BaselineCounts
  fkDiscovered : Multiset String
  applyReady : Bool
  applyBlockers : Multiset String
  applyPrerequisites : Multiset String
  lanes : Finset (Digest Lane × List LaneSeal)
deriving DecidableEq

inductive FkClassification where
  | foreignHomonym | domainSupported | domainUnknown
deriving DecidableEq

def FkClassification.text : FkClassification → String
  | .foreignHomonym => "foreign_homonym"
  | .domainSupported => "domain_supported"
  | .domainUnknown => "domain_unknown"

structure Manifest where
  schemaVersion : Int
  toolVersion : String
  plannerSourceHash : String
  commitProvenance : CommitProvenance
  generatedAt : Option Instant
  providerCode : Option String
  retailerId : Option Int
  baselineCounts : BaselineCounts
  fkDiscovered : List (ForeignKey × FkClassification)
  applyBlockers : List String
  applyPrerequisites : List String
  planHash : Digest PlanSeal
  lanes : List ManifestLane
  /-- Whether `scan_sensitive` finds anything in the text. -/
  sensitive : Bool := false

def fkIdent (fk : ForeignKey) : String :=
  s!"{fk.referencingSchema}.{fk.referencingTable}.{fk.referencingColumn}->" ++
    s!"{fk.referredSchema}.{fk.referredTable}.{fk.referredColumn}"

def fkLine (fk : ForeignKey) (classification : FkClassification) : String :=
  let constraint := fk.constraintName.getD "None"
  let text := classification.text
  s!"{fkIdent fk}:{constraint}:{text}"

def FkEntry.seal (e : FkEntry) : FkSeal := ⟨e.fk, e.fullRowHash, e.applyPolicy, e.restorePolicy⟩

def ManifestRow.seal (r : ManifestRow) : RowSeal where
  fullRowHash := r.fullRowHash
  action := r.action
  classification := r.classification
  expectedStateTemplate := r.expectedStateTemplate
  expectedTemplateHash := r.expectedTemplateHash
  occurrenceHashes := r.occurrences
  fk := grouped FkSeal.key (r.incomingFkState.map FkEntry.seal)

def ManifestLane.seal (l : ManifestLane) : LaneSeal where
  laneFingerprint := l.laneFingerprint
  excluded := l.excluded
  exclusionReasons := l.exclusionReasons
  rows := grouped (·.fullRowHash) (l.rows.map ManifestRow.seal)
  proposedSideEffects := grouped (·.deterministicActionId) l.proposedSideEffects

def plannerSchemaVersion : Int := 4

def plannerToolVersion : String := "0.4.0-plan-only"

/-- `_recompute_plan_hash`. -/
def Manifest.recomputePlanHash (m : Manifest) : Digest PlanSeal := .sha256
  { schemaVersion := plannerSchemaVersion
    toolVersion := plannerToolVersion
    plannerSourceHash := m.plannerSourceHash
    commitProvenance := m.commitProvenance
    providerCode := m.providerCode
    retailerId := m.retailerId
    baselineCounts := m.baselineCounts
    fkDiscovered := (m.fkDiscovered : Multiset (ForeignKey × FkClassification)).map fun f => fkLine f.1 f.2
    applyReady := false
    applyBlockers := m.applyBlockers
    applyPrerequisites := m.applyPrerequisites
    lanes := grouped (·.laneFingerprint) (m.lanes.map ManifestLane.seal) }

/-! ### What the executor checks of the manifest alone -/

def requiredSchemaVersion : Int := 4

def requiredPlannerToolVersion : String := "0.4.0-plan-only"

/-- `_require_manifest_shape`: the code of the exception. -/
def Manifest.shapeError (m : Manifest) : Option String :=
  if m.schemaVersion ≠ requiredSchemaVersion then some "manifest_schema_version"
  else if m.toolVersion ≠ requiredPlannerToolVersion then some "manifest_tool_version"
  else if m.sensitive then some "manifest_sensitive_data"
  else none

/-- `_planned_rows`. -/
def Manifest.plannedRows (m : Manifest) : List ManifestRow := (m.lanes.filter (!·.excluded)).flatMap (·.rows)

def Instant.seconds (n : Int) : Int := n * 10 ^ 6

def maxPlanAge : Int := Instant.seconds (24 * 3600)

/-- `_plan_age_ok`. -/
def Manifest.planAgeOk (m : Manifest) (operationNow : Instant) : Bool :=
  m.generatedAt.any fun gen => 0 ≤ operationNow - gen && operationNow - gen ≤ maxPlanAge

def RowAction.supported : RowAction → Bool
  | .keep | .excludedNoAction | .logicalRollbackExactDuplicate | .reconstructInterval => true
  | .markDisputedSameTimestampConflict | .other _ => false

def RowAction.writes : RowAction → Bool
  | .logicalRollbackExactDuplicate | .reconstructInterval => true
  | _ => false

def sameTimestampConflict : String := "same_timestamp_conflict"

def SideEffect.allowed (se : SideEffect) : Bool :=
  se.type = "create_price_anomaly" && se.anomalyType = sameTimestampConflict &&
    (se.severity = some .high || se.severity = some .medium || se.severity = some .low)

/-- `_actions_supported`. -/
def Manifest.actionsSupported (m : Manifest) : Bool := m.lanes.all fun lane =>
  lane.rows.all (·.action.supported) && lane.proposedSideEffects.all fun se =>
    se.allowed && (lane.rows.map (·.fullRowHash)).count se.targetObservationRef = 1

/-! ### The manifest that the planner writes -/

def RowClassification.text : RowClassification → String
  | .exactDuplicateNoncanonical => "exact_duplicate_noncanonical"
  | .sameTimestampSemanticConflictRepresentative => "same_timestamp_semantic_conflict_representative"
  | .sequentialUnique => "sequential_unique"
  | .sequentialUniqueOrCanonical => "sequential_unique_or_canonical"

def LaneAction.rowAction : LaneAction → RowAction
  | .keep => .keep
  | .reconstructInterval => .reconstructInterval
  | .markDisputedSameTimestampConflict => .markDisputedSameTimestampConflict
  | .logicalRollbackExactDuplicate => .logicalRollbackExactDuplicate

def TemporalState.template (t : TemporalState) : StateTemplate where
  validFrom := some (.stamped t.validFrom)
  validUntil := some (t.validUntil.map .stamped)
  verificationStatus := some t.verificationStatus
  rolledBackAt := some t.rolledBackAt

/-- The template of a row: a row that keeps its original state names all six fields. -/
def PlannedRow.template (p : PlannedRow) (r : PriceObservation) : StateTemplate :=
  match p.action with
  | some .keep | some .reconstructInterval | some .markDisputedSameTimestampConflict => p.expectedStateTemplate.template
  | some .logicalRollbackExactDuplicate | none =>
    { p.expectedStateTemplate.template with
      rolledBackBy := some r.rolledBackBy
      closedByRunId := some r.closedByRunId }

def PlannedRow.manifest (p : PlannedRow) (r : PriceObservation) (supportedFk : Nat → List FkEntry) : ManifestRow where
  id := r.id
  classification := (p.classification.map (·.text)).getD "excluded"
  action := (p.action.map (·.rowAction)).getD .excludedNoAction
  fullRowHash := .sha256 r
  expectedStateTemplate := p.template r
  expectedTemplateHash := .sha256 (r, p.template r)
  occurrences := p.occurrences.map .sha256
  incomingFkState := supportedFk r.id

def conflictSideEffect (lane : Lane) (r : PriceObservation) : SideEffect :=
  let payload : AnomalyPayload :=
    { anomalyType := sameTimestampConflict, severity := some .high, priceObservationRef := .sha256 r, status := "open" }
  { type := "create_price_anomaly"
    anomalyType := sameTimestampConflict
    severity := some .high
    targetObservationRef := .sha256 r
    originalState := "absent"
    restoreAction := "delete_only_created_row"
    expectedPayloadTemplate := payload
    deterministicActionId := .sha256
      { lane := .sha256 lane
        type := "create_price_anomaly"
        anomalyType := sameTimestampConflict
        severity := some .high
        targetObservationRef := .sha256 r
        restoreAction := "delete_only_created_row"
        expectedPayloadTemplate := payload } }

/-- The plan of a lane as the manifest shows it. -/
def laneManifest (lane : Lane) (rows : List PriceObservation) (occByObs : Nat → List PriceObservationOccurrence)
    (supportedFk : Nat → List FkEntry) (unknownFk : Nat → List String) : ManifestLane :=
  let plan := planLane rows occByObs unknownFk
  { laneFingerprint := .sha256 lane
    excluded := plan.excluded
    exclusionReasons := plan.exclusionReasons
    rows := List.zipWith (fun p r => p.manifest r supportedFk) plan.rows rows
    proposedSideEffects := (rows.filter fun r => plan.proposedSideEffects.contains r.id).map (conflictSideEffect lane) }

end CestaPlan.History
