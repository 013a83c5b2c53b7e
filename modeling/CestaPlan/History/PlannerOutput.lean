import CestaPlan.History.Executor
import CestaPlan.History.Redaction
import CestaPlan.Library.Calendar
import CestaPlan.Prices.PriceScope
import Mathlib.Data.String.Basic

/-! The manifest as the planner writes it (`_occ_manifest`, `_fk_manifest`, `_split_row`, `_plan_lane`, `_seal`, `_manifest` of
    `tools/plan_history_lane_remediation.py`), over the rows as JSON shows them. -/

namespace CestaPlan.History
open Json (orNull)

/-! ### The columns -/

def PriceType.value : PriceType → String
  | .regular => "regular"
  | .promotional => "promotional"
  | .loyalty => "loyalty"
  | .manual => "manual"
  | .receipt => "receipt"
  | .estimated => "estimated"
  | .unknown => "unknown"

def VerificationStatus.value : VerificationStatus → String
  | .unverified => "unverified"
  | .machineVerified => "machine_verified"
  | .humanVerified => "human_verified"
  | .disputed => "disputed"

/-- A decimal of a column with so many places: its sign, its whole part, and its places. -/
def decimalParts (places : ℕ) (x : ℚ) : String × List Char :=
  let units := ⌊|x| * 10 ^ places⌋.toNat
  ((if x < 0 then "-" else "") ++ toString (units / 10 ^ places), Calendar.padded places (units % 10 ^ places))

/-- `str` of it. -/
def decimalText (places : ℕ) (x : ℚ) : String :=
  let (whole, fraction) := decimalParts places x
  whole ++ String.ofList ('.' :: fraction)

/-- `format(value.normalize(), "f")` -/
def normalizedText (places : ℕ) (x : ℚ) : String :=
  let (whole, fraction) := decimalParts places x
  let fraction := fraction.rdropWhile (· = '0')
  if fraction = [] then whole else whole ++ String.ofList ('.' :: fraction)

example : [normalizedText 4 (119 / 100), decimalText 4 (119 / 100), normalizedText 4 1, normalizedText 6 (-1 / 2)] =
    ["1.19", "1.1900", "1", "-0.5"] := by decide +kernel

/-- A row of `price_observation` with all its columns. -/
structure ObservationRow extends PriceObservation where
  publicId : String
  createdAt : Instant
  updatedAt : Instant
  sourceUrl : Option String
  connectorVersion : Option String
  parserVersion : Option String
  expiresAt : Option Instant

/-- A row of `price_observation_occurrence` with all its columns. -/
structure OccurrenceRow extends PriceObservationOccurrence where
  publicId : String
  createdAt : Instant
  updatedAt : Instant

/-- A row of a table that references observations, as JSON shows it. -/
structure DependentRow where
  id : ℕ
  priceObservationId : Option ℕ
  columns : Fields

/-- `_json_default` of an instant. -/
def isoJson (t : Instant) : Json String := .str (Calendar.instantText t)

namespace ObservationRow
variable (r : ObservationRow)

/-- The fields of `MUTABLE_STATE_FIELDS`. -/
def temporal : Fields :=
  [("valid_from", isoJson r.validFrom),
    ("valid_until", orNull (r.validUntil.map isoJson)),
    ("verification_status", .str r.verificationStatus.value),
    ("rolled_back_at", orNull (r.rolledBackAt.map isoJson)),
    ("rolled_back_by", orNull (r.rolledBackBy.map .int)),
    ("closed_by_run_id", orNull (r.closedByRunId.map .int))]

/-- The other columns. -/
def identity : Fields :=
  [("id", .int r.id),
    ("public_id", .str r.publicId),
    ("retailer_id", .int r.retailerId),
    ("store_id", orNull (r.storeId.map .int)),
    ("delivery_zone_id", orNull (r.deliveryZoneId.map .int)),
    ("product_variant_id", .int r.productVariantId),
    ("price_scope", .str r.priceScope.value),
    ("price_type", .str r.priceType.value),
    ("amount", .str (normalizedText 4 r.amount)),
    ("currency", .str r.currency),
    ("unit_amount", orNull (r.unitAmount.map fun u => .str (normalizedText 6 u))),
    ("unit_code", orNull (r.unitCode.map .str)),
    ("promotion_text", orNull (r.promotionText.map .str)),
    ("requires_loyalty", .bool r.requiresLoyalty),
    ("promotion_valid_from", orNull (r.promotionValidFrom.map isoJson)),
    ("promotion_valid_until", orNull (r.promotionValidUntil.map isoJson)),
    ("available", orNull (r.available.map .bool)),
    ("source_id", orNull (r.sourceId.map .int)),
    ("source_url", orNull (r.sourceUrl.map .str)),
    ("observed_at", isoJson r.observedAt),
    ("imported_at", isoJson r.importedAt),
    ("expires_at", orNull (r.expiresAt.map isoJson)),
    ("confidence_score", .str (normalizedText 4 r.confidenceScore)),
    ("raw_capture_id", orNull (r.rawCaptureId.map .int)),
    ("crawl_run_id", orNull (r.crawlRunId.map .int)),
    ("connector_version", orNull (r.connectorVersion.map .str)),
    ("parser_version", orNull (r.parserVersion.map .str)),
    ("staging_only", .bool r.stagingOnly),
    ("created_at", isoJson r.createdAt),
    ("updated_at", isoJson r.updatedAt)]

/-- `row_values` -/
def values : Fields := r.identity ++ r.temporal

end ObservationRow

/-! ### The planner's run -/

/-- What the run of the planner takes from its environment and its session. -/
structure Planner extends Redactor where
  /-- `str` of an instant in the time zone of the session. -/
  shown : Instant → String
  plannerCommitSha : String
  databaseCodeSha : String
  baseMainSha : String
  plannerSourceHash : String
  now : Instant

def lookupD (fields : Fields) (k : String) : Json String := orNull (fields.lookup k)

/-- `if full.get(k)`: a value that is not empty. -/
def isTrue : Json String → Bool
  | .null | .bool false | .int 0 | .float "0.0" | .str "" | .arr [] | .obj [] => false
  | _ => true

def occKeep : List String :=
  ["id", "price_observation_id", "provider_code", "source_id", "crawl_run_id", "raw_capture_id", "connector_version", "parser_version",
    "imported_at", "confidence_score", "verification_status", "evidence_fingerprint"]

def laneFields : List String :=
  ["staging_only", "retailer_id", "product_variant_id", "store_id", "delivery_zone_id", "price_scope", "price_type", "currency"]

def factFields : List String :=
  ["retailer_id", "store_id", "delivery_zone_id", "product_variant_id", "price_scope", "price_type", "amount", "currency", "unit_amount",
    "unit_code", "promotion_text", "requires_loyalty", "promotion_valid_from", "promotion_valid_until", "available", "observed_at"]

def rollbackMarker : String := "<remediation_run_ts>"

/-- `_normalize` of a field. -/
def normalizeField (field : String) : Json String → Json String
  | .str s => .str (if field = "promotion_text" then Text.strip s else s)
  | v => v

def LaneAction.value : LaneAction → String
  | .keep => "keep"
  | .reconstructInterval => "reconstruct_interval"
  | .markDisputedSameTimestampConflict => "mark_disputed_same_timestamp_conflict"
  | .logicalRollbackExactDuplicate => "logical_rollback_exact_duplicate"

/-- `_preflight_diag` -/
def preflightDiag (reasons : List String) : String :=
  if reasons.contains "null_timestamp" then "unclassified_null_timestamp"
  else if reasons.any fun x => "uncovered_fk".toList.isPrefixOf x.toList then "unclassified_unknown_fk"
  else "preflight_not_classified"

def countJson (n : ℕ) : Json String := .int n

def LaneReport.json (r : LaneReport) : Json String := .obj
  [("lanes", countJson r.lanes), ("rows", countJson r.rows), ("lanes_multiple_open", countJson r.lanesMultipleOpen),
    ("lanes_repeated_timestamp", countJson r.lanesRepeatedTimestamp),
    ("lanes_overlapping_intervals", countJson r.lanesOverlappingIntervals),
    ("rows_non_positive_interval", countJson r.rowsNonPositiveInterval),
    ("disputed_rows_non_empty", countJson r.disputedRowsNonEmpty),
    ("lanes_active_interval_crosses_disputed", countJson r.lanesActiveIntervalCrossesDisputed),
    ("active_intervals_crossing_disputed", countJson r.activeIntervalsCrossingDisputed),
    ("lanes_with_unexpected_conflict_coverage", countJson r.lanesWithUnexpectedConflictCoverage),
    ("blocked_gap_count", countJson r.blockedGapCount)]

/-- An entry of `fk_discovered`. -/
def ForeignKey.json (fk : ForeignKey) : Json String := .obj
  [("referencing_schema", .str fk.referencingSchema), ("referencing_table", .str fk.referencingTable),
    ("referencing_column", .str fk.referencingColumn), ("referred_schema", .str fk.referredSchema),
    ("referred_table", .str fk.referredTable), ("referred_column", .str fk.referredColumn),
    ("constraint_name", orNull (fk.constraintName.map .str)), ("referred_is_canonical", .bool (canonicalReferred fk)),
    ("classification", .str (fkClassification fk).text), ("supported", .bool (canonicalReferred fk && hasHandler fk))]

namespace Planner
variable (P : Planner)

/-- `row_hash` -/
def rowHash (values : Fields) : Json String := P.valueHash (.obj values)

def shownJson (t : Instant) : Json String := .str (P.shown t)

/-- `full` of `_occ_manifest`. -/
def occurrenceValues (o : OccurrenceRow) : Fields :=
  [("id", .int o.id),
    ("public_id", .str o.publicId),
    ("price_observation_id", .int o.priceObservationId),
    ("provider_code", orNull (o.providerCode.map .str)),
    ("source_id", orNull (o.sourceId.map .int)),
    ("source_url", orNull (o.sourceUrl.map .str)),
    ("crawl_run_id", orNull (o.crawlRunId.map .int)),
    ("raw_capture_id", orNull (o.rawCaptureId.map .int)),
    ("connector_version", orNull (o.connectorVersion.map .str)),
    ("parser_version", orNull (o.parserVersion.map .str)),
    ("imported_at", P.shownJson o.importedAt),
    ("confidence_score", orNull (o.confidenceScore.map fun x => .str (decimalText 4 x))),
    ("verification_status", .str o.verificationStatus.value),
    ("evidence_fingerprint", orNull (o.evidenceFingerprint.map .str)),
    ("created_at", P.shownJson o.createdAt),
    ("updated_at", P.shownJson o.updatedAt)]

def occManifest (o : OccurrenceRow) : Fields :=
  let full := P.occurrenceValues o
  let hash (k : String) := if isTrue (lookupD full k) then P.valueHash (lookupD full k) else .null
  let present (k : String) : Json String := .bool !(lookupD full k).isNull
  (occKeep.flatMap fun k =>
    if P.isSensitiveKey k then [(k ++ "_present", present k), (k ++ "_hash", hash k)] else [(k, P.scrub (lookupD full k))]) ++
    [("occurrence_hash", P.rowHash full), ("source_url_present", present "source_url"), ("source_url_hash", hash "source_url")]

def fkManifest (fk : ForeignKey) (row : DependentRow) : Fields :=
  [("referencing_schema", .str fk.referencingSchema),
    ("referencing_table", .str fk.referencingTable),
    ("referencing_column", .str fk.referencingColumn),
    ("referred_schema", .str fk.referredSchema),
    ("referred_table", .str fk.referredTable),
    ("referred_column", .str fk.referredColumn),
    ("constraint_name", orNull (fk.constraintName.map .str)),
    ("pk", .int row.id),
    ("sanitized_values", .obj (P.sanitizeMapping row.columns)),
    ("full_row_hash", P.rowHash row.columns),
    ("apply_policy", .str preserveUnchanged),
    ("restore_policy", .str preserveUnchanged),
    ("kind", .str "preexisting")]

/-- The first part of `_split_row`. -/
def immutableIdentity (r : ObservationRow) : Fields :=
  (r.identity.filter fun e => !P.isSensitiveKey e.1).map fun e => (e.1, P.scrub e.2)

/-- The last part of `_split_row`. -/
def integrity (r : ObservationRow) : Fields :=
  ("full_row_hash", P.rowHash r.values) ::
    (r.identity.filter fun e => P.isSensitiveKey e.1).flatMap fun e =>
      [(e.1 ++ "_present", .bool (isGiven e.2)), (e.1 ++ "_hash", P.hashOf e.2)]

/-- `price_fact_fingerprint` and `price_history_lane_fingerprint`: the hash of some fields. -/
def fieldsHash (fields : List String) (r : ObservationRow) : String :=
  hexdigest (P.sha256 ("|".toList.intercalate (fields.map fun f => (normalizeField f (lookupD r.values f)).dumps Json.plain)))

def factFingerprint (r : ObservationRow) : String := P.fieldsHash factFields r

def laneFingerprint (r : ObservationRow) : String := P.fieldsHash laneFields r

/-- `expected` of a row that the plan does not leave as it is, its instants shown in some way. -/
def expectedFields (render : Instant → Json String) (t : TemporalState) : Fields :=
  [("valid_from", render t.validFrom),
    ("valid_until", orNull (t.validUntil.map render)),
    ("verification_status", .str t.verificationStatus.value),
    ("rolled_back_at", .null)]

/-- `expected_state_template` of a row, its instants shown in some way. -/
def expectedTemplate (render : Instant → Json String) (r : ObservationRow) (p : PlannedRow) : Fields :=
  match p.action with
  | none => r.temporal
  | some .logicalRollbackExactDuplicate => Dict.setEntries "rolled_back_at" (.str rollbackMarker) r.temporal
  | some _ => expectedFields render p.expectedStateTemplate

/-- `_template_hash` -/
def templateHash (r : ObservationRow) (p : PlannedRow) : Json String :=
  P.rowHash ((expectedTemplate isoJson r p).foldl (fun tmpl e => Dict.setEntries e.1 e.2 tmpl) r.values)

section Rows
variable (reasons : List String) (occByObs : ℕ → List OccurrenceRow) (supportedFk : ℕ → List Fields)

/-- A row of a lane of the manifest. Where the lane is left out, there is no action. -/
def rowManifest (r : ObservationRow) (p : PlannedRow) : Fields :=
  let diagnostic := (p.diagnosticClassification.map (·.text)).getD (preflightDiag reasons)
  [("id", .int r.id),
    ("fact_fingerprint", .str (P.factFingerprint r)),
    ("classification", .str ((p.classification.map (·.text)).getD "excluded")),
    ("diagnostic_classification", .str diagnostic),
    ("action", .str ((p.action.map (·.value)).getD "excluded_no_action")),
    ("immutable_identity", .obj (P.immutableIdentity r)),
    ("original_temporal_state", .obj r.temporal),
    ("integrity", .obj (P.integrity r)),
    ("expected_state_template", .obj (expectedTemplate (fun t => .other (P.shown t)) r p)),
    ("expected_template_hash", if p.action.isNone then P.rowHash r.values else P.templateHash r p),
    ("occurrences", .arr ((occByObs r.id).map fun o => .obj (P.occManifest o))),
    ("incoming_fk_state", .arr ((supportedFk r.id).map .obj))]

end Rows

/-- A `create_price_anomaly` for a disputed row. -/
def sideEffect (laneFp : String) (r : ObservationRow) : Fields :=
  let target := P.rowHash r.values
  let head : Fields :=
    [("type", .str "create_price_anomaly"), ("anomaly_type", .str sameTimestampConflict), ("severity", .str "high"),
      ("target_observation_ref", target)]
  let restore : Json String := .str "delete_only_created_row"
  let payload : Json String := .obj
    [("anomaly_type", .str sameTimestampConflict), ("severity", .str "high"), ("price_observation_ref", target),
      ("status", .str "open")]
  head ++ [("original_state", .str "absent"), ("restore_action", restore), ("expected_payload_template", payload),
    ("deterministic_action_id",
      P.valueHash (.obj (("lane", .str laneFp) :: head ++ [("restore_action", restore), ("expected_payload_template", payload)])))]

def lanePlan (rows : List ObservationRow) (occByObs : ℕ → List OccurrenceRow) (unknownFk : ℕ → List String) : LanePlan :=
  planLane (rows.map (·.toPriceObservation)) (fun id => (occByObs id).map (·.toPriceObservationOccurrence)) unknownFk

/-- `_plan_lane`, as the manifest shows it. -/
def laneManifest (laneFp : String) (rows : List ObservationRow) (occByObs : ℕ → List OccurrenceRow)
    (supportedFk : ℕ → List Fields) (unknownFk : ℕ → List String) : Fields :=
  let plan := lanePlan rows occByObs unknownFk
  [("lane_fingerprint", .str laneFp),
    ("excluded", .bool plan.excluded),
    ("apply_allowed", .bool plan.applyAllowed),
    ("exclusion_reasons", .arr (plan.exclusionReasons.map .str)),
    ("exact_duplicate_groups", countJson plan.exactDuplicateGroups),
    ("exact_duplicate_rows", countJson plan.exactDuplicateRows),
    ("semantic_conflict_groups", countJson plan.semanticConflictGroups),
    ("semantic_conflict_representatives", countJson plan.semanticConflictRepresentatives),
    ("facts_to_logically_rollback", countJson plan.exactDuplicateRows),
    ("facts_to_mark_disputed", countJson plan.semanticConflictRepresentatives),
    ("intervals_to_reconstruct", countJson plan.intervalsToReconstruct),
    ("occurrences_in_lane", countJson plan.occurrencesInLane),
    ("rows", .arr (List.zipWith (fun r p => .obj (P.rowManifest plan.exclusionReasons occByObs supportedFk r p)) rows plan.rows)),
    ("proposed_actions", .arr ((((plan.rows.filterMap (·.action)).filter (· ≠ .keep)).map (·.value)).eraseDups.insertionSort
      (· ≤ ·) |>.map .str)),
    ("proposed_side_effects", .arr ((rows.filter fun r => plan.proposedSideEffects.contains r.id).map fun r =>
      .obj (P.sideEffect laneFp r))),
    ("projected_invariants", (plan.projectedInvariants.map (·.json)).getD (.obj [])),
    ("planned_changes", countJson plan.plannedChanges),
    ("anomalous", .bool true)]

end Planner

/-! ### The seal -/

/-- The text of a string, as an f-string shows it. -/
def fieldText : Json String → String
  | .str s => s
  | _ => "None"

def sortBy {κ : Type} [LE κ] [DecidableLE κ] (key : Json String → κ) (items : List (Json String)) : Json String :=
  .arr (items.insertionSort fun a b => key a ≤ key b)

def textField (k : String) (v : Json String) : String := fieldText (v.field k)

def fkSeal (fk : Json String) : Json String := .obj
  (["referencing_schema", "referencing_table", "referencing_column", "referred_schema", "referred_table", "referred_column",
    "constraint_name", "full_row_hash", "apply_policy", "restore_policy"].map fun k => (k, fk.field k))

def rowSeal (r : Json String) : Json String := .obj
  [("full_row_hash", (r.field "integrity").field "full_row_hash"),
    ("action", r.field "action"),
    ("classification", r.field "classification"),
    ("expected_state_template", (r.field "expected_state_template").reread),
    ("expected_template_hash", r.field "expected_template_hash"),
    ("occurrence_hashes", sortBy fieldText ((r.field "occurrences").items.map (·.field "occurrence_hash"))),
    ("fk", sortBy (fun x => [textField "full_row_hash" x, textField "referencing_table" x, textField "referencing_column" x])
      ((r.field "incoming_fk_state").items.map fkSeal))]

def laneSeal (p : Json String) : Json String := .obj
  [("lane_fingerprint", p.field "lane_fingerprint"),
    ("excluded", p.field "excluded"),
    ("exclusion_reasons", sortBy fieldText (p.field "exclusion_reasons").items),
    ("rows", sortBy (textField "full_row_hash") ((p.field "rows").items.map rowSeal)),
    ("proposed_side_effects",
      sortBy (textField "deterministic_action_id") ((p.field "proposed_side_effects").items.map (·.reread)))]

/-- The line of `fk_discovered` in the seal. -/
def fkSealLine (f : Json String) : Json String :=
  let text (k : String) := textField k f
  .str (text "referencing_schema" ++ "." ++ text "referencing_table" ++ "." ++ text "referencing_column" ++ "->" ++
    text "referred_schema" ++ "." ++ text "referred_table" ++ "." ++ text "referred_column" ++ ":" ++ text "constraint_name" ++ ":" ++
    text "classification")

namespace Planner
variable (P : Planner)

/-- `_seal` -/
def planSeal (providerCode retailerId baseline : Json String) (lanePlans discovered : List (Json String)) (provenance : Fields)
    (complete : Json String) (blockers prerequisites : List (Json String)) (plannerSourceHash : Json String) : Json String :=
  P.rowHash
    [("schema_version", .int plannerSchemaVersion), ("tool_version", .str plannerToolVersion),
      ("planner_source_hash", plannerSourceHash),
      ("commit_provenance", .obj (provenance ++ [("complete", complete)])),
      ("provider_code", providerCode), ("retailer_id", retailerId), ("baseline_counts", baseline),
      ("fk_discovered", sortBy fieldText (discovered.map fkSealLine)),
      ("apply_ready", .bool false), ("apply_blockers", sortBy fieldText blockers),
      ("apply_prerequisites", sortBy fieldText prerequisites),
      ("lanes", sortBy (textField "lane_fingerprint") (lanePlans.map laneSeal))]

def provenance : Fields :=
  [("planner_commit_sha", .str P.plannerCommitSha), ("database_code_sha", .str P.databaseCodeSha),
    ("base_main_sha", .str P.baseMainSha)]

/-- A text that `_SHA_RE` matches; its `$` also matches before a line break at the end. -/
def isSha (v : String) : Bool :=
  let digits := if v.toList.getLast? = some '\n' then v.toList.dropLast else v.toList
  digits.length = 40 && digits.all "0123456789abcdef".toList.contains

def provenanceComplete : Bool := [P.plannerCommitSha, P.databaseCodeSha, P.baseMainSha].all isSha

def applyBlockers : List String :=
  ["planner_is_plan_only", "record_price_fact_rolled_back_reuse_not_remediated"] ++
    if P.provenanceComplete then [] else ["unknown_commit_provenance"]

def applyPrerequisites : List String :=
  ["record_price_fact excludes rolled_back_at IS NULL (separate writer PR + tests)",
    "writer_contract verified (version + commit + test evidence + deployed/main SHA)",
    "all commit provenance known (full 40-hex planner/database/base_main SHAs)"]

/-- `_manifest` -/
def manifest (providerCode : Option String) (retailerId : Option ℤ) (baseline : Fields) (lanePlans : List Fields)
    (discovered : List ForeignKey) : Fields :=
  let provider := orNull (providerCode.map .str)
  let retailer := orNull (retailerId.map .int)
  let blockers := P.applyBlockers.map .str
  let prerequisites := applyPrerequisites.map .str
  let fks := discovered.map (·.json)
  let lanes := lanePlans.map .obj
  let complete : Json String := .bool P.provenanceComplete
  [("schema_version", .int plannerSchemaVersion),
    ("tool_version", .str plannerToolVersion),
    ("planner_source_hash", .str P.plannerSourceHash),
    ("commit_provenance", .obj (P.provenance ++ [("complete", complete)])),
    ("writer_contract_status", .str "unverified"),
    ("snapshot", .obj [("transaction_read_only", .bool true), ("snapshot_isolation", .str "repeatable read")]),
    ("generated_at", isoJson P.now),
    ("provider_code", provider),
    ("retailer_id", retailer),
    ("baseline_counts", .obj baseline),
    ("fk_discovered", .arr fks),
    ("apply_ready", .bool false),
    ("apply_blockers", .arr blockers),
    ("apply_prerequisites", .arr prerequisites),
    ("plan_hash", P.planSeal provider retailer (.obj baseline) lanes fks P.provenance complete blockers prerequisites
      (.str P.plannerSourceHash)),
    ("lanes", .arr lanes)]

/-- `_recompute_plan_hash` -/
def recomputePlanHash (m : Json String) : Json String :=
  let commit := match m.field "commit_provenance" with
    | .obj fields => fields
    | _ => []
  P.planSeal (m.field "provider_code") (m.field "retailer_id") (m.field "baseline_counts") (m.field "lanes").items
    (m.field "fk_discovered").items (commit.filter (·.1 ≠ "complete")) (((commit.lookup "complete")).getD (.bool false))
    (m.field "apply_blockers").items (m.field "apply_prerequisites").items (m.field "planner_source_hash")

end Planner

/-! ### The run -/

/-- What the planner reads, each table and the catalog in the order in which the database returns them. -/
structure PlannerDb where
  observations : List ObservationRow
  occurrences : List OccurrenceRow
  foreignKeys : List ForeignKey
  promotionRules : List DependentRow
  anomalies : List DependentRow
  /-- What the rows of unknown tables reference. -/
  references : List (ForeignKey × ℕ)

/-- The provider that the run is for, and its retailer where there is one. -/
abbrev Provider := String × Option ℤ

namespace PlannerDb
variable (db : PlannerDb)

/-- The rows that `_load` selects. -/
def loaded (provider : Option Provider) : List ObservationRow := db.observations.filter fun r =>
  r.rolledBackAt.isNone && r.stagingOnly && provider.all fun p => p.2.any (r.retailerId = ·)

def occByObs (id : ℕ) : List OccurrenceRow := db.occurrences.filter (·.priceObservationId = id)

/-- The rows of the tables whose dependents are emitted. -/
def dependents (fk : ForeignKey) : List DependentRow :=
  if fk.referencingTable = "promotion_rule" then db.promotionRules
  else if fk.referencingTable = "price_anomaly" then db.anomalies
  else []

def supportedFk (P : Planner) (id : ℕ) : List Fields :=
  (db.foreignKeys.filter (fkClassification · = .domainSupported)).flatMap fun fk =>
    ((db.dependents fk).filter (·.priceObservationId = some id)).map (P.fkManifest fk)

/-- `_unknown_fk_refs` of one observation. -/
def unknownFk (id : ℕ) : List String :=
  (db.foreignKeys.filter (fkClassification · = .domainUnknown)).flatMap fun fk =>
    (db.references.filter (· = (fk, id))).map fun _ => fkIdent fk

end PlannerDb

namespace Planner
variable (P : Planner)

/-- The lanes whose report is not clean, in the order of their fingerprints. -/
def anomalousLanes (rows : List ObservationRow) : List (String × List ObservationRow) :=
  let lanes := ((rows.map (·.lane)).eraseDups.map fun lane => rows.filter (·.lane = lane)).filterMap fun group =>
    group.head?.map fun r => (P.laneFingerprint r, group)
  (lanes.insertionSort fun a b => a.1 ≤ b.1).filter fun l =>
    !simReportOk (laneInvariantReport (l.2.map (·.toPriceObservation)))

def lanePlans (db : PlannerDb) (rows : List ObservationRow) : List Fields :=
  (P.anomalousLanes rows).map fun l => P.laneManifest l.1 l.2 db.occByObs (db.supportedFk P) db.unknownFk

/-- The manifest of `_dry_run_in_snapshot`. A provider that is unknown has no rows and no foreign keys. -/
def dryRun (db : PlannerDb) (provider : Option Provider) : Fields :=
  let baseline : Fields :=
    [("price_observation", countJson db.observations.length), ("price_observation_occurrence", countJson db.occurrences.length)]
  match provider with
  | some (code, none) => P.manifest (some code) none baseline [] []
  | _ => P.manifest (provider.map (·.1)) (provider.bind (·.2)) baseline (P.lanePlans db (db.loaded provider)) db.foreignKeys

/-- `_run`: the manifest, or the end of the program where the scan finds something. -/
def run (db : PlannerDb) (provider : Option Provider) : Option Fields :=
  let m := P.dryRun db provider
  if P.scanSensitive "$" (.obj m) = [] then some m else none

end Planner
end CestaPlan.History
