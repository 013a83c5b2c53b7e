import CestaPlan.Library.Runs
import CestaPlan.Library.Selection
import CestaPlan.Library.Updates
import Mathlib.Algebra.Order.Ring.Rat

/-! The review of the mappings between ingredients and the products of a provider (`services/mapping_review.py`). -/

namespace CestaPlan.Mapping
open Updates

/-- An instant in UTC, in microseconds. -/
abbrev Instant := Int

inductive MappingStatus where
  | autoApproved | manuallyApproved | candidate | rejected | incompatible
  | other (text : String)
deriving DecidableEq

inductive RelationStatus where
  | independent | competing | conflictResolved | rejectedCompetitor | supersededExactDuplicate
  | other (text : String)
deriving DecidableEq

structure Revocation where
  at_ : Instant
  by_ : Int
  reason : String
deriving DecidableEq

/-- The keys of `evidence_json` that no column keeps as well. -/
structure Evidence where
  warnings : List String := []
  decision : Option String := none
  reason : Option String := none
  revocations : List Revocation := []
  productName : Option String := none
  matchedRules : List String := []
deriving DecidableEq

structure ProviderIngredientMapping where
  id : Nat
  ingredientId : Int
  providerCode : String
  externalProductId : String
  mappingVersion : String := "1.0.0"
  mappingStatus : MappingStatus := .candidate
  mappingMethod : String
  confidenceScore : ℚ
  unitCompatibility : String := "unknown"
  requiredReview : Bool := true
  reviewedAt : Option Instant := none
  reviewedBy : Option Int := none
  reviewReason : Option String := none
  active : Bool := false
  supersededAt : Option Instant := none
  supersededReason : Option String := none
  relationStatus : RelationStatus := .independent
  conflictGroupId : Option String := none
  conflictReason : Option String := none
  resolvedByMappingId : Option Nat := none
  conflictResolvedAt : Option Instant := none
  evidence : Evidence := {}
  canonicalIngredientKey : String := ""
  retailerSlug : String := ""
  normalizedProductId : Option Nat := none
  semanticScore : Option ℚ := none
  lexicalScore : Option ℚ := none
  categoryScore : Option ℚ := none
  preparationCompatibility : String := "unknown"
  dietaryCompatibility : String := "unknown"
  allergenCompatibility : String := "unknown"
  proposedMappingStatus : Option MappingStatus := none
  proposedConfidence : Option ℚ := none
  proposedMethod : Option String := none
deriving DecidableEq

inductive ReviewError where
  | notFound (mappingId : Nat)
  | alreadyApproved (ingredientId : Int) (mappingId : Nat)
  | rejectionReasonRequired
  | revokeReasonRequired
  | noMappingsSelected
  | severalIngredients
  | notEligible (mappingId : Nat)
deriving DecidableEq

def ReviewError.message : ReviewError → String
  | .notFound i => s!"mapping {i} not found"
  | .alreadyApproved ingredient i => s!"product already approved for ingredient {ingredient} (mapping {i})"
  | .rejectionReasonRequired => "rejection reason is required"
  | .revokeReasonRequired => "revoke reason is required"
  | .noMappingsSelected => "no mappings selected"
  | .severalIngredients => "bulk approval requires a single ingredient"
  | .notEligible i => s!"mapping {i} is not eligible for bulk approval (ambiguous/low-confidence)"

abbrev Mappings := List ProviderIngredientMapping

namespace ProviderIngredientMapping

def approved (r : ProviderIngredientMapping) : Bool :=
  r.mappingStatus = .autoApproved || r.mappingStatus = .manuallyApproved

def isSelectableForCosting (r : ProviderIngredientMapping) : Bool := r.active && r.approved

/-- The product that the mapping is for. -/
def product (r : ProviderIngredientMapping) : String × String := (r.providerCode, r.externalProductId)

/-- `if row.conflict_group_id`. -/
def inConflict (r : ProviderIngredientMapping) : Bool := r.conflictGroupId.any (· ≠ "")

/-- The mapping was turned down for the one with this id. -/
def LostTo (r : ProviderIngredientMapping) (i : Nat) : Prop :=
  r.relationStatus = .rejectedCompetitor ∧ r.resolvedByMappingId = some i

instance (r : ProviderIngredientMapping) (i : Nat) : Decidable (r.LostTo i) := inferInstanceAs (Decidable (_ ∧ _))

/-! ### Exact duplicates and versions -/

/-- The fields that make two mappings exact duplicates. -/
def exactKey (r : ProviderIngredientMapping) : String × Int × String × String :=
  (r.providerCode, r.ingredientId, r.externalProductId, r.mappingVersion)

/-- The order of the best duplicate: the confidence first, then an active one, then the oldest. -/
def betterThan (a b : ProviderIngredientMapping) : Prop :=
  b.confidenceScore < a.confidenceScore ∨
    (a.confidenceScore = b.confidenceScore ∧
      (b.active.toNat < a.active.toNat ∨ (a.active = b.active ∧ a.id ≤ b.id)))

instance : DecidableRel betterThan := fun _ _ => inferInstanceAs (Decidable (_ ∨ _))

def duplicateOf (r : ProviderIngredientMapping) (winner : Nat) (now : Instant) : ProviderIngredientMapping :=
  { r with
    supersededAt := some now
    supersededReason := some s!"exact duplicate of mapping {winner}"
    relationStatus := .supersededExactDuplicate
    active := false }

/-- A stale candidate makes way for the next version of the discovery. -/
def supersede (r : ProviderIngredientMapping) (now : Instant) : ProviderIngredientMapping :=
  { r with supersededAt := some now, supersededReason := some "candidate_quality_v2", active := false }

def tag (r : ProviderIngredientMapping) : ProviderIngredientMapping :=
  { r with
    conflictGroupId := some s!"{r.providerCode}:{r.externalProductId}"
    relationStatus :=
      if r.isSelectableForCosting then .conflictResolved
      else if r.relationStatus = .rejectedCompetitor then r.relationStatus
      else .competing }

/-! ### Decisions -/

def approve (r : ProviderIngredientMapping) (reviewerId : Int) (reason : Option String) (now : Instant) :
    ProviderIngredientMapping :=
  { r with
    mappingStatus := .manuallyApproved
    requiredReview := false
    active := true
    reviewedAt := some now
    reviewedBy := some reviewerId
    reviewReason := reason
    relationStatus := if r.inConflict then .conflictResolved else .independent
    conflictResolvedAt := if r.inConflict then some now else none
    evidence := { r.evidence with decision := some "manually_approved", reason := reason } }

def lose (r : ProviderIngredientMapping) (winner : Nat) (now : Instant) : ProviderIngredientMapping :=
  { r with
    relationStatus := .rejectedCompetitor
    active := false
    requiredReview := false
    resolvedByMappingId := some winner
    conflictResolvedAt := some now
    conflictReason := some s!"lost conflict to mapping {winner}" }

def reject (r : ProviderIngredientMapping) (reviewerId : Int) (reason : String) (now : Instant) :
    ProviderIngredientMapping :=
  { r with
    mappingStatus := .rejected
    requiredReview := false
    active := false
    reviewedAt := some now
    reviewedBy := some reviewerId
    reviewReason := some reason
    evidence := { r.evidence with decision := some "rejected", reason := some reason } }

def revoke (r : ProviderIngredientMapping) (reviewerId : Int) (reason : String) (now : Instant) :
    ProviderIngredientMapping :=
  { r with
    active := false
    requiredReview := true
    mappingStatus := .candidate
    relationStatus := if r.inConflict then .competing else .independent
    conflictResolvedAt := none
    reviewedAt := some now
    reviewedBy := some reviewerId
    reviewReason := some reason
    evidence := { r.evidence with
      decision := some "revoked"
      revocations := r.evidence.revocations ++ [{ at_ := now, by_ := reviewerId, reason := reason }] } }

def reopen (r : ProviderIngredientMapping) : ProviderIngredientMapping :=
  { r with
    relationStatus := .competing
    requiredReview := true
    mappingStatus := .candidate
    resolvedByMappingId := none
    conflictReason := none }

/-- What `bulk_approve` asks of a mapping. -/
def bulkEligible (r : ProviderIngredientMapping) (minConfidence : ℚ) : Bool :=
  (r.mappingStatus = .autoApproved || r.mappingStatus = .candidate) &&
    (r.mappingMethod = "exact_alias" || r.mappingMethod = "category_constrained") &&
    decide (minConfidence ≤ r.confidenceScore) &&
    (r.unitCompatibility = "compatible" || r.unitCompatibility = "convertible") && r.evidence.warnings = []

end ProviderIngredientMapping

/-! ### The operations -/

/-- The best of the exact duplicates of a row that are not superseded. -/
def exactWinner (rows : Mappings) (r : ProviderIngredientMapping) : Option ProviderIngredientMapping :=
  Selection.first ProviderIngredientMapping.betterThan
    (rows.filter fun m => m.supersededAt.isNone && m.exactKey = r.exactKey)

def consolidateDuplicates (rows : Mappings) (now : Instant) : Mappings :=
  rows.map fun m =>
    match exactWinner rows m with
    | some winner => if m.supersededAt.isNone && m.id ≠ winner.id then m.duplicateOf winner.id now else m
    | none => m

/-- `_version_tuple`, where `int` is the conversion of a text to an integer. -/
def versionTuple (int : String → Option Int) (version : String) : List Int :=
  (version.splitOn ".").map fun p => (int p).getD 0

def supersedeV1Candidates (int : String → Option Int) (rows : Mappings) (providerCode : Option String)
    (currentVersion : String) (now : Instant) : Mappings :=
  rows.map fun m =>
    if m.supersededAt.isNone && m.reviewedAt.isNone && m.mappingStatus = .candidate &&
        providerCode.all (m.providerCode = ·) && versionTuple int m.mappingVersion < versionTuple int currentVersion then
      m.supersede now
    else m

/-- Several ingredients claim the product of the row. -/
def contested (rows : Mappings) (r : ProviderIngredientMapping) : Bool :=
  rows.any fun m => rows.any fun m' => m.supersededAt.isNone && m'.supersededAt.isNone && m.product = r.product &&
    m'.product = r.product && m.ingredientId ≠ m'.ingredientId

def tagConflicts (rows : Mappings) : Mappings :=
  rows.map fun m => if m.supersededAt.isNone && contested rows m then m.tag else m

/-- `_get`. -/
def get (rows : Mappings) (mappingId : Nat) : Except ReviewError ProviderIngredientMapping :=
  match row? (·.id) rows mappingId with
  | some row => .ok row
  | none => .error (.notFound mappingId)

/-- `_resolve_competitors`. -/
def resolveCompetitors (rows : Mappings) (winner : ProviderIngredientMapping) (now : Instant) : Mappings :=
  if winner.conflictGroupId.isNone then rows
  else rows.map fun sib =>
    if sib.product = winner.product && sib.id ≠ winner.id && sib.supersededAt.isNone &&
        !(sib.mappingStatus = .rejected || sib.mappingStatus = .incompatible) then
      sib.lose winner.id now
    else sib

def approve (rows : Mappings) (mappingId : Nat) (reviewerId : Int) (reason : Option String) (now : Instant) :
    Except ReviewError Mappings := do
  let row ← get rows mappingId
  match rows.find? fun o => o.product = row.product && o.id ≠ row.id && o.isSelectableForCosting with
  | some other => .error (.alreadyApproved other.ingredientId other.id)
  | none =>
    return resolveCompetitors (updateAt (·.id) row.id (·.approve reviewerId reason now) rows)
      (row.approve reviewerId reason now) now

def reject (rows : Mappings) (mappingId : Nat) (reviewerId : Int) (reason : String) (now : Instant) :
    Except ReviewError Mappings := do
  if reason = "" then throw .rejectionReasonRequired
  let row ← get rows mappingId
  return updateAt (·.id) row.id (·.reject reviewerId reason now) rows

def revoke (rows : Mappings) (mappingId : Nat) (reviewerId : Int) (reason : String) (now : Instant) :
    Except ReviewError Mappings := do
  if reason = "" then throw .revokeReasonRequired
  let row ← get rows mappingId
  let rows := updateAt (·.id) row.id (·.revoke reviewerId reason now) rows
  if row.conflictGroupId.isNone then return rows
  return rows.map fun sib =>
    if sib.product = row.product && sib.id ≠ row.id && decide (sib.LostTo row.id) then sib.reopen else sib

def bulkApprove (rows : Mappings) (mappingIds : List Nat) (reviewerId : Int) (reason : Option String)
    (minConfidence : ℚ) (now : Instant) : Except ReviewError Mappings := do
  let selected ← mappingIds.mapM (get rows)
  if selected = [] then throw .noMappingsSelected
  if 1 < (selected.map (·.ingredientId)).dedup.length then throw .severalIngredients
  match selected.find? (!·.bulkEligible minConfidence) with
  | some r => throw (.notEligible r.id)
  | none => selected.foldlM (fun rows r => approve rows r.id reviewerId reason now) rows

def bulkReject (rows : Mappings) (mappingIds : List Nat) (reviewerId : Int) (reason : String) (now : Instant) :
    Except ReviewError Mappings :=
  mappingIds.foldlM (fun rows i => reject rows i reviewerId reason now) rows

inductive Op where
  | approve (mappingId : Nat) (reviewerId : Int) (reason : Option String) (now : Instant)
  | reject (mappingId : Nat) (reviewerId : Int) (reason : String) (now : Instant)
  | revoke (mappingId : Nat) (reviewerId : Int) (reason : String) (now : Instant)
  | bulkApprove (mappingIds : List Nat) (reviewerId : Int) (reason : Option String) (minConfidence : ℚ) (now : Instant)
  | bulkReject (mappingIds : List Nat) (reviewerId : Int) (reason : String) (now : Instant)
  | tagConflicts
  | consolidateDuplicates (now : Instant)
  | supersedeV1Candidates (providerCode : Option String) (currentVersion : String) (now : Instant)

/-- A call in its transaction: a refused one is rolled back. -/
def apply (int : String → Option Int) (rows : Mappings) : Op → Mappings
  | .approve i by_ reason now => (Mapping.approve rows i by_ reason now).toOption.getD rows
  | .reject i by_ reason now => (Mapping.reject rows i by_ reason now).toOption.getD rows
  | .revoke i by_ reason now => (Mapping.revoke rows i by_ reason now).toOption.getD rows
  | .bulkApprove is by_ reason minConfidence now =>
    (Mapping.bulkApprove rows is by_ reason minConfidence now).toOption.getD rows
  | .bulkReject is by_ reason now => (Mapping.bulkReject rows is by_ reason now).toOption.getD rows
  | .tagConflicts => Mapping.tagConflicts rows
  | .consolidateDuplicates now => Mapping.consolidateDuplicates rows now
  | .supersedeV1Candidates providerCode currentVersion now =>
    Mapping.supersedeV1Candidates int rows providerCode currentVersion now

end CestaPlan.Mapping
