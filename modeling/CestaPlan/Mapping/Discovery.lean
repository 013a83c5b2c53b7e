import CestaPlan.Library.Dict
import CestaPlan.Library.Numeric
import CestaPlan.Mapping.Review
import Mathlib.Data.List.Sort

/-! The discovery of mappings for a provider's products (`services/targeted_discovery.py`). It looks a mapping up by
    provider, ingredient and product, whatever its version, and writes it whatever a review has decided. -/

namespace CestaPlan.Mapping
open Updates

/-- A product as a capture or the staged rows give it. -/
structure ExternalCatalogProduct where
  externalProductId : String
  productName : String
  brand : Option String := none
  category : Option String := none
  netContentUnit : Option String := none
deriving DecidableEq

/-- What the dictionary makes of a product for an ingredient. -/
structure MappingCandidate where
  lexicalScore : ℚ
  categoryScore : ℚ
  semanticScore : Option ℚ := none
  confidence : ℚ
  mappingStatus : MappingStatus
  mappingMethod : String
  unitCompatibility : String := "unknown"
  preparationCompatibility : String := "unknown"
  dietaryCompatibility : String := "unknown"
  allergenCompatibility : String := "unknown"
  requiredReview : Bool
  matchedRules : List String := []
  warnings : List String := []

/-- The ingredient dictionary: the keys that it knows, and `classify_mapping`. -/
structure IngredientDictionary where
  knows : String → Bool
  classify : String → ExternalCatalogProduct → MappingCandidate

inductive ApprovalMode where
  | reviewOnly | deterministicAutoapproval
deriving DecidableEq

inductive DiscoveryError where
  | multipleResultsFound
  | uniqueViolation
deriving DecidableEq

/-- A call of `discover_and_map`, with the products that its ingestion has stored or found. -/
structure DiscoverCall where
  providerCode : String
  retailerSlug : String
  /-- `None` where no retailer has the slug. -/
  retailerId : Option Nat
  ingredientKeys : List String
  ingredientIds : Dict String Int
  products : List (ExternalCatalogProduct × Nat)
  approvalMode : ApprovalMode := .reviewOnly
  now : Instant

structure Match where
  ingredientId : Int
  key : String
  product : ExternalCatalogProduct
  productId : Nat
  candidate : MappingCandidate

/-! ### Matching -/

def maxCandidatesPerProduct : Nat := 3

def maxCandidatesPerIngredient : Nat := 25

def minReviewableConfidence : ℚ := 3 / 10

def minLexicalNameSignal : ℚ := 0

def mappingVersion : String := "2.0.0"

/-- The higher confidence first. -/
def byConfidence (a b : String × MappingCandidate) : Prop := b.2.confidence ≤ a.2.confidence

instance : DecidableRel byConfidence := fun a b => inferInstanceAs (Decidable (b.2.confidence ≤ a.2.confidence))

section Matching
variable (dictionary : IngredientDictionary)

/-- `_classify_candidates`. -/
def classifyCandidates (product : ExternalCatalogProduct) (keys : List String) : List (String × MappingCandidate) :=
  ((keys.filter dictionary.knows).map fun key => (key, dictionary.classify key product)).filter (fun kc =>
    !(kc.2.mappingStatus = .incompatible || kc.2.mappingStatus = .rejected)) |>.insertionSort byConfidence

/-- The candidates of a product that are confident enough and share a word with its name, as many as a product may
    have. -/
def keptCandidates (product : ExternalCatalogProduct) (keys : List String) : List (String × MappingCandidate) :=
  ((classifyCandidates dictionary product keys).filter fun kc =>
    minReviewableConfidence ≤ kc.2.confidence && minLexicalNameSignal < kc.2.lexicalScore).take maxCandidatesPerProduct

/-- The next candidate becomes a match, unless its ingredient has no row or as many matches as it may. -/
def addMatch (call : DiscoverCall) (product : ExternalCatalogProduct × Nat) (matches_ : List Match)
    (kc : String × MappingCandidate) : List Match :=
  match call.ingredientIds.get? kc.1 with
  | none => matches_
  | some ingredientId =>
    if maxCandidatesPerIngredient ≤ matches_.countP (·.key = kc.1) then matches_
    else matches_ ++ [{ ingredientId := ingredientId, key := kc.1, product := product.1, productId := product.2,
                        candidate := kc.2 }]

/-- The matches of a call, in the order in which they are written. -/
def matchesOf (call : DiscoverCall) : List Match :=
  if call.retailerId.isNone then []
  else call.products.foldl (fun matches_ product =>
    (keptCandidates dictionary product.1 call.ingredientKeys).foldl (addMatch call product) matches_) []

end Matching

/-! ### Writing -/

/-- The row is of the provider, and of the ingredient and product of the match. -/
def isFor (call : DiscoverCall) (m : Match) (r : ProviderIngredientMapping) : Bool :=
  r.providerCode = call.providerCode && r.ingredientId = m.ingredientId &&
    r.externalProductId = m.product.externalProductId

/-- `scalar_one_or_none`. -/
def findMapping (rows : Mappings) (call : DiscoverCall) (m : Match) :
    Except DiscoveryError (Option ProviderIngredientMapping) :=
  match rows.filter (isFor call m) with
  | [] => .ok none
  | [row] => .ok (some row)
  | _ => .error .multipleResultsFound

def nextId (rows : Mappings) : Nat := (rows.map (·.id)).foldr max 0 + 1

def newMapping (rows : Mappings) (call : DiscoverCall) (m : Match) : ProviderIngredientMapping where
  id := nextId rows
  ingredientId := m.ingredientId
  providerCode := call.providerCode
  externalProductId := m.product.externalProductId
  mappingMethod := m.candidate.mappingMethod
  confidenceScore := 0

/-- `active` of a match. -/
def activates (call : DiscoverCall) (m : Match) : Bool :=
  call.approvalMode = .deterministicAutoapproval && m.candidate.mappingStatus = .autoApproved

/-- The row with the proposal of the match. -/
def proposed (call : DiscoverCall) (m : Match) (row : ProviderIngredientMapping) : ProviderIngredientMapping :=
  { row with
    canonicalIngredientKey := m.key
    retailerSlug := call.retailerSlug
    normalizedProductId := some m.productId
    mappingVersion := mappingVersion
    mappingMethod := m.candidate.mappingMethod
    confidenceScore := Numeric.roundScale 4 m.candidate.confidence
    lexicalScore := some (Numeric.roundScale 4 m.candidate.lexicalScore)
    categoryScore := some (Numeric.roundScale 4 m.candidate.categoryScore)
    semanticScore := m.candidate.semanticScore.map (Numeric.roundScale 4)
    unitCompatibility := m.candidate.unitCompatibility
    preparationCompatibility := m.candidate.preparationCompatibility
    dietaryCompatibility := m.candidate.dietaryCompatibility
    allergenCompatibility := m.candidate.allergenCompatibility
    proposedMappingStatus := some m.candidate.mappingStatus
    proposedConfidence := some (Numeric.roundScale 4 m.candidate.confidence)
    proposedMethod := some m.candidate.mappingMethod
    evidence := { productName := some m.product.productName, warnings := m.candidate.warnings
                  matchedRules := m.candidate.matchedRules } }

/-- What `_upsert_mapping` makes of the row: a candidate for review, or what is proposed. -/
def written (call : DiscoverCall) (m : Match) (row : ProviderIngredientMapping) : ProviderIngredientMapping :=
  match call.approvalMode with
  | .reviewOnly =>
    { proposed call m row with
      mappingStatus := .candidate
      requiredReview := true
      active := false
      reviewedAt := none
      reviewedBy := none }
  | .deterministicAutoapproval =>
    { proposed call m row with
      mappingStatus := m.candidate.mappingStatus
      requiredReview := m.candidate.requiredReview
      active := activates call m
      reviewedAt := if activates call m then some call.now else row.reviewedAt }

/-- The unique indexes: one row of a version, and one approved row of a product. -/
def violates (rows : Mappings) (r : ProviderIngredientMapping) : Bool :=
  rows.any fun o => o.id ≠ r.id && (o.exactKey = r.exactKey ||
    (o.product = r.product && o.isSelectableForCosting && r.isSelectableForCosting))

/-- `_upsert_mapping`. -/
def upsertMapping (call : DiscoverCall) (rows : Mappings) (m : Match) : Except DiscoveryError Mappings := do
  match ← findMapping rows call m with
  | none =>
    let row := written call m (newMapping rows call m)
    if violates rows row then throw .uniqueViolation
    return rows ++ [row]
  | some found =>
    let row := written call m found
    if violates rows row then throw .uniqueViolation
    return updateAt (·.id) row.id (fun _ => row) rows

/-- `discover_and_map`, in its transaction. -/
def discoverAndMap (dictionary : IngredientDictionary) (rows : Mappings) (call : DiscoverCall) :
    Except DiscoveryError Mappings :=
  (matchesOf dictionary call).foldlM (upsertMapping call) rows

end CestaPlan.Mapping
