import CestaPlan.Library.Anchors
import CestaPlan.History.LaneReport

/-! The two-layer writer (`services/observation_persistence.py`).

    `recordPriceFact` records one economic fact and one occasion on which it was confirmed. The advisory
    locks of the source make the calls on a lane follow one another, so a call is a function of the
    tables; each call reads the rows as the columns keep them. -/

namespace CestaPlan.History
open Anchors

/-! ### Candidates -/

structure InstanceState where
  transient : Bool := true
  pending : Bool := false
  persistent : Bool := false
  detached : Bool := false
  deleted : Bool := false
  session : Bool := false
deriving DecidableEq

/-- A `PriceObservation` object that the caller passes, with the attributes it may leave unset. -/
structure Candidate where
  id : Option Nat := none
  retailerId : Int
  storeId : Option Int := none
  deliveryZoneId : Option Int := none
  productVariantId : Int
  priceScope : PriceScope
  priceType : PriceType
  amount : ℚ
  currency : String
  unitAmount : Option ℚ := none
  unitCode : Option String := none
  promotionText : Option String := none
  requiresLoyalty : Option Bool := none
  promotionValidFrom : Option Instant := none
  promotionValidUntil : Option Instant := none
  available : Option Bool := none
  sourceId : Option Int := none
  observedAt : Instant
  importedAt : Option Instant := none
  confidenceScore : ℚ
  rawCaptureId : Option Int := none
  crawlRunId : Option Int := none
  verificationStatus : Option VerificationStatus := none
  stagingOnly : Option Bool := none
  rolledBackAt : Option Instant := none
  rolledBackBy : Option Int := none
  closedByRunId : Option Int := none
  state : InstanceState := {}
deriving DecidableEq

/-- The fact of a candidate; an unset `requires_loyalty` is read as false. -/
def Candidate.fact (c : Candidate) : PriceFact :=
  { c with requiresLoyalty := c.requiresLoyalty.getD false }

/-- The lane of a candidate. With the routing flag unset it matches no row. -/
def Candidate.lane? (c : Candidate) : Option Lane := c.stagingOnly.map c.fact.lane

structure OccurrenceProvenance where
  providerCode : Option String := none
  sourceId : Option Int := none
  sourceUrl : Option String := none
  crawlRunId : Option Int := none
  rawCaptureId : Option Int := none
  connectorVersion : Option String := none
  parserVersion : Option String := none
  confidenceScore : Option ℚ := none
  verificationStatus : VerificationStatus := .unverified
  evidenceFingerprint : Option String := none
deriving DecidableEq

/-! ### Errors and results -/

/-- The sanitized causes of a `PreexistingHistoryLaneAnomaly`. -/
structure LaneCauses where
  multipleOpen : Nat
  overlap : Nat
  repeatedTimestamp : Nat
  nonPositiveInterval : Nat
  crossingDisputed : Nat
  disputedNonEmpty : Nat
deriving DecidableEq, Repr

/-- Why a call writes nothing. The last one is the database's: a decimal has no room in its column. -/
inductive RecordError where
  | invalidPriceFactCandidateState (reason : String)
  | preexistingHistoryLaneAnomaly (causes : LaneCauses)
  | multipleActiveExactFacts (count : Nat)
  | numericFieldOverflow
deriving DecidableEq, Repr

structure LockDiagnostics where
  factReusedAfterLaneLock : Bool := false
  occurrenceReusedAfterLock : Bool := false
  temporalPredecessorFound : Bool := false
  temporalSuccessorFound : Bool := false
  outOfOrderInsert : Bool := false
  sameTimestampConflict : Bool := false
  blockedGapBefore : Bool := false
deriving DecidableEq

structure RecordResult where
  observation : PriceObservation
  occurrence : PriceObservationOccurrence
  factCreated : Bool
  occurrenceCreated : Bool
  diagnostics : LockDiagnostics
deriving DecidableEq

/-! ### Reading -/

def validateCandidateState (c : Candidate) : Except RecordError Unit :=
  if c.rolledBackAt.isSome then .error (.invalidPriceFactCandidateState "candidate_rolled_back")
  else if c.state.deleted then .error (.invalidPriceFactCandidateState "candidate_deleted")
  else if c.state.persistent then .error (.invalidPriceFactCandidateState "candidate_persistent")
  else if c.state.detached then .error (.invalidPriceFactCandidateState "candidate_detached")
  else if c.state.pending then .error (.invalidPriceFactCandidateState "candidate_pending")
  else if c.state.session then .error (.invalidPriceFactCandidateState "candidate_session_associated")
  else if !c.state.transient then .error (.invalidPriceFactCandidateState "candidate_not_transient")
  else if c.id.isSome then .error (.invalidPriceFactCandidateState "candidate_primary_key_set")
  else .ok ()

/-- All rows of the candidate's lane that are not rolled back, active and disputed. -/
def laneRows (db : Db) (c : Candidate) : List PriceObservation :=
  db.observations.filter fun r => c.lane? = some r.lane && r.rolledBackAt.isNone

def preexistingLaneAnomaly (rows : List PriceObservation) : Option LaneCauses :=
  let rep := laneInvariantReport rows
  let causes : LaneCauses :=
    { multipleOpen := rep.lanesMultipleOpen
      overlap := rep.lanesOverlappingIntervals
      repeatedTimestamp := rep.lanesRepeatedTimestamp
      nonPositiveInterval := rep.rowsNonPositiveInterval
      crossingDisputed := rep.lanesActiveIntervalCrossesDisputed
      disputedNonEmpty := rep.disputedRowsNonEmpty }
  if causes.multipleOpen ≠ 0 ∨ causes.overlap ≠ 0 ∨ causes.repeatedTimestamp ≠ 0 ∨ causes.nonPositiveInterval ≠ 0 ∨
      causes.crossingDisputed ≠ 0 ∨ causes.disputedNonEmpty ≠ 0 then some causes else none

/-- The selective part of the identity that the query compares (`_FACT_PREFILTER`). -/
def factPrefilter (c : Candidate) (r : PriceObservation) : Bool :=
  r.retailerId = c.retailerId && r.productVariantId = c.productVariantId && r.storeId = c.storeId &&
    r.priceScope = c.priceScope && r.priceType = c.priceType && r.amount = c.amount && r.currency = c.currency &&
    r.observedAt = c.observedAt

structure FactLookup where
  activeFact : Option PriceObservation
  activeMatches : Nat
  rolledBackIgnored : Nat

/-- The exact fact to reuse. More than one active match fails closed. -/
def findExistingFact (db : Db) (c : Candidate) (stagingOnly : Bool) : Except RecordError FactLookup :=
  let rows := db.observations.filter fun r => factPrefilter c r && r.stagingOnly == stagingOnly
  let matching := rows.filter fun r => priceFactFingerprint r.toPriceFact = priceFactFingerprint c.fact
  let active := matching.filter (·.rolledBackAt.isNone)
  if 1 < active.length then .error (.multipleActiveExactFacts active.length)
  else .ok
    { activeFact := active.head?
      activeMatches := active.length
      rolledBackIgnored := (matching.filter (·.rolledBackAt.isSome)).length }

/-! ### Writing -/

def sameTimestampConflictType : String := "same_timestamp_conflict"

def conflictAnomaly (observationId : Nat) : PriceAnomaly where
  priceObservationId := observationId
  crawlRunId := none
  anomalyType := sameTimestampConflictType
  severity := .high
  actualValue := none
  status := .open

/-- Where a new fact goes in its lane: the end of its interval, whether it is disputed, and the flags. -/
structure Placement where
  validUntil : Option Instant
  disputed : Bool
  diagnostics : LockDiagnostics

/-- A sibling of a conflict, marked disputed with the empty interval. -/
def PriceObservation.collapse (r : PriceObservation) : PriceObservation :=
  { r with verificationStatus := .disputed, validUntil := some r.validFrom }

def PriceObservation.close (t : Instant) (run : Option Int) (r : PriceObservation) : PriceObservation :=
  { r with validUntil := some t, closedByRunId := run }

def placeInTemporalSequence (db : Db) (c : Candidate) (closedByRunId : Option Int) : Db × Placement :=
  let t := c.observedAt
  let rows := laneRows db c
  let inLane := fun r : PriceObservation => decide (c.lane? = some r.lane) && r.rolledBackAt.isNone
  let atT := rows.filter (·.validFrom = t)
  if atT ≠ [] then
    -- Every fact at `t` becomes disputed; a sibling that was active gets its anomaly here.
    let siblings := atT.filter fun r => !r.isDisputed
    ({ db.update (fun r => inLane r && r.validFrom = t && !r.isDisputed) PriceObservation.collapse with
        anomalies := db.anomalies ++ siblings.map fun e => conflictAnomaly e.id },
      { validUntil := some t, disputed := true, diagnostics := { sameTimestampConflict := true } })
  else
    let disputedTs := (rows.filter (·.isDisputed)).map (·.validFrom)
    let previous := previousAnchor (rows.map (·.validFrom)) t
    let next := nextAnchor (rows.map (·.validFrom)) t
    -- A disputed previous anchor is a barrier: the interval before it stays closed.
    let predecessor := previous.any fun p => !disputedTs.contains p
    (if predecessor then
        db.update (fun r => inLane r && some r.validFrom = previous && !r.isDisputed) (·.close t closedByRunId)
      else db,
      { validUntil := next
        disputed := false
        diagnostics :=
          { temporalPredecessorFound := predecessor
            temporalSuccessorFound := next.isSome
            outOfOrderInsert := next.isSome
            blockedGapBefore := previous.any fun p => disputedTs.contains p } })

/-- The row that the candidate becomes, with the interval and status of its place. -/
def Candidate.row (c : Candidate) (validUntil : Option Instant) (disputed : Bool) (importedAt : Instant) (id : Nat)
    (h : c.fact.fits = true) : PriceObservation where
  toPriceFact := c.fact.store
  id := id
  stagingOnly := c.stagingOnly.getD false
  sourceId := c.sourceId
  importedAt := c.importedAt.getD importedAt
  validFrom := c.observedAt
  validUntil := validUntil
  confidenceScore := Numeric.roundScale 4 c.confidenceScore
  rawCaptureId := c.rawCaptureId
  crawlRunId := c.crawlRunId
  verificationStatus := if disputed then .disputed else c.verificationStatus.getD .unverified
  rolledBackAt := c.rolledBackAt
  rolledBackBy := c.rolledBackBy
  closedByRunId := c.closedByRunId
  columns := PriceFact.store_stored h

def Db.insert (db : Db) (r : PriceObservation) (disputed : Bool) : Db :=
  { db with
    observations := db.observations ++ [r]
    anomalies := if disputed then db.anomalies ++ [conflictAnomaly r.id] else db.anomalies
    nextObservationId := db.nextObservationId + 1 }

/-- The fact layer: reuse the one active exact fact, or place a new one. -/
def recordFact (db : Db) (c : Candidate) (p : OccurrenceProvenance) (importedAt : Instant) :
    Except RecordError (Db × PriceObservation × Bool × LockDiagnostics) := do
  match preexistingLaneAnomaly (laneRows db c) with
  | some causes => throw (.preexistingHistoryLaneAnomaly causes)
  | none =>
    let lookup ← findExistingFact db c (c.stagingOnly.getD false)
    match lookup.activeFact with
    | some fact => pure (db, fact, false, { factReusedAfterLaneLock := true })
    | none =>
      let (placed, place) := placeInTemporalSequence db c p.crawlRunId
      if h : c.fact.fits = true then
        let row := c.row place.validUntil place.disputed importedAt placed.nextObservationId h
        pure (placed.insert row place.disputed, row, true, place.diagnostics)
      else throw .numericFieldOverflow

/-- The occurrence with this provenance, a null equal to a null. -/
def findExistingOccurrence (db : Db) (observationId : Nat) (p : OccurrenceProvenance) :
    Option PriceObservationOccurrence :=
  db.occurrences.find? fun o =>
    o.priceObservationId = observationId && o.providerCode = p.providerCode && o.sourceId = p.sourceId &&
      o.crawlRunId = p.crawlRunId && o.rawCaptureId = p.rawCaptureId && o.connectorVersion = p.connectorVersion &&
      o.parserVersion = p.parserVersion

def recordOccurrence (db : Db) (observationId : Nat) (p : OccurrenceProvenance) (importedAt : Instant) :
    Db × PriceObservationOccurrence × Bool :=
  match findExistingOccurrence db observationId p with
  | some o => (db, o, false)
  | none =>
    let o : PriceObservationOccurrence :=
      { id := db.nextOccurrenceId
        priceObservationId := observationId
        providerCode := p.providerCode
        sourceId := p.sourceId
        sourceUrl := p.sourceUrl
        crawlRunId := p.crawlRunId
        rawCaptureId := p.rawCaptureId
        connectorVersion := p.connectorVersion
        parserVersion := p.parserVersion
        importedAt := importedAt
        confidenceScore := p.confidenceScore.map (Numeric.roundScale 4)
        verificationStatus := p.verificationStatus
        evidenceFingerprint := p.evidenceFingerprint }
    ({ db with occurrences := db.occurrences ++ [o], nextOccurrenceId := db.nextOccurrenceId + 1 }, o, true)

def recordPriceFact (db : Db) (c : Candidate) (p : OccurrenceProvenance) (importedAt : Instant) :
    Except RecordError (Db × RecordResult) := do
  validateCandidateState c
  let (db, fact, factCreated, diag) ← recordFact db c p importedAt
  let (db, occurrence, occurrenceCreated) := recordOccurrence db fact.id p importedAt
  pure (db,
    { observation := fact
      occurrence := occurrence
      factCreated := factCreated
      occurrenceCreated := occurrenceCreated
      diagnostics := { diag with occurrenceReusedAfterLock := !occurrenceCreated } })

/-! ### Runs -/

structure RecordCall where
  candidate : Candidate
  provenance : OccurrenceProvenance
  importedAt : Instant
deriving DecidableEq

/-- The tables after a call. A call that raises leaves them as they were. -/
def Db.record (db : Db) (call : RecordCall) : Db :=
  match recordPriceFact db call.candidate call.provenance call.importedAt with
  | .ok (db', _) => db'
  | .error _ => db

def Db.recordAll (db : Db) (calls : List RecordCall) : Db := calls.foldl Db.record db

/-! ### The callers -/

structure ExternalCatalogProduct where
  provider : String
  regularPrice : ℚ
  currency : String
  priceScope : PriceScope
  observedAt : Instant
  confidenceScore : ℚ := 1
deriving DecidableEq

/-- The call that `_append_observation` of the provider sync makes for a staged product. -/
def appendObservation (retailerId : Int) (storeId : Option Int) (variantId : Int) (product : ExternalCatalogProduct)
    (runId : Int) (asOf : Instant) : RecordCall :=
  let confidence := if product.confidenceScore = 0 then 1 else product.confidenceScore
  { candidate :=
      { retailerId := retailerId
        storeId := storeId
        productVariantId := variantId
        priceScope := product.priceScope
        priceType := .regular
        amount := product.regularPrice
        currency := product.currency
        available := some true
        observedAt := product.observedAt
        importedAt := some asOf
        confidenceScore := confidence
        crawlRunId := some runId
        stagingOnly := some true }
    provenance := { providerCode := some product.provider, crawlRunId := some runId, confidenceScore := some confidence }
    importedAt := asOf }

/-- The call that `_persist_product` of the targeted discovery makes. -/
def persistProduct (retailerId variantId : Int) (p : ExternalCatalogProduct) (now : Instant) : RecordCall where
  candidate :=
    { retailerId := retailerId
      productVariantId := variantId
      priceScope := p.priceScope
      priceType := .regular
      amount := p.regularPrice
      currency := p.currency
      observedAt := p.observedAt
      importedAt := some now
      confidenceScore := 1
      stagingOnly := some true }
  provenance := { providerCode := some p.provider, confidenceScore := some 1 }
  importedAt := now

/-- A national price of one product, as a run of the sync records it. -/
def milk (price : ℚ) (observedAt : Instant) (run : Int) : RecordCall :=
  appendObservation 1 none 7
    { provider := "mercadona", regularPrice := price, currency := "EUR", priceScope := .national, observedAt := observedAt }
    run observedAt

def milkLane : Lane where
  stagingOnly := true
  retailerId := 1
  productVariantId := 7
  storeId := none
  deliveryZoneId := none
  priceScope := .national
  priceType := .regular
  currency := "EUR"

end CestaPlan.History
