import CestaPlan.Library.Numeric
import CestaPlan.Library.Text

/-! The tables of the price history (`models/ingestion.py`) and the identities of a fact
    (`services/observation_identity.py`).

    A `PriceObservation` is one economic price fact together with its place in an interval chain; a
    `PriceObservationOccurrence` is one occasion on which a provider confirmed it. -/

namespace CestaPlan.History
open Numeric

/-- An instant in UTC, in microseconds. -/
abbrev Instant := Int

inductive PriceScope where
  | exactStore | deliveryZone | postalCode | municipality | province | region | national | unknown
deriving DecidableEq, Repr

inductive PriceType where
  | regular | promotional | loyalty | manual | receipt | estimated | unknown
deriving DecidableEq, Repr

inductive VerificationStatus where
  | unverified | machineVerified | humanVerified | disputed
deriving DecidableEq, Repr

inductive Severity where
  | low | medium | high | critical
deriving DecidableEq, Repr

inductive AnomalyStatus where
  | open | quarantined | approved | rejected
deriving DecidableEq, Repr

/-! ### Facts -/

/-- The sixteen fields that define the economic fact (`FACT_FIELDS`). -/
structure PriceFact where
  retailerId : Int
  storeId : Option Int
  deliveryZoneId : Option Int
  productVariantId : Int
  priceScope : PriceScope
  priceType : PriceType
  amount : ℚ
  currency : String
  unitAmount : Option ℚ
  unitCode : Option String
  promotionText : Option String
  requiresLoyalty : Bool
  promotionValidFrom : Option Instant
  promotionValidUntil : Option Instant
  available : Option Bool
  observedAt : Instant
deriving DecidableEq

/-- What the columns keep of a fact: `amount` is `numeric(12, 4)`, `unit_amount` is `numeric(14, 6)`. -/
def PriceFact.store (f : PriceFact) : PriceFact :=
  { f with amount := roundScale 4 f.amount, unitAmount := f.unitAmount.map (roundScale 6) }

/-- The columns have room for the fact; both have eight digits before the decimal point. -/
def PriceFact.fits (f : PriceFact) : Bool :=
  |roundScale 4 f.amount| < 10 ^ 8 && f.unitAmount.all fun u => |roundScale 6 u| < 10 ^ 8

/-- The identity that `price_fact_fingerprint` hashes: the promotion text trimmed, a decimal as
    `Decimal.normalize` shows it, every other field by value. The hash is taken to be injective, so a
    fingerprint is given by what it hashes. -/
def priceFactFingerprint (f : PriceFact) : PriceFact :=
  { f with
    amount := roundContext f.amount
    unitAmount := f.unitAmount.map roundContext
    promotionText := f.promotionText.map Text.strip }

@[simp] theorem PriceFact.store_store (f : PriceFact) : f.store.store = f.store := by
  cases f with
  | mk _ _ _ _ _ _ _ _ unitAmount =>
    cases unitAmount <;> simp [PriceFact.store]

@[simp] theorem PriceFact.store_observedAt (f : PriceFact) : f.store.observedAt = f.observedAt := rfl

@[simp] theorem priceFactFingerprint_observedAt (f : PriceFact) :
    (priceFactFingerprint f).observedAt = f.observedAt := rfl

@[simp] theorem PriceFact.store_fits (f : PriceFact) : f.store.fits = f.fits := by
  cases f with
  | mk _ _ _ _ _ _ _ _ unitAmount =>
    cases unitAmount <;> simp [PriceFact.store, PriceFact.fits]

structure PriceFact.Stored (f : PriceFact) : Prop where
  kept : f.store = f
  fits : f.fits = true

theorem PriceFact.store_stored {f : PriceFact} (h : f.fits = true) : f.store.Stored :=
  ⟨f.store_store, f.store_fits.trans h⟩

/-- What the search for an existing fact compares: the exact amount and the fingerprint. -/
def PriceFact.key (f : PriceFact) : ℚ × PriceFact := (f.amount, priceFactFingerprint f)

theorem PriceFact.key_store_of_key {f g : PriceFact} (hf : f.fits = true) (h : f.store.key = g.key) :
    g.store.key = g.key := by
  obtain ⟨hamount, hfp⟩ := Prod.mk.inj h
  have hamount' : roundScale 4 g.amount = g.amount := by
    have hf' : roundScale 4 f.amount = g.amount := hamount
    rw [← hf', roundScale_roundScale]
  have hunit : (f.unitAmount.map (roundScale 6)).map roundContext = g.unitAmount.map roundContext :=
    congrArg PriceFact.unitAmount hfp
  have hunit' : (g.unitAmount.map (roundScale 6)).map roundContext = g.unitAmount.map roundContext := by
    cases hg : g.unitAmount with
    | none => rfl
    | some u =>
      cases hfu : f.unitAmount with
      | none => simp [hg, hfu] at hunit
      | some v =>
        have hv : |roundScale 6 v| < 10 ^ 8 := by simpa [PriceFact.fits, hfu] using (Bool.and_eq_true_iff.mp hf).2
        simp only [hg, hfu, Option.map_some, Option.some.injEq] at hunit ⊢
        rw [roundContext_roundScale le_rfl hv] at hunit
        rw [roundScale_of_roundContext le_rfl hv hunit.symm, roundContext_roundScale le_rfl hv, hunit]
  simp only [PriceFact.key, PriceFact.store, priceFactFingerprint, hamount', hunit']

theorem PriceFact.Stored.fingerprint_amount {f : PriceFact} (h : f.Stored) :
    (priceFactFingerprint f).amount = f.amount := by
  have hkept : roundScale 4 f.amount = f.amount := congrArg PriceFact.amount h.kept
  have hfits : |roundScale 4 f.amount| < 10 ^ 8 := by
    simpa [PriceFact.fits] using (Bool.and_eq_true_iff.mp h.fits).1
  show roundContext f.amount = f.amount
  rw [← hkept]
  exact roundContext_roundScale (by norm_num) hfits

theorem PriceFact.Stored.key_of_fingerprint {f g : PriceFact} (hf : f.Stored) (hg : g.Stored)
    (h : priceFactFingerprint f = priceFactFingerprint g) : f.key = g.key :=
  Prod.ext (hf.fingerprint_amount.symm.trans ((congrArg PriceFact.amount h).trans hg.fingerprint_amount)) h

/-! ### Tables -/

/-- A persisted row of `price_observation`. Its fact is one that the columns hold. -/
structure PriceObservation extends PriceFact where
  id : Nat
  stagingOnly : Bool
  sourceId : Option Int
  importedAt : Instant
  validFrom : Instant
  validUntil : Option Instant
  confidenceScore : ℚ
  rawCaptureId : Option Int
  crawlRunId : Option Int
  verificationStatus : VerificationStatus
  rolledBackAt : Option Instant
  rolledBackBy : Option Int
  closedByRunId : Option Int
  columns : toPriceFact.Stored
deriving DecidableEq

structure PriceObservationOccurrence where
  id : Nat
  priceObservationId : Nat
  providerCode : Option String
  sourceId : Option Int
  sourceUrl : Option String
  crawlRunId : Option Int
  rawCaptureId : Option Int
  connectorVersion : Option String
  parserVersion : Option String
  importedAt : Instant
  confidenceScore : Option ℚ
  verificationStatus : VerificationStatus
  evidenceFingerprint : Option String
deriving DecidableEq

structure PriceAnomaly where
  priceObservationId : Nat
  crawlRunId : Option Int
  anomalyType : String
  severity : Severity
  actualValue : Option ℚ
  status : AnomalyStatus
deriving DecidableEq

structure CrawlRun where
  id : Int
  publicId : String
deriving DecidableEq

/-- The rows of the tables, and the next values of the two identity sequences. -/
structure Db where
  observations : List PriceObservation := []
  occurrences : List PriceObservationOccurrence := []
  anomalies : List PriceAnomaly := []
  crawlRuns : List CrawlRun := []
  nextObservationId : Nat := 1
  nextOccurrenceId : Nat := 1
deriving DecidableEq

def Db.update (db : Db) (p : PriceObservation → Bool) (f : PriceObservation → PriceObservation) : Db :=
  { db with observations := db.observations.map fun r => if p r then f r else r }

/-- What the primary and foreign keys of the tables promise. -/
structure Db.Keyed (db : Db) : Prop where
  ids : (db.observations.map (·.id)).Nodup
  fresh : ∀ r ∈ db.observations, r.id < db.nextObservationId
  anomalies : ∀ a ∈ db.anomalies, a.priceObservationId < db.nextObservationId

/-! ### Lanes -/

/-- The fields that name an interval chain (`LANE_FIELDS`). -/
structure Lane where
  stagingOnly : Bool
  retailerId : Int
  productVariantId : Int
  storeId : Option Int
  deliveryZoneId : Option Int
  priceScope : PriceScope
  priceType : PriceType
  currency : String
deriving DecidableEq

def PriceFact.lane (f : PriceFact) (stagingOnly : Bool) : Lane where
  stagingOnly := stagingOnly
  retailerId := f.retailerId
  productVariantId := f.productVariantId
  storeId := f.storeId
  deliveryZoneId := f.deliveryZoneId
  priceScope := f.priceScope
  priceType := f.priceType
  currency := f.currency

def PriceObservation.lane (r : PriceObservation) : Lane := r.toPriceFact.lane r.stagingOnly

/-- The rows of a lane that no rollback has withdrawn. -/
def Db.live (db : Db) (lane : Lane) : List PriceObservation :=
  db.observations.filter fun r => r.lane = lane && r.rolledBackAt.isNone

@[simp] theorem PriceFact.store_lane (f : PriceFact) (s : Bool) : f.store.lane s = f.lane s := rfl

theorem PriceFact.lane_of_fingerprint {f g : PriceFact} (h : priceFactFingerprint f = priceFactFingerprint g)
    (s : Bool) : f.lane s = g.lane s := by
  show (priceFactFingerprint f).lane s = (priceFactFingerprint g).lane s
  rw [h]

theorem Db.mem_live {db : Db} {lane : Lane} {r : PriceObservation} :
    r ∈ db.live lane ↔ r ∈ db.observations ∧ r.lane = lane ∧ r.rolledBackAt = none := by
  simp [Db.live]

end CestaPlan.History
