import CestaPlan.History.PriceHistory
import CestaPlan.Library.Dict

/-! The batch checks of the ingestion (`ingestion/anomaly.py`).

    A batch is compared with the last good prices by the reference of the variant. -/

namespace CestaPlan.History
open Numeric

inductive AnomalyKind where
  | priceSpike | priceDrop | zeroOrNegative | unitMismatch | currencyMismatch | blockPage | catalogDrop | catalogGrowth
  | allSamePrice | emptyCatalog | parserZero | packageChange | coverageDrop
deriving DecidableEq

def AnomalyKind.text : AnomalyKind → String
  | .priceSpike => "price_spike"
  | .priceDrop => "price_drop"
  | .zeroOrNegative => "zero_or_negative"
  | .unitMismatch => "unit_mismatch"
  | .currencyMismatch => "currency_mismatch"
  | .blockPage => "block_page"
  | .catalogDrop => "catalog_drop"
  | .catalogGrowth => "catalog_growth"
  | .allSamePrice => "all_same_price"
  | .emptyCatalog => "empty_catalog"
  | .parserZero => "parser_returned_zero"
  | .packageChange => "package_change"
  | .coverageDrop => "coverage_drop"

structure Anomaly where
  anomalyType : AnomalyKind
  severity : Severity
  variantRef : Option String := none
deriving DecidableEq

/-- A normalized observation with the connector's name for its variant. -/
structure RefObservation extends NormalizedObservation where
  variantRef : String
deriving DecidableEq

structure PriorStats where
  catalogSize : Nat := 0
  prices : Dict String ℚ := .empty
  units : Dict String String := .empty
  packages : Dict String ℚ := .empty
  externalProducts : Dict String String := .empty
  currency : String := "EUR"
  coverage : Option ℚ := none

structure Batch where
  observations : List RefObservation := []
  isBlockPage : Bool := false
  parserReturnedZero : Bool := false
  coverage : Option ℚ := none
  packages : Dict String ℚ := .empty
  externalProducts : Dict String String := .empty

structure AnomalyDetector where
  catalogDropThreshold : ℚ := 9 / 10
  catalogGrowthFactor : ℚ := 10
  extremePriceChangeFactor : ℚ := 3
  priceX100Tolerance : ℚ := 5 / 100
  samePriceMinProducts : Nat := 5
  samePriceFraction : ℚ := 95 / 100
  coverageDropThreshold : ℚ := 3 / 10

namespace AnomalyDetector
variable (d : AnomalyDetector)

def catalogSize (size : Nat) (prior : PriorStats) : List Anomaly :=
  if prior.catalogSize = 0 then []
  else
    (if 0 < size ∧ d.catalogDropThreshold ≤ roundContext ((prior.catalogSize - size) / prior.catalogSize) then
      [{ anomalyType := .catalogDrop, severity := .critical }] else []) ++
    if roundContext (prior.catalogSize * d.catalogGrowthFactor) < size then
      [{ anomalyType := .catalogGrowth, severity := .high }] else []

/-- `Counter(amounts).most_common(1)`: how often the most common amount is there. -/
def topCount (amounts : List ℚ) : Nat := (amounts.map fun a => amounts.count a).foldr max 0

def allSamePrice (batch : Batch) : Option Anomaly :=
  let amounts := batch.observations.map (·.amount)
  if amounts.length < d.samePriceMinProducts then none
  else if d.samePriceFraction ≤ roundContext (topCount amounts / amounts.length) then
    some { anomalyType := .allSamePrice, severity := .high }
  else none

def currency (upper : String → String) (batch : Batch) (prior : PriorStats) : List Anomaly :=
  batch.observations.flatMap fun o =>
    if o.currency ≠ "" ∧ upper o.currency ≠ upper prior.currency then
      [{ anomalyType := .currencyMismatch, severity := .high, variantRef := some o.variantRef }] else []

/-- `_price_move`: slips by a factor of a hundred first, then moves past the factor. -/
def priceMove (ref : String) (old new : ℚ) : List Anomaly :=
  let ratio := roundContext (new / old)
  if |roundContext (ratio - 100)| ≤ roundContext (100 * d.priceX100Tolerance) then
    [{ anomalyType := .priceSpike, severity := .critical, variantRef := some ref }]
  else if |roundContext (ratio - 1 / 100)| ≤ roundContext (1 / 100 * d.priceX100Tolerance) then
    [{ anomalyType := .priceDrop, severity := .critical, variantRef := some ref }]
  else if d.extremePriceChangeFactor ≤ ratio then
    [{ anomalyType := .priceSpike, severity := .high, variantRef := some ref }]
  else if ratio ≤ roundContext (1 / d.extremePriceChangeFactor) then
    [{ anomalyType := .priceDrop, severity := .high, variantRef := some ref }]
  else []

def amountCheck (o : RefObservation) : List Anomaly :=
  if o.amount ≤ 0 then [{ anomalyType := .zeroOrNegative, severity := .critical, variantRef := some o.variantRef }] else []

def moveCheck (prior : PriorStats) (o : RefObservation) : List Anomaly :=
  match prior.prices.get? o.variantRef with
  | some old => if 0 < old then d.priceMove o.variantRef old o.amount else []
  | none => []

def unitCheck (prior : PriorStats) (o : RefObservation) : List Anomaly :=
  match prior.units.get? o.variantRef, o.unitCode with
  | some old, some new =>
    if old ≠ new then [{ anomalyType := .unitMismatch, severity := .high, variantRef := some o.variantRef }] else []
  | _, _ => []

def packageCheck (batch : Batch) (prior : PriorStats) (ref : String) : List Anomaly :=
  match prior.packages.get? ref, batch.packages.get? ref with
  | some old, some new =>
    if old ≠ new ∧ prior.externalProducts.get? ref = batch.externalProducts.get? ref ∧
        prior.externalProducts.contains ref = true then
      [{ anomalyType := .packageChange, severity := .high, variantRef := some ref }] else []
  | _, _ => []

def perObservation (batch : Batch) (prior : PriorStats) : List Anomaly :=
  batch.observations.flatMap fun o =>
    amountCheck o ++ d.moveCheck prior o ++ unitCheck prior o ++ packageCheck batch prior o.variantRef

def coverage (batch : Batch) (prior : PriorStats) : Option Anomaly :=
  match prior.coverage, batch.coverage with
  | some old, some new =>
    if d.coverageDropThreshold ≤ roundContext (old - new) then
      some { anomalyType := .coverageDrop, severity := .high } else none
  | _, _ => none

def signals (batch : Batch) : List Anomaly :=
  (if batch.isBlockPage then [{ anomalyType := .blockPage, severity := .critical }] else []) ++
  (if batch.parserReturnedZero then [{ anomalyType := .parserZero, severity := .high }] else []) ++
  if batch.observations = [] ∧ batch.parserReturnedZero = false then
    [{ anomalyType := .emptyCatalog, severity := .high }] else []

def detect (upper : String → String) (batch : Batch) (prior : PriorStats) : List Anomaly :=
  signals batch ++ d.catalogSize batch.observations.length prior ++ (d.allSamePrice batch).toList ++
    currency upper batch prior ++ d.perObservation batch prior ++ (d.coverage batch prior).toList

/-- The ratio is strictly inside the band of the detector. -/
def InBand (old new : ℚ) : Prop :=
  roundContext (1 / d.extremePriceChangeFactor) < roundContext (new / old) ∧
    roundContext (new / old) < d.extremePriceChangeFactor

/-- The move from one price to another is reported, whatever the variant is called. -/
def Moves (old new : ℚ) : Prop := d.priceMove "" old new ≠ []

instance (old new : ℚ) : Decidable (d.InBand old new) := inferInstanceAs (Decidable (_ ∧ _))

instance (old new : ℚ) : Decidable (d.Moves old new) := inferInstanceAs (Decidable (_ ≠ _))

section Moves
variable {d} {old new : ℚ} {ref : String} {a : Anomaly} {prior : PriorStats} {o : RefObservation}

variable (ref) in
theorem priceMove_ne_nil_iff : d.priceMove ref old new ≠ [] ↔ d.Moves old new := by
  unfold Moves priceMove
  grind

theorem inBand_of_not_moves (h : ¬d.Moves old new) : d.InBand old new := by
  unfold Moves priceMove at h
  unfold InBand
  grind

theorem mem_moveCheck : (∃ a, a ∈ d.moveCheck prior o) ↔
    ∃ old, prior.prices.get? o.variantRef = some old ∧ 0 < old ∧ d.Moves old o.amount := by
  unfold moveCheck
  cases hp : prior.prices.get? o.variantRef with
  | none => simp
  | some old =>
    by_cases hpos : 0 < old
    · simp only [hpos, if_true, Option.some.injEq, exists_eq_left', true_and]
      rw [← priceMove_ne_nil_iff o.variantRef]
      exact ⟨fun ⟨a, ha⟩ => List.ne_nil_of_mem ha, List.exists_mem_of_ne_nil _⟩
    · simp [hpos]

end Moves

/-- The checks that compare no prices. -/
def otherChecks (upper : String → String) (batch : Batch) (prior : PriorStats) : List Anomaly :=
  signals batch ++ d.catalogSize batch.observations.length prior ++ (d.allSamePrice batch).toList ++
    currency upper batch prior ++
    (batch.observations.flatMap fun o =>
      amountCheck o ++ unitCheck prior o ++ packageCheck batch prior o.variantRef) ++
    (d.coverage batch prior).toList

section Detect
variable {d} {upper : String → String} {batch : Batch} {prior : PriorStats} {a : Anomaly}

theorem mem_detect : a ∈ d.detect upper batch prior ↔
    a ∈ d.otherChecks upper batch prior ∨ ∃ o ∈ batch.observations, a ∈ d.moveCheck prior o := by
  simp only [detect, otherChecks, perObservation, List.mem_append, List.mem_flatMap]
  constructor
  · rintro (((((h | h) | h) | h) | ⟨o, ho, ((h | h) | h) | h⟩) | h)
    all_goals grind
  · rintro ((((((h | h) | h) | h) | ⟨o, ho, (h | h) | h⟩) | h) | ⟨o, ho, h⟩)
    all_goals grind

theorem severity_of_mem_detect (h : a ∈ d.detect upper batch prior) : a.severity = .high ∨ a.severity = .critical := by
  simp only [detect, perObservation, List.mem_append, List.mem_flatMap] at h
  rcases h with ((((h | h) | h) | h) | ⟨o, ho, ((h | h) | h) | h⟩) | h
  · unfold signals at h
    grind
  · unfold catalogSize at h
    grind
  · unfold allSamePrice at h
    grind
  · unfold currency at h
    obtain ⟨o, -, ho⟩ := List.mem_flatMap.mp h
    grind
  · unfold amountCheck at h
    grind
  · unfold moveCheck priceMove at h
    grind
  · unfold unitCheck at h
    grind
  · unfold packageCheck at h
    grind
  · unfold coverage at h
    grind

theorem variantRef_of_mem_moveCheck {o : RefObservation} (h : a ∈ d.moveCheck prior o) :
    a.variantRef = some o.variantRef := by
  unfold moveCheck priceMove at h
  grind

end Detect
end AnomalyDetector

end CestaPlan.History
