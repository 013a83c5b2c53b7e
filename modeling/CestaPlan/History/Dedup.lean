import CestaPlan.History.Books
import CestaPlan.History.CurrentPrice
import CestaPlan.History.Manifest
import CestaPlan.Library.FirstWins
import CestaPlan.Library.Updates

/-! The removal of duplicates from the staged observations (`tools/dedup_staging_observations.py`).

    Rows of one fact form a group, whose canonical row is the first imported. The others go when they are provably of the
    provider and nothing refers to them; their occurrences move to the canonical row, unless it has the provenance already.
    A manifest keeps what went, so that it can be put back. -/

namespace CestaPlan.History.Dedup
open Grouping Merging Updates

/-! ### Tables -/

structure Retailer where
  id : Int
  slug : String
deriving DecidableEq

structure CrawlRun where
  id : Int
  retailerId : Int
deriving DecidableEq

/-- An occurrence with the stamp that every update of its row renews. -/
structure Occurrence extends PriceObservationOccurrence where
  updatedAt : Instant
deriving DecidableEq

def Occurrence.tuple (o : Occurrence) : ProvenanceTuple := o.toPriceObservationOccurrence.tuple

/-- `occ.price_observation_id = owner`. -/
def Occurrence.point (owner : Nat) (now : Instant) (o : Occurrence) : Occurrence :=
  { o with priceObservationId := owner, updatedAt := now }

def occurrencesOf (table : List Occurrence) (observationId : Nat) : List Occurrence :=
  table.filter (·.priceObservationId = observationId)

/-! ### The analysis -/

inductive Provenance where
  | verifiedCrawlRun | verifiedSource | ambiguous
deriving DecidableEq

structure RelinkedOccurrence where
  id : Nat
  originalObservationId : Nat
deriving DecidableEq

/-- A row that goes, with the plan for its occurrences and, once it is gone, with what became of them. -/
structure RemovedRow where
  id : Nat
  rowHash : Digest PriceObservation
  provenance : Provenance
  values : PriceObservation
  occurrencesToRelink : List Occurrence
  occurrencesToDrop : List Occurrence
  occurrencesRelinked : List RelinkedOccurrence := []
  occurrencesDropped : List Occurrence := []
deriving DecidableEq

structure Group where
  factFingerprint : PriceFact
  canonicalObservationId : Nat
  canonicalRow : PriceObservation
  canonicalRowHash : Digest PriceObservation
  removedObservationIds : List Nat
  removedRows : List RemovedRow
deriving DecidableEq

structure Analysis where
  providerCode : String
  retailerId : Option Int
  duplicateGroups : Nat := 0
  removableExactDuplicates : Nat := 0
  rowsWithVerifiedProvider : Nat := 0
  rowsWithAmbiguousProvider : Nat := 0
  excludedAmbiguousRows : Nat := 0
  referencedRows : Nat := 0
  referenceTables : List String := []
  excludedDueToReferences : Nat := 0
  duplicateFactGroups : Nat := 0
  removablePriceObservations : Nat := 0
  occurrencesToRelink : Nat := 0
  occurrencesAlreadyPresent : Nat := 0
  ambiguousProvenance : Nat := 0
  rowsWithFkDependencies : Nat := 0
  excludedGroups : Nat := 0
  uniqueFactCount : Nat := 0
  stagingObservations : Nat := 0
  totalDuplicateFactGroups : Nat := 0
  totalDuplicateObservations : Nat := 0
  newRealCount : Nat := 0
  groups : List Group := []
deriving DecidableEq

/-- What the manifest says of the counts. -/
structure ManifestCounts where
  removable : Nat
  removablePriceObservations : Nat
  duplicateFactGroups : Nat
  occurrencesToRelink : Nat
  occurrencesAlreadyPresent : Nat
  excludedAmbiguous : Nat
  excludedReferenced : Nat
  excludedGroups : Nat
  newRealCount : Nat
deriving DecidableEq

/-- A manifest in the audit log. -/
structure ManifestLog where
  entityPublicId : String
  occurredAt : Instant
  providerCode : String
  counts : ManifestCounts
  groups : List Group
deriving DecidableEq

/-- The tables that the tool reads and writes. -/
structure StagingDb where
  observations : List PriceObservation := []
  occurrences : List Occurrence := []
  anomalies : List PriceAnomaly := []
  promotionRules : List PromotionRule := []
  crawlRuns : List CrawlRun := []
  dataSources : List Int := []
  retailers : List Retailer := []
  auditLog : List ManifestLog := []
deriving DecidableEq

/-- The provider codes of `RETAILER_MATRIX`, with the slugs of their retailers. -/
def retailerMatrix : List (String × String) :=
  [("parsebot-dia", "dia"), ("parsebot-alcampo", "alcampo"), ("apify-mercadona", "mercadona"),
    ("parsebot-carrefour", "carrefour"), ("parsebot-lidl", "lidl"), ("parsebot-aldi", "aldi"), ("parsebot-deza", "deza"),
    ("open-prices", "open_prices"), ("demo", "mercaejemplo")]

def factKey (r : PriceObservation) : PriceFact := priceFactFingerprint r.toPriceFact

/-- The order in which the rows of a group were imported. -/
def importedBefore (a b : PriceObservation) : Prop :=
  a.importedAt < b.importedAt ∨ (a.importedAt = b.importedAt ∧ a.id ≤ b.id)

instance (a b : PriceObservation) : Decidable (importedBefore a b) := inferInstanceAs (Decidable (_ ∨ _))

/-- What is decided about a row of a group other than the canonical one. -/
inductive Verdict where
  | ambiguous
  | referenced (tables : List String)
  | removable (row : RemovedRow)

def Verdict.row? : Verdict → Option RemovedRow
  | .removable row => some row
  | _ => none

def Verdict.isAmbiguous : Verdict → Bool
  | .ambiguous => true
  | _ => false

def Verdict.tables : Verdict → List String
  | .referenced tables => tables
  | _ => []

namespace StagingDb

def retailerId? (s : StagingDb) (providerCode : String) : Option Int :=
  (s.retailers.find? (·.slug = (retailerMatrix.lookup providerCode).getD providerCode)).map (·.id)

/-- A row is the provider's by its crawl run or, failing that, by any data source; the retailer alone is not enough. -/
def provenance (s : StagingDb) (r : PriceObservation) (retailerId : Int) : Provenance :=
  if r.crawlRunId.any fun run => (s.crawlRuns.find? (·.id = run)).any (·.retailerId = retailerId) then .verifiedCrawlRun
  else if r.sourceId.any (· ∈ s.dataSources) then .verifiedSource
  else .ambiguous

/-- The tables that refer to an observation; occurrences are not among them. -/
def references (s : StagingDb) (observationId : Nat) : List String :=
  (if s.promotionRules.any (·.priceObservationId = observationId) then ["promotion_rule"] else []) ++
    if s.anomalies.any (·.priceObservationId = observationId) then ["price_anomaly"] else []

/-- The rows that the analysis looks at. -/
def staged (s : StagingDb) (retailerId : Int) : List PriceObservation :=
  s.observations.filter fun r => r.retailerId = retailerId && r.stagingOnly && r.rolledBackAt.isNone

/-- The verdict on a row, and the provenance that the canonical row has afterwards. -/
def planRow (s : StagingDb) (retailerId : Int) (canonicalProv : List ProvenanceTuple) (r : PriceObservation) :
    List ProvenanceTuple × Verdict :=
  if s.provenance r retailerId = .ambiguous then (canonicalProv, .ambiguous)
  else if s.references r.id ≠ [] then (canonicalProv, .referenced (s.references r.id))
  else
    let occ := split Occurrence.tuple canonicalProv (occurrencesOf s.occurrences r.id)
    (occ.seen, .removable
      { id := r.id
        rowHash := .sha256 r
        provenance := s.provenance r retailerId
        values := r
        occurrencesToRelink := occ.kept
        occurrencesToDrop := occ.dropped })

def planRows (s : StagingDb) (retailerId : Int) : List ProvenanceTuple → List PriceObservation → List Verdict
  | _, [] => []
  | canonicalProv, r :: removed =>
    (s.planRow retailerId canonicalProv r).2 :: planRows s retailerId (s.planRow retailerId canonicalProv r).1 removed

/-- The canonical row of a group and the verdicts on the others. -/
def planBucket (s : StagingDb) (retailerId : Int) (rows : List PriceObservation) :
    Option (PriceObservation × List Verdict) :=
  match rows.insertionSort importedBefore with
  | canonical :: r :: removed =>
    some (canonical,
      s.planRows retailerId ((occurrencesOf s.occurrences canonical.id).map Occurrence.tuple) (r :: removed))
  | _ => none

end StagingDb

def buckets (obs : List PriceObservation) : List (List PriceObservation) :=
  (obs.map factKey).eraseDups.map (group factKey obs)

/-- A group goes into the manifest when a row of it goes. -/
def groupOf (canonical : PriceObservation) (verdicts : List Verdict) : Option Group :=
  match verdicts.filterMap Verdict.row? with
  | [] => none
  | removed => some
    { factFingerprint := factKey canonical
      canonicalObservationId := canonical.id
      canonicalRow := canonical
      canonicalRowHash := .sha256 canonical
      removedObservationIds := removed.map (·.id)
      removedRows := removed }

def StagingDb.groups (s : StagingDb) (retailerId : Int) : List Group :=
  ((buckets (s.staged retailerId)).filterMap (s.planBucket retailerId)).filterMap fun plan => groupOf plan.1 plan.2

def removedIds (groups : List Group) : List Nat := groups.flatMap (·.removedObservationIds)

def removedRows (groups : List Group) : List RemovedRow := groups.flatMap (·.removedRows)

def analyze (s : StagingDb) (providerCode : String) : Analysis :=
  match s.retailerId? providerCode with
  | none => { providerCode := providerCode, retailerId := none }
  | some retailerId =>
    let obs := s.staged retailerId
    let plans := (buckets obs).filterMap (s.planBucket retailerId)
    let verdicts := plans.flatMap (·.2)
    let groups := s.groups retailerId
    let removed := removedRows groups
    let ambiguous := verdicts.countP (·.isAmbiguous)
    let referenced := verdicts.countP (·.tables ≠ [])
    let duplicates := (buckets obs).filter (1 < ·.length)
    { providerCode := providerCode
      retailerId := some retailerId
      duplicateGroups := groups.length
      removableExactDuplicates := removed.length
      rowsWithVerifiedProvider := referenced + removed.length
      rowsWithAmbiguousProvider := ambiguous
      excludedAmbiguousRows := ambiguous
      referencedRows := referenced
      referenceTables := ["price_anomaly", "promotion_rule"].filter (· ∈ verdicts.flatMap Verdict.tables)
      excludedDueToReferences := referenced
      duplicateFactGroups := groups.length
      removablePriceObservations := removed.length
      occurrencesToRelink := (removed.map (·.occurrencesToRelink.length)).sum
      occurrencesAlreadyPresent := (removed.map (·.occurrencesToDrop.length)).sum
      ambiguousProvenance := ambiguous
      rowsWithFkDependencies := referenced
      excludedGroups := plans.countP fun plan => (groupOf plan.1 plan.2).isNone
      uniqueFactCount := (buckets obs).length
      stagingObservations := obs.length
      totalDuplicateFactGroups := duplicates.length
      totalDuplicateObservations := (duplicates.map (·.length - 1)).sum
      newRealCount := obs.length - removed.length
      groups := groups }

/-! ### The removal -/

inductive Abort where
  | countMismatch (expected found ambiguous referenced : Nat)
  | lockedCountChanged
  | rowChanged (id : Nat)
  | gainedReference (id : Nat)
  | stillHasOccurrences (id : Nat)
  | duplicatesRemain
  | orphaned
deriving DecidableEq

def Abort.message : Abort → String
  | .countMismatch expected found ambiguous referenced =>
    s!"ABORT: expected {expected} deletions, found {found} (ambiguous={ambiguous}, referenced={referenced}). No changes made."
  | .lockedCountChanged => "ABORT: locked row count changed (concurrent modification). No changes."
  | .rowChanged id => s!"ABORT: row {id} changed since dry-run. No changes."
  | .gainedReference id => s!"ABORT: row {id} gained a dependent reference. No changes."
  | .stillHasOccurrences id => s!"ABORT: row {id} still has occurrences after relink. Rolled back."
  | .duplicatesRemain => "ABORT: exact duplicates remain after delete. Rolled back."
  | .orphaned => "ABORT: an occurrence still references a deleted row. Rolled back."

/-- The loop over the occurrences of a row that goes. -/
structure Relinking where
  table : List Occurrence
  canonicalProv : List ProvenanceTuple
  relinked : List RelinkedOccurrence := []
  dropped : List Occurrence := []

def Relinking.visit (canonicalId rowId : Nat) (now : Instant) (st : Relinking) (occ : Occurrence) : Relinking :=
  if occ.tuple ∈ st.canonicalProv then
    { st with dropped := st.dropped ++ [occ], table := st.table.filter (·.id ≠ occ.id) }
  else
    { st with
      canonicalProv := st.canonicalProv ++ [occ.tuple]
      relinked := st.relinked ++ [⟨occ.id, rowId⟩]
      table := updateAt (·.id) occ.id (Occurrence.point canonicalId now) st.table }

def relinkRow (canonicalId : Nat) (now : Instant) (table : List Occurrence) (canonicalProv : List ProvenanceTuple)
    (rowId : Nat) : Relinking :=
  (occurrencesOf table rowId).foldl (Relinking.visit canonicalId rowId now) { table := table, canonicalProv := canonicalProv }

def Relinking.record (st : Relinking) (row : RemovedRow) : RemovedRow :=
  { row with occurrencesRelinked := st.relinked, occurrencesDropped := st.dropped }

def relinkRows (canonicalId : Nat) (now : Instant) :
    List Occurrence → List ProvenanceTuple → List RemovedRow → List Occurrence × List RemovedRow
  | table, _, [] => (table, [])
  | table, canonicalProv, row :: rows =>
    let st := relinkRow canonicalId now table canonicalProv row.id
    let rest := relinkRows canonicalId now st.table st.canonicalProv rows
    (rest.1, st.record row :: rest.2)

/-- Every group starts from the provenance that its canonical row has by then. -/
def relinkGroups (now : Instant) : List Occurrence → List Group → List Occurrence × List Group
  | table, [] => (table, [])
  | table, g :: groups =>
    let canonicalProv := (occurrencesOf table g.canonicalObservationId).map Occurrence.tuple
    let done := relinkRows g.canonicalObservationId now table canonicalProv g.removedRows
    let rest := relinkGroups now done.1 groups
    (rest.1, { g with removedRows := done.2 } :: rest.2)

/-- What the rows that are locked have against the plan. -/
def revalidate (s : StagingDb) (locked : List PriceObservation) (planned : List RemovedRow) : Option Abort :=
  planned.findSome? fun plan =>
    match row? (·.id) locked plan.id with
    | none => some (.rowChanged plan.id)
    | some o =>
      if plan.rowHash ≠ .sha256 o then some (.rowChanged plan.id)
      else if s.references plan.id ≠ [] then some (.gainedReference plan.id)
      else none

def manifestCounts (a : Analysis) : ManifestCounts where
  removable := a.removableExactDuplicates
  removablePriceObservations := a.removablePriceObservations
  duplicateFactGroups := a.duplicateFactGroups
  occurrencesToRelink := a.occurrencesToRelink
  occurrencesAlreadyPresent := a.occurrencesAlreadyPresent
  excludedAmbiguous := a.excludedAmbiguousRows
  excludedReferenced := a.excludedDueToReferences
  excludedGroups := a.excludedGroups
  newRealCount := a.newRealCount

structure ApplyResult where
  manifestId : String
  deletedCount : Nat
  occurrencesRelinked : Nat
  occurrencesDropped : Nat
  remainingExactDuplicates : Nat := 0
deriving DecidableEq

/-- The tables once the rows of the analysis are gone. -/
def StagingDb.remove (s : StagingDb) (analysis : Analysis) (manifestId : String) (now : Instant) : StagingDb :=
  let done := relinkGroups now s.occurrences analysis.groups
  { s with
    observations := s.observations.filter (·.id ∉ removedIds analysis.groups)
    occurrences := done.1
    auditLog := s.auditLog ++
      [{ entityPublicId := manifestId
         occurredAt := now
         providerCode := analysis.providerCode
         counts := manifestCounts analysis
         groups := done.2 }] }

/-- Remove the duplicates, provided that there are as many as expected. An abort leaves the tables as they were. -/
def apply (s : StagingDb) (providerCode : String) (expectedDeleteCount : Nat) (manifestId : String) (now : Instant) :
    Except Abort (StagingDb × ApplyResult) :=
  let analysis := analyze s providerCode
  let removableIds := removedIds analysis.groups
  let locked := s.observations.filter (·.id ∈ removableIds)
  let s' := s.remove analysis manifestId now
  let rows := removedRows (relinkGroups now s.occurrences analysis.groups).2
  if removableIds.length ≠ expectedDeleteCount then
    .error (.countMismatch expectedDeleteCount removableIds.length analysis.excludedAmbiguousRows
      analysis.excludedDueToReferences)
  else if locked.length ≠ expectedDeleteCount then .error .lockedCountChanged
  else
    match revalidate s locked (removedRows analysis.groups) with
    | some abort => .error abort
    | none =>
      match locked.find? fun o => !(occurrencesOf s'.occurrences o.id).isEmpty with
      | some o => .error (.stillHasOccurrences o.id)
      | none =>
        if (analyze s' providerCode).removableExactDuplicates ≠ 0 then .error .duplicatesRemain
        else if s'.occurrences.any (·.priceObservationId ∈ removableIds) then .error .orphaned
        else .ok (s',
          { manifestId := manifestId
            deletedCount := expectedDeleteCount
            occurrencesRelinked := (rows.map (·.occurrencesRelinked.length)).sum
            occurrencesDropped := (rows.map (·.occurrencesDropped.length)).sum })

/-! ### The way back -/

inductive RestoreError where
  | notFound (manifestId : String)
  | multipleResults
  | duplicateKey
deriving DecidableEq

structure Restoring where
  observations : List PriceObservation
  occurrences : List Occurrence
  restored : Nat := 0
  hashOk : Nat := 0
  occRelinkedBack : Nat := 0
  occRecreated : Nat := 0

/-- Put a row back with its id, and its occurrences as they were. The primary keys refuse an id that is taken. -/
def restoreRow (now : Instant) (st : Restoring) (r : RemovedRow) : Except RestoreError Restoring :=
  let relinkedBack := r.occurrencesRelinked.foldl (fun table occ =>
    updateAt (·.id) occ.id (Occurrence.point occ.originalObservationId now) table) st.occurrences
  if ((st.observations ++ [r.values]).map (·.id)).Nodup ∧ ((relinkedBack ++ r.occurrencesDropped).map (·.id)).Nodup then
    .ok
      { observations := st.observations ++ [r.values]
        occurrences := relinkedBack ++ r.occurrencesDropped
        restored := st.restored + 1
        hashOk := st.hashOk + if Digest.sha256 r.values = r.rowHash then 1 else 0
        occRelinkedBack := st.occRelinkedBack + r.occurrencesRelinked.length
        occRecreated := st.occRecreated + r.occurrencesDropped.length }
  else .error .duplicateKey

structure RestoreResult where
  manifestId : String
  restorableRows : Nat
  reconstructed : Nat
  hashMatches : Nat
  occurrencesRelinkedBack : Nat
  occurrencesRecreated : Nat
deriving DecidableEq

def restoreManifest (s : StagingDb) (manifestId : String) (commit : Bool) (now : Instant) :
    Except RestoreError (StagingDb × RestoreResult) :=
  match s.auditLog.filter (·.entityPublicId = manifestId) with
  | [] => .error (.notFound manifestId)
  | [log] => do
    let toRestore := removedRows log.groups
    let st ← toRestore.foldlM (restoreRow now) { observations := s.observations, occurrences := s.occurrences }
    return (if commit then { s with observations := st.observations, occurrences := st.occurrences } else s,
      { manifestId := manifestId
        restorableRows := toRestore.length
        reconstructed := st.restored
        hashMatches := st.hashOk
        occurrencesRelinkedBack := st.occRelinkedBack
        occurrencesRecreated := st.occRecreated })
  | _ :: _ :: _ => .error .multipleResults

end CestaPlan.History.Dedup
