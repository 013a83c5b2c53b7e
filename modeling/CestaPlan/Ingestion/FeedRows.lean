import CestaPlan.Ingestion.Feed
import CestaPlan.Library.Indexing
import CestaPlan.Library.Runs

/-! What of a feed is observed. The rows are indexed by product alone, so the last row of a product is the one that is
    fetched, while the capabilities are those of all rows. -/

namespace CestaPlan.Ingestion
open Indexing

inductive Capability where
  | fullCatalog | partialCatalog | prices | promotions | loyaltyPrices | availability | exactStoreScope | deliveryZoneScope
  | regionalScope | nationalScope | productImages | barcodes | nutrition | incrementalSync
deriving DecidableEq

def Capabilities.declares (capabilities : Capabilities) : Capability → Bool
  | .fullCatalog => capabilities.fullCatalog
  | .partialCatalog => capabilities.partialCatalog
  | .prices => capabilities.prices
  | .promotions => capabilities.promotions
  | .loyaltyPrices => capabilities.loyaltyPrices
  | .availability => capabilities.availability
  | .exactStoreScope => capabilities.exactStoreScope
  | .deliveryZoneScope => capabilities.deliveryZoneScope
  | .regionalScope => capabilities.regionalScope
  | .nationalScope => capabilities.nationalScope
  | .productImages => capabilities.productImages
  | .barcodes => capabilities.barcodes
  | .nutrition => capabilities.nutrition
  | .incrementalSync => capabilities.incrementalSync

/-- The flag that a capability is declared by. -/
def Loaded.has (loaded : Loaded) : Capability → Bool
  | .promotions => loaded.hasPromotions
  | .loyaltyPrices => loaded.hasLoyalty
  | .exactStoreScope => loaded.hasStore
  | .nationalScope => loaded.hasStoreless
  | .barcodes => loaded.hasBarcodes
  | _ => false

/-- The capability is true of an observation, with the payload it was parsed from. -/
def Capability.trueOf (raw : RawPayload) (observation : NormalizedObservation) : Capability → Bool
  | .prices | .partialCatalog => true
  | .promotions => observation.promotion.isSome
  | .loyaltyPrices => observation.requiresLoyalty
  | .availability => observation.available.isSome
  | .exactStoreScope => observation.priceScope = .exactStore
  | .deliveryZoneScope => observation.priceScope = .deliveryZone
  | .regionalScope => observation.priceScope = .region
  | .nationalScope => observation.priceScope = .national
  | .barcodes => raw.barcode.isSome
  | .fullCatalog | .productImages | .nutrition | .incrementalSync => false

namespace CsvFeedConnector

section Definitions
variable (py : Runtime) (c : CsvFeedConnector)

/-- The observation of a row that has an identity, an instant and a usable price. -/
def rowObservation (row : RawRow) : Option NormalizedObservation := do
  let externalId ← row.identity
  let record ← parseRaw py (rawPayload externalId row)
  let price ← (normalizePrice py record.amount record.currency record.packageQuantity record.packageUnit).toOption
  let amount ← price.amount
  return c.observationOf record price amount

/-- The price of the row raises an error that the connector does not catch. -/
def Raises (row : RawRow) : Prop := ∃ externalId ∈ row.identity, ∃ record ∈ parseRaw py (rawPayload externalId row),
  normalizePrice py record.amount record.currency record.packageQuantity record.packageUnit = .error .invalidOperation

/-- Each row that has an identity, an instant and a usable price is observed, and every declared capability is true of some
    observation. -/
def Honest : Prop := ∃ produced, c.observed py = .ok produced ∧
  (produced.map (·.2)).Perm (c.feed.filterMap (c.rowObservation py)) ∧
    ∀ capability, c.capabilities.declares capability → ∃ o ∈ produced, capability.trueOf o.1 o.2

/-- What a row has for a capability to be declared. -/
def declaredBy (row : RawRow) : Capability → Bool
  | .promotions => (clean row.promotion).isSome
  | .loyaltyPrices => ((clean row.promotion).bind c.promotionParser).any (·.loyaltyRequired)
  | .exactStoreScope => (clean row.storeExternalCode).isSome
  | .nationalScope => (clean row.storeExternalCode).isNone
  | .barcodes => (clean row.barcode).isSome
  | _ => false

/-- What a row has for its observation to bear a capability out: a promotion is one that the parser can read. -/
def carriedBy (row : RawRow) (capability : Capability) : Bool :=
  if capability = .promotions then ((clean row.promotion).bind c.promotionParser).isSome else c.declaredBy row capability

/-- The rows do not shadow each other, nor does what they declare exceed what they carry. -/
structure Unshadowed : Prop where
  enabled : c.enabled = true
  /-- No row with an observation has a later one of the same product. -/
  sole : c.feed.Pairwise fun row later => row.identity = later.identity → c.rowObservation py row = none
  readable : ∀ row ∈ lasts RawRow.identity c.feed, ¬Raises py row
  priced : ∃ row ∈ c.feed, (c.rowObservation py row).isSome
  carried : ∀ capability, (∃ row ∈ c.feed, row.identity.isSome ∧ c.declaredBy row capability) →
    ∃ row ∈ c.feed, (c.rowObservation py row).isSome ∧ c.carriedBy row capability

end Definitions

/-! ### Loading -/

section Loading
variable {py : Runtime} {c : CsvFeedConnector} {row : RawRow}

theorem ensureLoaded_rows (henabled : c.enabled = true) : c.ensureLoaded.rows = index RawRow.identity c.feed := by
  rw [ensureLoaded, if_pos henabled, index]
  induction c.feed using List.reverseRecOn with
  | nil => rfl
  | append_singleton rows row ih =>
    rw [List.foldl_append, List.foldl_append, List.foldl_cons, List.foldl_cons, List.foldl_nil, List.foldl_nil, ← ih, loadRow]
    cases row.identity <;> rfl

theorem has_loadRow (loaded : Loaded) (row : RawRow) (capability : Capability) :
    (c.loadRow loaded row).has capability = (loaded.has capability || (row.identity.isSome && c.declaredBy row capability)) := by
  rw [loadRow]
  cases row.identity <;> cases capability <;> simp [Loaded.has, updateFlags, declaredBy]

theorem has_ensureLoaded (henabled : c.enabled = true) (capability : Capability) :
    c.ensureLoaded.has capability = true ↔ ∃ row ∈ c.feed, row.identity.isSome ∧ c.declaredBy row capability := by
  rw [ensureLoaded, if_pos henabled]
  induction c.feed using List.reverseRecOn with
  | nil => cases capability <;> simp [Loaded.has]
  | append_singleton rows row ih =>
    rw [List.foldl_append, List.foldl_cons, List.foldl_nil, has_loadRow, Bool.or_eq_true, ih]
    simp only [Bool.and_eq_true, List.mem_append, List.mem_singleton, or_and_right, exists_or, exists_eq_left]

theorem declares_iff (henabled : c.enabled = true) (capability : Capability) :
    c.capabilities.declares capability = true ↔ (capability = .prices ∨ capability = .partialCatalog) ∨
      ∃ row ∈ c.feed, row.identity.isSome ∧ c.declaredBy row capability := by
  rw [← has_ensureLoaded henabled]
  cases capability <;> simp [Capabilities.declares, capabilities, Loaded.has]

/-! ### One row -/

theorem clean_clean (value : String) : (clean value).bind clean = clean value := by
  by_cases h : Text.strip value = "" <;> simp [clean, h, Option.filter, Text.strip_strip]

/-- What a keyed row gives, with its payload. -/
def rowProduce (py : Runtime) (c : CsvFeedConnector) (row : RawRow) : List (RawPayload × NormalizedObservation) :=
  row.identity.toList.flatMap fun externalId => (c.rowObservation py row).toList.map fun o => (rawPayload externalId row, o)

/-- One id of `observed`. -/
def batch (py : Runtime) (c : CsvFeedConnector) (externalId : String) : Except Raised (List (RawPayload × NormalizedObservation)) := do
  let parsed ← c.parseProduct py (c.fetchProduct externalId)
  return (c.fetchProduct externalId).payload.toList.flatMap fun raw => parsed.observations.map fun o => (raw, o)

theorem fetchProduct_payload (henabled : c.enabled = true) {externalId : String} (hget : c.ensureLoaded.rows.get? externalId = some row) :
    (c.fetchProduct externalId).payload = some (rawPayload externalId row) := by
  simp only [fetchProduct, henabled, hget, if_true]

theorem rowObservation_eq {externalId : String} (hid : row.identity = some externalId) :
    c.rowObservation py row = (parseRaw py (rawPayload externalId row)).bind fun record =>
      (normalizePrice py record.amount record.currency record.packageQuantity record.packageUnit).toOption.bind fun price =>
        price.amount.map fun amount => c.observationOf record price amount := by
  simp only [rowObservation, hid, Option.bind_eq_bind, Option.bind_some, Option.pure_def, Option.map_eq_bind]
  rfl

theorem rowProduce_eq {externalId : String} (hid : row.identity = some externalId) :
    c.rowProduce py row = (c.rowObservation py row).toList.map fun o => (rawPayload externalId row, o) := by
  simp [rowProduce, hid]

theorem batch_of_not_raises (henabled : c.enabled = true) {externalId : String}
    (hget : c.ensureLoaded.rows.get? externalId = some row) (hid : row.identity = some externalId) (h : ¬Raises py row) :
    c.batch py externalId = .ok (c.rowProduce py row) := by
  rw [rowProduce_eq hid, rowObservation_eq hid]
  simp only [batch, parseProduct, fetchProduct_payload henabled hget, Option.bind_some]
  cases hrecord : parseRaw py (rawPayload externalId row) with
  | none => rfl
  | some record =>
    simp only [normalizeRecord, Option.bind_some]
    cases hprice : normalizePrice py record.amount record.currency record.packageQuantity record.packageUnit with
    | error raised =>
      cases raised with
      | normalization error => rfl
      | invalidOperation => exact absurd ⟨externalId, hid, record, hrecord, hprice⟩ h
    | ok price =>
      simp only [Except.toOption, Option.bind_some]
      cases price.amount <;> rfl

theorem batch_of_raises (henabled : c.enabled = true) {externalId : String}
    (hget : c.ensureLoaded.rows.get? externalId = some row) (hid : row.identity = some externalId) (h : Raises py row) :
    c.batch py externalId = .error .invalidOperation := by
  obtain ⟨externalId', hid', record, hrecord, hprice⟩ := h
  obtain rfl := Option.some.inj (hid.symm.trans hid')
  simp only [batch, parseProduct, fetchProduct_payload henabled hget, Option.bind_some]
  rw [Option.mem_def.mp hrecord]
  simp only [normalizeRecord, hprice]
  rfl

theorem parseRaw_rawPayload {externalId : String} {record : FeedParsedRecord}
    (h : parseRaw py (rawPayload externalId row) = some record) :
    record.storeExternalCode = clean row.storeExternalCode ∧ record.promotionText = clean row.promotion := by
  simp only [parseRaw, Option.bind_eq_bind, Option.bind_eq_some_iff, Option.pure_def, Option.some.injEq] at h
  obtain ⟨id, -, observedAt, -, hrecord⟩ := h
  rw [← hrecord]
  simp only [rawPayload, clean_clean, and_self]

theorem trueOf_rowProduce {o : RawPayload × NormalizedObservation} (h : o ∈ c.rowProduce py row) (capability : Capability) :
    capability.trueOf o.1 o.2 = (decide (capability = .prices ∨ capability = .partialCatalog) || c.carriedBy row capability) := by
  obtain ⟨externalId, hid, ho⟩ := List.mem_flatMap.mp h
  obtain ⟨observation, hobservation, rfl⟩ := List.mem_map.mp ho
  have hobservation := Option.mem_toList.mp hobservation
  rw [rowObservation_eq (Option.mem_toList.mp hid)] at hobservation
  obtain ⟨record, hrecord, hobservation⟩ := Option.bind_eq_some_iff.mp hobservation
  obtain ⟨price, -, hobservation⟩ := Option.bind_eq_some_iff.mp hobservation
  obtain ⟨amount, -, rfl⟩ := Option.map_eq_some_iff.mp hobservation
  obtain ⟨hstore, hpromotion⟩ := parseRaw_rawPayload hrecord
  cases capability <;>
    simp [Capability.trueOf, carriedBy, declaredBy, observationOf, hstore, hpromotion, rawPayload, priceType]
  case loyaltyPrices =>
    cases (clean row.promotion).bind c.promotionParser with
    | none => rfl
    | some promotion => cases hloyal : promotion.loyaltyRequired <;> simp [hloyal]
  case exactStoreScope => cases clean row.storeExternalCode <;> simp
  case nationalScope => cases clean row.storeExternalCode <;> simp
  case deliveryZoneScope => cases clean row.storeExternalCode <;> simp
  case regionalScope => cases clean row.storeExternalCode <;> simp

/-! ### All rows -/

theorem rowProduce_observations (row : RawRow) : (c.rowProduce py row).map (·.2) = (c.rowObservation py row).toList := by
  cases hid : row.identity with
  | none => simp [rowProduce, rowObservation, hid]
  | some externalId => simp [rowProduce_eq hid, Function.comp_def]

/-- The row of a discovered id. -/
def rowAt (c : CsvFeedConnector) (externalId : String) : RawRow := (c.ensureLoaded.rows.get? externalId).getD default

def discovered (c : CsvFeedConnector) : List String := c.discoverProducts.payload.getD []

theorem discovered_rows (henabled : c.enabled = true) : (c.discovered.map c.rowAt).Perm (lasts RawRow.identity c.feed) ∧
    ∀ externalId ∈ c.discovered, c.ensureLoaded.rows.get? externalId = some (c.rowAt externalId) ∧
      (c.rowAt externalId).identity = some externalId := by
  have hids : c.discovered.Perm (index RawRow.identity c.feed).keys := by
    simp only [discovered, discoverProducts, henabled, if_true, ensureLoaded_rows henabled, Option.getD_some]
    exact List.perm_insertionSort _ _
  constructor
  · have hrow : c.rowAt = fun k => ((index RawRow.identity c.feed).get? k).getD default := by
      funext externalId
      rw [rowAt, ensureLoaded_rows henabled]
    rw [hrow]
    exact (hids.map _).trans map_keys_perm
  · intro externalId hid
    obtain ⟨row, hrow⟩ := Dict.mem_keys_iff.mp (hids.subset hid)
    rw [rowAt, ensureLoaded_rows henabled, hrow]
    exact ⟨rfl, key_of_index hrow⟩

theorem observed_eq : c.observed py = (do return (← c.discovered.mapM (c.batch py)).flatten) := rfl

theorem exists_observed (henabled : c.enabled = true) (h : ∀ row ∈ lasts RawRow.identity c.feed, ¬Raises py row) :
    ∃ produced, c.observed py = .ok produced ∧ produced.Perm ((lasts RawRow.identity c.feed).flatMap (c.rowProduce py)) := by
  obtain ⟨hperm, hrows⟩ := discovered_rows henabled
  have hbatches : c.discovered.mapM (c.batch py) = .ok ((c.discovered.map c.rowAt).map (c.rowProduce py)) := by
    rw [Runs.mapM_eq_ok_iff, List.map_map, List.forall₂_map_right_iff, List.forall₂_same]
    intro externalId hid
    obtain ⟨hget, hidentity⟩ := hrows externalId hid
    have hlast : c.rowAt externalId ∈ lasts RawRow.identity c.feed := hperm.subset (List.mem_map_of_mem hid)
    rw [Function.comp_apply]
    exact batch_of_not_raises henabled hget hidentity (h (c.rowAt externalId) hlast)
  have hobserved : c.observed py = .ok ((c.discovered.map c.rowAt).map (c.rowProduce py)).flatten := by
    rw [observed_eq, hbatches]
    rfl
  refine ⟨_, hobserved, ?_⟩
  rw [← List.flatMap_def]
  exact hperm.flatMap_right _

theorem not_raises_of_observed (henabled : c.enabled = true) {produced : List (RawPayload × NormalizedObservation)}
    (h : c.observed py = .ok produced) : ∀ row ∈ lasts RawRow.identity c.feed, ¬Raises py row := by
  obtain ⟨hperm, hrows⟩ := discovered_rows henabled
  rw [observed_eq] at h
  obtain ⟨batches, hbatches, -⟩ := Runs.bind_eq_ok.mp h
  intro row hrow hraises
  obtain ⟨externalId, hid, rfl⟩ := List.mem_map.mp (hperm.symm.subset hrow)
  obtain ⟨hget, hidentity⟩ := hrows externalId hid
  obtain ⟨b, hb⟩ := Runs.exists_mapM_iff.mp ⟨batches, hbatches⟩ externalId hid
  rw [batch_of_raises henabled hget hidentity hraises] at hb
  cases hb

/-! ### Whether a feed is honest -/

theorem observed_disabled (hdisabled : c.enabled = false) : c.observed py = .ok [] := by
  simp only [observed_eq, discovered, discoverProducts, hdisabled]
  rfl

theorem map_flatMap_rowProduce (rows : List RawRow) :
    (rows.flatMap (c.rowProduce py)).map (·.2) = rows.filterMap (c.rowObservation py) := by
  induction rows with
  | nil => rfl
  | cons row rows ih =>
    rw [List.flatMap_cons, List.map_append, ih, rowProduce_observations, List.filterMap_cons]
    cases c.rowObservation py row <;> rfl

theorem rowObservation_of_unkeyed (row : RawRow) (h : row.identity = none) : c.rowObservation py row = none := by
  simp [rowObservation, h]

theorem perm_iff_sole {produced : List (RawPayload × NormalizedObservation)}
    (h : produced.Perm ((lasts RawRow.identity c.feed).flatMap (c.rowProduce py))) :
    (produced.map (·.2)).Perm (c.feed.filterMap (c.rowObservation py)) ↔
      c.feed.Pairwise fun row later => row.identity = later.identity → c.rowObservation py row = none := by
  have hlasts : (produced.map (·.2)).Perm ((lasts RawRow.identity c.feed).filterMap (c.rowObservation py)) := by
    rw [← map_flatMap_rowProduce]
    exact h.map _
  rw [← filterMap_lasts_eq_iff rowObservation_of_unkeyed]
  constructor
  · intro hperm
    exact ((lasts_sublist c.feed).filterMap _).eq_of_length (hlasts.symm.trans hperm).length_eq
  · intro heq
    rw [← heq]
    exact hlasts

theorem exists_trueOf_iff {produced : List (RawPayload × NormalizedObservation)}
    (h : produced.Perm ((lasts RawRow.identity c.feed).flatMap (c.rowProduce py)))
    (hsole : c.feed.Pairwise fun row later => row.identity = later.identity → c.rowObservation py row = none)
    (capability : Capability) : (∃ o ∈ produced, capability.trueOf o.1 o.2) ↔ ∃ row ∈ c.feed, (c.rowObservation py row).isSome ∧
      ((capability = .prices ∨ capability = .partialCatalog) ∨ c.carriedBy row capability) := by
  constructor
  · rintro ⟨o, ho, htrue⟩
    obtain ⟨row, hrow, hproduce⟩ := List.mem_flatMap.mp (h.subset ho)
    refine ⟨row, (lasts_sublist c.feed).subset hrow, ?_, ?_⟩
    · have hmem : o.2 ∈ (c.rowObservation py row).toList := by
        rw [← rowProduce_observations]
        exact List.mem_map_of_mem hproduce
      exact Option.isSome_of_mem (Option.mem_toList.mp hmem)
    · rw [trueOf_rowProduce hproduce, Bool.or_eq_true, decide_eq_true_eq] at htrue
      exact htrue
  · rintro ⟨row, hrow, husable, hcarried⟩
    have hlast := mem_lasts_of_sole rowObservation_of_unkeyed hsole hrow husable
    obtain ⟨observation, hobservation⟩ := Option.isSome_iff_exists.mp husable
    have hmem : observation ∈ (c.rowProduce py row).map (·.2) := by
      rw [rowProduce_observations, hobservation]
      exact List.mem_singleton_self observation
    obtain ⟨o, ho, rfl⟩ := List.mem_map.mp hmem
    refine ⟨o, h.symm.subset (List.mem_flatMap.mpr ⟨row, hlast, ho⟩), ?_⟩
    rw [trueOf_rowProduce ho, Bool.or_eq_true, decide_eq_true_eq]
    exact hcarried

theorem Honest.enabled (h : c.Honest py) : c.enabled = true := by
  obtain ⟨produced, hobserved, -, hcapabilities⟩ := h
  cases henabled : c.enabled with
  | true => rfl
  | false =>
    rw [observed_disabled henabled] at hobserved
    obtain rfl := Except.ok.inj hobserved
    obtain ⟨o, ho, -⟩ := hcapabilities .prices rfl
    cases ho

end Loading

theorem Honest.sole {py : Runtime} {c : CsvFeedConnector} (h : c.Honest py) :
    c.feed.Pairwise fun row later => row.identity = later.identity → c.rowObservation py row = none := by
  have henabled := h.enabled
  obtain ⟨produced, hobserved, hperm, -⟩ := h
  obtain ⟨produced', hobserved', hlasts⟩ := exists_observed henabled (not_raises_of_observed henabled hobserved)
  obtain rfl := Except.ok.inj (hobserved.symm.trans hobserved')
  exact (perm_iff_sole hlasts).mp hperm

/-- A feed is observed as it is declared when no row with an observation has a later one of its product, the last rows raise
    nothing, and the rows with observations carry what all rows declare. -/
theorem honest_iff_unshadowed (py : Runtime) (c : CsvFeedConnector) : c.Honest py ↔ c.Unshadowed py := by
  constructor
  · intro h
    have henabled := h.enabled
    have hsole := h.sole
    obtain ⟨produced, hobserved, -, hcapabilities⟩ := h
    have hreadable := not_raises_of_observed henabled hobserved
    obtain ⟨produced', hobserved', hlasts⟩ := exists_observed henabled hreadable
    obtain rfl := Except.ok.inj (hobserved.symm.trans hobserved')
    refine ⟨henabled, hsole, hreadable, ?_, fun capability hdeclared => ?_⟩
    · obtain ⟨row, hrow, husable, -⟩ := (exists_trueOf_iff hlasts hsole .prices).mp (hcapabilities .prices rfl)
      exact ⟨row, hrow, husable⟩
    · have htrue := hcapabilities capability ((declares_iff henabled capability).mpr (.inr hdeclared))
      obtain ⟨row, hrow, husable, hcarried⟩ := (exists_trueOf_iff hlasts hsole capability).mp htrue
      refine ⟨row, hrow, husable, hcarried.resolve_left ?_⟩
      obtain ⟨declaring, -, -, hby⟩ := hdeclared
      rintro (rfl | rfl) <;> cases hby
  · rintro ⟨henabled, hsole, hreadable, ⟨row, hrow, husable⟩, hcarried⟩
    obtain ⟨produced, hobserved, hlasts⟩ := exists_observed henabled hreadable
    refine ⟨produced, hobserved, (perm_iff_sole hlasts).mpr hsole, fun capability hdeclared => ?_⟩
    refine (exists_trueOf_iff hlasts hsole capability).mpr ?_
    rcases (declares_iff henabled capability).mp hdeclared with hprices | hdeclared
    · exact ⟨row, hrow, husable, .inl hprices⟩
    · obtain ⟨row, hrow, husable, hcarries⟩ := hcarried capability hdeclared
      exact ⟨row, hrow, husable, .inr hcarries⟩

/-! ### The milk of two stores -/

def milkRow (store amount : String) : RawRow where
  productExternalId := "SKU-MILK"
  productName := "Leche entera"
  packageQuantity := "1"
  packageUnit := "l"
  amount := amount
  currency := "EUR"
  observedAt := "2026-04-10T00:00:00Z"
  storeExternalCode := store

def milkFeed : CsvFeedConnector where
  feed := [milkRow "store-0001" "0.95", milkRow "store-0002" "0.90"]
  promotionParser _ := none

/-- Python, as far as the milk needs it. -/
def milkRuntime : Runtime where
  toRuntime := Engine.Runtime.replay []
  upper text := text.map Char.toUpper
  decimal text := ([("0.95", 95 / 100), ("0.90", 9 / 10), ("1", 1)].lookup text).map .finite
  fromisoformat text := if text = "2026-04-10T00:00:00+00:00" then some { reading := 1775779200000000, offset := some 0 } else none

/-- The milk of the first store is lost. -/
theorem not_honest_milkFeed : ¬∀ (py : Runtime) (c : CsvFeedConnector), c.enabled = true → c.feed ≠ [] → c.Honest py := by
  intro h
  have hsole := (h milkRuntime milkFeed rfl (List.cons_ne_nil _ _)).sole
  have hlost := (List.pairwise_cons.mp hsole).1 (milkRow "store-0002" "0.90") List.mem_cons_self rfl
  revert hlost
  decide +kernel

end CsvFeedConnector
end CestaPlan.Ingestion
