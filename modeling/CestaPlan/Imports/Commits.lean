import CestaPlan.Imports.Importer
import CestaPlan.Library.Runs
import Mathlib.Data.List.Induction

/-! What a commit writes: the product of every record, and the price of the first one of each observation. -/

namespace CestaPlan.Imports
open Calendar (Instant)
open Ingestion (Decimal)

/-- The store, the product and the instant of an observation. -/
abbrev ObservationKey := StoreRef × ProductRef × Instant

def NormalizedRecord.key (record : NormalizedRecord) : ObservationKey :=
  (record.store, record.product, record.observedAt.instant)

def ProductPrice.key (price : ProductPrice) : ObservationKey := (price.store, price.product, price.observedAt)

/-- The amount of the row of a record, or nothing where the record does not fit the columns. -/
def NormalizedRecord.storedAmount (record : NormalizedRecord) : Option Decimal :=
  (({} : ImportDb).priceRow record 0 0).toOption.map (·.amount)

namespace ImportDb

/-- The writes to the catalogue leave everything else. -/
structure Keeps (db db' : ImportDb) : Prop where
  prices : db'.prices = db.prices
  nextPriceId : db'.nextPriceId = db.nextPriceId
  imports : db'.imports = db.imports
  nextImportId : db'.nextImportId = db.nextImportId
  items : db'.items = db.items
  ingredients : db'.ingredients = db.ingredients

section Catalogue
variable {py : Engine.Runtime} {db db' db₁ db₂ : ImportDb} {record other : NormalizedRecord} {importId : Nat} {now : Instant}

theorem Keeps.refl (db : ImportDb) : db.Keeps db := ⟨rfl, rfl, rfl, rfl, rfl, rfl⟩

theorem Keeps.trans (h : db.Keeps db₁) (h' : db₁.Keeps db₂) : db.Keeps db₂ :=
  ⟨h'.prices.trans h.prices, h'.nextPriceId.trans h.nextPriceId, h'.imports.trans h.imports,
    h'.nextImportId.trans h.nextImportId, h'.items.trans h.items, h'.ingredients.trans h.ingredients⟩

theorem keeps_getOrCreateRetailer : db.Keeps (db.getOrCreateRetailer record) := by
  unfold getOrCreateRetailer
  split
  · exact Keeps.refl db
  · exact ⟨rfl, rfl, rfl, rfl, rfl, rfl⟩

theorem keeps_getOrCreateStore : db.Keeps (db.getOrCreateStore record) := by
  unfold getOrCreateStore
  split
  · exact Keeps.refl db
  · exact ⟨rfl, rfl, rfl, rfl, rfl, rfl⟩

theorem keeps_ensureBarcode : db.Keeps (db.ensureBarcode record) := by
  unfold ensureBarcode
  split
  · exact Keeps.refl db
  · split
    · exact Keeps.refl db
    · exact ⟨rfl, rfl, rfl, rfl, rfl, rfl⟩

theorem keeps_ensureIngredientMapping {ingredient : IngredientRow} : db.Keeps (db.ensureIngredientMapping record ingredient).1 := by
  unfold ensureIngredientMapping
  split
  · exact Keeps.refl db
  · exact ⟨rfl, rfl, rfl, rfl, rfl, rfl⟩

@[simp] theorem products_getOrCreateRetailer : (db.getOrCreateRetailer record).products = db.products := by
  unfold getOrCreateRetailer
  split <;> rfl

@[simp] theorem products_getOrCreateStore : (db.getOrCreateStore record).products = db.products := by
  unfold getOrCreateStore
  split <;> rfl

@[simp] theorem products_ensureBarcode : (db.ensureBarcode record).products = db.products := by
  unfold ensureBarcode
  split
  · rfl
  · split <;> rfl

@[simp] theorem products_ensureIngredientMapping {ingredient : IngredientRow} :
    (db.ensureIngredientMapping record ingredient).1.products = db.products := by
  unfold ensureIngredientMapping
  split <;> rfl

theorem mapRecord_spec {mapped : Bool} (h : db.mapRecord py record = .ok (db', mapped)) :
    db.Keeps db' ∧ db'.products = db.products := by
  unfold mapRecord at h
  split at h
  · cases h
    exact ⟨Keeps.refl db, rfl⟩
  · obtain ⟨found, -, h⟩ := Runs.bind_eq_ok.mp h
    cases found with
    | none =>
      cases h
      exact ⟨Keeps.refl db, rfl⟩
    | some ingredient =>
      have hresult := Except.ok.inj h
      obtain rfl := congrArg Prod.fst hresult
      exact ⟨keeps_ensureIngredientMapping, products_ensureIngredientMapping⟩

theorem exists_mapRecord (h : db'.ingredients = db.ingredients) (hok : ∃ result, db.mapRecord py record = .ok result) :
    ∃ result, db'.mapRecord py record = .ok result := by
  obtain ⟨result, hok⟩ := hok
  unfold mapRecord at hok ⊢
  split at hok
  · exact ⟨_, rfl⟩
  · obtain ⟨found, hfound, -⟩ := Runs.bind_eq_ok.mp hok
    have hmatch : ∀ name, db'.matchIngredient py name = db.matchIngredient py name := fun name => by
      rw [matchIngredient, matchIngredient, h]
    simp only [hmatch, hfound]
    cases found <;> exact ⟨_, rfl⟩

theorem getOrCreateProduct_spec {created : Bool} (h : db.getOrCreateProduct record = .ok (db', created)) :
    db.Keeps db' ∧ created = !db.productExists record ∧
      ∀ r, db'.productExists r = (db.productExists r || decide (record.product = r.product)) := by
  obtain ⟨quantity, -, h⟩ := Runs.bind_eq_ok.mp h
  split at h
  · next hexists =>
    obtain ⟨rfl, rfl⟩ := Prod.mk.inj (Except.ok.inj h)
    refine ⟨⟨rfl, rfl, rfl, rfl, rfl, rfl⟩, by rw [hexists]; rfl, fun r => ?_⟩
    have hrefs : ∀ row : ProductRow, (if row.ref = record.product then row.refresh record quantity else row).ref = row.ref :=
      fun row => by split <;> rfl
    have hsame : productExists { db with products := db.products.map fun row : ProductRow =>
        if row.ref = record.product then row.refresh record quantity else row } r = db.productExists r := by
      simp only [productExists, List.any_map, Function.comp_def, hrefs]
    rw [hsame]
    by_cases hr : record.product = r.product
    · have hknown : db.productExists r = true := by
        rw [productExists, ← hr]
        exact hexists
      rw [hknown, Bool.true_or]
    · rw [decide_eq_false hr, Bool.or_false]
  · next hexists =>
    obtain ⟨rfl, rfl⟩ := Prod.mk.inj (Except.ok.inj h)
    refine ⟨⟨rfl, rfl, rfl, rfl, rfl, rfl⟩, by rw [Bool.eq_false_iff.mpr hexists]; rfl, fun r => ?_⟩
    simp [productExists]

theorem exists_getOrCreateProduct (db : ImportDb) (h : ∃ quantity, toColumn 12 4 record.packageQuantity = .ok quantity) :
    ∃ result, db.getOrCreateProduct record = .ok result := by
  obtain ⟨quantity, hquantity⟩ := h
  by_cases hexists : db.productExists record = true
  · exact ⟨_, Runs.bind_eq_ok.mpr ⟨quantity, hquantity, if_pos hexists⟩⟩
  · exact ⟨_, Runs.bind_eq_ok.mpr ⟨quantity, hquantity, if_neg hexists⟩⟩

theorem duplicate_iff : db.duplicate record = true ↔ record.key ∈ db.prices.map (·.key) := by
  simp only [duplicate, List.any_eq_true, Bool.and_eq_true, decide_eq_true_eq, List.mem_map, NormalizedRecord.key, ProductPrice.key,
    Prod.mk.injEq, and_assoc]

theorem duplicate_congr (h : db'.prices = db.prices) : db'.duplicate record = db.duplicate record := by
  rw [duplicate, duplicate, h]

theorem priceRow_spec {row : ProductPrice} (h : db.priceRow record importId now = .ok row) :
    row.key = record.key ∧ row.importId = some importId ∧ record.storedAmount = some row.amount := by
  obtain ⟨confidence, hconfidence, h⟩ := Runs.bind_eq_ok.mp h
  obtain ⟨amount, hamount, h⟩ := Runs.bind_eq_ok.mp h
  obtain ⟨quantity, hquantity, h⟩ := Runs.bind_eq_ok.mp h
  obtain ⟨unitPrice, hunitPrice, h⟩ := Runs.bind_eq_ok.mp h
  obtain rfl := Except.ok.inj h
  refine ⟨rfl, rfl, ?_⟩
  have hrow : ∃ row : ProductPrice, ({} : ImportDb).priceRow record 0 0 = .ok row ∧ row.amount = amount :=
    ⟨_, Runs.bind_eq_ok.mpr ⟨confidence, hconfidence, Runs.bind_eq_ok.mpr ⟨amount, hamount, Runs.bind_eq_ok.mpr
      ⟨quantity, hquantity, Runs.bind_eq_ok.mpr ⟨unitPrice, hunitPrice, rfl⟩⟩⟩⟩, rfl⟩
  obtain ⟨row, hrow, hsame⟩ := hrow
  rw [NormalizedRecord.storedAmount, hrow]
  exact congrArg some hsame

theorem exists_priceRow (db : ImportDb) (importId : Nat) (now : Instant) (h : record.storedAmount.isSome) :
    ∃ row, db.priceRow record importId now = .ok row := by
  cases hrow : ({} : ImportDb).priceRow record 0 0 with
  | error e =>
    rw [NormalizedRecord.storedAmount, hrow] at h
    cases h
  | ok row =>
    obtain ⟨confidence, hconfidence, hrow⟩ := Runs.bind_eq_ok.mp hrow
    obtain ⟨amount, hamount, hrow⟩ := Runs.bind_eq_ok.mp hrow
    obtain ⟨quantity, hquantity, hrow⟩ := Runs.bind_eq_ok.mp hrow
    obtain ⟨unitPrice, hunitPrice, -⟩ := Runs.bind_eq_ok.mp hrow
    exact ⟨_, Runs.bind_eq_ok.mpr ⟨confidence, hconfidence, Runs.bind_eq_ok.mpr ⟨amount, hamount, Runs.bind_eq_ok.mpr
      ⟨quantity, hquantity, Runs.bind_eq_ok.mpr ⟨unitPrice, hunitPrice, rfl⟩⟩⟩⟩⟩

theorem addPrice_spec (h : db.addPrice record importId now = .ok db') :
    (db.duplicate record = true ∧ db' = db) ∨ (db.duplicate record = false ∧ ∃ row, db.priceRow record importId now = .ok row ∧
      db' = { db with prices := db.prices ++ [row], nextPriceId := db.nextPriceId + 1 }) := by
  unfold addPrice at h
  split at h
  · next hduplicate => exact .inl ⟨hduplicate, (Except.ok.inj h).symm⟩
  · next hduplicate =>
    obtain ⟨row, hrow, h⟩ := Runs.bind_eq_ok.mp h
    exact .inr ⟨Bool.eq_false_iff.mpr hduplicate, row, hrow, (Except.ok.inj h).symm⟩

end Catalogue

/-! ### One record -/

/-- What a record counts as. -/
def action (db : ImportDb) (record : NormalizedRecord) : Action :=
  if !db.productExists record then .created else if db.duplicate record then .skipped else .updated

/-- What one record leaves: its product is there, and so is its observation. -/
structure Commits (importId : Nat) (db : ImportDb) (record : NormalizedRecord) (db' : ImportDb) : Prop where
  products : ∀ r, db'.productExists r = (db.productExists r || decide (record.product = r.product))
  prices : (db.duplicate record = true ∧ db'.prices = db.prices) ∨ (db.duplicate record = false ∧ ∃ row : ProductPrice,
    row.key = record.key ∧ row.importId = some importId ∧ record.storedAmount = some row.amount ∧
      db'.prices = db.prices ++ [row])
  imports : db'.imports = db.imports
  nextImportId : db'.nextImportId = db.nextImportId
  items : db'.items = db.items
  ingredients : db'.ingredients = db.ingredients

/-- The record fits its product's columns and the ingredients. -/
def Accepts (py : Engine.Runtime) (db : ImportDb) (record : NormalizedRecord) : Prop :=
  (∃ quantity, toColumn 12 4 record.packageQuantity = .ok quantity) ∧ ∃ result, db.mapRecord py record = .ok result

section Records
variable {py : Engine.Runtime} {db db' : ImportDb} {record : NormalizedRecord} {records : List NormalizedRecord} {importId : Nat}
variable {now : Instant} {result result' : PlanResult}

theorem Accepts.congr (h : db.Accepts py record) (hingredients : db'.ingredients = db.ingredients) : db'.Accepts py record :=
  ⟨h.1, exists_mapRecord hingredients h.2⟩

theorem commitRecord_spec (h : commitRecord py importId now (db, result) record = .ok (db', result')) :
    Commits importId db record db' ∧ db.Accepts py record ∧
      ∃ mapped, result' = ({ result with mapped }).count (db.action record) := by
  obtain ⟨⟨db₁, created⟩, hproduct, h⟩ := Runs.bind_eq_ok.mp h
  obtain ⟨⟨db₂, mapped⟩, hmapped, h⟩ := Runs.bind_eq_ok.mp h
  obtain ⟨db₃, hprice, h⟩ := Runs.bind_eq_ok.mp h
  obtain ⟨rfl, rfl⟩ := Prod.mk.inj (Except.ok.inj h)
  have hstore : db.Keeps ((db.getOrCreateRetailer record).getOrCreateStore record) :=
    keeps_getOrCreateRetailer.trans keeps_getOrCreateStore
  obtain ⟨hkeeps₁, hcreated, hexists₁⟩ := getOrCreateProduct_spec hproduct
  obtain ⟨hkeeps₂, hproducts₂⟩ := mapRecord_spec hmapped
  have hkeeps : db.Keeps db₂ := ((hstore.trans hkeeps₁).trans keeps_ensureBarcode).trans hkeeps₂
  have hexists : ∀ r, db₂.productExists r = (db.productExists r || decide (record.product = r.product)) := by
    intro r
    have hbefore := hexists₁ r
    simp only [productExists, products_getOrCreateStore, products_getOrCreateRetailer] at hbefore
    simp only [productExists, hproducts₂, products_ensureBarcode]
    exact hbefore
  have hduplicate : db₂.duplicate record = db.duplicate record := duplicate_congr hkeeps.prices
  refine ⟨?_, ⟨?_, ?_⟩, ?_⟩
  · rcases addPrice_spec hprice with ⟨hthere, rfl⟩ | ⟨hnew, row, hrow, rfl⟩
    · exact ⟨hexists, .inl ⟨hduplicate ▸ hthere, hkeeps.prices⟩, hkeeps.imports, hkeeps.nextImportId, hkeeps.items,
        hkeeps.ingredients⟩
    · obtain ⟨hkey, hid, hamount⟩ := priceRow_spec hrow
      refine ⟨hexists, .inr ⟨hduplicate ▸ hnew, row, hkey, hid, hamount, ?_⟩, hkeeps.imports, hkeeps.nextImportId, hkeeps.items,
        hkeeps.ingredients⟩
      rw [hkeeps.prices]
  · obtain ⟨quantity, hquantity, -⟩ := Runs.bind_eq_ok.mp hproduct
    exact ⟨quantity, hquantity⟩
  · exact exists_mapRecord ((hstore.trans hkeeps₁).trans keeps_ensureBarcode).ingredients.symm ⟨_, hmapped⟩
  · have haction : (if created then Action.created else if db₂.duplicate record then .skipped else .updated) = db.action record := by
      have hknown : ((db.getOrCreateRetailer record).getOrCreateStore record).productExists record = db.productExists record := by
        simp only [productExists, products_getOrCreateStore, products_getOrCreateRetailer]
      rw [action, hduplicate, hcreated, hknown]
    rw [haction]
    cases mapped
    · exact ⟨result.mapped, rfl⟩
    · exact ⟨result.mapped + 1, rfl⟩

theorem exists_commitRecord (haccepts : db.Accepts py record)
    (hstored : db.duplicate record = true ∨ record.storedAmount.isSome) :
    ∃ db' result', commitRecord py importId now (db, result) record = .ok (db', result') := by
  have hstore : db.Keeps ((db.getOrCreateRetailer record).getOrCreateStore record) :=
    keeps_getOrCreateRetailer.trans keeps_getOrCreateStore
  obtain ⟨⟨db₁, created⟩, hproduct⟩ := 
    exists_getOrCreateProduct ((db.getOrCreateRetailer record).getOrCreateStore record) haccepts.1
  have hkeeps₁ : db.Keeps (db₁.ensureBarcode record) :=
    (hstore.trans (getOrCreateProduct_spec hproduct).1).trans keeps_ensureBarcode
  obtain ⟨⟨db₂, mapped⟩, hmapped⟩ := exists_mapRecord hkeeps₁.ingredients haccepts.2
  have hkeeps₂ := hkeeps₁.trans (mapRecord_spec hmapped).1
  obtain ⟨db₃, hprice⟩ : ∃ db₃, db₂.addPrice record importId now = .ok db₃ := by
    by_cases hduplicate : db₂.duplicate record = true
    · exact ⟨_, if_pos hduplicate⟩
    · rw [duplicate_congr hkeeps₂.prices] at hduplicate
      obtain ⟨row, hrow⟩ := exists_priceRow db₂ importId now (hstored.resolve_left hduplicate)
      rw [← duplicate_congr hkeeps₂.prices] at hduplicate
      exact ⟨_, (if_neg hduplicate).trans (Runs.bind_eq_ok.mpr ⟨row, hrow, rfl⟩)⟩
  exact ⟨_, _, Runs.bind_eq_ok.mpr ⟨_, hproduct, Runs.bind_eq_ok.mpr ⟨_, hmapped, Runs.bind_eq_ok.mpr ⟨_, hprice, rfl⟩⟩⟩⟩

/-! ### The records of a batch -/

theorem commitRecords_concat {plan : PlanResult} :
    db.commitRecords py (records ++ [record]) importId now = .ok (db', plan) ↔
      ∃ db₁ plan₁, db.commitRecords py records importId now = .ok (db₁, plan₁) ∧
        commitRecord py importId now (db₁, plan₁) record = .ok (db', plan) := by
  rw [commitRecords, List.foldlM_append, Runs.bind_eq_ok]
  constructor
  · rintro ⟨⟨db₁, plan₁⟩, hrecords, hrecord⟩
    obtain ⟨mid, hmid, hnil⟩ := Runs.foldlM_cons_eq_ok.mp hrecord
    obtain rfl := Except.ok.inj hnil
    exact ⟨db₁, plan₁, hrecords, hmid⟩
  · rintro ⟨db₁, plan₁, hrecords, hrecord⟩
    exact ⟨(db₁, plan₁), hrecords, Runs.foldlM_cons_eq_ok.mpr ⟨_, hrecord, rfl⟩⟩

/-- What a batch leaves: its products and its observations are there, and nothing else is touched. -/
structure CommitsAll (py : Engine.Runtime) (db : ImportDb) (records : List NormalizedRecord) (db' : ImportDb) : Prop where
  products : ∀ r, db'.productExists r = (db.productExists r || records.any (·.product = r.product))
  keys : ∀ r : NormalizedRecord, db'.duplicate r = (db.duplicate r || records.any (·.key = r.key))
  accepts : ∀ r ∈ records, db.Accepts py r
  imports : db'.imports = db.imports
  nextImportId : db'.nextImportId = db.nextImportId
  items : db'.items = db.items
  ingredients : db'.ingredients = db.ingredients

theorem Commits.duplicate (h : Commits importId db record db') (r : NormalizedRecord) :
    db'.duplicate r = (db.duplicate r || decide (record.key = r.key)) := by
  rw [Bool.eq_iff_iff, Bool.or_eq_true, decide_eq_true_eq]
  rcases h.prices with ⟨hthere, hprices⟩ | ⟨-, row, hkey, -, -, hprices⟩
  · rw [duplicate_congr hprices]
    refine (or_iff_left_of_imp fun hkey => ?_).symm
    rw [duplicate_iff] at hthere ⊢
    rwa [← hkey]
  · rw [duplicate_iff, duplicate_iff, hprices, List.map_append, List.mem_append, List.map_singleton, List.mem_singleton, hkey,
      eq_comm]

theorem commitRecords_spec {plan : PlanResult} (h : db.commitRecords py records importId now = .ok (db', plan)) :
    CommitsAll py db records db' := by
  induction records using List.reverseRecOn generalizing db' plan with
  | nil =>
    obtain ⟨rfl, rfl⟩ := Prod.mk.inj (Except.ok.inj h)
    exact ⟨fun r => by simp, fun r => by simp, fun r hr => absurd hr List.not_mem_nil, rfl, rfl, rfl, rfl⟩
  | append_singleton records record ih =>
    obtain ⟨db₁, plan₁, hrecords, hrecord⟩ := commitRecords_concat.mp h
    have hall := ih hrecords
    obtain ⟨hone, haccepts, -⟩ := commitRecord_spec hrecord
    refine ⟨fun r => ?_, fun r => ?_, fun r hr => ?_, hone.imports.trans hall.imports,
      hone.nextImportId.trans hall.nextImportId, hone.items.trans hall.items, hone.ingredients.trans hall.ingredients⟩
    · rw [hone.products, hall.products, List.any_append, Bool.or_assoc]
      simp
    · rw [hone.duplicate, hall.keys, List.any_append, Bool.or_assoc]
      simp
    · rcases List.mem_append.mp hr with hr | hr
      · exact hall.accepts r hr
      · rw [List.mem_singleton.mp hr]
        exact haccepts.congr hall.ingredients.symm

theorem exists_commitRecords (h : ∀ r ∈ records, db.Accepts py r ∧ db.duplicate r = true) :
    ∃ db' plan, db.commitRecords py records importId now = .ok (db', plan) ∧ db'.prices = db.prices := by
  induction records using List.reverseRecOn with
  | nil => exact ⟨db, {}, rfl, rfl⟩
  | append_singleton records record ih =>
    obtain ⟨db₁, plan₁, hrecords, hprices⟩ := ih fun r hr => h r (List.mem_append_left _ hr)
    obtain ⟨haccepts, hduplicate⟩ := h record (List.mem_append_right _ (List.mem_singleton_self record))
    have hthere : db₁.duplicate record = true := (duplicate_congr hprices).trans hduplicate
    obtain ⟨db', plan, hrecord⟩ := exists_commitRecord (haccepts.congr (commitRecords_spec hrecords).ingredients) (.inl hthere)
    refine ⟨db', plan, commitRecords_concat.mpr ⟨db₁, plan₁, hrecords, hrecord⟩, ?_⟩
    rcases (commitRecord_spec hrecord).1.prices with ⟨-, hsame⟩ | ⟨hnew, -⟩
    · exact hsame.trans hprices
    · rw [hthere] at hnew
      cases hnew

end Records
end ImportDb

/-- A chicken of ACME, observed at what a clock shows that many hours ahead of UTC. -/
def chickenAt (hour ahead : Int) : NormalizedRecord where
  retailerSlug := "acme"
  storeExternalCode := "ACME-1"
  productExternalId := "ACME-CHK-500"
  productName := "Pechuga de pollo"
  packageQuantity := .finite 500
  packageUnit := "g"
  amount := .finite (399 / 100)
  currency := "EUR"
  sourceType := "admin_import"
  sourceName := "ACME"
  observedAt := { reading := (1784505600 + 3600 * hour) * 1000000, offset := 3600 * ahead * 1000000 }

end CestaPlan.Imports
