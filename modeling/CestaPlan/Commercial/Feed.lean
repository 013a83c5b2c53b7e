import CestaPlan.Imports.Validation
import CestaPlan.Library.Json
import CestaPlan.Library.Runs
import Mathlib.Data.List.ReduceOption

/-! The commercial feed (`adapters/commercial_feed.py`): the priced products of a licensed provider, page by page, each item read by the
    configured mapping of its fields. -/

namespace CestaPlan.Commercial
open DecimalText Ingestion
open Imports (WrittenRecord aware)

inductive Pagination where
  | none | page | offset
deriving DecidableEq

/-- What the connector needs of its configuration, which is always complete where it runs. The size of a page is positive, as
    `from_settings` makes it. -/
structure CommercialFeedConfig where
  configured : Bool := true
  pagination : Pagination := .none
  pageSize : ℕ := 100
  pageSize_pos : 0 < pageSize := by decide
  itemsPath : String := ""
  fieldMap : List (String × String) := []
  sourceName : String := "Feed comercial autorizado"

/-- `CF_MAX_PAGES` -/
def maxPages : ℕ := 200

/-- A response: the status, and the payload where it can be decoded. -/
structure Response where
  statusCode : ℤ
  json : Option (Json String)

abbrev Item := List (String × Json String)

/-! ### Values -/

/-- `_dig` along the parts of a path -/
def digParts : List (List Char) → Json String → Json String
  | [], cur => cur
  | part :: parts, cur => digParts parts (cur.field (String.ofList part))

def dig (item : Json String) (path : String) : Json String := digParts (path.toList.splitOn '.') item

def cleanStr : Json String → Option String
  | .str s => (some (Text.strip s)).filter (· ≠ "")
  | .int n => some (toString n)
  | .float repr => some repr
  | _ => none

/-- `_decimal_or_none`: the `str` of a list or of an object is no number. -/
def decimalOrNone : Json String → Option Numeral
  | .str s => decimal? s
  | .int n => decimal? (toString n)
  | .float repr => decimal? repr
  | _ => none

section Dates
variable (fromisoformat : String → Option DateTime)

def parseDatetime : Json String → Option DateTime
  | .str s =>
    let text := (Text.strip s).toList
    if text = [] then none
    else ((fromisoformat (String.ofList (text.flatMap fun c => if c = 'Z' then "+00:00".toList else [c]))).or
      (fromisoformat (String.ofList (text.take 10)))).map fun t => if t.offset.isSome then t else aware t
  | _ => none

end Dates

/-! ### Pages -/

/-- The items of a payload: those of a list, or of the list that the configured path or a common key leads to. -/
def extractItems (config : CommercialFeedConfig) (payload : Json String) : List Item :=
  let data : List (Json String) := match payload with
    | .arr items => items
    | .obj _ =>
      if config.itemsPath ≠ "" then (dig payload config.itemsPath).items
      else (["items", "data", "products", "results"].findSome? fun key => match payload.field key with
        | .arr items => some items
        | _ => none).getD []
    | _ => []
  data.filterMap fun
    | .obj entries => some entries
    | _ => none

/-- What is asked for. -/
inductive PageParams where
  | all
  | page (page size : ℕ)
  | offset (start limit : ℕ)
deriving DecidableEq

def pageParams (config : CommercialFeedConfig) (page : ℕ) : PageParams :=
  match config.pagination with
  | .page => .page page config.pageSize
  | .offset => .offset ((page - 1) * config.pageSize) config.pageSize
  | .none => .all

/-! ### Items -/

section Mapping
variable (config : CommercialFeedConfig)

/-- The value of a canonical field: the one that the mapping leads to. -/
def val (item : Item) (canonical : String) : Json String :=
  match (config.fieldMap.lookup canonical).filter (· ≠ "") with
  | some path => dig (.obj item) path
  | none => .null

/-- `barcode or product_ref` -/
def externalIdOf (item : Item) : Option String :=
  (((cleanStr (val config item "barcode")).filter (· ≠ "")).or (cleanStr (val config item "product_ref"))).filter (· ≠ "")

/-- `value or Decimal("1")` -/
def orOne : Option Numeral → Numeral
  | some (.finite negative coefficient exponent) => if coefficient = 0 then .finite false 1 0 else .finite negative coefficient exponent
  | some d => d
  | none => .finite false 1 0

/-- The label of a promotional price that is below the amount. -/
def promotionOf (amount : Numeral) : Option Numeral → Except Signal (Option String)
  | none => .ok none
  | some promoPrice => do
    return if ← (Decimal.ofNumeral promoPrice).lt (.ofNumeral amount) then some ("Precio promocionado " ++ promoPrice.text) else none

variable (fromisoformat : String → Option DateTime) (retailerSlug storeExternalCode : String) (defaultObservedAt : DateTime)

/-- The record of an item with a price and an identity. -/
def recordOf (item : Item) (amount : Numeral) (externalId : String) (promotion : Option String) : WrittenRecord where
  retailerSlug
  storeExternalCode
  productExternalId := externalId
  productName := (cleanStr (val config item "product_name")).getD ("Producto " ++ externalId)
  packageQuantity := orOne (decimalOrNone (val config item "package_quantity"))
  packageUnit := (cleanStr (val config item "package_unit")).getD "unit"
  amount
  currency := (cleanStr (val config item "currency")).getD "EUR"
  sourceType := "authorized_partner"
  sourceName := config.sourceName
  observedAt := (parseDatetime fromisoformat (val config item "date")).getD defaultObservedAt
  brand := cleanStr (val config item "brand")
  category := cleanStr (val config item "category")
  barcode := cleanStr (val config item "barcode")
  unitPrice := decimalOrNone (val config item "unit_price")
  promotion

/-- `_map_record`: nothing of an item without a price or without an identity. -/
def mapRecord (item : Item) : Except Signal (Option WrittenRecord) :=
  match decimalOrNone (val config item "amount"), externalIdOf config item with
  | some amount, some externalId => do
    let promotion ← promotionOf amount (decimalOrNone (val config item "promo_price"))
    return some (recordOf config fromisoformat retailerSlug storeExternalCode defaultObservedAt item amount externalId promotion)
  | _, _ => .ok none

/-! ### Fetching -/

/-- The items of the response to a page, where it has some. -/
def pageItems (response : Option Response) : Option (List Item) :=
  match response with
  | none => none
  | some response =>
    if response.statusCode ≠ 200 then none
    else (response.json.map (extractItems config)).filter (· ≠ [])

/-- There is a page after one with these items. -/
def continues (items : List Item) : Bool := config.pagination ≠ .none && decide (config.pageSize ≤ items.length)

variable (serve : PageParams → Option Response)

/-- The loop of `fetch_products`, from a page on, while there are pages to read. -/
def fetchFrom : ℕ → ℕ → Except Signal (List WrittenRecord)
  | 0, _ => .ok []
  | pages + 1, page =>
    match pageItems config (serve (pageParams config page)) with
    | none => .ok []
    | some items => do
      let records ← items.mapM (mapRecord config fromisoformat retailerSlug storeExternalCode defaultObservedAt)
      let rest ← if continues config items then fetchFrom pages (page + 1) else pure []
      return records.reduceOption ++ rest

def fetchProducts : Except Signal (List WrittenRecord) :=
  if config.configured then fetchFrom config fromisoformat retailerSlug storeExternalCode defaultObservedAt serve maxPages 1 else .ok []

/-! ### What is delivered -/

/-- The pages that are read from one on, each with what was asked for. -/
def pagesFrom : ℕ → ℕ → List (PageParams × List Item)
  | 0, _ => []
  | pages + 1, page =>
    match pageItems config (serve (pageParams config page)) with
    | none => []
    | some items => (pageParams config page, items) :: if continues config items then pagesFrom pages (page + 1) else []

def pagesRead : List (PageParams × List Item) := if config.configured then pagesFrom config serve maxPages 1 else []

def itemsRead : List Item := (pagesRead config serve).flatMap (·.2)

/-- An item with a price and an identity. -/
def usable (item : Item) : Bool := (decimalOrNone (val config item "amount")).isSome && (externalIdOf config item).isSome

/-- The numbers of a record are finite and positive, and its product is known by something. -/
structure Sound (record : WrittenRecord) : Prop where
  amount : ∃ x > 0, Decimal.ofNumeral record.amount = .finite x
  packageQuantity : ∃ x > 0, Decimal.ofNumeral record.packageQuantity = .finite x
  identity : record.productExternalId ≠ ""

/-- Two pages with no item in common. -/
def PageParams.Apart : PageParams → PageParams → Prop
  | .page p size, .page q size' => size = size' ∧ p < q
  | .offset start limit, .offset start' _ => start + limit ≤ start'
  | _, _ => False

/-- Every usable item of the pages that are read, which follow each other without a gap and do not overlap, has one record, and all records
    are sound. -/
structure Delivers (records : List WrittenRecord) : Prop where
  sound : ∀ record ∈ records, Sound record
  each : List.Forall₂ (fun item record =>
    mapRecord config fromisoformat retailerSlug storeExternalCode defaultObservedAt item = .ok (some record))
    ((itemsRead config serve).filter (usable config)) records
  consecutive : (pagesRead config serve).map (·.1) = (List.range (pagesRead config serve).length).map fun i => pageParams config (i + 1)
  apart : config.pagination ≠ .none → ((pagesRead config serve).map (·.1)).Pairwise PageParams.Apart

end Mapping

/-- A number greater than zero. -/
def Positive : Numeral → Prop
  | .finite negative coefficient _ => negative = false ∧ coefficient ≠ 0
  | _ => False

def IsZero : Numeral → Prop
  | .finite _ coefficient _ => coefficient = 0
  | _ => False

/-- An item with a price and an identity has a positive price, a positive quantity unless it is zero or missing, and no promotional price
    that is no number. -/
def Clean (config : CommercialFeedConfig) (item : Item) : Prop :=
  ∀ amount ∈ decimalOrNone (val config item "amount"), externalIdOf config item ≠ none → Positive amount ∧
    (∀ quantity ∈ decimalOrNone (val config item "package_quantity"), IsZero quantity ∨ Positive quantity) ∧
    ∀ promoPrice ∈ decimalOrNone (val config item "promo_price"), (Decimal.ofNumeral promoPrice).isNan = false

/-! ### Numbers -/

theorem positive_iff {d : Numeral} : Positive d ↔ ∃ x > 0, Decimal.ofNumeral d = .finite x := by
  cases d with
  | finite negative coefficient exponent =>
    have hpow : (0 : ℚ) < 10 ^ exponent := zpow_pos (by norm_num) exponent
    have hvalue : Decimal.ofNumeral (.finite negative coefficient exponent) = .finite (rational negative coefficient exponent) := rfl
    have hiff : Positive (.finite negative coefficient exponent) ↔ 0 < rational negative coefficient exponent := by
      unfold rational
      cases negative with
      | true =>
        refine iff_of_false (fun h => absurd h.1 (by decide)) (not_lt.mpr ?_)
        have hnonneg : (0 : ℚ) ≤ coefficient * 10 ^ exponent := by positivity
        simp only [if_true]
        linarith
      | false =>
        simp only [Positive, Bool.false_eq_true, if_false, one_mul, true_and]
        rw [mul_pos_iff_of_pos_right hpow, Nat.cast_pos, Nat.pos_iff_ne_zero]
    rw [hiff, hvalue]
    exact ⟨fun h => ⟨_, h, rfl⟩, fun ⟨x, hx, heq⟩ => by rwa [Decimal.finite.inj heq]⟩
  | infinity negative => exact iff_of_false id fun ⟨_, _, h⟩ => by cases h
  | nan negative signaling payload => exact iff_of_false id fun ⟨_, _, h⟩ => by cases h

theorem positive_orOne {quantity : Option Numeral} : Positive (orOne quantity) ↔ ∀ d ∈ quantity, IsZero d ∨ Positive d := by
  rcases quantity with - | (⟨negative, coefficient, exponent⟩ | negative | ⟨negative, signaling, payload⟩)
  · exact iff_of_true ⟨rfl, one_ne_zero⟩ (fun _ h => by cases h)
  · unfold orOne
    dsimp only
    split
    · next hzero => exact iff_of_true ⟨rfl, one_ne_zero⟩ fun d hd => by obtain rfl := Option.mem_some.mp hd; exact .inl hzero
    · next hzero =>
      refine ⟨fun h d hd => ?_, fun h => ?_⟩
      · obtain rfl := Option.mem_some.mp hd
        exact .inr h
      · exact (h _ rfl).resolve_left hzero
  · exact iff_of_false id fun h => (h _ rfl).elim id id
  · exact iff_of_false id fun h => (h _ rfl).elim id id

theorem lt_ok {x y : Decimal} (hx : x.isNan = false) (hy : y.isNan = false) : ∃ b, x.lt y = .ok b := by
  cases x with
  | nan => cases hx
  | finite x => cases y with
    | nan => cases hy
    | finite y => exact ⟨_, rfl⟩
    | infinity n => exact ⟨_, rfl⟩
  | infinity n => cases y with
    | nan => cases hy
    | finite y => exact ⟨_, rfl⟩
    | infinity m => exact ⟨_, rfl⟩

/-! ### One item -/

section Items
variable {config : CommercialFeedConfig} {fromisoformat : String → Option DateTime} {retailerSlug storeExternalCode : String}
  {defaultObservedAt : DateTime} {item : Item} {record : WrittenRecord} {amount : Numeral} {externalId : String}

theorem usable_iff : usable config item = true ↔
    ∃ amount externalId, decimalOrNone (val config item "amount") = some amount ∧ externalIdOf config item = some externalId := by
  unfold usable
  rw [Bool.and_eq_true, Option.isSome_iff_exists, Option.isSome_iff_exists]
  exact ⟨fun ⟨⟨a, ha⟩, ⟨e, he⟩⟩ => ⟨a, e, ha, he⟩, fun ⟨a, e, ha, he⟩ => ⟨⟨a, ha⟩, ⟨e, he⟩⟩⟩

theorem mapRecord_of_usable (hamount : decimalOrNone (val config item "amount") = some amount)
    (hid : externalIdOf config item = some externalId) :
    mapRecord config fromisoformat retailerSlug storeExternalCode defaultObservedAt item =
      (promotionOf amount (decimalOrNone (val config item "promo_price"))).map fun promotion =>
        some (recordOf config fromisoformat retailerSlug storeExternalCode defaultObservedAt item amount externalId promotion) := by
  unfold mapRecord
  rw [hamount, hid]
  dsimp only
  cases promotionOf amount (decimalOrNone (val config item "promo_price")) <;> rfl

theorem mapRecord_of_not_usable (h : usable config item = false) :
    mapRecord config fromisoformat retailerSlug storeExternalCode defaultObservedAt item = .ok none := by
  unfold mapRecord
  split
  · next amount externalId hamount hid => rw [usable_iff.mpr ⟨amount, externalId, hamount, hid⟩] at h; cases h
  · rfl

theorem externalIdOf_ne (hid : externalIdOf config item = some externalId) : externalId ≠ "" :=
  of_decide_eq_true (Option.filter_eq_some_iff.mp hid).2

theorem sound_iff_clean (husable : usable config item = true) :
    (∃ record, mapRecord config fromisoformat retailerSlug storeExternalCode defaultObservedAt item = .ok (some record) ∧ Sound record) ↔
      Clean config item := by
  obtain ⟨amount, externalId, hamount, hid⟩ := usable_iff.mp husable
  rw [mapRecord_of_usable hamount hid]
  constructor
  · rintro ⟨record, hrecord, hsound⟩ amount' hamount' -
    obtain rfl := Option.some.inj (hamount.symm.trans hamount')
    cases hpromotion : promotionOf amount (decimalOrNone (val config item "promo_price")) with
    | error e => rw [hpromotion] at hrecord; cases hrecord
    | ok promotion =>
      rw [hpromotion] at hrecord
      obtain rfl := Option.some.inj (Except.ok.inj hrecord)
      have hpositive : Positive amount := positive_iff.mpr hsound.amount
      refine ⟨hpositive, positive_orOne.mp (positive_iff.mpr hsound.packageQuantity), fun promoPrice hpromo => ?_⟩
      rw [Option.mem_def.mp hpromo] at hpromotion
      obtain ⟨below, hbelow, -⟩ := Runs.bind_eq_ok.mp hpromotion
      -- A comparison with a NaN would have raised.
      cases hnan : Decimal.ofNumeral promoPrice with
      | nan signaling => rw [hnan] at hbelow; cases hbelow
      | finite x => rfl
      | infinity negative => rfl
  · intro hclean
    obtain ⟨hpositive, hquantity, hpromo⟩ := hclean amount hamount (by rw [hid]; exact Option.some_ne_none _)
    obtain ⟨x, hx, hvalue⟩ := positive_iff.mp hpositive
    obtain ⟨promotion, hpromotion⟩ : ∃ promotion, promotionOf amount (decimalOrNone (val config item "promo_price")) = .ok promotion := by
      cases hprice : decimalOrNone (val config item "promo_price") with
      | none => exact ⟨none, rfl⟩
      | some promoPrice =>
        obtain ⟨below, hbelow⟩ := lt_ok (hpromo promoPrice hprice) (show (Decimal.ofNumeral amount).isNan = false by rw [hvalue]; rfl)
        exact ⟨_, Runs.bind_eq_ok.mpr ⟨below, hbelow, rfl⟩⟩
    rw [hpromotion]
    exact ⟨_, rfl, ⟨x, hx, hvalue⟩, positive_iff.mp (positive_orOne.mpr hquantity), externalIdOf_ne hid⟩

end Items

/-! ### All pages -/

section Pages
variable {config : CommercialFeedConfig} {fromisoformat : String → Option DateTime} {retailerSlug storeExternalCode : String}
  {defaultObservedAt : DateTime} {serve : PageParams → Option Response}

theorem fetchFrom_eq (pages page : ℕ) :
    fetchFrom config fromisoformat retailerSlug storeExternalCode defaultObservedAt serve pages page =
      (((pagesFrom config serve pages page).flatMap (·.2)).mapM
        (mapRecord config fromisoformat retailerSlug storeExternalCode defaultObservedAt)).map List.reduceOption := by
  induction pages generalizing page with
  | zero => rfl
  | succ pages ih =>
    unfold fetchFrom pagesFrom
    cases pageItems config (serve (pageParams config page)) with
    | none => rfl
    | some items =>
      dsimp only
      rw [List.flatMap_cons, List.mapM_append]
      cases items.mapM (mapRecord config fromisoformat retailerSlug storeExternalCode defaultObservedAt) with
      | error e => rfl
      | ok records =>
        by_cases hmore : continues config items = true
        · rw [if_pos hmore]
          change (if continues config items = true then _ else _) = _
          rw [if_pos hmore, ih]
          cases ((pagesFrom config serve pages (page + 1)).flatMap (·.2)).mapM
              (mapRecord config fromisoformat retailerSlug storeExternalCode defaultObservedAt) with
          | error e => rfl
          | ok rest => exact congrArg Except.ok (List.reduceOption_append _ _).symm
        · rw [if_neg hmore]
          change (if continues config items = true then _ else _) = _
          rw [if_neg hmore]
          exact congrArg Except.ok (List.reduceOption_append records []).symm

theorem fetchProducts_eq : fetchProducts config fromisoformat retailerSlug storeExternalCode defaultObservedAt serve =
    ((itemsRead config serve).mapM (mapRecord config fromisoformat retailerSlug storeExternalCode defaultObservedAt)).map
      List.reduceOption := by
  unfold fetchProducts itemsRead pagesRead
  split
  · exact fetchFrom_eq maxPages 1
  · rfl

theorem pagesFrom_params (pages page : ℕ) : (pagesFrom config serve pages page).map (·.1) =
    (List.range (pagesFrom config serve pages page).length).map fun i => pageParams config (page + i) := by
  induction pages generalizing page with
  | zero => rfl
  | succ pages ih =>
    unfold pagesFrom
    cases pageItems config (serve (pageParams config page)) with
    | none => rfl
    | some items =>
      dsimp only
      rw [List.map_cons, List.length_cons, List.range_succ_eq_map, List.map_cons, List.map_map]
      refine congrArg (_ :: ·) ?_
      split
      · rw [ih]
        exact List.map_congr_left fun i _ => congrArg (pageParams config) (by omega)
      · rfl

theorem pagesRead_params : (pagesRead config serve).map (·.1) =
    (List.range (pagesRead config serve).length).map fun i => pageParams config (i + 1) := by
  unfold pagesRead
  split
  · rw [pagesFrom_params]
    exact List.map_congr_left fun i _ => congrArg (pageParams config) (Nat.add_comm 1 i)
  · rfl

theorem apart_pageParams (hpaged : config.pagination ≠ .none) {i j : ℕ} (h : i < j) :
    (pageParams config (i + 1)).Apart (pageParams config (j + 1)) := by
  unfold pageParams
  cases hpagination : config.pagination with
  | none => exact absurd hpagination hpaged
  | page => exact ⟨rfl, by omega⟩
  | offset =>
    show (i + 1 - 1) * config.pageSize + config.pageSize ≤ (j + 1 - 1) * config.pageSize
    rw [Nat.add_sub_cancel, Nat.add_sub_cancel, ← Nat.succ_mul]
    exact Nat.mul_le_mul_right _ h

theorem forall₂_usable {items : List Item} {results : List (Option WrittenRecord)}
    (h : List.Forall₂ (fun item result =>
      mapRecord config fromisoformat retailerSlug storeExternalCode defaultObservedAt item = .ok result) items results)
    (hsome : ∀ item ∈ items, usable config item = true →
      ∃ record, mapRecord config fromisoformat retailerSlug storeExternalCode defaultObservedAt item = .ok (some record)) :
    List.Forall₂ (fun item record =>
      mapRecord config fromisoformat retailerSlug storeExternalCode defaultObservedAt item = .ok (some record))
      (items.filter (usable config)) results.reduceOption := by
  induction h with
  | nil => exact List.Forall₂.nil
  | @cons item result items results hresult _ ih =>
    replace ih := ih fun item hitem => hsome item (List.mem_cons_of_mem _ hitem)
    cases husable : usable config item with
    | true =>
      obtain ⟨record, hrecord⟩ := hsome item List.mem_cons_self husable
      obtain rfl := Except.ok.inj (hrecord.symm.trans hresult)
      rw [List.filter_cons_of_pos husable, List.reduceOption_cons_of_some]
      exact List.Forall₂.cons hrecord ih
    | false =>
      obtain rfl := Except.ok.inj ((mapRecord_of_not_usable husable).symm.trans hresult)
      rw [List.filter_cons_of_neg (by rw [husable]; exact Bool.false_ne_true), List.reduceOption_cons_of_none]
      exact ih

/-- Nothing is raised, and every usable item of the pages that are read has one record and a sound one, just where all these items are
    clean. -/
theorem delivers_iff_clean :
    (∃ records, fetchProducts config fromisoformat retailerSlug storeExternalCode defaultObservedAt serve = .ok records ∧
      Delivers config fromisoformat retailerSlug storeExternalCode defaultObservedAt serve records) ↔
    ∀ item ∈ itemsRead config serve, Clean config item := by
  constructor
  · rintro ⟨records, -, hdelivers⟩ item hitem
    cases husable : usable config item with
    | true =>
      obtain ⟨record, hrecord, hmap⟩ := (Runs.exists_of_forall₂ hdelivers.each).1 item (List.mem_filter.mpr ⟨hitem, husable⟩)
      exact (sound_iff_clean husable).mp ⟨record, hmap, hdelivers.sound record hrecord⟩
    | false =>
      intro amount hamount hid
      obtain ⟨externalId, hid⟩ := Option.ne_none_iff_exists'.mp hid
      rw [usable_iff.mpr ⟨amount, externalId, hamount, hid⟩] at husable
      cases husable
  · intro hclean
    have hsound (item : Item) (hitem : item ∈ itemsRead config serve) (husable : usable config item = true) :=
      (@sound_iff_clean config fromisoformat retailerSlug storeExternalCode defaultObservedAt item husable).mpr (hclean item hitem)
    obtain ⟨results, hresults⟩ : ∃ results, (itemsRead config serve).mapM
        (mapRecord config fromisoformat retailerSlug storeExternalCode defaultObservedAt) = .ok results := by
      refine Runs.exists_mapM_iff.mpr fun item hitem => ?_
      cases husable : usable config item with
      | true =>
        obtain ⟨record, hmap, -⟩ := hsound item hitem husable
        exact ⟨some record, hmap⟩
      | false => exact ⟨none, mapRecord_of_not_usable husable⟩
    have hforall := Runs.mapM_eq_ok_iff.mp hresults
    refine ⟨results.reduceOption, by rw [fetchProducts_eq, hresults]; rfl, ?_, ?_, pagesRead_params, ?_⟩
    · intro record hrecord
      obtain ⟨item, hitem, hmap⟩ := (Runs.exists_of_forall₂ hforall).2 _ (List.reduceOption_mem_iff.mp hrecord)
      cases husable : usable config item with
      | true =>
        obtain ⟨record', hmap', hrecord'⟩ := hsound item hitem husable
        obtain rfl := Option.some.inj (Except.ok.inj (hmap'.symm.trans hmap))
        exact hrecord'
      | false => cases (mapRecord_of_not_usable husable).symm.trans hmap
    · exact forall₂_usable hforall fun item hitem husable => by
        obtain ⟨record, hmap, -⟩ := hsound item hitem husable
        exact ⟨record, hmap⟩
    · intro hpaged
      rw [pagesRead_params]
      exact List.pairwise_map.mpr (List.pairwise_lt_range.imp fun hlt => apart_pageParams hpaged hlt)

end Pages

/-! ### A promotional price that is no number -/

/-- A feed of products with their code, price and offer. -/
def offersFeed : CommercialFeedConfig where
  fieldMap := [("barcode", "ean"), ("amount", "price"), ("promo_price", "promo")]

def milkItem : Item := [("ean", .str "8480000123456"), ("price", .float "1.5"), ("promo", .str "NaN")]

def milkResponse : Response where
  statusCode := 200
  json := some (.obj [("items", .arr [.obj milkItem])])

/-- The comparison of the offer with the price raises. -/
theorem not_delivers_milk : ¬ ∃ records,
    fetchProducts offersFeed (fun _ => none) "mercadona" "store-0001" ⟨0, some 0⟩ (fun _ => some milkResponse) = .ok records ∧
      Delivers offersFeed (fun _ => none) "mercadona" "store-0001" ⟨0, some 0⟩ (fun _ => some milkResponse) records := by
  rintro ⟨records, h, -⟩
  have hraised : fetchProducts offersFeed (fun _ => none) "mercadona" "store-0001" ⟨0, some 0⟩ (fun _ => some milkResponse) =
      .error .invalidOperation := by rfl
  rw [hraised] at h
  cases h

end CestaPlan.Commercial
