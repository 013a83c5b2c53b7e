import CestaPlan.Basket.Promotions
import CestaPlan.Engine.Packaging
import CestaPlan.Library.Least
import CestaPlan.Library.Runs
import CestaPlan.Prices.PriceScope

/-! The resolution of a basket (`services/basket_resolver.py`): each item gets the preferred one of its candidate variants, in whole
    packages, or a reason why it has none. -/

namespace CestaPlan.Basket
open Engine History Prices

structure BasketItem where
  requiredQuantity : ℚ
  unit : String
  variantId : Option String := none
  productId : Option String := none
  ingredient : Option String := none
deriving DecidableEq

structure ProductVariant where
  id : Int
  publicId : String
  productId : Option Int := none
  retailerId : Int
  displayName : String
  packageQuantity : Option ℚ := none
  packageUnit : Option String := none
  active : Bool := true
deriving DecidableEq

structure Product where
  id : Int
  publicId : String
  name : String
deriving DecidableEq

/-- The tables that the resolver reads. -/
structure Shop where
  db : Db := {}
  variants : List ProductVariant := []
  products : List Product := []
  promotionRules : List PromotionRule := []

structure BasketRequest where
  retailerId : Int
  storeId : Option Int
  retailerPublicId : String
  storePublicId : Option String
  items : List BasketItem
  asOf : Instant
  currency : String := "EUR"

structure ResolvedLine where
  item : BasketItem
  variantId : String
  productId : Option String
  displayName : String
  requiredQuantity : ℚ
  requiredUnit : String
  packageQuantity : ℚ
  packageUnit : String
  packages : ℕ
  purchasedQuantity : ℚ
  usedQuantity : ℚ
  leftover : ℚ
  unitPrice : ℚ
  listCost : ℚ
  lineCost : ℚ
  currency : String
  promotion : Option PromotionApplied
  priceType : PriceType
  priceScope : PriceScope
  sourceId : Option Int
  observedAt : Instant
  ageSeconds : ℚ
  freshness : FreshnessStatus
  confidence : ℚ
  available : Option Bool

structure UnresolvedLine where
  item : BasketItem
  reason : String
  detail : String
  matchedVariantId : Option String := none
deriving DecidableEq

structure BasketResolution where
  retailerId : String
  storeId : Option String
  asOf : Instant
  currency : String
  lines : List ResolvedLine := []
  unresolved : List UnresolvedLine := []

inductive ValueError where
  | packageQuantityNotPositive
deriving DecidableEq

/-- What becomes of an item. -/
abbrev Entry := ResolvedLine ⊕ UnresolvedLine

def Entry.item : Entry → BasketItem
  | .inl line => line.item
  | .inr line => line.item

def isDegraded (priceType : PriceType) (status : FreshnessStatus) : Bool := priceType = .estimated || status = .expired

def prefer (candidate current : CurrentPrice) : Bool :=
  let candEst := isDegraded candidate.priceType candidate.status
  let curEst := isDegraded current.priceType current.status
  if candEst ≠ curEst then !candEst else candidate.amount < current.amount

section Resolution
variable (py : Runtime)
/- `name ILIKE pattern` -/
variable (ilike : String → String → Bool)
variable (th : Thresholds) (shop : Shop) (req : BasketRequest)

def candidateVariants (item : BasketItem) : List ProductVariant :=
  let active := shop.variants.filter fun v => v.retailerId = req.retailerId && v.active
  match item.variantId with
  | some id => active.filter (·.publicId = id)
  | none => match item.productId with
    | some id => match shop.products.find? (·.publicId = id) with
      | none => []
      | some product => active.filter (·.productId = some product.id)
    | none => match item.ingredient with
      | none => []
      | some ingredient =>
        let pattern := "%" ++ Text.strip ingredient ++ "%"
        active.filter fun v => ilike v.displayName pattern ||
          shop.products.any fun product => v.productId = some product.id && ilike product.name pattern

/-- With a store the price must be one for the store, without one a national price. -/
def requiredScope : String := if req.storeId.isSome then "exact_store" else "national"

def priceOf (v : ProductVariant) : Option CurrentPrice :=
  gatedCurrentPrice shop.db v.id req.storeId (requiredScope req) req.asOf false th

def choose (chosen : Option (ProductVariant × CurrentPrice)) (variant : ProductVariant) : Option (ProductVariant × CurrentPrice) :=
  match priceOf th shop req variant with
  | none => chosen
  | some price => match chosen with
    | none => some (variant, price)
    | some c => if prefer price c.2 then some (variant, price) else some c

def chosenFor (item : BasketItem) : Option (ProductVariant × CurrentPrice) :=
  (candidateVariants ilike shop req item).foldl (choose th shop req) none

/-- The rule of the last inserted observation of the variant at that scope, instant and, if the price has one, store. -/
def promotionRule (variantId : Int) (price : CurrentPrice) : Option PromotionRule := do
  let observation ← ((shop.db.observations.filter fun r =>
    r.productVariantId = variantId && r.priceScope = price.priceScope && r.observedAt = price.observedAt &&
      price.storeId.all fun s => r.storeId = some s).insertionSort fun a b => b.id ≤ a.id).head?
  ((shop.promotionRules.filter (·.priceObservationId = observation.id)).insertionSort fun a b => b.id ≤ a.id).head?

def productPublicId (productId : Option Int) : Option String :=
  productId.bind fun id => (shop.products.find? (·.id = id)).map (·.publicId)

def resolvedLine (item : BasketItem) (variant : ProductVariant) (price : CurrentPrice) (packageQuantity : ℚ) (packageUnit : String)
    (result : PackageResult) : ResolvedLine :=
  let (lineCost, promotion) := applyPromotion py (promotionRule shop variant.id price) result.packages price.amount
  { item := item
    variantId := variant.publicId
    productId := productPublicId shop variant.productId
    displayName := variant.displayName
    requiredQuantity := item.requiredQuantity
    requiredUnit := item.unit
    packageQuantity := packageQuantity
    packageUnit := packageUnit
    packages := result.packages
    purchasedQuantity := result.purchased
    usedQuantity := result.used
    leftover := result.leftover
    unitPrice := price.amount
    listCost := result.totalCost
    lineCost := lineCost
    currency := price.currency
    promotion := promotion
    priceType := price.priceType
    priceScope := price.priceScope
    sourceId := price.sourceId
    observedAt := price.observedAt
    ageSeconds := price.age / 10 ^ 6
    freshness := price.status
    confidence := price.confidence
    available := price.available }

/-- The line of the variant that was chosen; a package quantity that is not positive raises. -/
def lineFor (item : BasketItem) (variant : ProductVariant) (price : CurrentPrice) : Except ValueError Entry :=
  match variant.packageQuantity, variant.packageUnit with
  | some packageQuantity, some packageUnit =>
    match convert py Dict.empty item.requiredQuantity item.unit packageUnit none with
    | .error _ => .ok (.inr
        { item := item
          reason := "unit_incompatible"
          detail := "No se puede convertir " ++ item.unit ++ " a " ++ packageUnit
          matchedVariantId := some variant.publicId })
    | .ok needed => match computePackages py needed 0 packageQuantity price.amount with
      | none => .error .packageQuantityNotPositive
      | some result => .ok (.inl (resolvedLine py shop item variant price packageQuantity packageUnit result))
  | _, _ => .ok (.inr
      { item := item
        reason := "no_package_info"
        detail := "El producto no declara formato de envase"
        matchedVariantId := some variant.publicId })

def resolveItem (item : BasketItem) : Except ValueError Entry :=
  match candidateVariants ilike shop req item with
  | [] => .ok (.inr { item := item, reason := "no_match", detail := "Ningún producto coincide" })
  | first :: _ => match chosenFor ilike th shop req item with
    | none => .ok (.inr
        { item := item
          reason := "no_price"
          detail := "Producto encontrado sin precio disponible"
          matchedVariantId := some first.publicId })
    | some (variant, price) => lineFor py shop item variant price

def resolutionOf (entries : List Entry) : BasketResolution where
  retailerId := req.retailerPublicId
  storeId := req.storePublicId
  asOf := req.asOf
  currency := req.currency
  lines := entries.filterMap Sum.getLeft?
  unresolved := entries.filterMap Sum.getRight?

def resolve : Except ValueError BasketResolution := do
  let entries ← req.items.mapM (resolveItem py ilike th shop req)
  return resolutionOf req entries

end Resolution

section Totals
variable (py : Runtime) (r : BasketResolution)

def ResolvedLine.isEstimated (line : ResolvedLine) : Bool := isDegraded line.priceType line.freshness

def BasketResolution.knownCost : ℚ := py.sum ((r.lines.filter (!·.isEstimated)).map (·.lineCost))

def BasketResolution.estimatedCost : ℚ := py.sum ((r.lines.filter (·.isEstimated)).map (·.lineCost))

def BasketResolution.totalCost : ℚ := py.add (r.knownCost py) (r.estimatedCost py)

def BasketResolution.itemCount : ℕ := r.lines.length + r.unresolved.length

def BasketResolution.coverageRatio : ℚ :=
  if r.itemCount = 0 then 0 else Numeric.roundScale 4 (py.div r.lines.length r.itemCount)

end Totals

/-! ### What an item resolves to -/

section Claims
variable (py : Runtime) (ilike : String → String → Bool) (th : Thresholds) (shop : Shop) (req : BasketRequest)

/-- The variant has a gated price, a declared package with a positive quantity and a unit that the item's unit converts to. -/
def Buyable (item : BasketItem) (v : ProductVariant) : Prop :=
  (priceOf th shop req v).isSome = true ∧ ∃ q ∈ v.packageQuantity, ∃ u ∈ v.packageUnit, 0 < q ∧
    ∃ needed, convert py Dict.empty item.requiredQuantity item.unit u none = .ok needed

/-- The basket is resolved, with one entry for each item in order, and an item is left unresolved only if no candidate of it is
    buyable. -/
def Resolves : Prop :=
  ∃ entries, resolve py ilike th shop req = .ok (resolutionOf req entries) ∧ entries.map Entry.item = req.items ∧
    ∀ line, Sum.inr line ∈ entries → ∀ v ∈ candidateVariants ilike shop req line.item, ¬Buyable py th shop req line.item v

/-- The variant declares a package that is not positive, in a unit that the item's unit converts to. -/
def Raises (item : BasketItem) (v : ProductVariant) : Prop :=
  ∃ q ∈ v.packageQuantity, ∃ u ∈ v.packageUnit, q ≤ 0 ∧
    ∃ needed, convert py Dict.empty item.requiredQuantity item.unit u none = .ok needed

/-- Prices that are not degraded first, then the cheaper ones. -/
def rank (c : ProductVariant × CurrentPrice) : Bool ×ₗ ℚ := toLex (isDegraded c.2.priceType c.2.status, c.2.amount)

/-- The candidates that have a price, with it. -/
def priced (item : BasketItem) : List (ProductVariant × CurrentPrice) :=
  (candidateVariants ilike shop req item).filterMap fun v => (priceOf th shop req v).map (v, ·)

/-- The preferred candidate of an item is buyable if any is, and never raises. -/
def Settled (item : BasketItem) : Prop :=
  ∀ c ∈ (priced ilike th shop req item).argmin rank,
    ((∃ v ∈ candidateVariants ilike shop req item, Buyable py th shop req item v) → Buyable py th shop req item c.1) ∧
      ¬Raises py item c.1

end Claims

section Items
variable {py : Runtime} {ilike : String → String → Bool} {th : Thresholds} {shop : Shop} {req : BasketRequest} {item : BasketItem}
  {v : ProductVariant} {price : CurrentPrice}

theorem prefer_iff {a b : ProductVariant × CurrentPrice} : prefer a.2 b.2 = true ↔ rank a < rank b := by
  simp only [prefer, rank, Prod.Lex.toLex_lt_toLex]
  cases isDegraded a.2.priceType a.2.status <;> cases isDegraded b.2.priceType b.2.status <;> simp

theorem chosenFor_eq_argmin : chosenFor ilike th shop req item = (priced ilike th shop req item).argmin rank := by
  have hfold : ∀ (vs : List ProductVariant) (chosen : Option (ProductVariant × CurrentPrice)),
      vs.foldl (choose th shop req) chosen = (vs.filterMap fun v => (priceOf th shop req v).map (v, ·)).foldl
        (fun chosen c => match chosen with
          | none => some c
          | some b => if prefer c.2 b.2 then some c else some b) chosen := by
    intro vs
    induction vs with
    | nil => exact fun _ => rfl
    | cons v vs ih =>
      intro chosen
      rw [List.foldl_cons, ih, List.filterMap_cons]
      cases hprice : priceOf th shop req v with
      | none => simp only [choose, hprice, Option.map_none]
      | some price => simp only [choose, hprice, Option.map_some, List.foldl_cons]
  rw [chosenFor, hfold]
  refine Least.foldl_eq_argmin (fun _ => rfl) fun b a => ?_
  simp only [prefer_iff]

theorem mem_priced {c : ProductVariant × CurrentPrice} : c ∈ priced ilike th shop req item ↔
    c.1 ∈ candidateVariants ilike shop req item ∧ priceOf th shop req c.1 = some c.2 := by
  simp only [priced, List.mem_filterMap, Option.map_eq_some_iff]
  constructor
  · rintro ⟨v, hv, price, hprice, rfl⟩
    exact ⟨hv, hprice⟩
  · rintro ⟨hv, hprice⟩
    exact ⟨c.1, hv, c.2, hprice, rfl⟩

theorem computePackages_eq_none_iff {needed pantryAvailable q price : ℚ} :
    computePackages py needed pantryAvailable q price = none ↔ q ≤ 0 := by
  simp only [computePackages, decimalCeilDiv, Option.bind_eq_bind, Option.pure_def]
  split_ifs with h₁ h₂ <;> simp [h₁]

/-- A chosen variant gets a line if it is buyable, raises if its package is not positive, and is left otherwise. -/
theorem lineFor_cases (py : Runtime) (item : BasketItem) (hprice : priceOf th shop req v = some price) :
    (Buyable py th shop req item v ∧ ∃ line, lineFor py shop item v price = .ok (.inl line) ∧ line.item = item) ∨
    (Raises py item v ∧ lineFor py shop item v price = .error .packageQuantityNotPositive) ∨
    (¬Buyable py th shop req item v ∧ ¬Raises py item v ∧
      ∃ line, lineFor py shop item v price = .ok (.inr line) ∧ line.item = item) := by
  unfold lineFor Buyable Raises
  rw [hprice]
  cases hq : v.packageQuantity with
  | none => exact .inr (.inr ⟨by simp, by simp, _, rfl, rfl⟩)
  | some q =>
    cases hu : v.packageUnit with
    | none => exact .inr (.inr ⟨by simp, by simp, _, rfl, rfl⟩)
    | some u =>
      simp only [Option.mem_def, Option.some.injEq, exists_eq_left', Option.isSome_some, true_and]
      cases hconvert : convert py Dict.empty item.requiredQuantity item.unit u none with
      | error e => exact .inr (.inr ⟨by simp, by simp, _, rfl, rfl⟩)
      | ok needed =>
        by_cases hpos : q ≤ 0
        · refine .inr (.inl ⟨⟨hpos, needed, rfl⟩, ?_⟩)
          simp only [computePackages_eq_none_iff.mpr hpos]
        · refine .inl ⟨⟨not_le.mp hpos, needed, rfl⟩, ?_⟩
          obtain ⟨result, hresult⟩ := Option.ne_none_iff_exists'.mp
            fun h => hpos ((@computePackages_eq_none_iff py needed 0 q price.amount).mp h)
          exact ⟨_, by simp only [hresult]; rfl, rfl⟩

theorem resolveItem_of_chosen (h : chosenFor ilike th shop req item = some (v, price)) :
    resolveItem py ilike th shop req item = lineFor py shop item v price := by
  unfold resolveItem
  rw [h]
  split
  · next hnil =>
    rw [chosenFor, hnil] at h
    cases h
  · rfl

theorem resolveItem_of_none (h : chosenFor ilike th shop req item = none) :
    ∃ line, resolveItem py ilike th shop req item = .ok (.inr line) ∧ line.item = item := by
  unfold resolveItem
  rw [h]
  split
  · exact ⟨_, rfl, rfl⟩
  · exact ⟨_, rfl, rfl⟩

theorem resolveItem_iff : (∃ e, resolveItem py ilike th shop req item = .ok e ∧ e.item = item ∧
      ∀ line, e = .inr line → ∀ v ∈ candidateVariants ilike shop req item, ¬Buyable py th shop req item v) ↔
    Settled py ilike th shop req item := by
  unfold Settled
  rw [← chosenFor_eq_argmin]
  cases hchosen : chosenFor ilike th shop req item with
  | none =>
    obtain ⟨line, hline, hitem⟩ := @resolveItem_of_none py _ _ _ _ _ hchosen
    refine iff_of_true ⟨_, hline, hitem, fun _ _ v hv hbuyable => ?_⟩ (by simp)
    obtain ⟨price, hprice⟩ := Option.isSome_iff_exists.mp hbuyable.1
    rw [chosenFor_eq_argmin, List.argmin_eq_none] at hchosen
    have hmem := @mem_priced ilike th shop req item (v, price) |>.mpr ⟨hv, hprice⟩
    rw [hchosen] at hmem
    cases hmem
  | some c =>
    obtain ⟨v, price⟩ := c
    obtain ⟨-, hprice⟩ := mem_priced.mp (List.argmin_mem (chosenFor_eq_argmin.symm.trans hchosen))
    rw [resolveItem_of_chosen hchosen]
    simp only [Option.mem_def, Option.some.injEq, forall_eq']
    rcases lineFor_cases py item hprice with ⟨hbuyable, line, hline, hitem⟩ | ⟨hraises, hline⟩ | ⟨hno, hnot, line, hline, hitem⟩
    · refine iff_of_true ⟨_, hline, hitem, fun _ h => by cases h⟩ ⟨fun _ => hbuyable, ?_⟩
      rintro ⟨q, hq, u, -, hneg, -⟩
      obtain ⟨-, q', hq', u', -, hpos, -⟩ := hbuyable
      obtain rfl := Option.some.inj (hq.symm.trans hq')
      exact absurd hpos (not_lt.mpr hneg)
    · refine iff_of_false ?_ fun h => h.2 hraises
      rintro ⟨e, he, -⟩
      cases hline.symm.trans he
    · constructor
      · rintro ⟨e, he, -, hunresolved⟩
        obtain rfl := Except.ok.inj (hline.symm.trans he)
        refine ⟨?_, hnot⟩
        rintro ⟨v', hv', hbuyable⟩
        exact absurd hbuyable (hunresolved line rfl v' hv')
      · rintro ⟨hbest, -⟩
        exact ⟨_, hline, hitem, fun _ _ v' hv' hbuyable => hno (hbest ⟨v', hv', hbuyable⟩)⟩

theorem resolveItem_item {e : Entry} (h : resolveItem py ilike th shop req item = .ok e) : e.item = item := by
  cases hchosen : chosenFor ilike th shop req item with
  | none =>
    obtain ⟨line, hline, hitem⟩ := @resolveItem_of_none py _ _ _ _ _ hchosen
    obtain rfl := Except.ok.inj (hline.symm.trans h)
    exact hitem
  | some c =>
    obtain ⟨-, hprice⟩ := mem_priced.mp (List.argmin_mem (chosenFor_eq_argmin.symm.trans hchosen))
    rw [resolveItem_of_chosen hchosen] at h
    rcases lineFor_cases py item hprice with ⟨-, line, hline, hitem⟩ | ⟨-, hline⟩ | ⟨-, -, line, hline, hitem⟩
    · obtain rfl := Except.ok.inj (hline.symm.trans h)
      exact hitem
    · cases hline.symm.trans h
    · obtain rfl := Except.ok.inj (hline.symm.trans h)
      exact hitem

theorem mem_unresolved {entries : List Entry} {line : UnresolvedLine} :
    line ∈ (resolutionOf req entries).unresolved ↔ Sum.inr line ∈ entries := by
  simp [resolutionOf, List.mem_filterMap]

/-- A basket resolves as it should exactly if each of its items is settled. -/
theorem resolves_iff : Resolves py ilike th shop req ↔ ∀ item ∈ req.items, Settled py ilike th shop req item := by
  have hresolve : ∀ r, resolve py ilike th shop req = .ok r ↔
      ∃ entries, req.items.mapM (resolveItem py ilike th shop req) = .ok entries ∧ resolutionOf req entries = r := by
    intro r
    rw [resolve, Runs.bind_eq_ok]
    exact exists_congr fun entries => and_congr_right fun _ => ⟨Except.ok.inj, congrArg Except.ok⟩
  constructor
  · rintro ⟨entries, hok, -, hunresolved⟩ item hitem
    obtain ⟨found, hfound, hsame⟩ := (hresolve _).mp hok
    obtain ⟨e, hmem, he⟩ := (Runs.exists_of_forall₂ (Runs.forall₂_of_mapM_eq_ok hfound)).1 item hitem
    refine resolveItem_iff.mp ⟨e, he, resolveItem_item he, ?_⟩
    rintro line rfl
    have hline : Sum.inr line ∈ entries := by
      rw [← @mem_unresolved req, ← hsame]
      exact mem_unresolved.mpr hmem
    obtain rfl : line.item = item := resolveItem_item he
    exact hunresolved line hline
  · intro hsettled
    obtain ⟨entries, hentries⟩ := Runs.exists_mapM_iff.mpr fun item hitem =>
      (resolveItem_iff.mpr (hsettled item hitem)).imp fun _ h => h.1
    have hforall := Runs.forall₂_of_mapM_eq_ok hentries
    refine ⟨entries, (hresolve _).mpr ⟨entries, hentries, rfl⟩, ?_, fun line hline => ?_⟩
    · have hitems := @Runs.map_eq_map_of_forall₂ _ _ _ _ id Entry.item _ _ hforall fun _ _ h => resolveItem_item h
      rw [hitems, List.map_id]
    · obtain ⟨item, hitem, he⟩ := (Runs.exists_of_forall₂ hforall).2 _ hline
      obtain ⟨e, he', -, hno⟩ := resolveItem_iff.mpr (hsettled item hitem)
      obtain rfl : line.item = item := resolveItem_item he
      obtain rfl := Except.ok.inj (he.symm.trans he')
      exact hno line rfl

end Items

/-! ### Two packs of rice -/

/-- A national price of a variant. -/
def shelfFact (variantId : Int) : PriceFact := { (milk 2 10 1).candidate.fact with productVariantId := variantId }

theorem shelfFact_fits {variantId : Int} : (shelfFact variantId).fits = true := milk_fits

def shelfRow (id : ℕ) (variantId : Int) : PriceObservation where
  toPriceFact := (shelfFact variantId).store
  id := id
  stagingOnly := false
  sourceId := none
  importedAt := 10
  validFrom := 10
  validUntil := none
  confidenceScore := 1
  rawCaptureId := none
  crawlRunId := none
  verificationStatus := .unverified
  rolledBackAt := none
  rolledBackBy := none
  closedByRunId := none
  columns := PriceFact.store_stored shelfFact_fits

/-- Rice without a declared package, and rice in 500 g at the same price. -/
def riceShop : Shop where
  db := { observations := [shelfRow 1 1, shelfRow 2 2] }
  variants :=
    [{ id := 1, publicId := "v1", productId := some 5, retailerId := 1, displayName := "Arroz" },
     { id := 2, publicId := "v2", productId := some 5, retailerId := 1, displayName := "Arroz redondo", packageQuantity := some 500,
       packageUnit := some "g" }]
  products := [{ id := 5, publicId := "p5", name := "Arroz" }]

def riceBasket : BasketRequest where
  retailerId := 1
  storeId := none
  retailerPublicId := "r1"
  storePublicId := none
  items := [{ requiredQuantity := 600, unit := "g", productId := some "p5" }]
  asOf := 20

/-- The rice without a package is chosen, and the other one is not looked at. -/
theorem not_resolves_riceShop : ¬Resolves (Runtime.replay []) (fun _ _ => false) {} riceShop riceBasket := by
  rintro ⟨entries, hok, hitems, hunresolved⟩
  have hlines : (resolve (Runtime.replay []) (fun _ _ => false) {} riceShop riceBasket).toOption.any (·.lines.isEmpty) = true := by
    decide +kernel
  rw [hok] at hlines
  obtain ⟨e, rfl⟩ : ∃ e, entries = [e] := List.length_eq_one_iff.mp (by simpa [riceBasket] using congrArg List.length hitems)
  cases e with
  | inl line => simp [Except.toOption, resolutionOf] at hlines
  | inr line =>
    have hitem : line.item = { requiredQuantity := 600, unit := "g", productId := some "p5" } := (List.cons.inj hitems).1
    refine hunresolved line List.mem_cons_self riceShop.variants[1] ?_ ?_
    · rw [hitem]
      decide +kernel
    · rw [hitem]
      refine ⟨by decide +kernel, 500, rfl, "g", rfl, by norm_num, 600, ?_⟩
      decide +kernel

end CestaPlan.Basket
