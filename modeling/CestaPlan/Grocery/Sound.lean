import CestaPlan.Catalog.Entries
import CestaPlan.Catalog.Provenance
import CestaPlan.Grocery.Lines

/-! When a line of a grocery list is sound, and when the generation of the plan writes sound lines. -/

namespace CestaPlan.Grocery
open Engine Catalog Updates

/-- The unit of the quantities of a line, and the ingredient by whose factors they convert. -/
structure Measure where
  unit : String
  canonicalName : String

/-- So many packages, in the unit of the pending quantity, are no less than it. -/
def Covers (py : Runtime) (factors : Factors) (m : Measure) (packages : Nat) (quantity : ℚ) (unit : String)
    (pending : ℚ) : Prop :=
  ∃ bought, convert py factors (packages * quantity) unit m.unit (some m.canonicalName) = .ok bought ∧ pending ≤ bought

/-- The price of the line is one of its product in the chain; without a price there is no cost either; and the packages
    that are selected cover what is pending, at the price that the line refers to. -/
structure Sound (py : Runtime) (factors : Factors) (retailerId : Option Nat) (prices : List ProductPrice) (m : Measure)
    (item : GroceryListItem) : Prop where
  price : ∀ id, item.priceProductPriceId = some id →
    ∃ price ∈ prices, price.id = id ∧ item.productId = some price.productId ∧ retailerId = some price.retailerId
  missing : item.priceStatus = .missing → item.unitPrice = none ∧ item.totalCost.getD 0 = 0
  covers : ∀ n, item.packagesSelected = some n → n ≠ 0 → ∃ quantity unit, item.packageQuantity = some quantity ∧
    item.packageUnit = some unit ∧ Covers py factors m n quantity unit item.pendingQuantity
  cost : ∀ n, item.packagesSelected = some n → n ≠ 0 →
    ∃ price ∈ prices, item.priceProductPriceId = some price.id ∧ item.totalCost = some (price.amount * n)

/-- The prices as their columns keep them. -/
structure Columns (prices : List ProductPrice) : Prop where
  ids : (prices.map (·.id)).Nodup
  amount : ∀ price ∈ prices, Numeric.roundScale 4 price.amount = price.amount
  packageQuantity : ∀ price ∈ prices, Numeric.roundScale 4 price.packageQuantity = price.packageQuantity

/-! ### Decimals in columns -/

section Decimals
variable {py : Runtime} {x y : ℚ}

theorem exists_int_of_stored (h : Numeric.roundScale 4 x = x) : ∃ k : ℤ, x = k / 10 ^ 4 := by
  obtain ⟨k, hk⟩ := Numeric.roundScale_eq_int 4 x
  exact ⟨k, h.symm.trans hk⟩

theorem abs_lt_of_fits {scale : ℕ} (h : fitsColumn scale x = true) : |x| < 10 ^ 8 + 1 := by
  have hcolumn : |Numeric.roundScale scale x| < 10 ^ 8 := of_decide_eq_true h
  have hnear := Numeric.abs_roundScale_sub_le scale x
  have hhalf : (1 : ℚ) / 2 / 10 ^ scale ≤ 1 / 2 := div_le_self (by norm_num) (one_le_pow₀ (by norm_num))
  have hsplit : |x| ≤ |Numeric.roundScale scale x| + |Numeric.roundScale scale x - x| := by
    rw [abs_sub_comm]
    have := abs_add_le (Numeric.roundScale scale x) (x - Numeric.roundScale scale x)
    rwa [add_sub_cancel] at this
  linarith

theorem stored_mul (hpy : py.Precise) (hxy : Numeric.roundScale 4 (x * y) = x * y)
    (hfits : fitsColumn 4 (py.mul x y) = true) : Numeric.roundScale 4 (py.mul x y) = x * y := by
  obtain ⟨k, hk⟩ := exists_int_of_stored hxy
  have herr : |py.mul x y - x * y| ≤ |x * y| / 10 ^ 27 := hpy (x * y)
  have hlt := abs_lt_of_fits hfits
  have hsplit := abs_sub_abs_le_abs_sub (x * y) (py.mul x y)
  rw [abs_sub_comm] at hsplit
  have hbound : |x * y| ≤ 2 * 10 ^ 8 := by linarith
  rw [hk] at herr hbound ⊢
  refine Numeric.roundScale_eq_of_abs_sub_lt (herr.trans_lt ?_)
  linarith

theorem stored_natCast_mul (n : ℕ) (h : Numeric.roundScale 4 x = x) : Numeric.roundScale 4 (x * n) = x * n := by
  obtain ⟨k, hk⟩ := exists_int_of_stored h
  have hmul : x * n = ((k * n : ℤ) : ℚ) / 10 ^ 4 := by
    rw [hk]
    push_cast
    ring
  rw [hmul, Numeric.roundScale_of_int]

/-- The packages that are computed for a quantity cover it, as the columns keep both: the quotient is off by less than
    its last digit. -/
theorem pending_le_of_ceil (hpy : py.Precise) {pending q : ℚ} {n : ℕ} (hq : Numeric.roundScale 4 q = q)
    (hfits : fitsColumn 4 pending = true) (hn : decimalCeilDiv py (max (py.sub pending 0) 0) q = some n) (hpos : n ≠ 0) :
    Numeric.roundScale 4 pending ≤ q * n := by
  unfold decimalCeilDiv at hn
  split at hn
  · cases hn
  next hq0 =>
  split at hn
  · exact absurd (Option.some.inj hn).symm hpos
  next hp0 =>
  have hq0 : 0 < q := not_le.mp hq0
  have hsub : 0 < py.sub pending 0 := by
    have := not_le.mp hp0
    rcases lt_max_iff.mp this with h | h
    · exact h
    · exact absurd h (lt_irrefl _)
  rw [max_eq_left hsub.le] at hn
  have hceil : py.div (py.sub pending 0) q ≤ n := by
    rw [← Option.some.inj hn]
    exact (Int.le_ceil _).trans (by exact_mod_cast Int.self_le_toNat _)
  have hround : |py.sub pending 0 - pending| ≤ |pending| / 10 ^ 27 := by
    rw [Runtime.sub, sub_zero]
    exact hpy pending
  have hquot : |py.div (py.sub pending 0) q - py.sub pending 0 / q| ≤ py.sub pending 0 / q / 10 ^ 27 := by
    have h := hpy (py.sub pending 0 / q)
    rwa [abs_of_pos (div_pos hsub hq0)] at h
  have hbought : py.sub pending 0 - py.sub pending 0 / 10 ^ 27 ≤ q * n := by
    have hle : py.sub pending 0 / q - py.sub pending 0 / q / 10 ^ 27 ≤ n := by
      have := (abs_le.mp hquot).1
      linarith
    calc py.sub pending 0 - py.sub pending 0 / 10 ^ 27
        = q * (py.sub pending 0 / q - py.sub pending 0 / q / 10 ^ 27) := by field_simp
      _ ≤ q * n := mul_le_mul_of_nonneg_left hle hq0.le
  have hlt := abs_lt_of_fits hfits
  obtain ⟨hlo, hhi⟩ := abs_le.mp hround
  have hself := neg_abs_le pending
  have hself' := le_abs_self pending
  obtain ⟨k, hk⟩ := exists_int_of_stored (stored_natCast_mul n hq)
  rw [hk] at hbought ⊢
  refine Numeric.roundScale_le_of_lt ?_
  linarith

end Decimals

/-! ### What a flush keeps -/

section Flush
variable {item : GroceryListItem}

theorem stored_stored : item.stored.stored = item.stored := by
  cases item
  simp only [GroceryListItem.stored, Numeric.roundScale_roundScale, Option.map_map, Function.comp_def]

theorem fits_pendingQuantity (h : item.fits = true) : fitsColumn 4 item.pendingQuantity = true := by
  simp only [GroceryListItem.fits, Bool.and_eq_true] at h
  exact h.1.1.1.1.1.1.2

theorem fits_totalCost (h : item.fits = true) {cost : ℚ} (hcost : item.totalCost = some cost) :
    fitsColumn 4 cost = true := by
  simp only [GroceryListItem.fits, Bool.and_eq_true, hcost] at h
  exact h.2

end Flush

/-! ### The price that a generated line keeps -/

section Resolve
variable {settings : Settings} {shop : Shop} {latest : Dict Nat ProductPrice} {rows : List (Ingredient × Product)}
  {line : GroceryLineDTO}

/-- The latest price of the product of the line, or else of the first mapped product with its format. -/
def keptPrice (latest : Dict Nat ProductPrice) (rows : List (Ingredient × Product)) (line : GroceryLineDTO)
    (productId : Nat) : Option ProductPrice :=
  (latest.get? productId).or do
    let quantity ← line.packageQuantity
    let unit ← line.packageUnit
    rows.findSome? (formatPriceOf latest line.canonicalName unit quantity)

theorem resolve_eq (h : OfTable shop latest) {row : Ingredient × Product} (hrow : row ∈ rows)
    (hline : line.productId = some (toString row.2.id)) :
    (rows.foldl (LineResolver.add latest) {}).resolve line =
      ((keptPrice latest rows line row.2.id).map ProductPrice.provenance).getD
        { productId := some row.2.id, priceId := none, unitPrice := none } := by
  have hproduct : line.productId.bind String.toNat? = some row.2.id := by
    rw [hline]
    exact Nat.toNat?_repr row.2.id
  unfold LineResolver.resolve keptPrice
  simp only [hproduct, Option.bind_some, resolver_byProduct h, findSome?_productPriceOf hrow rfl]
  cases latest.get? row.2.id with
  | some price => rfl
  | none =>
    cases line.packageQuantity with
    | none => rfl
    | some quantity =>
      cases line.packageUnit with
      | none => rfl
      | some unit =>
        simp only [Option.bind_eq_bind, Option.bind_some, resolver_byPackage h, Option.map_none, Option.none_or]

theorem resolve_of_none {resolver : LineResolver} (hproduct : line.productId = none)
    (hquantity : line.packageQuantity = none) :
    resolver.resolve line = { productId := none, priceId := none, unitPrice := none } := by
  unfold LineResolver.resolve
  rw [hproduct, hquantity]
  rfl

theorem keptPrice_mem {productId : Nat} {price : ProductPrice} (h : keptPrice latest rows line productId = some price) :
    ∃ id, latest.get? id = some price := by
  unfold keptPrice at h
  rcases Option.or_eq_some_iff.mp h with h | ⟨-, h⟩
  · exact ⟨productId, h⟩
  · obtain ⟨quantity, -, h⟩ := Option.bind_eq_some_iff.mp h
    obtain ⟨unit, -, h⟩ := Option.bind_eq_some_iff.mp h
    exact (formatPriceOf_mem h).1

theorem latestPrices_retailer {retailerId : Option Nat} {productId : Nat} {price : ProductPrice}
    (h : (latestPrices settings shop retailerId).get? productId = some price) :
    price ∈ shop.prices ∧ retailerId = some price.retailerId := by
  cases retailerId with
  | none => cases h
  | some retailerId =>
    obtain ⟨hmem, hchain⟩ := List.mem_filter.mp (firstPerProduct_mem h).1
    exact ⟨hmem, congrArg some (of_decide_eq_true (Bool.and_eq_true_iff.mp hchain).1).symm⟩

end Resolve

/-! ### The generated lines -/

/-- The price that a line keeps is the one that it was charged: that of the product that its entry goes under, or, where
    that product has no price of the chain, of the first mapped product with the format. -/
def KeepsCharge (latest : Dict Nat ProductPrice) (rows : List (Ingredient × Product)) (line : GroceryLineDTO) : Prop :=
  ∃ productId price, line.productId = some (toString productId) ∧ keptPrice latest rows line productId = some price ∧
    line.packagePrice = some price.amount

/-- The line is added for a key of the demand of the plan's meals, whose quantities are in this unit. -/
def Measured (py : Runtime) (inp : PlanInput) (r : PlanResult) (line : GroceryLineDTO) (m : Measure) : Prop :=
  ∃ recipes key lineMeta, inp.Assigns py recipes ∧ r = inp.buildResult py recipes (inp.provisionOf py recipes) ∧
    (Provisioner.demandOf py (inp.provisioner py) (buildMeals [] inp.slots recipes)).lineMeta.get? key = some lineMeta ∧
    line ∈ (Provisioner.addLine py (inp.provisioner py) (buildMeals [] inp.slots recipes)
      (Provisioner.demandOf py (inp.provisioner py) (buildMeals [] inp.slots recipes)) {} key).groceryLines ∧
    m = { unit := lineMeta.targetUnit, canonicalName := lineMeta.canonicalName }

/-- What makes the row of a generated line sound: the charge is that of the price that it keeps, its packages are of the
    unit in which they were counted (or enough of them all the same), and without a charge it keeps no price of a unit. -/
structure WellCharged (py : Runtime) (factors : Factors) (latest : Dict Nat ProductPrice)
    (rows : List (Ingredient × Product)) (m : Measure) (line : GroceryLineDTO) : Prop where
  charge : line.packagesCount ≠ 0 → KeepsCharge latest rows line
  unit : ∀ quantity unit, line.packagesCount ≠ 0 → line.packageQuantity = some quantity → line.packageUnit = some unit →
    normUnit py unit = normUnit py m.unit ∨
      Covers py factors m line.packagesCount quantity unit (Numeric.roundScale 4 line.pendingQuantity)
  uncharged : ∀ productId price, line.packagePrice = none → line.productId = some (toString productId) →
    latest.get? productId = some price → price.unitPrice = none

section Generated
variable {py : Runtime} {settings : Settings} {shop : Shop} {inp : PlanInput} {r : PlanResult} {line : GroceryLineDTO}
  {m : Measure} {retailerId : Option Nat} {scan : List IngredientProductMapping}

/-- Every line of a plan is measured. -/
theorem exists_measured (h : generatePlan py inp = .completed r) (hline : line ∈ r.groceryLines) :
    ∃ m, Measured py inp r line m := by
  rcases generatePlan_completed_iff.mp h with ⟨-, rfl⟩ | ⟨-, recipes, hassigns, -, rfl⟩
  · cases hline
  · obtain ⟨key, hadded⟩ := Provisioner.exists_addLine hline
    obtain ⟨lineMeta, hmeta, -⟩ := Provisioner.lineOf_of_addLine hadded
    exact ⟨_, recipes, key, lineMeta, hassigns, rfl, hmeta, hadded, rfl⟩

/-- What is known of a line by itself: it has no product, or one of an entry of the chain's catalogue; and it has no
    packages, or those of a price of the chain. -/
inductive LineFacts (py : Runtime) (settings : Settings) (shop : Shop) (rows : List (Ingredient × Product)) :
    Option Nat → GroceryLineDTO → Prop
  | away (retailerId : Option Nat) (line : GroceryLineDTO) (hproduct : line.productId = none)
      (hquantity : line.packageQuantity = none) (hcount : line.packagesCount = 0) (hsubtotal : line.subtotal = 0) :
      LineFacts py settings shop rows retailerId line
  | unpriced (chain : Nat) (line : GroceryLineDTO) (row : Ingredient × Product) (hrow : row ∈ rows)
      (hproduct : line.productId = some (toString row.2.id)) (hquantity : line.packageQuantity = none)
      (hprice : line.packagePrice = none) (hcount : line.packagesCount = 0) (hsubtotal : line.subtotal = 0) :
      LineFacts py settings shop rows (some chain) line
  | priced (chain : Nat) (line : GroceryLineDTO) (row : Ingredient × Product) (hrow : row ∈ rows)
      (hproduct : line.productId = some (toString row.2.id)) (price : ProductPrice) (hmem : price ∈ shop.prices)
      (hquantity : line.packageQuantity = some price.packageQuantity) (hunit : line.packageUnit = some price.packageUnit)
      (hprice : line.packagePrice = some price.amount)
      (hcount : decimalCeilDiv py (max (py.sub line.pendingQuantity 0) 0) price.packageQuantity = some line.packagesCount)
      (hsubtotal : line.subtotal = py.mul line.packagesCount price.amount)
      (hstatus : priceStatus line ≠ .missing) : LineFacts py settings shop rows (some chain) line

theorem lineFacts (hscan : scan.Perm shop.mappings) (hcatalog : inp.catalog = buildCatalog settings shop retailerId)
    (hm : Measured py inp r line m) : LineFacts py settings shop (resolverRows shop scan) retailerId line := by
  obtain ⟨recipes, key, lineMeta, -, -, hmeta, hadded, -⟩ := hm
  obtain ⟨lineMeta', hmeta', hof⟩ := Provisioner.lineOf_of_addLine hadded
  obtain rfl : lineMeta = lineMeta' := Option.some.inj (hmeta.symm.trans hmeta')
  -- The product of the key is an entry of the catalogue, so there is a chain.
  have hentry : ∀ product, lineMeta.product = some product → product ∈ buildCatalog settings shop retailerId := by
    intro product hproduct
    obtain ⟨ing, hmatch⟩ := Provisioner.matched_of_lineMeta hmeta hproduct
    exact hcatalog ▸ mem_of_matchIngredient hmatch
  have hchain : ∀ product, lineMeta.product = some product → ∃ chain, retailerId = some chain := by
    intro product hproduct
    refine Option.ne_none_iff_exists'.mp fun hnone => ?_
    have h := hentry product hproduct
    rw [hnone, buildCatalog_none] at h
    cases h
  cases hof with
  | unpriced needed pantryUsed pending =>
    cases hproduct : lineMeta.product with
    | none => exact .away _ _ (by rw [Provisioner.unpricedLine, hproduct]; rfl) rfl rfl rfl
    | some product =>
      obtain ⟨row, hrow, hid⟩ := buildCatalog_mem hscan (hentry product hproduct)
      obtain ⟨chain, rfl⟩ := hchain product hproduct
      refine .unpriced chain _ row hrow ?_ rfl rfl rfl rfl
      rw [Provisioner.unpricedLine, hproduct, ← hid]
      rfl
  | priced product needed pantryUsed pending choice hproduct hchoice =>
    obtain ⟨row, hrow, hid⟩ := buildCatalog_mem hscan (hentry product hproduct)
    obtain ⟨chain, rfl⟩ := hchain product hproduct
    obtain ⟨hopt, hresult⟩ := choosePackage_mem hchoice
    obtain ⟨sold, price, hprice, heq⟩ := buildCatalog_option (hentry product hproduct) hopt
    obtain ⟨n, hn, hpure⟩ := Option.bind_eq_some_iff.mp hresult
    have hresult := Option.some.inj hpure
    have hpackages : choice.result.packages = n := hresult ▸ rfl
    refine .priced chain _ row hrow (congrArg some hid) price (latestPrices_retailer hprice).1 ?_ ?_ ?_ ?_ ?_ ?_
    · exact congrArg some (heq ▸ rfl)
    · exact congrArg some (heq ▸ rfl)
    · exact congrArg some (heq ▸ rfl)
    · rw [Provisioner.pricedLine, hpackages, ← hn, heq]
      rfl
    · rw [Provisioner.pricedLine, hpackages, ← hresult, heq]
      rfl
    · have hknown := choosePackage_priceKnown hchoice
      have hhas : choice.option.hasPrice = true := heq ▸ rfl
      rw [hhas, Bool.true_and] at hknown
      rw [priceStatus, Provisioner.pricedLine, hknown]
      cases choice.expired <;> simp

theorem resolve_of_row (hids : (shop.prices.map (·.id)).Nodup) {chain : Nat} {row : Ingredient × Product}
    (hrow : row ∈ resolverRows shop scan) (hproduct : line.productId = some (toString row.2.id)) :
    (lineResolver settings shop scan (some chain)).resolve line =
      ((keptPrice (latestPrices settings shop (some chain)) (resolverRows shop scan) line row.2.id).map
        ProductPrice.provenance).getD { productId := some row.2.id, priceId := none, unitPrice := none } := by
  have htable : OfTable shop (latestPriceByProduct settings shop (some chain)) := ofTable hids (some chain)
  exact resolve_eq htable hrow hproduct

/-- The price that is kept, if any, is one of the chain, with its product. -/
def ResolvedIn (shop : Shop) (retailerId : Option Nat) (kept : Provenance) : Prop :=
  ∀ id, kept.priceId = some id →
    ∃ price ∈ shop.prices, price.id = id ∧ kept.productId = some price.productId ∧ retailerId = some price.retailerId

theorem resolvedIn_of_row (hids : (shop.prices.map (·.id)).Nodup) {chain : Nat} {row : Ingredient × Product}
    (hrow : row ∈ resolverRows shop scan) (hproduct : line.productId = some (toString row.2.id)) :
    ResolvedIn shop (some chain) ((lineResolver settings shop scan (some chain)).resolve line) := by
  rw [resolve_of_row hids hrow hproduct]
  intro id hid
  cases hprice : keptPrice (latestPrices settings shop (some chain)) (resolverRows shop scan) line row.2.id with
  | none =>
    rw [hprice] at hid
    cases hid
  | some price =>
    rw [hprice] at hid
    obtain ⟨productId, hlatest⟩ := keptPrice_mem hprice
    obtain ⟨hmem, hretailer⟩ := latestPrices_retailer hlatest
    exact ⟨price, hmem, Option.some.inj hid, rfl, hretailer⟩

theorem resolvedIn (hids : (shop.prices.map (·.id)).Nodup)
    (h : LineFacts py settings shop (resolverRows shop scan) retailerId line) :
    ResolvedIn shop retailerId ((lineResolver settings shop scan retailerId).resolve line) := by
  cases h with
  | away _ _ hproduct hquantity =>
    rw [resolve_of_none hproduct hquantity]
    intro id hid
    cases hid
  | unpriced _ _ row hrow hproduct => exact resolvedIn_of_row hids hrow hproduct
  | priced _ _ row hrow hproduct => exact resolvedIn_of_row hids hrow hproduct

theorem unitPrice_of_unpriced (hids : (shop.prices.map (·.id)).Nodup) {chain : Nat} {row : Ingredient × Product}
    (hrow : row ∈ resolverRows shop scan) (hproduct : line.productId = some (toString row.2.id))
    (hquantity : line.packageQuantity = none)
    (hnone : ∀ price, (latestPrices settings shop (some chain)).get? row.2.id = some price → price.unitPrice = none) :
    ((lineResolver settings shop scan (some chain)).resolve line).unitPrice = none := by
  rw [resolve_of_row hids hrow hproduct]
  cases hprice : (latestPrices settings shop (some chain)).get? row.2.id with
  | none =>
    rw [keptPrice, hprice, hquantity]
    rfl
  | some price =>
    rw [keptPrice, hprice]
    exact hnone price hprice

theorem covers_of_unit {factors : Factors} {packages : ℕ} {quantity pending : ℚ} {unit : String}
    (hunit : normUnit py unit = normUnit py m.unit) (h : pending ≤ packages * quantity) :
    Covers py factors m packages quantity unit pending :=
  ⟨packages * quantity, by simp [convert, convertWithin, hunit], h⟩

theorem sound_generated (hpy : py.Precise) (hcolumns : Columns shop.prices) {factors : Factors}
    (hfacts : LineFacts py settings shop (resolverRows shop scan) retailerId line)
    (hcharged : WellCharged py factors (latestPrices settings shop retailerId) (resolverRows shop scan) m line)
    {publicId : Nat} {item : GroceryListItem}
    (hflush : flush (generatedItem (lineResolver settings shop scan retailerId) line publicId) = .ok item) :
    Sound py factors retailerId shop.prices m item := by
  obtain ⟨hfits, rfl⟩ := flush_eq_ok.mp hflush
  have hzero : Numeric.roundScale 4 0 = 0 := by simpa using @Numeric.roundScale_of_int 4 0
  refine ⟨resolvedIn hcolumns.ids hfacts, fun hstatus => ?_, fun n hn hpos => ?_, fun n hn hpos => ?_⟩
  · have hfree : ((lineResolver settings shop scan retailerId).resolve line).unitPrice = none ∧ line.subtotal = 0 := by
      cases hfacts with
      | away _ _ hproduct hquantity hcount hsubtotal => exact ⟨by rw [resolve_of_none hproduct hquantity], hsubtotal⟩
      | unpriced _ _ row hrow hproduct hquantity hprice hcount hsubtotal =>
        exact ⟨unitPrice_of_unpriced hcolumns.ids hrow hproduct hquantity
          fun price => hcharged.uncharged _ price hprice hproduct, hsubtotal⟩
      | priced _ _ _ _ _ _ _ _ _ _ _ _ hne => exact absurd hstatus hne
    simp [GroceryListItem.stored, generatedItem, hfree, hzero]
  · obtain rfl : line.packagesCount = n := Option.some.inj hn
    cases hfacts with
    | away _ _ _ _ hcount => exact absurd hcount hpos
    | unpriced _ _ _ _ _ _ _ hcount => exact absurd hcount hpos
    | priced _ _ row hrow hproduct price hmem hquantity hunit hprice hcount =>
      have hkept := hcolumns.packageQuantity price hmem
      refine ⟨price.packageQuantity, price.packageUnit, ?_, hunit, ?_⟩
      · simp [GroceryListItem.stored, generatedItem, hquantity, hkept]
      · rcases hcharged.unit _ _ hpos hquantity hunit with hsame | hcovers
        · refine covers_of_unit hsame ?_
          rw [mul_comm]
          exact pending_le_of_ceil hpy hkept (fits_pendingQuantity hfits) hcount hpos
        · exact hcovers
  · obtain rfl : line.packagesCount = n := Option.some.inj hn
    cases hfacts with
    | away _ _ _ _ hcount => exact absurd hcount hpos
    | unpriced _ _ _ _ _ _ _ hcount => exact absurd hcount hpos
    | priced _ _ row hrow hproduct price hmem hquantity hunit hprice hcount hsubtotal =>
      obtain ⟨productId, kept, hid, hkept, hamount⟩ := hcharged.charge hpos
      obtain rfl : productId = row.2.id := Nat.repr_injective (Option.some.inj (hid.symm.trans hproduct))
      have hsame : price.amount = kept.amount := Option.some.inj (hprice.symm.trans hamount)
      obtain ⟨latestId, hlatest⟩ := keptPrice_mem hkept
      have hstored := stored_natCast_mul line.packagesCount (hcolumns.amount price hmem)
      rw [mul_comm] at hstored
      refine ⟨kept, (latestPrices_retailer hlatest).1, ?_, ?_⟩
      · show ((lineResolver settings shop scan _).resolve line).priceId = some kept.id
        rw [resolve_of_row hcolumns.ids hrow hproduct, hkept]
        rfl
      · have htotal := stored_mul hpy hstored (hsubtotal ▸ fits_totalCost hfits rfl)
        simp [GroceryListItem.stored, generatedItem, hsubtotal, htotal, ← hsame, mul_comm]

end Generated
end CestaPlan.Grocery
