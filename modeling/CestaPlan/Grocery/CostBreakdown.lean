import CestaPlan.Engine.Totals
import CestaPlan.Grocery.Lines
import CestaPlan.Library.DecimalContext

/-! What a line of a grocery list costs, and what of it is consumed (`services/shopping_semantics.py`), from its stored columns.

    The used quantity of a line is the whole need, while only the part that the pantry does not cover is bought. -/

namespace CestaPlan.Grocery
open Engine Numeric
open Catalog (LineResolver)

structure CostBreakdown where
  purchasedCost : Option ℚ
  consumedCost : Option ℚ
  leftoverValue : Option ℚ
deriving DecidableEq

section Definitions
variable (py : Runtime)

/-- `line_cost_breakdown`: cents are rounded half up. The digits of the columns leave room enough, so that no quantization raises. -/
def lineCostBreakdown (totalCost purchasedQuantity usedQuantity : Option ℚ) : CostBreakdown :=
  match totalCost with
  | none => { purchasedCost := none, consumedCost := none, leftoverValue := none }
  | some totalCost =>
    let purchased := roundScale 2 totalCost
    let consumed := match purchasedQuantity.filter (0 < ·), usedQuantity with
      | some purchasedQuantity, some usedQuantity => roundScale 2 (py.mul totalCost (py.div usedQuantity purchasedQuantity))
      | _, _ => purchased
    { purchasedCost := some purchased
      consumedCost := some consumed
      leftoverValue := some (roundScale 2 (py.sub purchased consumed)) }

/-- The breakdown of a stored line. -/
def GroceryListItem.costs (item : GroceryListItem) : CostBreakdown :=
  lineCostBreakdown py item.totalCost item.purchasedQuantity item.usedQuantity

/-- The cents that a quantity is worth, at what the line cost and bought. Nothing bought makes nothing worth anything. -/
def worth (item : GroceryListItem) (quantity : ℚ) : ℚ :=
  roundScale 2 (py.mul (item.totalCost.getD 0) (py.div quantity (item.purchasedQuantity.getD 0)))

/-- The figures of a line: what is consumed of it is what its pending quantity is worth, no less than nothing and no more than what was
    purchased, and with the leftover it adds up to the cost of the line in cents. -/
def AddsUp (item : GroceryListItem) (costs : CostBreakdown) : Prop :=
  ∃ purchased consumed leftover, costs = ⟨some purchased, some consumed, some leftover⟩ ∧
    0 ≤ consumed ∧ consumed ≤ purchased ∧ 0 ≤ leftover ∧ consumed + leftover = purchased ∧
      purchased = roundScale 2 (item.totalCost.getD 0) ∧ consumed = worth py item item.pendingQuantity

/-- What the pantry gives of the need adds no cent to what the pending quantity is worth. -/
def PantryAddsNothing (item : GroceryListItem) : Prop := worth py item (item.usedQuantity.getD 0) = worth py item item.pendingQuantity

end Definitions

/-! ### What is bought covers what is pending -/

section Covering
variable {py : Runtime} {pending quantity : ℚ} {n : ℤ}

theorem le_of_round_le {x y : ℚ} (hx : 0 ≤ x) (h : roundContext x ≤ y) : x * (1 - 1 / 10 ^ 27) ≤ y := by
  have hnear := (abs_le.mp (abs_roundContext_sub_le x)).1
  rw [abs_of_nonneg hx] at hnear
  norm_num [contextPrec] at hnear
  linarith

theorem le_packagesFor (hround : py.round = roundContext) (hpending : 0 < pending) (hquantity : 0 < quantity) :
    pending * (1 - 1 / 10 ^ 27) ^ 2 ≤ packagesFor py (max (py.sub pending 0) 0) quantity * quantity := by
  have hsub : py.sub pending 0 = roundContext pending := by rw [Runtime.sub, hround, sub_zero]
  have hpos : 0 < roundContext pending := roundContext_pos hpending
  have hfirst : pending * (1 - 1 / 10 ^ 27) ≤ roundContext pending := le_of_round_le hpending.le le_rfl
  have hceil : roundContext (roundContext pending / quantity) ≤ packagesFor py (max (py.sub pending 0) 0) quantity := by
    rw [hsub, max_eq_left hpos.le, packagesFor, if_neg (not_le.mpr hpos), Runtime.div, hround]
    have hle := Int.le_ceil (roundContext (roundContext pending / quantity))
    have hnat := Int.self_le_toNat ⌈roundContext (roundContext pending / quantity)⌉
    exact hle.trans (by exact_mod_cast hnat)
  have hsecond := le_of_round_le (div_nonneg hpos.le hquantity.le) hceil
  calc pending * (1 - 1 / 10 ^ 27) ^ 2 = pending * (1 - 1 / 10 ^ 27) * (1 - 1 / 10 ^ 27) := by ring
    _ ≤ roundContext pending * (1 - 1 / 10 ^ 27) := mul_le_mul_of_nonneg_right hfirst (by norm_num)
    _ = roundContext pending / quantity * (1 - 1 / 10 ^ 27) * quantity := by
        rw [div_mul_eq_mul_div, div_mul_cancel₀ _ hquantity.ne']
    _ ≤ _ := mul_le_mul_of_nonneg_right hsecond hquantity.le

theorem purchased_stored {k : ℕ} (hround : py.round = roundContext) (hn : 0 ≤ n)
    (hfits : |roundScale 4 (py.mul k (n / 10 ^ 4))| < 10 ^ 8) : roundScale 4 (py.mul k (n / 10 ^ 4)) = k * (n / 10 ^ 4) := by
  have hproduct : (k : ℚ) * (n / 10 ^ 4) = ((k * n : ℤ) : ℚ) / 10 ^ 4 := by push_cast; ring
  rw [Runtime.mul, hround, hproduct] at hfits ⊢
  by_cases hsmall : |(k * n : ℤ)| < 10 ^ contextPrec
  · rw [roundContext_of_int hsmall, roundScale_of_int]
  · -- What has more digits than the context does not fit into the column.
    rw [abs_of_nonneg (by positivity), not_lt] at hsmall
    have hlarge : (10 : ℚ) ^ (24 : ℤ) ≤ ((k * n : ℤ) : ℚ) / 10 ^ 4 := by
      rw [le_div_iff₀ (by positivity)]
      calc (10 : ℚ) ^ (24 : ℤ) * 10 ^ 4 = ((10 ^ contextPrec : ℤ) : ℚ) := by norm_num [contextPrec]
        _ ≤ ((k * n : ℤ) : ℚ) := by exact_mod_cast hsmall
    have hrounded := roundContext_mono hlarge
    rw [roundContext_pow] at hrounded
    have hstored : ((10 ^ 28 : ℤ) : ℚ) / 10 ^ 4 ≤ roundScale 4 (roundContext (((k * n : ℤ) : ℚ) / 10 ^ 4)) := by
      rw [← @roundScale_of_int 4]
      exact roundScale_mono (le_trans (by norm_num) hrounded)
    have hle := (hstored.trans (le_abs_self _)).trans_lt hfits
    norm_num at hle

theorem lt_of_two_roundings {bought : ℚ} (h : pending * (1 - 1 / 10 ^ 27) ^ 2 ≤ bought) (hbought : bought ≤ 10 ^ 8) :
    pending < bought + 1 / 2 / 10 ^ 4 := by
  have hfactor : (1 - 2 / 10 ^ 27 : ℚ) ≤ (1 - 1 / 10 ^ 27) ^ 2 := by norm_num
  by_contra hlarge
  rw [not_lt] at hlarge
  have hpos : 0 < pending ∨ pending ≤ 0 := lt_or_ge 0 pending
  rcases hpos with hpos | hneg
  · have hle := (mul_le_mul_of_nonneg_left hfactor hpos.le).trans h
    norm_num at hle hbought hlarge
    linarith
  · have hle : pending * 1 ≤ pending * (1 - 1 / 10 ^ 27) ^ 2 := mul_le_mul_of_nonpos_left (by norm_num) hneg
    norm_num at hlarge
    linarith

theorem pending_le_purchased {k : ℕ} (hround : py.round = roundContext) (hn : 0 ≤ n)
    (hcovers : pending * (1 - 1 / 10 ^ 27) ^ 2 ≤ k * (n / 10 ^ 4)) (hfits : |roundScale 4 (py.mul k (n / 10 ^ 4))| < 10 ^ 8) :
    roundScale 4 pending ≤ roundScale 4 (py.mul k (n / 10 ^ 4)) := by
  have hstored := purchased_stored hround hn hfits
  have hproduct : (k : ℚ) * (n / 10 ^ 4) = ((k * n : ℤ) : ℚ) / 10 ^ 4 := by push_cast; ring
  rw [hstored] at hfits ⊢
  have hlt := lt_of_two_roundings hcovers ((le_abs_self _).trans hfits.le)
  rw [hproduct] at hlt ⊢
  exact roundScale_le_of_lt hlt

end Covering

/-! ### The figures of a row -/

/-- What a row keeps of a line: either nothing was bought and nothing paid, or what was bought covers what was pending. -/
structure Bought (item : GroceryListItem) (total purchased used : ℚ) : Prop where
  totalCost : item.totalCost = some total
  purchasedQuantity : item.purchasedQuantity = some purchased
  usedQuantity : item.usedQuantity = some used
  total_stored : roundContext total = total
  total_lt : |total| < 10 ^ 8
  covers : purchased = 0 ∧ total = 0 ∨ 0 < purchased ∧ 0 ≤ item.pendingQuantity ∧ item.pendingQuantity ≤ purchased

section Rows
variable {py : Runtime} {item : GroceryListItem} {total purchased used quantity : ℚ}

theorem Bought.worth_eq (h : Bought item total purchased used) (quantity : ℚ) :
    worth py item quantity = roundScale 2 (py.mul total (py.div quantity purchased)) := by
  rw [worth, h.totalCost, h.purchasedQuantity]
  rfl

theorem Bought.worth_zero (h : Bought item total 0 used) (hround : py.round = roundContext) (quantity : ℚ) : worth py item quantity = 0 := by
  rw [h.worth_eq, Runtime.div, Runtime.mul, hround, div_zero, roundContext_zero, mul_zero, roundContext_zero, roundScale_zero]

theorem Bought.costs_eq (h : Bought item total purchased used) (hround : py.round = roundContext) : item.costs py =
    ⟨some (roundScale 2 total), some (worth py item used), some (roundScale 2 (py.sub (roundScale 2 total) (worth py item used)))⟩ := by
  unfold GroceryListItem.costs
  rw [h.totalCost, h.purchasedQuantity, h.usedQuantity]
  rcases h.covers with ⟨rfl, rfl⟩ | ⟨hpos, -, -⟩
  · rw [h.worth_zero hround]
    simp [lineCostBreakdown, roundScale_zero]
  · have hbought : (some purchased).filter (0 < ·) = some purchased := Option.filter_eq_some_iff.mpr ⟨rfl, decide_eq_true hpos⟩
    simp only [lineCostBreakdown, hbought, h.worth_eq]

/-- A share of the total lies between nothing and the total. -/
theorem Bought.share (h : Bought item total purchased used) (hround : py.round = roundContext) (hpurchased : 0 < purchased)
    (hquantity : 0 ≤ quantity) (hle : quantity ≤ purchased) :
    (0 ≤ total → 0 ≤ py.mul total (py.div quantity purchased) ∧ py.mul total (py.div quantity purchased) ≤ total) ∧
      (total ≤ 0 → total ≤ py.mul total (py.div quantity purchased) ∧ py.mul total (py.div quantity purchased) ≤ 0) := by
  have hratio : 0 ≤ py.div quantity purchased := by
    rw [Runtime.div, hround]
    exact roundContext_nonneg (div_nonneg hquantity hpurchased.le)
  have hone : py.div quantity purchased ≤ 1 := by
    have hmono := roundContext_mono ((div_le_one hpurchased).mpr hle)
    have hexact : roundContext 1 = 1 := by simpa using roundContext_pow 0
    rw [hexact] at hmono
    rwa [Runtime.div, hround]
  generalize py.div quantity purchased = ratio at hratio hone ⊢
  have hmono {x y : ℚ} (hxy : x ≤ y) : roundContext x ≤ roundContext y := roundContext_mono hxy
  rw [Runtime.mul, hround]
  refine ⟨fun htotal => ⟨roundContext_nonneg (mul_nonneg htotal hratio), ?_⟩, fun htotal => ⟨?_, ?_⟩⟩
  · calc roundContext (total * ratio) ≤ roundContext total := hmono (mul_le_of_le_one_right htotal hone)
      _ = total := h.total_stored
  · calc total = roundContext total := h.total_stored.symm
      _ ≤ roundContext (total * ratio) := hmono (by nlinarith)
  · calc roundContext (total * ratio) ≤ roundContext 0 := hmono (mul_nonpos_of_nonpos_of_nonneg htotal hratio)
      _ = 0 := roundContext_zero

/-- What the pending quantity is worth is no less than nothing and no more than what was paid, where that is not negative in cents. -/
theorem Bought.worth_pending (h : Bought item total purchased used) (hround : py.round = roundContext) (hpaid : 0 ≤ roundScale 2 total) :
    0 ≤ worth py item item.pendingQuantity ∧ worth py item item.pendingQuantity ≤ roundScale 2 total := by
  rcases h.covers with ⟨rfl, rfl⟩ | ⟨hpos, hpending, hle⟩
  · rw [h.worth_zero hround]
    exact ⟨le_rfl, hpaid⟩
  · obtain ⟨hgain, hloss⟩ := h.share hround hpos hpending hle
    rw [h.worth_eq]
    rcases le_total 0 total with htotal | htotal
    · exact ⟨roundScale_zero.symm.trans_le (roundScale_mono (hgain htotal).1), roundScale_mono (hgain htotal).2⟩
    · -- A cost of less than half a cent below nothing is none in cents, and so are its shares.
      have hlow := hpaid.trans (roundScale_mono (hloss htotal).1)
      have hhigh := (roundScale_mono (hloss htotal).2).trans_eq (@roundScale_zero 2)
      exact ⟨hlow, hhigh.trans hpaid⟩

theorem sub_cents (hround : py.round = roundContext) {x y : ℚ} (hy : 0 ≤ roundScale 2 y) (hle : roundScale 2 y ≤ roundScale 2 x)
    (hx : roundScale 2 x ≤ 10 ^ 8) : roundScale 2 (py.sub (roundScale 2 x) (roundScale 2 y)) = roundScale 2 x - roundScale 2 y := by
  obtain ⟨m, hm⟩ := roundScale_eq_int 2 x
  obtain ⟨n, hn⟩ := roundScale_eq_int 2 y
  have hdiff : roundScale 2 x - roundScale 2 y = ((m - n : ℤ) : ℚ) / 10 ^ 2 := by rw [hm, hn]; push_cast; ring
  have hnonneg : 0 ≤ ((m - n : ℤ) : ℚ) / 10 ^ 2 := hdiff ▸ sub_nonneg.mpr hle
  have hbound : ((m - n : ℤ) : ℚ) / 10 ^ 2 ≤ 10 ^ 8 := hdiff ▸ (sub_le_self _ hy).trans hx
  have hfits : |(m - n : ℤ)| < 10 ^ contextPrec := by
    have hlow : (0 : ℚ) ≤ ((m - n : ℤ) : ℚ) := by simpa using (le_div_iff₀ (by norm_num)).mp hnonneg
    have hhigh : ((m - n : ℤ) : ℚ) ≤ 10 ^ 10 := by
      have hle := (div_le_iff₀ (by norm_num)).mp hbound
      norm_num at hle ⊢
      exact hle
    have hlow' : 0 ≤ m - n := by exact_mod_cast hlow
    have hhigh' : m - n ≤ 10 ^ 10 := by exact_mod_cast hhigh
    rw [abs_of_nonneg hlow']
    exact hhigh'.trans_lt (by norm_num [contextPrec])
  rw [Runtime.sub, hround, hdiff, roundContext_of_int hfits, roundScale_of_int]

theorem Bought.addsUp_iff (h : Bought item total purchased used) (hround : py.round = roundContext) :
    AddsUp py item (item.costs py) ↔ 0 ≤ roundScale 2 total ∧ worth py item used = worth py item item.pendingQuantity := by
  rw [h.costs_eq hround]
  unfold AddsUp
  rw [h.totalCost]
  constructor
  · rintro ⟨_, _, _, ⟨⟩, hconsumed, hle, -, -, -, hworth⟩
    exact ⟨hconsumed.trans hle, hworth⟩
  · rintro ⟨hpaid, hworth⟩
    obtain ⟨hnonneg, hle⟩ := h.worth_pending hround hpaid
    have hlarge : roundScale 2 total ≤ 10 ^ 8 := by
      have hmono := @roundScale_mono 2 _ _ ((le_abs_self total).trans h.total_lt.le)
      have hexact : roundScale 2 (10 ^ 8) = 10 ^ 8 := by
        have hint := @roundScale_of_int 2 (10 ^ 10)
        norm_num at hint ⊢
        exact hint
      exact hmono.trans_eq hexact
    have hsub : roundScale 2 (py.sub (roundScale 2 total) (worth py item item.pendingQuantity)) =
        roundScale 2 total - worth py item item.pendingQuantity := sub_cents hround hnonneg hle hlarge
    rw [hworth, hsub]
    exact ⟨_, _, _, rfl, hnonneg, hle, sub_nonneg.mpr hle, by ring, rfl, rfl⟩

end Rows

/-! ### The rows of a plan -/

section Lines
variable {py : Runtime} {p : Provisioner} {meals : List MealAssignment} {line : GroceryLineDTO} {lineMeta : LineMeta}
  {resolver : LineResolver} {id : Nat} {item : GroceryListItem}

/-- The quantity of the package of a line has four decimals, as the column of a price keeps it. -/
def ColumnQuantity (line : GroceryLineDTO) : Prop := ∀ quantity, line.packageQuantity = some quantity → ∃ n : ℤ, quantity = n / 10 ^ 4

theorem resultFor_covers (hround : py.round = roundContext) {pending quantity price : ℚ} {n : ℤ} (hn : quantity = n / 10 ^ 4)
    (hquantity : 0 < quantity) (hfits : |roundScale 4 (resultFor py pending 0 quantity price).purchased| < 10 ^ 8) :
    roundScale 4 (resultFor py pending 0 quantity price).purchased = 0 ∧ roundScale 4 (resultFor py pending 0 quantity price).totalCost = 0 ∨
      0 < roundScale 4 (resultFor py pending 0 quantity price).purchased ∧ 0 ≤ roundScale 4 pending ∧
        roundScale 4 pending ≤ roundScale 4 (resultFor py pending 0 quantity price).purchased := by
  unfold resultFor at hfits ⊢
  dsimp only at hfits ⊢
  rcases le_or_gt pending 0 with hpending | hpending
  · have hrounded : py.sub pending 0 ≤ 0 := by
      rw [Runtime.sub, hround, sub_zero]
      exact (roundContext_mono hpending).trans_eq roundContext_zero
    have hnothing : packagesFor py (max (py.sub pending 0) 0) quantity = 0 := by
      rw [max_eq_right hrounded, packagesFor, if_pos le_rfl]
    have hzero (x : ℚ) : roundScale 4 (py.mul ((0 : ℕ) : ℚ) x) = 0 := by
      rw [Runtime.mul, hround, Nat.cast_zero, zero_mul, roundContext_zero, roundScale_zero]
    rw [hnothing]
    exact .inl ⟨hzero _, hzero _⟩
  · have hcovers := le_packagesFor hround hpending hquantity
    have hnonneg : 0 ≤ n := by
      rw [hn] at hquantity
      have hpos := (div_pos_iff_of_pos_right (show (0 : ℚ) < 10 ^ 4 by norm_num)).mp hquantity
      exact_mod_cast hpos.le
    rw [hn] at hfits hcovers ⊢
    have hheld : 0 < pending * (1 - 1 / 10 ^ 27) ^ 2 := mul_pos hpending (by norm_num)
    refine .inr ⟨?_, ?_, pending_le_purchased hround hnonneg hcovers hfits⟩
    · rw [purchased_stored hround hnonneg hfits]
      exact hheld.trans_le hcovers
    · exact roundScale_zero.symm.trans_le (roundScale_mono hpending.le)

theorem lineOf_covers (hround : py.round = roundContext) (hline : Provisioner.LineOf py p lineMeta line) (hcolumn : ColumnQuantity line)
    (hfits : |roundScale 4 line.purchasedQuantity| < 10 ^ 8) :
    roundScale 4 line.purchasedQuantity = 0 ∧ roundScale 4 line.subtotal = 0 ∨
      0 < roundScale 4 line.purchasedQuantity ∧ 0 ≤ roundScale 4 line.pendingQuantity ∧
        roundScale 4 line.pendingQuantity ≤ roundScale 4 line.purchasedQuantity := by
  cases hline with
  | unpriced needed pantryUsed pending => exact .inl ⟨roundScale_zero, roundScale_zero⟩
  | priced product needed pantryUsed pending choice hproduct hchoice =>
    obtain ⟨opt, -, hquantity, rfl⟩ := exists_choiceFor hchoice
    obtain ⟨n, hn⟩ := hcolumn opt.packageQuantity rfl
    exact resultFor_covers hround hn hquantity hfits

theorem bought_of_flush (hround : py.round = roundContext) (hline : line ∈ (p.provision py meals).groceryLines)
    (hcolumn : ColumnQuantity line) (hitem : flush (generatedItem resolver line id) = .ok item) :
    Bought item (roundScale 4 line.subtotal) (roundScale 4 line.purchasedQuantity) (roundScale 4 line.usedQuantity) := by
  obtain ⟨hfits, rfl⟩ := flush_eq_ok.mp hitem
  simp only [GroceryListItem.fits, generatedItem, fitsColumn, Option.all_some, Bool.and_eq_true, decide_eq_true_eq] at hfits
  obtain ⟨key, hadded⟩ := Provisioner.exists_addLine hline
  obtain ⟨lineMeta, -, hof⟩ := Provisioner.lineOf_of_addLine hadded
  have htotal : |roundScale 4 line.subtotal| < 10 ^ 8 := hfits.2
  have hpurchased : |roundScale 4 line.purchasedQuantity| < 10 ^ 8 := hfits.1.1.1.1.2
  exact ⟨rfl, rfl, rfl, roundContext_roundScale (by norm_num) htotal, htotal, lineOf_covers hround hof hcolumn hpurchased⟩

/-- The figures of a row add up as they should, if and only if its cost is no negative number of cents and what the pantry gives of the
    need adds no cent to what the pending quantity is worth. -/
theorem costs_addUp_iff (py : Runtime) (hround : py.round = roundContext) (p : Provisioner) (meals : List MealAssignment)
    (line : GroceryLineDTO) (hline : line ∈ (p.provision py meals).groceryLines) (hcolumn : ColumnQuantity line)
    (resolver : LineResolver) (id : Nat) (item : GroceryListItem) (hitem : flush (generatedItem resolver line id) = .ok item) :
    AddsUp py item (item.costs py) ↔ 0 ≤ roundScale 2 (item.totalCost.getD 0) ∧ PantryAddsNothing py item := by
  have hbought := bought_of_flush hround hline hcolumn hitem
  rw [hbought.addsUp_iff hround, PantryAddsNothing, hbought.totalCost, hbought.usedQuantity]
  rfl

/-! #### Milk for pancakes -/

/-- Half a litre of milk costs 1 euro. -/
def smallBottle : CatalogProductDTO where
  productId := "p1"
  canonicalName := "leche"
  displayName := "Leche"
  packages := [{ productId := "p1", packageQuantity := 500, packageUnit := "ml", amount := 1 }]

def withMilkAtHome (quantity : ℚ) : Provisioner where
  matcher := productMatcher [smallBottle] Dict.empty
  pantry := pantryCalculator [{ canonicalName := "leche", quantity := quantity, unit := "ml" }] Dict.empty none
  weights := {}
  factors := Dict.empty
  asOf := none

def pancakes : MealAssignment where
  slotIndex := 0
  date := 739000
  mealType := .breakfast
  recipe :=
    { recipeId := "r1", title := "Tortitas"
      ingredients := [{ canonicalName := "leche", displayName := "Leche", quantity := 600, unit := "ml" }] }
  servings := 1
  participants := []

/-- The lines of the pancakes, where so much milk is at home. -/
def milkLines (atHome : ℚ) : List GroceryLineDTO := ((withMilkAtHome atHome).provision Runtime.decimals [pancakes]).groceryLines

theorem resolve_empty (line : GroceryLineDTO) : ({} : LineResolver).resolve line =
    { productId := line.productId.bind String.toNat?, priceId := none, unitPrice := none } := by
  have hproduct : (line.productId.bind String.toNat?).bind (Dict.empty : Dict Nat Catalog.Provenance).get? = none := by
    cases line.productId.bind String.toNat? <;> rfl
  have hpackage : (line.packageQuantity.bind fun quantity => line.packageUnit.bind fun unit =>
      (Dict.empty : Dict (String × String × ℚ) Catalog.Provenance).get? (line.canonicalName, unit, quantity)) = none := by
    cases line.packageQuantity <;> cases line.packageUnit <;> rfl
  unfold LineResolver.resolve
  dsimp only
  rw [hproduct]
  exact congrArg (Option.getD · _) hpackage

/-- Nothing is at home: two bottles are bought. -/
theorem costs_addUp_pancakes : ∃ line ∈ milkLines 0, ∃ item, flush (generatedItem {} line 0) = .ok item ∧
    AddsUp Runtime.decimals item (item.costs Runtime.decimals) := by
  have hany : ((milkLines 0).any fun line => (generatedItem {} line 0).fits && line.packageQuantity = some 500 &&
      0 ≤ roundScale 2 ((generatedItem {} line 0).stored.totalCost.getD 0) &&
      worth Runtime.decimals (generatedItem {} line 0).stored ((generatedItem {} line 0).stored.usedQuantity.getD 0) =
        worth Runtime.decimals (generatedItem {} line 0).stored (generatedItem {} line 0).stored.pendingQuantity) = true := by
    simp only [generatedItem, resolve_empty]
    decide +kernel
  obtain ⟨line, hline, hfigures⟩ := List.any_eq_true.mp hany
  simp only [Bool.and_eq_true, decide_eq_true_eq] at hfigures
  obtain ⟨⟨⟨hfits, hquantity⟩, hpaid⟩, hworth⟩ := hfigures
  have hcolumn : ColumnQuantity line := by
    intro quantity h
    refine ⟨5000000, ?_⟩
    rw [← Option.some.inj (hquantity.symm.trans h)]
    norm_num
  have hitem := flush_eq_ok.mpr ⟨hfits, rfl⟩
  exact ⟨line, hline, _, hitem,
    (costs_addUp_iff Runtime.decimals rfl (withMilkAtHome 0) [pancakes] line hline hcolumn {} 0 _ hitem).mpr ⟨hpaid, hworth⟩⟩

/-- With 300 ml at home one bottle is bought for 1 euro, of which 1.20 are consumed, and -0.20 are left over. -/
theorem not_costs_addUp_pancakes : ∃ line ∈ milkLines 300, ∃ item, flush (generatedItem {} line 0) = .ok item ∧
    item.costs Runtime.decimals = ⟨some 1, some (6 / 5), some (-1 / 5)⟩ ∧ ¬AddsUp Runtime.decimals item (item.costs Runtime.decimals) := by
  have hany : ((milkLines 300).any fun line => (generatedItem {} line 0).fits &&
      (generatedItem {} line 0).stored.costs Runtime.decimals = ⟨some 1, some (6 / 5), some (-1 / 5)⟩) = true := by
    simp only [generatedItem, resolve_empty]
    decide +kernel
  obtain ⟨line, hline, hfigures⟩ := List.any_eq_true.mp hany
  obtain ⟨hfits, hcosts⟩ := Bool.and_eq_true_iff.mp hfigures
  have hcosts := of_decide_eq_true hcosts
  refine ⟨line, hline, _, flush_eq_ok.mpr ⟨hfits, rfl⟩, hcosts, ?_⟩
  rw [hcosts]
  rintro ⟨_, _, _, ⟨⟩, -, hle, -⟩
  exact absurd hle (by norm_num)

end Lines
end CestaPlan.Grocery
