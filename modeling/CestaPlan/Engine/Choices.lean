import CestaPlan.Engine.Packaging
import CestaPlan.Library.Least
import Mathlib.Algebra.Order.Field.Rat
import Mathlib.Data.String.Basic

/-! Which format is chosen: the first one with a least key, among those with a positive quantity. -/

namespace CestaPlan.Engine

/-! ### Keys -/

/-- The key in the order in which keys are compared. -/
def PackageKey.rank (key : PackageKey) : ℕ ×ₗ ℕ ×ₗ ℚ ×ₗ String ×ₗ ℚ :=
  toLex (key.outOfStock, toLex (key.priceUnknown, toLex (key.score, toLex (key.productId, key.packageQuantity))))

theorem PackageKey.before_iff {a b : PackageKey} : a.before b = true ↔ a.rank < b.rank := by
  simp only [PackageKey.before, PackageKey.rank, Prod.Lex.toLex_lt_toLex, Bool.or_eq_true, Bool.and_eq_true, decide_eq_true_eq]

section Choices
variable (py : Runtime)

/-- The packages that cover what is pending. -/
def packagesFor (pending quantity : ℚ) : Nat := if pending ≤ 0 then 0 else ⌈py.div pending quantity⌉.toNat

/-- What buying so much in one format comes to. -/
def resultFor (needed pantryAvailable quantity price : ℚ) : PackageResult :=
  let pending := max (py.sub needed pantryAvailable) 0
  let packages := packagesFor py pending quantity
  let purchased := py.mul packages quantity
  { needed := needed
    pantry := py.sub needed pending
    pending := pending
    packageQuantity := quantity
    packagePrice := price
    packages := packages
    purchased := purchased
    used := pending
    leftover := py.sub purchased pending
    totalCost := py.mul packages price }

def choiceFor (pending : ℚ) (asOf : Option Date) (opt : PackageOptionDTO) : PackageChoice :=
  { option := opt
    result := resultFor py pending 0 opt.packageQuantity opt.amount
    priceKnown := opt.hasPrice && !isExpired opt asOf
    expired := isExpired opt asOf }

def keyFor (pending : ℚ) (asOf : Option Date) (wWaste wCost : ℚ) (opt : PackageOptionDTO) : PackageKey :=
  { outOfStock := if opt.availability = .outOfStock then 1 else 0
    priceUnknown := if opt.hasPrice && !isExpired opt asOf then 0 else 1
    score := py.add (py.mul wWaste (resultFor py pending 0 opt.packageQuantity opt.amount).leftover)
      (py.mul wCost (resultFor py pending 0 opt.packageQuantity opt.amount).totalCost)
    productId := opt.productId
    packageQuantity := opt.packageQuantity }

variable {py} {pending wWaste wCost : ℚ} {asOf : Option Date} {options : List PackageOptionDTO} {opt : PackageOptionDTO}
  {choice : PackageChoice}

theorem decimalCeilDiv_eq {quantity : ℚ} (hq : 0 < quantity) :
    decimalCeilDiv py pending quantity = some (packagesFor py pending quantity) := by
  unfold decimalCeilDiv packagesFor
  rw [if_neg (not_le.mpr hq)]
  split <;> rfl

theorem computePackages_eq {needed pantryAvailable quantity price : ℚ} (hq : 0 < quantity) :
    computePackages py needed pantryAvailable quantity price = some (resultFor py needed pantryAvailable quantity price) := by
  simp only [computePackages, decimalCeilDiv_eq hq]
  rfl

theorem packageChoice_of_pos (hq : 0 < opt.packageQuantity) : packageChoice py pending asOf wWaste wCost opt =
    some (choiceFor py pending asOf opt, keyFor py pending asOf wWaste wCost opt) := by
  simp only [packageChoice, computePackages_eq hq]
  rfl

theorem packageChoice_of_nonpos (hq : ¬ 0 < opt.packageQuantity) : packageChoice py pending asOf wWaste wCost opt = none := by
  simp only [packageChoice, computePackages, decimalCeilDiv, if_pos (not_lt.mp hq)]
  rfl

theorem filterMap_packageChoice : options.filterMap (packageChoice py pending asOf wWaste wCost) =
    (options.filter (0 < ·.packageQuantity)).map fun opt =>
      (choiceFor py pending asOf opt, keyFor py pending asOf wWaste wCost opt) := by
  induction options with
  | nil => rfl
  | cons opt options ih =>
    by_cases hq : 0 < opt.packageQuantity
    · rw [List.filterMap_cons_some (packageChoice_of_pos hq), List.filter_cons_of_pos (by simpa using hq), List.map_cons, ih]
    · rw [List.filterMap_cons_none (packageChoice_of_nonpos hq), List.filter_cons_of_neg (by simpa using hq), ih]

theorem choosePackage_eq : choosePackage py pending options asOf wWaste wCost =
    ((options.filter fun opt => 0 < opt.packageQuantity).argmin fun opt => (keyFor py pending asOf wWaste wCost opt).rank).map
      (choiceFor py pending asOf) := by
  unfold choosePackage
  rw [Least.foldl_eq_argmin (g := fun choice => choice.2.rank) (fun _ => rfl) fun b c => ?_, filterMap_packageChoice,
    Least.argmin_map, Option.map_map]
  · rfl
  · exact if_congr PackageKey.before_iff rfl rfl

theorem exists_choiceFor (h : choosePackage py pending options asOf wWaste wCost = some choice) :
    ∃ opt ∈ options, 0 < opt.packageQuantity ∧ choice = choiceFor py pending asOf opt := by
  rw [choosePackage_eq] at h
  obtain ⟨opt, hopt, rfl⟩ := Option.map_eq_some_iff.mp h
  obtain ⟨hmem, hq⟩ := List.mem_filter.mp (List.argmin_mem hopt)
  exact ⟨opt, hmem, of_decide_eq_true hq, rfl⟩

end Choices

end CestaPlan.Engine
