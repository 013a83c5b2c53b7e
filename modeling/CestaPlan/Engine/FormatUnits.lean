import CestaPlan.Engine.Conversions
import CestaPlan.Engine.Provisioning
import CestaPlan.Engine.UnitFree

/-! Formats in different units. What is pending is in the unit of the first format of a product, and is compared with the sizes of
    all of them as they stand. -/

namespace CestaPlan.Engine

/-- The packages of the format cover what is pending in a unit, and one fewer would not. -/
structure PackageChoice.Covers (choice : PackageChoice) (py : Runtime) (factors : Factors) (canonicalName unit : String)
    (pending : ℚ) : Prop where
  enough : ∃ bought, convert py factors (choice.result.packages * choice.option.packageQuantity) choice.option.packageUnit unit
    (some canonicalName) = .ok bought ∧ pending ≤ bought
  fewer : 0 < choice.result.packages → ∃ bought, convert py factors ((choice.result.packages - 1) * choice.option.packageQuantity)
    choice.option.packageUnit unit (some canonicalName) = .ok bought ∧ bought < pending

/-- What the provisioner chooses for a product covers what is pending, in the unit in which that is. -/
def Provisioner.ChoiceCovers (p : Provisioner) (py : Runtime) (product : CatalogProductDTO) (canonicalName fallback : String)
    (pending : ℚ) : Prop :=
  ∀ choice, choosePackage py pending product.packages p.asOf p.weights.waste p.weights.cost = some choice →
    choice.Covers py p.factors canonicalName (targetUnit product fallback) pending

/-- The first of the least formats as they stand: by stock, known price, weighted leftover and cost, product and size. -/
def Provisioner.preferred (p : Provisioner) (product : CatalogProductDTO) (pending : ℚ) : Option PackageOptionDTO :=
  (product.packages.filter fun opt => 0 < opt.packageQuantity).argmin
    (PackageOptionDTO.rank pending p.asOf p.weights.waste p.weights.cost 1)

section Packages
variable {pending quantity rate : ℚ}

theorem wholePackages_of_nonpos (h : pending ≤ 0) : wholePackages pending quantity = 0 := by
  simp [wholePackages, max_eq_right h]

theorem wholePackages_pos (hpending : 0 < pending) (hq : 0 < quantity) : 0 < wholePackages pending quantity := by
  rw [wholePackages, max_eq_left hpending.le, Int.lt_toNat]
  exact Int.ceil_pos.mpr (div_pos hpending hq)

/-- So many packages cover what is pending, and one fewer do not, exactly if they are the whole packages that do. -/
theorem covers_iff {n : ℕ} (hpending : 0 < pending) (hn : 0 < n) :
    (pending ≤ n * quantity ∧ (n - 1) * quantity < pending) ↔ 0 < quantity ∧ wholePackages pending quantity = n := by
  have hcount : (0 : ℚ) < n := by exact_mod_cast hn
  have hceil : 0 < quantity → (wholePackages pending quantity = n ↔ ⌈pending / quantity⌉ = n) := by
    intro hq
    have hpos : 0 < ⌈pending / quantity⌉ := Int.ceil_pos.mpr (div_pos hpending hq)
    rw [wholePackages, max_eq_left hpending.le]
    omega
  constructor
  · rintro ⟨henough, hfewer⟩
    have hq : 0 < quantity := pos_of_mul_pos_right (hpending.trans_le henough) hcount.le
    refine ⟨hq, (hceil hq).mpr (Int.ceil_eq_iff.mpr ⟨?_, ?_⟩)⟩
    · rw [lt_div_iff₀ hq]
      exact_mod_cast hfewer
    · rw [div_le_iff₀ hq]
      exact_mod_cast henough
  · rintro ⟨hq, hcount⟩
    obtain ⟨hlow, hhigh⟩ := Int.ceil_eq_iff.mp ((hceil hq).mp hcount)
    rw [lt_div_iff₀ hq] at hlow
    rw [div_le_iff₀ hq] at hhigh
    exact ⟨by exact_mod_cast hhigh, by exact_mod_cast hlow⟩

end Packages

section Formats
variable {py : Runtime} {p : Provisioner} {product : CatalogProductDTO} {canonicalName fallback unit : String} {pending rate : ℚ}

theorem convert_rate (hexact : py.round = id) {factors : Factors} {f : String} {name : Option String} (quantity bought : ℚ)
    (hrate : convert py factors 1 f unit name = .ok rate) :
    convert py factors quantity f unit name = .ok bought ↔ bought = quantity * rate := by
  rw [convert_mul hexact, hrate]
  exact ⟨fun h => (Except.ok.inj h).symm, fun h => by rw [h]; rfl⟩

theorem choiceFor_covers_iff (hexact : py.round = id) {factors : Factors} {asOf : Option Date} {opt : PackageOptionDTO}
    (hq : 0 < opt.packageQuantity) : (choiceFor py pending asOf opt).Covers py factors canonicalName unit pending ↔
      ∃ rate, convert py factors 1 opt.packageUnit unit (some canonicalName) = .ok rate ∧
        (0 < pending → 0 < rate ∧ wholePackages pending (opt.packageQuantity * rate) = wholePackages pending opt.packageQuantity) := by
  have hpackages : (choiceFor py pending asOf opt).result.packages = wholePackages pending opt.packageQuantity :=
    packages_choiceFor hexact
  have hsize : ∀ rate, 0 < rate ↔ 0 < opt.packageQuantity * rate := fun rate => (mul_pos_iff_of_pos_left hq).symm
  constructor
  · rintro ⟨⟨bought, hbought, henough⟩, hfewer⟩
    obtain ⟨rate, hrate⟩ := exists_convert hbought 1
    refine ⟨rate, hrate, fun hpending => ?_⟩
    have hn := wholePackages_pos hpending hq
    rw [convert_rate hexact _ _ hrate, hpackages] at hbought
    obtain ⟨less, hless, hlt⟩ := hfewer (hpackages ▸ hn)
    rw [convert_rate hexact _ _ hrate, hpackages] at hless
    rw [hsize rate]
    refine (covers_iff hpending hn).mp ⟨?_, ?_⟩
    · exact henough.trans_eq (hbought.trans (mul_assoc _ _ _))
    · exact ((mul_assoc _ _ _).symm.trans hless.symm).trans_lt hlt
  · rintro ⟨rate, hrate, hsame⟩
    rcases le_or_gt pending 0 with hpending | hpending
    · have hzero : (choiceFor py pending asOf opt).result.packages = 0 := hpackages.trans (wholePackages_of_nonpos hpending)
      refine ⟨⟨_, (convert_rate hexact _ _ hrate).mpr rfl, ?_⟩, fun h => absurd h (by omega)⟩
      rw [hzero]
      simpa using hpending
    · have hn := wholePackages_pos hpending hq
      obtain ⟨hpos, hcount⟩ := hsame hpending
      obtain ⟨henough, hfewer⟩ := (covers_iff hpending hn).mpr ⟨(hsize rate).mp hpos, hcount⟩
      refine ⟨⟨_, (convert_rate hexact _ _ hrate).mpr rfl, ?_⟩, fun _ => ⟨_, (convert_rate hexact _ _ hrate).mpr rfl, ?_⟩⟩
      · rw [hpackages, mul_assoc]
        exact henough
      · rw [hpackages, mul_assoc]
        exact hfewer

end Formats

/-- Rice in bags of 500 g, and of a kilo. -/
def smallBag (availability : Availability) : PackageOptionDTO :=
  { productId := "p1", packageQuantity := 500, packageUnit := "g", amount := 2, availability := availability }

def kiloBag : PackageOptionDTO := { productId := "p2", packageQuantity := 1, packageUnit := "kg", amount := 3 }

def riceBags (availability : Availability) : CatalogProductDTO :=
  { productId := "p1", canonicalName := "arroz", displayName := "Arroz", packages := [smallBag availability, kiloBag] }

def ricePlan : Provisioner where
  matcher := productMatcher [] Dict.empty
  pantry := pantryCalculator [] Dict.empty none
  weights := {}
  factors := Dict.empty
  asOf := none

end CestaPlan.Engine
