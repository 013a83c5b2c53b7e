import CestaPlan.Engine.Choices

/-! Formats in another unit. The score of a format adds a physical leftover to a price, so that the same goods in a smaller unit
    weigh more against the same price. -/

namespace CestaPlan.Engine

/-- The format in a unit of which there are `k` times as many. -/
def PackageOptionDTO.scaled (k : ℚ) (opt : PackageOptionDTO) : PackageOptionDTO := { opt with packageQuantity := k * opt.packageQuantity }

/-- The whole packages that cover what is pending. -/
def wholePackages (pending quantity : ℚ) : Nat := ⌈max pending 0 / quantity⌉.toNat

def PackageOptionDTO.leftover (pending : ℚ) (opt : PackageOptionDTO) : ℚ :=
  wholePackages pending opt.packageQuantity * opt.packageQuantity - max pending 0

def PackageOptionDTO.cost (pending : ℚ) (opt : PackageOptionDTO) : ℚ := wholePackages pending opt.packageQuantity * opt.amount

/-- In stock before out of stock, then with a known price before without one. -/
def PackageOptionDTO.tier (asOf : Option Date) (opt : PackageOptionDTO) : ℕ ×ₗ ℕ :=
  toLex (if opt.availability = .outOfStock then 1 else 0, if opt.hasPrice && !isExpired opt asOf then 0 else 1)

/-- The format stands in a better tier, or costs no more and leaves no more over, as weighted; and where both are the same it comes
    first by product and size. -/
def PackageOptionDTO.Dominates (pending : ℚ) (asOf : Option Date) (wWaste wCost : ℚ) (a b : PackageOptionDTO) : Prop :=
  a.tier asOf < b.tier asOf ∨ a.tier asOf = b.tier asOf ∧
    wWaste * a.leftover pending ≤ wWaste * b.leftover pending ∧ wCost * a.cost pending ≤ wCost * b.cost pending ∧
      (wWaste * a.leftover pending = wWaste * b.leftover pending → wCost * a.cost pending = wCost * b.cost pending →
        toLex (a.productId, a.packageQuantity) ≤ toLex (b.productId, b.packageQuantity))

/-- The same format is chosen, and as many packages, in every unit. -/
def UnitFree (py : Runtime) (pending : ℚ) (options : List PackageOptionDTO) (asOf : Option Date) (wWaste wCost : ℚ) : Prop :=
  ∀ k > 0, (choosePackage py (k * pending) (options.map (.scaled k)) asOf wWaste wCost).map (fun c => (c.option, c.result.packages)) =
    (choosePackage py pending options asOf wWaste wCost).map (fun c => (c.option.scaled k, c.result.packages))

section Units
variable {py : Runtime} {pending wWaste wCost k : ℚ} {asOf : Option Date} {options : List PackageOptionDTO}
  {opt a b : PackageOptionDTO}

theorem scaled_injective (hk : 0 < k) : Function.Injective (PackageOptionDTO.scaled k) := by
  intro a b h
  have hquantity : k * a.packageQuantity = k * b.packageQuantity := congrArg PackageOptionDTO.packageQuantity h
  have hsame := mul_left_cancel₀ hk.ne' hquantity
  cases a
  cases b
  simp_all [PackageOptionDTO.scaled]

theorem wholePackages_scaled (hk : 0 < k) (pending quantity : ℚ) :
    wholePackages (k * pending) (k * quantity) = wholePackages pending quantity := by
  unfold wholePackages
  rw [← mul_zero k, ← mul_max_of_nonneg _ _ hk.le, mul_div_mul_left _ _ hk.ne', mul_zero]

theorem packagesFor_exact (hexact : py.round = id) (quantity : ℚ) :
    packagesFor py pending quantity = wholePackages pending quantity := by
  unfold packagesFor wholePackages
  split
  · next h => simp [max_eq_right h]
  · next h => rw [py.div_exact hexact, max_eq_left (not_le.mp h).le]

/-- The rank of a format in a unit of which there are `k` times as many. -/
def PackageOptionDTO.rank (pending : ℚ) (asOf : Option Date) (wWaste wCost k : ℚ) (opt : PackageOptionDTO) :
    ℕ ×ₗ ℕ ×ₗ ℚ ×ₗ String ×ₗ ℚ :=
  toLex (if opt.availability = .outOfStock then 1 else 0, toLex (if opt.hasPrice && !isExpired opt asOf then 0 else 1,
    toLex (k * (wWaste * opt.leftover pending) + wCost * opt.cost pending, toLex (opt.productId, k * opt.packageQuantity))))

theorem score_scaled (hexact : py.round = id) (hk : 0 < k) :
    (keyFor py (k * pending) asOf wWaste wCost (opt.scaled k)).score =
      k * (wWaste * opt.leftover pending) + wCost * opt.cost pending := by
  have hmax : max (k * pending) 0 = k * max pending 0 := by rw [← mul_zero k, ← mul_max_of_nonneg _ _ hk.le, mul_zero]
  have hcount : wholePackages (max (k * pending) 0) (k * opt.packageQuantity) = wholePackages pending opt.packageQuantity := by
    rw [hmax, wholePackages_scaled hk, wholePackages, max_eq_left (le_max_right pending 0), wholePackages]
  simp only [keyFor, resultFor, PackageOptionDTO.scaled, PackageOptionDTO.leftover, PackageOptionDTO.cost, py.sub_exact hexact,
    py.mul_exact hexact, py.add_exact hexact, packagesFor_exact hexact, sub_zero, hcount]
  rw [hmax]
  ring

theorem rank_keyFor (hexact : py.round = id) (hk : 0 < k) :
    (keyFor py (k * pending) asOf wWaste wCost (opt.scaled k)).rank = opt.rank pending asOf wWaste wCost k := by
  unfold PackageKey.rank PackageOptionDTO.rank
  rw [score_scaled hexact hk]
  rfl

theorem rank_ties (k k' : {k : ℚ // 0 < k}) (a b : PackageOptionDTO)
    (h : a.rank pending asOf wWaste wCost k = b.rank pending asOf wWaste wCost k) :
    a.rank pending asOf wWaste wCost k' = b.rank pending asOf wWaste wCost k' := by
  simp only [PackageOptionDTO.rank, toLex_inj, Prod.mk.injEq] at h ⊢
  obtain ⟨hstock, hprice, hscore, hid, hquantity⟩ := h
  have hsize : a.packageQuantity = b.packageQuantity := mul_left_cancel₀ k.2.ne' hquantity
  have hleftover : a.leftover pending = b.leftover pending := by rw [PackageOptionDTO.leftover, PackageOptionDTO.leftover, hsize]
  rw [hleftover, add_right_inj] at hscore
  exact ⟨hstock, hprice, by rw [hleftover, hscore], hid, by rw [hsize]⟩

theorem size_le_iff (hk : 0 < k) : toLex (a.productId, k * a.packageQuantity) ≤ toLex (b.productId, k * b.packageQuantity) ↔
    toLex (a.productId, a.packageQuantity) ≤ toLex (b.productId, b.packageQuantity) := by
  rw [Prod.Lex.toLex_le_toLex, Prod.Lex.toLex_le_toLex]
  exact or_congr_right (and_congr_right fun _ => mul_le_mul_iff_right₀ hk)

theorem dominates_iff : a.Dominates pending asOf wWaste wCost b ↔
    ∀ k : {k : ℚ // 0 < k}, a.rank pending asOf wWaste wCost k ≤ b.rank pending asOf wWaste wCost k := by
  have : Nonempty {k : ℚ // 0 < k} := ⟨⟨1, one_pos⟩⟩
  have hscore : (∀ k : {k : ℚ // 0 < k},
      toLex (k.1 * (wWaste * a.leftover pending) + wCost * a.cost pending, toLex (a.productId, k.1 * a.packageQuantity)) ≤
        toLex (k.1 * (wWaste * b.leftover pending) + wCost * b.cost pending, toLex (b.productId, k.1 * b.packageQuantity))) ↔
      wWaste * a.leftover pending ≤ wWaste * b.leftover pending ∧ wCost * a.cost pending ≤ wCost * b.cost pending ∧
        (wWaste * a.leftover pending = wWaste * b.leftover pending → wCost * a.cost pending = wCost * b.cost pending →
          toLex (a.productId, a.packageQuantity) ≤ toLex (b.productId, b.packageQuantity)) := by
    rw [← Least.forall_score_lex_iff, Subtype.forall]
    refine forall₂_congr fun k hk => ?_
    rw [Prod.Lex.toLex_le_toLex, size_le_iff hk]
  unfold PackageOptionDTO.Dominates PackageOptionDTO.tier PackageOptionDTO.rank
  rw [← hscore]
  simp only [Prod.Lex.toLex_lt_toLex, Prod.Lex.toLex_le_toLex, toLex_inj, Prod.mk.injEq, forall_or_left, forall_and_left]
  tauto

theorem choosePackage_scaled (hexact : py.round = id) (hk : 0 < k) :
    choosePackage py (k * pending) (options.map (.scaled k)) asOf wWaste wCost =
      ((options.filter fun opt => 0 < opt.packageQuantity).argmin fun opt => opt.rank pending asOf wWaste wCost k).map
        fun opt => choiceFor py (k * pending) asOf (opt.scaled k) := by
  have hfilter : (options.map (PackageOptionDTO.scaled k)).filter (fun opt => decide (0 < opt.packageQuantity)) =
      (options.filter fun opt => 0 < opt.packageQuantity).map (PackageOptionDTO.scaled k) := by
    rw [List.filter_map]
    refine congrArg _ (List.filter_congr fun opt _ => ?_)
    exact decide_eq_decide.mpr (mul_pos_iff_of_pos_left hk)
  rw [choosePackage_eq, hfilter, Least.argmin_map, Option.map_map]
  refine congrArg₂ _ rfl (congrArg₂ _ ?_ rfl)
  funext opt
  exact rank_keyFor hexact hk

theorem scaled_one : PackageOptionDTO.scaled 1 = id := funext fun opt => by simp [PackageOptionDTO.scaled]

theorem choosePackage_exact (hexact : py.round = id) : choosePackage py pending options asOf wWaste wCost =
    ((options.filter fun opt => 0 < opt.packageQuantity).argmin fun opt => opt.rank pending asOf wWaste wCost 1).map
      (choiceFor py pending asOf) := by
  have h := @choosePackage_scaled py pending wWaste wCost 1 asOf options hexact one_pos
  rw [scaled_one, one_mul, List.map_id] at h
  exact h

theorem packages_choiceFor (hexact : py.round = id) :
    (choiceFor py pending asOf opt).result.packages = wholePackages pending opt.packageQuantity := by
  show packagesFor py (max (py.sub pending 0) 0) opt.packageQuantity = _
  rw [py.sub_exact hexact, sub_zero, packagesFor_exact hexact, wholePackages, max_eq_left (le_max_right _ _), wholePackages]

theorem chosen_scaled (hexact : py.round = id) (hk : 0 < k) :
    (choosePackage py (k * pending) (options.map (.scaled k)) asOf wWaste wCost).map (fun c => (c.option, c.result.packages)) =
      ((options.filter fun opt => 0 < opt.packageQuantity).argmin fun opt => opt.rank pending asOf wWaste wCost k).map
        fun opt => (opt.scaled k, wholePackages pending opt.packageQuantity) := by
  rw [choosePackage_scaled hexact hk, Option.map_map]
  refine congrArg₂ _ (funext fun opt => congrArg (Prod.mk _) ?_) rfl
  exact (packages_choiceFor hexact).trans (wholePackages_scaled hk pending opt.packageQuantity)

theorem chosen_unscaled (hexact : py.round = id) :
    (choosePackage py pending options asOf wWaste wCost).map (fun c => (c.option, c.result.packages)) =
      ((options.filter fun opt => 0 < opt.packageQuantity).argmin fun opt => opt.rank pending asOf wWaste wCost 1).map
        fun opt => (opt, wholePackages pending opt.packageQuantity) := by
  rw [choosePackage_exact hexact, Option.map_map]
  exact congrArg₂ _ (funext fun opt => congrArg (Prod.mk _) (packages_choiceFor hexact)) rfl

theorem chosen_eq_iff (hexact : py.round = id) (hk : 0 < k) :
    (choosePackage py (k * pending) (options.map (.scaled k)) asOf wWaste wCost).map (fun c => (c.option, c.result.packages)) =
        (choosePackage py pending options asOf wWaste wCost).map (fun c => (c.option.scaled k, c.result.packages)) ↔
      (options.filter fun opt => 0 < opt.packageQuantity).argmin (PackageOptionDTO.rank pending asOf wWaste wCost k) =
        (options.filter fun opt => 0 < opt.packageQuantity).argmin (PackageOptionDTO.rank pending asOf wWaste wCost 1) := by
  have hback : (choosePackage py pending options asOf wWaste wCost).map (fun c => (c.option.scaled k, c.result.packages)) =
      ((choosePackage py pending options asOf wWaste wCost).map fun c => (c.option, c.result.packages)).map
        (Prod.map (.scaled k) id) := by
    rw [Option.map_map]
    rfl
  rw [hback, chosen_scaled hexact hk, chosen_unscaled hexact, Option.map_map]
  have hinjective : Function.Injective fun opt : PackageOptionDTO => (opt.scaled k, wholePackages pending opt.packageQuantity) :=
    fun a b h => scaled_injective hk (Prod.mk.inj h).1
  exact (Option.map_injective hinjective).eq_iff

end Units

end CestaPlan.Engine
