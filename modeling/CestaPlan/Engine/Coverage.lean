import CestaPlan.Engine.Reporting
import Mathlib.Algebra.Order.BigOperators.Group.List
import Mathlib.Tactic.Linarith
import Mathlib.Tactic.Positivity

/-! How the coverage changes when a line loses its price. A line without a price has no weight, so the coverage by value does not
    see it. -/

namespace CestaPlan.Engine

/-- Where a status stands from none to complete; stale data are apart. -/
def CoverageStatus.rank : CoverageStatus → Option Nat
  | .complete => some 4
  | .high => some 3
  | .partly => some 2
  | .insufficient => some 1
  | .none => some 0
  | .stale => Option.none

/-- The same line with an estimate for its known price, or with no price. -/
structure GroceryLineDTO.Weakened (line line' : GroceryLineDTO) : Prop where
  unknown : line'.subtotalKnown = false
  price : line.subtotalKnown = true ∧ line'.subtotal = line.subtotal ∨ line'.subtotal = 0

/-- Neither ratio is higher, nor the status better. -/
structure CoverageDTO.NotRaised (before after : CoverageDTO) : Prop where
  weighted : after.weightedPriceCoverage ≤ before.weightedPriceCoverage
  price : after.priceCoverage ≤ before.priceCoverage
  status : ∀ r ∈ before.status.rank, ∀ r' ∈ after.status.rank, r' ≤ r

/-- What the known prices add up to. -/
def knownTotal (lines : List GroceryLineDTO) : ℚ := ((lines.filter (·.subtotalKnown)).map (·.subtotal)).sum

def estimatedTotal (lines : List GroceryLineDTO) : ℚ := ((lines.filter (·.estimated)).map (·.subtotal)).sum

section Coverage
variable {py : Runtime} {lines before after : List GroceryLineDTO} {line line' : GroceryLineDTO}

theorem sum_exact (hexact : py.round = id) (xs : List ℚ) : py.sum xs = xs.sum := (Runtime.holds_of_exact hexact xs).sum_eq

theorem weighted_eq (hexact : py.round = id) : (computeCoverage py lines).weightedPriceCoverage =
    if knownTotal lines + estimatedTotal lines = 0 then if lines.countP (·.subtotalKnown) = lines.length then 1 else 0
    else knownTotal lines / (knownTotal lines + estimatedTotal lines) := by
  simp only [computeCoverage, sum_exact hexact, py.add_exact hexact, py.div_exact hexact]
  rfl

theorem priceCoverage_eq (hexact : py.round = id) (hne : lines ≠ []) :
    (computeCoverage py lines).priceCoverage = lines.countP (·.subtotalKnown) / lines.length := by
  have hlength : lines.length ≠ 0 := fun h => hne (List.length_eq_zero_iff.mp h)
  simp only [computeCoverage, if_neg hlength, py.div_exact hexact]

theorem status_eq : (computeCoverage py lines).status = coverageStatus lines.length (computeCoverage py lines).priceCoverage
    (computeCoverage py lines).weightedPriceCoverage (lines.countP (·.expired)) := rfl

theorem knownTotal_split : knownTotal (before ++ line :: after) =
    knownTotal before + knownTotal after + if line.subtotalKnown then line.subtotal else 0 := by
  unfold knownTotal
  cases hknown : line.subtotalKnown
  · simp [hknown]
  · simp [hknown]
    ring

theorem estimatedTotal_split : estimatedTotal (before ++ line :: after) =
    estimatedTotal before + estimatedTotal after + if line.estimated then line.subtotal else 0 := by
  unfold estimatedTotal
  cases hestimated : line.estimated
  · simp [hestimated]
  · simp [hestimated]
    ring

theorem knownTotal_nonneg (h : ∀ line ∈ lines, 0 ≤ line.subtotal) : 0 ≤ knownTotal lines := by
  refine List.sum_nonneg fun x hx => ?_
  obtain ⟨line, hline, rfl⟩ := List.mem_map.mp hx
  exact h line (List.mem_filter.mp hline).1

theorem estimatedTotal_nonneg (h : ∀ line ∈ lines, 0 ≤ line.subtotal) : 0 ≤ estimatedTotal lines := by
  refine List.sum_nonneg fun x hx => ?_
  obtain ⟨line, hline, rfl⟩ := List.mem_map.mp hx
  exact h line (List.mem_filter.mp hline).1

theorem rank_coverageStatus {n expired r : Nat} {p w : ℚ} (hn : n ≠ 0) (h : r ∈ (coverageStatus n p w expired).rank) :
    r = if p = 0 then 0 else if p = 1 then 4 else if 9 / 10 ≤ w then 3 else if 3 / 5 ≤ w then 2 else 1 := by
  unfold coverageStatus at h
  rw [if_neg hn] at h
  split at h
  · cases h
  · split_ifs at h ⊢ <;> exact (Option.some.inj h).symm

theorem coverageStatus_mono {n expired expired' : Nat} {p p' w w' : ℚ} (hn : n ≠ 0) (hp : p ≤ 1) (hp' : 0 ≤ p') (hle : p' ≤ p)
    (hw : w' ≤ w) : ∀ r ∈ (coverageStatus n p w expired).rank, ∀ r' ∈ (coverageStatus n p' w' expired').rank, r' ≤ r := by
  intro r hr r' hr'
  rw [rank_coverageStatus hn hr, rank_coverageStatus hn hr']
  by_cases hp0' : p' = 0
  · rw [if_pos hp0']
    exact Nat.zero_le _
  · have hp0 : p ≠ 0 := fun h => hp0' (le_antisymm (h ▸ hle) hp')
    rw [if_neg hp0', if_neg hp0]
    by_cases hp1 : p = 1
    · rw [if_pos hp1]
      split_ifs <;> omega
    · have hp1' : p' ≠ 1 := fun h => hp1 (le_antisymm hp (h ▸ hle))
      rw [if_neg hp1', if_neg hp1]
      split_ifs <;> first | omega | linarith

theorem estimated_of_pos (hpos : 0 < line.subtotal) (hunknown : line.subtotalKnown = false) : line.estimated = true := by
  simp [GroceryLineDTO.estimated, hunknown, hpos]

theorem not_estimated_of_known (hknown : line.subtotalKnown = true) : line.estimated = false := by
  simp [GroceryLineDTO.estimated, hknown]

theorem totals_split (hpos : 0 < line.subtotal) : knownTotal (before ++ line :: after) + estimatedTotal (before ++ line :: after) =
    knownTotal before + knownTotal after + (estimatedTotal before + estimatedTotal after) + line.subtotal := by
  rw [knownTotal_split, estimatedTotal_split]
  cases hknown : line.subtotalKnown
  · have hestimated : line.estimated = true := estimated_of_pos hpos hknown
    simp only [hestimated, Bool.false_eq_true, if_false, if_true]
    ring
  · have hestimated : line.estimated = false := not_estimated_of_known hknown
    simp only [hestimated, Bool.false_eq_true, if_false, if_true]
    ring

theorem countP_known_ne (hunknown : line.subtotalKnown = false) :
    (before ++ line :: after).countP (·.subtotalKnown) ≠ (before ++ line :: after).length := by
  intro h
  have hall := List.countP_eq_length.mp h line (by simp)
  rw [hunknown] at hall
  cases hall

/-- The weighted coverage of a list with an unpriced line is the known part of the total, and none of it when there is no total. -/
theorem weighted_of_unknown (hexact : py.round = id) (hunknown : line.subtotalKnown = false) :
    (computeCoverage py (before ++ line :: after)).weightedPriceCoverage =
      knownTotal (before ++ line :: after) / (knownTotal (before ++ line :: after) + estimatedTotal (before ++ line :: after)) := by
  rw [weighted_eq hexact, if_neg (countP_known_ne hunknown)]
  split
  · next hzero => rw [hzero, div_zero]
  · rfl

theorem rest_nonneg (hnonneg : ∀ l ∈ before ++ line :: after, 0 ≤ l.subtotal) :
    0 ≤ knownTotal before + knownTotal after ∧ 0 ≤ estimatedTotal before + estimatedTotal after := by
  have hb : ∀ l ∈ before, 0 ≤ l.subtotal := fun l h => hnonneg l (List.mem_append_left _ h)
  have ha : ∀ l ∈ after, 0 ≤ l.subtotal := fun l h => hnonneg l (List.mem_append_right _ (List.mem_cons_of_mem _ h))
  exact ⟨add_nonneg (knownTotal_nonneg hb) (knownTotal_nonneg ha), add_nonneg (estimatedTotal_nonneg hb) (estimatedTotal_nonneg ha)⟩

theorem knownTotal_of_known (hknown : line.subtotalKnown = true) :
    knownTotal (before ++ line :: after) = knownTotal before + knownTotal after + line.subtotal := by
  rw [knownTotal_split, if_pos hknown]

theorem knownTotal_of_unknown (hunknown : line.subtotalKnown = false) :
    knownTotal (before ++ line :: after) = knownTotal before + knownTotal after := by
  rw [knownTotal_split, if_neg (by simp [hunknown]), add_zero]

theorem weighted_of_pos (hexact : py.round = id) (hpos : 0 < line.subtotal)
    (hnonneg : ∀ l ∈ before ++ line :: after, 0 ≤ l.subtotal) :
    (computeCoverage py (before ++ line :: after)).weightedPriceCoverage =
      knownTotal (before ++ line :: after) / (knownTotal (before ++ line :: after) + estimatedTotal (before ++ line :: after)) := by
  obtain ⟨hk, he⟩ := rest_nonneg hnonneg
  rw [weighted_eq hexact, if_neg]
  rw [totals_split hpos]
  linarith

theorem ratio_le {k e s : ℚ} (hk : 0 ≤ k) (he : 0 ≤ e) (hs : 0 < s) : k / (k + e) ≤ (k + s) / (k + e + s) := by
  rcases (add_nonneg hk he).eq_or_lt with hzero | htotal
  · rw [← hzero, div_zero]
    positivity
  · rw [div_le_div_iff₀ htotal (by linarith)]
    nlinarith

/-- A line that loses its known price takes its value from the known part, and from the total if it keeps no estimate. -/
theorem weighted_le_of_known (hexact : py.round = id) (hnonneg : ∀ l ∈ before ++ line :: after, 0 ≤ l.subtotal)
    (hpos : 0 < line.subtotal) (hweakened : line.Weakened line') (hknown : line.subtotalKnown = true) :
    (computeCoverage py (before ++ line' :: after)).weightedPriceCoverage ≤
      (computeCoverage py (before ++ line :: after)).weightedPriceCoverage := by
  obtain ⟨hk, he⟩ := rest_nonneg hnonneg
  rw [weighted_of_pos hexact hpos hnonneg, weighted_of_unknown hexact hweakened.unknown, totals_split hpos,
    knownTotal_of_known hknown, knownTotal_of_unknown hweakened.unknown]
  rcases hweakened.price with ⟨-, hsame⟩ | hnone
  · rw [estimatedTotal_split, if_pos (estimated_of_pos (hsame ▸ hpos) hweakened.unknown), hsame, ← add_assoc]
    exact div_le_div_of_nonneg_right (by linarith) (by linarith)
  · rw [estimatedTotal_split, if_neg (by simp [GroceryLineDTO.estimated, hnone]), add_zero]
    exact ratio_le hk he hpos

theorem weighted_le_iff_of_unknown (hexact : py.round = id) (hnonneg : ∀ l ∈ before ++ line :: after, 0 ≤ l.subtotal)
    (hpos : 0 < line.subtotal) (hweakened : line.Weakened line') (hunknown : line.subtotalKnown = false) :
    (computeCoverage py (before ++ line' :: after)).weightedPriceCoverage ≤
        (computeCoverage py (before ++ line :: after)).weightedPriceCoverage ↔
      knownTotal (before ++ line :: after) = 0 := by
  obtain ⟨hk, he⟩ := rest_nonneg hnonneg
  have hnone : line'.subtotal = 0 := by
    rcases hweakened.price with ⟨hknown, -⟩ | hnone
    · exact absurd hknown (by simp [hunknown])
    · exact hnone
  rw [weighted_of_pos hexact hpos hnonneg, weighted_of_unknown hexact hweakened.unknown, totals_split hpos,
    knownTotal_of_unknown hunknown, knownTotal_of_unknown hweakened.unknown, estimatedTotal_split,
    if_neg (by simp [GroceryLineDTO.estimated, hnone]), add_zero]
  constructor
  · intro hle
    by_contra hne
    have hkpos : 0 < knownTotal before + knownTotal after := lt_of_le_of_ne hk (Ne.symm hne)
    refine absurd hle (not_le.mpr (div_lt_div_of_pos_left hkpos ?_ ?_)) <;> linarith
  · intro hzero
    rw [hzero, zero_div, zero_div]

theorem weighted_le_iff (hexact : py.round = id) (hnonneg : ∀ l ∈ before ++ line :: after, 0 ≤ l.subtotal) (hpos : 0 < line.subtotal)
    (hweakened : line.Weakened line') :
    (computeCoverage py (before ++ line' :: after)).weightedPriceCoverage ≤
        (computeCoverage py (before ++ line :: after)).weightedPriceCoverage ↔
      line.subtotalKnown = true ∨ knownTotal (before ++ line :: after) = 0 := by
  cases hknown : line.subtotalKnown
  · rw [weighted_le_iff_of_unknown hexact hnonneg hpos hweakened hknown]
    simp
  · exact iff_of_true (weighted_le_of_known hexact hnonneg hpos hweakened hknown) (Or.inl rfl)

theorem countP_known_le (hweakened : line.Weakened line') :
    (before ++ line' :: after).countP (·.subtotalKnown) ≤ (before ++ line :: after).countP (·.subtotalKnown) := by
  simp [List.countP_append, List.countP_cons, hweakened.unknown]

theorem priceCoverage_le (hexact : py.round = id) (hweakened : line.Weakened line') :
    (computeCoverage py (before ++ line' :: after)).priceCoverage ≤ (computeCoverage py (before ++ line :: after)).priceCoverage := by
  have hlength : (before ++ line' :: after).length = (before ++ line :: after).length := by simp
  rw [priceCoverage_eq hexact (by simp), priceCoverage_eq hexact (by simp), hlength]
  exact div_le_div_of_nonneg_right (by exact_mod_cast countP_known_le hweakened) (by positivity)

theorem priceCoverage_mem (hexact : py.round = id) (hne : lines ≠ []) :
    0 ≤ (computeCoverage py lines).priceCoverage ∧ (computeCoverage py lines).priceCoverage ≤ 1 := by
  rw [priceCoverage_eq hexact hne]
  exact ⟨by positivity, div_le_one_of_le₀ (by exact_mod_cast List.countP_le_length) (by positivity)⟩

theorem status_le (hexact : py.round = id) (hweakened : line.Weakened line')
    (hle : (computeCoverage py (before ++ line' :: after)).weightedPriceCoverage ≤
      (computeCoverage py (before ++ line :: after)).weightedPriceCoverage) :
    ∀ r ∈ (computeCoverage py (before ++ line :: after)).status.rank,
      ∀ r' ∈ (computeCoverage py (before ++ line' :: after)).status.rank, r' ≤ r := by
  have hlength : (before ++ line' :: after).length = (before ++ line :: after).length := by simp
  rw [status_eq, status_eq, hlength]
  exact coverageStatus_mono (by simp) (priceCoverage_mem hexact (by simp)).2 (priceCoverage_mem hexact (by simp)).1
    (priceCoverage_le hexact hweakened) hle

/-- Rice with a price and beef with an estimate of the same value. -/
def riceLine : GroceryLineDTO :=
  { canonicalName := "arroz", productId := none, displayName := "Arroz", neededQuantity := 1, subtotal := 10, subtotalKnown := true }

def beefLine : GroceryLineDTO :=
  { canonicalName := "ternera", productId := none, displayName := "Ternera", neededQuantity := 1, subtotal := 10 }

def riceEstimated : GroceryLineDTO := { riceLine with subtotalKnown := false }

def beefUnpriced : GroceryLineDTO := { beefLine with subtotal := 0 }

end Coverage

end CestaPlan.Engine
