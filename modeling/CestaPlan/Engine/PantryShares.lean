import CestaPlan.Engine.Conversions
import CestaPlan.Engine.MealOrder
import Mathlib.Algebra.Order.BigOperators.Group.List
import Mathlib.Data.List.Perm.Subperm

/-! What the lines of a provision draw from the pantry. Each line asks it alone, under the name of its first ingredient and
    for its whole demand. -/

namespace CestaPlan.Engine
namespace Provisioner

section Definitions
variable (py : Runtime) (p : Provisioner) (meals : List MealAssignment)

/-- A quantity of an ingredient in another unit, or nothing where it does not convert. -/
def inUnit (name unit : String) (quantity : ℚ) (fromUnit : String) : ℚ :=
  match convert py p.factors quantity fromUnit unit (some name) with
  | .ok q => q
  | .error _ => 0

/-- The lines that draw from the pantry, by their first ingredients, with what they draw. -/
def draws : List (LineMeta × ℚ) := ((linesOf py p meals).map fun l => (l.1, l.2.pantryQuantity)).filter (0 < ·.2)

/-- What some lines have of an ingredient, in a unit. -/
def sumIn (name unit : String) (lines : List (LineMeta × ℚ)) : ℚ :=
  ((lines.filter (·.1.canonicalName = name)).map fun l => inUnit py p name unit l.2 l.1.targetUnit).sum

/-- What the meals demand of an ingredient itself, as far as it is measured in the unit. -/
def ownDemand (name unit : String) : ℚ :=
  (meals.flatMap fun meal => (meal.recipe.ingredients.filter (·.canonicalName = name)).map fun ing =>
    (py.mul ing.quantity (py.div meal.servings meal.recipe.servings), ing.unit)).foldl
      (fun demand d => match convert py p.factors d.1 d.2 unit (some name) with
        | .ok q => py.add demand q
        | .error _ => demand) 0

/-- Of no ingredient more is drawn than there is, or than the meals demand of it, in the unit of any line that draws. -/
def WithinPantry : Prop := ∀ l ∈ draws py p meals,
  sumIn py p l.1.canonicalName l.1.targetUnit (draws py p meals) ≤ p.pantry.available py l.1.canonicalName l.1.targetUnit ∧
    sumIn py p l.1.canonicalName l.1.targetUnit (draws py p meals) ≤ ownDemand py p meals l.1.canonicalName l.1.targetUnit

/-- The lines with formats, by their first ingredients, with their demands. -/
def stocked : List (LineMeta × ℚ) :=
  (keysOf py p meals).filterMap fun key =>
    ((meals.findSome? (reached py p · key)).filter (·.product.any (·.packages ≠ []))).map fun line =>
      (line, total py p meals key)

/-- What is at home for a line. -/
def stockFor (line : LineMeta) : ℚ := p.pantry.available py line.canonicalName line.targetUnit

/-- The lines that find something of their first ingredients at home. -/
def served : List (LineMeta × ℚ) := (stocked py p meals).filter fun l => 0 < l.2 ∧ 0 < stockFor py p l.1

/-- What the lines that are served under an ingredient demand, in a unit. -/
def asked (name unit : String) : ℚ := sumIn py p name unit (served py p meals)

/-- The second line is for the same ingredient, in a unit that converts into that of the first. -/
def Shares (line line' : LineMeta) : Prop := line'.canonicalName = line.canonicalName ∧
  ∃ q, convert py p.factors 1 line'.targetUnit line.targetUnit (some line.canonicalName) = .ok q

/-- Where lines share a stock, it covers each of them and all together; and as much of the demand as it covers, the meals have
    for the ingredient itself. -/
structure Covered : Prop where
  shared : ∀ l l', [l, l'].Subperm (served py p meals) → Shares py p l.1 l'.1 →
    l.2 ≤ stockFor py p l.1 ∧ l'.2 ≤ stockFor py p l'.1 ∧ asked py p meals l.1.canonicalName l.1.targetUnit ≤ stockFor py p l.1
  own : ∀ l ∈ served py p meals, min (asked py p meals l.1.canonicalName l.1.targetUnit) (stockFor py p l.1) ≤
    ownDemand py p meals l.1.canonicalName l.1.targetUnit

end Definitions

/-! ### What is drawn -/

section Draws
variable {py : Runtime} {p : Provisioner} {meals : List MealAssignment} {l : LineMeta × ℚ}

theorem boughtLine_pantryQuantity {line : LineMeta} {needed : ℚ} : (boughtLine py p line needed).pantryQuantity =
    if line.product.any (·.packages ≠ []) then min needed (stockFor py p line) else 0 := by
  rw [← Option.isSome_filter]
  rcases boughtLine_cases py p line needed with ⟨hproduct, hline⟩ | ⟨product, hproduct, ⟨-, hline⟩ | ⟨choice, -, hline⟩⟩
  · rw [hline, hproduct]
    rfl
  · rw [hline, hproduct]
    rfl
  · rw [hline, hproduct]
    rfl

theorem draws_eq : draws py p meals = (served py p meals).map fun l => (l.1, min l.2 (stockFor py p l.1)) := by
  have hdraws : draws py p meals = ((stocked py p meals).map fun l => (l.1, min l.2 (stockFor py p l.1))).filter (0 < ·.2) := by
    unfold draws linesOf stocked
    simp only [List.map_filterMap, List.filter_filterMap, Option.map_map]
    congr 1
    funext key
    cases meals.findSome? (reached py p · key) with
    | none => rfl
    | some line =>
      simp only [Option.map_some, Function.comp_apply, boughtLine_pantryQuantity]
      by_cases hpackages : line.product.any (·.packages ≠ []) = true
      · have hstocked : (some line).filter (fun x : LineMeta => x.product.any (·.packages ≠ [])) = some line :=
          if_pos hpackages
        rw [if_pos hpackages, hstocked]
        rfl
      · have hstocked : (some line).filter (fun x : LineMeta => x.product.any (·.packages ≠ [])) = none := if_neg hpackages
        rw [if_neg hpackages, hstocked]
        exact Option.filter_some_neg (by simp)
  rw [hdraws, List.filter_map, served]
  congr 2
  funext l
  simp

theorem inUnit_self {name unit : String} {q : ℚ} : inUnit py p name unit q unit = q := by
  simp [inUnit, convert, convertWithin]

theorem inUnit_of_not_shares {line : LineMeta} {q : ℚ} (hname : l.1.canonicalName = line.canonicalName)
    (h : ¬Shares py p line l.1) : inUnit py p line.canonicalName line.targetUnit q l.1.targetUnit = 0 := by
  unfold inUnit
  split
  · next r hr => exact absurd ⟨hname, exists_convert hr 1⟩ h
  · rfl

theorem sumIn_draws {name unit : String} : sumIn py p name unit (draws py p meals) =
    (((served py p meals).filter (·.1.canonicalName = name)).map fun l =>
      inUnit py p name unit (min l.2 (stockFor py p l.1)) l.1.targetUnit).sum := by
  rw [sumIn, draws_eq, List.filter_map, List.map_map]
  rfl

theorem sum_alone (hl : l ∈ served py p meals) (halone : ∀ l', [l, l'].Subperm (served py p meals) → ¬Shares py p l.1 l'.1)
    (quantity : LineMeta × ℚ → ℚ) : (((served py p meals).filter (·.1.canonicalName = l.1.canonicalName)).map fun l' =>
      inUnit py p l.1.canonicalName l.1.targetUnit (quantity l') l'.1.targetUnit).sum = quantity l := by
  obtain ⟨before, after, hsplit⟩ := List.append_of_mem hl
  have hothers : ∀ others : List (LineMeta × ℚ), (∀ l' ∈ others, ¬Shares py p l.1 l'.1) →
      ((others.filter (·.1.canonicalName = l.1.canonicalName)).map fun l' =>
        inUnit py p l.1.canonicalName l.1.targetUnit (quantity l') l'.1.targetUnit).sum = 0 := by
    intro others hother
    refine List.sum_eq_zero fun x hx => ?_
    obtain ⟨l', hl', rfl⟩ := List.mem_map.mp hx
    obtain ⟨hmem, hname⟩ := List.mem_filter.mp hl'
    exact inUnit_of_not_shares (of_decide_eq_true hname) (hother l' hmem)
  have hbefore : ∀ l' ∈ before, ¬Shares py p l.1 l'.1 := fun l' hl' => by
    refine halone l' ((List.Perm.swap l' l []).subperm.trans ?_)
    rw [hsplit]
    exact ((List.singleton_sublist.mpr hl').append (List.singleton_sublist.mpr List.mem_cons_self)).subperm
  have hafter : ∀ l' ∈ after, ¬Shares py p l.1 l'.1 := fun l' hl' => by
    refine halone l' ?_
    rw [hsplit]
    exact (((List.singleton_sublist.mpr hl').cons_cons l).trans (List.sublist_append_right before _)).subperm
  rw [hsplit, List.filter_append, List.map_append, List.sum_append, List.filter_cons_of_pos (by simp), List.map_cons,
    List.sum_cons, inUnit_self, hothers before hbefore, hothers after hafter, zero_add, add_zero]

theorem drawn_alone (hl : l ∈ served py p meals) (halone : ∀ l', [l, l'].Subperm (served py p meals) → ¬Shares py p l.1 l'.1) :
    sumIn py p l.1.canonicalName l.1.targetUnit (draws py p meals) = min l.2 (stockFor py p l.1) := by
  rw [sumIn_draws]
  exact sum_alone hl halone fun l' => min l'.2 (stockFor py p l'.1)

theorem asked_alone (hl : l ∈ served py p meals) (halone : ∀ l', [l, l'].Subperm (served py p meals) → ¬Shares py p l.1 l'.1) :
    asked py p meals l.1.canonicalName l.1.targetUnit = l.2 :=
  sum_alone hl halone Prod.snd

theorem drawn_covered (h : ∀ l' ∈ served py p meals, Shares py p l.1 l'.1 → l'.2 ≤ stockFor py p l'.1) :
    sumIn py p l.1.canonicalName l.1.targetUnit (draws py p meals) = asked py p meals l.1.canonicalName l.1.targetUnit := by
  rw [sumIn_draws, asked, sumIn]
  refine congrArg List.sum (List.map_congr_left fun l' hl' => ?_)
  obtain ⟨hmem, hname⟩ := List.mem_filter.mp hl'
  by_cases hshares : Shares py p l.1 l'.1
  · rw [min_eq_left (h l' hmem hshares)]
  · rw [inUnit_of_not_shares (of_decide_eq_true hname) hshares, inUnit_of_not_shares (of_decide_eq_true hname) hshares]

theorem withinPantry_served : WithinPantry py p meals ↔ ∀ l ∈ served py p meals,
    sumIn py p l.1.canonicalName l.1.targetUnit (draws py p meals) ≤ stockFor py p l.1 ∧
      sumIn py p l.1.canonicalName l.1.targetUnit (draws py p meals) ≤ ownDemand py p meals l.1.canonicalName l.1.targetUnit := by
  constructor
  · intro h l hl
    have hdraws : (l.1, min l.2 (stockFor py p l.1)) ∈ draws py p meals := by
      rw [draws_eq]
      exact List.mem_map_of_mem hl
    exact h (l.1, min l.2 (stockFor py p l.1)) hdraws
  · intro h d hd
    rw [draws_eq] at hd
    obtain ⟨l, hl, rfl⟩ := List.mem_map.mp hd
    exact h l hl

/-! ### Whether the pantry is respected -/

theorem Covered.withinPantry (h : Covered py p meals) : WithinPantry py p meals := by
  refine withinPantry_served.mpr fun l hl => ?_
  by_cases hshared : ∃ l', [l, l'].Subperm (served py p meals) ∧ Shares py p l.1 l'.1
  · obtain ⟨l', hsub, hshares⟩ := hshared
    obtain ⟨hself, -, hasked⟩ := h.shared l l' hsub hshares
    have hcovers : ∀ a ∈ served py p meals, Shares py p l.1 a.1 → a.2 ≤ stockFor py p a.1 := by
      intro a ha hashares
      rcases eq_or_ne a l with rfl | hne
      · exact hself
      · exact (h.shared l a (List.Nodup.subperm (by simpa using hne.symm) (by simp [hl, ha])) hashares).2.1
    rw [drawn_covered hcovers]
    refine ⟨hasked, ?_⟩
    have hown := h.own l hl
    rwa [min_eq_left hasked] at hown
  · have halone : ∀ l', [l, l'].Subperm (served py p meals) → ¬Shares py p l.1 l'.1 :=
      fun l' hsub hshares => hshared ⟨l', hsub, hshares⟩
    have hown := h.own l hl
    rw [asked_alone hl halone] at hown
    rw [drawn_alone hl halone]
    exact ⟨min_le_right _ _, hown⟩

theorem Shares.symm (hpaired : p.factors.Paired) {line line' : LineMeta} (h : Shares py p line line') : Shares py p line' line := by
  obtain ⟨hname, q, hq⟩ := h
  refine ⟨hname.symm, ?_⟩
  rw [hname]
  exact exists_convert_comm hpaired hq 1

theorem WithinPantry.lt_stockFor (h : WithinPantry py p meals) (hexact : py.round = id) (hpositive : p.factors.Positive)
    {l' : LineMeta × ℚ} (hsub : [l, l'].Subperm (served py p meals)) (hshares : Shares py p l.1 l'.1) :
    l.2 < stockFor py p l.1 := by
  have hserved : ∀ a ∈ served py p meals, 0 < min a.2 (stockFor py p a.1) := fun a ha =>
    lt_min_iff.mpr (of_decide_eq_true (List.mem_filter.mp ha).2)
  have hl : l ∈ served py p meals := hsub.subset List.mem_cons_self
  have hl' : l' ∈ served py p meals := hsub.subset (List.mem_cons_of_mem _ List.mem_cons_self)
  have hterm : ∀ a ∈ served py p meals, 0 ≤ inUnit py p l.1.canonicalName l.1.targetUnit (min a.2 (stockFor py p a.1)) a.1.targetUnit := by
    intro a ha
    unfold inUnit
    split
    · next r hr => exact (convert_pos hexact hpositive (hserved a ha) hr).le
    · exact le_rfl
  have hpair : min l.2 (stockFor py p l.1) +
      inUnit py p l.1.canonicalName l.1.targetUnit (min l'.2 (stockFor py p l'.1)) l'.1.targetUnit ≤
      sumIn py p l.1.canonicalName l.1.targetUnit (draws py p meals) := by
    have hfiltered := hsub.filter (·.1.canonicalName = l.1.canonicalName)
    rw [List.filter_eq_self.mpr (by simp [hshares.1])] at hfiltered
    obtain ⟨lines, hperm, hlines⟩ := hfiltered
    have hsum := (hlines.map fun a => inUnit py p l.1.canonicalName l.1.targetUnit (min a.2 (stockFor py p a.1)) a.1.targetUnit).sum_le_sum
      fun x hx => by
        obtain ⟨a, ha, rfl⟩ := List.mem_map.mp hx
        exact hterm a (List.mem_of_mem_filter ha)
    rw [(hperm.map _).sum_eq, ← sumIn_draws, List.map_cons, List.map_cons, List.sum_cons, List.sum_cons, inUnit_self] at hsum
    simpa using hsum
  have hother : 0 < inUnit py p l.1.canonicalName l.1.targetUnit (min l'.2 (stockFor py p l'.1)) l'.1.targetUnit := by
    obtain ⟨-, q, hq⟩ := hshares
    obtain ⟨r, hr⟩ := exists_convert hq (min l'.2 (stockFor py p l'.1))
    rw [inUnit, hr]
    exact convert_pos hexact hpositive (hserved l' hl') hr
  have hstock := (withinPantry_served.mp h l hl).1
  by_contra hle
  rw [min_eq_right (not_lt.mp hle)] at hpair
  linarith

theorem WithinPantry.covered (h : WithinPantry py p meals) (hexact : py.round = id) (hpositive : p.factors.Positive)
    (hpaired : p.factors.Paired) : Covered py p meals := by
  have hdrawn : ∀ l l', [l, l'].Subperm (served py p meals) → Shares py p l.1 l'.1 →
      sumIn py p l.1.canonicalName l.1.targetUnit (draws py p meals) = asked py p meals l.1.canonicalName l.1.targetUnit := by
    intro l l' hsub hshares
    have hl : l ∈ served py p meals := hsub.subset List.mem_cons_self
    refine drawn_covered fun a ha hashares => ?_
    rcases eq_or_ne a l with rfl | hne
    · exact (h.lt_stockFor hexact hpositive hsub hshares).le
    · exact (h.lt_stockFor hexact hpositive (List.Nodup.subperm (by simpa using hne) (by simp [hl, ha])) (hashares.symm hpaired)).le
  constructor
  · intro l l' hsub hshares
    have hl : l ∈ served py p meals := hsub.subset List.mem_cons_self
    refine ⟨(h.lt_stockFor hexact hpositive hsub hshares).le, ?_, ?_⟩
    · exact (h.lt_stockFor hexact hpositive ((List.Perm.swap _ _ _).subperm.trans hsub) (hshares.symm hpaired)).le
    · rw [← hdrawn l l' hsub hshares]
      exact (withinPantry_served.mp h l hl).1
  · intro l hl
    have hown := (withinPantry_served.mp h l hl).2
    by_cases hshared : ∃ l', [l, l'].Subperm (served py p meals) ∧ Shares py p l.1 l'.1
    · obtain ⟨l', hsub, hshares⟩ := hshared
      rw [← hdrawn l l' hsub hshares]
      exact (min_le_left _ _).trans hown
    · have halone : ∀ l', [l, l'].Subperm (served py p meals) → ¬Shares py p l.1 l'.1 :=
        fun l' hsub hshares => hshared ⟨l', hsub, hshares⟩
      rwa [asked_alone hl halone, ← drawn_alone hl halone]

end Draws

/-- A stock that covers the lines which share it, and serves none but its own ingredient, is respected; no other is, as far
    as the quantities are exact. -/
theorem withinPantry_iff (py : Runtime) (p : Provisioner) (meals : List MealAssignment) :
    (Covered py p meals → WithinPantry py p meals) ∧
      (py.round = id → ∀ conversions, p.factors = unitConverter py conversions → (∀ conv ∈ conversions, 0 < conv.factor) →
        WithinPantry py p meals → Covered py p meals) := by
  refine ⟨Covered.withinPantry, fun hexact conversions hfactors hpositive h => ?_⟩
  refine h.covered hexact ?_ ?_
  · rw [hfactors]
    exact unitConverter_positive hexact hpositive
  · rw [hfactors]
    exact unitConverter_paired hpositive

theorem withinPantry_milkTwice : Covered (Runtime.replay []) milkAtHome [drink 0 "leche", drink 1 "leche"] ∧
    WithinPantry (Runtime.replay []) milkAtHome [drink 0 "leche", drink 1 "leche"] := by
  have hwithin : WithinPantry (Runtime.replay []) milkAtHome [drink 0 "leche", drink 1 "leche"] := by
    unfold WithinPantry
    decide +kernel
  have hcovered := (withinPantry_iff (Runtime.replay []) milkAtHome _).2 rfl [] rfl (List.forall_mem_nil _) hwithin
  exact ⟨hcovered, (withinPantry_iff (Runtime.replay []) milkAtHome _).1 hcovered⟩

/-- The milk that is drunk as such is half a litre, and a litre is drawn. -/
theorem not_withinPantry_horchata : ¬∀ (py : Runtime) (p : Provisioner) (meals : List MealAssignment), WithinPantry py p meals := by
  intro h
  have hwithin := h (Runtime.replay []) milkAtHome [drink 0 "leche", drink 1 "horchata"]
  revert hwithin
  unfold WithinPantry
  decide +kernel

end Provisioner
end CestaPlan.Engine
