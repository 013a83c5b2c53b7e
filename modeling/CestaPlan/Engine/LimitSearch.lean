import CestaPlan.Engine.Planning
import CestaPlan.Library.Runs

/-! The local search and the limit of the budget. The limit is no check: a plan over it has a penalty, which is weighed against the
    rest of the score. -/

namespace CestaPlan.Engine
namespace PlanOptimizer
open LocalSearch Runs

section Definitions
variable (py : Runtime) (o : PlanOptimizer)

/-- The score without the penalty. -/
def planScore (slots : List MealSlot) (recipes : List CandidateRecipeDTO) : ℚ :=
  let w := o.weights
  let prov := o.provision py slots recipes
  let pantryBonus := prov.groceryLines.countP fun line => decide (0 < line.pantryQuantity)
  let favoriteBonus := recipes.countP (o.favorites.contains ·.recipeId)
  let rejected := recipes.countP (o.rejectedRecipeIds.contains ·.recipeId)
  let soft := (recipes.map fun r => o.softPenalty.getD r.recipeId 0).sum
  let score := py.add (py.mul w.waste (wasteValue py prov)) (py.mul w.repetition (repetition recipes))
  let score := py.add score (py.mul w.time (timeHours py recipes))
  let score := py.add score (py.mul w.soft soft)
  let score := py.sub score (py.mul w.pantry pantryBonus)
  let score := py.sub score (py.mul w.favorite favoriteBonus)
  let score := py.add score (py.mul w.rejected rejected)
  let score := py.add score (py.mul w.nutritionDeviation (o.nutritionPenalty py slots recipes))
  if o.budget.priority = .price then py.add score (py.mul w.cost (prov.costTotal py)) else score

def penalty (slots : List MealSlot) (recipes : List CandidateRecipeDTO) : ℚ :=
  py.mul budgetPenalty (py.sub (o.costOf py slots recipes) (o.budgetLimit py))

/-- The plan with another recipe at position `i` has a lower score even with the penalty, or the same one and a lower id. -/
def Outweighs (slots : List MealSlot) (chosen : List CandidateRecipeDTO) (i : ℕ) (recipe : CandidateRecipeDTO) : Prop :=
  ∃ current ∈ chosen[i]?, recipe.recipeId ≠ current.recipeId ∧
    toLex (py.add (o.planScore py slots (chosen.set i recipe)) (o.penalty py slots (chosen.set i recipe)), recipe.recipeId) <
      toLex (o.planScore py slots chosen, current.recipeId)

/-- `K` holds at every visit of a slot by at most so many passes. -/
def AlongPasses (K : Walk py × Bool → Opening × ℕ → Prop) (openings : List Opening) : ℕ → Walk py → Prop
  | 0, _ => True
  | n + 1, w => Along (o.visit py (openings.map (·.slot))) K (w, false) openings.zipIdx ∧
      ((o.pass py openings w).2 = true → AlongPasses K openings n (o.pass py openings w).1)

/-- From a plan within the limit, the search accepts and returns only plans within the limit. -/
def KeepsLimit (openings : List Opening) (seed : List CandidateRecipeDTO × py.RandomState) (cheapest : Option Cheapest) : Prop :=
  o.costOf py (openings.map (·.slot)) seed.1 ≤ o.budgetLimit py →
    o.AlongPasses py (fun state place =>
        o.costOf py (openings.map (·.slot)) (o.visit py (openings.map (·.slot)) state place).1.chosen ≤ o.budgetLimit py)
      openings maxPasses (o.startWalk py (openings.map (·.slot)) seed cheapest) ∧
    (o.localSearch py openings seed cheapest).bestProv.costTotal py ≤ o.budgetLimit py

/-- No swap that is tried at a visit takes the plan over the limit and still outweighs the penalty. -/
def Steered (openings : List Opening) (state : Walk py × Bool) (place : Opening × ℕ) : Prop :=
  ∀ recipe ∈ tried (o.accepts py (openings.map (·.slot)) state.1.chosen place.2) (ordered py place.1.options state.1.rng).1,
    o.budgetLimit py < o.costOf py (openings.map (·.slot)) (state.1.chosen.set place.2 recipe) →
      ¬ o.Outweighs py (openings.map (·.slot)) state.1.chosen place.2 recipe

end Definitions

section Limit
variable {py : Runtime} {o : PlanOptimizer} {slots : List MealSlot} {openings : List Opening} {w : Walk py}
  {chosen : List CandidateRecipeDTO} {i : ℕ} {recipe current : CandidateRecipeDTO}

theorem scoreOf_eq : o.scoreOf py slots chosen =
    if o.budgetLimit py < o.costOf py slots chosen then py.add (o.planScore py slots chosen) (o.penalty py slots chosen)
    else o.planScore py slots chosen := rfl

theorem accepts_iff_outweighs (hin : o.costOf py slots chosen ≤ o.budgetLimit py)
    (hover : o.budgetLimit py < o.costOf py slots (chosen.set i recipe)) :
    o.accepts py slots chosen i recipe = true ↔ o.Outweighs py slots chosen i recipe := by
  simp only [accepts, Outweighs, Option.any_eq_true, Bool.and_eq_true, decide_eq_true_eq, scoreOf_eq, if_pos hover,
    if_neg (not_lt.mpr hin), Option.mem_def]

/-- What a walk carries along is that of its plan. -/
structure Carries (o : PlanOptimizer) (slots : List MealSlot) (w : Walk py) : Prop where
  prov_eq : w.bestProv = o.provision py slots w.chosen
  score_eq : w.bestScore = o.scoreOf py slots w.chosen

theorem startWalk_carries (slots : List MealSlot) (seed : List CandidateRecipeDTO × py.RandomState) (cheapest : Option Cheapest) :
    Carries o slots (o.startWalk py slots seed cheapest) := by
  constructor
  · simp only [startWalk]
  · simp only [startWalk, scoreOf]

theorem trySwap_carries (options : List CandidateRecipeDTO) (hw : Carries o slots w) (hcur : w.chosen[i]? = some current) :
    Carries o slots (o.trySwap py slots i current options w).1 ∧
      (o.trySwap py slots i current options w).1.chosen =
        (options.find? (o.accepts py slots w.chosen i)).elim w.chosen (w.chosen.set i) := by
  induction options generalizing w with
  | nil => exact ⟨hw, rfl⟩
  | cons recipe rest ih =>
    rcases trySwap_cons recipe rest hcur hw.score_eq with ⟨hacc, heq⟩ | ⟨hacc, cheapest, -, heq⟩
    · rw [heq, List.find?_cons_of_pos hacc]
      exact ⟨⟨rfl, rfl⟩, rfl⟩
    · rw [heq, List.find?_cons_of_neg (by simp [hacc])]
      exact ih (w := { w with cheapest := cheapest }) ⟨hw.prov_eq, hw.score_eq⟩ hcur

theorem visit_carries (state : Walk py × Bool) (place : Opening × ℕ) (hw : Carries o slots state.1) :
    Carries o slots (o.visit py slots state place).1 ∧ (o.visit py slots state place).1.chosen =
      ((ordered py place.1.options state.1.rng).1.find? (o.accepts py slots state.1.chosen place.2)).elim state.1.chosen
        (state.1.chosen.set place.2) := by
  cases hcur : state.1.chosen[place.2]? with
  | none =>
    have hnone : (ordered py place.1.options state.1.rng).1.find? (o.accepts py slots state.1.chosen place.2) = none :=
      List.find?_eq_none.mpr fun recipe _ => by simp [accepts, hcur]
    simp only [visit, hcur, hnone]
    exact ⟨hw, rfl⟩
  | some current =>
    simp only [visit, hcur]
    exact trySwap_carries (w := { state.1 with rng := (ordered py place.1.options state.1.rng).2 }) _ ⟨hw.prov_eq, hw.score_eq⟩ hcur

theorem visit_within_iff (state : Walk py × Bool) (place : Opening × ℕ) (hw : Carries o (openings.map (·.slot)) state.1)
    (hin : o.costOf py (openings.map (·.slot)) state.1.chosen ≤ o.budgetLimit py) :
    o.costOf py (openings.map (·.slot)) (o.visit py (openings.map (·.slot)) state place).1.chosen ≤ o.budgetLimit py ↔
      o.Steered py openings state place := by
  rw [(visit_carries state place hw).2]
  cases hfound : (ordered py place.1.options state.1.rng).1.find?
      (o.accepts py (openings.map (·.slot)) state.1.chosen place.2) with
  | none =>
    refine iff_of_true hin fun recipe htried hover houtweighs => ?_
    have hacc := (accepts_iff_outweighs hin hover).mpr houtweighs
    exact absurd ((mem_tried_iff hacc).mp htried) (by simp [hfound])
  | some found =>
    have hacc := List.find?_some hfound
    constructor
    · intro hle recipe htried hover houtweighs
      have hsame := (mem_tried_iff ((accepts_iff_outweighs hin hover).mpr houtweighs)).mp htried
      obtain rfl : found = recipe := Option.some.inj (hfound.symm.trans hsame)
      exact absurd hle (not_le.mpr hover)
    · intro hsteered
      by_contra hover
      exact hsteered found ((mem_tried_iff hacc).mpr hfound) (not_le.mp hover)
        ((accepts_iff_outweighs hin (not_le.mp hover)).mp hacc)

/-- The walk carries its plan along, which is within the limit. -/
def Within (o : PlanOptimizer) (openings : List Opening) (w : Walk py) : Prop :=
  Carries o (openings.map (·.slot)) w ∧ o.costOf py (openings.map (·.slot)) w.chosen ≤ o.budgetLimit py

theorem visit_within (state : Walk py × Bool) (place : Opening × ℕ) (hw : Within o openings state.1)
    (hsteered : o.Steered py openings state place) :
    Within o openings (o.visit py (openings.map (·.slot)) state place).1 :=
  ⟨(visit_carries state place hw.1).1, (visit_within_iff state place hw.1 hw.2).mpr hsteered⟩

theorem pass_within (hw : Within o openings w)
    (hsteered : Along (o.visit py (openings.map (·.slot))) (o.Steered py openings) (w, false) openings.zipIdx) :
    Within o openings (o.pass py openings w).1 :=
  along_invariant (I := fun state => Within o openings state.1) visit_within hw hsteered openings.zipIdx (List.prefix_refl _)

/-- All visits of a search stay within the limit exactly if no swap that is tried outweighs the penalty; then so does the end. -/
theorem passes_within_iff (n : ℕ) (hw : Within o openings w) :
    (o.AlongPasses py (fun state place =>
        o.costOf py (openings.map (·.slot)) (o.visit py (openings.map (·.slot)) state place).1.chosen ≤ o.budgetLimit py)
      openings n w ↔ o.AlongPasses py (o.Steered py openings) openings n w) ∧
    (o.AlongPasses py (o.Steered py openings) openings n w → Within o openings (o.passes py openings n w)) := by
  induction n generalizing w with
  | zero => exact ⟨Iff.rfl, fun _ => hw⟩
  | succ n ih =>
    have hpass : Along (o.visit py (openings.map (·.slot))) (fun state place =>
        o.costOf py (openings.map (·.slot)) (o.visit py (openings.map (·.slot)) state place).1.chosen ≤ o.budgetLimit py)
          (w, false) openings.zipIdx ↔
        Along (o.visit py (openings.map (·.slot))) (o.Steered py openings) (w, false) openings.zipIdx := by
      refine along_congr (I := fun state => Within o openings state.1) (fun state place h => ?_) visit_within hw
      exact visit_within_iff state place h.1 h.2
    constructor
    · unfold AlongPasses
      rw [hpass]
      refine and_congr_right fun hsteered => forall_congr' fun _ => ?_
      exact (ih (pass_within hw hsteered)).1
    · rintro ⟨hsteered, hrest⟩
      rw [passes_succ]
      split
      · next hmoved => exact (ih (pass_within hw hsteered)).2 (hrest hmoved)
      · exact pass_within hw hsteered

/-- The search keeps the limit exactly if no swap that it tries outweighs the penalty. -/
theorem keepsLimit_iff {seed : List CandidateRecipeDTO × py.RandomState} {cheapest : Option Cheapest} :
    o.KeepsLimit py openings seed cheapest ↔
      (o.costOf py (openings.map (·.slot)) seed.1 ≤ o.budgetLimit py →
        o.AlongPasses py (o.Steered py openings) openings maxPasses (o.startWalk py (openings.map (·.slot)) seed cheapest)) := by
  refine forall_congr' fun hseed => ?_
  have hstart : Within o openings (o.startWalk py (openings.map (·.slot)) seed cheapest) :=
    ⟨startWalk_carries (openings.map (·.slot)) seed cheapest, hseed⟩
  obtain ⟨hiff, hend⟩ := passes_within_iff maxPasses hstart
  rw [hiff]
  refine and_iff_left_of_imp fun hsteered => ?_
  obtain ⟨hcarries, hle⟩ := hend hsteered
  unfold localSearch
  rw [hcarries.prov_eq]
  exact hle

end Limit
end PlanOptimizer

/-! ### A rejected dish that fits the budget -/

def mangoDish : CandidateRecipeDTO where
  recipeId := "r1"
  title := "Mango"
  mealTypes := [.lunch]
  ingredients := [{ canonicalName := "mango", displayName := "Mango", quantity := 1, unit := "ud" }]

def papayaDish : CandidateRecipeDTO where
  recipeId := "r2"
  title := "Papaya"
  mealTypes := [.lunch]
  ingredients := [{ canonicalName := "papaya", displayName := "Papaya", quantity := 1, unit := "ud" }]

/-- A lunch within 5. The mango that Ana rejects costs 3, and the papaya costs 6. -/
def rejectedMango : PlanInput where
  members := [{ memberAlias := "Ana", rejectedRecipeIds := ["r1"] }]
  mealRequirements := [{ mealType := .lunch, requestedCount := 1 }]
  budget := { amount := 5 }
  dateRange := (739817, 739817)
  catalog :=
    [{ productId := "p1", canonicalName := "mango", displayName := "Mango"
       packages := [{ productId := "p1", packageQuantity := 1, packageUnit := "ud", amount := 3 }] },
     { productId := "p2", canonicalName := "papaya", displayName := "Papaya"
       packages := [{ productId := "p2", packageQuantity := 1, packageUnit := "ud", amount := 6 }] }]
  candidates := [mangoDish, papayaDish]

/-- From the mango the search goes over to the papaya: a rejected dish costs more than the million for the euro over the limit. -/
theorem not_keepsLimit_rejectedMango : ¬ (rejectedMango.optimizer (Runtime.replay [])).KeepsLimit (Runtime.replay [])
    (PlanOptimizer.openingsOf rejectedMango.slots (rejectedMango.feasible (Runtime.replay []))) ([mangoDish], []) none := by
  intro h
  obtain ⟨-, hle⟩ := h (by decide +kernel)
  exact absurd hle (by decide +kernel)

end CestaPlan.Engine
