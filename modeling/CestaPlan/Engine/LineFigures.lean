import CestaPlan.Engine.GroceryLines

/-! The figures of the lines of a provision: each line is that of the ingredient which reaches its key first, for the whole
    demand of the key. -/

namespace CestaPlan.Engine
namespace Provisioner

section Definitions
variable (py : Runtime) (p : Provisioner)

/-- The line that a key gets for its first ingredient and its demand. -/
def boughtLine (line : LineMeta) (needed : ℚ) : GroceryLineDTO :=
  match line.product.filter (·.packages ≠ []) with
  | none => unpricedLine line needed 0 needed
  | some product =>
    let (pantryUsed, pending) := p.pantry.pending py line.canonicalName needed line.targetUnit
    match choosePackage py pending product.packages p.asOf p.weights.waste p.weights.cost with
    | none => unpricedLine line needed pantryUsed pending
    | some choice => pricedLine line product needed pantryUsed pending choice

/-- What a line adds to the known and to the estimated cost. -/
def charge (costs : ℚ × ℚ) (line : GroceryLineDTO) : ℚ × ℚ :=
  if line.packagePrice.isNone then costs
  else if line.subtotalKnown then (py.add costs.1 line.subtotal, costs.2)
  else (costs.1, py.add costs.2 line.subtotal)

/-- The first ingredient of a meal that reaches a key. -/
def reached (meal : MealAssignment) (key : LineKey) : Option LineMeta :=
  ((meal.recipe.ingredients.map (contribution py p meal)).find? (·.key = key)).map (·.line)

/-- The demand of a key. -/
def total (meals : List MealAssignment) (key : LineKey) : ℚ :=
  ((contributions py p meals).filter (·.2.key = key)).foldl (fun needed c => py.add needed c.2.quantity) 0

/-- The keys that the meals reach, in order. -/
def keysOf (meals : List MealAssignment) : List LineKey := (demandOf py p meals).demand.keys.insertionSort LineKey.upTo

/-- The lines, each with its first ingredient. -/
def linesOf (meals : List MealAssignment) : List (LineMeta × GroceryLineDTO) :=
  (keysOf py p meals).filterMap fun key =>
    (meals.findSome? (reached py p · key)).map fun line => (line, boughtLine py p line (total py p meals key))

end Definitions

section Demands
variable {py : Runtime} {p : Provisioner} {meals : List MealAssignment} {key : LineKey}

theorem lineMeta_eq : (demandOf py p meals).lineMeta.get? key = meals.findSome? (reached py p · key) := by
  have hfold : (demandOf py p meals).lineMeta =
      (contributions py p meals).foldl (fun lines c => lines.setDefault c.2.key c.2.line) Dict.empty :=
    (List.foldl_hom Demand.lineMeta fun _ _ => rfl).symm
  have hfirst : (contributions py p meals).find? (·.2.key = key) = meals.findSome? fun meal =>
      ((meal.recipe.ingredients.map (contribution py p meal)).find? (·.key = key)).map (meal.slotIndex, ·) := by
    rw [contributions, List.find?_flatMap]
    congr 1
    funext meal
    simp only [List.find?_map, Option.map_map]
    rfl
  rw [hfold, Dict.get?_foldl_setDefault, hfirst, List.map_findSome?]
  simp only [Function.comp_def, Option.map_map]
  rfl

theorem demand_eq : (demandOf py p meals).demand.getD key 0 = total py p meals key := by
  unfold demandOf total
  induction contributions py p meals using List.reverseRecOn with
  | nil => rfl
  | append_singleton cs c ih =>
    rw [List.foldl_append, List.filter_append, List.foldl_append, List.foldl_cons, List.foldl_nil, ← ih]
    simp only [Demand.add, Dict.getD, Dict.get?_set]
    by_cases hkey : c.2.key = key
    · rw [if_pos hkey.symm, List.filter_cons_of_pos (by simpa using hkey), hkey]
      rfl
    · rw [if_neg (Ne.symm hkey), List.filter_cons_of_neg (by simpa using hkey)]
      rfl

end Demands

section Lines
variable (py : Runtime) (p : Provisioner) (meals : List MealAssignment) {d : Demand} {key : LineKey}

theorem boughtLine_cases (line : LineMeta) (needed : ℚ) :
    (line.product.filter (·.packages ≠ []) = none ∧ boughtLine py p line needed = unpricedLine line needed 0 needed) ∨
    ∃ product, line.product.filter (·.packages ≠ []) = some product ∧
      ((choosePackage py (p.pantry.pending py line.canonicalName needed line.targetUnit).2 product.packages p.asOf
          p.weights.waste p.weights.cost = none ∧
        boughtLine py p line needed = unpricedLine line needed
          (p.pantry.pending py line.canonicalName needed line.targetUnit).1
          (p.pantry.pending py line.canonicalName needed line.targetUnit).2) ∨
      ∃ choice, choosePackage py (p.pantry.pending py line.canonicalName needed line.targetUnit).2 product.packages p.asOf
          p.weights.waste p.weights.cost = some choice ∧
        boughtLine py p line needed = pricedLine line product needed
          (p.pantry.pending py line.canonicalName needed line.targetUnit).1
          (p.pantry.pending py line.canonicalName needed line.targetUnit).2 choice) := by
  unfold boughtLine
  cases hproduct : line.product.filter (·.packages ≠ []) with
  | none => exact .inl ⟨rfl, rfl⟩
  | some product =>
    refine .inr ⟨product, rfl, ?_⟩
    simp only
    cases hchoice : choosePackage py (p.pantry.pending py line.canonicalName needed line.targetUnit).2 product.packages p.asOf
        p.weights.waste p.weights.cost with
    | none => exact .inl ⟨rfl, rfl⟩
    | some choice => exact .inr ⟨choice, rfl, rfl⟩

theorem addLine_bought (prov : Provision) {line : LineMeta} (h : d.lineMeta.get? key = some line) :
    (addLine py p meals d prov key).groceryLines = prov.groceryLines ++ [boughtLine py p line (d.demand.getD key 0)] ∧
      ((addLine py p meals d prov key).costKnown, (addLine py p meals d prov key).costEstimated) =
        charge py (prov.costKnown, prov.costEstimated) (boughtLine py p line (d.demand.getD key 0)) := by
  simp only [addLine, h, boughtLine]
  cases line.product.filter (·.packages ≠ []) with
  | none => exact ⟨rfl, rfl⟩
  | some product =>
    simp only
    cases choosePackage py (p.pantry.pending py line.canonicalName (d.demand.getD key 0) line.targetUnit).2
        product.packages p.asOf p.weights.waste p.weights.cost with
    | none => exact ⟨rfl, rfl⟩
    | some choice =>
      refine ⟨rfl, ?_⟩
      cases hknown : choice.priceKnown <;> simp [charge, pricedLine, hknown]

theorem foldl_addLine (d : Demand) (prov : Provision) (keys : List LineKey) :
    let lines := keys.filterMap fun key => (d.lineMeta.get? key).map fun line => boughtLine py p line (d.demand.getD key 0)
    (keys.foldl (addLine py p meals d) prov).groceryLines = prov.groceryLines ++ lines ∧
      ((keys.foldl (addLine py p meals d) prov).costKnown, (keys.foldl (addLine py p meals d) prov).costEstimated) =
        lines.foldl (charge py) (prov.costKnown, prov.costEstimated) := by
  induction keys generalizing prov with
  | nil => exact ⟨(List.append_nil _).symm, rfl⟩
  | cons key keys ih =>
    obtain ⟨hlines, hcosts⟩ := ih (addLine py p meals d prov key)
    cases hline : d.lineMeta.get? key with
    | none =>
      have hsame : addLine py p meals d prov key = prov := by simp only [addLine, hline]
      rw [hsame] at hlines hcosts
      simp only [List.foldl_cons, List.filterMap_cons, hline, Option.map_none, hsame]
      exact ⟨hlines, hcosts⟩
    | some line =>
      obtain ⟨hbought, hcharge⟩ := addLine_bought py p meals prov hline
      simp only [List.foldl_cons, List.filterMap_cons, hline, Option.map_some]
      rw [hlines, hcosts, hbought, hcharge, List.append_assoc]
      exact ⟨rfl, rfl⟩

theorem provision_lines : (provision py p meals).groceryLines = (linesOf py p meals).map (·.2) ∧
    ((provision py p meals).costKnown, (provision py p meals).costEstimated) =
      ((linesOf py p meals).map (·.2)).foldl (charge py) (0, 0) := by
  have hlines : (linesOf py p meals).map (·.2) = (keysOf py p meals).filterMap fun key =>
      ((demandOf py p meals).lineMeta.get? key).map fun line =>
        boughtLine py p line ((demandOf py p meals).demand.getD key 0) := by
    rw [linesOf, List.map_filterMap]
    simp only [lineMeta_eq, demand_eq, Option.map_map]
    rfl
  rw [hlines]
  exact foldl_addLine py p meals (demandOf py p meals) { warnings := (demandOf py p meals).warnings } _

end Lines
end Provisioner
end CestaPlan.Engine
