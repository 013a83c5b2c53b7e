import CestaPlan.Candidates.Proposals
import CestaPlan.Engine.Conversions

/-! The amounts of an accepted recipe. The unit of each ingredient is repaired to the default unit of its row, and the
    quantity is copied. -/

namespace CestaPlan.Candidates
open Engine Catalog

/-- Decimals without a context. -/
def exactly (py : Runtime) : Runtime := { py with round := id }

theorem exactly_round {py : Runtime} : (exactly py).round = id := rfl

section Amounts
variable (py : Runtime) (conversions : List IngredientConversionDTO)

/-- The converter of the engine takes the proposed amount to the quantity, in the unit. -/
def Denotes (ing : OAIIngredient) (name : String) (quantity : ℚ) (unit : String) : Prop :=
  convert (exactly py) (unitConverter (exactly py) conversions) ing.quantity ing.unit unit (some name) = .ok quantity

/-- Every line of an accepted recipe has the amount that was proposed. -/
def StoredAsProposed (allowed : Dict String Ingredient) (parsed : OAIRecipe) (recipe : Recipe) : Prop :=
  List.Forall₂ (fun kept line => Denotes py conversions kept.1 line.canonicalName line.quantity line.unit)
    (keptOf allowed parsed) recipe.ingredients

/-- So has every line that the engine sees. -/
def PassedAsProposed (allowed : Dict String Ingredient) (parsed : OAIRecipe) (dto : CandidateRecipeDTO) : Prop :=
  List.Forall₂ (fun kept line => Denotes py conversions kept.1 line.canonicalName line.quantity line.unit)
    (keptOf allowed parsed) dto.ingredients

/-- One of the first unit is one of the second, for the ingredient. -/
def OneForOne (name fromUnit toUnit : String) : Prop :=
  convert (exactly py) (unitConverter (exactly py) conversions) 1 fromUnit toUnit (some name) = .ok 1

/-- The default unit, if there is one, measures the ingredient as the proposed one does, and the column has the digits
    of the quantity. -/
structure Copyable (kept : OAIIngredient × Ingredient) : Prop where
  unit : ∀ unit ∈ kept.2.defaultUnit, unit ≠ "" → OneForOne py conversions kept.2.canonicalName kept.1.unit unit
  digits : Numeric.roundScale 4 kept.1.quantity = kept.1.quantity

end Amounts

/-! ### Which amounts are copied rightly -/

section Copied
variable {py : Runtime} {conversions : List IngredientConversionDTO} {ing : OAIIngredient} {kept : OAIIngredient × Ingredient}
variable {name unit : String}

theorem denotes_iff {quantity : ℚ} : Denotes py conversions ing name quantity unit ↔
    ∃ rate, convert (exactly py) (unitConverter (exactly py) conversions) 1 ing.unit unit (some name) = .ok rate ∧
      ing.quantity * rate = quantity := by
  rw [Denotes, convert_mul exactly_round]
  cases convert (exactly py) (unitConverter (exactly py) conversions) 1 ing.unit unit (some name) with
  | error e => exact iff_of_false (fun h => by cases h) fun ⟨_, h, _⟩ => by cases h
  | ok rate => simp [Except.map]

theorem denotes_quantity_iff : Denotes py conversions ing name ing.quantity unit ↔
    OneForOne py conversions name ing.unit unit := by
  rw [denotes_iff, OneForOne]
  constructor
  · rintro ⟨rate, hrate, hmul⟩
    rw [hrate, mul_left_cancel₀ ing.quantity_pos.ne' (hmul.trans (mul_one _).symm)]
  · exact fun h => ⟨1, h, mul_one _⟩

theorem oneForOne_self : OneForOne py conversions name unit unit := by
  simp [OneForOne, convert, convertWithin]

theorem oneForOne_keptUnit_iff : OneForOne py conversions name kept.1.unit (keptUnit kept) ↔
    ∀ unit ∈ kept.2.defaultUnit, unit ≠ "" → OneForOne py conversions name kept.1.unit unit := by
  unfold keptUnit textOr
  cases kept.2.defaultUnit with
  | none => exact iff_of_true oneForOne_self fun unit h => absurd h (Option.not_mem_none unit)
  | some unit =>
    simp only [Option.getD_some]
    split
    · next hempty =>
      refine iff_of_true oneForOne_self fun unit' h hne => absurd ?_ hne
      rw [← Option.some.inj h]
      exact hempty
    · next hne =>
      constructor
      · intro h unit' hunit _
        rwa [← Option.some.inj hunit]
      · exact fun h => h unit rfl hne

theorem denotes_kept_iff : (Denotes py conversions kept.1 (keptRow kept).canonicalName (keptRow kept).quantity (keptRow kept).unit ∧
    Denotes py conversions kept.1 (keptDTO kept).canonicalName (keptDTO kept).quantity (keptDTO kept).unit) ↔
      Copyable py conversions kept := by
  have hpassed : Denotes py conversions kept.1 (keptDTO kept).canonicalName (keptDTO kept).quantity (keptDTO kept).unit ↔ _ :=
    denotes_quantity_iff.trans oneForOne_keptUnit_iff
  constructor
  · rintro ⟨hstored, hp⟩
    refine ⟨hpassed.mp hp, ?_⟩
    exact Except.ok.inj (hstored.symm.trans hp)
  · rintro ⟨hunit, hdigits⟩
    have hp := hpassed.mpr hunit
    refine ⟨?_, hp⟩
    show Denotes py conversions kept.1 _ (Numeric.roundScale 4 kept.1.quantity) _
    rw [hdigits]
    exact hp

end Copied

section Response
variable {modelId : Option String} {request : CandidateRequest} {allowed : Dict String Ingredient}
variable {state state' : Database × List CandidateRecipeDTO} {recipes : List OAIRecipe}

theorem foldlM_acceptStep_recipes (h : recipes.foldlM (acceptStep modelId request allowed) state = .ok state') :
    ∃ rows, state'.1.recipes = state.1.recipes ++ rows ∧
      List.Forall₂ (fun parsed row => ∃ id, row = acceptedRow modelId request id parsed (keptOf allowed parsed))
        (recipes.filter (usable allowed)) rows := by
  induction recipes generalizing state with
  | nil =>
    cases h
    exact ⟨[], (List.append_nil _).symm, List.Forall₂.nil⟩
  | cons parsed recipes ih =>
    obtain ⟨mid, hmid, hrest⟩ := Runs.foldlM_cons_eq_ok.mp h
    obtain ⟨rows, hrows, hpairs⟩ := ih hrest
    rcases acceptStep_cases hmid with ⟨hunused, rfl⟩ | ⟨hused, hadd, -⟩
    · refine ⟨rows, hrows, ?_⟩
      rw [List.filter_cons_of_neg (by simp [hunused])]
      exact hpairs
    · unfold Database.addRecipe at hadd
      split at hadd
      · refine ⟨acceptedRow modelId request state.1.recipeSeq parsed (keptOf allowed parsed) :: rows, ?_, ?_⟩
        · rw [hrows, ← Except.ok.inj hadd, List.append_assoc]
          rfl
        · rw [List.filter_cons_of_pos hused]
          exact List.Forall₂.cons ⟨_, rfl⟩ hpairs
      · cases hadd

end Response

/-- Every ingredient that an accepted recipe keeps is stored and passed to the engine with the amount that was proposed
    exactly when its unit is one for one with the default unit and its quantity has four decimals at most. -/
theorem asProposed_iff (py : Runtime) (conversions : List IngredientConversionDTO) {modelId : Option String}
    {request : CandidateRequest} {recipes : List OAIRecipe} {allowed : Dict String Ingredient} {db db' : Database}
    {candidates : List CandidateRecipeDTO}
    (h : persistAccepted modelId request recipes allowed db = .ok (db', candidates)) :
    (List.Forall₂ (StoredAsProposed py conversions allowed) (recipes.filter (usable allowed))
        (db'.recipes.drop db.recipes.length) ∧
      List.Forall₂ (PassedAsProposed py conversions allowed) (recipes.filter (usable allowed)) candidates) ↔
    ∀ parsed ∈ recipes.filter (usable allowed), ∀ kept ∈ keptOf allowed parsed, Copyable py conversions kept := by
  obtain ⟨rows, hrows, hstored⟩ := foldlM_acceptStep_recipes h
  obtain ⟨news, hnews, hpassed⟩ := foldlM_acceptStep h
  have hcandidates : candidates = news := hnews
  have hdrop : db'.recipes.drop db.recipes.length = rows := by rw [hrows, List.drop_left]
  rw [hdrop, hcandidates, Runs.forall₂_iff_forall hstored (P := fun parsed => ∀ kept ∈ keptOf allowed parsed,
      Denotes py conversions kept.1 (keptRow kept).canonicalName (keptRow kept).quantity (keptRow kept).unit),
    Runs.forall₂_iff_forall hpassed (P := fun parsed => ∀ kept ∈ keptOf allowed parsed,
      Denotes py conversions kept.1 (keptDTO kept).canonicalName (keptDTO kept).quantity (keptDTO kept).unit)]
  · simp only [← forall₂_and, denotes_kept_iff]
  · rintro parsed dto ⟨id, rfl⟩
    rw [PassedAsProposed, acceptedCandidate, List.forall₂_map_right_iff, List.forall₂_same]
  · rintro parsed row ⟨id, rfl⟩
    rw [StoredAsProposed, acceptedRow, List.forall₂_map_right_iff, List.forall₂_same]

/-! A dish of rice, of which the shop counts the grams. -/

def riceInGrams : Ingredient := { rice with defaultUnit := some "g" }

def gramsDb : Database := { shop := { ingredients := [riceInGrams] }, households := [1] }

def dishOf (listed : OAIIngredient) : OAIRecipe where
  title := "Arroz"
  servings := 2
  mealTypes := [.lunch]
  ingredients := [listed]
  steps := ["Cocer el arroz."]
  servings_pos := riceDish.servings_pos
  mealTypes_ne_nil := riceDish.mealTypes_ne_nil
  ingredients_ne_nil := List.cons_ne_nil _ _
  steps_ne_nil := List.cons_ne_nil _ _

def gramsSaved (listed : OAIIngredient) : Database where
  shop := gramsDb.shop
  households := [1]
  recipes := [acceptedRow none riceRequest 1 (dishOf listed) [(listed, riceInGrams)]]
  recipeSeq := 2

theorem persistAccepted_dishOf (listed : OAIIngredient) (hname : listed.canonicalName = "arroz")
    (hstorable : Storable gramsDb (acceptedRow none riceRequest 1 (dishOf listed) [(listed, riceInGrams)])) :
    persistAccepted none riceRequest [dishOf listed] (loadAllowedIngredients gramsDb ["arroz"]) gramsDb =
      .ok (gramsSaved listed, [acceptedCandidate 1 (dishOf listed) [(listed, riceInGrams)]]) := by
  have hget : (loadAllowedIngredients gramsDb ["arroz"]).get? "arroz" = some riceInGrams := by decide +kernel
  have hkept : keptOf (loadAllowedIngredients gramsDb ["arroz"]) (dishOf listed) = [(listed, riceInGrams)] := by
    simp [keptOf, dishOf, hname, hget]
  have hadd : gramsDb.addRecipe (acceptedRow none riceRequest 1 (dishOf listed) [(listed, riceInGrams)]) =
      .ok (gramsSaved listed) := if_pos hstorable
  refine Runs.foldlM_cons_eq_ok.mpr ⟨(gramsSaved listed, [acceptedCandidate 1 (dishOf listed) [(listed, riceInGrams)]]), ?_, rfl⟩
  rw [acceptStep, hkept]
  exact Runs.bind_eq_ok.mpr ⟨gramsSaved listed, hadd, rfl⟩

theorem kept_dishOf {listed : OAIIngredient} {kept : OAIIngredient × Ingredient} (hname : listed.canonicalName = "arroz")
    {parsed : OAIRecipe} (hparsed : parsed ∈ [dishOf listed])
    (hkept : kept ∈ keptOf (loadAllowedIngredients gramsDb ["arroz"]) parsed) : kept = (listed, riceInGrams) := by
  have hget : (loadAllowedIngredients gramsDb ["arroz"]).get? "arroz" = some riceInGrams := by decide +kernel
  rw [List.mem_singleton.mp hparsed] at hkept
  simpa [keptOf, dishOf, hname, hget] using hkept

/-- 200 g of rice are kept as 200 g. -/
theorem asProposed_grams : List.Forall₂ (PassedAsProposed (Runtime.replay []) [] (loadAllowedIngredients gramsDb ["arroz"]))
    ([dishOf riceListed].filter (usable (loadAllowedIngredients gramsDb ["arroz"])))
    [acceptedCandidate 1 (dishOf riceListed) [(riceListed, riceInGrams)]] := by
  have hsaved := persistAccepted_dishOf riceListed rfl (by decide +kernel)
  refine ((asProposed_iff (Runtime.replay []) [] hsaved).mpr fun parsed hparsed kept hkept => ?_).2
  rw [kept_dishOf rfl (List.mem_of_mem_filter hparsed) hkept]
  refine ⟨fun unit hunit _ => ?_, by decide +kernel⟩
  rw [← Option.some.inj hunit]
  exact oneForOne_self

def kiloListed : OAIIngredient := { canonicalName := "arroz", displayName := "Arroz", quantity := 1, unit := "kg" }

/-- A kilogram of rice is kept as one gram. -/
theorem not_asProposed_kilo : ¬∀ (py : Runtime) (conversions : List IngredientConversionDTO) (request : CandidateRequest)
    (recipes : List OAIRecipe) (allowed : Dict String Ingredient) (db db' : Database) (candidates : List CandidateRecipeDTO),
    persistAccepted none request recipes allowed db = .ok (db', candidates) →
      List.Forall₂ (PassedAsProposed py conversions allowed) (recipes.filter (usable allowed)) candidates := by
  intro h
  have hpassed := h (Runtime.replay []) [] _ _ _ _ _ _ (persistAccepted_dishOf kiloListed rfl (by decide +kernel))
  have husable : [dishOf kiloListed].filter (usable (loadAllowedIngredients gramsDb ["arroz"])) = [dishOf kiloListed] :=
    List.filter_eq_self.mpr fun parsed hparsed => by
      rw [List.mem_singleton.mp hparsed]
      decide +kernel
  have hkept : keptOf (loadAllowedIngredients gramsDb ["arroz"]) (dishOf kiloListed) = [(kiloListed, riceInGrams)] := by
    decide +kernel
  rw [husable, List.forall₂_cons, PassedAsProposed, hkept] at hpassed
  obtain ⟨hdenotes, -⟩ := List.forall₂_cons.mp hpassed.1
  have hone : OneForOne (Runtime.replay []) [] "arroz" "kg" "g" := denotes_quantity_iff.mp hdenotes
  revert hone
  unfold OneForOne
  decide +kernel

end CestaPlan.Candidates
