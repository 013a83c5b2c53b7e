import CestaPlan.Library.Grouping
import CestaPlan.Engine.Conversions
import CestaPlan.Catalog.PlanCatalog

/-! The unit conversions of a plan (`services/planning_context.py`): the densities of the ingredients, the weights of pieces,
    and one net content of each ingredient. What a conversion gives depends on those of the ingredient alone. -/

namespace CestaPlan.Catalog
open Engine Updates

/-- The densities, in the order of the table. -/
def densityRows (shop : Shop) : List (String × Option ℚ) :=
  (shop.ingredients.filter (·.densityGPerMl.isSome)).map fun ing => (ing.canonicalName, ing.densityGPerMl)

/-- The net content of the variant of an active mapping. -/
def netContentOf (shop : Shop) (m : IngredientProductMapping) : Option NetContent := do
  let ingredient ← row? (·.id) shop.ingredients m.ingredientId
  let variantId ← m.productVariantId
  let variant ← row? (·.id) shop.variants variantId
  let quantity ← variant.netContentQuantity
  let unit ← variant.netContentUnit
  if m.isActive then some { canonicalName := ingredient.canonicalName, quantity := quantity, unit := unit } else none

/-- The net contents, in the order of the mappings. -/
def netContents (shop : Shop) : List NetContent := shop.mappings.filterMap (netContentOf shop)

/-- `_build_conversions`. -/
def planConversions (py : Runtime) (shop : Shop) : List IngredientConversionDTO :=
  buildConversions py (densityRows shop) (netContents shop)

/-- The conversion of a net content; the weights of pieces go before it. -/
def netConversion (py : Runtime) (row : NetContent) : Option IngredientConversionDTO :=
  if (pieceGrams.map Prod.fst).contains row.canonicalName then none
  else do
    let based ← (toBase py row.quantity row.unit).filter (0 < ·.1)
    let unit ← based.2.base
    return { canonicalName := row.canonicalName, fromUnit := "unidad", toUnit := unit, factor := based.1 }

/-- The conversions of each ingredient are the same. -/
def SameConversions (conversions conversions' : List IngredientConversionDTO) : Prop :=
  ∀ name, Grouping.group (·.canonicalName) conversions name = Grouping.group (·.canonicalName) conversions' name

/-! ### The conversions of an ingredient -/

section Conversions
variable {py : Runtime} {shop : Shop} {name : String}

theorem netConversion_canonicalName {row : NetContent} {c : IngredientConversionDTO} (h : netConversion py row = some c) :
    c.canonicalName = row.canonicalName := by
  unfold netConversion at h
  split at h
  · cases h
  · obtain ⟨based, -, hrest⟩ := Option.bind_eq_some_iff.mp h
    obtain ⟨unit, -, hreturn⟩ := Option.bind_eq_some_iff.mp hrest
    cases hreturn
    rfl

theorem netContentConversions_cons {bridged : List String} {row : NetContent} {rows : List NetContent} :
    netContentConversions py bridged (row :: rows) =
      if bridged.contains row.canonicalName then netContentConversions py bridged rows
      else (netConversion py row).elim (netContentConversions py bridged rows)
        fun c => c :: netContentConversions py (row.canonicalName :: bridged) rows := by
  rw [netContentConversions, netConversion]
  by_cases hpiece : (pieceGrams.map Prod.fst).contains row.canonicalName = true
  · rw [if_pos (by rw [hpiece, Bool.true_or]), if_pos hpiece]
    simp
  · rw [if_neg hpiece]
    by_cases hbridged : bridged.contains row.canonicalName = true
    · rw [if_pos (by rw [hbridged, Bool.or_true]), if_pos hbridged]
    · rw [if_neg (by rw [Bool.or_eq_true]; exact not_or.mpr ⟨hpiece, hbridged⟩), if_neg hbridged]
      cases hbased : (toBase py row.quantity row.unit).filter (0 < ·.1) with
      | none => rfl
      | some based =>
        obtain ⟨quantity, dimension⟩ := based
        cases dimension <;> rfl

theorem group_netContentConversions {bridged : List String} {rows : List NetContent} :
    Grouping.group (·.canonicalName) (netContentConversions py bridged rows) name =
      if name ∈ bridged then []
      else (Grouping.group (·.canonicalName) (rows.filterMap (netConversion py)) name).head?.toList := by
  induction rows generalizing bridged with
  | nil => simp [netContentConversions, Grouping.group]
  | cons row rows ih =>
    rw [netContentConversions_cons, List.filterMap_cons]
    by_cases hbridged : row.canonicalName ∈ bridged
    · rw [if_pos (List.contains_iff_mem.mpr hbridged), ih]
      split
      · rfl
      · next hname =>
        cases hc : netConversion py row with
        | none => rfl
        | some c =>
          have hne : c.canonicalName ≠ name := fun heq => hname (heq ▸ netConversion_canonicalName hc ▸ hbridged)
          rw [Grouping.group_cons_of_ne hne]
    · rw [if_neg (fun h => hbridged (List.contains_iff_mem.mp h))]
      cases hc : netConversion py row with
      | none => exact ih
      | some c =>
        have hcname := netConversion_canonicalName hc
        show Grouping.group _ (c :: _) name = _
        by_cases heq : c.canonicalName = name
        · subst heq
          rw [Grouping.group_cons_self, ih, if_pos (by rw [hcname]; exact List.mem_cons_self), if_neg (hcname ▸ hbridged),
            Grouping.group_cons_self]
          rfl
        · have hmem : name ∈ row.canonicalName :: bridged ↔ name ∈ bridged := by
            rw [List.mem_cons, or_iff_right fun h => heq (hcname.trans h.symm)]
          rw [Grouping.group_cons_of_ne heq, Grouping.group_cons_of_ne heq, ih]
          simp only [hmem]

theorem group_planConversions : Grouping.group (·.canonicalName) (planConversions py shop) name =
    Grouping.group (·.canonicalName) ((densityRows shop).filterMap densityConversion ++ pieceGrams.map pieceConversion) name ++
      (Grouping.group (·.canonicalName) ((netContents shop).filterMap (netConversion py)) name).head?.toList := by
  rw [planConversions, buildConversions, Grouping.group, List.filter_append]
  refine congrArg _ ?_
  rw [← Grouping.group, group_netContentConversions, if_neg List.not_mem_nil]

end Conversions

/-! ### The converter -/

section Converter
variable {py : Runtime} {name : String} {conversions conversions' : List IngredientConversionDTO}

/-- What one declared conversion adds to the factors. -/
def addConversion (py : Runtime) (factors : Factors) (conv : IngredientConversionDTO) : Factors :=
  let f := normUnit py conv.fromUnit
  let t := normUnit py conv.toUnit
  let factors := factors.set (conv.canonicalName, f, t) conv.factor
  if conv.factor ≠ 0 then factors.set (conv.canonicalName, t, f) (py.div 1 conv.factor) else factors

theorem unitConverter_concat (conv : IngredientConversionDTO) :
    unitConverter py (conversions ++ [conv]) = addConversion py (unitConverter py conversions) conv := List.foldl_append

/-- The factors of an ingredient. -/
def factorsOf (factors : Factors) (name : String) : List ((String × String × String) × ℚ) :=
  factors.entries.filter fun e => e.1.1 = name

theorem factorsOf_set {factors : Factors} {key : String × String × String} {factor : ℚ} :
    factorsOf (factors.set key factor) name =
      if key.1 = name then Dict.setEntries key factor (factorsOf factors name) else factorsOf factors name := by
  show (Dict.setEntries key factor factors.entries).filter _ = _
  rw [factorsOf]
  generalize factors.entries = entries
  induction entries with
  | nil => by_cases h : key.1 = name <;> simp [Dict.setEntries, h]
  | cons e entries ih =>
    by_cases hkey : e.1 = key
    · subst hkey
      by_cases h : e.1.1 = name <;> simp [Dict.setEntries, h]
    · by_cases h : key.1 = name
      · by_cases he : e.1.1 = name <;> simp [Dict.setEntries, hkey, h, he, ih]
      · by_cases he : e.1.1 = name <;> simp [Dict.setEntries, hkey, h, he, ih]

theorem factorsOf_addConversion_of_ne {factors : Factors} {conv : IngredientConversionDTO}
    (h : conv.canonicalName ≠ name) : factorsOf (addConversion py factors conv) name = factorsOf factors name := by
  unfold addConversion
  dsimp only
  split <;> simp [factorsOf_set, h]

theorem factorsOf_addConversion_congr {factors factors' : Factors} {conv : IngredientConversionDTO}
    (h : factorsOf factors name = factorsOf factors' name) :
    factorsOf (addConversion py factors conv) name = factorsOf (addConversion py factors' conv) name := by
  unfold addConversion
  dsimp only
  split <;> simp [factorsOf_set, h]

theorem factorsOf_unitConverter : factorsOf (unitConverter py conversions) name =
    factorsOf (unitConverter py (Grouping.group (·.canonicalName) conversions name)) name := by
  induction conversions using List.reverseRecOn with
  | nil => rfl
  | append_singleton conversions conv ih =>
    rw [unitConverter_concat, Grouping.group, List.filter_append]
    by_cases h : conv.canonicalName = name
    · rw [List.filter_cons_of_pos (by simpa using h), List.filter_nil, unitConverter_concat]
      exact factorsOf_addConversion_congr ih
    · rw [List.filter_cons_of_neg (by simpa using h), List.filter_nil, List.append_nil, factorsOf_addConversion_of_ne h]
      exact ih

theorem get?_eq_of_factorsOf {factors factors' : Factors} (h : factorsOf factors name = factorsOf factors' name)
    (f t : String) : factors.get? (name, f, t) = factors'.get? (name, f, t) := by
  have hmem : ∀ (factors : Factors) (factor : ℚ), factors.get? (name, f, t) = some factor ↔
      ((name, f, t), factor) ∈ factorsOf factors name := fun factors factor => by
    rw [← Dict.mem_entries_iff, factorsOf, List.mem_filter]
    simp
  exact Option.ext fun factor => by rw [hmem, hmem, h]

/-- What a factor of the ingredient bridges. -/
def bridgeBy (py : Runtime) (quantity : ℚ) (f t : String) (e : (String × String × String) × ℚ) : Option ℚ := do
  let toCf ← convertWithin py quantity (normUnit py f) (normUnit py e.1.2.1)
  convertWithin py (py.mul toCf e.2) (normUnit py e.1.2.2) (normUnit py t)

theorem bridge_factorsOf {factors : Factors} {quantity : ℚ} {f t : String} : bridge py factors quantity f t name =
    (factorsOf factors name).findSome? (bridgeBy py quantity f t) := by
  rw [bridge, factorsOf]
  generalize factors.entries = entries
  induction entries with
  | nil => rfl
  | cons e entries ih =>
    obtain ⟨⟨n, cf, ct⟩, factor⟩ := e
    by_cases h : n = name
    · rw [List.filter_cons_of_pos (by simpa using h), List.findSome?_cons, List.findSome?_cons, ← ih]
      simp [h, bridgeBy]
    · rw [List.filter_cons_of_neg (by simpa using h), List.findSome?_cons, ← ih]
      simp [h]

/-- The same conversions of each ingredient convert alike. -/
theorem convert_congr (h : SameConversions conversions conversions') (quantity : ℚ) (f t : String)
    (canonicalName : Option String) : convert py (unitConverter py conversions) quantity f t canonicalName =
      convert py (unitConverter py conversions') quantity f t canonicalName := by
  cases canonicalName with
  | none => rfl
  | some name =>
    have hfactors : factorsOf (unitConverter py conversions) name = factorsOf (unitConverter py conversions') name := by
      rw [factorsOf_unitConverter, h name, ← factorsOf_unitConverter]
    simp only [convert, Option.bind_some, get?_eq_of_factorsOf hfactors, bridge_factorsOf, hfactors]

end Converter
end CestaPlan.Catalog
