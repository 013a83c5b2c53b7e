import CestaPlan.Engine.Packaging
import Mathlib.Algebra.Order.Field.Rat
import Mathlib.Data.List.Induction
import Mathlib.Tactic.Positivity

/-! Conversions without negative factors, as the planning context declares them
    (`services/planning_context.py`), keep quantities non-negative. -/

namespace CestaPlan.Engine

/-! ### Quantities -/

section Conversions
variable {py : Runtime}

theorem lookup_pos {factors : List (String × ℚ)} (hall : ∀ p ∈ factors, 0 < p.2) {u : String} {a : ℚ}
    (h : factors.lookup u = some a) : 0 < a := by
  obtain ⟨l₁, l₂, heq, -⟩ := List.lookup_eq_some_iff.mp h
  exact hall (u, a) (by simp [heq])

theorem massToG_pos {u : String} {a : ℚ} (h : massToG.lookup u = some a) : 0 < a := lookup_pos (by simp [massToG]) h

theorem volumeToMl_pos {u : String} {a : ℚ} (h : volumeToMl.lookup u = some a) : 0 < a := lookup_pos (by simp [volumeToMl]) h

/-- A conversion is one within a kind of unit, or else one that is declared, or else one over a declared unit. -/
theorem convert_toOption {factors : Factors} {q : ℚ} {f t : String} {name : Option String} :
    (convert py factors q f t name).toOption = (convertWithin py q (normUnit py f) (normUnit py t)).or
      (name.bind fun name => ((factors.get? (name, normUnit py f, normUnit py t)).map (py.mul q ·)).or
        (bridge py factors q (normUnit py f) (normUnit py t) name)) := by
  simp only [convert]
  cases convertWithin py q (normUnit py f) (normUnit py t) with
  | some r => rfl
  | none =>
    cases name with
    | none =>
      simp only [Option.bind_none]
      split <;> rfl
    | some name =>
      simp only [Option.bind_some]
      cases factors.get? (name, normUnit py f, normUnit py t) with
      | some direct => rfl
      | none =>
        cases bridge py factors q (normUnit py f) (normUnit py t) name with
        | some r => rfl
        | none =>
          simp only
          split <;> rfl

theorem convert_eq_ok_iff {factors : Factors} {q r : ℚ} {f t : String} {name : Option String} :
    convert py factors q f t name = .ok r ↔ (convert py factors q f t name).toOption = some r := by
  cases convert py factors q f t name with
  | ok q' => simp [Except.toOption]
  | error e => simp [Except.toOption]

/-- Multiplying by a positive number keeps what is in `S`, as it keeps signs. -/
def Scales (S : Set ℚ) : Prop := ∀ x ∈ S, ∀ a : ℚ, 0 < a → x * a ∈ S

theorem scales_nonneg : Scales {x | 0 ≤ x} := fun _ hx _ ha => mul_nonneg hx ha.le

theorem scales_pos : Scales {x | 0 < x} := fun _ hx _ ha => mul_pos hx ha

theorem convertWithin_mem (hexact : py.round = id) {S : Set ℚ} (hS : Scales S) {quantity : ℚ} (hq : quantity ∈ S) {f t : String}
    {q : ℚ} (h : convertWithin py quantity f t = some q) : q ∈ S := by
  have hrate : ∀ {a b : ℚ}, 0 < a → 0 < b → quantity * a / b ∈ S := fun ha hb => by
    rw [mul_div_assoc]
    exact hS quantity hq _ (div_pos ha hb)
  simp only [convertWithin, py.mul_exact hexact, py.div_exact hexact] at h
  split at h
  · exact Option.some.inj h ▸ hq
  · split at h
    · next a b ha hb => exact Option.some.inj h ▸ hrate (massToG_pos ha) (massToG_pos hb)
    · split at h
      · next a b ha hb => exact Option.some.inj h ▸ hrate (volumeToMl_pos ha) (volumeToMl_pos hb)
      · split at h
        · exact Option.some.inj h ▸ hq
        · cases h

/-- No declared factor is negative. -/
def Factors.NonNegative (factors : Factors) : Prop := ∀ key factor, factors.get? key = some factor → 0 ≤ factor

theorem unitConverter_nonNegative (hexact : py.round = id) {conversions : List IngredientConversionDTO}
    (h : ∀ conv ∈ conversions, 0 ≤ conv.factor) : Factors.NonNegative (unitConverter py conversions) := by
  have hset : ∀ (factors : Factors) (key : String × String × String) (factor : ℚ), factors.NonNegative → 0 ≤ factor →
      Factors.NonNegative (factors.set key factor) := by
    intro factors key factor hf hfactor key' factor' hget
    rw [Dict.get?_set] at hget
    split at hget
    · obtain rfl := Option.some.inj hget
      exact hfactor
    · exact hf key' factor' hget
  unfold unitConverter
  induction conversions using List.reverseRecOn with
  | nil =>
    intro key factor hget
    cases hget
  | append_singleton convs conv ih =>
    have hconv := h conv (by simp)
    have hrest := ih fun c hc => h c (List.mem_append_left _ hc)
    rw [List.foldl_append, List.foldl_cons, List.foldl_nil]
    split
    · refine hset _ _ _ (hset _ _ _ hrest hconv) ?_
      rw [py.div_exact hexact]
      positivity
    · exact hset _ _ _ hrest hconv

/-- Every declared factor is positive. -/
def Factors.Positive (factors : Factors) : Prop := ∀ key factor, factors.get? key = some factor → 0 < factor

/-- The declared factors keep what is in `S`. -/
def Factors.Keep (factors : Factors) (S : Set ℚ) : Prop :=
  ∀ key factor, factors.get? key = some factor → ∀ x ∈ S, x * factor ∈ S

theorem bridge_mem (hexact : py.round = id) {S : Set ℚ} (hS : Scales S) {factors : Factors} (hf : factors.Keep S) {quantity : ℚ}
    (hq : quantity ∈ S) {f t name : String} {q : ℚ} (h : bridge py factors quantity f t name = some q) : q ∈ S := by
  obtain ⟨e, he, hsome⟩ := List.exists_of_findSome?_eq_some h
  obtain ⟨⟨n, cf, ct⟩, factor⟩ := e
  simp only at hsome
  split at hsome
  · cases hsome
  · obtain ⟨toCf, hcf, hct⟩ := Option.bind_eq_some_iff.mp hsome
    refine convertWithin_mem hexact hS ?_ hct
    rw [py.mul_exact hexact]
    exact hf _ _ (Dict.mem_entries_iff.mp he) toCf (convertWithin_mem hexact hS hq hcf)

theorem convert_mem (hexact : py.round = id) {S : Set ℚ} (hS : Scales S) {factors : Factors} (hf : factors.Keep S) {quantity : ℚ}
    (hq : quantity ∈ S) {fromUnit toUnit : String} {name : Option String} {q : ℚ}
    (h : convert py factors quantity fromUnit toUnit name = .ok q) : q ∈ S := by
  rw [convert_eq_ok_iff, convert_toOption] at h
  rcases Option.or_eq_some_iff.mp h with hwithin | ⟨-, hdeclared⟩
  · exact convertWithin_mem hexact hS hq hwithin
  · obtain ⟨n, -, hn⟩ := Option.bind_eq_some_iff.mp hdeclared
    rcases Option.or_eq_some_iff.mp hn with hmap | ⟨-, hbridge⟩
    · obtain ⟨direct, hdirect, rfl⟩ := Option.map_eq_some_iff.mp hmap
      rw [py.mul_exact hexact]
      exact hf _ _ hdirect quantity hq
    · exact bridge_mem hexact hS hf hq hbridge

theorem convert_nonneg (hexact : py.round = id) {factors : Factors} (hf : factors.NonNegative) {quantity : ℚ}
    (hq : 0 ≤ quantity) {fromUnit toUnit : String} {name : Option String} {q : ℚ}
    (h : convert py factors quantity fromUnit toUnit name = .ok q) : 0 ≤ q :=
  convert_mem hexact scales_nonneg (fun key factor hget _ hx => mul_nonneg hx (hf key factor hget)) hq h

theorem convert_pos (hexact : py.round = id) {factors : Factors} (hf : factors.Positive) {quantity : ℚ}
    (hq : 0 < quantity) {fromUnit toUnit : String} {name : Option String} {q : ℚ}
    (h : convert py factors quantity fromUnit toUnit name = .ok q) : 0 < q :=
  convert_mem hexact scales_pos (fun key factor hget _ hx => mul_pos hx (hf key factor hget)) hq h

/-! ### Conversions are proportional -/

theorem convertWithin_mul (hexact : py.round = id) (quantity : ℚ) (f t : String) :
    convertWithin py quantity f t = (convertWithin py 1 f t).map (quantity * ·) := by
  simp only [convertWithin, py.mul_exact hexact, py.div_exact hexact]
  split
  · simp
  · split
    · simp [mul_div_assoc]
    · split
      · simp [mul_div_assoc]
      · split <;> simp

theorem bridge_mul (hexact : py.round = id) {factors : Factors} (quantity : ℚ) {f t name : String} :
    bridge py factors quantity f t name = (bridge py factors 1 f t name).map (quantity * ·) := by
  unfold bridge
  rw [List.map_findSome?]
  congr 1
  funext e
  obtain ⟨⟨n, cf, ct⟩, factor⟩ := e
  simp only [Function.comp_apply]
  split
  · rfl
  · rw [convertWithin_mul hexact quantity]
    cases convertWithin py 1 (normUnit py f) (normUnit py cf) with
    | none => rfl
    | some toCf =>
      simp only [Option.map_some, Option.bind_eq_bind, Option.bind_some, py.mul_exact hexact]
      rw [convertWithin_mul hexact (quantity * toCf * factor), convertWithin_mul hexact (toCf * factor), Option.map_map]
      exact congrArg (Option.map · _) (funext fun x => by rw [Function.comp_apply, mul_assoc quantity, mul_assoc quantity])

theorem convert_mul (hexact : py.round = id) {factors : Factors} (quantity : ℚ) {f t : String} {name : Option String} :
    convert py factors quantity f t name = (convert py factors 1 f t name).map (quantity * ·) := by
  simp only [convert]
  rw [convertWithin_mul hexact quantity]
  cases convertWithin py 1 (normUnit py f) (normUnit py t) with
  | some q => rfl
  | none =>
    cases name with
    | none =>
      simp only [Option.map_none, Option.bind_none]
      split <;> rfl
    | some name =>
      simp only [Option.map_none, Option.bind_some]
      cases factors.get? (name, normUnit py f, normUnit py t) with
      | some direct => simp [py.mul_exact hexact, Except.map]
      | none =>
        simp only
        rw [bridge_mul hexact]
        cases bridge py factors 1 (normUnit py f) (normUnit py t) name with
        | some q => rfl
        | none =>
          simp only [Option.map_none]
          split <;> rfl

/-! ### Whether a unit converts does not depend on the quantity -/

theorem convertWithin_isSome (py : Runtime) (q q' : ℚ) (f t : String) :
    (convertWithin py q f t).isSome = (convertWithin py q' f t).isSome := by
  unfold convertWithin
  split
  · rfl
  · split
    · rfl
    · split
      · rfl
      · split <;> rfl

theorem bridge_isSome (py : Runtime) (factors : Factors) (q q' : ℚ) (f t name : String) :
    (bridge py factors q f t name).isSome = (bridge py factors q' f t name).isSome := by
  unfold bridge
  rw [List.isSome_findSome?, List.isSome_findSome?]
  congr 1
  funext e
  obtain ⟨⟨n, cf, ct⟩, factor⟩ := e
  simp only
  split
  · rfl
  · have hcf := convertWithin_isSome py q q' (normUnit py f) (normUnit py cf)
    simp only [Option.bind_eq_bind]
    cases h : convertWithin py q (normUnit py f) (normUnit py cf) with
    | none =>
      cases h' : convertWithin py q' (normUnit py f) (normUnit py cf) with
      | none => rfl
      | some b =>
        rw [h, h'] at hcf
        cases hcf
    | some a =>
      cases h' : convertWithin py q' (normUnit py f) (normUnit py cf) with
      | none =>
        rw [h, h'] at hcf
        cases hcf
      | some b => exact convertWithin_isSome py _ _ _ _

theorem convert_isOk {factors : Factors} {q : ℚ} {f t : String} {name : Option String} :
    (∃ r, convert py factors q f t name = .ok r) ↔ (convertWithin py q (normUnit py f) (normUnit py t)).isSome ∨
      ∃ n ∈ name, (factors.get? (n, normUnit py f, normUnit py t)).isSome ∨
        (bridge py factors q (normUnit py f) (normUnit py t) n).isSome := by
  have hsome : (∃ r, convert py factors q f t name = .ok r) ↔ (convert py factors q f t name).toOption.isSome := by
    rw [Option.isSome_iff_exists]
    exact exists_congr fun r => convert_eq_ok_iff
  rw [hsome, convert_toOption, Option.isSome_or, Bool.or_eq_true]
  refine or_congr_right ?_
  cases name with
  | none => simp
  | some name => simp [Option.isSome_or]

theorem exists_convert {factors : Factors} {q r : ℚ} {f t : String} {name : Option String}
    (h : convert py factors q f t name = .ok r) (q' : ℚ) : ∃ r', convert py factors q' f t name = .ok r' := by
  have hok := convert_isOk.mp ⟨r, h⟩
  simp only [convertWithin_isSome py q q', bridge_isSome py factors q q'] at hok
  exact convert_isOk.mpr hok

/-! ### Conversions go both ways -/

theorem convertWithin_isSome_comm (py : Runtime) (q q' : ℚ) (f t : String) :
    (convertWithin py q f t).isSome = (convertWithin py q' t f).isSome := by
  unfold convertWithin
  by_cases hft : f = t
  · rw [if_pos hft, if_pos hft.symm]
    rfl
  · rw [if_neg hft, if_neg (Ne.symm hft), Bool.and_comm]
    cases massToG.lookup f <;> cases massToG.lookup t <;> cases volumeToMl.lookup f <;> cases volumeToMl.lookup t <;>
      first
      | rfl
      | simp only
        split <;> rfl

/-- A declared factor can be used in both directions. -/
def Factors.Paired (factors : Factors) : Prop :=
  ∀ name f t, (factors.get? (name, f, t)).isSome → (factors.get? (name, t, f)).isSome

theorem bridge_isSome_comm {factors : Factors} (hpaired : factors.Paired) (q q' : ℚ) {f t name : String}
    (h : (bridge py factors q f t name).isSome) : (bridge py factors q' t f name).isSome := by
  obtain ⟨⟨⟨n, cf, ct⟩, factor⟩, hmem, hsome⟩ := List.findSome?_isSome_iff.mp h
  simp only at hsome
  split at hsome
  · cases hsome
  · next hname =>
    obtain ⟨factor', hfactor'⟩ := Option.isSome_iff_exists.mp (hpaired n cf ct (by rw [Dict.mem_entries_iff.mp hmem]; rfl))
    refine List.findSome?_isSome_iff.mpr ⟨((n, ct, cf), factor'), Dict.mem_entries_iff.mpr hfactor', ?_⟩
    obtain ⟨r, hr⟩ := Option.isSome_iff_exists.mp hsome
    obtain ⟨toCf, hcf, hct⟩ := Option.bind_eq_some_iff.mp hr
    have hback := convertWithin_isSome_comm py (py.mul toCf factor) q' (normUnit py ct) (normUnit py t)
    rw [hct, Option.isSome_some] at hback
    obtain ⟨toCt, htoCt⟩ := Option.isSome_iff_exists.mp hback.symm
    have hon := convertWithin_isSome_comm py q (py.mul toCt factor') (normUnit py f) (normUnit py cf)
    rw [hcf, Option.isSome_some] at hon
    simp only [if_neg hname, htoCt, Option.bind_eq_bind, Option.bind_some]
    exact hon.symm

theorem exists_convert_comm {factors : Factors} (hpaired : factors.Paired) {q r : ℚ} {f t : String} {name : Option String}
    (h : convert py factors q f t name = .ok r) (q' : ℚ) : ∃ r', convert py factors q' t f name = .ok r' := by
  rw [convert_isOk, ← convertWithin_isSome_comm py q q']
  rcases convert_isOk.mp ⟨r, h⟩ with hwithin | ⟨n, hn, hdirect | hbridge⟩
  · exact .inl hwithin
  · exact .inr ⟨n, hn, .inl (hpaired _ _ _ hdirect)⟩
  · exact .inr ⟨n, hn, .inr (bridge_isSome_comm hpaired q q' hbridge)⟩

theorem Factors.Paired.declare {factors : Factors} (h : factors.Paired) (name f t : String) (factor back : ℚ) :
    Factors.Paired ((factors.set (name, f, t) factor).set (name, t, f) back) := by
  intro name' f' t' hget
  simp only [Dict.get?_set, Prod.mk.injEq] at hget ⊢
  split
  · rfl
  · next hback =>
    split
    · rfl
    · next hto =>
      refine h name' f' t' ?_
      rwa [if_neg fun heq => hto ⟨heq.1, heq.2.2, heq.2.1⟩, if_neg fun heq => hback ⟨heq.1, heq.2.2, heq.2.1⟩] at hget

theorem unitConverter_keeps {P : Factors → Prop} (hempty : P Dict.empty) (hstep : ∀ (factors : Factors) (name f t : String)
    (factor : ℚ), 0 < factor → P factors → P ((factors.set (name, f, t) factor).set (name, t, f) (py.div 1 factor)))
    {conversions : List IngredientConversionDTO} (h : ∀ conv ∈ conversions, 0 < conv.factor) :
    P (unitConverter py conversions) := by
  unfold unitConverter
  induction conversions using List.reverseRecOn with
  | nil => exact hempty
  | append_singleton convs conv ih =>
    have hconv := h conv (List.mem_append_right _ (List.mem_singleton_self conv))
    rw [List.foldl_append, List.foldl_cons, List.foldl_nil, if_pos hconv.ne']
    exact hstep _ _ _ _ _ hconv (ih fun c hc => h c (List.mem_append_left _ hc))

theorem unitConverter_paired {conversions : List IngredientConversionDTO} (h : ∀ conv ∈ conversions, 0 < conv.factor) :
    Factors.Paired (unitConverter py conversions) := by
  refine unitConverter_keeps (P := Factors.Paired) ?_ ?_ h
  · intro name f t hget
    cases hget
  · intro factors name f t factor _ hpaired
    exact hpaired.declare name f t factor _

theorem unitConverter_positive (hexact : py.round = id) {conversions : List IngredientConversionDTO}
    (h : ∀ conv ∈ conversions, 0 < conv.factor) : Factors.Positive (unitConverter py conversions) := by
  refine unitConverter_keeps (P := Factors.Positive) ?_ ?_ h
  · intro key factor hget
    cases hget
  · intro factors name f t factor hpos hpositive key factor' hget
    simp only [Dict.get?_set] at hget
    split at hget
    · obtain rfl := Option.some.inj hget
      rw [py.div_exact hexact]
      exact one_div_pos.mpr hpos
    · split at hget
      · obtain rfl := Option.some.inj hget
        exact hpos
      · exact hpositive key factor' hget

end Conversions

/-! ### The declared conversions -/

section Declared
variable (py : Runtime)

inductive Dimension where
  | mass | volume | count
deriving DecidableEq, Repr

def toBase (quantity : ℚ) (unit : String) : Option (ℚ × Dimension) :=
  let u := normUnit py unit
  match massToG.lookup u with
  | some factor => some (py.mul quantity factor, .mass)
  | none => match volumeToMl.lookup u with
    | some factor => some (py.mul quantity factor, .volume)
    | none => if countUnits.contains u then some (quantity, .count) else none

/-- The unit of a net content that bridges to a quantity; a counted one does not. -/
def Dimension.base : Dimension → Option String
  | .mass => some "g"
  | .volume => some "ml"
  | .count => none

/-- The weight in grams of a piece. -/
def pieceGrams : List (String × ℚ) :=
  [("ajo", 5), ("cebolla", 150), ("tomate", 120), ("aguacate", 200), ("platano", 120), ("pimiento", 180),
   ("pimiento_rojo", 180), ("pimiento_verde", 150), ("pan", 40), ("limon", 100), ("naranja", 180), ("manzana", 180),
   ("zanahoria", 70), ("patata", 180), ("calabacin", 250), ("pepino", 300), ("berenjena", 250), ("puerro", 100),
   ("coliflor", 600), ("champiñón", 250), ("sardina", 90), ("boquerón", 90), ("conejo", 1000), ("guisantes", 400),
   ("morcilla", 200), ("pimiento verde", 150), ("queso manchego", 250), ("repollo", 1000), ("sepia", 300),
   ("trucha", 250), ("alcachofa", 120)]

/-- An ingredient that a row gives a density. -/
def densityConversion (row : String × Option ℚ) : Option IngredientConversionDTO := do
  let density ← row.2
  if 0 < density then
    some { canonicalName := row.1, fromUnit := "ml", toUnit := "g", factor := density }
  else none

def pieceConversion (row : String × ℚ) : IngredientConversionDTO where
  canonicalName := row.1
  fromUnit := "unidad"
  toUnit := "g"
  factor := row.2

/-- The net content of a mapped product. -/
structure NetContent where
  canonicalName : String
  quantity : ℚ
  unit : String
deriving DecidableEq

/-- The first net content of each ingredient that can be bridged. -/
def netContentConversions : List String → List NetContent → List IngredientConversionDTO
  | _, [] => []
  | bridged, row :: rows =>
    if (pieceGrams.map Prod.fst).contains row.canonicalName || bridged.contains row.canonicalName then
      netContentConversions bridged rows
    else match (toBase py row.quantity row.unit).filter (0 < ·.1) with
      | none => netContentConversions bridged rows
      | some (quantity, dimension) => match dimension.base with
        | none => netContentConversions bridged rows
        | some unit =>
          { canonicalName := row.canonicalName, fromUnit := "unidad", toUnit := unit, factor := quantity } ::
            netContentConversions (row.canonicalName :: bridged) rows

def buildConversions (densities : List (String × Option ℚ)) (netRows : List NetContent) :
    List IngredientConversionDTO :=
  densities.filterMap densityConversion ++ pieceGrams.map pieceConversion ++ netContentConversions py [] netRows

variable {py}

theorem netContentConversions_pos (bridged : List String) (rows : List NetContent) :
    ∀ conv ∈ netContentConversions py bridged rows, 0 < conv.factor := by
  induction rows generalizing bridged with
  | nil => simp [netContentConversions]
  | cons row rows ih =>
    rw [netContentConversions]
    split
    · exact ih bridged
    · split
      · exact ih bridged
      · next quantity dimension hbase =>
        split
        · exact ih bridged
        · refine List.forall_mem_cons.mpr ⟨?_, ih _⟩
          exact of_decide_eq_true (Option.filter_eq_some_iff.mp hbase).2

/-- The planning context declares positive factors only. -/
theorem buildConversions_pos (densities : List (String × Option ℚ)) (netRows : List NetContent) :
    ∀ conv ∈ buildConversions py densities netRows, 0 < conv.factor := by
  have hpieces : ∀ row ∈ pieceGrams, 0 < row.2 := by decide +kernel
  intro conv hconv
  rcases List.mem_append.mp hconv with h | h
  · rcases List.mem_append.mp h with h | h
    · obtain ⟨row, -, hrow⟩ := List.mem_filterMap.mp h
      obtain ⟨density, -, hsome⟩ := Option.bind_eq_some_iff.mp hrow
      split at hsome
      · next hpos =>
        obtain rfl := Option.some.inj hsome
        exact hpos
      · cases hsome
    · obtain ⟨row, hrow, rfl⟩ := List.mem_map.mp h
      exact hpieces row hrow
  · exact netContentConversions_pos [] netRows conv h

end Declared
end CestaPlan.Engine
