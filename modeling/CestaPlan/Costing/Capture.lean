import CestaPlan.Costing.RecipeCosting

/-! A captured product and the variant that it is stored as (`ingestion/providers/onboarding.py`, `_upsert_variant` of
    `services/provider_sync.py`), and how either can cost a recipe.

    The package quantity of a product is not stored with its variant, and a variant that is there keeps its sell unit and its net
    content. -/

namespace CestaPlan.Costing
open Engine (Runtime)
open Prices (ProductCostingMode)

/-! ### The captured product -/

inductive SellUnit where
  | package | unit | weight | volume
deriving DecidableEq

def SellUnit.value : SellUnit → String
  | .package => "package"
  | .unit => "unit"
  | .weight => "weight"
  | .volume => "volume"

inductive ContentUnit where
  | g | kg | ml | l | unit
deriving DecidableEq

def ContentUnit.value : ContentUnit → String
  | .g => "g"
  | .kg => "kg"
  | .ml => "ml"
  | .l => "l"
  | .unit => "unit"

structure ExternalCatalogProduct where
  provider : String
  externalProductId : String
  productName : String
  brand : Option String := none
  sellUnit : SellUnit
  regularPrice : Option ℚ
  variableWeight : Bool := false
  packageQuantity : Option ℚ := none
  netContentQuantity : Option ℚ := none
  netContentUnit : Option ContentUnit := none
  unitPrice : Option ℚ := none
  unitPriceUnit : Option String := none

section Classify
variable (py : Runtime)

def classifyCostingMode (p : ExternalCatalogProduct) : ProductCostingMode :=
  let upu := lowered py p.unitPriceUnit
  if p.regularPrice.isNone || p.externalProductId = "" then .unresolved
  else if p.netContentQuantity.isSome && [some ContentUnit.g, some .kg, some .ml, some .l].contains p.netContentUnit then .fixedPackage
  else if p.netContentQuantity.isSome && p.netContentUnit = some .unit then .discreteUnit
  else if p.sellUnit = .unit && p.packageQuantity.isSome then .discreteUnit
  else if p.variableWeight && p.unitPrice.isSome && p.sellUnit = .weight && ["kg", "g"].contains upu then .variableWeight
  else if p.variableWeight && p.unitPrice.isSome && p.sellUnit = .volume && ["l", "ml"].contains upu then .variableVolume
  else if unitPriceCostedProviders.contains p.provider && p.unitPrice.isSome then
    if ["kg", "g"].contains upu then .variableWeight
    else if ["l", "ml"].contains upu then .variableVolume
    else .unresolved
  else .unresolved

end Classify

/-! ### The stored variant -/

structure ExternalProduct where
  id : Int
  retailerId : Int
  externalId : String
  canonicalProductId : Option Int

structure Product where
  id : Int
  retailerId : Int
  externalId : String
  name : String
  brand : Option String
  packageQuantity : Option Amount
  packageUnit : Option String

/-- The tables that a capture writes to, with the next number of each. -/
structure Tables where
  externals : List ExternalProduct := []
  products : List Product := []
  variants : List ProductVariant := []
  nextExternal : Int := 1
  nextProduct : Int := 1
  nextVariant : Int := 1

/-- A decimal as its column keeps it, if it has the digits. -/
def Amount.stored (x : ℚ) : Option Amount :=
  let n := if 0 ≤ x then ⌊x * 10 ^ 4 + 1 / 2⌋ else -⌊-x * 10 ^ 4 + 1 / 2⌋
  if h : |n| < 10 ^ 12 then some ⟨n, h⟩ else none

/-- An optional decimal as its column keeps it; nothing is stored where the digits do not fit. -/
def Amount.storedOption : Option ℚ → Option (Option Amount)
  | none => some none
  | some x => (Amount.stored x).map some

section Upsert
variable (t : Tables) (retailerId : Int) (p : ExternalCatalogProduct)

def external? : Option ExternalProduct := t.externals.find? fun e => e.retailerId = retailerId && e.externalId = p.externalProductId

/-- The external product, which is inserted where it is missing. -/
def withExternal : Tables × ExternalProduct :=
  match external? t retailerId p with
  | some e => (t, e)
  | none =>
    let e : ExternalProduct :=
      { id := t.nextExternal, retailerId := retailerId, externalId := p.externalProductId, canonicalProductId := none }
    ({ t with externals := t.externals ++ [e], nextExternal := t.nextExternal + 1 }, e)

/-- The external product with its canonical one, which is inserted where it is missing. -/
def withCanonical (e : ExternalProduct) : Option (Tables × ExternalProduct) :=
  match e.canonicalProductId with
  | some _ => some (t, e)
  | none => (Amount.storedOption p.netContentQuantity).map fun quantity =>
    let canonical : Product :=
      { id := t.nextProduct, retailerId := retailerId, externalId := p.externalProductId, name := p.productName, brand := p.brand,
        packageQuantity := quantity, packageUnit := p.netContentUnit.map (·.value) }
    let e' := { e with canonicalProductId := some canonical.id }
    ({ t with
        products := t.products ++ [canonical]
        nextProduct := t.nextProduct + 1
        externals := t.externals.map fun x => if x.id = e.id then e' else x }, e')

/-- The variant that is there for the external product. -/
def variant? (e : ExternalProduct) : Option ProductVariant :=
  t.variants.find? fun v => v.retailerId = retailerId && v.externalProductId = e.id

def newVariant (e : ExternalProduct) (netContentQuantity unitPrice : Option Amount) : ProductVariant where
  id := t.nextVariant
  productId := e.canonicalProductId
  retailerId := retailerId
  externalProductId := e.id
  displayName := p.productName
  sellUnit := some p.sellUnit.value
  variableWeight := p.variableWeight
  netContentQuantity := netContentQuantity
  netContentUnit := p.netContentUnit.map (·.value)
  unitPrice := unitPrice
  unitPriceUnit := p.unitPriceUnit
  active := true

/-- What a capture refreshes of a variant that is there. -/
def refreshed (v : ProductVariant) (unitPrice : Option Amount) : ProductVariant :=
  { v with variableWeight := p.variableWeight, unitPrice := unitPrice, unitPriceUnit := p.unitPriceUnit }

/-- `_upsert_variant` -/
def upsertVariant : Option (Tables × ProductVariant) := do
  let (t, e) := withExternal t retailerId p
  let (t, e) ← withCanonical t retailerId p e
  let unitPrice ← Amount.storedOption p.unitPrice
  match variant? t retailerId e with
  | some v =>
    let v' := refreshed p v unitPrice
    return ({ t with variants := t.variants.map fun x => if x.id = v.id then v' else x }, v')
  | none =>
    let netContentQuantity ← Amount.storedOption p.netContentQuantity
    let v := newVariant t retailerId p e netContentQuantity unitPrice
    return ({ t with variants := t.variants ++ [v], nextVariant := t.nextVariant + 1 }, v)

/-- The variant that the capture finds. -/
def foundVariant : Option ProductVariant := variant? t retailerId (withExternal t retailerId p).2

end Upsert

/-! ### What is known of a package -/

/-- What tells how much is in a package: a weight or a volume, a number of pieces, or nothing. -/
inductive Packing where
  | measured | counted | loose
deriving DecidableEq

def ExternalCatalogProduct.packing (p : ExternalCatalogProduct) : Packing :=
  if p.netContentQuantity.isSome && [some ContentUnit.g, some .kg, some .ml, some .l].contains p.netContentUnit then .measured
  else if p.netContentQuantity.isSome && p.netContentUnit = some .unit then .counted
  else if p.sellUnit = .unit && p.packageQuantity.isSome then .counted
  else .loose

section Packing
variable (py : Runtime)

def ProductVariant.packing (v : ProductVariant) : Packing :=
  if v.netContentQuantity.isSome && ["g", "kg", "ml", "l"].contains (lowered py v.netContentUnit) then .measured
  else if v.netContentQuantity.isSome && ["unit", "ud"].contains (lowered py v.netContentUnit) then .counted
  else if lowered py v.sellUnit = "unit" then .counted
  else .loose

/-- What is sold by weight has a price by weight, and what is sold by volume one by volume. -/
def soldByMeasure (sellUnit unitPriceUnit : String) : Bool :=
  sellUnit = "weight" && ["kg", "g"].contains unitPriceUnit || sellUnit = "volume" && ["l", "ml"].contains unitPriceUnit

/-- A variant that is there, against the product: its package tells as much, and if that is nothing, it is sold by the measure of the
    unit price just where the product is, or the difference does not count. -/
structure SameShape (v : ProductVariant) (p : ExternalCatalogProduct) : Prop where
  packing : v.packing py = p.packing
  sold : p.packing = .loose → p.variableWeight = true → p.unitPrice.isSome = true → p.provider ∉ unitPriceCostedProviders →
    soldByMeasure (lowered py v.sellUnit) (lowered py p.unitPriceUnit) = soldByMeasure p.sellUnit.value (lowered py p.unitPriceUnit)

/-- A product that is sold by the unit tells how many there are in a package or what it holds. -/
def CountKnown (p : ExternalCatalogProduct) : Prop := p.sellUnit = .unit → p.packing ≠ .loose

/-- What the capture stores has the shape of the product. -/
def KeepsShape (found : Option ProductVariant) (p : ExternalCatalogProduct) : Prop :=
  match found with
  | some v => SameShape py v p
  | none => CountKnown p

/-- Text without capitals stays as it is in lower case. -/
def KeepsLower : Prop := ∀ s : String, s.toList.all Char.isLower = true → py.lower s = s

end Packing

/-! ### The two classifications -/

/-- How a price by measure costs a product of which nothing is packed. -/
def looseMode (sold : Bool) (unitPriceUnit : String) : ProductCostingMode :=
  if sold && ["kg", "g"].contains unitPriceUnit then .variableWeight
  else if sold && ["l", "ml"].contains unitPriceUnit then .variableVolume
  else .unresolved

def packedMode (packing : Packing) (loose : ProductCostingMode) : ProductCostingMode :=
  match packing with
  | .measured => .fixedPackage
  | .counted => .discreteUnit
  | .loose => loose

section Modes
variable {py : Runtime} {p : ExternalCatalogProduct} {v : ProductVariant} {t t' : Tables} {retailerId : Int}

/-- The unit price counts for the provider, or the product is sold by its measure. -/
def soldLoose (variableWeight hasUnitPrice : Bool) (sellUnit unitPriceUnit provider : String) : Bool :=
  hasUnitPrice && (variableWeight && soldByMeasure sellUnit unitPriceUnit || unitPriceCostedProviders.contains provider)

theorem not_litre_of_kilo {upu : String} (h : ["kg", "g"].contains upu = true) : ["l", "ml"].contains upu = false := by
  have hupu : upu = "kg" ∨ upu = "g" := by simpa using h
  rcases hupu with rfl | rfl
  · rfl
  · rfl

theorem loose_cascade (w up weight volume costed : Bool) (upu : String) :
    (if w && up && weight && ["kg", "g"].contains upu then ProductCostingMode.variableWeight
      else if w && up && volume && ["l", "ml"].contains upu then .variableVolume
      else if costed && up then
        if ["kg", "g"].contains upu then .variableWeight else if ["l", "ml"].contains upu then .variableVolume else .unresolved
      else .unresolved) =
    looseMode (up && (w && (weight && ["kg", "g"].contains upu || volume && ["l", "ml"].contains upu) || costed)) upu := by
  unfold looseMode
  cases hkilo : ["kg", "g"].contains upu with
  | true =>
    rw [not_litre_of_kilo hkilo]
    cases w <;> cases up <;> cases weight <;> cases volume <;> cases costed <;> rfl
  | false =>
    cases ["l", "ml"].contains upu <;> cases w <;> cases up <;> cases weight <;> cases volume <;> cases costed <;> rfl

theorem classify_product (hprice : p.regularPrice ≠ none) (hid : p.externalProductId ≠ "") : classifyCostingMode py p =
    packedMode p.packing (looseMode (soldLoose p.variableWeight p.unitPrice.isSome p.sellUnit.value (lowered py p.unitPriceUnit)
      p.provider) (lowered py p.unitPriceUnit)) := by
  have hweight : decide (p.sellUnit.value = "weight") = decide (p.sellUnit = .weight) := by cases p.sellUnit <;> rfl
  have hvolume : decide (p.sellUnit.value = "volume") = decide (p.sellUnit = .volume) := by cases p.sellUnit <;> rfl
  have hpriced : (p.regularPrice.isNone || decide (p.externalProductId = "")) = false := by
    obtain ⟨price, hsome⟩ := Option.ne_none_iff_exists'.1 hprice
    simp [hsome, hid]
  unfold classifyCostingMode ExternalCatalogProduct.packing packedMode
  simp only [hpriced, Bool.false_eq_true, if_false]
  split
  · rfl
  split
  · rfl
  split
  · rfl
  rw [soldLoose, soldByMeasure, hweight, hvolume]
  exact loose_cascade _ _ _ _ _ _

theorem classify_variant (v : ProductVariant) (provider : String) : classifyVariantCostingMode py v provider =
    packedMode (v.packing py) (looseMode (soldLoose v.variableWeight v.unitPrice.isSome (lowered py v.sellUnit)
      (lowered py v.unitPriceUnit) provider) (lowered py v.unitPriceUnit)) := by
  unfold classifyVariantCostingMode ProductVariant.packing packedMode
  dsimp only
  split
  · rfl
  split
  · rfl
  split
  · rfl
  exact loose_cascade _ _ _ _ _ _

/-- A price by measure counts a piece or a package never. -/
theorem looseMode_ne (sold : Bool) (upu : String) : looseMode sold upu ≠ .fixedPackage ∧ looseMode sold upu ≠ .discreteUnit := by
  unfold looseMode
  split
  · exact ⟨by decide, by decide⟩
  split
  · exact ⟨by decide, by decide⟩
  · exact ⟨by decide, by decide⟩

theorem packedMode_eq_iff {a b : Packing} {sold sold' : Bool} {upu : String} :
    packedMode a (looseMode sold upu) = packedMode b (looseMode sold' upu) ↔
      a = b ∧ (b = .loose → looseMode sold upu = looseMode sold' upu) := by
  obtain ⟨hfixed, hdiscrete⟩ := looseMode_ne sold upu
  obtain ⟨hfixed', hdiscrete'⟩ := looseMode_ne sold' upu
  cases a <;> cases b <;> simp [packedMode, hfixed, hdiscrete, hfixed'.symm, hdiscrete'.symm]

theorem measure_of_sold {sellUnit upu : String} (h : soldByMeasure sellUnit upu = true) :
    ["kg", "g"].contains upu = true ∨ ["l", "ml"].contains upu = true := by
  unfold soldByMeasure at h
  rw [Bool.or_eq_true, Bool.and_eq_true, Bool.and_eq_true] at h
  exact h.imp (·.2) (·.2)

theorem looseMode_eq_iff {sold sold' : Bool} {upu : String} (h : ["kg", "g"].contains upu = true ∨ ["l", "ml"].contains upu = true) :
    looseMode sold upu = looseMode sold' upu ↔ sold = sold' := by
  unfold looseMode
  rcases h with hkilo | hlitre
  · rw [hkilo]
    cases sold <;> cases sold' <;> simp
  · rw [hlitre]
    cases sold <;> cases sold' <;> cases ["kg", "g"].contains upu <;> simp

/-- The sell unit counts only for a variable weight with a unit price, and not where the provider is costed by it anyway. -/
theorem soldLoose_eq_iff {variableWeight hasUnitPrice : Bool} {sellUnit sellUnit' upu provider : String} :
    looseMode (soldLoose variableWeight hasUnitPrice sellUnit upu provider) upu =
        looseMode (soldLoose variableWeight hasUnitPrice sellUnit' upu provider) upu ↔
      (variableWeight = true → hasUnitPrice = true → provider ∉ unitPriceCostedProviders →
        soldByMeasure sellUnit upu = soldByMeasure sellUnit' upu) := by
  by_cases hsold : soldByMeasure sellUnit upu = soldByMeasure sellUnit' upu
  · simp [soldLoose, hsold]
  have hmeasure : ["kg", "g"].contains upu = true ∨ ["l", "ml"].contains upu = true := by
    cases hleft : soldByMeasure sellUnit upu with
    | true => exact measure_of_sold hleft
    | false =>
      cases hright : soldByMeasure sellUnit' upu with
      | true => exact measure_of_sold hright
      | false => exact absurd (hleft.trans hright.symm) hsold
  rw [looseMode_eq_iff hmeasure]
  unfold soldLoose
  by_cases hcosted : provider ∈ unitPriceCostedProviders
  · simp [hcosted]
  · cases variableWeight <;> cases hasUnitPrice <;> simp [hcosted, hsold]

end Modes

/-! ### What is stored of a product -/

section Stored
variable {py : Runtime} {p : ExternalCatalogProduct} {v : ProductVariant} {t t' : Tables} {retailerId : Int}

theorem storedOption_isSome {x : Option ℚ} {a : Option Amount} (h : Amount.storedOption x = some a) : a.isSome = x.isSome := by
  cases x with
  | none =>
    cases Option.some.inj h
    rfl
  | some q =>
    obtain ⟨stored, -, rfl⟩ := Option.map_eq_some_iff.1 h
    rfl

theorem withExternal_variants : (withExternal t retailerId p).1.variants = t.variants := by
  unfold withExternal
  split
  · rfl
  · rfl

theorem withCanonical_variants {e e' : ExternalProduct} (h : withCanonical t retailerId p e = some (t', e')) :
    t'.variants = t.variants ∧ e'.id = e.id := by
  unfold withCanonical at h
  split at h
  · cases h
    exact ⟨rfl, rfl⟩
  · obtain ⟨quantity, -, heq⟩ := Option.map_eq_some_iff.1 h
    cases heq
    exact ⟨rfl, rfl⟩

theorem upsert_cases (h : upsertVariant t retailerId p = some (t', v)) :
    ∃ unitPrice, Amount.storedOption p.unitPrice = some unitPrice ∧
      ((∃ w, foundVariant t retailerId p = some w ∧ v = refreshed p w unitPrice) ∨
        (foundVariant t retailerId p = none ∧ ∃ t₁ e netContentQuantity,
          Amount.storedOption p.netContentQuantity = some netContentQuantity ∧
            v = newVariant t₁ retailerId p e netContentQuantity unitPrice)) := by
  unfold upsertVariant at h
  obtain ⟨⟨t₁, e₁⟩, hcanonical, h⟩ := Option.bind_eq_some_iff.1 h
  obtain ⟨unitPrice, hprice, h⟩ := Option.bind_eq_some_iff.1 h
  have hvariants : t₁.variants = t.variants := (withCanonical_variants hcanonical).1.trans withExternal_variants
  have hid : e₁.id = (withExternal t retailerId p).2.id := (withCanonical_variants hcanonical).2
  have hfound : variant? t₁ retailerId e₁ = foundVariant t retailerId p := by
    unfold foundVariant variant?
    rw [hvariants, hid]
  refine ⟨unitPrice, hprice, ?_⟩
  dsimp only at h
  rw [hfound] at h
  cases hthere : foundVariant t retailerId p with
  | some w =>
    rw [hthere] at h
    cases h
    exact .inl ⟨w, rfl, rfl⟩
  | none =>
    rw [hthere] at h
    obtain ⟨quantity, hquantity, h⟩ := Option.bind_eq_some_iff.1 h
    cases h
    exact .inr ⟨rfl, t₁, e₁, quantity, hquantity, rfl⟩

theorem lowered_sellUnit (hpy : KeepsLower py) (u : SellUnit) : lowered py (some u.value) = u.value := by
  cases u <;> exact hpy _ (by decide)

theorem lowered_contentUnit (hpy : KeepsLower py) (u : Option ContentUnit) :
    lowered py (u.map (·.value)) = (u.map (·.value)).getD "" := by
  rcases u with - | u
  · exact hpy _ (by decide)
  · cases u <;> exact hpy _ (by decide)

/-- A new variant tells as much of its package as the product, but one that is sold by the unit counts as a piece. -/
theorem newVariant_packing (hpy : KeepsLower py) {e : ExternalProduct} {quantity unitPrice : Option Amount}
    (hquantity : Amount.storedOption p.netContentQuantity = some quantity) :
    (newVariant t retailerId p e quantity unitPrice).packing py = if p.sellUnit = .unit ∧ p.packing = .loose then .counted else p.packing := by
  have hmeasured : ["g", "kg", "ml", "l"].contains ((p.netContentUnit.map (·.value)).getD "") =
      [some ContentUnit.g, some .kg, some .ml, some .l].contains p.netContentUnit := by
    rcases p.netContentUnit with - | u
    · decide
    · cases u <;> decide
  have hcounted : ["unit", "ud"].contains ((p.netContentUnit.map (·.value)).getD "") = decide (p.netContentUnit = some .unit) := by
    rcases p.netContentUnit with - | u
    · decide
    · cases u <;> decide
  have hsold : p.sellUnit.value = "unit" ↔ p.sellUnit = .unit := by cases p.sellUnit <;> decide
  unfold ProductVariant.packing ExternalCatalogProduct.packing newVariant
  dsimp only
  rw [lowered_contentUnit hpy, lowered_sellUnit hpy, storedOption_isSome hquantity, hmeasured, hcounted]
  simp only [hsold]
  by_cases hunit : p.sellUnit = .unit
  · split_ifs <;> simp_all
  · split_ifs <;> simp_all

theorem refreshed_agrees {w : ProductVariant} {unitPrice : Option Amount} (hprice : p.regularPrice ≠ none)
    (hid : p.externalProductId ≠ "") (hunit : Amount.storedOption p.unitPrice = some unitPrice) :
    classifyCostingMode py p = classifyVariantCostingMode py (refreshed p w unitPrice) p.provider ↔ SameShape py w p := by
  have hpacking : (refreshed p w unitPrice).packing py = w.packing py := rfl
  rw [classify_product hprice hid, classify_variant, hpacking, eq_comm]
  unfold refreshed
  dsimp only
  rw [storedOption_isSome hunit, packedMode_eq_iff, soldLoose_eq_iff]
  exact ⟨fun ⟨hsame, hsold⟩ => ⟨hsame, hsold⟩, fun ⟨hsame, hsold⟩ => ⟨hsame, hsold⟩⟩

theorem newVariant_agrees (hpy : KeepsLower py) {e : ExternalProduct} {quantity unitPrice : Option Amount} (hprice : p.regularPrice ≠ none)
    (hid : p.externalProductId ≠ "") (hunit : Amount.storedOption p.unitPrice = some unitPrice)
    (hquantity : Amount.storedOption p.netContentQuantity = some quantity) :
    classifyCostingMode py p = classifyVariantCostingMode py (newVariant t retailerId p e quantity unitPrice) p.provider ↔
      CountKnown p := by
  rw [classify_product hprice hid, classify_variant, newVariant_packing hpy hquantity, eq_comm]
  unfold newVariant CountKnown
  dsimp only
  rw [lowered_sellUnit hpy, storedOption_isSome hunit, packedMode_eq_iff]
  by_cases hbare : p.sellUnit = .unit ∧ p.packing = .loose
  · rw [if_pos hbare, hbare.2]
    exact ⟨fun h => absurd h.1 (by decide), fun h => absurd rfl (h hbare.1)⟩
  · rw [if_neg hbare]
    exact ⟨fun _ hunit hloose => hbare ⟨hunit, hloose⟩, fun _ => ⟨rfl, fun _ => rfl⟩⟩

/-- A capture with a price and an id is costed as its variant is, if and only if what is stored keeps the shape of the product. -/
theorem upsert_agrees_iff (hpy : KeepsLower py) (hprice : p.regularPrice ≠ none) (hid : p.externalProductId ≠ "")
    (h : upsertVariant t retailerId p = some (t', v)) :
    classifyCostingMode py p = classifyVariantCostingMode py v p.provider ↔ KeepsShape py (foundVariant t retailerId p) p := by
  obtain ⟨unitPrice, hunit, ⟨w, hfound, rfl⟩ | ⟨hfound, t₁, e, quantity, hquantity, rfl⟩⟩ := upsert_cases h
  · rw [hfound]
    exact refreshed_agrees hprice hid hunit
  · rw [hfound]
    exact newVariant_agrees hpy hprice hid hunit hquantity

/-! A product that is sold by the unit is not costable by itself, and its variant is. -/

def looseLemon : ExternalCatalogProduct where
  provider := "parsebot-lidl"
  externalProductId := "1044"
  productName := "Limón"
  sellUnit := .unit
  regularPrice := some (35 / 100)

def packedRice : ExternalCatalogProduct where
  provider := "parsebot-lidl"
  externalProductId := "1045"
  productName := "Arroz"
  sellUnit := .package
  regularPrice := some (129 / 100)
  netContentQuantity := some 1
  netContentUnit := some .kg

theorem keepsLower_replay : KeepsLower (Runtime.replay []) := fun _ hs => Text.lowerAscii_eq_self hs

theorem upsert_agrees_packedRice : ∃ t' v, upsertVariant {} 1 packedRice = some (t', v) ∧
    classifyVariantCostingMode (Runtime.replay []) v packedRice.provider = .fixedPackage := by
  obtain ⟨⟨t', v⟩, h⟩ := Option.isSome_iff_exists.1 (show (upsertVariant {} 1 packedRice).isSome from by decide +kernel)
  have hcount : CountKnown packedRice := fun hunit => absurd hunit (by decide)
  have hagrees := (upsert_agrees_iff keepsLower_replay (by decide) (by decide) h).2 hcount
  exact ⟨t', v, h, hagrees.symm⟩

theorem upsert_disagrees_looseLemon : ∃ t' v, upsertVariant {} 1 looseLemon = some (t', v) ∧
    classifyCostingMode (Runtime.replay []) looseLemon = .unresolved ∧
      classifyVariantCostingMode (Runtime.replay []) v looseLemon.provider = .discreteUnit :=
  ⟨_, _, rfl, by decide, by decide⟩

end Stored
end CestaPlan.Costing
