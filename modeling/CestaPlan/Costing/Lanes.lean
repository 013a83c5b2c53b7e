import CestaPlan.Costing.Balance
import CestaPlan.Engine.Packaging
import CestaPlan.Engine.RoundTrips

/-! The two lanes that cost a variant: the staging lane (`services/recipe_costing.py`) and the planning lane (`_package_dims` of
    `ingestion/current_price.py` with the engine's converter and packages).

    Each lane takes a format from the fields of the variant and buys it whole. For quantities of the columns the roundings of either
    lane never change the number of packages, so the lanes differ only in the format they take. -/

namespace CestaPlan.Costing
open Engine (Runtime Dimension toBase massToG volumeToMl countUnits normUnit convert convertWithin computePackages decimalCeilDiv unitKind
  unitScale unitScale_pos unitKind_cases)
open Regex (Alphabet)
open Numeric
open Ingestion (eggPackSize eggPackSize_bounds)
open Prices (ProductCostingMode)

/-- A size in the base unit, and its price. -/
structure Format where
  size : ℚ
  price : ℚ
deriving DecidableEq

section Lanes
variable (py : Runtime) (u : Alphabet) (v : ProductVariant) (providerCode : String) (price : ℚ)

/-- `_package_dims` -/
def packageDims : ℚ × String :=
  match v.packageQuantity, v.packageUnit.filter (· ≠ "") with
  | some quantity, some unit => (quantity.value, unit)
  | _, _ => match v.netContentQuantity, v.netContentUnit.filter (["g", "kg", "ml", "l"].contains ·) with
    | some quantity, some unit => (quantity.value, unit)
    | _, _ => match eggPackSize py u v.displayName with
      | some eggs => (eggs, "unit")
      | none => (1, "unit")

/-- The packages and the cost of the staging lane. -/
def stagingLane (quantity : ℚ) (unit : String) : Option (ℤ × ℚ) := do
  let (requiredBase, requiredDim) ← toBase py quantity unit
  let mode := costingMode py u v providerCode requiredDim
  let purchase ← costCandidate py u requiredBase requiredDim { variant := v, price, priceScope := "national", fresh := true, mode }
  return (purchase.units, purchase.lineCost)

/-- The packages and the cost of the planning lane, without declared conversions. -/
def planningLane (quantity : ℚ) (unit : String) : Option (ℤ × ℚ) := do
  let (packageQuantity, packageUnit) := packageDims py u v
  let needed ← (convert py Dict.empty quantity unit packageUnit none).toOption
  let result ← computePackages py needed 0 packageQuantity price
  return (result.packages, result.totalCost)

/-- An amount of a unit, as a format where it is positive and of the dimension. -/
def formatOf (quantity : ℚ) (unit : String) (dim : Dimension) : Option Format :=
  match toBase py quantity unit with
  | some (size, dim') => if dim' = dim && 0 < size then some { size, price } else none
  | none => none

/-- The format of the staging lane: the net content, else the count pack, or a gram or a millilitre at the price of the unit. -/
def stagedFormat (dim : Dimension) : Option Format :=
  match costingMode py u v providerCode dim with
  | .fixedPackage | .discreteUnit => match v.netContentQuantity, v.netContentUnit with
    | some quantity, some unit => formatOf py price quantity.value unit dim
    | _, _ =>
      if costingMode py u v providerCode dim = .discreteUnit && dim = .count then
        some { size := (countPackUnits py u v).getD 1, price }
      else none
  | .variableWeight | .variableVolume => match v.unitPrice, v.unitPriceUnit with
    | some unitPrice, some unit => match toBase py 1 unit with
      | some (sell, dim') =>
        let perUnitPrice := if v.variableWeight then price else unitPrice.value
        if dim' = dim && 0 < perUnitPrice then some { size := 1, price := py.div perUnitPrice sell } else none
      | none => none
    | _, _ => none
  | .unresolved => none

/-- The format of the planning lane: the package, else the net content, else a pack of eggs, else one unit. -/
def plannedFormat (dim : Dimension) : Option Format :=
  formatOf py price (packageDims py u v).1 (packageDims py u v).2 dim

/-- The number and the cost of the whole formats that cover a quantity. -/
def Format.buy (requiredBase : ℚ) (format : Format) : ℤ × ℚ :=
  (⌈requiredBase / format.size⌉, py.mul ⌈requiredBase / format.size⌉ format.price)

/-- Neither lane has a format, or both have one, and cover the quantity with as many of either, at the same cost. -/
def SameFormats (requiredBase : ℚ) (dim : Dimension) : Prop :=
  match stagedFormat py u v providerCode price dim, plannedFormat py u v price dim with
  | none, none => True
  | some staged, some planned => staged.buy py requiredBase = planned.buy py requiredBase
  | _, _ => False

end Lanes

/-! ### Roundings -/

section Counts
variable {py : Runtime} {u : Alphabet} {v : ProductVariant} {requiredBase size : ℚ} {r p : ℤ}

theorem ceil_eq_of_near {y : ℚ} (hr : |r| < 10 ^ 18) (hp : 0 < p) (hnear : (r : ℚ) / p - y ≤ 3 * (|(r : ℚ) / p| / 10 ^ 27))
    (hle : y ≤ ⌈(r : ℚ) / p⌉) : ⌈y⌉ = ⌈(r : ℚ) / p⌉ :=
  le_antisymm (Int.ceil_le.mpr hle) (Int.ceil_le.mpr (le_ceil_of_near hr hp hnear))

theorem ceil_div_bounds (hr : |r| < 10 ^ 18) (hr0 : 0 < r) (hp : 0 < p) :
    0 < ⌈(r : ℚ) / p⌉ ∧ ⌈(r : ℚ) / p⌉ ≤ r ∧ roundContext ⌈(r : ℚ) / p⌉ = ⌈(r : ℚ) / p⌉ := by
  have hp' : (1 : ℚ) ≤ p := by exact_mod_cast hp
  have hr0' : (0 : ℚ) < r := by exact_mod_cast hr0
  have hpos : 0 < ⌈(r : ℚ) / p⌉ := Int.ceil_pos.mpr (div_pos hr0' (by linarith))
  have hle : ⌈(r : ℚ) / p⌉ ≤ r := Int.ceil_le.mpr (div_le_self hr0'.le hp')
  refine ⟨hpos, hle, roundContext_intCast ?_⟩
  rw [abs_of_pos hpos]
  rw [abs_of_pos hr0] at hr
  exact (hle.trans_lt hr).trans (by norm_num [contextPrec])

theorem stagedUnits_eq (hround : py.round = roundContext) (hrequired : BaseDigits requiredBase) (hpos : 0 < requiredBase)
    (hsize : BaseDigits size) (hsize0 : 0 < size) : max ⌈py.div requiredBase size⌉ 1 = ⌈requiredBase / size⌉ := by
  obtain ⟨r, rfl, hr⟩ := hrequired
  obtain ⟨p, rfl, hp⟩ := hsize
  have hr0 : 0 < r := by exact_mod_cast (div_pos_iff_of_pos_right (show (0 : ℚ) < 10 ^ 7 by positivity)).mp hpos
  have hp0 : 0 < p := by exact_mod_cast (div_pos_iff_of_pos_right (show (0 : ℚ) < 10 ^ 7 by positivity)).mp hsize0
  obtain ⟨hceil, -, hexact⟩ := ceil_div_bounds hr hr0 hp0
  rw [Runtime.div, hround, div_div_div_cancel_right₀ (by positivity)]
  have hcount : ⌈roundContext ((r : ℚ) / p)⌉ = ⌈(r : ℚ) / p⌉ := by
    refine ceil_eq_of_near hr hp0 ?_ ((roundContext_mono (Int.le_ceil _)).trans_eq hexact)
    have herr := (abs_le.mp (abs_roundContext_sub_le ((r : ℚ) / p))).1
    have : (0 : ℚ) ≤ |(r : ℚ) / p| / 10 ^ 27 := by positivity
    rw [show contextPrec - 1 = 27 from rfl] at herr
    linarith
  rw [hcount]
  exact max_eq_left hceil

theorem sub_roundContext_div_le {x c : ℚ} (hx : 0 < x) (hc : 0 < c) : x / c - roundContext (roundContext x / c) ≤ 3 * (|x / c| / 10 ^ 27) := by
  have hx' : 0 < roundContext x := roundContext_pos hx
  have hfirst := (abs_le.mp (abs_roundContext_sub_le x)).1
  have hsecond := (abs_le.mp (abs_roundContext_sub_le (roundContext x / c))).1
  rw [show contextPrec - 1 = 27 from rfl, abs_of_pos hx] at hfirst
  rw [show contextPrec - 1 = 27 from rfl, abs_of_pos (div_pos hx' hc)] at hsecond
  set y := x / c with hy
  have hy0 : 0 < y := div_pos hx hc
  have hlow : y * (1 - 1 / 10 ^ 27) ≤ roundContext x / c := by
    rw [le_div_iff₀ hc, hy, mul_right_comm, div_mul_cancel₀ _ hc.ne']
    linarith
  have hboth : y * (1 - 1 / 10 ^ 27) * (1 - 1 / 10 ^ 27) ≤ roundContext (roundContext x / c) := by
    calc _ ≤ roundContext x / c * (1 - 1 / 10 ^ 27) := mul_le_mul_of_nonneg_right hlow (by norm_num)
      _ ≤ roundContext (roundContext x / c) := by linarith
  have hexpand : y * (1 - 1 / 10 ^ 27) * (1 - 1 / 10 ^ 27) = y - 2 * (y / 10 ^ 27) + y / 10 ^ 27 / 10 ^ 27 := by ring
  have hy1 : 0 < y / 10 ^ 27 := by positivity
  have hy2 : 0 < y / 10 ^ 27 / 10 ^ 27 := by positivity
  rw [hexpand] at hboth
  rw [abs_of_pos hy0]
  linarith

/-- So many packages of an amount, less than one more than a quantity asks for, are an amount of the context. -/
theorem roundContext_mul_value {a : Amount} (ha : 0 < a.value) {n : ℤ} (hn : 0 < n) {x : ℚ} (hx : x < 10 ^ 14)
    (hlt : (n : ℚ) * a.value < x + a.value) : roundContext (n * a.value) = n * a.value := by
  have ht : (0 : ℚ) < a.tenThousandths := (div_pos_iff_of_pos_right (show (0 : ℚ) < 10 ^ 4 by positivity)).mp ha
  have hvalue : a.value < 10 ^ 8 := by
    have : (a.tenThousandths : ℚ) < 10 ^ 12 := by exact_mod_cast (le_abs_self _).trans_lt a.fits
    unfold Amount.value
    linarith
  have heq : (n : ℚ) * a.value = ((n * a.tenThousandths : ℤ) : ℚ) / 10 ^ 4 := by
    unfold Amount.value
    push_cast
    ring
  have hreal : ((n * a.tenThousandths : ℤ) : ℚ) < 10 ^ contextPrec := by
    have hscaled : ((n * a.tenThousandths : ℤ) : ℚ) = n * a.value * 10 ^ 4 := by
      rw [heq]
      exact (div_mul_cancel₀ _ (by positivity)).symm
    rw [hscaled]
    norm_num [contextPrec] at hx hvalue ⊢
    linarith
  have hfits : |n * a.tenThousandths| < 10 ^ contextPrec := by
    rw [abs_of_pos (mul_pos hn (by exact_mod_cast ht))]
    exact_mod_cast hreal
  rw [heq, roundContext_of_int hfits]

theorem plannedPackages_eq (hround : py.round = roundContext) (hrequired : BaseDigits requiredBase) (hpos : 0 < requiredBase)
    {a : Amount} (ha : 0 < a.value) {scale : ℚ} (hscale : 1 / 1000 ≤ scale) (hsize : BaseDigits (a.value * scale)) :
    ⌈py.div (max (py.sub (roundContext (requiredBase / scale)) 0) 0) a.value⌉ = ⌈requiredBase / (a.value * scale)⌉ := by
  have hscale0 : 0 < scale := lt_of_lt_of_le (by norm_num) hscale
  have hneeded0 : 0 < requiredBase / scale := div_pos hpos hscale0
  rw [Runtime.sub, Runtime.div, hround, sub_zero, roundContext_roundContext, max_eq_left (roundContext_pos hneeded0).le]
  have hquotient : requiredBase / (a.value * scale) = requiredBase / scale / a.value := by rw [div_div, mul_comm]
  obtain ⟨r, hr, hrfits⟩ := hrequired
  obtain ⟨p, hp, -⟩ := hsize
  have hr0 : 0 < r := by
    rw [hr] at hpos
    exact_mod_cast (div_pos_iff_of_pos_right (show (0 : ℚ) < 10 ^ 7 by positivity)).mp hpos
  have hp0 : 0 < p := by
    have := mul_pos ha hscale0
    rw [hp] at this
    exact_mod_cast (div_pos_iff_of_pos_right (show (0 : ℚ) < 10 ^ 7 by positivity)).mp this
  have hratio : requiredBase / scale / a.value = (r : ℚ) / p := by
    rw [← hquotient, hr, hp, div_div_div_cancel_right₀ (by positivity)]
  have hneeded : requiredBase / scale < 10 ^ 14 := by
    have hbase : requiredBase < 10 ^ 11 := by
      have : (r : ℚ) < 10 ^ 18 := by exact_mod_cast (le_abs_self r).trans_lt hrfits
      rw [hr]
      linarith
    rw [div_lt_iff₀ hscale0]
    linarith
  obtain ⟨hceil, -, hexact⟩ := ceil_div_bounds hrfits hr0 hp0
  have hnear := sub_roundContext_div_le hneeded0 ha
  rw [hratio] at hnear
  rw [hquotient, hratio]
  refine ceil_eq_of_near hrfits hp0 hnear ?_
  -- The packages that cover the quantity exactly are an amount of the context, so that they cover the rounded one as well.
  set n := ⌈(r : ℚ) / p⌉ with hn
  have hcover : requiredBase / scale ≤ n * a.value := by
    rw [← div_le_iff₀ ha, hratio]
    exact Int.le_ceil _
  have hlt : (n : ℚ) * a.value < requiredBase / scale + a.value := by
    have hone := mul_lt_mul_of_pos_right (Int.ceil_lt_add_one (requiredBase / scale / a.value)) ha
    rwa [hratio, ← hn, add_mul, one_mul, ← hratio, div_mul_cancel₀ _ ha.ne'] at hone
  calc roundContext (roundContext (requiredBase / scale) / a.value) ≤ roundContext n := by
        refine roundContext_mono ?_
        rw [div_le_iff₀ ha]
        exact (roundContext_mono hcover).trans_eq (roundContext_mul_value ha hceil hneeded hlt)
    _ = n := hexact

end Counts

/-! ### Units -/

section Units
variable {py : Runtime} {u : Alphabet} {v : ProductVariant} {requiredBase : ℚ} {dim : Dimension} {unit : String}

theorem toBase_amount (hround : py.round = roundContext) (a : Amount) (unit : String) : toBase py a.value unit =
    (unitKind (normUnit py unit)).elim (fun dim => some (a.value * unitScale (normUnit py unit), dim)) fun _ => none := by
  unfold toBase
  rcases unitKind_cases (normUnit py unit) with ⟨f, hmass, hvolume, hcount, hkind⟩ | ⟨f, hmass, hvolume, hcount, hkind⟩ |
    ⟨hmass, hvolume, hcount, hkind⟩ | ⟨hmass, hvolume, hcount, hkind⟩
  · have hscale : unitScale (normUnit py unit) = f := by simp [unitScale, hmass]
    simp [hmass, hkind, hscale, (mul_factor hround a (.inl hmass)).1]
  · have hscale : unitScale (normUnit py unit) = f := by simp [unitScale, hmass, hvolume]
    simp [hmass, hvolume, hkind, hscale, (mul_factor hround a (.inr hvolume)).1]
  · have hscale : unitScale (normUnit py unit) = 1 := by simp [unitScale, hmass, hvolume]
    simp [hmass, hvolume, hcount, hkind, hscale]
  · simp [hmass, hvolume, hcount, hkind]

theorem toBase_amount_eq_some_iff (hround : py.round = roundContext) {a : Amount} : toBase py a.value unit = some (requiredBase, dim) ↔
    unitKind (normUnit py unit) = .inl dim ∧ requiredBase = a.value * unitScale (normUnit py unit) := by
  rw [toBase_amount hround]
  cases unitKind (normUnit py unit) with
  | inl dim' =>
    simp only [Sum.elim_inl, Option.some.injEq, Prod.mk.injEq, Sum.inl.injEq]
    exact ⟨fun ⟨h, h'⟩ => ⟨h', h.symm⟩, fun ⟨h, h'⟩ => ⟨h'.symm, h⟩⟩
  | inr _ => simp

theorem unitScale_ge (unit : String) : 1 / 1000 ≤ unitScale unit := by
  unfold unitScale
  cases hscale : (massToG.lookup unit).or (volumeToMl.lookup unit) with
  | none => norm_num
  | some factor =>
    obtain ⟨k, hk, -⟩ := factor_thousandths ((Option.or_eq_some_iff.mp hscale).imp id And.right)
    have hpos := unitScale_pos unit
    rw [unitScale, hscale, Option.getD_some, hk, div_pos_iff_of_pos_right (by norm_num)] at hpos
    have hk1 : (1 : ℚ) ≤ k := by exact_mod_cast hpos
    rw [Option.getD_some, hk]
    linarith

theorem convert_known (hround : py.round = roundContext) {quantity : Amount}
    (h : toBase py quantity.value unit = some (requiredBase, dim)) (t : String) :
    (convert py Dict.empty quantity.value unit t none).toOption =
      if unitKind (normUnit py t) = .inl dim then some (roundContext (requiredBase / unitScale (normUnit py t))) else none := by
  obtain ⟨hkind, rfl⟩ := (toBase_amount_eq_some_iff hround).mp h
  rw [Engine.convert_toOption, Option.bind_none, Option.or_none]
  have hself : roundContext quantity.value = quantity.value :=
    roundContext_of_int (quantity.fits.trans (by norm_num [contextPrec]))
  by_cases heq : normUnit py unit = normUnit py t
  · rw [← heq, if_pos hkind, mul_div_cancel_right₀ _ (unitScale_pos _).ne', hself]
    exact if_pos rfl
  · have hrate : ∀ x b, py.div x b = roundContext (x / b) := fun x b => by rw [Runtime.div, hround]
    unfold convertWithin
    rw [if_neg heq]
    rcases unitKind_cases (normUnit py unit) with ⟨f, hmass, hvolume, hcount, hkind'⟩ | ⟨f, hmass, hvolume, hcount, hkind'⟩ |
      ⟨hmass, hvolume, hcount, hkind'⟩ | ⟨hmass, hvolume, hcount, hkind'⟩ <;>
    rw [hkind'] at hkind <;> cases hkind <;>
    rcases unitKind_cases (normUnit py t) with ⟨g, hmass', hvolume', hcount', hkind'⟩ | ⟨g, hmass', hvolume', hcount', hkind'⟩ |
      ⟨hmass', hvolume', hcount', hkind'⟩ | ⟨hmass', hvolume', hcount', hkind'⟩
    · simp [hmass, hmass', hkind', hrate, unitScale, (mul_factor hround quantity (.inl hmass)).1]
    all_goals simp [hmass, hmass', hvolume, hvolume', hcount, hcount', hkind', hrate, unitScale, hself]
    · rw [(mul_factor hround quantity (.inr hvolume)).1]

end Units

/-! ### What the lanes buy -/

section Buying
variable {py : Runtime} {u : Alphabet} {v : ProductVariant} {providerCode : String} {price requiredBase : ℚ} {dim : Dimension}
  {unit : String} {quantity : Amount}

theorem packageDims_amount (v : ProductVariant) : ∃ a : Amount, (packageDims py u v).1 = a.value := by
  unfold packageDims
  split
  · next quantity _ _ _ => exact ⟨quantity, rfl⟩
  · split
    · next quantity _ _ _ => exact ⟨quantity, rfl⟩
    · split
      · next eggs heggs =>
        have hlt := (eggPackSize_bounds py u heggs).2
        refine ⟨⟨eggs * 10 ^ 4, by rw [abs_of_nonneg (by positivity)]; omega⟩, ?_⟩
        show (eggs : ℚ) = ((eggs * 10 ^ 4 : ℤ) : ℚ) / 10 ^ 4
        push_cast
        ring
      · exact ⟨⟨10 ^ 4, by norm_num⟩, by norm_num [Amount.value]⟩

theorem wholePackages_eq (hround : py.round = roundContext) (hrequired : BaseDigits requiredBase) (hpos : 0 < requiredBase) {size : ℚ}
    (hsize : BaseDigits size) (hsize0 : 0 < size) :
    ((wholePackages py requiredBase size price).units, (wholePackages py requiredBase size price).lineCost) =
      Format.buy py requiredBase { size, price } := by
  unfold wholePackages Format.buy
  rw [stagedUnits_eq hround hrequired hpos hsize hsize0]

theorem fixedPackageCost_eq (hround : py.round = roundContext) (hrequired : BaseDigits requiredBase) (hpos : 0 < requiredBase)
    (hprice : 0 < price) : (fixedPackageCost py requiredBase dim (some quantity) (some unit) price).map (fun p => (p.units, p.lineCost)) =
      (formatOf py price quantity.value unit dim).map (Format.buy py requiredBase) := by
  unfold fixedPackageCost formatOf
  rw [if_neg (not_le.mpr hprice)]
  dsimp only
  cases hbase : toBase py quantity.value unit with
  | none => rfl
  | some based =>
    obtain ⟨size, dim'⟩ := based
    dsimp only
    by_cases hok : dim' = dim ∧ 0 < size
    · rw [if_neg (by simp [hok.1, hok.2]), if_pos (by simp [hok.1, hok.2]), Option.map_some, Option.map_some,
        wholePackages_eq hround hrequired hpos (toBase_digits hround hbase) hok.2]
    · rw [if_pos (by simp only [Bool.or_eq_true, decide_eq_true_eq, ne_eq, ← not_lt]; tauto),
        if_neg (by simpa only [Bool.and_eq_true, decide_eq_true_eq] using hok)]
      rfl

theorem measuredCost_eq {mode : ProductCostingMode} {priceScope : String} {fresh : Bool} (hpos : 0 < requiredBase) :
    (measuredCost py requiredBase dim { variant := v, price, priceScope, fresh, mode }).map (fun p => (p.units, p.lineCost)) =
      (match v.unitPrice, v.unitPriceUnit with
        | some unitPrice, some unit => match toBase py 1 unit with
          | some (sell, dim') =>
            let perUnitPrice := if v.variableWeight then price else unitPrice.value
            if dim' = dim && 0 < perUnitPrice then some { size := 1, price := py.div perUnitPrice sell } else none
          | none => none
        | _, _ => none : Option Format).map (Format.buy py requiredBase) := by
  have hceil : max ⌈requiredBase⌉ 1 = ⌈requiredBase / 1⌉ := by
    rw [div_one]
    exact max_eq_left (Int.ceil_pos.mpr hpos)
  unfold measuredCost
  dsimp only
  cases v.unitPrice with
  | none => rfl
  | some unitPrice =>
    cases v.unitPriceUnit with
    | none => rfl
    | some unit =>
      dsimp only
      cases toBase py 1 unit with
      | none => rfl
      | some based =>
        obtain ⟨sell, dim'⟩ := based
        dsimp only
        generalize (if v.variableWeight = true then price else unitPrice.value) = perUnitPrice
        by_cases hdim : dim' = dim
        · by_cases hunit : 0 < perUnitPrice
          · rw [if_neg (by simp [hdim]), if_neg (not_le.mpr hunit), if_pos (by simp [hdim, hunit]), hceil]
            rfl
          · rw [if_neg (by simp [hdim]), if_pos (not_lt.mp hunit), if_neg (by simp [hunit])]
            rfl
        · rw [if_pos (by simp [hdim]), if_neg (by simp [hdim])]
          rfl

theorem stagingLane_eq (hround : py.round = roundContext) (hquantity : 0 < quantity.value) (hprice : 0 < price)
    (hunit : toBase py quantity.value unit = some (requiredBase, dim)) :
    stagingLane py u v providerCode price quantity.value unit =
      (stagedFormat py u v providerCode price dim).map (Format.buy py requiredBase) := by
  have hdigits := toBase_digits hround hunit
  have hpos : 0 < requiredBase := by
    rw [((toBase_amount_eq_some_iff hround).mp hunit).2]
    exact mul_pos hquantity (unitScale_pos _)
  obtain ⟨hpack, hpack0⟩ := @countPackUnits_digits py u v
  unfold stagingLane
  rw [hunit]
  show (costCandidate py u requiredBase dim _).bind (some ∘ fun p => (p.units, p.lineCost)) = _
  rw [← Option.map_eq_bind]
  unfold costCandidate stagedFormat
  dsimp only
  rw [if_neg (not_le.mpr hprice)]
  cases costingMode py u v providerCode dim with
  | unresolved => rfl
  | variableWeight => exact measuredCost_eq hpos
  | variableVolume => exact measuredCost_eq hpos
  | fixedPackage =>
    cases v.netContentQuantity with
    | none => rfl
    | some ncq =>
      cases v.netContentUnit with
      | none => rfl
      | some ncu => exact fixedPackageCost_eq hround hdigits hpos hprice
  | discreteUnit =>
    have hcount : (if (decide (ProductCostingMode.discreteUnit = .discreteUnit) && decide (dim = .count)) = true then
          some (wholePackages py requiredBase ((countPackUnits py u v).getD 1) price) else none).map (fun p => (p.units, p.lineCost)) =
        (if (decide (ProductCostingMode.discreteUnit = .discreteUnit) && decide (dim = .count)) = true then
          some ({ size := (countPackUnits py u v).getD 1, price } : Format) else none).map (Format.buy py requiredBase) := by
      split
      · exact congrArg some (wholePackages_eq hround hdigits hpos hpack hpack0)
      · rfl
    cases v.netContentQuantity with
    | none => exact hcount
    | some ncq =>
      cases v.netContentUnit with
      | none => exact hcount
      | some ncu => exact fixedPackageCost_eq hround hdigits hpos hprice

theorem computePackages_planned (hround : py.round = roundContext) (hrequired : BaseDigits requiredBase) (hpos : 0 < requiredBase)
    {a : Amount} {scale : ℚ} (hscale : 1 / 1000 ≤ scale) (hsize : BaseDigits (a.value * scale)) :
    ((computePackages py (roundContext (requiredBase / scale)) 0 a.value price).map fun result => ((result.packages : ℤ), result.totalCost)) =
      if 0 < a.value * scale then some (Format.buy py requiredBase { size := a.value * scale, price }) else none := by
  have hscale0 : 0 < scale := lt_of_lt_of_le (by norm_num) hscale
  by_cases ha : 0 < a.value
  · have hsize0 := mul_pos ha hscale0
    have hceil : 0 < ⌈requiredBase / (a.value * scale)⌉ := Int.ceil_pos.mpr (div_pos hpos hsize0)
    have hneeded : ¬max (py.sub (roundContext (requiredBase / scale)) 0) 0 ≤ 0 := by
      rw [Runtime.sub, hround, sub_zero, roundContext_roundContext]
      exact not_le.mpr (lt_max_of_lt_left (roundContext_pos (div_pos hpos hscale0)))
    rw [if_pos hsize0]
    unfold computePackages decimalCeilDiv
    dsimp only
    rw [if_neg (not_le.mpr ha), if_neg hneeded, plannedPackages_eq hround hrequired hpos ha hscale hsize]
    have hcast : ((⌈requiredBase / (a.value * scale)⌉.toNat : ℕ) : ℤ) = ⌈requiredBase / (a.value * scale)⌉ := Int.toNat_of_nonneg hceil.le
    have hcast' : ((⌈requiredBase / (a.value * scale)⌉.toNat : ℕ) : ℚ) = ⌈requiredBase / (a.value * scale)⌉ := by
      rw [← Int.cast_natCast, hcast]
    show some (((⌈requiredBase / (a.value * scale)⌉.toNat : ℕ) : ℤ), py.mul ((⌈requiredBase / (a.value * scale)⌉.toNat : ℕ) : ℚ) price) = _
    rw [hcast, hcast', Format.buy]
  · have hsize0 : ¬0 < a.value * scale := fun h => ha (pos_of_mul_pos_left h hscale0.le)
    rw [if_neg hsize0]
    unfold computePackages decimalCeilDiv
    dsimp only
    rw [if_pos (not_lt.mp ha)]
    rfl

theorem planningLane_eq (hround : py.round = roundContext) (hquantity : 0 < quantity.value)
    (hunit : toBase py quantity.value unit = some (requiredBase, dim)) :
    planningLane py u v price quantity.value unit = (plannedFormat py u v price dim).map (Format.buy py requiredBase) := by
  have hdigits := toBase_digits hround hunit
  have hpos : 0 < requiredBase := by
    rw [((toBase_amount_eq_some_iff hround).mp hunit).2]
    exact mul_pos hquantity (unitScale_pos _)
  obtain ⟨a, ha⟩ := @packageDims_amount py u v
  unfold planningLane plannedFormat formatOf
  rw [ha, toBase_amount hround]
  show ((convert py Dict.empty quantity.value unit (packageDims py u v).2 none).toOption.bind fun needed =>
    (computePackages py needed 0 (packageDims py u v).1 price).bind fun result => some ((result.packages : ℤ), result.totalCost)) = _
  rw [ha, convert_known hround hunit]
  cases hkind : unitKind (normUnit py (packageDims py u v).2) with
  | inr _ => rfl
  | inl dim' =>
    by_cases hdim : dim' = dim
    · subst hdim
      have hsize : BaseDigits (a.value * unitScale (normUnit py (packageDims py u v).2)) :=
        toBase_digits hround ((toBase_amount_eq_some_iff hround).mpr ⟨hkind, rfl⟩)
      rw [if_pos rfl, Option.bind_some, Sum.elim_inl]
      refine (Option.map_eq_bind.symm.trans (computePackages_planned hround hdigits hpos (unitScale_ge _) hsize)).trans ?_
      by_cases hsize0 : 0 < a.value * unitScale (normUnit py (packageDims py u v).2)
      · rw [if_pos hsize0]
        simp [hsize0]
      · rw [if_neg hsize0]
        simp [hsize0]
    · rw [if_neg fun h => hdim (Sum.inl.inj h), Option.bind_none, Sum.elim_inl]
      dsimp only
      rw [if_neg (by simp [hdim])]
      rfl

/-- For every positive quantity of a unit that is known and every positive price, the lanes agree exactly if they take the same formats,
    or formats that cover the quantity in the same number and at the same cost. -/
theorem lanes_agree_iff (hround : py.round = roundContext) (u : Alphabet) (v : ProductVariant) (providerCode : String)
    (hprice : 0 < price) (hquantity : 0 < quantity.value) (hunit : toBase py quantity.value unit = some (requiredBase, dim)) :
    stagingLane py u v providerCode price quantity.value unit = planningLane py u v price quantity.value unit ↔
      SameFormats py u v providerCode price requiredBase dim := by
  rw [stagingLane_eq hround hquantity hprice hunit, planningLane_eq hround hquantity hunit]
  unfold SameFormats
  cases stagedFormat py u v providerCode price dim with
  | none => cases plannedFormat py u v price dim <;> simp
  | some staged => cases plannedFormat py u v price dim <;> simp

end Buying

/-- A litre of milk is the same format in both lanes. -/
theorem lanes_agree_milk : SameFormats Runtime.decimals .ascii milkVariant "demo" 2 250 .volume :=
  (@lanes_agree_iff Runtime.decimals 2 250 .volume "ml" quarterLitre rfl .ascii milkVariant "demo" (by decide) (by decide +kernel)
    (by decide +kernel)).mp (by decide +kernel)

/-- Ten rolls in a bag, whose size is given without a unit. -/
def rolls : ProductVariant where
  id := 8
  productId := some 10
  retailerId := 1
  externalProductId := 5
  displayName := "Panecillos"
  packageQuantity := some ⟨100000, by decide⟩
  sellUnit := some "unit"

def tenUnits : Amount := ⟨100000, by decide⟩

/-- The staging lane buys one bag for ten rolls, and the planning lane ten bags. -/
theorem not_lanes_agree_rolls : ¬∀ (u : Alphabet) (v : ProductVariant) (providerCode : String) (price : ℚ) (quantity : Amount) (unit : String),
    0 < price → 0 < quantity.value → (toBase Runtime.decimals quantity.value unit).isSome = true →
      stagingLane Runtime.decimals u v providerCode price quantity.value unit = planningLane Runtime.decimals u v price quantity.value unit := by
  intro h
  have heq := h .ascii rolls "demo" 2 tenUnits "unidad" (by decide) (by decide +kernel) (by decide +kernel)
  exact absurd heq (by decide +kernel)

end CestaPlan.Costing
