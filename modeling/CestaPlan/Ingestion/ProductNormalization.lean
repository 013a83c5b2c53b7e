import CestaPlan.Ingestion.DecimalSignals
import CestaPlan.Ingestion.PromotionLabels
import CestaPlan.Library.Accents
import CestaPlan.Library.Runs

/-! The normalization of products and of the prices of their packages (`ingestion/normalization.py`). -/

namespace CestaPlan.Ingestion
open Numeric Regex Regex.Pattern Regex.Alphabet

/-- `_CANONICAL_PACKAGE_UNIT`: mg and cl fold into g and ml. -/
def canonicalPackageUnit : List (String × String) :=
  [("mg", "g"), ("g", "g"), ("kg", "kg"), ("cl", "ml"), ("ml", "ml"), ("l", "l"), ("unit", "unit")]

/-- `_MULTIPACK_RE` -/
def multipackPattern (u : Alphabet) : Pattern :=
  .sequence [.group 1 u.digits, spaces, u.oneOf "x×", spaces, .group 2 u.decimalDigits, spaces,
    .group 3 (.choice (u.literal "kg") [u.literal "g", u.literal "gr", u.literal "ml", u.literal "cl", u.literal "l", u.literal "lt",
      .seq (u.literal "unidade") (.optional (u.literal "s")), .seq (u.literal "ud") (.optional (u.literal "s")), u.literal "u"]),
    .boundary u.word]

/-- A quantity or an amount as it arrives: a decimal, or what `str` makes of anything else. -/
inductive Value where
  | decimal (value : Decimal)
  | text (value : String)
deriving DecidableEq

/-- What a package tells about its content. -/
structure Package where
  quantity : Option Value := none
  unit : Option String := none
  count : Option ℤ := none

structure ParsedProduct where
  name : String
  brand : Option String := none
  package : Package := {}

structure NormalizedProduct where
  name : String
  brand : Option String
  packageQuantity : Option Decimal
  packageUnit : Option String
  packageCount : ℤ
  baseQuantity : Option Decimal
  baseUnit : Option String
deriving DecidableEq

/-- The fields of the package, as the product reports them. -/
def NormalizedProduct.package (n : NormalizedProduct) : Package where
  quantity := n.packageQuantity.map .decimal
  unit := n.packageUnit
  count := some n.packageCount

/-- What a normalizer raises: its own error, a signal of the decimal context, or an integer with too many digits. -/
inductive Failure where
  | raised (error : Raised)
  | signal (signal : Signal)
  | valueError
deriving DecidableEq

/-- `count if count and count > 0 else 1` -/
def countOf (count : Option ℤ) : ℤ := (count.filter (0 < ·)).getD 1

/-- `quantity * factor * Decimal(count)` -/
def totalOf (quantity : Decimal) (factor : ℚ) (count : ℤ) : Except Signal Decimal := do
  (← quantity.mul (.finite factor)).mul (.finite count)

section Normalizers
variable (py : Runtime)

/-- `to_decimal` -/
def decimalOf : Option Value → Except Failure (Option Decimal)
  | none => .ok none
  | some (.decimal d) => .ok (some d)
  | some (.text value) => (toDecimal py (some value)).mapError .raised

/-- The canonical unit, where there is a unit; one that is not recognised is refused. -/
def canonicalOf : Option String → Except Failure (Option String)
  | none => .ok none
  | some unit => match canonicalUnit py unit with
    | some canon => .ok (some canon)
    | none => .error (.raised (.normalization (.unrecognisedPackageUnit unit)))

/-- The package, with what it does not tell recovered from the multipack shape of the name. -/
def recovered (u : Alphabet) (parsed : ParsedProduct) : Except Failure (Option Decimal × Option String × Option ℤ) := do
  let quantity ← decimalOf py parsed.package.quantity
  let rawUnit := parsed.package.unit
  let count := parsed.package.count
  if quantity.isSome && rawUnit.isSome && count.isSome then return (quantity, rawUnit, count)
  match search (multipackPattern u) parsed.name.toList with
  | none => return (quantity, rawUnit, count)
  | some m =>
    let count ← match count with
      | some count => pure (some count)
      | none => match groupInt u m 1 with
        | some count => pure (some (count : ℤ))
        | none => throw .valueError
    let quantity ← match quantity with
      | some quantity => pure (some quantity)
      | none => decimalOf py ((m.group? 2).map fun text => .text (String.ofList text))
    return (quantity, rawUnit.or ((m.group? 3).map String.ofList), count)

/-- `ProductNormalizer.normalize` -/
def ProductNormalizer.normalize (u : Alphabet) (parsed : ParsedProduct) : Except Failure NormalizedProduct := do
  let name := String.ofList (Text.trim (Text.collapse parsed.name.toList))
  let brand := (parsed.brand.map Text.strip).filter (· ≠ "")
  let (quantity, rawUnit, count) ← recovered py u parsed
  let packageCount := countOf count
  let canon ← canonicalOf py rawUnit
  let packageUnit := canon.bind (canonicalPackageUnit.lookup ·)
  match canon.bind (toBase.lookup ·), quantity with
  | some (baseUnit, factor), some packageQuantity =>
    let baseQuantity ← (totalOf packageQuantity factor packageCount).mapError .signal
    return { name, brand, packageQuantity := quantity, packageUnit, packageCount, baseQuantity := some baseQuantity, baseUnit := some baseUnit }
  | _, _ => return { name, brand, packageQuantity := quantity, packageUnit, packageCount, baseQuantity := none, baseUnit := none }

/-- `PriceNormalizer._unit_price` -/
def PriceNormalizer.unitPrice (money : Option Decimal) (package : Package) : Except Failure (Option Decimal × Option String) := do
  let canon ← canonicalOf py package.unit
  let quantity ← decimalOf py package.quantity
  match canon.bind (toBase.lookup ·), quantity with
  | none, _ => return (none, none)
  | some (baseUnit, _), none => return (none, some baseUnit)
  | some (baseUnit, factor), some quantity =>
    if ← (quantity.le (.finite 0)).mapError .signal then return (none, some baseUnit)
    let totalBase ← (totalOf quantity factor (countOf package.count)).mapError .signal
    match money with
    | none => return (none, some baseUnit)
    | some money =>
      if ← (totalBase.le (.finite 0)).mapError .signal then return (none, some baseUnit)
      let unitAmount ← (money.div totalBase).mapError .signal
      return (some (← (unitAmount.quantize 4).mapError .raised), some baseUnit)

/-- `PriceNormalizer(allowed).normalize`, for any package; `normalizePrice` is it with the defaults that the feed leaves. -/
def PriceNormalizer.normalize (allowed : List String) (amount : Option Value) (currency : Option String) (package : Package) :
    Except Failure NormalizedPrice := do
  let code := py.upper (Text.strip ((currency.filter (· ≠ "")).getD "EUR"))
  if code ∉ allowed.map py.upper then throw (.raised (.normalization (.unknownCurrency (currency.getD ""))))
  let money ← match ← decimalOf py amount with
    | none => pure none
    | some money => (some <$> money.quantize 2).mapError .raised
  let (unitAmount, unitCode) ← PriceNormalizer.unitPrice py money package
  return { amount := money, currency := code, unitAmount, unitCode }

/-- The unit amount, times the base quantity, is the amount, up to half a unit of its last decimal and the digits of the context; an amount
    that is no number has a unit amount that is none. -/
def Prices (base : ℚ) : Decimal → Decimal → Prop
  | .finite unitAmount, .finite amount => |unitAmount * base - amount| ≤ base / 20000 + |amount| / 10 ^ 27
  | .nan _, .nan _ => True
  | _, _ => False

/-- The package as it was given or recovered. -/
def givenPackage (quantity : Decimal) (rawUnit : String) (count : Option ℤ) : Package where
  quantity := some (.decimal quantity)
  unit := some rawUnit
  count

/-- What the product reports of its package is as much as its base quantity, which is what its prices are by, whether they are taken over
    the package as it was given or over the one that is reported. -/
def Coherent (given : Package) (n : NormalizedProduct) : Prop :=
  ∃ quantity unit factor base, n.packageQuantity = some (.finite quantity) ∧ n.packageUnit.bind (toBase.lookup ·) = some (unit, factor) ∧
    n.baseUnit = some unit ∧ n.baseQuantity = some (.finite base) ∧ quantity * factor * n.packageCount = base ∧
    ∀ package ∈ [given, n.package], ∀ allowed amount currency price,
      PriceNormalizer.normalize py allowed amount currency package = .ok price → ∀ unitAmount ∈ price.unitAmount,
        price.unitCode = some unit ∧ ∃ money ∈ price.amount, Prices base unitAmount money

/-- The context keeps all digits of the quantity in the base unit, and of the total. -/
def KeepsDigits (quantity factor : ℚ) (count : ℤ) : Prop :=
  rounded (rounded (quantity * factor) * count) = quantity * factor * count

/-- The quantity is a number, and unless it is zero its unit is not folded into another and no digit is lost. -/
def Unfolded (quantity : Decimal) (rawUnit : String) (count : Option ℤ) : Prop :=
  ∃ x, quantity = .finite x ∧ (x = 0 ∨ ∃ canon unit factor, canonicalUnit py rawUnit = some canon ∧
    toBase.lookup canon = some (unit, factor) ∧ canon ≠ "mg" ∧ canon ≠ "cl" ∧ KeepsDigits x factor (countOf count))

end Normalizers

/-! ### Units -/

section Units
variable {py : Runtime} {canon rawUnit : String}

theorem canonicalUnit_spec (h : canonicalUnit py rawUnit = some canon) :
    ∃ reported unit factor factor', canonicalPackageUnit.lookup canon = some reported ∧ toBase.lookup canon = some (unit, factor) ∧
      toBase.lookup reported = some (unit, factor') ∧ 0 < factor ∧
      (canon = "mg" ∧ factor' = 1000 * factor ∨ canon = "cl" ∧ factor' = factor / 10 ∨
        canon ≠ "mg" ∧ canon ≠ "cl" ∧ factor' = factor) ∧
      reported ∈ ["g", "kg", "ml", "l", "unit"] := by
  have hmem : canon ∈ ["g", "kg", "mg", "ml", "cl", "l", "unit"] := by
    have hall : ∀ e ∈ unitSynonyms, e.2 ∈ ["g", "kg", "mg", "ml", "cl", "l", "unit"] := by decide +kernel
    obtain ⟨before, after, heq, -⟩ := List.lookup_eq_some_iff.mp h
    exact hall _ (heq ▸ List.mem_append_right before List.mem_cons_self)
  simp only [List.mem_cons, List.not_mem_nil, or_false] at hmem
  rcases hmem with rfl | rfl | rfl | rfl | rfl | rfl | rfl
  · exact ⟨_, _, _, _, rfl, rfl, rfl, by norm_num, .inr (.inr ⟨by decide, by decide, rfl⟩), by decide⟩
  · exact ⟨_, _, _, _, rfl, rfl, rfl, by norm_num, .inr (.inr ⟨by decide, by decide, rfl⟩), by decide⟩
  · exact ⟨_, _, _, _, rfl, rfl, rfl, by norm_num, .inl ⟨rfl, by norm_num⟩, by decide⟩
  · exact ⟨_, _, _, _, rfl, rfl, rfl, by norm_num, .inr (.inr ⟨by decide, by decide, rfl⟩), by decide⟩
  · exact ⟨_, _, _, _, rfl, rfl, rfl, by norm_num, .inr (.inl ⟨rfl, by norm_num⟩), by decide⟩
  · exact ⟨_, _, _, _, rfl, rfl, rfl, by norm_num, .inr (.inr ⟨by decide, by decide, rfl⟩), by decide⟩
  · exact ⟨_, _, _, _, rfl, rfl, rfl, by norm_num, .inr (.inr ⟨by decide, by decide, rfl⟩), by decide⟩

theorem canonicalUnit_self (hlower : ∀ s : String, s.toList.all Char.isLower = true → py.lower s = s)
    (h : canon ∈ ["g", "kg", "ml", "l", "unit"]) : canonicalUnit py canon = some canon := by
  have htext : Text.strip canon = canon ∧ canon.toList.all Char.isLower = true ∧ canon.toList.filter (!Text.isSpace ·) = canon.toList ∧
      unitSynonyms.lookup canon = some canon := by
    have hall : ∀ unit ∈ ["g", "kg", "ml", "l", "unit"], Text.strip unit = unit ∧ unit.toList.all Char.isLower = true ∧
        unit.toList.filter (!Text.isSpace ·) = unit.toList ∧ unitSynonyms.lookup unit = some unit := by decide +kernel
    exact hall canon h
  obtain ⟨hstrip, hlow, hspaces, hlookup⟩ := htext
  rw [canonicalUnit, hstrip, hlower canon hlow, hspaces, String.ofList_toList, hlookup]

end Units

/-! ### Totals -/

section Totals
variable {x factor : ℚ} {count : ℤ} {total : Decimal}

theorem countOf_pos (count : Option ℤ) : 0 < countOf count := by
  unfold countOf
  cases h : count.filter (0 < ·) with
  | none => exact Int.one_pos
  | some n => exact of_decide_eq_true (Option.filter_eq_some_iff.mp h).2

theorem countOf_self (h : 0 < count) : countOf (some count) = count := by
  rw [countOf, Option.filter_some, if_pos (decide_eq_true h)]
  rfl

theorem inContext_ok (h : inContext x = .ok total) : total = .finite (rounded x) := by
  unfold inContext at h
  split at h
  · exact (Except.ok.inj h).symm
  · cases h

theorem totalOf_finite (h : totalOf (.finite x) factor count = .ok total) : total = .finite (rounded (rounded (x * factor) * count)) := by
  obtain ⟨first, hfirst, h⟩ := Runs.bind_eq_ok.mp h
  obtain rfl := inContext_ok hfirst
  exact inContext_ok h

theorem total_bounds (h : rounded (rounded (x * factor) * count) ≠ 0) :
    |x * factor * count| ≤ 9 / 4 * |rounded (rounded (x * factor) * count)| ∧
      |rounded (rounded (x * factor) * count)| ≤ 4 * |x * factor * count| := by
  obtain ⟨hlow, hhigh⟩ := rounded_bounds h
  have hfirst : rounded (x * factor) ≠ 0 := fun hzero => h (by rw [hzero, zero_mul, rounded_zero])
  obtain ⟨hlow', hhigh'⟩ := rounded_bounds hfirst
  rw [abs_mul] at hlow hhigh
  rw [abs_mul (x * factor)]
  have hcount := abs_nonneg (count : ℚ)
  have hlow'' := mul_le_mul_of_nonneg_right hlow' hcount
  have hhigh'' := mul_le_mul_of_nonneg_right hhigh' hcount
  constructor <;> linarith

end Totals

/-! ### Prices -/

section Prices
variable {py : Runtime} {x factor base : ℚ} {package : Package} {money unitAmount quotient : Decimal} {rawUnit canon unit : String}

theorem mapError_eq_ok {ε ε' α : Type} {f : ε → ε'} {r : Except ε α} {a : α} (h : r.mapError f = .ok a) : r = .ok a := by
  cases r with
  | error e => cases h
  | ok b => exact congrArg _ (Except.ok.inj h)

theorem prices_of_quantize (hbase : 0 < base) (hdiv : money.div (.finite base) = .ok quotient)
    (hquantize : quotient.quantize 4 = .ok unitAmount) : Prices base unitAmount money := by
  cases money with
  | finite amount =>
    replace hdiv : inContext (amount / base) = .ok quotient := by rwa [Decimal.div, if_neg hbase.ne'] at hdiv
    obtain rfl := inContext_ok hdiv
    unfold Decimal.quantize at hquantize
    dsimp only at hquantize
    split at hquantize
    · obtain rfl := Except.ok.inj hquantize
      have hmoved := mul_le_mul_of_nonneg_right (abs_roundScale_rounded_sub_le (amount / base)) hbase.le
      have hleft : |roundScale 4 (rounded (amount / base)) - amount / base| * base =
          |roundScale 4 (rounded (amount / base)) * base - amount| := by
        have habs := abs_mul (roundScale 4 (rounded (amount / base)) - amount / base) base
        rw [sub_mul, div_mul_cancel₀ _ hbase.ne', abs_of_pos hbase] at habs
        exact habs.symm
      have hright : (1 / 20000 + |amount / base| / 10 ^ 27) * base = base / 20000 + |amount| / 10 ^ 27 := by
        rw [abs_div, abs_of_pos hbase]
        field_simp
      rw [hleft, hright] at hmoved
      exact hmoved
    · cases hquantize
  | infinity negative =>
    obtain rfl := Except.ok.inj hdiv
    cases hquantize
  | nan signaling =>
    replace hdiv : Decimal.nanOf (.nan signaling) (.finite base) = .ok quotient := hdiv
    unfold Decimal.nanOf at hdiv
    split at hdiv
    · cases hdiv
    · obtain rfl := Except.ok.inj hdiv
      obtain rfl := Except.ok.inj hquantize
      trivial

theorem unitPrice_spec (hquantity : package.quantity = some (.decimal (.finite x))) (hunit : package.unit = some rawUnit)
    (hcanon : canonicalUnit py rawUnit = some canon) (hbase : toBase.lookup canon = some (unit, factor)) {money : Option Decimal}
    {code : Option String} (h : PriceNormalizer.unitPrice py money package = .ok (some unitAmount, code)) :
    code = some unit ∧ ∃ amount, money = some amount ∧
      Prices (rounded (rounded (x * factor) * countOf package.count)) unitAmount amount := by
  unfold PriceNormalizer.unitPrice at h
  have hcanonical : canonicalOf py package.unit = .ok (some canon) := by
    rw [hunit]
    unfold canonicalOf
    simp only [hcanon]
  have hdecimal : decimalOf py package.quantity = .ok (some (.finite x)) := by rw [hquantity]; rfl
  rw [hcanonical, hdecimal] at h
  change (match (toBase.lookup canon : Option (String × ℚ)), some (Decimal.finite x) with
    | none, _ => _ | some (_, _), none => _ | some (_, _), some _ => _) = _ at h
  rw [hbase] at h
  obtain ⟨nonpositive, -, h⟩ := Runs.bind_eq_ok.mp h
  cases nonpositive with
  | true => cases h
  | false =>
    obtain ⟨total, htotal, h⟩ := Runs.bind_eq_ok.mp h
    obtain rfl := totalOf_finite (mapError_eq_ok htotal)
    cases money with
    | none => cases h
    | some amount =>
      obtain ⟨nothing, hnothing, h⟩ := Runs.bind_eq_ok.mp h
      cases nothing with
      | true => cases h
      | false =>
        obtain ⟨quotient, hdiv, h⟩ := Runs.bind_eq_ok.mp h
        obtain ⟨result, hquantize, h⟩ := Runs.bind_eq_ok.mp h
        have hpositive : 0 < rounded (rounded (x * factor) * countOf package.count) :=
          not_le.mp (of_decide_eq_false (Except.ok.inj (mapError_eq_ok hnothing)))
        cases h
        exact ⟨rfl, amount, rfl, prices_of_quantize hpositive (mapError_eq_ok hdiv) (mapError_eq_ok hquantize)⟩

theorem normalize_unitPrice {allowed : List String} {amount : Option Value} {currency : Option String} {price : NormalizedPrice}
    (h : PriceNormalizer.normalize py allowed amount currency package = .ok price) :
    PriceNormalizer.unitPrice py price.amount package = .ok (price.unitAmount, price.unitCode) := by
  unfold PriceNormalizer.normalize at h
  dsimp only at h
  split at h
  · cases h
  · obtain ⟨given, -, h⟩ := Runs.bind_eq_ok.mp h
    split at h
    all_goals
      obtain ⟨money, -, h⟩ := Runs.bind_eq_ok.mp h
      obtain ⟨⟨unitAmount, unitCode⟩, hunit, h⟩ := Runs.bind_eq_ok.mp h
      obtain rfl := Except.ok.inj h
      exact hunit

end Prices

/-! ### Products -/

section Products
variable {py : Runtime} {u : Alphabet} {parsed : ParsedProduct} {n : NormalizedProduct} {quantity : Decimal} {rawUnit : String} {count : Option ℤ}

theorem canonicalOf_some {canon : String} (h : canonicalUnit py rawUnit = some canon) : canonicalOf py (some rawUnit) = .ok (some canon) := by
  unfold canonicalOf
  simp only [h]

theorem normalize_eq {canon unit : String} {factor : ℚ} (hgiven : recovered py u parsed = .ok (some quantity, some rawUnit, count))
    (hcanon : canonicalUnit py rawUnit = some canon) (hbase : toBase.lookup canon = some (unit, factor)) :
    ProductNormalizer.normalize py u parsed = (totalOf quantity factor (countOf count)).mapError .signal >>= fun base => .ok {
      name := String.ofList (Text.trim (Text.collapse parsed.name.toList))
      brand := (parsed.brand.map Text.strip).filter (· ≠ "")
      packageQuantity := some quantity, packageUnit := canonicalPackageUnit.lookup canon, packageCount := countOf count
      baseQuantity := some base, baseUnit := some unit } := by
  unfold ProductNormalizer.normalize
  rw [hgiven]
  change (canonicalOf py (some rawUnit) >>= _) = _
  rw [canonicalOf_some hcanon]
  change (match (toBase.lookup canon : Option (String × ℚ)), some quantity with
    | some (_, _), some _ => _ | _, _ => _) = _
  rw [hbase]
  rfl

theorem normalize_spec (haccepted : ProductNormalizer.normalize py u parsed = .ok n)
    (hgiven : recovered py u parsed = .ok (some quantity, some rawUnit, count)) :
    ∃ canon unit factor base, canonicalUnit py rawUnit = some canon ∧ toBase.lookup canon = some (unit, factor) ∧
      totalOf quantity factor (countOf count) = .ok base ∧ n.packageQuantity = some quantity ∧
      n.packageUnit = canonicalPackageUnit.lookup canon ∧ n.packageCount = countOf count ∧
      n.baseQuantity = some base ∧ n.baseUnit = some unit := by
  cases hcanon : canonicalUnit py rawUnit with
  | none =>
    unfold ProductNormalizer.normalize at haccepted
    rw [hgiven] at haccepted
    have hrefused : ∀ r, canonicalOf py (some rawUnit) ≠ .ok r := fun r hr => by
      unfold canonicalOf at hr
      simp only [hcanon] at hr
      cases hr
    obtain ⟨canonical, hcanonical, -⟩ := Runs.bind_eq_ok.mp (show (canonicalOf py (some rawUnit) >>= _) = _ from haccepted)
    exact absurd hcanonical (hrefused canonical)
  | some canon =>
    obtain ⟨-, unit, factor, -, -, hbase, -⟩ := canonicalUnit_spec hcanon
    rw [normalize_eq hgiven hcanon hbase] at haccepted
    obtain ⟨base, htotal, h⟩ := Runs.bind_eq_ok.mp haccepted
    obtain rfl := Except.ok.inj h
    exact ⟨canon, unit, factor, base, rfl, hbase, mapError_eq_ok htotal, rfl, rfl, rfl, rfl, rfl⟩

/-- A quantity that is not zero is not the same in a unit whose factor is a thousand times as large, or a tenth. -/
theorem folded_ne {x factor factor' : ℚ} {count : ℤ} (hx : x ≠ 0) (hpos : 0 < factor) (hcount : 0 < count)
    (hfactor : factor' = 1000 * factor ∨ factor' = factor / 10) : x * factor' * count ≠ rounded (rounded (x * factor) * count) := by
  intro heq
  have hcount' : (count : ℚ) ≠ 0 := by exact_mod_cast hcount.ne'
  have hexact : 0 < |x * factor * count| := abs_pos.mpr (mul_ne_zero (mul_ne_zero hx hpos.ne') hcount')
  have hkept : rounded (rounded (x * factor) * count) ≠ 0 := by
    rw [← heq]
    have hfactor' : factor' ≠ 0 := by
      rcases hfactor with rfl | rfl
      · positivity
      · positivity
    exact mul_ne_zero (mul_ne_zero hx hfactor') hcount'
  obtain ⟨hlow, hhigh⟩ := total_bounds hkept
  rw [← heq] at hlow hhigh
  rcases hfactor with rfl | rfl
  · have hscaled : |x * (1000 * factor) * count| = 1000 * |x * factor * count| := by
      rw [← abs_of_pos (show (0 : ℚ) < 1000 by norm_num), ← abs_mul, abs_of_pos (show (0 : ℚ) < 1000 by norm_num)]
      ring_nf
    linarith
  · have hscaled : |x * (factor / 10) * count| = |x * factor * count| / 10 := by
      rw [← abs_of_pos (show (0 : ℚ) < 10 by norm_num), ← abs_div, abs_of_pos (show (0 : ℚ) < 10 by norm_num)]
      ring_nf
    linarith

theorem prices_spec {canon unit : String} {x factor : ℚ} {total : ℤ} {price : NormalizedPrice} {unitAmount : Decimal} {package : Package}
    {allowed : List String} {amount : Option Value} {currency : Option String}
    (hquantity : package.quantity = some (.decimal (.finite x))) (hunit : package.unit = some rawUnit) (htotal : countOf package.count = total)
    (hcanon : canonicalUnit py rawUnit = some canon) (hbase : toBase.lookup canon = some (unit, factor))
    (h : PriceNormalizer.normalize py allowed amount currency package = .ok price) (hsome : unitAmount ∈ price.unitAmount) :
    price.unitCode = some unit ∧ ∃ money ∈ price.amount, Prices (rounded (rounded (x * factor) * total)) unitAmount money := by
  have hpriced := normalize_unitPrice h
  rw [Option.mem_def.mp hsome] at hpriced
  rw [← htotal]
  exact unitPrice_spec hquantity hunit hcanon hbase hpriced

/-- A product reports as much of its package as its base quantity just where the quantity is a number whose unit is not folded into another
    and of which no digit is lost; nothing is lost of zero. -/
theorem coherent_iff_unfolded (hlower : ∀ s : String, s.toList.all Char.isLower = true → py.lower s = s)
    (haccepted : ProductNormalizer.normalize py u parsed = .ok n)
    (hgiven : recovered py u parsed = .ok (some quantity, some rawUnit, count)) :
    Coherent py (givenPackage quantity rawUnit count) n ↔ Unfolded py quantity rawUnit count := by
  obtain ⟨canon, unit, factor, base, hcanon, hbase, htotal, hquantity, hunit, hcount, hbaseQuantity, hbaseUnit⟩ :=
    normalize_spec haccepted hgiven
  obtain ⟨reported, unit', factor₁, factor', hreported, hbase', hfactor', hpos, hfold, hself⟩ := canonicalUnit_spec hcanon
  obtain ⟨rfl, rfl⟩ : unit' = unit ∧ factor₁ = factor := by
    have heq := Option.some.inj (hbase'.symm.trans hbase)
    exact ⟨congrArg Prod.fst heq, congrArg Prod.snd heq⟩
  rw [hreported] at hunit
  constructor
  · rintro ⟨x, unit₂, factor₂, b, hx, hpackage, -, hb, hsame, -⟩
    obtain rfl := Option.some.inj (hquantity.symm.trans hx)
    obtain rfl := totalOf_finite htotal
    refine ⟨x, rfl, ?_⟩
    rw [hunit, Option.bind_some, hfactor'] at hpackage
    obtain rfl : factor' = factor₂ := congrArg Prod.snd (Option.some.inj hpackage)
    obtain rfl : rounded (rounded (x * factor₁) * countOf count) = b := Decimal.finite.inj (Option.some.inj (hbaseQuantity.symm.trans hb))
    rw [hcount] at hsame
    by_cases hzero : x = 0
    · exact .inl hzero
    refine .inr ⟨canon, _, _, hcanon, hbase, ?_⟩
    rcases hfold with ⟨-, hthousand⟩ | ⟨-, htenth⟩ | ⟨hmg, hcl, heq⟩
    · exact absurd hsame (folded_ne hzero hpos (countOf_pos count) (.inl hthousand))
    · exact absurd hsame (folded_ne hzero hpos (countOf_pos count) (.inr htenth))
    · exact ⟨hmg, hcl, by rw [KeepsDigits, ← hsame, heq]⟩
  · rintro ⟨x, rfl, hx⟩
    obtain rfl := totalOf_finite htotal
    have hsame : x * factor' * n.packageCount = rounded (rounded (x * factor₁) * countOf count) := by
      rw [hcount]
      rcases hx with rfl | ⟨canon', _, factor₂, hcanon', hbase₂, hmg, hcl, hkept⟩
      · rw [zero_mul, zero_mul, zero_mul, rounded_zero, zero_mul, rounded_zero]
      · obtain rfl := Option.some.inj (hcanon.symm.trans hcanon')
        obtain rfl : factor₁ = factor₂ := congrArg Prod.snd (Option.some.inj (hbase.symm.trans hbase₂))
        rcases hfold with ⟨rfl, -⟩ | ⟨rfl, -⟩ | ⟨-, -, heq⟩
        · exact absurd rfl hmg
        · exact absurd rfl hcl
        · rw [heq, hkept]
    have htotals : rounded (rounded (x * factor') * countOf count) = rounded (rounded (x * factor₁) * countOf count) := by
      rcases eq_or_ne x 0 with rfl | hzero
      · rw [zero_mul, zero_mul]
      · rw [hcount] at hsame
        rcases hfold with ⟨-, hthousand⟩ | ⟨-, htenth⟩ | ⟨-, -, heq⟩
        · exact absurd hsame (folded_ne hzero hpos (countOf_pos count) (.inl hthousand))
        · exact absurd hsame (folded_ne hzero hpos (countOf_pos count) (.inr htenth))
        · rw [heq]
    refine ⟨x, _, factor', _, hquantity, by rw [hunit]; exact hfactor', hbaseUnit, hbaseQuantity, hsame, ?_⟩
    intro package hpackage allowed amount currency price hprice unitAmount hsome
    rcases List.mem_pair.mp hpackage with rfl | rfl
    · exact prices_spec rfl rfl rfl hcanon hbase hprice hsome
    · have hreportedQuantity : n.package.quantity = some (.decimal (.finite x)) := by rw [NormalizedProduct.package, hquantity]; rfl
      have hreportedCount : countOf n.package.count = countOf count := by
        rw [NormalizedProduct.package, hcount, countOf_self (countOf_pos count)]
      rw [← htotals]
      exact prices_spec hreportedQuantity hunit hreportedCount (canonicalUnit_self hlower hself) hfactor' hprice hsome

end Products

/-! ### Sugar and saffron -/

/-- Six boxes of half a kilogram. -/
def sugar : ParsedProduct where
  name := "Azúcar"
  package := { quantity := some (.decimal (.finite 500)), unit := some "g", count := some 6 }

def sugarReport : NormalizedProduct where
  name := "Azúcar"
  brand := none
  packageQuantity := some (.finite 500)
  packageUnit := some "g"
  packageCount := 6
  baseQuantity := some (.finite 3)
  baseUnit := some "kg"

/-- ASCII text, with no numbers in it. -/
def plainText : Runtime where
  toRuntime := Engine.Runtime.replay []
  upper text := text.map Char.toUpper
  decimal _ := none
  fromisoformat _ := none

theorem normalize_sugar : ProductNormalizer.normalize plainText Alphabet.ascii sugar = .ok sugarReport := by
  have htotal : totalOf (.finite 500) (1 / 1000) 6 = .ok (.finite 3) := by
    have hfirst := @mul_zpow 500 (1 / 1000) 5 (by norm_num [contextPrec]) (-1) (by norm_num) (by norm_num) (by norm_num)
    have hsecond := @mul_zpow (500 * (1 / 1000)) 6 3 (by norm_num [contextPrec]) 0 (by norm_num) (by norm_num) (by norm_num)
    have hthree : (500 : ℚ) * (1 / 1000) * 6 = 3 := by norm_num
    rw [hthree] at hsecond
    rw [totalOf, hfirst]
    exact hsecond
  have hcanon : canonicalUnit plainText "g" = some "g" := canonicalUnit_self (fun _ => Text.lowerAscii_eq_self) (by decide)
  rw [@normalize_eq plainText Alphabet.ascii sugar (.finite 500) "g" (some 6) "g" "kg" (1 / 1000) rfl hcanon rfl]
  rw [show countOf (some 6) = 6 from rfl, htotal]
  exact congrArg Except.ok (by decide +kernel)

theorem coherent_sugar : Coherent plainText (givenPackage (.finite 500) "g" (some 6)) sugarReport := by
  have hkept : KeepsDigits 500 (1 / 1000) (countOf (some 6)) := by
    have hfirst := @rounded_zpow 5 (by norm_num [contextPrec]) (-1) (by norm_num)
    have hsecond := @rounded_zpow 3 (by norm_num [contextPrec]) 0 (by norm_num)
    have hhalf : (500 : ℚ) * (1 / 1000) = (5 : ℤ) * 10 ^ (-1 : ℤ) := by norm_num
    have hthree : (5 : ℤ) * 10 ^ (-1 : ℤ) * ((6 : ℤ) : ℚ) = (3 : ℤ) * 10 ^ (0 : ℤ) := by norm_num
    rw [KeepsDigits, show countOf (some 6) = 6 from rfl, hhalf, hfirst, hthree, hsecond]
  exact (coherent_iff_unfolded (fun _ => Text.lowerAscii_eq_self) normalize_sugar rfl).mpr
    ⟨500, rfl, .inr ⟨"g", "kg", 1 / 1000, canonicalUnit_self (fun _ => Text.lowerAscii_eq_self) (by decide), rfl, by decide, by decide, hkept⟩⟩

/-- Half a gram. -/
def saffron : ParsedProduct where
  name := "Azafrán"
  package := { quantity := some (.decimal (.finite 500)), unit := some "mg", count := some 1 }

def saffronReport : NormalizedProduct where
  name := "Azafrán"
  brand := none
  packageQuantity := some (.finite 500)
  packageUnit := some "g"
  packageCount := 1
  baseQuantity := some (.finite (1 / 2000))
  baseUnit := some "kg"

/-- Half a kilogram is reported. -/
theorem not_coherent_saffron : ProductNormalizer.normalize plainText Alphabet.ascii saffron = .ok saffronReport ∧
    recovered plainText Alphabet.ascii saffron = .ok (some (.finite 500), some "mg", some 1) ∧
    ¬ Coherent plainText (givenPackage (.finite 500) "mg" (some 1)) saffronReport := by
  refine ⟨?_, rfl, ?_⟩
  · have htotal : totalOf (.finite 500) (1 / 1000000) 1 = .ok (.finite (1 / 2000)) := by
      have hfirst := @mul_zpow 500 (1 / 1000000) 5 (by norm_num [contextPrec]) (-4) (by norm_num) (by norm_num) (by norm_num)
      have hsecond := @mul_zpow (500 * (1 / 1000000)) 1 5 (by norm_num [contextPrec]) (-4) (by norm_num) (by norm_num) (by norm_num)
      have hhalf : (500 : ℚ) * (1 / 1000000) * 1 = 1 / 2000 := by norm_num
      rw [hhalf] at hsecond
      rw [totalOf, hfirst]
      exact hsecond
    have hcanon : canonicalUnit plainText "mg" = some "mg" := by decide +kernel
    rw [@normalize_eq plainText Alphabet.ascii saffron (.finite 500) "mg" (some 1) "mg" "kg" (1 / 1000000) rfl hcanon rfl]
    rw [show countOf (some 1) = 1 from rfl, htotal]
    exact congrArg Except.ok (by decide +kernel)
  · rintro ⟨x, unit, factor, base, hx, hfactor, -, hbase, hsame, -⟩
    obtain rfl : 500 = x := Decimal.finite.inj (Option.some.inj hx)
    obtain rfl : 1 / 1000 = factor := congrArg Prod.snd (Option.some.inj hfactor)
    obtain rfl : 1 / 2000 = base := Decimal.finite.inj (Option.some.inj hbase)
    norm_num [saffronReport] at hsame

end CestaPlan.Ingestion
