import CestaPlan.Engine.Runtime
import CestaPlan.Library.Calendar
import CestaPlan.Library.Numeric
import CestaPlan.Library.Text

/-! The normalization of prices (`ingestion/normalization.py`). Amounts are decimals, which are not always numbers. -/

namespace CestaPlan.Ingestion
open Numeric

inductive Decimal where
  | finite (value : ℚ)
  | infinity (negative : Bool)
  | nan (signaling : Bool)
deriving DecidableEq

/-- A datetime: what the clock shows and the offset of its zone, if it has one. -/
structure DateTime where
  reading : Calendar.Instant
  offset : Option Int
deriving DecidableEq

structure Runtime extends Engine.Runtime where
  /-- `str.upper` -/
  upper : String → String
  /-- `Decimal(text)`, or nothing where it raises. -/
  decimal : String → Option Decimal
  /-- `datetime.fromisoformat(text)`, or nothing where it raises. -/
  fromisoformat : String → Option DateTime

inductive NormalizationError where
  | unknownCurrency (currency : String)
  | unrecognisedPackageUnit (unit : String)
  | notADecimal (value : String)
deriving DecidableEq

/-- What a normalization raises: its own error, or the one of the decimal arithmetic. -/
inductive Raised where
  | normalization (error : NormalizationError)
  | invalidOperation
deriving DecidableEq

/-! ### Units -/

def unitSynonyms : List (String × String) :=
  [("g", "g"), ("gr", "g"), ("grs", "g"), ("gram", "g"), ("grams", "g"), ("gramo", "g"), ("gramos", "g"),
   ("kg", "kg"), ("kgs", "kg"), ("kilo", "kg"), ("kilos", "kg"), ("kilogramo", "kg"), ("kilogramos", "kg"),
   ("mg", "mg"), ("miligramo", "mg"), ("miligramos", "mg"),
   ("ml", "ml"), ("mililitro", "ml"), ("mililitros", "ml"), ("cc", "ml"),
   ("cl", "cl"), ("centilitro", "cl"), ("centilitros", "cl"),
   ("l", "l"), ("lt", "l"), ("lts", "l"), ("litro", "l"), ("litros", "l"),
   ("unit", "unit"), ("units", "unit"), ("u", "unit"), ("ud", "unit"), ("uds", "unit"), ("unidad", "unit"),
   ("unidades", "unit"), ("piece", "unit"), ("pieces", "unit"), ("pcs", "unit"), ("pack", "unit")]

/-- The base unit of a canonical unit, and the factor to it. -/
def toBase : List (String × String × ℚ) :=
  [("mg", "kg", 1 / 1000000), ("g", "kg", 1 / 1000), ("kg", "kg", 1), ("ml", "l", 1 / 1000), ("cl", "l", 1 / 100),
   ("l", "l", 1), ("unit", "unit", 1)]

section Normalization
variable (py : Runtime)

def canonicalUnit (unit : String) : Option String :=
  unitSynonyms.lookup (String.ofList ((py.lower (Text.strip unit)).toList.filter (!Text.isSpace ·)))

/-- `to_decimal` of a text. -/
def toDecimal (value : Option String) : Except Raised (Option Decimal) :=
  match value with
  | none => .ok none
  | some value =>
    let text := (Text.strip value).map fun c => if c = ',' then '.' else c
    if text = "" then .ok none
    else match py.decimal text with
      | some d => .ok (some d)
      | none => .error (.normalization (.notADecimal value))

/-- `Decimal.quantize` to some decimals, halves up; the context has 28 digits. -/
def Decimal.quantize (scale : Nat) : Decimal → Except Raised Decimal
  | .finite value =>
    let rounded := roundScale scale value
    if |rounded| * 10 ^ scale < 10 ^ 28 then .ok (.finite rounded) else .error .invalidOperation
  | .infinity _ => .error .invalidOperation
  | .nan signaling => if signaling then .error .invalidOperation else .ok (.nan false)

/-- `x <= 0` -/
def Decimal.notPositive : Decimal → Except Raised Bool
  | .finite value => .ok (value ≤ 0)
  | .infinity negative => .ok negative
  | .nan _ => .error .invalidOperation

/-- `x * factor * Decimal(1)`, of a positive factor. -/
def Decimal.scaled (factor : ℚ) : Decimal → Decimal
  | .finite value => .finite (py.mul (py.mul value factor) 1)
  | other => other

/-- `money / total`, of a quantized amount. -/
def Decimal.over (money total : Decimal) : Decimal :=
  match money, total with
  | .finite amount, .finite quantity => .finite (py.div amount quantity)
  | .finite _, .infinity _ => .finite 0
  | .finite _, .nan signaling => .nan signaling
  | money, _ => money

def unitPrice (money : Option Decimal) (packageQuantity packageUnit : Option String) :
    Except Raised (Option Decimal × Option String) := do
  let canon := packageUnit.bind (canonicalUnit py)
  match packageUnit.filter fun _ => canon.isNone with
  | some unit => throw (.normalization (.unrecognisedPackageUnit unit))
  | none =>
    let quantity ← toDecimal py packageQuantity
    match canon.bind fun unit => toBase.lookup unit, quantity with
    | none, _ => return (none, none)
    | some (baseUnit, _), none => return (none, some baseUnit)
    | some (baseUnit, factor), some quantity =>
      if ← quantity.notPositive then return (none, some baseUnit)
      let totalBase := quantity.scaled py factor
      match money with
      | none => return (none, some baseUnit)
      | some money =>
        if ← totalBase.notPositive then return (none, some baseUnit)
        let unitAmount ← (money.over py totalBase).quantize 4
        return (some unitAmount, some baseUnit)

structure NormalizedPrice where
  amount : Option Decimal
  currency : String
  unitAmount : Option Decimal
  unitCode : Option String
deriving DecidableEq

/-- `PriceNormalizer().normalize`: only euros are allowed. -/
def normalizePrice (amount : Option String) (currency : String) (packageQuantity packageUnit : Option String) :
    Except Raised NormalizedPrice := do
  let code := py.upper (Text.strip (if currency = "" then "EUR" else currency))
  if code ≠ "EUR" then throw (.normalization (.unknownCurrency currency))
  let money ← match ← toDecimal py amount with
    | none => pure none
    | some money => some <$> money.quantize 2
  let (unitAmount, unitCode) ← unitPrice py money packageQuantity packageUnit
  return { amount := money, currency := code, unitAmount, unitCode }

end Normalization
end CestaPlan.Ingestion
