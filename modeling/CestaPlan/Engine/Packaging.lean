import CestaPlan.Engine.Contracts
import CestaPlan.Engine.Runtime

/-! Unit conversion (`cestaplan_engine/units.py`): within a dimension by fixed factors, across dimensions only by what is declared for
    the ingredient. Whole packages (`cestaplan_engine/packaging.py`). -/

namespace CestaPlan.Engine

inductive ConversionError where
  | countedUnit (fromUnit toUnit : String) (canonicalName : Option String)
  | noConversion (fromUnit toUnit : String) (canonicalName : Option String)
deriving DecidableEq

def massToG : List (String × ℚ) := [("g", 1), ("kg", 1000), ("mg", 1 / 1000), ("pizca", 1 / 2)]

def volumeToMl : List (String × ℚ) :=
  [("ml", 1), ("l", 1000), ("cl", 10), ("cucharada", 15), ("cucharadita", 5), ("vaso", 200), ("taza", 240)]

def countUnits : List String := ["unit", "unidad", "unidades", "ud", "uds", "u", "piece", "pcs"]

section Converter
variable (py : Runtime)

def normUnit (unit : String) : String := py.fold unit

/-- The declared factors, by ingredient and units. -/
abbrev Factors := Dict (String × String × String) ℚ

def unitConverter (conversions : List IngredientConversionDTO) : Factors :=
  conversions.foldl (fun factors conv =>
    let f := normUnit py conv.fromUnit
    let t := normUnit py conv.toUnit
    let factors := factors.set (conv.canonicalName, f, t) conv.factor
    if conv.factor ≠ 0 then factors.set (conv.canonicalName, t, f) (py.div 1 conv.factor) else factors) Dict.empty

/-- The conversions that need no declaration, of normalized units. -/
def convertWithin (quantity : ℚ) (f t : String) : Option ℚ :=
  if f = t then some quantity
  else match massToG.lookup f, massToG.lookup t with
    | some a, some b => some (py.div (py.mul quantity a) b)
    | _, _ => match volumeToMl.lookup f, volumeToMl.lookup t with
      | some a, some b => some (py.div (py.mul quantity a) b)
      | _, _ => if countUnits.contains f && countUnits.contains t then some quantity else none

/-- `_bridge`: the first declared factor that can be reached from `f` and leads on to `t`. -/
def bridge (factors : Factors) (quantity : ℚ) (f t canonicalName : String) : Option ℚ :=
  factors.entries.findSome? fun ((name, cf, ct), factor) =>
    if name ≠ canonicalName then none
    else do
      let toCf ← convertWithin py quantity (normUnit py f) (normUnit py cf)
      convertWithin py (py.mul toCf factor) (normUnit py ct) (normUnit py t)

def convert (factors : Factors) (quantity : ℚ) (fromUnit toUnit : String) (canonicalName : Option String) :
    Except ConversionError ℚ :=
  let f := normUnit py fromUnit
  let t := normUnit py toUnit
  let declared := canonicalName.bind fun name =>
    match factors.get? (name, f, t) with
    | some direct => some (py.mul quantity direct)
    | none => bridge py factors quantity f t name
  match convertWithin py quantity f t with
  | some q => .ok q
  | none => match declared with
    | some q => .ok q
    | none =>
      if countUnits.contains f || countUnits.contains t then .error (.countedUnit fromUnit toUnit canonicalName)
      else .error (.noConversion fromUnit toUnit canonicalName)

end Converter
end CestaPlan.Engine

namespace CestaPlan.Engine

section Packages
variable (py : Runtime)

/-- `decimal_ceil_div`; a package quantity that is not positive raises. -/
def decimalCeilDiv (pending packageQuantity : ℚ) : Option Nat :=
  if packageQuantity ≤ 0 then none
  else if pending ≤ 0 then some 0
  else some ⌈py.div pending packageQuantity⌉.toNat

structure PackageResult where
  needed : ℚ
  pantry : ℚ
  pending : ℚ
  packageQuantity : ℚ
  packagePrice : ℚ
  packages : Nat
  purchased : ℚ
  used : ℚ
  leftover : ℚ
  totalCost : ℚ
deriving DecidableEq

def computePackages (needed pantryAvailable packageQuantity packagePrice : ℚ) : Option PackageResult := do
  let pending := max (py.sub needed pantryAvailable) 0
  let packages ← decimalCeilDiv py pending packageQuantity
  let purchased := py.mul packages packageQuantity
  pure
    { needed := needed
      pantry := py.sub needed pending
      pending := pending
      packageQuantity := packageQuantity
      packagePrice := packagePrice
      packages := packages
      purchased := purchased
      used := pending
      leftover := py.sub purchased pending
      totalCost := py.mul packages packagePrice }

structure PackageChoice where
  option : PackageOptionDTO
  result : PackageResult
  priceKnown : Bool
  expired : Bool
deriving DecidableEq

def isExpired (option : PackageOptionDTO) (asOf : Option Date) : Bool :=
  match option.expiresAt, asOf with
  | some expires, some now => expires < now
  | _, _ => false

/-- The key of a format: in stock first, then with a known price, then by score, product and size. -/
structure PackageKey where
  outOfStock : Nat
  priceUnknown : Nat
  score : ℚ
  productId : String
  packageQuantity : ℚ

def PackageKey.before (a b : PackageKey) : Bool :=
  a.outOfStock < b.outOfStock || a.outOfStock = b.outOfStock && (
    a.priceUnknown < b.priceUnknown || a.priceUnknown = b.priceUnknown && (
      a.score < b.score || a.score = b.score && (
        a.productId < b.productId || a.productId = b.productId && a.packageQuantity < b.packageQuantity)))

def packageChoice (pending : ℚ) (asOf : Option Date) (wWaste wCost : ℚ) (opt : PackageOptionDTO) :
    Option (PackageChoice × PackageKey) := do
  let expired := isExpired opt asOf
  let priceKnown := opt.hasPrice && !expired
  let result ← computePackages py pending 0 opt.packageQuantity opt.amount
  pure ({ option := opt, result := result, priceKnown := priceKnown, expired := expired },
    { outOfStock := if opt.availability = .outOfStock then 1 else 0
      priceUnknown := if priceKnown then 0 else 1
      score := py.add (py.mul wWaste result.leftover) (py.mul wCost result.totalCost)
      productId := opt.productId
      packageQuantity := opt.packageQuantity })

/-- `PackageOptimizer.choose`: the first format whose key no other one undercuts. A format without a positive
    quantity is skipped, so none raises. -/
def choosePackage (pending : ℚ) (options : List PackageOptionDTO) (asOf : Option Date) (wWaste wCost : ℚ) :
    Option PackageChoice :=
  let best := (options.filterMap (packageChoice py pending asOf wWaste wCost)).foldl
    (fun best choice => match best with
      | none => some choice
      | some b => if choice.2.before b.2 then some choice else some b) none
  best.map Prod.fst

end Packages
end CestaPlan.Engine
