import CestaPlan.Engine.Packaging

/-! Where the ingredients of a plan come from: the products of the catalogue (`cestaplan_engine/matching.py`) and what is at home already
    (`cestaplan_engine/pantry.py`). -/

namespace CestaPlan.Engine

/-! ### Products for ingredients -/

/-- `ProductMatcher`: the first product of each canonical name, and the names of each substitution group. -/
structure ProductMatcher where
  byName : Dict String CatalogProductDTO
  groups : Dict String (List String)

def productMatcher (catalog : List CatalogProductDTO) (substitutionGroups : Dict String (List String)) :
    ProductMatcher where
  byName := catalog.foldl (fun byName product => byName.setDefault product.canonicalName product) Dict.empty
  groups := substitutionGroups

namespace ProductMatcher

/-- The product of the first name of the group that has one. -/
def substitute (m : ProductMatcher) (group : String) : Option CatalogProductDTO :=
  (m.groups.getD group []).findSome? m.byName.get?

/-- `match`. -/
def resolve (m : ProductMatcher) (canonicalName : String) (substitutionGroup : Option String) :
    Option CatalogProductDTO :=
  match m.byName.get? canonicalName with
  | some direct => some direct
  | none => substitutionGroup.bind m.substitute

def matchIngredient (m : ProductMatcher) (ingredient : RecipeIngredientDTO) : Option CatalogProductDTO :=
  m.resolve ingredient.canonicalName ingredient.substitutionGroup

end ProductMatcher

/-! ### The pantry -/

/-- `PantryCalculator`: the items that have not expired. -/
structure PantryCalculator where
  items : List PantryItemDTO
  factors : Factors

def pantryCalculator (pantry : List PantryItemDTO) (factors : Factors) (asOf : Option Date) : PantryCalculator where
  items := pantry.filter fun item =>
    match item.expiresAt, asOf with
    | some expires, some now => !decide (expires < now)
    | _, _ => true
  factors := factors

namespace PantryCalculator
variable (py : Runtime) (p : PantryCalculator)

/-- The stock of an ingredient in `unit`; an item that does not convert is left out. -/
def available (canonicalName unit : String) : ℚ :=
  (p.items.filter (·.canonicalName = canonicalName)).foldl (fun total item =>
    match convert py p.factors item.quantity item.unit unit (some canonicalName) with
    | .ok q => py.add total q
    | .error _ => total) 0

/-- What the pantry gives, and what remains to be bought. -/
def pending (canonicalName : String) (needed : ℚ) (unit : String) : ℚ × ℚ :=
  let used := min needed (p.available py canonicalName unit)
  let pending := py.sub needed used
  (used, if pending < 0 then 0 else pending)

end PantryCalculator

end CestaPlan.Engine
