import CestaPlan.Library.Accents
import CestaPlan.Library.Numeric
import CestaPlan.Mapping.Discovery
import Mathlib.Data.List.Infix

/-! The dictionary of the ingredients and its rules (`services/ingredient_dictionary.py`). A product is an ingredient where its name has the
    required terms and none of the excluding ones, in a category and a unit that fit. -/

namespace CestaPlan.Mapping
open Numeric Text

/-! ### The dictionary -/

structure IngredientSpec where
  key : String
  categoryCode : String
  aliases : List String
  requiredTerms : List String
  excludingTerms : List String
  forbiddenForms : List String
  allowedUnits : List String
  /-- At least one, so that a ratio of them exists, and at most two, so that it is exact. -/
  terms : 1 ≤ requiredTerms.length ∧ requiredTerms.length ≤ 2 := by decide

/-- `_SPECS` -/
def specs : List IngredientSpec := [
  { key := "aceite_oliva", categoryCode := "aceites_condimentos",
    aliases := ["aceite de oliva", "aceite oliva", "aceite de oliva virgen", "aceite de oliva virgen extra", "aove"],
    requiredTerms := ["aceite", "oliva"], excludingTerms := ["girasol", "semillas", "maiz", "palma", "coco", "soja", "orujo"],
    forbiddenForms := ["spray", "aromatizado"], allowedUnits := ["l", "ml"] },
  { key := "sal", categoryCode := "aceites_condimentos", aliases := ["sal", "sal fina", "sal marina", "sal yodada"],
    requiredTerms := ["sal"], excludingTerms := ["salsa", "salchicha", "salmon", "salame", "ensalada", "salado"],
    forbiddenForms := [], allowedUnits := ["g", "kg"] },
  { key := "cebolla", categoryCode := "verduras", aliases := ["cebolla", "cebolla blanca", "cebolla dulce", "cebolla amarilla"],
    requiredTerms := ["cebolla"], excludingTerms := ["cebollino"],
    forbiddenForms := ["frita", "en polvo", "deshidratada", "crujiente", "encurtida"], allowedUnits := ["g", "kg", "unit"] },
  { key := "ajo", categoryCode := "verduras", aliases := ["ajo", "cabeza de ajo", "dientes de ajo", "ajos"],
    requiredTerms := ["ajo"], excludingTerms := ["ajedrea"],
    forbiddenForms := ["en polvo", "molido", "granulado", "deshidratado", "frito"], allowedUnits := ["g", "kg", "unit"] },
  { key := "tomate", categoryCode := "verduras", aliases := ["tomate", "tomate pera", "tomate rama", "tomate ensalada"],
    requiredTerms := ["tomate"], excludingTerms := [],
    forbiddenForms := ["triturado", "frito", "concentrado", "ketchup", "salsa", "seco", "en conserva", "pelado"],
    allowedUnits := ["g", "kg", "unit"] },
  { key := "avena_copos", categoryCode := "cereales_pasta_arroz", aliases := ["copos de avena", "avena en copos", "copos avena"],
    requiredTerms := ["avena", "copos"],
    excludingTerms := ["bebida", "drink", "galleta", "barrita", "harina", "cereales", "cereal"], forbiddenForms := [],
    allowedUnits := ["g", "kg"] },
  { key := "espinaca", categoryCode := "verduras", aliases := ["espinaca", "espinacas", "espinaca fresca", "espinaca congelada"],
    requiredTerms := ["espinaca"], excludingTerms := [],
    forbiddenForms := ["crema", "lasaña", "lasana", "plato", "preparado", "salteado", "empanadilla", "pizza"],
    allowedUnits := ["g", "kg"] },
  { key := "patata", categoryCode := "verduras", aliases := ["patata", "patatas", "patata para cocer", "patata para guisar"],
    requiredTerms := ["patata"], excludingTerms := ["patatilla"],
    forbiddenForms := ["frita", "chips", "prefrita", "pure", "snack", "gajos", "congelada"], allowedUnits := ["g", "kg", "unit"] },
  { key := "leche_entera", categoryCode := "lacteos", aliases := ["leche entera", "leche entera de vaca"],
    requiredTerms := ["leche", "entera"],
    excludingTerms := ["avena", "soja", "almendra", "coco", "arroz", "condensada", "evaporada", "polvo", "bebida", "desnatada",
      "semidesnatada"], forbiddenForms := ["en polvo"], allowedUnits := ["l", "ml"] },
  { key := "leche_desnatada", categoryCode := "lacteos", aliases := ["leche desnatada", "leche desnatada de vaca"],
    requiredTerms := ["leche", "desnatada"],
    excludingTerms := ["avena", "soja", "almendra", "coco", "arroz", "condensada", "evaporada", "polvo", "bebida", "entera",
      "semidesnatada"], forbiddenForms := ["en polvo"], allowedUnits := ["l", "ml"] },
  { key := "platano", categoryCode := "frutas", aliases := ["platano", "platano de canarias", "banana"],
    requiredTerms := ["platano"],
    excludingTerms := ["sabor", "batido", "yogur", "chips", "frito", "macho", "deshidratado", "pure", "infantil"],
    forbiddenForms := ["preparado", "crujiente"], allowedUnits := ["g", "kg", "unit"] },
  { key := "arandano", categoryCode := "frutas", aliases := ["arandano", "arandanos"], requiredTerms := ["arandano"],
    excludingTerms := ["mermelada", "zumo", "yogur", "sabor", "recubierto", "azucarado"], forbiddenForms := ["preparado"],
    allowedUnits := ["g", "kg"] },
  { key := "yogur_natural", categoryCode := "lacteos", aliases := ["yogur natural", "yogures naturales"],
    requiredTerms := ["yogur", "natural"],
    excludingTerms := ["sabor", "fresa", "limon", "coco", "griego azucarado", "natillas", "kefir", "bebible", "liquido",
      "azucarado", "fruta"], forbiddenForms := [], allowedUnits := ["g", "kg", "ml", "l"] },
  { key := "aceite", categoryCode := "aceites_condimentos", aliases := ["aceite", "aceite vegetal", "aceite de cocina"],
    requiredTerms := ["aceite"], excludingTerms := ["motor", "corporal", "masaje", "parafina", "esencial"],
    forbiddenForms := ["spray", "aromatizado"], allowedUnits := ["l", "ml"] },
  { key := "vinagre", categoryCode := "aceites_condimentos",
    aliases := ["vinagre", "vinagre de vino", "vinagre de manzana", "vinagre de modena"], requiredTerms := ["vinagre"],
    excludingTerms := ["aceite"], forbiddenForms := [], allowedUnits := ["l", "ml"] },
  { key := "azucar", categoryCode := "panaderia_reposteria",
    aliases := ["azucar", "azucar blanco", "azucar moreno", "azucar glas"], requiredTerms := ["azucar"],
    excludingTerms := ["sacarina", "edulcorante", "stevia", "vainillado"], forbiddenForms := [], allowedUnits := ["g", "kg"] },
  { key := "sal gorda", categoryCode := "aceites_condimentos", aliases := ["sal gorda", "sal gruesa"],
    requiredTerms := ["sal", "gorda"], excludingTerms := ["salsa", "ensalada"], forbiddenForms := [], allowedUnits := ["g", "kg"] },
  { key := "pimenton", categoryCode := "aceites_condimentos",
    aliases := ["pimenton", "pimenton dulce", "pimenton picante", "pimenton de la vera"], requiredTerms := ["pimenton"],
    excludingTerms := ["pimiento"], forbiddenForms := [], allowedUnits := ["g", "kg"] },
  { key := "pimienta", categoryCode := "aceites_condimentos",
    aliases := ["pimienta", "pimienta negra", "pimienta blanca", "pimienta molida"], requiredTerms := ["pimienta"],
    excludingTerms := ["pimiento", "pimenton"], forbiddenForms := [], allowedUnits := ["g", "kg"] },
  { key := "canela", categoryCode := "aceites_condimentos", aliases := ["canela", "canela molida", "canela en rama"],
    requiredTerms := ["canela"], excludingTerms := ["roll", "galleta", "cereal", "sabor"], forbiddenForms := [],
    allowedUnits := ["g", "kg"] },
  { key := "azafran", categoryCode := "aceites_condimentos", aliases := ["azafran", "azafran en hebras"],
    requiredTerms := ["azafran"], excludingTerms := ["colorante"], forbiddenForms := [], allowedUnits := ["g", "kg"] },
  { key := "comino", categoryCode := "aceites_condimentos", aliases := ["comino", "comino molido"], requiredTerms := ["comino"],
    excludingTerms := [], forbiddenForms := [], allowedUnits := ["g", "kg"] },
  { key := "laurel", categoryCode := "aceites_condimentos", aliases := ["laurel", "hoja de laurel", "hojas de laurel"],
    requiredTerms := ["laurel"], excludingTerms := [], forbiddenForms := [], allowedUnits := ["g", "kg"] },
  { key := "perejil", categoryCode := "verduras", aliases := ["perejil", "perejil fresco"], requiredTerms := ["perejil"],
    excludingTerms := [], forbiddenForms := ["seco", "deshidratado"], allowedUnits := ["g", "kg", "unit"] },
  { key := "vainilla", categoryCode := "aceites_condimentos",
    aliases := ["vainilla", "azucar vainillado", "esencia de vainilla", "extracto de vainilla"], requiredTerms := ["vainilla"],
    excludingTerms := ["yogur", "helado", "sabor", "natillas"], forbiddenForms := [], allowedUnits := ["g", "kg", "ml", "l"] },
  { key := "harina", categoryCode := "panaderia_reposteria",
    aliases := ["harina", "harina de trigo", "harina de fuerza", "harina de reposteria"], requiredTerms := ["harina"],
    excludingTerms := ["maiz", "garbanzo", "almendra", "arroz", "avena", "coco", "centeno"], forbiddenForms := [],
    allowedUnits := ["g", "kg"] },
  { key := "maicena", categoryCode := "panaderia_reposteria", aliases := ["maicena", "harina fina de maiz", "almidon de maiz"],
    requiredTerms := ["maicena"], excludingTerms := [], forbiddenForms := [], allowedUnits := ["g", "kg"] },
  { key := "pan", categoryCode := "panaderia_reposteria", aliases := ["pan", "barra de pan", "pan de pueblo", "pan blanco"],
    requiredTerms := ["pan"], excludingTerms := ["rallado"], forbiddenForms := ["rallado", "tostado", "molido"],
    allowedUnits := ["g", "kg", "unit"] },
  { key := "pan rallado", categoryCode := "panaderia_reposteria", aliases := ["pan rallado", "pan rallado con ajo y perejil"],
    requiredTerms := ["pan", "rallado"], excludingTerms := [], forbiddenForms := [], allowedUnits := ["g", "kg"] },
  { key := "arroz", categoryCode := "cereales_pasta_arroz", aliases := ["arroz", "arroz redondo", "arroz largo"],
    requiredTerms := ["arroz"], excludingTerms := ["leche", "bebida", "vinagre", "harina", "tortitas"],
    forbiddenForms := ["con leche"], allowedUnits := ["g", "kg"] },
  { key := "fideo", categoryCode := "cereales_pasta_arroz", aliases := ["fideo", "fideos", "fideo fino", "fideua"],
    requiredTerms := ["fideo"], excludingTerms := [], forbiddenForms := [], allowedUnits := ["g", "kg"] },
  { key := "leche", categoryCode := "lacteos", aliases := ["leche", "leche de vaca", "leche fresca"], requiredTerms := ["leche"],
    excludingTerms := ["avena", "soja", "almendra", "coco", "arroz", "condensada", "evaporada", "polvo", "bebida", "merengada",
      "magnesia"], forbiddenForms := ["en polvo"], allowedUnits := ["l", "ml"] },
  { key := "nata", categoryCode := "lacteos", aliases := ["nata", "nata para cocinar", "nata liquida"], requiredTerms := ["nata"],
    excludingTerms := ["soja", "coco", "vegetal", "avena"], forbiddenForms := ["montada", "spray"], allowedUnits := ["l", "ml"] },
  { key := "mantequilla", categoryCode := "lacteos", aliases := ["mantequilla", "mantequilla sin sal"],
    requiredTerms := ["mantequilla"], excludingTerms := ["cacahuete", "mani", "vegetal", "soja"], forbiddenForms := [],
    allowedUnits := ["g", "kg"] },
  { key := "huevo", categoryCode := "huevos",
    aliases := ["huevo", "huevos", "huevo fresco", "huevos frescos", "huevo l", "huevo m"], requiredTerms := ["huevo"],
    excludingTerms := ["hilado", "liquido", "pasteurizado", "codorniz", "chocolate", "kinder"],
    forbiddenForms := ["en polvo", "deshidratado"], allowedUnits := ["unit", "g"] },
  { key := "pollo", categoryCode := "carnes", aliases := ["pollo", "pechuga de pollo", "muslo de pollo", "contramuslo de pollo"],
    requiredTerms := ["pollo"], excludingTerms := ["caldo", "sabor", "pastilla", "pienso"],
    forbiddenForms := ["empanado", "nuggets", "rebozado", "precocinado"], allowedUnits := ["g", "kg", "unit"] },
  { key := "carne picada", categoryCode := "carnes", aliases := ["carne picada", "carne picada mixta", "carne picada de ternera"],
    requiredTerms := ["carne", "picada"], excludingTerms := ["soja", "vegetal", "vegana"], forbiddenForms := [],
    allowedUnits := ["g", "kg"] },
  { key := "chorizo", categoryCode := "carnes", aliases := ["chorizo", "chorizo fresco", "chorizo sarta"],
    requiredTerms := ["chorizo"], excludingTerms := ["sabor", "soja"], forbiddenForms := [], allowedUnits := ["g", "kg"] },
  { key := "morcilla", categoryCode := "carnes", aliases := ["morcilla", "morcilla de arroz", "morcilla de cebolla"],
    requiredTerms := ["morcilla"], excludingTerms := [], forbiddenForms := [], allowedUnits := ["g", "kg"] },
  { key := "tocino", categoryCode := "carnes", aliases := ["tocino", "tocino fresco"], requiredTerms := ["tocino"],
    excludingTerms := ["cielo"], forbiddenForms := [], allowedUnits := ["g", "kg"] },
  { key := "jamón serrano", categoryCode := "carnes", aliases := ["jamon serrano", "jamon curado"],
    requiredTerms := ["jamon", "serrano"], excludingTerms := ["york", "cocido", "dulce", "pavo"], forbiddenForms := [],
    allowedUnits := ["g", "kg"] },
  { key := "conejo", categoryCode := "carnes", aliases := ["conejo", "conejo troceado"], requiredTerms := ["conejo"],
    excludingTerms := [], forbiddenForms := [], allowedUnits := ["g", "kg", "unit"] },
  { key := "bacalao", categoryCode := "pescados", aliases := ["bacalao", "bacalao desalado", "lomo de bacalao"],
    requiredTerms := ["bacalao"], excludingTerms := ["aceite", "higado", "pil"],
    forbiddenForms := ["rebozado", "croqueta", "buñuelo"], allowedUnits := ["g", "kg"] },
  { key := "garbanzo", categoryCode := "legumbres", aliases := ["garbanzo", "garbanzos"], requiredTerms := ["garbanzo"],
    excludingTerms := ["harina"], forbiddenForms := ["frito", "tostado"], allowedUnits := ["g", "kg"] },
  { key := "alubia", categoryCode := "legumbres", aliases := ["alubia", "alubias", "alubia blanca", "judia blanca"],
    requiredTerms := ["alubia"], excludingTerms := [], forbiddenForms := [], allowedUnits := ["g", "kg"] },
  { key := "judía verde", categoryCode := "verduras", aliases := ["judia verde", "judias verdes"],
    requiredTerms := ["judia", "verde"], excludingTerms := ["blanca", "pinta"], forbiddenForms := [], allowedUnits := ["g", "kg"] },
  { key := "zanahoria", categoryCode := "verduras", aliases := ["zanahoria", "zanahorias"], requiredTerms := ["zanahoria"],
    excludingTerms := [], forbiddenForms := ["rallada", "deshidratada"], allowedUnits := ["g", "kg", "unit"] },
  { key := "pimiento", categoryCode := "verduras", aliases := ["pimiento", "pimientos"], requiredTerms := ["pimiento"],
    excludingTerms := ["pimienta", "pimenton", "morron", "piquillo"], forbiddenForms := ["en conserva", "en lata", "asado"],
    allowedUnits := ["g", "kg", "unit"] },
  { key := "pimiento_rojo", categoryCode := "verduras", aliases := ["pimiento rojo", "pimientos rojos"],
    requiredTerms := ["pimiento", "rojo"], excludingTerms := ["verde", "amarillo", "pimienta", "pimenton"],
    forbiddenForms := ["en conserva", "en lata"], allowedUnits := ["g", "kg", "unit"] },
  { key := "calabacin", categoryCode := "verduras", aliases := ["calabacin", "calabacines"], requiredTerms := ["calabacin"],
    excludingTerms := [], forbiddenForms := [], allowedUnits := ["g", "kg", "unit"] },
  { key := "alcachofa", categoryCode := "verduras", aliases := ["alcachofa", "alcachofas"], requiredTerms := ["alcachofa"],
    excludingTerms := [], forbiddenForms := ["en conserva", "corazones en bote"], allowedUnits := ["g", "kg", "unit"] },
  { key := "limon", categoryCode := "frutas", aliases := ["limon", "limones"], requiredTerms := ["limon"],
    excludingTerms := ["sabor", "refresco", "detergente", "friegasuelos"], forbiddenForms := ["zumo", "en polvo"],
    allowedUnits := ["unit", "g", "kg"] },
  { key := "almendra", categoryCode := "frutos_secos", aliases := ["almendra", "almendras", "almendra cruda"],
    requiredTerms := ["almendra"], excludingTerms := ["bebida", "leche", "turron", "sabor"], forbiddenForms := [],
    allowedUnits := ["g", "kg"] },
  { key := "aceitunas", categoryCode := "aceites_condimentos",
    aliases := ["aceituna", "aceitunas", "aceitunas verdes", "aceitunas negras"], requiredTerms := ["aceituna"],
    excludingTerms := ["aceite"], forbiddenForms := [], allowedUnits := ["g", "kg"] },
  { key := "caldo", categoryCode := "caldos", aliases := ["caldo", "caldo de pollo", "caldo de carne", "caldo casero"],
    requiredTerms := ["caldo"], excludingTerms := [], forbiddenForms := [], allowedUnits := ["l", "ml", "g", "unit"] },
  { key := "caldo de pescado", categoryCode := "caldos", aliases := ["caldo de pescado", "fumet", "fumet de pescado"],
    requiredTerms := ["caldo", "pescado"], excludingTerms := [], forbiddenForms := [], allowedUnits := ["l", "ml", "g"] },
  { key := "vino blanco", categoryCode := "bebidas_alcohol", aliases := ["vino blanco"], requiredTerms := ["vino", "blanco"],
    excludingTerms := ["tinto", "rosado", "vinagre"], forbiddenForms := ["sin alcohol"], allowedUnits := ["l", "ml"] }]

/-- `_SPECS[key]`, or nothing where it raises. -/
def specOf (key : String) : Option IngredientSpec := specs.find? fun spec => spec.key = key

/-- `_CATEGORY_KEYWORDS` -/
def categoryKeywords : List (String × List String) := [
  ("frutas", ["fruta", "platano", "banana", "arandano", "manzana", "naranja", "pera"]),
  ("verduras", ["verdura", "hortaliza", "tomate", "cebolla", "ajo", "espinaca", "patata", "lechuga"]),
  ("lacteos", ["lacteo", "leche", "yogur", "queso", "nata", "mantequilla"]),
  ("aceites_condimentos", ["aceite", "sal ", "vinagre", "especia", "condimento", "aliño", "aceituna"]),
  ("cereales_pasta_arroz", ["cereal", "avena", "arroz", "pasta", "copos", "fideo"]),
  ("panaderia_reposteria", ["panaderia", "reposteria", "pan", "harina", "azucar", "bolleria"]),
  ("huevos", ["huevo", "huevos"]),
  ("carnes", ["carne", "pollo", "cerdo", "ternera", "chorizo", "jamon", "embutido", "conejo"]),
  ("pescados", ["pescado", "marisco", "bacalao", "atun", "merluza", "gamba"]),
  ("legumbres", ["legumbre", "garbanzo", "lenteja", "alubia", "judia"]),
  ("frutos_secos", ["fruto seco", "frutos secos", "almendra", "nuez", "avellana"]),
  ("caldos", ["caldo", "fumet", "fondo"]),
  ("bebidas_alcohol", ["vino", "cerveza", "licor", "brandy", "coñac"])]

inductive UnitCompatibility where
  | unknown | compatible | convertible | incompatible
deriving DecidableEq

def UnitCompatibility.value : UnitCompatibility → String
  | unknown => "unknown"
  | compatible => "compatible"
  | convertible => "convertible"
  | incompatible => "incompatible"

/-- The units that a unit converts to. -/
def convertible : String → List String
  | "l" => ["ml"]
  | "ml" => ["l"]
  | "kg" => ["g"]
  | "g" => ["kg"]
  | _ => []

section Rules
variable (u : Unicode)

/-- `normalize` -/
def normalize (text : String) : List Char := u.plain text.toList

/-- `_tokens` -/
def tokens (text : List Char) : List (List Char) :=
  runsOf (fun c => ('a' ≤ c && c ≤ 'z') || ('0' ≤ c && c ≤ '9')) (u.plain text)

/-- `normalize_provider_category` -/
def normalizeProviderCategory (text : Option String) : Option String :=
  match text with
  | none | some "" => none
  | some text =>
    (categoryKeywords.find? fun entry => entry.2.any fun w => trim w.toList <:+: normalize u text).map Prod.fst

/-- `_unit_compatibility` -/
def unitCompatibility (spec : IngredientSpec) : Option String → UnitCompatibility
  | none => .unknown
  | some unit =>
    let unit := u.lower unit
    if unit ∈ spec.allowedUnits then .compatible
    else if spec.allowedUnits.any fun a => unit ∈ convertible a then .convertible
    else .incompatible

/-- `name_norm` -/
def nameNorm (productName : String) (brand : Option String) : List Char :=
  trim (normalize u productName ++ ' ' :: normalize u (brand.getD ""))

/-- A term or its plural. -/
def forms (term : String) : List (List Char) := [term.toList, term.toList ++ ['s'], term.toList ++ ['e', 's']]

/-- The `repr` of a list of terms. -/
def shownTerms (terms : List String) : String := "[" ++ ", ".intercalate (terms.map fun t => "'" ++ t ++ "'") ++ "]"

/-- `quantize(Decimal("0.0001"))` -/
def quantize (x : ℚ) : ℚ := roundHalfEven (x * 10 ^ 4) / 10 ^ 4

/-- `classify_mapping`, once the key has a spec. -/
def classify (spec : IngredientSpec) (productName : String) (brand categoryCode netContentUnit : Option String)
    (semanticScore : Option ℚ) : MappingCandidate :=
  let nameNorm := nameNorm u productName brand
  let toks := tokens u nameNorm
  let hitExclude := spec.excludingTerms.filter fun t => t.toList ∈ toks
  let hitForbidden := spec.forbiddenForms.filter fun f => normalize u f <:+: nameNorm
  let unitCompat := unitCompatibility u spec netContentUnit
  let prepCompat := if hitForbidden = [] then "compatible" else "incompatible"
  if hitExclude ≠ [] ∨ hitForbidden ≠ [] then
    { lexicalScore := 0, categoryScore := 0, semanticScore, confidence := 0
      mappingStatus := .incompatible
      mappingMethod := "category_constrained"
      unitCompatibility := unitCompat.value
      preparationCompatibility := prepCompat
      allergenCompatibility := "compatible"
      requiredReview := false
      warnings := ["excluding term(s): " ++ shownTerms (if hitExclude = [] then hitForbidden else hitExclude)] }
  else
    let exactAlias := spec.aliases.any fun a => (3 < a.length ∨ a = spec.key) ∧ normalize u a <:+: nameNorm
    let requiredHits := spec.requiredTerms.countP fun t => (forms t).any fun w => w ∈ toks
    let lexical : ℚ := if exactAlias then 1 else requiredHits / spec.requiredTerms.length * (4 / 5)
    let aliasRules := if exactAlias then ["exact_alias"] else []
    if categoryCode.any fun code => code ≠ spec.categoryCode then
      { lexicalScore := lexical, categoryScore := 0, semanticScore, confidence := 0
        mappingStatus := .incompatible
        mappingMethod := "category_constrained"
        unitCompatibility := unitCompat.value
        preparationCompatibility := prepCompat
        allergenCompatibility := "compatible"
        requiredReview := false
        matchedRules := aliasRules
        warnings := ["category " ++ categoryCode.getD "" ++ " != " ++ spec.categoryCode] }
    else
      let categoryScore : ℚ := if categoryCode.isNone then 1 / 2 else 1
      let rules := aliasRules ++ if categoryCode.isNone then [] else ["category_match"]
      let fits := unitCompat = .compatible ∨ unitCompat = .convertible
      let allRequired := requiredHits = spec.requiredTerms.length
      let confidence := quantize (min (lexical * (3 / 5) + categoryScore * (1 / 4) + if fits then 3 / 20 else 0) 1)
      -- One required term is generic: it takes a category as well.
      let approves := (exactAlias ∧ allRequired ∧ fits) ∧ (2 ≤ spec.requiredTerms.length ∨ 1 ≤ categoryScore)
      let isCandidate := 3 / 4 ≤ confidence ∧ allRequired
      { lexicalScore := quantize lexical
        categoryScore := quantize categoryScore
        semanticScore
        confidence := if approves then max confidence (24 / 25) else confidence
        mappingStatus := if approves then .autoApproved else if isCandidate then .candidate else .other "ambiguous"
        mappingMethod := if exactAlias then "exact_alias" else "normalized_name"
        unitCompatibility := unitCompat.value
        preparationCompatibility := prepCompat
        allergenCompatibility := "compatible"
        requiredReview := ¬approves
        matchedRules := rules ++ if approves then ["deterministic_auto_approve"] else []
        warnings :=
          if approves then []
          else if isCandidate then ["generic term needs a confirmed category or manual review"]
          else if allRequired then [] else ["generic match: required terms incomplete — never auto-approved"] }

/-- `classify_mapping`, or nothing where the key has no spec. -/
def classifyMapping (ingredientKey productName : String) (brand categoryCode netContentUnit : Option String)
    (semanticScore : Option ℚ) : Option MappingCandidate :=
  (specOf ingredientKey).map fun spec => classify u spec productName brand categoryCode netContentUnit semanticScore

/-- The dictionary that a discovery asks, which never asks it about a key that has no spec. -/
def specDictionary : IngredientDictionary where
  knows key := (specOf key).isSome
  classify key product :=
    let category := normalizeProviderCategory u product.category
    (classifyMapping u key product.productName product.brand category product.netContentUnit none).getD
      { lexicalScore := 0, categoryScore := 0, confidence := 0, mappingStatus := .rejected, mappingMethod := "", requiredReview := true }

end Rules
end CestaPlan.Mapping
