import CestaPlan.Consolidation.MergePlan
import CestaPlan.Library.Absorbing
import CestaPlan.Library.Relinks
import Mathlib.Algebra.Order.Field.Rat

/-! The migration that folds the variants of an ingredient into the one that survives, and its downgrade.

    The columns that no statement names are carried along whole. A JSON snapshot of a row is the row, and quantities are
    exact. -/

namespace CestaPlan.Consolidation
open Updates Relinks Absorbing

/-! ### The tables -/

structure Ingredient (C : Type) where
  id : ℕ
  canonicalName : String
  columns : C
deriving DecidableEq

structure RecipeIngredient (C : Type) where
  id : ℕ
  recipeId : ℕ
  ingredientId : ℕ
  canonicalName : Option String
  quantity : ℚ
  columns : C
deriving DecidableEq

/-- A row of `pantry_item` or of `grocery_list_item`. -/
structure Item (C : Type) where
  id : ℕ
  ingredientId : Option ℕ
  columns : C
deriving DecidableEq

structure IngredientProductMapping (C : Type) where
  id : ℕ
  ingredientId : ℕ
  productId : ℕ
  isActive : Bool
  columns : C
deriving DecidableEq

structure ProviderIngredientMapping (C : Type) where
  id : ℕ
  ingredientId : ℕ
  providerCode : String
  externalProductId : String
  mappingVersion : String
  active : Bool
  mappingStatus : String
  columns : C
deriving DecidableEq

inductive SourceTable where
  | recipeIngredient | pantryItem | groceryListItem | ingredientProductMapping | providerIngredientMapping
deriving DecidableEq, Repr

structure MergeAudit (C : Type) where
  id : ℕ
  oldIngredientId : ℕ
  newIngredientId : ℕ
  oldCanonicalName : String
  oldIngredientSnapshot : Ingredient C

structure FkRelink where
  mergeAuditId : ℕ
  sourceTable : SourceTable
  sourceRowId : ℕ
  oldIngredientId : ℕ
  oldCanonicalName : Option String

/-- The data of a deleted row, with its `source_table`. -/
inductive RowData (C : Type) where
  | recipeIngredient (row : RecipeIngredient C)
  | pantryItem (row : Item C)
  | groceryListItem (row : Item C)
  | ingredientProductMapping (row : IngredientProductMapping C)
  | providerIngredientMapping (row : ProviderIngredientMapping C)

structure DeletedRow (C : Type) where
  mergeAuditId : ℕ
  rowData : RowData C
  mergedIntoRowId : Option ℕ

structure Db (C : Type) where
  ingredients : List (Ingredient C)
  recipeIngredients : List (RecipeIngredient C)
  pantryItems : List (Item C)
  groceryListItems : List (Item C)
  ingredientProductMappings : List (IngredientProductMapping C)
  providerIngredientMappings : List (ProviderIngredientMapping C)
  aliases : List IngredientAliasPlan
  audits : List (MergeAudit C)
  relinks : List FkRelink
  deletedRows : List (DeletedRow C)

variable {C : Type}

/-! ### The references to an ingredient -/

/-- A line of a recipe refers to its ingredient by id and by name. -/
def recipeColumn : Column (RecipeIngredient C) ℕ (ℕ × Option String) where
  id := (·.id)
  get := fun r => (r.ingredientId, r.canonicalName)
  set := fun p r => { r with ingredientId := p.1, canonicalName := p.2 }
  id_set := fun _ _ => rfl
  get_set := fun _ _ => rfl
  set_get := fun _ => rfl
  set_set := fun _ _ _ => rfl

def itemColumn : Column (Item C) ℕ (Option ℕ) where
  id := (·.id)
  get := (·.ingredientId)
  set := fun p r => { r with ingredientId := p }
  id_set := fun _ _ => rfl
  get_set := fun _ _ => rfl
  set_get := fun _ => rfl
  set_set := fun _ _ _ => rfl

def productColumn : Column (IngredientProductMapping C) ℕ ℕ where
  id := (·.id)
  get := (·.ingredientId)
  set := fun p r => { r with ingredientId := p }
  id_set := fun _ _ => rfl
  get_set := fun _ _ => rfl
  set_get := fun _ => rfl
  set_set := fun _ _ _ => rfl

def providerColumn : Column (ProviderIngredientMapping C) ℕ ℕ where
  id := (·.id)
  get := (·.ingredientId)
  set := fun p r => { r with ingredientId := p }
  id_set := fun _ _ => rfl
  get_set := fun _ _ => rfl
  set_get := fun _ => rfl
  set_set := fun _ _ _ => rfl

/-- The quantity of a line of a recipe. -/
def quantityAmount : Amount (RecipeIngredient C) ℕ ℚ where
  id := (·.id)
  get := (·.quantity)
  add := fun a r => { r with quantity := r.quantity + a }
  id_add := fun _ _ => rfl
  add_zero := fun r => by rw [add_zero]
  add_add := fun a b r => by rw [add_assoc]

/-! ### The constraints -/

/-- `ux_ing_product`. -/
def productKey (r : IngredientProductMapping C) : ℕ × ℕ := (r.ingredientId, r.productId)

/-- `ux_provider_ing_map`. -/
def providerKey (r : ProviderIngredientMapping C) : ℕ × String × String × String :=
  (r.ingredientId, r.providerCode, r.externalProductId, r.mappingVersion)

/-- `ux_provider_approved_product` is on the rows that are approved and active. -/
def ProviderIngredientMapping.isApproved (r : ProviderIngredientMapping C) : Bool :=
  r.active && (r.mappingStatus == "auto_approved" || r.mappingStatus == "manually_approved")

structure IngredientsValid (rows : List (Ingredient C)) : Prop where
  ids : (rows.map (·.id)).Nodup
  names : (rows.map (·.canonicalName)).Nodup

structure RecipesValid (ingredientIds : List ℕ) (rows : List (RecipeIngredient C)) : Prop where
  ids : (rows.map (·.id)).Nodup
  named : ∀ r ∈ rows, r.canonicalName ≠ none
  refers : ∀ r ∈ rows, r.ingredientId ∈ ingredientIds

structure ItemsValid (ingredientIds : List ℕ) (rows : List (Item C)) : Prop where
  ids : (rows.map (·.id)).Nodup
  refers : ∀ r ∈ rows, ∀ i ∈ r.ingredientId, i ∈ ingredientIds

structure ProductsValid (ingredientIds : List ℕ) (rows : List (IngredientProductMapping C)) : Prop where
  ids : (rows.map (·.id)).Nodup
  refers : ∀ r ∈ rows, r.ingredientId ∈ ingredientIds
  keys : (rows.map productKey).Nodup

structure ProvidersValid (ingredientIds : List ℕ) (rows : List (ProviderIngredientMapping C)) : Prop where
  ids : (rows.map (·.id)).Nodup
  refers : ∀ r ∈ rows, r.ingredientId ∈ ingredientIds
  keys : (rows.map providerKey).Nodup
  approved : ((rows.filter (·.isApproved)).map fun r => (r.providerCode, r.externalProductId)).Nodup

/-- The primary keys, the unique indexes, the foreign keys to `ingredient` and `NOT NULL`. -/
structure Db.Valid (db : Db C) : Prop where
  ingredients : IngredientsValid db.ingredients
  recipes : RecipesValid (db.ingredients.map (·.id)) db.recipeIngredients
  pantry : ItemsValid (db.ingredients.map (·.id)) db.pantryItems
  grocery : ItemsValid (db.ingredients.map (·.id)) db.groceryListItems
  products : ProductsValid (db.ingredients.map (·.id)) db.ingredientProductMappings
  providers : ProvidersValid (db.ingredients.map (·.id)) db.providerIngredientMappings

instance (rows : List (Ingredient C)) : Decidable (IngredientsValid rows) :=
  decidable_of_iff ((rows.map (·.id)).Nodup ∧ (rows.map (·.canonicalName)).Nodup)
    ⟨fun h => ⟨h.1, h.2⟩, fun h => ⟨h.ids, h.names⟩⟩

instance (is : List ℕ) (rows : List (RecipeIngredient C)) : Decidable (RecipesValid is rows) :=
  decidable_of_iff ((rows.map (·.id)).Nodup ∧ (∀ r ∈ rows, r.canonicalName ≠ none) ∧ ∀ r ∈ rows, r.ingredientId ∈ is)
    ⟨fun h => ⟨h.1, h.2.1, h.2.2⟩, fun h => ⟨h.ids, h.named, h.refers⟩⟩

instance (is : List ℕ) (rows : List (Item C)) : Decidable (ItemsValid is rows) :=
  decidable_of_iff ((rows.map (·.id)).Nodup ∧ ∀ r ∈ rows, ∀ i ∈ r.ingredientId, i ∈ is)
    ⟨fun h => ⟨h.1, h.2⟩, fun h => ⟨h.ids, h.refers⟩⟩

instance (is : List ℕ) (rows : List (IngredientProductMapping C)) : Decidable (ProductsValid is rows) :=
  decidable_of_iff ((rows.map (·.id)).Nodup ∧ (∀ r ∈ rows, r.ingredientId ∈ is) ∧ (rows.map productKey).Nodup)
    ⟨fun h => ⟨h.1, h.2.1, h.2.2⟩, fun h => ⟨h.ids, h.refers, h.keys⟩⟩

instance (is : List ℕ) (rows : List (ProviderIngredientMapping C)) : Decidable (ProvidersValid is rows) :=
  decidable_of_iff ((rows.map (·.id)).Nodup ∧ (∀ r ∈ rows, r.ingredientId ∈ is) ∧ (rows.map providerKey).Nodup ∧
      ((rows.filter (·.isApproved)).map fun r => (r.providerCode, r.externalProductId)).Nodup)
    ⟨fun h => ⟨h.1, h.2.1, h.2.2.1, h.2.2.2⟩, fun h => ⟨h.ids, h.refers, h.keys, h.approved⟩⟩

instance (db : Db C) : Decidable db.Valid :=
  decidable_of_iff (IngredientsValid db.ingredients ∧ RecipesValid (db.ingredients.map (·.id)) db.recipeIngredients ∧
      ItemsValid (db.ingredients.map (·.id)) db.pantryItems ∧ ItemsValid (db.ingredients.map (·.id)) db.groceryListItems ∧
      ProductsValid (db.ingredients.map (·.id)) db.ingredientProductMappings ∧
      ProvidersValid (db.ingredients.map (·.id)) db.providerIngredientMappings)
    ⟨fun h => ⟨h.1, h.2.1, h.2.2.1, h.2.2.2.1, h.2.2.2.2.1, h.2.2.2.2.2⟩,
      fun h => ⟨h.ingredients, h.recipes, h.pantry, h.grocery, h.products, h.providers⟩⟩

/-! ### Statements -/

inductive MigrationError where
  | noResultFound
  | integrityError
deriving DecidableEq, Repr

abbrev Statement (C : Type) := Db C → Except MigrationError (Db C)

/-- A statement fails where its result breaks a constraint. -/
def execute (db : Db C) (statement : Statement C) : Except MigrationError (Db C) := do
  let db ← statement db
  if db.Valid then .ok db else .error .integrityError

/-- A statement that cannot fail by itself. -/
def effect (f : Db C → Db C) : Statement C := fun db => .ok (f db)

def run (statements : List (Statement C)) (db : Db C) : Except MigrationError (Db C) := statements.foldlM execute db

/-! ### The upgrade -/

/-- `RETURNING id` of the audit that was written last. -/
def Db.auditId (db : Db C) : ℕ := db.audits.length

def recordAudit (merge : IngredientMerge) : Statement C := fun db =>
  match row? (·.id) db.ingredients merge.oldId with
  | none => .error .noResultFound
  | some snapshot => .ok
    { db with
      audits := db.audits ++ [{
        id := db.auditId + 1, oldIngredientId := merge.oldId, newIngredientId := merge.newId,
        oldCanonicalName := merge.oldCanonicalName, oldIngredientSnapshot := snapshot }] }

/-- The relinks of rows of one table that are pointed elsewhere, with the name that each of them had, if it is kept. -/
def recordRelinks (db : Db C) (merge : IngredientMerge) (table : SourceTable) (rows : List (ℕ × Option String)) :
    List FkRelink :=
  db.relinks ++ rows.map fun row =>
    { mergeAuditId := db.auditId, sourceTable := table, sourceRowId := row.1, oldIngredientId := merge.oldId,
      oldCanonicalName := row.2 }

/-- `_relink_simple` on `recipe_ingredient`. -/
def relinkRecipes (merge : IngredientMerge) (db : Db C) : Db C :=
  let hit := fun p : ℕ × Option String => p.1 == merge.oldId
  { db with
    recipeIngredients := recipeColumn.point hit (merge.newId, some merge.newCanonicalName) db.recipeIngredients
    relinks := recordRelinks db merge .recipeIngredient
      ((recipeColumn.links hit db.recipeIngredients).map fun link => (link.1, link.2.2)) }

/-- `_relink_simple` on `pantry_item`. -/
def relinkPantry (merge : IngredientMerge) (db : Db C) : Db C :=
  let hit := fun p : Option ℕ => p == some merge.oldId
  { db with
    pantryItems := itemColumn.point hit (some merge.newId) db.pantryItems
    relinks := recordRelinks db merge .pantryItem ((itemColumn.links hit db.pantryItems).map fun link => (link.1, none)) }

/-- `_relink_simple` on `grocery_list_item`. -/
def relinkGrocery (merge : IngredientMerge) (db : Db C) : Db C :=
  let hit := fun p : Option ℕ => p == some merge.oldId
  { db with
    groceryListItems := itemColumn.point hit (some merge.newId) db.groceryListItems
    relinks := recordRelinks db merge .groceryListItem
      ((itemColumn.links hit db.groceryListItems).map fun link => (link.1, none)) }

/-- `_reconcile_mapping` snapshots and deletes the rows that another row collides with once they are pointed elsewhere. -/
def collidingProducts (merge : IngredientMerge) (rows : List (IngredientProductMapping C)) :
    List (IngredientProductMapping C) :=
  rows.filter fun o => o.ingredientId == merge.oldId &&
    rows.any fun n => n.ingredientId == merge.newId && n.productId == o.productId

def dropProducts (merge : IngredientMerge) (db : Db C) : Db C :=
  let colliding := collidingProducts merge db.ingredientProductMappings
  { db with
    ingredientProductMappings := db.ingredientProductMappings.filter (·.id ∉ colliding.map (·.id))
    deletedRows := db.deletedRows ++ colliding.map fun o =>
      { mergeAuditId := db.auditId, rowData := .ingredientProductMapping o, mergedIntoRowId := none } }

/-- `_reconcile_mapping` then relinks the rest. -/
def relinkProducts (merge : IngredientMerge) (db : Db C) : Db C :=
  let hit := fun p : ℕ => p == merge.oldId
  { db with
    ingredientProductMappings := productColumn.point hit merge.newId db.ingredientProductMappings
    relinks := recordRelinks db merge .ingredientProductMapping
      ((productColumn.links hit db.ingredientProductMappings).map fun link => (link.1, none)) }

def collidingProviders (merge : IngredientMerge) (rows : List (ProviderIngredientMapping C)) :
    List (ProviderIngredientMapping C) :=
  rows.filter fun o => o.ingredientId == merge.oldId &&
    rows.any fun n => n.ingredientId == merge.newId && n.providerCode == o.providerCode &&
      n.externalProductId == o.externalProductId && n.mappingVersion == o.mappingVersion

def dropProviders (merge : IngredientMerge) (db : Db C) : Db C :=
  let colliding := collidingProviders merge db.providerIngredientMappings
  { db with
    providerIngredientMappings := db.providerIngredientMappings.filter (·.id ∉ colliding.map (·.id))
    deletedRows := db.deletedRows ++ colliding.map fun o =>
      { mergeAuditId := db.auditId, rowData := .providerIngredientMapping o, mergedIntoRowId := none } }

def relinkProviders (merge : IngredientMerge) (db : Db C) : Db C :=
  let hit := fun p : ℕ => p == merge.oldId
  { db with
    providerIngredientMappings := providerColumn.point hit merge.newId db.providerIngredientMappings
    relinks := recordRelinks db merge .providerIngredientMapping
      ((providerColumn.links hit db.providerIngredientMappings).map fun link => (link.1, none)) }

def deleteIngredient (merge : IngredientMerge) (db : Db C) : Db C :=
  { db with ingredients := db.ingredients.filter (·.id ≠ merge.oldId) }

/-- One fold of the plan. -/
def foldStatements (merge : IngredientMerge) : List (Statement C) :=
  [recordAudit merge, effect (relinkRecipes merge), effect (relinkPantry merge), effect (relinkGrocery merge),
    effect (dropProducts merge), effect (relinkProducts merge), effect (dropProviders merge),
    effect (relinkProviders merge), effect (deleteIngredient merge)]

/-- `audit_id_by_new[ingredient_id]`: the first audit of the survivor. -/
def auditIdByNew (db : Db C) (ingredientId : ℕ) : ℕ :=
  ((db.audits.find? (·.newIngredientId = ingredientId)).map (·.id)).getD 0

/-- A line that a fold has made a second line of its ingredient goes into the first one. -/
def mergeLine (ingredientId kept dupId : ℕ) : Statement C := fun db =>
  match row? (·.id) db.recipeIngredients dupId with
  | none => .error .noResultFound
  | some row => .ok
    { db with
      recipeIngredients := quantityAmount.absorb kept row db.recipeIngredients
      deletedRows := db.deletedRows ++ [{
        mergeAuditId := auditIdByNew db ingredientId, rowData := .recipeIngredient row, mergedIntoRowId := some kept }] }

/-- The ids of the lines of each recipe with each survivor, in order. -/
def lineGroups (db : Db C) : List ((ℕ × ℕ) × List ℕ) :=
  let lines := db.recipeIngredients.filter (·.ingredientId ∈ db.audits.map (·.newIngredientId))
  (Buckets.buckets (fun r => (r.recipeId, r.ingredientId)) (·.id) lines).entries.map fun group =>
    (group.1, group.2.insertionSort (· ≤ ·))

/-- `_dedup_recipe_ingredients` merges the groups that a relinked line is in. -/
def dedupStatements (db : Db C) : List (Statement C) :=
  let repointed := (db.relinks.filter (·.sourceTable = .recipeIngredient)).map (·.sourceRowId)
  (lineGroups db).flatMap fun group =>
    match group.2 with
    | kept :: dups => if (kept :: dups).any (· ∈ repointed) then dups.map (mergeLine group.1.2 kept) else []
    | [] => []

/-- `INSERT … ON CONFLICT (alias_text) DO NOTHING`. -/
def recordAlias (aliases : List IngredientAliasPlan) (a : IngredientAliasPlan) : List IngredientAliasPlan :=
  if a.aliasText ∈ aliases.map (·.aliasText) then aliases else aliases ++ [a]

def activeMappingIds (db : Db C) : List ℕ :=
  (db.ingredientProductMappings.filter (·.isActive)).map (·.ingredientId) ++
    (db.providerIngredientMappings.filter (·.active)).map (·.ingredientId)

def planOf (dictionary : IngredientDictionary) (db : Db C) : ConsolidationPlan :=
  buildConsolidationPlan dictionary (db.ingredients.map fun i => (i.id, i.canonicalName)) (activeMappingIds db)

def applyConsolidation (dictionary : IngredientDictionary) (db : Db C) : Except MigrationError (Db C) := do
  let plan := planOf dictionary db
  let db := { db with aliases := plan.aliases.foldl recordAlias db.aliases }
  let db ← run (plan.merges.flatMap foldStatements) db
  run (dedupStatements db) db

/-! ### The downgrade -/

/-- `INSERT … ON CONFLICT (id) DO NOTHING`. -/
def insertRow {α : Type} (id : α → ℕ) (rows : List α) (row : α) : List α :=
  if id row ∈ rows.map id then rows else rows ++ [row]

def recreateIngredient (audit : MergeAudit C) (db : Db C) : Db C :=
  { db with ingredients := insertRow (·.id) db.ingredients audit.oldIngredientSnapshot }

/-- `_restore_deleted_row`. -/
def restoreDeletedRow (deleted : DeletedRow C) (db : Db C) : Db C :=
  match deleted.rowData with
  | .recipeIngredient row => { db with recipeIngredients := insertRow (·.id) db.recipeIngredients row }
  | .pantryItem row => { db with pantryItems := insertRow (·.id) db.pantryItems row }
  | .groceryListItem row => { db with groceryListItems := insertRow (·.id) db.groceryListItems row }
  | .ingredientProductMapping row =>
    { db with ingredientProductMappings := insertRow (·.id) db.ingredientProductMappings row }
  | .providerIngredientMapping row =>
    { db with providerIngredientMappings := insertRow (·.id) db.providerIngredientMappings row }

def DeletedRow.isLine (deleted : DeletedRow C) : Bool :=
  match deleted.rowData with
  | .recipeIngredient _ => true
  | _ => false

/-- The deleted lines of recipes, each with the line that has absorbed it. -/
def absorbedLines (deletedRows : List (DeletedRow C)) : List (RecipeIngredient C × ℕ) :=
  deletedRows.filterMap fun deleted =>
    match deleted.rowData, deleted.mergedIntoRowId with
    | .recipeIngredient row, some kept => some (row, kept)
    | _, _ => none

def revertQuantities (db : Db C) : Db C :=
  { db with recipeIngredients := quantityAmount.giveBack (absorbedLines db.deletedRows) db.recipeIngredients }

def revertRelink (relink : FkRelink) (db : Db C) : Db C :=
  match relink.sourceTable with
  | .recipeIngredient =>
    { db with
      recipeIngredients := recipeColumn.restoreLink db.recipeIngredients
        (relink.sourceRowId, relink.oldIngredientId, relink.oldCanonicalName) }
  | .pantryItem =>
    { db with pantryItems := itemColumn.restoreLink db.pantryItems (relink.sourceRowId, some relink.oldIngredientId) }
  | .groceryListItem =>
    { db with
      groceryListItems := itemColumn.restoreLink db.groceryListItems (relink.sourceRowId, some relink.oldIngredientId) }
  | .ingredientProductMapping =>
    { db with
      ingredientProductMappings := productColumn.restoreLink db.ingredientProductMappings
        (relink.sourceRowId, relink.oldIngredientId) }
  | .providerIngredientMapping =>
    { db with
      providerIngredientMappings := providerColumn.restoreLink db.providerIngredientMappings
        (relink.sourceRowId, relink.oldIngredientId) }

def revertConsolidation (db : Db C) : Except MigrationError (Db C) :=
  run (db.audits.map (fun audit => effect (recreateIngredient audit)) ++
    ((db.deletedRows.filter (!·.isLine)).map (fun deleted => effect (restoreDeletedRow deleted)) ++
      (effect revertQuantities :: ((db.deletedRows.filter (·.isLine)).map (fun deleted => effect (restoreDeletedRow deleted)) ++
        db.relinks.map fun relink => effect (revertRelink relink))))) db

/-- The six tables have the same rows. -/
structure SameTables (db db' : Db C) : Prop where
  ingredients : db'.ingredients.Perm db.ingredients
  recipeIngredients : db'.recipeIngredients.Perm db.recipeIngredients
  pantryItems : db'.pantryItems.Perm db.pantryItems
  groceryListItems : db'.groceryListItems.Perm db.groceryListItems
  ingredientProductMappings : db'.ingredientProductMappings.Perm db.ingredientProductMappings
  providerIngredientMappings : db'.providerIngredientMappings.Perm db.providerIngredientMappings

end CestaPlan.Consolidation
