import CestaPlan.Consolidation.Migration

/-! What the folds of the upgrade do to the tables and to the logs. -/

namespace CestaPlan.Consolidation
open Updates Relinks

variable {C : Type}

/-! ### Runs of statements -/

section Run
variable {db db' : Db C} {statement : Statement C} {statements statements' : List (Statement C)}

theorem run_cons (h : statement db = .ok db') (hvalid : db'.Valid) : run (statement :: statements) db = run statements db' := by
  have hexecute : execute db statement = .ok db' := by
    unfold execute
    rw [h]
    exact if_pos hvalid
  unfold run
  rw [List.foldlM_cons, hexecute]
  rfl

theorem run_effect {f : Db C → Db C} (hvalid : (f db).Valid) : run (effect f :: statements) db = run statements (f db) :=
  run_cons rfl hvalid

theorem run_append (h : run statements db = .ok db') : run (statements ++ statements') db = run statements' db' := by
  unfold run at h ⊢
  rw [List.foldlM_append, h]
  rfl

end Run

/-! ### The constraints of the tables -/

section Valid
variable {is is' : List ℕ} {old new : ℕ}

section Recipes
variable {rows rows' : List (RecipeIngredient C)} {hit : ℕ × Option String → Bool}

theorem RecipesValid.mono (h : RecipesValid is rows) (his : ∀ r ∈ rows, r.ingredientId ∈ is → r.ingredientId ∈ is') :
    RecipesValid is' rows := ⟨h.ids, h.named, fun r hr => his r hr (h.refers r hr)⟩

theorem RecipesValid.point {name : String} (h : RecipesValid is rows) (hnew : new ∈ is) :
    RecipesValid is (recipeColumn.point hit (new, some name) rows) where
  ids := by
    have hids : (recipeColumn.point hit (new, some name) rows).map (·.id) = rows.map (·.id) :=
      Column.map_id_point (c := recipeColumn)
    rw [hids]
    exact h.ids
  named := fun r hr => by
    rcases Column.get_mem_point hr with hget | ⟨-, hmem⟩
    · have hname : r.canonicalName = some name := congrArg Prod.snd hget
      simp [hname]
    · exact h.named r hmem
  refers := fun r hr => by
    rcases Column.get_mem_point hr with hget | ⟨-, hmem⟩
    · have hid : r.ingredientId = new := congrArg Prod.fst hget
      rwa [hid]
    · exact h.refers r hmem

end Recipes

section Items
variable {rows : List (Item C)} {hit : Option ℕ → Bool}

theorem ItemsValid.mono (h : ItemsValid is rows) (his : ∀ r ∈ rows, ∀ i ∈ r.ingredientId, i ∈ is → i ∈ is') :
    ItemsValid is' rows := ⟨h.ids, fun r hr i hi => his r hr i hi (h.refers r hr i hi)⟩

theorem ItemsValid.point (h : ItemsValid is rows) (hnew : new ∈ is) :
    ItemsValid is (itemColumn.point hit (some new) rows) where
  ids := by
    have hids : (itemColumn.point hit (some new) rows).map (·.id) = rows.map (·.id) := Column.map_id_point (c := itemColumn)
    rw [hids]
    exact h.ids
  refers := fun r hr i hi => by
    rcases Column.get_mem_point hr with hget | ⟨-, hmem⟩
    · have hid : r.ingredientId = some new := hget
      rw [hid] at hi
      exact Option.mem_some.mp hi ▸ hnew
    · exact h.refers r hmem i hi

end Items

section Products
variable {rows rows' : List (IngredientProductMapping C)} {merge : IngredientMerge}

theorem ProductsValid.mono (h : ProductsValid is rows) (his : ∀ r ∈ rows, r.ingredientId ∈ is → r.ingredientId ∈ is') :
    ProductsValid is' rows := ⟨h.ids, fun r hr => his r hr (h.refers r hr), h.keys⟩

theorem ProductsValid.sublist (h : ProductsValid is rows) (hsub : rows'.Sublist rows) : ProductsValid is rows' :=
  ⟨h.ids.sublist (hsub.map _), fun r hr => h.refers r (hsub.subset hr), h.keys.sublist (hsub.map _)⟩

theorem ProductsValid.point {hit : ℕ → Bool} (h : ProductsValid is rows) (hnew : new ∈ is)
    (hhit : ∀ x ∈ rows, ∀ y ∈ rows, hit x.ingredientId = true → hit y.ingredientId = true → x.ingredientId = y.ingredientId)
    (hfree : ∀ x ∈ rows, ∀ y ∈ rows, hit x.ingredientId = true → y.ingredientId = new → x.productId ≠ y.productId) :
    ProductsValid is (productColumn.point hit new rows) where
  ids := by
    have hids : (productColumn.point hit new rows).map (·.id) = rows.map (·.id) :=
      Column.map_id_point (c := productColumn)
    rw [hids]
    exact h.ids
  refers := fun r hr => by
    rcases Column.get_mem_point hr with hget | ⟨-, hmem⟩
    · have hid : r.ingredientId = new := hget
      rwa [hid]
    · exact h.refers r hmem
  keys := Column.nodup_point (c := productColumn) (fun r => r.productId) h.keys (fun _ _ => rfl) hhit hfree

theorem collidingProducts_free {x y : IngredientProductMapping C}
    (hx : x ∈ rows.filter (·.id ∉ (collidingProducts merge rows).map (·.id)))
    (hy : y ∈ rows.filter (·.id ∉ (collidingProducts merge rows).map (·.id))) (hhit : (x.ingredientId == merge.oldId) = true)
    (hnew : y.ingredientId = merge.newId) : x.productId ≠ y.productId := by
  intro heq
  obtain ⟨hx, hnot⟩ := List.mem_filter.mp hx
  refine (of_decide_eq_true hnot) (List.mem_map_of_mem (List.mem_filter.mpr ⟨hx, ?_⟩))
  rw [hhit, Bool.true_and, List.any_eq_true]
  exact ⟨y, List.mem_of_mem_filter hy, by simp [hnew, heq]⟩

end Products

section Providers
variable {rows rows' : List (ProviderIngredientMapping C)} {merge : IngredientMerge}

theorem ProvidersValid.mono (h : ProvidersValid is rows) (his : ∀ r ∈ rows, r.ingredientId ∈ is → r.ingredientId ∈ is') :
    ProvidersValid is' rows := ⟨h.ids, fun r hr => his r hr (h.refers r hr), h.keys, h.approved⟩

theorem ProvidersValid.sublist (h : ProvidersValid is rows) (hsub : rows'.Sublist rows) : ProvidersValid is rows' :=
  ⟨h.ids.sublist (hsub.map _), fun r hr => h.refers r (hsub.subset hr), h.keys.sublist (hsub.map _),
    h.approved.sublist ((hsub.filter _).map _)⟩

theorem ProvidersValid.point {hit : ℕ → Bool} (h : ProvidersValid is rows) (hnew : new ∈ is)
    (hhit : ∀ x ∈ rows, ∀ y ∈ rows, hit x.ingredientId = true → hit y.ingredientId = true → x.ingredientId = y.ingredientId)
    (hfree : ∀ x ∈ rows, ∀ y ∈ rows, hit x.ingredientId = true → y.ingredientId = new →
      (x.providerCode, x.externalProductId, x.mappingVersion) ≠ (y.providerCode, y.externalProductId, y.mappingVersion)) :
    ProvidersValid is (providerColumn.point hit new rows) where
  ids := by
    have hids : (providerColumn.point hit new rows).map (·.id) = rows.map (·.id) :=
      Column.map_id_point (c := providerColumn)
    rw [hids]
    exact h.ids
  refers := fun r hr => by
    rcases Column.get_mem_point hr with hget | ⟨-, hmem⟩
    · have hid : r.ingredientId = new := hget
      rwa [hid]
    · exact h.refers r hmem
  keys := Column.nodup_point (c := providerColumn)
    (fun r => (r.providerCode, r.externalProductId, r.mappingVersion)) h.keys (fun _ _ => rfl) hhit hfree
  approved := by
    have hsame : ∀ r : ProviderIngredientMapping C, (providerColumn.pointRow hit new r).isApproved = r.isApproved ∧
        (providerColumn.pointRow hit new r).providerCode = r.providerCode ∧
        (providerColumn.pointRow hit new r).externalProductId = r.externalProductId := fun r => by
      unfold Column.pointRow
      split <;> exact ⟨rfl, rfl, rfl⟩
    rw [Column.point, List.filter_map, List.map_map]
    have hkeys : ((fun r => (r.providerCode, r.externalProductId)) ∘ providerColumn.pointRow hit new :
        ProviderIngredientMapping C → String × String) = fun r => (r.providerCode, r.externalProductId) :=
      funext fun r => Prod.ext (hsame r).2.1 (hsame r).2.2
    have hfilter : ((·.isApproved) ∘ providerColumn.pointRow hit new : ProviderIngredientMapping C → Bool) =
        (·.isApproved) := funext fun r => (hsame r).1
    rw [hkeys, hfilter]
    exact h.approved

theorem collidingProviders_free {x y : ProviderIngredientMapping C}
    (hx : x ∈ rows.filter (·.id ∉ (collidingProviders merge rows).map (·.id)))
    (hy : y ∈ rows.filter (·.id ∉ (collidingProviders merge rows).map (·.id)))
    (hhit : (x.ingredientId == merge.oldId) = true) (hnew : y.ingredientId = merge.newId) :
    (x.providerCode, x.externalProductId, x.mappingVersion) ≠ (y.providerCode, y.externalProductId, y.mappingVersion) := by
  intro heq
  obtain ⟨hx, hnot⟩ := List.mem_filter.mp hx
  refine (of_decide_eq_true hnot) (List.mem_map_of_mem (List.mem_filter.mpr ⟨hx, ?_⟩))
  rw [hhit, Bool.true_and, List.any_eq_true]
  obtain ⟨hcode, hrest⟩ := Prod.mk.inj heq
  obtain ⟨hproduct, hversion⟩ := Prod.mk.inj hrest
  exact ⟨y, List.mem_of_mem_filter hy, by simp [hnew, hcode, hproduct, hversion]⟩

end Providers

end Valid

/-! ### The logs -/

/-- The relinks of one table, with the part of the row that each of them puts back. -/
def linksOf {π : Type} (table : SourceTable) (part : FkRelink → π) (relinks : List FkRelink) : List (ℕ × π) :=
  (relinks.filter (·.sourceTable = table)).map fun r => (r.sourceRowId, part r)

def recipeLinks (relinks : List FkRelink) : List (ℕ × ℕ × Option String) :=
  linksOf .recipeIngredient (fun r => (r.oldIngredientId, r.oldCanonicalName)) relinks

def itemLinks (table : SourceTable) (relinks : List FkRelink) : List (ℕ × Option ℕ) :=
  linksOf table (fun r => some r.oldIngredientId) relinks

def mappingLinks (table : SourceTable) (relinks : List FkRelink) : List (ℕ × ℕ) :=
  linksOf table (·.oldIngredientId) relinks

def droppedProducts (deletedRows : List (DeletedRow C)) : List (IngredientProductMapping C) :=
  deletedRows.filterMap fun deleted =>
    match deleted.rowData with
    | .ingredientProductMapping row => some row
    | _ => none

def droppedProviders (deletedRows : List (DeletedRow C)) : List (ProviderIngredientMapping C) :=
  deletedRows.filterMap fun deleted =>
    match deleted.rowData with
    | .providerIngredientMapping row => some row
    | _ => none

/-- A row of a mapping. -/
def DeletedRow.isMapping (deleted : DeletedRow C) : Bool :=
  match deleted.rowData with
  | .ingredientProductMapping _ => true
  | .providerIngredientMapping _ => true
  | _ => false

section Logs
variable {π : Type} {db : Db C} {merge : IngredientMerge} {table table' : SourceTable} {part : FkRelink → π}
  {rows : List (ℕ × Option String)}

theorem linksOf_recordRelinks : linksOf table part (recordRelinks db merge table rows) =
    linksOf table part db.relinks ++ rows.map fun row => (row.1, part ⟨db.auditId, table, row.1, merge.oldId, row.2⟩) := by
  simp [linksOf, recordRelinks, List.filter_map, Function.comp_def]

theorem linksOf_recordRelinks_of_ne (h : table' ≠ table) :
    linksOf table part (recordRelinks db merge table' rows) = linksOf table part db.relinks := by
  simp [linksOf, recordRelinks, List.filter_map, Function.comp_def, h]

theorem recipeLinks_record (rows : List (RecipeIngredient C)) :
    recipeLinks (recordRelinks db merge .recipeIngredient
      ((recipeColumn.links (fun p => p.1 == merge.oldId) rows).map fun link => (link.1, link.2.2))) =
    recipeLinks db.relinks ++ recipeColumn.links (fun p => p.1 == merge.oldId) rows := by
  rw [recipeLinks, linksOf_recordRelinks, List.map_map]
  refine congrArg _ ((List.map_congr_left fun link hlink => ?_).trans (List.map_id' _))
  obtain ⟨r, hr, rfl⟩ := List.mem_map.mp hlink
  have hhit : r.ingredientId = merge.oldId := by simpa [recipeColumn] using (List.mem_filter.mp hr).2
  simp [recipeColumn, hhit]

theorem itemLinks_record (rows : List (Item C)) :
    itemLinks table (recordRelinks db merge table
      ((itemColumn.links (fun p => p == some merge.oldId) rows).map fun link => (link.1, none))) =
    itemLinks table db.relinks ++ itemColumn.links (fun p => p == some merge.oldId) rows := by
  rw [itemLinks, linksOf_recordRelinks, List.map_map]
  refine congrArg _ ((List.map_congr_left fun link hlink => ?_).trans (List.map_id' _))
  obtain ⟨r, hr, rfl⟩ := List.mem_map.mp hlink
  have hhit : r.ingredientId = some merge.oldId := by simpa [itemColumn] using (List.mem_filter.mp hr).2
  simp [itemColumn, hhit]

theorem mappingLinks_record {α : Type} (c : Column α ℕ ℕ) (rows : List α) :
    mappingLinks table (recordRelinks db merge table
      ((c.links (fun p => p == merge.oldId) rows).map fun link => (link.1, none))) =
    mappingLinks table db.relinks ++ c.links (fun p => p == merge.oldId) rows := by
  rw [mappingLinks, linksOf_recordRelinks, List.map_map]
  refine congrArg _ ((List.map_congr_left fun link hlink => ?_).trans (List.map_id' _))
  obtain ⟨r, hr, rfl⟩ := List.mem_map.mp hlink
  have hhit : c.get r = merge.oldId := by simpa using (List.mem_filter.mp hr).2
  simp [hhit]

end Logs

/-! ### The folds -/

/-- A reference that no fold is to move. -/
def Stays (olds : List ℕ) (i : ℕ) : Prop := i ∉ olds

/-- How the tables and the logs stand to the tables at the start. -/
structure Folded (olds : List ℕ) (start db : Db C) : Prop where
  recipes : recipeColumn.Linked (fun p => Stays olds p.1) start.recipeIngredients db.recipeIngredients
    (recipeLinks db.relinks)
  pantry : itemColumn.Linked (fun p => ∀ i ∈ p, Stays olds i) start.pantryItems db.pantryItems
    (itemLinks .pantryItem db.relinks)
  grocery : itemColumn.Linked (fun p => ∀ i ∈ p, Stays olds i) start.groceryListItems db.groceryListItems
    (itemLinks .groceryListItem db.relinks)
  products : ∃ kept, productColumn.Linked (Stays olds) kept db.ingredientProductMappings
      (mappingLinks .ingredientProductMapping db.relinks) ∧
    (kept ++ droppedProducts db.deletedRows).Perm start.ingredientProductMappings
  providers : ∃ kept, providerColumn.Linked (Stays olds) kept db.providerIngredientMappings
      (mappingLinks .providerIngredientMapping db.relinks) ∧
    (kept ++ droppedProviders db.deletedRows).Perm start.providerIngredientMappings
  moved : (∀ r ∈ droppedProducts db.deletedRows, ¬Stays olds r.ingredientId) ∧
    ∀ r ∈ droppedProviders db.deletedRows, ¬Stays olds r.ingredientId
  mappings : ∀ deleted ∈ db.deletedRows, deleted.isMapping = true

section Steps
variable {olds : List ℕ} {start db : Db C} {merge : IngredientMerge}

theorem not_stays_of_beq {i : ℕ} (hold : merge.oldId ∈ olds) (h : (i == merge.oldId) = true) : ¬Stays olds i := fun hnot =>
  hnot (beq_iff_eq.mp h ▸ hold)

theorem not_stays_of_beq_some {p : Option ℕ} (hold : merge.oldId ∈ olds) (h : (p == some merge.oldId) = true) :
    ¬∀ i ∈ p, Stays olds i := fun hnot => hnot merge.oldId (beq_iff_eq.mp h) hold

theorem Folded.relinkRecipes (h : Folded olds start db) (hold : merge.oldId ∈ olds) (hnew : Stays olds merge.newId) :
    Folded olds start (relinkRecipes merge db) where
  recipes := (h.recipes.point (fun _ hhit => not_stays_of_beq hold hhit) hnew).congr (recipeLinks_record _)
  pantry := h.pantry.congr (linksOf_recordRelinks_of_ne (by decide))
  grocery := h.grocery.congr (linksOf_recordRelinks_of_ne (by decide))
  products := h.products.imp fun _ hkept => ⟨hkept.1.congr (linksOf_recordRelinks_of_ne (by decide)), hkept.2⟩
  providers := h.providers.imp fun _ hkept => ⟨hkept.1.congr (linksOf_recordRelinks_of_ne (by decide)), hkept.2⟩
  moved := h.moved
  mappings := h.mappings

theorem Folded.relinkPantry (h : Folded olds start db) (hold : merge.oldId ∈ olds) (hnew : Stays olds merge.newId) :
    Folded olds start (relinkPantry merge db) where
  recipes := h.recipes.congr (linksOf_recordRelinks_of_ne (by decide))
  pantry := (h.pantry.point (fun _ hhit => not_stays_of_beq_some hold hhit)
    fun _ hi => Option.mem_some.mp hi ▸ hnew).congr (itemLinks_record _)
  grocery := h.grocery.congr (linksOf_recordRelinks_of_ne (by decide))
  products := h.products.imp fun _ hkept => ⟨hkept.1.congr (linksOf_recordRelinks_of_ne (by decide)), hkept.2⟩
  providers := h.providers.imp fun _ hkept => ⟨hkept.1.congr (linksOf_recordRelinks_of_ne (by decide)), hkept.2⟩
  moved := h.moved
  mappings := h.mappings

theorem Folded.relinkGrocery (h : Folded olds start db) (hold : merge.oldId ∈ olds) (hnew : Stays olds merge.newId) :
    Folded olds start (relinkGrocery merge db) where
  recipes := h.recipes.congr (linksOf_recordRelinks_of_ne (by decide))
  pantry := h.pantry.congr (linksOf_recordRelinks_of_ne (by decide))
  grocery := (h.grocery.point (fun _ hhit => not_stays_of_beq_some hold hhit)
    fun _ hi => Option.mem_some.mp hi ▸ hnew).congr (itemLinks_record _)
  products := h.products.imp fun _ hkept => ⟨hkept.1.congr (linksOf_recordRelinks_of_ne (by decide)), hkept.2⟩
  providers := h.providers.imp fun _ hkept => ⟨hkept.1.congr (linksOf_recordRelinks_of_ne (by decide)), hkept.2⟩
  moved := h.moved
  mappings := h.mappings

theorem Folded.relinkProducts (h : Folded olds start db) (hold : merge.oldId ∈ olds) (hnew : Stays olds merge.newId) :
    Folded olds start (relinkProducts merge db) where
  recipes := h.recipes.congr (linksOf_recordRelinks_of_ne (by decide))
  pantry := h.pantry.congr (linksOf_recordRelinks_of_ne (by decide))
  grocery := h.grocery.congr (linksOf_recordRelinks_of_ne (by decide))
  products := h.products.imp fun _ hkept =>
    ⟨(hkept.1.point (fun _ hhit => not_stays_of_beq hold hhit) hnew).congr (mappingLinks_record _ _), hkept.2⟩
  providers := h.providers.imp fun _ hkept => ⟨hkept.1.congr (linksOf_recordRelinks_of_ne (by decide)), hkept.2⟩
  moved := h.moved
  mappings := h.mappings

theorem Folded.relinkProviders (h : Folded olds start db) (hold : merge.oldId ∈ olds) (hnew : Stays olds merge.newId) :
    Folded olds start (relinkProviders merge db) where
  recipes := h.recipes.congr (linksOf_recordRelinks_of_ne (by decide))
  pantry := h.pantry.congr (linksOf_recordRelinks_of_ne (by decide))
  grocery := h.grocery.congr (linksOf_recordRelinks_of_ne (by decide))
  products := h.products.imp fun _ hkept => ⟨hkept.1.congr (linksOf_recordRelinks_of_ne (by decide)), hkept.2⟩
  providers := h.providers.imp fun _ hkept =>
    ⟨(hkept.1.point (fun _ hhit => not_stays_of_beq hold hhit) hnew).congr (mappingLinks_record _ _), hkept.2⟩
  moved := h.moved
  mappings := h.mappings

theorem perm_append_moved {α : Type} {left gone going rows all : List α} (hgoing : (left ++ going).Perm rows)
    (hgone : (rows ++ gone).Perm all) : (left ++ (gone ++ going)).Perm all := by
  refine List.Perm.trans ?_ hgone
  refine (List.Perm.append_left _ List.perm_append_comm).trans ?_
  rw [← List.append_assoc]
  exact hgoing.append_right _

theorem Folded.dropProducts (h : Folded olds start db) (hold : merge.oldId ∈ olds) :
    Folded olds start (dropProducts merge db) := by
  have hmoved : ∀ r ∈ collidingProducts merge db.ingredientProductMappings, ¬Stays olds r.ingredientId := fun r hr =>
    not_stays_of_beq hold (Bool.and_eq_true_iff.mp (List.mem_filter.mp hr).2).1
  have hnew : droppedProducts (Consolidation.dropProducts merge db).deletedRows =
      droppedProducts db.deletedRows ++ collidingProducts merge db.ingredientProductMappings := by
    simp [Consolidation.dropProducts, droppedProducts, List.filterMap_map]
  have hother : droppedProviders (Consolidation.dropProducts merge db).deletedRows = droppedProviders db.deletedRows := by
    simp [Consolidation.dropProducts, droppedProviders, List.filterMap_map]
  refine ⟨h.recipes, h.pantry, h.grocery, ?_, ?_, ?_, ?_⟩
  · obtain ⟨kept, hlinked, hperm⟩ := h.products
    obtain ⟨hfree, hdropped⟩ := hlinked.dropped fun r hr hcolliding => hmoved r (List.mem_filter.mpr ⟨hr, hcolliding⟩)
    refine ⟨_, hlinked.drop hfree, ?_⟩
    rw [hnew]
    exact perm_append_moved hdropped hperm
  · rw [hother]
    exact h.providers
  · rw [hnew, hother]
    exact ⟨List.forall_mem_append.mpr ⟨h.moved.1, hmoved⟩, h.moved.2⟩
  · refine List.forall_mem_append.mpr ⟨h.mappings, fun deleted hdeleted => ?_⟩
    obtain ⟨o, -, rfl⟩ := List.mem_map.mp hdeleted
    rfl

theorem Folded.dropProviders (h : Folded olds start db) (hold : merge.oldId ∈ olds) :
    Folded olds start (dropProviders merge db) := by
  have hmoved : ∀ r ∈ collidingProviders merge db.providerIngredientMappings, ¬Stays olds r.ingredientId := fun r hr =>
    not_stays_of_beq hold (Bool.and_eq_true_iff.mp (List.mem_filter.mp hr).2).1
  have hnew : droppedProviders (Consolidation.dropProviders merge db).deletedRows =
      droppedProviders db.deletedRows ++ collidingProviders merge db.providerIngredientMappings := by
    simp [Consolidation.dropProviders, droppedProviders, List.filterMap_map]
  have hother : droppedProducts (Consolidation.dropProviders merge db).deletedRows = droppedProducts db.deletedRows := by
    simp [Consolidation.dropProviders, droppedProducts, List.filterMap_map]
  refine ⟨h.recipes, h.pantry, h.grocery, ?_, ?_, ?_, ?_⟩
  · rw [hother]
    exact h.products
  · obtain ⟨kept, hlinked, hperm⟩ := h.providers
    obtain ⟨hfree, hdropped⟩ := hlinked.dropped fun r hr hcolliding => hmoved r (List.mem_filter.mpr ⟨hr, hcolliding⟩)
    refine ⟨_, hlinked.drop hfree, ?_⟩
    rw [hnew]
    exact perm_append_moved hdropped hperm
  · rw [hnew, hother]
    exact ⟨h.moved.1, List.forall_mem_append.mpr ⟨h.moved.2, hmoved⟩⟩
  · refine List.forall_mem_append.mpr ⟨h.mappings, fun deleted hdeleted => ?_⟩
    obtain ⟨o, -, rfl⟩ := List.mem_map.mp hdeleted
    rfl

/-- No row of the five tables refers to the ingredient. -/
structure Unreferenced (i : ℕ) (db : Db C) : Prop where
  recipes : ∀ r ∈ db.recipeIngredients, r.ingredientId ≠ i
  pantry : ∀ r ∈ db.pantryItems, r.ingredientId ≠ some i
  grocery : ∀ r ∈ db.groceryListItems, r.ingredientId ≠ some i
  products : ∀ r ∈ db.ingredientProductMappings, r.ingredientId ≠ i
  providers : ∀ r ∈ db.providerIngredientMappings, r.ingredientId ≠ i

theorem Db.Valid.deleteIngredient (h : db.Valid) (hfree : Unreferenced merge.oldId db) : (deleteIngredient merge db).Valid := by
  have hmem : ∀ i, i ≠ merge.oldId → i ∈ db.ingredients.map (·.id) →
      i ∈ (Consolidation.deleteIngredient merge db).ingredients.map (·.id) := by
    intro i hne hi
    obtain ⟨r, hr, rfl⟩ := List.mem_map.mp hi
    exact List.mem_map_of_mem (List.mem_filter.mpr ⟨hr, by simpa using hne⟩)
  exact {
    ingredients := ⟨h.ingredients.ids.sublist (List.filter_sublist.map _), h.ingredients.names.sublist (List.filter_sublist.map _)⟩
    recipes := h.recipes.mono fun r hr => hmem _ (hfree.recipes r hr)
    pantry := h.pantry.mono fun r hr i hi => hmem i fun heq => hfree.pantry r hr (heq ▸ hi)
    grocery := h.grocery.mono fun r hr i hi => hmem i fun heq => hfree.grocery r hr (heq ▸ hi)
    products := h.products.mono fun r hr => hmem _ (hfree.products r hr)
    providers := h.providers.mono fun r hr => hmem _ (hfree.providers r hr) }

theorem ne_old_of_mem_point {α : Type} {c : Column α ℕ ℕ} {rows : List α} {r : α} (hne : merge.newId ≠ merge.oldId)
    (hr : r ∈ c.point (· == merge.oldId) merge.newId rows) : c.get r ≠ merge.oldId := by
  rcases Column.get_mem_point hr with hget | ⟨hnot, -⟩
  · exact hget ▸ hne
  · simpa using hnot

theorem ne_old_of_mem_point_item {rows : List (Item C)} {r : Item C} (hne : merge.newId ≠ merge.oldId)
    (hr : r ∈ itemColumn.point (· == some merge.oldId) (some merge.newId) rows) : r.ingredientId ≠ some merge.oldId := by
  rcases Column.get_mem_point hr with hget | ⟨hnot, -⟩
  · have hid : r.ingredientId = some merge.newId := hget
    simpa [hid] using hne
  · exact fun heq => by simp [itemColumn, heq] at hnot

theorem ne_old_of_mem_point_recipe {rows : List (RecipeIngredient C)} {r : RecipeIngredient C} {name : String}
    (hne : merge.newId ≠ merge.oldId)
    (hr : r ∈ recipeColumn.point (fun p => p.1 == merge.oldId) (merge.newId, some name) rows) :
    r.ingredientId ≠ merge.oldId := by
  rcases Column.get_mem_point hr with hget | ⟨hnot, -⟩
  · have hid : r.ingredientId = merge.newId := congrArg Prod.fst hget
    exact hid ▸ hne
  · exact fun heq => by simp [recipeColumn, heq] at hnot

/-- A fold goes through: it takes the old ingredient out, with a snapshot, and points every reference to the new one. -/
theorem run_fold (hvalid : db.Valid) (hfolded : Folded olds start db) (hold : merge.oldId ∈ olds)
    (hnew : Stays olds merge.newId) (holdIn : merge.oldId ∈ db.ingredients.map (·.id))
    (hnewIn : merge.newId ∈ db.ingredients.map (·.id)) :
    ∃ db' audit, run (foldStatements merge) db = .ok db' ∧ db'.Valid ∧ Folded olds start db' ∧
      db'.ingredients = db.ingredients.filter (·.id ≠ merge.oldId) ∧ db'.audits = db.audits ++ [audit] ∧
      audit.oldIngredientSnapshot ∈ db.ingredients ∧ audit.oldIngredientSnapshot.id = merge.oldId := by
  have hne : merge.newId ≠ merge.oldId := fun heq => hnew (heq ▸ hold)
  obtain ⟨snapshot, hsnapshot⟩ : ∃ snapshot, row? (·.id) db.ingredients merge.oldId = some snapshot :=
    Option.ne_none_iff_exists'.mp fun hnone => row?_eq_none.mp hnone holdIn
  let audit : MergeAudit C :=
    { id := db.auditId + 1, oldIngredientId := merge.oldId, newIngredientId := merge.newId,
      oldCanonicalName := merge.oldCanonicalName, oldIngredientSnapshot := snapshot }
  let db₀ : Db C := { db with audits := db.audits ++ [audit] }
  have haudit : recordAudit merge db = .ok db₀ := by
    unfold recordAudit
    rw [hsnapshot]
  have v₀ : db₀.Valid := { hvalid with }
  have f₀ : Folded olds start db₀ := { hfolded with }
  let db₁ := relinkRecipes merge db₀
  let db₂ := relinkPantry merge db₁
  let db₃ := relinkGrocery merge db₂
  let db₄ := dropProducts merge db₃
  let db₅ := relinkProducts merge db₄
  let db₆ := dropProviders merge db₅
  let db₇ := relinkProviders merge db₆
  have v₁ : db₁.Valid := { v₀ with recipes := v₀.recipes.point hnewIn }
  have v₂ : db₂.Valid := { v₁ with pantry := v₁.pantry.point hnewIn }
  have v₃ : db₃.Valid := { v₂ with grocery := v₂.grocery.point hnewIn }
  have v₄ : db₄.Valid := { v₃ with products := v₃.products.sublist List.filter_sublist }
  have v₅ : db₅.Valid := { v₄ with
    products := v₄.products.point hnewIn
      (fun x _ y _ (hx : (x.ingredientId == merge.oldId) = true) (hy : (y.ingredientId == merge.oldId) = true) =>
        (beq_iff_eq.mp hx).trans (beq_iff_eq.mp hy).symm)
      fun x hx y hy => collidingProducts_free hx hy }
  have v₆ : db₆.Valid := { v₅ with providers := v₅.providers.sublist List.filter_sublist }
  have v₇ : db₇.Valid := { v₆ with
    providers := v₆.providers.point hnewIn
      (fun x _ y _ (hx : (x.ingredientId == merge.oldId) = true) (hy : (y.ingredientId == merge.oldId) = true) =>
        (beq_iff_eq.mp hx).trans (beq_iff_eq.mp hy).symm)
      fun x hx y hy => collidingProviders_free hx hy }
  have f₇ : Folded olds start db₇ :=
    (((((((f₀.relinkRecipes hold hnew).relinkPantry hold hnew).relinkGrocery hold hnew).dropProducts hold).relinkProducts
      hold hnew).dropProviders hold).relinkProviders hold hnew)
  have hfree : Unreferenced merge.oldId db₇ := {
    recipes := fun r hr => ne_old_of_mem_point_recipe hne hr
    pantry := fun r hr => ne_old_of_mem_point_item hne hr
    grocery := fun r hr => ne_old_of_mem_point_item hne hr
    products := fun r hr => ne_old_of_mem_point (c := productColumn) hne hr
    providers := fun r hr => ne_old_of_mem_point (c := providerColumn) hne hr }
  have v₈ := v₇.deleteIngredient hfree
  refine ⟨_, audit, ?_, v₈, { f₇ with }, rfl, rfl, mem_of_row? hsnapshot, key_of_row? hsnapshot⟩
  refine (run_cons haudit v₀).trans ((run_effect v₁).trans ((run_effect v₂).trans ((run_effect v₃).trans ?_)))
  exact (run_effect v₄).trans ((run_effect v₅).trans ((run_effect v₆).trans ((run_effect v₇).trans (run_effect v₈))))

end Steps

/-! ### All folds -/

section Folds
variable {start db : Db C} {olds : List ℕ} {merges : List IngredientMerge}

/-- How the ingredients stand to those at the start, after some folds. -/
structure Snapshots (start db : Db C) (done : List ℕ) : Prop where
  perm : (db.ingredients ++ db.audits.map (·.oldIngredientSnapshot)).Perm start.ingredients
  done : db.audits.map (·.oldIngredientSnapshot.id) = done

theorem Snapshots.mem_ids {done : List ℕ} (h : Snapshots start db done) {i : ℕ} (hi : i ∈ start.ingredients.map (·.id))
    (hnot : i ∉ done) : i ∈ db.ingredients.map (·.id) := by
  have hperm := h.perm.map (·.id)
  rw [List.map_append, List.map_map] at hperm
  rcases List.mem_append.mp (hperm.mem_iff.mpr hi) with hin | hdone
  · exact hin
  · exact absurd (h.done ▸ hdone) hnot

theorem run_folds (hvalid : db.Valid) (hfolded : Folded olds start db) {done : List ℕ} (hsnapshots : Snapshots start db done)
    (hnodup : (done ++ merges.map (·.oldId)).Nodup)
    (hmerges : ∀ merge ∈ merges, merge.oldId ∈ olds ∧ Stays olds merge.newId ∧
      merge.oldId ∈ start.ingredients.map (·.id) ∧ merge.newId ∈ start.ingredients.map (·.id))
    (hdone : ∀ i ∈ done, i ∈ olds) :
    ∃ db', run (merges.flatMap foldStatements) db = .ok db' ∧ db'.Valid ∧ Folded olds start db' ∧
      Snapshots start db' (done ++ merges.map (·.oldId)) := by
  induction merges generalizing db done with
  | nil => exact ⟨db, rfl, hvalid, hfolded, by simpa using hsnapshots⟩
  | cons merge merges ih =>
    obtain ⟨hold, hnew, holdIn, hnewIn⟩ := hmerges merge List.mem_cons_self
    have hnotDone : merge.oldId ∉ done := fun hmem =>
      (List.nodup_append.mp hnodup).2.2 _ hmem _ List.mem_cons_self rfl
    obtain ⟨db', audit, hrun, hvalid', hfolded', hingredients, haudits, hsnapshot, hid⟩ := run_fold hvalid hfolded hold hnew
      (hsnapshots.mem_ids holdIn hnotDone) (hsnapshots.mem_ids hnewIn fun hmem => hnew (hdone _ hmem))
    have hsnapshots' : Snapshots start db' (done ++ [merge.oldId]) := by
      refine ⟨List.Perm.trans ?_ hsnapshots.perm, ?_⟩
      · have hperm := perm_cons_filter hvalid.ingredients.ids hsnapshot
        rw [hid] at hperm
        rw [hingredients, haudits, List.map_append, ← List.append_assoc]
        refine (List.perm_append_singleton _ _).trans ?_
        rw [← List.cons_append]
        exact hperm.symm.append_right _
      · rw [haudits, List.map_append, hsnapshots.done, List.map_singleton, hid]
    have hassoc : done ++ (merge :: merges).map (·.oldId) = done ++ [merge.oldId] ++ merges.map (·.oldId) := by
      rw [List.map_cons, List.append_assoc, List.singleton_append]
    rw [hassoc] at hnodup ⊢
    obtain ⟨db'', hrun', hrest⟩ := ih hvalid' hfolded' hsnapshots' hnodup
      (fun merge hmem => hmerges merge (List.mem_cons_of_mem _ hmem))
      (List.forall_mem_append.mpr ⟨hdone, fun i hi => List.mem_singleton.mp hi ▸ hold⟩)
    exact ⟨db'', (run_append hrun).trans hrun', hrest⟩

theorem run_plan {ids : List ℕ} (hids : ids = db.ingredients.map (·.id)) (hvalid : db.Valid) (hfolds : Folds ids merges)
    (haudits : db.audits = []) (hrelinks : db.relinks = []) (hdeleted : db.deletedRows = []) :
    ∃ db', run (merges.flatMap foldStatements) db = .ok db' ∧ db'.Valid ∧ Folded (merges.map (·.oldId)) db db' ∧
      Snapshots db db' (merges.map (·.oldId)) := by
  subst hids
  have hfolded : Folded (merges.map (·.oldId)) db db := by
    have hdropped : droppedProducts db.deletedRows = [] := by rw [hdeleted]; rfl
    have hdropped' : droppedProviders db.deletedRows = [] := by rw [hdeleted]; rfl
    refine ⟨?_, ?_, ?_, ⟨db.ingredientProductMappings, ?_, ?_⟩, ⟨db.providerIngredientMappings, ?_, ?_⟩, ?_, ?_⟩
    · rw [hrelinks]
      exact Column.linked_refl hvalid.recipes.ids
    · rw [hrelinks]
      exact Column.linked_refl hvalid.pantry.ids
    · rw [hrelinks]
      exact Column.linked_refl hvalid.grocery.ids
    · rw [hrelinks]
      exact Column.linked_refl hvalid.products.ids
    · rw [hdropped, List.append_nil]
    · rw [hrelinks]
      exact Column.linked_refl hvalid.providers.ids
    · rw [hdropped', List.append_nil]
    · rw [hdropped, hdropped']
      exact ⟨fun r hr => (nomatch hr), fun r hr => (nomatch hr)⟩
    · rw [hdeleted]
      exact fun deleted hmem => nomatch hmem
  have hsnapshots : Snapshots db db [] := by
    refine ⟨?_, ?_⟩
    · rw [haudits, List.map_nil, List.append_nil]
    · rw [haudits]
      rfl
  refine run_folds hvalid hfolded hsnapshots hfolds.nodup (fun merge hmem => ?_) fun i hi => nomatch hi
  exact ⟨List.mem_map_of_mem hmem, hfolds.stays merge hmem, hfolds.old merge hmem, hfolds.new merge hmem⟩

end Folds

end CestaPlan.Consolidation
