import CestaPlan.Consolidation.LineMerging

/-! The downgrade puts back what the upgrade has changed. -/

namespace CestaPlan.Consolidation
open Updates Relinks Absorbing

variable {C : Type}

/-! ### Rows that come back -/

theorem insertRow_fresh {α : Type} {id : α → ℕ} {rows : List α} {row : α} (h : id row ∉ rows.map id) :
    insertRow id rows row = rows ++ [row] := if_neg h

theorem fresh_of_nodup {α : Type} {id : α → ℕ} {rows rest : List α} {row : α}
    (h : ((rows ++ row :: rest).map id).Nodup) : id row ∉ rows.map id := by
  rw [List.map_append, List.map_cons] at h
  exact fun hmem => (List.nodup_append.mp h).2.2 _ hmem _ List.mem_cons_self rfl

section Inserts
variable {db : Db C}

theorem run_recreate {audits : List (MergeAudit C)} (hvalid : db.Valid)
    (hwhole : IngredientsValid (db.ingredients ++ audits.map (·.oldIngredientSnapshot))) :
    run (audits.map fun audit => effect (recreateIngredient audit)) db =
      .ok { db with ingredients := db.ingredients ++ audits.map (·.oldIngredientSnapshot) } := by
  induction audits generalizing db with
  | nil =>
    rw [List.map_nil, List.map_nil, List.append_nil]
    rfl
  | cons audit audits ih =>
    have hinsert : recreateIngredient audit db = { db with ingredients := db.ingredients ++ [audit.oldIngredientSnapshot] } := by
      unfold recreateIngredient
      rw [insertRow_fresh (fresh_of_nodup hwhole.ids)]
    have hsplit : db.ingredients ++ (audit :: audits).map (·.oldIngredientSnapshot) =
        db.ingredients ++ [audit.oldIngredientSnapshot] ++ audits.map (·.oldIngredientSnapshot) := by
      rw [List.map_cons, List.append_assoc, List.singleton_append]
    rw [hsplit] at hwhole ⊢
    have hmem : ∀ i, i ∈ db.ingredients.map (·.id) → i ∈ (db.ingredients ++ [audit.oldIngredientSnapshot]).map (·.id) :=
      fun i hi => by rw [List.map_append]; exact List.mem_append_left _ hi
    have hvalid' : (recreateIngredient audit db).Valid := by
      rw [hinsert]
      exact {
        ingredients := ⟨hwhole.ids.sublist ((List.sublist_append_left _ _).map _),
          hwhole.names.sublist ((List.sublist_append_left _ _).map _)⟩
        recipes := hvalid.recipes.mono fun r _ => hmem _
        pantry := hvalid.pantry.mono fun r _ i _ => hmem i
        grocery := hvalid.grocery.mono fun r _ i _ => hmem i
        products := hvalid.products.mono fun r _ => hmem _
        providers := hvalid.providers.mono fun r _ => hmem _ }
    rw [List.map_cons, run_effect hvalid']
    rw [hinsert] at hvalid' ⊢
    exact ih hvalid' hwhole

theorem run_restoreMappings {deletedRows : List (DeletedRow C)} (hvalid : db.Valid)
    (hmappings : ∀ deleted ∈ deletedRows, deleted.isMapping = true)
    (hproducts : ProductsValid (db.ingredients.map (·.id)) (db.ingredientProductMappings ++ droppedProducts deletedRows))
    (hproviders : ProvidersValid (db.ingredients.map (·.id)) (db.providerIngredientMappings ++ droppedProviders deletedRows)) :
    run (deletedRows.map fun deleted => effect (restoreDeletedRow deleted)) db = .ok { db with
      ingredientProductMappings := db.ingredientProductMappings ++ droppedProducts deletedRows
      providerIngredientMappings := db.providerIngredientMappings ++ droppedProviders deletedRows } := by
  induction deletedRows generalizing db with
  | nil =>
    have hnone : droppedProducts ([] : List (DeletedRow C)) = [] := rfl
    have hnone' : droppedProviders ([] : List (DeletedRow C)) = [] := rfl
    rw [hnone, hnone', List.append_nil, List.append_nil]
    rfl
  | cons deleted deletedRows ih =>
    have hrest := fun d hd => hmappings d (List.mem_cons_of_mem _ hd)
    have hmapping := hmappings deleted List.mem_cons_self
    rw [List.map_cons]
    obtain ⟨auditId, data, mergedInto⟩ := deleted
    cases data with
    | recipeIngredient row => cases hmapping
    | pantryItem row => cases hmapping
    | groceryListItem row => cases hmapping
    | ingredientProductMapping row =>
      have hsplit : db.ingredientProductMappings ++ droppedProducts (⟨auditId, .ingredientProductMapping row, mergedInto⟩ :: deletedRows) =
          db.ingredientProductMappings ++ [row] ++ droppedProducts deletedRows := by
        rw [List.append_assoc]
        rfl
      have hsame : droppedProviders (⟨auditId, .ingredientProductMapping row, mergedInto⟩ :: deletedRows) =
          droppedProviders deletedRows := rfl
      have hinsert : restoreDeletedRow ⟨auditId, .ingredientProductMapping row, mergedInto⟩ db =
          { db with ingredientProductMappings := db.ingredientProductMappings ++ [row] } := by
        unfold restoreDeletedRow
        dsimp only
        rw [insertRow_fresh (fresh_of_nodup hproducts.ids)]
      rw [hsplit] at hproducts ⊢
      rw [hsame] at hproviders ⊢
      have hvalid' : (restoreDeletedRow ⟨auditId, .ingredientProductMapping row, mergedInto⟩ db).Valid := by
        rw [hinsert]
        exact { hvalid with products := hproducts.sublist (List.sublist_append_left _ _) }
      rw [run_effect hvalid']
      rw [hinsert] at hvalid' ⊢
      exact ih hvalid' hrest hproducts hproviders
    | providerIngredientMapping row =>
      have hsplit : db.providerIngredientMappings ++ droppedProviders (⟨auditId, .providerIngredientMapping row, mergedInto⟩ :: deletedRows) =
          db.providerIngredientMappings ++ [row] ++ droppedProviders deletedRows := by
        rw [List.append_assoc]
        rfl
      have hsame : droppedProducts (⟨auditId, .providerIngredientMapping row, mergedInto⟩ :: deletedRows) =
          droppedProducts deletedRows := rfl
      have hinsert : restoreDeletedRow ⟨auditId, .providerIngredientMapping row, mergedInto⟩ db =
          { db with providerIngredientMappings := db.providerIngredientMappings ++ [row] } := by
        unfold restoreDeletedRow
        dsimp only
        rw [insertRow_fresh (fresh_of_nodup hproviders.ids)]
      rw [hsplit] at hproviders ⊢
      rw [hsame] at hproducts ⊢
      have hvalid' : (restoreDeletedRow ⟨auditId, .providerIngredientMapping row, mergedInto⟩ db).Valid := by
        rw [hinsert]
        exact { hvalid with providers := hproviders.sublist (List.sublist_append_left _ _) }
      rw [run_effect hvalid']
      rw [hinsert] at hvalid' ⊢
      exact ih hvalid' hrest hproducts hproviders

theorem RecipesValid.sublist {is : List ℕ} {rows rows' : List (RecipeIngredient C)} (h : RecipesValid is rows)
    (hsub : rows'.Sublist rows) : RecipesValid is rows' :=
  ⟨h.ids.sublist (hsub.map _), fun r hr => h.named r (hsub.subset hr), fun r hr => h.refers r (hsub.subset hr)⟩

theorem run_restoreLines {deletedRows : List (DeletedRow C)} {lines : List (RecipeIngredient C)} (hvalid : db.Valid)
    (hlines : deletedRows.map (·.rowData) = lines.map .recipeIngredient)
    (hrecipes : RecipesValid (db.ingredients.map (·.id)) (db.recipeIngredients ++ lines)) :
    run (deletedRows.map fun deleted => effect (restoreDeletedRow deleted)) db =
      .ok { db with recipeIngredients := db.recipeIngredients ++ lines } := by
  induction lines generalizing db deletedRows with
  | nil =>
    obtain rfl := List.map_eq_nil_iff.mp hlines
    rw [List.append_nil]
    rfl
  | cons line lines ih =>
    obtain ⟨deleted, deletedRows, rfl, hdata, hrest⟩ := List.map_eq_cons_iff.mp hlines
    have hinsert : restoreDeletedRow deleted db = { db with recipeIngredients := db.recipeIngredients ++ [line] } := by
      unfold restoreDeletedRow
      rw [hdata]
      dsimp only
      rw [insertRow_fresh (fresh_of_nodup hrecipes.ids)]
    have hsplit : db.recipeIngredients ++ line :: lines = db.recipeIngredients ++ [line] ++ lines := by
      rw [List.append_assoc, List.singleton_append]
    rw [hsplit] at hrecipes ⊢
    have hvalid' : (restoreDeletedRow deleted db).Valid := by
      rw [hinsert]
      exact { hvalid with recipes := hrecipes.sublist (List.sublist_append_left _ _) }
    rw [List.map_cons, run_effect hvalid']
    rw [hinsert] at hvalid' ⊢
    exact ih hvalid' hrest hrecipes

end Inserts

/-! ### The references that are put back -/

section References
variable {olds : List ℕ} {start folded db : Db C} {relink : FkRelink} {relinks : List FkRelink}

/-- The references of the folded tables are to ingredients that stay. -/
theorem Snapshots.stays (h : Snapshots start folded olds) (hvalid : start.Valid) {i : ℕ}
    (hi : i ∈ folded.ingredients.map (·.id)) : Stays olds i := by
  have hids := hvalid.ingredients.ids
  rw [← (h.perm.map (·.id)).nodup_iff, List.map_append, List.map_map] at hids
  exact fun hold => (List.nodup_append.mp hids).2.2 i hi i (h.done ▸ hold) rfl

theorem Snapshots.mem_start (h : Snapshots start folded olds) {i : ℕ} (hi : i ∈ folded.ingredients.map (·.id)) :
    i ∈ start.ingredients.map (·.id) := by
  rw [← (h.perm.map (·.id)).mem_iff, List.map_append]
  exact List.mem_append_left _ hi

theorem mem_or_moved {α : Type} {c : Column α ℕ ℕ} {all kept rows dropped : List α} {links : List (ℕ × ℕ)}
    (hlinked : c.Linked (Stays olds) kept rows links) (hperm : (kept ++ dropped).Perm all)
    (hdropped : ∀ r ∈ dropped, ¬Stays olds (c.get r)) : ∀ x ∈ all, x ∈ rows ∨ ¬Stays olds (c.get x) := by
  intro x hx
  rcases List.mem_append.mp (hperm.mem_iff.mpr hx) with hkept | hdrop
  · obtain ⟨f, rfl, hf⟩ := hlinked.versions
    rcases hf x hkept with ⟨-, heq⟩ | ⟨hlink, -⟩
    · exact Or.inl (List.mem_map.mpr ⟨x, hkept, heq⟩)
    · exact Or.inr (hlinked.logged _ hlink).2
  · exact Or.inr (hdropped x hdrop)

/-- While the relinks are undone, every row of the five tables is one of the start or one that the folds have left. -/
structure Mixed (start folded db : Db C) : Prop where
  ingredients : db.ingredients.Perm start.ingredients
  recipeIds : (db.recipeIngredients.map (·.id)).Nodup
  recipes : ∀ r ∈ db.recipeIngredients, r ∈ start.recipeIngredients ∨ r ∈ folded.recipeIngredients
  pantryIds : (db.pantryItems.map (·.id)).Nodup
  pantry : ∀ r ∈ db.pantryItems, r ∈ start.pantryItems ∨ r ∈ folded.pantryItems
  groceryIds : (db.groceryListItems.map (·.id)).Nodup
  grocery : ∀ r ∈ db.groceryListItems, r ∈ start.groceryListItems ∨ r ∈ folded.groceryListItems
  productIds : (db.ingredientProductMappings.map (·.id)).Nodup
  products : ∀ r ∈ db.ingredientProductMappings, r ∈ start.ingredientProductMappings ∨ r ∈ folded.ingredientProductMappings
  providerIds : (db.providerIngredientMappings.map (·.id)).Nodup
  providers : ∀ r ∈ db.providerIngredientMappings,
    r ∈ start.providerIngredientMappings ∨ r ∈ folded.providerIngredientMappings

theorem Folded.provider_origin (h : Folded olds start folded) {r : ProviderIngredientMapping C}
    (hr : r ∈ start.providerIngredientMappings ∨ r ∈ folded.providerIngredientMappings) :
    ∃ r₀ ∈ start.providerIngredientMappings, r₀.id = r.id ∧ r₀.isApproved = r.isApproved ∧
      r₀.providerCode = r.providerCode ∧ r₀.externalProductId = r.externalProductId := by
  rcases hr with hr | hr
  · exact ⟨r, hr, rfl, rfl, rfl, rfl⟩
  · obtain ⟨kept, hlinked, hperm⟩ := h.providers
    obtain ⟨r₀, hr₀, hversion⟩ := hlinked.version hr
    refine ⟨r₀, hperm.mem_iff.mp (List.mem_append_left _ hr₀), ?_⟩
    rcases hversion with ⟨-, rfl⟩ | ⟨-, p, -, rfl⟩ <;> exact ⟨rfl, rfl, rfl, rfl⟩

theorem Mixed.valid (h : Mixed start folded db) (hstart : start.Valid) (hvalid : folded.Valid)
    (hfolded : Folded olds start folded) (hsnapshots : Snapshots start folded olds) : db.Valid := by
  have hids := h.ingredients.map (·.id)
  have hof : ∀ i, i ∈ start.ingredients.map (·.id) ∨ i ∈ folded.ingredients.map (·.id) → i ∈ db.ingredients.map (·.id) :=
    fun i hi => hids.mem_iff.mpr (hi.elim id hsnapshots.mem_start)
  refine ⟨⟨hids.nodup_iff.mpr hstart.ingredients.ids, (h.ingredients.map _).nodup_iff.mpr hstart.ingredients.names⟩,
    ⟨h.recipeIds, fun r hr => ?_, fun r hr => hof _ ?_⟩, ⟨h.pantryIds, fun r hr i hi => hof i ?_⟩,
    ⟨h.groceryIds, fun r hr i hi => hof i ?_⟩, ⟨h.productIds, fun r hr => hof _ ?_, ?_⟩,
    ⟨h.providerIds, fun r hr => hof _ ?_, ?_, ?_⟩⟩
  · exact (h.recipes r hr).elim (hstart.recipes.named r) (hvalid.recipes.named r)
  · exact (h.recipes r hr).imp (hstart.recipes.refers r) (hvalid.recipes.refers r)
  · exact (h.pantry r hr).imp (fun hr => hstart.pantry.refers r hr i hi) fun hr => hvalid.pantry.refers r hr i hi
  · exact (h.grocery r hr).imp (fun hr => hstart.grocery.refers r hr i hi) fun hr => hvalid.grocery.refers r hr i hi
  · exact (h.products r hr).imp (hstart.products.refers r) (hvalid.products.refers r)
  · obtain ⟨kept, hlinked, hperm⟩ := hfolded.products
    exact Column.nodup_mixed h.productIds h.products hstart.products.keys hvalid.products.keys
      (fun x y heq => congrArg Prod.fst heq) (mem_or_moved hlinked hperm hfolded.moved.1)
      fun y hy => hsnapshots.stays hstart (hvalid.products.refers y hy)
  · exact (h.providers r hr).imp (hstart.providers.refers r) (hvalid.providers.refers r)
  · obtain ⟨kept, hlinked, hperm⟩ := hfolded.providers
    exact Column.nodup_mixed h.providerIds h.providers hstart.providers.keys hvalid.providers.keys
      (fun x y heq => congrArg Prod.fst heq) (mem_or_moved hlinked hperm hfolded.moved.2)
      fun y hy => hsnapshots.stays hstart (hvalid.providers.refers y hy)
  · refine ((List.Nodup.of_map _ h.providerIds).filter _).map_on fun x hx y hy heq => ?_
    obtain ⟨hx, hxa⟩ := List.mem_filter.mp hx
    obtain ⟨hy, hya⟩ := List.mem_filter.mp hy
    obtain ⟨x₀, hx₀, hxid, hxapproved, hxcode, hxproduct⟩ := hfolded.provider_origin (h.providers x hx)
    obtain ⟨y₀, hy₀, hyid, hyapproved, hycode, hyproduct⟩ := hfolded.provider_origin (h.providers y hy)
    have hsame : x₀ = y₀ := by
      refine List.inj_on_of_nodup_map hstart.providers.approved (List.mem_filter.mpr ⟨hx₀, hxapproved.trans hxa⟩)
        (List.mem_filter.mpr ⟨hy₀, hyapproved.trans hya⟩) ?_
      rw [hxcode, hxproduct, hycode, hyproduct]
      exact heq
    exact List.inj_on_of_nodup_map h.providerIds hx hy (hxid.symm.trans ((congrArg _ hsame).trans hyid))

theorem mem_linksOf {π : Type} {table : SourceTable} {part : FkRelink → π} (h : relink ∈ relinks)
    (htable : relink.sourceTable = table) : (relink.sourceRowId, part relink) ∈ linksOf table part relinks :=
  List.mem_map_of_mem (List.mem_filter.mpr ⟨h, decide_eq_true htable⟩)

theorem restoreLink_ids {α π : Type} {c : Column α ℕ π} {rows : List α} {link : ℕ × π} (h : (rows.map c.id).Nodup) :
    ((c.restoreLink rows link).map c.id).Nodup := by
  have hids : (c.restoreLink rows link).map c.id = rows.map c.id := map_updateAt fun x => c.id_set link.2 x
  rwa [hids]

theorem Mixed.revertRelink (h : Mixed start folded db) (hstart : start.Valid) (hfolded : Folded olds start folded)
    (hrelink : relink ∈ folded.relinks) : Mixed start folded (revertRelink relink db) := by
  unfold Consolidation.revertRelink
  split
  · next htable => exact { h with
      recipeIds := restoreLink_ids (c := recipeColumn) h.recipeIds
      recipes := hfolded.recipes.restoreLink_mem hstart.recipes.ids (List.Subset.refl _) h.recipes (mem_linksOf hrelink htable) }
  · next htable => exact { h with
      pantryIds := restoreLink_ids (c := itemColumn) h.pantryIds
      pantry := hfolded.pantry.restoreLink_mem hstart.pantry.ids (List.Subset.refl _) h.pantry (mem_linksOf hrelink htable) }
  · next htable => exact { h with
      groceryIds := restoreLink_ids (c := itemColumn) h.groceryIds
      grocery := hfolded.grocery.restoreLink_mem hstart.grocery.ids (List.Subset.refl _) h.grocery (mem_linksOf hrelink htable) }
  · next htable =>
    obtain ⟨kept, hlinked, hperm⟩ := hfolded.products
    exact { h with
      productIds := restoreLink_ids (c := productColumn) h.productIds
      products := hlinked.restoreLink_mem hstart.products.ids
        (fun x hx => hperm.mem_iff.mp (List.mem_append_left _ hx)) h.products (mem_linksOf hrelink htable) }
  · next htable =>
    obtain ⟨kept, hlinked, hperm⟩ := hfolded.providers
    exact { h with
      providerIds := restoreLink_ids (c := providerColumn) h.providerIds
      providers := hlinked.restoreLink_mem hstart.providers.ids
        (fun x hx => hperm.mem_iff.mp (List.mem_append_left _ hx)) h.providers (mem_linksOf hrelink htable) }

def revertRelinks (relinks : List FkRelink) (db : Db C) : Db C := relinks.foldl (fun db relink => revertRelink relink db) db

theorem run_revertRelinks (h : Mixed start folded db) (hstart : start.Valid) (hvalid : folded.Valid)
    (hfolded : Folded olds start folded) (hsnapshots : Snapshots start folded olds) (hrelinks : relinks ⊆ folded.relinks) :
    run (relinks.map fun relink => effect (revertRelink relink)) db = .ok (revertRelinks relinks db) := by
  induction relinks generalizing db with
  | nil => rfl
  | cons relink relinks ih =>
    have hnext := h.revertRelink hstart hfolded (hrelinks List.mem_cons_self)
    rw [List.map_cons, run_effect (hnext.valid hstart hvalid hfolded hsnapshots)]
    exact ih hnext fun r hr => hrelinks (List.mem_cons_of_mem _ hr)

theorem revertRelinks_table {α π : Type} (c : Column α ℕ π) (table : SourceTable) (part : FkRelink → π)
    (rows : Db C → List α) (hrows : ∀ relink db, rows (revertRelink relink db) =
      if relink.sourceTable = table then c.restoreLink (rows db) (relink.sourceRowId, part relink) else rows db) :
    rows (revertRelinks relinks db) = c.restore (linksOf table part relinks) (rows db) := by
  induction relinks generalizing db with
  | nil => rfl
  | cons relink relinks ih =>
    refine (@ih (revertRelink relink db)).trans ?_
    rw [hrows, linksOf, linksOf]
    by_cases htable : relink.sourceTable = table
    · rw [if_pos htable, List.filter_cons_of_pos (by simpa using htable)]
      rfl
    · rw [if_neg htable, List.filter_cons_of_neg (by simpa using htable)]

theorem revertRelinks_frame (relinks : List FkRelink) (db : Db C) :
    (revertRelinks relinks db).ingredients = db.ingredients := by
  induction relinks generalizing db with
  | nil => rfl
  | cons relink relinks ih =>
    refine (ih (revertRelink relink db)).trans ?_
    unfold revertRelink
    split <;> rfl

end References

/-! ### The downgrade after the upgrade -/

section Restore
variable {olds : List ℕ} {start folded applied : Db C}

/-- The tables before the relinks are undone: every row is there, some of them with the reference of the folds. -/
def reinstated (folded applied : Db C) : Db C :=
  { applied with
    ingredients := applied.ingredients ++ applied.audits.map (·.oldIngredientSnapshot)
    recipeIngredients := quantityAmount.giveBack (absorbedLines applied.deletedRows) applied.recipeIngredients ++
      (absorbedLines applied.deletedRows).map Prod.fst
    ingredientProductMappings := applied.ingredientProductMappings ++ droppedProducts folded.deletedRows
    providerIngredientMappings := applied.providerIngredientMappings ++ droppedProviders folded.deletedRows }

theorem mixed_reinstated (hstart : start.Valid) (hfolded : Folded olds start folded) (hvalid : folded.Valid)
    (hsnapshots : Snapshots start folded olds)
    (hmerged : Merged folded.recipeIngredients folded.deletedRows folded applied) :
    Mixed start folded (reinstated folded applied) := by
  obtain ⟨kept, hlinked, hperm⟩ := hfolded.products
  obtain ⟨kept', hlinked', hperm'⟩ := hfolded.providers
  have hproducts : ((folded.ingredientProductMappings ++ droppedProducts folded.deletedRows).map (·.id)).Perm
      (start.ingredientProductMappings.map (·.id)) := by
    have hids := hperm.map (·.id)
    have hmap : folded.ingredientProductMappings.map (·.id) = kept.map (·.id) := hlinked.map_id
    rwa [List.map_append, hmap, ← List.map_append]
  have hproviders : ((folded.providerIngredientMappings ++ droppedProviders folded.deletedRows).map (·.id)).Perm
      (start.providerIngredientMappings.map (·.id)) := by
    have hids := hperm'.map (·.id)
    have hmap : folded.providerIngredientMappings.map (·.id) = kept'.map (·.id) := hlinked'.map_id
    rwa [List.map_append, hmap, ← List.map_append]
  exact {
    ingredients := by
      unfold reinstated
      rw [hmerged.ingredients, hmerged.audits]
      exact hsnapshots.perm
    recipeIds := ((hmerged.absorbed.perm.map _).nodup_iff).mpr hvalid.recipes.ids
    recipes := fun r hr => Or.inr (hmerged.absorbed.perm.mem_iff.mp hr)
    pantryIds := by
      unfold reinstated
      rw [hmerged.pantry]
      exact hvalid.pantry.ids
    pantry := fun r hr => Or.inr (hmerged.pantry ▸ hr)
    groceryIds := by
      unfold reinstated
      rw [hmerged.grocery]
      exact hvalid.grocery.ids
    grocery := fun r hr => Or.inr (hmerged.grocery ▸ hr)
    productIds := by
      unfold reinstated
      rw [hmerged.products]
      exact hproducts.nodup_iff.mpr hstart.products.ids
    products := fun r hr => by
      rcases List.mem_append.mp hr with hr | hr
      · exact Or.inr (hmerged.products ▸ hr)
      · exact Or.inl (hperm.mem_iff.mp (List.mem_append_right _ hr))
    providerIds := by
      unfold reinstated
      rw [hmerged.providers]
      exact hproviders.nodup_iff.mpr hstart.providers.ids
    providers := fun r hr => by
      rcases List.mem_append.mp hr with hr | hr
      · exact Or.inr (hmerged.providers ▸ hr)
      · exact Or.inl (hperm'.mem_iff.mp (List.mem_append_right _ hr)) }

theorem run_reinstate (hstart : start.Valid) (hfolded : Folded olds start folded) (hvalid : folded.Valid)
    (hsnapshots : Snapshots start folded olds)
    (hmerged : Merged folded.recipeIngredients folded.deletedRows folded applied) (happlied : applied.Valid) :
    revertConsolidation applied = run (applied.relinks.map fun relink => effect (revertRelink relink))
      (reinstated folded applied) := by
  have hwhole := (mixed_reinstated hstart hfolded hvalid hsnapshots hmerged).valid hstart hvalid hfolded hsnapshots
  have hcreated := run_recreate happlied hwhole.ingredients
  let db₁ : Db C :=
    { applied with ingredients := applied.ingredients ++ applied.audits.map (·.oldIngredientSnapshot) }
  have hmem : ∀ i, i ∈ applied.ingredients.map (·.id) → i ∈ db₁.ingredients.map (·.id) := fun i hi => by
    rw [List.map_append]
    exact List.mem_append_left _ hi
  have hvalid₁ : db₁.Valid := {
    ingredients := hwhole.ingredients
    recipes := happlied.recipes.mono fun r _ => hmem _
    pantry := happlied.pantry.mono fun r _ i _ => hmem i
    grocery := happlied.grocery.mono fun r _ i _ => hmem i
    products := happlied.products.mono fun r _ => hmem _
    providers := happlied.providers.mono fun r _ => hmem _ }
  have hmappings := run_restoreMappings hvalid₁ hfolded.mappings hwhole.products hwhole.providers
  let db₂ : Db C :=
    { db₁ with
      ingredientProductMappings := applied.ingredientProductMappings ++ droppedProducts folded.deletedRows
      providerIngredientMappings := applied.providerIngredientMappings ++ droppedProviders folded.deletedRows }
  have hvalid₂ : db₂.Valid := { hvalid₁ with products := hwhole.products, providers := hwhole.providers }
  have hvalid₃ : (revertQuantities db₂).Valid := { hvalid₂ with
    recipes := hwhole.recipes.sublist (List.sublist_append_left _ _) }
  have hdata : (applied.deletedRows.filter (·.isLine)).map (·.rowData) =
      ((absorbedLines applied.deletedRows).map Prod.fst).map .recipeIngredient := by
    rw [hmerged.lines, List.map_map]
    rfl
  have hlines := run_restoreLines hvalid₃ hdata hwhole.recipes
  unfold revertConsolidation
  rw [run_append hcreated, hmerged.mappings, run_append hmappings, run_effect hvalid₃, run_append hlines]
  rfl

theorem unlinked_dropped {α : Type} {c : Column α ℕ ℕ} {all kept rows dropped : List α} {links : List (ℕ × ℕ)}
    (hlinked : c.Linked (Stays olds) kept rows links) (hperm : (kept ++ dropped).Perm all) (hids : (all.map c.id).Nodup) :
    ∀ x ∈ dropped, c.id x ∉ links.map Prod.fst := by
  rw [← (hperm.map c.id).nodup_iff, List.map_append] at hids
  intro x hx hlink
  obtain ⟨link, hmem, hid⟩ := List.mem_map.mp hlink
  exact (List.nodup_append.mp hids).2.2 _ (hlinked.logged link hmem).1 _ (List.mem_map_of_mem hx) hid

theorem sameTables_reverted (hstart : start.Valid) (hfolded : Folded olds start folded)
    (hsnapshots : Snapshots start folded olds)
    (hmerged : Merged folded.recipeIngredients folded.deletedRows folded applied) :
    SameTables start (revertRelinks folded.relinks (reinstated folded applied)) := by
  refine ⟨?_, ?_, ?_, ?_, ?_, ?_⟩
  · rw [revertRelinks_frame]
    unfold reinstated
    rw [hmerged.ingredients, hmerged.audits]
    exact hsnapshots.perm
  · have hrestored := hfolded.recipes.restore_self
    rw [revertRelinks_table recipeColumn .recipeIngredient (fun r => (r.oldIngredientId, r.oldCanonicalName))
      (·.recipeIngredients) fun relink db => by cases htable : relink.sourceTable <;> simp [revertRelink, htable]]
    refine List.Perm.trans ?_ (List.Perm.of_eq hrestored)
    rw [Column.restore_eq_map, Column.restore_eq_map]
    exact hmerged.absorbed.perm.map _
  · have hrestored := hfolded.pantry.restore_self
    rw [revertRelinks_table itemColumn .pantryItem (fun r => some r.oldIngredientId) (·.pantryItems)
      fun relink db => by cases htable : relink.sourceTable <;> simp [revertRelink, htable]]
    unfold reinstated
    rw [hmerged.pantry]
    exact List.Perm.of_eq hrestored
  · have hrestored := hfolded.grocery.restore_self
    rw [revertRelinks_table itemColumn .groceryListItem (fun r => some r.oldIngredientId) (·.groceryListItems)
      fun relink db => by cases htable : relink.sourceTable <;> simp [revertRelink, htable]]
    unfold reinstated
    rw [hmerged.grocery]
    exact List.Perm.of_eq hrestored
  · obtain ⟨kept, hlinked, hperm⟩ := hfolded.products
    rw [revertRelinks_table productColumn .ingredientProductMapping (·.oldIngredientId) (·.ingredientProductMappings)
      fun relink db => by cases htable : relink.sourceTable <;> simp [revertRelink, htable]]
    unfold reinstated
    rw [hmerged.products]
    exact (List.Perm.of_eq (hlinked.restore (unlinked_dropped hlinked hperm hstart.products.ids))).trans hperm
  · obtain ⟨kept, hlinked, hperm⟩ := hfolded.providers
    rw [revertRelinks_table providerColumn .providerIngredientMapping (·.oldIngredientId) (·.providerIngredientMappings)
      fun relink db => by cases htable : relink.sourceTable <;> simp [revertRelink, htable]]
    unfold reinstated
    rw [hmerged.providers]
    exact (List.Perm.of_eq (hlinked.restore (unlinked_dropped hlinked hperm hstart.providers.ids))).trans hperm

/-- The downgrade after the upgrade goes through, and restores the six tables. -/
theorem revert_apply (dictionary : IngredientDictionary) (db : Db C) (hvalid : db.Valid) (haudits : db.audits = [])
    (hrelinks : db.relinks = []) (hdeleted : db.deletedRows = []) :
    ∃ applied reverted, applyConsolidation dictionary db = .ok applied ∧ revertConsolidation applied = .ok reverted ∧
      SameTables db reverted := by
  let start : Db C := { db with aliases := (planOf dictionary db).aliases.foldl recordAlias db.aliases }
  have hstart : start.Valid := { hvalid with }
  have hids : (db.ingredients.map fun i => (i.id, i.canonicalName)).map Prod.fst = start.ingredients.map (·.id) := by
    rw [List.map_map]
    rfl
  obtain ⟨folded, hfold, hvalid', hfolded, hsnapshots⟩ :=
    run_plan hids hstart (folds_plan dictionary (activeMappingIds db) _) haudits hrelinks hdeleted
  obtain ⟨applied, hdedup, happlied, hmerged⟩ := run_dedup hvalid' hfolded.mappings
  have hmixed := mixed_reinstated hstart hfolded hvalid' hsnapshots hmerged
  have hrun := run_revertRelinks hmixed hstart hvalid' hfolded hsnapshots (List.Subset.refl _)
  refine ⟨applied, revertRelinks folded.relinks (reinstated folded applied), ?_, ?_, ?_⟩
  · have happly : applyConsolidation dictionary db =
        (run ((planOf dictionary db).merges.flatMap foldStatements) start).bind fun db => run (dedupStatements db) db := rfl
    have hplan : run ((planOf dictionary db).merges.flatMap foldStatements) start = .ok folded := hfold
    rw [happly, hplan]
    exact hdedup
  · rw [run_reinstate hstart hfolded hvalid' hsnapshots hmerged happlied, hmerged.relinks]
    exact hrun
  · have hsame := sameTables_reverted hstart hfolded hsnapshots hmerged
    exact ⟨hsame.1, hsame.2, hsame.3, hsame.4, hsame.5, hsame.6⟩

/-- Names as they are, and no specs. -/
def plainDictionary : IngredientDictionary := { normalize := id, specs := [] }

/-- A recipe with two lines of lentils under two names, and two mappings of them to one product. -/
def lentils : Db Unit where
  ingredients := [⟨1, "lenteja", ()⟩, ⟨2, "lentejas", ()⟩]
  recipeIngredients := [⟨10, 5, 1, some "lenteja", 100, ()⟩, ⟨11, 5, 2, some "lentejas", 50, ()⟩]
  pantryItems := [⟨30, some 2, ()⟩]
  groceryListItems := [⟨40, none, ()⟩]
  ingredientProductMappings := [⟨20, 1, 7, true, ()⟩, ⟨21, 2, 7, true, ()⟩]
  providerIngredientMappings := [⟨50, 2, "mercadona", "4241", "1.0.0", true, "manually_approved", ()⟩]
  aliases := []
  audits := []
  relinks := []
  deletedRows := []

theorem revert_apply_lentils : ∃ applied reverted, applyConsolidation plainDictionary lentils = .ok applied ∧
    revertConsolidation applied = .ok reverted ∧ SameTables lentils reverted :=
  revert_apply plainDictionary lentils (by decide) rfl rfl rfl

end Restore

end CestaPlan.Consolidation
