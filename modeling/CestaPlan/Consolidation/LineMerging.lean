import CestaPlan.Consolidation.Folding

/-! The lines of a recipe that the folds have made lines of one ingredient, and their merging. -/

namespace CestaPlan.Consolidation
open Updates Relinks Absorbing

variable {C : Type}

/-- A line that is merged into the first line of its group. -/
structure LinePair where
  ingredientId : ℕ
  kept : ℕ
  dupId : ℕ

def pairsOf (repointed : List ℕ) (group : (ℕ × ℕ) × List ℕ) : List LinePair :=
  match group.2 with
  | kept :: dups => if (kept :: dups).any (· ∈ repointed) then dups.map fun dup => ⟨group.1.2, kept, dup⟩ else []
  | [] => []

def linePairs (db : Db C) : List LinePair :=
  (lineGroups db).flatMap (pairsOf ((db.relinks.filter (·.sourceTable = .recipeIngredient)).map (·.sourceRowId)))

theorem dedupStatements_eq (db : Db C) :
    dedupStatements db = (linePairs db).map fun pair => mergeLine pair.ingredientId pair.kept pair.dupId := by
  unfold dedupStatements linePairs
  rw [List.map_flatMap]
  refine congrArg (fun f => (lineGroups db).flatMap f) (funext fun group => ?_)
  obtain ⟨key, ids⟩ := group
  cases ids with
  | nil => rfl
  | cons kept dups =>
    unfold pairsOf
    dsimp only
    rw [apply_ite (List.map _), List.map_map]
    rfl

theorem mem_pairsOf {repointed : List ℕ} {group : (ℕ × ℕ) × List ℕ} {pair : LinePair} (h : pair ∈ pairsOf repointed group) :
    ∃ dups, group.2 = pair.kept :: dups ∧ pair.dupId ∈ dups := by
  unfold pairsOf at h
  split at h
  · next kept dups hgroup =>
    split at h
    · obtain ⟨dup, hdup, rfl⟩ := List.mem_map.mp h
      exact ⟨dups, hgroup, hdup⟩
    · cases h
  · cases h

theorem dups_sublist {repointed : List ℕ} {group : (ℕ × ℕ) × List ℕ} :
    ((pairsOf repointed group).map (·.dupId)).Sublist group.2 := by
  unfold pairsOf
  split
  · next kept dups hgroup =>
    rw [hgroup]
    split
    · rw [List.map_map]
      have hid : dups.map ((·.dupId) ∘ fun dup => LinePair.mk group.1.2 kept dup) = dups := List.map_id' dups
      rw [hid]
      exact List.sublist_cons_self kept dups
    · exact List.nil_sublist _
  · exact List.nil_sublist _

section Groups
variable {db : Db C}

theorem lineGroups_disjoint (hids : (db.recipeIngredients.map (·.id)).Nodup) :
    ((lineGroups db).map Prod.snd).Pairwise List.Disjoint ∧
      ∀ ids ∈ (lineGroups db).map Prod.snd, ids.Nodup ∧ ids ⊆ db.recipeIngredients.map (·.id) := by
  have hsub : ((db.recipeIngredients.filter (·.ingredientId ∈ db.audits.map (·.newIngredientId))).map (·.id)).Sublist
      (db.recipeIngredients.map (·.id)) := List.filter_sublist.map _
  obtain ⟨hdisjoint, hnodup⟩ := Buckets.entries_disjoint
    (fun r : RecipeIngredient C => (r.recipeId, r.ingredientId)) (hids.sublist hsub)
  have hmap : (lineGroups db).map Prod.snd = ((Buckets.buckets (fun r : RecipeIngredient C => (r.recipeId, r.ingredientId))
      (·.id) (db.recipeIngredients.filter (·.ingredientId ∈ db.audits.map (·.newIngredientId)))).entries.map Prod.snd).map
        (·.insertionSort (· ≤ ·)) := by
    rw [lineGroups, List.map_map, List.map_map]
    rfl
  rw [hmap]
  constructor
  · refine List.pairwise_map.mpr (hdisjoint.imp fun {ids ids'} h i hi hi' => ?_)
    exact h ((List.perm_insertionSort _ ids).mem_iff.mp hi) ((List.perm_insertionSort _ ids').mem_iff.mp hi')
  · intro ids hmem
    obtain ⟨ids, hids, rfl⟩ := List.mem_map.mp hmem
    obtain ⟨hn, hs⟩ := hnodup ids hids
    exact ⟨(List.perm_insertionSort _ ids).nodup_iff.mpr hn,
      fun i hi => hsub.subset (hs ((List.perm_insertionSort _ ids).mem_iff.mp hi))⟩

/-- Every line is merged once, and no line that others are merged into is merged itself. -/
structure Separate (ids : List ℕ) (pairs : List LinePair) : Prop where
  nodup : (pairs.map (·.dupId)).Nodup
  dups : ∀ pair ∈ pairs, pair.dupId ∈ ids
  kepts : ∀ pair ∈ pairs, ∀ pair' ∈ pairs, pair.kept ≠ pair'.dupId

theorem separate_linePairs (hids : (db.recipeIngredients.map (·.id)).Nodup) :
    Separate (db.recipeIngredients.map (·.id)) (linePairs db) := by
  obtain ⟨hdisjoint, hgroups⟩ := lineGroups_disjoint hids
  unfold linePairs
  generalize (db.relinks.filter (·.sourceTable = .recipeIngredient)).map (·.sourceRowId) = repointed
  have hdisjoint := List.pairwise_map.mp hdisjoint
  refine ⟨?_, fun pair hpair => ?_, fun pair hpair pair' hpair' heq => ?_⟩
  · rw [List.map_flatMap]
    refine List.nodup_flatMap.mpr ⟨fun group hgroup => ?_, hdisjoint.imp fun {group group'} h i hi hi' => ?_⟩
    · exact (hgroups _ (List.mem_map_of_mem hgroup)).1.sublist dups_sublist
    · exact h (dups_sublist.subset hi) (dups_sublist.subset hi')
  · obtain ⟨group, hgroup, hmem⟩ := List.mem_flatMap.mp hpair
    exact (hgroups _ (List.mem_map_of_mem hgroup)).2 (dups_sublist.subset (List.mem_map_of_mem hmem))
  · obtain ⟨group, hgroup, hmem⟩ := List.mem_flatMap.mp hpair
    obtain ⟨group', hgroup', hmem'⟩ := List.mem_flatMap.mp hpair'
    obtain ⟨dups, hsplit, -⟩ := mem_pairsOf hmem
    obtain ⟨dups', hsplit', hdup'⟩ := mem_pairsOf hmem'
    have hkept : pair.kept ∈ group.2 := hsplit ▸ List.mem_cons_self
    have hdup : pair'.dupId ∈ group'.2 := hsplit' ▸ List.mem_cons_of_mem _ hdup'
    have hsame : group = group' := by
      by_contra hdiff
      have hsymm : Std.Symm fun group group' : (ℕ × ℕ) × List ℕ => List.Disjoint group.2 group'.2 := ⟨fun _ _ h => h.symm⟩
      exact hdisjoint.forall hgroup hgroup' hdiff hkept (heq ▸ hdup)
    subst hsame
    rw [hsplit] at hsplit'
    obtain ⟨hhead, rfl⟩ := List.cons.inj hsplit'
    have hnodup := (hgroups _ (List.mem_map_of_mem hgroup)).1
    rw [hsplit] at hnodup
    exact (List.nodup_cons.mp hnodup).1 (heq ▸ hdup')

end Groups

/-! ### The merging -/

section Merging
variable {db : Db C} {origin : List (RecipeIngredient C)} {pairs : List LinePair} {pair : LinePair}

theorem absorbedLines_append (deletedRows deletedRows' : List (DeletedRow C)) :
    absorbedLines (deletedRows ++ deletedRows') = absorbedLines deletedRows ++ absorbedLines deletedRows' :=
  List.filterMap_append

theorem RecipesValid.absorb {is : List ℕ} {rows : List (RecipeIngredient C)} {row : RecipeIngredient C} {kept : ℕ}
    (h : RecipesValid is rows) : RecipesValid is (quantityAmount.absorb kept row rows) := by
  have hmem : ∀ r ∈ quantityAmount.absorb kept row rows, ∃ r' ∈ rows, r.canonicalName = r'.canonicalName ∧
      r.ingredientId = r'.ingredientId := fun r hr => by
    obtain ⟨r', hr', rfl⟩ := mem_updateAt.mp (List.mem_of_mem_filter hr)
    refine ⟨r', hr', ?_⟩
    split <;> exact ⟨rfl, rfl⟩
  refine ⟨?_, fun r hr => ?_, fun r hr => ?_⟩
  · have hids : (updateAt quantityAmount.id kept (quantityAmount.add (quantityAmount.get row)) rows).map (·.id) =
        rows.map (·.id) := map_updateAt fun _ => rfl
    exact (hids ▸ h.ids).sublist (List.filter_sublist.map _)
  · obtain ⟨r', hr', hname, -⟩ := hmem r hr
    exact hname ▸ h.named r' hr'
  · obtain ⟨r', hr', -, hid⟩ := hmem r hr
    exact hid ▸ h.refers r' hr'

/-- The lines that a merging has taken out, and the other tables as they were. -/
structure Merged (origin : List (RecipeIngredient C)) (mappings : List (DeletedRow C)) (before db : Db C) : Prop where
  absorbed : quantityAmount.Absorbed origin db.recipeIngredients (absorbedLines db.deletedRows)
  mappings : db.deletedRows.filter (!·.isLine) = mappings
  lines : (db.deletedRows.filter (·.isLine)).map (·.rowData) =
    (absorbedLines db.deletedRows).map fun e => .recipeIngredient e.1
  ingredients : db.ingredients = before.ingredients
  pantry : db.pantryItems = before.pantryItems
  grocery : db.groceryListItems = before.groceryListItems
  products : db.ingredientProductMappings = before.ingredientProductMappings
  providers : db.providerIngredientMappings = before.providerIngredientMappings
  audits : db.audits = before.audits
  relinks : db.relinks = before.relinks

theorem run_merges {mappings : List (DeletedRow C)} {before : Db C} (hvalid : db.Valid)
    (hmerged : Merged origin mappings before db) (hseparate : Separate (db.recipeIngredients.map (·.id)) pairs)
    (hkepts : ∀ pair ∈ pairs, pair.dupId ∉ (absorbedLines db.deletedRows).map Prod.snd) :
    ∃ db', run (pairs.map fun pair => mergeLine pair.ingredientId pair.kept pair.dupId) db = .ok db' ∧ db'.Valid ∧
      Merged origin mappings before db' := by
  induction pairs generalizing db with
  | nil => exact ⟨db, rfl, hvalid, hmerged⟩
  | cons pair pairs ih =>
    obtain ⟨row, hrow⟩ : ∃ row, row? (·.id) db.recipeIngredients pair.dupId = some row :=
      Option.ne_none_iff_exists'.mp fun hnone => row?_eq_none.mp hnone (hseparate.dups pair List.mem_cons_self)
    have hid : row.id = pair.dupId := key_of_row? hrow
    let deleted : DeletedRow C :=
      { mergeAuditId := auditIdByNew db pair.ingredientId, rowData := .recipeIngredient row, mergedIntoRowId := some pair.kept }
    let db' : Db C :=
      { db with
        recipeIngredients := quantityAmount.absorb pair.kept row db.recipeIngredients
        deletedRows := db.deletedRows ++ [deleted] }
    have hmerge : mergeLine pair.ingredientId pair.kept pair.dupId db = .ok db' := by
      unfold mergeLine
      rw [hrow]
    have hlog : absorbedLines db'.deletedRows = absorbedLines db.deletedRows ++ [(row, pair.kept)] :=
      absorbedLines_append _ _
    have hvalid' : db'.Valid := { hvalid with recipes := hvalid.recipes.absorb }
    have hmerged' : Merged origin mappings before db' := { hmerged with
      absorbed := by
        rw [hlog]
        have hfree := hkepts pair List.mem_cons_self
        rw [← hid] at hfree
        exact hmerged.absorbed.absorb (mem_of_row? hrow) hfree
      mappings := by
        rw [List.filter_append, hmerged.mappings]
        exact List.append_nil _
      lines := by
        rw [List.filter_append, List.map_append, hmerged.lines, hlog, List.map_append]
        rfl }
    have hids : db'.recipeIngredients.map (·.id) = (db.recipeIngredients.map (·.id)).filter (· ≠ pair.dupId) := by
      have hsame : (updateAt quantityAmount.id pair.kept (quantityAmount.add (quantityAmount.get row))
          db.recipeIngredients).map (·.id) = db.recipeIngredients.map (·.id) := map_updateAt fun _ => rfl
      rw [← hsame, List.filter_map, ← hid]
      rfl
    obtain ⟨hnot, hnodup⟩ := List.nodup_cons.mp hseparate.nodup
    have hseparate' : Separate (db'.recipeIngredients.map (·.id)) pairs := by
      refine ⟨hnodup, fun p hp => ?_, fun p hp p' hp' => hseparate.kepts p (List.mem_cons_of_mem _ hp) p'
        (List.mem_cons_of_mem _ hp')⟩
      rw [hids]
      have hmem : p.dupId ∈ pairs.map (·.dupId) := List.mem_map_of_mem hp
      refine List.mem_filter.mpr ⟨hseparate.dups p (List.mem_cons_of_mem _ hp), decide_eq_true fun heq => ?_⟩
      rw [heq] at hmem
      exact hnot hmem
    have hkepts' : ∀ p ∈ pairs, p.dupId ∉ (absorbedLines db'.deletedRows).map Prod.snd := fun p hp => by
      rw [hlog, List.map_append]
      refine fun hmem => (List.mem_append.mp hmem).elim (hkepts p (List.mem_cons_of_mem _ hp)) fun hkept => ?_
      exact hseparate.kepts pair List.mem_cons_self p (List.mem_cons_of_mem _ hp) (List.mem_singleton.mp hkept).symm
    obtain ⟨db'', hrun, hrest⟩ := ih hvalid' hmerged' hseparate' hkepts'
    exact ⟨db'', (run_cons hmerge hvalid').trans hrun, hrest⟩

theorem run_dedup (hvalid : db.Valid) (hmappings : ∀ deleted ∈ db.deletedRows, deleted.isMapping = true) :
    ∃ db', run (dedupStatements db) db = .ok db' ∧ db'.Valid ∧ Merged db.recipeIngredients db.deletedRows db db' := by
  have hline : ∀ deleted ∈ db.deletedRows, deleted.isLine = false := fun deleted hmem => by
    have hmapping := hmappings deleted hmem
    unfold DeletedRow.isMapping at hmapping
    unfold DeletedRow.isLine
    split at hmapping <;> simp_all
  have hnone : absorbedLines db.deletedRows = [] := by
    refine List.filterMap_eq_nil_iff.mpr fun deleted hmem => ?_
    have hnot := hline deleted hmem
    unfold DeletedRow.isLine at hnot
    split
    · next hdata _ => simp [hdata] at hnot
    · rfl
  have hmerged : Merged db.recipeIngredients db.deletedRows db db := by
    refine ⟨?_, ?_, ?_, rfl, rfl, rfl, rfl, rfl, rfl, rfl⟩
    · rw [hnone]
      exact Amount.absorbed_refl hvalid.recipes.ids
    · exact List.filter_eq_self.mpr fun deleted hmem => by rw [hline deleted hmem]; rfl
    · rw [hnone, List.filter_eq_nil_iff.mpr fun deleted hmem => by simp [hline deleted hmem]]
      rfl
  rw [dedupStatements_eq]
  refine run_merges hvalid hmerged (separate_linePairs hvalid.recipes.ids) fun pair _ => ?_
  rw [hnone]
  exact List.not_mem_nil

end Merging

end CestaPlan.Consolidation
