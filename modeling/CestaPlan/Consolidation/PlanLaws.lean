import CestaPlan.Consolidation.Identity
import CestaPlan.Library.FirstWins
import CestaPlan.Library.Ties

/-! What the plan says of the ingredients: which are one, which one survives, and where a name leads afterwards. Its merges depend on no
    order and leave nothing to merge; its aliases do as well, unless names that are compared as one text have different lemmas. -/

namespace CestaPlan.Consolidation
open Relation

section Laws
variable (dictionary : IngredientDictionary) (rows : List (ℕ × String)) (activeIds : List ℕ)

def nameOf (rows : List (ℕ × String)) (i : ℕ) : String := (namesById rows).getD i ""

/-- Two rows are linked. -/
def RowsLinked (i j : ℕ) : Prop := Linked dictionary (nameOf rows) (rows.map Prod.fst) i j

/-- The best ranked of the rows that are linked with one. -/
structure Survives (i survivor : ℕ) : Prop where
  mem : survivor ∈ rows.map Prod.fst
  linked : RowsLinked dictionary rows i survivor
  best : ∀ k ∈ rows.map Prod.fst, RowsLinked dictionary rows i k →
    rank dictionary (namesById rows) activeIds k ≤ rank dictionary (namesById rows) activeIds survivor

variable {dictionary rows activeIds} {i j k s s' : ℕ}

theorem mem_keys_namesById : i ∈ (namesById rows).keys ↔ i ∈ rows.map Prod.fst := by
  refine ⟨fun h => keys_namesById rows h, fun h => ?_⟩
  obtain ⟨row, hrow, rfl⟩ := List.mem_map.mp h
  refine Dict.mem_keys_iff.mpr ?_
  rw [namesById, Dict.get?_foldl_set]
  cases hfind : rows.reverse.find? (fun r => decide (r.1 = row.1)) with
  | none => exact absurd (List.find?_eq_none.mp hfind row (List.mem_reverse.mpr hrow)) (by simp)
  | some r => exact ⟨r.2, rfl⟩

theorem nameOf_eq (hrows : (rows.map Prod.fst).Nodup) {name : String} (h : (i, name) ∈ rows) : nameOf rows i = name := by
  rw [nameOf, Dict.getD, namesById, Dict.get?_foldl_set]
  cases hfind : rows.reverse.find? (fun r => decide (r.1 = i)) with
  | none => exact absurd (List.find?_eq_none.mp hfind _ (List.mem_reverse.mpr h)) (by simp)
  | some r =>
    have hr : r.1 = i := by simpa using List.find?_some hfind
    rw [List.inj_on_of_nodup_map hrows (List.mem_reverse.mp (List.mem_of_find?_eq_some hfind)) h hr]
    rfl

theorem RowsLinked.symm (h : RowsLinked dictionary rows i j) : RowsLinked dictionary rows j i := EqvGen.symm _ _ h

theorem RowsLinked.trans (h : RowsLinked dictionary rows i j) (h' : RowsLinked dictionary rows j k) : RowsLinked dictionary rows i k :=
  EqvGen.trans _ _ _ h h'

theorem rank_injective (h : rank dictionary (namesById rows) activeIds i = rank dictionary (namesById rows) activeIds j) : i = j := by
  unfold rank at h
  injection h with _ h
  injection h with _ h
  injection h with _ h
  injection h with h _
  exact_mod_cast neg_injective h

theorem Survives.unique (h : Survives dictionary rows activeIds i s) (h' : Survives dictionary rows activeIds j s')
    (hij : RowsLinked dictionary rows i j) : s = s' :=
  rank_injective (le_antisymm (h'.best s h.mem (hij.symm.trans h.linked)) (h.best s' h'.mem (hij.trans h'.linked)))

theorem le_pickSurvivor (first : ℕ) (memberIds : List ℕ) : ∀ i ∈ first :: memberIds, rank dictionary (namesById rows) activeIds i ≤
    rank dictionary (namesById rows) activeIds (pickSurvivor dictionary (namesById rows) activeIds first memberIds) := by
  induction memberIds generalizing first with
  | nil =>
    intro i hi
    rw [List.mem_singleton.mp hi]
    exact le_rfl
  | cons second memberIds ih =>
    intro i hi
    have hstep : pickSurvivor dictionary (namesById rows) activeIds first (second :: memberIds) =
        pickSurvivor dictionary (namesById rows) activeIds (if rank dictionary (namesById rows) activeIds first <
          rank dictionary (namesById rows) activeIds second then second else first) memberIds := rfl
    rw [hstep]
    split
    · next hlt =>
      rcases List.mem_cons.mp hi with rfl | hi
      · exact hlt.le.trans (ih second second List.mem_cons_self)
      · exact ih second i hi
    · next hge =>
      rcases List.mem_cons.mp hi with rfl | hi
      · exact ih i i List.mem_cons_self
      · rcases List.mem_cons.mp hi with rfl | hi
        · exact (not_lt.mp hge).trans (ih first first List.mem_cons_self)
        · exact ih first i (List.mem_cons_of_mem _ hi)

theorem linked_iff_rowsLinked : Linked dictionary ((namesById rows).getD · "") (namesById rows).keys i j ↔ RowsLinked dictionary rows i j :=
  ⟨fun h => h.mono fun _ hi => mem_keys_namesById.mp hi, fun h => h.mono fun _ hi => mem_keys_namesById.mpr hi⟩

variable (activeIds) in
theorem exists_survival {g : List ℕ} (hg : g ∈ groupsOf dictionary (namesById rows)) (hi : i ∈ g) (hj : j ∈ g) (hij : i ≠ j) :
    ∃ group ∈ survivals dictionary (namesById rows) activeIds (groupsOf dictionary (namesById rows)), group.memberIds.Perm g := by
  have hperm := List.perm_insertionSort (· ≤ ·) g
  cases hsort : g.insertionSort (· ≤ ·) with
  | nil => exact absurd (hperm.mem_iff.mpr hi) (by rw [hsort]; exact List.not_mem_nil)
  | cons first rest =>
    cases rest with
    | nil =>
      rw [hsort] at hperm
      have hi' := List.mem_singleton.mp (hperm.mem_iff.mpr hi)
      have hj' := List.mem_singleton.mp (hperm.mem_iff.mpr hj)
      exact absurd (hi'.trans hj'.symm) hij
    | cons second rest =>
      have hfolded : (⟨pickSurvivor dictionary (namesById rows) activeIds first (second :: rest), first :: second :: rest⟩ : Survival) ∈
          survivals dictionary (namesById rows) activeIds (groupsOf dictionary (namesById rows)) :=
        List.mem_filterMap.mpr ⟨g, hg, by rw [hsort]⟩
      exact ⟨_, hfolded, hsort ▸ hperm⟩

theorem survives_of_mem_survivals {group : Survival}
    (h : group ∈ survivals dictionary (namesById rows) activeIds (groupsOf dictionary (namesById rows))) (hi : i ∈ group.memberIds) :
    Survives dictionary rows activeIds i group.survivorId ∧ i ∈ rows.map Prod.fst := by
  obtain ⟨hsurvivor, g, hg, hperm⟩ := mem_survivals h
  obtain ⟨w, hw, hmem⟩ := (mem_groupsOf dictionary (namesById rows)).1 g hg
  have hmember {j : ℕ} : j ∈ group.memberIds ↔ j ∈ rows.map Prod.fst ∧ RowsLinked dictionary rows w j := by
    rw [hperm.mem_iff, hmem j, mem_keys_namesById, linked_iff_rowsLinked]
  have hbest : ∀ j ∈ group.memberIds, rank dictionary (namesById rows) activeIds j ≤
      rank dictionary (namesById rows) activeIds group.survivorId := by
    obtain ⟨ids, -, hsome⟩ := List.mem_filterMap.mp h
    split at hsome
    · cases hsome
      exact fun j hj => le_pickSurvivor _ _ j hj
    · cases hsome
  obtain ⟨hisrow, hwi⟩ := hmember.mp hi
  obtain ⟨hsrow, hws⟩ := hmember.mp hsurvivor
  exact ⟨⟨hsrow, hwi.symm.trans hws, fun k hk hik => hbest k (hmember.mpr ⟨hk, hwi.trans hik⟩)⟩, hisrow⟩

theorem mem_merges_iff {m : IngredientMerge} : m ∈ (buildConsolidationPlan dictionary rows activeIds).merges ↔
    m.oldId ∈ rows.map Prod.fst ∧ Survives dictionary rows activeIds m.oldId m.newId ∧ m.oldId ≠ m.newId ∧
      m.oldCanonicalName = nameOf rows m.oldId ∧ m.newCanonicalName = nameOf rows m.newId := by
  have hsorted : m ∈ (buildConsolidationPlan dictionary rows activeIds).merges ↔
      m ∈ (survivals dictionary (namesById rows) activeIds (groupsOf dictionary (namesById rows))).flatMap (mergesOf (namesById rows)) :=
    List.mem_insertionSort _
  rw [hsorted, List.mem_flatMap]
  constructor
  · rintro ⟨group, hgroup, hm⟩
    obtain ⟨old, hold, rfl⟩ := List.mem_map.mp hm
    obtain ⟨hmember, hne⟩ := List.mem_filter.mp hold
    obtain ⟨hsurvives, hrow⟩ := survives_of_mem_survivals hgroup hmember
    exact ⟨hrow, hsurvives, of_decide_eq_true hne, rfl, rfl⟩
  · obtain ⟨old, new, oldName, newName⟩ := m
    rintro ⟨hrow, hsurvives, hne, holdName, hnewName⟩
    change old ∈ rows.map Prod.fst at hrow
    change Survives dictionary rows activeIds old new at hsurvives
    change old ≠ new at hne
    obtain ⟨g, hg, holdg⟩ := (mem_groupsOf dictionary (namesById rows)).2 old (mem_keys_namesById.mpr hrow)
    obtain ⟨w, hw, hmem⟩ := (mem_groupsOf dictionary (namesById rows)).1 g hg
    have hwold := linked_iff_rowsLinked.mp ((hmem old).mp holdg).2
    have hnewg : new ∈ g := (hmem new).mpr
      ⟨mem_keys_namesById.mpr hsurvives.mem, linked_iff_rowsLinked.mpr (hwold.trans hsurvives.linked)⟩
    obtain ⟨group, hgroup, hperm⟩ := exists_survival activeIds hg holdg hnewg hne
    have hmember : old ∈ group.memberIds := hperm.mem_iff.mpr holdg
    have hsame : group.survivorId = new := (survives_of_mem_survivals hgroup hmember).1.unique hsurvives (.refl _)
    refine ⟨group, hgroup, List.mem_map.mpr ⟨old, List.mem_filter.mpr ⟨hmember, decide_eq_true (hsame ▸ hne)⟩, ?_⟩⟩
    rw [hsame]
    exact IngredientMerge.mk.injEq .. ▸ ⟨rfl, rfl, holdName.symm, hnewName.symm⟩

variable (dictionary activeIds) in
theorem exists_survives (hi : i ∈ rows.map Prod.fst) : ∃ s, Survives dictionary rows activeIds i s := by
  obtain ⟨g, hg, hig⟩ := (mem_groupsOf dictionary (namesById rows)).2 i (mem_keys_namesById.mpr hi)
  by_cases halone : ∀ j ∈ g, i = j
  · obtain ⟨w, hw, hmem⟩ := (mem_groupsOf dictionary (namesById rows)).1 g hg
    have hwi := linked_iff_rowsLinked.mp ((hmem i).mp hig).2
    refine ⟨i, hi, .refl i, fun k hk hik => ?_⟩
    have hkg : k ∈ g := (hmem k).mpr ⟨mem_keys_namesById.mpr hk, linked_iff_rowsLinked.mpr (hwi.trans hik)⟩
    rw [halone k hkg]
  · push Not at halone
    obtain ⟨j, hj, hij⟩ := halone
    obtain ⟨group, hgroup, hperm⟩ := exists_survival activeIds hg hig hj hij
    exact ⟨_, (survives_of_mem_survivals hgroup (hperm.mem_iff.mpr hig)).1⟩

/-- Where an id leads once the plan was applied. -/
def survivorOf (plan : ConsolidationPlan) (i : ℕ) : ℕ := ((plan.merges.find? (·.oldId = i)).map (·.newId)).getD i

variable (dictionary activeIds) in
theorem survives_survivorOf (hi : i ∈ rows.map Prod.fst) :
    Survives dictionary rows activeIds i (survivorOf (buildConsolidationPlan dictionary rows activeIds) i) := by
  unfold survivorOf
  cases hfind : (buildConsolidationPlan dictionary rows activeIds).merges.find? (·.oldId = i) with
  | none =>
    obtain ⟨s, hs⟩ := exists_survives dictionary activeIds hi
    by_cases hne : i = s
    · exact hne ▸ hs
    · have hmerge := (mem_merges_iff (m := ⟨i, s, nameOf rows i, nameOf rows s⟩)).mpr ⟨hi, hs, hne, rfl, rfl⟩
      exact absurd (List.find?_eq_none.mp hfind _ hmerge) (by simp)
  | some m =>
    have hold : m.oldId = i := by simpa using List.find?_some hfind
    exact hold ▸ (mem_merges_iff.mp (List.mem_of_find?_eq_some hfind)).2.1

theorem survivorOf_eq_iff (hi : i ∈ rows.map Prod.fst) (hj : j ∈ rows.map Prod.fst) :
    survivorOf (buildConsolidationPlan dictionary rows activeIds) i = survivorOf (buildConsolidationPlan dictionary rows activeIds) j ↔
      RowsLinked dictionary rows i j := by
  have hsi := survives_survivorOf dictionary activeIds hi
  have hsj := survives_survivorOf dictionary activeIds hj
  exact ⟨fun h => hsi.linked.trans (h ▸ hsj.linked.symm), hsi.unique hsj⟩

theorem mem_unmergedGroups_iff {g : List ℕ} : g ∈ (buildConsolidationPlan dictionary rows activeIds).unmergedGroups ↔
    ∃ i ∈ rows.map Prod.fst, g = [i] ∧ ∀ k ∈ rows.map Prod.fst, RowsLinked dictionary rows i k → k = i := by
  have hsorted : g ∈ (buildConsolidationPlan dictionary rows activeIds).unmergedGroups ↔
      g ∈ ((groupsOf dictionary (namesById rows)).map (·.insertionSort (· ≤ ·))).filter (·.length = 1) := List.mem_insertionSort _
  rw [hsorted, List.mem_filter, List.mem_map, decide_eq_true_eq]
  constructor
  · rintro ⟨⟨ids, hids, rfl⟩, hlength⟩
    obtain ⟨i, hi⟩ := List.length_eq_one_iff.mp hlength
    have hperm := List.perm_insertionSort (· ≤ ·) ids
    rw [hi] at hperm
    obtain ⟨w, hw, hmem⟩ := (mem_groupsOf dictionary (namesById rows)).1 ids hids
    obtain ⟨hirow, hwi⟩ := (hmem i).mp (hperm.mem_iff.mp (List.mem_singleton_self i))
    refine ⟨i, mem_keys_namesById.mp hirow, hi, fun k hk hik => ?_⟩
    have hkids : k ∈ ids := (hmem k).mpr
      ⟨mem_keys_namesById.mpr hk, linked_iff_rowsLinked.mpr ((linked_iff_rowsLinked.mp hwi).trans hik)⟩
    exact List.mem_singleton.mp (hperm.mem_iff.mpr hkids)
  · rintro ⟨i, hi, rfl, halone⟩
    obtain ⟨ids, hids, hiids⟩ := (mem_groupsOf dictionary (namesById rows)).2 i (mem_keys_namesById.mpr hi)
    obtain ⟨w, hw, hmem⟩ := (mem_groupsOf dictionary (namesById rows)).1 ids hids
    have hwi := linked_iff_rowsLinked.mp ((hmem i).mp hiids).2
    have hall : ∀ j ∈ ids, j = i := fun j hj =>
      halone j (mem_keys_namesById.mp ((hmem j).mp hj).1) (hwi.symm.trans (linked_iff_rowsLinked.mp ((hmem j).mp hj).2))
    have hnodup := ((groupsOf_pairwise dictionary (namesById rows)).2 ids hids).1
    have hids' : ids = [i] := by
      refine List.perm_singleton.mp ((List.perm_ext_iff_of_nodup hnodup (List.nodup_singleton i)).mpr fun j => ?_)
      rw [List.mem_singleton]
      exact ⟨hall j, fun h => h ▸ hiids⟩
    exact ⟨⟨ids, hids, by rw [hids']; rfl⟩, rfl⟩

/-! ### Aliases -/

/-- The aliases before those of one text are reduced to the first. -/
def mergeAliases (dictionary : IngredientDictionary) (rows : List (ℕ × String)) (activeIds : List ℕ) : List IngredientAliasPlan :=
  ((survivals dictionary (namesById rows) activeIds (groupsOf dictionary (namesById rows))).flatMap
    (mergesOf (namesById rows))).filterMap (aliasesOf dictionary)

theorem uniqueAliases_eq (aliases : List IngredientAliasPlan) : uniqueAliases aliases = FirstWins.writeAll (·.aliasText) [] aliases := by
  unfold uniqueAliases FirstWins.writeAll
  congr 1
  funext log a
  have hmem : a.aliasText ∈ log.map (·.aliasText) ↔ log.any (·.aliasText = a.aliasText) = true := by simp
  rw [FirstWins.write]
  exact if_congr hmem rfl rfl

theorem mem_mergeAliases {a : IngredientAliasPlan} : a ∈ mergeAliases dictionary rows activeIds ↔
    ∃ m ∈ (buildConsolidationPlan dictionary rows activeIds).merges, aliasesOf dictionary m = some a := by
  rw [mergeAliases, List.mem_filterMap]
  exact exists_congr fun m => and_congr_left fun _ => (List.mem_insertionSort _).symm

theorem mem_mergeAliases_of_mem_aliases {a : IngredientAliasPlan} (h : a ∈ (buildConsolidationPlan dictionary rows activeIds).aliases) :
    a ∈ mergeAliases dictionary rows activeIds := by
  change a ∈ uniqueAliases _ at h
  rw [uniqueAliases_eq] at h
  exact (List.mem_insertionSort _).mp (FirstWins.writeAll_sublist.subset h)

theorem exists_alias {a : IngredientAliasPlan} (h : a ∈ mergeAliases dictionary rows activeIds) :
    ∃ b ∈ (buildConsolidationPlan dictionary rows activeIds).aliases, b.aliasText = a.aliasText := by
  obtain ⟨b, hb, htext⟩ := FirstWins.exists_key_writeAll (·.aliasText) []
    ((List.mem_insertionSort fun a b : IngredientAliasPlan => a.aliasText ≤ b.aliasText).mpr h)
  refine ⟨b, ?_, htext⟩
  show b ∈ uniqueAliases _
  rw [uniqueAliases_eq]
  exact hb

theorem aliasesOf_eq_some_iff {m : IngredientMerge} {a : IngredientAliasPlan} : aliasesOf dictionary m = some a ↔
    (dictionary.normalize m.oldCanonicalName ≠ "" ∧
      dictionary.normalize m.oldCanonicalName ≠ dictionary.normalize m.newCanonicalName) ∧
        ⟨dictionary.normalize m.oldCanonicalName, m.newId⟩ = a := by
  unfold aliasesOf
  dsimp only
  split
  · next h => simp [h]
  · next h => simp [h]

variable (dictionary rows activeIds) in
/-- Rows that are compared as one text are linked, or the survivor of each is compared as that text too, so that no alias is made of it. -/
def NamesAgree : Prop := ∀ i ∈ rows.map Prod.fst, ∀ j ∈ rows.map Prod.fst,
  dictionary.normalize (nameOf rows i) = dictionary.normalize (nameOf rows j) → dictionary.normalize (nameOf rows i) ≠ "" →
  ¬ RowsLinked dictionary rows i j → ∀ s, Survives dictionary rows activeIds i s →
  dictionary.normalize (nameOf rows s) = dictionary.normalize (nameOf rows i)

/-- Where names agree, the rows that are compared as an alias are linked with the row that it was made of. -/
theorem NamesAgree.linked (h : NamesAgree dictionary rows activeIds) {m : IngredientMerge} {a : IngredientAliasPlan}
    (hm : m ∈ (buildConsolidationPlan dictionary rows activeIds).merges) (ha : aliasesOf dictionary m = some a)
    (hj : j ∈ rows.map Prod.fst) (htext : dictionary.normalize (nameOf rows j) = a.aliasText) : RowsLinked dictionary rows m.oldId j := by
  obtain ⟨hold, hsurvives, -, holdName, hnewName⟩ := mem_merges_iff.mp hm
  obtain ⟨⟨hne, hdiffer⟩, rfl⟩ := aliasesOf_eq_some_iff.mp ha
  rw [holdName] at hne hdiffer htext
  rw [hnewName] at hdiffer
  by_contra hunlinked
  exact hdiffer (h m.oldId hold j hj htext.symm hne hunlinked m.newId hsurvives).symm

theorem NamesAgree.untied (h : NamesAgree dictionary rows activeIds) {a b : IngredientAliasPlan}
    (ha : a ∈ mergeAliases dictionary rows activeIds) (hb : b ∈ mergeAliases dictionary rows activeIds)
    (htext : a.aliasText = b.aliasText) : a = b := by
  obtain ⟨m, hm, hma⟩ := mem_mergeAliases.mp ha
  obtain ⟨m', hm', hmb⟩ := mem_mergeAliases.mp hb
  obtain ⟨hold', hsurvives', -, holdName', -⟩ := mem_merges_iff.mp hm'
  obtain ⟨hold, hsurvives, -, -, -⟩ := mem_merges_iff.mp hm
  obtain ⟨-, rfl⟩ := aliasesOf_eq_some_iff.mp hmb
  have hlinked := h.linked hm hma hold' ((congrArg dictionary.normalize holdName'.symm).trans htext.symm)
  obtain ⟨-, rfl⟩ := aliasesOf_eq_some_iff.mp hma
  exact IngredientAliasPlan.mk.injEq .. ▸ ⟨htext, hsurvives.unique hsurvives' hlinked⟩

/-! ### Orders -/

section Orders
variable {rows' : List (ℕ × String)}

theorem nameOf_perm (hrows : (rows.map Prod.fst).Nodup) (hperm : rows.Perm rows') : nameOf rows = nameOf rows' := by
  funext i
  rw [nameOf, nameOf, Dict.getD, Dict.getD, namesById, namesById,
    Dict.get?_foldl_set_perm hperm fun x hx y hy h => congrArg Prod.snd (List.inj_on_of_nodup_map hrows hx hy h)]

theorem rowsLinked_perm (hrows : (rows.map Prod.fst).Nodup) (hperm : rows.Perm rows') :
    RowsLinked dictionary rows i j ↔ RowsLinked dictionary rows' i j := by
  unfold RowsLinked
  rw [nameOf_perm hrows hperm]
  exact ⟨fun h => h.mono (hperm.map _).subset, fun h => h.mono (hperm.map _).symm.subset⟩

theorem rank_perm (hrows : (rows.map Prod.fst).Nodup) (hperm : rows.Perm rows') (i : ℕ) :
    rank dictionary (namesById rows) activeIds i = rank dictionary (namesById rows') activeIds i := by
  have hname : (namesById rows).getD i "" = (namesById rows').getD i "" := congrFun (nameOf_perm hrows hperm) i
  rw [rank, rank, hname]

theorem survives_perm (hrows : (rows.map Prod.fst).Nodup) (hperm : rows.Perm rows') :
    Survives dictionary rows activeIds i s ↔ Survives dictionary rows' activeIds i s := by
  have hmem (k : ℕ) : k ∈ rows.map Prod.fst ↔ k ∈ rows'.map Prod.fst := (hperm.map _).mem_iff
  constructor
  · intro h
    refine ⟨(hmem s).mp h.mem, (rowsLinked_perm hrows hperm).mp h.linked, fun k hk hik => ?_⟩
    rw [← rank_perm hrows hperm, ← rank_perm hrows hperm]
    exact h.best k ((hmem k).mpr hk) ((rowsLinked_perm hrows hperm).mpr hik)
  · intro h
    refine ⟨(hmem s).mpr h.mem, (rowsLinked_perm hrows hperm).mpr h.linked, fun k hk hik => ?_⟩
    rw [rank_perm hrows hperm, rank_perm hrows hperm]
    exact h.best k ((hmem k).mp hk) ((rowsLinked_perm hrows hperm).mp hik)

variable (dictionary activeIds) in
theorem merges_perm (hrows : (rows.map Prod.fst).Nodup) (hperm : rows.Perm rows') :
    (buildConsolidationPlan dictionary rows activeIds).merges = (buildConsolidationPlan dictionary rows' activeIds).merges := by
  have hnodup (rows : List (ℕ × String)) := (folds_plan dictionary activeIds rows).nodup
  have hmem (m) : m ∈ (buildConsolidationPlan dictionary rows activeIds).merges ↔
      m ∈ (buildConsolidationPlan dictionary rows' activeIds).merges := by
    rw [mem_merges_iff, mem_merges_iff, survives_perm hrows hperm, nameOf_perm hrows hperm, (hperm.map Prod.fst).mem_iff]
  have hlists := (List.perm_ext_iff_of_nodup (hnodup rows).of_map (hnodup rows').of_map).mpr hmem
  have htotal : Std.Total fun a b : IngredientMerge => a.oldId ≤ b.oldId := ⟨fun a b => le_total _ _⟩
  have htrans : IsTrans IngredientMerge fun a b => a.oldId ≤ b.oldId := ⟨fun _ _ _ => le_trans⟩
  refine Ties.eq_of_untied hlists (List.pairwise_insertionSort _ _) (List.pairwise_insertionSort _ _) fun a ha b hb hab hba => ?_
  exact List.inj_on_of_nodup_map (hnodup rows) ha hb (le_antisymm hab hba)

variable (dictionary activeIds) in
theorem unmergedGroups_perm (hrows : (rows.map Prod.fst).Nodup) (hperm : rows.Perm rows') :
    (buildConsolidationPlan dictionary rows activeIds).unmergedGroups =
      (buildConsolidationPlan dictionary rows' activeIds).unmergedGroups := by
  have hnodup (rows : List (ℕ × String)) : (buildConsolidationPlan dictionary rows activeIds).unmergedGroups.Nodup := by
    refine (List.perm_insertionSort _ _).nodup_iff.mpr ?_
    have hdisjoint := (groupsOf_pairwise dictionary (namesById rows)).1
    have hsorted : ((groupsOf dictionary (namesById rows)).map (·.insertionSort (· ≤ ·))).Pairwise List.Disjoint :=
      List.pairwise_map.mpr (hdisjoint.imp fun h i hi hi' =>
        h ((List.mem_insertionSort _).mp hi) ((List.mem_insertionSort _).mp hi'))
    refine List.pairwise_filter.mpr (hsorted.imp fun {g g'} h hg _ heq => ?_)
    subst heq
    obtain ⟨i, rfl⟩ := List.length_eq_one_iff.mp (of_decide_eq_true hg)
    exact h (List.mem_singleton_self i) (List.mem_singleton_self i)
  have hmem (g) : g ∈ (buildConsolidationPlan dictionary rows activeIds).unmergedGroups ↔
      g ∈ (buildConsolidationPlan dictionary rows' activeIds).unmergedGroups := by
    simp only [mem_unmergedGroups_iff, rowsLinked_perm hrows hperm, (hperm.map Prod.fst).mem_iff]
  have hlists := (List.perm_ext_iff_of_nodup (hnodup rows) (hnodup rows')).mpr hmem
  exact Ties.eq_of_untied hlists (List.pairwise_insertionSort _ _) (List.pairwise_insertionSort _ _)
    fun a _ b _ hab hba => le_antisymm hab hba

theorem NamesAgree.aliases_perm (h : NamesAgree dictionary rows activeIds) (hrows : (rows.map Prod.fst).Nodup)
    (hperm : rows.Perm rows') :
    (buildConsolidationPlan dictionary rows activeIds).aliases = (buildConsolidationPlan dictionary rows' activeIds).aliases := by
  have hmerges : (mergeAliases dictionary rows activeIds).Perm (mergeAliases dictionary rows' activeIds) := by
    have hsorted (rows : List (ℕ × String)) := List.perm_insertionSort (fun a b : IngredientMerge => a.oldId ≤ b.oldId)
      ((survivals dictionary (namesById rows) activeIds (groupsOf dictionary (namesById rows))).flatMap (mergesOf (namesById rows)))
    have hsame : (buildConsolidationPlan dictionary rows activeIds).merges = (buildConsolidationPlan dictionary rows' activeIds).merges :=
      merges_perm dictionary activeIds hrows hperm
    exact ((hsorted rows).symm.trans ((List.Perm.of_eq hsame).trans (hsorted rows'))).filterMap _
  have htotal : Std.Total fun a b : IngredientAliasPlan => a.aliasText ≤ b.aliasText := ⟨fun a b => String.le_total _ _⟩
  have htrans : IsTrans IngredientAliasPlan fun a b => a.aliasText ≤ b.aliasText := ⟨fun _ _ _ => String.le_trans⟩
  refine congrArg uniqueAliases (Ties.insertionSort_eq_of_untied hmerges fun a ha b hb hab hba => ?_)
  exact h.untied ha hb (String.le_antisymm hab hba)

end Orders

/-! ### The laws -/

/-- The rows that a plan leaves. -/
def remaining (plan : ConsolidationPlan) (rows : List (ℕ × String)) : List (ℕ × String) :=
  rows.filter fun row => row.1 ∉ plan.merges.map (·.oldId)

variable (dictionary rows activeIds) in
structure PlanHolds : Prop where
  grouped : ∀ i ∈ rows.map Prod.fst, ∀ j ∈ rows.map Prod.fst,
    survivorOf (buildConsolidationPlan dictionary rows activeIds) i = survivorOf (buildConsolidationPlan dictionary rows activeIds) j ↔
      RowsLinked dictionary rows i j
  orderFree : ∀ rows', rows.Perm rows' → buildConsolidationPlan dictionary rows' activeIds = buildConsolidationPlan dictionary rows activeIds
  stays : ∀ m ∈ (buildConsolidationPlan dictionary rows activeIds).merges,
    m.newId ∉ (buildConsolidationPlan dictionary rows activeIds).merges.map (·.oldId)
  settled : (buildConsolidationPlan dictionary (remaining (buildConsolidationPlan dictionary rows activeIds) rows)
    (activeIds.map (survivorOf (buildConsolidationPlan dictionary rows activeIds)))).merges = []
  aliases : ∀ a ∈ (buildConsolidationPlan dictionary rows activeIds).aliases, ∀ row ∈ rows, dictionary.normalize row.2 = a.aliasText →
    survivorOf (buildConsolidationPlan dictionary rows activeIds) row.1 = a.ingredientId

theorem remaining_unlinked (hi : i ∈ (remaining (buildConsolidationPlan dictionary rows activeIds) rows).map Prod.fst)
    (hj : j ∈ (remaining (buildConsolidationPlan dictionary rows activeIds) rows).map Prod.fst) (h : RowsLinked dictionary rows i j) :
    i = j := by
  have hself {i : ℕ} (hi : i ∈ (remaining (buildConsolidationPlan dictionary rows activeIds) rows).map Prod.fst) :
      Survives dictionary rows activeIds i i := by
    obtain ⟨row, hrow, rfl⟩ := List.mem_map.mp hi
    obtain ⟨hmem, hkept⟩ := List.mem_filter.mp hrow
    have hmem := List.mem_map_of_mem (f := Prod.fst) hmem
    obtain ⟨s, hs⟩ := exists_survives dictionary activeIds hmem
    by_cases hne : row.1 = s
    · exact hne ▸ hs
    · have hmerge := (mem_merges_iff (m := ⟨row.1, s, nameOf rows row.1, nameOf rows s⟩)).mpr ⟨hmem, hs, hne, rfl, rfl⟩
      exact absurd (List.mem_map_of_mem (f := (·.oldId)) hmerge) (of_decide_eq_true hkept)
  exact (hself hi).unique (hself hj) h

theorem merges_remaining (hrows : (rows.map Prod.fst).Nodup) (activeIds' : List ℕ) :
    (buildConsolidationPlan dictionary (remaining (buildConsolidationPlan dictionary rows activeIds) rows) activeIds').merges = [] := by
  refine List.eq_nil_iff_forall_not_mem.mpr fun m hm => ?_
  obtain ⟨hold, hsurvives, hne, -, -⟩ := mem_merges_iff.mp hm
  have hsub : (remaining (buildConsolidationPlan dictionary rows activeIds) rows).Sublist rows := List.filter_sublist
  generalize hrest : remaining (buildConsolidationPlan dictionary rows activeIds) rows = rest at *
  -- A row that is left has its name still, so rows that are linked after the plan were linked before it.
  have hname (i : ℕ) (hi : i ∈ rest.map Prod.fst) : nameOf rest i = nameOf rows i := by
    obtain ⟨row, hrow, rfl⟩ := List.mem_map.mp hi
    rw [nameOf_eq (hrows.sublist (hsub.map _)) hrow, nameOf_eq hrows (hsub.subset hrow)]
  have hlinked : RowsLinked dictionary rows m.oldId m.newId := by
    refine EqvGen.mono (fun x y h => ?_) _ _ hsurvives.linked
    obtain ⟨⟨hx, hy⟩, hsame⟩ := h
    rw [hname x hx, hname y hy] at hsame
    exact ⟨⟨(hsub.map _).subset hx, (hsub.map _).subset hy⟩, hsame⟩
  subst hrest
  exact hne (remaining_unlinked hold hsurvives.mem hlinked)

theorem namesAgree_of_planHolds (hrows : (rows.map Prod.fst).Nodup) (h : PlanHolds dictionary rows activeIds) : NamesAgree dictionary rows activeIds := by
  intro i hi j hj hsame hne hunlinked s hs
  by_contra hdiffer
  have his : i ≠ s := fun heq => hdiffer (heq ▸ rfl)
  have hmerge := (mem_merges_iff (m := ⟨i, s, nameOf rows i, nameOf rows s⟩)).mpr ⟨hi, hs, his, rfl, rfl⟩
  obtain ⟨b, hb, htext⟩ := exists_alias (mem_mergeAliases.mpr
    ⟨_, hmerge, aliasesOf_eq_some_iff.mpr ⟨⟨hne, Ne.symm hdiffer⟩, rfl⟩⟩)
  have hleads (k) (hk : k ∈ rows.map Prod.fst) (hkname : dictionary.normalize (nameOf rows k) = b.aliasText) :
      survivorOf (buildConsolidationPlan dictionary rows activeIds) k = b.ingredientId := by
    obtain ⟨row, hrow, rfl⟩ := List.mem_map.mp hk
    exact h.aliases b hb row hrow (by rw [← hkname, nameOf_eq hrows hrow])
  exact hunlinked ((h.grouped i hi j hj).mp ((hleads i hi htext.symm).trans (hleads j hj (hsame.symm.trans htext.symm)).symm))

/-- The plan keeps its laws exactly where rows that are compared as one text are linked, or no alias is made of that text. -/
theorem planHolds_iff (hrows : (rows.map Prod.fst).Nodup) : PlanHolds dictionary rows activeIds ↔ NamesAgree dictionary rows activeIds := by
  refine ⟨namesAgree_of_planHolds hrows, fun h => ⟨fun i hi j hj => survivorOf_eq_iff hi hj, fun rows' hperm => ?_,
    (folds_plan dictionary activeIds rows).stays, merges_remaining hrows _, fun a ha row hrow htext => ?_⟩⟩
  · have hmerges := merges_perm dictionary activeIds hrows hperm
    have haliases := h.aliases_perm hrows hperm
    have hunmerged := unmergedGroups_perm dictionary activeIds hrows hperm
    cases hplan : buildConsolidationPlan dictionary rows activeIds
    cases hplan' : buildConsolidationPlan dictionary rows' activeIds
    rw [hplan, hplan'] at hmerges haliases hunmerged
    exact ConsolidationPlan.mk.injEq .. ▸ ⟨hmerges.symm, haliases.symm, hunmerged.symm⟩
  · obtain ⟨m, hm, hma⟩ := mem_mergeAliases.mp (mem_mergeAliases_of_mem_aliases ha)
    have hrowid := List.mem_map_of_mem (f := Prod.fst) hrow
    have hlinked := h.linked hm hma hrowid (by rw [nameOf_eq hrows hrow, htext])
    obtain ⟨-, hsurvives, -, -, -⟩ := mem_merges_iff.mp hm
    obtain ⟨-, rfl⟩ := aliasesOf_eq_some_iff.mp hma
    exact (survives_survivorOf dictionary activeIds hrowid).unique hsurvives hlinked.symm

end Laws
end CestaPlan.Consolidation
