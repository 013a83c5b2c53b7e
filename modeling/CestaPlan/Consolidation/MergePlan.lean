import CestaPlan.Library.Buckets
import CestaPlan.Library.Text
import Mathlib.Data.List.Lex
import Mathlib.Data.List.Pairwise
import Mathlib.Data.List.Sort

/-! The plan that folds the variants of an ingredient into one of them. -/

namespace CestaPlan.Consolidation

/-- The dictionary of the ingredients: how it normalizes text, and its specs by key, each with its aliases. -/
structure IngredientDictionary where
  normalize : String → String
  specs : List (String × List String)

structure IngredientMerge where
  oldId : ℕ
  newId : ℕ
  oldCanonicalName : String
  newCanonicalName : String
deriving DecidableEq, Repr

structure IngredientAliasPlan where
  aliasText : String
  ingredientId : ℕ
deriving DecidableEq, Repr

structure ConsolidationPlan where
  merges : List IngredientMerge
  aliases : List IngredientAliasPlan
  unmergedGroups : List (List ℕ)

/-! ### Names -/

def connectors : List String := ["de", "del", "la", "el", "los", "las", "al", "a", "con", "y"]

/-- `name.replace("_", " ")`. -/
def spaced (name : String) : String := name.map fun c => if c = '_' then ' ' else c

/-- `re.sub(r"\s+", "_", n)`. -/
def underscored (n : List Char) : List Char :=
  (n.splitBy fun a b => Text.isSpace a == Text.isSpace b).flatMap fun run => if run.all Text.isSpace then ['_'] else run

def slugify (dictionary : IngredientDictionary) (name : String) : String :=
  let n := underscored (dictionary.normalize (spaced name)).toList
  String.ofList ((n.dropWhile (· = '_')).rdropWhile (· = '_'))

def singularize (token : String) : String :=
  if 3 < token.length ∧ token.endsWith "s" then String.ofList token.toList.dropLast else token

def lemmaOf (dictionary : IngredientDictionary) (name : String) : String :=
  let tokens := ((dictionary.normalize (spaced name)).splitOn " ").filter (· ≠ "")
  " ".intercalate ((tokens.filter (· ∉ connectors)).map singularize)

/-- The first spec to claim a lemma has it. -/
def specLemmaIndex (dictionary : IngredientDictionary) : Dict String String :=
  dictionary.specs.foldl (fun index spec =>
    (spec.1 :: spec.2).foldl (fun index text => index.setDefault (lemmaOf dictionary text) spec.1) index) Dict.empty

def matchSpecByAlias (dictionary : IngredientDictionary) (name : String) : Option String :=
  let target := dictionary.normalize name
  (dictionary.specs.find? fun spec =>
    target == dictionary.normalize spec.1 || spec.2.any fun other => target == dictionary.normalize other).map Prod.fst

/-! ### Union-find over the ids -/

/-- An item that was not added is its own parent. A union keeps the smaller root, so parents are smaller. -/
structure DisjointSet where
  parent : ℕ → ℕ
  parent_le : ∀ i, parent i ≤ i

namespace DisjointSet

def empty : DisjointSet := ⟨id, fun _ => le_rfl⟩

def root (dsu : DisjointSet) (i : ℕ) : ℕ :=
  if h : dsu.parent i = i then i
  else
    have : dsu.parent i < i := lt_of_le_of_ne (dsu.parent_le i) h
    dsu.root (dsu.parent i)
termination_by i

/-- The items on the way to the root. -/
def path (dsu : DisjointSet) (i : ℕ) : List ℕ :=
  if h : dsu.parent i = i then []
  else
    have : dsu.parent i < i := lt_of_le_of_ne (dsu.parent_le i) h
    i :: dsu.path (dsu.parent i)
termination_by i

theorem root_le (dsu : DisjointSet) (i : ℕ) : dsu.root i ≤ i := by
  fun_induction dsu.root i with
  | case1 i h => exact le_rfl
  | case2 i h hlt ih => exact ih.trans hlt.le

theorem root_le_of_mem_path {dsu : DisjointSet} {i j : ℕ} (h : j ∈ dsu.path i) : dsu.root i ≤ j := by
  fun_induction dsu.path i with
  | case1 i hroot => cases h
  | case2 i hne hlt ih =>
    rw [root, dif_neg hne]
    rcases List.mem_cons.mp h with rfl | hrest
    · exact (dsu.root_le _).trans hlt.le
    · exact ih hrest

/-- The root, with the path to it compressed. -/
def find (dsu : DisjointSet) (item : ℕ) : ℕ × DisjointSet :=
  let root := dsu.root item
  (root, {
    parent := fun i => if i ∈ dsu.path item then root else dsu.parent i
    parent_le := fun i => by
      split
      · next h => exact root_le_of_mem_path h
      · exact dsu.parent_le i })

def union (dsu : DisjointSet) (a b : ℕ) : DisjointSet :=
  let (ra, dsu) := dsu.find a
  let (rb, dsu) := dsu.find b
  if ra = rb then dsu
  else
    { parent := fun i => if i = max ra rb then min ra rb else dsu.parent i
      parent_le := fun i => by
        split
        · next h => exact h ▸ min_le_max
        · exact dsu.parent_le i }

/-- The roots of the items, found one after the other. -/
def roots : DisjointSet → List ℕ → List (ℕ × ℕ)
  | _, [] => []
  | dsu, i :: is => (i, (dsu.find i).1) :: roots (dsu.find i).2 is

@[simp] theorem map_fst_roots (dsu : DisjointSet) (is : List ℕ) : (dsu.roots is).map Prod.fst = is := by
  induction is generalizing dsu with
  | nil => rfl
  | cons i is ih => rw [roots, List.map_cons, ih]

end DisjointSet

/-! ### The plan -/

structure UnionState where
  dsu : DisjointSet
  lemmaFirst : Dict String ℕ
  speckeyFirst : Dict String ℕ

/-- An ingredient joins the first one with its lemma, and the first one with its spec key. -/
def uniteIngredient (dictionary : IngredientDictionary) (nameById : Dict ℕ String) (s : UnionState) (i : ℕ) : UnionState :=
  let name := nameById.getD i ""
  let lemma_ := lemmaOf dictionary name
  let lemmaFirst := s.lemmaFirst.setDefault lemma_ i
  let dsu := s.dsu.union i (lemmaFirst.getD lemma_ i)
  match ((specLemmaIndex dictionary).get? lemma_).or (matchSpecByAlias dictionary name) with
  | none => { s with dsu := dsu, lemmaFirst := lemmaFirst }
  | some specKey =>
    let speckeyFirst := s.speckeyFirst.setDefault specKey i
    { dsu := dsu.union i (speckeyFirst.getD specKey i), lemmaFirst := lemmaFirst, speckeyFirst := speckeyFirst }

/-- The rank of a member, greatest first: a spec key, an active mapping, a slug, the smallest id. -/
def rank (dictionary : IngredientDictionary) (nameById : Dict ℕ String) (activeIds : List ℕ) (i : ℕ) : List ℤ :=
  let name := nameById.getD i ""
  [if name ∈ dictionary.specs.map Prod.fst then 1 else 0, if i ∈ activeIds then 1 else 0,
    if name = slugify dictionary name then 1 else 0, -(i : ℤ)]

/-- `max(member_ids, key=rank)`. -/
def pickSurvivor (dictionary : IngredientDictionary) (nameById : Dict ℕ String) (activeIds : List ℕ) (first : ℕ)
    (memberIds : List ℕ) : ℕ :=
  memberIds.foldl (fun best i =>
    if rank dictionary nameById activeIds best < rank dictionary nameById activeIds i then i else best) first

/-- The members of a group, with the one that survives. -/
structure Survival where
  survivorId : ℕ
  memberIds : List ℕ

def survivals (dictionary : IngredientDictionary) (nameById : Dict ℕ String) (activeIds : List ℕ)
    (groups : List (List ℕ)) : List Survival :=
  groups.filterMap fun memberIds =>
    match memberIds.insertionSort (· ≤ ·) with
    | first :: second :: rest =>
      some ⟨pickSurvivor dictionary nameById activeIds first (second :: rest), first :: second :: rest⟩
    | _ => none

def mergesOf (nameById : Dict ℕ String) (group : Survival) : List IngredientMerge :=
  (group.memberIds.filter (· ≠ group.survivorId)).map fun oldId =>
    { oldId := oldId, newId := group.survivorId, oldCanonicalName := nameById.getD oldId "",
      newCanonicalName := nameById.getD group.survivorId "" }

def aliasesOf (dictionary : IngredientDictionary) (merge : IngredientMerge) : Option IngredientAliasPlan :=
  let aliasText := dictionary.normalize merge.oldCanonicalName
  if aliasText ≠ "" ∧ aliasText ≠ dictionary.normalize merge.newCanonicalName then some ⟨aliasText, merge.newId⟩ else none

/-- The first alias of each text. -/
def uniqueAliases (aliases : List IngredientAliasPlan) : List IngredientAliasPlan :=
  aliases.foldl (fun unique a => if a.aliasText ∈ unique.map (·.aliasText) then unique else unique ++ [a]) []

def groupsOf (dictionary : IngredientDictionary) (nameById : Dict ℕ String) : List (List ℕ) :=
  let united := (nameById.keys.insertionSort (· ≤ ·)).foldl (uniteIngredient dictionary nameById)
    ⟨DisjointSet.empty, Dict.empty, Dict.empty⟩
  (Buckets.buckets Prod.snd Prod.fst (united.dsu.roots nameById.keys)).entries.map Prod.snd

def namesById (ingredients : List (ℕ × String)) : Dict ℕ String :=
  ingredients.foldl (fun d row => d.set row.1 row.2) Dict.empty

def buildConsolidationPlan (dictionary : IngredientDictionary) (ingredients : List (ℕ × String))
    (activeIds : List ℕ) : ConsolidationPlan :=
  let nameById := namesById ingredients
  let groups := groupsOf dictionary nameById
  let merges := (survivals dictionary nameById activeIds groups).flatMap (mergesOf nameById)
  { merges := merges.insertionSort (·.oldId ≤ ·.oldId)
    aliases := uniqueAliases ((merges.filterMap (aliasesOf dictionary)).insertionSort (·.aliasText ≤ ·.aliasText))
    unmergedGroups := ((groups.map (·.insertionSort (· ≤ ·))).filter (·.length = 1)).insertionSort (· ≤ ·) }

/-! ### What the plan folds -/

section Plan
variable {dictionary : IngredientDictionary} {nameById : Dict ℕ String} {activeIds : List ℕ} {group group' : Survival}
  {merge merge' : IngredientMerge}

theorem pickSurvivor_mem (first : ℕ) (memberIds : List ℕ) :
    pickSurvivor dictionary nameById activeIds first memberIds ∈ first :: memberIds := by
  induction memberIds generalizing first with
  | nil => exact List.mem_singleton_self first
  | cons second memberIds ih =>
    unfold pickSurvivor at ih ⊢
    rw [List.foldl_cons]
    split
    · exact List.mem_cons_of_mem _ (ih second)
    · rcases List.mem_cons.mp (ih first) with h | h
      · rw [h]
        exact List.mem_cons_self
      · exact List.mem_cons_of_mem _ (List.mem_cons_of_mem _ h)

variable (dictionary nameById) in
theorem groupsOf_pairwise : (groupsOf dictionary nameById).Pairwise List.Disjoint ∧
    (∀ ids ∈ groupsOf dictionary nameById, ids.Nodup ∧ ids ⊆ nameById.keys) := by
  unfold groupsOf
  generalize hunited : ((nameById.keys.insertionSort (· ≤ ·)).foldl _ _ : UnionState) = united
  generalize hroots : united.dsu.roots nameById.keys = roots
  have hfst : roots.map Prod.fst = nameById.keys := hroots ▸ united.dsu.map_fst_roots nameById.keys
  have hnodup : (roots.map Prod.fst).Nodup := hfst ▸ nameById.nodup
  dsimp only
  rw [hroots, ← hfst]
  exact Buckets.entries_disjoint Prod.snd hnodup

theorem mem_survivals {groups : List (List ℕ)} (h : group ∈ survivals dictionary nameById activeIds groups) :
    group.survivorId ∈ group.memberIds ∧ ∃ ids ∈ groups, group.memberIds.Perm ids := by
  obtain ⟨ids, hids, hsome⟩ := List.mem_filterMap.mp h
  split at hsome
  · next first second rest hsort =>
    cases hsome
    exact ⟨pickSurvivor_mem first _, ids, hids, hsort ▸ List.perm_insertionSort _ ids⟩
  · cases hsome

theorem survivals_pairwise {groups : List (List ℕ)} (h : groups.Pairwise List.Disjoint) :
    (survivals dictionary nameById activeIds groups).Pairwise fun group group' =>
      List.Disjoint group.memberIds group'.memberIds := by
  refine List.pairwise_filterMap.mpr (h.imp fun {ids ids'} hdisjoint group hgroup group' hgroup' => ?_)
  have hperm := (mem_survivals (List.mem_filterMap.mpr ⟨ids, List.mem_singleton_self ids, hgroup⟩)).2
  have hperm' := (mem_survivals (List.mem_filterMap.mpr ⟨ids', List.mem_singleton_self ids', hgroup'⟩)).2
  obtain ⟨_, hids, hperm⟩ := hperm
  obtain ⟨_, hids', hperm'⟩ := hperm'
  obtain rfl := List.mem_singleton.mp hids
  obtain rfl := List.mem_singleton.mp hids'
  exact fun i hi hi' => hdisjoint (hperm.mem_iff.mp hi) (hperm'.mem_iff.mp hi')

theorem mem_mergesOf : merge ∈ mergesOf nameById group →
    merge.newId = group.survivorId ∧ merge.oldId ∈ group.memberIds ∧ merge.oldId ≠ group.survivorId := by
  intro h
  obtain ⟨oldId, hold, rfl⟩ := List.mem_map.mp h
  obtain ⟨hmem, hne⟩ := List.mem_filter.mp hold
  exact ⟨rfl, hmem, by simpa using hne⟩

/-- What the migration relies on: the folds are of different ingredients, into ingredients that stay. -/
structure Folds (ids : List ℕ) (merges : List IngredientMerge) : Prop where
  nodup : (merges.map (·.oldId)).Nodup
  old : ∀ merge ∈ merges, merge.oldId ∈ ids
  new : ∀ merge ∈ merges, merge.newId ∈ ids
  stays : ∀ merge ∈ merges, merge.newId ∉ merges.map (·.oldId)

theorem Folds.perm {ids : List ℕ} {merges merges' : List IngredientMerge} (h : Folds ids merges)
    (hperm : merges.Perm merges') : Folds ids merges' where
  nodup := (hperm.map _).nodup_iff.mp h.nodup
  old := fun merge hmem => h.old merge (hperm.mem_iff.mpr hmem)
  new := fun merge hmem => h.new merge (hperm.mem_iff.mpr hmem)
  stays := fun merge hmem hold => h.stays merge (hperm.mem_iff.mpr hmem) ((hperm.map _).mem_iff.mpr hold)

variable (dictionary nameById activeIds) in
theorem folds_survivals : Folds nameById.keys
    ((survivals dictionary nameById activeIds (groupsOf dictionary nameById)).flatMap (mergesOf nameById)) := by
  obtain ⟨hdisjoint, hids⟩ := groupsOf_pairwise dictionary nameById
  generalize hg : survivals dictionary nameById activeIds (groupsOf dictionary nameById) = groups
  have hgroups := hg ▸ survivals_pairwise hdisjoint
  have hmembers : ∀ group ∈ groups, group.survivorId ∈ group.memberIds ∧ group.memberIds.Nodup ∧
      group.memberIds ⊆ nameById.keys := fun group hgroup => by
    obtain ⟨hsurvivor, ids, hmem, hperm⟩ := mem_survivals (hg ▸ hgroup)
    obtain ⟨hnodup, hsub⟩ := hids ids hmem
    exact ⟨hsurvivor, hperm.nodup_iff.mpr hnodup, fun i hi => hsub (hperm.mem_iff.mp hi)⟩
  refine ⟨?_, fun merge hmerge => ?_, fun merge hmerge => ?_, fun merge hmerge hold => ?_⟩
  · rw [List.map_flatMap]
    have holds : ∀ group : Survival, (mergesOf nameById group).map (·.oldId) =
        group.memberIds.filter (· ≠ group.survivorId) := fun group => by
      simp [mergesOf, List.map_map, Function.comp_def]
    simp only [holds]
    refine List.nodup_flatMap.mpr ⟨fun group hgroup => (hmembers group hgroup).2.1.filter _, hgroups.imp ?_⟩
    exact fun hdisj i hi hi' => hdisj (List.mem_of_mem_filter hi) (List.mem_of_mem_filter hi')
  · obtain ⟨group, hgroup, hmem⟩ := List.mem_flatMap.mp hmerge
    exact (hmembers group hgroup).2.2 (mem_mergesOf hmem).2.1
  · obtain ⟨group, hgroup, hmem⟩ := List.mem_flatMap.mp hmerge
    rw [(mem_mergesOf hmem).1]
    exact (hmembers group hgroup).2.2 (hmembers group hgroup).1
  · obtain ⟨group, hgroup, hmem⟩ := List.mem_flatMap.mp hmerge
    obtain ⟨merge', hmerge', heq⟩ := List.mem_map.mp hold
    obtain ⟨group', hgroup', hmem'⟩ := List.mem_flatMap.mp hmerge'
    obtain ⟨hnew, -, -⟩ := mem_mergesOf hmem
    obtain ⟨-, holdmem, hne⟩ := mem_mergesOf hmem'
    rw [heq, hnew] at holdmem hne
    -- The survivor would be a member of the group that folds it, which is its own group.
    have hsame : group = group' := by
      by_contra hdiff
      have hsymm : Std.Symm fun group group' : Survival => List.Disjoint group.memberIds group'.memberIds :=
        ⟨fun _ _ h => h.symm⟩
      exact hgroups.forall hgroup hgroup' hdiff (hmembers group hgroup).1 holdmem
    exact hne (hsame ▸ rfl)

theorem keys_namesById (ingredients : List (ℕ × String)) : (namesById ingredients).keys ⊆ ingredients.map Prod.fst := by
  unfold namesById
  suffices h : ∀ (rows : List (ℕ × String)) (d : Dict ℕ String),
      (rows.foldl (fun d row => d.set row.1 row.2) d).keys ⊆ d.keys ++ rows.map Prod.fst from h ingredients Dict.empty
  intro rows
  induction rows with
  | nil => exact fun d => List.subset_append_left _ _
  | cons row rows ih =>
    intro d i hi
    have hrest := ih (d.set row.1 row.2) hi
    have hset : (d.set row.1 row.2).keys = if row.1 ∈ d.keys then d.keys else d.keys ++ [row.1] :=
      Dict.fst_setEntries row.1 row.2 d.entries
    rw [hset] at hrest
    split at hrest
    · rcases List.mem_append.mp hrest with h | h
      · exact List.mem_append_left _ h
      · exact List.mem_append_right _ (List.mem_cons_of_mem _ h)
    · rw [List.append_assoc] at hrest
      exact hrest

variable (dictionary activeIds) in
theorem folds_plan (ingredients : List (ℕ × String)) :
    Folds (ingredients.map Prod.fst) (buildConsolidationPlan dictionary ingredients activeIds).merges := by
  have h := (folds_survivals dictionary (namesById ingredients) activeIds).perm (List.perm_insertionSort (·.oldId ≤ ·.oldId) _).symm
  have hkeys := keys_namesById ingredients
  exact ⟨h.nodup, fun merge hmem => hkeys (h.old merge hmem), fun merge hmem => hkeys (h.new merge hmem), h.stays⟩

end Plan

end CestaPlan.Consolidation
