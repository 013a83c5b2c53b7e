import CestaPlan.Consolidation.MergePlan
import Mathlib.Logic.Relation

/-! Which ingredients are one. The union-find joins an ingredient with the first one of its lemma and with the first one of its spec key, and
    that puts two of them together exactly where a chain of equal lemmas and equal spec keys links them. -/

namespace CestaPlan.Consolidation
open Relation

namespace DisjointSet
variable {dsu : DisjointSet} {a b i j : ℕ}

theorem root_of_parent_eq (h : dsu.parent i = i) : dsu.root i = i := by rw [root, dif_pos h]

theorem root_parent (dsu : DisjointSet) (i : ℕ) : dsu.root (dsu.parent i) = dsu.root i := by
  by_cases h : dsu.parent i = i
  · rw [h]
  · exact (show dsu.root i = dsu.root (dsu.parent i) by rw [root, dif_neg h]).symm

theorem parent_root (dsu : DisjointSet) (i : ℕ) : dsu.parent (dsu.root i) = dsu.root i := by
  fun_induction dsu.root i with
  | case1 i h => exact h
  | case2 i h hlt ih => exact ih

theorem root_root (dsu : DisjointSet) (i : ℕ) : dsu.root (dsu.root i) = dsu.root i := root_of_parent_eq (parent_root dsu i)

theorem root_eq {f : ℕ → ℕ} (hfix : ∀ i, dsu.parent i = i → f i = i) (hparent : ∀ i, dsu.parent i ≠ i → f (dsu.parent i) = f i) (i : ℕ) :
    dsu.root i = f i := by
  fun_induction dsu.root i with
  | case1 i h => exact (hfix i h).symm
  | case2 i h hlt ih => rw [ih, hparent i h]

theorem root_of_mem_path (h : j ∈ dsu.path i) : dsu.root j = dsu.root i ∧ dsu.parent j ≠ j := by
  fun_induction dsu.path i with
  | case1 i hroot => cases h
  | case2 i hne hlt ih =>
    rcases List.mem_cons.mp h with rfl | hrest
    · exact ⟨rfl, hne⟩
    · exact ⟨(ih hrest).1.trans (root_parent dsu i), (ih hrest).2⟩

theorem root_find (dsu : DisjointSet) (item i : ℕ) : (dsu.find item).2.root i = dsu.root i := by
  refine root_eq (fun i hi => ?_) (fun i hi => ?_) i
  · change (if i ∈ dsu.path item then dsu.root item else dsu.parent i) = i at hi
    split at hi
    · next hmem => exact (root_of_mem_path hmem).1.trans hi
    · exact root_of_parent_eq hi
  · change dsu.root (if i ∈ dsu.path item then dsu.root item else dsu.parent i) = _
    split
    · next hmem => rw [root_root, (root_of_mem_path hmem).1]
    · exact root_parent dsu i

theorem root_union (dsu : DisjointSet) (a b i : ℕ) : (dsu.union a b).root i =
    if dsu.root i = max (dsu.root a) (dsu.root b) then min (dsu.root a) (dsu.root b) else dsu.root i := by
  have hrb : ((dsu.find a).2.find b).1 = dsu.root b := root_find dsu a b
  have hfound (i : ℕ) : ((dsu.find a).2.find b).2.root i = dsu.root i := (root_find _ b i).trans (root_find dsu a i)
  by_cases heq : dsu.root a = dsu.root b
  · have hunion : dsu.union a b = ((dsu.find a).2.find b).2 := if_pos (heq.trans hrb.symm)
    rw [hunion, hfound, heq, max_self, min_self]
    split
    · next h => exact h
    · rfl
  · have hunion (i : ℕ) : (dsu.union a b).parent i = if i = max (dsu.root a) (dsu.root b) then min (dsu.root a) (dsu.root b)
        else ((dsu.find a).2.find b).2.parent i := by
      unfold union
      simp only [hrb]
      rw [if_neg (show ¬ (dsu.find a).1 = dsu.root b from heq)]
      rfl
    have hlt : min (dsu.root a) (dsu.root b) < max (dsu.root a) (dsu.root b) := by
      rcases Nat.lt_or_gt_of_ne heq with h | h <;> omega
    have hmax : dsu.root (max (dsu.root a) (dsu.root b)) = max (dsu.root a) (dsu.root b) := by
      rcases max_choice (dsu.root a) (dsu.root b) with h | h <;> rw [h, root_root]
    have hmin : dsu.root (min (dsu.root a) (dsu.root b)) = min (dsu.root a) (dsu.root b) := by
      rcases min_choice (dsu.root a) (dsu.root b) with h | h <;> rw [h, root_root]
    refine root_eq (f := fun i => if dsu.root i = max (dsu.root a) (dsu.root b) then min (dsu.root a) (dsu.root b) else dsu.root i)
      (fun i hi => ?_) (fun i hi => ?_) i
    · rw [hunion] at hi
      by_cases him : i = max (dsu.root a) (dsu.root b)
      · rw [if_pos him] at hi
        omega
      · rw [if_neg him] at hi
        have hself : dsu.root i = i := (hfound i).symm.trans (root_of_parent_eq hi)
        rw [hself, if_neg him]
    · rw [hunion]
      by_cases him : i = max (dsu.root a) (dsu.root b)
      · rw [if_pos him, him, hmin, hmax, if_neg hlt.ne, if_pos rfl]
      · rw [if_neg him, ← hfound (((dsu.find a).2.find b).2.parent i), root_parent, hfound]

theorem root_union_iff : (dsu.union a b).root i = (dsu.union a b).root j ↔
    EqvGen (fun x y => dsu.root x = dsu.root y ∨ x = a ∧ y = b) i j := by
  have hab : EqvGen (fun x y => dsu.root x = dsu.root y ∨ x = a ∧ y = b) a b := .rel _ _ (Or.inr ⟨rfl, rfl⟩)
  have hroot {x y : ℕ} (h : dsu.root x = dsu.root y) : EqvGen (fun x y => dsu.root x = dsu.root y ∨ x = a ∧ y = b) x y :=
    .rel _ _ (Or.inl h)
  constructor
  · intro h
    rw [root_union, root_union] at h
    -- Two roots that the union maps to one are the same, or they are those of the two items.
    have hboth : dsu.root i = dsu.root j ∨ dsu.root i = dsu.root a ∧ dsu.root j = dsu.root b ∨
        dsu.root i = dsu.root b ∧ dsu.root j = dsu.root a := by
      rcases le_total (dsu.root a) (dsu.root b) with hle | hle
      · rw [max_eq_right hle, min_eq_left hle] at h
        split at h <;> split at h <;> omega
      · rw [max_eq_left hle, min_eq_right hle] at h
        split at h <;> split at h <;> omega
    rcases hboth with h | ⟨hi, hj⟩ | ⟨hi, hj⟩
    · exact hroot h
    · exact (hroot hi).trans _ _ _ (hab.trans _ _ _ (hroot hj.symm))
    · exact (hroot hi).trans _ _ _ ((hab.symm _ _).trans _ _ _ (hroot hj.symm))
  · intro h
    induction h with
    | rel x y h =>
      rcases h with h | ⟨rfl, rfl⟩
      · rw [root_union, root_union, h]
      · rw [root_union, root_union]
        rcases le_total (dsu.root x) (dsu.root y) with hle | hle
        · rw [max_eq_right hle, min_eq_left hle]
          split <;> split <;> omega
        · rw [max_eq_left hle, min_eq_right hle]
          split <;> split <;> omega
    | refl x => rfl
    | symm x y _ ih => exact ih.symm
    | trans x y z _ _ hxy hyz => exact hxy.trans hyz

@[simp] theorem root_empty (i : ℕ) : empty.root i = i := root_of_parent_eq rfl

theorem roots_eq (dsu : DisjointSet) (is : List ℕ) : dsu.roots is = is.map fun i => (i, dsu.root i) := by
  induction is generalizing dsu with
  | nil => rfl
  | cons i is ih =>
    rw [roots, ih, List.map_cons]
    refine congrArg ((i, dsu.root i) :: ·) (List.map_congr_left fun j _ => ?_)
    rw [root_find]

end DisjointSet

/-! ### Links -/

section Links
variable (dictionary : IngredientDictionary)

/-- The spec key of a name: that of its lemma, or that of an alias it is written as. -/
def specKeyOf (name : String) : Option String :=
  ((specLemmaIndex dictionary).get? (lemmaOf dictionary name)).or (matchSpecByAlias dictionary name)

/-- Two names have one lemma or one spec key. -/
def SameIdentity (name name' : String) : Prop :=
  lemmaOf dictionary name = lemmaOf dictionary name' ∨
    ∃ specKey, specKeyOf dictionary name = some specKey ∧ specKeyOf dictionary name' = some specKey

/-- A chain of equal lemmas and equal spec keys links two ids. -/
def Linked (nameOf : ℕ → String) (ids : List ℕ) : ℕ → ℕ → Prop :=
  EqvGen fun i j => (i ∈ ids ∧ j ∈ ids) ∧ SameIdentity dictionary (nameOf i) (nameOf j)

variable {dictionary} {nameOf : ℕ → String} {ids ids' : List ℕ} {i j : ℕ}

theorem Linked.mono (h : Linked dictionary nameOf ids i j) (hids : ids ⊆ ids') : Linked dictionary nameOf ids' i j :=
  EqvGen.mono (fun _ _ h => ⟨⟨hids h.1.1, hids h.1.2⟩, h.2⟩) _ _ h

/-- What is known of the first ids of the keys that were seen. -/
structure Firsts {K : Type} [DecidableEq K] (keyOf : ℕ → Option K) (ids : List ℕ) (first : Dict K ℕ) : Prop where
  mem : ∀ k i, first.get? k = some i → i ∈ ids ∧ keyOf i = some k
  get : ∀ i ∈ ids, ∀ k, keyOf i = some k → ∃ j, first.get? k = some j

theorem Firsts.setDefault {K : Type} [DecidableEq K] {keyOf : ℕ → Option K} {first : Dict K ℕ} (h : Firsts keyOf ids first) (k : K)
    (hk : keyOf i = some k) : Firsts keyOf (ids ++ [i]) (first.setDefault k i) where
  mem := by
    intro k' j hj
    rw [Dict.get?_setDefault] at hj
    split at hj
    · next heq =>
      subst heq
      rw [Dict.getD] at hj
      cases hg : first.get? k' with
      | none =>
        rw [hg] at hj
        cases hj
        exact ⟨by simp, hk⟩
      | some w =>
        rw [hg] at hj
        cases hj
        exact ⟨List.mem_append_left _ (h.mem k' _ hg).1, (h.mem k' _ hg).2⟩
    · exact ⟨List.mem_append_left _ (h.mem k' j hj).1, (h.mem k' j hj).2⟩
  get := by
    intro j hj k' hk'
    rw [Dict.get?_setDefault]
    split
    · exact ⟨_, rfl⟩
    · next hne =>
      rcases List.mem_append.mp hj with hj | hj
      · exact h.get j hj k' hk'
      · obtain rfl := List.mem_singleton.mp hj
        exact absurd (Option.some.inj (hk'.symm.trans hk)) hne

theorem Firsts.append {K : Type} [DecidableEq K] {keyOf : ℕ → Option K} {first : Dict K ℕ} (h : Firsts keyOf ids first)
    (hi : keyOf i = none) : Firsts keyOf (ids ++ [i]) first where
  mem k j hj := ⟨List.mem_append_left _ (h.mem k j hj).1, (h.mem k j hj).2⟩
  get j hj k hk := by
    rcases List.mem_append.mp hj with hj | hj
    · exact h.get j hj k hk
    · obtain rfl := List.mem_singleton.mp hj
      rw [hi] at hk
      cases hk

/-- The state after some ids: their links are the union-find's, and the dictionaries know their first ids. -/
structure United (dictionary : IngredientDictionary) (nameOf : ℕ → String) (ids : List ℕ) (s : UnionState) : Prop where
  root : ∀ i j, s.dsu.root i = s.dsu.root j ↔ Linked dictionary nameOf ids i j
  lemmas : Firsts (fun i => some (lemmaOf dictionary (nameOf i))) ids s.lemmaFirst
  specKeys : Firsts (fun i => specKeyOf dictionary (nameOf i)) ids s.speckeyFirst

theorem Firsts.getD_mem {K : Type} [DecidableEq K] {keyOf : ℕ → Option K} {first : Dict K ℕ} (h : Firsts keyOf ids first) {k : K}
    (hj : j ∈ ids) (hk : keyOf j = some k) : first.getD k i ∈ ids ∧ keyOf (first.getD k i) = some k := by
  obtain ⟨w, hw⟩ := h.get j hj k hk
  rw [Dict.getD, hw, Option.getD_some]
  exact h.mem k w hw

theorem getD_setDefault {K : Type} [DecidableEq K] {first : Dict K ℕ} {k : K} : (first.setDefault k i).getD k i = first.getD k i := by
  rw [Dict.getD, Dict.get?_setDefault, if_pos rfl, Option.getD_some]

theorem linked_append_iff {dsu dsu' : DisjointSet} {first : Dict String ℕ} {specFirst : Dict String ℕ}
    (hroot : ∀ x y, dsu.root x = dsu.root y ↔ Linked dictionary nameOf ids x y)
    (hlemmas : Firsts (fun i => some (lemmaOf dictionary (nameOf i))) ids first)
    (hspecKeys : Firsts (fun i => specKeyOf dictionary (nameOf i)) ids specFirst)
    (hjoined : ∀ x y, dsu'.root x = dsu'.root y ↔ EqvGen (fun x y => dsu.root x = dsu.root y ∨
      (x = i ∧ y = first.getD (lemmaOf dictionary (nameOf i)) i) ∨
      ∃ k, specKeyOf dictionary (nameOf i) = some k ∧ x = i ∧ y = specFirst.getD k i) x y) (x y : ℕ) :
    dsu'.root x = dsu'.root y ↔ Linked dictionary nameOf (ids ++ [i]) x y := by
  have hmem : i ∈ ids ++ [i] := List.mem_append_right _ (List.mem_singleton_self i)
  have hequiv : Equivalence fun x y => dsu'.root x = dsu'.root y := ⟨fun _ => rfl, Eq.symm, Eq.trans⟩
  constructor
  · intro h
    refine ((EqvGen.is_equivalence _).eqvGen_iff).mp (EqvGen.mono (fun x y h => ?_) _ _ ((hjoined x y).mp h))
    rcases h with h | ⟨rfl, rfl⟩ | ⟨k, hk, rfl, rfl⟩
    · exact ((hroot x y).mp h).mono (List.subset_append_left _ _)
    · have hfirst := (hlemmas.setDefault (i := x) _ rfl).getD_mem (i := x) hmem rfl
      rw [getD_setDefault] at hfirst
      exact .rel _ _ ⟨⟨hmem, hfirst.1⟩, Or.inl (Option.some.inj hfirst.2).symm⟩
    · have hfirst := (hspecKeys.setDefault (i := x) _ hk).getD_mem (i := x) hmem hk
      rw [getD_setDefault] at hfirst
      exact .rel _ _ ⟨⟨hmem, hfirst.1⟩, Or.inr ⟨k, hk, hfirst.2⟩⟩
  · have hold (x y) (h : Linked dictionary nameOf ids x y) : dsu'.root x = dsu'.root y :=
      (hjoined x y).mpr (.rel _ _ (Or.inl ((hroot x y).mpr h)))
    -- The id has the root of each other one that it is the same as.
    have hnew (y) (hy : y ∈ ids) (h : SameIdentity dictionary (nameOf i) (nameOf y)) : dsu'.root i = dsu'.root y := by
      rcases h with h | ⟨k, hk, hk'⟩
      · have hfirst := hlemmas.getD_mem (i := i) hy rfl
        have hjoin : dsu'.root i = dsu'.root (first.getD (lemmaOf dictionary (nameOf i)) i) :=
          (hjoined _ _).mpr (.rel _ _ (Or.inr (Or.inl ⟨rfl, rfl⟩)))
        rw [hjoin, h]
        exact hold _ _ (.rel _ _ ⟨⟨hfirst.1, hy⟩, Or.inl (Option.some.inj hfirst.2)⟩)
      · have hfirst := hspecKeys.getD_mem (i := i) hy hk'
        have hjoin : dsu'.root i = dsu'.root (specFirst.getD k i) :=
          (hjoined _ _).mpr (.rel _ _ (Or.inr (Or.inr ⟨k, hk, rfl, rfl⟩)))
        rw [hjoin]
        exact hold _ _ (.rel _ _ ⟨⟨hfirst.1, hy⟩, Or.inr ⟨k, hfirst.2, hk'⟩⟩)
    have hsymm {n m : String} (h : SameIdentity dictionary n m) : SameIdentity dictionary m n :=
      h.imp Eq.symm fun ⟨k, hk, hk'⟩ => ⟨k, hk', hk⟩
    intro h
    refine (hequiv.eqvGen_iff).mp (EqvGen.mono (fun x y h => ?_) _ _ h)
    obtain ⟨⟨hx, hy⟩, hsame⟩ := h
    rcases List.mem_append.mp hx with hxold | hxnew <;> rcases List.mem_append.mp hy with hyold | hynew
    · exact hold _ _ (.rel _ _ ⟨⟨hxold, hyold⟩, hsame⟩)
    · obtain rfl := List.mem_singleton.mp hynew
      exact (hnew x hxold (hsymm hsame)).symm
    · obtain rfl := List.mem_singleton.mp hxnew
      exact hnew y hyold hsame
    · rw [List.mem_singleton.mp hxnew, List.mem_singleton.mp hynew]

/-- One more ingredient. -/
theorem United.step {nameById : Dict ℕ String} {s : UnionState} (h : United dictionary (nameById.getD · "") ids s) (i : ℕ) :
    United dictionary (nameById.getD · "") (ids ++ [i]) (uniteIngredient dictionary nameById s i) := by
  have hlemmas := h.lemmas.setDefault (i := i) _ rfl
  unfold uniteIngredient
  simp only [getD_setDefault]
  cases hk : ((specLemmaIndex dictionary).get? (lemmaOf dictionary (nameById.getD i ""))).or
      (matchSpecByAlias dictionary (nameById.getD i "")) with
  | none =>
    have hkey : specKeyOf dictionary (nameById.getD i "") = none := hk
    refine ⟨linked_append_iff h.root h.lemmas h.specKeys fun x y => ?_, hlemmas, h.specKeys.append hkey⟩
    rw [DisjointSet.root_union_iff]
    simp [hkey]
  | some specKey =>
    have hkey : specKeyOf dictionary (nameById.getD i "") = some specKey := hk
    refine ⟨linked_append_iff h.root h.lemmas h.specKeys fun x y => ?_, hlemmas, h.specKeys.setDefault _ hkey⟩
    rw [DisjointSet.root_union_iff]
    constructor
    · intro hxy
      refine ((EqvGen.is_equivalence _).eqvGen_iff).mp (EqvGen.mono (fun x y hxy => ?_) _ _ hxy)
      rcases hxy with hxy | ⟨rfl, rfl⟩
      · exact EqvGen.mono (fun _ _ h => h.imp_right Or.inl) _ _ (DisjointSet.root_union_iff.mp hxy)
      · exact .rel _ _ (Or.inr (Or.inr ⟨specKey, hkey, rfl, rfl⟩))
    · refine EqvGen.mono (fun x y hxy => ?_) x y
      rcases hxy with hxy | hxy | ⟨k, hk', rfl, rfl⟩
      · exact Or.inl (DisjointSet.root_union_iff.mpr (.rel _ _ (Or.inl hxy)))
      · exact Or.inl (DisjointSet.root_union_iff.mpr (.rel _ _ (Or.inr hxy)))
      · exact Or.inr ⟨rfl, by rw [Option.some.inj (hk'.symm.trans hkey)]⟩

variable (dictionary) in
theorem united_foldl (nameById : Dict ℕ String) (is : List ℕ) : United dictionary (nameById.getD · "") is
    (is.foldl (uniteIngredient dictionary nameById) ⟨DisjointSet.empty, Dict.empty, Dict.empty⟩) := by
  suffices h : ∀ (is done : List ℕ) (s : UnionState), United dictionary (nameById.getD · "") done s →
      United dictionary (nameById.getD · "") (done ++ is) (is.foldl (uniteIngredient dictionary nameById) s) by
    refine h is [] _ ⟨fun i j => ?_, ⟨fun k i hi => ?_, fun i hi => absurd hi List.not_mem_nil⟩,
      ⟨fun k i hi => ?_, fun i hi => absurd hi List.not_mem_nil⟩⟩
    · have hequiv : Equivalence fun i j : ℕ => i = j := ⟨fun _ => rfl, Eq.symm, Eq.trans⟩
      rw [DisjointSet.root_empty, DisjointSet.root_empty]
      constructor
      · rintro rfl
        exact .refl i
      · exact fun h => (hequiv.eqvGen_iff).mp (EqvGen.mono (fun x y h => absurd h.1.1 List.not_mem_nil) _ _ h)
    · rw [Dict.get?_empty] at hi
      cases hi
    · rw [Dict.get?_empty] at hi
      cases hi
  intro is
  induction is with
  | nil =>
    intro done s h
    rwa [List.append_nil]
  | cons i is ih =>
    intro done s h
    rw [List.foldl_cons, List.append_cons]
    exact ih _ _ (h.step i)

theorem mem_groupsOf (dictionary : IngredientDictionary) (nameById : Dict ℕ String) :
    (∀ g ∈ groupsOf dictionary nameById, ∃ i ∈ nameById.keys, ∀ j,
      j ∈ g ↔ j ∈ nameById.keys ∧ Linked dictionary (nameById.getD · "") nameById.keys i j) ∧
    ∀ i ∈ nameById.keys, ∃ g ∈ groupsOf dictionary nameById, i ∈ g := by
  have hunited := united_foldl dictionary nameById (nameById.keys.insertionSort (· ≤ ·))
  unfold groupsOf
  generalize ((nameById.keys.insertionSort (· ≤ ·)).foldl _ _ : UnionState) = s at hunited
  have hsorted {i : ℕ} : i ∈ nameById.keys.insertionSort (· ≤ ·) ↔ i ∈ nameById.keys := List.mem_insertionSort _
  have hroot (i j : ℕ) : s.dsu.root i = s.dsu.root j ↔ Linked dictionary (nameById.getD · "") nameById.keys i j :=
    (hunited.root i j).trans ⟨fun h => h.mono fun _ hi => hsorted.mp hi, fun h => h.mono fun _ hi => hsorted.mpr hi⟩
  have hgroup (k : ℕ) (j : ℕ) : j ∈ (Grouping.group Prod.snd (s.dsu.roots nameById.keys) k).map Prod.fst ↔
      j ∈ nameById.keys ∧ s.dsu.root j = k := by
    rw [DisjointSet.roots_eq]
    simp only [List.mem_map, Grouping.mem_group]
    constructor
    · rintro ⟨e, ⟨⟨i, hi, rfl⟩, hk⟩, rfl⟩
      exact ⟨hi, hk⟩
    · rintro ⟨hj, hk⟩
      exact ⟨(j, s.dsu.root j), ⟨⟨j, hj, rfl⟩, hk⟩, rfl⟩
  have hkeys : (s.dsu.roots nameById.keys).map Prod.snd = nameById.keys.map s.dsu.root := by
    rw [DisjointSet.roots_eq, List.map_map]
    rfl
  simp only [Buckets.entries_buckets, List.map_map, List.mem_map, Function.comp_apply, List.mem_eraseDups, hkeys]
  constructor
  · rintro g ⟨k, ⟨i, hi, rfl⟩, rfl⟩
    refine ⟨i, hi, fun j => (hgroup _ j).trans (and_congr_right fun _ => ?_)⟩
    rw [eq_comm]
    exact hroot i j
  · intro i hi
    exact ⟨_, ⟨s.dsu.root i, ⟨i, hi, rfl⟩, rfl⟩, (hgroup _ i).mpr ⟨hi, rfl⟩⟩

end Links
end CestaPlan.Consolidation
