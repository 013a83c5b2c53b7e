import Mathlib.Algebra.BigOperators.Group.Finset.Piecewise
import Mathlib.Data.Finset.Image
import Mathlib.Data.List.Sort

/-! Lists as a stable sort by a key shows them: the items of each key, in the order that they had.

    Two lists have the same groups exactly when sorting them by the key gives one list, so the groups stand for the
    sorted list where nothing is known of the order of the keys. -/

namespace CestaPlan.Grouping
variable {α κ : Type} [DecidableEq κ]

/-- The items of one key. -/
def group (key : α → κ) (l : List α) (k : κ) : List α := l.filter (key · = k)

def grouped [DecidableEq α] (key : α → κ) (l : List α) : Finset (κ × List α) :=
  (l.map key).toFinset.image fun k => (k, group key l k)

theorem eraseDups_nodup (l : List κ) : l.eraseDups.Nodup := by
  induction hn : l.length using Nat.strong_induction_on generalizing l with
  | _ n ih =>
    cases l with
    | nil => simp
    | cons a l =>
      rw [List.eraseDups_cons]
      refine List.nodup_cons.mpr ⟨?_, ih _ ?_ _ rfl⟩
      · rw [List.mem_eraseDups]
        simp
      · rw [← hn, List.length_cons]
        exact Nat.lt_succ_of_le (List.length_filter_le _ _)

theorem eraseDups_perm {l l' : List κ} (h : l.Perm l') : l.eraseDups.Perm l'.eraseDups := by
  rw [List.perm_ext_iff_of_nodup (eraseDups_nodup l) (eraseDups_nodup l')]
  intro a
  rw [List.mem_eraseDups, List.mem_eraseDups, h.mem_iff]

variable {key : α → κ} {l l' : List α} {k : κ} {a : α}

theorem mem_group : a ∈ group key l k ↔ a ∈ l ∧ key a = k := by
  simp [group]

theorem group_cons_self : group key (a :: l) (key a) = a :: group key l (key a) :=
  List.filter_cons_of_pos (by simp)

theorem group_cons_of_ne (h : key a ≠ k) : group key (a :: l) k = group key l k :=
  List.filter_cons_of_neg (by simpa using h)

theorem nodup_flatMap_group {f : List α → List α} (hf : ∀ k, (f (group key l k)).Nodup)
    (hmem : ∀ k, ∀ a ∈ f (group key l k), key a = k) :
    ((l.map key).eraseDups.flatMap fun k => f (group key l k)).Nodup := by
  refine List.nodup_flatMap.mpr ⟨fun k _ => hf k, (eraseDups_nodup _).imp fun hne a ha ha' => hne ?_⟩
  rw [← hmem _ a ha, ← hmem _ a ha']

theorem group_eq_nil (h : k ∉ l.map key) : group key l k = [] :=
  List.filter_eq_nil_iff.mpr fun a ha hk => h (List.mem_map.mpr ⟨a, ha, of_decide_eq_true hk⟩)

theorem perm_of_group_eq [DecidableEq α] (h : ∀ k, group key l k = group key l' k) : l.Perm l' := by
  refine List.perm_iff_count.mpr fun a => ?_
  have hcount : ∀ l : List α, (group key l (key a)).count a = l.count a := fun l =>
    List.count_filter (by simp)
  rw [← hcount l, ← hcount l', h]

theorem grouped_eq_iff [DecidableEq α] : grouped key l = grouped key l' ↔ ∀ k, group key l k = group key l' k := by
  constructor
  · intro h k
    have hmem : ∀ {l₁ l₂ : List α}, grouped key l₁ = grouped key l₂ → k ∈ l₁.map key → group key l₁ k = group key l₂ k := by
      intro l₁ l₂ h hk
      have hin : (k, group key l₁ k) ∈ grouped key l₂ :=
        h ▸ Finset.mem_image_of_mem (fun k => (k, group key l₁ k)) (List.mem_toFinset.mpr hk)
      obtain ⟨k', -, heq⟩ := Finset.mem_image.mp hin
      obtain ⟨rfl, hgroup⟩ := Prod.mk.inj heq
      exact hgroup.symm
    by_cases hk : k ∈ l.map key
    · exact hmem h hk
    by_cases hk' : k ∈ l'.map key
    · exact (hmem h.symm hk').symm
    · rw [group_eq_nil hk, group_eq_nil hk']
  · intro h
    have hkeys : (l.map key).toFinset = (l'.map key).toFinset :=
      List.toFinset_eq_of_perm _ _ ((perm_of_group_eq h).map key)
    simp only [grouped, hkeys, h]

theorem perm_of_grouped_eq [DecidableEq α] (h : grouped key l = grouped key l') : l.Perm l' :=
  perm_of_group_eq (grouped_eq_iff.mp h)

section Sums
variable {M : Type} [AddCommMonoid M] (f : α → M)

theorem sum_group_finset {s : Finset κ} (hs : ∀ a ∈ l, key a ∈ s) : ∑ k ∈ s, ((group key l k).map f).sum = (l.map f).sum := by
  induction l with
  | nil => exact Finset.sum_const_zero
  | cons a l ih =>
    have hcons : ∀ k, ((group key (a :: l) k).map f).sum = (if key a = k then f a else 0) + ((group key l k).map f).sum := by
      intro k
      by_cases h : key a = k
      · subst h
        rw [group_cons_self, if_pos rfl, List.map_cons, List.sum_cons]
      · rw [group_cons_of_ne h, if_neg h, zero_add]
    simp only [hcons, Finset.sum_add_distrib, Finset.sum_ite_eq, if_pos (hs a List.mem_cons_self), List.map_cons, List.sum_cons,
      ih fun b hb => hs b (List.mem_cons_of_mem _ hb)]

theorem sum_group (key : α → κ) (l : List α) :
    ((l.map key).dedup.map fun k => ((group key l k).map f).sum).sum = (l.map f).sum := by
  rw [← List.sum_toFinset _ (List.nodup_dedup _)]
  exact sum_group_finset f fun a ha => List.mem_toFinset.mpr (List.mem_dedup.mpr (List.mem_map_of_mem ha))

end Sums

/-! ### The sorted list -/

section Sorted
variable [LinearOrder κ]

theorem group_insertionSort :
    group key (l.insertionSort fun a b => key a ≤ key b) k = group key l k := by
  have hsame : (group key l k).Pairwise fun a b => key a ≤ key b :=
    List.pairwise_of_forall_mem_list fun a ha b hb => ((mem_group.mp ha).2.trans (mem_group.mp hb).2.symm).le
  have hsub := (List.sublist_insertionSort hsame List.filter_sublist).filter (key · = k)
  rw [← group, ← group, group, group, List.filter_filter] at hsub
  simp only [Bool.and_self] at hsub
  exact (hsub.eq_of_length ((List.perm_insertionSort _ l).filter _).length_eq.symm).symm

omit [DecidableEq κ] in
/-- Items that the key tells apart are sorted into one list, whatever their order. -/
theorem insertionSort_perm (hinj : ∀ a ∈ l, ∀ b ∈ l, key a = key b → a = b) (h : l.Perm l') :
    l.insertionSort (fun a b => key a ≤ key b) = l'.insertionSort fun a b => key a ≤ key b := by
  have htotal : Std.Total fun a b : α => key a ≤ key b := ⟨fun a b => le_total _ _⟩
  have htrans : IsTrans α fun a b => key a ≤ key b := ⟨fun _ _ _ => le_trans⟩
  have hl := List.perm_insertionSort (fun a b => key a ≤ key b) l
  have hl' := List.perm_insertionSort (fun a b => key a ≤ key b) l'
  refine List.Perm.eq_of_pairwise (fun a b ha hb hab hba => ?_) (List.pairwise_insertionSort _ l)
    (List.pairwise_insertionSort _ l') (hl.trans (h.trans hl'.symm))
  exact hinj a (hl.mem_iff.mp ha) b (h.mem_iff.mpr (hl'.mem_iff.mp hb)) (le_antisymm hab hba)

end Sorted
end CestaPlan.Grouping
