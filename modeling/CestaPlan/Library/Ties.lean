import Mathlib.Data.List.Nodup
import Mathlib.Data.List.Sort

/-! What a sorted query leaves open. Rows that tie keep the order in which the table returned them, so two orders of the
    table may give two results; a part of the result without ties is the same in both. -/

namespace CestaPlan.Ties
variable {α β : Type} {r : α → α → Prop} {l l' : List α} {a b : α} {p : α → Bool}

theorem filter_eq_of_untied (hperm : l.Perm l') (hl : l.Pairwise r) (hl' : l'.Pairwise r)
    (h : ∀ a ∈ l, ∀ b ∈ l, p a = true → p b = true → r a b → r b a → a = b) : l.filter p = l'.filter p := by
  refine (hperm.filter p).eq_of_pairwise (fun a b ha hb hab hba => ?_) (hl.filter p) (hl'.filter p)
  obtain ⟨ha, hpa⟩ := List.mem_filter.mp ha
  obtain ⟨hb, hpb⟩ := List.mem_filter.mp hb
  exact h a ha b (hperm.mem_iff.mpr hb) hpa hpb hab hba

theorem eq_of_untied (hperm : l.Perm l') (hl : l.Pairwise r) (hl' : l'.Pairwise r)
    (h : ∀ a ∈ l, ∀ b ∈ l, r a b → r b a → a = b) : l = l' :=
  hperm.eq_of_pairwise (fun a b ha hb => h a ha b (hperm.mem_iff.mpr hb)) hl hl'

theorem rel_of_head? [Std.Total r] (hl : l.Pairwise r) (ha : l.head? = some a) : ∀ b ∈ l, r a b := by
  cases l with
  | nil => cases ha
  | cons c l =>
    cases ha
    exact List.forall_mem_cons.mpr ⟨(total_of r a a).elim id id, (List.pairwise_cons.mp hl).1⟩

/-- What is taken of the first row is the same where the rows that come before every row agree on it. -/
theorem head?_map_eq [Std.Total r] {f : α → β} (hperm : l.Perm l') (hl : l.Pairwise r) (hl' : l'.Pairwise r)
    (h : ∀ a ∈ l, ∀ b ∈ l, (∀ c ∈ l, r a c) → (∀ c ∈ l, r b c) → f a = f b) : l.head?.map f = l'.head?.map f := by
  cases ha : l.head? with
  | none =>
    rw [List.head?_eq_none_iff] at ha
    subst ha
    rw [← hperm.nil_eq]
    rfl
  | some a =>
    obtain ⟨b, hb⟩ : ∃ b, l'.head? = some b := by
      refine Option.ne_none_iff_exists'.mp fun hnil => ?_
      rw [List.head?_eq_none_iff] at hnil
      subst hnil
      rw [hperm.eq_nil] at ha
      cases ha
    have hfirst := rel_of_head? hl' hb
    rw [hb]
    refine congrArg some (h a (List.mem_of_mem_head? ha) b (hperm.mem_iff.mpr (List.mem_of_mem_head? hb))
      (rel_of_head? hl ha) fun c hc => hfirst c (hperm.mem_iff.mp hc))

theorem exists_perm_cons_cons [DecidableEq α] (ha : a ∈ l) (hb : b ∈ l) (hne : a ≠ b) :
    ∃ rest, l.Perm (a :: b :: rest) := by
  have hb' : b ∈ l.erase a := (List.mem_erase_of_ne hne.symm).mpr hb
  exact ⟨_, (List.perm_cons_erase ha).trans ((List.perm_cons_erase hb').cons a)⟩

theorem not_both_orders (hne : a ≠ b) (hl : l.Nodup) (hab : [a, b].Sublist l) : ¬[b, a].Sublist l := by
  intro hba
  induction l with
  | nil => cases hab
  | cons c l ih =>
    obtain ⟨hc, hl⟩ := List.nodup_cons.mp hl
    have hmem : ∀ {x y : α}, [x, y].Sublist (c :: l) → x = c → y ∈ l := by
      rintro x y hsub rfl
      exact List.singleton_sublist.mp (List.cons_sublist_cons.mp hsub)
    have hrest : ∀ {x y : α}, [x, y].Sublist (c :: l) → x ≠ c → [x, y].Sublist l := by
      intro x y hsub hx
      cases hsub with
      | cons _ h => exact h
      | cons_cons _ h => exact absurd rfl hx
    by_cases ha : a = c
    · subst ha
      exact hc ((hrest hba hne.symm).subset (by simp))
    · by_cases hb : b = c
      · subst hb
        exact hc ((hrest hab ha).subset (by simp))
      · exact ih hl (hrest hab ha) (hrest hba hb)

section Sorted
variable [DecidableRel r]

theorem insertionSort_eq_of_untied [Std.Total r] [IsTrans α r] (hperm : l.Perm l')
    (h : ∀ a ∈ l, ∀ b ∈ l, r a b → r b a → a = b) : l.insertionSort r = l'.insertionSort r := by
  refine eq_of_untied ?_ (List.pairwise_insertionSort r l) (List.pairwise_insertionSort r l') fun a ha b hb => ?_
  · exact ((List.perm_insertionSort r l).trans hperm).trans (List.perm_insertionSort r l').symm
  · exact h a ((List.mem_insertionSort r).mp ha) b ((List.mem_insertionSort r).mp hb)

theorem orderedInsert_of_forall_rel (h : ∀ b ∈ l, r a b) : l.orderedInsert r a = a :: l := by
  cases l with
  | nil => rfl
  | cons b l => exact List.orderedInsert_cons_of_le r l (h b List.mem_cons_self)

theorem filter_orderedInsert [IsTrans α r] (hl : l.Pairwise r) : (l.orderedInsert r a).filter p =
    if p a = true then (l.filter p).orderedInsert r a else l.filter p := by
  induction l with
  | nil => cases hp : p a <;> simp [hp]
  | cons b l ih =>
    obtain ⟨hb, hl⟩ := List.pairwise_cons.mp hl
    by_cases hab : r a b
    · rw [List.orderedInsert_cons_of_le r l hab]
      split
      · next hp =>
        have hfirst : ∀ c ∈ (b :: l).filter p, r a c := fun c hc =>
          (List.mem_cons.mp (List.mem_of_mem_filter hc)).elim (fun heq => heq ▸ hab) fun hc => trans_of r hab (hb c hc)
        rw [List.filter_cons_of_pos hp, orderedInsert_of_forall_rel hfirst]
      · next hp => exact List.filter_cons_of_neg hp
    · rw [List.orderedInsert_of_not_le r l hab, List.filter_cons, ih hl, List.filter_cons]
      by_cases hp : p a = true
      · by_cases hpb : p b = true
        · simp [hp, hpb, hab]
        · simp [hp, hpb]
      · simp [hp]

theorem filter_insertionSort [Std.Total r] [IsTrans α r] : (l.insertionSort r).filter p = (l.filter p).insertionSort r := by
  induction l with
  | nil => rfl
  | cons a l ih =>
    rw [List.insertionSort_cons, filter_orderedInsert (List.pairwise_insertionSort r l), ih, List.filter_cons]
    split
    · rfl
    · rfl

end Sorted

/-! ### Lists made from one list of keys -/

section Aligned
variable {κ : Type} {R : α → β → Prop} {f : κ → Option α} {g : κ → Option β} {ks : List κ}

theorem forall₂_filterMap_iff (h : ∀ k ∈ ks, (∃ a, f k = some a) ↔ ∃ b, g k = some b) :
    List.Forall₂ R (ks.filterMap f) (ks.filterMap g) ↔ ∀ k ∈ ks, ∀ a, f k = some a → ∀ b, g k = some b → R a b := by
  induction ks with
  | nil => exact iff_of_true List.Forall₂.nil fun k hk => absurd hk List.not_mem_nil
  | cons k ks ih =>
    obtain ⟨hk, hks⟩ := List.forall_mem_cons.mp h
    rw [List.forall_mem_cons, ← ih hks]
    cases hf : f k with
    | none =>
      have hg : g k = none := by
        by_contra hne
        obtain ⟨a, ha⟩ := hk.mpr (Option.ne_none_iff_exists'.mp hne)
        rw [hf] at ha
        cases ha
      rw [List.filterMap_cons_none hf, List.filterMap_cons_none hg]
      exact ⟨fun hrest => ⟨nofun, hrest⟩, fun hrest => hrest.2⟩
    | some a =>
      obtain ⟨b, hg⟩ := hk.mp ⟨a, hf⟩
      rw [List.filterMap_cons_some hf, List.filterMap_cons_some hg, List.forall₂_cons, hg]
      refine and_congr_left fun _ => ⟨fun hab a' ha' b' hb' => ?_, fun hall => hall a rfl b rfl⟩
      cases ha'
      cases hb'
      exact hab

end Aligned
end CestaPlan.Ties
