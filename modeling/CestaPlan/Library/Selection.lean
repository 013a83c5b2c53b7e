import Mathlib.Data.List.Sort

/-! The first row of a sorted query, and how it changes with the rows.

    The orders are total and transitive; two rows may tie, and then the earlier one of the list comes first. -/

namespace CestaPlan.Selection
variable {α : Type} (r : α → α → Prop) [DecidableRel r]

/-- `ORDER BY r LIMIT 1`. -/
def first (rows : List α) : Option α := (rows.insertionSort r).head?

/-- The one of two rows that comes first. -/
def pick (a b : α) : α := if r a b then a else b

variable {r} {a b : α} {rows rows' : List α}

theorem pick_left (h : r a b) : pick r a b = a := if_pos h

theorem pick_right (h : ¬r a b) : pick r a b = b := if_neg h

theorem first_nil : first r [] = none := rfl

theorem first_cons : first r (a :: rows) = Option.merge (pick r) (some a) (first r rows) := by
  unfold first
  rw [List.insertionSort_cons]
  cases h : rows.insertionSort r with
  | nil => rfl
  | cons b rest =>
    show (if r a b then _ else _ : List α).head? = some (if r a b then a else b)
    split <;> rfl

theorem first_mem (h : first r rows = some a) : a ∈ rows :=
  (List.mem_insertionSort r).mp (List.mem_of_mem_head? (Option.mem_def.mpr h))

theorem first_eq_none_iff : first r rows = none ↔ rows = [] := by
  rw [first, List.head?_eq_none_iff, ← List.length_eq_zero_iff, List.length_insertionSort, List.length_eq_zero_iff]

theorem first_singleton : first r [a] = some a := rfl

section Ordered
variable [Std.Total r] [IsTrans α r]

instance : Std.Associative (pick r) where
  assoc a b c := by
    unfold pick
    by_cases hab : r a b
    · by_cases hbc : r b c
      · simp [hab, hbc, trans_of r hab hbc]
      · simp [hab, hbc]
    · have hba : r b a := (total_of r a b).resolve_left hab
      by_cases hbc : r b c
      · simp [hab, hbc]
      · have hac : ¬r a c := fun hac => hbc (trans_of r hba hac)
        simp [hab, hbc, hac]

theorem first_append : first r (rows ++ rows') = Option.merge (pick r) (first r rows) (first r rows') := by
  induction rows with
  | nil => cases h : first r rows' <;> simp [first_nil, h]
  | cons a rows ih =>
    rw [List.cons_append, first_cons, first_cons, ih]
    exact (Std.Associative.assoc _ _ _).symm

theorem first_precedes (ha : a ∈ rows) : ∃ b, first r rows = some b ∧ (b = a ∨ r b a) := by
  have hmem : a ∈ rows.insertionSort r := (List.mem_insertionSort r).mpr ha
  have hsorted := List.pairwise_insertionSort r rows
  unfold first
  cases hs : rows.insertionSort r with
  | nil => rw [hs] at hmem; cases hmem
  | cons b rest =>
    rw [hs] at hmem hsorted
    refine ⟨b, rfl, ?_⟩
    rcases List.mem_cons.mp hmem with rfl | hrest
    · exact Or.inl rfl
    · exact Or.inr (List.rel_of_pairwise_cons hsorted hrest)

theorem first_filter {p : α → Bool} (h : first r rows = some a) (ha : p a = true) : first r (rows.filter p) = some a := by
  induction rows generalizing a with
  | nil => cases h
  | cons b rows ih =>
    rw [first_cons] at h
    cases hfirst : first r rows with
    | none =>
      rw [hfirst] at h
      cases h
      rw [first_eq_none_iff.mp hfirst, List.filter_cons_of_pos ha]
      rfl
    | some c =>
      rw [hfirst] at h
      have hpick : pick r b c = a := Option.some.inj h
      by_cases hbc : r b c
      · have hb : b = a := by simpa [pick, hbc] using hpick
        subst hb
        rw [List.filter_cons_of_pos ha, first_cons]
        cases hrest : first r (rows.filter p) with
        | none => rfl
        | some d =>
          obtain ⟨c', hc', hcd⟩ := first_precedes (r := r) (List.mem_filter.mp (first_mem hrest)).1
          cases hfirst.symm.trans hc'
          have hbd : r b d := hcd.elim (fun h => h ▸ hbc) fun h => trans_of r hbc h
          exact congrArg some (pick_left hbd)
      · have hc : c = a := by simpa [pick, hbc] using hpick
        subst hc
        have hrest := ih hfirst ha
        cases hb : p b with
        | true =>
          rw [List.filter_cons_of_pos hb, first_cons, hrest]
          exact congrArg some (pick_right hbc)
        | false => rw [List.filter_cons_of_neg (by simp [hb]), hrest]

omit [Std.Total r] in
theorem find?_orderedInsert {p : α → Bool} (h : rows.Pairwise r) :
    (rows.orderedInsert r a).find? p =
      if p a then Option.merge (pick r) (some a) (rows.find? p) else rows.find? p := by
  induction rows with
  | nil => cases ha : p a <;> simp [ha]
  | cons b rows ih =>
    obtain ⟨hb, hrows⟩ := List.pairwise_cons.mp h
    rw [List.orderedInsert_cons]
    by_cases hab : r a b
    · rw [if_pos hab]
      cases ha : p a with
      | false => rw [List.find?_cons_of_neg (by simp [ha])]; rfl
      | true =>
        rw [List.find?_cons_of_pos ha]
        cases hfind : (b :: rows).find? p with
        | none => rfl
        | some c =>
          have hac : r a c := by
            rcases List.mem_cons.mp (List.mem_of_find?_eq_some hfind) with rfl | hc
            · exact hab
            · exact trans_of r hab (hb c hc)
          exact (congrArg some (pick_left hac)).symm
    · rw [if_neg hab]
      cases hpb : p b with
      | true =>
        rw [List.find?_cons_of_pos hpb, List.find?_cons_of_pos hpb]
        split
        · exact (congrArg some (pick_right hab)).symm
        · rfl
      | false =>
        rw [List.find?_cons_of_neg (by simp [hpb]), List.find?_cons_of_neg (by simp [hpb])]
        exact ih hrows

theorem find?_insertionSort {p : α → Bool} : (rows.insertionSort r).find? p = first r (rows.filter p) := by
  induction rows with
  | nil => rfl
  | cons a rows ih =>
    rw [List.insertionSort_cons, find?_orderedInsert (List.pairwise_insertionSort r rows), ih]
    cases ha : p a with
    | true => rw [List.filter_cons_of_pos ha, first_cons]; rfl
    | false => rw [List.filter_cons_of_neg (by simp [ha])]; rfl

end Ordered

end CestaPlan.Selection
