import CestaPlan.Library.Dict
import Mathlib.Data.List.Perm.Basic
import Mathlib.Data.List.Induction

/-! Elements that are indexed by a key: of those with one key, the last one stays. -/

namespace CestaPlan.Indexing
variable {α K : Type} [DecidableEq K] {key : α → Option K} {xs : List α} {x : α} {k : K}

/-- The index of the elements that have a key. -/
def index (key : α → Option K) (xs : List α) : Dict K α :=
  xs.foldl (fun d x => match key x with
    | none => d
    | some k => d.set k x) Dict.empty

/-- The elements with a key that no later element has. -/
def lasts (key : α → Option K) : List α → List α
  | [] => []
  | x :: xs => if (key x).isNone ∨ ∃ y ∈ xs, key y = key x then lasts key xs else x :: lasts key xs

theorem lasts_sublist (xs : List α) : (lasts key xs).Sublist xs := by
  induction xs with
  | nil => exact List.Sublist.slnil
  | cons x xs ih =>
    rw [lasts]
    split
    · exact ih.cons x
    · exact ih.cons_cons x

theorem isSome_key_of_mem_lasts (h : x ∈ lasts key xs) : (key x).isSome := by
  induction xs with
  | nil => cases h
  | cons y xs ih =>
    rw [lasts] at h
    split at h
    · exact ih h
    · next hkept =>
      rcases List.mem_cons.mp h with rfl | h
      · cases hx : key x with
        | none => exact absurd (.inl (by rw [hx]; rfl)) hkept
        | some k => rfl
      · exact ih h

theorem lasts_concat (xs : List α) (x : α) : lasts key (xs ++ [x]) =
    match key x with
    | none => lasts key xs
    | some k => (lasts key xs).filter (key · ≠ some k) ++ [x] := by
  induction xs with
  | nil => cases hx : key x <;> simp [lasts, hx]
  | cons y xs ih =>
    rw [List.cons_append, lasts, lasts, ih]
    cases hx : key x with
    | none =>
      by_cases hy : key y = none
      · simp [hy]
      · simp [hx, Ne.symm hy]
    | some k =>
      by_cases hyk : key y = some k
      · simp only [hyk]
        split
        · split
          · rfl
          · rw [List.filter_cons_of_neg (by simp [hyk])]
        · next hfirst => exact absurd (.inr ⟨x, List.mem_append_right _ List.mem_cons_self, hx⟩) hfirst
      · have hne : ¬some k = key y := fun heq => hyk heq.symm
        by_cases hlater : (key y).isNone ∨ ∃ z ∈ xs, key z = key y
        · rw [if_pos hlater, if_pos]
          exact hlater.imp id fun ⟨z, hz, hzy⟩ => ⟨z, List.mem_append_left _ hz, hzy⟩
        · rw [if_neg hlater, if_neg]
          · simp [hyk]
          · rintro (hnone | ⟨z, hz, hzy⟩)
            · exact hlater (.inl hnone)
            · rcases List.mem_append.mp hz with hz | hz
              · exact hlater (.inr ⟨z, hz, hzy⟩)
              · rw [List.mem_singleton.mp hz, hx] at hzy
                exact hne hzy

theorem index_perm (xs : List α) :
    (index key xs).entries.Perm ((lasts key xs).filterMap fun x => (key x).map fun k => (k, x)) := by
  induction xs using List.reverseRecOn with
  | nil => exact List.Perm.nil
  | append_singleton xs x ih =>
    rw [index, List.foldl_append, List.foldl_cons, List.foldl_nil, lasts_concat, ← index]
    cases hx : key x with
    | none => exact ih
    | some k =>
      have hothers : ((lasts key xs).filter (key · ≠ some k)).filterMap (fun x => (key x).map fun k => (k, x)) =
          ((lasts key xs).filterMap fun x => (key x).map fun k => (k, x)).filter (·.1 ≠ k) := by
        rw [List.filterMap_filter, List.filter_filterMap]
        congr 1
        funext y
        by_cases hy : key y = some k
        · simp [hy, Option.filter]
        · cases hkey : key y with
          | none => simp
          | some k' =>
            have hne : k' ≠ k := fun heq => hy (heq ▸ hkey)
            simp [hne, Option.filter]
      simp only [List.filterMap_append, hothers, List.filterMap_cons, hx, Option.map_some, List.filterMap_nil]
      exact (Dict.set_perm _ k x).trans (((ih.filter _).cons (k, x)).trans (List.perm_append_singleton _ _).symm)

theorem key_of_index (h : (index key xs).get? k = some x) : key x = some k := by
  have hmem := (index_perm xs).subset (Dict.mem_entries_iff.mpr h)
  obtain ⟨y, -, hy⟩ := List.mem_filterMap.mp hmem
  obtain ⟨k', hk', heq⟩ := Option.map_eq_some_iff.mp hy
  obtain ⟨rfl, rfl⟩ := Prod.mk.inj heq
  exact hk'

theorem map_keys_perm [Inhabited α] : ((index key xs).keys.map fun k => ((index key xs).get? k).getD default).Perm (lasts key xs) := by
  have hvalues : ((index key xs).keys.map fun k => ((index key xs).get? k).getD default) = (index key xs).entries.map Prod.snd := by
    rw [Dict.keys, List.map_map]
    refine List.map_congr_left fun e he => ?_
    simp [Dict.mem_entries_iff.mp he]
  have hkeyed : ∀ x ∈ lasts key xs, ((key x).map fun k => (k, x)).map Prod.snd = some x := by
    intro x hx
    rw [Option.map_map]
    obtain ⟨k, hk⟩ := Option.isSome_iff_exists.mp (isSome_key_of_mem_lasts hx)
    simp [hk]
  rw [hvalues]
  refine ((index_perm xs).map Prod.snd).trans (List.Perm.of_eq ?_)
  rw [List.map_filterMap, List.filterMap_congr hkeyed, List.filterMap_some]

theorem filterMap_lasts_eq_iff {β : Type} {f : α → Option β} (h : ∀ x, key x = none → f x = none) (xs : List α) :
    (lasts key xs).filterMap f = xs.filterMap f ↔ xs.Pairwise fun x y => key x = key y → f x = none := by
  induction xs with
  | nil => exact iff_of_true rfl List.Pairwise.nil
  | cons x xs ih =>
    have hsub : ((lasts key xs).filterMap f).Sublist (xs.filterMap f) := (lasts_sublist xs).filterMap f
    rw [List.pairwise_cons, lasts, ← ih]
    split
    · next hdropped =>
      cases hf : f x with
      | none => simp [hf]
      | some b =>
        have hlong : (lasts key xs).filterMap f ≠ b :: xs.filterMap f := fun heq => by
          have hle := hsub.length_le
          rw [heq, List.length_cons] at hle
          omega
        rw [List.filterMap_cons_some hf]
        refine iff_of_false hlong fun hrest => ?_
        rcases hdropped with hnone | ⟨y, hy, hkey⟩
        · rw [h x (Option.isNone_iff_eq_none.mp hnone)] at hf
          cases hf
        · cases hrest.1 y hy hkey.symm
    · next hkept =>
      have hsole : ∀ y ∈ xs, key x = key y → f x = none := fun y hy hkey => absurd (.inr ⟨y, hy, hkey.symm⟩) hkept
      rw [and_iff_right hsole, List.filterMap_cons, List.filterMap_cons]
      cases f x with
      | none => rfl
      | some b => exact List.cons.injEq _ _ _ _ ▸ and_iff_right rfl

theorem mem_lasts_of_sole {β : Type} {f : α → Option β} (h : ∀ x, key x = none → f x = none)
    (hsole : xs.Pairwise fun x y => key x = key y → f x = none) (hx : x ∈ xs) (hf : (f x).isSome) : x ∈ lasts key xs := by
  have hne : f x ≠ none := Option.isSome_iff_ne_none.mp hf
  induction xs with
  | nil => cases hx
  | cons y xs ih =>
    obtain ⟨hfirst, hrest⟩ := List.pairwise_cons.mp hsole
    rw [lasts]
    split
    · next hdropped =>
      rcases List.mem_cons.mp hx with rfl | hx
      · rcases hdropped with hnone | ⟨z, hz, hkey⟩
        · exact absurd (h x (Option.isNone_iff_eq_none.mp hnone)) hne
        · exact absurd (hfirst z hz hkey.symm) hne
      · exact ih hrest hx
    · rcases List.mem_cons.mp hx with rfl | hx
      · exact List.mem_cons_self
      · exact List.mem_cons_of_mem _ (ih hrest hx)

end CestaPlan.Indexing
