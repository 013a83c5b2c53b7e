import Mathlib.Data.List.Nodup

/-! Dictionaries that keep the order in which their keys were first inserted. Setting a key that is there
    changes its value and leaves it in its place. -/

namespace CestaPlan

structure Dict (K V : Type) where
  entries : List (K × V)
  nodup : (entries.map Prod.fst).Nodup

namespace Dict
variable {K V : Type}

def empty : Dict K V := ⟨[], List.nodup_nil⟩

instance : Inhabited (Dict K V) := ⟨empty⟩

def keys (d : Dict K V) : List K := d.entries.map Prod.fst

variable [DecidableEq K]

/-- `d.get(k)`. -/
def get? (d : Dict K V) (k : K) : Option V := d.entries.lookup k

/-- `d.get(k, default)`. -/
def getD (d : Dict K V) (k : K) (default : V) : V := (d.get? k).getD default

def contains (d : Dict K V) (k : K) : Bool := d.keys.contains k

/-- The entries after `d[k] = v`. -/
def setEntries (k : K) (v : V) : List (K × V) → List (K × V)
  | [] => [(k, v)]
  | (k', v') :: rest => if k' = k then (k, v) :: rest else (k', v') :: setEntries k v rest

theorem fst_setEntries (k : K) (v : V) (l : List (K × V)) :
    (setEntries k v l).map Prod.fst = if k ∈ l.map Prod.fst then l.map Prod.fst else l.map Prod.fst ++ [k] := by
  induction l with
  | nil => simp [setEntries]
  | cons e l ih =>
    obtain ⟨k', v'⟩ := e
    by_cases h : k' = k
    · subst h
      simp [setEntries]
    · have h' : k ≠ k' := fun he => h he.symm
      by_cases hm : k ∈ l.map Prod.fst
      · rw [if_pos hm] at ih
        simp [setEntries, h, ih, hm]
      · rw [if_neg hm] at ih
        have hc : ¬k ∈ ((k', v') :: l).map Prod.fst := by simpa [h'] using hm
        rw [if_neg hc]
        simp [setEntries, h, ih]

theorem mem_setEntries {k : K} {v : V} {l : List (K × V)} {e : K × V} (h : e ∈ setEntries k v l) : e = (k, v) ∨ e ∈ l := by
  induction l with
  | nil => exact Or.inl (List.mem_singleton.mp h)
  | cons a l ih =>
    rw [setEntries] at h
    split at h
    · rcases List.mem_cons.mp h with h | h
      · exact Or.inl h
      · exact Or.inr (List.mem_cons_of_mem _ h)
    · rcases List.mem_cons.mp h with h | h
      · exact Or.inr (h ▸ List.mem_cons_self)
      · exact (ih h).imp_right (List.mem_cons_of_mem _)

/-- `d[k] = v`. -/
def set (d : Dict K V) (k : K) (v : V) : Dict K V where
  entries := setEntries k v d.entries
  nodup := by
    rw [fst_setEntries]
    split
    · exact d.nodup
    · next h =>
      refine List.nodup_append.mpr ⟨d.nodup, List.pairwise_singleton _ _, fun a ha b hb heq => h ?_⟩
      rw [List.mem_singleton.mp hb] at heq
      exact heq ▸ ha

/-- `d.setdefault(k, v)`. -/
def setDefault (d : Dict K V) (k : K) (v : V) : Dict K V := if d.contains k then d else d.set k v

variable {d : Dict K V} {k k' : K} {v v' : V}

@[simp] theorem get?_empty : (empty : Dict K V).get? k = none := rfl

theorem lookup_cons_of_ne {l : List (K × V)} (h : k' ≠ k) : ((k, v) :: l).lookup k' = l.lookup k' := by
  have hb : (k' == k) = false := by simpa using h
  rw [List.lookup_cons, hb]

theorem lookup_setEntries (l : List (K × V)) :
    (setEntries k v l).lookup k' = if k' = k then some v else l.lookup k' := by
  induction l with
  | nil =>
    by_cases h : k' = k
    · simp [setEntries, h]
    · rw [if_neg h]
      exact lookup_cons_of_ne h
  | cons e l ih =>
    obtain ⟨a, b⟩ := e
    by_cases ha : a = k
    · subst ha
      rw [setEntries, if_pos rfl]
      by_cases h : k' = a
      · simp [h]
      · rw [if_neg h, lookup_cons_of_ne h, lookup_cons_of_ne h]
    · rw [setEntries, if_neg ha]
      by_cases h : k' = a
      · subst h
        simp [ha]
      · rw [lookup_cons_of_ne h, lookup_cons_of_ne h, ih]

theorem get?_set : (d.set k v).get? k' = if k' = k then some v else d.get? k' := lookup_setEntries d.entries

theorem setEntries_perm {l : List (K × V)} (h : (l.map Prod.fst).Nodup) :
    (setEntries k v l).Perm ((k, v) :: l.filter (·.1 ≠ k)) := by
  induction l with
  | nil => exact List.Perm.refl _
  | cons e l ih =>
    obtain ⟨a, b⟩ := e
    obtain ⟨hnotin, hnodup⟩ := List.nodup_cons.mp h
    rw [setEntries]
    split
    · next ha =>
      subst ha
      have hrest : l.filter (·.1 ≠ a) = l := List.filter_eq_self.mpr fun e he =>
        decide_eq_true fun heq => hnotin (List.mem_map.mpr ⟨e, he, heq⟩)
      rw [List.filter_cons_of_neg (by simp), hrest]
    · next ha =>
      rw [List.filter_cons_of_pos (by simpa using ha)]
      exact ((ih hnodup).cons _).trans (List.Perm.swap _ _ _)

theorem set_perm (d : Dict K V) (k : K) (v : V) : (d.set k v).entries.Perm ((k, v) :: d.entries.filter (·.1 ≠ k)) :=
  setEntries_perm d.nodup

theorem mem_keys_iff : k ∈ d.keys ↔ ∃ v, d.get? k = some v := by
  unfold keys get?
  generalize d.entries = l
  induction l with
  | nil => simp
  | cons e l ih =>
    obtain ⟨a, b⟩ := e
    by_cases h : k = a
    · simp [h]
    · rw [lookup_cons_of_ne h, ← ih, List.map_cons, List.mem_cons, or_iff_right h]

theorem mem_entries_iff : (k, v) ∈ d.entries ↔ d.get? k = some v := by
  rw [get?, List.lookup_eq_some_iff]
  constructor
  · intro h
    obtain ⟨l₁, l₂, heq⟩ := List.append_of_mem h
    refine ⟨l₁, l₂, heq, fun p hp => ?_⟩
    have hnodup := d.nodup
    rw [heq, List.map_append, List.nodup_append] at hnodup
    exact bne_iff_ne.mpr (hnodup.2.2 _ (List.mem_map_of_mem hp) _ (by simp)).symm
  · rintro ⟨l₁, l₂, heq, -⟩
    rw [heq]
    exact List.mem_append_right _ List.mem_cons_self

theorem mem_keys_set : k' ∈ (d.set k v).keys ↔ k' = k ∨ k' ∈ d.keys := by
  rw [mem_keys_iff, mem_keys_iff, get?_set]
  by_cases h : k' = k
  · simp [h]
  · simp [h]

theorem contains_iff : d.contains k = true ↔ ∃ v, d.get? k = some v := by
  rw [contains, List.contains_iff_mem, mem_keys_iff]

theorem get?_setDefault : (d.setDefault k v).get? k' = if k' = k then some (d.getD k v) else d.get? k' := by
  unfold setDefault
  split
  · next h =>
    obtain ⟨w, hw⟩ := contains_iff.mp h
    split
    · next hk => rw [hk, hw, getD, hw, Option.getD_some]
    · rfl
  · next h =>
    have hnone : d.get? k = none := by
      cases hg : d.get? k with
      | none => rfl
      | some w => exact absurd (contains_iff.mpr ⟨w, hg⟩) h
    rw [get?_set, getD, hnone, Option.getD_none]

theorem get?_foldl_setDefault {α : Type} {key : α → K} {value : α → V} {xs : List α} :
    (xs.foldl (fun d x => d.setDefault (key x) (value x)) d).get? k =
      (d.get? k).or ((xs.find? (key · = k)).map value) := by
  induction xs generalizing d with
  | nil => simp
  | cons x xs ih =>
    rw [List.foldl_cons, ih, get?_setDefault, List.find?_cons]
    by_cases hk : k = key x
    · subst hk
      cases hd : d.get? (key x) with
      | none => simp [getD, hd]
      | some v => simp [getD, hd]
    · have hk' : ¬key x = k := Ne.symm hk
      simp [hk, hk']

theorem get?_foldl_set {α : Type} {key : α → K} {value : α → V} {xs : List α} :
    (xs.foldl (fun d x => d.set (key x) (value x)) d).get? k =
      ((xs.reverse.find? (key · = k)).map value).or (d.get? k) := by
  induction xs generalizing d with
  | nil => simp
  | cons x xs ih =>
    rw [List.foldl_cons, ih, get?_set, List.reverse_cons, List.find?_append]
    by_cases hk : k = key x
    · cases hlast : xs.reverse.find? (key · = k) with
      | none => simp [hk]
      | some y => simp
    · have hk' : ¬key x = k := Ne.symm hk
      simp [hk, hk']

theorem get?_foldl_set_perm {α : Type} {key : α → K} {value : α → V} {xs ys : List α} (hperm : xs.Perm ys)
    (hsame : ∀ x ∈ xs, ∀ y ∈ xs, key x = key y → value x = value y) :
    (xs.foldl (fun d x => d.set (key x) (value x)) d).get? k = (ys.foldl (fun d x => d.set (key x) (value x)) d).get? k := by
  have hrev : xs.reverse.Perm ys.reverse := (List.reverse_perm xs).trans (hperm.trans (List.reverse_perm ys).symm)
  rw [get?_foldl_set, get?_foldl_set]
  congr 1
  cases hx : xs.reverse.find? (key · = k) with
  | none =>
    have hy : ys.reverse.find? (key · = k) = none :=
      List.find?_eq_none.mpr fun y hy => List.find?_eq_none.mp hx y (hrev.mem_iff.mpr hy)
    rw [hy]
  | some x =>
    cases hy : ys.reverse.find? (key · = k) with
    | none => exact absurd (List.find?_some hx) (List.find?_eq_none.mp hy x (hrev.mem_iff.mp (List.mem_of_find?_eq_some hx)))
    | some y =>
      have hxk : key x = k := by simpa using List.find?_some hx
      have hyk : key y = k := by simpa using List.find?_some hy
      have hxmem : x ∈ xs := List.mem_reverse.mp (List.mem_of_find?_eq_some hx)
      have hymem : y ∈ xs := hperm.mem_iff.mpr (List.mem_reverse.mp (List.mem_of_find?_eq_some hy))
      rw [Option.map_some, Option.map_some, hsame x hxmem y hymem (hxk.trans hyk.symm)]

end Dict
end CestaPlan
