import Mathlib.Data.List.Nodup

/-! Updates of the rows of a table, each of them of the rows with one key. A run of updates changes every row by its own
    updates, in their order. -/

namespace CestaPlan.Updates
variable {ι α β : Type} [DecidableEq ι]

def updateAt (key : α → ι) (i : ι) (f : α → α) (rows : List α) : List α := rows.map fun x => if key x = i then f x else x

/-- What a run of updates makes of one row. -/
def rewrite (key : α → ι) (target : β → ι) (write : β → α → α) (us : List β) (x : α) : α :=
  (us.filter (target · = key x)).foldl (fun x u => write u x) x

/-- The row of a key. -/
def row? (key : α → ι) (rows : List α) (i : ι) : Option α := rows.find? (key · = i)

variable {key : α → ι} {target : β → ι} {write : β → α → α} {us : List β} {u : β} {rows : List α} {x : α} {i : ι}

section Run
variable (key target) (hkey : ∀ u x, key (write u x) = key x)
include hkey

omit [DecidableEq ι] in
theorem key_foldl (us : List β) (x : α) : key (us.foldl (fun x u => write u x) x) = key x :=
  List.foldlRecOn us _ (motive := fun y => key y = key x) rfl fun y hy u _ => (hkey u y).trans hy

theorem key_rewrite (us : List β) (x : α) : key (rewrite key target write us x) = key x := key_foldl key hkey _ x

theorem rewrite_cons : rewrite key target write (u :: us) x =
    rewrite key target write us (if key x = target u then write u x else x) := by
  unfold rewrite
  by_cases h : key x = target u
  · rw [if_pos h, List.filter_cons_of_pos (by simpa using h.symm), hkey]
    rfl
  · rw [if_neg h, List.filter_cons_of_neg (by simpa using Ne.symm h)]

theorem foldl_updateAt (us : List β) (rows : List α) :
    us.foldl (fun rows u => updateAt key (target u) (write u) rows) rows = rows.map (rewrite key target write us) := by
  induction us generalizing rows with
  | nil => exact (List.map_id rows).symm
  | cons u us ih =>
    rw [List.foldl_cons, ih, updateAt, List.map_map]
    exact List.map_congr_left fun x _ => (rewrite_cons key target hkey).symm

theorem rewrite_append (us vs : List β) : rewrite key target write (us ++ vs) x =
    rewrite key target write vs (rewrite key target write us x) := by
  rw [rewrite, List.filter_append, List.foldl_append]
  show _ = (vs.filter _).foldl _ _
  rw [key_rewrite key target hkey]
  rfl

end Run

theorem rewrite_of_not_mem (h : key x ∉ us.map target) : rewrite key target write us x = x := by
  have hnone : us.filter (target · = key x) = [] :=
    List.filter_eq_nil_iff.mpr fun u hu hx => h (List.mem_map.mpr ⟨u, hu, of_decide_eq_true hx⟩)
  rw [rewrite, hnone]
  rfl

theorem filter_target_eq (hus : (us.map target).Nodup) (hu : u ∈ us) : us.filter (target · = target u) = [u] := by
  induction us with
  | nil => cases hu
  | cons v us ih =>
    obtain ⟨hv, hus⟩ := List.nodup_cons.mp hus
    rcases List.mem_cons.mp hu with rfl | hu
    · have hnone : us.filter (target · = target u) = [] :=
        List.filter_eq_nil_iff.mpr fun w hw heq => hv (List.mem_map.mpr ⟨w, hw, of_decide_eq_true heq⟩)
      rw [List.filter_cons_of_pos (by simp), hnone]
    · have hne : target v ≠ target u := fun heq => hv (heq ▸ List.mem_map_of_mem hu)
      rw [List.filter_cons_of_neg (by simpa using hne), ih hus hu]

theorem rewrite_of_mem (hus : (us.map target).Nodup) (hu : u ∈ us) (h : target u = key x) :
    rewrite key target write us x = write u x := by
  rw [rewrite, ← h, filter_target_eq hus hu]
  rfl

/-! ### Rows by their keys -/

theorem mem_of_row? (h : row? key rows i = some x) : x ∈ rows := List.mem_of_find?_eq_some h

theorem key_of_row? (h : row? key rows i = some x) : key x = i := by
  simpa using List.find?_some h

theorem row?_of_mem (hrows : (rows.map key).Nodup) (hx : x ∈ rows) : row? key rows (key x) = some x := by
  cases h : row? key rows (key x) with
  | none => exact absurd (List.find?_eq_none.mp h x hx) (by simp)
  | some y => exact congrArg some (List.inj_on_of_nodup_map hrows (mem_of_row? h) hx (key_of_row? h))

theorem row?_eq_none : row? key rows i = none ↔ i ∉ rows.map key := by
  simp [row?, List.find?_eq_none]

theorem perm_cons_filter (hrows : (rows.map key).Nodup) (hx : x ∈ rows) :
    rows.Perm (x :: rows.filter (key · ≠ key x)) := by
  induction rows with
  | nil => cases hx
  | cons y rows ih =>
    rw [List.map_cons, List.nodup_cons] at hrows
    rcases List.mem_cons.mp hx with rfl | hmem
    · have hrest : rows.filter (key · ≠ key x) = rows := by
        refine List.filter_eq_self.mpr fun z hz => ?_
        simpa using fun heq : key z = key x => hrows.1 (heq ▸ List.mem_map_of_mem hz)
      rw [List.filter_cons_of_neg (by simp), hrest]
    · have hne : key y ≠ key x := fun heq => hrows.1 (heq ▸ List.mem_map_of_mem hmem)
      rw [List.filter_cons_of_pos (by simpa using hne)]
      exact ((ih hrows.2 hmem).cons y).trans (List.Perm.swap ..)

theorem row?_perm {rows' : List α} (hp : rows.Perm rows') (hrows : (rows.map key).Nodup) :
    row? key rows i = row? key rows' i := by
  cases h : row? key rows i with
  | none => exact (row?_eq_none.mpr fun hin => row?_eq_none.mp h ((hp.map key).mem_iff.mpr hin)).symm
  | some x =>
    have hrow := row?_of_mem ((hp.map key).nodup_iff.mp hrows) (hp.mem_iff.mp (mem_of_row? h))
    rw [key_of_row? h] at hrow
    exact hrow.symm

theorem row?_append_of_not_mem {rows' : List α} (h : i ∉ rows.map key) :
    row? key (rows ++ rows') i = row? key rows' i := by
  have hnone : rows.find? (key · = i) = none := row?_eq_none.mpr h
  rw [row?, List.find?_append, hnone]
  rfl

theorem row?_map {f : α → α} (hf : ∀ x, key (f x) = key x) : row? key (rows.map f) i = (row? key rows i).map f := by
  simp only [row?, List.find?_map, Function.comp_def, hf]

section UpdateAt
variable {f : α → α}

theorem mem_updateAt {y : α} : y ∈ updateAt key i f rows ↔ ∃ x ∈ rows, (if key x = i then f x else x) = y := List.mem_map

theorem map_updateAt {γ : Type} {g : α → γ} (hg : ∀ x, g (f x) = g x) : (updateAt key i f rows).map g = rows.map g := by
  rw [updateAt, List.map_map]
  refine List.map_congr_left fun x _ => ?_
  rw [Function.comp_apply, apply_ite g, hg, ite_self]

theorem row?_updateAt {j : ι} (hf : ∀ x, key (f x) = key x) :
    row? key (updateAt key i f rows) j = (row? key rows j).map fun x => if key x = i then f x else x :=
  row?_map fun x => by rw [apply_ite key, hf, ite_self]

theorem updateAt_id : updateAt key i id rows = rows := by
  rw [updateAt]
  simp

theorem updateAt_of_not_mem (h : i ∉ rows.map key) : updateAt key i f rows = rows := by
  refine (List.map_congr_left fun x hx => if_neg fun heq => h ?_).trans (List.map_id rows)
  exact heq ▸ List.mem_map_of_mem hx

theorem countP_updateAt_le {p : α → Bool} (hf : ∀ x ∈ rows, key x = i → p (f x) = true → p x = true) :
    (updateAt key i f rows).countP p ≤ rows.countP p := by
  rw [updateAt, List.countP_map]
  refine List.countP_mono_left fun x hx hp => ?_
  rw [Function.comp_apply] at hp
  split at hp
  · next hkey => exact hf x hx hkey hp
  · exact hp

theorem countP_updateAt_le_succ {p : α → Bool} (hrows : (rows.map key).Nodup) :
    (updateAt key i f rows).countP p ≤ rows.countP p + 1 := by
  induction rows with
  | nil => exact Nat.zero_le _
  | cons y rows ih =>
    rw [List.map_cons, List.nodup_cons] at hrows
    rw [updateAt, List.map_cons, List.countP_cons, List.countP_cons]
    by_cases hkey : key y = i
    · have hrest : rows.map (fun x => if key x = i then f x else x) = rows := updateAt_of_not_mem (hkey ▸ hrows.1)
      rw [hrest]
      split <;> split <;> omega
    · have hrest := ih hrows.2
      rw [updateAt] at hrest
      rw [if_neg hkey]
      omega

end UpdateAt

theorem row?_append_of_some {rows' : List α} (h : row? key rows i = some x) : row? key (rows ++ rows') i = some x := by
  have hfind : rows.find? (key · = i) = some x := h
  rw [row?, List.find?_append, hfind]
  rfl

end CestaPlan.Updates
