import Mathlib.Data.List.Pairwise
import Mathlib.Order.Lattice

/-! Partial maps laid one over another, and tables of them with the keys in order. -/

namespace CestaPlan.Overlays

section Maps
variable {P L : Type} {f g : P → Option L} {p : P} {x : L}

/-- Where both have a value, it is the same one. -/
def Agree (f g : P → Option L) : Prop := ∀ p x y, f p = some x → g p = some y → x = y

theorem Agree.symm (h : Agree f g) : Agree g f := fun p x y hx hy => (h p y x hy hx).symm

theorem or_eq_some_iff (h : Agree f g) : (f p).or (g p) = some x ↔ f p = some x ∨ g p = some x := by
  constructor
  · intro hor
    exact (Option.or_eq_some_iff.mp hor).imp_right (·.2)
  · rintro (hf | hg)
    · rw [hf, Option.some_or]
    · cases hf : f p with
      | none => rw [Option.none_or, hg]
      | some y => rw [Option.some_or, h p y x hf hg]

theorem Agree.or_comm (h : Agree f g) (p : P) : (f p).or (g p) = (g p).or (f p) :=
  Option.ext fun x => by rw [or_eq_some_iff h, or_eq_some_iff h.symm, Or.comm]

end Maps

section Tables
variable {K V : Type} [LinearOrder K] {k l : K} {v : V} {entries entries' : List (K × V)} {e : K × V}

/-- The entry in its place, instead of the one that the key had. -/
def insertEntry (k : K) (v : V) : List (K × V) → List (K × V)
  | [] => [(k, v)]
  | (l, w) :: entries =>
    if k < l then (k, v) :: (l, w) :: entries
    else if k = l then (k, v) :: entries
    else (l, w) :: insertEntry k v entries

/-- The keys are in order, each once. -/
def Ordered (entries : List (K × V)) : Prop := entries.Pairwise (·.1 < ·.1)

theorem mem_insertEntry (h : e ∈ insertEntry k v entries) : e = (k, v) ∨ e ∈ entries := by
  induction entries with
  | nil => exact .inl (List.mem_singleton.mp h)
  | cons f entries ih =>
    rw [insertEntry] at h
    split at h
    · exact (List.mem_cons.mp h).imp_right id
    split at h
    · exact (List.mem_cons.mp h).imp_right (List.mem_cons_of_mem _)
    · rcases List.mem_cons.mp h with rfl | h
      · exact .inr List.mem_cons_self
      · exact (ih h).imp_right (List.mem_cons_of_mem _)

theorem ordered_insertEntry (h : Ordered entries) : Ordered (insertEntry k v entries) := by
  induction entries with
  | nil => exact List.pairwise_singleton _ _
  | cons f entries ih =>
    obtain ⟨l, w⟩ := f
    obtain ⟨hhead, htail⟩ := List.pairwise_cons.mp h
    rw [insertEntry]
    split
    · next hlt => exact List.pairwise_cons.mpr ⟨List.forall_mem_cons.mpr ⟨hlt, fun e he => lt_trans hlt (hhead e he)⟩, h⟩
    split
    · next heq =>
      subst heq
      exact List.pairwise_cons.mpr ⟨hhead, htail⟩
    · next hlt hne =>
      refine List.pairwise_cons.mpr ⟨fun e he => ?_, ih htail⟩
      rcases mem_insertEntry he with rfl | he
      · exact lt_of_le_of_ne (not_lt.mp hlt) (Ne.symm hne)
      · exact hhead e he

theorem insertEntry_of_lt (h : ∀ e ∈ entries, k < e.1) : insertEntry k v entries = (k, v) :: entries := by
  cases entries with
  | nil => rfl
  | cons f entries => exact if_pos (h f List.mem_cons_self)

variable [BEq K] [LawfulBEq K]

theorem lookup_entry : ((k, v) :: entries).lookup l = if l = k then some v else entries.lookup l := by
  rw [List.lookup_cons]
  by_cases h : l = k
  · rw [if_pos h, beq_iff_eq.mpr h]
  · rw [if_neg h, beq_eq_false_iff_ne.mpr h]

theorem lookup_insertEntry : (insertEntry k v entries).lookup l = if l = k then some v else entries.lookup l := by
  induction entries with
  | nil => exact lookup_entry
  | cons f entries ih =>
    obtain ⟨m, w⟩ := f
    rw [insertEntry]
    split
    · exact lookup_entry
    split
    · next heq =>
      rw [← heq, lookup_entry, lookup_entry]
      split <;> rfl
    · next hne =>
      rw [lookup_entry, lookup_entry, ih]
      by_cases hm : l = m
      · rw [if_pos hm, if_pos hm, if_neg fun h => hne (h.symm.trans hm)]
      · rw [if_neg hm, if_neg hm]

omit [LinearOrder K] in
theorem mem_of_lookup (h : entries.lookup k = some v) : (k, v) ∈ entries := by
  obtain ⟨before, after, rfl, -⟩ := List.lookup_eq_some_iff.mp h
  exact List.mem_append_right _ List.mem_cons_self

theorem Ordered.lookup_of_mem (h : Ordered entries) (hmem : (k, v) ∈ entries) : entries.lookup k = some v := by
  induction entries with
  | nil => cases hmem
  | cons f entries ih =>
    obtain ⟨hhead, htail⟩ := List.pairwise_cons.mp h
    rcases List.mem_cons.mp hmem with rfl | hmem
    · exact List.lookup_cons_self
    · rw [lookup_entry, if_neg fun heq => ne_of_lt (hhead _ hmem) heq.symm, ih htail hmem]

theorem Ordered.ext (h : Ordered entries) (h' : Ordered entries') (heq : ∀ k, entries.lookup k = entries'.lookup k) :
    entries = entries' := by
  have hmem : ∀ e, e ∈ entries ↔ e ∈ entries' := fun ⟨k, v⟩ =>
    ⟨fun he => mem_of_lookup ((heq k).symm.trans (h.lookup_of_mem he)), fun he => mem_of_lookup ((heq k).trans (h'.lookup_of_mem he))⟩
  have hnodup {entries : List (K × V)} (h : Ordered entries) : entries.Nodup := h.imp fun hlt heq => ne_of_lt hlt (congrArg Prod.fst heq)
  refine ((List.perm_ext_iff_of_nodup (hnodup h) (hnodup h')).mpr hmem).eq_of_pairwise (fun a b _ _ hab hba => ?_) h h'
  exact absurd hba (lt_asymm hab)

end Tables

end CestaPlan.Overlays
