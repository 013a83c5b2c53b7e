import Mathlib.Data.List.Dedup
import Mathlib.Data.List.Nodup

/-! Registers in two layers: one entry for each key that was offered, and one confirmation for each witness of it.

    An entry is named by an id that the register had not given before. What is offered again is found and leaves the
    register as it is, so its size counts what was offered without repetitions. -/

namespace CestaPlan

structure Register (ι κ τ : Type) where
  entries : List (ι × κ)
  confirmations : List (ι × τ)

namespace Register
variable {ι κ τ : Type}

/-- The register holds each of the keys and each of the witnesses of a key once, and nothing else. -/
structure Holds (R : Register ι κ τ) (offered : List (κ × τ)) : Prop where
  ids : (R.entries.map Prod.fst).Nodup
  keys : (R.entries.map Prod.snd).Nodup
  mem_keys : ∀ k, k ∈ R.entries.map Prod.snd ↔ k ∈ offered.map Prod.fst
  confirmed : R.confirmations.Nodup
  mem_confirmations : ∀ i t, (i, t) ∈ R.confirmations ↔ ∃ k, (i, k) ∈ R.entries ∧ (k, t) ∈ offered

/-- The register after a witness of the entry. -/
def confirm [DecidableEq ι] [DecidableEq τ] (R : Register ι κ τ) (i : ι) (t : τ) : Register ι κ τ :=
  if (i, t) ∈ R.confirmations then R else { R with confirmations := R.confirmations ++ [(i, t)] }

theorem nodup_snoc {α : Type} {l : List α} {a : α} (hl : l.Nodup) (ha : a ∉ l) : (l ++ [a]).Nodup := by
  rw [← List.concat_eq_append]
  exact hl.concat ha

section Offers
variable {R : Register ι κ τ} {offered : List (κ × τ)} {i j : ι} {k l : κ} {t : τ}

theorem holds_nil : Holds (⟨[], []⟩ : Register ι κ τ) [] := ⟨by simp, by simp, by simp, by simp, by simp⟩

theorem Holds.key_eq (h : R.Holds offered) (hk : (i, k) ∈ R.entries) (hl : (i, l) ∈ R.entries) : k = l :=
  congrArg Prod.snd (List.inj_on_of_nodup_map h.ids hk hl rfl)

theorem Holds.id_eq (h : R.Holds offered) (hi : (i, k) ∈ R.entries) (hj : (j, k) ∈ R.entries) : i = j :=
  congrArg Prod.fst (List.inj_on_of_nodup_map h.keys hi hj rfl)

theorem Holds.exists_entry (h : R.Holds offered) (hk : k ∈ offered.map Prod.fst) : ∃ i, (i, k) ∈ R.entries := by
  obtain ⟨⟨i, k'⟩, hmem, rfl⟩ := List.mem_map.mp ((h.mem_keys k).mpr hk)
  exact ⟨i, hmem⟩

theorem Holds.confirm [DecidableEq ι] [DecidableEq τ] (h : R.Holds offered) (hi : (i, k) ∈ R.entries) :
    (R.confirm i t).Holds (offered ++ [(k, t)]) := by
  have hkey : k ∈ offered.map Prod.fst := (h.mem_keys k).mp (List.mem_map_of_mem (f := Prod.snd) hi)
  have hkeys : ∀ l, l ∈ R.entries.map Prod.snd ↔ l ∈ (offered ++ [(k, t)]).map Prod.fst := by
    intro l
    rw [h.mem_keys, List.map_append, List.mem_append, List.map_singleton, List.mem_singleton]
    exact ⟨Or.inl, fun hl => hl.elim id fun heq => heq ▸ hkey⟩
  have hnew : ∀ j u, (∃ l, (j, l) ∈ R.entries ∧ (l, u) ∈ offered ++ [(k, t)]) ↔
      (j, u) ∈ R.confirmations ∨ (j, u) = (i, t) := by
    intro j u
    rw [h.mem_confirmations]
    constructor
    · rintro ⟨l, hj, hmem⟩
      rcases List.mem_append.mp hmem with hmem | hmem
      · exact Or.inl ⟨l, hj, hmem⟩
      · obtain ⟨rfl, rfl⟩ := Prod.mk.inj (List.mem_singleton.mp hmem)
        exact Or.inr (by rw [h.id_eq hj hi])
    · rintro (⟨l, hj, hmem⟩ | heq)
      · exact ⟨l, hj, List.mem_append_left _ hmem⟩
      · obtain ⟨rfl, rfl⟩ := Prod.mk.inj heq
        exact ⟨k, hi, List.mem_append_right _ (List.mem_singleton_self _)⟩
  unfold Register.confirm
  split
  · next hmem =>
    refine ⟨h.ids, h.keys, hkeys, h.confirmed, fun j u => ?_⟩
    rw [hnew]
    exact ⟨Or.inl, fun hj => hj.elim id fun heq => heq ▸ hmem⟩
  · next hmem =>
    refine ⟨h.ids, h.keys, hkeys, ?_, fun j u => ?_⟩
    · exact nodup_snoc h.confirmed hmem
    · rw [hnew, List.mem_append, List.mem_singleton]

theorem Holds.enter [DecidableEq ι] [DecidableEq τ] (h : R.Holds offered) (hi : i ∉ R.entries.map Prod.fst) (hk : k ∉ offered.map Prod.fst) :
    (Register.confirm { R with entries := R.entries ++ [(i, k)] } i t).Holds (offered ++ [(k, t)]) := by
  have hkey : k ∉ R.entries.map Prod.snd := fun hmem => hk ((h.mem_keys k).mp hmem)
  have hfresh : (i, t) ∉ R.confirmations := by
    intro hmem
    obtain ⟨l, hl, -⟩ := (h.mem_confirmations i t).mp hmem
    exact hi (List.mem_map_of_mem (f := Prod.fst) hl)
  rw [Register.confirm, if_neg hfresh]
  constructor
  · rw [List.map_append]
    exact nodup_snoc h.ids hi
  · rw [List.map_append]
    exact nodup_snoc h.keys hkey
  · intro l
    simp only [List.map_append, List.mem_append, h.mem_keys]
    rfl
  · exact nodup_snoc h.confirmed hfresh
  · intro j u
    rw [List.mem_append, List.mem_singleton, h.mem_confirmations]
    constructor
    · rintro (⟨l, hl, hmem⟩ | heq)
      · exact ⟨l, List.mem_append_left _ hl, List.mem_append_left _ hmem⟩
      · obtain ⟨rfl, rfl⟩ := Prod.mk.inj heq
        exact ⟨k, by simp, by simp⟩
    · rintro ⟨l, hl, hmem⟩
      rcases List.mem_append.mp hl with hold | hnew
      · rcases List.mem_append.mp hmem with hmem | hlast
        · exact Or.inl ⟨l, hold, hmem⟩
        · obtain ⟨rfl, -⟩ := Prod.mk.inj (List.mem_singleton.mp hlast)
          exact absurd (List.mem_map_of_mem (f := Prod.snd) hold) hkey
      · obtain ⟨rfl, rfl⟩ := Prod.mk.inj (List.mem_singleton.mp hnew)
        rcases List.mem_append.mp hmem with hmem | hlast
        · exact absurd (List.mem_map_of_mem (f := Prod.fst) hmem) hk
        · obtain ⟨-, rfl⟩ := Prod.mk.inj (List.mem_singleton.mp hlast)
          exact Or.inr rfl

end Offers

/-! ### Sizes -/

section Sizes
variable {R : Register ι κ τ} {offered : List (κ × τ)} {i : ι} {k : κ} [DecidableEq κ]

theorem Holds.length_entries (h : R.Holds offered) : R.entries.length = (offered.map Prod.fst).dedup.length := by
  rw [← List.length_map (f := Prod.snd)]
  exact ((List.perm_ext_iff_of_nodup h.keys (List.nodup_dedup _)).mpr fun k => by
    rw [h.mem_keys, List.mem_dedup]).length_eq

def idOf (R : Register ι κ τ) (k : κ) : Option ι := (R.entries.find? (·.2 = k)).map Prod.fst

theorem Holds.idOf_eq_some_iff (h : R.Holds offered) : R.idOf k = some i ↔ (i, k) ∈ R.entries := by
  have hfind : ∀ e, R.entries.find? (·.2 = k) = some e → e ∈ R.entries ∧ e.2 = k := fun e he =>
    ⟨List.mem_of_find?_eq_some he, by simpa using List.find?_some he⟩
  rw [idOf, Option.map_eq_some_iff]
  constructor
  · rintro ⟨e, he, rfl⟩
    obtain ⟨hmem, rfl⟩ := hfind e he
    exact hmem
  · intro hi
    cases he : R.entries.find? (·.2 = k) with
    | none => exact absurd (List.find?_eq_none.mp he (i, k) hi) (by simp)
    | some e =>
      obtain ⟨hmem, rfl⟩ := hfind e he
      exact ⟨e, rfl, h.id_eq hmem hi⟩

theorem Holds.length_confirmations [DecidableEq τ] (h : R.Holds offered) :
    R.confirmations.length = offered.dedup.length := by
  have hleft : (R.confirmations.map fun c => (some c.1, c.2)).Nodup :=
    h.confirmed.map fun a b hab => by
      obtain ⟨hi, ht⟩ := Prod.mk.inj hab
      exact Prod.ext (Option.some.inj hi) ht
  have hid : ∀ k ∈ offered.map Prod.fst, ∃ i, R.idOf k = some i ∧ (i, k) ∈ R.entries := by
    intro k hk
    obtain ⟨i, hi⟩ := h.exists_entry hk
    exact ⟨i, h.idOf_eq_some_iff.mpr hi, hi⟩
  have hright : (offered.dedup.map fun o => (R.idOf o.1, o.2)).Nodup := by
    refine List.Nodup.map_on (fun a ha b hb hab => ?_) (List.nodup_dedup _)
    obtain ⟨hi, ht⟩ := Prod.mk.inj hab
    obtain ⟨i, hia, hmem⟩ := hid a.1 (List.mem_map_of_mem (List.mem_dedup.mp ha))
    obtain ⟨j, hjb, hmem'⟩ := hid b.1 (List.mem_map_of_mem (List.mem_dedup.mp hb))
    obtain rfl := Option.some.inj (hia.symm.trans (hi.trans hjb))
    exact Prod.ext (h.key_eq hmem hmem') ht
  have hperm : (R.confirmations.map fun c => (some c.1, c.2)).Perm (offered.dedup.map fun o => (R.idOf o.1, o.2)) := by
    refine (List.perm_ext_iff_of_nodup hleft hright).mpr fun c => ?_
    simp only [List.mem_map, List.mem_dedup]
    constructor
    · rintro ⟨⟨i, t⟩, hc, rfl⟩
      obtain ⟨k, hk, hoff⟩ := (h.mem_confirmations i t).mp hc
      exact ⟨(k, t), hoff, Prod.ext (h.idOf_eq_some_iff.mpr hk) rfl⟩
    · rintro ⟨⟨k, t⟩, hoff, rfl⟩
      obtain ⟨i, hi, hk⟩ := hid k (List.mem_map_of_mem hoff)
      exact ⟨(i, t), (h.mem_confirmations i t).mpr ⟨k, hk, hoff⟩, Prod.ext hi.symm rfl⟩
  simpa using hperm.length_eq

end Sizes
end Register
end CestaPlan
