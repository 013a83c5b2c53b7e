import Mathlib.Data.List.Induction
import Mathlib.Data.List.Perm.Basic

/-! Logs in which the first entry of a key wins, and some of their entries taken out again.

    In the same way rows are brought together under one owner, where a row whose evidence the owner has already is dropped. A pass keeps
    the order of the rows, so the first of several rows with one evidence is the one that is kept. What has been seen after it is what had
    been seen before, and the evidence of every row. -/

namespace CestaPlan.Merging
variable {α τ : Type} [DecidableEq τ]

structure Split (α τ : Type) where
  seen : List τ
  kept : List α := []
  dropped : List α := []

def Split.visit (evidence : α → τ) (s : Split α τ) (a : α) : Split α τ :=
  if evidence a ∈ s.seen then { s with dropped := s.dropped ++ [a] }
  else { s with seen := s.seen ++ [evidence a], kept := s.kept ++ [a] }

def split (evidence : α → τ) (seen : List τ) (rows : List α) : Split α τ :=
  rows.foldl (Split.visit evidence) { seen := seen }

variable {evidence : α → τ} {seen : List τ} {rows : List α} {a : α} {t : τ}

theorem split_concat : split evidence seen (rows ++ [a]) = (split evidence seen rows).visit evidence a :=
  List.foldl_concat ..

theorem seen_split : (split evidence seen rows).seen = seen ++ (split evidence seen rows).kept.map evidence := by
  induction rows using List.reverseRecOn with
  | nil => exact (List.append_nil _).symm
  | append_singleton rows a ih =>
    rw [split_concat, Split.visit]
    split
    · exact ih
    · rw [List.map_append, ← List.append_assoc, ← ih]
      rfl

theorem split_perm : ((split evidence seen rows).kept ++ (split evidence seen rows).dropped).Perm rows := by
  induction rows using List.reverseRecOn with
  | nil => exact .nil
  | append_singleton rows a ih =>
    rw [split_concat, Split.visit]
    split
    · rw [← List.append_assoc]
      exact ih.append_right [a]
    · show ((_ ++ [a]) ++ _).Perm _
      rw [List.append_assoc]
      exact (List.perm_append_comm.append_left _).trans (by rw [← List.append_assoc]; exact ih.append_right [a])

theorem evidence_mem_of_dropped (h : a ∈ (split evidence seen rows).dropped) :
    evidence a ∈ (split evidence seen rows).seen := by
  induction rows using List.reverseRecOn with
  | nil => cases h
  | append_singleton rows b ih =>
    rw [split_concat, Split.visit] at h ⊢
    split at h
    · next hb =>
      rw [if_pos hb]
      rcases List.mem_append.mp h with h | h
      · exact ih h
      · rw [List.mem_singleton.mp h]
        exact hb
    · next hb =>
      rw [if_neg hb]
      exact List.mem_append_left _ (ih h)

end CestaPlan.Merging

namespace CestaPlan.FirstWins
variable {α κ : Type} [DecidableEq κ] (key : α → κ)

/-- The entry is added, unless its key is there. -/
def write (log : List α) (a : α) : List α := if log.any (key · = key a) then log else log ++ [a]

def writeAll (log entries : List α) : List α := entries.foldl (write key) log

variable {key} {log entries : List α} {a x y : α}

@[simp] theorem writeAll_nil : writeAll key log [] = log := rfl

theorem writeAll_append {more : List α} : writeAll key log (entries ++ more) = writeAll key (writeAll key log entries) more :=
  List.foldl_append

theorem writeAll_concat : writeAll key log (entries ++ [a]) = write key (writeAll key log entries) a := writeAll_append

theorem any_key : log.any (key · = key a) = true ↔ ∃ x ∈ log, key x = key a := by simp

theorem write_of_mem (h : ∃ x ∈ log, key x = key a) : write key log a = log := if_pos (any_key.mpr h)

theorem write_of_new (h : ¬∃ x ∈ log, key x = key a) : write key log a = log ++ [a] := if_neg (mt any_key.mp h)

theorem subset_write : log ⊆ write key log a := by
  by_cases h : ∃ x ∈ log, key x = key a
  · rw [write_of_mem h]
    exact List.Subset.refl log
  · rw [write_of_new h]
    exact List.subset_append_left _ _

theorem subset_writeAll : log ⊆ writeAll key log entries := by
  induction entries generalizing log with
  | nil => exact List.Subset.refl log
  | cons a entries ih => exact List.Subset.trans subset_write ih

theorem writeAll_sublist : (writeAll key log entries).Sublist (log ++ entries) := by
  induction entries using List.reverseRecOn with
  | nil => exact List.sublist_append_left log []
  | append_singleton entries a ih =>
    rw [writeAll_concat, ← List.append_assoc]
    by_cases h : ∃ x ∈ writeAll key log entries, key x = key a
    · rw [write_of_mem h]
      exact ih.trans (List.sublist_append_left _ _)
    · rw [write_of_new h]
      exact ih.append (List.Sublist.refl [a])

theorem exists_key_write : ∃ x ∈ write key log a, key x = key a := by
  by_cases h : ∃ x ∈ log, key x = key a
  · rwa [write_of_mem h]
  · rw [write_of_new h]
    exact ⟨a, List.mem_append_right _ (List.mem_singleton_self a), rfl⟩

theorem exists_key_writeAll (key : α → κ) (log : List α) (ha : a ∈ entries) : ∃ x ∈ writeAll key log entries, key x = key a := by
  induction entries using List.reverseRecOn with
  | nil => cases ha
  | append_singleton entries b ih =>
    rw [writeAll_concat]
    rcases List.mem_append.mp ha with ha | ha
    · obtain ⟨x, hx, hkey⟩ := ih ha
      exact ⟨x, subset_write hx, hkey⟩
    · rw [List.mem_singleton.mp ha]
      exact exists_key_write

theorem sole_of_new (hx : x ∈ writeAll key log entries) (hnew : x ∉ log) (hy : y ∈ writeAll key log entries)
    (hkey : key y = key x) : y = x := by
  induction entries using List.reverseRecOn with
  | nil => exact absurd hx hnew
  | append_singleton entries a ih =>
    rw [writeAll_concat] at hx hy
    by_cases h : ∃ z ∈ writeAll key log entries, key z = key a
    · rw [write_of_mem h] at hx hy
      exact ih hx hy
    · rw [write_of_new h, List.mem_append, List.mem_singleton] at hx hy
      rcases hx with hx | rfl <;> rcases hy with hy | rfl
      · exact ih hx hy
      · exact absurd ⟨x, hx, hkey.symm⟩ h
      · exact absurd ⟨y, hy, hkey⟩ h
      · rfl

section Filter
variable {keep : α → Bool}

/-- What is kept of a log is what the kept entries alone make, where none of them has the key of one that is taken out. -/
theorem filter_writeAll (h : ∀ a ∈ entries, keep a = true → ∀ x ∈ writeAll key log entries, keep x = false → key x ≠ key a) :
    (writeAll key log entries).filter keep = writeAll key (log.filter keep) (entries.filter keep) := by
  induction entries using List.reverseRecOn with
  | nil => rfl
  | append_singleton entries a ih =>
    rw [writeAll_concat] at h ⊢
    have hrest := ih fun b hb hkeep x hx => h b (List.mem_append_left _ hb) hkeep x (subset_write hx)
    cases ha : keep a with
    | false =>
      have hdrops : (write key (writeAll key log entries) a).filter keep = (writeAll key log entries).filter keep := by
        by_cases hthere : ∃ x ∈ writeAll key log entries, key x = key a
        · rw [write_of_mem hthere]
        · rw [write_of_new hthere, List.filter_append]
          simp [ha]
      rw [hdrops, hrest, List.filter_append]
      simp [ha]
    | true =>
      have hsame : (∃ x ∈ (writeAll key log entries).filter keep, key x = key a) ↔ ∃ x ∈ writeAll key log entries, key x = key a := by
        constructor
        · rintro ⟨x, hx, hkey⟩
          exact ⟨x, (List.mem_filter.mp hx).1, hkey⟩
        · rintro ⟨x, hx, hkey⟩
          have hkeep : keep x = true := by
            by_contra hout
            exact h a (List.mem_append_right _ (List.mem_singleton_self a)) ha x (subset_write hx) (Bool.eq_false_iff.mpr hout) hkey
          exact ⟨x, List.mem_filter.mpr ⟨hx, hkeep⟩, hkey⟩
      have hfilter : (entries ++ [a]).filter keep = entries.filter keep ++ [a] := by
        rw [List.filter_append]
        simp [ha]
      rw [hfilter, writeAll_concat, ← hrest]
      by_cases hthere : ∃ x ∈ writeAll key log entries, key x = key a
      · rw [write_of_mem hthere, write_of_mem (hsame.mpr hthere)]
      · rw [write_of_new hthere, write_of_new (mt hsame.mp hthere), List.filter_append]
        simp [ha]

/-- Where the kept entries alone make no key that is not kept of the log, none of them has the key of one that is taken out. -/
theorem key_ne_of_filter (hlog : ∀ x ∈ log, keep x = true)
    (h : ∀ x ∈ writeAll key log (entries.filter keep), ∃ y ∈ (writeAll key log entries).filter keep, key y = key x)
    (ha : a ∈ entries) (hkeep : keep a = true) (hx : x ∈ writeAll key log entries) (hout : keep x = false) : key x ≠ key a := by
  intro hkey
  obtain ⟨z, hz, hza⟩ := exists_key_writeAll key log (List.mem_filter.mpr ⟨ha, hkeep⟩)
  obtain ⟨y, hy, hyz⟩ := h z hz
  obtain ⟨hy, hykeep⟩ := List.mem_filter.mp hy
  have hnew : x ∉ log := fun hx => by rw [hlog x hx] at hout; cases hout
  have hyx : y = x := sole_of_new hx hnew hy ((hyz.trans hza).trans hkey.symm)
  rw [hyx, hout] at hykeep
  cases hykeep

end Filter
end CestaPlan.FirstWins
