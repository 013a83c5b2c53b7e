import Mathlib.Algebra.Order.Field.Basic
import Mathlib.Data.List.MinMax
import Mathlib.Data.Prod.Lex
import Mathlib.Tactic.FieldSimp
import Mathlib.Tactic.Linarith
import Mathlib.Tactic.Positivity

/-! The first least element of a list under a key, and how it changes with the key. -/

namespace CestaPlan.Least

section Argmin
variable {α β κ : Type} [LinearOrder κ] {l : List α}

theorem argmin_map (f : β → α) (g : α → κ) (l : List β) : (l.map f).argmin g = (l.argmin (g ∘ f)).map f := by
  induction l using List.reverseRecOn with
  | nil => rfl
  | append_singleton l a ih =>
    rw [List.map_append, List.map_singleton, List.argmin_concat, List.argmin_concat, ih]
    cases l.argmin (g ∘ f) with
    | none => rfl
    | some c =>
      show (if g (f a) < g (f c) then some (f a) else some (f c)) = (if g (f a) < g (f c) then some a else some c).map f
      split <;> rfl

theorem foldl_eq_argmin {f : Option α → α → Option α} {g : α → κ} (hnone : ∀ a, f none a = some a)
    (hsome : ∀ b a, f (some b) a = if g a < g b then some a else some b) : l.foldl f none = l.argmin g := by
  have hstep : f = List.argAux fun a b => g a < g b := by
    funext best a
    cases best with
    | none => exact hnone a
    | some b => exact hsome b a
  rw [hstep]
  rfl

theorem exists_argmin {f : α → κ} (h : l ≠ []) : ∃ a, l.argmin f = some a :=
  Option.ne_none_iff_exists'.mp fun hnone => h (List.argmin_eq_none.mp hnone)

/-- Where the key begins with an amount, the amount of the first least element is the least one. -/
theorem map_argmin_lex {μ : Type} [LinearOrder μ] (amount : α → κ) (g : α → μ) :
    (l.argmin fun a => toLex (amount a, g a)).map amount = (l.map amount).min? := by
  cases h : l.argmin fun a => toLex (amount a, g a) with
  | none =>
    rw [List.argmin_eq_none.mp h]
    rfl
  | some a =>
    refine (List.min?_eq_some_iff.mpr ⟨List.mem_map_of_mem (List.argmin_mem h), fun x hx => ?_⟩).symm
    obtain ⟨b, hb, rfl⟩ := List.mem_map.mp hx
    exact (Prod.Lex.toLex_le_toLex.mp (List.le_of_mem_argmin hb h)).elim le_of_lt fun h => h.1.le

/-- Elements that the key tells apart have one least element, whatever their order. -/
theorem argmin_perm [hlt : DecidableLT κ] {l' : List α} {f : α → κ} (hinj : ∀ a ∈ l, ∀ b ∈ l, f a = f b → a = b)
    (h : l.Perm l') : l.argmin f = l'.argmin f := by
  obtain rfl : hlt = LinearOrder.toDecidableLT := Subsingleton.elim _ _
  cases ha : l.argmin f with
  | none =>
    rw [List.argmin_eq_none.mp ha] at h
    rw [← h.nil_eq]
    rfl
  | some a =>
    have hmem := List.argmin_mem ha
    obtain ⟨b, hb⟩ := exists_argmin (f := f) (List.ne_nil_of_mem (h.mem_iff.mp hmem))
    have hmem' := h.mem_iff.mpr (List.argmin_mem hb)
    have heq := hinj a hmem b hmem' (le_antisymm (List.le_of_mem_argmin hmem' ha) (List.le_of_mem_argmin (h.mem_iff.mp hmem) hb))
    rw [hb, heq]

end Argmin

section Keys
variable {ι α κ : Type} [DecidableEq α] [LinearOrder κ] {rank : ι → α → κ} {l : List α} {a m : α} {i j : ι}

/-- What is least under all keys of a family decides which element comes first, as long as they have the same ties. -/
theorem mem_argmin_of_least (hties : ∀ i j a b, rank i a = rank i b → rank j a = rank j b) (ha : a ∈ l)
    (hleast : ∀ i, ∀ b ∈ l, rank i a ≤ rank i b) (hm : m ∈ l.argmin (rank i)) : m ∈ l.argmin (rank j) := by
  obtain ⟨hmem, hmin, hfirst⟩ := List.mem_argmin_iff.mp hm
  have hma : rank i m = rank i a := le_antisymm (hmin a ha) (hleast i m hmem)
  refine List.mem_argmin_iff.mpr ⟨hmem, fun b hb => ?_, fun b hb hle => ?_⟩
  · rw [hties i j m a hma]
    exact hleast j b hb
  · have hba : rank j b = rank j a := le_antisymm (hle.trans (hties i j m a hma).le) (hleast j b hb)
    exact hfirst b hb ((hties j i b a hba).trans hma.symm).le

/-- All keys of a family choose the same element exactly if one element is least under all of them. -/
theorem argmin_eq_iff [Nonempty ι] (hties : ∀ i j a b, rank i a = rank i b → rank j a = rank j b) :
    (∀ i j, l.argmin (rank i) = l.argmin (rank j)) ↔ l = [] ∨ ∃ a ∈ l, ∀ i, ∀ b ∈ l, rank i a ≤ rank i b := by
  constructor
  · intro h
    by_cases hl : l = []
    · exact .inl hl
    · obtain ⟨i⟩ := ‹Nonempty ι›
      obtain ⟨a, ha⟩ := exists_argmin (f := rank i) hl
      refine .inr ⟨a, List.argmin_mem ha, fun j b hb => ?_⟩
      exact List.le_of_mem_argmin hb ((h i j).symm.trans ha)
  · rintro (rfl | ⟨a, ha, hleast⟩) i j
    · rfl
    · obtain ⟨m, hm⟩ := exists_argmin (f := rank i) (List.ne_nil_of_mem ha)
      exact hm.trans (mem_argmin_of_least hties ha hleast hm).symm

end Keys

section Scores
variable {κ : Type} [Field κ] [LinearOrder κ] [IsStrictOrderedRing κ] {w w' c c' : κ}

/-- A sum of two quantities is at most another one in every unit of the first quantity exactly if both of its quantities are. -/
theorem forall_score_le_iff : (∀ k > 0, k * w + c ≤ k * w' + c') ↔ w ≤ w' ∧ c ≤ c' := by
  constructor
  · intro h
    constructor
    · by_contra! hw
      have hd : 0 < w - w' := sub_pos.mpr hw
      have hk := h ((|c' - c| + 1) / (w - w')) (by positivity)
      have heq : (|c' - c| + 1) / (w - w') * (w - w') = |c' - c| + 1 := div_mul_cancel₀ _ hd.ne'
      have habs : c' - c ≤ |c' - c| := le_abs_self _
      linarith
    · by_contra! hc
      rcases le_or_gt w' w with hw | hw
      · have hk := h 1 one_pos
        linarith
      · have hd : 0 < w' - w := sub_pos.mpr hw
        have hk := h ((c - c') / (2 * (w' - w))) (div_pos (by linarith) (by linarith))
        have heq : (c - c') / (2 * (w' - w)) * (w' - w) = (c - c') / 2 := by field_simp
        linarith
  · rintro ⟨hw, hc⟩ k hk
    have := mul_le_mul_of_nonneg_left hw hk.le
    linarith

theorem forall_score_lex_iff {T : Prop} :
    (∀ k > 0, k * w + c < k * w' + c' ∨ k * w + c = k * w' + c' ∧ T) ↔ w ≤ w' ∧ c ≤ c' ∧ (w = w' → c = c' → T) := by
  constructor
  · intro h
    obtain ⟨hw, hc⟩ := forall_score_le_iff.mp fun k hk => (h k hk).elim le_of_lt fun h => h.1.le
    refine ⟨hw, hc, ?_⟩
    rintro rfl rfl
    exact (h 1 one_pos).elim (fun h => absurd h (lt_irrefl _)) fun h => h.2
  · rintro ⟨hw, hc, hT⟩ k hk
    have hkw := mul_le_mul_of_nonneg_left hw hk.le
    rcases hw.eq_or_lt with rfl | hlt
    · rcases hc.eq_or_lt with rfl | hlt
      · exact .inr ⟨rfl, hT rfl rfl⟩
      · exact .inl (by linarith)
    · have := mul_lt_mul_of_pos_left hlt hk
      exact .inl (by linarith)

end Scores

end CestaPlan.Least
