import Mathlib.Data.List.Forall2
import Mathlib.Data.List.MinMax
import Mathlib.Data.Set.Finite.List

/-! Searches that fill positions with options: a greedy construction, and sweeps of first improvement.

    The options of a position are explored in an order drawn from a source; each look at a position draws a new
    one. What a search reaches is stated as a relation, and the relation is a function of where it starts. -/

namespace CestaPlan.LocalSearch
variable {ι α σ κ : Type}

/-- Positions, their options, and the orders in which these are explored. -/
structure Explorer (ι α σ : Type) where
  options : ι → List α
  explore : ι → σ → List α × σ
  explore_perm : ∀ i s, (explore i s).1.Perm (options i)

theorem Explorer.mem_explore (E : Explorer ι α σ) {i : ι} {s : σ} {a : α} :
    a ∈ (E.explore i s).1 ↔ a ∈ E.options i := (E.explore_perm i s).mem_iff

section Fills
variable (E : Explorer ι α σ)

/-- Each member of the assignment is an option of its position. -/
def Fills (positions : List ι) (chosen : List α) : Prop := List.Forall₂ (fun i a => a ∈ E.options i) positions chosen

variable {E} {positions : List ι} {chosen : List α} {i : ι} {a : α}

theorem Fills.snoc (h : Fills E positions chosen) (ha : a ∈ E.options i) :
    Fills E (positions ++ [i]) (chosen ++ [a]) := by
  induction h with
  | nil => exact .cons ha .nil
  | cons hb _ ih => exact .cons hb ih

theorem Fills.set (h : Fills E positions chosen) {k : ℕ} (hk : positions[k]? = some i) (ha : a ∈ E.options i) :
    Fills E positions (chosen.set k a) := by
  induction h generalizing k with
  | nil => exact absurd hk (by simp)
  | cons hb hrest ih =>
    cases k with
    | zero =>
      obtain rfl : _ = i := by simpa using hk
      exact .cons ha hrest
    | succ k => exact .cons hb (ih (by simpa using hk))

theorem Fills.exists_getElem? (h : Fills E positions chosen) {k : ℕ} (hk : positions[k]? = some i) :
    ∃ b, chosen[k]? = some b := by
  have hlt : k < chosen.length := h.length_eq ▸ (List.getElem?_eq_some_iff.mp hk).1
  exact ⟨chosen[k], List.getElem?_eq_getElem hlt⟩

end Fills

section Search
variable [LinearOrder κ] (E : Explorer ι α σ)

/-- The greedy construction: after the positions `before`, each position takes the first of its options that is
    least under `key`. -/
inductive Builds (key : List ι → List α → α → κ) : List ι → List α × σ → List ι → List α × σ → Prop
  | done {before w} : Builds key before w [] w
  | place {before chosen s i rest a w} :
    a ∈ (E.explore i s).1.argmin (key (before ++ [i]) chosen) →
    Builds key (before ++ [i]) (chosen ++ [a], (E.explore i s).2) rest w →
    Builds key before (chosen, s) (i :: rest) w

/-- One sweep over the places: each takes the first of its options that is accepted, if any is; whether one was. -/
inductive Sweep (accepts : List α → ℕ → α → Bool) : List (ι × ℕ) → List α × σ → List α × σ → Bool → Prop
  | done {w} : Sweep accepts [] w w false
  | stay {chosen s i k rest w moved} :
    (E.explore i s).1.find? (accepts chosen k) = none →
    Sweep accepts rest (chosen, (E.explore i s).2) w moved →
    Sweep accepts ((i, k) :: rest) (chosen, s) w moved
  | move {chosen s i k rest a w moved} :
    (E.explore i s).1.find? (accepts chosen k) = some a →
    Sweep accepts rest (chosen.set k a, (E.explore i s).2) w moved →
    Sweep accepts ((i, k) :: rest) (chosen, s) w true

/-- At most so many sweeps, up to the first that moves nothing. -/
inductive Descends (accepts : List α → ℕ → α → Bool) (positions : List ι) :
    ℕ → List α × σ → List α × σ → Prop
  | exhausted {w} : Descends accepts positions 0 w w
  | settled {n w w'} : Sweep E accepts positions.zipIdx w w' false → Descends accepts positions (n + 1) w w'
  | again {n w w' w''} :
    Sweep E accepts positions.zipIdx w w' true → Descends accepts positions n w' w'' →
    Descends accepts positions (n + 1) w w''

/-- The search reaches `w`: a greedy construction from `s`, then at most `n` sweeps. -/
def Reaches (key : List ι → List α → α → κ) (accepts : List α → ℕ → α → Bool) (positions : List ι) (n : ℕ) (s : σ)
    (w : List α × σ) : Prop :=
  ∃ seed, Builds E key [] ([], s) positions seed ∧ Descends E accepts positions n seed w

variable {E} {key : List ι → List α → α → κ} {accepts : List α → ℕ → α → Bool} {positions : List ι}

theorem Builds.unique {before rest : List ι} {w w₁ w₂ : List α × σ} (h₁ : Builds E key before w rest w₁)
    (h₂ : Builds E key before w rest w₂) : w₁ = w₂ := by
  induction h₁ with
  | done =>
    cases h₂ with
    | done => rfl
  | place ha _ ih =>
    cases h₂ with
    | place hb hrest =>
      obtain rfl := Option.mem_unique ha hb
      exact ih hrest

theorem Sweep.unique {places : List (ι × ℕ)} {w w₁ w₂ : List α × σ} {m₁ m₂ : Bool}
    (h₁ : Sweep E accepts places w w₁ m₁) (h₂ : Sweep E accepts places w w₂ m₂) : w₁ = w₂ ∧ m₁ = m₂ := by
  induction h₁ generalizing m₂ with
  | done =>
    cases h₂ with
    | done => exact ⟨rfl, rfl⟩
  | stay hnone _ ih =>
    cases h₂ with
    | stay _ hrest => exact ih hrest
    | move hsome _ => exact absurd (hnone.symm.trans hsome) (by simp)
  | move hsome _ ih =>
    cases h₂ with
    | stay hnone _ => exact absurd (hnone.symm.trans hsome) (by simp)
    | move hsome' hrest =>
      obtain rfl := Option.some.inj (hsome.symm.trans hsome')
      exact ⟨(ih hrest).1, rfl⟩

theorem Descends.unique {n : ℕ} {w w₁ w₂ : List α × σ} (h₁ : Descends E accepts positions n w w₁)
    (h₂ : Descends E accepts positions n w w₂) : w₁ = w₂ := by
  induction h₁ with
  | exhausted =>
    cases h₂ with
    | exhausted => rfl
  | settled hs =>
    cases h₂ with
    | settled hs' => exact (hs.unique hs').1
    | again hs' _ => exact absurd (hs.unique hs').2 (by simp)
  | again hs _ ih =>
    cases h₂ with
    | settled hs' => exact absurd (hs.unique hs').2 (by simp)
    | again hs' hd =>
      obtain rfl := (hs.unique hs').1
      exact ih hd

/-- A search reaches one result. -/
theorem Reaches.unique {n : ℕ} {s : σ} {w₁ w₂ : List α × σ} (h₁ : Reaches E key accepts positions n s w₁)
    (h₂ : Reaches E key accepts positions n s w₂) : w₁ = w₂ := by
  obtain ⟨seed, hb, hd⟩ := h₁
  obtain ⟨seed', hb', hd'⟩ := h₂
  obtain rfl := hb.unique hb'
  exact hd.unique hd'

end Search
section Tried
variable {p : α → Bool} {l : List α} {a : α}

/-- What a search for the first element with `p` looks at. -/
def tried (p : α → Bool) (l : List α) : List α := l.take (l.findIdx p + 1)

theorem mem_tried_iff (ha : p a = true) : a ∈ tried p l ↔ l.find? p = some a := by
  induction l with
  | nil => simp [tried]
  | cons b l ih =>
    cases hb : p b with
    | true =>
      have hone : tried p (b :: l) = [b] := by simp [tried, List.findIdx_cons, hb]
      rw [hone, List.find?_cons_of_pos hb, List.mem_singleton, Option.some.injEq, eq_comm]
    | false =>
      have hcons : tried p (b :: l) = b :: tried p l := by simp [tried, List.findIdx_cons, hb]
      have hne : a ≠ b := fun h => absurd (h ▸ ha) (by simp [hb])
      rw [hcons, List.find?_cons_of_neg (by simp [hb]), List.mem_cons, or_iff_right hne, ih]

end Tried

/-! ### Searches that leave no choice -/

section Choice
variable {p : α → Bool} {l : List α} {a : α}

theorem find?_eq_some_of_only (ha : a ∈ l) (hp : p a = true) (honly : ∀ b ∈ l, p b = true → b = a) :
    l.find? p = some a := by
  obtain ⟨b, hb⟩ := Option.isSome_iff_exists.mp (List.find?_isSome.mpr ⟨a, ha, hp⟩)
  rw [hb, honly b (List.mem_of_find?_eq_some hb) (List.find?_some hb)]

/-- Whatever the order, the same element is found first: exactly if there is at most one to be found. -/
theorem find?_perm_iff : (∀ order : List α, order.Perm l → order.find? p = l.find? p) ↔
    ∀ a ∈ l, ∀ b ∈ l, p a = true → p b = true → a = b := by
  have hfirst : ∀ a ∈ l, p a = true → ∃ order : List α, order.Perm l ∧ order.find? p = some a := by
    intro a ha hp
    obtain ⟨s, t, rfl⟩ := List.append_of_mem ha
    exact ⟨a :: (s ++ t), List.perm_middle.symm, List.find?_cons_of_pos hp⟩
  constructor
  · intro hsame a ha b hb hpa hpb
    obtain ⟨order, hperm, hfound⟩ := hfirst a ha hpa
    obtain ⟨order', hperm', hfound'⟩ := hfirst b hb hpb
    rw [hsame order hperm] at hfound
    rw [hsame order' hperm'] at hfound'
    exact Option.some.inj (hfound.symm.trans hfound')
  · intro honly order hperm
    cases hfound : l.find? p with
    | none => exact List.find?_eq_none.mpr fun b hb => List.find?_eq_none.mp hfound b (hperm.mem_iff.mp hb)
    | some a =>
      have ha := List.mem_of_find?_eq_some hfound
      have hp := List.find?_some hfound
      exact find?_eq_some_of_only (hperm.mem_iff.mpr ha) hp fun b hb hpb => honly b (hperm.mem_iff.mp hb) a ha hpb hp

theorem argmin_eq_some_of_lt [LinearOrder κ] {f : α → κ} (ha : a ∈ l) (hlt : ∀ b ∈ l, b ≠ a → f a < f b) :
    l.argmin f = some a := by
  obtain ⟨m, hm⟩ : ∃ m, l.argmin f = some m :=
    Option.ne_none_iff_exists'.mp fun hnone => List.ne_nil_of_mem ha (List.argmin_eq_none.mp hnone)
  by_cases hma : m = a
  · rw [hm, hma]
  · exact absurd (List.le_of_mem_argmin ha hm) (not_le.mpr (hlt m (List.argmin_mem hm) hma))

end Choice
section Forced
variable [LinearOrder κ] (fits : ι → α → Prop)

/-- A greedy construction in which one option of each position is less under `key` than all others. -/
inductive ForcedBuild (key : List ι → List α → α → κ) : List ι → List α → List ι → List α → Prop
  | done {before chosen} : ForcedBuild key before chosen [] chosen
  | place {before chosen i rest a last} :
    fits i a → (∀ b, fits i b → b ≠ a → key (before ++ [i]) chosen a < key (before ++ [i]) chosen b) →
    ForcedBuild key (before ++ [i]) (chosen ++ [a]) rest last →
    ForcedBuild key before chosen (i :: rest) last

/-- A sweep in which at most one option of each place is accepted. -/
inductive ForcedSweep (accepts : List α → ℕ → α → Bool) : List (ι × ℕ) → List α → List α → Bool → Prop
  | done {chosen} : ForcedSweep accepts [] chosen chosen false
  | stay {chosen i k rest last moved} :
    (∀ a, fits i a → accepts chosen k a = false) →
    ForcedSweep accepts rest chosen last moved →
    ForcedSweep accepts ((i, k) :: rest) chosen last moved
  | move {chosen i k rest a last moved} :
    fits i a → accepts chosen k a = true → (∀ b, fits i b → accepts chosen k b = true → b = a) →
    ForcedSweep accepts rest (chosen.set k a) last moved →
    ForcedSweep accepts ((i, k) :: rest) chosen last true

/-- At most so many of these sweeps, up to the first that moves nothing. -/
inductive ForcedDescent (accepts : List α → ℕ → α → Bool) (positions : List ι) : ℕ → List α → List α → Prop
  | exhausted {chosen} : ForcedDescent accepts positions 0 chosen chosen
  | settled {n chosen last} :
    ForcedSweep fits accepts positions.zipIdx chosen last false →
    ForcedDescent accepts positions (n + 1) chosen last
  | again {n chosen middle last} :
    ForcedSweep fits accepts positions.zipIdx chosen middle true →
    ForcedDescent accepts positions n middle last →
    ForcedDescent accepts positions (n + 1) chosen last

/-- A search that ends in `chosen` without ever a choice between two options. It draws nothing. -/
def Forced (key : List ι → List α → α → κ) (accepts : List α → ℕ → α → Bool) (positions : List ι) (n : ℕ)
    (chosen : List α) : Prop :=
  ∃ seed, ForcedBuild fits key [] [] positions seed ∧ ForcedDescent fits accepts positions n seed chosen

/-- All members fit somewhere. -/
def Offered (chosen : List α) : Prop := ∀ a ∈ chosen, ∃ i, fits i a

variable {fits} {τ : Type} {E : Explorer τ α σ} {f : τ → ι} {key : List ι → List α → α → κ}
  {key' : List τ → List α → α → κ} {accepts accepts' : List α → ℕ → α → Bool} {positions : List τ}
  {chosen last : List α} {i : ι} {a : α}

theorem Offered.snoc (h : Offered fits chosen) (ha : fits i a) : Offered fits (chosen ++ [a]) := by
  intro b hb
  rcases List.mem_append.mp hb with hb | hb
  · exact h b hb
  · exact List.mem_singleton.mp hb ▸ ⟨i, ha⟩

theorem Offered.set (h : Offered fits chosen) (k : ℕ) (ha : fits i a) : Offered fits (chosen.set k a) := by
  intro b hb
  rcases List.mem_or_eq_of_mem_set hb with hb | rfl
  · exact h b hb
  · exact ⟨i, ha⟩

/-- A forced construction is that of every explorer of the same options, under a key that is the same for them. -/
theorem ForcedBuild.builds (hkey : ∀ before chosen a, Offered fits chosen → (∃ i, fits i a) →
      key' before chosen a = key (before.map f) chosen a) {before rest : List τ}
    (hfits : ∀ i ∈ rest, ∀ a, a ∈ E.options i ↔ fits (f i) a)
    (h : ForcedBuild fits key (before.map f) chosen (rest.map f) last) (hchosen : Offered fits chosen) (s : σ) :
    Offered fits last ∧ ∃ s', Builds E key' before (chosen, s) rest (last, s') := by
  induction rest generalizing before chosen s with
  | nil =>
    cases h with
    | done => exact ⟨hchosen, s, .done⟩
  | cons i rest ih =>
    cases h with
    | @place _ _ _ _ a _ ha hleast hrest =>
      have hmap : before.map f ++ [f i] = (before ++ [i]).map f := by simp
      rw [hmap] at hleast hrest
      obtain ⟨hlast, s', hbuilds⟩ := ih (fun j hj => hfits j (List.mem_cons_of_mem _ hj)) hrest (hchosen.snoc ha)
        (E.explore i s).2
      refine ⟨hlast, s', .place (argmin_eq_some_of_lt ?_ fun b hb hne => ?_) hbuilds⟩
      · exact E.mem_explore.mpr ((hfits i List.mem_cons_self a).mpr ha)
      · have hb' := (hfits i List.mem_cons_self b).mp (E.mem_explore.mp hb)
        rw [hkey _ _ _ hchosen ⟨_, ha⟩, hkey _ _ _ hchosen ⟨_, hb'⟩]
        exact hleast b hb' hne

section Descents
variable (haccepts : ∀ chosen k a, Offered fits chosen → (∃ i, fits i a) → accepts' chosen k a = accepts chosen k a)
include haccepts

theorem ForcedSweep.sweep {places : List (τ × ℕ)} {moved : Bool}
    (hfits : ∀ place ∈ places, ∀ a, a ∈ E.options place.1 ↔ fits (f place.1) a)
    (h : ForcedSweep fits accepts (places.map (Prod.map f id)) chosen last moved) (hchosen : Offered fits chosen)
    (s : σ) : Offered fits last ∧ ∃ s', Sweep E accepts' places (chosen, s) (last, s') moved := by
  induction places generalizing chosen moved s with
  | nil =>
    cases h with
    | done => exact ⟨hchosen, s, .done⟩
  | cons place rest ih =>
    obtain ⟨i, k⟩ := place
    have hrestfits := fun q hq => hfits q (List.mem_cons_of_mem _ hq)
    have hopt : ∀ b ∈ (E.explore i s).1, fits (f i) b := fun b hb =>
      (hfits _ List.mem_cons_self b).mp (E.mem_explore.mp hb)
    cases h with
    | stay hnone hrest =>
      obtain ⟨hlast, s', hsweep⟩ := ih hrestfits hrest hchosen (E.explore i s).2
      refine ⟨hlast, s', .stay (List.find?_eq_none.mpr fun b hb => ?_) hsweep⟩
      rw [haccepts _ _ _ hchosen ⟨_, hopt b hb⟩]
      exact Bool.eq_false_iff.mp (hnone b (hopt b hb))
    | @move _ _ _ _ a _ _ ha hacc honly hrest =>
      obtain ⟨hlast, s', hsweep⟩ := ih hrestfits hrest (hchosen.set k ha) (E.explore i s).2
      refine ⟨hlast, s', .move (find?_eq_some_of_only ?_ ?_ fun b hb hb' => ?_) hsweep⟩
      · exact E.mem_explore.mpr ((hfits _ List.mem_cons_self a).mpr ha)
      · rw [haccepts _ _ _ hchosen ⟨_, ha⟩]
        exact hacc
      · rw [haccepts _ _ _ hchosen ⟨_, hopt b hb⟩] at hb'
        exact honly b (hopt b hb) hb'

theorem ForcedDescent.descends (hfits : ∀ i ∈ positions, ∀ a, a ∈ E.options i ↔ fits (f i) a) {n : ℕ}
    (h : ForcedDescent fits accepts (positions.map f) n chosen last) (hchosen : Offered fits chosen) (s : σ) :
    Offered fits last ∧ ∃ s', Descends E accepts' positions n (chosen, s) (last, s') := by
  have hplaces : ∀ place ∈ positions.zipIdx, ∀ a, a ∈ E.options place.1 ↔ fits (f place.1) a := fun place hp =>
    hfits place.1 (List.fst_mem_of_mem_zipIdx hp)
  induction h generalizing s with
  | exhausted => exact ⟨hchosen, s, .exhausted⟩
  | settled hsweep =>
    rw [List.zipIdx_map] at hsweep
    obtain ⟨hlast, s', hsweep'⟩ := hsweep.sweep haccepts hplaces hchosen s
    exact ⟨hlast, s', .settled hsweep'⟩
  | again hsweep _ ih =>
    rw [List.zipIdx_map] at hsweep
    obtain ⟨hmiddle, s', hsweep'⟩ := hsweep.sweep haccepts hplaces hchosen s
    obtain ⟨hlast, s'', hrest⟩ := ih hmiddle s'
    exact ⟨hlast, s'', .again hsweep' hrest⟩

/-- Every explorer of the same options reaches the end of a forced search, in whatever orders it explores them. -/
theorem Forced.reaches (hkey : ∀ before chosen a, Offered fits chosen → (∃ i, fits i a) →
      key' before chosen a = key (before.map f) chosen a)
    (hfits : ∀ i ∈ positions, ∀ a, a ∈ E.options i ↔ fits (f i) a) {n : ℕ}
    (h : Forced fits key accepts (positions.map f) n chosen) (s : σ) :
    Offered fits chosen ∧ ∃ s', Reaches E key' accepts' positions n s (chosen, s') := by
  obtain ⟨seed, hbuild, hdescent⟩ := h
  have hbuild' : ForcedBuild fits key (([] : List τ).map f) [] (positions.map f) seed := hbuild
  obtain ⟨hseed, s', hbuilds⟩ := hbuild'.builds hkey hfits (by simp [Offered]) s
  obtain ⟨hchosen, s'', hdescends⟩ := hdescent.descends haccepts hfits hseed s'
  exact ⟨hchosen, s'', _, hbuilds, hdescends⟩

end Descents
end Forced

/-! ### Descents -/

section Falls
variable [LinearOrder κ] {rank : α → κ} {a b c : α} {l l' : List α}

/-- Each of the elements, from `a` on, has a lower rank than the one before; the last one is `c`. -/
inductive Falls (rank : α → κ) : α → List α → α → Prop
  | rest (a : α) : Falls rank a [] a
  | fall {a b c : α} {l : List α} (lower : rank b < rank a) (next : Falls rank b l c) : Falls rank a (b :: l) c

theorem Falls.append (h : Falls rank a l b) (h' : Falls rank b l' c) : Falls rank a (l ++ l') c := by
  induction h with
  | rest => exact h'
  | fall lower _ ih => exact .fall lower (ih h')

theorem Falls.le (h : Falls rank a l c) : rank c ≤ rank a := by
  induction h with
  | rest => exact le_rfl
  | fall lower _ ih => exact ih.trans lower.le

theorem Falls.lt (h : Falls rank a l c) : ∀ b ∈ l, rank b < rank a := by
  induction h with
  | rest => exact fun _ hb => nomatch hb
  | fall lower _ ih => exact List.forall_mem_cons.mpr ⟨lower, fun b hb => (ih b hb).trans lower⟩

theorem Falls.lt_of_ne_nil (h : Falls rank a l c) (hne : l ≠ []) : rank c < rank a := by
  cases h with
  | rest => exact absurd rfl hne
  | fall lower next => exact next.le.trans_lt lower

theorem Falls.nodup (h : Falls rank a l c) : (a :: l).Nodup := by
  induction h with
  | rest => exact List.nodup_singleton _
  | fall lower next ih =>
    refine List.nodup_cons.mpr ⟨fun hmem => ?_, ih⟩
    rcases List.mem_cons.mp hmem with heq | hmem
    · exact lower.ne' (congrArg rank heq)
    · exact ((next.lt _ hmem).trans lower).ne rfl

end Falls

theorem finite_assignments (pool : List α) (n : ℕ) : {l : List α | l.length = n ∧ ∀ a ∈ l, a ∈ pool}.Finite := by
  induction n with
  | zero => exact (Set.finite_singleton []).subset fun l hl => List.length_eq_zero_iff.mp hl.1
  | succ n ih =>
    refine (Set.Finite.image2 List.cons pool.finite_toSet ih).subset ?_
    rintro l ⟨hlength, hmem⟩
    obtain ⟨a, l, rfl⟩ := List.exists_cons_of_length_eq_add_one hlength
    obtain ⟨ha, hl⟩ := List.forall_mem_cons.mp hmem
    exact ⟨a, ha, l, ⟨Nat.succ.inj hlength, hl⟩, rfl⟩

end CestaPlan.LocalSearch
