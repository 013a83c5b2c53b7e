import Mathlib.Data.List.Forall2
import Mathlib.Data.List.Infix

/-! Runs of a step function, and properties of every state that they reach. -/

namespace CestaPlan.Runs
variable {σ β : Type} {step : σ → β → σ} {xs : List β} {s : σ}

theorem foldl_induction {I : σ → Prop} (hstep : ∀ s, I s → ∀ b ∈ xs, I (step s b)) (hs : I s) : I (xs.foldl step s) := by
  induction xs generalizing s with
  | nil => exact hs
  | cons b xs ih =>
    exact ih (fun s hs c hc => hstep s hs c (List.mem_cons_of_mem _ hc)) (hstep s hs b List.mem_cons_self)

theorem forall_prefix_cons {P : σ → Prop} {b : β} :
    (∀ pre, pre <+: b :: xs → P (pre.foldl step s)) ↔ P s ∧ ∀ pre, pre <+: xs → P (pre.foldl step (step s b)) := by
  constructor
  · exact fun h => ⟨h [] List.nil_prefix, fun pre hpre => h (b :: pre) (List.prefix_cons_inj b |>.mpr hpre)⟩
  · rintro ⟨h, hrest⟩ pre hpre
    cases pre with
    | nil => exact h
    | cons c pre =>
      obtain ⟨rfl, hpre'⟩ := List.cons_prefix_cons.mp hpre
      exact hrest pre hpre'

theorem forall_prefix_concat_cons {K : σ → β → Prop} {b : β} :
    (∀ pre c, pre ++ [c] <+: b :: xs → K (pre.foldl step s) c) ↔
      K s b ∧ ∀ pre c, pre ++ [c] <+: xs → K (pre.foldl step (step s b)) c := by
  constructor
  · refine fun h => ⟨h [] b (List.prefix_cons_inj b |>.mpr List.nil_prefix), fun pre c hpre => ?_⟩
    exact h (b :: pre) c (List.prefix_cons_inj b |>.mpr hpre)
  · rintro ⟨h, hrest⟩ pre c hpre
    cases pre with
    | nil =>
      obtain ⟨rfl, -⟩ := List.cons_prefix_cons.mp hpre
      exact h
    | cons d pre =>
      obtain ⟨rfl, hpre'⟩ := List.cons_prefix_cons.mp hpre
      exact hrest pre c hpre'

/-- `K` holds at every step of a run. -/
def Along (step : σ → β → σ) (K : σ → β → Prop) : σ → List β → Prop
  | _, [] => True
  | s, b :: xs => K s b ∧ Along step K (step s b) xs

instance Along.decidable {K : σ → β → Prop} [∀ s b, Decidable (K s b)] : ∀ s xs, Decidable (Along step K s xs)
  | _, [] => isTrue trivial
  | s, b :: xs =>
    have : Decidable (Along step K (step s b) xs) := Along.decidable (step s b) xs
    inferInstanceAs (Decidable (K s b ∧ Along step K (step s b) xs))

theorem along_iff {K : σ → β → Prop} :
    Along step K s xs ↔ ∀ pre b, pre ++ [b] <+: xs → K (pre.foldl step s) b := by
  induction xs generalizing s with
  | nil =>
    refine iff_of_true trivial fun pre b hpre => ?_
    exact absurd (List.prefix_nil.mp hpre) (List.append_ne_nil_of_right_ne_nil _ (List.cons_ne_nil _ _))
  | cons b xs ih => rw [forall_prefix_concat_cons, Along, ih]

theorem along_invariant {I : σ → Prop} {K : σ → β → Prop} (hI : ∀ s b, I s → K s b → I (step s b)) (hs : I s)
    (hK : Along step K s xs) : ∀ pre, pre <+: xs → I (pre.foldl step s) := by
  induction xs generalizing s with
  | nil =>
    intro pre hpre
    rw [List.prefix_nil.mp hpre]
    exact hs
  | cons b xs ih => exact forall_prefix_cons.mpr ⟨hs, ih (hI s b hs hK.1) hK.2⟩

/-- Properties of steps that agree while an invariant holds that the second one keeps agree along a run. -/
theorem along_congr {I : σ → Prop} {H K : σ → β → Prop} (hHK : ∀ s b, I s → (H s b ↔ K s b))
    (hI : ∀ s b, I s → K s b → I (step s b)) (hs : I s) : Along step H s xs ↔ Along step K s xs := by
  induction xs generalizing s with
  | nil => exact Iff.rfl
  | cons b xs ih =>
    unfold Along
    rw [hHK s b hs]
    exact and_congr_right fun hK => ih (hI s b hs hK)

/-- When a step keeps `P` exactly where `K` holds, `P` holds all along a run exactly when `K` holds at every step. -/
theorem forall_prefix_iff {I P : σ → Prop} {K : σ → β → Prop} (hI : ∀ s, I s → ∀ b ∈ xs, I (step s b))
    (hP : ∀ s, I s → P s → ∀ b ∈ xs, (P (step s b) ↔ K s b)) (hs : I s) (hPs : P s) :
    (∀ pre, pre <+: xs → P (pre.foldl step s)) ↔ ∀ pre b, pre ++ [b] <+: xs → K (pre.foldl step s) b := by
  induction xs generalizing s with
  | nil =>
    refine iff_of_true (fun pre hpre => ?_) fun pre b hpre => ?_
    · rw [List.prefix_nil.mp hpre]
      exact hPs
    · exact absurd (List.prefix_nil.mp hpre) (List.append_ne_nil_of_right_ne_nil _ (List.cons_ne_nil _ _))
  | cons b xs ih =>
    have hrest := fun hPb => ih (s := step s b) (fun s hs c hc => hI s hs c (List.mem_cons_of_mem _ hc))
      (fun s hs hPs c hc => hP s hs hPs c (List.mem_cons_of_mem _ hc)) (hI s hs b List.mem_cons_self) hPb
    have hb := hP s hs hPs b List.mem_cons_self
    rw [forall_prefix_cons, forall_prefix_concat_cons]
    constructor
    · rintro ⟨-, h⟩
      have hPb : P (step s b) := h [] List.nil_prefix
      exact ⟨hb.mp hPb, (hrest hPb).mp h⟩
    · rintro ⟨hK, h⟩
      exact ⟨hPs, (hrest (hb.mpr hK)).mpr h⟩

/-- No two steps of a run give the same. -/
def Once {ι : Type} (step : σ → β → σ) (f : σ → β → Option ι) (s : σ) (xs : List β) : Prop :=
  ∀ pre b, pre ++ [b] <+: xs → ∀ i, f (pre.foldl step s) b = some i → ∀ pre' b', pre' ++ [b'] <+: pre →
    f (pre'.foldl step s) b' ≠ some i

theorem once_of_mark {ι : Type} {f : σ → β → Option ι} {I : σ → Prop} {M : σ → ι → Prop} (hI : ∀ s b, I s → I (step s b))
    (hmark : ∀ s b i, I s → f s b = some i → M (step s b) i) (hstays : ∀ s b i, I s → M s i → M (step s b) i)
    (hnever : ∀ s b i, M s i → f s b ≠ some i) (hs : I s) : Once step f s xs := by
  intro pre b _ i hi pre' b' hpre' hi'
  obtain ⟨rest, rfl⟩ := hpre'
  have hmid : I (pre'.foldl step s) := foldl_induction (fun s hs b _ => hI s b hs) hs
  have hend : I (rest.foldl step (step (pre'.foldl step s) b')) ∧ M (rest.foldl step (step (pre'.foldl step s) b')) i :=
    foldl_induction (I := fun s => I s ∧ M s i) (fun s hs b _ => ⟨hI s b hs.1, hstays s b i hs.1 hs.2⟩)
      ⟨hI _ _ hmid, hmark _ _ _ hmid hi'⟩
  rw [List.foldl_append, List.foldl_append, List.foldl_cons, List.foldl_nil] at hi
  exact hnever _ _ _ hend.2 hi

/-! ### Elements and those before them -/

/-- What each element gives, after those before it. -/
def judged {γ : Type} (f : List β → β → γ) : List β → List β → List γ
  | _, [] => []
  | before, x :: xs => f before x :: judged f (before ++ [x]) xs

theorem judged_concat {γ : Type} (f : List β → β → γ) (before xs : List β) (x : β) :
    judged f before (xs ++ [x]) = judged f before xs ++ [f (before ++ xs) x] := by
  induction xs generalizing before with
  | nil => simp [judged]
  | cons y xs ih => simp [judged, ih]

/-! ### Lists that grow -/

/-- `l` with elements appended one by one, each of them as `P` says of those before it. -/
inductive Grown (P : List β → β → Prop) (l : List β) : List β → Prop
  | refl : Grown P l l
  | snoc {l' : List β} {b : β} : Grown P l l' → P l' b → Grown P l (l' ++ [b])

section Grown
variable {P : List β → β → Prop} {l l' : List β}

theorem Grown.isPrefix (h : Grown P l l') : l <+: l' := by
  induction h with
  | refl => exact List.prefix_rfl
  | snoc _ _ ih => exact ih.trans (List.prefix_append _ _)

theorem Grown.of_split (h : Grown P l l') {earlier later : List β} {b : β} (hsplit : l' = earlier ++ b :: later)
    (hlength : l.length ≤ earlier.length) : P earlier b := by
  induction h generalizing later with
  | refl =>
    rw [hsplit, List.length_append, List.length_cons] at hlength
    omega
  | @snoc l' c h hc ih =>
    rcases List.eq_nil_or_concat later with rfl | ⟨rest, d, rfl⟩
    · obtain ⟨hl, hbc⟩ := List.append_inj' hsplit rfl
      obtain rfl := List.singleton_inj.mp hbc
      exact hl ▸ hc
    · have hinit : l' = earlier ++ b :: rest := by
        have hsplit : l' ++ [c] = (earlier ++ b :: rest) ++ [d] := by simpa using hsplit
        exact (List.append_inj' hsplit rfl).1
      exact ih hinit

theorem Grown.of_mem_drop (h : Grown P l l') {b : β} (hb : b ∈ l'.drop l.length) :
    ∃ earlier, l <+: earlier ∧ P earlier b := by
  obtain ⟨news, rfl⟩ := h.isPrefix
  rw [List.drop_left] at hb
  obtain ⟨before, later, rfl⟩ := List.append_of_mem hb
  exact ⟨l ++ before, List.prefix_append _ _, h.of_split (List.append_assoc _ _ _).symm (by simp)⟩

end Grown

/-! ### Runs that may fail -/

section Fallible
variable {ε α : Type} {x : Except ε α} {f : α → Except ε β} {g : σ → β → Except ε σ} {b : β} {s' : σ}

theorem bind_eq_ok : x >>= f = .ok b ↔ ∃ a, x = .ok a ∧ f a = .ok b := by
  cases x with
  | error e => exact iff_of_false (fun h => by cases h) fun ⟨a, h, _⟩ => by cases h
  | ok a => exact ⟨fun h => ⟨a, rfl, h⟩, fun ⟨a', ha, h⟩ => by cases ha; exact h⟩

theorem foldlM_cons_eq_ok : (b :: xs).foldlM g s = .ok s' ↔ ∃ t, g s b = .ok t ∧ xs.foldlM g t = .ok s' := by
  rw [List.foldlM_cons, bind_eq_ok]

theorem exists_step_of_foldlM (h : xs.foldlM g s = .ok s') {b : β} (hb : b ∈ xs) : ∃ t t', g t b = .ok t' := by
  induction xs generalizing s with
  | nil => cases hb
  | cons c xs ih =>
    obtain ⟨t, ht, hrest⟩ := foldlM_cons_eq_ok.mp h
    rcases List.mem_cons.mp hb with rfl | hb
    · exact ⟨s, t, ht⟩
    · exact ih hrest hb

theorem exists_of_forall₂ {R : α → β → Prop} {l : List α} {l' : List β} (h : List.Forall₂ R l l') :
    (∀ a ∈ l, ∃ b ∈ l', R a b) ∧ ∀ b ∈ l', ∃ a ∈ l, R a b := by
  induction h with
  | nil => simp
  | cons hab _ ih =>
    refine ⟨List.forall_mem_cons.mpr ⟨⟨_, List.mem_cons_self, hab⟩, fun a ha => ?_⟩,
      List.forall_mem_cons.mpr ⟨⟨_, List.mem_cons_self, hab⟩, fun b hb => ?_⟩⟩
    · obtain ⟨b, hb, hR⟩ := ih.1 a ha
      exact ⟨b, List.mem_cons_of_mem _ hb, hR⟩
    · obtain ⟨a, ha, hR⟩ := ih.2 b hb
      exact ⟨a, List.mem_cons_of_mem _ ha, hR⟩

theorem forall₂_comp {γ : Type} {R : α → β → Prop} {S : β → γ → Prop} {l : List α} {l' : List β} {l'' : List γ}
    (h : List.Forall₂ R l l') (h' : List.Forall₂ S l' l'') : List.Forall₂ (fun a c => ∃ b, R a b ∧ S b c) l l'' := by
  induction h generalizing l'' with
  | nil =>
    cases h'
    exact List.Forall₂.nil
  | cons hab _ ih =>
    cases h' with
    | cons hbc hrest => exact List.Forall₂.cons ⟨_, hab, hbc⟩ (ih hrest)

/-- A relation that says something of the first element only, where the elements are related. -/
theorem forall₂_iff_forall {R S : α → β → Prop} {P : α → Prop} {l : List α} {l' : List β} (h : List.Forall₂ R l l')
    (hS : ∀ a b, R a b → (S a b ↔ P a)) : List.Forall₂ S l l' ↔ ∀ a ∈ l, P a := by
  induction h with
  | nil => simp
  | cons hab _ ih => rw [List.forall₂_cons, List.forall_mem_cons, hS _ _ hab, ih]

theorem map_eq_map_of_forall₂ {γ : Type} {R : α → β → Prop} {p : α → γ} {q : β → γ} {l : List α} {l' : List β}
    (h : List.Forall₂ R l l') (hpq : ∀ a b, R a b → q b = p a) : l'.map q = l.map p := by
  induction h with
  | nil => rfl
  | cons hab _ ih => rw [List.map_cons, List.map_cons, hpq _ _ hab, ih]

theorem filterMap_eq_filterMap_of_forall₂ {γ : Type} {R : α → β → Prop} {p : α → Option γ} {q : β → Option γ}
    {l : List α} {l' : List β} (h : List.Forall₂ R l l') (hpq : ∀ a b, R a b → q b = p a) :
    l'.filterMap q = l.filterMap p := by
  induction h with
  | nil => rfl
  | cons hab _ ih => rw [List.filterMap_cons, List.filterMap_cons, hpq _ _ hab, ih]

theorem forall₂_of_mapM_eq_ok {l : List α} {l' : List β} (h : l.mapM f = .ok l') :
    List.Forall₂ (fun a b => f a = .ok b) l l' := by
  induction l generalizing l' with
  | nil =>
    cases h
    exact List.Forall₂.nil
  | cons a l ih =>
    rw [List.mapM_cons] at h
    obtain ⟨b, hb, hrest⟩ := bind_eq_ok.mp h
    obtain ⟨bs, hbs, hl'⟩ := bind_eq_ok.mp hrest
    cases hl'
    exact List.Forall₂.cons hb (ih hbs)

theorem mapM_eq_ok_iff {l : List α} {l' : List β} : l.mapM f = .ok l' ↔ List.Forall₂ (fun a b => f a = .ok b) l l' := by
  refine ⟨forall₂_of_mapM_eq_ok, fun h => ?_⟩
  induction h with
  | nil => rfl
  | cons hab _ ih =>
    rw [List.mapM_cons]
    exact bind_eq_ok.mpr ⟨_, hab, bind_eq_ok.mpr ⟨_, ih, rfl⟩⟩

theorem exists_mapM_iff {l : List α} : (∃ l', l.mapM f = .ok l') ↔ ∀ a ∈ l, ∃ b, f a = .ok b := by
  induction l with
  | nil => exact iff_of_true ⟨[], rfl⟩ fun _ h => by cases h
  | cons a l ih =>
    rw [List.forall_mem_cons, ← ih, List.mapM_cons]
    constructor
    · rintro ⟨l', h⟩
      obtain ⟨b, hb, hrest⟩ := bind_eq_ok.mp h
      obtain ⟨bs, hbs, -⟩ := bind_eq_ok.mp hrest
      exact ⟨⟨b, hb⟩, bs, hbs⟩
    · rintro ⟨⟨b, hb⟩, bs, hbs⟩
      exact ⟨b :: bs, bind_eq_ok.mpr ⟨b, hb, bind_eq_ok.mpr ⟨bs, hbs, rfl⟩⟩⟩

/-! ### Runs that are done again -/

theorem foldlM_keep {P : σ → Prop} (hkeep : ∀ {s b s'}, b ∈ xs → g s b = .ok s' → P s → P s') (h : xs.foldlM g s = .ok s') (hs : P s) :
    P s' := by
  induction xs generalizing s with
  | nil =>
    cases h
    exact hs
  | cons b xs ih =>
    obtain ⟨t, ht, hrest⟩ := foldlM_cons_eq_ok.mp h
    exact ih (fun hb => hkeep (List.mem_cons_of_mem _ hb)) hrest (hkeep List.mem_cons_self ht hs)

variable {γ : Type} {M : σ → β → γ → Prop} {out : σ → List γ} {cs : List γ}

/-- Where a step gives something and leaves a mark of it, and the marks stay, a run leaves the marks of all it gives. -/
theorem foldlM_marks (hstep : ∀ {s b s'}, b ∈ xs → g s b = .ok s' → ∃ c, M s' b c ∧ out s' = out s ++ [c])
    (hkeep : ∀ {s b s' b' c}, b ∈ xs → g s b = .ok s' → M s b' c → M s' b' c) (h : xs.foldlM g s = .ok s') :
    ∃ cs, out s' = out s ++ cs ∧ List.Forall₂ (M s') xs cs := by
  induction xs generalizing s with
  | nil =>
    cases h
    exact ⟨[], (List.append_nil _).symm, List.Forall₂.nil⟩
  | cons b xs ih =>
    obtain ⟨t, ht, hrest⟩ := foldlM_cons_eq_ok.mp h
    obtain ⟨c, hc, hout⟩ := hstep List.mem_cons_self ht
    obtain ⟨cs, hcs, hall⟩ := ih (fun hb => hstep (List.mem_cons_of_mem _ hb)) (fun hb => hkeep (List.mem_cons_of_mem _ hb)) hrest
    refine ⟨c :: cs, by rw [hcs, hout, List.append_assoc]; rfl, List.Forall₂.cons ?_ hall⟩
    have hkept : ∀ {t b' t'}, b' ∈ xs → g t b' = .ok t' → M t b c → M t' b c := fun hb => hkeep (List.mem_cons_of_mem _ hb)
    exact foldlM_keep (P := fun t => M t b c) hkept hrest hc

/-- Where a step changes nothing that matters once its mark is there, a run over what is marked changes nothing, and gives the same again. -/
theorem foldlM_idle {Same : σ → σ → Prop} (hrefl : ∀ s, Same s s) (htrans : ∀ {s t u}, Same s t → Same t u → Same s u)
    (hmark : ∀ {s t b c}, Same s t → M s b c → M t b c)
    (hidle : ∀ {s b c}, M s b c → ∃ t, g s b = .ok t ∧ Same s t ∧ out t = out s ++ [c]) (h : List.Forall₂ (M s) xs cs) :
    ∃ t, xs.foldlM g s = .ok t ∧ Same s t ∧ out t = out s ++ cs := by
  induction xs generalizing s cs with
  | nil =>
    cases h
    exact ⟨s, rfl, hrefl s, (List.append_nil _).symm⟩
  | cons b xs ih =>
    cases h with
    | @cons _ c _ cs hc hall =>
    obtain ⟨t, ht, hsame, hout⟩ := hidle hc
    obtain ⟨u, hu, hsame', hout'⟩ := ih (hall.imp fun _ _ => hmark hsame)
    exact ⟨u, foldlM_cons_eq_ok.mpr ⟨t, ht, hu⟩, htrans hsame hsame', by rw [hout', hout, List.append_assoc]; rfl⟩

end Fallible
end CestaPlan.Runs
