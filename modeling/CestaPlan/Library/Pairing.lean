import CestaPlan.Library.Runs
import Mathlib.Data.List.Forall2
import Mathlib.Data.List.Perm.Basic

/-! Two computations that may fail, side by side: they fail together, and otherwise their results are related. Two lists whose elements
    go together in pairs, in whatever order the lists have them. -/

namespace CestaPlan.RelatedOptions
variable {α β γ δ : Type}

theorem rel_bind {R : α → β → Prop} {S : γ → δ → Prop} {f : α → Option γ} {g : β → Option δ} {o : Option α}
    {o' : Option β} (h : Option.Rel R o o') (hf : ∀ a b, R a b → Option.Rel S (f a) (g b)) : Option.Rel S (o.bind f) (o'.bind g) := by
  cases h with
  | none => exact .none
  | some hab => exact hf _ _ hab

theorem rel_imp {R S : α → β → Prop} (hRS : ∀ a b, R a b → S a b) {o : Option α} {o' : Option β}
    (h : Option.Rel R o o') : Option.Rel S o o' := by
  cases h with
  | none => exact .none
  | some hab => exact .some (hRS _ _ hab)

theorem rel_or {R : α → β → Prop} {o₁ o₂ : Option α} {o₁' o₂' : Option β} (h₁ : Option.Rel R o₁ o₁')
    (h₂ : Option.Rel R o₂ o₂') : Option.Rel R (o₁.or o₂) (o₁'.or o₂') := by
  cases h₁ with
  | none => exact h₂
  | some hab => exact .some hab

theorem findSome?_cons_or {f : α → Option β} {e : α} {l : List α} :
    (e :: l).findSome? f = (f e).or (l.findSome? f) := by
  rw [List.findSome?_cons]
  cases f e <;> rfl

theorem rel_findSome? {R : β → γ → Prop} {f : α → Option β} {g : α → Option γ} {l : List α}
    (h : ∀ e ∈ l, Option.Rel R (f e) (g e)) : Option.Rel R (l.findSome? f) (l.findSome? g) := by
  induction l with
  | nil => exact .none
  | cons e l ih =>
    rw [findSome?_cons_or, findSome?_cons_or]
    exact rel_or (h e List.mem_cons_self) (ih fun e' he' => h e' (List.mem_cons_of_mem _ he'))

theorem rel_filterMap {R : β → γ → Prop} {f : α → Option β} {g : α → Option γ} {l : List α}
    (h : ∀ e ∈ l, Option.Rel R (f e) (g e)) : List.Forall₂ R (l.filterMap f) (l.filterMap g) := by
  induction l with
  | nil => exact .nil
  | cons e l ih =>
    have he := h e List.mem_cons_self
    have hl := ih fun e' he' => h e' (List.mem_cons_of_mem _ he')
    rw [List.filterMap_cons, List.filterMap_cons]
    generalize f e = o at he
    generalize g e = o' at he
    cases he with
    | none => exact hl
    | some hab => exact .cons hab hl

end CestaPlan.RelatedOptions

namespace CestaPlan.Pairing
variable {α β γ δ : Type} {R : α → β → Prop} {S : γ → δ → Prop} {l₁ : List α} {l₂ : List β}

/-- The elements of `l₁` are related to those of a rearrangement of `l₂`. -/
def Paired (R : α → β → Prop) (l₁ : List α) (l₂ : List β) : Prop := ∃ l, List.Forall₂ R l₁ l ∧ l.Perm l₂

theorem paired_of_map_perm {f : α → γ} {g : β → γ} (h : (l₁.map f).Perm (l₂.map g)) :
    Paired (fun a b => f a = g b) l₁ l₂ := by
  have hright : List.Forall₂ (fun c b => c = g b) (l₂.map g) l₂ :=
    List.forall₂_map_left_iff.mpr (List.forall₂_same.mpr fun _ _ => rfl)
  obtain ⟨l, hl, hperm⟩ := List.perm_comp_forall₂ h hright
  exact ⟨l, List.forall₂_map_left_iff.mp hl, hperm⟩

namespace Paired

theorem map_perm {f : α → γ} {g : β → γ} (h : Paired (fun a b => f a = g b) l₁ l₂) : (l₁.map f).Perm (l₂.map g) := by
  obtain ⟨l, hl, hperm⟩ := h
  have heq : l.map g = l₁.map f := Runs.map_eq_map_of_forall₂ hl fun _ _ hab => hab.symm
  exact heq ▸ hperm.map g

theorem imp_of_mem {R' : α → β → Prop} (h : Paired R l₁ l₂) (himp : ∀ a ∈ l₁, ∀ b ∈ l₂, R a b → R' a b) :
    Paired R' l₁ l₂ := by
  obtain ⟨l, hl, hperm⟩ := h
  obtain ⟨hlength, hzip⟩ := List.forall₂_iff_zip.mp hl
  refine ⟨l, List.forall₂_iff_zip.mpr ⟨hlength, fun hab => ?_⟩, hperm⟩
  obtain ⟨ha, hb⟩ := List.of_mem_zip hab
  exact himp _ ha _ (hperm.mem_iff.mp hb) (hzip hab)

theorem imp {R' : α → β → Prop} (h : Paired R l₁ l₂) (himp : ∀ a b, R a b → R' a b) : Paired R' l₁ l₂ :=
  h.imp_of_mem fun a _ b _ => himp a b

theorem append {l₁' : List α} {l₂' : List β} (h : Paired R l₁ l₂) (h' : Paired R l₁' l₂') :
    Paired R (l₁ ++ l₁') (l₂ ++ l₂') := by
  obtain ⟨l, hl, hperm⟩ := h
  obtain ⟨l', hl', hperm'⟩ := h'
  exact ⟨l ++ l', List.rel_append hl hl', hperm.append hperm'⟩

theorem perm_right {l : List β} (h : Paired R l₁ l) (hperm : l.Perm l₂) : Paired R l₁ l₂ := by
  obtain ⟨l', hl', hperm'⟩ := h
  exact ⟨l', hl', hperm'.trans hperm⟩

theorem filter {p : α → Bool} {q : β → Bool} (h : Paired R l₁ l₂) (hpq : ∀ a b, R a b → p a = q b) :
    Paired R (l₁.filter p) (l₂.filter q) := by
  obtain ⟨l, hl, hperm⟩ := h
  exact ⟨l.filter q, List.rel_filter (fun a b hab => iff_of_eq (congrArg (· = true) (hpq a b hab))) hl, hperm.filter q⟩

theorem flatMap {f : α → List γ} {g : β → List δ} (h : Paired R l₁ l₂) (hfg : ∀ a b, R a b → Paired S (f a) (g b)) :
    Paired S (l₁.flatMap f) (l₂.flatMap g) := by
  obtain ⟨l, hl, hperm⟩ := h
  refine perm_right ?_ (hperm.flatMap_right g)
  clear hperm
  induction hl with
  | nil => exact ⟨[], .nil, .refl _⟩
  | cons hab _ ih => exact (hfg _ _ hab).append ih

theorem flatMap_perm {f : α → List γ} {g : β → List γ} (h : Paired R l₁ l₂)
    (hfg : ∀ a ∈ l₁, ∀ b ∈ l₂, R a b → (f a).Perm (g b)) : (l₁.flatMap f).Perm (l₂.flatMap g) := by
  obtain ⟨l, hl, hperm⟩ := h.imp_of_mem hfg
  refine List.Perm.trans ?_ (hperm.flatMap_right g)
  clear h hfg hperm
  induction hl with
  | nil => exact .nil
  | cons hab _ ih => exact hab.append ih

theorem all_eq {p : α → Bool} {q : β → Bool} (h : Paired R l₁ l₂) (hpq : ∀ a b, R a b → p a = q b) :
    l₁.all p = l₂.all q := by
  obtain ⟨l, hl, hperm⟩ := h
  rw [← hperm.all_eq]
  clear hperm
  induction hl with
  | nil => rfl
  | cons hab _ ih => rw [List.all_cons, List.all_cons, hpq _ _ hab, ih]

theorem exists_left (h : Paired R l₁ l₂) {b : β} (hb : b ∈ l₂) : ∃ a ∈ l₁, R a b := by
  obtain ⟨l, hl, hperm⟩ := h
  exact (Runs.exists_of_forall₂ hl).2 b (hperm.mem_iff.mpr hb)

theorem exists_right (h : Paired R l₁ l₂) {a : α} (ha : a ∈ l₁) : ∃ b ∈ l₂, R a b := by
  obtain ⟨l, hl, hperm⟩ := h
  obtain ⟨b, hb, hab⟩ := (Runs.exists_of_forall₂ hl).1 a ha
  exact ⟨b, hperm.mem_iff.mp hb, hab⟩

theorem forall₂ {A : α → γ → Prop} {B : β → δ → Prop} {k₁ : List γ} {k₂ : List δ} (h : Paired R l₁ l₂)
    (h₁ : List.Forall₂ A l₁ k₁) (h₂ : List.Forall₂ B l₂ k₂) :
    Paired (fun c d => ∃ a b, R a b ∧ A a c ∧ B b d) k₁ k₂ := by
  obtain ⟨l, hl, hperm⟩ := h
  obtain ⟨k, hk, hperm'⟩ := List.perm_comp_forall₂ hperm h₂
  refine ⟨k, ?_, hperm'⟩
  refine (Runs.forall₂_comp h₁.flip (Runs.forall₂_comp hl hk)).imp ?_
  rintro c d ⟨a, hac, b, hab, hbd⟩
  exact ⟨a, b, hab, hac, hbd⟩

end Paired
end CestaPlan.Pairing
