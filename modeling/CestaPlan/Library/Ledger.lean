import CestaPlan.Library.Anchors
import Mathlib.Data.List.Perm.Basic
import Mathlib.Data.Set.Insert

/-! A ledger of timed facts. A fact is entered in its stored form unless the ledger already has one
    with its key. A fact alone at its instant is in force from there up to the next instant of the
    ledger; facts that share an instant dispute each other, and none of them is ever in force.

    Entering depends on the order of arrival in one way only: storing may change the key of a fact, so
    that a fact and its stored form are told apart or not according to which of them came first. -/

namespace CestaPlan.Ledger
open Anchors

/-- Facts with an instant, a key that tells them apart, and the form in which they are stored. -/
structure Scheme (F K T : Type) where
  time : F → T
  key : F → K
  store : F → F
  time_store : ∀ f, time (store f) = time f
  time_of_key : ∀ {f g}, key f = key g → time f = time g
  store_store : ∀ f, key (store (store f)) = key (store f)
  exact_of_key : ∀ {f g}, key (store f) = key g → key (store g) = key g

/-- When a fact holds, and whether another fact disputes it. -/
structure Span (T : Type) where
  since : T
  till : Option T
  disputed : Bool
deriving DecidableEq

/-- The span holds at `t`: it is half open, and a disputed one never holds. -/
def Span.Holds {T : Type} [LinearOrder T] (s : Span T) (t : T) : Prop :=
  s.disputed = false ∧ s.since ≤ t ∧ ∀ u, s.till = some u → t < u

namespace Scheme

variable {F K T : Type} (S : Scheme F K T)

def times (L : List F) : List T := L.map S.time

def Exact (c : F) : Prop := S.key (S.store c) = S.key c

theorem mem_times {S : Scheme F K T} {L : List F} {t : T} : t ∈ S.times L ↔ ∃ f ∈ L, S.time f = t := List.mem_map

theorem times_append {S : Scheme F K T} {L : List F} {f : F} : S.times (L ++ [f]) = S.times L ++ [S.time f] := by
  simp [times]

section Offers
variable [DecidableEq K]

/-- Enter `c` unless a fact with its key is there. -/
def offer (L : List F) (c : F) : List F := if ∃ f ∈ L, S.key f = S.key c then L else L ++ [S.store c]

def offers (L cs : List F) : List F := cs.foldl S.offer L

variable {S} {L cs : List F} {c f : F} {t : T}

@[simp] theorem offers_nil : S.offers L [] = L := rfl

@[simp] theorem offers_cons : S.offers L (c :: cs) = S.offers (S.offer L c) cs := rfl

theorem offer_of_mem (hf : f ∈ L) (hk : S.key f = S.key c) : S.offer L c = L := if_pos ⟨f, hf, hk⟩

theorem offer_of_not_mem (h : ∀ f ∈ L, S.key f ≠ S.key c) : S.offer L c = L ++ [S.store c] :=
  if_neg fun ⟨f, hf, hk⟩ => h f hf hk

theorem subset_offer (hf : f ∈ L) : f ∈ S.offer L c := by
  unfold offer
  split
  · exact hf
  · exact List.mem_append_left _ hf

theorem subset_offers (hf : f ∈ L) : f ∈ S.offers L cs := by
  induction cs generalizing L with
  | nil => exact hf
  | cons c cs ih => exact ih (subset_offer hf)

theorem mem_offer (hf : f ∈ S.offer L c) : f ∈ L ∨ f = S.store c := by
  unfold offer at hf
  split at hf
  · exact Or.inl hf
  · simpa using hf

theorem mem_offers (hf : f ∈ S.offers L cs) : f ∈ L ∨ ∃ c ∈ cs, f = S.store c := by
  induction cs generalizing L with
  | nil => exact Or.inl hf
  | cons c cs ih =>
    rcases ih hf with hf | ⟨d, hd, rfl⟩
    · rcases mem_offer hf with hf | rfl
      · exact Or.inl hf
      · exact Or.inr ⟨c, List.mem_cons_self, rfl⟩
    · exact Or.inr ⟨d, List.mem_cons_of_mem _ hd, rfl⟩

/-! ### Which keys and instants a ledger holds -/

theorem key_mem_offer (hL : ∀ f ∈ L, S.key (S.store f) = S.key f) : ∃ f ∈ S.offer L c, S.key f = S.key (S.store c) := by
  by_cases h : ∃ f ∈ L, S.key f = S.key c
  · obtain ⟨f, hf, hk⟩ := h
    exact ⟨f, subset_offer hf, hk.trans (S.exact_of_key ((hL f hf).trans hk)).symm⟩
  · rw [offer_of_not_mem fun f hf hk => h ⟨f, hf, hk⟩]
    exact ⟨S.store c, by simp, rfl⟩

theorem stored_offer (hL : ∀ f ∈ L, S.key (S.store f) = S.key f) :
    ∀ f ∈ S.offer L c, S.key (S.store f) = S.key f := by
  intro f hf
  rcases mem_offer hf with hf | rfl
  · exact hL f hf
  · exact S.store_store c

theorem key_mem_offers (hL : ∀ f ∈ L, S.key (S.store f) = S.key f) (hc : c ∈ cs) :
    ∃ f ∈ S.offers L cs, S.key f = S.key (S.store c) := by
  induction cs generalizing L with
  | nil => cases hc
  | cons d cs ih =>
    rcases List.mem_cons.mp hc with rfl | hc
    · obtain ⟨f, hf, hk⟩ := key_mem_offer (c := c) hL
      refine ⟨f, ?_, hk⟩
      rw [offers_cons]
      exact subset_offers hf
    · exact ih (stored_offer hL) hc

theorem key_offers_iff {k : K} :
    (∃ f ∈ S.offers [] cs, S.key f = k) ↔ ∃ c ∈ cs, S.key (S.store c) = k := by
  constructor
  · rintro ⟨f, hf, rfl⟩
    rcases mem_offers hf with hf | ⟨c, hc, rfl⟩
    · cases hf
    · exact ⟨c, hc, rfl⟩
  · rintro ⟨c, hc, rfl⟩
    exact key_mem_offers (fun f hf => by cases hf) hc

theorem times_offers : t ∈ S.times (S.offers [] cs) ↔ t ∈ S.times cs := by
  constructor
  · intro h
    obtain ⟨f, hf, rfl⟩ := mem_times.mp h
    rcases mem_offers hf with hf | ⟨c, hc, rfl⟩
    · cases hf
    · exact mem_times.mpr ⟨c, hc, (S.time_store c).symm⟩
  · intro h
    obtain ⟨c, hc, rfl⟩ := mem_times.mp h
    obtain ⟨f, hf, hk⟩ := (key_offers_iff (S := S)).mpr ⟨c, hc, rfl⟩
    exact mem_times.mpr ⟨f, hf, (S.time_of_key hk).trans (S.time_store c)⟩

theorem length_le_offers : L.length ≤ (S.offers L cs).length := by
  induction cs generalizing L with
  | nil => exact Nat.le_refl _
  | cons c cs ih =>
    refine Nat.le_trans ?_ ih
    unfold offer
    split
    · exact Nat.le_refl _
    · simp

/-- After a first fact another one is entered as soon as some fact is told apart from it. -/
theorem one_lt_offers_iff {x : F} {rest : List F} :
    1 < (S.offers [x] rest).length ↔ ∃ d ∈ rest, S.key d ≠ S.key x := by
  induction rest with
  | nil => simp
  | cons d rest ih =>
    by_cases hd : S.key d = S.key x
    · rw [offers_cons, offer_of_mem (f := x) List.mem_cons_self hd.symm, ih]
      simp [hd]
    · have hlen : 1 < (S.offers [x] (d :: rest)).length := by
        have hnew : ∀ f ∈ [x], S.key f ≠ S.key d := fun f hf hk => hd (by rw [← hk, List.mem_singleton.mp hf])
        rw [offers_cons, offer_of_not_mem hnew]
        exact Nat.lt_of_lt_of_le (by simp) length_le_offers
      exact ⟨fun _ => ⟨d, List.mem_cons_self, hd⟩, fun _ => hlen⟩

end Offers

/-! ### One instant at a time -/

section Standing
variable [LinearOrder T]

def standing (L : List F) (t : T) : List F := L.filter (S.time · = t)

def Disputed (L : List F) (t : T) : Prop := 1 < (S.standing L t).length

instance (L : List F) (t : T) : Decidable (S.Disputed L t) := inferInstanceAs (Decidable (_ < _))

def span (L : List F) (f : F) : Span T :=
  if S.Disputed L (S.time f) then ⟨S.time f, some (S.time f), true⟩
  else ⟨S.time f, nextAnchor (S.times L) (S.time f), false⟩

/-- What a ledger shows: the key of each fact with its span. -/
def picture (L : List F) : Set (K × Span T) := {x | ∃ f ∈ L, x = (S.key f, S.span L f)}

variable {S} {L cs : List F} {c f : F} {t : T}

theorem mem_standing : f ∈ S.standing L t ↔ f ∈ L ∧ S.time f = t := by
  simp [standing]

theorem standing_eq_nil_iff : S.standing L t = [] ↔ t ∉ S.times L := by
  rw [mem_times, standing, List.filter_eq_nil_iff]
  simp

theorem standing_perm {xs ys : List F} (h : xs.Perm ys) : (S.standing xs t).Perm (S.standing ys t) := h.filter _

theorem span_disputed : (S.span L f).disputed = true ↔ S.Disputed L (S.time f) := by
  unfold span
  split <;> simp [*]

/-! One more fact in the ledger: at an instant of the ledger it disputes what stands there, elsewhere it ends
    the span before it. -/

theorem standing_append_of_ne (h : S.time f ≠ t) : S.standing (L ++ [f]) t = S.standing L t := by
  simp [standing, List.filter_append, h]

theorem standing_append_self : S.standing (L ++ [f]) (S.time f) = S.standing L (S.time f) ++ [f] := by
  simp [standing, List.filter_append]

theorem disputed_append_of_ne (h : S.time f ≠ t) : S.Disputed (L ++ [f]) t ↔ S.Disputed L t := by
  unfold Disputed
  rw [standing_append_of_ne h]

theorem disputed_append_self : S.Disputed (L ++ [f]) (S.time f) ↔ S.time f ∈ S.times L := by
  unfold Disputed
  rw [standing_append_self, List.length_append, List.length_singleton, Nat.lt_add_left_iff_pos, List.length_pos_iff,
    ne_eq, standing_eq_nil_iff, not_not]

theorem span_of_disputed (h : S.Disputed L (S.time f)) : S.span L f = ⟨S.time f, some (S.time f), true⟩ := if_pos h

theorem span_of_not_disputed (h : ¬S.Disputed L (S.time f)) :
    S.span L f = ⟨S.time f, nextAnchor (S.times L) (S.time f), false⟩ := if_neg h

section Append
variable {g : F}

theorem span_append_same (ht : S.time f ∈ S.times L) (hg : S.time g = S.time f) :
    S.span (L ++ [f]) g = ⟨S.time g, some (S.time g), true⟩ :=
  span_of_disputed (hg ▸ disputed_append_self.mpr ht)

theorem span_append_other (ht : S.time f ∈ S.times L) (hg : S.time g ≠ S.time f) :
    S.span (L ++ [f]) g = S.span L g := by
  have hanchor : nextAnchor (S.times (L ++ [f])) (S.time g) = nextAnchor (S.times L) (S.time g) :=
    nextAnchor_congr fun a => by
      rw [times_append, List.mem_append, List.mem_singleton, or_iff_left_of_imp]
      rintro rfl
      exact ht
  simp only [span, disputed_append_of_ne hg.symm, hanchor]

theorem span_append_free (ht : S.time f ∉ S.times L) :
    S.span (L ++ [f]) f = ⟨S.time f, nextAnchor (S.times L) (S.time f), false⟩ := by
  rw [span_of_not_disputed (fun h => ht (disputed_append_self.mp h)), times_append, nextAnchor_append_self]

theorem span_append_previous (hp : previousAnchor (S.times L) (S.time f) = some (S.time g))
    (hd : ¬S.Disputed L (S.time g)) : S.span (L ++ [f]) g = ⟨S.time g, some (S.time f), false⟩ := by
  have hne : S.time f ≠ S.time g := (previousAnchor_lt hp).ne'
  rw [span_of_not_disputed (fun h => hd ((disputed_append_of_ne hne).mp h)), times_append,
    nextAnchor_append_previous hp]

theorem span_append_kept (ht : S.time f ∉ S.times L) (hg : g ∈ L)
    (hp : previousAnchor (S.times L) (S.time f) ≠ some (S.time g) ∨ S.Disputed L (S.time g)) :
    S.span (L ++ [f]) g = S.span L g := by
  have hmem : S.time g ∈ S.times L := mem_times.mpr ⟨g, hg, rfl⟩
  have hne : S.time f ≠ S.time g := fun h => ht (h ▸ hmem)
  by_cases hd : S.Disputed L (S.time g)
  · rw [span_of_disputed hd, span_of_disputed ((disputed_append_of_ne hne).mpr hd)]
  · rw [span_of_not_disputed hd, span_of_not_disputed (fun h => hd ((disputed_append_of_ne hne).mp h)), times_append,
      nextAnchor_append_other hmem (hp.resolve_right hd)]

end Append

theorem holds_iff (hf : f ∈ L) :
    (S.span L f).Holds t ↔ lastAnchor (S.times L) t = some (S.time f) ∧ ¬S.Disputed L (S.time f) := by
  rw [lastAnchor_eq_iff (mem_times.mpr ⟨f, hf, rfl⟩)]
  by_cases hd : S.Disputed L (S.time f)
  · rw [span_of_disputed hd]
    exact ⟨fun h => absurd h.1 (by simp), fun h => absurd hd h.2⟩
  · rw [span_of_not_disputed hd]
    exact ⟨fun h => ⟨h.2, hd⟩, fun h => ⟨rfl, h.1⟩⟩

variable [DecidableEq K]

theorem standing_offer_of_ne (h : S.time c ≠ t) : S.standing (S.offer L c) t = S.standing L t := by
  unfold offer
  split
  · rfl
  · simp [standing, List.filter_append, S.time_store, h]

theorem standing_offer_of_eq (h : S.time c = t) : S.standing (S.offer L c) t = S.offer (S.standing L t) c := by
  by_cases hm : ∃ f ∈ L, S.key f = S.key c
  · obtain ⟨f, hf, hk⟩ := hm
    rw [offer_of_mem hf hk, offer_of_mem (mem_standing.mpr ⟨hf, (S.time_of_key hk).trans h⟩) hk]
  · rw [offer_of_not_mem fun f hf hk => hm ⟨f, hf, hk⟩,
      offer_of_not_mem fun f hf hk => hm ⟨f, (mem_standing.mp hf).1, hk⟩]
    simp [standing, List.filter_append, S.time_store, h]

theorem standing_offers : S.standing (S.offers L cs) t = S.offers (S.standing L t) (S.standing cs t) := by
  induction cs generalizing L with
  | nil => rfl
  | cons c cs ih =>
    rw [offers_cons, ih]
    by_cases h : S.time c = t
    · rw [standing_offer_of_eq h]
      simp [standing, h]
    · rw [standing_offer_of_ne h]
      simp [standing, h]

theorem disputed_offers_iff {rest : List F} (h : S.standing cs t = c :: rest) :
    S.Disputed (S.offers [] cs) t ↔ ∃ d ∈ rest, S.key d ≠ S.key (S.store c) := by
  have hnil : S.offer [] c = [S.store c] := offer_of_not_mem fun f hf => by cases hf
  unfold Disputed
  rw [standing_offers, h, show S.standing ([] : List F) t = [] from rfl, offers_cons, hnil]
  exact one_lt_offers_iff

theorem not_disputed_of_standing_nil (h : S.standing cs t = []) : ¬S.Disputed (S.offers [] cs) t := by
  unfold Disputed
  rw [standing_offers, h, show S.standing ([] : List F) t = [] from rfl]
  simp

/-- The one fact at an undisputed instant is the stored form of the first one offered there. -/
theorem standing_eq_of_not_disputed {rest : List F} (h : S.standing cs t = c :: rest)
    (hd : ¬S.Disputed (S.offers [] cs) t) : S.standing (S.offers [] cs) t = [S.store c] := by
  have hnil : S.offer [] c = [S.store c] := offer_of_not_mem fun f hf => by cases hf
  unfold Disputed at hd
  rw [standing_offers, h, show S.standing ([] : List F) t = [] from rfl, offers_cons, hnil] at hd ⊢
  have hmem : S.store c ∈ S.offers [S.store c] rest := subset_offers List.mem_cons_self
  match hs : S.offers [S.store c] rest with
  | [] => rw [hs] at hmem; cases hmem
  | [x] => rw [hs] at hmem; rw [List.mem_singleton.mp hmem]
  | x :: y :: l => rw [hs] at hd; exact absurd (by simp) hd

/-! ### Two orders of arrival -/

/-- Two ledgers of the same offers show the same picture once the same instants are disputed. -/
theorem picture_eq_iff {xs ys : List F} (hperm : xs.Perm ys) :
    S.picture (S.offers [] xs) = S.picture (S.offers [] ys) ↔
      ∀ t, S.Disputed (S.offers [] xs) t ↔ S.Disputed (S.offers [] ys) t := by
  -- One inclusion of either direction; the other follows by symmetry.
  have keys : ∀ {xs ys : List F}, xs.Perm ys → ∀ f ∈ S.offers [] xs, ∃ g ∈ S.offers [] ys, S.key g = S.key f := by
    intro xs ys hp f hf
    obtain ⟨c, hc, hk⟩ := key_offers_iff.mp ⟨f, hf, rfl⟩
    exact key_offers_iff.mpr ⟨c, hp.mem_iff.mp hc, hk⟩
  have disp : ∀ {xs ys : List F}, S.picture (S.offers [] xs) = S.picture (S.offers [] ys) →
      ∀ t, S.Disputed (S.offers [] xs) t → S.Disputed (S.offers [] ys) t := by
    intro xs ys heq t ht
    obtain ⟨f, hft⟩ : ∃ f, f ∈ S.standing (S.offers [] xs) t := List.exists_mem_of_length_pos (Nat.lt_of_succ_lt ht)
    obtain ⟨hf, rfl⟩ := mem_standing.mp hft
    have hmem : (S.key f, S.span (S.offers [] xs) f) ∈ S.picture (S.offers [] ys) := heq ▸ ⟨f, hf, rfl⟩
    obtain ⟨g, -, hg⟩ := hmem
    obtain ⟨hk, hs⟩ := Prod.mk.inj hg
    rw [S.time_of_key hk]
    exact span_disputed.mp (hs ▸ span_disputed.mpr ht)
  have sub : ∀ {xs ys : List F}, xs.Perm ys →
      (∀ t, S.Disputed (S.offers [] xs) t ↔ S.Disputed (S.offers [] ys) t) →
      S.picture (S.offers [] xs) ⊆ S.picture (S.offers [] ys) := by
    rintro xs ys hp hd _ ⟨f, hf, rfl⟩
    obtain ⟨g, hg, hk⟩ := keys hp f hf
    refine ⟨g, hg, Prod.ext hk.symm ?_⟩
    have hn : nextAnchor (S.times (S.offers [] xs)) (S.time f) = nextAnchor (S.times (S.offers [] ys)) (S.time f) :=
      nextAnchor_congr fun a => by rw [times_offers, times_offers]; exact (hp.map S.time).mem_iff
    simp only [span, S.time_of_key hk, hd, hn]
  exact ⟨fun h t => ⟨disp h t, disp h.symm t⟩,
    fun h => Set.Subset.antisymm (sub hperm h) (sub hperm.symm fun t => (h t).symm)⟩

/-- At some instant one fact that storing changes arrives along with only its stored form. -/
def Clashes (S : Scheme F K T) (cs : List F) : Prop :=
  ∃ t x rest, (S.standing cs t).Perm (x :: rest) ∧ rest ≠ [] ∧ ¬S.Exact x ∧ ∀ d ∈ rest, S.key d = S.key (S.store x)

/-- Without a clash, whether an instant is disputed does not depend on the order of arrival. -/
theorem disputed_of_perm {xs ys : List F} (hperm : xs.Perm ys) (hx : ¬S.Clashes xs)
    (hd : S.Disputed (S.offers [] xs) t) : S.Disputed (S.offers [] ys) t := by
  cases hxt : S.standing xs t with
  | nil => exact absurd hd (not_disputed_of_standing_nil hxt)
  | cons c rest =>
    have hp : (c :: rest).Perm (S.standing ys t) := hxt ▸ standing_perm hperm
    obtain ⟨d, hd, hne⟩ := (disputed_offers_iff hxt).mp hd
    cases hyt : S.standing ys t with
    | nil => exact absurd (hyt ▸ hp) List.not_perm_cons_nil
    | cons e rest' =>
      rw [hyt] at hp
      refine (disputed_offers_iff hyt).mpr ?_
      by_contra hall
      push Not at hall
      -- Every other fact is the stored form of `e`; were `e` exact, so would all of them be.
      have hrest : rest' ≠ [] := by
        rintro rfl
        obtain ⟨-, rfl⟩ := List.cons.inj (List.perm_singleton.mp hp)
        cases hd
      have hex : S.Exact e := by
        by_contra hex
        exact hx ⟨t, e, rest', hxt ▸ hp, hrest, hex, hall⟩
      have key_e : ∀ z ∈ e :: rest', S.key z = S.key e := by
        intro z hz
        rcases List.mem_cons.mp hz with rfl | hz
        · rfl
        · exact (hall z hz).trans hex
      have hc := key_e c (hp.mem_iff.mp List.mem_cons_self)
      have hd' := key_e d (hp.mem_iff.mp (List.mem_cons_of_mem _ hd))
      exact hne (hd'.trans (hc.symm.trans (S.exact_of_key (hex.trans hc.symm)).symm))

omit [DecidableEq K] in
theorem Clashes.of_perm {xs ys : List F} (hperm : xs.Perm ys) (h : S.Clashes xs) : S.Clashes ys := by
  obtain ⟨t, x, rest, hp, hrest⟩ := h
  exact ⟨t, x, rest, (standing_perm hperm.symm).trans hp, hrest⟩

theorem picture_perm_iff :
    (∀ xs ys : List F, xs.Perm cs → ys.Perm cs → S.picture (S.offers [] xs) = S.picture (S.offers [] ys)) ↔
      ¬S.Clashes cs := by
  constructor
  · rintro h ⟨t, x, rest, hp, hrest, hex, hall⟩
    obtain ⟨y, rest', rfl⟩ := List.exists_cons_of_ne_nil hrest
    -- The rest of the ledger's offers, in any order, before those of `t`.
    have hsplit : ∀ zs : List F, zs.Perm (S.standing cs t) → ((cs.filter (S.time · ≠ t)) ++ zs).Perm cs := by
      intro zs hzs
      refine (List.Perm.append_left _ hzs).trans (List.perm_append_comm.trans ?_)
      simpa [standing] using List.filter_append_perm (fun f => decide (S.time f = t)) cs
    have hat : ∀ zs : List F, zs.Perm (S.standing cs t) → S.standing ((cs.filter (S.time · ≠ t)) ++ zs) t = zs := by
      intro zs hzs
      have hz : ∀ z ∈ zs, S.time z = t := fun z hz => (mem_standing.mp (hzs.mem_iff.mp hz)).2
      simp only [standing, List.filter_append, List.filter_filter]
      rw [List.filter_eq_nil_iff.mpr (by simp), List.nil_append, List.filter_eq_self.mpr (by simpa using hz)]
    have hp₁ : (x :: y :: rest').Perm (S.standing cs t) := hp.symm
    have hp₂ : (y :: x :: rest').Perm (S.standing cs t) := (List.Perm.swap x y rest').trans hp.symm
    have heq := (picture_eq_iff ((hsplit _ hp₁).trans (hsplit _ hp₂).symm)).mp
      (h _ _ (hsplit _ hp₁) (hsplit _ hp₂)) t
    -- First `x`, then only its stored form: one fact. First the stored form, then `x`: two.
    have hone : ¬S.Disputed (S.offers [] (cs.filter (S.time · ≠ t) ++ x :: y :: rest')) t := by
      rw [disputed_offers_iff (hat _ hp₁)]
      rintro ⟨d, hd, hne⟩
      exact hne (hall d hd)
    refine hone (heq.mpr ((disputed_offers_iff (hat _ hp₂)).mpr ⟨x, List.mem_cons_self, fun hk => hex ?_⟩))
    have hy := hall y List.mem_cons_self
    exact hy.symm.trans ((S.exact_of_key hy.symm).symm.trans hk.symm)
  · intro h xs ys hx hy
    have hxy := hx.trans hy.symm
    refine (picture_eq_iff hxy).mpr fun t => ⟨disputed_of_perm hxy fun hc => h (hc.of_perm hx),
      disputed_of_perm hxy.symm fun hc => h (hc.of_perm hy)⟩

end Standing

/-! ### Ledgers with the same keys -/

section SameKeys
variable {S} {xs ys : List F} {f g : F} {t : T}

theorem map_perm_of_key {β : Type} {w : F → β} (hw : ∀ {f g}, S.key f = S.key g → w f = w g)
    (h : (xs.map S.key).Perm (ys.map S.key)) : (xs.map w).Perm (ys.map w) := by
  have hfactor : (some ∘ w).FactorsThrough S.key := fun a b hk => congrArg some (hw hk)
  have hmap : ∀ L : List F, (L.map w).map some = (L.map S.key).map (Function.extend S.key (some ∘ w) fun _ => none) := by
    intro L
    simp only [List.map_map, Function.comp_def]
    exact List.map_congr_left fun f _ => (hfactor.extend_apply (fun _ => none) f).symm
  refine (List.map_perm_map_iff (Option.some_injective β)).mp ?_
  rw [hmap, hmap]
  exact h.map _

section Keys
variable [DecidableEq K] {cs : List F}

theorem nodup_offers (hxs : (xs.map S.key).Nodup) (hex : ∀ c ∈ cs, S.Exact c) :
    ((S.offers xs cs).map S.key).Nodup := by
  induction cs generalizing xs with
  | nil => exact hxs
  | cons c cs ih =>
    refine ih ?_ fun d hd => hex d (List.mem_cons_of_mem _ hd)
    by_cases hc : ∃ f ∈ xs, S.key f = S.key c
    · rwa [offer, if_pos hc]
    · rw [offer, if_neg hc, List.map_append, List.map_singleton, hex c List.mem_cons_self]
      refine List.nodup_append.mpr ⟨hxs, List.pairwise_singleton _ _, fun a ha b hb heq => hc ?_⟩
      obtain ⟨f, hf, rfl⟩ := List.mem_map.mp ha
      exact ⟨f, hf, heq.trans (List.mem_singleton.mp hb)⟩

theorem offers_perm (hxs : (xs.map S.key).Nodup) (hex : ∀ c ∈ cs, S.Exact c)
    (hkeys : ∀ k, k ∈ xs.map S.key ↔ k ∈ cs.map S.key) : (xs.map S.key).Perm ((S.offers [] cs).map S.key) := by
  have hoffers := nodup_offers (show (([] : List F).map S.key).Nodup from List.nodup_nil) hex
  refine (List.perm_ext_iff_of_nodup hxs hoffers).mpr fun k => ?_
  rw [hkeys, List.mem_map, List.mem_map, key_offers_iff]
  exact exists_congr fun c => and_congr_right fun hc => by rw [hex c hc]

end Keys

variable [LinearOrder T]

theorem disputed_iff_count : S.Disputed xs t ↔ 1 < (S.times xs).count t := by
  rw [Disputed, standing, times, List.count, List.countP_map, List.countP_eq_length_filter]
  simp only [Function.comp_def, beq_eq_decide]

theorem span_congr (h : (xs.map S.key).Perm (ys.map S.key)) (hk : S.key f = S.key g) : S.span xs f = S.span ys g := by
  have htimes : (S.times xs).Perm (S.times ys) := map_perm_of_key S.time_of_key h
  have hdisp : S.Disputed xs (S.time g) ↔ S.Disputed ys (S.time g) := by
    rw [disputed_iff_count, disputed_iff_count, htimes.count_eq]
  have hnext : nextAnchor (S.times xs) (S.time g) = nextAnchor (S.times ys) (S.time g) :=
    nextAnchor_congr fun _ => htimes.mem_iff
  simp only [span, S.time_of_key hk, hdisp, hnext]

theorem shown_perm (h : (xs.map S.key).Perm (ys.map S.key)) :
    (xs.map fun f => (S.key f, S.span xs f)).Perm (ys.map fun f => (S.key f, S.span ys f)) := by
  have hxs : (xs.map fun f => (S.key f, S.span xs f)) = xs.map fun f => (S.key f, S.span ys f) :=
    List.map_congr_left fun f _ => by rw [span_congr h rfl]
  rw [hxs]
  exact map_perm_of_key (fun hk => Prod.ext hk (span_congr (List.Perm.refl _) hk)) h

end SameKeys
end Scheme
end CestaPlan.Ledger
