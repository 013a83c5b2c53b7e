import CestaPlan.Library.Dict
import CestaPlan.Library.Grouping
import Mathlib.Algebra.BigOperators.Group.Finset.Basic
import Mathlib.Algebra.BigOperators.Group.Finset.Piecewise
import Mathlib.Algebra.BigOperators.Group.List.Basic

/-! Dictionaries of amounts, with what the amounts add up to, and dictionaries of lists, filled with the items of a list under their
    keys. -/

namespace CestaPlan

/-- A loop each of whose steps adds to a measure adds the sum of what the steps add. -/
theorem foldl_measure {σ β M : Type} [AddCommMonoid M] (measure : σ → M) (step : σ → β → σ) (amount : β → M) {xs : List β}
    (h : ∀ s, ∀ x ∈ xs, measure (step s x) = measure s + amount x) (s : σ) :
    measure (xs.foldl step s) = measure s + (xs.map amount).sum := by
  induction xs generalizing s with
  | nil => simp
  | cons x xs ih =>
    rw [List.foldl_cons, ih fun s y hy => h s y (List.mem_cons_of_mem _ hy), h s x List.mem_cons_self, List.map_cons,
      List.sum_cons, add_assoc]

namespace Dict
variable {K M : Type} [DecidableEq K] [AddCommMonoid M]

/-- `d[k] += x`, where what is not there is zero. -/
def bump (d : Dict K M) (k : K) (x : M) : Dict K M := d.set k (d.getD k 0 + x)

def tally (d : Dict K M) (xs : List (K × M)) : Dict K M := xs.foldl (fun d x => d.bump x.1 x.2) d

variable {d : Dict K M} {k k' : K} {x : M} {s : Finset K}

theorem getD_bump : (d.bump k x).getD k' 0 = d.getD k' 0 + if k' = k then x else 0 := by
  rw [bump, getD, get?_set]
  by_cases h : k' = k
  · simp [h]
  · simp [h, getD]

theorem sum_bump (hk : k ∈ s) : ∑ i ∈ s, (d.bump k x).getD i 0 = ∑ i ∈ s, d.getD i 0 + x := by
  simp only [getD_bump, Finset.sum_add_distrib, Finset.sum_ite_eq', if_pos hk]

theorem sum_tally {xs : List (K × M)} (h : ∀ p ∈ xs, p.1 ∈ s) :
    ∑ i ∈ s, (d.tally xs).getD i 0 = ∑ i ∈ s, d.getD i 0 + (xs.map Prod.snd).sum :=
  foldl_measure (fun d => ∑ i ∈ s, Dict.getD d i 0) _ Prod.snd (fun _ p hp => sum_bump (h p hp)) d

theorem sum_entries (d : Dict K M) : (d.entries.map Prod.snd).sum = ∑ i ∈ d.keys.toFinset, d.getD i 0 := by
  rw [keys, List.sum_toFinset _ d.nodup, List.map_map]
  congr 1
  refine List.map_congr_left fun p hp => ?_
  rw [Function.comp_apply, getD, mem_entries_iff.mp hp, Option.getD_some]

theorem mem_keys_tally {xs : List (K × M)} {k : K} : k ∈ (d.tally xs).keys ↔ k ∈ d.keys ∨ k ∈ xs.map Prod.fst := by
  induction xs generalizing d with
  | nil => simp [tally]
  | cons p xs ih =>
    rw [tally, List.foldl_cons, ← tally, ih, bump, mem_keys_set, List.map_cons, List.mem_cons]
    tauto

theorem sum_entries_tally (xs : List (K × M)) :
    (((empty : Dict K M).tally xs).entries.map Prod.snd).sum = (xs.map Prod.snd).sum := by
  rw [sum_entries, sum_tally]
  · simp [getD]
  · intro p hp
    exact List.mem_toFinset.mpr (mem_keys_tally.mpr (.inr (List.mem_map_of_mem hp)))

end Dict
end CestaPlan

namespace CestaPlan.Buckets
variable {α K V : Type} [DecidableEq K]

/-- `d[k].append(v)`, where what is not there is an empty list. -/
def push (d : Dict K (List V)) (k : K) (v : V) : Dict K (List V) := d.set k (d.getD k [] ++ [v])

def buckets (key : α → K) (value : α → V) (xs : List α) : Dict K (List V) :=
  xs.foldl (fun d x => push d (key x) (value x)) Dict.empty

variable {ks : List K} {k : K}

theorem lookup_map (f : K → V) : (ks.map fun i => (i, f i)).lookup k = if k ∈ ks then some (f k) else none := by
  induction ks with
  | nil => rfl
  | cons i ks ih =>
    by_cases h : k = i
    · subst h
      simp
    · rw [List.map_cons, Dict.lookup_cons_of_ne h, ih]
      simp [h]

theorem setEntries_map (f : K → V) (hks : ks.Nodup) (v : V) : Dict.setEntries k v (ks.map fun i => (i, f i)) =
    (ks ++ if k ∈ ks then [] else [k]).map fun i => (i, Function.update f k v i) := by
  induction ks with
  | nil => simp [Dict.setEntries]
  | cons i ks ih =>
    obtain ⟨hi, hks⟩ := List.nodup_cons.mp hks
    rw [List.map_cons, Dict.setEntries]
    by_cases h : i = k
    · subst h
      have hrest : ks.map (fun j => (j, Function.update f i v j)) = ks.map fun j => (j, f j) :=
        List.map_congr_left fun j hj => by
          have hne : j ≠ i := fun heq => hi (heq ▸ hj)
          rw [Function.update_of_ne hne]
      simp [hrest]
    · have h' : k ≠ i := Ne.symm h
      rw [if_neg h, ih hks]
      simp [h', h]

theorem eraseDups_concat (ks : List K) (k : K) :
    (ks ++ [k]).eraseDups = ks.eraseDups ++ if k ∈ ks.eraseDups then [] else [k] := by
  rw [List.eraseDups_append]
  by_cases h : k ∈ ks
  · have hnone : [k].removeAll ks = [] := List.filter_cons_of_neg (by simp [h])
    simp [hnone, h]
  · have hkeep : [k].removeAll ks = [k] := List.filter_cons_of_pos (by simp [h])
    simp [hkeep, h, List.eraseDups_cons]

variable {key : α → K} {value : α → V} {xs : List α}

/-- The keys come in the order of their first items, each with the values of its items. -/
theorem entries_buckets : (buckets key value xs).entries =
    (xs.map key).eraseDups.map fun k => (k, (Grouping.group key xs k).map value) := by
  induction xs using List.reverseRecOn with
  | nil => rfl
  | append_singleton xs x ih =>
    have hgroup : (fun k => (Grouping.group key (xs ++ [x]) k).map value) =
        Function.update (fun k => (Grouping.group key xs k).map value) (key x)
          ((Grouping.group key xs (key x)).map value ++ [value x]) := by
      funext k
      by_cases h : k = key x
      · subst h
        simp [Grouping.group]
      · rw [Function.update_of_ne h]
        simp [Grouping.group, Ne.symm h]
    have hgetD : (buckets key value xs).getD (key x) [] = (Grouping.group key xs (key x)).map value := by
      rw [Dict.getD, Dict.get?, ih, lookup_map fun k => (Grouping.group key xs k).map value]
      by_cases h : key x ∈ xs.map key
      · simp [h]
      · rw [if_neg (by rwa [List.mem_eraseDups]), Grouping.group_eq_nil h]
        rfl
    have hentries : (buckets key value (xs ++ [x])).entries = Dict.setEntries (key x)
        ((buckets key value xs).getD (key x) [] ++ [value x]) (buckets key value xs).entries := by
      rw [buckets, List.foldl_append]
      rfl
    have hkeys : ((xs ++ [x]).map key).eraseDups =
        (xs.map key).eraseDups ++ if key x ∈ (xs.map key).eraseDups then [] else [key x] := by
      rw [List.map_append]
      exact eraseDups_concat _ _
    rw [hentries, hgetD, ih, setEntries_map (fun k => (Grouping.group key xs k).map value) (Grouping.eraseDups_nodup _),
      hkeys, ← hgroup]

variable (key) in
theorem entries_disjoint (h : (xs.map value).Nodup) :
    ((buckets key value xs).entries.map Prod.snd).Pairwise List.Disjoint ∧
      ∀ vs ∈ (buckets key value xs).entries.map Prod.snd, vs.Nodup ∧ vs ⊆ xs.map value := by
  rw [entries_buckets, List.map_map]
  constructor
  · refine List.pairwise_map.mpr ((Grouping.eraseDups_nodup _).imp fun {k k'} hne v hv hv' => hne ?_)
    obtain ⟨x, hx, rfl⟩ := List.mem_map.mp hv
    obtain ⟨x', hx', heq⟩ := List.mem_map.mp hv'
    have hg := Grouping.mem_group.mp hx
    have hg' := Grouping.mem_group.mp hx'
    rw [← hg.2, ← hg'.2, List.inj_on_of_nodup_map h hg.1 hg'.1 heq.symm]
  · intro vs hvs
    obtain ⟨k, -, rfl⟩ := List.mem_map.mp hvs
    have hsub : ((Grouping.group key xs k).map value).Sublist (xs.map value) := List.filter_sublist.map _
    exact ⟨h.sublist hsub, hsub.subset⟩

theorem sum_push {M : Type} [AddCommMonoid M] (amount : V → M) (d : Dict K (List V)) (k : K) (v : V) :
    ((push d k v).entries.map fun e => (e.2.map amount).sum).sum = (d.entries.map fun e => (e.2.map amount).sum).sum + amount v := by
  show ((Dict.setEntries k (((d.entries.lookup k).getD []) ++ [v]) d.entries).map fun e => (e.2.map amount).sum).sum = _
  induction d.entries with
  | nil => simp [Dict.setEntries]
  | cons e l ih =>
    obtain ⟨k', vs⟩ := e
    rw [Dict.setEntries]
    by_cases h : k' = k
    · subst h
      simp [add_right_comm]
    · rw [if_neg h, Dict.lookup_cons_of_ne (Ne.symm h), List.map_cons, List.sum_cons, ih, List.map_cons, List.sum_cons, add_assoc]

end CestaPlan.Buckets
