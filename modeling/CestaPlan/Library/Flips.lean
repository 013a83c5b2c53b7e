import Mathlib.Data.List.Count
import Mathlib.Data.Nat.Bits
import Mathlib.Logic.Function.Basic

/-! Flips of a table of bits. The order in which they are made does not matter, so a table that lags behind another one is
    described by the flips that are still due to it. -/

namespace CestaPlan.Flips
variable {ι : Type} [DecidableEq ι] {bits target : ι → Bool} {due due' : List ι} {i j : ι}

def flipAt (bits : ι → Bool) (i : ι) : ι → Bool := Function.update bits i (!bits i)

def replay (bits : ι → Bool) (flips : List ι) : ι → Bool := flips.foldl flipAt bits

@[simp] theorem flipAt_same : flipAt bits i i = !bits i := Function.update_self ..

theorem flipAt_of_ne (h : j ≠ i) : flipAt bits i j = bits j := Function.update_of_ne h ..

@[simp] theorem replay_nil : replay bits [] = bits := rfl

@[simp] theorem replay_cons : replay bits (i :: due) = replay (flipAt bits i) due := rfl

@[simp] theorem replay_append : replay bits (due ++ due') = replay (replay bits due) due' := List.foldl_append

theorem replay_apply : replay bits due i = (bits i ^^ (due.count i).bodd) := by
  induction due generalizing bits with
  | nil => simp
  | cons j due ih =>
    rw [replay_cons, ih, List.count_cons]
    rcases eq_or_ne j i with rfl | hne
    · simp [Nat.bodd_succ]
    · simp [hne, flipAt_of_ne hne.symm]

theorem replay_perm (h : due.Perm due') : replay bits due = replay bits due' := by
  funext i
  rw [replay_apply, replay_apply, h.count_eq]

theorem flipAt_replay : flipAt (replay bits due) i = replay (flipAt bits i) due := by
  have h : replay bits _ = replay bits _ := replay_perm (List.perm_append_singleton i due)
  rw [replay_append] at h
  exact h

/-- The bits are those of the target once the due flips are made. -/
def Due (bits : ι → Bool) (due : List ι) (target : ι → Bool) : Prop := replay bits due = target

theorem Due.perm (h : Due bits due target) (hperm : due.Perm due') : Due bits due' target :=
  (replay_perm hperm).symm.trans h

theorem Due.owe (h : Due bits due target) (i : ι) : Due bits (i :: due) (flipAt target i) := by
  unfold Due at h ⊢
  rw [replay_cons, ← flipAt_replay, h]

theorem Due.settle (h : Due bits (i :: due) target) : Due (flipAt bits i) due target := h

theorem Due.eq (h : Due bits [] target) : bits = target := h

end CestaPlan.Flips
