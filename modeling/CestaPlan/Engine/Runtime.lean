import CestaPlan.Library.Numeric
import CestaPlan.Library.Text

/-! What the engine takes from Python: lower case, the rounding of the decimal context, and the random source.

    The engine is modelled over any of these. Decimals are rationals; every arithmetic operation on them is
    the exact one followed by the context's rounding, while comparisons, `min` and conversions are exact. -/

namespace CestaPlan.Engine
open Text

structure Runtime where
  /-- `str.lower` -/
  lower : String → String
  lower_empty : lower "" = ""
  lower_strip : ∀ s, lower (strip (lower (strip s))) = lower (strip s)
  /-- Rounding to the precision of the decimal context. -/
  round : ℚ → ℚ
  RandomState : Type
  /-- `random.Random(seed)` -/
  random : Int → RandomState
  /-- `Random._randbelow(n)` -/
  randbelow : Nat → RandomState → Nat × RandomState

namespace Runtime
variable (py : Runtime)

def add (x y : ℚ) : ℚ := py.round (x + y)

def sub (x y : ℚ) : ℚ := py.round (x - y)

def mul (x y : ℚ) : ℚ := py.round (x * y)

def div (x y : ℚ) : ℚ := py.round (x / y)

/-- `abs(x)` -/
def abs (x : ℚ) : ℚ := py.round |x|

def sum (xs : List ℚ) : ℚ := xs.foldl py.add 0

/-- `s.strip().lower()` -/
def fold (s : String) : String := py.lower (strip s)

theorem fold_fold (s : String) : py.fold (py.fold s) = py.fold s := py.lower_strip s

/-! ### Exact decimals -/

section Exact
variable {py : Runtime}

theorem add_exact (hexact : py.round = id) (x y : ℚ) : py.add x y = x + y := by simp [add, hexact]

theorem sub_exact (hexact : py.round = id) (x y : ℚ) : py.sub x y = x - y := by simp [sub, hexact]

theorem mul_exact (hexact : py.round = id) (x y : ℚ) : py.mul x y = x * y := by simp [mul, hexact]

theorem div_exact (hexact : py.round = id) (x y : ℚ) : py.div x y = x / y := by simp [div, hexact]

end Exact

/-! ### Sums that are held -/

/-- No part of the list adds up to what the context rounds. -/
def Holds (xs : List ℚ) : Prop := ∀ ys : List ℚ, ys.Sublist xs → py.round ys.sum = ys.sum

section Held
variable {py : Runtime} {xs ys : List ℚ}

theorem Holds.sublist (h : py.Holds xs) (hsub : ys.Sublist xs) : py.Holds ys := fun zs hzs => h zs (hzs.trans hsub)

theorem Holds.sum_eq (h : py.Holds xs) : py.sum xs = xs.sum := by
  unfold sum
  induction xs using List.reverseRecOn with
  | nil => rfl
  | append_singleton xs x ih =>
    have hlast : (xs ++ [x]).sum = xs.sum + x := by rw [List.sum_append, List.sum_singleton]
    have hadd : py.add xs.sum x = (xs ++ [x]).sum := by
      rw [add, ← hlast]
      exact h _ (List.Sublist.refl _)
    rw [List.foldl_append, List.foldl_cons, List.foldl_nil, ih (h.sublist (List.sublist_append_left _ _)), hadd]

theorem holds_of_exact (hexact : py.round = id) (xs : List ℚ) : py.Holds xs := fun ys _ => congrFun hexact ys.sum

end Held

/-- The decimal context keeps 28 digits: rounding to them moves a value by less than one part in 10 ^ 27. -/
def Precise : Prop := ∀ x, |py.round x - x| ≤ |x| / 10 ^ (Numeric.contextPrec - 1)

section Shuffle
variable {α : Type}

/-- `x[i], x[j] = x[j], x[i]` -/
def swap (x : List α) (i j : Nat) : List α := (x.toArray.swapIfInBounds i j).toList

/-- The exchanges of `shuffle` at the positions from `i` down to 1. -/
def shuffleFrom : Nat → List α → py.RandomState → List α × py.RandomState
  | 0, x, s => (x, s)
  | i + 1, x, s =>
    let (j, s) := py.randbelow (i + 2) s
    shuffleFrom i (swap x (i + 1) j) s

def shuffle (x : List α) (s : py.RandomState) : List α × py.RandomState := py.shuffleFrom (x.length - 1) x s

theorem swap_perm (x : List α) (i j : Nat) : (swap x i j).Perm x := by
  unfold swap Array.swapIfInBounds
  split
  · split
    · exact Array.perm_iff_toList_perm.mp (Array.swap_perm _ _)
    · exact List.Perm.refl _
  · exact List.Perm.refl _

theorem shuffleFrom_perm (i : Nat) (x : List α) (s : py.RandomState) : (py.shuffleFrom i x s).1.Perm x := by
  induction i generalizing x s with
  | zero => exact List.Perm.refl _
  | succ i ih => exact (ih _ _).trans (swap_perm x (i + 1) _)

theorem shuffle_perm (x : List α) (s : py.RandomState) : (py.shuffle x s).1.Perm x := py.shuffleFrom_perm _ x s

end Shuffle

/-- Exact decimals, ASCII text, and a random source that gives the listed draws whatever the seed. -/
def replay (draws : List Nat) : Runtime where
  lower := lowerAscii
  lower_empty := rfl
  lower_strip := lowerAscii_strip
  round := id
  RandomState := List Nat
  random _ := draws
  randbelow n s := ((s.headD 0) % n, s.tail)

/-- Decimals of 28 digits. -/
def decimals : Runtime := { replay [] with round := Numeric.roundContext }

end Runtime
end CestaPlan.Engine
