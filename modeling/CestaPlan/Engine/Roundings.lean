import CestaPlan.Engine.LineUnits
import CestaPlan.Library.Pairing
import CestaPlan.Library.RoundedSums

/-! How far the roundings of the decimal context take what is converted and added up. The same lines are reached whatever is rounded,
    and each quantity stays near the exact one. -/

namespace CestaPlan.Engine
open RelatedOptions RoundedSums

/-- The same text and random source, with exact decimals. -/
def Runtime.exact (py : Runtime) : Runtime := { py with round := id }

/-- One part in 10 ^ 27. -/
def contextUnit : ℚ := 1 / 10 ^ (Numeric.contextPrec - 1)

theorem contextUnit_nonneg : 0 ≤ contextUnit := by
  unfold contextUnit
  positivity

section Rounding
variable {py : Runtime}

theorem abs_round_sub_le (hround : py.round = Numeric.roundContext) (x : ℚ) : |py.round x - x| ≤ contextUnit * |x| := by
  rw [hround]
  exact (Numeric.abs_roundContext_sub_le x).trans_eq (by rw [contextUnit, one_div, div_eq_inv_mul])

theorem round_nonneg (hround : py.round = Numeric.roundContext) {x : ℚ} (hx : 0 ≤ x) : 0 ≤ py.round x := by
  have herror := (abs_le.mp (abs_round_sub_le hround x)).1
  have hsmall : contextUnit * |x| ≤ 1 * |x| :=
    mul_le_mul_of_nonneg_right (by norm_num [contextUnit, Numeric.contextPrec]) (abs_nonneg x)
  rw [abs_of_nonneg hx] at herror hsmall
  linarith

end Rounding

/-! ### Conversions -/

section Conversions
variable {py : Runtime} {n : ℕ} {a x : ℚ}

/-- `a` is `x` after at most `n` roundings. -/
def NearOf (n : ℕ) (a x : ℚ) : Prop := Near contextUnit n |x| a x

theorem NearOf.refl : NearOf n x x := Near.refl contextUnit_nonneg x

theorem NearOf.mono {m : ℕ} (h : NearOf n a x) (hn : n ≤ m) : NearOf m a x := Near.mono contextUnit_nonneg h hn

theorem NearOf.mul (hround : py.round = Numeric.roundContext) (h : NearOf n a x) (c : ℚ) :
    NearOf (n + 1) (py.mul a c) (py.exact.mul x c) := by
  have hmul := (Near.mul h c).round (abs_round_sub_le hround) contextUnit_nonneg
  rw [← abs_mul] at hmul
  exact hmul

theorem NearOf.div (hround : py.round = Numeric.roundContext) (h : NearOf n a x) (c : ℚ) :
    NearOf (n + 1) (py.div a c) (py.exact.div x c) := by
  have hdiv : NearOf (n + 1) (py.mul a c⁻¹) (py.exact.mul x c⁻¹) := NearOf.mul hround h c⁻¹
  exact hdiv

theorem convertWithin_near (hround : py.round = Numeric.roundContext) (h : NearOf n a x) (f t : String) :
    Option.Rel (NearOf (n + 2)) (convertWithin py a f t) (convertWithin py.exact x f t) := by
  have hrate : ∀ c d, NearOf (n + 2) (py.div (py.mul a c) d) (py.exact.div (py.exact.mul x c) d) :=
    fun c d => NearOf.div hround (NearOf.mul hround h c) d
  unfold convertWithin
  split
  · exact .some (h.mono (by omega))
  · split
    · exact .some (hrate _ _)
    · split
      · exact .some (hrate _ _)
      · split
        · exact .some (h.mono (by omega))
        · exact .none

theorem bridge_near (hround : py.round = Numeric.roundContext) {factors : Factors} (h : NearOf n a x) (f t name : String) :
    Option.Rel (NearOf (n + 5)) (bridge py factors a f t name) (bridge py.exact factors x f t name) := by
  refine rel_findSome? fun e _ => ?_
  obtain ⟨⟨name', cf, ct⟩, factor⟩ := e
  simp only
  split
  · exact .none
  · refine rel_bind (convertWithin_near hround h (normUnit py f) (normUnit py cf)) fun b y hnear => ?_
    exact convertWithin_near hround (NearOf.mul hround hnear factor) (normUnit py ct) (normUnit py t)

theorem convert_near (hround : py.round = Numeric.roundContext) (factors : Factors) (h : NearOf n a x) (f t : String)
    (name : Option String) : Option.Rel (NearOf (n + 5)) (convert py factors a f t name).toOption
      (convert py.exact factors x f t name).toOption := by
  rw [convert_toOption, convert_toOption]
  refine rel_or ?_ ?_
  · exact rel_imp (fun b y hnear => hnear.mono (by omega)) (convertWithin_near hround h _ _)
  · cases name with
    | none => exact .none
    | some name =>
      refine rel_or ?_ (bridge_near hround h _ _ _)
      show Option.Rel _ ((factors.get? (name, normUnit py f, normUnit py t)).map _)
        ((factors.get? (name, normUnit py f, normUnit py t)).map _)
      cases factors.get? (name, normUnit py f, normUnit py t) with
      | none => exact .none
      | some direct => exact .some ((NearOf.mul hround h direct).mono (by omega))

end Conversions
end CestaPlan.Engine
