import CestaPlan.Imports.Validation

/-! What the validation of a row guarantees: it gives errors or a sound record, unless a number is none or too large, or the
    unit price is compared after rounding only. -/

namespace CestaPlan.Imports
open DecimalText Ingestion

/-! ### What the comparisons decide -/

/-- It raises. -/
def Fails {ε α : Type} (x : Except ε α) : Prop := ∃ e, x = .error e

section Failures
variable {ε α β : Type} {x : Except ε α} {f : α → Except ε β}

theorem Fails.bind (h : Fails x) : Fails (x >>= f) := by
  obtain ⟨e, rfl⟩ := h
  exact ⟨e, rfl⟩

theorem fails_bind (h : ∀ a, Fails (f a)) : Fails (x >>= f) := by
  cases x with
  | error e => exact ⟨e, rfl⟩
  | ok a => exact h a

theorem not_fails_ok {a : α} (h : x = .ok a) : ¬ Fails x := fun ⟨_, he⟩ => by cases h.symm.trans he

end Failures

def Positive : Decimal → Prop
  | .finite x => 0 < x
  | .infinity negative => negative = false
  | .nan _ => False

def InUnitInterval : Decimal → Prop
  | .finite x => 0 ≤ x ∧ x ≤ 1
  | _ => False

theorem fails_le_zero {d : Decimal} (h : d.isNan = true) : Fails (d.le (.finite 0)) := by
  cases d with
  | nan s => exact ⟨_, rfl⟩
  | _ => cases h

theorem le_zero_eq_ok {d : Decimal} (h : d.isNan = false) : ∃ b, d.le (.finite 0) = .ok b ∧ (b = false ↔ Positive d) := by
  cases d with
  | finite x => exact ⟨_, rfl, by simp [Positive]⟩
  | infinity n => exact ⟨n, rfl, Iff.rfl⟩
  | nan s => cases h

theorem fails_outOfRange {d : Decimal} (h : d.isNan = true) : Fails (outOfRange d) := by
  cases d with
  | nan s => exact ⟨_, rfl⟩
  | _ => cases h

theorem outOfRange_eq_ok {d : Decimal} (h : d.isNan = false) : ∃ b, outOfRange d = .ok b ∧ (b = false ↔ InUnitInterval d) := by
  cases d with
  | finite x =>
    by_cases hx : 0 ≤ x
    · refine ⟨!decide (x ≤ 1), ?_, by simp [InUnitInterval, hx]⟩
      simp [outOfRange, Decimal.le, hx]
      rfl
    · refine ⟨true, ?_, by simp [InUnitInterval, hx]⟩
      simp [outOfRange, Decimal.le, hx]
      rfl
  | infinity n => cases n <;> exact ⟨true, rfl, by simp [InUnitInterval]⟩
  | nan s => cases h

/-! ### The comparison of the unit price -/

section Comparison
variable (amount packageQuantity unitPrice : Decimal) (factor : ℚ)

/-- The quantity in the base unit, and the unit price that is expected, as the context keeps them. -/
def baseOf (q factor : ℚ) : ℚ := rounded (q * factor)

def expectedOf (a q factor : ℚ) : ℚ := rounded (a / baseOf q factor)

/-- The comparison raises nothing: no figure is too large, and no two infinities are set against each other. -/
def Quiet : Prop :=
  match packageQuantity with
  | .finite q => InRange (q * factor) ∧ (0 < baseOf q factor → match amount, unitPrice with
    | .finite a, .finite u => InRange (a / baseOf q factor) ∧ InRange (expectedOf a q factor * tolerance) ∧
      InRange (expectedOf a q factor - u)
    | .finite a, .infinity _ => InRange (a / baseOf q factor) ∧ InRange (expectedOf a q factor * tolerance)
    | .infinity _, .finite _ => True
    | .infinity n, .infinity m => n ≠ m
    | _, _ => False)
  | .infinity false => match amount, unitPrice with
    | .finite _, .finite u => InRange (0 - u)
    | .finite _, .infinity _ => True
    | _, _ => False
  | .infinity true => True
  | .nan _ => False

/-- The comparison, with 28 digits, finds the unit price near enough. -/
def Close : Prop :=
  match packageQuantity, amount, unitPrice with
  | .finite q, .finite a, .finite u => 0 < baseOf q factor →
    |rounded (expectedOf a q factor - u)| ≤ max (rounded (expectedOf a q factor * tolerance)) tolerance
  | .finite q, .finite _, .infinity _ => ¬ 0 < baseOf q factor
  | .infinity false, .finite _, .finite u => |rounded (0 - u)| ≤ tolerance
  | .infinity false, .finite _, .infinity _ => False
  | _, _, _ => True

/-- The unit price is within the tolerance. -/
def Within (a q u : ℚ) : Prop := |a / (q * factor) - u| ≤ max (a / (q * factor) * tolerance) tolerance

end Comparison

/-- The last step of the comparison, of the expected unit price. -/
def settle (expected unitPrice : Decimal) : Except Signal (Option Decimal) := do
  let relative ← expected.mul (.finite tolerance)
  let allowed := if ← relative.lt (.finite tolerance) then .finite tolerance else relative
  let difference ← expected.sub unitPrice
  return if ← allowed.lt difference.abs then some expected else none

section Settling
variable {a q u e factor : ℚ}

theorem tolerance_pos : 0 < tolerance := by norm_num [tolerance]

theorem settle_finite (htolerance : InRange (e * tolerance)) (hdifference : InRange (e - u)) :
    ∃ r, settle (.finite e) (.finite u) = .ok r ∧
      (r = none ↔ |rounded (e - u)| ≤ max (rounded (e * tolerance)) tolerance) := by
  refine ⟨if max (rounded (e * tolerance)) tolerance < |rounded (e - u)| then some (.finite e) else none, ?_, ?_⟩
  · unfold settle
    rw [mul_of_inRange htolerance, sub_of_inRange hdifference]
    by_cases hless : rounded (e * tolerance) < tolerance
    · rw [max_eq_right hless.le]
      simp only [Decimal.lt, Decimal.abs, bind, Except.bind, pure, Except.pure, decide_eq_true hless, if_true, decide_eq_true_eq]
    · rw [max_eq_left (not_lt.mp hless)]
      simp only [Decimal.lt, Decimal.abs, bind, Except.bind, pure, Except.pure, decide_eq_false hless, Bool.false_eq_true, if_false,
        decide_eq_true_eq]
  · split
    · next h => exact iff_of_false (Option.some_ne_none _) (not_le.mpr h)
    · next h => exact iff_of_true rfl (not_lt.mp h)

theorem settle_infinite_price {n : Bool} (htolerance : InRange (e * tolerance)) :
    settle (.finite e) (.infinity n) = .ok (some (.finite e)) := by
  unfold settle
  rw [mul_of_inRange htolerance]
  by_cases hless : rounded (e * tolerance) < tolerance
  · simp only [Decimal.lt, Decimal.sub, Decimal.abs, bind, Except.bind, pure, Except.pure, decide_eq_true hless, if_true, Bool.not_false]
  · simp only [Decimal.lt, Decimal.sub, Decimal.abs, bind, Except.bind, pure, Except.pure, decide_eq_false hless, Bool.false_eq_true,
      if_false, Bool.not_false, if_true]

theorem fails_settle (h : ¬ (InRange (e * tolerance) ∧ InRange (e - u))) : Fails (settle (.finite e) (.finite u)) := by
  by_cases htolerance : InRange (e * tolerance)
  · have hdifference : ¬ InRange (e - u) := fun hd => h ⟨htolerance, hd⟩
    unfold settle
    refine fails_bind fun relative => fails_bind fun less => ?_
    exact (show Fails (Decimal.sub (.finite e) (.finite u)) from ⟨_, sub_of_not_inRange hdifference⟩).bind
  · exact (show Fails (Decimal.mul (.finite e) (.finite tolerance)) from ⟨_, mul_of_not_inRange htolerance⟩).bind

theorem fails_settle_price {n : Bool} (h : ¬ InRange (e * tolerance)) : Fails (settle (.finite e) (.infinity n)) :=
  (show Fails (Decimal.mul (.finite e) (.finite tolerance)) from ⟨_, mul_of_not_inRange h⟩).bind

theorem fails_settle_nan {expected : Decimal} {s : Bool} : Fails (settle expected (.nan s)) := by
  unfold settle
  refine fails_bind fun relative => fails_bind fun less => ?_
  have hsub : Fails (expected.sub (.nan s)) ∨ expected.sub (.nan s) = .ok (.nan false) := by
    have hnan : expected.sub (.nan s) = Decimal.nanOf expected (.nan s) := by cases expected <;> rfl
    rw [hnan]
    unfold Decimal.nanOf
    split
    · exact .inl ⟨_, rfl⟩
    · exact .inr rfl
  rcases hsub with hsub | hsub
  · exact hsub.bind
  · rw [hsub]
    show Fails (Decimal.lt (if less = true then .finite tolerance else relative) (.nan false) >>= _)
    refine Fails.bind ⟨.invalidOperation, ?_⟩
    cases less with
    | true => rfl
    | false => cases relative <;> rfl

theorem settle_infinity {n : Bool} {u : Decimal} (hu : u.isNan = false) (hne : u ≠ .infinity n) :
    ∃ r, settle (.infinity n) u = .ok r ∧ (n = false → r = none) := by
  have hpos : ¬ tolerance = 0 := tolerance_pos.ne'
  have hneg : ¬ tolerance < 0 := tolerance_pos.le.not_gt
  have hmul : Decimal.mul (.infinity n) (.finite tolerance) = .ok (.infinity n) := by
    simp [Decimal.mul, if_neg hpos, hneg]
  have hsub : Decimal.sub (.infinity n) u = .ok (.infinity n) := by
    cases u with
    | finite u => rfl
    | infinity m => exact if_neg fun h : n = m => hne (h ▸ rfl)
    | nan s => cases hu
  unfold settle
  rw [hmul, hsub]
  cases n with
  | false => exact ⟨none, rfl, fun _ => rfl⟩
  | true => exact ⟨some (.infinity true), rfl, fun h => by cases h⟩

theorem fails_settle_infinity {n : Bool} : Fails (settle (.infinity n) (.infinity n)) := by
  unfold settle
  refine fails_bind fun relative => fails_bind fun less => ?_
  exact (show Fails (Decimal.sub (.infinity n) (.infinity n)) from ⟨_, if_pos rfl⟩).bind

end Settling

/-! ### When the comparison raises, and what it finds -/

theorem incoherent_eq {amount packageQuantity unitPrice : Decimal} {factor : ℚ} :
    incoherent amount packageQuantity unitPrice factor = do
      let baseQuantity ← packageQuantity.mul (.finite factor)
      if ← Decimal.lt (.finite 0) baseQuantity then (amount.div baseQuantity) >>= (settle · unitPrice) else return none := rfl

/-- Where the comparison is quiet, it tells whether the unit price is near enough; where it is not, it raises. -/
theorem incoherent_spec {amount packageQuantity unitPrice : Decimal} {factor : ℚ} (hfactor : 0 < factor)
    (hamount : amount.isNan = false) :
    (Quiet amount packageQuantity unitPrice factor →
      ∃ r, incoherent amount packageQuantity unitPrice factor = .ok r ∧ (r = none → Close amount packageQuantity unitPrice factor) ∧
        (Positive amount → Close amount packageQuantity unitPrice factor → r = none)) ∧
    (¬ Quiet amount packageQuantity unitPrice factor → Fails (incoherent amount packageQuantity unitPrice factor)) := by
  rw [incoherent_eq]
  cases packageQuantity with
  | nan s => exact ⟨False.elim, fun _ => by cases s <;> exact ⟨_, rfl⟩⟩
  | infinity n =>
    have hmul : Decimal.mul (.infinity n) (.finite factor) = .ok (.infinity n) := by
      simp [Decimal.mul, hfactor.ne', hfactor.le.not_gt]
    rw [hmul]
    cases n with
    | true => exact ⟨fun _ => ⟨none, rfl, fun _ => trivial, fun _ _ => rfl⟩, fun h => absurd trivial h⟩
    | false =>
      cases amount with
      | nan s => cases hamount
      | infinity m => exact ⟨False.elim, fun _ => ⟨_, rfl⟩⟩
      | finite a =>
        show (_ → ∃ r, settle (.finite 0) unitPrice = .ok r ∧ _) ∧ (_ → Fails (settle (.finite 0) unitPrice))
        have hzero : InRange (0 * tolerance) := by
          rw [zero_mul]
          exact inRange_zero
        cases unitPrice with
        | nan s => exact ⟨False.elim, fun _ => fails_settle_nan⟩
        | infinity m =>
          exact ⟨fun _ => ⟨_, settle_infinite_price hzero, fun h => absurd h (Option.some_ne_none _), fun _ h => h.elim⟩,
            fun h => absurd trivial h⟩
        | finite u =>
          refine ⟨fun h => ?_, fun h => fails_settle fun hboth => h hboth.2⟩
          obtain ⟨r, hr, hnone⟩ := settle_finite hzero h
          rw [zero_mul, rounded_zero, max_eq_right tolerance_pos.le] at hnone
          exact ⟨r, hr, hnone.mp, fun _ => hnone.mpr⟩
  | finite q =>
    by_cases hbase : InRange (q * factor)
    · rw [mul_of_inRange hbase]
      by_cases hpos : 0 < baseOf q factor
      · have hdecide : decide (0 < rounded (q * factor)) = true := decide_eq_true hpos
        have hgo : (do
            let baseQuantity ← (Except.ok (.finite (rounded (q * factor))) : Except Signal Decimal)
            if ← Decimal.lt (.finite 0) baseQuantity then (amount.div baseQuantity) >>= (settle · unitPrice) else return none) =
            (amount.div (.finite (baseOf q factor))) >>= (settle · unitPrice) := if_pos hdecide
        rw [hgo]
        cases amount with
        | nan s => cases hamount
        | infinity n =>
          have hdiv : Decimal.div (.infinity n) (.finite (baseOf q factor)) = .ok (.infinity n) := by
            simp [Decimal.div, hpos.le.not_gt]
          rw [hdiv]
          show (_ → ∃ r, settle (.infinity n) unitPrice = .ok r ∧ _) ∧ (_ → Fails (settle (.infinity n) unitPrice))
          constructor
          · intro hquiet
            have hne : unitPrice.isNan = false ∧ unitPrice ≠ .infinity n := by
              cases unitPrice with
              | finite u => exact ⟨rfl, fun h => by cases h⟩
              | infinity m => exact ⟨rfl, fun h => hquiet.2 hpos (by cases h; rfl)⟩
              | nan s => exact (hquiet.2 hpos).elim
            obtain ⟨r, hr, hnone⟩ := settle_infinity hne.1 hne.2
            exact ⟨r, hr, fun _ => trivial, fun hpositive _ => hnone hpositive⟩
          · intro hquiet
            cases unitPrice with
            | finite u => exact absurd ⟨hbase, fun _ => trivial⟩ hquiet
            | infinity m =>
              obtain rfl : n = m := by
                by_contra hne
                exact hquiet ⟨hbase, fun _ => hne⟩
              exact fails_settle_infinity
            | nan s => exact fails_settle_nan
        | finite a =>
          by_cases hexpected : InRange (a / baseOf q factor)
          · rw [div_of_inRange hpos.ne' hexpected]
            show (_ → ∃ r, settle (.finite (expectedOf a q factor)) unitPrice = .ok r ∧ _) ∧
              (_ → Fails (settle (.finite (expectedOf a q factor)) unitPrice))
            cases unitPrice with
            | nan s => exact ⟨fun hquiet => (hquiet.2 hpos).elim, fun _ => fails_settle_nan⟩
            | infinity m =>
              constructor
              · intro hquiet
                exact ⟨_, settle_infinite_price (hquiet.2 hpos).2, fun h => absurd h (Option.some_ne_none _), fun _ h => absurd hpos h⟩
              · intro hquiet
                exact fails_settle_price fun htolerance => hquiet ⟨hbase, fun _ => ⟨hexpected, htolerance⟩⟩
            | finite u =>
              constructor
              · intro hquiet
                obtain ⟨r, hr, hnone⟩ := settle_finite (hquiet.2 hpos).2.1 (hquiet.2 hpos).2.2
                exact ⟨r, hr, fun h _ => hnone.mp h, fun _ h => hnone.mpr (h hpos)⟩
              · intro hquiet
                exact fails_settle fun hboth => hquiet ⟨hbase, fun _ => ⟨hexpected, hboth⟩⟩
          · rw [div_of_not_inRange hpos.ne' hexpected]
            refine ⟨fun hquiet => ?_, fun _ => ⟨_, rfl⟩⟩
            have hrange := hquiet.2 hpos
            cases unitPrice with
            | nan s => exact hrange.elim
            | _ => exact absurd hrange.1 hexpected
      · have hdecide : ¬ decide (0 < rounded (q * factor)) = true := fun h => hpos (of_decide_eq_true h)
        have hstop : (do
            let baseQuantity ← (Except.ok (.finite (rounded (q * factor))) : Except Signal Decimal)
            if ← Decimal.lt (.finite 0) baseQuantity then (amount.div baseQuantity) >>= (settle · unitPrice) else return none) =
            Except.ok none := if_neg hdecide
        rw [hstop]
        refine ⟨fun _ => ⟨none, rfl, fun _ => ?_, fun _ _ => rfl⟩, fun hquiet => absurd ⟨hbase, fun h => absurd h hpos⟩ hquiet⟩
        cases amount with
        | nan s => cases hamount
        | infinity n => trivial
        | finite a =>
          cases unitPrice with
          | finite u => exact fun h => absurd h hpos
          | infinity m => exact hpos
          | nan s => trivial
    · rw [mul_of_not_inRange hbase]
      exact ⟨fun hquiet => absurd hquiet.1 hbase, fun _ => ⟨_, rfl⟩⟩

/-! ### The errors of each column -/

section Columns
variable {row : RawRow} {index : Nat} {field unreadable refused : String} {refuses : Decimal → Except Signal Bool} {P : Decimal → Prop}

theorem optional_of_numeral {d : Numeral} (h : row.numeral field = some d) : ∃ text, row.optional field = some text := by
  obtain ⟨text, htext, -⟩ := Option.bind_eq_some_iff.mp h
  exact ⟨text, htext⟩

theorem numberErrors_eq_ok (h : ∀ d, row.numeral field = some d → ∃ b, refuses (.ofNumeral d) = .ok b ∧ (b = false ↔ P (.ofNumeral d))) :
    ∃ es, numberErrors row index field unreadable refused refuses = .ok es ∧
      (es = [] ↔ (row.optional field).isSome → ∃ d, row.numeral field = some d ∧ P (.ofNumeral d)) := by
  cases htext : row.optional field with
  | none =>
    refine ⟨[], ?_, iff_of_true rfl fun hsome => by cases hsome⟩
    simp only [numberErrors, htext]
  | some text =>
    cases hd : row.numeral field with
    | none =>
      refine ⟨[.of index field unreadable], ?_, fun h => absurd h (List.cons_ne_nil _ _), fun h => ?_⟩
      · simp only [numberErrors, htext, hd]
      · obtain ⟨d, hsome, -⟩ := h rfl
        cases hsome
    | some d =>
      obtain ⟨b, hb, hiff⟩ := h d hd
      refine ⟨if b then [.of index field refused] else [], ?_, ?_⟩
      · simp only [numberErrors, htext, hd, hb]
        rfl
      · cases b with
        | false => exact iff_of_true rfl fun _ => ⟨d, rfl, hiff.mp rfl⟩
        | true =>
          refine iff_of_false (List.cons_ne_nil _ _) fun hall => ?_
          obtain ⟨d', hsome, hP⟩ := hall rfl
          obtain rfl := Option.some.inj hsome
          cases hiff.mpr hP

theorem fails_numberErrors {d : Numeral} (hd : row.numeral field = some d) (h : Fails (refuses (.ofNumeral d))) :
    Fails (numberErrors row index field unreadable refused refuses) := by
  obtain ⟨text, htext⟩ := optional_of_numeral hd
  obtain ⟨e, he⟩ := h
  refine ⟨e, ?_⟩
  simp only [numberErrors, htext, hd, he]
  rfl

theorem memberErrors_eq_nil {known : List String} {value message : String} :
    memberErrors index field known value message = [] ↔ value ∈ known := by
  unfold memberErrors
  split
  · next h => exact iff_of_true rfl h
  · next h => exact iff_of_false (List.cons_ne_nil _ _) h

theorem sourceTypeErrors_eq_nil : sourceTypeErrors row index = [] ↔ row.text "source_type" = "" ∨ row.text "source_type" ∈ sourceTypes := by
  unfold sourceTypeErrors
  split
  · next h => exact iff_of_true rfl (.inl h)
  · next h => exact memberErrors_eq_nil.trans (or_iff_right h).symm

theorem availabilityErrors_eq_nil : availabilityErrors row index = [] ↔ ∀ a ∈ row.optional "availability", a ∈ availabilities := by
  unfold availabilityErrors
  split
  · next h => simp [h]
  · next a h => simp [h, memberErrors_eq_nil]

variable {fromisoformat : String → Option DateTime} {message : String}

theorem dateErrors_eq_nil : dateErrors fromisoformat row index field message = [] ↔
    ∀ text ∈ row.optional field, ∃ t, parseDt fromisoformat text = some t := by
  unfold dateErrors
  cases row.optional field with
  | none => simp
  | some text =>
    rw [Option.bind_some]
    cases h : parseDt fromisoformat text with
    | none => simp [h]
    | some t => simp [h]

theorem factor_pos {unit : String} {factor : ℚ} (h : unitBase.lookup unit = some factor) : 0 < factor := by
  obtain ⟨l₁, l₂, heq, -⟩ := List.lookup_eq_some_iff.mp h
  have hall : ∀ p ∈ unitBase, (0 : ℚ) < p.2 := by
    simp only [unitBase, List.forall_mem_cons]
    norm_num
  exact hall (unit, factor) (by simp [heq])

end Columns

/-! ### The whole row -/

section Rows
variable {fromisoformat : String → Option DateTime} {row : RawRow} {index : Nat}

/-- The validation of the row raises nothing: the numbers that are compared are none of them NaN, and the comparison of the unit price
    is quiet. -/
structure Comparable (row : RawRow) : Prop where
  numbers : ∀ field ∈ ["amount", "package_quantity", "confidence_score"], ∀ d, row.numeral field = some d → (Decimal.ofNumeral d).isNan = false
  quiet : ∀ a q u factor, row.numeral "amount" = some a → row.numeral "package_quantity" = some q → row.numeral "unit_price" = some u →
    unitBase.lookup (row.text "package_unit") = some factor → Quiet (.ofNumeral a) (.ofNumeral q) (.ofNumeral u) factor

/-- The validation finds no fault in the row. -/
structure Acceptable (fromisoformat : String → Option DateTime) (row : RawRow) : Prop where
  required : ∀ field ∈ requiredFields, row.text field ≠ ""
  amount : ∃ a, row.numeral "amount" = some a ∧ Positive (.ofNumeral a)
  packageQuantity : ∃ q, row.numeral "package_quantity" = some q ∧ Positive (.ofNumeral q)
  unitPrice : (row.optional "unit_price").isSome → ∃ u, row.numeral "unit_price" = some u
  confidence : (row.optional "confidence_score").isSome → ∃ c, row.numeral "confidence_score" = some c ∧ InUnitInterval (.ofNumeral c)
  sourceType : row.text "source_type" ∈ sourceTypes
  verification : verificationOf row ∈ verificationStatuses
  availability : ∀ a ∈ row.optional "availability", a ∈ availabilities
  observedAt : ∀ text ∈ row.optional "observed_at", ∃ t, parseDt fromisoformat text = some t
  expiresAt : ∀ text ∈ row.optional "expires_at", ∃ t, parseDt fromisoformat text = some t
  coherent : ∀ a q u factor, row.numeral "amount" = some a → row.numeral "package_quantity" = some q → row.numeral "unit_price" = some u →
    unitBase.lookup (row.text "package_unit") = some factor → Close (.ofNumeral a) (.ofNumeral q) (.ofNumeral u) factor

theorem optional_isSome {field : String} : (row.optional field).isSome ↔ row.text field ≠ "" := by
  unfold RawRow.optional
  rw [Option.filter_some]
  split
  · next h => exact iff_of_true rfl (of_decide_eq_true h)
  · next h => exact iff_of_false (by decide) fun hne => h (decide_eq_true hne)

theorem quiet_zero {a u : Decimal} {factor : ℚ} : Quiet a (.finite 0) u factor ∧ Close a (.finite 0) u factor := by
  have hbase : ¬ 0 < baseOf 0 factor := by
    rw [baseOf, zero_mul, rounded_zero]
    exact lt_irrefl _
  refine ⟨⟨?_, fun h => absurd h hbase⟩, ?_⟩
  · rw [zero_mul]
    exact inRange_zero
  · cases a <;> cases u <;> first
      | exact fun h => absurd h hbase
      | exact hbase
      | trivial

theorem coherenceErrors_eq_ok (h : Comparable row) : ∃ es, coherenceErrors row index = .ok es ∧
    (es = [] → ∀ a q u factor, row.numeral "amount" = some a → row.numeral "package_quantity" = some q → row.numeral "unit_price" = some u →
      unitBase.lookup (row.text "package_unit") = some factor → Close (.ofNumeral a) (.ofNumeral q) (.ofNumeral u) factor) ∧
    (Acceptable fromisoformat row → es = []) := by
  unfold coherenceErrors
  split
  · next u a q factor hu ha hq hfactor =>
    have hsame {P : Numeral → Numeral → Numeral → ℚ → Prop} (hP : P a q u factor) : ∀ a q u factor, row.numeral "amount" = some a →
        row.numeral "package_quantity" = some q → row.numeral "unit_price" = some u →
        unitBase.lookup (row.text "package_unit") = some factor → P a q u factor := by
      intro a' q' u' factor' ha' hq' hu' hfactor'
      obtain rfl := Option.some.inj (ha.symm.trans ha')
      obtain rfl := Option.some.inj (hq.symm.trans hq')
      obtain rfl := Option.some.inj (hu.symm.trans hu')
      obtain rfl := Option.some.inj (hfactor.symm.trans hfactor')
      exact hP
    split
    · next hzero =>
      refine ⟨[], rfl, fun _ => hsame ?_, fun _ => rfl⟩
      rw [hzero]
      exact quiet_zero.2
    · have hspec := @incoherent_spec _ (.ofNumeral q) (.ofNumeral u) factor (factor_pos hfactor)
        (h.numbers "amount" (by simp) a ha)
      obtain ⟨r, hr, hnone, hclose⟩ := hspec.1 (h.quiet a q u factor ha hq hu hfactor)
      rw [hr]
      cases r with
      | none => exact ⟨[], rfl, fun _ => hsame (hnone rfl), fun _ => rfl⟩
      | some expected =>
        refine ⟨_, rfl, fun hes => absurd hes (List.cons_ne_nil _ _), fun hacceptable => ?_⟩
        obtain ⟨a', ha', hpositive⟩ := hacceptable.amount
        obtain rfl := Option.some.inj (ha.symm.trans ha')
        exact absurd (hclose hpositive (hacceptable.coherent a q u factor ha hq hu hfactor)) (Option.some_ne_none _)
  · next hnone =>
    exact ⟨[], rfl, fun _ a q u factor ha hq hu hfactor => (hnone u a q factor hu ha hq hfactor).elim, fun _ => rfl⟩

theorem recordOf_isSome (h : Acceptable fromisoformat row) : ∃ r, recordOf fromisoformat row = some r := by
  obtain ⟨a, ha, -⟩ := h.amount
  obtain ⟨q, hq, -⟩ := h.packageQuantity
  obtain ⟨text, htext⟩ := Option.isSome_iff_exists.mp (optional_isSome.mpr (h.required "observed_at" (by simp [requiredFields])))
  obtain ⟨t, ht⟩ := h.observedAt text htext
  unfold recordOf
  rw [ha, hq, htext]
  simp only [Option.bind_eq_bind, Option.bind_some, ht]
  exact ⟨_, rfl⟩

theorem buildRecord_eq_ok (h : Comparable row) : ∃ v, buildRecord fromisoformat row index = .ok v ∧
    ((Acceptable fromisoformat row ∧ v.errors = [] ∧ v.record = recordOf fromisoformat row) ∨
      (¬ Acceptable fromisoformat row ∧ v.errors ≠ [] ∧ v.record = none)) := by
  obtain ⟨am, ham, hamount⟩ := @numberErrors_eq_ok row index "amount" "importe no numérico"
    "el importe del envase debe ser > 0 (una ausencia nunca es 0)" (·.le (.finite 0)) Positive
    fun d hd => le_zero_eq_ok (h.numbers _ (by simp) d hd)
  obtain ⟨pq, hpq, hquantity⟩ := @numberErrors_eq_ok row index "package_quantity" "cantidad de envase no numérica"
    "la cantidad de envase debe ser > 0" (·.le (.finite 0)) Positive fun d hd => le_zero_eq_ok (h.numbers _ (by simp) d hd)
  obtain ⟨up, hup, hprice⟩ := @numberErrors_eq_ok row index "unit_price" "precio unitario no numérico" "" (fun _ => .ok false)
    (fun _ => True) fun d hd => ⟨false, rfl, iff_of_true rfl trivial⟩
  obtain ⟨cs, hcs, hconfidence⟩ := @numberErrors_eq_ok row index "confidence_score" "confianza no numérica"
    "confianza fuera de rango [0, 1]" outOfRange InUnitInterval fun d hd => outOfRange_eq_ok (h.numbers _ (by simp) d hd)
  obtain ⟨ch, hch, hcoherent, hnone⟩ := @coherenceErrors_eq_ok fromisoformat row index h
  let missing := (requiredFields.filter fun field => row.text field = "").map (RowError.of index · "campo obligatorio ausente")
  let known := sourceTypeErrors row index ++ verificationErrors row index ++ availabilityErrors row index
  let dates := dateErrors fromisoformat row index "observed_at" "observed_at no es ISO-8601 válida" ++
    dateErrors fromisoformat row index "expires_at" "expires_at no es ISO-8601 válida"
  let errors := missing ++ am ++ pq ++ up ++ cs ++ known ++ dates ++ ch
  have hbuild : buildRecord fromisoformat row index =
      if errors = [] then .ok { record := recordOf fromisoformat row } else .ok { errors } := by
    unfold buildRecord
    rw [show amountErrors row index = .ok am from ham, show packageQuantityErrors row index = .ok pq from hpq,
      show unitPriceErrors row index = .ok up from hup, show confidenceErrors row index = .ok cs from hcs, hch]
    rfl
  have hmissing : missing = [] ↔ ∀ field ∈ requiredFields, row.text field ≠ "" := by
    rw [List.map_eq_nil_iff, List.filter_eq_nil_iff]
    exact forall₂_congr fun field _ => by simp
  have hpresent (field : String) (hall : ∀ field ∈ requiredFields, row.text field ≠ "") (hmem : field ∈ requiredFields) :
      (row.optional field).isSome := optional_isSome.mpr (hall field hmem)
  have hiff : errors = [] ↔ Acceptable fromisoformat row := by
    simp only [errors, known, dates, List.append_eq_nil_iff, hmissing, hamount, hquantity, hprice, hconfidence, sourceTypeErrors_eq_nil,
      dateErrors_eq_nil, availabilityErrors_eq_nil, and_true]
    constructor
    · rintro ⟨⟨⟨⟨⟨⟨⟨hreq, ha⟩, hq⟩, hu⟩, hc⟩, ⟨hsource, hverification⟩, havailability⟩, hobserved, hexpires⟩, hcoherence⟩
      exact ⟨hreq, ha (hpresent _ hreq (by simp [requiredFields])), hq (hpresent _ hreq (by simp [requiredFields])), hu, hc,
        hsource.resolve_left (hreq _ (by simp [requiredFields])), memberErrors_eq_nil.mp hverification, havailability, hobserved, hexpires,
        hcoherent hcoherence⟩
    · intro hacc
      exact ⟨⟨⟨⟨⟨⟨⟨hacc.required, fun _ => hacc.amount⟩, fun _ => hacc.packageQuantity⟩, hacc.unitPrice⟩, hacc.confidence⟩,
        ⟨.inr hacc.sourceType, memberErrors_eq_nil.mpr hacc.verification⟩, hacc.availability⟩, hacc.observedAt, hacc.expiresAt⟩,
        hnone hacc⟩
  by_cases hempty : errors = []
  · exact ⟨_, hbuild.trans (if_pos hempty), .inl ⟨hiff.mp hempty, rfl, rfl⟩⟩
  · exact ⟨_, hbuild.trans (if_neg hempty), .inr ⟨fun hacc => hempty (hiff.mpr hacc), hempty, rfl⟩⟩

theorem fails_buildRecord (h : ¬ Comparable row) : Fails (buildRecord fromisoformat row index) := by
  unfold buildRecord
  by_cases hnumbers : ∀ field ∈ ["amount", "package_quantity", "confidence_score"], ∀ d, row.numeral field = some d →
      (Decimal.ofNumeral d).isNan = false
  · refine fails_bind fun _ => fails_bind fun _ => fails_bind fun _ => fails_bind fun _ => Fails.bind ?_
    have hquiet : ¬ ∀ a q u factor, row.numeral "amount" = some a → row.numeral "package_quantity" = some q →
        row.numeral "unit_price" = some u → unitBase.lookup (row.text "package_unit") = some factor →
        Quiet (.ofNumeral a) (.ofNumeral q) (.ofNumeral u) factor := fun hquiet => h ⟨hnumbers, hquiet⟩
    push Not at hquiet
    obtain ⟨a, q, u, factor, ha, hq, hu, hfactor, hloud⟩ := hquiet
    obtain ⟨e, he⟩ := (@incoherent_spec _ _ (.ofNumeral u) factor (factor_pos hfactor) (hnumbers "amount" (by simp) a ha)).2 hloud
    have hsome : Decimal.ofNumeral q ≠ .finite 0 := fun hzero => hloud (hzero ▸ quiet_zero.1)
    refine ⟨e, ?_⟩
    unfold coherenceErrors
    rw [hu, ha, hq, hfactor]
    simp only [if_neg hsome, he]
    rfl
  · push Not at hnumbers
    obtain ⟨field, hfield, d, hd, hnan⟩ := hnumbers
    have hnan := Bool.eq_true_of_not_eq_false hnan
    simp only [List.mem_cons, List.not_mem_nil, or_false] at hfield
    rcases hfield with rfl | rfl | rfl
    · exact Fails.bind (fails_numberErrors hd (fails_le_zero hnan))
    · exact fails_bind fun _ => Fails.bind (fails_numberErrors hd (fails_le_zero hnan))
    · exact fails_bind fun _ => fails_bind fun _ => fails_bind fun _ => Fails.bind (fails_numberErrors hd (fails_outOfRange hnan))

/-- One row whose numbers cannot be compared stops the import of the whole file; otherwise each row has a record or errors of its own. -/
theorem validateRows_spec (rows : List RawRow) :
    ((∃ row ∈ rows, ¬ Comparable row) → Fails (validateRows fromisoformat rows)) ∧
    ((∀ row ∈ rows, Comparable row) → ∃ vs, validateRows fromisoformat rows = .ok vs ∧
      List.Forall₂ (fun row planned => Option.isSome planned = true ↔ Acceptable fromisoformat row) rows (plannedRows vs)) := by
  unfold validateRows
  generalize 1 = start
  induction rows generalizing start with
  | nil => exact ⟨fun ⟨_, hrow, _⟩ => absurd hrow List.not_mem_nil, fun _ => ⟨[], rfl, .nil⟩⟩
  | cons row rows ih =>
    rw [List.zipIdx_cons, List.mapM_cons]
    constructor
    · rintro ⟨bad, hbad, hnot⟩
      rcases List.mem_cons.mp hbad with rfl | hbad
      · exact (fails_buildRecord hnot).bind
      · exact fails_bind fun _ => ((ih (start + 1)).1 ⟨bad, hbad, hnot⟩).bind
    · intro hall
      obtain ⟨hrow, hrows⟩ := List.forall_mem_cons.mp hall
      obtain ⟨v, hv, hcases⟩ := @buildRecord_eq_ok fromisoformat row start hrow
      obtain ⟨vs, hvs, hforall⟩ := (ih (start + 1)).2 hrows
      refine ⟨v :: vs, ?_, .cons ?_ hforall⟩
      · dsimp only
        rw [hv, hvs]
        rfl
      · show (v.record.map (·.normalized)).isSome = true ↔ _
        rcases hcases with ⟨hacceptable, -, hrecord⟩ | ⟨hnot, -, hnone⟩
        · obtain ⟨r, hr⟩ := recordOf_isSome hacceptable
          rw [hrecord, hr]
          exact iff_of_true rfl hacceptable
        · rw [hnone]
          exact iff_of_false (by decide) hnot

end Rows

end CestaPlan.Imports
