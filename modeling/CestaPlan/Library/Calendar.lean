import Mathlib.Tactic.IntervalCases

/-! Instants, days and months of UTC. An instant is the number of microseconds since the epoch, a day its proleptic
    ordinal. -/

namespace CestaPlan.Calendar

abbrev Instant := Int

/-- The microseconds of a day. -/
def dayLength : Int := 86400000000

/-- The ordinal of the epoch. -/
def epoch : Int := 719163

def dayOf (t : Int) : Int := t / dayLength + epoch

def startOf (day : Int) : Int := (day - epoch) * dayLength

/-- The day of the month. The year is counted from March, so that a leap day ends it; 400 of them have 146097 days. -/
def dayOfMonth (day : Int) : Int :=
  let dayOfEra := (day + 305) % 146097
  let year := (dayOfEra - dayOfEra / 1460 + dayOfEra / 36524 - dayOfEra / 146096) / 365
  let dayOfYear := dayOfEra - (365 * year + year / 4 - year / 100)
  let month := (5 * dayOfYear + 2) / 153
  dayOfYear - (153 * month + 2) / 5 + 1

/-- The first day of the month. -/
def monthOf (day : Int) : Int := day - (dayOfMonth day - 1)

theorem startOf_dayOf_le (t : Int) : startOf (dayOf t) ≤ t := by
  simp only [startOf, dayOf, dayLength]
  omega

theorem one_le_dayOfMonth (day : Int) : 1 ≤ dayOfMonth day := by
  have hmonths : ∀ dayOfYear : Int, (153 * ((5 * dayOfYear + 2) / 153) + 2) / 5 ≤ dayOfYear := by
    intro dayOfYear
    omega
  unfold dayOfMonth
  exact Int.le_add_of_nonneg_left (Int.sub_nonneg.mpr (hmonths _))

theorem startOf_monthOf_le (t : Int) : startOf (monthOf (dayOf t)) ≤ t := by
  have hfirst := one_le_dayOfMonth (dayOf t)
  have hstart := startOf_dayOf_le t
  simp only [startOf, monthOf, dayLength] at *
  omega

theorem startOf_le_iff {day t : Int} : startOf day ≤ t ↔ day ≤ dayOf t := by
  simp only [startOf, dayOf, dayLength]
  omega

-- 29 February 2024, 1 March 2024 and 31 December 2026.
example : [738945, 738946, 739981].map dayOfMonth = [29, 1, 31] := by decide

/-! ### Dates as texts -/

/-- The year counted from March, and the day in it. -/
def yearOf (day : Int) : Int × Int :=
  let dayOfEra := (day + 305) % 146097
  let year := (dayOfEra - dayOfEra / 1460 + dayOfEra / 36524 - dayOfEra / 146096) / 365
  ((day + 305) / 146097 * 400 + year, dayOfEra - (365 * year + year / 4 - year / 100))

/-- The month counted from March. -/
def monthIndex (day : Int) : Int := (5 * (yearOf day).2 + 2) / 153

/-- The last `width` digits. -/
def padded : Nat → Nat → List Char
  | 0, _ => []
  | width + 1, n => padded width (n / 10) ++ [Nat.digitChar (n % 10)]

/-- `date.isoformat()`. -/
def isoformat (day : Int) : String :=
  let month := monthIndex day
  let year := if month < 10 then (yearOf day).1 else (yearOf day).1 + 1
  String.ofList (padded 4 year.toNat ++ '-' ::
    (padded 2 (if month < 10 then month + 3 else month - 9).toNat ++ '-' :: padded 2 (dayOfMonth day).toNat))

/-- From the first day of the year 1 to the last one of the year 9999. -/
def IsDate (day : Int) : Prop := 1 ≤ day ∧ day ≤ 3652059

theorem century {dayOfEra century year : Int} (h0 : 0 ≤ dayOfEra) (h1 : dayOfEra < 146096)
    (hc : century = dayOfEra / 36524) (hy : year = (dayOfEra - dayOfEra / 1460 + dayOfEra / 36524) / 365) :
    year / 100 = century := by
  have hlow : 0 ≤ century := by omega
  have hhigh : century ≤ 3 := by omega
  interval_cases century
  all_goals omega

theorem yearOf_day_range (day : Int) : 0 ≤ (yearOf day).2 ∧ (yearOf day).2 ≤ 365 := by
  simp only [yearOf]
  have h0 : 0 ≤ (day + 305) % 146097 := by omega
  have h1 : (day + 305) % 146097 < 146097 := by omega
  generalize (day + 305) % 146097 = dayOfEra at *
  by_cases hlast : dayOfEra = 146096
  · subst hlast
    decide
  · have hera : dayOfEra / 146096 = 0 := by omega
    rw [hera, Int.sub_zero]
    generalize hy : (dayOfEra - dayOfEra / 1460 + dayOfEra / 36524) / 365 = year
    have hlow : 0 ≤ dayOfEra / 36524 := by omega
    have hhigh : dayOfEra / 36524 ≤ 3 := by omega
    rw [century h0 (by omega) rfl hy.symm]
    generalize hc : dayOfEra / 36524 = c at *
    constructor
    all_goals
      interval_cases c
      all_goals omega

theorem monthIndex_range (day : Int) : 0 ≤ monthIndex day ∧ monthIndex day ≤ 11 := by
  have := yearOf_day_range day
  unfold monthIndex
  omega

theorem yearOf_fst_range {day : Int} (h : IsDate day) : 0 ≤ (yearOf day).1 ∧ (yearOf day).1 ≤ 9999 := by
  obtain ⟨h0, h1⟩ := h
  simp only [yearOf]
  omega

theorem yearOf_fst_lt {day : Int} (h : IsDate day) (hmonth : 10 ≤ monthIndex day) : (yearOf day).1 < 9999 := by
  obtain ⟨h0, h1⟩ := h
  simp only [monthIndex, yearOf] at hmonth ⊢
  by_contra hyear
  have hera : (day + 305) / 146097 = 24 := by omega
  have hlast : ((day + 305) % 146097 - (day + 305) % 146097 / 1460 + (day + 305) % 146097 / 36524 -
      (day + 305) % 146097 / 146096) / 365 = 399 := by omega
  rw [hlast] at hmonth
  omega

theorem dayOfMonth_eq (day : Int) : dayOfMonth day = (yearOf day).2 - (153 * monthIndex day + 2) / 5 + 1 := rfl

theorem dayOfMonth_le (day : Int) : dayOfMonth day ≤ 31 := by
  rw [dayOfMonth_eq, monthIndex]
  omega

theorem eq_of_yearOf_eq {day day' : Int} (hyear : (yearOf day).1 = (yearOf day').1)
    (hmonth : monthIndex day = monthIndex day') (hday : dayOfMonth day = dayOfMonth day') : day = day' := by
  rw [dayOfMonth_eq, dayOfMonth_eq, hmonth] at hday
  have hdays : (yearOf day).2 = (yearOf day').2 := by omega
  have hyears : ∀ d : Int, 0 ≤ (yearOf d).1 - (d + 305) / 146097 * 400 ∧
      (yearOf d).1 - (d + 305) / 146097 * 400 < 400 := by
    intro d
    simp only [yearOf]
    omega
  have hera : (day + 305) / 146097 = (day' + 305) / 146097 := by
    have := hyears day
    have := hyears day'
    omega
  simp only [yearOf] at hyear hdays
  rw [hera, Int.add_right_inj] at hyear
  rw [hyear, Int.sub_left_inj] at hdays
  omega

theorem length_padded (width n : Nat) : (padded width n).length = width := by
  induction width generalizing n with
  | zero => rfl
  | succ width ih => rw [padded, List.length_append, ih, List.length_singleton]

theorem padded_injective {width n m : Nat} (hn : n < 10 ^ width) (hm : m < 10 ^ width)
    (h : padded width n = padded width m) : n = m := by
  have hdigit : ∀ a < 10, ∀ b < 10, Nat.digitChar a = Nat.digitChar b → a = b := by decide
  induction width generalizing n m with
  | zero => omega
  | succ width ih =>
    rw [padded, padded] at h
    obtain ⟨hrest, hlast⟩ := List.append_inj h (by rw [length_padded, length_padded])
    have hdiv := ih (by omega) (by omega) hrest
    have hmod := hdigit _ (Nat.mod_lt n (by decide)) _ (Nat.mod_lt m (by decide)) (List.cons.inj hlast).1
    omega

theorem padded_char {width n : Nat} {c : Char} (h : c ∈ padded width n) : c ∈ "0123456789".toList := by
  have hdigit : ∀ a < 10, Nat.digitChar a ∈ "0123456789".toList := by decide
  induction width generalizing n with
  | zero => cases h
  | succ width ih =>
    rcases List.mem_append.mp h with h | h
    · exact ih h
    · rw [List.mem_singleton.mp h]
      exact hdigit _ (Nat.mod_lt n (by decide))

theorem isoformat_char {day : Int} {c : Char} (h : c ∈ (isoformat day).toList) : c ∈ "0123456789-".toList := by
  have hsub : "0123456789".toList ⊆ "0123456789-".toList := by decide
  simp only [isoformat, String.toList_ofList, List.mem_append, List.mem_cons] at h
  rcases h with h | rfl | h | rfl | h
  · exact hsub (padded_char h)
  · decide
  · exact hsub (padded_char h)
  · decide
  · exact hsub (padded_char h)

theorem colon_notMem_isoformat (day : Int) : ':' ∉ (isoformat day).toList := by
  intro h
  exact absurd (isoformat_char h) (by decide)

theorem isoformat_injective {day day' : Int} (hday : IsDate day) (hday' : IsDate day')
    (h : isoformat day = isoformat day') : day = day' := by
  have hparts := String.ofList_injective h
  obtain ⟨hyear, hrest⟩ := List.append_inj hparts (by rw [length_padded, length_padded])
  obtain ⟨hmonth, hdom⟩ := List.append_inj (List.cons.inj hrest).2 (by rw [length_padded, length_padded])
  have hm := monthIndex_range day
  have hm' := monthIndex_range day'
  have hy := yearOf_fst_range hday
  have hy' := yearOf_fst_range hday'
  have hlast := yearOf_fst_lt hday
  have hlast' := yearOf_fst_lt hday'
  have hd := one_le_dayOfMonth day
  have hd' := one_le_dayOfMonth day'
  have hu := dayOfMonth_le day
  have hu' := dayOfMonth_le day'
  have hmonth := padded_injective (by split <;> omega) (by split <;> omega) hmonth
  have hyear := padded_injective (by split <;> omega) (by split <;> omega) hyear
  have hdom := padded_injective (by omega) (by omega) (List.cons.inj hdom).2
  have hmonths : monthIndex day = monthIndex day' := by
    split at hmonth <;> split at hmonth <;> omega
  refine eq_of_yearOf_eq ?_ hmonths (by omega)
  rw [hmonths] at hyear
  split at hyear <;> omega

example : [738945, 739981, 1, 3652059].map isoformat = ["2024-02-29", "2026-12-31", "0001-01-01", "9999-12-31"] := by
  decide

/-! ### Instants as texts -/

/-- The time of day, with the microseconds where there are some. -/
def timeText (t : Int) : List Char :=
  let micros := (t % dayLength).toNat
  let seconds := micros / 1000000
  padded 2 (seconds / 3600) ++ ':' :: (padded 2 (seconds / 60 % 60) ++ ':' :: (padded 2 (seconds % 60) ++
    if micros % 1000000 = 0 then [] else '.' :: padded 6 (micros % 1000000)))

/-- `isoformat()` of an instant in UTC. -/
def instantText (t : Int) : String :=
  String.ofList ((isoformat (dayOf t)).toList ++ 'T' :: (timeText t ++ "+00:00".toList))

example : [0, 1782864000000001].map instantText = ["1970-01-01T00:00:00+00:00", "2026-07-01T00:00:00.000001+00:00"] := by decide

theorem instantText_char {t : Int} {c : Char} (h : c ∈ (instantText t).toList) : c ∈ "0123456789-:.+T".toList := by
  have hsub : "0123456789".toList ⊆ "0123456789-:.+T".toList := by decide
  have hdate : "0123456789-".toList ⊆ "0123456789-:.+T".toList := by decide
  have hzone : "+00:00".toList ⊆ "0123456789-:.+T".toList := by decide
  simp only [instantText, timeText, String.toList_ofList, List.mem_append, List.mem_cons] at h
  rcases h with h | rfl | (h | rfl | h | rfl | h | h) | h
  · exact hdate (isoformat_char h)
  · decide
  · exact hsub (padded_char h)
  · decide
  · exact hsub (padded_char h)
  · decide
  · exact hsub (padded_char h)
  · split at h
    · cases h
    · rcases List.mem_cons.mp h with rfl | h
      · decide
      · exact hsub (padded_char h)
  · exact hzone h

/-! ### Dates from their parts -/

/-- The year and the month of the civil calendar. -/
def civilMonth (day : Int) : Int × Int :=
  let month := monthIndex day
  if month < 10 then ((yearOf day).1, month + 3) else ((yearOf day).1 + 1, month - 9)

/-- `date(year, month, day)`, or nothing where there is no such day. -/
def date? (year month day : Nat) : Option Int :=
  let marchYear : Int := if month < 3 then year - 1 else year
  let index : Int := if month < 3 then month + 9 else month - 3
  let ordinal := 365 * marchYear + marchYear / 4 - marchYear / 100 + marchYear / 400 + (153 * index + 2) / 5 + day - 306
  if 1 ≤ ordinal ∧ ordinal ≤ 3652059 ∧ civilMonth ordinal = ((year : Int), (month : Int)) ∧ dayOfMonth ordinal = day then
    some ordinal
  else none

example : [date? 2024 2 29, date? 2026 12 31, date? 2025 2 29, date? 2026 13 1, date? 2026 4 0, date? 9999 12 31] =
    [some 738945, some 739981, none, none, none, some 3652059] := by decide

end CestaPlan.Calendar
