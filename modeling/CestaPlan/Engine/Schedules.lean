import CestaPlan.Engine.Scheduling
import CestaPlan.Library.Spreading
import Mathlib.Data.Prod.Lex

/-! What a schedule gives to each requirement. The three ways of placing its meals are spreads over the days it goes by, and each
    of them is level. -/

namespace CestaPlan.Engine
open Spreading

/-- The days a requirement goes by: its selected dates, else its preferred days, else all of the range. -/
def MealRequirementDTO.days (req : MealRequirementDTO) (range : List Date) : List Date :=
  let selected := req.selectedDates.getD []
  let days := req.preferredDays.getD []
  let preferred := range.filter fun d => (days.map weekdayIndex).contains (weekday d)
  if selected ≠ [] then selected else if days ≠ [] ∧ preferred ≠ [] then preferred else range

/-- An empty slot for a meal of the requirement. -/
def MealRequirementDTO.slot (req : MealRequirementDTO) (date : Date) : MealSlot :=
  { index := 0
    date := date
    mealType := req.mealType
    servings := req.defaultServings
    maximumPreparationMinutes := req.maximumPreparationMinutes
    requiresTupper := req.requiresTupper
    reheatingAvailable := req.reheatingAvailable }

/-- The dates that a requirement gets, in a range that ends on its first day if it is reversed. -/
structure MealRequirementDTO.Placed (req : MealRequirementDTO) (start stop : Date) (dates : List Date) : Prop where
  counted : dates.length = req.requestedCount
  selected : req.selectedDates.getD [] ≠ [] → ∀ d ∈ dates, d ∈ req.selectedDates.getD []
  inside : req.selectedDates.getD [] = [] → ∀ d ∈ dates, start ≤ d ∧ d ≤ max start stop
  level : (req.selectedDates.getD []).Nodup → ∀ a ∈ req.days (datesInRange start stop), ∀ b ∈ req.days (datesInRange start stop),
    dates.count a ≤ dates.count b + 1
  once : (req.selectedDates.getD []).Nodup → req.requestedCount ≤ (req.days (datesInRange start stop)).length → dates.Nodup

/-- A schedule is made of the slots of each requirement, in order and numbered. -/
structure Scheduled (requirements : List MealRequirementDTO) (start stop : Date) (slots : List MealSlot) : Prop where
  shares : ∃ dates : List (List Date), List.Forall₂ (·.Placed start stop ·) requirements dates ∧
    (slots.map fun s => { s with index := 0 }).Perm (List.zipWith (fun req ds => ds.map req.slot) requirements dates).flatten
  indexed : slots.map (·.index) = List.range slots.length
  sorted : slots.Pairwise MealSlot.upTo

section Dates
variable {req : MealRequirementDTO} {pool : List Date} {start stop d : Date}

theorem datesInRange_of_le {start stop : Int} (h : start ≤ stop) :
    datesInRange start stop = (List.range ((stop - start).toNat + 1)).map fun i : Nat => start + (i : Int) := by
  unfold datesInRange
  rw [if_neg (not_lt.mpr h)]
  simp [List.map_eq_flatMap, List.flatMap_assoc]

theorem mem_datesInRange {start stop d : Int} : d ∈ datesInRange start stop ↔ start ≤ d ∧ d ≤ max start stop := by
  by_cases h : stop < start
  · unfold datesInRange
    rw [if_pos h, max_eq_left h.le, List.mem_singleton]
    omega
  · rw [datesInRange_of_le (not_lt.mp h), max_eq_right (not_lt.mp h)]
    simp only [List.mem_map, List.mem_range]
    constructor
    · rintro ⟨i, hi, rfl⟩
      omega
    · rintro ⟨hstart, hstop⟩
      exact ⟨(d - start).toNat, by omega, by omega⟩

theorem nodup_datesInRange : (datesInRange start stop).Nodup := by
  by_cases h : stop < start
  · unfold datesInRange
    rw [if_pos h]
    exact List.nodup_singleton _
  · rw [datesInRange_of_le (not_lt.mp h)]
    exact List.nodup_range.map fun i j hij => Int.ofNat_inj.mp (Int.add_left_cancel hij)

theorem datesInRange_ne_nil : datesInRange start stop ≠ [] :=
  List.ne_nil_of_mem (mem_datesInRange.mpr ⟨le_refl start, le_max_left _ _⟩)

theorem days_of_selected (h : req.selectedDates.getD [] ≠ []) : req.days pool = req.selectedDates.getD [] := if_pos h

theorem days_subset (h : req.selectedDates.getD [] = []) (hd : d ∈ req.days pool) : d ∈ pool := by
  simp only [MealRequirementDTO.days] at hd
  rw [if_neg (by simpa using h)] at hd
  split at hd
  · exact (List.mem_filter.mp hd).1
  · exact hd

theorem nodup_days (hselected : (req.selectedDates.getD []).Nodup) (hpool : pool.Nodup) : (req.days pool).Nodup := by
  simp only [MealRequirementDTO.days]
  split
  · exact hselected
  · split
    · exact hpool.filter _
    · exact hpool

theorem days_ne_nil (hpool : pool ≠ []) : req.days pool ≠ [] := by
  simp only [MealRequirementDTO.days]
  split
  · assumption
  · split
    · next h => exact h.2
    · exact hpool

theorem cycle_spread {source days : List Date} (hdays : source.Perm days) (hne : days ≠ []) (n : Nat) :
    ∃ rule, (∀ i < n, rule i < source.length) ∧ Level rule source.length n ∧ cycle source n = draws source rule n := by
  refine ⟨(· % source.length), fun i _ => Nat.mod_lt i ?_, level_mod _ _, rfl⟩
  exact List.length_pos_iff.mpr fun h => hne (List.nil_perm.mp (h ▸ hdays))

theorem pickDates_spread (hpool : pool ≠ []) : ∃ source rule, source.Perm (req.days pool) ∧
    (∀ i < req.requestedCount, rule i < source.length) ∧ Level rule source.length req.requestedCount ∧
    pickDates req pool = draws source rule req.requestedCount := by
  have hdays : req.days pool ≠ [] := days_ne_nil hpool
  simp only [pickDates]
  split
  · next hzero =>
    obtain ⟨rule, hrule, hlevel, -⟩ := cycle_spread (.refl (req.days pool)) hdays req.requestedCount
    exact ⟨req.days pool, rule, .refl _, hrule, hlevel, by rw [hzero]; rfl⟩
  · split
    · next hselected =>
      have hperm : ((req.selectedDates.getD []).insertionSort (· ≤ ·)).Perm (req.days pool) := by
        rw [days_of_selected hselected]
        exact List.perm_insertionSort _ _
      obtain ⟨rule, hspread⟩ := cycle_spread hperm hdays req.requestedCount
      exact ⟨_, rule, hperm, hspread⟩
    · next hselected =>
      split
      · next hpreferred =>
        have hsource : req.days pool = _ := if_neg hselected
        have hbranch : (if (pool.filter fun d => ((req.preferredDays.getD []).map weekdayIndex).contains (weekday d)) ≠ [] then
            pool.filter fun d => ((req.preferredDays.getD []).map weekdayIndex).contains (weekday d) else pool) = req.days pool := by
          rw [hsource]
          simp only [ne_eq, hpreferred, not_false_eq_true, true_and]
        obtain ⟨rule, hspread⟩ := cycle_spread (.refl (req.days pool)) hdays req.requestedCount
        exact ⟨req.days pool, rule, .refl _, hbranch ▸ hspread⟩
      · next hpreferred =>
        have hsource : req.days pool = pool := by
          unfold MealRequirementDTO.days
          rw [if_neg hselected, if_neg fun h => hpreferred h.1]
        split
        · next hauto =>
          refine ⟨pool, _, .of_eq hsource.symm, fun i hi => ?_, level_even _ _, rfl⟩
          have hlength : 0 < pool.length := List.length_pos_iff.mpr hpool
          rw [Nat.div_lt_iff_lt_mul (Nat.zero_lt_of_lt hi), Nat.mul_comm]
          exact Nat.mul_lt_mul_of_pos_left hi hlength
        · obtain ⟨rule, hspread⟩ := cycle_spread (.of_eq hsource.symm) (hsource ▸ hdays) req.requestedCount
          exact ⟨pool, rule, .of_eq hsource.symm, hspread⟩

theorem placed_pickDates (req : MealRequirementDTO) (start stop : Date) :
    req.Placed start stop (pickDates req (datesInRange start stop)) := by
  obtain ⟨source, rule, hperm, hrule, hlevel, hpicked⟩ := @pickDates_spread req _ (@datesInRange_ne_nil start stop)
  rw [hpicked]
  have hdays : ∀ d ∈ draws source rule req.requestedCount, d ∈ req.days (datesInRange start stop) :=
    fun d hd => hperm.subset (mem_of_mem_draws hd)
  refine ⟨length_draws hrule, fun h d hd => ?_, fun h d hd => ?_, fun hnodup a ha b hb => ?_, fun hnodup hcount => ?_⟩
  · exact days_of_selected h ▸ hdays d hd
  · exact mem_datesInRange.mp (days_subset h (hdays d hd))
  · have hsource : source.Nodup := hperm.nodup_iff.mpr (nodup_days hnodup nodup_datesInRange)
    exact hlevel.count_le hsource (hperm.mem_iff.mpr ha) (hperm.mem_iff.mpr hb)
  · have hsource : source.Nodup := hperm.nodup_iff.mpr (nodup_days hnodup nodup_datesInRange)
    exact hlevel.nodup hsource (hperm.length_eq ▸ hcount)

end Dates

section Slots

theorem upTo_iff {a b : MealSlot} :
    a.upTo b ↔ toLex (a.date, mealOrder a.mealType) ≤ toLex (b.date, mealOrder b.mealType) := by
  rw [Prod.Lex.toLex_le_toLex]
  rfl

instance : Std.Total MealSlot.upTo := ⟨fun a b => by simpa only [upTo_iff] using le_total _ _⟩

instance : IsTrans MealSlot MealSlot.upTo := ⟨fun _ _ _ hab hbc => upTo_iff.mpr ((upTo_iff.mp hab).trans (upTo_iff.mp hbc))⟩

theorem slot_unnumbered {requirements : List MealRequirementDTO} {dates : List (List Date)} {s : MealSlot}
    (h : s ∈ (List.zipWith (fun req ds => ds.map req.slot) requirements dates).flatten) : { s with index := 0 } = s := by
  obtain ⟨block, hblock, hs⟩ := List.mem_flatten.mp h
  rw [← List.map_uncurry_zip_eq_zipWith] at hblock
  obtain ⟨⟨req, ds⟩, -, rfl⟩ := List.mem_map.mp hblock
  obtain ⟨d, -, rfl⟩ := List.mem_map.mp hs
  rfl

theorem scheduled_numbered {requirements : List MealRequirementDTO} {start stop : Date} {dates : List (List Date)}
    {slots : List MealSlot} (hplaced : List.Forall₂ (·.Placed start stop ·) requirements dates)
    (hslots : slots.Perm (List.zipWith (fun req ds => ds.map req.slot) requirements dates).flatten)
    (hsorted : slots.Pairwise MealSlot.upTo) :
    Scheduled requirements start stop (slots.zipIdx.map fun p => { p.1 with index := p.2 }) := by
  have hfst : slots.zipIdx.map Prod.fst = slots := List.zipIdx_map_fst 0 slots
  refine ⟨⟨dates, hplaced, ?_⟩, ?_, ?_⟩
  · have hback : (slots.zipIdx.map fun p => { p.1 with index := p.2 }).map (fun s : MealSlot => { s with index := 0 }) = slots :=
      calc _ = (slots.zipIdx.map Prod.fst).map (fun s => { s with index := 0 }) := by rw [List.map_map, List.map_map]; rfl
        _ = slots.map (fun s => { s with index := 0 }) := by rw [hfst]
        _ = slots := (List.map_congr_left fun s hs => slot_unnumbered (hslots.subset hs)).trans (List.map_id slots)
    rw [hback]
    exact hslots
  · rw [List.map_map, List.length_map, List.length_zipIdx, List.range_eq_range', ← List.zipIdx_map_snd]
    rfl
  · rw [← hfst, List.pairwise_map] at hsorted
    exact List.pairwise_map.mpr hsorted

/-- For all requirements and every range, a schedule has the slots that each requirement asks for, on its days. -/
theorem schedule_scheduled (requirements : List MealRequirementDTO) (start stop : Date) :
    Scheduled requirements start stop (schedule requirements (start, stop)) := by
  let dates := requirements.map fun req => pickDates req (datesInRange start stop)
  have hplaced : List.Forall₂ (·.Placed start stop ·) requirements dates := by
    rw [List.forall₂_map_right_iff, List.forall₂_same]
    exact fun req _ => placed_pickDates req start stop
  have hblocks : (List.zipWith (fun req ds => ds.map req.slot) requirements dates).flatten =
      requirements.flatMap fun req => (pickDates req (datesInRange start stop)).map req.slot := by
    rw [List.zipWith_map_right, List.zipWith_self, List.flatMap_def]
  exact scheduled_numbered hplaced (hblocks ▸ List.perm_insertionSort _ _) (List.pairwise_insertionSort _ _)

/-- A lunch out on the day after the week. -/
def lunchOut : MealRequirementDTO := { mealType := .lunch, requestedCount := 1, selectedDates := some [739824] }

theorem not_inside_lunchOut : (lunchOut.requestedCount, (schedule [lunchOut] (739817, 739823)).map (·.date)) = (1, [739824]) ∧
    ¬ ∀ s ∈ schedule [lunchOut] (739817, 739823), (739817 : Int) ≤ s.date ∧ s.date ≤ (739823 : Int) := by
  constructor <;> decide +kernel

end Slots

end CestaPlan.Engine
