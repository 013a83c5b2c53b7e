import CestaPlan.History.Model
import Mathlib.Data.List.Sort
import Mathlib.Algebra.BigOperators.Group.List.Basic

/-! The temporal invariants of a history lane (`services/price_history_lane.py`).

    `laneInvariantReport` counts violations as the auditor does. `LaneHolds` says the same of one lane
    in words: active rows start at distinct instants, have positive length, and each ends before the
    next row that is active or disputed; disputed rows are empty. -/

namespace CestaPlan.History

/-- `itertools.pairwise`. -/
def pairwise {α : Type} : List α → List (α × α)
  | a :: b :: l => (a, b) :: pairwise (b :: l)
  | _ => []

def groupByLane (rows : List PriceObservation) : List (List PriceObservation) :=
  (rows.map (·.lane)).eraseDups.map fun lane => rows.filter (·.lane = lane)

namespace PriceObservation

def isDisputed (r : PriceObservation) : Bool := r.verificationStatus == .disputed

def endsBy (r : PriceObservation) (t : Instant) : Bool :=
  match r.validUntil with
  | none => false
  | some u => u ≤ t

end PriceObservation

/-! ### The report -/

section Lane
variable (rows : List PriceObservation)

def activeRows : List PriceObservation := rows.filter fun r => !r.isDisputed

def disputedRows : List PriceObservation := rows.filter (·.isDisputed)

def multipleOpen : Bool := 1 < ((activeRows rows).filter (·.validUntil.isNone)).length

def repeatedTimestamp : Bool := !decide ((activeRows rows).map (·.validFrom)).Nodup

def overlappingIntervals : Bool :=
  (pairwise ((activeRows rows).insertionSort (·.validFrom ≤ ·.validFrom))).any fun (a, b) => !a.endsBy b.validFrom

def nonPositiveIntervals : Nat :=
  ((activeRows rows).filter fun r => r.validUntil.any fun u => !decide (r.validFrom < u)).length

def nonEmptyDisputed : Nat := ((disputedRows rows).filter fun r => r.validUntil != some r.validFrom).length

def barriers : List Instant := ((disputedRows rows).map (·.validFrom)).eraseDups

/-- The active rows whose interval strictly contains `d`. -/
def crossers (d : Instant) : List PriceObservation :=
  (activeRows rows).filter fun a => a.validFrom < d && !a.endsBy d

end Lane

structure LaneReport where
  lanes : Nat
  rows : Nat
  lanesMultipleOpen : Nat
  lanesRepeatedTimestamp : Nat
  lanesOverlappingIntervals : Nat
  rowsNonPositiveInterval : Nat
  disputedRowsNonEmpty : Nat
  lanesActiveIntervalCrossesDisputed : Nat
  activeIntervalsCrossingDisputed : Nat
  lanesWithUnexpectedConflictCoverage : Nat
  blockedGapCount : Nat
deriving DecidableEq, Repr

def laneInvariantReport (rows : List PriceObservation) : LaneReport :=
  let lanes := groupByLane rows
  { lanes := lanes.length
    rows := rows.length
    lanesMultipleOpen := (lanes.filter multipleOpen).length
    lanesRepeatedTimestamp := (lanes.filter repeatedTimestamp).length
    lanesOverlappingIntervals := (lanes.filter overlappingIntervals).length
    rowsNonPositiveInterval := (lanes.map nonPositiveIntervals).sum
    disputedRowsNonEmpty := (lanes.map nonEmptyDisputed).sum
    lanesActiveIntervalCrossesDisputed :=
      (lanes.filter fun l => (barriers l).any fun d => !(crossers l d).isEmpty).length
    activeIntervalsCrossingDisputed :=
      (lanes.map fun l => ((barriers l).map fun d => (crossers l d).length).sum).sum
    lanesWithUnexpectedConflictCoverage :=
      (lanes.filter fun l => (barriers l).any fun d => (crossers l d).any (·.validUntil.isNone)).length
    blockedGapCount := (lanes.map fun l => ((barriers l).filter fun d => (crossers l d).isEmpty).length).sum }

def laneInvariantsHold (rows : List PriceObservation) : Bool :=
  let r := laneInvariantReport rows
  r.lanesMultipleOpen == 0 && r.lanesRepeatedTimestamp == 0 && r.lanesOverlappingIntervals == 0 &&
    r.rowsNonPositiveInterval == 0 && r.disputedRowsNonEmpty == 0 && r.activeIntervalsCrossingDisputed == 0

/-! ### The report in words -/

structure LaneHolds (rows : List PriceObservation) : Prop where
  distinct : ((activeRows rows).map (·.validFrom)).Nodup
  chained : ∀ a ∈ activeRows rows, ∀ b ∈ activeRows rows, a.validFrom < b.validFrom → a.endsBy b.validFrom
  positive : ∀ r ∈ activeRows rows, ∀ u, r.validUntil = some u → r.validFrom < u
  empty : ∀ r ∈ disputedRows rows, r.validUntil = some r.validFrom
  clear : ∀ a ∈ activeRows rows, ∀ d ∈ disputedRows rows, a.validFrom < d.validFrom → a.endsBy d.validFrom

section
variable {rows : List PriceObservation} {r : PriceObservation} {t : Instant}

theorem PriceObservation.endsBy_iff : r.endsBy t = true ↔ ∃ u, r.validUntil = some u ∧ u ≤ t := by
  unfold PriceObservation.endsBy
  split <;> simp [*]

theorem PriceObservation.endsBy_mono {t' : Instant} (h : r.endsBy t = true) (hle : t ≤ t') : r.endsBy t' = true := by
  obtain ⟨u, hu, hut⟩ := PriceObservation.endsBy_iff.mp h
  exact PriceObservation.endsBy_iff.mpr ⟨u, hu, hut.trans hle⟩

theorem mem_activeRows : r ∈ activeRows rows ↔ r ∈ rows ∧ r.isDisputed = false := by
  simp [activeRows]

theorem mem_disputedRows : r ∈ disputedRows rows ↔ r ∈ rows ∧ r.isDisputed = true := by
  simp [disputedRows]

theorem mem_barriers : t ∈ barriers rows ↔ ∃ d ∈ disputedRows rows, d.validFrom = t := by
  simp [barriers]

theorem mem_pairwise_iff_isChain {α : Type} {R : α → α → Prop} :
    ∀ {l : List α}, (∀ p ∈ pairwise l, R p.1 p.2) ↔ l.IsChain R
  | [] => by simp [pairwise]
  | [_] => by simp [pairwise]
  | a :: b :: l => by
    rw [List.isChain_cons_cons, ← mem_pairwise_iff_isChain (l := b :: l)]
    simp [pairwise]

theorem chained_of_isChain {l : List PriceObservation} (hs : l.Pairwise (·.validFrom ≤ ·.validFrom))
    (hc : l.IsChain fun a b => a.endsBy b.validFrom = true) :
    ∀ a ∈ l, ∀ b ∈ l, a.validFrom < b.validFrom → a.endsBy b.validFrom = true := by
  have hboth : l.IsChain fun a b => a.endsBy b.validFrom = true ∧ a.validFrom ≤ b.validFrom :=
    mem_pairwise_iff_isChain.mp fun p hp =>
      ⟨mem_pairwise_iff_isChain.mpr hc p hp, mem_pairwise_iff_isChain.mpr hs.isChain p hp⟩
  have : IsTrans PriceObservation fun a b => a.endsBy b.validFrom = true ∧ a.validFrom ≤ b.validFrom :=
    ⟨fun _ _ _ h₁ h₂ => ⟨PriceObservation.endsBy_mono h₁.1 h₂.2, h₁.2.trans h₂.2⟩⟩
  have hpair := List.isChain_iff_pairwise.mp hboth
  have hsymm : Std.Symm fun a b : PriceObservation => (a.validFrom < b.validFrom → a.endsBy b.validFrom = true) ∧
      (b.validFrom < a.validFrom → b.endsBy a.validFrom = true) := ⟨fun _ _ h => ⟨h.2, h.1⟩⟩
  have hboth' := hpair.imp (S := fun a b => (a.validFrom < b.validFrom → a.endsBy b.validFrom = true) ∧
      (b.validFrom < a.validFrom → b.endsBy a.validFrom = true))
    fun h => ⟨fun _ => h.1, fun hlt => absurd hlt (not_lt_of_ge h.2)⟩
  intro a ha b hb
  exact (hboth'.forall_of_forall (fun x _ => by simp) ha hb).1

theorem overlappingIntervals_eq_false (hd : ((activeRows rows).map (·.validFrom)).Nodup) :
    overlappingIntervals rows = false ↔
      ∀ a ∈ activeRows rows, ∀ b ∈ activeRows rows, a.validFrom < b.validFrom → a.endsBy b.validFrom := by
  have hperm := List.perm_insertionSort (fun a b : PriceObservation => a.validFrom ≤ b.validFrom) (activeRows rows)
  have htotal : Std.Total fun a b : PriceObservation => a.validFrom ≤ b.validFrom := ⟨fun a b => Int.le_total _ _⟩
  have htrans : IsTrans PriceObservation fun a b => a.validFrom ≤ b.validFrom := ⟨fun _ _ _ => Int.le_trans⟩
  have hsort := List.pairwise_insertionSort (fun a b : PriceObservation => a.validFrom ≤ b.validFrom) (activeRows rows)
  have hchain : overlappingIntervals rows = false ↔
      ((activeRows rows).insertionSort (·.validFrom ≤ ·.validFrom)).IsChain
        fun a b => a.endsBy b.validFrom = true := by
    rw [← mem_pairwise_iff_isChain, overlappingIntervals, List.any_eq_false]
    simp
  rw [hchain]
  constructor
  · intro hc a ha b hb
    exact chained_of_isChain hsort hc a (hperm.mem_iff.mpr ha) b (hperm.mem_iff.mpr hb)
  · intro h
    have hne : ((activeRows rows).insertionSort (·.validFrom ≤ ·.validFrom)).Pairwise
        fun a b => a.validFrom ≠ b.validFrom := by
      rw [← List.pairwise_map]
      exact (hperm.map _).nodup_iff.mpr hd
    refine List.Pairwise.isChain (List.Pairwise.imp_of_mem ?_ (hsort.and hne))
    intro a b ha hb hab
    exact h a (hperm.mem_iff.mp ha) b (hperm.mem_iff.mp hb) (lt_of_le_of_ne hab.1 hab.2)

/-- Two open rows run into each other, so the other invariants leave at most one. -/
theorem LaneHolds.multipleOpen (h : LaneHolds rows) : multipleOpen rows = false := by
  rw [History.multipleOpen, decide_eq_false_iff_not, not_lt]
  by_contra hlt
  push Not at hlt
  have hsub : (((activeRows rows).filter (·.validUntil.isNone)).map (·.validFrom)).Nodup :=
    h.distinct.sublist (List.filter_sublist.map _)
  match hl : (activeRows rows).filter (·.validUntil.isNone) with
  | [] => rw [hl] at hlt; simp at hlt
  | [_] => rw [hl] at hlt; simp at hlt
  | a :: b :: l =>
    have ha := List.mem_filter.mp (hl ▸ List.mem_cons_self : a ∈ (activeRows rows).filter (·.validUntil.isNone))
    have hb := List.mem_filter.mp
      (hl ▸ List.mem_cons_of_mem _ List.mem_cons_self : b ∈ (activeRows rows).filter (·.validUntil.isNone))
    rw [hl] at hsub
    have hne : a.validFrom ≠ b.validFrom := by
      intro he
      simp [he] at hsub
    have hopen : ∀ {x : PriceObservation} {t : Instant}, x.validUntil.isNone = true → x.endsBy t = true → False := by
      intro x t hx he
      obtain ⟨u, hu, -⟩ := PriceObservation.endsBy_iff.mp he
      simp [hu] at hx
    rcases lt_or_gt_of_ne hne with hlt' | hlt'
    · exact hopen ha.2 (h.chained a ha.1 b hb.1 hlt')
    · exact hopen hb.2 (h.chained b hb.1 a ha.1 hlt')

/-- Rows that can stand beside others in one lane: no two of them start together, and every active row ends before the
    next one of the others. -/
structure Beside (rows others : List PriceObservation) : Prop where
  distinct : ∀ a ∈ activeRows rows, ∀ b ∈ activeRows others, a.validFrom ≠ b.validFrom
  before : ∀ a ∈ activeRows rows, ∀ b ∈ others, a.validFrom < b.validFrom → a.endsBy b.validFrom
  after : ∀ b ∈ activeRows others, ∀ a ∈ rows, b.validFrom < a.validFrom → b.endsBy a.validFrom

theorem LaneHolds.ends (h : LaneHolds rows) {a b : PriceObservation} (ha : a ∈ activeRows rows) (hb : b ∈ rows)
    (hlt : a.validFrom < b.validFrom) : a.endsBy b.validFrom = true := by
  cases hd : b.isDisputed with
  | false => exact h.chained a ha b (mem_activeRows.mpr ⟨hb, hd⟩) hlt
  | true => exact h.clear a ha b (mem_disputedRows.mpr ⟨hb, hd⟩) hlt

theorem laneHolds_append {others : List PriceObservation} :
    LaneHolds (rows ++ others) ↔ LaneHolds rows ∧ LaneHolds others ∧ Beside rows others := by
  have hact : activeRows (rows ++ others) = activeRows rows ++ activeRows others := List.filter_append rows others
  have hdis : disputedRows (rows ++ others) = disputedRows rows ++ disputedRows others := List.filter_append rows others
  constructor
  · intro h
    have hl : ∀ {a}, a ∈ activeRows rows → a ∈ activeRows (rows ++ others) := fun ha =>
      hact ▸ List.mem_append_left _ ha
    have hr : ∀ {a}, a ∈ activeRows others → a ∈ activeRows (rows ++ others) := fun ha =>
      hact ▸ List.mem_append_right _ ha
    have hends : ∀ {a b : PriceObservation}, a ∈ activeRows (rows ++ others) → b ∈ rows ++ others →
        a.validFrom < b.validFrom → a.endsBy b.validFrom = true := fun ha hb => h.ends ha hb
    have hdistinct := h.distinct
    rw [hact, List.map_append] at hdistinct
    obtain ⟨hdl, hdr, hdis'⟩ := List.nodup_append.mp hdistinct
    refine ⟨⟨hdl, ?_, ?_, ?_, ?_⟩, ⟨hdr, ?_, ?_, ?_, ?_⟩, ⟨?_, ?_, ?_⟩⟩
    · exact fun a ha b hb => h.chained a (hl ha) b (hl hb)
    · exact fun r hr' => h.positive r (hl hr')
    · exact fun d hd => h.empty d (hdis ▸ List.mem_append_left _ hd)
    · exact fun a ha d hd => h.clear a (hl ha) d (hdis ▸ List.mem_append_left _ hd)
    · exact fun a ha b hb => h.chained a (hr ha) b (hr hb)
    · exact fun r hr' => h.positive r (hr hr')
    · exact fun d hd => h.empty d (hdis ▸ List.mem_append_right _ hd)
    · exact fun a ha d hd => h.clear a (hr ha) d (hdis ▸ List.mem_append_right _ hd)
    · exact fun a ha b hb => hdis' _ (List.mem_map_of_mem ha) _ (List.mem_map_of_mem hb)
    · exact fun a ha b hb => hends (hl ha) (List.mem_append_right _ hb)
    · exact fun b hb a ha => hends (hr hb) (List.mem_append_left _ ha)
  · rintro ⟨hl, hr, hbeside⟩
    have hends : ∀ a ∈ activeRows (rows ++ others), ∀ b ∈ rows ++ others, a.validFrom < b.validFrom →
        a.endsBy b.validFrom = true := by
      intro a ha b hb hlt
      rw [hact] at ha
      rcases List.mem_append.mp ha with ha | ha <;> rcases List.mem_append.mp hb with hb | hb
      · exact hl.ends ha hb hlt
      · exact hbeside.before a ha b hb hlt
      · exact hbeside.after a ha b hb hlt
      · exact hr.ends ha hb hlt
    refine ⟨?_, fun a ha b hb => hends a ha b (mem_activeRows.mp hb).1, ?_, ?_,
      fun a ha d hd => hends a ha d (mem_disputedRows.mp hd).1⟩
    · rw [hact, List.map_append]
      refine List.nodup_append.mpr ⟨hl.distinct, hr.distinct, fun x hx y hy => ?_⟩
      obtain ⟨a, ha, rfl⟩ := List.mem_map.mp hx
      obtain ⟨b, hb, rfl⟩ := List.mem_map.mp hy
      exact hbeside.distinct a ha b hb
    · rw [hact]
      intro r hr'
      rcases List.mem_append.mp hr' with hr' | hr'
      · exact hl.positive r hr'
      · exact hr.positive r hr'
    · rw [hdis]
      intro d hd
      rcases List.mem_append.mp hd with hd | hd
      · exact hl.empty d hd
      · exact hr.empty d hd

theorem LaneHolds.perm {rows' : List PriceObservation} (h : LaneHolds rows) (hp : rows.Perm rows') : LaneHolds rows' := by
  have hact : (activeRows rows).Perm (activeRows rows') := hp.filter _
  have hdis : (disputedRows rows).Perm (disputedRows rows') := hp.filter _
  refine ⟨(hact.map _).nodup_iff.mp h.distinct, fun a ha b hb => ?_, fun r hr => ?_, fun d hd => ?_, fun a ha d hd => ?_⟩
  · exact h.chained a (hact.mem_iff.mpr ha) b (hact.mem_iff.mpr hb)
  · exact h.positive r (hact.mem_iff.mpr hr)
  · exact h.empty d (hdis.mem_iff.mpr hd)
  · exact h.clear a (hact.mem_iff.mpr ha) d (hdis.mem_iff.mpr hd)

theorem crossers_eq_nil : crossers rows t = [] ↔
    ∀ a ∈ activeRows rows, a.validFrom < t → a.endsBy t := by
  simp [crossers, List.filter_eq_nil_iff]

/-- The counts of one lane are zero exactly when its invariants hold. -/
theorem laneHolds_iff : LaneHolds rows ↔
    multipleOpen rows = false ∧ repeatedTimestamp rows = false ∧ overlappingIntervals rows = false ∧
      nonPositiveIntervals rows = 0 ∧ nonEmptyDisputed rows = 0 ∧
      ((barriers rows).map fun d => (crossers rows d).length).sum = 0 := by
  have hrep : repeatedTimestamp rows = false ↔ ((activeRows rows).map (·.validFrom)).Nodup := by
    simp [repeatedTimestamp]
  have hpos : nonPositiveIntervals rows = 0 ↔
      ∀ r ∈ activeRows rows, ∀ u, r.validUntil = some u → r.validFrom < u := by
    simp only [nonPositiveIntervals, List.length_eq_zero_iff, List.filter_eq_nil_iff]
    refine forall₂_congr fun r _ => ?_
    cases r.validUntil <;> simp
  have hemp : nonEmptyDisputed rows = 0 ↔ ∀ r ∈ disputedRows rows, r.validUntil = some r.validFrom := by
    simp [nonEmptyDisputed, List.filter_eq_nil_iff]
  have hcross : ((barriers rows).map fun d => (crossers rows d).length).sum = 0 ↔
      ∀ a ∈ activeRows rows, ∀ d ∈ disputedRows rows, a.validFrom < d.validFrom → a.endsBy d.validFrom := by
    rw [List.sum_eq_zero_iff]
    simp only [List.mem_map, mem_barriers, forall_exists_index, and_imp, forall_apply_eq_imp_iff₂,
      List.length_eq_zero_iff, crossers_eq_nil]
    exact ⟨fun h a ha d hd => h d hd a ha, fun h d hd a ha => h a ha d hd⟩
  constructor
  · intro h
    exact ⟨h.multipleOpen, hrep.mpr h.distinct, (overlappingIntervals_eq_false h.distinct).mpr h.chained,
      hpos.mpr h.positive, hemp.mpr h.empty, hcross.mpr h.clear⟩
  · rintro ⟨-, h₂, h₃, h₄, h₅, h₆⟩
    exact ⟨hrep.mp h₂, (overlappingIntervals_eq_false (hrep.mp h₂)).mp h₃, hpos.mp h₄, hemp.mp h₅, hcross.mp h₆⟩

theorem laneInvariantsHold_iff : laneInvariantsHold rows = true ↔ ∀ l ∈ groupByLane rows, LaneHolds l := by
  have hsum : ∀ f : List PriceObservation → Nat, ((groupByLane rows).map f).sum = 0 ↔
      ∀ l ∈ groupByLane rows, f l = 0 := fun f => by rw [List.sum_eq_zero_iff, List.forall_mem_map]
  simp only [laneInvariantsHold, laneInvariantReport, Bool.and_eq_true, beq_iff_eq, List.length_eq_zero_iff,
    List.filter_eq_nil_iff, hsum, Bool.not_eq_true, and_assoc]
  simp only [← forall₂_and, laneHolds_iff]

theorem groupByLane_of_lane {lane : Lane} (h : ∀ r ∈ rows, r.lane = lane) (hne : rows ≠ []) :
    groupByLane rows = [rows] := by
  have hmap : rows.map (·.lane) = List.replicate rows.length lane :=
    List.eq_replicate_iff.mpr ⟨List.length_map _, by simpa using h⟩
  obtain ⟨n, hn⟩ := Nat.exists_eq_succ_of_ne_zero (fun h0 => hne (List.length_eq_zero_iff.mp h0))
  have hdups : (List.replicate (n + 1) lane).eraseDups = [lane] := by
    rw [List.replicate_succ, List.eraseDups_cons]
    simp
  rw [groupByLane, hmap, hn, hdups]
  simpa using h

theorem laneInvariantsHold_of_lane {lane : Lane} (h : ∀ r ∈ rows, r.lane = lane) :
    laneInvariantsHold rows = true ↔ LaneHolds rows := by
  rw [laneInvariantsHold_iff]
  by_cases hne : rows = []
  · subst hne
    exact ⟨fun _ => ⟨by simp [activeRows], by simp [activeRows], by simp [activeRows], by simp [disputedRows],
      by simp [activeRows]⟩, fun _ => by simp [groupByLane]⟩
  · rw [groupByLane_of_lane h hne]
    simp

end
end CestaPlan.History
