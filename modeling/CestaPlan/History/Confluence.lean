import CestaPlan.History.LaneLedger

/-! When the order of arrival does not matter.

    Two orders of the same calls leave the same lane unless, at some instant, a fact whose decimals the
    columns change arrives along with nothing but its own stored form: the search compares the candidate
    as it came with the rows as they were kept. -/

namespace CestaPlan.History
open Anchors Ledger

theorem exists_perm_filterMap {α β : Type} {g : α → Option β} {l : List α} {xs : List β} (h : xs.Perm (l.filterMap g)) :
    ∃ l' : List α, l'.Perm l ∧ l'.filterMap g = xs := by
  induction l generalizing xs with
  | nil => exact ⟨[], List.Perm.nil, (List.perm_nil.mp h).symm⟩
  | cons a l ih =>
    rw [List.filterMap_cons] at h
    cases hg : g a with
    | none =>
      rw [hg] at h
      obtain ⟨l', hl', rfl⟩ := ih h
      exact ⟨a :: l', hl'.cons a, by rw [List.filterMap_cons, hg]⟩
    | some b =>
      rw [hg] at h
      obtain ⟨s, t, rfl⟩ := List.append_of_mem (h.mem_iff.mpr List.mem_cons_self)
      obtain ⟨l', hl', heq⟩ := ih ((List.perm_middle.symm.trans h).cons_inv)
      obtain ⟨l₁, l₂, rfl, rfl, rfl⟩ := List.filterMap_eq_append_iff.mp heq
      exact ⟨l₁ ++ a :: l₂, List.perm_middle.trans (hl'.cons a), by simp [List.filterMap_append, hg]⟩

/-- What is compared of a lane: fingerprint, interval and status of each live row. -/
def Db.picture (db : Db) (lane : Lane) : Set (PriceFact × Instant × Option Instant × VerificationStatus) :=
  {x | ∃ r ∈ db.live lane, x = (priceFactFingerprint r.toPriceFact, r.validFrom, r.validUntil, r.verificationStatus)}

def Db.conflicts (db : Db) (observationId : Nat) : Nat :=
  db.anomalies.countP fun a => a.priceObservationId = observationId && a.anomalyType = sameTimestampConflictType

/-! ### Anomalies -/

section Anomalies
variable {db db₁ db' : Db} {lane : Lane} {c : Candidate} {run : Option Int} {importedAt : Instant} {call : RecordCall}
  {calls : List RecordCall}

/-- Exactly the disputed rows of the lane carry an anomaly, and each carries one. -/
def Flagged (db : Db) (lane : Lane) : Prop := ∀ r ∈ db.live lane, db.conflicts r.id = if r.isDisputed then 1 else 0

theorem Db.Keyed.update (h : db.Keyed) {p : PriceObservation → Bool} {f : PriceObservation → PriceObservation}
    (hid : ∀ r, (f r).id = r.id) : (db.update p f).Keyed where
  ids := by
    have heq : (db.update p f).observations.map (·.id) = db.observations.map (·.id) := by
      simp only [Db.update, List.map_map]
      refine List.map_congr_left fun r _ => ?_
      by_cases hp : p r = true
      · simp [hp, hid]
      · simp [hp]
    rw [heq]
    exact h.ids
  fresh r hr := by
    obtain ⟨s, hs, rfl⟩ := List.mem_map.mp hr
    show (if p s then f s else s).id < db.nextObservationId
    by_cases hp : p s = true
    · rw [if_pos hp, hid]
      exact h.fresh s hs
    · rw [if_neg hp]
      exact h.fresh s hs
  anomalies := h.anomalies

theorem Db.Keyed.live_lt (h : db.Keyed) {r : PriceObservation} (hr : r ∈ db.live lane) : r.id < db.nextObservationId :=
  h.fresh r (Db.mem_live.mp hr).1

theorem Db.Keyed.live_nodup (h : db.Keyed) : ((db.live lane).map (·.id)).Nodup :=
  h.ids.sublist (List.filter_sublist.map _)

theorem Db.Keyed.insert (h : db.Keyed) {r : PriceObservation} {d : Bool} (hid : r.id = db.nextObservationId) :
    (db.insert r d).Keyed where
  ids := by
    show ((db.observations ++ [r]).map (·.id)).Nodup
    rw [List.map_append, List.nodup_append]
    refine ⟨h.ids, by simp, fun a ha b hb heq => ?_⟩
    obtain ⟨s, hs, rfl⟩ := List.mem_map.mp ha
    have := h.fresh s hs
    rw [List.map_singleton, List.mem_singleton] at hb
    omega
  fresh s hs := by
    show s.id < db.nextObservationId + 1
    rcases List.mem_append.mp hs with hs | hs
    · exact Nat.lt_succ_of_lt (h.fresh s hs)
    · rw [List.mem_singleton.mp hs, hid]
      exact Nat.lt_succ_self _
  anomalies a ha := by
    show a.priceObservationId < db.nextObservationId + 1
    cases d with
    | false => exact Nat.lt_succ_of_lt (h.anomalies a ha)
    | true =>
      rcases List.mem_append.mp ha with ha | ha
      · exact Nat.lt_succ_of_lt (h.anomalies a ha)
      · rw [List.mem_singleton.mp ha]
        show r.id < _
        rw [hid]
        exact Nat.lt_succ_self _

theorem Db.Keyed.conflictAt (h : db.Keyed) {t : Instant} : (db.conflictAt lane t).Keyed where
  ids := (h.update (f := PriceObservation.collapse) fun _ => rfl).ids
  fresh := (h.update (f := PriceObservation.collapse) fun _ => rfl).fresh
  anomalies a ha := by
    rcases List.mem_append.mp ha with ha | ha
    · exact h.anomalies a ha
    · obtain ⟨s, hs, rfl⟩ := List.mem_map.mp ha
      exact h.live_lt (List.mem_filter.mp (List.mem_filter.mp hs).1).1

theorem Db.Keyed.closeBefore (h : db.Keyed) {t : Instant} : (db.closeBefore lane t run).Keyed := h.update fun _ => rfl

theorem FactStep.keyed (h : FactStep db lane c run importedAt db₁) (hk : db.Keyed) : db₁.Keyed := by
  cases h with
  | reused => exact hk
  | conflicted => exact hk.conflictAt.insert rfl
  | placed => exact hk.closeBefore.insert rfl

theorem SameFacts.keyed (h : SameFacts db db') (hk : db.Keyed) : db'.Keyed := by
  refine ⟨?_, ?_, ?_⟩
  · rw [h.observations]; exact hk.ids
  · rw [h.observations, h.nextObservationId]; exact hk.fresh
  · rw [h.anomalies, h.nextObservationId]; exact hk.anomalies

theorem SameFacts.flagged (h : SameFacts db db') (hf : Flagged db lane) : Flagged db' lane := by
  unfold Flagged Db.conflicts at *
  rw [h.live, h.anomalies]
  exact hf

theorem Db.Keyed.conflicts_fresh (h : db.Keyed) {id : Nat} (hid : db.nextObservationId ≤ id) : db.conflicts id = 0 := by
  refine List.countP_eq_zero.mpr fun a ha => ?_
  have := h.anomalies a ha
  simp only [Bool.and_eq_true, decide_eq_true_eq, not_and]
  omega

theorem Db.conflicts_conflictAt (h : db.Keyed) {t : Instant} {r : PriceObservation} (hr : r ∈ db.live lane) :
    (db.conflictAt lane t).conflicts r.id = db.conflicts r.id + if r.validFrom = t && !r.isDisputed then 1 else 0 := by
  have hcount : ∀ rows : List PriceObservation, (rows.map fun e => conflictAnomaly e.id).countP
      (fun a => a.priceObservationId = r.id && a.anomalyType = sameTimestampConflictType) =
        (rows.map (·.id)).count r.id := by
    intro rows
    simp [List.count, List.countP_map, Function.comp_def, conflictAnomaly, beq_eq_decide]
  have hnodup : (((db.live lane).filter fun s => !s.isDisputed && s.validFrom = t).map (·.id)).Nodup :=
    h.live_nodup.sublist (List.filter_sublist.map _)
  have hmem : r.id ∈ ((db.live lane).filter fun s => !s.isDisputed && s.validFrom = t).map (·.id) ↔
      (r.validFrom = t && !r.isDisputed) = true := by
    rw [Bool.and_comm]
    constructor
    · intro hin
      obtain ⟨s, hs, heq⟩ := List.mem_map.mp hin
      obtain ⟨hs, hp⟩ := List.mem_filter.mp hs
      rwa [List.inj_on_of_nodup_map h.live_nodup hs hr heq] at hp
    · exact fun hp => List.mem_map_of_mem (List.mem_filter.mpr ⟨hr, hp⟩)
  show List.countP _ (db.anomalies ++ _) = _
  rw [List.countP_append, hcount, List.filter_filter, hnodup.count]
  simp only [hmem]
  rfl

theorem Db.conflicts_insert {r : PriceObservation} {d : Bool} {id : Nat} :
    (db.insert r d).conflicts id = db.conflicts id + if d = true ∧ r.id = id then 1 else 0 := by
  cases d with
  | false => simp [Db.insert, Db.conflicts]
  | true => simp [Db.insert, Db.conflicts, List.countP_append, conflictAnomaly]

theorem FactStep.flagged (h : FactStep db lane c run importedAt db₁) (hl : c.lane? = some lane)
    (hr : c.rolledBackAt = none) (hs : c.verificationStatus ≠ some .disputed) (hk : db.Keyed) (hf : Flagged db lane) :
    Flagged db₁ lane := by
  cases h with
  | reused => exact hf
  | conflicted hfits hnew hat =>
    intro r hmem
    rw [Db.live_insert (Candidate.row_lane hl) hr] at hmem
    rw [Db.conflicts_insert]
    rcases List.mem_append.mp hmem with hmem | hmem
    · rw [Db.live_conflictAt] at hmem
      obtain ⟨s, hmem', rfl⟩ := List.mem_map.mp hmem
      have hne : db.nextObservationId ≠ s.id := (hk.live_lt hmem').ne'
      simp only [PriceObservation.collapseAt_id, Candidate.row_id, hne, and_false, if_false, Nat.add_zero]
      rw [Db.conflicts_conflictAt hk hmem', hf s hmem']
      unfold PriceObservation.collapseAt
      cases hd : s.isDisputed <;> by_cases ht : s.validFrom = c.observedAt <;> simp [hd, ht]
    · rw [List.mem_singleton.mp hmem]
      have hzero : (db.conflictAt lane c.observedAt).conflicts db.nextObservationId = 0 :=
        hk.conflictAt.conflicts_fresh le_rfl
      simp [hzero]
  | placed hfits hnew hfree =>
    intro r hmem
    rw [Db.live_insert (Candidate.row_lane hl) hr] at hmem
    rw [Db.conflicts_insert]
    simp only [Bool.false_eq_true, false_and, if_false, Nat.add_zero]
    rcases List.mem_append.mp hmem with hmem | hmem
    · rw [Db.live_closeBefore] at hmem
      obtain ⟨s, hmem', rfl⟩ := List.mem_map.mp hmem
      rw [PriceObservation.closeAt_id, PriceObservation.closeAt_isDisputed]
      exact hf s hmem'
    · rw [List.mem_singleton.mp hmem, Candidate.row_isDisputed_false hfits hs]
      exact hk.closeBefore.conflicts_fresh le_rfl

theorem flagged_recordAll (hcalls : ∀ call ∈ calls, call.Fresh lane) (hk : db.Keyed) (hf : Flagged db lane) :
    Flagged (db.recordAll calls) lane := by
  induction calls generalizing db with
  | nil => exact hf
  | cons call calls ih =>
    have hfresh := hcalls call List.mem_cons_self
    have hboth : (db.record call).Keyed ∧ Flagged (db.record call) lane := by
      rcases record_step db hfresh.lane with heq | ⟨hr, -, db₁, hstep, hsame⟩
      · rw [heq]
        exact ⟨hk, hf⟩
      · exact ⟨hsame.keyed (hstep.keyed hk),
          hsame.flagged (hstep.flagged hfresh.lane hr hfresh.not_disputed hk hf)⟩
    exact ih (fun d hd => hcalls d (List.mem_cons_of_mem _ hd)) hboth.1 hboth.2

end Anomalies

/-! ### Pictures -/

section Pictures
variable {db : Db} {lane : Lane} {rows : List PriceObservation} {r : PriceObservation} {calls : List RecordCall}

def compared (x : (ℚ × PriceFact) × Span Instant) : PriceFact × Instant × Option Instant × VerificationStatus :=
  (x.1.2, x.2.since, x.2.till, if x.2.disputed then .disputed else .unverified)

theorem Represents.compared_eq (h : Represents rows) (hr : r ∈ rows) :
    (priceFactFingerprint r.toPriceFact, r.validFrom, r.validUntil, r.verificationStatus) =
      compared (r.toPriceFact.key, r.span) := by
  have hstatus : r.verificationStatus = if r.isDisputed then .disputed else .unverified := by
    cases hd : r.isDisputed with
    | false => exact h.statuses r hr hd
    | true => simpa [PriceObservation.isDisputed] using hd
  exact Prod.ext rfl (Prod.ext rfl (Prod.ext rfl hstatus))

theorem picture_eq_image (h : Represents (db.live lane)) :
    db.picture lane = compared '' factScheme.picture (ledger (db.live lane)) := by
  ext x
  constructor
  · rintro ⟨r, hr, rfl⟩
    refine ⟨_, ⟨r.recorded, List.mem_map_of_mem hr, rfl⟩, ?_⟩
    rw [← h.spans r hr, h.compared_eq hr]
    rfl
  · rintro ⟨_, ⟨f, hf, rfl⟩, rfl⟩
    obtain ⟨r, hr, rfl⟩ := List.mem_map.mp hf
    refine ⟨r, hr, ?_⟩
    rw [← h.spans r hr, h.compared_eq hr]
    rfl

theorem compared_injOn : Set.InjOn compared {x | x.1.1 = x.1.2.amount} := by
  rintro ⟨⟨a, f⟩, ⟨since, till, d⟩⟩ ha ⟨⟨b, g⟩, ⟨since', till', d'⟩⟩ hb heq
  simp only [compared, Prod.mk.injEq] at heq
  obtain ⟨rfl, rfl, rfl, hd⟩ := heq
  have hdd : d = d' := by cases d <;> cases d' <;> simp_all
  have hab : a = b := ha.trans hb.symm
  rw [hab, hdd]

theorem picture_subset : factScheme.picture (ledger rows) ⊆ {x | x.1.1 = x.1.2.amount} := by
  rintro _ ⟨f, hf, rfl⟩
  obtain ⟨r, hr, rfl⟩ := List.mem_map.mp hf
  exact r.columns.fingerprint_amount.symm

theorem picture_recordAll_eq_iff {xs ys : List RecordCall} (hempty : db.live lane = [])
    (hxs : ∀ call ∈ xs, call.Fresh lane) (hys : ∀ call ∈ ys, call.Fresh lane) :
    (db.recordAll xs).picture lane = (db.recordAll ys).picture lane ↔
      factScheme.picture (factScheme.offers [] (offeredFacts xs)) =
        factScheme.picture (factScheme.offers [] (offeredFacts ys)) := by
  obtain ⟨hx, hLx⟩ := represents_of_empty hempty hxs
  obtain ⟨hy, hLy⟩ := represents_of_empty hempty hys
  rw [picture_eq_image hx, picture_eq_image hy, compared_injOn.image_eq_image_iff picture_subset picture_subset, hLx, hLy]

/-- The lane that recording leaves does not depend on the order of arrival, and flags each disputed fact once,
    exactly when at no instant a fact that the columns change arrives with only its stored form beside it. -/
theorem recordAll_perm_iff (hk : db.Keyed) (hempty : db.live lane = []) (hcalls : ∀ call ∈ calls, call.Fresh lane) :
    (∀ xs ys : List RecordCall, xs.Perm calls → ys.Perm calls →
        (db.recordAll xs).picture lane = (db.recordAll ys).picture lane ∧
        (∀ r ∈ (db.recordAll xs).live lane, r.isDisputed = true → (db.recordAll xs).conflicts r.id = 1) ∧
        ∀ r ∈ (db.recordAll ys).live lane, r.isDisputed = true → (db.recordAll ys).conflicts r.id = 1) ↔
      ¬factScheme.Clashes (offeredFacts calls) := by
  have hperm : ∀ {xs : List RecordCall}, xs.Perm calls → ∀ call ∈ xs, call.Fresh lane :=
    fun hx call hmem => hcalls call (hx.mem_iff.mp hmem)
  have hflag : ∀ {xs : List RecordCall}, xs.Perm calls → ∀ r ∈ (db.recordAll xs).live lane, r.isDisputed = true →
      (db.recordAll xs).conflicts r.id = 1 := by
    intro xs hx r hr hd
    have hf : Flagged db lane := by
      intro r hr
      rw [hempty] at hr
      cases hr
    rw [flagged_recordAll (hperm hx) hk hf r hr, if_pos hd]
  rw [← Scheme.picture_perm_iff]
  constructor
  · intro h xs ys hx hy
    obtain ⟨xs', hx', rfl⟩ := exists_perm_filterMap hx
    obtain ⟨ys', hy', rfl⟩ := exists_perm_filterMap hy
    exact (picture_recordAll_eq_iff hempty (hperm hx') (hperm hy')).mp (h xs' ys' hx' hy').1
  · intro h xs ys hx hy
    refine ⟨(picture_recordAll_eq_iff hempty (hperm hx) (hperm hy)).mpr (h _ _ ?_ ?_), hflag hx, hflag hy⟩
    · exact hx.filterMap _
    · exact hy.filterMap _

theorem recordAll_perm_iff_milk :
    let calls := [milk 2 10 1, milk 3 10 2, milk 2 10 2, milk 4 20 2]
    (∀ xs ys : List RecordCall, xs.Perm calls → ys.Perm calls →
        (({} : Db).recordAll xs).picture milkLane = (({} : Db).recordAll ys).picture milkLane ∧
        (∀ r ∈ (({} : Db).recordAll xs).live milkLane, r.isDisputed = true → (({} : Db).recordAll xs).conflicts r.id = 1) ∧
        ∀ r ∈ (({} : Db).recordAll ys).live milkLane, r.isDisputed = true →
          (({} : Db).recordAll ys).conflicts r.id = 1) ↔
      ¬factScheme.Clashes (offeredFacts calls) :=
  recordAll_perm_iff ⟨List.nodup_nil, by simp, by simp⟩ rfl (by simp [milk_fresh])

/-- A price with more decimals than the column, and the price that the column makes of it, at one instant:
    the first order leaves one price, the second one a conflict. -/
theorem recordAll_perm_ne :
    (({} : Db).recordAll [milk (20999999999999996 / 10 ^ 16) 10 1, milk (21 / 10) 10 2]).picture milkLane ≠
      (({} : Db).recordAll [milk (21 / 10) 10 2, milk (20999999999999996 / 10 ^ 16) 10 1]).picture milkLane := by
  have hfirst : ∃ r ∈ (({} : Db).recordAll
      [milk (20999999999999996 / 10 ^ 16) 10 1, milk (21 / 10) 10 2]).live milkLane,
      r.verificationStatus = .unverified := by decide +kernel
  have hsecond : ∀ r ∈ (({} : Db).recordAll
      [milk (21 / 10) 10 2, milk (20999999999999996 / 10 ^ 16) 10 1]).live milkLane,
      r.verificationStatus = .disputed := by decide +kernel
  intro heq
  obtain ⟨r, hr, hs⟩ := hfirst
  have hmem : (priceFactFingerprint r.toPriceFact, r.validFrom, r.validUntil, r.verificationStatus) ∈
      (({} : Db).recordAll [milk (21 / 10) 10 2, milk (20999999999999996 / 10 ^ 16) 10 1]).picture milkLane :=
    heq ▸ ⟨r, hr, rfl⟩
  obtain ⟨r', hr', he⟩ := hmem
  have hdisputed := hsecond r' hr'
  have hsame : r.verificationStatus = r'.verificationStatus := congrArg (fun x => x.2.2.2) he
  rw [hs, hdisputed] at hsame
  cases hsame

end Pictures

end CestaPlan.History
