import CestaPlan.History.RecordStep

/-! The chain of a lane, and that recording keeps it.

    The checker's invariants are not kept by themselves: a lane that passes may hold an active row at the
    instant of a disputed one, and the next fact after that instant leaves the active row open. The
    invariant that recording keeps also says that only disputed rows share an instant. -/

namespace CestaPlan.History
open Anchors

/-- The rows of one lane as recording leaves them. -/
structure Chained (rows : List PriceObservation) : Prop where
  alone : rows.Pairwise fun a b => a.validFrom = b.validFrom → a.isDisputed = true ∧ b.isDisputed = true
  chained : ∀ a ∈ activeRows rows, ∀ b ∈ rows, a.validFrom < b.validFrom → a.endsBy b.validFrom
  positive : ∀ r ∈ activeRows rows, ∀ u, r.validUntil = some u → r.validFrom < u
  empty : ∀ r ∈ disputedRows rows, r.validUntil = some r.validFrom

section Chained
variable {rows : List PriceObservation}

theorem Chained.nil : Chained [] :=
  ⟨List.Pairwise.nil, by simp [activeRows], by simp [activeRows], by simp [disputedRows]⟩

theorem Chained.active_ne (h : Chained rows) {a d : PriceObservation} (ha : a ∈ activeRows rows)
    (hd : d ∈ disputedRows rows) : a.validFrom ≠ d.validFrom := by
  obtain ⟨ha, hact⟩ := mem_activeRows.mp ha
  obtain ⟨hd, hdis⟩ := mem_disputedRows.mp hd
  intro heq
  have hsymm : Std.Symm fun a b : PriceObservation =>
      a.validFrom = b.validFrom → a.isDisputed = true ∧ b.isDisputed = true := ⟨fun _ _ h he => (h he.symm).symm⟩
  have hne : a ≠ d := by
    rintro rfl
    rw [hact] at hdis
    cases hdis
  have := (h.alone.forall ha hd hne heq).1
  rw [hact] at this
  cases this

theorem Chained.laneHolds (h : Chained rows) : LaneHolds rows where
  distinct := by
    rw [List.nodup_iff_pairwise_ne, List.pairwise_map]
    refine (h.alone.filter _).imp_of_mem fun {a b} ha hb hab heq => ?_
    have := (hab heq).1
    rw [(mem_activeRows.mp ha).2] at this
    cases this
  chained a ha b hb := h.chained a ha b (mem_activeRows.mp hb).1
  positive := h.positive
  empty := h.empty
  clear a ha d hd := h.chained a ha d (mem_disputedRows.mp hd).1

end Chained

/-! ### One call on the rows of its lane -/

def PriceObservation.collapseAt (t : Instant) (r : PriceObservation) : PriceObservation :=
  if r.validFrom = t && !r.isDisputed then r.collapse else r

/-- A row of `rows` after a new fact at `t`. -/
def PriceObservation.closeAt (rows : List PriceObservation) (t : Instant) (run : Option Int) (r : PriceObservation) :
    PriceObservation :=
  if endsRow rows t r then r.close t run else r

section Rows
variable {rows : List PriceObservation} {r : PriceObservation} {t : Instant} {run : Option Int}

@[simp] theorem PriceObservation.collapseAt_toPriceFact : (r.collapseAt t).toPriceFact = r.toPriceFact := by
  unfold PriceObservation.collapseAt; split <;> rfl

@[simp] theorem PriceObservation.collapseAt_id : (r.collapseAt t).id = r.id := by
  unfold PriceObservation.collapseAt; split <;> rfl

@[simp] theorem PriceObservation.collapseAt_validFrom : (r.collapseAt t).validFrom = r.validFrom := by
  unfold PriceObservation.collapseAt; split <;> rfl

@[simp] theorem PriceObservation.closeAt_toPriceFact : (r.closeAt rows t run).toPriceFact = r.toPriceFact := by
  unfold PriceObservation.closeAt; split <;> rfl

@[simp] theorem PriceObservation.closeAt_id : (r.closeAt rows t run).id = r.id := by
  unfold PriceObservation.closeAt; split <;> rfl

@[simp] theorem PriceObservation.closeAt_validFrom : (r.closeAt rows t run).validFrom = r.validFrom := by
  unfold PriceObservation.closeAt; split <;> rfl

@[simp] theorem PriceObservation.closeAt_isDisputed : (r.closeAt rows t run).isDisputed = r.isDisputed := by
  unfold PriceObservation.closeAt; split <;> rfl

theorem PriceObservation.collapseAt_of_eq (h : r.validFrom = t) : (r.collapseAt t).isDisputed = true := by
  unfold PriceObservation.collapseAt
  split
  · rfl
  · next hn => simpa [h] using hn

theorem PriceObservation.collapseAt_of_ne (h : r.validFrom ≠ t) : r.collapseAt t = r :=
  if_neg (by simp [h])

theorem PriceObservation.collapseAt_of_disputed (h : r.isDisputed = true) : r.collapseAt t = r :=
  if_neg (by simp [h])

theorem PriceObservation.collapseAt_active (h : (r.collapseAt t).isDisputed = false) :
    r.validFrom ≠ t ∧ r.collapseAt t = r := by
  have hne : r.validFrom ≠ t := fun he => by
    rw [PriceObservation.collapseAt_of_eq he] at h
    cases h
  exact ⟨hne, PriceObservation.collapseAt_of_ne hne⟩

theorem endsRow_iff : endsRow rows t r = true ↔
    previousAnchor (rows.map (·.validFrom)) t = some r.validFrom ∧
      ∀ d ∈ disputedRows rows, d.validFrom ≠ r.validFrom := by
  simp [endsRow]

end Rows

/-- What a call does to the live rows of its lane. -/
inductive LaneStep (rows : List PriceObservation) (c : Candidate) (run : Option Int) : List PriceObservation → Prop
  | reused {r : PriceObservation} (hr : r ∈ rows) (hk : r.toPriceFact.key = c.fact.key) : LaneStep rows c run rows
  | conflicted {importedAt : Instant} {id : Nat} (hfits : c.fact.fits = true)
      (hnew : ∀ r ∈ rows, r.toPriceFact.key ≠ c.fact.key) (hat : ∃ r ∈ rows, r.validFrom = c.observedAt) :
      LaneStep rows c run
        (rows.map (·.collapseAt c.observedAt) ++ [c.row (some c.observedAt) true importedAt id hfits])
  | placed {importedAt : Instant} {id : Nat} (hfits : c.fact.fits = true)
      (hnew : ∀ r ∈ rows, r.toPriceFact.key ≠ c.fact.key) (hfree : ∀ r ∈ rows, r.validFrom ≠ c.observedAt) :
      LaneStep rows c run (rows.map (·.closeAt rows c.observedAt run) ++
        [c.row (nextAnchor (rows.map (·.validFrom)) c.observedAt) false importedAt id hfits])

section Step
variable {db db₁ : Db} {lane lane' : Lane} {c : Candidate} {run : Option Int} {importedAt : Instant}
  {rows rows' : List PriceObservation}

theorem Db.live_conflictAt {t : Instant} : (db.conflictAt lane t).live lane = (db.live lane).map (·.collapseAt t) :=
  Db.live_update_in (fun _ => rfl) (fun _ => rfl)

theorem Db.live_closeBefore {t : Instant} :
    (db.closeBefore lane t run).live lane = (db.live lane).map (·.closeAt (db.live lane) t run) :=
  Db.live_update_in (fun _ => rfl) (fun _ => rfl)

theorem FactStep.laneStep (h : FactStep db lane c run importedAt db₁) (hl : c.lane? = some lane)
    (hr : c.rolledBackAt = none) : LaneStep (db.live lane) c run (db₁.live lane) := by
  cases h with
  | reused hmem hk => exact .reused hmem hk
  | conflicted hfits hnew hat =>
    rw [Db.live_insert (Candidate.row_lane hl) hr]
    rw [Db.live_conflictAt]
    exact .conflicted hfits hnew hat
  | placed hfits hnew hfree =>
    rw [Db.live_insert (Candidate.row_lane hl) hr]
    rw [Db.live_closeBefore]
    exact .placed hfits hnew hfree

theorem FactStep.live_of_ne (h : FactStep db lane c run importedAt db₁) (hl : c.lane? = some lane)
    (hne : lane' ≠ lane) : db₁.live lane' = db.live lane' := by
  cases h with
  | reused => rfl
  | conflicted =>
    rw [Db.live_insert_of_ne (by rw [Candidate.row_lane hl]; exact hne.symm)]
    exact Db.live_update_of_ne (fun _ => rfl) (fun _ => rfl) hne
  | placed =>
    rw [Db.live_insert_of_ne (by rw [Candidate.row_lane hl]; exact hne.symm)]
    exact Db.live_update_of_ne (fun _ => rfl) (fun _ => rfl) hne

theorem endsBy_of_not_endsRow (h : Chained rows) {t : Instant} {a : PriceObservation} (ha : a ∈ activeRows rows)
    (hlt : a.validFrom < t) (hends : endsRow rows t a = false) : a.endsBy t = true := by
  obtain ⟨harow, -⟩ := mem_activeRows.mp ha
  obtain ⟨p, hp, hle⟩ := le_previousAnchor (List.mem_map_of_mem (f := (·.validFrom)) harow) hlt
  obtain ⟨hpmem, hpt, -⟩ := previousAnchor_eq_some_iff.mp hp
  rcases eq_or_lt_of_le hle with rfl | hlt'
  · -- The row sits at the previous anchor: only a disputed row there would keep it open.
    have : endsRow rows t a = true := endsRow_iff.mpr ⟨hp, fun d hd he => h.active_ne ha hd he.symm⟩
    rw [hends] at this
    cases this
  · obtain ⟨b, hb, rfl⟩ := List.mem_map.mp hpmem
    exact PriceObservation.endsBy_mono (h.chained a ha b hb hlt') hpt.le

section
variable {id : Nat} {hfits : c.fact.fits = true} {t : Instant}

/-- One more fact at an instant of the lane: whatever sits there becomes disputed. -/
theorem chained_conflicted (hc : Chained rows) (hat : ∃ r ∈ rows, r.validFrom = c.observedAt) :
    Chained (rows.map (·.collapseAt c.observedAt) ++ [c.row (some c.observedAt) true importedAt id hfits]) := by
  have hactive : ∀ a ∈ activeRows (rows.map (·.collapseAt c.observedAt) ++
      [c.row (some c.observedAt) true importedAt id hfits]), a ∈ activeRows rows := by
    intro a ha
    obtain ⟨hmem, hdis⟩ := mem_activeRows.mp ha
    rcases List.mem_append.mp hmem with hmem | hmem
    · obtain ⟨r, hr, rfl⟩ := List.mem_map.mp hmem
      obtain ⟨-, heq⟩ := PriceObservation.collapseAt_active hdis
      rw [heq] at hdis ⊢
      exact mem_activeRows.mpr ⟨hr, hdis⟩
    · rw [List.mem_singleton.mp hmem] at hdis
      cases hdis
  refine ⟨List.pairwise_append.mpr ⟨?_, List.pairwise_singleton _ _, ?_⟩, fun a ha b hb hlt => ?_,
    fun r hr => hc.positive r (hactive r hr), fun r hr => ?_⟩
  · rw [List.pairwise_map]
    refine hc.alone.imp fun {a b} hab heq => ?_
    simp only [PriceObservation.collapseAt_validFrom] at heq
    obtain ⟨ha, hb⟩ := hab heq
    rw [PriceObservation.collapseAt_of_disputed ha, PriceObservation.collapseAt_of_disputed hb]
    exact ⟨ha, hb⟩
  · intro a ha b hb heq
    obtain ⟨r, -, rfl⟩ := List.mem_map.mp ha
    rw [List.mem_singleton.mp hb] at heq ⊢
    simp only [PriceObservation.collapseAt_validFrom, Candidate.row_validFrom] at heq
    exact ⟨PriceObservation.collapseAt_of_eq heq, Candidate.row_isDisputed_true⟩
  · rcases List.mem_append.mp hb with hb | hb
    · obtain ⟨r, hr, rfl⟩ := List.mem_map.mp hb
      simp only [PriceObservation.collapseAt_validFrom] at hlt ⊢
      exact hc.chained a (hactive a ha) r hr hlt
    · obtain ⟨s, hs, hst⟩ := hat
      rw [List.mem_singleton.mp hb, Candidate.row_validFrom, ← hst] at hlt ⊢
      exact hc.chained a (hactive a ha) s hs hlt
  · obtain ⟨hmem, hdis⟩ := mem_disputedRows.mp hr
    rcases List.mem_append.mp hmem with hmem | hmem
    · obtain ⟨s, hs, rfl⟩ := List.mem_map.mp hmem
      unfold PriceObservation.collapseAt at hdis ⊢
      split at hdis
      · next hcol => rw [if_pos hcol]; rfl
      · next hcol => rw [if_neg hcol]; exact hc.empty s (mem_disputedRows.mpr ⟨hs, hdis⟩)
    · rw [List.mem_singleton.mp hmem]
      rfl

theorem closeAt_cases (rows : List PriceObservation) (t : Instant) (run : Option Int) (a : PriceObservation) :
    (endsRow rows t a = false ∧ a.closeAt rows t run = a) ∨
      (endsRow rows t a = true ∧ a.closeAt rows t run = a.close t run) := by
  unfold PriceObservation.closeAt
  cases h : endsRow rows t a
  · exact Or.inl ⟨rfl, if_neg (by simp)⟩
  · exact Or.inr ⟨rfl, if_pos rfl⟩

theorem chained_placed (hc : Chained rows) (hfree : ∀ r ∈ rows, r.validFrom ≠ c.observedAt)
    (hs : c.verificationStatus ≠ some .disputed) :
    Chained (rows.map (·.closeAt rows c.observedAt run) ++
      [c.row (nextAnchor (rows.map (·.validFrom)) c.observedAt) false importedAt id hfits]) := by
  have hnew : (c.row (nextAnchor (rows.map (·.validFrom)) c.observedAt) false importedAt id hfits).isDisputed = false :=
    Candidate.row_isDisputed_false hfits hs
  refine ⟨List.pairwise_append.mpr ⟨?_, List.pairwise_singleton _ _, ?_⟩, fun a ha b hb hlt => ?_, fun a ha u hu => ?_,
    fun d hd => ?_⟩
  · rw [List.pairwise_map]
    exact hc.alone.imp fun {a b} hab heq => by simpa using hab (by simpa using heq)
  · intro a ha b hb heq
    obtain ⟨r, hr, rfl⟩ := List.mem_map.mp ha
    rw [List.mem_singleton.mp hb] at heq
    simp only [PriceObservation.closeAt_validFrom, Candidate.row_validFrom] at heq
    exact absurd heq (hfree r hr)
  · obtain ⟨hmem, hdis⟩ := mem_activeRows.mp ha
    rcases List.mem_append.mp hmem with hmem | hmem
    · obtain ⟨r, hr, rfl⟩ := List.mem_map.mp hmem
      simp only [PriceObservation.closeAt_isDisputed, PriceObservation.closeAt_validFrom] at hdis hlt
      have hract := mem_activeRows.mpr ⟨hr, hdis⟩
      rcases closeAt_cases rows c.observedAt run r with ⟨hends, heq⟩ | ⟨hends, heq⟩
      · rw [heq]
        rcases List.mem_append.mp hb with hb | hb
        · obtain ⟨s, hs, rfl⟩ := List.mem_map.mp hb
          simp only [PriceObservation.closeAt_validFrom] at hlt ⊢
          exact hc.chained r hract s hs hlt
        · rw [List.mem_singleton.mp hb, Candidate.row_validFrom] at hlt ⊢
          exact endsBy_of_not_endsRow hc hract hlt hends
      · -- The row now ends at the new fact, in front of every other later anchor.
        rw [heq]
        refine PriceObservation.endsBy_iff.mpr ⟨c.observedAt, rfl, ?_⟩
        obtain ⟨hmemp, hpt, hmax⟩ := previousAnchor_eq_some_iff.mp (endsRow_iff.mp hends).1
        rcases List.mem_append.mp hb with hb | hb
        · obtain ⟨s, hs, rfl⟩ := List.mem_map.mp hb
          simp only [PriceObservation.closeAt_validFrom] at hlt ⊢
          by_contra hc'
          exact absurd hlt (not_lt_of_ge (hmax s.validFrom (List.mem_map_of_mem hs) (lt_of_not_ge hc')))
        · rw [List.mem_singleton.mp hb]
          exact le_rfl
    · rw [List.mem_singleton.mp hmem] at hlt ⊢
      rcases List.mem_append.mp hb with hb | hb
      · obtain ⟨s, hs, rfl⟩ := List.mem_map.mp hb
        simp only [PriceObservation.closeAt_validFrom, Candidate.row_validFrom] at hlt ⊢
        obtain ⟨u, hu, hle⟩ := nextAnchor_le (List.mem_map_of_mem (f := (·.validFrom)) hs) hlt
        exact PriceObservation.endsBy_iff.mpr ⟨u, hu, hle⟩
      · rw [List.mem_singleton.mp hb] at hlt
        exact absurd hlt (lt_irrefl _)
  · obtain ⟨hmem, hdis⟩ := mem_activeRows.mp ha
    rcases List.mem_append.mp hmem with hmem | hmem
    · obtain ⟨r, hr, rfl⟩ := List.mem_map.mp hmem
      rcases closeAt_cases rows c.observedAt run r with ⟨hends, heq⟩ | ⟨hends, heq⟩
      · rw [heq] at hdis hu ⊢
        exact hc.positive r (mem_activeRows.mpr ⟨hr, hdis⟩) u hu
      · rw [heq] at hu ⊢
        obtain rfl := Option.some.inj hu
        exact previousAnchor_lt (endsRow_iff.mp hends).1
    · rw [List.mem_singleton.mp hmem] at hu ⊢
      exact nextAnchor_lt hu
  · obtain ⟨hmem, hdis⟩ := mem_disputedRows.mp hd
    rcases List.mem_append.mp hmem with hmem | hmem
    · obtain ⟨r, hr, rfl⟩ := List.mem_map.mp hmem
      rw [PriceObservation.closeAt_isDisputed] at hdis
      have hrdis := mem_disputedRows.mpr ⟨hr, hdis⟩
      rcases closeAt_cases rows c.observedAt run r with ⟨-, heq⟩ | ⟨hends, -⟩
      · rw [heq]
        exact hc.empty r hrdis
      · exact absurd rfl ((endsRow_iff.mp hends).2 r hrdis)
    · rw [List.mem_singleton.mp hmem, hnew] at hdis
      cases hdis

end

theorem LaneStep.chained (h : LaneStep rows c run rows') (hc : Chained rows)
    (hs : c.verificationStatus ≠ some .disputed) : Chained rows' := by
  cases h with
  | reused => exact hc
  | conflicted _ _ hat => exact chained_conflicted hc hat
  | placed _ _ hfree => exact chained_placed hc hfree hs

end Step

/-! ### Runs of calls -/

section Run
variable {db : Db} {lane lane' : Lane} {call : RecordCall} {calls : List RecordCall}

theorem chained_record (hl : call.candidate.lane? = some lane)
    (hs : call.candidate.verificationStatus ≠ some .disputed) (hc : Chained (db.live lane)) :
    Chained ((db.record call).live lane) := by
  rcases record_step db hl with heq | ⟨hr, -, db₁, hstep, hsame⟩
  · rw [heq]
    exact hc
  · rw [hsame.live]
    exact (hstep.laneStep hl hr).chained hc hs

theorem live_record_of_ne (hl : call.candidate.lane? = some lane) (hne : lane' ≠ lane) :
    (db.record call).live lane' = db.live lane' := by
  rcases record_step db hl with heq | ⟨-, -, db₁, hstep, hsame⟩
  · rw [heq]
  · rw [hsame.live]
    exact hstep.live_of_ne hl hne

theorem chained_recordAll (hc : Chained (db.live lane)) (hl : ∀ call ∈ calls, call.candidate.lane? = some lane)
    (hs : ∀ call ∈ calls, call.candidate.verificationStatus ≠ some .disputed) :
    Chained ((db.recordAll calls).live lane) := by
  induction calls generalizing db with
  | nil => exact hc
  | cons call calls ih =>
    exact ih (chained_record (hl call List.mem_cons_self) (hs call List.mem_cons_self) hc)
      (fun d hd => hl d (List.mem_cons_of_mem _ hd)) (fun d hd => hs d (List.mem_cons_of_mem _ hd))

theorem lane_of_mem_live {r : PriceObservation} (h : r ∈ db.live lane) : r.lane = lane := (Db.mem_live.mp h).2.1

/-- After any calls on an empty lane, arriving in any order, the lane passes the checker, and the preflight
    stops no further call on it. -/
theorem laneInvariantsHold_recordAll (hempty : db.live lane = [])
    (hl : ∀ call ∈ calls, call.candidate.lane? = some lane)
    (hs : ∀ call ∈ calls, call.candidate.verificationStatus ≠ some .disputed) :
    laneInvariantsHold ((db.recordAll calls).live lane) = true ∧
      ∀ next : RecordCall, next.candidate.lane? = some lane → ∀ causes,
        recordPriceFact (db.recordAll calls) next.candidate next.provenance next.importedAt ≠
          .error (.preexistingHistoryLaneAnomaly causes) := by
  have hc : Chained ((db.recordAll calls).live lane) := chained_recordAll (by rw [hempty]; exact Chained.nil) hl hs
  have hh := (laneInvariantsHold_of_lane fun r hr => lane_of_mem_live hr).mpr hc.laneHolds
  exact ⟨hh, fun next hnext causes => recordPriceFact_ne_preexisting hnext hh causes⟩

/-- A late arrival and a conflict among four prices of one product. -/
theorem laneInvariantsHold_recordAll_milk :
    let calls := [milk 2 10 1, milk 3 20 1, milk 4 20 2, milk 1 5 2]
    laneInvariantsHold ((({} : Db).recordAll calls).live milkLane) = true ∧
      ∀ next : RecordCall, next.candidate.lane? = some milkLane → ∀ causes,
        recordPriceFact (({} : Db).recordAll calls) next.candidate next.provenance next.importedAt ≠
          .error (.preexistingHistoryLaneAnomaly causes) :=
  laneInvariantsHold_recordAll rfl (by decide) (by decide)

end Run

end CestaPlan.History
