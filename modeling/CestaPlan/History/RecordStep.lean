import CestaPlan.History.Persistence

/-! What one call of `recordPriceFact` does to the fact layer.

    A call on a lane reuses a row, or appends one: as one more fact of a disputed instant, or on its own
    between the neighbouring anchors. Every invariant of the history is derived from these three cases. -/

namespace CestaPlan.History
open Anchors

theorem ok_bind {ε α β : Type} (a : α) (f : α → Except ε β) : (Except.ok a >>= f) = f a := rfl

theorem exists_ok_of_bind {ε α β : Type} {x : Except ε α} {f : α → Except ε β} {b : β} (h : (x >>= f) = .ok b) :
    ∃ a, x = .ok a ∧ f a = .ok b := by
  cases x with
  | error e => cases h
  | ok a => exact ⟨a, rfl, h⟩

/-! ### Rows and lanes -/

section Rows
variable {r : PriceObservation} {t : Instant} {run : Option Int}

@[simp] theorem PriceObservation.collapse_toPriceFact : r.collapse.toPriceFact = r.toPriceFact := rfl
@[simp] theorem PriceObservation.collapse_id : r.collapse.id = r.id := rfl
@[simp] theorem PriceObservation.collapse_lane : r.collapse.lane = r.lane := rfl
@[simp] theorem PriceObservation.collapse_rolledBackAt : r.collapse.rolledBackAt = r.rolledBackAt := rfl
@[simp] theorem PriceObservation.collapse_validFrom : r.collapse.validFrom = r.validFrom := rfl
@[simp] theorem PriceObservation.collapse_validUntil : r.collapse.validUntil = some r.validFrom := rfl
@[simp] theorem PriceObservation.collapse_isDisputed : r.collapse.isDisputed = true := rfl

@[simp] theorem PriceObservation.close_toPriceFact : (r.close t run).toPriceFact = r.toPriceFact := rfl
@[simp] theorem PriceObservation.close_id : (r.close t run).id = r.id := rfl
@[simp] theorem PriceObservation.close_lane : (r.close t run).lane = r.lane := rfl
@[simp] theorem PriceObservation.close_rolledBackAt : (r.close t run).rolledBackAt = r.rolledBackAt := rfl
@[simp] theorem PriceObservation.close_validFrom : (r.close t run).validFrom = r.validFrom := rfl
@[simp] theorem PriceObservation.close_validUntil : (r.close t run).validUntil = some t := rfl
@[simp] theorem PriceObservation.close_isDisputed : (r.close t run).isDisputed = r.isDisputed := rfl

variable {c : Candidate} {validUntil : Option Instant} {disputed : Bool} {importedAt : Instant} {id : Nat}
  {h : c.fact.fits = true}

@[simp] theorem Candidate.row_toPriceFact :
    (c.row validUntil disputed importedAt id h).toPriceFact = c.fact.store := rfl
@[simp] theorem Candidate.row_id : (c.row validUntil disputed importedAt id h).id = id := rfl
@[simp] theorem Candidate.row_validFrom : (c.row validUntil disputed importedAt id h).validFrom = c.observedAt := rfl
@[simp] theorem Candidate.row_validUntil : (c.row validUntil disputed importedAt id h).validUntil = validUntil := rfl
@[simp] theorem Candidate.row_rolledBackAt :
    (c.row validUntil disputed importedAt id h).rolledBackAt = c.rolledBackAt := rfl

@[simp] theorem Candidate.row_isDisputed_true : (c.row validUntil true importedAt id h).isDisputed = true := rfl

theorem Candidate.row_isDisputed_false (h : c.fact.fits = true) (hs : c.verificationStatus ≠ some .disputed) :
    (c.row validUntil false importedAt id h).isDisputed = false := by
  cases hv : c.verificationStatus with
  | none => simp [Candidate.row, PriceObservation.isDisputed, hv]
  | some v => cases v <;> simp_all [Candidate.row, PriceObservation.isDisputed]

theorem Candidate.lane?_eq_some {lane : Lane} :
    c.lane? = some lane ↔ c.stagingOnly = some lane.stagingOnly ∧ c.fact.lane lane.stagingOnly = lane := by
  unfold Candidate.lane?
  cases c.stagingOnly with
  | none => simp
  | some s =>
    constructor
    · intro hs
      cases hs
      exact ⟨rfl, rfl⟩
    · rintro ⟨hs, hl⟩
      cases hs
      exact congrArg some hl

theorem Candidate.row_lane {lane : Lane} (hl : c.lane? = some lane) :
    (c.row validUntil disputed importedAt id h).lane = lane := by
  obtain ⟨hs, hl⟩ := Candidate.lane?_eq_some.mp hl
  show c.fact.store.lane (c.stagingOnly.getD false) = lane
  rw [hs, PriceFact.store_lane]
  exact hl

end Rows

section Lanes
variable {db : Db} {lane lane' : Lane} {c : Candidate}

def PriceObservation.liveIn (lane : Lane) (r : PriceObservation) : Bool := r.lane = lane && r.rolledBackAt.isNone

theorem laneRows_eq (hl : c.lane? = some lane) : laneRows db c = db.live lane := by
  simp only [laneRows, Db.live, hl, Option.some.injEq, eq_comm]

theorem liveIn_ite {p : Prop} [Decidable p] {f : PriceObservation → PriceObservation} {r : PriceObservation}
    (hlane : (f r).lane = r.lane) (hroll : (f r).rolledBackAt = r.rolledBackAt) :
    (if p then f r else r).liveIn lane = r.liveIn lane := by
  unfold PriceObservation.liveIn
  by_cases hp : p
  · rw [if_pos hp, hlane, hroll]
  · rw [if_neg hp]

theorem Db.update_congr {p q : PriceObservation → Bool} {f : PriceObservation → PriceObservation}
    (h : ∀ r ∈ db.observations, p r = q r) : db.update p f = db.update q f := by
  unfold Db.update
  rw [List.map_congr_left fun r hr => by rw [h r hr]]

theorem Db.update_of_false {p : PriceObservation → Bool} {f : PriceObservation → PriceObservation}
    (h : ∀ r ∈ db.observations, p r = false) : db.update p f = db := by
  unfold Db.update
  rw [List.map_congr_left (g := id) fun r hr => by rw [h r hr]; rfl, List.map_id]

theorem Db.live_update {p : PriceObservation → Bool} {f : PriceObservation → PriceObservation}
    (hlane : ∀ r, (f r).lane = r.lane) (hroll : ∀ r, (f r).rolledBackAt = r.rolledBackAt) :
    (db.update p f).live lane = (db.live lane).map fun r => if p r then f r else r := by
  simp only [Db.live, Db.update, List.filter_map]
  have hpred : (fun r : PriceObservation => decide (r.lane = lane) && r.rolledBackAt.isNone) ∘
      (fun r => if p r then f r else r) = fun r => r.liveIn lane :=
    funext fun r => liveIn_ite (hlane r) (hroll r)
  rw [hpred]
  rfl

theorem Db.live_update_in {q : PriceObservation → Bool} {f : PriceObservation → PriceObservation}
    (hlane : ∀ r, (f r).lane = r.lane) (hroll : ∀ r, (f r).rolledBackAt = r.rolledBackAt) :
    (db.update (fun r => r.liveIn lane && q r) f).live lane =
      (db.live lane).map fun r => if q r then f r else r := by
  rw [Db.live_update hlane hroll]
  refine List.map_congr_left fun r hr => ?_
  have hlive : r.liveIn lane = true := (List.mem_filter.mp hr).2
  rw [hlive, Bool.true_and]

theorem Db.live_update_of_ne {q : PriceObservation → Bool} {f : PriceObservation → PriceObservation}
    (hlane : ∀ r, (f r).lane = r.lane) (hroll : ∀ r, (f r).rolledBackAt = r.rolledBackAt) (hne : lane' ≠ lane) :
    (db.update (fun r => r.liveIn lane && q r) f).live lane' = db.live lane' := by
  rw [Db.live_update hlane hroll]
  refine (List.map_congr_left fun r hr => ?_).trans (List.map_id _)
  obtain ⟨-, hr, -⟩ := Db.mem_live.mp hr
  have hlive : r.liveIn lane = false := by simp [PriceObservation.liveIn, hr, hne]
  rw [hlive, Bool.false_and]
  rfl

theorem Db.live_insert {r : PriceObservation} {d : Bool} (hl : r.lane = lane) (hr : r.rolledBackAt = none) :
    (db.insert r d).live lane = db.live lane ++ [r] := by
  simp [Db.live, Db.insert, List.filter_append, hl, hr]

theorem Db.live_insert_of_ne {r : PriceObservation} {d : Bool} (hl : r.lane ≠ lane) :
    (db.insert r d).live lane = db.live lane := by
  simp [Db.live, Db.insert, List.filter_append, hl]

end Lanes

/-! ### The search and the preflight -/

section Search
variable {db : Db} {lane : Lane} {c : Candidate}

theorem preexistingLaneAnomaly_eq_none {rows : List PriceObservation} :
    preexistingLaneAnomaly rows = none ↔ laneInvariantsHold rows = true := by
  have hcross : (laneInvariantReport rows).lanesActiveIntervalCrossesDisputed = 0 ↔
      (laneInvariantReport rows).activeIntervalsCrossingDisputed = 0 := by
    simp only [laneInvariantReport, List.length_eq_zero_iff, List.filter_eq_nil_iff, List.sum_eq_zero_iff,
      List.forall_mem_map]
    simp
  simp only [preexistingLaneAnomaly, laneInvariantsHold, ite_eq_right_iff, reduceCtorEq, imp_false, not_or, not_not,
    Bool.and_eq_true, beq_iff_eq, hcross]
  tauto

def Db.exact (db : Db) (lane : Lane) (f : PriceFact) : List PriceObservation :=
  (db.live lane).filter (·.toPriceFact.key = f.key)

theorem exact_eq (hl : c.lane? = some lane) :
    (((db.observations.filter fun r => factPrefilter c r && r.stagingOnly == c.stagingOnly.getD false).filter
      fun r => priceFactFingerprint r.toPriceFact = priceFactFingerprint c.fact).filter (·.rolledBackAt.isNone)) =
      db.exact lane c.fact := by
  obtain ⟨hs, hlane⟩ := Candidate.lane?_eq_some.mp hl
  simp only [Db.exact, Db.live, List.filter_filter]
  refine List.filter_congr fun r _ => ?_
  by_cases hk : r.toPriceFact.key = c.fact.key
  · obtain ⟨hamount, hfp⟩ := Prod.mk.inj hk
    have hamount' : r.amount = c.amount := hamount
    have hpre : factPrefilter c r = true := by
      have h := hfp
      simp only [priceFactFingerprint, PriceFact.mk.injEq] at h
      simp only [factPrefilter, Bool.and_eq_true, decide_eq_true_eq]
      exact ⟨⟨⟨⟨⟨⟨⟨h.1, h.2.2.2.1⟩, h.2.1⟩, h.2.2.2.2.1⟩, h.2.2.2.2.2.1⟩, hamount'⟩, h.2.2.2.2.2.2.2.1⟩,
        h.2.2.2.2.2.2.2.2.2.2.2.2.2.2.2⟩
    have hlane' : r.lane = lane ↔ r.stagingOnly = lane.stagingOnly := by
      constructor
      · intro h
        rw [← h]
        rfl
      · intro h
        show r.toPriceFact.lane r.stagingOnly = lane
        rw [h, PriceFact.lane_of_fingerprint hfp]
        exact hlane
    simp only [hk, hpre, hfp, hs, hlane', decide_true, Bool.true_and, Option.getD_some]
    rw [Bool.and_comm, beq_eq_decide]
  · have hne : ¬(factPrefilter c r = true ∧ priceFactFingerprint r.toPriceFact = priceFactFingerprint c.fact) := by
      rintro ⟨hpre, hfp⟩
      simp only [factPrefilter, Bool.and_eq_true, decide_eq_true_eq] at hpre
      exact hk (Prod.ext hpre.1.1.2 hfp)
    rw [decide_eq_false hk, Bool.false_and]
    by_cases hpre : factPrefilter c r = true
    · have hfp : priceFactFingerprint r.toPriceFact ≠ priceFactFingerprint c.fact := fun hfp => hne ⟨hpre, hfp⟩
      rw [decide_eq_false hfp, Bool.false_and, Bool.and_false]
    · simp [hpre]

theorem findExistingFact_error (hl : c.lane? = some lane) (h : 1 < (db.exact lane c.fact).length) :
    findExistingFact db c (c.stagingOnly.getD false) =
      .error (.multipleActiveExactFacts (db.exact lane c.fact).length) := by
  unfold findExistingFact
  simp only [exact_eq hl]
  exact if_pos h

theorem findExistingFact_ok (hl : c.lane? = some lane) (h : ¬1 < (db.exact lane c.fact).length) :
    ∃ lookup, findExistingFact db c (c.stagingOnly.getD false) = .ok lookup ∧
      lookup.activeFact = (db.exact lane c.fact).head? := by
  unfold findExistingFact
  simp only [exact_eq hl]
  exact ⟨_, if_neg h, rfl⟩

end Search

/-! ### The three cases -/

section Step
variable {db db' : Db} {lane lane' : Lane} {c : Candidate} {run : Option Int} {importedAt : Instant}

/-- The tables after the active rows of the lane at `t` became disputed. -/
def Db.conflictAt (db : Db) (lane : Lane) (t : Instant) : Db :=
  { db.update (fun r => r.liveIn lane && (r.validFrom = t && !r.isDisputed)) PriceObservation.collapse with
    anomalies := db.anomalies ++
      (((db.live lane).filter (·.validFrom = t)).filter fun r => !r.isDisputed).map fun e => conflictAnomaly e.id }

/-- A new fact at `t` ends the row `r` of the lane: its anchor is the last one before, and not a barrier. -/
def endsRow (rows : List PriceObservation) (t : Instant) (r : PriceObservation) : Bool :=
  previousAnchor (rows.map (·.validFrom)) t = some r.validFrom &&
    !((disputedRows rows).map (·.validFrom)).contains r.validFrom

/-- The tables after the row before `t` was closed. -/
def Db.closeBefore (db : Db) (lane : Lane) (t : Instant) (run : Option Int) : Db :=
  db.update (fun r => r.liveIn lane && endsRow (db.live lane) t r) (·.close t run)

/-- What a call on the lane does to facts and anomalies. -/
inductive FactStep (db : Db) (lane : Lane) (c : Candidate) (run : Option Int) (importedAt : Instant) : Db → Prop
  | reused {r : PriceObservation} (hr : r ∈ db.live lane) (hk : r.toPriceFact.key = c.fact.key) :
      FactStep db lane c run importedAt db
  | conflicted (hfits : c.fact.fits = true) (hnew : ∀ r ∈ db.live lane, r.toPriceFact.key ≠ c.fact.key)
      (hat : ∃ r ∈ db.live lane, r.validFrom = c.observedAt) :
      FactStep db lane c run importedAt ((db.conflictAt lane c.observedAt).insert
        (c.row (some c.observedAt) true importedAt db.nextObservationId hfits) true)
  | placed (hfits : c.fact.fits = true) (hnew : ∀ r ∈ db.live lane, r.toPriceFact.key ≠ c.fact.key)
      (hfree : ∀ r ∈ db.live lane, r.validFrom ≠ c.observedAt) :
      FactStep db lane c run importedAt ((db.closeBefore lane c.observedAt run).insert
        (c.row (nextAnchor ((db.live lane).map (·.validFrom)) c.observedAt) false importedAt db.nextObservationId hfits)
        false)

theorem placeInTemporalSequence_conflict (hl : c.lane? = some lane)
    (hat : ∃ r ∈ db.live lane, r.validFrom = c.observedAt) :
    placeInTemporalSequence db c run = (db.conflictAt lane c.observedAt,
      { validUntil := some c.observedAt, disputed := true, diagnostics := { sameTimestampConflict := true } }) := by
  have hne : (db.live lane).filter (fun r => decide (r.validFrom = c.observedAt)) ≠ [] := by
    obtain ⟨r, hr, ht⟩ := hat
    exact List.ne_nil_of_mem (List.mem_filter.mpr ⟨hr, decide_eq_true ht⟩)
  unfold placeInTemporalSequence Db.conflictAt PriceObservation.liveIn
  simp only [laneRows_eq hl, if_pos hne, hl, Option.some.injEq, Bool.and_assoc, eq_comm (a := lane)]

theorem placeInTemporalSequence_free (run : Option Int) (hl : c.lane? = some lane)
    (hfree : ∀ r ∈ db.live lane, r.validFrom ≠ c.observedAt) :
    ∃ diag, placeInTemporalSequence db c run = (db.closeBefore lane c.observedAt run,
      { validUntil := nextAnchor ((db.live lane).map (·.validFrom)) c.observedAt, disputed := false,
        diagnostics := diag }) := by
  have hnil : ¬(db.live lane).filter (fun r => decide (r.validFrom = c.observedAt)) ≠ [] := by
    simpa [List.filter_eq_nil_iff] using hfree
  unfold placeInTemporalSequence
  simp only [laneRows_eq hl, if_neg hnil]
  refine ⟨_, Prod.ext ?_ rfl⟩
  unfold Db.closeBefore
  split
  · next hpred =>
    obtain ⟨p, hp, hbarrier⟩ := (Option.any_eq_true _ _).mp hpred
    refine Db.update_congr fun r hr => ?_
    simp only [hl, Option.some.injEq, eq_comm (a := lane), Bool.and_assoc, PriceObservation.liveIn, endsRow, disputedRows]
    by_cases hlive : r.liveIn lane = true
    · obtain ⟨hlane, hroll⟩ := Bool.and_eq_true_iff.mp hlive
      by_cases hrp : r.validFrom = p
      · -- The row sits at the previous anchor, which no disputed row shares.
        have hdisp : r.isDisputed = false := by
          by_contra hd
          have hmem : r ∈ (db.live lane).filter (·.isDisputed) :=
            List.mem_filter.mpr ⟨List.mem_filter.mpr ⟨hr, hlive⟩, by simpa using hd⟩
          simp only [Bool.not_eq_true', List.contains_eq_mem, decide_eq_false_iff_not, List.mem_map] at hbarrier
          exact hbarrier ⟨r, hmem, hrp⟩
        simp only [hrp, hp, hdisp, hbarrier, Bool.not_false, Bool.and_true, eq_comm]
      · have hne : previousAnchor ((db.live lane).map (·.validFrom)) c.observedAt ≠ some r.validFrom := by
          rw [hp]
          exact fun h => hrp (Option.some.inj h).symm
        simp only [hp, Option.some.injEq, hrp, Ne.symm hrp, decide_false, Bool.false_and]
    · have hlive' : (decide (r.lane = lane) && r.rolledBackAt.isNone) = false := (Bool.not_eq_true _).mp hlive
      rw [← Bool.and_assoc, hlive', Bool.false_and, ← Bool.and_assoc, hlive', Bool.false_and]
  · next hpred =>
    refine (Db.update_of_false fun r _ => ?_).symm
    by_contra hends
    refine hpred ((Option.any_eq_true _ _).mpr ⟨r.validFrom, ?_⟩)
    simp only [endsRow, disputedRows, Bool.and_eq_true, Bool.not_eq_false, decide_eq_true_eq] at hends
    exact ⟨hends.2.1, hends.2.2⟩

structure SameFacts (db db' : Db) : Prop where
  observations : db'.observations = db.observations
  anomalies : db'.anomalies = db.anomalies
  crawlRuns : db'.crawlRuns = db.crawlRuns
  nextObservationId : db'.nextObservationId = db.nextObservationId

theorem SameFacts.live (h : SameFacts db db') : db'.live lane = db.live lane := by
  unfold Db.live
  rw [h.observations]

theorem sameFacts_recordOccurrence {id : Nat} {p : OccurrenceProvenance} :
    SameFacts db (recordOccurrence db id p importedAt).1 := by
  unfold recordOccurrence
  split <;> exact ⟨rfl, rfl, rfl, rfl⟩

variable {p : OccurrenceProvenance}

/-- How the fact layer of a call ends on a lane in order: in one of the three cases, or with an error. -/
inductive FactOutcome (db : Db) (lane : Lane) (c : Candidate) (run : Option Int) (importedAt : Instant) :
    Except RecordError (Db × PriceObservation × Bool × LockDiagnostics) → Prop
  | ok {db₁ row created diag} (step : FactStep db lane c run importedAt db₁)
      (hnew : created = true → ∀ r ∈ db.live lane, r.toPriceFact.key ≠ c.fact.key) :
      FactOutcome db lane c run importedAt (.ok (db₁, row, created, diag))
  | multiple {r : PriceObservation} {n : Nat} (hr : r ∈ db.live lane) (hk : r.toPriceFact.key = c.fact.key) :
      FactOutcome db lane c run importedAt (.error (.multipleActiveExactFacts n))
  | overflow (h : c.fact.fits = false) : FactOutcome db lane c run importedAt (.error .numericFieldOverflow)

theorem recordFact_outcome (p : OccurrenceProvenance) (importedAt : Instant) (hl : c.lane? = some lane)
    (hh : laneInvariantsHold (db.live lane) = true) :
    FactOutcome db lane c p.crawlRunId importedAt (recordFact db c p importedAt) := by
  have hpre : preexistingLaneAnomaly (laneRows db c) = none := by
    rw [laneRows_eq hl]
    exact preexistingLaneAnomaly_eq_none.mpr hh
  have mem_exact : ∀ {r}, r ∈ db.exact lane c.fact ↔ r ∈ db.live lane ∧ r.toPriceFact.key = c.fact.key := by
    simp [Db.exact]
  unfold recordFact
  simp only [hpre]
  by_cases hmany : 1 < (db.exact lane c.fact).length
  · obtain ⟨r, hr⟩ := List.exists_mem_of_length_pos (Nat.lt_of_succ_lt hmany)
    rw [findExistingFact_error hl hmany]
    exact .multiple (mem_exact.mp hr).1 (mem_exact.mp hr).2
  · obtain ⟨lookup, hlookup, hactive⟩ := findExistingFact_ok hl hmany
    rw [hlookup]
    simp only [ok_bind, hactive]
    cases hexact : db.exact lane c.fact with
    | cons r rest =>
      have hr := mem_exact.mp (hexact ▸ List.mem_cons_self)
      exact .ok (.reused hr.1 hr.2) (fun h => by cases h)
    | nil =>
      have hnew : ∀ r ∈ db.live lane, r.toPriceFact.key ≠ c.fact.key := by
        intro r hr hk
        have hmem := mem_exact.mpr ⟨hr, hk⟩
        rw [hexact] at hmem
        cases hmem
      simp only [List.head?_nil]
      by_cases hat : ∃ r ∈ db.live lane, r.validFrom = c.observedAt
      · rw [placeInTemporalSequence_conflict hl hat]
        by_cases hfits : c.fact.fits = true
        · simp only [dif_pos hfits]
          exact .ok (.conflicted hfits hnew hat) fun _ => hnew
        · simp only [dif_neg hfits]
          exact .overflow (by simpa using hfits)
      · push Not at hat
        obtain ⟨diag, hplace⟩ := placeInTemporalSequence_free p.crawlRunId hl hat
        rw [hplace]
        by_cases hfits : c.fact.fits = true
        · simp only [dif_pos hfits]
          exact .ok (.placed hfits hnew hat) fun _ => hnew
        · simp only [dif_neg hfits]
          exact .overflow (by simpa using hfits)

theorem validateCandidateState_ok (h : validateCandidateState c = .ok ()) : c.rolledBackAt = none := by
  unfold validateCandidateState at h
  split at h
  · cases h
  · next hr => simpa using hr

theorem recordPriceFact_ok {res : RecordResult} (hl : c.lane? = some lane)
    (h : recordPriceFact db c p importedAt = .ok (db', res)) :
    c.rolledBackAt = none ∧ laneInvariantsHold (db.live lane) = true ∧
      (res.factCreated = true → ∀ r ∈ db.live lane, r.toPriceFact.key ≠ c.fact.key) ∧
      ∃ db₁, FactStep db lane c p.crawlRunId importedAt db₁ ∧ SameFacts db₁ db' := by
  unfold recordPriceFact at h
  obtain ⟨_, hvalid, h⟩ := exists_ok_of_bind h
  obtain ⟨⟨db₁, row, created, diag⟩, hfact, h⟩ := exists_ok_of_bind h
  have hh : laneInvariantsHold (db.live lane) = true := by
    rw [← preexistingLaneAnomaly_eq_none, ← laneRows_eq hl]
    cases hpre : preexistingLaneAnomaly (laneRows db c) with
    | none => rfl
    | some causes =>
      unfold recordFact at hfact
      rw [hpre] at hfact
      cases hfact
  have hout := recordFact_outcome p importedAt hl hh
  rw [hfact] at hout
  cases hout with
  | ok step hnew =>
    obtain ⟨rfl, rfl⟩ := Prod.mk.inj (Except.ok.inj h)
    exact ⟨validateCandidateState_ok hvalid, hh, hnew, db₁, step, sameFacts_recordOccurrence⟩

theorem recordPriceFact_ne_preexisting (hl : c.lane? = some lane) (hh : laneInvariantsHold (db.live lane) = true)
    (causes : LaneCauses) :
    recordPriceFact db c p importedAt ≠ .error (.preexistingHistoryLaneAnomaly causes) := by
  have hout := recordFact_outcome p importedAt hl hh
  unfold recordPriceFact
  cases hvalid : validateCandidateState c with
  | error e =>
    intro h
    have he : e = .preexistingHistoryLaneAnomaly causes := Except.error.inj h
    unfold validateCandidateState at hvalid
    simp only [he] at hvalid
    split_ifs at hvalid <;> exact RecordError.noConfusion (Except.error.inj hvalid)
  | ok u =>
    intro h
    revert h
    show ((recordFact db c p importedAt >>= _) : Except RecordError (Db × RecordResult)) = _ → False
    generalize hfact : recordFact db c p importedAt = out at hout
    cases hout with
    | ok step hnew => exact fun h => by cases h
    | multiple hr hk => exact fun h => by cases h
    | overflow hf => exact fun h => by cases h

variable {call : RecordCall}

theorem record_step (db : Db) (hl : call.candidate.lane? = some lane) :
    db.record call = db ∨
      (call.candidate.rolledBackAt = none ∧ laneInvariantsHold (db.live lane) = true ∧
        ∃ db₁, FactStep db lane call.candidate call.provenance.crawlRunId call.importedAt db₁ ∧
          SameFacts db₁ (db.record call)) := by
  unfold Db.record
  cases h : recordPriceFact db call.candidate call.provenance call.importedAt with
  | error e => exact Or.inl rfl
  | ok res =>
    obtain ⟨hr, hh, -, hstep⟩ := recordPriceFact_ok hl (show _ = Except.ok (res.1, res.2) from h)
    exact Or.inr ⟨hr, hh, hstep⟩

theorem record_cases (hl : call.candidate.lane? = some lane) (hv : validateCandidateState call.candidate = .ok ())
    (hh : laneInvariantsHold (db.live lane) = true) :
    (∃ db₁, FactStep db lane call.candidate call.provenance.crawlRunId call.importedAt db₁ ∧
        SameFacts db₁ (db.record call)) ∨
      (db.record call = db ∧ ((∃ r ∈ db.live lane, r.toPriceFact.key = call.candidate.fact.key) ∨
        call.candidate.fact.fits = false)) := by
  have hout := recordFact_outcome call.provenance call.importedAt hl hh
  unfold Db.record recordPriceFact
  simp only [hv, ok_bind]
  generalize recordFact db call.candidate call.provenance call.importedAt = out at hout
  cases hout with
  | ok step hnew => exact Or.inl ⟨_, step, sameFacts_recordOccurrence⟩
  | multiple hr hk => exact Or.inr ⟨rfl, Or.inl ⟨_, hr, hk⟩⟩
  | overflow hf => exact Or.inr ⟨rfl, Or.inr hf⟩

end Step

end CestaPlan.History
