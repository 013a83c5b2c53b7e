import CestaPlan.History.Confluence
import CestaPlan.History.PriceHistory

/-! Recording a candidate again.

    The fact layer finds a candidate by the key of what the columns keep, while a candidate is compared before the
    columns round it. A candidate that keeps its key is found again; any other one meets its own copy as a conflict. -/

namespace CestaPlan.History
open Anchors

/-! ### The fact layer, case by case -/

section Cases
variable {db db₁ : Db} {lane : Lane} {c : Candidate} {p : OccurrenceProvenance} {run : Option Int}
  {importedAt : Instant} {row : PriceObservation} {created : Bool} {diag : LockDiagnostics}

theorem mem_exact {r : PriceObservation} {f : PriceFact} :
    r ∈ db.exact lane f ↔ r ∈ db.live lane ∧ r.toPriceFact.key = f.key := by
  simp [Db.exact]

theorem preflight_iff (hl : c.lane? = some lane) :
    preexistingLaneAnomaly (laneRows db c) = none ↔ laneInvariantsHold (db.live lane) = true := by
  rw [laneRows_eq hl]
  exact preexistingLaneAnomaly_eq_none

/-- The row of a call on the lane, whether it was there, and the tables with it. -/
inductive FactRow (db : Db) (lane : Lane) (c : Candidate) (run : Option Int) (importedAt : Instant) :
    Db → PriceObservation → Bool → Prop
  | found {r : PriceObservation} (hr : db.exact lane c.fact = [r]) : FactRow db lane c run importedAt db r false
  | conflicted (hfits : c.fact.fits = true) (hnil : db.exact lane c.fact = [])
      (hat : ∃ r ∈ db.live lane, r.validFrom = c.observedAt) :
      FactRow db lane c run importedAt
        ((db.conflictAt lane c.observedAt).insert
          (c.row (some c.observedAt) true importedAt db.nextObservationId hfits) true)
        (c.row (some c.observedAt) true importedAt db.nextObservationId hfits) true
  | placed (hfits : c.fact.fits = true) (hnil : db.exact lane c.fact = [])
      (hfree : ∀ r ∈ db.live lane, r.validFrom ≠ c.observedAt) :
      FactRow db lane c run importedAt
        ((db.closeBefore lane c.observedAt run).insert
          (c.row (nextAnchor ((db.live lane).map (·.validFrom)) c.observedAt) false importedAt db.nextObservationId hfits)
          false)
        (c.row (nextAnchor ((db.live lane).map (·.validFrom)) c.observedAt) false importedAt db.nextObservationId hfits)
        true

theorem FactRow.step (h : FactRow db lane c run importedAt db₁ row created) :
    FactStep db lane c run importedAt db₁ := by
  have hnew : db.exact lane c.fact = [] → ∀ r ∈ db.live lane, r.toPriceFact.key ≠ c.fact.key := by
    intro hnil r hr hk
    have hmem := mem_exact.mpr ⟨hr, hk⟩
    rw [hnil] at hmem
    cases hmem
  cases h with
  | found hr =>
    obtain ⟨hmem, hk⟩ := mem_exact.mp (hr ▸ List.mem_cons_self)
    exact .reused hmem hk
  | conflicted hfits hnil hat => exact .conflicted hfits (hnew hnil) hat
  | placed hfits hnil hfree => exact .placed hfits (hnew hnil) hfree

variable (p importedAt) in
theorem recordFact_row (hl : c.lane? = some lane) (hh : laneInvariantsHold (db.live lane) = true)
    (hone : (db.exact lane c.fact).length ≤ 1) (hfits : db.exact lane c.fact = [] → c.fact.fits = true) :
    ∃ db₁ row created diag, recordFact db c p importedAt = .ok (db₁, row, created, diag) ∧
      FactRow db lane c p.crawlRunId importedAt db₁ row created := by
  obtain ⟨lookup, hlookup, hactive⟩ := findExistingFact_ok hl (not_lt.mpr hone)
  unfold recordFact
  simp only [(preflight_iff hl).mpr hh, hlookup, ok_bind, hactive]
  cases hexact : db.exact lane c.fact with
  | cons r rest =>
    have hrest : rest = [] := List.length_eq_zero_iff.mp (by simpa [hexact] using hone)
    exact ⟨_, _, _, _, rfl, .found (by rw [hexact, hrest])⟩
  | nil =>
    simp only [List.head?_nil]
    by_cases hat : ∃ r ∈ db.live lane, r.validFrom = c.observedAt
    · rw [placeInTemporalSequence_conflict hl hat]
      simp only [dif_pos (hfits hexact)]
      exact ⟨_, _, _, _, rfl, .conflicted (hfits hexact) hexact hat⟩
    · push Not at hat
      obtain ⟨diag, hplace⟩ := placeInTemporalSequence_free p.crawlRunId hl hat
      rw [hplace]
      simp only [dif_pos (hfits hexact)]
      exact ⟨_, _, _, _, rfl, .placed (hfits hexact) hexact hat⟩

theorem recordFact_ok (hl : c.lane? = some lane) (h : recordFact db c p importedAt = .ok (db₁, row, created, diag)) :
    laneInvariantsHold (db.live lane) = true ∧ FactRow db lane c p.crawlRunId importedAt db₁ row created := by
  have hh : laneInvariantsHold (db.live lane) = true := by
    rw [← preflight_iff hl]
    cases hpre : preexistingLaneAnomaly (laneRows db c) with
    | none => rfl
    | some causes =>
      unfold recordFact at h
      rw [hpre] at h
      cases h
  have hone : (db.exact lane c.fact).length ≤ 1 := by
    by_contra hmany
    unfold recordFact at h
    rw [(preflight_iff hl).mpr hh, findExistingFact_error hl (not_le.mp hmany)] at h
    cases h
  have hfits : db.exact lane c.fact = [] → c.fact.fits = true := by
    intro hnil
    have hout := recordFact_outcome p importedAt hl hh
    rw [h] at hout
    cases hout with
    | ok step hnew =>
      cases step with
      | reused hr hk =>
        have hmem := mem_exact.mpr ⟨hr, hk⟩
        rw [hnil] at hmem
        cases hmem
      | conflicted hfits => exact hfits
      | placed hfits => exact hfits
  obtain ⟨_, _, _, _, heq, hrow⟩ := recordFact_row p importedAt hl hh hone hfits
  rw [heq] at h
  cases h
  exact ⟨hh, hrow⟩

end Cases

/-! ### What a new row does to a lane in order -/

section Insertion
variable {rows : List PriceObservation} {c : Candidate} {run : Option Int} {importedAt : Instant} {id : Nat}
  {hfits : c.fact.fits = true} {t : Instant}

/-- The last anchor before `t` holds an active row beside a disputed one, and the active row runs on at `t`. -/
def Straddled (rows : List PriceObservation) (t : Instant) : Prop :=
  ∃ a ∈ activeRows rows, previousAnchor (rows.map (·.validFrom)) t = some a.validFrom ∧
    (∃ d ∈ disputedRows rows, d.validFrom = a.validFrom) ∧ a.endsBy t = false

theorem laneHolds_conflicted (hh : LaneHolds rows) (hat : ∃ r ∈ rows, r.validFrom = c.observedAt) :
    LaneHolds (rows.map (·.collapseAt c.observedAt) ++ [c.row (some c.observedAt) true importedAt id hfits]) := by
  have hactive : ∀ a ∈ activeRows (rows.map (·.collapseAt c.observedAt) ++
      [c.row (some c.observedAt) true importedAt id hfits]), a ∈ activeRows rows := by
    intro a ha
    rcases mem_activeRows_append.mp ha with ha | ⟨rfl, hdis⟩
    · obtain ⟨hmem, hdis⟩ := mem_activeRows.mp ha
      obtain ⟨r, hr, rfl⟩ := List.mem_map.mp hmem
      obtain ⟨-, heq⟩ := PriceObservation.collapseAt_active hdis
      rw [heq] at hdis ⊢
      exact mem_activeRows.mpr ⟨hr, hdis⟩
    · cases hdis
  have hends : ∀ a ∈ activeRows rows, ∀ b ∈ rows.map (·.collapseAt c.observedAt) ++
      [c.row (some c.observedAt) true importedAt id hfits], a.validFrom < b.validFrom → a.endsBy b.validFrom = true := by
    intro a ha b hb hlt
    rcases List.mem_append.mp hb with hb | hb
    · obtain ⟨r, hr, rfl⟩ := List.mem_map.mp hb
      rw [PriceObservation.collapseAt_validFrom] at hlt ⊢
      exact hh.ends ha hr hlt
    · obtain ⟨s, hs, hst⟩ := hat
      rw [List.mem_singleton.mp hb, Candidate.row_validFrom, ← hst] at hlt ⊢
      exact hh.ends ha hs hlt
  refine ⟨?_, fun a ha b hb => hends a (hactive a ha) b (mem_activeRows.mp hb).1,
    fun a ha => hh.positive a (hactive a ha), fun d hd => ?_,
    fun a ha d hd => hends a (hactive a ha) d (mem_disputedRows.mp hd).1⟩
  · rw [activeRows_append_disputed Candidate.row_isDisputed_true]
    have hstarts : (activeRows (rows.map (·.collapseAt c.observedAt))).map (·.validFrom) =
        (rows.filter fun r => !(r.collapseAt c.observedAt).isDisputed).map (·.validFrom) := by
      simp [activeRows, List.filter_map, Function.comp_def]
    rw [hstarts]
    refine hh.distinct.sublist ((List.monotone_filter_right rows fun r hr => ?_).map _)
    have hact : (r.collapseAt c.observedAt).isDisputed = false := by simpa using hr
    rw [(PriceObservation.collapseAt_active hact).2] at hact
    simpa using hact
  · rcases mem_disputedRows_append.mp hd with hd | ⟨rfl, -⟩
    · obtain ⟨hmem, hdis⟩ := mem_disputedRows.mp hd
      obtain ⟨r, hr, rfl⟩ := List.mem_map.mp hmem
      unfold PriceObservation.collapseAt at hdis ⊢
      split at hdis
      · next hcol => rw [if_pos hcol]; rfl
      · next hcol => rw [if_neg hcol]; exact hh.empty r (mem_disputedRows.mpr ⟨hr, hdis⟩)
    · rfl

/-- A row that a new fact at `t` does not end, though it starts before it, ended by then unless it is straddled. -/
theorem endsBy_of_not_straddled (hh : LaneHolds rows) (hs : ¬Straddled rows t) {a : PriceObservation}
    (ha : a ∈ activeRows rows) (hlt : a.validFrom < t) (hends : endsRow rows t a = false) : a.endsBy t = true := by
  obtain ⟨p, hp, hle⟩ := le_previousAnchor (List.mem_map_of_mem (f := (·.validFrom)) (mem_activeRows.mp ha).1) hlt
  obtain ⟨hpmem, hpt, -⟩ := previousAnchor_eq_some_iff.mp hp
  rcases eq_or_lt_of_le hle with rfl | hlt'
  · by_contra hrun
    have hbeside : ∃ d ∈ disputedRows rows, d.validFrom = a.validFrom := by
      by_contra hnone
      push Not at hnone
      rw [endsRow_iff.mpr ⟨hp, hnone⟩] at hends
      cases hends
    exact hs ⟨a, ha, hp, hbeside, (Bool.not_eq_true _).mp hrun⟩
  · obtain ⟨b, hb, rfl⟩ := List.mem_map.mp hpmem
    exact PriceObservation.endsBy_mono (hh.ends ha hb hlt') hpt.le

theorem laneHolds_placed_iff (hh : LaneHolds rows) (hfree : ∀ r ∈ rows, r.validFrom ≠ c.observedAt) :
    LaneHolds (rows.map (·.closeAt rows c.observedAt run) ++
        [c.row (nextAnchor (rows.map (·.validFrom)) c.observedAt) false importedAt id hfits]) ↔
      c.verificationStatus ≠ some .disputed ∧ ¬Straddled rows c.observedAt := by
  have hact : activeRows (rows.map (·.closeAt rows c.observedAt run)) =
      (activeRows rows).map (·.closeAt rows c.observedAt run) :=
    activeRows_map fun _ => PriceObservation.closeAt_isDisputed
  constructor
  · intro h
    have hnew : (c.row (nextAnchor (rows.map (·.validFrom)) c.observedAt) false importedAt id hfits).isDisputed = false := by
      by_contra hdis
      have hempty := h.empty _ (mem_disputedRows_append.mpr (Or.inr ⟨rfl, (Bool.not_eq_false _).mp hdis⟩))
      rw [Candidate.row_validUntil, Candidate.row_validFrom] at hempty
      exact absurd (nextAnchor_lt hempty) (lt_irrefl _)
    refine ⟨?_, ?_⟩
    · intro hstatus
      simp [Candidate.row, PriceObservation.isDisputed, hstatus] at hnew
    · rintro ⟨a, ha, hp, ⟨d, hd, hbeside⟩, hrun⟩
      have hends : endsRow rows c.observedAt a = false := by
        rw [← Bool.not_eq_true, endsRow_iff]
        exact fun hends => hends.2 d hd hbeside
      have hkept : a.closeAt rows c.observedAt run = a := by
        rw [PriceObservation.closeAt, hends]
        rfl
      have hmem : a ∈ activeRows (rows.map (·.closeAt rows c.observedAt run)) := by
        rw [hact]
        exact List.mem_map.mpr ⟨a, ha, hkept⟩
      have hby := h.chained a (mem_activeRows_append.mpr (Or.inl hmem)) _
        (mem_activeRows_append.mpr (Or.inr ⟨rfl, hnew⟩)) (previousAnchor_lt hp)
      rw [Candidate.row_validFrom, hrun] at hby
      cases hby
  · rintro ⟨hstatus, hstraddled⟩
    have hnew : (c.row (nextAnchor (rows.map (·.validFrom)) c.observedAt) false importedAt id hfits).isDisputed = false :=
      Candidate.row_isDisputed_false hfits hstatus
    have hends : ∀ a ∈ activeRows (rows.map (·.closeAt rows c.observedAt run) ++
          [c.row (nextAnchor (rows.map (·.validFrom)) c.observedAt) false importedAt id hfits]),
        ∀ b ∈ rows.map (·.closeAt rows c.observedAt run) ++
          [c.row (nextAnchor (rows.map (·.validFrom)) c.observedAt) false importedAt id hfits],
        a.validFrom < b.validFrom → a.endsBy b.validFrom = true := by
      intro a ha b hb hlt
      rcases mem_activeRows_append.mp ha with ha | ⟨rfl, -⟩
      · rw [hact] at ha
        obtain ⟨r, hr, rfl⟩ := List.mem_map.mp ha
        rw [PriceObservation.closeAt_validFrom] at hlt
        rcases closeAt_cases rows c.observedAt run r with ⟨hkeep, heq⟩ | ⟨hclose, heq⟩
        · rw [heq]
          rcases List.mem_append.mp hb with hb | hb
          · obtain ⟨s, hs, rfl⟩ := List.mem_map.mp hb
            rw [PriceObservation.closeAt_validFrom] at hlt ⊢
            exact hh.ends hr hs hlt
          · rw [List.mem_singleton.mp hb, Candidate.row_validFrom] at hlt ⊢
            exact endsBy_of_not_straddled hh hstraddled hr hlt hkeep
        · -- The row now ends at the new fact, in front of every later anchor.
          rw [heq]
          refine PriceObservation.endsBy_iff.mpr ⟨c.observedAt, rfl, ?_⟩
          obtain ⟨-, -, hmax⟩ := previousAnchor_eq_some_iff.mp (endsRow_iff.mp hclose).1
          rcases List.mem_append.mp hb with hb | hb
          · obtain ⟨s, hs, rfl⟩ := List.mem_map.mp hb
            rw [PriceObservation.closeAt_validFrom] at hlt ⊢
            by_contra hearly
            exact absurd hlt (not_lt_of_ge (hmax s.validFrom (List.mem_map_of_mem hs) (lt_of_not_ge hearly)))
          · rw [List.mem_singleton.mp hb]
            exact le_rfl
      · rcases List.mem_append.mp hb with hb | hb
        · obtain ⟨s, hs, rfl⟩ := List.mem_map.mp hb
          rw [PriceObservation.closeAt_validFrom, Candidate.row_validFrom] at hlt
          rw [PriceObservation.closeAt_validFrom]
          obtain ⟨u, hu, hle⟩ := nextAnchor_le (List.mem_map_of_mem (f := (·.validFrom)) hs) hlt
          exact PriceObservation.endsBy_iff.mpr ⟨u, hu, hle⟩
        · rw [List.mem_singleton.mp hb] at hlt
          exact absurd hlt (lt_irrefl _)
    refine ⟨?_, fun a ha b hb => hends a ha b (mem_activeRows.mp hb).1, fun a ha u hu => ?_, fun d hd => ?_,
      fun a ha d hd => hends a ha d (mem_disputedRows.mp hd).1⟩
    · have hstarts : activeRows (rows.map (·.closeAt rows c.observedAt run) ++
          [c.row (nextAnchor (rows.map (·.validFrom)) c.observedAt) false importedAt id hfits]) =
          (activeRows rows).map (·.closeAt rows c.observedAt run) ++
            [c.row (nextAnchor (rows.map (·.validFrom)) c.observedAt) false importedAt id hfits] := by
        rw [← hact]
        simp [activeRows, hnew]
      rw [hstarts, List.map_append, List.map_map, List.nodup_append]
      refine ⟨by simpa [Function.comp_def] using hh.distinct, by simp, fun x hx y hy heq => ?_⟩
      obtain ⟨a, ha, rfl⟩ := List.mem_map.mp hx
      rw [List.map_singleton, List.mem_singleton] at hy
      rw [Function.comp_apply, PriceObservation.closeAt_validFrom, hy] at heq
      exact hfree a (mem_activeRows.mp ha).1 heq
    · rcases mem_activeRows_append.mp ha with ha | ⟨rfl, -⟩
      · rw [hact] at ha
        obtain ⟨r, hr, rfl⟩ := List.mem_map.mp ha
        rw [PriceObservation.closeAt_validFrom]
        rcases closeAt_cases rows c.observedAt run r with ⟨-, heq⟩ | ⟨hclose, heq⟩
        · rw [heq] at hu
          exact hh.positive r hr u hu
        · rw [heq] at hu
          obtain rfl := Option.some.inj hu
          exact previousAnchor_lt (endsRow_iff.mp hclose).1
      · exact nextAnchor_lt hu
    · rcases mem_disputedRows_append.mp hd with hd | ⟨rfl, hdis⟩
      · obtain ⟨hmem, hdis⟩ := mem_disputedRows.mp hd
        obtain ⟨r, hr, rfl⟩ := List.mem_map.mp hmem
        rw [PriceObservation.closeAt_isDisputed] at hdis
        have hrdis := mem_disputedRows.mpr ⟨hr, hdis⟩
        rcases closeAt_cases rows c.observedAt run r with ⟨-, heq⟩ | ⟨hclose, -⟩
        · rw [heq]
          exact hh.empty r hrdis
        · exact absurd rfl ((endsRow_iff.mp hclose).2 r hrdis)
      · rw [hnew] at hdis
        cases hdis

end Insertion

/-! ### The same candidate again -/

section Again
variable {db db₁ : Db} {lane : Lane} {c : Candidate} {p : OccurrenceProvenance} {run : Option Int}
  {importedAt : Instant} {row : PriceObservation} {res : RecordResult}

/-- Recording the candidate finds the row, and the facts and anomalies stay as they are. -/
def Refinds (db : Db) (c : Candidate) (row : PriceObservation) : Prop :=
  ∀ p importedAt, ∃ db' res, recordPriceFact db c p importedAt = .ok (db', res) ∧ res.observation = row ∧
    res.factCreated = false ∧ SameFacts db db'

theorem recordPriceFact_eq {created : Bool} {diag : LockDiagnostics} (hv : validateCandidateState c = .ok ())
    (h : recordFact db c p importedAt = .ok (db₁, row, created, diag)) :
    ∃ res, recordPriceFact db c p importedAt = .ok ((recordOccurrence db₁ row.id p importedAt).1, res) ∧
      res.observation = row ∧ res.factCreated = created := by
  unfold recordPriceFact
  rw [hv, ok_bind, h, ok_bind]
  exact ⟨_, rfl, rfl, rfl⟩

theorem recordPriceFact_inv {db' : Db} (h : recordPriceFact db c p importedAt = .ok (db', res)) :
    validateCandidateState c = .ok () ∧ ∃ db₁ row created diag,
      recordFact db c p importedAt = .ok (db₁, row, created, diag) ∧ res.observation = row ∧ res.factCreated = created ∧
      db' = (recordOccurrence db₁ row.id p importedAt).1 := by
  unfold recordPriceFact at h
  obtain ⟨_, hv, h⟩ := exists_ok_of_bind h
  obtain ⟨⟨db₁, row, created, diag⟩, hfact, h⟩ := exists_ok_of_bind h
  obtain ⟨rfl, rfl⟩ := Prod.mk.inj (Except.ok.inj h)
  exact ⟨hv, db₁, row, created, diag, hfact, rfl, rfl, rfl⟩

theorem SameFacts.exact {db' : Db} {f : PriceFact} (h : SameFacts db db') : db'.exact lane f = db.exact lane f := by
  rw [Db.exact, h.live, Db.exact]

theorem refinds_of_exact_iff (hl : c.lane? = some lane) (hv : validateCandidateState c = .ok ()) :
    Refinds db c row ↔ laneInvariantsHold (db.live lane) = true ∧ db.exact lane c.fact = [row] := by
  constructor
  · intro h
    obtain ⟨db', res, hrec, hobs, hcreated, -⟩ := h {} 0
    obtain ⟨-, db₁, r, created, diag, hfact, rfl, rfl, -⟩ := recordPriceFact_inv hrec
    obtain ⟨hh, hrow⟩ := recordFact_ok hl hfact
    rw [hobs, hcreated] at hrow
    cases hrow with
    | found hr => exact ⟨hh, hr⟩
  · rintro ⟨hh, hexact⟩ p importedAt
    obtain ⟨db₁, r, created, diag, hfact, hrow⟩ := recordFact_row p importedAt hl hh
      (by rw [hexact]; simp) fun hnil => absurd (hexact.symm.trans hnil) (by simp)
    cases hrow with
    | found hr =>
      obtain ⟨res, hres, hobs, hcreated⟩ := recordPriceFact_eq hv hfact
      obtain rfl := List.singleton_inj.mp (hexact.symm.trans hr)
      exact ⟨_, res, hres, hobs, hcreated, sameFacts_recordOccurrence⟩
    | conflicted _ hnil =>
      rw [hexact] at hnil
      cases hnil
    | placed _ hnil =>
      rw [hexact] at hnil
      cases hnil

theorem exact_created {g : PriceObservation → PriceObservation} (hg : ∀ r, (g r).toPriceFact = r.toPriceFact)
    (hnil : db.exact lane c.fact = []) (hlive : db₁.live lane = (db.live lane).map g ++ [row])
    (hrow : row.toPriceFact = c.fact.store) :
    db₁.exact lane c.fact = if c.fact.store.key = c.fact.key then [row] else [] := by
  have hold : ((db.live lane).map g).filter (fun r => decide (r.toPriceFact.key = c.fact.key)) = [] := by
    rw [List.filter_map, List.map_eq_nil_iff, List.filter_eq_nil_iff]
    intro r hr hk
    rw [Function.comp_apply, hg] at hk
    have hmem := mem_exact.mpr ⟨hr, of_decide_eq_true hk⟩
    rw [hnil] at hmem
    cases hmem
  rw [Db.exact, hlive, List.filter_append, hold, List.nil_append]
  split
  · next hk => simp [hrow, hk]
  · next hk => simp [hrow, hk]

/-- Once it is recorded, a candidate is found again exactly when it was found already, or the columns keep its key and
    the lane with its row is in order: something stood at its instant, or no straddled row runs on into it. -/
theorem refinds_iff (hl : c.lane? = some lane) (h : recordPriceFact db c p importedAt = .ok (db₁, res)) :
    Refinds db₁ c res.observation ↔ (∃ r ∈ db.live lane, r.toPriceFact.key = c.fact.key) ∨
      (c.fact.store.key = c.fact.key ∧ ((∃ r ∈ db.live lane, r.validFrom = c.observedAt) ∨
        (c.verificationStatus ≠ some .disputed ∧ ¬Straddled (db.live lane) c.observedAt))) := by
  obtain ⟨hv, dbf, row, created, diag, hfact, rfl, rfl, rfl⟩ := recordPriceFact_inv h
  obtain ⟨hh, hrow⟩ := recordFact_ok hl hfact
  have hsame : SameFacts dbf (recordOccurrence dbf res.observation.id p importedAt).1 := sameFacts_recordOccurrence
  have hfree : c.rolledBackAt = none := validateCandidateState_ok hv
  have hholds := (laneInvariantsHold_of_lane fun r hr => lane_of_mem_live hr).mp hh
  have hnone : db.exact lane c.fact = [] → ¬∃ r ∈ db.live lane, r.toPriceFact.key = c.fact.key := by
    rintro hnil ⟨r, hr, hk⟩
    have hmem := mem_exact.mpr ⟨hr, hk⟩
    rw [hnil] at hmem
    cases hmem
  rw [refinds_of_exact_iff hl hv, hsame.exact, hsame.live]
  generalize res.observation = row at hrow
  generalize res.factCreated = created at hrow
  cases hrow with
  | found hr =>
    obtain ⟨hmem, hk⟩ := mem_exact.mp (hr ▸ List.mem_cons_self)
    exact iff_of_true ⟨hh, hr⟩ (Or.inl ⟨row, hmem, hk⟩)
  | conflicted hfits hnil hat =>
    have hlive : ((db.conflictAt lane c.observedAt).insert
        (c.row (some c.observedAt) true importedAt db.nextObservationId hfits) true).live lane =
        (db.live lane).map (·.collapseAt c.observedAt) ++
          [c.row (some c.observedAt) true importedAt db.nextObservationId hfits] := by
      rw [Db.live_insert (Candidate.row_lane hl) hfree, Db.live_conflictAt]
    have horder := (laneInvariantsHold_of_lane fun r hr => lane_of_mem_live hr).mpr
      (hlive ▸ laneHolds_conflicted hholds hat)
    rw [exact_created (fun _ => PriceObservation.collapseAt_toPriceFact) hnil hlive rfl, or_iff_right (hnone hnil)]
    simp [horder, hat]
  | placed hfits hnil hempty =>
    have hlive : ((db.closeBefore lane c.observedAt p.crawlRunId).insert
        (c.row (nextAnchor ((db.live lane).map (·.validFrom)) c.observedAt) false importedAt db.nextObservationId hfits)
        false).live lane = (db.live lane).map (·.closeAt (db.live lane) c.observedAt p.crawlRunId) ++
          [c.row (nextAnchor ((db.live lane).map (·.validFrom)) c.observedAt) false importedAt db.nextObservationId
            hfits] := by
      rw [Db.live_insert (Candidate.row_lane hl) hfree, Db.live_closeBefore]
    have hat : ¬∃ r ∈ db.live lane, r.validFrom = c.observedAt := by
      rintro ⟨r, hr, heq⟩
      exact hempty r hr heq
    rw [laneInvariantsHold_of_lane fun r hr => lane_of_mem_live hr, hlive, laneHolds_placed_iff hholds hempty,
      exact_created (fun _ => PriceObservation.closeAt_toPriceFact) hnil hlive rfl, or_iff_right (hnone hnil),
      or_iff_right hat]
    simp [and_comm]

end Again

/-! ### A price that the column rounds -/

/-- Three times 0.7, as a feed computes it. -/
def roundedMilk : RecordCall := milk (20999999999999996 / 10 ^ 16) 10 1

theorem exists_ok {ε α : Type} {x : Except ε α} (q : α → Bool) (h : x.toOption.any q = true) : ∃ a, x = .ok a ∧ q a = true := by
  cases x with
  | error e => cases h
  | ok a => exact ⟨a, rfl, h⟩

theorem refinds_iff_milk : ∃ db₁ res,
    recordPriceFact {} (milk 2 10 1).candidate (milk 2 10 1).provenance 10 = .ok (db₁, res) ∧
      (Refinds db₁ (milk 2 10 1).candidate res.observation ↔
        (∃ r ∈ ({} : Db).live milkLane, r.toPriceFact.key = (milk 2 10 1).candidate.fact.key) ∨
          ((milk 2 10 1).candidate.fact.store.key = (milk 2 10 1).candidate.fact.key ∧
            ((∃ r ∈ ({} : Db).live milkLane, r.validFrom = (milk 2 10 1).candidate.observedAt) ∨
              ((milk 2 10 1).candidate.verificationStatus ≠ some .disputed ∧
                ¬Straddled (({} : Db).live milkLane) (milk 2 10 1).candidate.observedAt)))) := by
  have hok : ((recordPriceFact {} (milk 2 10 1).candidate (milk 2 10 1).provenance 10).toOption.any fun _ => true) = true := by
    decide +kernel
  obtain ⟨⟨db₁, res⟩, h, -⟩ := exists_ok _ hok
  have hlane : (milk 2 10 1).candidate.lane? = some milkLane := rfl
  exact ⟨db₁, res, h, refinds_iff hlane h⟩

/-- Its row has another key than the price itself, which is then not found. -/
theorem not_refinds_roundedMilk : ∃ db₁ res,
    recordPriceFact {} roundedMilk.candidate roundedMilk.provenance 10 = .ok (db₁, res) ∧
      ¬Refinds db₁ roundedMilk.candidate res.observation := by
  have hok : ((recordPriceFact {} roundedMilk.candidate roundedMilk.provenance 10).toOption.any fun x =>
      decide (x.1.exact milkLane roundedMilk.candidate.fact = [])) = true := by
    decide +kernel
  obtain ⟨⟨db₁, res⟩, h, hnil⟩ := exists_ok _ hok
  refine ⟨db₁, res, h, fun hrefinds => ?_⟩
  have hlane : roundedMilk.candidate.lane? = some milkLane := rfl
  have hexact := ((refinds_of_exact_iff hlane rfl).mp hrefinds).2
  rw [of_decide_eq_true hnil] at hexact
  cases hexact

end CestaPlan.History
