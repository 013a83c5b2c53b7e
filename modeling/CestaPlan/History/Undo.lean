import CestaPlan.History.Rollback

/-! Rolling a run back right after it.

    The rollback knows of an earlier row only whether the run closed it, and opens it then. So it restores the
    row unless the run made it disputed, or closed it while it had an end of its own. Which of the two
    happened can be read off the instants that the run recorded. -/

namespace CestaPlan.History
open Anchors

/-- What is compared of a row before and after. -/
def PriceObservation.temporal (r : PriceObservation) : Nat × Instant × Option Instant × VerificationStatus :=
  (r.id, r.validFrom, r.validUntil, r.verificationStatus)

/-- `t` lies behind `r`, in front of every later row. -/
def InGap (rows : List PriceObservation) (r : PriceObservation) (t : Instant) : Prop :=
  r.validFrom < t ∧ ∀ s ∈ rows, s.validFrom ≤ r.validFrom ∨ t < s.validFrom

/-- A run with new facts at the instants `ts` closes the active row `r`: one comes right behind it, and no
    barrier stands at its start. -/
def Closes (rows : List PriceObservation) (ts : List Instant) (r : PriceObservation) : Prop :=
  (∀ d ∈ disputedRows rows, d.validFrom ≠ r.validFrom) ∧ ∃ t ∈ ts, InGap rows r t

/-- The active row `r` survives a run with new facts at `ts` and its rollback: no fact comes at its start, and
    the run does not close it unless it was open. -/
def Restorable (rows : List PriceObservation) (ts : List Instant) (r : PriceObservation) : Prop :=
  r.validFrom ∉ ts ∧ (r.validUntil ≠ none → ¬Closes rows ts r)

/-- An earlier row `r` while the run goes on, as `r'`. -/
structure Evolved (runId : Int) (rows : List PriceObservation) (ts : List Instant) (r r' : PriceObservation) : Prop where
  id : r'.id = r.id
  validFrom : r'.validFrom = r.validFrom
  crawlRunId : r'.crawlRunId = r.crawlRunId
  disputed : r.isDisputed = true → r' = r
  hit : r.isDisputed = false → r.validFrom ∈ ts → r'.isDisputed = true
  status : r.isDisputed = false → r.validFrom ∉ ts → r'.verificationStatus = r.verificationStatus
  closed : r.isDisputed = false → r.validFrom ∉ ts → Closes rows ts r → r'.closedByRunId = some runId
  kept : r.isDisputed = false → r.validFrom ∉ ts → ¬Closes rows ts r → r' = r

/-- The live rows of the lane while the run goes on: the earlier ones, and those it created. -/
def LaneEvolved (runId : Int) (rows : List PriceObservation) (ts : List Instant) (rows' : List PriceObservation) : Prop :=
  ∃ g : PriceObservation → PriceObservation, ∃ created : List PriceObservation, rows' = rows.map g ++ created ∧
    (∀ r ∈ rows, Evolved runId rows ts r (g r)) ∧ ∀ n ∈ created, n.crawlRunId = some runId ∧ n.validFrom ∈ ts

section Step
variable {runId : Int} {rows rows' rows'' : List PriceObservation} {ts : List Instant} {t : Instant}
  {r r' : PriceObservation} {c : Candidate}

theorem Evolved.refl : Evolved runId rows [] r r where
  id := rfl
  validFrom := rfl
  crawlRunId := rfl
  disputed _ := rfl
  hit _ hts := absurd hts List.not_mem_nil
  status _ _ := rfl
  closed _ _ hcl := by
    obtain ⟨-, t, ht, -⟩ := hcl
    cases ht
  kept _ _ _ := rfl

theorem Evolved.isDisputed (h : Evolved runId rows ts r r') (ha : r.isDisputed = false) (hts : r.validFrom ∉ ts) :
    r'.isDisputed = false := by
  unfold PriceObservation.isDisputed
  rw [h.status ha hts]
  exact ha

theorem closes_append : Closes rows (ts ++ [t]) r ↔
    Closes rows ts r ∨ ((∀ d ∈ disputedRows rows, d.validFrom ≠ r.validFrom) ∧ InGap rows r t) := by
  unfold Closes
  simp only [List.mem_append, List.mem_singleton, or_and_right, exists_or, exists_eq_left, and_or_left]

theorem InGap.of_lt {a : Instant} (h : InGap rows r t) (hra : r.validFrom < a) (hat : a < t) : InGap rows r a :=
  ⟨hra, fun s hs => (h.2 s hs).imp_right hat.trans⟩

theorem Evolved.collapseAt (h : Evolved runId rows ts r r') (hgap : InGap rows r t → t ∈ ts) :
    Evolved runId rows (ts ++ [t]) r (r'.collapseAt t) := by
  have hfree : r.validFrom ∉ ts ++ [t] → r.validFrom ∉ ts ∧ r'.collapseAt t = r' := by
    intro hts
    rw [List.mem_append, List.mem_singleton, not_or] at hts
    exact ⟨hts.1, PriceObservation.collapseAt_of_ne (by rw [h.validFrom]; exact hts.2)⟩
  have hcloses : Closes rows (ts ++ [t]) r ↔ Closes rows ts r := by
    rw [closes_append]
    exact or_iff_left_of_imp fun ⟨hd, hin⟩ => ⟨hd, t, hgap hin, hin⟩
  have hcrawl : (r'.collapseAt t).crawlRunId = r'.crawlRunId := by
    unfold PriceObservation.collapseAt; split <;> rfl
  refine ⟨by simpa using h.id, by simpa using h.validFrom, hcrawl.trans h.crawlRunId, fun hd => ?_, fun ha hts => ?_,
    fun ha hts => ?_, fun ha hts hcl => ?_, fun ha hts hcl => ?_⟩
  · rw [h.disputed hd]
    exact PriceObservation.collapseAt_of_disputed hd
  · by_cases htr : r.validFrom = t
    · exact PriceObservation.collapseAt_of_eq (h.validFrom.trans htr)
    · have hmem : r.validFrom ∈ ts := (List.mem_append.mp hts).resolve_right fun hm => htr (List.mem_singleton.mp hm)
      rw [PriceObservation.collapseAt_of_ne (by rw [h.validFrom]; exact htr)]
      exact h.hit ha hmem
  · rw [(hfree hts).2]
    exact h.status ha (hfree hts).1
  · rw [(hfree hts).2]
    exact h.closed ha (hfree hts).1 (hcloses.mp hcl)
  · rw [(hfree hts).2]
    exact h.kept ha (hfree hts).1 fun hc => hcl (hcloses.mpr hc)

theorem LaneEvolved.conflicted (h : LaneEvolved runId rows ts rows') (hat : ∃ x ∈ rows', x.validFrom = t)
    {n : PriceObservation} (hn : n.crawlRunId = some runId) (hnt : n.validFrom = t) :
    LaneEvolved runId rows (ts ++ [t]) (rows'.map (·.collapseAt t) ++ [n]) := by
  obtain ⟨g, created, rfl, hold, hnew⟩ := h
  have hgap : ∀ r, InGap rows r t → t ∈ ts := by
    intro r hin
    obtain ⟨x, hx, hxt⟩ := hat
    rcases List.mem_append.mp hx with hx | hx
    · -- An earlier row at `t` contradicts the gap.
      obtain ⟨s, hs, rfl⟩ := List.mem_map.mp hx
      rw [(hold s hs).validFrom] at hxt
      rcases hin.2 s hs with hle | hlt
      · exact absurd hin.1 (by rw [← hxt]; exact not_lt_of_ge hle)
      · exact absurd hlt (by rw [hxt]; exact lt_irrefl t)
    · exact hxt ▸ (hnew x hx).2
  refine ⟨fun r => (g r).collapseAt t, created.map (·.collapseAt t) ++ [n], ?_, fun r hr => ?_, fun m hm => ?_⟩
  · rw [List.map_append, List.map_map, List.append_assoc]
    rfl
  · exact (hold r hr).collapseAt (hgap r)
  · rcases List.mem_append.mp hm with hm | hm
    · obtain ⟨m', hm', rfl⟩ := List.mem_map.mp hm
      have hcrawl : (m'.collapseAt t).crawlRunId = m'.crawlRunId := by
        unfold PriceObservation.collapseAt; split <;> rfl
      rw [hcrawl, PriceObservation.collapseAt_validFrom]
      exact ⟨(hnew m' hm').1, List.mem_append_left _ (hnew m' hm').2⟩
    · rw [List.mem_singleton.mp hm]
      exact ⟨hn, by rw [hnt]; simp⟩

section Placed
variable {g : PriceObservation → PriceObservation} {created : List PriceObservation}

theorem closes_of_endsRow (hold : ∀ r ∈ rows, Evolved runId rows ts r (g r))
    (hfree : ∀ x ∈ rows.map g ++ created, x.validFrom ≠ t) (hr : r ∈ rows)
    (hends : endsRow (rows.map g ++ created) t (g r) = true) :
    (∀ d ∈ disputedRows rows, d.validFrom ≠ r.validFrom) ∧ InGap rows r t := by
  have hmem : ∀ {s}, s ∈ rows → g s ∈ rows.map g ++ created := fun hs =>
    List.mem_append_left _ (List.mem_map_of_mem hs)
  rw [endsRow_iff, (hold r hr).validFrom] at hends
  obtain ⟨hp, hd⟩ := hends
  obtain ⟨-, hlt, hmax⟩ := previousAnchor_eq_some_iff.mp hp
  refine ⟨fun d hdm heq => ?_, hlt, fun s hs => ?_⟩
  · obtain ⟨hdm, hdis⟩ := mem_disputedRows.mp hdm
    have hsame := (hold d hdm).disputed hdis
    exact hd (g d) (mem_disputedRows.mpr ⟨hmem hdm, by rw [hsame]; exact hdis⟩) (by rw [hsame]; exact heq)
  · rcases le_or_gt s.validFrom r.validFrom with hle | hgt
    · exact Or.inl hle
    · have hvf := (hold s hs).validFrom
      refine Or.inr (lt_of_le_of_ne (le_of_not_gt fun hst => ?_) fun heq => hfree (g s) (hmem hs) (hvf.trans heq.symm))
      have hle := hmax (g s).validFrom (List.mem_map_of_mem (hmem hs)) (by rw [hvf]; exact hst)
      rw [hvf] at hle
      exact absurd hgt (not_lt_of_ge hle)

theorem endsRow_of_gap (hold : ∀ r ∈ rows, Evolved runId rows ts r (g r))
    (hnew : ∀ n ∈ created, n.crawlRunId = some runId ∧ n.validFrom ∈ ts) (hr : r ∈ rows) (hts : r.validFrom ∉ ts)
    (hfirst : ¬Closes rows ts r) (hd : ∀ d ∈ disputedRows rows, d.validFrom ≠ r.validFrom) (hin : InGap rows r t) :
    endsRow (rows.map g ++ created) t (g r) = true := by
  rw [endsRow_iff, (hold r hr).validFrom]
  refine ⟨previousAnchor_eq_some_iff.mpr ⟨?_, hin.1, fun a ha hat => ?_⟩, fun d hdm heq => ?_⟩
  · rw [← (hold r hr).validFrom]
    exact List.mem_map_of_mem (List.mem_append_left _ (List.mem_map_of_mem hr))
  · obtain ⟨x, hx, rfl⟩ := List.mem_map.mp ha
    rcases List.mem_append.mp hx with hx | hx
    · obtain ⟨s, hs, rfl⟩ := List.mem_map.mp hx
      rw [(hold s hs).validFrom] at hat ⊢
      exact (hin.2 s hs).resolve_right fun hts => absurd hat (not_lt_of_gt hts)
    · by_contra hlt
      exact hfirst ⟨hd, x.validFrom, (hnew x hx).2, hin.of_lt (lt_of_not_ge hlt) hat⟩
  · obtain ⟨hdm, hdis⟩ := mem_disputedRows.mp hdm
    rcases List.mem_append.mp hdm with hdm | hdm
    · obtain ⟨s, hs, rfl⟩ := List.mem_map.mp hdm
      rw [(hold s hs).validFrom] at heq
      cases hsd : s.isDisputed with
      | true => exact hd s (mem_disputedRows.mpr ⟨hs, hsd⟩) heq
      | false =>
        rw [(hold s hs).isDisputed hsd (by rw [heq]; exact hts)] at hdis
        cases hdis
    · exact hts (heq ▸ (hnew d hdm).2)

theorem closeAt_verificationStatus {run : Option Int} :
    (r.closeAt rows t run).verificationStatus = r.verificationStatus := by
  unfold PriceObservation.closeAt; split <;> rfl

theorem closeAt_crawlRunId {run : Option Int} : (r.closeAt rows t run).crawlRunId = r.crawlRunId := by
  unfold PriceObservation.closeAt; split <;> rfl

theorem Evolved.closeAt (hold : ∀ r ∈ rows, Evolved runId rows ts r (g r))
    (hnew : ∀ n ∈ created, n.crawlRunId = some runId ∧ n.validFrom ∈ ts)
    (hfree : ∀ x ∈ rows.map g ++ created, x.validFrom ≠ t) (hr : r ∈ rows) :
    Evolved runId rows (ts ++ [t]) r ((g r).closeAt (rows.map g ++ created) t (some runId)) := by
  have h := hold r hr
  have hmem : g r ∈ rows.map g ++ created := List.mem_append_left _ (List.mem_map_of_mem hr)
  have hne : r.validFrom ≠ t := by
    rw [← h.validFrom]
    exact hfree _ hmem
  have hnts : r.validFrom ∉ ts ++ [t] → r.validFrom ∉ ts := fun hts hm => hts (List.mem_append_left _ hm)
  refine ⟨by simpa using h.id, by simpa using h.validFrom, closeAt_crawlRunId.trans h.crawlRunId, fun hd => ?_,
    fun ha hts => ?_, fun ha hts => ?_, fun ha hts hcl => ?_, fun ha hts hcl => ?_⟩
  · have hsame := h.disputed hd
    rcases closeAt_cases (rows.map g ++ created) t (some runId) (g r) with ⟨-, heq⟩ | ⟨hends, -⟩
    · exact heq.trans hsame
    · have hdis : g r ∈ disputedRows (rows.map g ++ created) := mem_disputedRows.mpr ⟨hmem, by rw [hsame]; exact hd⟩
      exact absurd rfl ((endsRow_iff.mp hends).2 (g r) hdis)
  · rw [PriceObservation.closeAt_isDisputed]
    have hts' := (List.mem_append.mp hts).resolve_right fun hm => hne (List.mem_singleton.mp hm)
    exact h.hit ha hts'
  · exact closeAt_verificationStatus.trans (h.status ha (hnts hts))
  · rcases closeAt_cases (rows.map g ++ created) t (some runId) (g r) with ⟨hends, heq⟩ | ⟨-, heq⟩
    · rw [heq]
      by_cases hbefore : Closes rows ts r
      · exact h.closed ha (hnts hts) hbefore
      · obtain ⟨hd, hin⟩ := (closes_append.mp hcl).resolve_left hbefore
        rw [endsRow_of_gap hold hnew hr (hnts hts) hbefore hd hin] at hends
        cases hends
    · rw [heq]
      rfl
  · rcases closeAt_cases (rows.map g ++ created) t (some runId) (g r) with ⟨-, heq⟩ | ⟨hends, -⟩
    · exact heq.trans (h.kept ha (hnts hts) fun hc => hcl (closes_append.mpr (Or.inl hc)))
    · exact absurd (closes_append.mpr (Or.inr (closes_of_endsRow hold hfree hr hends))) hcl

end Placed

theorem LaneEvolved.placed (h : LaneEvolved runId rows ts rows') (hfree : ∀ x ∈ rows', x.validFrom ≠ t)
    {n : PriceObservation} (hn : n.crawlRunId = some runId) (hnt : n.validFrom = t) :
    LaneEvolved runId rows (ts ++ [t]) (rows'.map (·.closeAt rows' t (some runId)) ++ [n]) := by
  obtain ⟨g, created, rfl, hold, hnew⟩ := h
  refine ⟨fun r => (g r).closeAt (rows.map g ++ created) t (some runId),
    created.map (·.closeAt (rows.map g ++ created) t (some runId)) ++ [n], ?_, fun r hr => ?_, fun m hm => ?_⟩
  · rw [List.map_append, List.map_map, List.append_assoc]
    rfl
  · exact Evolved.closeAt hold hnew hfree hr
  · rcases List.mem_append.mp hm with hm | hm
    · obtain ⟨m', hm', rfl⟩ := List.mem_map.mp hm
      rw [closeAt_crawlRunId, PriceObservation.closeAt_validFrom]
      exact ⟨(hnew m' hm').1, List.mem_append_left _ (hnew m' hm').2⟩
    · rw [List.mem_singleton.mp hm]
      exact ⟨hn, by rw [hnt]; simp⟩

theorem LaneEvolved.step (h : LaneEvolved runId rows ts rows') (hstep : LaneStep rows' c (some runId) rows'')
    (hc : c.crawlRunId = some runId) (hnew : ∀ r ∈ rows', r.toPriceFact.key ≠ c.fact.key) :
    LaneEvolved runId rows (ts ++ [c.observedAt]) rows'' := by
  cases hstep with
  | reused hr hk => exact absurd hk (hnew _ hr)
  | conflicted hfits _ hat => exact h.conflicted hat hc rfl
  | placed hfits _ hfree => exact h.placed hfree hc rfl

end Step

/-! ### A run and its rollback -/

structure RecordCall.OfRun (runId : Int) (call : RecordCall) : Prop where
  candidate : call.candidate.crawlRunId = some runId
  provenance : call.provenance.crawlRunId = some runId
  lane : ∃ lane, call.candidate.lane? = some lane

/-- The call succeeds and its fact is new. -/
def Db.creates (db : Db) (call : RecordCall) : Bool :=
  match recordPriceFact db call.candidate call.provenance call.importedAt with
  | .ok (_, res) => res.factCreated
  | .error _ => false

def RecordsNew (db : Db) : List RecordCall → Prop
  | [] => True
  | call :: calls => db.creates call = true ∧ RecordsNew (db.record call) calls

def instantsIn (lane : Lane) (calls : List RecordCall) : List Instant :=
  (calls.filter (·.candidate.lane? = some lane)).map (·.candidate.observedAt)

def Unrolled (runId : Int) (db : Db) : Prop := ∀ r ∈ db.observations, r.crawlRunId = some runId → r.rolledBackAt = none

section Run
variable {db db₁ : Db} {lane : Lane} {runId : Int} {c : Candidate} {run : Option Int} {importedAt : Instant}
  {call : RecordCall} {calls : List RecordCall} {rows : List PriceObservation} {ts : List Instant}

theorem Unrolled.update (h : Unrolled runId db) {p : PriceObservation → Bool} {f : PriceObservation → PriceObservation}
    (hf : ∀ r, (f r).crawlRunId = r.crawlRunId ∧ (f r).rolledBackAt = r.rolledBackAt) :
    Unrolled runId (db.update p f) := by
  intro r hr hc
  obtain ⟨s, hs, rfl⟩ := List.mem_map.mp hr
  by_cases hp : p s = true
  · simp only [hp, if_true] at hc ⊢
    rw [(hf s).1] at hc
    rw [(hf s).2]
    exact h s hs hc
  · simp only [hp] at hc ⊢
    exact h s hs hc

theorem FactStep.unrolled (h : FactStep db lane c run importedAt db₁) (hr : c.rolledBackAt = none)
    (hu : Unrolled runId db) : Unrolled runId db₁ := by
  have hinsert : ∀ {db' : Db} {r : PriceObservation} {d : Bool}, Unrolled runId db' → r.rolledBackAt = none →
      Unrolled runId (db'.insert r d) := by
    intro db' r d hu' hrow s hs hc
    rcases List.mem_append.mp hs with hs | hs
    · exact hu' s hs hc
    · rw [List.mem_singleton.mp hs]
      exact hrow
  cases h with
  | reused => exact hu
  | conflicted =>
    refine hinsert ?_ hr
    exact hu.update (f := PriceObservation.collapse) fun _ => ⟨rfl, rfl⟩
  | placed => exact hinsert (hu.update fun _ => ⟨rfl, rfl⟩) hr

theorem FactStep.crawlRuns (h : FactStep db lane c run importedAt db₁) : db₁.crawlRuns = db.crawlRuns := by
  cases h <;> rfl

theorem recordAll_keeps (hcalls : ∀ call ∈ calls, call.OfRun runId) (hu : Unrolled runId db) :
    Unrolled runId (db.recordAll calls) ∧ (db.recordAll calls).crawlRuns = db.crawlRuns := by
  induction calls generalizing db with
  | nil => exact ⟨hu, rfl⟩
  | cons call calls ih =>
    obtain ⟨l, hl⟩ := (hcalls call List.mem_cons_self).lane
    have hstep : Unrolled runId (db.record call) ∧ (db.record call).crawlRuns = db.crawlRuns := by
      rcases record_step db hl with heq | ⟨hr, -, db₁, hstep, hsame⟩
      · rw [heq]
        exact ⟨hu, rfl⟩
      · refine ⟨fun r hmem => ?_, hsame.crawlRuns.trans hstep.crawlRuns⟩
        rw [hsame.observations] at hmem
        exact hstep.unrolled hr hu r hmem
    obtain ⟨hu', hruns⟩ := ih (fun d hd => hcalls d (List.mem_cons_of_mem _ hd)) hstep.1
    exact ⟨hu', hruns.trans hstep.2⟩

theorem laneEvolved_record (h : LaneEvolved runId rows ts (db.live lane)) (hcall : call.OfRun runId)
    (hnew : db.creates call = true) :
    LaneEvolved runId rows (ts ++ instantsIn lane [call]) ((db.record call).live lane) := by
  obtain ⟨l, hl⟩ := hcall.lane
  by_cases hlane : lane = l
  · subst hlane
    unfold Db.creates at hnew
    unfold Db.record
    cases hok : recordPriceFact db call.candidate call.provenance call.importedAt with
    | error e =>
      rw [hok] at hnew
      cases hnew
    | ok res =>
      rw [hok] at hnew
      obtain ⟨hr, -, hkeys, db₁, hstep, hsame⟩ := recordPriceFact_ok hl (show _ = Except.ok (res.1, res.2) from hok)
      have hinst : instantsIn lane [call] = [call.candidate.observedAt] := by simp [instantsIn, hl]
      rw [hcall.provenance] at hstep
      rw [hinst, hsame.live]
      exact h.step (hstep.laneStep hl hr) hcall.candidate (hkeys hnew)
  · have hinst : instantsIn lane [call] = [] := by simp [instantsIn, hl, Ne.symm hlane]
    rw [live_record_of_ne hl hlane, hinst, List.append_nil]
    exact h

theorem laneEvolved_recordAll (h : LaneEvolved runId rows ts (db.live lane)) (hcalls : ∀ call ∈ calls, call.OfRun runId)
    (hnew : RecordsNew db calls) :
    LaneEvolved runId rows (ts ++ instantsIn lane calls) ((db.recordAll calls).live lane) := by
  induction calls generalizing db ts with
  | nil =>
    rw [show instantsIn lane [] = [] from rfl, List.append_nil]
    exact h
  | cons call calls ih =>
    have hstep := laneEvolved_record h (hcalls call List.mem_cons_self) hnew.1
    have happend : instantsIn lane (call :: calls) = instantsIn lane [call] ++ instantsIn lane calls := by
      rw [← List.singleton_append]
      simp only [instantsIn, List.filter_append, List.map_append]
    rw [happend, ← List.append_assoc]
    exact ih hstep (fun d hd => hcalls d (List.mem_cons_of_mem _ hd)) hnew.2

theorem Evolved.reopen_temporal {r r' : PriceObservation} (h : Evolved runId rows ts r r')
    (hfresh : r.closedByRunId ≠ some runId) :
    (r'.reopen runId).temporal = r.temporal ↔ (r.isDisputed = false → Restorable rows ts r) := by
  cases hd : r.isDisputed with
  | true =>
    rw [h.disputed hd, PriceObservation.reopen_of_ne hfresh]
    exact ⟨fun _ hf => (nomatch hf), fun _ => rfl⟩
  | false =>
    simp only [forall_const]
    have htemporal : (r'.reopen runId).temporal = r.temporal ↔
        (r'.reopen runId).validUntil = r.validUntil ∧ r'.verificationStatus = r.verificationStatus := by
      simp [PriceObservation.temporal, h.id, h.validFrom]
    rw [htemporal]
    by_cases hts : r.validFrom ∈ ts
    · -- The run made it disputed, which the rollback does not undo.
      refine ⟨fun ⟨_, hstatus⟩ => ?_, fun hrest => absurd hts hrest.1⟩
      have hdis := h.hit hd hts
      unfold PriceObservation.isDisputed at hdis hd
      rw [hstatus, hd] at hdis
      cases hdis
    · have hstatus := h.status hd hts
      by_cases hcl : Closes rows ts r
      · rw [PriceObservation.reopen_validUntil (h.closed hd hts hcl)]
        refine ⟨fun ⟨hnone, _⟩ => ⟨hts, fun hne => absurd hnone.symm hne⟩, fun hrest => ⟨?_, hstatus⟩⟩
        by_contra hne
        exact hrest.2 (fun hnone => hne hnone.symm) hcl
      · rw [h.kept hd hts hcl, PriceObservation.reopen_of_ne hfresh]
        exact ⟨fun _ => ⟨hts, fun _ => hcl⟩, fun _ => ⟨rfl, rfl⟩⟩

theorem Unrolled.not_alreadyRolledBack (h : Unrolled runId db) {force : Bool} :
    alreadyRolledBack db runId force = false := by
  unfold alreadyRolledBack
  cases hcreated : db.observations.filter (·.crawlRunId = some runId) with
  | nil => rfl
  | cons r rest =>
    obtain ⟨hr, hc⟩ := List.mem_filter.mp (hcreated ▸ List.mem_cons_self)
    simp [h r hr (by simpa using hc)]

/-- A run of new facts followed at once by its rollback leaves the live rows of a lane as they were exactly when
    each of its active rows is restorable. -/
theorem rollback_recordAll_iff (crawlRun : CrawlRun) {actorUserId : Option Int} {force : Bool} {now : Instant}
    (hrun : db.crawlRuns.find? (·.publicId = crawlRun.publicId) = some crawlRun)
    (hfresh : ∀ r ∈ db.observations, r.crawlRunId ≠ some crawlRun.id ∧ r.closedByRunId ≠ some crawlRun.id)
    (hcalls : ∀ call ∈ calls, call.OfRun crawlRun.id) (hnew : RecordsNew db calls) :
    (((db.recordAll calls).rollback crawlRun.publicId actorUserId force now).live lane).map (·.temporal) =
        (db.live lane).map (·.temporal) ↔
      ∀ r ∈ activeRows (db.live lane), Restorable (db.live lane) (instantsIn lane calls) r := by
  have hstart : LaneEvolved crawlRun.id (db.live lane) [] (db.live lane) :=
    ⟨id, [], by simp, fun r _ => Evolved.refl, fun n hn => by cases hn⟩
  obtain ⟨g, created, hlive, hold, hcreated⟩ := laneEvolved_recordAll hstart hcalls hnew
  rw [List.nil_append] at hold hcreated
  have hu : Unrolled crawlRun.id db := fun r hr hc => absurd hc (hfresh r hr).1
  obtain ⟨hu', hruns⟩ := recordAll_keeps hcalls hu
  have hmem : ∀ r ∈ db.live lane, r ∈ db.observations := fun r hr => (Db.mem_live.mp hr).1
  -- The rollback is not taken for a repetition, and leaves the earlier rows.
  have hundo : ((db.recordAll calls).rollback crawlRun.publicId actorUserId force now).live lane =
      (db.live lane).map fun r => (g r).reopen crawlRun.id := by
    rw [← hruns] at hrun
    rw [rollback_of_run hrun hu'.not_alreadyRolledBack, Db.live_undo, hlive, List.filter_append,
      List.filter_eq_self.mpr fun r hr => ?_, List.filter_eq_nil_iff.mpr fun n hn => ?_, List.append_nil, List.map_map]
    · rfl
    · simpa using (hcreated n hn).1
    · obtain ⟨s, hs, rfl⟩ := List.mem_map.mp hr
      rw [(hold s hs).crawlRunId]
      simpa using (hfresh s (hmem s hs)).1
  rw [hundo, List.map_map, List.map_inj_left]
  constructor
  · intro h r hr
    obtain ⟨hr, hact⟩ := mem_activeRows.mp hr
    exact ((hold r hr).reopen_temporal (hfresh r (hmem r hr)).2).mp (h r hr) hact
  · intro h r hr
    exact ((hold r hr).reopen_temporal (hfresh r (hmem r hr)).2).mpr fun hact => h r (mem_activeRows.mpr ⟨hr, hact⟩)

end Run

/-- A run that continues an open row, and adds a row of its own, is undone. -/
theorem rollback_recordAll_iff_milk :
    let db := threeRuns.recordAll [milk 1 10 1]
    let calls := [milk 2 20 2, milk 3 30 2]
    (((db.recordAll calls).rollback "b" none false 99).live milkLane).map (·.temporal) =
        (db.live milkLane).map (·.temporal) ↔
      ∀ r ∈ activeRows (db.live milkLane), Restorable (db.live milkLane) (instantsIn milkLane calls) r := by
  intro db calls
  refine rollback_recordAll_iff ⟨2, "b"⟩ (by decide +kernel) (by decide +kernel) ?_
    ⟨by decide +kernel, by decide +kernel, trivial⟩
  simp only [calls, List.forall_mem_cons, List.not_mem_nil, false_imp_iff, implies_true, and_true]
  exact ⟨⟨rfl, rfl, milkLane, rfl⟩, rfl, rfl, milkLane, rfl⟩

/-- A late arrival between two rows: its rollback opens the first one, which had ended at the second. -/
theorem rollback_late_arrival :
    let db := threeRuns.recordAll [milk 1 10 1, milk 3 30 1]
    laneInvariantsHold (db.live milkLane) = true ∧ RecordsNew db [milk 2 20 2] ∧
      (((db.recordAll [milk 2 20 2]).rollback "b" none false 99).live milkLane).map (·.temporal) ≠
        (db.live milkLane).map (·.temporal) :=
  ⟨by decide +kernel, ⟨by decide +kernel, trivial⟩, by decide +kernel⟩

end CestaPlan.History
