import CestaPlan.Library.Ledger
import CestaPlan.History.Chain

/-! A lane is a ledger of its facts.

    The rows of a lane that recording built are the facts of a ledger, in their order of arrival, each with
    the interval and the dispute that the ledger gives it. So what a run of calls leaves is a matter of
    which facts it entered, and the general facts about ledgers say when the order of arrival matters. -/

namespace CestaPlan.History
open Anchors Ledger

/-- A fact that the columns have room for. -/
abbrev Fact := { f : PriceFact // f.fits = true }

/-- Facts in time: told apart by their key, stored as the columns keep them. -/
def factScheme : Scheme Fact (ℚ × PriceFact) Instant where
  time f := f.1.observedAt
  key f := f.1.key
  store f := ⟨f.1.store, f.1.store_fits.trans f.2⟩
  time_store _ := rfl
  time_of_key h := congrArg (fun k => k.2.observedAt) h
  store_store f := congrArg PriceFact.key f.1.store_store
  exact_of_key {f _} h := PriceFact.key_store_of_key f.2 h

def PriceObservation.recorded (r : PriceObservation) : Fact := ⟨r.toPriceFact, r.columns.fits⟩

def Candidate.offered (c : Candidate) : Option Fact := if h : c.fact.fits = true then some ⟨c.fact, h⟩ else none

def PriceObservation.span (r : PriceObservation) : Span Instant := ⟨r.validFrom, r.validUntil, r.isDisputed⟩

/-- The facts of the rows, in their order of arrival. -/
def ledger (rows : List PriceObservation) : List Fact := rows.map (·.recorded)

/-- The rows show the spans of their ledger, and what is not disputed is unverified. -/
structure Represents (rows : List PriceObservation) : Prop where
  spans : ∀ r ∈ rows, r.span = factScheme.span (ledger rows) r.recorded
  statuses : ∀ r ∈ rows, r.isDisputed = false → r.verificationStatus = .unverified

section Represents
variable {rows rows' : List PriceObservation} {r : PriceObservation} {c : Candidate} {run : Option Int} {t : Instant}

@[simp] theorem recorded_time : factScheme.time r.recorded = r.observedAt := rfl

@[simp] theorem collapseAt_recorded : (r.collapseAt t).recorded = r.recorded := by
  unfold PriceObservation.collapseAt; split <;> rfl

@[simp] theorem closeAt_recorded : (r.closeAt rows t run).recorded = r.recorded := by
  unfold PriceObservation.closeAt; split <;> rfl

theorem span_validFrom {L : List Fact} {f : Fact} : (factScheme.span L f).since = factScheme.time f := by
  unfold Scheme.span
  split <;> rfl

theorem Represents.validFrom (h : Represents rows) (hr : r ∈ rows) : r.validFrom = r.observedAt :=
  (congrArg Span.since (h.spans r hr)).trans span_validFrom

theorem Represents.isDisputed_iff (h : Represents rows) (hr : r ∈ rows) :
    r.isDisputed = true ↔ factScheme.Disputed (ledger rows) r.validFrom := by
  rw [h.validFrom hr, ← recorded_time, ← Scheme.span_disputed, ← h.spans r hr]
  rfl

theorem Represents.times (h : Represents rows) : factScheme.times (ledger rows) = rows.map (·.validFrom) := by
  unfold Scheme.times ledger
  rw [List.map_map]
  exact List.map_congr_left fun r hr => (h.validFrom hr).symm

theorem Represents.nil : Represents [] := ⟨by simp, by simp⟩

theorem Represents.endsRow_iff (h : Represents rows) (hr : r ∈ rows) : endsRow rows t r = true ↔
    previousAnchor (factScheme.times (ledger rows)) t = some r.validFrom ∧
      ¬factScheme.Disputed (ledger rows) r.validFrom := by
  rw [History.endsRow_iff, h.times]
  refine and_congr_right fun _ => ⟨fun hfree hd => ?_, fun hd d hmem heq => ?_⟩
  · exact hfree r (mem_disputedRows.mpr ⟨hr, (h.isDisputed_iff hr).mpr hd⟩) rfl
  · obtain ⟨hmem, hdis⟩ := mem_disputedRows.mp hmem
    exact hd (heq ▸ (h.isDisputed_iff hmem).mp hdis)

theorem laneHolds_of_spans (h : ∀ r ∈ rows, r.span = factScheme.span (ledger rows) r.recorded) : LaneHolds rows := by
  have hfrom : ∀ r ∈ rows, r.validFrom = r.observedAt := fun r hr => (congrArg Span.since (h r hr)).trans span_validFrom
  have hdisputed : ∀ r ∈ rows, r.isDisputed = true ↔ factScheme.Disputed (ledger rows) r.observedAt := by
    intro r hr
    rw [← recorded_time, ← Scheme.span_disputed, ← h r hr]
    rfl
  have htimes : factScheme.times (ledger rows) = rows.map (·.observedAt) := List.map_map
  have hactive : ∀ r ∈ activeRows rows, r.validUntil = nextAnchor (rows.map (·.observedAt)) r.validFrom := by
    intro r hr
    obtain ⟨hr, hact⟩ := mem_activeRows.mp hr
    have hspan := h r hr
    rw [Scheme.span_of_not_disputed, htimes] at hspan
    · rw [hfrom r hr]
      exact congrArg Span.till hspan
    · intro hd
      rw [(hdisputed r hr).mpr hd] at hact
      cases hact
  have hchained : ∀ a ∈ activeRows rows, ∀ b ∈ rows, a.validFrom < b.validFrom → a.endsBy b.validFrom = true := by
    intro a ha b hb hlt
    have hmem : b.validFrom ∈ rows.map (·.observedAt) := by
      rw [hfrom b hb]
      exact List.mem_map_of_mem hb
    obtain ⟨u, hu, hle⟩ := nextAnchor_le hmem hlt
    exact PriceObservation.endsBy_iff.mpr ⟨u, (hactive a ha).trans hu, hle⟩
  refine ⟨?_, fun a ha b hb => hchained a ha b (mem_activeRows.mp hb).1, fun r hr u hu => ?_, fun r hr => ?_,
    fun a ha d hd => hchained a ha d (mem_disputedRows.mp hd).1⟩
  · refine List.nodup_iff_count_le_one.mpr fun t => ?_
    by_contra hcount
    obtain ⟨r, hr, rfl⟩ := List.mem_map.mp (List.count_pos_iff.mp (Nat.lt_of_lt_of_le Nat.one_pos (not_le.mp hcount).le))
    obtain ⟨hmem, hact⟩ := mem_activeRows.mp hr
    -- Two active rows at one instant would be in dispute.
    have hsub : ((activeRows rows).map (·.validFrom)).Sublist (rows.map (·.observedAt)) := by
      rw [← List.map_congr_left hfrom]
      exact List.filter_sublist.map _
    have hd : factScheme.Disputed (ledger rows) r.observedAt := by
      rw [Scheme.disputed_iff_count, htimes, ← hfrom r hmem]
      exact (not_le.mp hcount).trans_le (hsub.count_le _)
    rw [(hdisputed r hmem).mpr hd] at hact
    cases hact
  · rw [hactive r hr] at hu
    exact nextAnchor_lt hu
  · obtain ⟨hr, hdis⟩ := mem_disputedRows.mp hr
    have hspan := h r hr
    rw [Scheme.span_of_disputed ((hdisputed r hr).mp hdis)] at hspan
    rw [hfrom r hr]
    exact congrArg Span.till hspan

/-! ### One call -/

/-- The ledger after a candidate was offered to it. -/
def enter (L : List Fact) (c : Candidate) : List Fact := c.offered.elim L (factScheme.offer L)

theorem offered_of_fits (h : c.fact.fits = true) : c.offered = some ⟨c.fact, h⟩ := dif_pos h

theorem enter_of_key {L : List Fact} {f : Fact} (hf : f ∈ L) (hk : factScheme.key f = c.fact.key) : enter L c = L := by
  unfold enter
  by_cases h : c.fact.fits = true
  · rw [offered_of_fits h]
    exact Scheme.offer_of_mem hf hk
  · rw [Candidate.offered, dif_neg h]
    rfl

theorem enter_of_new (hfits : c.fact.fits = true) (hnew : ∀ r ∈ rows, r.toPriceFact.key ≠ c.fact.key) :
    enter (ledger rows) c = ledger rows ++ [factScheme.store ⟨c.fact, hfits⟩] := by
  unfold enter
  rw [offered_of_fits hfits]
  refine Scheme.offer_of_not_mem fun f hf hk => ?_
  obtain ⟨r, hr, rfl⟩ := List.mem_map.mp hf
  exact hnew r hr hk

section New
variable {importedAt : Instant} {id : Nat} {hfits : c.fact.fits = true}

theorem ledger_conflicted : ledger (rows.map (·.collapseAt c.observedAt) ++
    [c.row (some c.observedAt) true importedAt id hfits]) = ledger rows ++ [factScheme.store ⟨c.fact, hfits⟩] := by
  simp only [ledger, List.map_append, List.map_map, Function.comp_def, collapseAt_recorded]
  rfl

theorem ledger_placed {u : Option Instant} : ledger (rows.map (·.closeAt rows c.observedAt run) ++
    [c.row u false importedAt id hfits]) = ledger rows ++ [factScheme.store ⟨c.fact, hfits⟩] := by
  simp only [ledger, List.map_append, List.map_map, Function.comp_def, closeAt_recorded]
  rfl

theorem represents_conflicted (h : Represents rows) (hat : ∃ r ∈ rows, r.validFrom = c.observedAt) :
    Represents (rows.map (·.collapseAt c.observedAt) ++ [c.row (some c.observedAt) true importedAt id hfits]) := by
  have htime : factScheme.time (factScheme.store ⟨c.fact, hfits⟩) ∈ factScheme.times (ledger rows) := by
    rw [h.times]
    exact List.mem_map.mpr hat
  refine ⟨fun r hr => ?_, fun r hr hdis => ?_⟩
  · rw [ledger_conflicted]
    rcases List.mem_append.mp hr with hr | hr
    · obtain ⟨s, hs, rfl⟩ := List.mem_map.mp hr
      rw [collapseAt_recorded]
      by_cases hst : s.validFrom = c.observedAt
      · have hsame : factScheme.time s.recorded = factScheme.time (factScheme.store ⟨c.fact, hfits⟩) :=
          (h.validFrom hs).symm.trans hst
        rw [Scheme.span_append_same htime hsame]
        have hcol := PriceObservation.collapseAt_of_eq hst
        unfold PriceObservation.collapseAt at hcol ⊢
        split at hcol
        · next hact =>
          rw [if_pos hact, recorded_time, ← h.validFrom hs]
          rfl
        · next hact =>
          rw [if_neg hact, h.spans s hs]
          refine Scheme.span_of_disputed ?_
          rw [recorded_time, ← h.validFrom hs]
          exact (h.isDisputed_iff hs).mp hcol
      · have hne : factScheme.time s.recorded ≠ factScheme.time (factScheme.store ⟨c.fact, hfits⟩) :=
          fun he => hst ((h.validFrom hs).trans he)
        rw [Scheme.span_append_other htime hne, PriceObservation.collapseAt_of_ne hst, h.spans s hs]
    · rw [List.mem_singleton.mp hr]
      exact (Scheme.span_append_same htime rfl).symm
  · rcases List.mem_append.mp hr with hr | hr
    · obtain ⟨s, hs, rfl⟩ := List.mem_map.mp hr
      obtain ⟨-, hsame⟩ := PriceObservation.collapseAt_active hdis
      rw [hsame] at hdis ⊢
      exact h.statuses s hs hdis
    · rw [List.mem_singleton.mp hr] at hdis
      cases hdis

theorem represents_placed (h : Represents rows) (hfree : ∀ r ∈ rows, r.validFrom ≠ c.observedAt)
    (hs : c.verificationStatus = none) :
    Represents (rows.map (·.closeAt rows c.observedAt run) ++
      [c.row (nextAnchor (rows.map (·.validFrom)) c.observedAt) false importedAt id hfits]) := by
  have htime : factScheme.time (factScheme.store ⟨c.fact, hfits⟩) ∉ factScheme.times (ledger rows) := by
    rw [h.times]
    intro hmem
    obtain ⟨r, hr, heq⟩ := List.mem_map.mp hmem
    exact hfree r hr heq
  have hstatus : (c.row (nextAnchor (rows.map (·.validFrom)) c.observedAt) false importedAt id hfits).verificationStatus =
      .unverified := by
    show c.verificationStatus.getD .unverified = .unverified
    rw [hs]
    rfl
  refine ⟨fun r hr => ?_, fun r hr hdis => ?_⟩
  · rw [ledger_placed]
    rcases List.mem_append.mp hr with hr | hr
    · obtain ⟨s, hs, rfl⟩ := List.mem_map.mp hr
      rw [closeAt_recorded]
      rcases closeAt_cases rows c.observedAt run s with ⟨hends, heq⟩ | ⟨hends, heq⟩
      · have hkept : previousAnchor (factScheme.times (ledger rows)) c.observedAt ≠ some (factScheme.time s.recorded) ∨
            factScheme.Disputed (ledger rows) (factScheme.time s.recorded) := by
          by_contra hc
          push Not at hc
          rw [recorded_time, ← h.validFrom hs] at hc
          have := (h.endsRow_iff (t := c.observedAt) hs).mpr hc
          rw [hends] at this
          cases this
        rw [heq, Scheme.span_append_kept htime (List.mem_map_of_mem hs) hkept, h.spans s hs]
      · obtain ⟨hp, hd⟩ := (h.endsRow_iff hs).mp hends
        rw [h.validFrom hs] at hp hd
        rw [Scheme.span_append_previous hp hd, heq]
        have hdis : s.isDisputed = false := by
          rw [← Bool.not_eq_true, h.isDisputed_iff hs, h.validFrom hs]
          exact hd
        show (⟨s.validFrom, some c.observedAt, s.isDisputed⟩ : Span Instant) = _
        rw [h.validFrom hs, hdis]
        rfl
    · rw [List.mem_singleton.mp hr, ← h.times]
      show (⟨c.observedAt, _, PriceObservation.isDisputed _⟩ : Span Instant) = _
      rw [Candidate.row_isDisputed_false hfits (by rw [hs]; exact fun h => by cases h)]
      exact (Scheme.span_append_free htime).symm
  · rcases List.mem_append.mp hr with hr | hr
    · obtain ⟨s, hs', rfl⟩ := List.mem_map.mp hr
      rw [PriceObservation.closeAt_isDisputed] at hdis
      have hkeep : (s.closeAt rows c.observedAt run).verificationStatus = s.verificationStatus := by
        unfold PriceObservation.closeAt
        split <;> rfl
      rw [hkeep]
      exact h.statuses s hs' hdis
    · rw [List.mem_singleton.mp hr]
      exact hstatus

end New

theorem LaneStep.represents (h : LaneStep rows c run rows') (hr : Represents rows)
    (hs : c.verificationStatus = none) : Represents rows' ∧ ledger rows' = enter (ledger rows) c := by
  cases h with
  | @reused r hmem hk => exact ⟨hr, (enter_of_key (f := r.recorded) (List.mem_map_of_mem hmem) hk).symm⟩
  | conflicted hfits hnew hat =>
    exact ⟨represents_conflicted hr hat, by rw [enter_of_new hfits hnew, ledger_conflicted]⟩
  | placed hfits hnew hfree =>
    exact ⟨represents_placed hr hfree hs, by rw [enter_of_new hfits hnew, ledger_placed]⟩

end Represents

/-! ### Runs of calls -/

/-- A call with a fresh object of the lane whose status the caller left to the database. -/
structure RecordCall.Fresh (lane : Lane) (call : RecordCall) : Prop where
  valid : validateCandidateState call.candidate = .ok ()
  lane : call.candidate.lane? = some lane
  status : call.candidate.verificationStatus = none

/-- Both callers make fresh calls. -/
theorem appendObservation_fresh {retailerId variantId runId : Int} {storeId : Option Int}
    {product : ExternalCatalogProduct} {asOf : Instant} :
    (appendObservation retailerId storeId variantId product runId asOf).Fresh
      ⟨true, retailerId, variantId, storeId, none, product.priceScope, .regular, product.currency⟩ :=
  ⟨rfl, rfl, rfl⟩

theorem persistProduct_fresh {retailerId variantId : Int} {product : ExternalCatalogProduct} {now : Instant} :
    (persistProduct retailerId variantId product now).Fresh
      ⟨true, retailerId, variantId, none, none, product.priceScope, .regular, product.currency⟩ :=
  ⟨rfl, rfl, rfl⟩

theorem milk_fresh {price : ℚ} {t : Instant} {run : Int} : (milk price t run).Fresh milkLane :=
  ⟨rfl, rfl, rfl⟩

section Run
variable {db : Db} {lane : Lane} {call : RecordCall} {calls : List RecordCall}

theorem RecordCall.Fresh.not_disputed (h : call.Fresh lane) :
    call.candidate.verificationStatus ≠ some .disputed := by
  rw [h.status]
  exact fun hs => by cases hs

theorem represents_record (h : call.Fresh lane) (hr : Represents (db.live lane)) (hc : Chained (db.live lane)) :
    Represents ((db.record call).live lane) ∧
      ledger ((db.record call).live lane) = enter (ledger (db.live lane)) call.candidate := by
  have hh := (laneInvariantsHold_of_lane fun r hr => lane_of_mem_live hr).mpr hc.laneHolds
  rcases record_cases h.lane h.valid hh with ⟨db₁, hstep, hsame⟩ | ⟨heq, hno⟩
  · rw [hsame.live]
    exact (hstep.laneStep h.lane (validateCandidateState_ok h.valid)).represents hr h.status
  · rw [heq]
    refine ⟨hr, ?_⟩
    rcases hno with ⟨r, hmem, hk⟩ | hfits
    · exact (enter_of_key (f := r.recorded) (List.mem_map_of_mem hmem) hk).symm
    · rw [enter, Candidate.offered, dif_neg (by rw [hfits]; exact Bool.false_ne_true)]
      rfl

def offeredFacts (calls : List RecordCall) : List Fact := calls.filterMap (·.candidate.offered)

theorem mem_offeredFacts {f : Fact} : f ∈ offeredFacts calls ↔ ∃ call ∈ calls, call.candidate.fact = f.1 := by
  rw [offeredFacts, List.mem_filterMap]
  refine exists_congr fun call => and_congr_right fun _ => ?_
  unfold Candidate.offered
  constructor
  · intro h
    split at h
    · rw [← Option.some.inj h]
    · cases h
  · intro h
    rw [dif_pos (h ▸ f.2)]
    exact congrArg some (Subtype.ext h)

theorem foldl_enter {L : List Fact} : calls.foldl (fun L call => enter L call.candidate) L =
    factScheme.offers L (offeredFacts calls) := by
  induction calls generalizing L with
  | nil => rfl
  | cons call calls ih =>
    rw [List.foldl_cons, ih, offeredFacts, offeredFacts, List.filterMap_cons]
    cases ho : call.candidate.offered with
    | none => rw [enter, ho, Option.elim_none]
    | some f => rw [enter, ho, Option.elim_some, Scheme.offers_cons]

theorem represents_recordAll (hcalls : ∀ call ∈ calls, call.Fresh lane) (hr : Represents (db.live lane))
    (hc : Chained (db.live lane)) :
    Represents ((db.recordAll calls).live lane) ∧ ledger ((db.recordAll calls).live lane) =
      factScheme.offers (ledger (db.live lane)) (offeredFacts calls) := by
  rw [← foldl_enter]
  induction calls generalizing db with
  | nil => exact ⟨hr, rfl⟩
  | cons call calls ih =>
    have hfresh := hcalls call List.mem_cons_self
    obtain ⟨hr', hL⟩ := represents_record hfresh hr hc
    rw [List.foldl_cons, ← hL]
    exact ih (fun d hd => hcalls d (List.mem_cons_of_mem _ hd)) hr'
      (chained_record hfresh.lane hfresh.not_disputed hc)

theorem represents_of_empty (hempty : db.live lane = []) (hcalls : ∀ call ∈ calls, call.Fresh lane) :
    Represents ((db.recordAll calls).live lane) ∧ ledger ((db.recordAll calls).live lane) =
      factScheme.offers [] (offeredFacts calls) := by
  have h := represents_recordAll hcalls (by rw [hempty]; exact Represents.nil) (by rw [hempty]; exact Chained.nil)
  rwa [hempty] at h

end Run

end CestaPlan.History
