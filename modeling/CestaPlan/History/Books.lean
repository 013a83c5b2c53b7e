import CestaPlan.History.Replay
import CestaPlan.Library.Register

/-! What a run of calls has written, counted.

    The tables are a register of the facts that were offered, told apart under their routing, and of the provenances that
    confirmed them. Every lane stays in order, so no call that the columns have room for is turned away. -/

namespace CestaPlan.History

/-! ### Runs of calls are a register -/

/-- The provenance that tells occurrences of a fact apart (`occurrence_provenance_tuple`). -/
structure ProvenanceTuple where
  providerCode : Option String
  sourceId : Option Int
  crawlRunId : Option Int
  rawCaptureId : Option Int
  connectorVersion : Option String
  parserVersion : Option String
deriving DecidableEq

def OccurrenceProvenance.tuple (p : OccurrenceProvenance) : ProvenanceTuple := { p with }

def PriceObservationOccurrence.tuple (o : PriceObservationOccurrence) : ProvenanceTuple := { o with }

/-- A fact under the routing flag, as the search for an existing fact tells them apart. -/
abbrev RoutedFact := Bool × PriceFact

def RecordCall.routed (call : RecordCall) : RoutedFact :=
  (call.candidate.stagingOnly.getD false, priceFactFingerprint call.candidate.fact)

def PriceObservation.routed (r : PriceObservation) : RoutedFact := (r.stagingOnly, priceFactFingerprint r.toPriceFact)

/-- The columns have room for the fact, and keep what tells it apart. -/
def PriceFact.Kept (f : PriceFact) : Prop := f.fits = true ∧ f.store.key = f.key

def Db.register (db : Db) : Register Nat RoutedFact ProvenanceTuple where
  entries := db.observations.map fun r => (r.id, r.routed)
  confirmations := db.occurrences.map fun o => (o.priceObservationId, o.tuple)

/-- The tables hold what the calls have offered, and all of it is live and in order. -/
structure Books (db : Db) (calls : List RecordCall) : Prop where
  register : db.register.Holds (calls.map fun call => (call.routed, call.provenance.tuple))
  keyed : db.Keyed
  live : ∀ r ∈ db.observations, r.rolledBackAt = none
  chained : ∀ lane, Chained (db.live lane)

section Books
variable {db db₁ : Db} {lane : Lane} {c : Candidate} {call : RecordCall} {calls : List RecordCall} {run : Option Int}
  {importedAt : Instant} {row : PriceObservation} {created : Bool} {p : OccurrenceProvenance} {id : Nat}

theorem findExistingOccurrence_eq_none_iff :
    findExistingOccurrence db id p = none ↔ (id, p.tuple) ∉ db.register.confirmations := by
  simp only [findExistingOccurrence, List.find?_eq_none, Db.register, List.mem_map, not_exists, not_and,
    PriceObservationOccurrence.tuple, OccurrenceProvenance.tuple, Prod.mk.injEq, ProvenanceTuple.mk.injEq, Bool.and_eq_true, decide_eq_true_eq,
    and_assoc]

theorem recordOccurrence_register :
    (recordOccurrence db id p importedAt).1.register = db.register.confirm id p.tuple := by
  unfold recordOccurrence Register.confirm
  cases hf : findExistingOccurrence db id p with
  | none =>
    rw [if_neg (findExistingOccurrence_eq_none_iff.mp hf)]
    simp only [Db.register, List.map_append]
    rfl
  | some o =>
    have hmem : (id, p.tuple) ∈ db.register.confirmations := by
      by_contra hnot
      rw [findExistingOccurrence_eq_none_iff.mpr hnot] at hf
      cases hf
    rw [if_pos hmem]

theorem recordOccurrence_of_confirmed (h : (id, p.tuple) ∈ db.register.confirmations) :
    (recordOccurrence db id p importedAt).1 = db := by
  unfold recordOccurrence
  cases hf : findExistingOccurrence db id p with
  | none => exact absurd h (findExistingOccurrence_eq_none_iff.mp hf)
  | some o => rfl

theorem mem_exact_iff_routed (hcall : call.Fresh lane) (hkept : call.candidate.fact.Kept) {r : PriceObservation}
    (hr : r ∈ db.observations) (hlive : r.rolledBackAt = none) :
    r ∈ db.exact lane call.candidate.fact ↔ r.routed = call.routed := by
  obtain ⟨hs, hlane⟩ := Candidate.lane?_eq_some.mp hcall.lane
  rw [mem_exact, Db.mem_live]
  constructor
  · rintro ⟨⟨-, hrl, -⟩, hk⟩
    refine Prod.ext ?_ (show priceFactFingerprint r.toPriceFact = _ from congrArg Prod.snd hk)
    show r.stagingOnly = call.candidate.stagingOnly.getD false
    rw [hs, ← hrl]
    rfl
  · intro h
    obtain ⟨hstaging, hfp⟩ := Prod.mk.inj h
    rw [hs, Option.getD_some] at hstaging
    have hkey : r.toPriceFact.key = call.candidate.fact.key := by
      rw [← hkept.2]
      refine r.columns.key_of_fingerprint (PriceFact.store_stored hkept.1) (hfp.trans ?_)
      exact (congrArg Prod.snd hkept.2).symm
    refine ⟨⟨hr, ?_, hlive⟩, hkey⟩
    show r.toPriceFact.lane r.stagingOnly = lane
    rw [hstaging, PriceFact.lane_of_fingerprint hfp]
    exact hlane

theorem Books.routed_nodup (h : Books db calls) : (db.observations.map (·.routed)).Nodup := by
  have hkeys := h.register.keys
  rwa [Db.register, List.map_map] at hkeys

theorem Books.length_exact_le (h : Books db calls) (hcall : call.Fresh lane) (hkept : call.candidate.fact.Kept) :
    (db.exact lane call.candidate.fact).length ≤ 1 := by
  have hsub : (db.exact lane call.candidate.fact).Sublist db.observations :=
    List.filter_sublist.trans List.filter_sublist
  have hsame : (db.exact lane call.candidate.fact).map (·.routed) =
      List.replicate (db.exact lane call.candidate.fact).length call.routed := by
    refine List.eq_replicate_iff.mpr ⟨List.length_map _, fun k hk => ?_⟩
    obtain ⟨r, hr, rfl⟩ := List.mem_map.mp hk
    have hobs := hsub.subset hr
    exact (mem_exact_iff_routed hcall hkept hobs (h.live r hobs)).mp hr
  have hnodup := h.routed_nodup.sublist (hsub.map _)
  rwa [hsame, List.nodup_replicate] at hnodup

theorem entries_update {q : PriceObservation → Bool} {f : PriceObservation → PriceObservation}
    (hf : ∀ r, ((f r).id, (f r).routed) = (r.id, r.routed)) :
    (db.update q f).observations.map (fun r => (r.id, r.routed)) = db.observations.map fun r => (r.id, r.routed) := by
  simp only [Db.update, List.map_map]
  refine List.map_congr_left fun r _ => ?_
  rw [Function.comp_apply]
  split
  · exact hf r
  · rfl

/-- What a call does to the entries: it finds the one of its fact, or adds it. -/
theorem FactRow.entries (hcall : call.Fresh lane) (hkept : call.candidate.fact.Kept) (h : Books db calls)
    (hrow : FactRow db lane call.candidate run importedAt db₁ row created) :
    db₁.register.confirmations = db.register.confirmations ∧
      ((row.id, call.routed) ∈ db.register.entries ∧ db₁ = db ∨
        call.routed ∉ db.register.entries.map Prod.snd ∧ row.id = db.nextObservationId ∧
          db₁.register.entries = db.register.entries ++ [(row.id, call.routed)]) := by
  have hnew : db.exact lane call.candidate.fact = [] → call.routed ∉ db.register.entries.map Prod.snd := by
    intro hnil hmem
    rw [Db.register, List.map_map] at hmem
    obtain ⟨r, hr, heq⟩ := List.mem_map.mp hmem
    have hexact := (mem_exact_iff_routed hcall hkept hr (h.live r hr)).mpr heq
    rw [hnil] at hexact
    cases hexact
  have hrouted : ∀ u d hfits, (call.candidate.row u d importedAt db.nextObservationId hfits).routed = call.routed := by
    intro u d hfits
    exact Prod.ext rfl (show priceFactFingerprint call.candidate.fact.store = _ from congrArg Prod.snd hkept.2)
  cases hrow with
  | found hr =>
    have hmem : row ∈ db.exact lane call.candidate.fact := hr ▸ List.mem_cons_self
    have hobs : row ∈ db.observations := (Db.mem_live.mp (mem_exact.mp hmem).1).1
    have heq := (mem_exact_iff_routed hcall hkept hobs (h.live row hobs)).mp hmem
    exact ⟨rfl, Or.inl ⟨List.mem_map.mpr ⟨row, hobs, by rw [heq]⟩, rfl⟩⟩
  | conflicted hfits hnil hat =>
    refine ⟨rfl, Or.inr ⟨hnew hnil, rfl, ?_⟩⟩
    show List.map (fun r => (r.id, r.routed)) ((db.conflictAt lane _).observations ++ [_]) = _
    rw [List.map_append, List.map_singleton, hrouted]
    exact congrArg (· ++ _) (entries_update fun _ => rfl)
  | placed hfits hnil hfree =>
    refine ⟨rfl, Or.inr ⟨hnew hnil, rfl, ?_⟩⟩
    show List.map (fun r => (r.id, r.routed)) ((db.closeBefore lane _ _).observations ++ [_]) = _
    rw [List.map_append, List.map_singleton, hrouted]
    exact congrArg (· ++ _) (entries_update fun _ => rfl)

theorem Books.laneHolds (h : Books db calls) (lane : Lane) : laneInvariantsHold (db.live lane) = true :=
  (laneInvariantsHold_of_lane fun _ hr => lane_of_mem_live hr).mpr (h.chained lane).laneHolds

theorem Books.exists_row (h : Books db calls) (hcall : call.Fresh lane) (hkept : call.candidate.fact.Kept) :
    ∃ db₁ row created, FactRow db lane call.candidate call.provenance.crawlRunId call.importedAt db₁ row created ∧
      db.record call = (recordOccurrence db₁ row.id call.provenance call.importedAt).1 := by
  obtain ⟨db₁, row, created, diag, hfact, hrow⟩ := recordFact_row call.provenance call.importedAt
    hcall.lane (h.laneHolds lane) (h.length_exact_le hcall hkept) fun _ => hkept.1
  obtain ⟨res, hres, -⟩ := recordPriceFact_eq hcall.valid hfact
  refine ⟨db₁, row, created, hrow, ?_⟩
  rw [Db.record, hres]

theorem FactStep.live_none {r : PriceObservation} (h : FactStep db lane c run importedAt db₁)
    (hlive : ∀ r ∈ db.observations, r.rolledBackAt = none) (hc : c.rolledBackAt = none) (hr : r ∈ db₁.observations) :
    r.rolledBackAt = none := by
  have hupdate : ∀ (q : PriceObservation → Bool) (f : PriceObservation → PriceObservation),
      (∀ r, (f r).rolledBackAt = r.rolledBackAt) → ∀ r ∈ (db.update q f).observations, r.rolledBackAt = none := by
    intro q f hf r hr
    obtain ⟨s, hs, rfl⟩ := List.mem_map.mp hr
    have hsnone := hlive s hs
    split
    · rw [hf, hsnone]
    · exact hsnone
  cases h with
  | reused => exact hlive r hr
  | conflicted =>
    rcases List.mem_append.mp hr with hr | hr
    · exact hupdate _ PriceObservation.collapse (fun _ => rfl) r hr
    · rw [List.mem_singleton.mp hr]
      exact hc
  | placed =>
    rcases List.mem_append.mp hr with hr | hr
    · exact hupdate _ (·.close c.observedAt run) (fun _ => rfl) r hr
    · rw [List.mem_singleton.mp hr]
      exact hc

/-- A call is one more offer. -/
theorem Books.record (h : Books db calls) (hcall : call.Fresh lane) (hkept : call.candidate.fact.Kept) :
    Books (db.record call) (calls ++ [call]) := by
  obtain ⟨db₁, row, created, hrow, heq⟩ := h.exists_row hcall hkept
  obtain ⟨hconf, hentries⟩ := hrow.entries hcall hkept h
  have hsame : SameFacts db₁ (db.record call) := heq ▸ sameFacts_recordOccurrence
  refine ⟨?_, hsame.keyed (hrow.step.keyed h.keyed), fun r hr => ?_, fun lane' => ?_⟩
  · rw [heq, recordOccurrence_register, List.map_append, List.map_singleton]
    rcases hentries with ⟨hmem, rfl⟩ | ⟨hnew, hid, hentries⟩
    · exact h.register.confirm hmem
    · have hreg : db₁.register = { db.register with entries := db.register.entries ++ [(row.id, call.routed)] } := by
        rw [← hentries]
        exact congrArg (Register.mk _) hconf
      rw [hreg]
      refine h.register.enter ?_ fun hmem => hnew ((h.register.mem_keys _).mpr hmem)
      rw [hid, Db.register, List.map_map]
      intro hmem
      obtain ⟨r, hr, hrid⟩ := List.mem_map.mp hmem
      exact absurd hrid (h.keyed.fresh r hr).ne
  · rw [hsame.observations] at hr
    exact hrow.step.live_none h.live (validateCandidateState_ok hcall.valid) hr
  · by_cases hlane : lane' = lane
    · rw [hlane]
      exact chained_record hcall.lane hcall.not_disputed (h.chained lane)
    · rw [live_record_of_ne hcall.lane hlane]
      exact h.chained lane'

theorem Books.record_again (h : Books db calls) (hcall : call.Fresh lane) (hkept : call.candidate.fact.Kept)
    (hmem : (call.routed, call.provenance.tuple) ∈ calls.map fun call => (call.routed, call.provenance.tuple)) :
    db.record call = db := by
  obtain ⟨db₁, row, created, hrow, heq⟩ := h.exists_row hcall hkept
  obtain ⟨-, ⟨hentry, rfl⟩ | ⟨hnew, -⟩⟩ := hrow.entries hcall hkept h
  · rw [heq]
    exact recordOccurrence_of_confirmed ((h.register.mem_confirmations _ _).mpr ⟨_, hentry, hmem⟩)
  · exact absurd ((h.register.mem_keys _).mpr (List.mem_map_of_mem (f := Prod.fst) hmem)) hnew

/-- The tables hold what the calls have offered: a live row for each fact, an occurrence for each provenance of it, and
    whichever of the first calls are made again, nothing changes. -/
structure RecordedOnce (db : Db) (calls : List RecordCall) : Prop where
  facts : db.observations.countP (·.rolledBackAt.isNone) = (calls.map (·.routed)).dedup.length
  occurrences : db.occurrences.length = (calls.map fun call => (call.routed, call.provenance.tuple)).dedup.length
  replays : ∀ again, again <+: calls → db.recordAll again = db

theorem books_recordAll (hdb : Books db calls) {more : List RecordCall}
    (hmore : ∀ call ∈ more, (∃ lane, call.Fresh lane) ∧ call.candidate.fact.Kept) :
    Books (db.recordAll more) (calls ++ more) := by
  induction more generalizing db calls with
  | nil => rwa [List.append_nil]
  | cons call more ih =>
    obtain ⟨⟨lane, hcall⟩, hkept⟩ := hmore call List.mem_cons_self
    have hrest := ih (hdb.record hcall hkept) fun d hd => hmore d (List.mem_cons_of_mem _ hd)
    rwa [List.append_assoc] at hrest

theorem Books.recordAll_again (h : Books db calls) {again : List RecordCall}
    (hagain : ∀ call ∈ again, call ∈ calls ∧ (∃ lane, call.Fresh lane) ∧ call.candidate.fact.Kept) :
    db.recordAll again = db := by
  induction again with
  | nil => rfl
  | cons call again ih =>
    obtain ⟨hmem, ⟨lane, hcall⟩, hkept⟩ := hagain call List.mem_cons_self
    rw [Db.recordAll, List.foldl_cons, h.record_again hcall hkept (List.mem_map_of_mem hmem)]
    exact ih fun d hd => hagain d (List.mem_cons_of_mem _ hd)

/-- From empty tables any calls whose decimals the columns keep record each fact once under its routing, and each
    provenance of it once. -/
theorem recordedOnce_recordAll (hobs : db.observations = []) (hocc : db.occurrences = []) (hanomalies : db.anomalies = [])
    (hcalls : ∀ call ∈ calls, (∃ lane, call.Fresh lane) ∧ call.candidate.fact.Kept) :
    RecordedOnce (db.recordAll calls) calls := by
  have hempty : Books db [] := by
    refine ⟨?_, ⟨by simp [hobs], by simp [hobs], by simp [hanomalies]⟩, by simp [hobs], fun lane => ?_⟩
    · rw [Db.register, hobs, hocc]
      exact Register.holds_nil
    · rw [Db.live, hobs]
      exact Chained.nil
  have h : Books (db.recordAll calls) calls := books_recordAll hempty hcalls
  refine ⟨?_, ?_, fun again hpre => h.recordAll_again fun call hmem => ?_⟩
  · have hall : (db.recordAll calls).observations.countP (·.rolledBackAt.isNone) =
        (db.recordAll calls).observations.length :=
      List.countP_eq_length.mpr fun r hr => by rw [h.live r hr]; rfl
    have hsize := h.register.length_entries
    simp only [Db.register, List.length_map, List.map_map] at hsize
    exact hall.trans hsize
  · simpa [Db.register] using h.register.length_confirmations
  · have hmem' := hpre.subset hmem
    exact ⟨hmem', hcalls call hmem'⟩

end Books

/-- A price that two runs confirm, and the next one. -/
theorem recordedOnce_recordAll_milk :
    RecordedOnce (({} : Db).recordAll [milk 2 10 1, milk 2 10 2, milk 3 20 2]) [milk 2 10 1, milk 2 10 2, milk 3 20 2] := by
  have hkept : ∀ call ∈ [milk 2 10 1, milk 2 10 2, milk 3 20 2], call.candidate.fact.fits = true ∧
      call.candidate.fact.store.key = call.candidate.fact.key := by
    decide +kernel
  refine recordedOnce_recordAll rfl rfl rfl fun call hcall => ⟨⟨milkLane, ?_⟩, hkept call hcall⟩
  simp only [List.mem_cons, List.not_mem_nil, or_false] at hcall
  rcases hcall with rfl | rfl | rfl
  · exact milk_fresh
  · exact milk_fresh
  · exact milk_fresh

/-- The price of a run, and the same price for production. -/
def twoRoutings : List RecordCall :=
  [milk 2 10 1, { milk 2 10 1 with candidate := { (milk 2 10 1).candidate with stagingOnly := some false } }]

/-- One fact under both routings has two rows. -/
theorem recordAll_twoRoutings :
    (({} : Db).recordAll twoRoutings).observations.countP (·.rolledBackAt.isNone) = 2 ∧
      (twoRoutings.map fun call => priceFactFingerprint call.candidate.fact).dedup.length = 1 := by
  decide +kernel

end CestaPlan.History
