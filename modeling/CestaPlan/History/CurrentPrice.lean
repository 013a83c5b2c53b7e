import CestaPlan.History.LaneLedger

/-! The reader of the history (`ingestion/current_price.py`), and that it agrees with the staging writer.

    On a lane that recording built, the current price at an instant is that of the last observed instant,
    and there is none when the facts of that instant dispute each other. -/

namespace CestaPlan.History
open Anchors Ledger

inductive FreshnessStatus where
  | fresh | stale | expired
deriving DecidableEq, Repr

structure CurrentPrice where
  productVariantId : Int
  amount : ℚ
  currency : String
  priceScope : PriceScope
  priceType : PriceType
  storeId : Option Int
  deliveryZoneId : Option Int
  sourceId : Option Int
  observedAt : Instant
  age : Int
  status : FreshnessStatus
  confidence : ℚ
  promotionText : Option String
  available : Option Bool
deriving DecidableEq

structure Thresholds where
  staleHours : Int := 24
  expiredHours : Int := 48
deriving DecidableEq

def microsPerHour : Int := 3600 * 10 ^ 6

/-- Grade an age; a price observed after `as_of` counts as fresh. -/
def freshness (age : Int) (th : Thresholds) : FreshnessStatus :=
  if age < 0 then .fresh
  else if age < th.staleHours * microsPerHour then .fresh
  else if age < th.expiredHours * microsPerHour then .stale
  else .expired

/-- The order of the query: open rows first, then the last observed, then the last inserted. -/
def precedes (a b : PriceObservation) : Prop :=
  (a.validUntil.isNone = true ∧ b.validUntil.isNone = false) ∨
    (a.validUntil.isNone = b.validUntil.isNone ∧
      (b.observedAt < a.observedAt ∨ (a.observedAt = b.observedAt ∧ b.id ≤ a.id)))

instance (a b : PriceObservation) : Decidable (precedes a b) := inferInstanceAs (Decidable (_ ∨ _))

instance : Std.Total precedes where
  total a b := by
    unfold precedes
    have hid := le_total a.id b.id
    rcases lt_trichotomy a.observedAt b.observedAt with h | h | h <;>
      cases a.validUntil.isNone <;> cases b.validUntil.isNone <;> simp [h, hid.symm]

instance : IsTrans PriceObservation precedes where
  trans a b c := by
    unfold precedes
    grind

/-- The staging view is interval-aware, the production view is not. -/
def inView (staging : Bool) (asOf : Option Instant) (r : PriceObservation) : Bool :=
  match staging, asOf with
  | true, some t => decide (r.validFrom ≤ t) && r.validUntil.all fun u => decide (t < u)
  | _, _ => true

def latestValid (db : Db) (productVariantId : Int) (storeId : Option Int) (scope : Option PriceScope) (staging : Bool)
    (asOf : Option Instant) : Option PriceObservation :=
  ((db.observations.filter fun r =>
    r.productVariantId = productVariantId && r.rolledBackAt.isNone && !r.isDisputed && r.stagingOnly == staging &&
      storeId.all (fun s => r.storeId = some s) && scope.all (fun s => r.priceScope = s) &&
      inView staging asOf r).insertionSort precedes).head?

def toCurrent (th : Thresholds) (asOf : Instant) (r : PriceObservation) : CurrentPrice where
  productVariantId := r.productVariantId
  amount := r.amount
  currency := r.currency
  priceScope := r.priceScope
  priceType := r.priceType
  storeId := r.storeId
  deliveryZoneId := r.deliveryZoneId
  sourceId := r.sourceId
  observedAt := r.observedAt
  age := asOf - r.observedAt
  status := freshness (asOf - r.observedAt) th
  confidence := r.confidenceScore
  promotionText := r.promotionText
  available := r.available

def current (db : Db) (th : Thresholds) (productVariantId : Int) (storeId : Option Int) (scope : Option PriceScope)
    (asOf : Instant) (staging : Bool) : Option CurrentPrice :=
  (latestValid db productVariantId storeId scope staging (some asOf)).map (toCurrent th asOf)

/-! ### The staging view of one lane -/

section Staging
variable {db : Db} {lane : Lane} {rows : List PriceObservation} {r : PriceObservation} {asOf : Instant}

def OnlyLane (db : Db) (lane : Lane) : Prop :=
  lane.stagingOnly = true ∧ ∀ r ∈ db.observations, r.productVariantId = lane.productVariantId → r.stagingOnly = true →
    r.rolledBackAt = none → r.lane = lane

theorem span_holds : r.span.Holds asOf ↔
    r.isDisputed = false ∧ r.validFrom ≤ asOf ∧ ∀ u, r.validUntil = some u → asOf < u := Iff.rfl

theorem latestValid_eq (hl : OnlyLane db lane) :
    latestValid db lane.productVariantId none none true (some asOf) =
      (((db.live lane).filter fun r => !r.isDisputed && inView true (some asOf) r).insertionSort precedes).head? := by
  unfold latestValid Db.live
  rw [List.filter_filter]
  congr 2
  refine List.filter_congr fun r hr => ?_
  have hlane : (r.productVariantId = lane.productVariantId ∧ r.rolledBackAt = none ∧ r.stagingOnly = true) ↔
      (r.lane = lane ∧ r.rolledBackAt = none) := by
    constructor
    · rintro ⟨hv, hroll, hs⟩
      exact ⟨hl.2 r hr hv hs hroll, hroll⟩
    · rintro ⟨rfl, hroll⟩
      exact ⟨rfl, hroll, hl.1⟩
  rw [Bool.eq_iff_iff]
  simp only [Option.all_none, Bool.and_true, Bool.and_eq_true, decide_eq_true_eq, Option.isNone_iff_eq_none, beq_iff_eq]
  tauto

theorem inView_iff : (!r.isDisputed && inView true (some asOf) r) = true ↔ r.span.Holds asOf := by
  rw [span_holds]
  cases hu : r.validUntil <;> simp [inView, hu]

/-- The facts of the rows that hold at `asOf` are those of the last instant, unless they dispute each other. -/
theorem Represents.holding (h : Represents rows) (asOf : Instant) :
    ledger (rows.filter fun r => !r.isDisputed && inView true (some asOf) r) =
      match lastAnchor (factScheme.times (ledger rows)) asOf with
      | none => []
      | some t => if factScheme.Disputed (ledger rows) t then [] else factScheme.standing (ledger rows) t := by
  have hholds : ∀ r ∈ rows, (!r.isDisputed && inView true (some asOf) r) = true ↔
      lastAnchor (factScheme.times (ledger rows)) asOf = some r.observedAt ∧
        ¬factScheme.Disputed (ledger rows) r.observedAt := by
    intro r hr
    rw [inView_iff, h.spans r hr]
    exact Scheme.holds_iff (List.mem_map_of_mem hr)
  cases hlast : lastAnchor (factScheme.times (ledger rows)) asOf with
  | none =>
    rw [List.filter_eq_nil_iff.mpr fun r hr => ?_]
    · rfl
    · rw [hholds r hr, hlast]
      simp
  | some t =>
    by_cases hd : factScheme.Disputed (ledger rows) t
    · rw [List.filter_eq_nil_iff.mpr fun r hr => ?_]
      · exact (if_pos hd).symm
      · rw [hholds r hr, hlast]
        rintro ⟨ht, hnd⟩
        exact hnd (Option.some.inj ht ▸ hd)
    · simp only [hd, if_false]
      have hfilter : (rows.filter fun r => !r.isDisputed && inView true (some asOf) r) =
          rows.filter (·.observedAt = t) := by
        refine List.filter_congr fun r hr => ?_
        rw [Bool.eq_iff_iff, hholds r hr, hlast, decide_eq_true_eq, Option.some.injEq]
        exact ⟨fun h => h.1.symm, fun h => ⟨h.symm, h ▸ hd⟩⟩
      rw [hfilter]
      simp only [ledger, Scheme.standing, List.filter_map]
      rfl

theorem mem_of_latestValid (hl : OnlyLane db lane)
    (h : latestValid db lane.productVariantId none none true (some asOf) = some r) : r ∈ db.live lane := by
  rw [latestValid_eq hl] at h
  have hmem := List.mem_of_mem_head? (Option.mem_def.mpr h)
  exact (List.mem_filter.mp ((List.perm_insertionSort precedes _).mem_iff.mp hmem)).1

theorem latestValid_ledger (h : Represents (db.live lane)) (hl : OnlyLane db lane) (asOf : Instant) :
    (latestValid db lane.productVariantId none none true (some asOf)).map (·.recorded) =
      match lastAnchor (factScheme.times (ledger (db.live lane))) asOf with
      | none => none
      | some t =>
        if factScheme.Disputed (ledger (db.live lane)) t then none
        else (factScheme.standing (ledger (db.live lane)) t).head? := by
  have hhold := h.holding asOf
  have hlen : (ledger ((db.live lane).filter fun r => !r.isDisputed && inView true (some asOf) r)).length ≤ 1 := by
    rw [hhold]
    split
    · simp
    · split
      · simp
      · next hd => exact Nat.not_lt.mp hd
  have hsort : ((db.live lane).filter fun r => !r.isDisputed && inView true (some asOf) r).insertionSort precedes =
      (db.live lane).filter fun r => !r.isDisputed && inView true (some asOf) r := by
    rw [ledger, List.length_map] at hlen
    generalize (db.live lane).filter (fun r => !r.isDisputed && inView true (some asOf) r) = rows at hlen ⊢
    rcases rows with _ | ⟨r, _ | ⟨r', rows⟩⟩
    · rfl
    · rfl
    · simp at hlen
  rw [latestValid_eq hl, hsort, ← List.head?_map]
  show (ledger _).head? = _
  rw [hhold]
  cases lastAnchor (factScheme.times (ledger (db.live lane))) asOf with
  | none => rfl
  | some t => simp only; split <;> rfl

end Staging

/-! ### The writer and the reader -/

section Agreement
variable {db : Db} {lane : Lane} {calls : List RecordCall} {cs : List Fact} {asOf t : Instant} {th : Thresholds}

theorem onlyLane_iff : OnlyLane db lane ↔ lane.stagingOnly = true ∧ ∀ lane' ≠ lane,
    lane'.productVariantId = lane.productVariantId → lane'.stagingOnly = true → db.live lane' = [] := by
  refine and_congr_right fun _ => ⟨fun h lane' hne hv hs => ?_, fun h r hr hv hs hroll => ?_⟩
  · refine List.eq_nil_iff_forall_not_mem.mpr fun r hr => ?_
    obtain ⟨hmem, rfl, hroll⟩ := Db.mem_live.mp hr
    exact hne (h r hmem hv hs hroll)
  · by_contra hne
    have hmem : r ∈ db.live r.lane := Db.mem_live.mpr ⟨hr, rfl, hroll⟩
    rw [h r.lane hne hv hs] at hmem
    cases hmem

theorem onlyLane_recordAll (h : OnlyLane db lane) (hcalls : ∀ call ∈ calls, call.Fresh lane) :
    OnlyLane (db.recordAll calls) lane := by
  induction calls generalizing db with
  | nil => exact h
  | cons call calls ih =>
    refine ih ?_ fun d hd => hcalls d (List.mem_cons_of_mem _ hd)
    obtain ⟨hs, hother⟩ := onlyLane_iff.mp h
    refine onlyLane_iff.mpr ⟨hs, fun lane' hne hv hs' => ?_⟩
    rw [live_record_of_ne (hcalls call List.mem_cons_self).lane hne]
    exact hother lane' hne hv hs'

/-- The answer that is due: the price of the last observed instant up to `asOf` when one distinct fact was
    recorded there, and none when there were several or none. -/
def Answers (cs : List Fact) (rows : List PriceObservation) (th : Thresholds) (asOf : Instant)
    (answer : Option CurrentPrice) : Prop :=
  match lastAnchor (factScheme.times cs) asOf with
  | none => answer = none
  | some t =>
    if ∀ d ∈ factScheme.standing cs t, ∀ e ∈ factScheme.standing cs t,
        priceFactFingerprint d.1 = priceFactFingerprint e.1 then
      ∃ r ∈ rows, (∃ d ∈ factScheme.standing cs t, r.toPriceFact = d.1.store) ∧ answer = some (toCurrent th asOf r)
    else answer = none

/-- At `t` the search takes replays of one fact for others, or others for replays: it compares them with the
    stored form of the first. -/
def Misjudged (cs : List Fact) (t : Instant) : Prop :=
  ∃ c rest, factScheme.standing cs t = c :: rest ∧
    ((∀ d ∈ rest, priceFactFingerprint d.1 = priceFactFingerprint c.1) ↔ ∃ d ∈ rest, d.1.key ≠ c.1.store.key)

theorem answers_iff (hvar : OnlyLane db lane) (hempty : db.live lane = []) (hcalls : ∀ call ∈ calls, call.Fresh lane) :
    Answers (offeredFacts calls) ((db.recordAll calls).live lane) th asOf
        (current (db.recordAll calls) th lane.productVariantId none none asOf true) ↔
      ∀ t, lastAnchor (factScheme.times (offeredFacts calls)) asOf = some t →
        ¬Misjudged (offeredFacts calls) t := by
  obtain ⟨hrep, hL⟩ := represents_of_empty hempty hcalls
  have hvalid := latestValid_ledger hrep (onlyLane_recordAll hvar hcalls) asOf
  have htimes : lastAnchor (factScheme.times (factScheme.offers [] (offeredFacts calls))) asOf =
      lastAnchor (factScheme.times (offeredFacts calls)) asOf :=
    lastAnchor_congr fun _ => Scheme.times_offers
  rw [hL, htimes] at hvalid
  unfold Answers current
  generalize offeredFacts calls = cs at *
  cases hlast : lastAnchor (factScheme.times cs) asOf with
  | none =>
    rw [hlast, Option.map_eq_none_iff] at hvalid
    simp [hvalid]
  | some t =>
    rw [hlast] at hvalid
    simp only [Option.some.injEq, forall_eq'] at hvalid ⊢
    have ht : t ∈ factScheme.times cs := (lastAnchor_eq_some_iff.mp hlast).1
    cases hst : factScheme.standing cs t with
    | nil => exact absurd ht (Scheme.standing_eq_nil_iff.mp hst)
    | cons c rest =>
      have hone : (∀ d ∈ c :: rest, ∀ e ∈ c :: rest, priceFactFingerprint d.1 = priceFactFingerprint e.1) ↔
          ∀ d ∈ rest, priceFactFingerprint d.1 = priceFactFingerprint c.1 := by
        refine ⟨fun h d hd => h d (List.mem_cons_of_mem _ hd) c List.mem_cons_self, fun h => ?_⟩
        have hc : ∀ d ∈ c :: rest, priceFactFingerprint d.1 = priceFactFingerprint c.1 :=
          List.forall_mem_cons.mpr ⟨rfl, h⟩
        exact fun d hd e he => (hc d hd).trans (hc e he).symm
      have hmis : Misjudged cs t ↔
          ((∀ d ∈ rest, priceFactFingerprint d.1 = priceFactFingerprint c.1) ↔ ∃ d ∈ rest, d.1.key ≠ c.1.store.key) := by
        refine ⟨?_, fun h => ⟨c, rest, hst, h⟩⟩
        rintro ⟨c', rest', hst', h⟩
        obtain ⟨rfl, rfl⟩ := List.cons.inj (hst.symm.trans hst')
        exact h
      rw [hmis]
      simp only [hone]
      have hdisp : factScheme.Disputed (factScheme.offers [] cs) t ↔ ∃ d ∈ rest, d.1.key ≠ c.1.store.key :=
        Scheme.disputed_offers_iff hst
      by_cases hd : factScheme.Disputed (factScheme.offers [] cs) t
      · rw [if_pos hd, Option.map_eq_none_iff] at hvalid
        rw [hvalid, Option.map_none, iff_true_right (hdisp.mp hd)]
        split
        · next hall =>
          refine ⟨?_, fun h => absurd hall h⟩
          rintro ⟨_, _, _, h⟩
          cases h
        · next hall => exact ⟨fun _ => hall, fun _ => rfl⟩
      · rw [if_neg hd, Scheme.standing_eq_of_not_disputed hst hd, List.head?_cons, Option.map_eq_some_iff] at hvalid
        obtain ⟨r, hr, hrec⟩ := hvalid
        have hmem := mem_of_latestValid (onlyLane_recordAll hvar hcalls) hr
        rw [hr, Option.map_some, iff_false_right (fun h => hd (hdisp.mpr h)), not_not]
        split
        · next hall => exact ⟨fun _ => hall,
            fun _ => ⟨r, hmem, ⟨c, List.mem_cons_self, congrArg Subtype.val hrec⟩, rfl⟩⟩
        · next hall => exact ⟨fun h => absurd h (Option.some_ne_none _), fun h => absurd h hall⟩

/-- The staging view gives the due answer at every instant exactly when recording misjudged none. -/
theorem current_answers_iff (hvar : OnlyLane db lane) (hempty : db.live lane = [])
    (hcalls : ∀ call ∈ calls, call.Fresh lane) :
    (∀ asOf, Answers (offeredFacts calls) ((db.recordAll calls).live lane) th asOf
        (current (db.recordAll calls) th lane.productVariantId none none asOf true)) ↔
      ∀ t, ¬Misjudged (offeredFacts calls) t := by
  constructor
  · rintro h t hmis
    obtain ⟨c, rest, hst, -⟩ := id hmis
    have ht : t ∈ factScheme.times (offeredFacts calls) := by
      by_contra hc
      rw [Scheme.standing_eq_nil_iff.mpr hc] at hst
      cases hst
    exact (answers_iff hvar hempty hcalls).mp (h t) t (lastAnchor_eq_some_iff.mpr ⟨ht, le_rfl, fun _ _ hle => hle⟩) hmis
  · exact fun h asOf => (answers_iff hvar hempty hcalls).mpr fun t _ => h t

theorem current_answers_iff_milk :
    let calls := [milk 2 10 1, milk 3 30 2, milk 5 20 2, milk 4 20 3, milk 2 10 3]
    (∀ asOf, Answers (offeredFacts calls) ((({} : Db).recordAll calls).live milkLane) {} asOf
        (current (({} : Db).recordAll calls) {} 7 none none asOf true)) ↔
      ∀ t, ¬Misjudged (offeredFacts calls) t :=
  current_answers_iff (show OnlyLane {} milkLane from ⟨rfl, by simp⟩) rfl (by simp [milk_fresh])

/-- The same price reported twice, with more decimals than the column: the replay is taken for a conflict. -/
theorem current_of_replay :
    let calls := [milk (20999999999999996 / 10 ^ 16) 10 1, milk (20999999999999996 / 10 ^ 16) 10 2]
    ¬Answers (offeredFacts calls) ((({} : Db).recordAll calls).live milkLane) {} 10
      (current (({} : Db).recordAll calls) {} milkLane.productVariantId none none 10 true) := by
  intro calls h
  have hmis := (answers_iff (show OnlyLane {} milkLane from ⟨rfl, by simp⟩) rfl (by simp [calls, milk_fresh])).mp h 10
    (by decide +kernel)
  have hkey : (milk (20999999999999996 / 10 ^ 16) 10 2).candidate.fact.key ≠
      (milk (20999999999999996 / 10 ^ 16) 10 1).candidate.fact.store.key := by decide +kernel
  refine hmis ⟨⟨_, (by decide +kernel)⟩, [⟨_, (by decide +kernel)⟩], ?_, iff_of_true ?_ ⟨_, List.mem_singleton_self _, hkey⟩⟩
  · decide +kernel
  · simp only [List.mem_singleton, forall_eq]
    rfl

end Agreement

end CestaPlan.History
