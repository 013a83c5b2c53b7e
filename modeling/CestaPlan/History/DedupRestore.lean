import CestaPlan.History.DedupEvidence
import CestaPlan.Library.Selection

/-! The removal as a whole: what the reader answers afterwards, what is left of the provenance, and the way back.

    The rows that go say nothing that no other row says, apart from when they hold. The reader misses a row that goes where
    no row of its fact that stays is in view at the instant. -/

namespace CestaPlan.History.Dedup
open Grouping Merging Pairing Selection Updates

/-! ### The analysis of a provider -/

/-- The row goes when the tool is run for the provider. -/
def StagingDb.GoesFor (s : StagingDb) (providerCode : String) (r : PriceObservation) : Prop :=
  ∃ retailerId, s.retailerId? providerCode = some retailerId ∧ s.Goes retailerId r

section Analysis
variable {s : StagingDb} {providerCode manifestId : String} {now : Instant} {r : PriceObservation} {row : RemovedRow}

theorem analyze_cases (s : StagingDb) (providerCode : String) :
    (s.retailerId? providerCode = none ∧ (analyze s providerCode).groups = []) ∨
      ∃ retailerId, s.retailerId? providerCode = some retailerId ∧
        (analyze s providerCode).groups = s.groups retailerId := by
  unfold analyze
  cases h : s.retailerId? providerCode with
  | none => exact Or.inl ⟨rfl, rfl⟩
  | some retailerId => exact Or.inr ⟨retailerId, rfl, rfl⟩

theorem removable_eq : (analyze s providerCode).removableExactDuplicates =
    (removedRows (analyze s providerCode).groups).length := by
  unfold analyze
  cases s.retailerId? providerCode <;> rfl

theorem analyze_provider : (analyze s providerCode).providerCode = providerCode := by
  unfold analyze
  cases s.retailerId? providerCode <;> rfl

variable (providerCode) in
theorem analyze_planned (hk : s.Keyed) : Planned s.occurrences (analyze s providerCode).groups := by
  rcases analyze_cases s providerCode with ⟨-, hnil⟩ | ⟨retailerId, -, hgroups⟩
  · rw [hnil]
    exact ⟨hk.occurrences, by simp, List.nodup_nil⟩
  · rw [hgroups]
    refine ⟨hk.occurrences, fun g hg => ?_, ids_nodup _ hk⟩
    obtain ⟨k, hof⟩ := group_of_mem hg
    exact hof.plan

theorem analyze_removedIds : removedIds (analyze s providerCode).groups =
    (removedRows (analyze s providerCode).groups).map (·.id) := by
  rcases analyze_cases s providerCode with ⟨-, hnil⟩ | ⟨retailerId, -, hgroups⟩
  · rw [hnil]
    rfl
  · rw [hgroups]
    exact removedIds_eq

theorem analyze_mirrors (h : row ∈ removedRows (analyze s providerCode).groups) : row.Mirrors := by
  rcases analyze_cases s providerCode with ⟨-, hnil⟩ | ⟨retailerId, -, hgroups⟩
  · rw [hnil] at h
    cases h
  · rw [hgroups] at h
    exact mirrors_of_mem h

theorem analyze_goes (hk : s.Keyed) :
    r ∈ (removedRows (analyze s providerCode).groups).map (·.values) ↔ s.GoesFor providerCode r := by
  unfold StagingDb.GoesFor
  rcases analyze_cases s providerCode with ⟨hnone, hnil⟩ | ⟨retailerId, hsome, hgroups⟩
  · rw [hnil, hnone]
    simp [removedRows]
  · rw [hgroups, hsome, mem_removed_values hk]
    simp

theorem StagingDb.GoesFor.mem (h : s.GoesFor providerCode r) : r ∈ s.observations := by
  obtain ⟨retailerId, -, hgoes⟩ := h
  exact (List.mem_filter.mp hgoes.staged).1

theorem id_mem_analyze (hk : s.Keyed) (hr : r ∈ s.observations) :
    r.id ∈ removedIds (analyze s providerCode).groups ↔ s.GoesFor providerCode r := by
  rw [analyze_removedIds, List.mem_map]
  constructor
  · rintro ⟨row, hrow, hid⟩
    have hgoes := (analyze_goes hk).mp (List.mem_map_of_mem hrow)
    rw [(analyze_mirrors hrow).id] at hid
    exact List.inj_on_of_nodup_map hk.observations hgoes.mem hr hid ▸ hgoes
  · intro hgoes
    obtain ⟨row, hrow, rfl⟩ := List.mem_map.mp ((analyze_goes hk).mpr hgoes)
    exact ⟨row, hrow, (analyze_mirrors hrow).id⟩

theorem values_mem (hk : s.Keyed) (h : row ∈ removedRows (analyze s providerCode).groups) :
    row.values ∈ s.observations ∧ s.references row.id = [] := by
  obtain ⟨retailerId, hsome, hgoes⟩ := (analyze_goes hk).mp (List.mem_map_of_mem h)
  refine ⟨(List.mem_filter.mp hgoes.staged).1, ?_⟩
  rw [(analyze_mirrors h).id]
  exact List.isEmpty_iff.mp (Bool.and_eq_true_iff.mp hgoes.releasable).2

theorem values_perm (hk : s.Keyed) : ((removedRows (analyze s providerCode).groups).map (·.values)).Perm
    (s.observations.filter (·.id ∈ removedIds (analyze s providerCode).groups)) := by
  have hids : ((removedRows (analyze s providerCode).groups).map (·.values)).map (·.id) =
      (removedRows (analyze s providerCode).groups).map (·.id) := by
    rw [List.map_map]
    exact List.map_congr_left fun row hrow => (analyze_mirrors hrow).id.symm
  have hnodup := (analyze_planned providerCode hk).rowIds_nodup
  rw [← hids] at hnodup
  refine (List.perm_ext_iff_of_nodup hnodup.of_map (hk.observations.of_map.filter _)).mpr fun r => ?_
  rw [analyze_goes hk, List.mem_filter, decide_eq_true_eq]
  constructor
  · exact fun h => ⟨h.mem, (id_mem_analyze hk h.mem).mpr h⟩
  · rintro ⟨hr, hid⟩
    exact (id_mem_analyze hk hr).mp hid

end Analysis

/-! ### The removal -/

section Removal
variable {s s' : StagingDb} {providerCode manifestId : String} {now : Instant} {r : PriceObservation} {count : Nat}
  {result : ApplyResult}

/-- The tables once the tool has been run for the provider. -/
def StagingDb.removeFor (s : StagingDb) (providerCode manifestId : String) (now : Instant) : StagingDb :=
  s.remove (analyze s providerCode) manifestId now

/-- The manifest that the tool writes. -/
def manifestOf (s : StagingDb) (providerCode manifestId : String) (now : Instant) : ManifestLog where
  entityPublicId := manifestId
  occurredAt := now
  providerCode := providerCode
  counts := manifestCounts (analyze s providerCode)
  groups := (analyze s providerCode).groups.map Group.executed

theorem relinkGroups_analyze (hk : s.Keyed) : relinkGroups now s.occurrences (analyze s providerCode).groups =
    (outcome now (analyze s providerCode).groups s.occurrences, (analyze s providerCode).groups.map Group.executed) :=
  have hplan := analyze_planned providerCode hk
  relinkGroups_eq hk.occurrences hplan.plans hplan.ids fun _ _ => rfl

theorem removeFor_occurrences (hk : s.Keyed) : (s.removeFor providerCode manifestId now).occurrences =
    outcome now (analyze s providerCode).groups s.occurrences := by
  show (relinkGroups now s.occurrences (analyze s providerCode).groups).1 = _
  rw [relinkGroups_analyze hk]

theorem removeFor_auditLog (hk : s.Keyed) : (s.removeFor providerCode manifestId now).auditLog =
    s.auditLog ++ [manifestOf s providerCode manifestId now] := by
  unfold StagingDb.removeFor StagingDb.remove manifestOf
  simp only [relinkGroups_analyze hk, analyze_provider]

theorem mem_removeFor (hk : s.Keyed) : r ∈ (s.removeFor providerCode manifestId now).observations ↔
    r ∈ s.observations ∧ ¬s.GoesFor providerCode r := by
  show r ∈ s.observations.filter _ ↔ _
  rw [List.mem_filter, decide_eq_true_eq]
  exact and_congr_right fun hr => not_congr (id_mem_analyze hk hr)

theorem removedRows_executed (groups : List Group) :
    removedRows (groups.map Group.executed) = (removedRows groups).map RemovedRow.executed := by
  rw [removedRows, removedRows, List.flatMap_map, List.map_flatMap]
  rfl

theorem removeFor_keyed (hk : s.Keyed) : (s.removeFor providerCode manifestId now).Keyed := by
  refine ⟨hk.observations.sublist (List.filter_sublist.map _), ?_⟩
  have hids : (outcome now (analyze s providerCode).groups s.occurrences).map (·.id) =
      (s.occurrences.filter (·.id ∉ rowDrops (removedRows (analyze s providerCode).groups))).map (·.id) := by
    rw [outcome, settle, List.map_map]
    exact List.map_congr_left fun o _ => redirect_id
  rw [removeFor_occurrences hk, hids]
  exact hk.occurrences.sublist (List.filter_sublist.map _)

theorem removeFor_analyze (hk : s.Keyed) :
    (analyze (s.removeFor providerCode manifestId now) providerCode).removableExactDuplicates = 0 := by
  rw [removable_eq, List.length_eq_zero_iff, ← List.map_eq_nil_iff (f := fun row : RemovedRow => row.values),
    List.eq_nil_iff_forall_not_mem]
  intro r hr
  have hgoes := (analyze_goes (removeFor_keyed hk)).mp hr
  obtain ⟨hmem, hstays⟩ := (mem_removeFor hk).mp hgoes.mem
  obtain ⟨retailerId, hretailer, hafter⟩ := hgoes
  have hstaged : ∀ x ∈ (s.removeFor providerCode manifestId now).staged retailerId, x ∈ s.staged retailerId :=
    fun x hx => (List.filter_sublist.filter _).subset hx
  obtain ⟨c, hc, hkey, hbefore, hne⟩ := hafter.later
  exact hstays ⟨retailerId, hretailer, hstaged r hafter.staged, hafter.releasable, c, hstaged c hc, hkey, hbefore, hne⟩

theorem revalidate_eq_none (hk : s.Keyed) :
    revalidate s (s.observations.filter (·.id ∈ removedIds (analyze s providerCode).groups))
      (removedRows (analyze s providerCode).groups) = none := by
  refine List.findSome?_eq_none_iff.mpr fun row hrow => ?_
  obtain ⟨hmem, hrefs⟩ := values_mem hk hrow
  have hm := analyze_mirrors hrow
  have hlocked : row.values ∈ s.observations.filter (·.id ∈ removedIds (analyze s providerCode).groups) :=
    (values_perm hk).mem_iff.mp (List.mem_map_of_mem hrow)
  have hfound : row? (·.id) (s.observations.filter (·.id ∈ removedIds (analyze s providerCode).groups)) row.id =
      some row.values := by
    rw [hm.id]
    exact row?_of_mem (hk.observations.sublist (List.filter_sublist.map _)) hlocked
  rw [hfound]
  simp [hm.hash, hrefs]

/-- The tool removes the rows exactly when it is told how many there are. -/
theorem apply_eq_ok_iff (hk : s.Keyed) : (∃ result, apply s providerCode count manifestId now = .ok (s', result)) ↔
    count = (analyze s providerCode).removableExactDuplicates ∧ s' = s.removeFor providerCode manifestId now := by
  have hlength : (removedIds (analyze s providerCode).groups).length =
      (analyze s providerCode).removableExactDuplicates := by
    rw [analyze_removedIds, List.length_map, removable_eq]
  have hlocked : (s.observations.filter (·.id ∈ removedIds (analyze s providerCode).groups)).length =
      (analyze s providerCode).removableExactDuplicates := by
    rw [← (values_perm hk).length_eq, List.length_map, removable_eq]
  have howner : ∀ o ∈ (s.removeFor providerCode manifestId now).occurrences,
      o.priceObservationId ∉ removedIds (analyze s providerCode).groups := fun o ho => by
    rw [removeFor_occurrences hk] at ho
    rw [analyze_removedIds]
    exact (analyze_planned _ hk).outcome_owner ho
  have hguard : (s.observations.filter (·.id ∈ removedIds (analyze s providerCode).groups)).find? (fun o =>
      !(occurrencesOf (s.removeFor providerCode manifestId now).occurrences o.id).isEmpty) = none := by
    refine List.find?_eq_none.mpr fun r hr hsome => ?_
    have hempty : occurrencesOf (s.removeFor providerCode manifestId now).occurrences r.id = [] := by
      refine List.eq_nil_iff_forall_not_mem.mpr fun o ho => ?_
      obtain ⟨hmem, hid⟩ := mem_occurrencesOf.mp ho
      exact howner o hmem (hid ▸ of_decide_eq_true (List.mem_filter.mp hr).2)
    simp [hempty] at hsome
  have horphan : ¬(s.removeFor providerCode manifestId now).occurrences.any
      (·.priceObservationId ∈ removedIds (analyze s providerCode).groups) = true := by
    rw [List.any_eq_true]
    rintro ⟨o, ho, hid⟩
    exact howner o ho (of_decide_eq_true hid)
  unfold apply
  simp only [hlength, hlocked]
  by_cases hcount : (analyze s providerCode).removableExactDuplicates = count
  · rw [if_neg (not_not.mpr hcount), if_neg (not_not.mpr hcount), revalidate_eq_none hk]
    rw [show s.remove (analyze s providerCode) manifestId now = s.removeFor providerCode manifestId now from rfl, hguard]
    simp only [removeFor_analyze hk, ne_eq, not_true_eq_false, if_false, if_neg horphan]
    constructor
    · rintro ⟨result, h⟩
      exact ⟨hcount.symm, (Prod.mk.inj (Except.ok.inj h)).1.symm⟩
    · rintro ⟨-, rfl⟩
      exact ⟨_, rfl⟩
  · rw [if_pos hcount]
    refine iff_of_false ?_ fun h => hcount h.1.symm
    rintro ⟨result, h⟩
    cases h

variable (manifestId) (now) in
theorem apply_ok (hk : s.Keyed) (hcount : count = (analyze s providerCode).removableExactDuplicates) :
    ∃ result, apply s providerCode count manifestId now = .ok (s.removeFor providerCode manifestId now, result) :=
  (apply_eq_ok_iff hk).mpr ⟨hcount, rfl⟩

end Removal

/-! ### What the reader answers -/

/-- What is asked of the staged prices: the reader's own query, or the price of one lane. -/
inductive Question where
  | reader (productVariantId : Int) (storeId : Option Int) (scope : Option PriceScope)
  | ofLane (lane : Lane)

def Question.asks : Question → PriceObservation → Bool
  | .reader productVariantId storeId scope, r =>
    r.productVariantId = productVariantId && r.stagingOnly && storeId.all (fun st => r.storeId = some st) &&
      scope.all (fun sc => r.priceScope = sc)
  | .ofLane lane, r => r.lane = lane

/-- The row that answers the question at an instant. A lane is read as the reader reads its rows. -/
def answer (db : Db) : Question → Instant → Option PriceObservation
  | .reader productVariantId storeId scope, asOf => latestValid db productVariantId storeId scope true (some asOf)
  | .ofLane lane, asOf => first precedes ((db.live lane).filter fun r => !r.isDisputed && inView true (some asOf) r)

/-- The tables as the reader sees them. -/
def StagingDb.db (s : StagingDb) : Db :=
  { observations := s.observations
    occurrences := s.occurrences.map (·.toPriceObservationOccurrence)
    anomalies := s.anomalies }

/-- The rows in view. -/
def StagingDb.candidates (s : StagingDb) (q : Question) (asOf : Instant) : List PriceObservation :=
  s.observations.filter fun r => q.asks r && r.rolledBackAt.isNone && !r.isDisputed && inView true (some asOf) r

/-- Where the row that answers goes, a row of its fact that stays is in view, and no row of another fact that stays comes
    before it. -/
def StagingDb.CoveredAt (s : StagingDb) (providerCode : String) (q : Question) (asOf : Instant) : Prop :=
  ∀ r, answer s.db q asOf = some r → s.GoesFor providerCode r →
    ∃ c ∈ s.candidates q asOf, ¬s.GoesFor providerCode c ∧ factKey c = factKey r ∧
      ∀ x ∈ s.candidates q asOf, ¬s.GoesFor providerCode x → factKey x ≠ factKey r → precedes c x

theorem precedes_antisymm {a b : PriceObservation} (hab : precedes a b) (hba : precedes b a) : a.id = b.id := by
  unfold precedes at hab hba
  grind

section Prices
variable {s : StagingDb} {providerCode manifestId : String} {now asOf : Instant} {q : Question} {r : PriceObservation}

theorem answer_eq (s : StagingDb) (q : Question) (asOf : Instant) :
    answer s.db q asOf = first precedes (s.candidates q asOf) := by
  cases q with
  | reader productVariantId storeId scope =>
    show (List.insertionSort precedes _).head? = (List.insertionSort precedes _).head?
    congr 2
    refine List.filter_congr fun r _ => ?_
    rw [Bool.eq_iff_iff]
    simp only [Question.asks, Bool.and_eq_true, beq_iff_eq]
    tauto
  | ofLane lane =>
    show first precedes _ = first precedes _
    rw [Db.live, List.filter_filter, StagingDb.candidates]
    congr 1
    refine List.filter_congr fun r _ => ?_
    rw [Bool.eq_iff_iff]
    simp only [Question.asks, Bool.and_eq_true]
    tauto

theorem candidates_removeFor : (s.removeFor providerCode manifestId now).candidates q asOf =
    (s.candidates q asOf).filter (·.id ∉ removedIds (analyze s providerCode).groups) := by
  show (s.observations.filter _).filter _ = (s.observations.filter _).filter _
  rw [List.filter_filter, List.filter_filter]
  exact List.filter_congr fun r _ => Bool.and_comm ..

variable (manifestId) (now) in
theorem mem_candidates_removeFor (hk : s.Keyed) : r ∈ (s.removeFor providerCode manifestId now).candidates q asOf ↔
    r ∈ s.candidates q asOf ∧ ¬s.GoesFor providerCode r := by
  rw [candidates_removeFor, List.mem_filter, decide_eq_true_eq]
  exact and_congr_right fun hr => not_congr (id_mem_analyze hk (List.mem_filter.mp hr).1)

/-- The answer after the removal states the fact that it stated before exactly when the row that answered is covered. -/
theorem answer_removeFor_iff (hk : s.Keyed) :
    (answer (s.removeFor providerCode manifestId now).db q asOf).map factKey = (answer s.db q asOf).map factKey ↔
      s.CoveredAt providerCode q asOf := by
  unfold StagingDb.CoveredAt
  rw [answer_eq, answer_eq]
  cases hr : first precedes (s.candidates q asOf) with
  | none =>
    have hnil : (s.removeFor providerCode manifestId now).candidates q asOf = [] := by
      rw [candidates_removeFor, first_eq_none_iff.mp hr]
      rfl
    rw [hnil]
    simp [first_nil]
  | some r =>
    have hmem := first_mem hr
    by_cases hgoes : s.GoesFor providerCode r
    · simp only [Option.some.injEq, forall_eq', hgoes, forall_true_left]
      constructor
      · intro h
        obtain ⟨c, hc, hkey⟩ := Option.map_eq_some_iff.mp h
        obtain ⟨hcmem, hcstays⟩ := (mem_candidates_removeFor _ _ hk).mp (first_mem hc)
        refine ⟨c, hcmem, hcstays, hkey, fun x hx hxstays hne => ?_⟩
        obtain ⟨b, hb, hbx⟩ := first_precedes (r := precedes)
          ((mem_candidates_removeFor manifestId now hk).mpr ⟨hx, hxstays⟩)
        obtain rfl := Option.some.inj (hc.symm.trans hb)
        rcases hbx with rfl | hbx
        · exact absurd hkey hne
        · exact hbx
      · rintro ⟨c, hc, hcstays, hkey, hahead⟩
        obtain ⟨b, hb, hbc⟩ := first_precedes (r := precedes)
          ((mem_candidates_removeFor manifestId now hk).mpr ⟨hc, hcstays⟩)
        obtain ⟨hbmem, hbstays⟩ := (mem_candidates_removeFor _ _ hk).mp (first_mem hb)
        rw [hb, Option.map_some, Option.map_some]
        refine congrArg some ?_
        rcases hbc with rfl | hbc
        · exact hkey
        · by_contra hne
          -- A row of another fact would have to come both before and after the row that covers.
          have hid := precedes_antisymm hbc (hahead b hbmem hbstays hne)
          have heq : b = c := List.inj_on_of_nodup_map hk.observations (List.mem_filter.mp hbmem).1
            (List.mem_filter.mp hc).1 hid
          exact hne (heq ▸ hkey)
    · have hkept : first precedes ((s.removeFor providerCode manifestId now).candidates q asOf) = some r := by
        rw [candidates_removeFor]
        exact first_filter hr (decide_eq_true fun hid =>
          hgoes ((id_mem_analyze hk (List.mem_filter.mp hmem).1).mp hid))
      rw [hkept]
      simp [hgoes]

end Prices

/-! ### The claim of the tool -/

/-- The provenance after a removal. -/
structure EvidenceKept (s s' : StagingDb) (log : ManifestLog) : Prop where
  /-- A canonical row has the provenance that the rows of its group had. -/
  reachable : ∀ g ∈ log.groups, ∀ t,
    (∃ o ∈ s'.occurrences, o.priceObservationId = g.canonicalObservationId ∧ o.tuple = t) ↔
      ∃ o ∈ s.occurrences,
        (o.priceObservationId = g.canonicalObservationId ∨ o.priceObservationId ∈ g.removedRows.map (·.id)) ∧ o.tuple = t
  /-- Every occurrence is there or in the manifest. -/
  accounted : ((s'.occurrences ++ (removedRows log.groups).flatMap (·.occurrencesDropped)).map Occurrence.evidence).Perm
    (s.occurrences.map Occurrence.evidence)
  /-- The occurrences of the rows that stay are as they were. -/
  stays : ∀ o ∈ s.occurrences, o.priceObservationId ∉ (removedRows log.groups).map (·.id) → o ∈ s'.occurrences

/-- The tables after a restore. -/
structure Restored (s s'' : StagingDb) (log : ManifestLog) (later : Instant) : Prop where
  observations : s''.observations.Perm s.observations
  occurrences : Paired (RestoredAs later ((removedRows log.groups).map (·.id))) s''.occurrences s.occurrences

section Tool
variable {s : StagingDb} {providerCode manifestId : String} {now later : Instant}

theorem map_id_executed (rows : List RemovedRow) : (rows.map RemovedRow.executed).map (·.id) = rows.map (·.id) := by
  rw [List.map_map]
  rfl

theorem removeFor_evidence (hk : s.Keyed) :
    EvidenceKept s (s.removeFor providerCode manifestId now) (manifestOf s providerCode manifestId now) := by
  have hplan := analyze_planned providerCode hk
  refine ⟨?_, ?_, ?_⟩
  · intro g hg t
    obtain ⟨g, hg', rfl⟩ := List.mem_map.mp hg
    have hrows : g.executed.removedRows.map (·.id) = g.removedRows.map (·.id) := map_id_executed _
    rw [removeFor_occurrences hk, hrows]
    refine (hplan.outcome_tuples hg').trans (exists_congr fun o => and_congr_right fun _ => ?_)
    rw [Group.ids, List.mem_cons]
    exact Iff.rfl
  · rw [removeFor_occurrences hk, manifestOf, removedRows_executed, List.flatMap_map]
    exact hplan.outcome_evidence now
  · intro o ho hstays
    rw [manifestOf, removedRows_executed, map_id_executed] at hstays
    rw [removeFor_occurrences hk]
    exact hplan.mem_outcome_of_stays ho hstays

theorem restore_removeFor (hk : s.Keyed) (hfresh : ∀ log ∈ s.auditLog, log.entityPublicId ≠ manifestId) :
    ∃ s'' result, restoreManifest (s.removeFor providerCode manifestId now) manifestId true later = .ok (s'', result) ∧
      Restored s s'' (manifestOf s providerCode manifestId now) later ∧
      result.hashMatches = (analyze s providerCode).removableExactDuplicates := by
  have hplan := analyze_planned providerCode hk
  have hlog : (s.removeFor providerCode manifestId now).auditLog.filter (·.entityPublicId = manifestId) =
      [manifestOf s providerCode manifestId now] := by
    rw [removeFor_auditLog hk, List.filter_append,
      List.filter_eq_nil_iff.mpr fun log hmem hid => hfresh log hmem (of_decide_eq_true hid), List.nil_append]
    exact List.filter_cons_of_pos (decide_eq_true rfl)
  have hobs : ((s.removeFor providerCode manifestId now).observations ++
      (removedRows (analyze s providerCode).groups).map (·.values)).Perm s.observations := by
    have hsplit := List.filter_append_perm
      (fun r : PriceObservation => decide (r.id ∈ removedIds (analyze s providerCode).groups)) s.observations
    have hnot : s.observations.filter (fun r => !decide (r.id ∈ removedIds (analyze s providerCode).groups)) =
        (s.removeFor providerCode manifestId now).observations := List.filter_congr fun r _ => by simp
    rw [hnot] at hsplit
    exact (((values_perm hk).append_left _).trans List.perm_append_comm).trans hsplit
  have hocc : (((s.removeFor providerCode manifestId now).occurrences ++
      dropped (removedRows (analyze s providerCode).groups)).map (·.id)).Nodup := by
    have hids : ((outcome now (analyze s providerCode).groups s.occurrences ++
        dropped (removedRows (analyze s providerCode).groups)).map (·.id)).Perm (s.occurrences.map (·.id)) := by
      have hevidence := (hplan.outcome_evidence now).map (·.id)
      rwa [List.map_map, List.map_map] at hevidence
    rw [removeFor_occurrences hk]
    exact hids.nodup_iff.mpr hk.occurrences
  have hapart : ∀ i ∈ (rowBack (removedRows (analyze s providerCode).groups)).map Prod.fst,
      i ∉ rowDrops (removedRows (analyze s providerCode).groups) := by
    intro i hi
    obtain ⟨m, hm, rfl⟩ := List.mem_map.mp hi
    obtain ⟨row, hrow, o, ho, rfl⟩ := mem_rowBack.mp hm
    exact hplan.not_dropped hrow ho
  have hfold := foldlM_restoreRow later
    { observations := (s.removeFor providerCode manifestId now).observations
      occurrences := (s.removeFor providerCode manifestId now).occurrences }
    (fun row hrow => analyze_mirrors hrow) ((hobs.map _).nodup_iff.mpr hk.observations) hocc hapart
  unfold restoreManifest
  rw [hlog]
  simp only [manifestOf, removedRows_executed, hfold, bind, Except.bind, pure, Except.pure, if_true]
  refine ⟨_, _, rfl, ⟨hobs, ?_⟩, ?_⟩
  · rw [removeFor_occurrences hk, removedRows_executed, map_id_executed]
    exact hplan.restored_paired
  · rw [Nat.zero_add, removable_eq]

/-- Run with the number of rows that go, the tool leaves every price that is covered as it was, keeps every provenance, and
    restoring its manifest gives back the rows. -/
theorem apply_keeps (hk : s.Keyed) (hfresh : ∀ log ∈ s.auditLog, log.entityPublicId ≠ manifestId) :
    ∃ s' result log,
      apply s providerCode (analyze s providerCode).removableExactDuplicates manifestId now = .ok (s', result) ∧
      log ∈ s'.auditLog ∧ log.entityPublicId = manifestId ∧
      (∀ q asOf, s.CoveredAt providerCode q asOf →
        (answer s'.db q asOf).map factKey = (answer s.db q asOf).map factKey) ∧
      EvidenceKept s s' log ∧
      ∃ s'' restored, restoreManifest s' manifestId true later = .ok (s'', restored) ∧ Restored s s'' log later ∧
        restored.hashMatches = (analyze s providerCode).removableExactDuplicates := by
  obtain ⟨result, hok⟩ := apply_ok manifestId now hk rfl
  refine ⟨_, result, manifestOf s providerCode manifestId now, hok, ?_, rfl,
    fun q asOf hcovered => (answer_removeFor_iff hk).mpr hcovered, removeFor_evidence hk, restore_removeFor hk hfresh⟩
  rw [removeFor_auditLog hk]
  exact List.mem_append_right _ (List.mem_singleton_self _)

/-- A row of the price of milk, read at 10. -/
def milkRow (id : Nat) (importedAt validFrom : Instant) (validUntil : Option Instant) : PriceObservation where
  toPriceFact := (milk 2 10 1).candidate.fact.store
  id := id
  stagingOnly := true
  sourceId := none
  importedAt := importedAt
  validFrom := validFrom
  validUntil := validUntil
  confidenceScore := 1
  rawCaptureId := none
  crawlRunId := some 1
  verificationStatus := .unverified
  rolledBackAt := none
  rolledBackBy := none
  closedByRunId := none
  columns := PriceFact.store_stored (by decide +kernel)

def milkSeen (id observationId : Nat) (crawlRunId : Int) : Occurrence where
  id := id
  priceObservationId := observationId
  providerCode := some "parsebot-carrefour"
  sourceId := none
  sourceUrl := none
  crawlRunId := some crawlRunId
  rawCaptureId := none
  connectorVersion := none
  parserVersion := none
  importedAt := 10
  confidenceScore := none
  verificationStatus := .unverified
  evidenceFingerprint := none
  updatedAt := 10

/-- Two rows of one fact; the second was confirmed by the crawl of the first and by one more. -/
def milkTwice (firstUntil : Option Instant) : StagingDb where
  observations := [milkRow 1 10 10 firstUntil, milkRow 2 30 30 none]
  occurrences := [milkSeen 1 1 1, milkSeen 2 2 1, milkSeen 3 2 2]
  crawlRuns := [⟨1, 1⟩, ⟨2, 1⟩]
  retailers := [⟨1, "carrefour"⟩]

theorem milkTwice_keyed {firstUntil : Option Instant} : (milkTwice firstUntil).Keyed :=
  ⟨show [1, 2].Nodup by decide, show [1, 2, 3].Nodup by decide⟩

theorem apply_keeps_milkTwice :
    let s := milkTwice none
    let manifestId := "7f3c2a51-0a44-4d0e-9a51-2f6f5be0c001"
    ∃ s' result log, apply s "parsebot-carrefour" (analyze s "parsebot-carrefour").removableExactDuplicates manifestId 50 =
        .ok (s', result) ∧
      log ∈ s'.auditLog ∧ log.entityPublicId = manifestId ∧
      (∀ q asOf, s.CoveredAt "parsebot-carrefour" q asOf →
        (answer s'.db q asOf).map factKey = (answer s.db q asOf).map factKey) ∧
      EvidenceKept s s' log ∧
      ∃ s'' restored, restoreManifest s' manifestId true 60 = .ok (s'', restored) ∧ Restored s s'' log 60 ∧
        restored.hashMatches = (analyze s "parsebot-carrefour").removableExactDuplicates :=
  apply_keeps milkTwice_keyed (by simp [milkTwice])

/-- The first row imported has ended, the second has not: the price in force is lost, and an occurrence with it. -/
theorem not_unchanged_closedFirst :
    ∃ s' result, apply (milkTwice (some 20)) "parsebot-carrefour" 1 "7f3c2a51-0a44-4d0e-9a51-2f6f5be0c001" 50 =
        .ok (s', result) ∧
      (answer (milkTwice (some 20)).db (.ofLane milkLane) 40).map (·.amount) = some 2 ∧
      answer s'.db (.ofLane milkLane) 40 = none ∧
      ¬(s'.occurrences.map Occurrence.tuple).Perm ((milkTwice (some 20)).occurrences.map Occurrence.tuple) := by
  have hcount : 1 = (analyze (milkTwice (some 20)) "parsebot-carrefour").removableExactDuplicates := by decide +kernel
  obtain ⟨result, hok⟩ := apply_ok "7f3c2a51-0a44-4d0e-9a51-2f6f5be0c001" 50 milkTwice_keyed hcount
  exact ⟨_, result, hok, by decide +kernel, by decide +kernel, fun h => absurd h.length_eq (by decide +kernel)⟩

end Tool

end CestaPlan.History.Dedup
