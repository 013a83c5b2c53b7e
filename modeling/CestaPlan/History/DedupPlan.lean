import CestaPlan.History.Dedup

/-! The plan of the tool, read off the tables: which rows go, and what becomes of their occurrences. -/

namespace CestaPlan.History.Dedup
open Grouping Merging Updates

/-- What the primary keys promise. -/
structure StagingDb.Keyed (s : StagingDb) : Prop where
  observations : (s.observations.map (·.id)).Nodup
  occurrences : (s.occurrences.map (·.id)).Nodup

/-- The row is provably the provider's, and nothing refers to it. -/
def StagingDb.releasable (s : StagingDb) (retailerId : Int) (r : PriceObservation) : Bool :=
  s.provenance r retailerId ≠ .ambiguous && (s.references r.id).isEmpty

/-- The row goes: it may, and another row of its fact was imported before it. -/
structure StagingDb.Goes (s : StagingDb) (retailerId : Int) (r : PriceObservation) : Prop where
  staged : r ∈ s.staged retailerId
  releasable : s.releasable retailerId r = true
  later : ∃ c ∈ s.staged retailerId, factKey c = factKey r ∧ importedBefore c r ∧ c ≠ r

instance : Std.Total importedBefore where
  total a b := by
    unfold importedBefore
    rcases lt_trichotomy a.importedAt b.importedAt with h | h | h
    · exact Or.inl (Or.inl h)
    · exact (le_total a.id b.id).imp (fun hid => Or.inr ⟨h, hid⟩) fun hid => Or.inr ⟨h.symm, hid⟩
    · exact Or.inr (Or.inl h)

instance : IsTrans PriceObservation importedBefore where
  trans a b c := by
    unfold importedBefore
    grind

theorem importedBefore_antisymm {a b : PriceObservation} (hab : importedBefore a b) (hba : importedBefore b a) :
    a.id = b.id := by
  unfold importedBefore at hab hba
  grind

/-! ### The rows of a bucket -/

section Rows
variable {s : StagingDb} {retailerId : Int} {prov : List ProvenanceTuple} {r c : PriceObservation}
  {rows : List PriceObservation} {row : RemovedRow} {g : Group}

/-- The row of the manifest stands for a row of the table. -/
structure RemovedRow.Mirrors (row : RemovedRow) : Prop where
  id : row.id = row.values.id
  hash : row.rowHash = .sha256 row.values

/-- The plans of the rows, each from the provenance that the ones before it leave the canonical row. -/
def PlannedFrom (table : List Occurrence) : List ProvenanceTuple → List RemovedRow → Prop
  | _, [] => True
  | prov, row :: rows =>
    row.occurrencesToRelink = (split Occurrence.tuple prov (occurrencesOf table row.id)).kept ∧
      row.occurrencesToDrop = (split Occurrence.tuple prov (occurrencesOf table row.id)).dropped ∧
      PlannedFrom table (split Occurrence.tuple prov (occurrencesOf table row.id)).seen rows

variable (prov) in
theorem planRow_of_releasable (h : s.releasable retailerId r = true) :
    ∃ row : RemovedRow, s.planRow retailerId prov r =
        ((split Occurrence.tuple prov (occurrencesOf s.occurrences row.id)).seen, .removable row) ∧
      row.values = r ∧ row.Mirrors ∧
      row.occurrencesToRelink = (split Occurrence.tuple prov (occurrencesOf s.occurrences row.id)).kept ∧
      row.occurrencesToDrop = (split Occurrence.tuple prov (occurrencesOf s.occurrences row.id)).dropped := by
  obtain ⟨hprov, hrefs⟩ := Bool.and_eq_true_iff.mp h
  rw [StagingDb.planRow, if_neg (of_decide_eq_true hprov), if_neg (not_not.mpr (List.isEmpty_iff.mp hrefs))]
  exact ⟨
    { id := r.id
      rowHash := .sha256 r
      provenance := s.provenance r retailerId
      values := r
      occurrencesToRelink := (split Occurrence.tuple prov (occurrencesOf s.occurrences r.id)).kept
      occurrencesToDrop := (split Occurrence.tuple prov (occurrencesOf s.occurrences r.id)).dropped },
    rfl, rfl, ⟨rfl, rfl⟩, rfl, rfl⟩

variable (prov) in
theorem planRow_of_not_releasable (h : s.releasable retailerId r = false) :
    (s.planRow retailerId prov r).1 = prov ∧ (s.planRow retailerId prov r).2.row? = none := by
  unfold StagingDb.planRow
  split
  · exact ⟨rfl, rfl⟩
  · split
    · exact ⟨rfl, rfl⟩
    · next hprov hrefs => simp [StagingDb.releasable, hprov, not_not.mp hrefs] at h

variable (s) (retailerId) (prov) (rows) in
theorem planRows_row? :
    ((s.planRows retailerId prov rows).filterMap Verdict.row?).map (·.values) = rows.filter (s.releasable retailerId) ∧
      (∀ row ∈ (s.planRows retailerId prov rows).filterMap Verdict.row?, row.Mirrors) ∧
      PlannedFrom s.occurrences prov ((s.planRows retailerId prov rows).filterMap Verdict.row?) := by
  induction rows generalizing prov with
  | nil => exact ⟨rfl, by simp [StagingDb.planRows], trivial⟩
  | cons r rows ih =>
    rw [StagingDb.planRows]
    cases h : s.releasable retailerId r with
    | true =>
      obtain ⟨row, hrow, rfl, hm, hkept, hdropped⟩ := planRow_of_releasable prov h
      obtain ⟨hvalues, hmirror, hplan⟩ := ih (split Occurrence.tuple prov (occurrencesOf s.occurrences row.id)).seen
      have hcons : ∀ l, (Verdict.removable row :: l).filterMap Verdict.row? = row :: l.filterMap Verdict.row? :=
        fun l => List.filterMap_cons_some rfl
      rw [List.filter_cons_of_pos h, hrow, hcons]
      exact ⟨congrArg (row.values :: ·) hvalues, List.forall_mem_cons.mpr ⟨hm, hmirror⟩, hkept, hdropped, hplan⟩
    | false =>
      obtain ⟨hprov, hrow⟩ := planRow_of_not_releasable prov h
      rw [List.filterMap_cons_none hrow, List.filter_cons_of_neg (by simp [h]), hprov]
      exact ih prov

/-- What the manifest says of a group. -/
structure Group.Of (s : StagingDb) (retailerId : Int) (rows : List PriceObservation) (g : Group) : Prop where
  sorted : ∃ removed, rows.insertionSort importedBefore = g.canonicalRow :: removed ∧
    g.removedRows.map (·.values) = removed.filter (s.releasable retailerId)
  canonicalId : g.canonicalObservationId = g.canonicalRow.id
  ids : g.removedObservationIds = g.removedRows.map (·.id)
  mirrors : ∀ row ∈ g.removedRows, row.Mirrors
  plan : PlannedFrom s.occurrences ((occurrencesOf s.occurrences g.canonicalObservationId).map Occurrence.tuple) g.removedRows

/-- The group of a bucket, when a row of it goes. -/
def StagingDb.groupOfBucket (s : StagingDb) (retailerId : Int) (rows : List PriceObservation) : Option Group :=
  (s.planBucket retailerId rows).bind fun plan => groupOf plan.1 plan.2

theorem groupOfBucket_of (h : s.groupOfBucket retailerId rows = some g) : g.Of s retailerId rows := by
  obtain ⟨⟨c, verdicts⟩, hplan, hgroup⟩ := Option.bind_eq_some_iff.mp h
  unfold StagingDb.planBucket at hplan
  split at hplan
  · next c' r removed hsorted =>
    obtain ⟨rfl, rfl⟩ := Prod.mk.inj (Option.some.inj hplan)
    obtain ⟨hvalues, hmirror, hplanned⟩ := planRows_row? s retailerId
      ((occurrencesOf s.occurrences c'.id).map Occurrence.tuple) (r :: removed)
    unfold groupOf at hgroup
    split at hgroup
    · cases hgroup
    · obtain rfl := Option.some.inj hgroup
      exact ⟨⟨_, hsorted, hvalues⟩, rfl, rfl, hmirror, hplanned⟩
  · cases hplan

/-- The rows of a bucket that go. -/
def StagingDb.goers (s : StagingDb) (retailerId : Int) (rows : List PriceObservation) : List PriceObservation :=
  (rows.insertionSort importedBefore).tail.filter (s.releasable retailerId)

theorem groupOfBucket_values :
    ((s.groupOfBucket retailerId rows).toList.flatMap (·.removedRows)).map (·.values) = s.goers retailerId rows := by
  cases h : s.groupOfBucket retailerId rows with
  | some g =>
    obtain ⟨removed, hsorted, hvalues⟩ := (groupOfBucket_of h).sorted
    simpa [StagingDb.goers, hsorted] using hvalues
  | none =>
    unfold StagingDb.groupOfBucket StagingDb.planBucket at h
    unfold StagingDb.goers
    split at h
    · next c r removed hsorted =>
      have hvalues := (planRows_row? s retailerId ((occurrencesOf s.occurrences c.id).map Occurrence.tuple) (r :: removed)).1
      rw [Option.bind_some, groupOf] at h
      split at h
      · next hnone =>
        rw [hnone] at hvalues
        rw [hsorted]
        exact hvalues
      · cases h
    · next hshort =>
      cases hsorted : rows.insertionSort importedBefore with
      | nil => rfl
      | cons c removed =>
        cases removed with
        | nil => rfl
        | cons r removed => exact absurd hsorted (hshort c r removed)

end Rows

/-! ### Who goes -/

/-- The canonical row of a group, and its rows that go. -/
def Group.rows (g : Group) : List PriceObservation := g.canonicalRow :: g.removedRows.map (·.values)

section Whole
variable {s : StagingDb} {retailerId : Int} {r c : PriceObservation} {rows : List PriceObservation} {g : Group}

theorem Group.Of.rows_sublist (h : g.Of s retailerId rows) : g.rows.Sublist (rows.insertionSort importedBefore) := by
  obtain ⟨removed, hsorted, hvalues⟩ := h.sorted
  rw [hsorted, Group.rows, hvalues]
  exact List.filter_sublist.cons_cons _

theorem groups_eq : s.groups retailerId = ((s.staged retailerId).map factKey).eraseDups.flatMap fun k =>
    (s.groupOfBucket retailerId (group factKey (s.staged retailerId) k)).toList := by
  rw [StagingDb.groups, buckets, List.filterMap_filterMap, List.filterMap_map, List.filterMap_eq_flatMap_toList]
  rfl

theorem group_of_mem (h : g ∈ s.groups retailerId) : ∃ k, g.Of s retailerId (group factKey (s.staged retailerId) k) := by
  rw [groups_eq] at h
  obtain ⟨k, -, hk⟩ := List.mem_flatMap.mp h
  exact ⟨k, groupOfBucket_of (Option.mem_toList.mp hk)⟩

theorem mem_rows_of_group (h : g ∈ s.groups retailerId) (hr : r ∈ g.rows) :
    r ∈ s.staged retailerId ∧ factKey r = factKey g.canonicalRow := by
  obtain ⟨k, hof⟩ := group_of_mem h
  have hmem : ∀ x ∈ g.rows, x ∈ s.staged retailerId ∧ factKey x = k := fun x hx =>
    mem_group.mp ((List.mem_insertionSort _).mp (hof.rows_sublist.subset hx))
  exact ⟨(hmem r hr).1, (hmem r hr).2.trans (hmem _ List.mem_cons_self).2.symm⟩

theorem StagingDb.Keyed.staged (hk : s.Keyed) : ((s.staged retailerId).map (·.id)).Nodup :=
  hk.observations.sublist (List.filter_sublist.map _)

theorem StagingDb.Keyed.bucket (hk : s.Keyed) {k : PriceFact} :
    ((group factKey (s.staged retailerId) k).insertionSort importedBefore).Nodup :=
  (List.perm_insertionSort _ _).nodup_iff.mpr (hk.staged.of_map.filter _)

theorem rows_nodup (hk : s.Keyed) : ((s.groups retailerId).flatMap Group.rows).Nodup := by
  rw [groups_eq, List.flatMap_assoc]
  refine nodup_flatMap_group (f := fun rows => (s.groupOfBucket retailerId rows).toList.flatMap Group.rows) ?_ ?_
  · intro k
    cases h : s.groupOfBucket retailerId (group factKey (s.staged retailerId) k) with
    | none => exact List.nodup_nil
    | some g => simpa using (groupOfBucket_of h).rows_sublist.nodup hk.bucket
  · intro k r hr
    obtain ⟨g, hg, hr⟩ := List.mem_flatMap.mp hr
    have hsub := (groupOfBucket_of (Option.mem_toList.mp hg)).rows_sublist
    exact (mem_group.mp ((List.mem_insertionSort _).mp (hsub.subset hr))).2

theorem mem_goers (hrows : (rows.map (·.id)).Nodup) : r ∈ s.goers retailerId rows ↔
    r ∈ rows ∧ s.releasable retailerId r = true ∧ ∃ c ∈ rows, importedBefore c r ∧ c ≠ r := by
  have hnodup := (List.perm_insertionSort importedBefore rows).nodup_iff.mpr hrows.of_map
  have hsorted := List.pairwise_insertionSort importedBefore rows
  have hmem : ∀ x, x ∈ rows.insertionSort importedBefore ↔ x ∈ rows := fun x => List.mem_insertionSort _
  unfold StagingDb.goers
  cases h : rows.insertionSort importedBefore with
  | nil =>
    have hnone : r ∉ rows := fun hr => by simpa [h] using (hmem r).mpr hr
    simp [hnone]
  | cons c removed =>
    rw [h] at hnodup hsorted hmem
    obtain ⟨hc, -⟩ := List.nodup_cons.mp hnodup
    rw [List.tail_cons, List.mem_filter]
    constructor
    · rintro ⟨hr, hrel⟩
      refine ⟨(hmem r).mp (List.mem_cons_of_mem _ hr), hrel, c, (hmem c).mp List.mem_cons_self,
        List.rel_of_pairwise_cons hsorted hr, ?_⟩
      rintro rfl
      exact hc hr
    · rintro ⟨hr, hrel, d, hd, hbefore, hne⟩
      refine ⟨((List.mem_cons.mp ((hmem r).mpr hr)).resolve_left ?_), hrel⟩
      -- The canonical row comes before every other, so none of them comes before it.
      rintro rfl
      have hafter := List.rel_of_pairwise_cons hsorted ((List.mem_cons.mp ((hmem d).mpr hd)).resolve_left hne)
      exact hne (List.inj_on_of_nodup_map hrows hd hr (importedBefore_antisymm hbefore hafter))

theorem mem_removed_values (hk : s.Keyed) :
    r ∈ (removedRows (s.groups retailerId)).map (·.values) ↔ s.Goes retailerId r := by
  have hvalues : (removedRows (s.groups retailerId)).map (·.values) =
      ((s.staged retailerId).map factKey).eraseDups.flatMap fun k =>
        s.goers retailerId (group factKey (s.staged retailerId) k) := by
    rw [groups_eq, removedRows, List.flatMap_assoc, List.map_flatMap]
    exact List.flatMap_congr fun k _ => groupOfBucket_values
  have hbucket : ∀ k, ((group factKey (s.staged retailerId) k).map (·.id)).Nodup := fun k =>
    hk.staged.sublist (List.filter_sublist.map _)
  rw [hvalues, List.mem_flatMap]
  constructor
  · rintro ⟨k, -, hr⟩
    obtain ⟨hmem, hrel, c, hc, hbefore, hne⟩ := (mem_goers (hbucket k)).mp hr
    obtain ⟨hstaged, rfl⟩ := mem_group.mp hmem
    obtain ⟨hcstaged, hckey⟩ := mem_group.mp hc
    exact ⟨hstaged, hrel, c, hcstaged, hckey, hbefore, hne⟩
  · rintro ⟨hstaged, hrel, c, hcstaged, hckey, hbefore, hne⟩
    exact ⟨factKey r, List.mem_eraseDups.mpr (List.mem_map_of_mem hstaged),
      (mem_goers (hbucket _)).mpr
        ⟨mem_group.mpr ⟨hstaged, rfl⟩, hrel, c, mem_group.mpr ⟨hcstaged, hckey⟩, hbefore, hne⟩⟩

/-- The ids of the rows of a group. -/
def Group.ids (g : Group) : List Nat := g.canonicalObservationId :: g.removedRows.map (·.id)

theorem ids_eq : (s.groups retailerId).flatMap Group.ids = ((s.groups retailerId).flatMap Group.rows).map (·.id) := by
  rw [List.map_flatMap]
  refine List.flatMap_congr fun g hg => ?_
  obtain ⟨k, hof⟩ := group_of_mem hg
  rw [Group.ids, Group.rows, hof.canonicalId, List.map_cons, List.map_map]
  exact congrArg (_ :: ·) (List.map_congr_left fun row hrow => (hof.mirrors row hrow).id)

variable (retailerId) in
theorem ids_nodup (hk : s.Keyed) : ((s.groups retailerId).flatMap Group.ids).Nodup := by
  rw [ids_eq]
  refine (rows_nodup hk).map_on fun a ha b hb hab => ?_
  obtain ⟨g, hg, ha⟩ := List.mem_flatMap.mp ha
  obtain ⟨g', hg', hb⟩ := List.mem_flatMap.mp hb
  exact List.inj_on_of_nodup_map hk.staged (mem_rows_of_group hg ha).1 (mem_rows_of_group hg' hb).1 hab

theorem removedIds_eq : removedIds (s.groups retailerId) = (removedRows (s.groups retailerId)).map (·.id) := by
  rw [removedIds, removedRows, List.map_flatMap]
  refine List.flatMap_congr fun g hg => ?_
  obtain ⟨k, hof⟩ := group_of_mem hg
  exact hof.ids

theorem mirrors_of_mem {row : RemovedRow} (h : row ∈ removedRows (s.groups retailerId)) : row.Mirrors := by
  obtain ⟨g, hg, hrow⟩ := List.mem_flatMap.mp h
  obtain ⟨k, hof⟩ := group_of_mem hg
  exact hof.mirrors row hrow

end Whole

end CestaPlan.History.Dedup
