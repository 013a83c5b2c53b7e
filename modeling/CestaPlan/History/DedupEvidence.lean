import CestaPlan.History.DedupPlan
import CestaPlan.Library.Pairing

/-! What becomes of the occurrences of the rows that go, and of those rows when the manifest is restored.

    The removal does to the occurrences what the plan says: it drops some, and points the others to the canonical row of
    their group. Restoring points these back, and adds the others again. -/

namespace CestaPlan.History.Dedup
open Grouping Merging Pairing Updates

/-! ### Drops and moves of a table -/

/-- Where the moves take an occurrence. -/
def redirect (now : Instant) (moves : List (Nat × Nat)) (o : Occurrence) : Occurrence :=
  rewrite (·.id) Prod.fst (fun m o => o.point m.2 now) moves o

/-- A table without the occurrences that are dropped, where the ones that move point to their new rows. -/
def settle (now : Instant) (moves : List (Nat × Nat)) (drops : List Nat) (table : List Occurrence) : List Occurrence :=
  (table.filter (·.id ∉ drops)).map (redirect now moves)

section Settle
variable {now : Instant} {moves moves' : List (Nat × Nat)} {drops drops' : List Nat} {table : List Occurrence}
  {o : Occurrence} {i c : Nat}

theorem point_id (m : Nat × Nat) (o : Occurrence) : (o.point m.2 now).id = o.id := rfl

@[simp] theorem redirect_id : (redirect now moves o).id = o.id :=
  key_rewrite (fun o : Occurrence => o.id) Prod.fst point_id moves o

theorem redirect_append : redirect now (moves ++ moves') o = redirect now moves' (redirect now moves o) :=
  rewrite_append (fun o : Occurrence => o.id) Prod.fst point_id moves moves'

theorem map_redirect : table.map (redirect now moves) =
    moves.foldl (fun table m => updateAt (·.id) m.1 (Occurrence.point m.2 now) table) table :=
  (foldl_updateAt (fun o : Occurrence => o.id) Prod.fst point_id moves table).symm

variable (now) in
theorem redirect_cases (o : Occurrence) (moves : List (Nat × Nat)) :
    (o.id ∉ moves.map Prod.fst ∧ redirect now moves o = o) ∨
      ∃ m ∈ moves, m.1 = o.id ∧ redirect now moves o = o.point m.2 now := by
  induction moves generalizing o with
  | nil => exact Or.inl ⟨List.not_mem_nil, rfl⟩
  | cons m moves ih =>
    have hcons : redirect now (m :: moves) o = redirect now moves (if o.id = m.1 then o.point m.2 now else o) :=
      rewrite_cons (fun o : Occurrence => o.id) Prod.fst point_id
    rw [hcons]
    by_cases h : o.id = m.1
    · rw [if_pos h]
      rcases ih (o.point m.2 now) with ⟨-, heq⟩ | ⟨m', hm', hid', heq⟩
      · exact Or.inr ⟨m, List.mem_cons_self, h.symm, heq⟩
      · exact Or.inr ⟨m', List.mem_cons_of_mem _ hm', hid', heq⟩
    · rw [if_neg h]
      rcases ih o with ⟨hnot, heq⟩ | ⟨m', hm', hid', heq⟩
      · exact Or.inl ⟨List.mem_cons.not.mpr (not_or.mpr ⟨h, hnot⟩), heq⟩
      · exact Or.inr ⟨m', List.mem_cons_of_mem _ hm', hid', heq⟩

theorem redirect_of_not_mem (h : o.id ∉ moves.map Prod.fst) : redirect now moves o = o := rewrite_of_not_mem h

theorem filter_not_nil : table.filter (fun o => decide (o.id ∉ ([] : List Nat))) = table :=
  List.filter_eq_self.mpr fun _ _ => by simp

theorem settle_nil : settle now [] [] table = table := by
  rw [settle, filter_not_nil]
  exact List.map_id table

theorem settle_settle :
    settle now moves' drops' (settle now moves drops table) = settle now (moves ++ moves') (drops ++ drops') table := by
  unfold settle
  rw [List.filter_map, List.map_map, List.filter_filter]
  have hfilter : (table.filter fun o => ((fun o : Occurrence => decide (o.id ∉ drops')) ∘ redirect now moves) o &&
      decide (o.id ∉ drops)) = table.filter fun o => o.id ∉ drops ++ drops' := by
    refine List.filter_congr fun o _ => ?_
    rw [Function.comp_apply, redirect_id, Bool.and_comm]
    simp
  rw [hfilter]
  exact List.map_congr_left fun o _ => redirect_append.symm

variable (now) in
theorem settle_drop : settle now [] [i] table = table.filter (·.id ≠ i) := by
  rw [settle]
  simp only [List.mem_singleton]
  exact List.map_id _

theorem settle_move : settle now [(i, c)] [] table = updateAt (·.id) i (Occurrence.point c now) table := by
  rw [settle, filter_not_nil, map_redirect]
  rfl

theorem mem_occurrencesOf : o ∈ occurrencesOf table i ↔ o ∈ table ∧ o.priceObservationId = i := by
  simp [occurrencesOf]

theorem occurrencesOf_settle (h : ∀ o ∈ occurrencesOf table i, o.id ∉ moves.map Prod.fst ∧ o.id ∉ drops)
    (hhome : ∀ m ∈ moves, m.2 ≠ i) : occurrencesOf (settle now moves drops table) i = occurrencesOf table i := by
  have hsame : ∀ o ∈ table.filter (·.id ∉ drops),
      ((fun o : Occurrence => decide (o.priceObservationId = i)) ∘ redirect now moves) o =
        decide (o.priceObservationId = i) := by
    intro o ho
    rw [Function.comp_apply]
    rcases redirect_cases now o moves with ⟨-, heq⟩ | ⟨m, hm, hid, heq⟩
    · rw [heq]
    · have hne : o.priceObservationId ≠ i := fun howner =>
        (h o (mem_occurrencesOf.mpr ⟨(List.mem_filter.mp ho).1, howner⟩)).1 (hid ▸ List.mem_map_of_mem hm)
      rw [heq, decide_eq_false hne]
      exact decide_eq_false (hhome m hm)
  have hfilter : (table.filter fun o => decide (o.priceObservationId = i) && decide (o.id ∉ drops)) =
      occurrencesOf table i := by
    refine List.filter_congr fun o ho => ?_
    by_cases howner : o.priceObservationId = i
    · simp [howner, (h o (mem_occurrencesOf.mpr ⟨ho, howner⟩)).2]
    · simp [howner]
  rw [occurrencesOf, settle, List.filter_map, List.filter_congr hsame, List.filter_filter, hfilter]
  exact (List.map_congr_left fun o ho => redirect_of_not_mem (h o ho).1).trans (List.map_id _)

end Settle

/-! ### The removal follows the plan -/

/-- A row of the manifest once its plan is carried out. -/
def RemovedRow.executed (row : RemovedRow) : RemovedRow :=
  { row with
    occurrencesRelinked := row.occurrencesToRelink.map fun o => ⟨o.id, row.id⟩
    occurrencesDropped := row.occurrencesToDrop }

def Group.executed (g : Group) : Group := { g with removedRows := g.removedRows.map RemovedRow.executed }

def rowMoves (canonicalId : Nat) (rows : List RemovedRow) : List (Nat × Nat) :=
  rows.flatMap fun row => row.occurrencesToRelink.map fun o => (o.id, canonicalId)

def rowDrops (rows : List RemovedRow) : List Nat := rows.flatMap fun row => row.occurrencesToDrop.map (·.id)

def groupMoves (groups : List Group) : List (Nat × Nat) :=
  groups.flatMap fun g => rowMoves g.canonicalObservationId g.removedRows

section Relink
variable {now : Instant} {table table' : List Occurrence} {prov : List ProvenanceTuple} {rows : List RemovedRow}
  {groups : List Group} {canonicalId rowId : Nat} {o : Occurrence} {row : RemovedRow}

theorem foldl_visit (occs : List Occurrence) :
    occs.foldl (Relinking.visit canonicalId rowId now) { table := table, canonicalProv := prov } =
      { table := settle now ((split Occurrence.tuple prov occs).kept.map fun o => (o.id, canonicalId))
          ((split Occurrence.tuple prov occs).dropped.map (·.id)) table
        canonicalProv := (split Occurrence.tuple prov occs).seen
        relinked := (split Occurrence.tuple prov occs).kept.map fun o => ⟨o.id, rowId⟩
        dropped := (split Occurrence.tuple prov occs).dropped } := by
  induction occs using List.reverseRecOn with
  | nil => exact congrArg (fun t => Relinking.mk t prov [] []) settle_nil.symm
  | append_singleton occs o ih =>
    rw [List.foldl_concat, ih, split_concat, Relinking.visit, Split.visit]
    by_cases h : o.tuple ∈ (split Occurrence.tuple prov occs).seen
    · rw [if_pos h, if_pos h, ← settle_drop now, settle_settle, List.append_nil, List.map_append]
      rfl
    · rw [if_neg h, if_neg h, ← settle_move, settle_settle, List.append_nil, List.map_append, List.map_append]
      rfl

theorem plannedFrom_perm (h : PlannedFrom table prov rows) (hrow : row ∈ rows) :
    (row.occurrencesToRelink ++ row.occurrencesToDrop).Perm (occurrencesOf table row.id) := by
  induction rows generalizing prov with
  | nil => cases hrow
  | cons row' rows ih =>
    obtain ⟨hkept, hdropped, hrest⟩ := h
    rcases List.mem_cons.mp hrow with rfl | hrow
    · rw [hkept, hdropped]
      exact split_perm
    · exact ih hrest hrow

theorem plannedFrom_covered (h : PlannedFrom table prov rows) (hrow : row ∈ rows) (ho : o ∈ row.occurrencesToDrop) :
    o.tuple ∈ prov ∨ ∃ row' ∈ rows, ∃ k ∈ row'.occurrencesToRelink, k.tuple = o.tuple := by
  induction rows generalizing prov with
  | nil => cases hrow
  | cons row' rows ih =>
    obtain ⟨hkept, hdropped, hrest⟩ := h
    have hseen : o.tuple ∈ (split Occurrence.tuple prov (occurrencesOf table row'.id)).seen →
        o.tuple ∈ prov ∨ ∃ r ∈ row' :: rows, ∃ k ∈ r.occurrencesToRelink, k.tuple = o.tuple := by
      rw [seen_split, List.mem_append, List.mem_map, ← hkept]
      refine Or.imp_right ?_
      rintro ⟨k, hk, heq⟩
      exact ⟨row', List.mem_cons_self, k, hk, heq⟩
    rcases List.mem_cons.mp hrow with rfl | hrow
    · rw [hdropped] at ho
      exact hseen (evidence_mem_of_dropped ho)
    · rcases ih hrest hrow with hprov | ⟨r, hr, k, hk, heq⟩
      · exact hseen hprov
      · exact Or.inr ⟨r, List.mem_cons_of_mem _ hr, k, hk, heq⟩

theorem mem_rowMoves_fst {i : Nat} :
    i ∈ (rowMoves canonicalId rows).map Prod.fst ↔ ∃ row ∈ rows, ∃ o ∈ row.occurrencesToRelink, o.id = i := by
  simp [rowMoves]

theorem mem_rowDrops {i : Nat} : i ∈ rowDrops rows ↔ ∃ row ∈ rows, ∃ o ∈ row.occurrencesToDrop, o.id = i := by
  simp [rowDrops]

theorem owner_of_planned (htable : (table.map (·.id)).Nodup) (h : PlannedFrom table prov rows) (ho : o ∈ table)
    (hid : o.id ∈ (rowMoves canonicalId rows).map Prod.fst ∨ o.id ∈ rowDrops rows) :
    ∃ row ∈ rows, o.priceObservationId = row.id := by
  have hplanned : ∃ row ∈ rows, ∃ k ∈ row.occurrencesToRelink ++ row.occurrencesToDrop, k.id = o.id := by
    rcases hid with hid | hid
    · obtain ⟨row, hrow, k, hk, hid⟩ := mem_rowMoves_fst.mp hid
      exact ⟨row, hrow, k, List.mem_append_left _ hk, hid⟩
    · obtain ⟨row, hrow, k, hk, hid⟩ := mem_rowDrops.mp hid
      exact ⟨row, hrow, k, List.mem_append_right _ hk, hid⟩
  obtain ⟨row, hrow, k, hk, hid⟩ := hplanned
  obtain ⟨hmem, howner⟩ := mem_occurrencesOf.mp ((plannedFrom_perm h hrow).mem_iff.mp hk)
  obtain rfl := List.inj_on_of_nodup_map htable hmem ho hid
  exact ⟨row, hrow, howner⟩

variable (now) in
theorem occurrencesOf_settle_planned {i : Nat} (htable : (table.map (·.id)).Nodup) (h : PlannedFrom table prov rows)
    (hi : i ∉ canonicalId :: rows.map (·.id)) (hsame : occurrencesOf table' i = occurrencesOf table i) :
    occurrencesOf (settle now (rowMoves canonicalId rows) (rowDrops rows) table') i = occurrencesOf table i := by
  obtain ⟨hne, hrows⟩ := List.ne_and_not_mem_of_not_mem_cons hi
  have hout : ∀ o ∈ occurrencesOf table i,
      ¬(o.id ∈ (rowMoves canonicalId rows).map Prod.fst ∨ o.id ∈ rowDrops rows) := by
    intro o ho hid
    obtain ⟨hmem, rfl⟩ := mem_occurrencesOf.mp ho
    obtain ⟨row, hrow, howner⟩ := owner_of_planned htable h hmem hid
    exact hrows (howner ▸ List.mem_map_of_mem hrow)
  rw [← hsame] at hout ⊢
  refine occurrencesOf_settle (fun o ho => not_or.mp (hout o ho)) fun m hm => ?_
  obtain ⟨row, -, hm⟩ := List.mem_flatMap.mp hm
  obtain ⟨o, -, rfl⟩ := List.mem_map.mp hm
  exact hne.symm

theorem rowMoves_cons : rowMoves canonicalId (row :: rows) = rowMoves canonicalId [row] ++ rowMoves canonicalId rows := by
  simp [rowMoves]

theorem rowDrops_cons : rowDrops (row :: rows) = rowDrops [row] ++ rowDrops rows := by
  simp [rowDrops]

variable (now) (table') in
theorem relinkRows_eq (htable : (table.map (·.id)).Nodup) (h : PlannedFrom table prov rows)
    (hids : (canonicalId :: rows.map (·.id)).Nodup)
    (hsame : ∀ row ∈ rows, occurrencesOf table' row.id = occurrencesOf table row.id) :
    relinkRows canonicalId now table' prov rows =
      (settle now (rowMoves canonicalId rows) (rowDrops rows) table', rows.map RemovedRow.executed) := by
  induction rows generalizing table' prov with
  | nil => exact congrArg (·, []) settle_nil.symm
  | cons row rows ih =>
    obtain ⟨hkept, hdropped, hrest⟩ := h
    obtain ⟨hcanonical, hrows⟩ := List.nodup_cons.mp hids
    obtain ⟨hrow, hrows⟩ := List.nodup_cons.mp hrows
    have hone : PlannedFrom table prov [row] := ⟨hkept, hdropped, trivial⟩
    have hfirst : relinkRow canonicalId now table' prov row.id =
        { table := settle now (rowMoves canonicalId [row]) (rowDrops [row]) table'
          canonicalProv := (split Occurrence.tuple prov (occurrencesOf table row.id)).seen
          relinked := row.occurrencesToRelink.map fun o => ⟨o.id, row.id⟩
          dropped := row.occurrencesToDrop } := by
      rw [relinkRow, hsame row List.mem_cons_self, foldl_visit, ← hkept, ← hdropped]
      simp [rowMoves, rowDrops]
    have hnext := ih (settle now (rowMoves canonicalId [row]) (rowDrops [row]) table') hrest
      (List.nodup_cons.mpr ⟨fun hc => hcanonical (List.mem_cons_of_mem _ hc), hrows⟩) fun row' hrow' => by
        have hmem : row'.id ∈ rows.map (·.id) := List.mem_map_of_mem hrow'
        refine occurrencesOf_settle_planned now htable hone ?_ (hsame row' (List.mem_cons_of_mem _ hrow'))
        refine List.not_mem_cons_of_ne_of_not_mem (fun heq => hcanonical (heq ▸ List.mem_cons_of_mem _ hmem)) ?_
        exact fun heq => hrow (List.mem_singleton.mp heq ▸ hmem)
    rw [relinkRows, hfirst, hnext, settle_settle, ← rowMoves_cons, ← rowDrops_cons]
    rfl

theorem relinkGroups_eq (htable : (table.map (·.id)).Nodup)
    (h : ∀ g ∈ groups, PlannedFrom table ((occurrencesOf table g.canonicalObservationId).map Occurrence.tuple) g.removedRows)
    (hids : (groups.flatMap Group.ids).Nodup)
    (hsame : ∀ i ∈ groups.flatMap Group.ids, occurrencesOf table' i = occurrencesOf table i) :
    relinkGroups now table' groups =
      (settle now (groupMoves groups) (rowDrops (removedRows groups)) table', groups.map Group.executed) := by
  induction groups generalizing table' with
  | nil => exact congrArg (·, []) settle_nil.symm
  | cons g groups ih =>
    rw [List.flatMap_cons] at hids hsame
    obtain ⟨hg, hgroups, hdisjoint⟩ := List.nodup_append'.mp hids
    have hplan := h g List.mem_cons_self
    have hfirst := relinkRows_eq now table' htable hplan hg fun row hrow =>
      hsame row.id (List.mem_append_left _ (List.mem_cons_of_mem _ (List.mem_map_of_mem hrow)))
    have hnext := ih (fun g' hg' => h g' (List.mem_cons_of_mem _ hg')) hgroups fun i hi =>
      occurrencesOf_settle_planned now htable hplan (fun hin => hdisjoint hin hi)
        (hsame i (List.mem_append_right _ hi))
    rw [relinkGroups, hsame g.canonicalObservationId (List.mem_append_left _ List.mem_cons_self), hfirst, hnext,
      settle_settle]
    simp only [groupMoves, removedRows, rowDrops, List.flatMap_cons, List.flatMap_append]
    rfl

end Relink

/-! ### The table afterwards -/

/-- The plan of the groups is made from the table, and no row has two parts in it. -/
structure Planned (table : List Occurrence) (groups : List Group) : Prop where
  keyed : (table.map (·.id)).Nodup
  plans : ∀ g ∈ groups,
    PlannedFrom table ((occurrencesOf table g.canonicalObservationId).map Occurrence.tuple) g.removedRows
  ids : (groups.flatMap Group.ids).Nodup

/-- The table once the plan is carried out. -/
def outcome (now : Instant) (groups : List Group) (table : List Occurrence) : List Occurrence :=
  settle now (groupMoves groups) (rowDrops (removedRows groups)) table

section Outcome
variable {now : Instant} {table : List Occurrence} {groups : List Group} {g g' : Group} {row : RemovedRow} {o : Occurrence}
  {i : Nat}

theorem mem_groupMoves {m : Nat × Nat} : m ∈ groupMoves groups ↔
    ∃ g ∈ groups, ∃ row ∈ g.removedRows, ∃ o ∈ row.occurrencesToRelink, (o.id, g.canonicalObservationId) = m := by
  simp [groupMoves, rowMoves]

theorem mem_removedRows : row ∈ removedRows groups ↔ ∃ g ∈ groups, row ∈ g.removedRows := List.mem_flatMap

theorem mem_ids_of_row (h : row ∈ g.removedRows) : row.id ∈ g.ids := List.mem_cons_of_mem _ (List.mem_map_of_mem h)

namespace Planned

theorem group_eq (h : Planned table groups) (hg : g ∈ groups) (hg' : g' ∈ groups) (hi : i ∈ g.ids) (hi' : i ∈ g'.ids) :
    g = g' := by
  by_contra hne
  have hdisjoint := (List.nodup_flatMap.mp h.ids).2
  have : Std.Symm (Function.onFun List.Disjoint Group.ids) := ⟨fun _ _ hd => hd.symm⟩
  exact hdisjoint.forall hg hg' hne hi hi'

theorem canonical_not_removed (h : Planned table groups) (hg : g ∈ groups) (hrow : row ∈ removedRows groups) :
    g.canonicalObservationId ≠ row.id := by
  intro heq
  obtain ⟨g', hg', hrow⟩ := mem_removedRows.mp hrow
  obtain rfl := h.group_eq hg hg' List.mem_cons_self (heq ▸ mem_ids_of_row hrow)
  have hids := (List.nodup_flatMap.mp h.ids).1 g hg
  exact (List.nodup_cons.mp hids).1 (heq ▸ List.mem_map_of_mem hrow)

theorem perm (h : Planned table groups) (hrow : row ∈ removedRows groups) :
    (row.occurrencesToRelink ++ row.occurrencesToDrop).Perm (occurrencesOf table row.id) := by
  obtain ⟨g, hg, hrow⟩ := mem_removedRows.mp hrow
  exact plannedFrom_perm (h.plans g hg) hrow

theorem of_relinked (h : Planned table groups) (hrow : row ∈ removedRows groups) (ho : o ∈ row.occurrencesToRelink) :
    o ∈ table ∧ o.priceObservationId = row.id :=
  mem_occurrencesOf.mp ((h.perm hrow).mem_iff.mp (List.mem_append_left _ ho))

theorem of_dropped (h : Planned table groups) (hrow : row ∈ removedRows groups) (ho : o ∈ row.occurrencesToDrop) :
    o ∈ table ∧ o.priceObservationId = row.id :=
  mem_occurrencesOf.mp ((h.perm hrow).mem_iff.mp (List.mem_append_right _ ho))

theorem eq_of_id (h : Planned table groups) {k : Occurrence} (hk : k ∈ table) (ho : o ∈ table) (hid : k.id = o.id) :
    k = o := List.inj_on_of_nodup_map h.keyed hk ho hid

theorem of_move (h : Planned table groups) (ho : o ∈ table) {m : Nat × Nat} (hm : m ∈ groupMoves groups)
    (hid : m.1 = o.id) : ∃ g ∈ groups, ∃ row ∈ g.removedRows, o.priceObservationId = row.id ∧
      o ∈ row.occurrencesToRelink ∧ m.2 = g.canonicalObservationId := by
  obtain ⟨g, hg, row, hrow, k, hk, rfl⟩ := mem_groupMoves.mp hm
  obtain ⟨hmem, howner⟩ := h.of_relinked (mem_removedRows.mpr ⟨g, hg, hrow⟩) hk
  obtain rfl := h.eq_of_id hmem ho hid
  exact ⟨g, hg, row, hrow, howner, hk, rfl⟩

theorem of_drop (h : Planned table groups) (ho : o ∈ table) (hid : o.id ∈ rowDrops (removedRows groups)) :
    ∃ row ∈ removedRows groups, o.priceObservationId = row.id ∧ o ∈ row.occurrencesToDrop := by
  obtain ⟨row, hrow, k, hk, hid⟩ := mem_rowDrops.mp hid
  obtain ⟨hmem, howner⟩ := h.of_dropped hrow hk
  obtain rfl := h.eq_of_id hmem ho hid
  exact ⟨row, hrow, howner, hk⟩

theorem rowIds_nodup (h : Planned table groups) : ((removedRows groups).map (·.id)).Nodup := by
  obtain ⟨hgroup, hgroups⟩ := List.nodup_flatMap.mp h.ids
  rw [removedRows, List.map_flatMap]
  exact List.nodup_flatMap.mpr ⟨fun g hg => (hgroup g hg).of_cons,
    hgroups.imp fun hne i hi hi' => hne (List.mem_cons_of_mem _ hi) (List.mem_cons_of_mem _ hi')⟩

theorem row_eq (h : Planned table groups) {row' : RemovedRow} (hrow : row ∈ removedRows groups)
    (hrow' : row' ∈ removedRows groups) (hid : row.id = row'.id) : row = row' :=
  List.inj_on_of_nodup_map h.rowIds_nodup hrow hrow' hid

theorem not_dropped (h : Planned table groups) (hrow : row ∈ removedRows groups) (ho : o ∈ row.occurrencesToRelink) :
    o.id ∉ rowDrops (removedRows groups) := by
  intro hid
  obtain ⟨hmem, howner⟩ := h.of_relinked hrow ho
  obtain ⟨row', hrow', howner', hdropped⟩ := h.of_drop hmem hid
  obtain rfl := h.row_eq hrow hrow' (howner.symm.trans howner')
  have hnodup : (row.occurrencesToRelink ++ row.occurrencesToDrop).Nodup :=
    (h.perm hrow).nodup_iff.mpr (h.keyed.of_map.filter _)
  exact List.disjoint_of_nodup_append hnodup ho hdropped

theorem mem_outcome_of_relinked (h : Planned table groups) (hg : g ∈ groups) (hrow : row ∈ g.removedRows)
    (ho : o ∈ row.occurrencesToRelink) : o.point g.canonicalObservationId now ∈ outcome now groups table := by
  have hmem := mem_removedRows.mpr ⟨g, hg, hrow⟩
  obtain ⟨htable, howner⟩ := h.of_relinked hmem ho
  refine List.mem_map.mpr ⟨o, List.mem_filter.mpr ⟨htable, decide_eq_true (h.not_dropped hmem ho)⟩, ?_⟩
  rcases redirect_cases now o (groupMoves groups) with ⟨hnot, -⟩ | ⟨m, hm, hid, heq⟩
  · exact absurd (List.mem_map.mpr ⟨_, mem_groupMoves.mpr ⟨g, hg, row, hrow, o, ho, rfl⟩, rfl⟩) hnot
  · obtain ⟨g', hg', row', hrow', howner', -, hcanonical⟩ := h.of_move htable hm hid
    obtain rfl := h.group_eq hg hg' (mem_ids_of_row hrow) (howner.symm.trans howner' ▸ mem_ids_of_row hrow')
    rw [heq, hcanonical]

theorem mem_outcome_of_stays (h : Planned table groups) (ho : o ∈ table)
    (hstays : o.priceObservationId ∉ (removedRows groups).map (·.id)) : o ∈ outcome now groups table := by
  have hmoves : o.id ∉ (groupMoves groups).map Prod.fst := by
    intro hid
    obtain ⟨m, hm, hid⟩ := List.mem_map.mp hid
    obtain ⟨g, hg, row, hrow, howner, -, -⟩ := h.of_move ho hm hid
    exact hstays (howner ▸ List.mem_map_of_mem (mem_removedRows.mpr ⟨g, hg, hrow⟩))
  have hdrops : o.id ∉ rowDrops (removedRows groups) := by
    intro hid
    obtain ⟨row, hrow, howner, -⟩ := h.of_drop ho hid
    exact hstays (howner ▸ List.mem_map_of_mem hrow)
  exact List.mem_map.mpr ⟨o, List.mem_filter.mpr ⟨ho, decide_eq_true hdrops⟩, redirect_of_not_mem hmoves⟩

/-- An occurrence afterwards is one of a row that stays, or one that has moved to the canonical row of its group. -/
theorem outcome_cases (h : Planned table groups) (ho : o ∈ outcome now groups table) :
    (o ∈ table ∧ o.priceObservationId ∉ (removedRows groups).map (·.id)) ∨
      ∃ g ∈ groups, ∃ row ∈ g.removedRows, ∃ k ∈ row.occurrencesToRelink, o = k.point g.canonicalObservationId now := by
  obtain ⟨k, hk, rfl⟩ := List.mem_map.mp ho
  obtain ⟨htable, hkept⟩ := List.mem_filter.mp hk
  rcases redirect_cases now k (groupMoves groups) with ⟨hnot, heq⟩ | ⟨m, hm, hid, heq⟩
  · rw [heq]
    refine Or.inl ⟨htable, fun howner => ?_⟩
    obtain ⟨row, hrow, howner⟩ := List.mem_map.mp howner
    have hplanned := (h.perm hrow).mem_iff.mpr (mem_occurrencesOf.mpr ⟨htable, howner.symm⟩)
    rcases List.mem_append.mp hplanned with hrelink | hdrop
    · obtain ⟨g, hg, hrow⟩ := mem_removedRows.mp hrow
      exact hnot (List.mem_map.mpr ⟨_, mem_groupMoves.mpr ⟨g, hg, row, hrow, k, hrelink, rfl⟩, rfl⟩)
    · exact of_decide_eq_true hkept (mem_rowDrops.mpr ⟨row, hrow, k, hdrop, rfl⟩)
  · obtain ⟨g, hg, row, hrow, -, hrelink, hcanonical⟩ := h.of_move htable hm hid
    exact Or.inr ⟨g, hg, row, hrow, k, hrelink, by rw [heq, hcanonical]⟩

theorem outcome_owner (h : Planned table groups) (ho : o ∈ outcome now groups table) :
    o.priceObservationId ∉ (removedRows groups).map (·.id) := by
  rcases h.outcome_cases ho with ⟨-, hstays⟩ | ⟨g, hg, row, hrow, k, hk, rfl⟩
  · exact hstays
  · intro howner
    obtain ⟨row', hrow', heq⟩ := List.mem_map.mp howner
    exact h.canonical_not_removed hg hrow' heq.symm

theorem outcome_tuples (h : Planned table groups) (hg : g ∈ groups) {t : ProvenanceTuple} :
    (∃ o ∈ outcome now groups table, o.priceObservationId = g.canonicalObservationId ∧ o.tuple = t) ↔
      ∃ o ∈ table, o.priceObservationId ∈ g.ids ∧ o.tuple = t := by
  have hcanonical : g.canonicalObservationId ∉ (removedRows groups).map (·.id) := by
    intro hmem
    obtain ⟨row, hrow, heq⟩ := List.mem_map.mp hmem
    exact h.canonical_not_removed hg hrow heq.symm
  have hmoved : ∀ row ∈ g.removedRows, ∀ k ∈ row.occurrencesToRelink, k.tuple = t →
      ∃ o ∈ outcome now groups table, o.priceObservationId = g.canonicalObservationId ∧ o.tuple = t :=
    fun row hrow k hk ht => ⟨_, h.mem_outcome_of_relinked hg hrow hk, rfl, ht⟩
  constructor
  · rintro ⟨o, ho, howner, rfl⟩
    rcases h.outcome_cases ho with ⟨htable, -⟩ | ⟨g', hg', row, hrow, k, hk, rfl⟩
    · exact ⟨o, htable, howner ▸ List.mem_cons_self, rfl⟩
    · have hcanonical' : g'.canonicalObservationId = g.canonicalObservationId := howner
      obtain rfl := h.group_eq hg' hg List.mem_cons_self (hcanonical' ▸ List.mem_cons_self)
      obtain ⟨htable, hrowid⟩ := h.of_relinked (mem_removedRows.mpr ⟨_, hg, hrow⟩) hk
      exact ⟨k, htable, hrowid ▸ mem_ids_of_row hrow, rfl⟩
  · rintro ⟨o, ho, howner, rfl⟩
    rcases List.mem_cons.mp howner with howner | howner
    · exact ⟨o, h.mem_outcome_of_stays ho (howner ▸ hcanonical), howner, rfl⟩
    · obtain ⟨row, hrow, hid⟩ := List.mem_map.mp howner
      have hplanned := (h.perm (mem_removedRows.mpr ⟨g, hg, hrow⟩)).mem_iff.mpr (mem_occurrencesOf.mpr ⟨ho, hid.symm⟩)
      rcases List.mem_append.mp hplanned with hrelink | hdrop
      · exact hmoved row hrow o hrelink rfl
      · -- What is dropped is there already, with the canonical row or with a row that has moved to it.
        rcases plannedFrom_covered (h.plans g hg) hrow hdrop with hprov | ⟨row', hrow', k, hk, heq⟩
        · obtain ⟨k, hk, heq⟩ := List.mem_map.mp hprov
          obtain ⟨htable, hkowner⟩ := mem_occurrencesOf.mp hk
          exact ⟨k, h.mem_outcome_of_stays htable (hkowner ▸ hcanonical), hkowner, heq⟩
        · exact hmoved row' hrow' k hk heq

end Planned
end Outcome

/-! ### The way back -/

/-- An occurrence apart from the row that it points to and the stamp of its row. -/
def Occurrence.evidence (o : Occurrence) : PriceObservationOccurrence :=
  { o.toPriceObservationOccurrence with priceObservationId := 0 }

/-- The occurrences that the manifest has as dropped. -/
def dropped (rows : List RemovedRow) : List Occurrence := rows.flatMap (·.occurrencesToDrop)

/-- The moves that take the occurrences back. -/
def rowBack (rows : List RemovedRow) : List (Nat × Nat) :=
  rows.flatMap fun row => row.occurrencesToRelink.map fun o => (o.id, row.id)

/-- What an occurrence is once it is restored: what it was, though one that has moved has a new stamp. -/
def RestoredAs (later : Instant) (gone : List Nat) (o' o : Occurrence) : Prop :=
  o' = o ∨ (o.priceObservationId ∈ gone ∧ o' = { o with updatedAt := later })

section Back
variable {now later : Instant} {table : List Occurrence} {groups : List Group} {rows : List RemovedRow}

theorem mem_rowBack {m : Nat × Nat} :
    m ∈ rowBack rows ↔ ∃ row ∈ rows, ∃ o ∈ row.occurrencesToRelink, (o.id, row.id) = m := by
  simp [rowBack]

theorem rowBack_fst : (rowBack (removedRows groups)).map Prod.fst = (groupMoves groups).map Prod.fst := by
  simp only [rowBack, groupMoves, rowMoves, removedRows, List.flatMap_assoc, List.map_flatMap, List.map_map]
  rfl

namespace Planned

theorem dropped_perm (h : Planned table groups) :
    (dropped (removedRows groups)).Perm (table.filter (·.id ∈ rowDrops (removedRows groups))) := by
  have hrows : ∀ row ∈ removedRows groups, row.occurrencesToDrop.Nodup := fun row hrow =>
    (List.nodup_append'.mp ((h.perm hrow).nodup_iff.mpr (h.keyed.of_map.filter _))).2.1
  have hapart : (removedRows groups).Pairwise (Function.onFun List.Disjoint (·.occurrencesToDrop)) := by
    refine (List.pairwise_map.mp h.rowIds_nodup).imp_of_mem fun {row row'} hrow hrow' hne o ho ho' => hne ?_
    exact (h.of_dropped hrow ho).2.symm.trans (h.of_dropped hrow' ho').2
  refine (List.perm_ext_iff_of_nodup (List.nodup_flatMap.mpr ⟨hrows, hapart⟩) (h.keyed.of_map.filter _)).mpr fun o => ?_
  rw [List.mem_flatMap, List.mem_filter, decide_eq_true_eq]
  constructor
  · rintro ⟨row, hrow, ho⟩
    exact ⟨(h.of_dropped hrow ho).1, mem_rowDrops.mpr ⟨row, hrow, o, ho, rfl⟩⟩
  · rintro ⟨ho, hid⟩
    obtain ⟨row, hrow, -, hdropped⟩ := h.of_drop ho hid
    exact ⟨row, hrow, hdropped⟩

theorem table_perm (h : Planned table groups) :
    (table.filter (·.id ∉ rowDrops (removedRows groups)) ++ dropped (removedRows groups)).Perm table := by
  have hsplit := List.filter_append_perm (fun o : Occurrence => decide (o.id ∈ rowDrops (removedRows groups))) table
  have hnot : table.filter (fun o => !decide (o.id ∈ rowDrops (removedRows groups))) =
      table.filter (·.id ∉ rowDrops (removedRows groups)) := List.filter_congr fun o _ => by simp
  rw [hnot] at hsplit
  exact ((h.dropped_perm.append_left _).trans List.perm_append_comm).trans hsplit

variable (now) in
theorem outcome_evidence (h : Planned table groups) :
    ((outcome now groups table ++ dropped (removedRows groups)).map Occurrence.evidence).Perm
      (table.map Occurrence.evidence) := by
  refine List.Perm.trans (List.Perm.of_eq ?_) (h.table_perm.map Occurrence.evidence)
  rw [List.map_append, List.map_append, outcome, settle, List.map_map]
  refine congrArg (· ++ _) (List.map_congr_left fun o _ => ?_)
  rcases redirect_cases now o (groupMoves groups) with ⟨-, heq⟩ | ⟨m, -, -, heq⟩ <;>
    rw [Function.comp_apply, heq]
  rfl

theorem restored_paired (h : Planned table groups) :
    Paired (RestoredAs later ((removedRows groups).map (·.id)))
      ((outcome now groups table).map (redirect later (rowBack (removedRows groups))) ++ dropped (removedRows groups))
      table := by
  have hback : ∀ o ∈ table.filter (·.id ∉ rowDrops (removedRows groups)),
      RestoredAs later ((removedRows groups).map (·.id))
        (redirect later (rowBack (removedRows groups)) (redirect now (groupMoves groups) o)) o := by
    intro o ho
    have htable := (List.mem_filter.mp ho).1
    rcases redirect_cases now o (groupMoves groups) with ⟨hnot, heq⟩ | ⟨m, hm, hid, heq⟩
    · rw [heq, redirect_of_not_mem (rowBack_fst ▸ hnot)]
      exact Or.inl rfl
    · rw [heq]
      rcases redirect_cases later (o.point m.2 now) (rowBack (removedRows groups)) with
        ⟨hnot, -⟩ | ⟨b, hb, hbid, hbeq⟩
      · rw [rowBack_fst] at hnot
        exact absurd (hid ▸ List.mem_map_of_mem hm) hnot
      · obtain ⟨row, hrow, k, hk, rfl⟩ := mem_rowBack.mp hb
        obtain ⟨hmem, howner⟩ := h.of_relinked hrow hk
        obtain rfl := h.eq_of_id hmem htable hbid
        rw [hbeq]
        refine Or.inr ⟨howner ▸ List.mem_map_of_mem hrow, ?_⟩
        rw [Occurrence.point, Occurrence.point, ← howner]
  refine Paired.perm_right (Paired.append ?_ ?_) h.table_perm
  · refine ⟨_, ?_, .refl _⟩
    rw [outcome, settle, List.map_map]
    exact List.forall₂_map_left_iff.mpr (List.forall₂_same.mpr hback)
  · exact ⟨_, List.forall₂_same.mpr fun _ _ => Or.inl rfl, .refl _⟩

end Planned

variable (later) in
theorem foldlM_restoreRow (st : Restoring) (hmirrors : ∀ row ∈ rows, row.Mirrors)
    (hobs : ((st.observations ++ rows.map (·.values)).map (·.id)).Nodup)
    (hocc : ((st.occurrences ++ dropped rows).map (·.id)).Nodup)
    (hapart : ∀ i ∈ (rowBack rows).map Prod.fst, i ∉ rowDrops rows) :
    (rows.map RemovedRow.executed).foldlM (restoreRow later) st = .ok
      { observations := st.observations ++ rows.map (·.values)
        occurrences := st.occurrences.map (redirect later (rowBack rows)) ++ dropped rows
        restored := st.restored + rows.length
        hashOk := st.hashOk + rows.length
        occRelinkedBack := st.occRelinkedBack + (rows.map (·.occurrencesToRelink.length)).sum
        occRecreated := st.occRecreated + (rows.map (·.occurrencesToDrop.length)).sum } := by
  induction rows generalizing st with
  | nil =>
    have hsame : st.occurrences.map (redirect later []) = st.occurrences := List.map_id _
    simp [dropped, rowBack, hsame]
    rfl
  | cons row rows ih =>
    have hback : rowBack (row :: rows) = rowBack [row] ++ rowBack rows := by simp [rowBack]
    have hdropped : dropped (row :: rows) = row.occurrencesToDrop ++ dropped rows := rfl
    have hfold : row.executed.occurrencesRelinked.foldl (fun table occ =>
        updateAt (·.id) occ.id (Occurrence.point occ.originalObservationId later) table) st.occurrences =
        st.occurrences.map (redirect later (rowBack [row])) := by
      rw [map_redirect, rowBack, List.flatMap_singleton, List.foldl_map]
      exact List.foldl_map
    have hids : ∀ (moves : List (Nat × Nat)) (l : List Occurrence),
        (l.map (redirect later moves)).map (·.id) = l.map (·.id) := fun moves l => by
      rw [List.map_map]
      exact List.map_congr_left fun o _ => redirect_id
    have hstep : restoreRow later st row.executed = .ok
        { observations := st.observations ++ [row.values]
          occurrences := st.occurrences.map (redirect later (rowBack [row])) ++ row.occurrencesToDrop
          restored := st.restored + 1
          hashOk := st.hashOk + 1
          occRelinkedBack := st.occRelinkedBack + row.occurrencesToRelink.length
          occRecreated := st.occRecreated + row.occurrencesToDrop.length } := by
      have hkeys : ((st.observations ++ [row.executed.values]).map (·.id)).Nodup ∧
          ((st.occurrences.map (redirect later (rowBack [row])) ++ row.executed.occurrencesDropped).map (·.id)).Nodup := by
        refine ⟨hobs.sublist (List.Sublist.map _
          (List.Sublist.append_left (List.singleton_sublist.mpr List.mem_cons_self) _)), ?_⟩
        rw [List.map_append, hids, ← List.map_append]
        exact hocc.sublist (List.Sublist.map _ (List.Sublist.append_left (List.sublist_append_left _ _) _))
      have hhash : Digest.sha256 row.executed.values = row.executed.rowHash := (hmirrors row List.mem_cons_self).hash.symm
      rw [restoreRow, hfold, if_pos hkeys, if_pos hhash]
      simp [RemovedRow.executed]
    have hrest : row.occurrencesToDrop.map (redirect later (rowBack rows)) = row.occurrencesToDrop := by
      refine (List.map_congr_left fun o ho => redirect_of_not_mem fun hin => ?_).trans (List.map_id _)
      refine hapart o.id ?_ (mem_rowDrops.mpr ⟨row, List.mem_cons_self, o, ho, rfl⟩)
      rw [hback, List.map_append]
      exact List.mem_append_right _ hin
    rw [List.map_cons, List.foldlM_cons, hstep]
    refine (ih _ ?_ ?_ ?_ ?_).trans ?_
    · exact fun r hr => hmirrors r (List.mem_cons_of_mem _ hr)
    · rw [List.append_assoc]
      exact hobs
    · rw [List.append_assoc, List.map_append, hids, ← List.map_append]
      exact hocc
    · intro i hi hdrop
      refine hapart i ?_ ?_
      · rw [hback, List.map_append]
        exact List.mem_append_right _ hi
      · rw [rowDrops_cons]
        exact List.mem_append_right _ hdrop
    · have hmap : (st.occurrences.map (redirect later (rowBack [row]))).map (redirect later (rowBack rows)) =
          st.occurrences.map (redirect later (rowBack (row :: rows))) := by
        rw [List.map_map, hback]
        exact List.map_congr_left fun o _ => redirect_append.symm
      rw [List.map_append, hmap, hrest, hdropped]
      simp [Nat.add_assoc, Nat.add_comm 1]

end Back

end CestaPlan.History.Dedup
