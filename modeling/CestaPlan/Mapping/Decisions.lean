import CestaPlan.Mapping.Discovery
import CestaPlan.Mapping.Lifecycle

/-! What a run of discoveries and reviews keeps of the decisions of the reviewers. -/

namespace CestaPlan.Mapping
open Updates Runs

/-! ### Runs -/

inductive Event where
  | review (op : Op)
  | discover (call : DiscoverCall)

/-- A discovery that fails is rolled back. -/
def step (dictionary : IngredientDictionary) (int : String → Option Int) (rows : Mappings) : Event → Mappings
  | .review op => apply int rows op
  | .discover call => (discoverAndMap dictionary rows call).toOption.getD rows

/-- The review goes through and decides on the row with this id. -/
def Decides (rows : Mappings) (i : Nat) : Op → Prop
  | .approve j by_ reason now => j = i ∧ ∃ rows', approve rows j by_ reason now = .ok rows'
  | .reject j by_ reason now => j = i ∧ ∃ rows', reject rows j by_ reason now = .ok rows'
  | .revoke j by_ reason now => j = i ∧ ∃ rows', revoke rows j by_ reason now = .ok rows'
  | .bulkApprove is by_ reason minConfidence now =>
    i ∈ is ∧ ∃ rows', bulkApprove rows is by_ reason minConfidence now = .ok rows'
  | .bulkReject is by_ reason now => i ∈ is ∧ ∃ rows', bulkReject rows is by_ reason now = .ok rows'
  | .tagConflicts | .consolidateDuplicates _ | .supersedeV1Candidates _ _ _ => False

/-- A human has reviewed the row with this id: before the run, or in one of its steps. -/
def HumanReviewed (dictionary : IngredientDictionary) (int : String → Option Int) (rows : Mappings) (pre : List Event)
    (i : Nat) : Prop :=
  (∃ r ∈ rows, r.id = i ∧ r.reviewedBy ≠ none) ∨
    ∃ earlier op, earlier ++ [.review op] <+: pre ∧ Decides (earlier.foldl (step dictionary int) rows) i op

/-- The status, the activity and the reviewer of the row. -/
structure SameDecision (r r' : ProviderIngredientMapping) : Prop where
  mappingStatus : r'.mappingStatus = r.mappingStatus
  active : r'.active = r.active
  reviewedAt : r'.reviewedAt = r.reviewedAt
  reviewedBy : r'.reviewedBy = r.reviewedBy
  reviewReason : r'.reviewReason = r.reviewReason

/-- No discovery of the run trips over the versions of a mapping, touches a decision or uses a rejected mapping. -/
structure KeepsDecisions (dictionary : IngredientDictionary) (int : String → Option Int) (rows : Mappings)
    (events : List Event) : Prop where
  finds : ∀ pre call, pre ++ [Event.discover call] <+: events →
    discoverAndMap dictionary (pre.foldl (step dictionary int) rows) call ≠ .error .multipleResultsFound
  reviewed : ∀ pre call, pre ++ [Event.discover call] <+: events → ∀ i, HumanReviewed dictionary int rows pre i →
    ∀ r ∈ pre.foldl (step dictionary int) rows, r.id = i →
      ∃ r' ∈ (pre ++ [Event.discover call]).foldl (step dictionary int) rows, r'.id = i ∧ SameDecision r r'
  rejected : ∀ pre call, pre ++ [Event.discover call] <+: events → ∀ r ∈ pre.foldl (step dictionary int) rows,
    r.mappingStatus = .rejected → r.active = false →
      ∀ r' ∈ (pre ++ [Event.discover call]).foldl (step dictionary int) rows, r'.id = r.id → r'.active = false

/-- A match may be written: there is at most one row of its provider, ingredient and product; a reviewed one is decided
    as the discovery would decide it, which then must leave the reviewer alone; and a rejected one is not approved. -/
structure Admits (rows : Mappings) (call : DiscoverCall) (m : Match) : Prop where
  single : rows.countP (isFor call m) ≤ 1
  reviewed : ∀ r ∈ rows, isFor call m r = true → r.reviewedBy ≠ none → SameDecision r (written call m r)
  rejected : ∀ r ∈ rows, isFor call m r = true → r.mappingStatus = .rejected → r.active = false →
    activates call m = false

def AdmitsAll (dictionary : IngredientDictionary) (rows : Mappings) : Event → Prop
  | .review _ => True
  | .discover call => ∀ m ∈ matchesOf dictionary call, Admits rows call m

/-! ### The write of a match -/

section Write
variable {call : DiscoverCall} {m m' : Match} {rows rows' : Mappings} {r : ProviderIngredientMapping}

@[simp] theorem written_id : (written call m r).id = r.id := by
  unfold written
  split <;> rfl

@[simp] theorem isFor_written : isFor call m' (written call m r) = isFor call m' r := by
  unfold written
  split <;> rfl

/-- In review mode nobody is left as the reviewer, so the decision of a reviewer is never kept. -/
theorem sameDecision_written_iff (hreviewed : r.reviewedBy ≠ none) : SameDecision r (written call m r) ↔
    call.approvalMode = .deterministicAutoapproval ∧ r.mappingStatus = m.candidate.mappingStatus ∧
      r.active = activates call m ∧ (activates call m = true → r.reviewedAt = some call.now) := by
  unfold written
  cases hmode : call.approvalMode with
  | reviewOnly =>
    simp only [reduceCtorEq, false_and, iff_false]
    exact fun h => hreviewed h.reviewedBy.symm
  | deterministicAutoapproval =>
    simp only [true_and]
    constructor
    · intro h
      refine ⟨h.mappingStatus.symm, h.active.symm, fun hactive => ?_⟩
      have hat := h.reviewedAt
      simp only [hactive, if_true] at hat
      exact hat.symm
    · rintro ⟨hstatus, hactive, hat⟩
      refine ⟨hstatus.symm, hactive.symm, ?_, rfl, rfl⟩
      dsimp only
      split
      · next hnow => exact (hat hnow).symm
      · rfl

theorem active_written (h : activates call m = false) : (written call m r).active = false := by
  unfold written
  split
  · rfl
  · exact h

theorem findMapping_cases (h : rows.countP (isFor call m) ≤ 1) :
    (findMapping rows call m = .ok none ∧ rows.countP (isFor call m) = 0) ∨
      ∃ found ∈ rows, isFor call m found = true ∧ findMapping rows call m = .ok (some found) := by
  rw [List.countP_eq_length_filter] at h ⊢
  unfold findMapping
  cases hfilter : rows.filter (isFor call m) with
  | nil => exact Or.inl ⟨rfl, rfl⟩
  | cons found rest =>
    rw [hfilter, List.length_cons] at h
    obtain rfl := List.length_eq_zero_iff.mp (Nat.le_zero.mp (Nat.le_of_succ_le_succ h))
    obtain ⟨hmem, hfor⟩ := List.mem_filter.mp (hfilter ▸ List.mem_singleton_self found)
    exact Or.inr ⟨found, hmem, hfor, rfl⟩

theorem nextId_fresh : ∀ r ∈ rows, r.id < nextId rows := by
  intro r hr
  exact Nat.lt_succ_of_le (List.le_max_of_le' 0 (List.mem_map_of_mem hr) le_rfl)

end Write

/-! ### A discovery -/

/-- How far the writes of a discovery have come from the rows that it began with: no row is lost, a reviewed one is
    decided as before, and a rejected one is out of use. -/
structure Progress (call : DiscoverCall) (pending : List Match) (start rows : Mappings) : Prop where
  ids : (rows.map (·.id)).Nodup
  single : ∀ m ∈ pending, rows.countP (isFor call m) ≤ 1
  kept : ∀ r ∈ start, ∃ r' ∈ rows, r'.id = r.id ∧ (∀ m : Match, isFor call m r' = isFor call m r) ∧
    (r.reviewedBy ≠ none → SameDecision r r') ∧ (r.mappingStatus = .rejected → r.active = false → r'.active = false)

section Discovery
variable {call : DiscoverCall} {m : Match} {pending : List Match} {start rows rows' : Mappings}

theorem SameDecision.trans {r r' r'' : ProviderIngredientMapping} (h : SameDecision r r') (h' : SameDecision r' r'') :
    SameDecision r r'' :=
  ⟨h'.mappingStatus.trans h.mappingStatus, h'.active.trans h.active, h'.reviewedAt.trans h.reviewedAt,
    h'.reviewedBy.trans h.reviewedBy, h'.reviewReason.trans h.reviewReason⟩

/-- A row that is decided as the one that the match admits is so after the write as well. -/
theorem Admits.written {r r' : ProviderIngredientMapping} (h : Admits start call m) (hr : r ∈ start)
    (hfor : isFor call m r = true) (hreviewed : r.reviewedBy ≠ none) (hsame : SameDecision r r') :
    SameDecision r (Mapping.written call m r') := by
  obtain ⟨hmode, hstatus, hactive, hat⟩ := (sameDecision_written_iff hreviewed).mp (h.reviewed r hr hfor hreviewed)
  refine hsame.trans ((sameDecision_written_iff (hsame.reviewedBy ▸ hreviewed)).mpr ⟨hmode, ?_, ?_, ?_⟩)
  · rw [hsame.mappingStatus, hstatus]
  · rw [hsame.active, hactive]
  · rw [hsame.reviewedAt]
    exact hat

theorem Progress.update (h : Progress call (m :: pending) start rows) (hadmits : Admits start call m)
    {found : ProviderIngredientMapping} (hmem : found ∈ rows) (hfor : isFor call m found = true) :
    Progress call pending start (updateAt (·.id) found.id (fun _ => written call m found) rows) := by
  have hid : ∀ r ∈ rows, r.id = found.id → r = found := fun r hr heq => List.inj_on_of_nodup_map h.ids hr hmem heq
  have hsame : ∀ r ∈ rows, ∀ m' : Match,
      isFor call m' (if r.id = found.id then written call m found else r) = isFor call m' r := by
    intro r hr m'
    split
    · next heq => rw [isFor_written, hid r hr heq]
    · rfl
  refine ⟨?_, fun m' hm' => ?_, fun r hr => ?_⟩
  · rw [updateAt, List.map_map]
    rw [show rows.map ((fun r : ProviderIngredientMapping => r.id) ∘
        fun r => if r.id = found.id then written call m found else r) = rows.map (·.id) from ?_]
    · exact h.ids
    · refine List.map_congr_left fun r _ => ?_
      rw [Function.comp_apply]
      split
      · next heq => rw [written_id, heq]
      · rfl
  · rw [updateAt, List.countP_map, List.countP_congr fun r hr => by rw [Function.comp_apply, hsame r hr m']]
    exact h.single m' (List.mem_cons_of_mem _ hm')
  · obtain ⟨r', hr', hrid, hrfor, hreviewed, hrejected⟩ := h.kept r hr
    refine ⟨_, mem_updateAt.mpr ⟨r', hr', rfl⟩, ?_, fun m' => (hsame r' hr' m').trans (hrfor m'), ?_, ?_⟩
    · split
      · next heq => rw [written_id, ← heq, hrid]
      · exact hrid
    · intro hby
      split
      · next heq =>
        obtain rfl := hid r' hr' heq
        exact hadmits.written hr (hrfor m ▸ hfor) hby (hreviewed hby)
      · exact hreviewed hby
    · intro hstatus hinactive
      split
      · next heq =>
        obtain rfl := hid r' hr' heq
        exact active_written (hadmits.rejected r hr (hrfor m ▸ hfor) hstatus hinactive)
      · exact hrejected hstatus hinactive

theorem isFor_congr {m m' : Match} {r : ProviderIngredientMapping} (h : isFor call m r = true)
    (h' : isFor call m' r = true) : isFor call m = isFor call m' := by
  simp only [isFor, Bool.and_eq_true, decide_eq_true_eq] at h h'
  funext r'
  simp only [isFor, ← h.1.2, ← h'.1.2, ← h.2, ← h'.2]

theorem Progress.insert (h : Progress call (m :: pending) start rows) (hnone : rows.countP (isFor call m) = 0) :
    Progress call pending start (rows ++ [written call m (newMapping rows call m)]) := by
  have hfor : isFor call m (newMapping rows call m) = true := by simp [isFor, newMapping]
  refine ⟨?_, fun m' hm' => ?_, fun r hr => ?_⟩
  · rw [List.map_append]
    refine List.Nodup.append h.ids (List.nodup_singleton _) fun i hi hnew => ?_
    obtain ⟨r, hr, rfl⟩ := List.mem_map.mp hi
    rw [List.map_singleton, List.mem_singleton, written_id] at hnew
    exact absurd hnew (nextId_fresh r hr).ne
  · rw [List.countP_append, List.countP_singleton, isFor_written]
    split
    · next hfor' => rw [← isFor_congr hfor hfor', hnone]
    · exact h.single m' (List.mem_cons_of_mem _ hm')
  · obtain ⟨r', hr', hkept⟩ := h.kept r hr
    exact ⟨r', List.mem_append_left _ hr', hkept⟩

theorem Progress.upsert (h : Progress call (m :: pending) start rows) (hadmits : Admits start call m) :
    upsertMapping call rows m = .error .uniqueViolation ∨
      ∃ rows', upsertMapping call rows m = .ok rows' ∧ Progress call pending start rows' := by
  unfold upsertMapping
  rcases findMapping_cases (h.single m List.mem_cons_self) with ⟨hfind, hnone⟩ | ⟨found, hmem, hfor, hfind⟩
  · rw [hfind]
    by_cases hviolates : violates rows (written call m (newMapping rows call m)) = true
    · exact Or.inl (if_pos hviolates)
    · exact Or.inr ⟨_, if_neg hviolates, h.insert hnone⟩
  · rw [hfind]
    by_cases hviolates : violates rows (written call m found) = true
    · exact Or.inl (if_pos hviolates)
    · refine Or.inr ⟨_, if_neg hviolates, ?_⟩
      rw [written_id]
      exact h.update hadmits hmem hfor

theorem Progress.run (h : Progress call pending start rows) (hadmits : ∀ m ∈ pending, Admits start call m) :
    pending.foldlM (upsertMapping call) rows = .error .uniqueViolation ∨
      ∃ rows', pending.foldlM (upsertMapping call) rows = .ok rows' ∧ Progress call [] start rows' := by
  induction pending generalizing rows with
  | nil => exact Or.inr ⟨rows, rfl, h⟩
  | cons m pending ih =>
    rw [List.foldlM_cons]
    rcases h.upsert (hadmits m List.mem_cons_self) with herror | ⟨next, hnext, hprogress⟩
    · rw [herror]
      exact Or.inl rfl
    · rw [hnext]
      exact ih hprogress fun m' hm' => hadmits m' (List.mem_cons_of_mem _ hm')

variable {dictionary : IngredientDictionary} {int : String → Option Int}

variable (int) in
/-- A discovery whose matches may all be written writes them, or fails as one product would be approved twice. -/
theorem discover_progress (hids : (rows.map (·.id)).Nodup) (hadmits : AdmitsAll dictionary rows (.discover call)) :
    discoverAndMap dictionary rows call ≠ .error .multipleResultsFound ∧
      Progress call [] rows (step dictionary int rows (.discover call)) := by
  have hstart : Progress call (matchesOf dictionary call) rows rows :=
    ⟨hids, fun m hm => (hadmits m hm).single, fun r hr =>
      ⟨r, hr, rfl, fun _ => rfl, fun _ => ⟨rfl, rfl, rfl, rfl, rfl⟩, fun _ hinactive => hinactive⟩⟩
  have hstep : step dictionary int rows (.discover call) = (discoverAndMap dictionary rows call).toOption.getD rows := rfl
  rw [hstep, discoverAndMap]
  rcases hstart.run hadmits with herror | ⟨rows', hok, hprogress⟩
  · rw [herror]
    exact ⟨by simp, hids, by simp, hstart.kept⟩
  · rw [hok]
    exact ⟨by simp, hprogress⟩

end Discovery

/-! ### A review -/

/-- The rows stay, and so does the reviewer of each. -/
def Stamped (rows rows' : Mappings) : Prop :=
  List.Forall₂ (fun r r' => r'.id = r.id ∧ (r.reviewedBy ≠ none → r'.reviewedBy ≠ none)) rows rows'

section Reviews
variable {rows rows' : Mappings} {f : ProviderIngredientMapping → ProviderIngredientMapping} {i : Nat} {by_ : Int}
  {now : Instant}

theorem Stamped.refl (rows : Mappings) : Stamped rows rows := List.forall₂_same.mpr fun _ _ => ⟨rfl, id⟩

theorem Stamped.trans {rows'' : Mappings} (h : Stamped rows rows') (h' : Stamped rows' rows'') : Stamped rows rows'' := by
  refine (forall₂_comp h h').imp ?_
  rintro r r'' ⟨r', ⟨hid, hby⟩, hid', hby'⟩
  exact ⟨hid'.trans hid, fun hr => hby' (hby hr)⟩

theorem Stamped.map (h : ∀ r ∈ rows, (f r).id = r.id ∧ (r.reviewedBy ≠ none → (f r).reviewedBy ≠ none)) :
    Stamped rows (rows.map f) := by
  rw [Stamped, List.forall₂_map_right_iff]
  exact List.forall₂_same.mpr h

theorem Stamped.ids (h : Stamped rows rows') : rows'.map (·.id) = rows.map (·.id) :=
  map_eq_map_of_forall₂ h fun _ _ h => h.1

/-- The rows with the reviewer of each, and of the row that was decided on. -/
def StampedAt (rows rows' : Mappings) (i : Nat) : Prop :=
  Stamped rows rows' ∧ ∃ r' ∈ rows', r'.id = i ∧ r'.reviewedBy ≠ none

theorem stamped_approve {reason : Option String} (hok : approve rows i by_ reason now = .ok rows') :
    StampedAt rows rows' i := by
  obtain ⟨row, hrow, rfl, -, f, rfl, hf⟩ := approve_ok hok
  refine ⟨Stamped.map fun r _ => ⟨(hf r).sameMapping.id, fun hby => ?_⟩, f row, List.mem_map_of_mem hrow,
    (hf row).sameMapping.id, ?_⟩
  · cases hf r with
    | chosen _ heq => exact heq ▸ Option.some_ne_none _
    | lost _ _ _ heq =>
      rw [heq]
      exact hby
    | kept _ heq =>
      rw [heq]
      exact hby
  · cases hf row with
    | chosen _ heq => exact heq ▸ Option.some_ne_none _
    | lost hne => exact absurd rfl hne
    | kept hne => exact absurd rfl hne

theorem stamped_reject {reason : String} (hok : reject rows i by_ reason now = .ok rows') : StampedAt rows rows' i := by
  have hmem : ∃ row ∈ rows, row.id = i := by
    unfold reject at hok
    split at hok
    · cases hok
    · obtain ⟨row, hrow, -⟩ := bind_eq_ok.mp hok
      exact ⟨row, get_ok hrow⟩
  obtain ⟨row, hrow, hid⟩ := hmem
  obtain rfl := reject_ok hok
  refine ⟨Stamped.map fun r _ => ?_, _, mem_updateAt.mpr ⟨row, hrow, if_pos hid⟩, hid, Option.some_ne_none _⟩
  split
  · exact ⟨rfl, fun _ => Option.some_ne_none _⟩
  · exact ⟨rfl, id⟩

theorem stamped_revoke {reason : String} (hok : revoke rows i by_ reason now = .ok rows') : StampedAt rows rows' i := by
  obtain ⟨row, hrow, rfl, rfl⟩ := revoke_ok hok
  refine ⟨Stamped.map fun r _ => ⟨(sameMapping_revoked r).id, fun hby => ?_⟩, _, List.mem_map_of_mem hrow,
    (sameMapping_revoked row).id, ?_⟩
  · rcases revoked_cases row now by_ reason r with ⟨-, heq⟩ | ⟨-, -, heq⟩ | ⟨-, -, heq⟩
    · exact heq ▸ Option.some_ne_none _
    · rw [heq]
      exact hby
    · rw [heq]
      exact hby
  · rcases revoked_cases row now by_ reason row with ⟨-, heq⟩ | ⟨hne, -⟩ | ⟨hne, -⟩
    · exact heq ▸ Option.some_ne_none _
    · exact absurd rfl hne
    · exact absurd rfl hne

theorem stamped_all {β : Type} {decide : Mappings → β → Except ReviewError Mappings} {target : β → Nat}
    (hone : ∀ rows b rows', decide rows b = .ok rows' → StampedAt rows rows' (target b)) {bs : List β}
    (hok : bs.foldlM decide rows = .ok rows') : Stamped rows rows' ∧ ∀ b ∈ bs, StampedAt rows rows' (target b) := by
  induction bs generalizing rows with
  | nil =>
    obtain rfl := Except.ok.inj hok
    exact ⟨.refl rows, fun _ hmem => by cases hmem⟩
  | cons b bs ih =>
    obtain ⟨next, hnext, hrest⟩ := foldlM_cons_eq_ok.mp hok
    obtain ⟨hstamped, r, hr, hid, hby⟩ := hone rows b next hnext
    obtain ⟨hrest, hlater⟩ := ih hrest
    refine ⟨hstamped.trans hrest, List.forall_mem_cons.mpr ⟨⟨hstamped.trans hrest, ?_⟩, fun b' hb' =>
      ⟨hstamped.trans hrest, (hlater b' hb').2⟩⟩⟩
    obtain ⟨r', hr', hsame, hkept⟩ := (exists_of_forall₂ hrest).1 r hr
    exact ⟨r', hr', hsame.trans hid, hkept hby⟩

theorem stamped_bulkApprove {is : List Nat} {reason : Option String} {minConfidence : ℚ}
    (hok : bulkApprove rows is by_ reason minConfidence now = .ok rows') :
    Stamped rows rows' ∧ ∀ i ∈ is, StampedAt rows rows' i := by
  obtain ⟨selected, rfl, hfold⟩ := bulkApprove_ok hok
  simpa only [List.forall_mem_map] using stamped_all (fun _ _ _ hone => stamped_approve hone) hfold

theorem stamped_bulkReject {is : List Nat} {reason : String} (hok : bulkReject rows is by_ reason now = .ok rows') :
    Stamped rows rows' ∧ ∀ i ∈ is, StampedAt rows rows' i :=
  stamped_all (fun _ _ _ hone => stamped_reject hone) hok

theorem stamped_apply (int : String → Option Int) (rows : Mappings) (op : Op) :
    Stamped rows (apply int rows op) ∧ ∀ i, Decides rows i op → StampedAt rows (apply int rows op) i := by
  have hrefl := Stamped.refl rows
  cases op with
  | approve j by_ reason now =>
    refine ⟨of_toOption_getD hrefl fun _ hok => (stamped_approve hok).1, ?_⟩
    rintro i ⟨rfl, rows', hok⟩
    rw [apply, hok]
    exact stamped_approve hok
  | reject j by_ reason now =>
    refine ⟨of_toOption_getD hrefl fun _ hok => (stamped_reject hok).1, ?_⟩
    rintro i ⟨rfl, rows', hok⟩
    rw [apply, hok]
    exact stamped_reject hok
  | revoke j by_ reason now =>
    refine ⟨of_toOption_getD hrefl fun _ hok => (stamped_revoke hok).1, ?_⟩
    rintro i ⟨rfl, rows', hok⟩
    rw [apply, hok]
    exact stamped_revoke hok
  | bulkApprove is by_ reason minConfidence now =>
    refine ⟨of_toOption_getD hrefl fun _ hok => (stamped_bulkApprove hok).1, ?_⟩
    rintro i ⟨hi, rows', hok⟩
    rw [apply, hok]
    exact (stamped_bulkApprove hok).2 i hi
  | bulkReject is by_ reason now =>
    refine ⟨of_toOption_getD hrefl fun _ hok => (stamped_bulkReject hok).1, ?_⟩
    rintro i ⟨hi, rows', hok⟩
    rw [apply, hok]
    exact (stamped_bulkReject hok).2 i hi
  | tagConflicts =>
    refine ⟨Stamped.map fun r _ => ?_, fun i hi => hi.elim⟩
    split
    · exact ⟨rfl, id⟩
    · exact ⟨rfl, id⟩
  | consolidateDuplicates now =>
    refine ⟨Stamped.map fun r _ => ?_, fun i hi => hi.elim⟩
    split
    · split
      · exact ⟨rfl, id⟩
      · exact ⟨rfl, id⟩
    · exact ⟨rfl, id⟩
  | supersedeV1Candidates providerCode currentVersion now =>
    refine ⟨Stamped.map fun r _ => ?_, fun i hi => hi.elim⟩
    split
    · exact ⟨rfl, id⟩
    · exact ⟨rfl, id⟩

end Reviews

/-! ### Runs of both -/

section Runs
variable {dictionary : IngredientDictionary} {int : String → Option Int} {start rows : Mappings} {events : List Event}

/-- The ids are unique, and a row that a human has reviewed is there and names the reviewer. -/
structure Attributed (dictionary : IngredientDictionary) (int : String → Option Int) (start : Mappings) (pre : List Event)
    (rows : Mappings) : Prop where
  ids : (rows.map (·.id)).Nodup
  reviewed : ∀ i, HumanReviewed dictionary int start pre i → ∃ r ∈ rows, r.id = i ∧ r.reviewedBy ≠ none

theorem Attributed.nil (hids : (start.map (·.id)).Nodup) : Attributed dictionary int start [] start := by
  refine ⟨hids, fun i hi => ?_⟩
  rcases hi with hbefore | ⟨earlier, op, hprefix, -⟩
  · exact hbefore
  · exact absurd (List.prefix_nil.mp hprefix) (by simp)

theorem humanReviewed_snoc {pre : List Event} {event : Event} {i : Nat}
    (h : HumanReviewed dictionary int start (pre ++ [event]) i) :
    HumanReviewed dictionary int start pre i ∨
      ∃ op, event = .review op ∧ Decides (pre.foldl (step dictionary int) start) i op := by
  rcases h with hbefore | ⟨earlier, op, hprefix, hdecides⟩
  · exact Or.inl (Or.inl hbefore)
  · rcases List.prefix_concat_iff.mp hprefix with heq | hshort
    · obtain ⟨rfl, hlast⟩ := List.append_inj' heq rfl
      exact Or.inr ⟨op, (List.singleton_inj.mp hlast).symm, hdecides⟩
    · exact Or.inl (Or.inr ⟨earlier, op, hshort, hdecides⟩)

theorem Attributed.snoc {pre : List Event} {event : Event}
    (h : Attributed dictionary int start pre (pre.foldl (step dictionary int) start))
    (hadmits : AdmitsAll dictionary (pre.foldl (step dictionary int) start) event) :
    Attributed dictionary int start (pre ++ [event]) (step dictionary int (pre.foldl (step dictionary int) start) event) := by
  cases event with
  | review op =>
    obtain ⟨hstamped, hdecided⟩ := stamped_apply int (pre.foldl (step dictionary int) start) op
    refine ⟨hstamped.ids ▸ h.ids, fun i hi => ?_⟩
    rcases humanReviewed_snoc hi with hi | ⟨op', hop, hdecides⟩
    · obtain ⟨r, hr, rfl, hby⟩ := h.reviewed i hi
      obtain ⟨r', hr', hsame, hkept⟩ := (exists_of_forall₂ hstamped).1 r hr
      exact ⟨r', hr', hsame, hkept hby⟩
    · obtain rfl : op = op' := Event.review.inj hop
      exact (hdecided i hdecides).2
  | discover call =>
    have hprogress := (discover_progress int h.ids hadmits).2
    refine ⟨hprogress.ids, fun i hi => ?_⟩
    rcases humanReviewed_snoc hi with hi | ⟨op', hop, -⟩
    · obtain ⟨r, hr, rfl, hby⟩ := h.reviewed i hi
      obtain ⟨r', hr', hsame, -, hkept, -⟩ := hprogress.kept r hr
      exact ⟨r', hr', hsame, (hkept hby).reviewedBy ▸ hby⟩
    · cases hop

theorem attributed (hids : (start.map (·.id)).Nodup) (hadmits : Along (step dictionary int) (AdmitsAll dictionary) start events)
    {pre : List Event} (hpre : pre <+: events) :
    Attributed dictionary int start pre (pre.foldl (step dictionary int) start) := by
  induction pre using List.reverseRecOn with
  | nil => exact .nil hids
  | append_singleton pre event ih =>
    rw [List.foldl_append]
    exact (ih ((List.prefix_append _ _).trans hpre)).snoc (along_iff.mp hadmits pre event hpre)

/-- In a run whose discoveries only write what they may, every decision stands. -/
theorem keepsDecisions (hids : (start.map (·.id)).Nodup)
    (hadmits : Along (step dictionary int) (AdmitsAll dictionary) start events) :
    KeepsDecisions dictionary int start events := by
  have hat : ∀ pre call, pre ++ [Event.discover call] <+: events →
      Attributed dictionary int start pre (pre.foldl (step dictionary int) start) ∧
        AdmitsAll dictionary (pre.foldl (step dictionary int) start) (.discover call) := fun pre call hpre =>
    ⟨attributed hids hadmits ((List.prefix_append _ _).trans hpre), along_iff.mp hadmits pre _ hpre⟩
  refine ⟨fun pre call hpre => ?_, fun pre call hpre i hi r hr hid => ?_, fun pre call hpre r hr hstatus hinactive r' hr' hid => ?_⟩
  · obtain ⟨hbefore, hmay⟩ := hat pre call hpre
    exact (discover_progress int hbefore.ids hmay).1
  · obtain ⟨hbefore, hmay⟩ := hat pre call hpre
    have hprogress := (discover_progress int hbefore.ids hmay).2
    obtain ⟨reviewed, hmem, hsame, hby⟩ := hbefore.reviewed i hi
    obtain rfl : reviewed = r := List.inj_on_of_nodup_map hbefore.ids hmem hr (hsame.trans hid.symm)
    obtain ⟨r', hr', hkeeps, -, hdecision, -⟩ := hprogress.kept reviewed hr
    rw [List.foldl_append]
    exact ⟨r', hr', hkeeps.trans hid, hdecision hby⟩
  · obtain ⟨hbefore, hmay⟩ := hat pre call hpre
    have hprogress := (discover_progress int hbefore.ids hmay).2
    rw [List.foldl_append] at hr'
    obtain ⟨kept, hkept, hkeeps, -, -, hout⟩ := hprogress.kept r hr
    obtain rfl : kept = r' := List.inj_on_of_nodup_map hprogress.ids hkept hr' (hkeeps.trans hid.symm)
    exact hout hstatus hinactive

end Runs

/-! ### A rejected milk -/

/-- The dictionary finds every product to be the ingredient, by its name. -/
def exactDictionary : IngredientDictionary where
  knows _ := true
  classify _ _ :=
    { lexicalScore := 1
      categoryScore := 1
      confidence := 19 / 20
      mappingStatus := .autoApproved
      mappingMethod := "exact_alias"
      requiredReview := false }

def milkRow : ProviderIngredientMapping where
  id := 1
  ingredientId := 10
  providerCode := "mercadona"
  externalProductId := "4241"
  mappingMethod := "exact_alias"
  confidenceScore := 19 / 20

def milkCall (externalProductId : String) (approvalMode : ApprovalMode) : DiscoverCall where
  providerCode := "mercadona"
  retailerSlug := "mercadona"
  retailerId := some 1
  ingredientKeys := ["leche"]
  ingredientIds := Dict.empty.set "leche" 10
  products := [({ externalProductId := externalProductId, productName := "Leche entera 1 l" }, 7)]
  approvalMode := approvalMode
  now := 5

/-- A review of one milk, and a discovery of another. -/
def otherMilk : List Event := [.review (.reject 1 7 "wrong fat" 0), .discover (milkCall "4242" .deterministicAutoapproval)]

theorem keepsDecisions_otherMilk : KeepsDecisions exactDictionary (fun _ => none) [milkRow] otherMilk := by
  refine keepsDecisions (by decide) ⟨trivial, fun m hm => ?_, trivial⟩
  have hproduct : ∀ m ∈ matchesOf exactDictionary (milkCall "4242" .deterministicAutoapproval),
      m.product.externalProductId = "4242" := by decide +kernel
  have hnone : ∀ r ∈ step exactDictionary (fun _ => none) [milkRow] (.review (.reject 1 7 "wrong fat" 0)),
      r.externalProductId = "4241" := by decide +kernel
  have hfor : ∀ r ∈ step exactDictionary (fun _ => none) [milkRow] (.review (.reject 1 7 "wrong fat" 0)),
      ¬isFor (milkCall "4242" .deterministicAutoapproval) m r = true := by
    intro r hr hfor
    simp only [isFor, Bool.and_eq_true, decide_eq_true_eq, hnone r hr, hproduct m hm] at hfor
    exact absurd hfor.2 (by decide)
  refine ⟨?_, fun r hr h => absurd h (hfor r hr), fun r hr h => absurd h (hfor r hr)⟩
  rw [List.countP_eq_zero.mpr hfor]
  exact Nat.zero_le _

/-- A rejected mapping is found again, approved and used. -/
theorem not_keepsDecisions_sameMilk : ¬∀ (dictionary : IngredientDictionary) (int : String → Option Int)
    (start : Mappings) (events : List Event), (start.map (·.id)).Nodup → KeepsDecisions dictionary int start events := by
  intro h
  have hrejected := (h exactDictionary (fun _ => none) [milkRow]
    [.review (.reject 1 7 "wrong fat" 0), .discover (milkCall "4241" .deterministicAutoapproval)] (by decide)).rejected
      [.review (.reject 1 7 "wrong fat" 0)] (milkCall "4241" .deterministicAutoapproval) (List.prefix_refl _)
  revert hrejected
  decide +kernel

end CestaPlan.Mapping
