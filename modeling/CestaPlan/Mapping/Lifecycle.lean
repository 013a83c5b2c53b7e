import CestaPlan.Mapping.Review

/-! What a review keeps of the mappings: one approved mapping a product, nothing superseded in use, and a winner behind
    every competitor that was turned down.

    A revocation reopens the competitors of its mapping, a rejection and a consolidation do not; and an approval does
    not look at whether its mapping is superseded. -/

namespace CestaPlan.Mapping
open Updates Runs
open ProviderIngredientMapping (betterThan)

structure Coherent (rows : Mappings) : Prop where
  oneApproved : ∀ a ∈ rows, ∀ b ∈ rows, a.isSelectableForCosting = true → b.isSelectableForCosting = true →
    a.product = b.product → a.id = b.id
  superseded : ∀ r ∈ rows, r.supersededAt ≠ none → r.active = false
  competitors : ∀ r ∈ rows, r.relationStatus = .rejectedCompetitor →
    ∃ w ∈ rows, r.resolvedByMappingId = some w.id ∧ w.product = r.product ∧ w.isSelectableForCosting = true

/-- The step neither uses a superseded mapping nor takes its winner from a competitor. -/
def Safe (rows : Mappings) : Op → Prop
  | .approve i _ _ _ => ∀ r ∈ rows, r.id = i → r.supersededAt = none
  | .bulkApprove is _ _ _ _ => ∀ r ∈ rows, r.id ∈ is → r.supersededAt = none
  | .reject i _ _ _ => ∀ r ∈ rows, ¬r.LostTo i
  | .bulkReject is _ _ _ => ∀ i ∈ is, ∀ r ∈ rows, ¬r.LostTo i
  | .revoke i _ _ _ => ∀ r ∈ rows, r.id = i → r.conflictGroupId = none → ∀ c ∈ rows, c.id ≠ i → ¬c.LostTo i
  | .consolidateDuplicates _ => ∀ w ∈ rows, w.supersededAt = none → ∀ c ∈ rows, c.LostTo w.id →
      ∀ d ∈ rows, d.supersededAt = none → d.exactKey = w.exactKey → betterThan w d
  | .tagConflicts => True
  | .supersedeV1Candidates _ _ _ => True

section Rows
variable {rows rows' : Mappings} {f : ProviderIngredientMapping → ProviderIngredientMapping}
  {r row : ProviderIngredientMapping} {i : Nat} {now : Instant}

/-- The row is still of its product, under its number. -/
structure SameMapping (r r' : ProviderIngredientMapping) : Prop where
  id : r'.id = r.id
  product : r'.product = r.product

theorem SameMapping.refl (r : ProviderIngredientMapping) : SameMapping r r := ⟨rfl, rfl⟩

theorem SameMapping.ite {p : Prop} [Decidable p] {r' : ProviderIngredientMapping} (h : SameMapping r r') :
    SameMapping r (if p then r' else r) := by
  split
  · exact h
  · exact .refl r

theorem active_of_selectable (h : r.isSelectableForCosting = true) : r.active = true :=
  (Bool.and_eq_true_iff.mp h).1

theorem not_selectable_of_inactive (h : r.active = false) : r.isSelectableForCosting = false := by
  rw [ProviderIngredientMapping.isSelectableForCosting, h, Bool.false_and]

/-- A change that approves nothing and turns down nobody keeps the rows coherent where it leaves the winners of the
    competitors that remain. -/
theorem Coherent.map (h : Coherent rows) (hsame : ∀ r, SameMapping r (f r))
    (happ : ∀ r ∈ rows, (f r).isSelectableForCosting = true → r.isSelectableForCosting = true)
    (hsup : ∀ r ∈ rows, (f r).supersededAt ≠ none → (f r).active = false)
    (hcomp : ∀ r ∈ rows, (f r).relationStatus = .rejectedCompetitor → r.relationStatus = .rejectedCompetitor ∧
      (f r).resolvedByMappingId = r.resolvedByMappingId ∧
      ∀ w ∈ rows, r.LostTo w.id → w.isSelectableForCosting = true → (f w).isSelectableForCosting = true) :
    Coherent (rows.map f) := by
  refine ⟨?_, ?_, ?_⟩
  · simp only [List.forall_mem_map]
    intro a ha b hb hca hcb hp
    rw [(hsame a).product, (hsame b).product] at hp
    rw [(hsame a).id, (hsame b).id]
    exact h.oneApproved a ha b hb (happ a ha hca) (happ b hb hcb) hp
  · simpa only [List.forall_mem_map] using hsup
  · simp only [List.forall_mem_map]
    intro c hc hrel
    obtain ⟨hrel', hres, hkeep⟩ := hcomp c hc hrel
    obtain ⟨w, hw, hwid, hprod, hcosts⟩ := h.competitors c hc hrel'
    refine ⟨f w, List.mem_map_of_mem hw, ?_, ?_, hkeep w hw ⟨hrel', hwid⟩ hcosts⟩
    · rw [hres, hwid, (hsame w).id]
    · rw [(hsame w).product, (hsame c).product, hprod]

/-! ### Maintenance -/

theorem Coherent.tagConflicts (h : Coherent rows) : Coherent (tagConflicts rows) := by
  have hsel : ∀ (p : Bool) (r : ProviderIngredientMapping),
      (if p then r.tag else r).isSelectableForCosting = r.isSelectableForCosting := by
    intro p r
    cases p <;> rfl
  refine h.map (fun r => .ite ⟨rfl, rfl⟩) (fun r _ => ?_) (fun r hr => ?_) fun r hr hrel => ?_
  · rw [hsel]
    exact id
  · split
    · exact h.superseded r hr
    · exact h.superseded r hr
  · have hrel' : r.relationStatus = .rejectedCompetitor ∧
        (if (r.supersededAt.isNone && contested rows r) = true then r.tag else r).resolvedByMappingId =
          r.resolvedByMappingId := by
      split at hrel
      · unfold ProviderIngredientMapping.tag at hrel ⊢
        grind
      · exact ⟨hrel, by split <;> rfl⟩
    exact ⟨hrel'.1, hrel'.2, fun w _ _ hw => by rwa [hsel]⟩

theorem Coherent.supersedeV1Candidates {int : String → Option Int} {providerCode : Option String}
    {currentVersion : String} (h : Coherent rows) :
    Coherent (supersedeV1Candidates int rows providerCode currentVersion now) := by
  refine h.map (fun r => .ite ⟨rfl, rfl⟩) (fun r _ hsel => ?_) (fun r hr hsup => ?_) fun r hr hrel => ⟨?_, ?_, ?_⟩
  · split at hsel
    · exact absurd (active_of_selectable hsel) Bool.false_ne_true
    · exact hsel
  · split
    · rfl
    · next hif =>
      rw [if_neg hif] at hsup
      exact h.superseded r hr hsup
  · split at hrel
    · exact hrel
    · exact hrel
  · split <;> rfl
  -- A winner is approved, so it is no candidate.
  · intro w _ _ hw
    rw [if_neg fun hif => ?_]
    · exact hw
    · have hcand : w.mappingStatus = .candidate := by grind
      have happ : w.approved = true := (Bool.and_eq_true_iff.mp hw).2
      simp [ProviderIngredientMapping.approved, hcand] at happ

instance : Std.Total betterThan where
  total a b := by
    unfold betterThan
    rcases lt_trichotomy a.confidenceScore b.confidenceScore with h | h | h
    · exact Or.inr (Or.inl h)
    · have hid := le_total a.id b.id
      cases ha : a.active <;> cases hb : b.active <;> simp [h, hid]
    · exact Or.inl (Or.inl h)

instance : IsTrans ProviderIngredientMapping betterThan where
  trans a b c := by
    unfold betterThan
    grind

theorem betterThan_antisymm {a b : ProviderIngredientMapping} (hab : betterThan a b) (hba : betterThan b a) :
    a.id = b.id := by
  unfold betterThan at hab hba
  grind

theorem exactWinner_of_best (hr : r ∈ rows) (hlive : r.supersededAt = none)
    (hbest : ∀ d ∈ rows, d.supersededAt = none → d.exactKey = r.exactKey → betterThan r d) :
    ∃ w, exactWinner rows r = some w ∧ r.id = w.id := by
  have hmem : r ∈ rows.filter fun m => m.supersededAt.isNone && m.exactKey = r.exactKey :=
    List.mem_filter.mpr ⟨hr, by simp [hlive]⟩
  obtain ⟨w, hw, hfirst⟩ := Selection.first_precedes (r := betterThan) hmem
  refine ⟨w, hw, ?_⟩
  rcases hfirst with rfl | hbetter
  · rfl
  · obtain ⟨hwr, hwp⟩ := List.mem_filter.mp (Selection.first_mem hw)
    simp only [Bool.and_eq_true, Option.isNone_iff_eq_none, decide_eq_true_eq] at hwp
    exact betterThan_antisymm (hbest w hwr hwp.1 hwp.2) hbetter

/-- The row after `consolidate_duplicates`. -/
def consolidated (rows : Mappings) (now : Instant) (m : ProviderIngredientMapping) : ProviderIngredientMapping :=
  match exactWinner rows m with
  | some winner => if m.supersededAt.isNone && m.id ≠ winner.id then m.duplicateOf winner.id now else m
  | none => m

variable (rows) (now) in
theorem consolidated_cases (m : ProviderIngredientMapping) :
    consolidated rows now m = m ∨ ∃ k, consolidated rows now m = m.duplicateOf k now := by
  unfold consolidated
  split
  · split
    · exact Or.inr ⟨_, rfl⟩
    · exact Or.inl rfl
  · exact Or.inl rfl

theorem sameMapping_consolidated (m : ProviderIngredientMapping) : SameMapping m (consolidated rows now m) := by
  rcases consolidated_cases rows now m with heq | ⟨k, heq⟩
  · rw [heq]
    exact .refl m
  · rw [heq]
    exact ⟨rfl, rfl⟩

theorem Coherent.consolidateDuplicates (h : Coherent rows) (hsafe : Safe rows (.consolidateDuplicates now)) :
    Coherent (consolidateDuplicates rows now) := by
  show Coherent (rows.map (consolidated rows now))
  refine h.map sameMapping_consolidated (fun r _ hsel => ?_) (fun r hr hsup => ?_) fun r hr hrel => ?_
  · rcases consolidated_cases rows now r with heq | ⟨k, heq⟩
    · rwa [heq] at hsel
    · rw [heq] at hsel
      exact absurd (active_of_selectable hsel) Bool.false_ne_true
  · rcases consolidated_cases rows now r with heq | ⟨k, heq⟩
    · rw [heq] at hsup ⊢
      exact h.superseded r hr hsup
    · rw [heq]
      rfl
  · rcases consolidated_cases rows now r with heq | ⟨k, heq⟩
    · rw [heq] at hrel ⊢
      refine ⟨hrel, rfl, fun w hw hlost hsel => ?_⟩
      have hlive : w.supersededAt = none := by
        by_contra hsup
        rw [not_selectable_of_inactive (h.superseded w hw hsup)] at hsel
        cases hsel
      obtain ⟨x, hx, hid⟩ := exactWinner_of_best hw hlive (hsafe w hw hlive r hr hlost)
      rw [consolidated, hx]
      simpa [hid] using hsel
    · rw [heq] at hrel
      cases hrel

/-! ### Decisions -/

theorem get_eq_ok_iff : get rows i = .ok row ↔ row? (·.id) rows i = some row := by
  unfold get
  cases row? (·.id) rows i with
  | none => simp
  | some x => simp

theorem get_ok (h : get rows i = .ok row) : row ∈ rows ∧ row.id = i :=
  ⟨mem_of_row? (get_eq_ok_iff.mp h), key_of_row? (get_eq_ok_iff.mp h)⟩

theorem reject_ok {by_ : Int} {reason : String} (h : reject rows i by_ reason now = .ok rows') :
    rows' = updateAt (·.id) i (·.reject by_ reason now) rows := by
  unfold reject at h
  split at h
  · cases h
  · obtain ⟨row, hrow, hrest⟩ := bind_eq_ok.mp h
    obtain rfl := Except.ok.inj hrest
    rw [(get_ok hrow).2]

theorem Coherent.reject {by_ : Int} {reason : String} (h : Coherent rows) (hsafe : ∀ r ∈ rows, ¬r.LostTo i)
    (hok : reject rows i by_ reason now = .ok rows') : Coherent rows' := by
  obtain rfl := reject_ok hok
  refine h.map (fun r => .ite ⟨rfl, rfl⟩) (fun r _ hsel => ?_) (fun r hr hsup => ?_) fun r hr hrel => ⟨?_, ?_, ?_⟩
  · split at hsel
    · exact absurd (active_of_selectable hsel) Bool.false_ne_true
    · exact hsel
  · split
    · rfl
    · next hif =>
      rw [if_neg hif] at hsup
      exact h.superseded r hr hsup
  · split at hrel
    · exact hrel
    · exact hrel
  · split <;> rfl
  · intro w _ hlost hw
    have hne : ¬w.id = i := fun hid => hsafe r hr (hid ▸ hlost)
    rwa [if_neg hne]

theorem lostTo_reject {by_ : Int} {reason : String} {j : Nat} (hok : reject rows i by_ reason now = .ok rows')
    (h : ∀ r ∈ rows, ¬r.LostTo j) : ∀ r ∈ rows', ¬r.LostTo j := by
  obtain rfl := reject_ok hok
  simp only [updateAt, List.forall_mem_map]
  intro r hr hlost
  refine h r hr ?_
  split at hlost
  · exact hlost
  · exact hlost

theorem Coherent.bulkReject {is : List Nat} {by_ : Int} {reason : String} (h : Coherent rows)
    (hsafe : ∀ i ∈ is, ∀ r ∈ rows, ¬r.LostTo i) (hok : bulkReject rows is by_ reason now = .ok rows') :
    Coherent rows' := by
  induction is generalizing rows with
  | nil =>
    obtain rfl := Except.ok.inj hok
    exact h
  | cons i is ih =>
    obtain ⟨mid, hstep, hrest⟩ := foldlM_cons_eq_ok.mp hok
    exact ih (h.reject (hsafe i List.mem_cons_self) hstep)
      (fun j hj => lostTo_reject hstep (hsafe j (List.mem_cons_of_mem _ hj))) hrest

/-- The approval of `row` turns the mapping down. -/
def TurnedDown (row m : ProviderIngredientMapping) : Prop :=
  row.conflictGroupId ≠ none ∧ m.product = row.product ∧ m.supersededAt = none ∧ m.mappingStatus ≠ .rejected ∧
    m.mappingStatus ≠ .incompatible

instance (row m : ProviderIngredientMapping) : Decidable (TurnedDown row m) := inferInstanceAs (Decidable (_ ∧ _))

/-- The mapping after the approval of `row`. -/
def decided (row : ProviderIngredientMapping) (by_ : Int) (reason : Option String) (now : Instant)
    (m : ProviderIngredientMapping) : ProviderIngredientMapping :=
  if m.id = row.id then m.approve by_ reason now else if TurnedDown row m then m.lose row.id now else m

/-- What an approval of `row` makes of each mapping. -/
inductive Decided (row : ProviderIngredientMapping) (by_ : Int) (reason : Option String) (now : Instant)
    (m m' : ProviderIngredientMapping) : Prop where
  | chosen (hid : m.id = row.id) (heq : m' = m.approve by_ reason now)
  | lost (hid : m.id ≠ row.id) (hprod : m.product = row.product) (hlive : m.supersededAt = none)
      (heq : m' = m.lose row.id now)
  | kept (hid : m.id ≠ row.id) (heq : m' = m)

section Approve
variable {by_ : Int} {reason : Option String}

theorem approve_rows (h : approve rows i by_ reason now = .ok rows') : ∃ row, row? (·.id) rows i = some row ∧
    (∀ o ∈ rows, o.product = row.product → o.isSelectableForCosting = true → o.id = row.id) ∧
      rows' = rows.map (decided row by_ reason now) := by
  unfold approve at h
  obtain ⟨row, hrow, hrest⟩ := bind_eq_ok.mp h
  split at hrest
  · cases hrest
  next hother =>
  obtain rfl := Except.ok.inj hrest
  refine ⟨row, get_eq_ok_iff.mp hrow, fun o ho hprod hsel => ?_, ?_⟩
  · by_contra hne
    exact List.find?_eq_none.mp hother o ho (by simp [hprod, hne, hsel])
  · unfold resolveCompetitors updateAt
    split
    · next hgroup =>
      have hnone : row.conflictGroupId = none := Option.isNone_iff_eq_none.mp hgroup
      refine List.map_congr_left fun m _ => ?_
      simp [decided, TurnedDown, hnone]
    · next hgroup =>
      have hsome : row.conflictGroupId ≠ none := fun hnone => hgroup (hnone ▸ rfl)
      rw [List.map_map]
      refine List.map_congr_left fun m _ => ?_
      by_cases hm : m.id = row.id
      · simp [decided, hm, ProviderIngredientMapping.approve]
      · simp [decided, TurnedDown, hm, hsome, and_assoc, ProviderIngredientMapping.approve, ProviderIngredientMapping.product]

variable (row) (now) (by_) (reason) in
theorem decided_cases (m : ProviderIngredientMapping) : Decided row by_ reason now m (decided row by_ reason now m) := by
  unfold decided
  split
  · next hm => exact .chosen hm rfl
  · next hm =>
    split
    · next hdown => exact .lost hm hdown.2.1 hdown.2.2.1 rfl
    · exact .kept hm rfl

theorem approve_ok (h : approve rows i by_ reason now = .ok rows') :
    ∃ row ∈ rows, row.id = i ∧
      (∀ o ∈ rows, o.product = row.product → o.isSelectableForCosting = true → o.id = row.id) ∧
      ∃ f, rows' = rows.map f ∧ ∀ m, Decided row by_ reason now m (f m) := by
  obtain ⟨row, hrow, hother, rfl⟩ := approve_rows h
  exact ⟨row, mem_of_row? hrow, key_of_row? hrow, hother, _, rfl, decided_cases row now by_ reason⟩

theorem Decided.sameMapping {m m' : ProviderIngredientMapping} (h : Decided row by_ reason now m m') :
    SameMapping m m' := by
  cases h with
  | chosen _ heq => exact heq ▸ ⟨rfl, rfl⟩
  | lost _ _ _ heq => exact heq ▸ ⟨rfl, rfl⟩
  | kept _ heq => exact heq ▸ .refl m

theorem Decided.supersededAt {m m' : ProviderIngredientMapping} (h : Decided row by_ reason now m m') :
    m'.supersededAt = m.supersededAt := by
  cases h with
  | chosen _ heq => exact heq ▸ rfl
  | lost _ _ _ heq => exact heq ▸ rfl
  | kept _ heq => exact heq ▸ rfl

theorem Decided.selectable_iff {m m' : ProviderIngredientMapping} (h : Decided row by_ reason now m m') :
    m'.isSelectableForCosting = true ↔ m.id = row.id ∨ (m' = m ∧ m.isSelectableForCosting = true) := by
  cases h with
  | chosen hid heq => exact iff_of_true (heq ▸ rfl) (Or.inl hid)
  | lost hid hprod hlive heq =>
    have hinactive : m'.isSelectableForCosting = false := not_selectable_of_inactive (heq ▸ rfl)
    refine ⟨fun hsel => ?_, ?_⟩
    · rw [hinactive] at hsel
      cases hsel
    · rintro (hm | ⟨rfl, hsel⟩)
      · exact absurd hm hid
      · exact hsel
  | kept hid heq => simp [hid, heq]

theorem Coherent.approve (h : Coherent rows) (hids : (rows.map (·.id)).Nodup)
    (hlive : ∀ r ∈ rows, r.id = i → r.supersededAt = none) (hok : approve rows i by_ reason now = .ok rows') :
    Coherent rows' := by
  obtain ⟨row, hrow, rfl, hother, f, rfl, hf⟩ := approve_ok hok
  -- Nothing else of the product is approved, neither before nor after.
  have hsole : ∀ a ∈ rows, (f a).isSelectableForCosting = true → a.product = row.product → a.id = row.id := by
    intro a ha hsel hprod
    rcases (hf a).selectable_iff.mp hsel with hid | ⟨-, hsel⟩
    · exact hid
    · exact hother a ha hprod hsel
  refine ⟨?_, ?_, ?_⟩
  · simp only [List.forall_mem_map]
    intro a ha b hb hsa hsb hp
    rw [(hf a).sameMapping.product, (hf b).sameMapping.product] at hp
    rw [(hf a).sameMapping.id, (hf b).sameMapping.id]
    rcases (hf a).selectable_iff.mp hsa with hida | ⟨-, hsela⟩
    · obtain rfl := List.inj_on_of_nodup_map hids ha hrow hida
      exact (hsole b hb hsb hp.symm).symm
    · rcases (hf b).selectable_iff.mp hsb with hidb | ⟨-, hselb⟩
      · obtain rfl := List.inj_on_of_nodup_map hids hb hrow hidb
        exact hsole a ha hsa hp
      · exact h.oneApproved a ha b hb hsela hselb hp
  · simp only [List.forall_mem_map]
    intro r hr hsup
    rw [(hf r).supersededAt] at hsup
    rcases hf r with ⟨hid, -⟩ | ⟨-, -, -, heq⟩ | ⟨-, heq⟩
    · exact absurd (hlive r hr hid) hsup
    · rw [heq]
      rfl
    · rw [heq]
      exact h.superseded r hr hsup
  · simp only [List.forall_mem_map]
    intro c hc hrel
    rcases hf c with ⟨-, heq⟩ | ⟨-, hprod, -, heq⟩ | ⟨-, heq⟩
    · rw [heq] at hrel
      unfold ProviderIngredientMapping.approve at hrel
      grind
    · refine ⟨f row, List.mem_map_of_mem hrow, ?_, ?_, (hf row).selectable_iff.mpr (Or.inl rfl)⟩
      · rw [heq, (hf row).sameMapping.id]
        rfl
      · rw [(hf row).sameMapping.product, (hf c).sameMapping.product, hprod]
    · rw [heq] at hrel ⊢
      obtain ⟨w, hw, hwid, hprod, hsel⟩ := h.competitors c hc hrel
      refine ⟨f w, List.mem_map_of_mem hw, ?_, ?_, ?_⟩
      · rw [(hf w).sameMapping.id, hwid]
      · rw [(hf w).sameMapping.product, hprod]
      · refine (hf w).selectable_iff.mpr ?_
        rcases hf w with ⟨hid, -⟩ | ⟨hid, hwp, -⟩ | ⟨-, heq⟩
        · exact Or.inl hid
        · exact absurd (hother w hw hwp hsel) hid
        · exact Or.inr ⟨heq, hsel⟩

theorem ids_approve (hok : approve rows i by_ reason now = .ok rows') : rows'.map (·.id) = rows.map (·.id) := by
  obtain ⟨row, -, -, -, f, rfl, hf⟩ := approve_ok hok
  rw [List.map_map]
  exact List.map_congr_left fun m _ => (hf m).sameMapping.id

theorem live_approve {j : Nat} (hok : approve rows i by_ reason now = .ok rows')
    (h : ∀ r ∈ rows, r.id = j → r.supersededAt = none) : ∀ r ∈ rows', r.id = j → r.supersededAt = none := by
  obtain ⟨row, -, -, -, f, rfl, hf⟩ := approve_ok hok
  simp only [List.forall_mem_map]
  intro r hr hid
  rw [(hf r).sameMapping.id] at hid
  rw [(hf r).supersededAt]
  exact h r hr hid

theorem Coherent.approveAll {selected : List ProviderIngredientMapping} (h : Coherent rows)
    (hids : (rows.map (·.id)).Nodup) (hlive : ∀ s ∈ selected, ∀ r ∈ rows, r.id = s.id → r.supersededAt = none)
    (hok : selected.foldlM (fun rows r => Mapping.approve rows r.id by_ reason now) rows = .ok rows') :
    Coherent rows' ∧ rows'.map (·.id) = rows.map (·.id) := by
  induction selected generalizing rows with
  | nil =>
    obtain rfl := Except.ok.inj hok
    exact ⟨h, rfl⟩
  | cons s selected ih =>
    obtain ⟨mid, hstep, hrest⟩ := foldlM_cons_eq_ok.mp hok
    have hmid := h.approve hids (hlive s List.mem_cons_self) hstep
    have hkept := ids_approve hstep
    obtain ⟨hcoh, hsame⟩ := ih hmid (hkept ▸ hids)
      (fun t ht => live_approve hstep (hlive t (List.mem_cons_of_mem _ ht))) hrest
    exact ⟨hcoh, hsame.trans hkept⟩

theorem bulkApprove_ok {is : List Nat} {minConfidence : ℚ}
    (h : bulkApprove rows is by_ reason minConfidence now = .ok rows') :
    ∃ selected : Mappings, selected.map (·.id) = is ∧
      selected.foldlM (fun rows r => Mapping.approve rows r.id by_ reason now) rows = .ok rows' := by
  unfold bulkApprove at h
  obtain ⟨selected, hsel, hrest⟩ := bind_eq_ok.mp h
  refine ⟨selected, ?_, ?_⟩
  · rw [map_eq_map_of_forall₂ (forall₂_of_mapM_eq_ok hsel) (p := id) fun i s hget => (get_ok hget).2, List.map_id]
  · by_cases hnil : selected = []
    · rw [if_pos hnil] at hrest
      cases hrest
    · rw [if_neg hnil] at hrest
      by_cases hone : 1 < (selected.map (·.ingredientId)).dedup.length
      · rw [if_pos hone] at hrest
        cases hrest
      · rw [if_neg hone] at hrest
        split at hrest
        · cases hrest
        · exact hrest

theorem Coherent.bulkApprove {is : List Nat} {minConfidence : ℚ} (h : Coherent rows) (hids : (rows.map (·.id)).Nodup)
    (hlive : ∀ r ∈ rows, r.id ∈ is → r.supersededAt = none)
    (hok : bulkApprove rows is by_ reason minConfidence now = .ok rows') :
    Coherent rows' ∧ rows'.map (·.id) = rows.map (·.id) := by
  obtain ⟨selected, hsel, hfold⟩ := bulkApprove_ok hok
  exact h.approveAll hids (fun s hs r hr hid => hlive r hr (hid ▸ hsel ▸ List.mem_map_of_mem hs)) hfold

end Approve

section Revoke
variable {by_ : Int} {reason : String}

/-- The row after the revocation of `row`. -/
def revoked (row : ProviderIngredientMapping) (by_ : Int) (reason : String) (now : Instant)
    (m : ProviderIngredientMapping) : ProviderIngredientMapping :=
  if m.id = row.id then m.revoke by_ reason now
  else if row.conflictGroupId ≠ none ∧ m.product = row.product ∧ m.LostTo row.id then m.reopen
  else m

theorem revoke_rows (h : revoke rows i by_ reason now = .ok rows') :
    ∃ row, row? (·.id) rows i = some row ∧ rows' = rows.map (revoked row by_ reason now) := by
  unfold revoke at h
  split at h
  · cases h
  obtain ⟨row, hrow, hrest⟩ := bind_eq_ok.mp h
  refine ⟨row, get_eq_ok_iff.mp hrow, ?_⟩
  split at hrest
  · next hgroup =>
    obtain rfl := Except.ok.inj hrest
    refine List.map_congr_left fun m _ => ?_
    simp [revoked, Option.isNone_iff_eq_none.mp hgroup]
  · next hgroup =>
    obtain rfl := Except.ok.inj hrest
    rw [updateAt, List.map_map]
    refine List.map_congr_left fun m _ => ?_
    by_cases hm : m.id = row.id
    · simp [revoked, hm, ProviderIngredientMapping.revoke]
    · have hgroup' : row.conflictGroupId ≠ none := fun hnone => hgroup (hnone ▸ rfl)
      simp [revoked, hm, hgroup', and_assoc]

theorem revoke_ok (h : revoke rows i by_ reason now = .ok rows') :
    ∃ row ∈ rows, row.id = i ∧ rows' = rows.map (revoked row by_ reason now) := by
  obtain ⟨row, hrow, rfl⟩ := revoke_rows h
  exact ⟨row, mem_of_row? hrow, key_of_row? hrow, rfl⟩

theorem not_selectable_of_candidate (h : r.mappingStatus = .candidate) : r.isSelectableForCosting = false := by
  simp [ProviderIngredientMapping.isSelectableForCosting, ProviderIngredientMapping.approved, h]

variable (row) (now) (by_) (reason) in
theorem revoked_cases (m : ProviderIngredientMapping) :
    (m.id = row.id ∧ revoked row by_ reason now m = m.revoke by_ reason now) ∨
      (m.id ≠ row.id ∧ m.LostTo row.id ∧ revoked row by_ reason now m = m.reopen) ∨
        (m.id ≠ row.id ∧ ¬(row.conflictGroupId ≠ none ∧ m.product = row.product ∧ m.LostTo row.id) ∧
          revoked row by_ reason now m = m) := by
  unfold revoked
  split
  · next hid => exact Or.inl ⟨hid, rfl⟩
  · next hid =>
    split
    · next hlost => exact Or.inr (Or.inl ⟨hid, hlost.2.2, rfl⟩)
    · next hlost => exact Or.inr (Or.inr ⟨hid, hlost, rfl⟩)

theorem sameMapping_revoked (m : ProviderIngredientMapping) : SameMapping m (revoked row by_ reason now m) := by
  rcases revoked_cases row now by_ reason m with
    ⟨-, heq⟩ | ⟨-, -, heq⟩ | ⟨-, -, heq⟩
  · rw [heq]
    exact ⟨rfl, rfl⟩
  · rw [heq]
    exact ⟨rfl, rfl⟩
  · rw [heq]
    exact .refl m

theorem Coherent.not_lost (h : Coherent rows) (hr : r ∈ rows) (hsel : r.isSelectableForCosting = true)
    (hlost : r.LostTo i) : r.id = i := by
  obtain ⟨w, hw, hwid, hprod, hwsel⟩ := h.competitors r hr hlost.1
  rw [hlost.2] at hwid
  rw [h.oneApproved r hr w hw hsel hwsel hprod.symm]
  exact (Option.some.inj hwid).symm

theorem Coherent.revoke (h : Coherent rows) (hids : (rows.map (·.id)).Nodup)
    (hsafe : ∀ r ∈ rows, r.id = i → r.conflictGroupId = none → ∀ c ∈ rows, c.id ≠ i → ¬c.LostTo i)
    (hok : revoke rows i by_ reason now = .ok rows') : Coherent rows' := by
  obtain ⟨row, hrow, rfl, rfl⟩ := revoke_ok hok
  refine h.map sameMapping_revoked (fun r _ hsel => ?_) (fun r hr hsup => ?_) fun c hc hrel => ?_
  · rcases revoked_cases row now by_ reason r with
      ⟨-, heq⟩ | ⟨-, -, heq⟩ | ⟨-, -, heq⟩
    · rw [heq, not_selectable_of_candidate rfl] at hsel
      cases hsel
    · rw [heq, not_selectable_of_candidate rfl] at hsel
      cases hsel
    · rwa [heq] at hsel
  · rcases revoked_cases row now by_ reason r with
      ⟨-, heq⟩ | ⟨-, -, heq⟩ | ⟨-, -, heq⟩
    · rw [heq]
      rfl
    · rw [heq] at hsup ⊢
      exact h.superseded r hr hsup
    · rw [heq] at hsup ⊢
      exact h.superseded r hr hsup
  · rcases revoked_cases row now by_ reason c with
      ⟨-, heq⟩ | ⟨-, -, heq⟩ | ⟨hcid, hstay, heq⟩
    · rw [heq] at hrel
      unfold ProviderIngredientMapping.revoke at hrel
      grind
    · rw [heq] at hrel
      cases hrel
    · rw [heq] at hrel ⊢
      refine ⟨hrel, rfl, fun w hw hlost hsel => ?_⟩
      -- The winner of a competitor that stays turned down is not the revoked mapping.
      have hne : w.id ≠ row.id := by
        intro hid
        rw [hid] at hlost
        by_cases hgroup : row.conflictGroupId = none
        · exact hsafe row hrow rfl hgroup c hc hcid hlost
        · obtain ⟨x, hx, hxid, hprod, -⟩ := h.competitors c hc hrel
          rw [hlost.2] at hxid
          obtain rfl := List.inj_on_of_nodup_map hids hx hrow (Option.some.inj hxid).symm
          exact hstay ⟨hgroup, hprod.symm, hlost⟩
      rcases revoked_cases row now by_ reason w with
        ⟨hid, -⟩ | ⟨-, hwlost, -⟩ | ⟨-, -, hweq⟩
      · exact absurd hid hne
      · exact absurd (h.not_lost hw hsel hwlost) hne
      · rwa [hweq]

end Revoke

/-! ### Runs -/

theorem ids_of_map (hsame : ∀ r, SameMapping r (f r)) : (rows.map f).map (·.id) = rows.map (·.id) := by
  rw [List.map_map]
  exact List.map_congr_left fun r _ => (hsame r).id

theorem ids_reject {by_ : Int} {reason : String} (hok : reject rows i by_ reason now = .ok rows') :
    rows'.map (·.id) = rows.map (·.id) := by
  obtain rfl := reject_ok hok
  exact ids_of_map fun r => .ite ⟨rfl, rfl⟩

variable (rows) in
theorem ids_tagConflicts : (tagConflicts rows).map (·.id) = rows.map (·.id) := by
  unfold tagConflicts
  exact ids_of_map fun r => .ite ⟨rfl, rfl⟩

variable (rows) (now) in
theorem ids_consolidateDuplicates : (consolidateDuplicates rows now).map (·.id) = rows.map (·.id) :=
  ids_of_map sameMapping_consolidated

variable (rows) in
theorem ids_supersedeV1Candidates {int : String → Option Int} {providerCode : Option String} {version : String} :
    (supersedeV1Candidates int rows providerCode version now).map (·.id) = rows.map (·.id) := by
  unfold supersedeV1Candidates
  exact ids_of_map fun r => .ite ⟨rfl, rfl⟩

theorem ids_revoke {by_ : Int} {reason : String} (hok : revoke rows i by_ reason now = .ok rows') :
    rows'.map (·.id) = rows.map (·.id) := by
  obtain ⟨row, -, -, rfl⟩ := revoke_ok hok
  exact ids_of_map sameMapping_revoked

theorem ids_bulkReject {is : List Nat} {by_ : Int} {reason : String}
    (hok : bulkReject rows is by_ reason now = .ok rows') : rows'.map (·.id) = rows.map (·.id) := by
  induction is generalizing rows with
  | nil =>
    obtain rfl := Except.ok.inj hok
    rfl
  | cons i is ih =>
    obtain ⟨mid, hstep, hrest⟩ := foldlM_cons_eq_ok.mp hok
    exact (ih hrest).trans (ids_reject hstep)

theorem of_toOption_getD {ε : Type} {P : Mappings → Prop} {x : Except ε Mappings} (h : P rows)
    (hok : ∀ rows', x = .ok rows' → P rows') : P (x.toOption.getD rows) := by
  cases x with
  | error e => exact h
  | ok rows' => exact hok rows' rfl

/-- The numbers of the mappings are unique and the mappings coherent. -/
structure Reviewed (rows : Mappings) : Prop where
  ids : (rows.map (·.id)).Nodup
  coherent : Coherent rows

theorem Reviewed.step {int : String → Option Int} {op : Op} (h : Reviewed rows) (hsafe : Safe rows op) :
    Reviewed (apply int rows op) := by
  cases op with
  | approve i by_ reason now =>
    exact of_toOption_getD h fun rows' hok => ⟨ids_approve hok ▸ h.ids, h.coherent.approve h.ids hsafe hok⟩
  | reject i by_ reason now =>
    exact of_toOption_getD h fun rows' hok => ⟨ids_reject hok ▸ h.ids, h.coherent.reject hsafe hok⟩
  | revoke i by_ reason now =>
    exact of_toOption_getD h fun rows' hok => ⟨ids_revoke hok ▸ h.ids, h.coherent.revoke h.ids hsafe hok⟩
  | bulkApprove is by_ reason minConfidence now =>
    refine of_toOption_getD h fun rows' hok => ?_
    obtain ⟨hcoh, hids⟩ := h.coherent.bulkApprove h.ids hsafe hok
    exact ⟨hids ▸ h.ids, hcoh⟩
  | bulkReject is by_ reason now =>
    exact of_toOption_getD h fun rows' hok => ⟨ids_bulkReject hok ▸ h.ids, h.coherent.bulkReject hsafe hok⟩
  | tagConflicts => exact ⟨ids_tagConflicts rows ▸ h.ids, h.coherent.tagConflicts⟩
  | consolidateDuplicates now =>
    exact ⟨ids_consolidateDuplicates rows _ ▸ h.ids, h.coherent.consolidateDuplicates hsafe⟩
  | supersedeV1Candidates providerCode currentVersion now =>
    exact ⟨ids_supersedeV1Candidates rows ▸ h.ids, h.coherent.supersedeV1Candidates⟩

/-- Rows that are coherent stay so in a run of safe steps. -/
theorem coherent_of_safe (int : String → Option Int) (rows : Mappings) (ops : List Op) (h : Reviewed rows)
    (hsafe : ∀ pre op, pre ++ [op] <+: ops → Safe (pre.foldl (apply int) rows) op) :
    ∀ pre, pre <+: ops → Coherent (pre.foldl (apply int) rows) := by
  intro pre hpre
  suffices hreviewed : Reviewed (pre.foldl (apply int) rows) from hreviewed.coherent
  induction pre using List.reverseRecOn with
  | nil => exact h
  | append_singleton pre op ih =>
    rw [List.foldl_append]
    exact (ih ((List.prefix_append pre [op]).trans hpre)).step (hsafe pre op hpre)

end Rows

/-- Two mappings of one product to different ingredients. -/
def milkOrCream : Mappings :=
  let milk : ProviderIngredientMapping :=
    { id := 1, ingredientId := 10, providerCode := "mercadona", externalProductId := "4241",
      mappingMethod := "exact_alias", confidenceScore := 1, relationStatus := .competing,
      conflictGroupId := some "mercadona:4241" }
  [milk, { milk with id := 2, ingredientId := 11 }]

theorem reviewed_milkOrCream : Reviewed milkOrCream := ⟨by decide, ⟨by decide, by decide, by decide⟩⟩

theorem coherent_of_safe_milkOrCream :
    Coherent ([Op.approve 1 7 none 0, Op.revoke 1 7 "wrong fat" 5].foldl (apply fun _ => none) milkOrCream) := by
  refine coherent_of_safe _ _ _ reviewed_milkOrCream ?_ _ (List.prefix_refl _)
  rw [forall_prefix_concat_cons, forall_prefix_concat_cons]
  refine ⟨?_, ?_, fun pre op hpre => ?_⟩
  · unfold Safe
    decide
  · unfold Safe
    decide
  · simp at hpre

/-- The rejection of an approved mapping leaves its competitor turned down for it. -/
theorem not_coherent_reject_winner : ¬∀ (int : String → Option Int) (rows : Mappings) (ops : List Op),
    Reviewed rows → Coherent (ops.foldl (apply int) rows) := by
  intro h
  obtain ⟨w, hw, hres, -, hsel⟩ := (h (fun _ => none) milkOrCream [.approve 1 7 none 0, .reject 1 7 "wrong fat" 5]
    reviewed_milkOrCream).competitors
      ((milkOrCream.get ⟨1, by decide⟩).lose 1 0) (by decide) rfl
  revert w
  decide

/-- A superseded mapping can be approved. -/
example : ((apply (fun _ => none) (milkOrCream.map (·.supersede 0)) (.approve 1 7 none 1)).map (·.active)) =
    [true, false] := by decide

end CestaPlan.Mapping

/-! An approval that is revoked at once: the approval turns the competitors down, and the revocation gives them constants and not what
    they had. -/

namespace CestaPlan.Mapping
open Updates

/-- What a decision on another mapping changes of a row. -/
structure Standing where
  mappingStatus : MappingStatus
  relationStatus : RelationStatus
  active : Bool
  requiredReview : Bool
  resolvedByMappingId : Option Nat
  conflictReason : Option String
  conflictResolvedAt : Option Instant
deriving DecidableEq

def ProviderIngredientMapping.standing (r : ProviderIngredientMapping) : Standing where
  mappingStatus := r.mappingStatus
  relationStatus := r.relationStatus
  active := r.active
  requiredReview := r.requiredReview
  resolvedByMappingId := r.resolvedByMappingId
  conflictReason := r.conflictReason
  conflictResolvedAt := r.conflictResolvedAt

/-- The other rows of the conflict group of a mapping. -/
def competitors (rows : Mappings) (mappingId : Nat) : Mappings :=
  rows.filter fun r => r.id ≠ mappingId && (row? (·.id) rows mappingId).any (r.conflictGroupId = ·.conflictGroupId)

def standings (rows : Mappings) : List (Nat × Standing) := rows.map fun r => (r.id, r.standing)

/-- How a row stands that lost to an approval of this instant, and was reopened. -/
def reopenedStanding (now : Instant) : Standing where
  mappingStatus := .candidate
  relationStatus := .competing
  active := false
  requiredReview := true
  resolvedByMappingId := none
  conflictReason := none
  conflictResolvedAt := some now

/-- A row that the approval turns down already stands as the revocation leaves it, with the very instant of the approval, and no other
    one has lost to the mapping before. -/
def Untouched (rows : Mappings) (mappingId : Nat) (now : Instant) : Prop :=
  ∀ winner ∈ row? (·.id) rows mappingId, ∀ r ∈ competitors rows mappingId,
    if TurnedDown winner r then r.standing = reopenedStanding now
    else winner.conflictGroupId ≠ none → r.product = winner.product → ¬r.LostTo mappingId

/-- The approval left no trace: the other rows of the group stand as they did. -/
def Restored (rows after : Mappings) (mappingId : Nat) : Prop :=
  standings (competitors after mappingId) = standings (competitors rows mappingId)

section Rows
variable {rows mid after : Mappings} {winner r : ProviderIngredientMapping} {i : Nat} {by_ by' : Int} {reason : Option String}
  {reason' : String} {now now' : Instant} {f : ProviderIngredientMapping → ProviderIngredientMapping}

/-- The row is still of its conflict group, under its number. -/
structure SameGroup (r r' : ProviderIngredientMapping) : Prop where
  id : r'.id = r.id
  product : r'.product = r.product
  conflictGroupId : r'.conflictGroupId = r.conflictGroupId

theorem sameGroup_decided (r : ProviderIngredientMapping) : SameGroup r (decided winner by_ reason now r) := by
  unfold decided
  split
  · exact ⟨rfl, rfl, rfl⟩
  · split <;> exact ⟨rfl, rfl, rfl⟩

theorem sameGroup_revoked (r : ProviderIngredientMapping) : SameGroup r (revoked winner by' reason' now' r) := by
  unfold revoked
  split
  · exact ⟨rfl, rfl, rfl⟩
  · split <;> exact ⟨rfl, rfl, rfl⟩

theorem SameGroup.trans {r' r'' : ProviderIngredientMapping} (h : SameGroup r r') (h' : SameGroup r' r'') : SameGroup r r'' :=
  ⟨h'.id.trans h.id, h'.product.trans h.product, h'.conflictGroupId.trans h.conflictGroupId⟩

theorem competitors_map (hf : ∀ r, SameGroup r (f r)) : competitors (rows.map f) i = (competitors rows i).map f := by
  unfold competitors
  rw [List.filter_map, row?_map fun r => (hf r).id]
  congr 1
  refine List.filter_congr fun r _ => ?_
  simp only [Function.comp_apply, (hf r).id, Option.any_map, (hf _).conflictGroupId]

theorem standing_undone_iff (hid : r.id ≠ winner.id) :
    (revoked (decided winner by_ reason now winner) by' reason' now' (decided winner by_ reason now r)).standing = r.standing ↔
      if TurnedDown winner r then r.standing = reopenedStanding now
      else winner.conflictGroupId ≠ none → r.product = winner.product → ¬r.LostTo winner.id := by
  have hwinner : SameGroup winner (decided winner by_ reason now winner) := sameGroup_decided winner
  have hr : SameGroup r (decided winner by_ reason now r) := sameGroup_decided r
  rw [revoked, hwinner.id, hwinner.product, hwinner.conflictGroupId, hr.id, hr.product, if_neg hid, decided, if_neg hid]
  by_cases hdown : TurnedDown winner r
  · rw [if_pos hdown, if_pos hdown, if_pos ⟨hdown.1, hdown.2.1, rfl, rfl⟩]
    exact eq_comm
  · rw [if_neg hdown, if_neg hdown]
    split
    · next hlost =>
      refine iff_of_false (fun heq => ?_) fun hnot => hnot hlost.1 hlost.2.1 hlost.2.2
      have hrelation : RelationStatus.competing = r.relationStatus := congrArg Standing.relationStatus heq
      rw [hlost.2.2.1] at hrelation
      cases hrelation
    · next hlost => exact iff_of_true rfl fun hgroup hprod hl => hlost ⟨hgroup, hprod, hl⟩

/-- A revoked approval leaves the competitors as they were exactly if they stood as a revocation leaves them. -/
theorem restored_iff (happrove : approve rows i by_ reason now = .ok mid) (hrevoke : revoke mid i by' reason' now' = .ok after) :
    Restored rows after i ↔ Untouched rows i now := by
  obtain ⟨winner, hwinner, -, rfl⟩ := approve_rows happrove
  obtain ⟨winner', hwinner', rfl⟩ := revoke_rows hrevoke
  rw [row?_map fun r => (sameGroup_decided r).id, hwinner] at hwinner'
  obtain rfl := Option.some.inj hwinner'
  have hid : winner.id = i := key_of_row? hwinner
  have hsame : ∀ r, SameGroup r ((revoked (decided winner by_ reason now winner) by' reason' now' ∘ decided winner by_ reason now) r) :=
    fun r => (sameGroup_decided r).trans (sameGroup_revoked _)
  rw [Restored, List.map_map, competitors_map hsame, standings, standings, List.map_map, List.map_inj_left, Untouched, hwinner]
  simp only [Option.mem_def, Option.some.injEq, forall_eq']
  refine forall₂_congr fun r hr => ?_
  have hne : r.id ≠ winner.id := by
    have hmem := (List.mem_filter.mp hr).2
    rw [hid]
    simp only [Bool.and_eq_true, decide_eq_true_eq] at hmem
    exact hmem.1
  rw [Function.comp_apply, Prod.mk.injEq, (hsame r).id, and_iff_right rfl, Function.comp_apply, standing_undone_iff hne, hid]

end Rows

/-- A competitor that was reopened at the very instant of the approval. -/
def reopenedOrCream : Mappings := milkOrCream.map fun r => if r.id = 2 then { r with conflictResolvedAt := some 0 } else r

theorem restored_reopenedOrCream : ∃ mid after, approve reopenedOrCream 1 7 none 0 = .ok mid ∧
    revoke mid 1 7 "wrong fat" 5 = .ok after ∧ Restored reopenedOrCream after 1 := by
  have hstood : Untouched reopenedOrCream 1 0 := by
    unfold Untouched
    decide
  exact ⟨_, _, rfl, rfl, (@restored_iff reopenedOrCream _ _ 1 7 7 none "wrong fat" 0 5 rfl rfl).mpr hstood⟩

/-- The competitor keeps the instant at which the conflict was resolved. -/
theorem not_restored_milkOrCream : ¬∀ (rows mid after : Mappings) (i : Nat) (by_ by' : Int) (reason : Option String) (reason' : String)
    (now now' : Instant), approve rows i by_ reason now = .ok mid → revoke mid i by' reason' now' = .ok after →
      Restored rows after i := by
  intro h
  have hrestored := h milkOrCream _ _ 1 7 7 none "wrong fat" 0 5 rfl rfl
  unfold Restored at hrestored
  revert hrestored
  decide

end CestaPlan.Mapping
