import CestaPlan.Library.Updates

/-! References of rows that are pointed elsewhere, with a log of what each row had, and the undoing of the log. The log is
    undone in the order in which it was written, so no row may be pointed elsewhere twice. -/

namespace CestaPlan.Relinks
open Updates

/-- A part of the rows of a table, which have an id besides. -/
structure Column (α ι π : Type) where
  id : α → ι
  get : α → π
  set : π → α → α
  id_set : ∀ p x, id (set p x) = id x
  get_set : ∀ p x, get (set p x) = p
  set_get : ∀ x, set (get x) x = x
  set_set : ∀ p q x, set p (set q x) = set p x

namespace Column
variable {α ι π : Type}

def pointRow (c : Column α ι π) (hit : π → Bool) (p : π) (x : α) : α := if hit (c.get x) then c.set p x else x

/-- `UPDATE … SET part = p WHERE hit(part)`. -/
def point (c : Column α ι π) (hit : π → Bool) (p : π) (rows : List α) : List α := rows.map (c.pointRow hit p)

/-- What the rows have that are to be pointed elsewhere. -/
def links (c : Column α ι π) (hit : π → Bool) (rows : List α) : List (ι × π) :=
  (rows.filter fun x => hit (c.get x)).map fun x => (c.id x, c.get x)

def restoreLink [DecidableEq ι] (c : Column α ι π) (rows : List α) (link : ι × π) : List α :=
  updateAt c.id link.1 (c.set link.2) rows

def restore [DecidableEq ι] (c : Column α ι π) (links : List (ι × π)) (rows : List α) : List α :=
  links.foldl c.restoreLink rows

/-- A row as it was, or with a final part in place of the logged one. -/
def Version (c : Column α ι π) (final : π → Prop) (links : List (ι × π)) (x y : α) : Prop :=
  (c.id x ∉ links.map Prod.fst ∧ y = x) ∨ ((c.id x, c.get x) ∈ links ∧ ∃ p, final p ∧ y = c.set p x)

/-- The rows are those of the origin, some of them with a final part, and the log has what these had. -/
structure Linked (c : Column α ι π) (final : π → Prop) (origin rows : List α) (links : List (ι × π)) : Prop where
  versions : ∃ f, rows = origin.map f ∧ ∀ x ∈ origin, c.Version final links x (f x)
  nodup : (links.map Prod.fst).Nodup
  ids : (origin.map c.id).Nodup
  logged : ∀ link ∈ links, link.1 ∈ origin.map c.id ∧ ¬final link.2

variable {c : Column α ι π} {final : π → Prop} {origin rows rest : List α} {links links' : List (ι × π)} {x y : α}
  {hit : π → Bool} {p : π} {link : ι × π}

theorem pointRow_of_hit (h : hit (c.get x) = true) : c.pointRow hit p x = c.set p x := if_pos h

theorem pointRow_of_not_hit (h : hit (c.get x) = false) : c.pointRow hit p x = x := if_neg (by simp [h])

@[simp] theorem id_pointRow : c.id (c.pointRow hit p x) = c.id x := by
  unfold pointRow
  split
  · exact c.id_set p x
  · rfl

@[simp] theorem map_id_point : (c.point hit p rows).map c.id = rows.map c.id := by
  simp [point, Function.comp_def]

theorem get_mem_point (h : y ∈ c.point hit p rows) : c.get y = p ∨ hit (c.get y) = false ∧ y ∈ rows := by
  obtain ⟨x, hx, rfl⟩ := List.mem_map.mp h
  cases hhit : hit (c.get x) with
  | true => exact Or.inl (by rw [pointRow_of_hit hhit, c.get_set])
  | false =>
    rw [pointRow_of_not_hit hhit]
    exact Or.inr ⟨hhit, hx⟩

theorem Version.id_eq (h : c.Version final links x y) : c.id y = c.id x := by
  rcases h with ⟨-, rfl⟩ | ⟨-, p, -, rfl⟩
  · rfl
  · exact c.id_set p x

theorem Version.eq_of_not_final (h : c.Version final links x y) (hy : ¬final (c.get y)) :
    c.id x ∉ links.map Prod.fst ∧ y = x := by
  rcases h with h | ⟨-, p, hp, rfl⟩
  · exact h
  · exact absurd (by rwa [c.get_set]) hy

theorem linked_refl (hids : (origin.map c.id).Nodup) : c.Linked final origin origin [] where
  versions := ⟨fun x => x, (List.map_id' origin).symm, fun _ _ => Or.inl ⟨List.not_mem_nil, rfl⟩⟩
  nodup := List.nodup_nil
  ids := hids
  logged := fun _ h => nomatch h

theorem Linked.congr (h : c.Linked final origin rows links) (heq : links' = links) : c.Linked final origin rows links' :=
  heq ▸ h

theorem Linked.map_id (h : c.Linked final origin rows links) : rows.map c.id = origin.map c.id := by
  obtain ⟨f, rfl, hf⟩ := h.versions
  rw [List.map_map]
  exact List.map_congr_left fun x hx => (hf x hx).id_eq

theorem Linked.version (h : c.Linked final origin rows links) (hy : y ∈ rows) :
    ∃ x ∈ origin, c.Version final links x y := by
  obtain ⟨f, rfl, hf⟩ := h.versions
  obtain ⟨x, hx, rfl⟩ := List.mem_map.mp hy
  exact ⟨x, hx, hf x hx⟩

/-- Rows without a final part are pointed elsewhere, and logged. -/
theorem Linked.point (h : c.Linked final origin rows links) (hhit : ∀ q, hit q = true → ¬final q) (hp : final p) :
    c.Linked final origin (c.point hit p rows) (links ++ c.links hit rows) := by
  have hnew : ∀ link ∈ c.links hit rows, link.1 ∉ links.map Prod.fst ∧ link.1 ∈ origin.map c.id ∧ ¬final link.2 := by
    intro link hlink
    obtain ⟨y, hy, rfl⟩ := List.mem_map.mp hlink
    obtain ⟨hy, hhity⟩ := List.mem_filter.mp hy
    obtain ⟨x, hx, hversion⟩ := h.version hy
    obtain ⟨hnot, rfl⟩ := hversion.eq_of_not_final (hhit _ hhity)
    exact ⟨hnot, List.mem_map_of_mem hx, hhit _ hhity⟩
  obtain ⟨f, rfl, hf⟩ := h.versions
  refine ⟨⟨fun x => c.pointRow hit p (f x), by rw [Column.point, List.map_map]; rfl, fun x hx => ?_⟩, ?_, h.ids, ?_⟩
  · cases hhitx : hit (c.get (f x)) with
    | true =>
      obtain ⟨-, heq⟩ := (hf x hx).eq_of_not_final (hhit _ hhitx)
      rw [heq] at hhitx
      refine Or.inr ⟨List.mem_append_right _ (List.mem_map.mpr ⟨x, List.mem_filter.mpr ⟨?_, hhitx⟩, rfl⟩), p, hp, ?_⟩
      · exact List.mem_map.mpr ⟨x, hx, heq⟩
      · dsimp only
        rw [heq, pointRow_of_hit hhitx]
    | false =>
      dsimp only
      rw [pointRow_of_not_hit hhitx]
      rcases hf x hx with ⟨hnot, heq⟩ | ⟨hlink, hset⟩
      · refine Or.inl ⟨fun hmem => ?_, heq⟩
        rw [List.map_append] at hmem
        rcases List.mem_append.mp hmem with hold | hnew
        · exact hnot hold
        · obtain ⟨_, hlink, hid⟩ := List.mem_map.mp hnew
          obtain ⟨y, hy, rfl⟩ := List.mem_map.mp hlink
          obtain ⟨hy, hhity⟩ := List.mem_filter.mp hy
          obtain ⟨x', hx', rfl⟩ := List.mem_map.mp hy
          have hsame := List.inj_on_of_nodup_map h.ids hx' hx ((hf x' hx').id_eq.symm.trans hid)
          rw [hsame, hhitx] at hhity
          cases hhity
      · exact Or.inr ⟨List.mem_append_left _ hlink, hset⟩
  · rw [List.map_append]
    refine List.nodup_append.mpr ⟨h.nodup, ?_, fun i hi j hj heq => ?_⟩
    · have hids : ((origin.map f).map c.id).Nodup := h.map_id ▸ h.ids
      have hsub : ((c.links hit (origin.map f)).map Prod.fst).Sublist ((origin.map f).map c.id) := by
        rw [Column.links, List.map_map]
        exact List.filter_sublist.map _
      exact hids.sublist hsub
    · obtain ⟨link, hlink, rfl⟩ := List.mem_map.mp hj
      exact (hnew link hlink).1 (heq ▸ hi)
  · intro link hlink
    rcases List.mem_append.mp hlink with hold | hlink
    · exact h.logged link hold
    · exact (hnew link hlink).2

/-- Rows that are not logged are deleted by their ids. -/
theorem Linked.drop [DecidableEq ι] (h : c.Linked final origin rows links) {ids : List ι}
    (hids : ∀ i ∈ ids, i ∉ links.map Prod.fst) :
    c.Linked final (origin.filter (c.id · ∉ ids)) (rows.filter (c.id · ∉ ids)) links := by
  obtain ⟨f, rfl, hf⟩ := h.versions
  refine ⟨⟨f, ?_, fun x hx => hf x (List.mem_of_mem_filter hx)⟩, h.nodup, h.ids.sublist (List.filter_sublist.map _), ?_⟩
  · rw [List.filter_map]
    refine congrArg _ (List.filter_congr fun x hx => ?_)
    rw [Function.comp_apply, (hf x hx).id_eq]
  · intro link hlink
    obtain ⟨hmem, hnot⟩ := h.logged link hlink
    obtain ⟨x, hx, hid⟩ := List.mem_map.mp hmem
    refine ⟨List.mem_map.mpr ⟨x, List.mem_filter.mpr ⟨hx, ?_⟩, hid⟩, hnot⟩
    simpa [hid] using fun hin : link.1 ∈ ids => hids link.1 hin (List.mem_map_of_mem hlink)

/-- Deleted rows that are not logged are as they were at the origin. -/
theorem Linked.dropped [DecidableEq ι] (h : c.Linked final origin rows links) {q : α → Bool}
    (hq : ∀ y ∈ rows, q y = true → ¬final (c.get y)) :
    (∀ i ∈ (rows.filter q).map c.id, i ∉ links.map Prod.fst) ∧
      (origin.filter (c.id · ∉ (rows.filter q).map c.id) ++ rows.filter q).Perm origin := by
  have hids : (rows.map c.id).Nodup := h.map_id ▸ h.ids
  obtain ⟨f, rfl, hf⟩ := h.versions
  have hsame : ∀ x ∈ origin, q (f x) = true → c.id x ∉ links.map Prod.fst ∧ f x = x := fun x hx hqx =>
    (hf x hx).eq_of_not_final (hq _ (List.mem_map_of_mem hx) hqx)
  constructor
  · intro i hi
    obtain ⟨y, hy, rfl⟩ := List.mem_map.mp hi
    obtain ⟨hy, hqy⟩ := List.mem_filter.mp hy
    obtain ⟨x, hx, rfl⟩ := List.mem_map.mp hy
    rw [(hf x hx).id_eq]
    exact (hsame x hx hqy).1
  · have hdropped : (origin.map f).filter q = origin.filter (c.id · ∈ ((origin.map f).filter q).map c.id) := by
      rw [List.filter_map]
      have hmem : ∀ x ∈ origin, (q ∘ f) x = decide (c.id x ∈ ((origin.filter (q ∘ f)).map f).map c.id) := fun x hx => by
        refine Bool.eq_iff_iff.mpr ⟨fun hqx => decide_eq_true ?_, fun hin => ?_⟩
        · refine List.mem_map.mpr ⟨f x, List.mem_map_of_mem (List.mem_filter.mpr ⟨hx, hqx⟩), (hf x hx).id_eq⟩
        · obtain ⟨y, hy, hid⟩ := List.mem_map.mp (of_decide_eq_true hin)
          obtain ⟨x', hx', rfl⟩ := List.mem_map.mp hy
          obtain ⟨hx', hqx'⟩ := List.mem_filter.mp hx'
          rw [(hf x' hx').id_eq] at hid
          rwa [← List.inj_on_of_nodup_map h.ids hx' hx hid]
      rw [← List.filter_congr hmem]
      exact (List.map_congr_left fun x hx => (hsame x (List.mem_of_mem_filter hx) (List.mem_filter.mp hx).2).2).trans
        (List.map_id' _)
    refine (List.Perm.append_left _ (List.Perm.of_eq hdropped)).trans ?_
    refine List.perm_append_comm.trans ?_
    have hperm := List.filter_append_perm (fun x => decide (c.id x ∈ ((origin.map f).filter q).map c.id)) origin
    simp only [← decide_not] at hperm
    exact hperm

/-! ### The undoing of the log -/

section Restore
variable [DecidableEq ι]

theorem restore_eq_map (links : List (ι × π)) (rows : List α) :
    c.restore links rows = rows.map (rewrite c.id Prod.fst (fun link x => c.set link.2 x) links) :=
  foldl_updateAt c.id Prod.fst (fun link x => c.id_set link.2 x) links rows

/-- The log puts every row back, and leaves alone the rows that it does not name. -/
theorem Linked.restore (h : c.Linked final origin rows links) (hrest : ∀ x ∈ rest, c.id x ∉ links.map Prod.fst) :
    c.restore links (rows ++ rest) = origin ++ rest := by
  obtain ⟨f, rfl, hf⟩ := h.versions
  rw [restore_eq_map, List.map_append, List.map_map]
  refine congrArg₂ _ ((List.map_congr_left fun x hx => ?_).trans (List.map_id' origin))
    ((List.map_congr_left fun x hx => rewrite_of_not_mem (hrest x hx)).trans (List.map_id' rest))
  rw [Function.comp_apply]
  rcases hf x hx with ⟨hnot, heq⟩ | ⟨hlink, q, -, heq⟩
  · rw [heq, rewrite_of_not_mem hnot]
  · rw [heq, rewrite_of_mem h.nodup hlink (c.id_set q x).symm, c.set_set, c.set_get]

theorem Linked.restore_self (h : c.Linked final origin rows links) : c.restore links rows = origin := by
  have hrestored := h.restore fun x (hx : x ∈ []) => (nomatch hx)
  rwa [List.append_nil, List.append_nil] at hrestored

/-- While the log is undone, every row is as it was before the relinking or as it is after it. -/
theorem Linked.restoreLink_mem (h : c.Linked final origin rows links) {all table : List α} (hall : (all.map c.id).Nodup)
    (horigin : origin ⊆ all) (htable : ∀ z ∈ table, z ∈ all ∨ z ∈ rows) (hlink : link ∈ links) :
    ∀ z ∈ c.restoreLink table link, z ∈ all ∨ z ∈ rows := by
  intro z hz
  obtain ⟨y, hy, rfl⟩ := mem_updateAt.mp hz
  split
  · next hid =>
    obtain ⟨x, hx, hxid⟩ := List.mem_map.mp (h.logged link hlink).1
    obtain ⟨f, rfl, hf⟩ := h.versions
    have hget : link = (c.id x, c.get x) := by
      rcases hf x hx with ⟨hnot, -⟩ | ⟨hmem, -⟩
      · exact absurd (hxid ▸ List.mem_map_of_mem hlink) hnot
      · exact List.inj_on_of_nodup_map h.nodup hlink hmem hxid.symm
    refine Or.inl ?_
    rcases htable y hy with hyall | hyrows
    · have hsame := List.inj_on_of_nodup_map hall hyall (horigin hx) (hid.trans hxid.symm)
      rw [hget, hsame, c.set_get]
      exact horigin hx
    · obtain ⟨x', hx', rfl⟩ := List.mem_map.mp hyrows
      have hsame := List.inj_on_of_nodup_map h.ids hx' hx ((hf x' hx').id_eq.symm.trans (hid.trans hxid.symm))
      subst hsame
      rcases hf x' hx' with ⟨-, heq⟩ | ⟨-, q, -, heq⟩
      · rw [hget, heq, c.set_get]
        exact horigin hx
      · rw [hget, heq, c.set_set, c.set_get]
        exact horigin hx
  · exact htable y hy

end Restore

/-! ### Unique keys -/

section Keys
variable {κ : Type} {key : α → κ} {all table : List α}

/-- Rows as they were and rows after the relinking have different keys, where the keys of both tables are unique and what
    the relinking moves is not final. -/
theorem nodup_mixed (hids : (table.map c.id).Nodup) (htable : ∀ z ∈ table, z ∈ all ∨ z ∈ rows)
    (hall : (all.map key).Nodup) (hrows : (rows.map key).Nodup) (hkey : ∀ x y, key x = key y → c.get x = c.get y)
    (hmoved : ∀ x ∈ all, x ∈ rows ∨ ¬final (c.get x)) (hfinal : ∀ y ∈ rows, final (c.get y)) :
    (table.map key).Nodup := by
  have hmix : ∀ x ∈ all, ∀ y ∈ rows, key x = key y → x = y := fun x hx y hy heq => by
    rcases hmoved x hx with hx' | hnot
    · exact List.inj_on_of_nodup_map hrows hx' hy heq
    · exact absurd (hkey x y heq ▸ hfinal y hy) hnot
  refine (List.Nodup.of_map _ hids).map_on fun x hx y hy heq => ?_
  rcases htable x hx with hx | hx <;> rcases htable y hy with hy | hy
  · exact List.inj_on_of_nodup_map hall hx hy heq
  · exact hmix x hx y hy heq
  · exact (hmix y hy x hx heq.symm).symm
  · exact List.inj_on_of_nodup_map hrows hx hy heq

/-- Pointing rows elsewhere keeps the keys unique where no such row has the key of a row that is there. -/
theorem nodup_point (rest : α → κ) (hids : (rows.map fun x => (c.get x, rest x)).Nodup)
    (hrest : ∀ q x, rest (c.set q x) = rest x) (hhit : ∀ x ∈ rows, ∀ y ∈ rows, hit (c.get x) = true → hit (c.get y) = true →
      c.get x = c.get y) (hfree : ∀ x ∈ rows, ∀ y ∈ rows, hit (c.get x) = true → c.get y = p → rest x ≠ rest y) :
    ((c.point hit p rows).map fun x => (c.get x, rest x)).Nodup := by
  rw [point, List.map_map]
  refine (List.Nodup.of_map _ hids).map_on fun x hx y hy heq => ?_
  have hunique := List.inj_on_of_nodup_map hids hx hy
  rw [Function.comp_apply, Function.comp_apply] at heq
  cases hhitx : hit (c.get x) <;> cases hhity : hit (c.get y)
  · rw [pointRow_of_not_hit hhitx, pointRow_of_not_hit hhity] at heq
    exact hunique heq
  · rw [pointRow_of_not_hit hhitx, pointRow_of_hit hhity, c.get_set, hrest] at heq
    exact absurd (congrArg Prod.snd heq).symm (hfree y hy x hx hhity (congrArg Prod.fst heq))
  · rw [pointRow_of_hit hhitx, pointRow_of_not_hit hhity, c.get_set, hrest] at heq
    exact absurd (congrArg Prod.snd heq) (hfree x hx y hy hhitx (congrArg Prod.fst heq).symm)
  · rw [pointRow_of_hit hhitx, pointRow_of_hit hhity, hrest, hrest] at heq
    have hrests : rest x = rest y := congrArg Prod.snd heq
    exact hunique (Prod.ext (hhit x hx y hy hhitx hhity) hrests)

end Keys

end Column

end CestaPlan.Relinks
