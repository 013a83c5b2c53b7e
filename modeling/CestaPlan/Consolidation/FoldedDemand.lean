import CestaPlan.Consolidation.LineMerging
import CestaPlan.Engine.Conversions
import Mathlib.Tactic.Ring

/-! What a recipe demands after its lines for one ingredient were merged. The quantities are added as they stand, whatever their units, and the
    kept line keeps its own unit and whether it is optional. -/

namespace CestaPlan.Consolidation
open Updates Absorbing Engine

variable {C : Type}

/-! ### The kept lines -/

def quantityAt (rows : List (RecipeIngredient C)) (i : ℕ) : ℚ := ((row? (·.id) rows i).map (·.quantity)).getD 0

/-- A line with the quantities of the lines that were merged into it. -/
def gained (rows : List (RecipeIngredient C)) (pairs : List LinePair) (r : RecipeIngredient C) : RecipeIngredient C :=
  { r with quantity := r.quantity + ((pairs.filter (·.kept = r.id)).map fun pair => quantityAt rows pair.dupId).sum }

theorem run_cons_eq_ok {statement : Statement C} {statements : List (Statement C)} {db db' : Db C}
    (h : run (statement :: statements) db = .ok db') : ∃ next, statement db = .ok next ∧ run statements next = .ok db' := by
  unfold run at h
  rw [List.foldlM_cons] at h
  cases hs : statement db with
  | error e =>
    rw [execute, hs] at h
    cases h
  | ok next =>
    by_cases hvalid : next.Valid
    · have hexecute : execute db statement = .ok next := by
        rw [execute, hs]
        exact if_pos hvalid
      rw [hexecute] at h
      exact ⟨next, rfl, h⟩
    · have hexecute : execute db statement = .error .integrityError := by
        rw [execute, hs]
        exact if_neg hvalid
      rw [hexecute] at h
      cases h

theorem run_mergeLines {pairs : List LinePair} {db db' : Db C} (hids : (db.recipeIngredients.map (·.id)).Nodup)
    (hseparate : Separate (db.recipeIngredients.map (·.id)) pairs)
    (hrun : run (pairs.map fun pair => mergeLine pair.ingredientId pair.kept pair.dupId) db = .ok db') :
    db'.recipeIngredients = (db.recipeIngredients.filter fun r => r.id ∉ pairs.map (·.dupId)).map (gained db.recipeIngredients pairs) := by
  induction pairs generalizing db with
  | nil =>
    cases hrun
    have hsame (rows : List (RecipeIngredient C)) : gained rows [] = id := funext fun r => by
      show { r with quantity := r.quantity + 0 } = r
      rw [add_zero]
    rw [hsame, List.map_id]
    exact (List.filter_eq_self.mpr fun r _ => decide_eq_true List.not_mem_nil).symm
  | cons pair pairs ih =>
    obtain ⟨next, hmerge, hrest⟩ := run_cons_eq_ok hrun
    obtain ⟨row, hrow⟩ : ∃ row, row? (·.id) db.recipeIngredients pair.dupId = some row :=
      Option.ne_none_iff_exists'.mp fun hnone => row?_eq_none.mp hnone (hseparate.dups pair List.mem_cons_self)
    have hid : row.id = pair.dupId := key_of_row? hrow
    have hnext : next.recipeIngredients = quantityAmount.absorb pair.kept row db.recipeIngredients := by
      simp only [mergeLine, hrow] at hmerge
      cases hmerge
      rfl
    have hnextids : next.recipeIngredients.map (·.id) = (db.recipeIngredients.map (·.id)).filter (· ≠ pair.dupId) := by
      have hsame : (updateAt quantityAmount.id pair.kept (quantityAmount.add (quantityAmount.get row))
          db.recipeIngredients).map (·.id) = db.recipeIngredients.map (·.id) := map_updateAt fun _ => rfl
      rw [hnext, ← hsame, List.filter_map, ← hid]
      rfl
    obtain ⟨hnot, hnodup⟩ := List.nodup_cons.mp hseparate.nodup
    have hseparate' : Separate (next.recipeIngredients.map (·.id)) pairs := by
      refine ⟨hnodup, fun p hp => ?_, fun p hp p' hp' => hseparate.kepts p (List.mem_cons_of_mem _ hp) p'
        (List.mem_cons_of_mem _ hp')⟩
      rw [hnextids]
      have hmem : p.dupId ∈ pairs.map (·.dupId) := List.mem_map_of_mem hp
      refine List.mem_filter.mpr ⟨hseparate.dups p (List.mem_cons_of_mem _ hp), decide_eq_true fun heq => ?_⟩
      rw [heq] at hmem
      exact hnot hmem
    rw [ih (hnextids ▸ hids.filter _) hseparate' hrest]
    -- A line that is merged later has gained nothing, so it gives what it had.
    have hquantity (p : LinePair) (hp : p ∈ pairs) : quantityAt next.recipeIngredients p.dupId = quantityAt db.recipeIngredients p.dupId := by
      have hmem : p.dupId ∈ pairs.map (·.dupId) := List.mem_map_of_mem hp
      have hdup : p.dupId ≠ pair.dupId := fun heq => hnot (by rwa [heq] at hmem)
      have hkept : p.dupId ≠ pair.kept := (hseparate.kepts pair List.mem_cons_self p (List.mem_cons_of_mem _ hp)).symm
      have hfind : row? (·.id) next.recipeIngredients p.dupId = (row? (·.id) db.recipeIngredients p.dupId).map fun x =>
          if quantityAmount.id x = pair.kept then quantityAmount.add (quantityAmount.get row) x else x := by
        refine Eq.trans ?_ (row?_updateAt fun _ => rfl)
        rw [hnext, Amount.absorb, row?, row?, List.find?_filter]
        refine congrArg (List.find? · _) (funext fun r => ?_)
        refine decide_eq_decide.mpr ⟨fun h => of_decide_eq_true h.2, fun h => ⟨decide_eq_true fun heq => ?_, decide_eq_true h⟩⟩
        exact hdup (Eq.trans (Eq.symm h) (heq.trans hid))
      rw [quantityAt, quantityAt, hfind, Option.map_map]
      cases hp' : row? (·.id) db.recipeIngredients p.dupId with
      | none => rfl
      | some r =>
        have hne : ¬ quantityAmount.id r = pair.kept := fun h => hkept ((key_of_row? hp').symm.trans h)
        simp only [Option.map_some, Function.comp_apply, if_neg hne]
    have hgain (r : RecipeIngredient C) : gained next.recipeIngredients pairs
        (if quantityAmount.id r = pair.kept then quantityAmount.add (quantityAmount.get row) r else r) =
          gained db.recipeIngredients (pair :: pairs) r := by
      have hsum (i : ℕ) : ((pairs.filter (·.kept = i)).map fun p => quantityAt next.recipeIngredients p.dupId) =
          (pairs.filter (·.kept = i)).map fun p => quantityAt db.recipeIngredients p.dupId :=
        List.map_congr_left fun p hp => hquantity p (List.mem_of_mem_filter hp)
      have hrowq : quantityAt db.recipeIngredients pair.dupId = row.quantity := by rw [quantityAt, hrow]; rfl
      by_cases hr : r.id = pair.kept
      · rw [if_pos (show quantityAmount.id r = pair.kept from hr)]
        unfold gained
        rw [List.filter_cons_of_pos (by rw [hr]; exact decide_eq_true rfl), List.map_cons, List.sum_cons, hrowq, ← add_assoc, ← hsum]
        rfl
      · rw [if_neg (show ¬ quantityAmount.id r = pair.kept from hr)]
        unfold gained
        rw [List.filter_cons_of_neg (by simpa using Ne.symm hr), ← hsum]
    have hkept : next.recipeIngredients.filter (fun r => r.id ∉ pairs.map (·.dupId)) =
        (db.recipeIngredients.filter fun r => r.id ∉ (pair :: pairs).map (·.dupId)).map fun r =>
          if quantityAmount.id r = pair.kept then quantityAmount.add (quantityAmount.get row) r else r := by
      rw [hnext, Amount.absorb, List.filter_filter, updateAt, List.filter_map]
      refine congrArg (List.map _) (List.filter_congr fun r _ => ?_)
      have hsame : quantityAmount.id (if quantityAmount.id r = pair.kept then quantityAmount.add (quantityAmount.get row) r else r) = r.id := by
        split <;> rfl
      have hsame' : (if quantityAmount.id r = pair.kept then quantityAmount.add (quantityAmount.get row) r else r).id = r.id := hsame
      have hrowid : quantityAmount.id row = pair.dupId := hid
      simp only [Function.comp_apply, hsame, hsame', hrowid, List.map_cons, List.mem_cons, not_or, Bool.decide_and, Bool.and_comm]
    rw [hkept, List.map_map]
    exact List.map_congr_left fun r _ => hgain r

section Groups
variable {db db' : Db C} {group : (ℕ × ℕ) × List ℕ} {kept : ℕ} {dups : List ℕ}

/-- The lines that a fold has moved. -/
def repointed (db : Db C) : List ℕ := (db.relinks.filter (·.sourceTable = .recipeIngredient)).map (·.sourceRowId)

/-- The lines that are merged into the first line of a group are the others of the group, and the first line is merged into none. -/
theorem linePairs_of_group (hids : (db.recipeIngredients.map (·.id)).Nodup) (hgroup : group ∈ lineGroups db)
    (hsplit : group.2 = kept :: dups) (htouched : ∃ i ∈ group.2, i ∈ repointed db) :
    ((linePairs db).filter (·.kept = kept)).map (·.dupId) = dups ∧ kept ∉ (linePairs db).map (·.dupId) ∧
      ∀ i ∈ dups, i ∈ (linePairs db).map (·.dupId) := by
  obtain ⟨hdisjoint, hgroups⟩ := lineGroups_disjoint hids
  have hnodup := (hgroups _ (List.mem_map_of_mem hgroup)).1
  rw [hsplit] at hnodup
  obtain ⟨before, after, hlist⟩ := List.append_of_mem hgroup
  have hdisjoint := List.pairwise_map.mp hdisjoint
  rw [hlist] at hdisjoint
  obtain ⟨-, hafter, hbefore⟩ := List.pairwise_append.mp hdisjoint
  have hapart : ∀ g ∈ before ++ after, List.Disjoint g.2 group.2 := fun g hg => by
    rcases List.mem_append.mp hg with hg | hg
    · exact hbefore g hg group List.mem_cons_self
    · exact ((List.pairwise_cons.mp hafter).1 g hg).symm
  have hown : pairsOf (repointed db) group = dups.map fun dup => ⟨group.1.2, kept, dup⟩ := by
    obtain ⟨i, hi, hmoved⟩ := htouched
    rw [hsplit] at hi
    unfold pairsOf
    rw [hsplit]
    exact if_pos (List.any_eq_true.mpr ⟨i, hi, decide_eq_true hmoved⟩)
  have hpairs : linePairs db = before.flatMap (pairsOf (repointed db)) ++
      ((dups.map fun dup => ⟨group.1.2, kept, dup⟩) ++ after.flatMap (pairsOf (repointed db))) := by
    rw [linePairs, hlist, List.flatMap_append, List.flatMap_cons]
    exact congrArg (fun own => _ ++ (own ++ _)) hown
  have hothers : ∀ gs : List ((ℕ × ℕ) × List ℕ), gs ⊆ before ++ after → ∀ pair ∈ gs.flatMap (pairsOf (repointed db)),
      pair.kept ∉ group.2 ∧ pair.dupId ∉ group.2 := by
    intro gs hgs pair hpair
    obtain ⟨g, hg, hmem⟩ := List.mem_flatMap.mp hpair
    obtain ⟨dups', hsplit', hdup'⟩ := mem_pairsOf hmem
    have hdisj := hapart g (hgs hg)
    rw [hsplit'] at hdisj
    exact ⟨fun h => hdisj List.mem_cons_self h, fun h => hdisj (List.mem_cons_of_mem _ hdup') h⟩
  have hnone : ∀ gs : List ((ℕ × ℕ) × List ℕ), gs ⊆ before ++ after →
      (gs.flatMap (pairsOf (repointed db))).filter (·.kept = kept) = [] := fun gs hgs =>
    List.filter_eq_nil_iff.mpr fun pair hpair heq => (hothers gs hgs pair hpair).1
      (by rw [of_decide_eq_true heq, hsplit]; exact List.mem_cons_self)
  have hbeforeAll : before ⊆ before ++ after := List.subset_append_left _ _
  have hafterAll : after ⊆ before ++ after := List.subset_append_right _ _
  refine ⟨?_, fun hmem => ?_, fun i hi => ?_⟩
  · have hall : (dups.map fun dup => (⟨group.1.2, kept, dup⟩ : LinePair)).filter (·.kept = kept) =
        dups.map fun dup => ⟨group.1.2, kept, dup⟩ :=
      List.filter_eq_self.mpr fun pair hpair => by
        obtain ⟨dup, -, rfl⟩ := List.mem_map.mp hpair
        exact decide_eq_true rfl
    rw [hpairs, List.filter_append, List.filter_append, hnone before hbeforeAll, hnone after hafterAll, hall, List.nil_append,
      List.append_nil, List.map_map]
    exact List.map_id' dups
  · obtain ⟨pair, hpair, heq⟩ := List.mem_map.mp hmem
    have hkeptmem : kept ∈ group.2 := hsplit ▸ List.mem_cons_self
    rw [hpairs] at hpair
    rcases List.mem_append.mp hpair with hpair | hpair
    · exact (hothers before hbeforeAll pair hpair).2 (heq ▸ hkeptmem)
    rcases List.mem_append.mp hpair with hpair | hpair
    · obtain ⟨dup, hdup, rfl⟩ := List.mem_map.mp hpair
      exact (List.nodup_cons.mp hnodup).1 (heq ▸ hdup)
    · exact (hothers after hafterAll pair hpair).2 (heq ▸ hkeptmem)
  · rw [hpairs, List.map_append, List.map_append]
    refine List.mem_append_right _ (List.mem_append_left _ ?_)
    rw [List.map_map]
    exact List.mem_map.mpr ⟨i, hi, rfl⟩

theorem lines_of_group (hids : (db.recipeIngredients.map (·.id)).Nodup) (hgroup : group ∈ lineGroups db)
    (hsplit : group.2 = kept :: dups) : (∀ i ∈ group.2, kept ≤ i) ∧
      ((db.recipeIngredients.filter (·.id ∈ group.2)).map (·.id)).Perm group.2 := by
  obtain ⟨hnodup, hsub⟩ := (lineGroups_disjoint hids).2 _ (List.mem_map_of_mem hgroup)
  constructor
  · have hsorted : group.2.Pairwise (· ≤ ·) := by
      obtain ⟨entry, -, rfl⟩ := List.mem_map.mp hgroup
      exact List.pairwise_insertionSort _ _
    rw [hsplit] at hsorted ⊢
    intro i hi
    rcases List.mem_cons.mp hi with rfl | hi
    · exact le_rfl
    · exact (List.pairwise_cons.mp hsorted).1 i hi
  · refine (List.perm_ext_iff_of_nodup (hids.sublist (List.filter_sublist.map _)) hnodup).mpr fun i => ⟨fun hi => ?_, fun hi => ?_⟩
    · obtain ⟨r, hr, rfl⟩ := List.mem_map.mp hi
      exact of_decide_eq_true (List.mem_filter.mp hr).2
    · obtain ⟨r, hr, rfl⟩ := List.mem_map.mp (hsub hi)
      exact List.mem_map.mpr ⟨r, List.mem_filter.mpr ⟨hr, decide_eq_true hi⟩, rfl⟩

theorem sum_quantityAt (hids : (db.recipeIngredients.map (·.id)).Nodup) (hgroup : group ∈ lineGroups db)
    (hsplit : group.2 = kept :: dups) : ((db.recipeIngredients.filter (·.id ∈ group.2)).map (·.quantity)).sum =
      quantityAt db.recipeIngredients kept + (dups.map (quantityAt db.recipeIngredients)).sum := by
  have hquantity : ∀ r ∈ db.recipeIngredients.filter (·.id ∈ group.2), r.quantity = quantityAt db.recipeIngredients r.id :=
    fun r hr => by
      rw [quantityAt, row?_of_mem hids (List.mem_of_mem_filter hr)]
      rfl
  have hperm := ((lines_of_group hids hgroup hsplit).2.map (quantityAt db.recipeIngredients)).sum_eq
  rw [List.map_congr_left hquantity, ← List.sum_cons, ← List.map_cons, ← hsplit, ← hperm, List.map_map]
  rfl

theorem kept_of_group (hids : (db.recipeIngredients.map (·.id)).Nodup) (hrun : run (dedupStatements db) db = .ok db')
    (hgroup : group ∈ lineGroups db) (htouched : ∃ i ∈ group.2, i ∈ repointed db) :
    ∃ first ∈ db.recipeIngredients.filter (·.id ∈ group.2), (∀ line ∈ db.recipeIngredients.filter (·.id ∈ group.2), first.id ≤ line.id) ∧
      db'.recipeIngredients.filter (·.id ∈ group.2) =
        [{ first with quantity := ((db.recipeIngredients.filter (·.id ∈ group.2)).map (·.quantity)).sum }] := by
  obtain ⟨kept, dups, hsplit⟩ : ∃ kept dups, group.2 = kept :: dups := by
    obtain ⟨i, hi, -⟩ := htouched
    exact List.exists_cons_of_ne_nil (List.ne_nil_of_mem hi)
  obtain ⟨hpairs, hkept, hdups⟩ := linePairs_of_group hids hgroup hsplit htouched
  have hin : kept ∈ group.2 := hsplit ▸ List.mem_cons_self
  obtain ⟨hleast, hperm⟩ := lines_of_group hids hgroup hsplit
  obtain ⟨first, hfirst, hid⟩ := List.mem_map.mp (hperm.mem_iff.mpr hin)
  refine ⟨first, hfirst, fun line hline => ?_, ?_⟩
  · rw [hid]
    exact hleast line.id (of_decide_eq_true (List.mem_filter.mp hline).2)
  rw [dedupStatements_eq] at hrun
  rw [run_mergeLines hids (separate_linePairs hids) hrun, List.filter_map, List.filter_filter]
  -- No other line of the group is left.
  have honly : (db.recipeIngredients.filter fun r => ((fun r : RecipeIngredient C => decide (r.id ∈ group.2)) ∘
      gained db.recipeIngredients (linePairs db)) r && decide (r.id ∉ (linePairs db).map (·.dupId))) = [first] := by
    have hone := filter_target_eq (u := first) hids (List.mem_of_mem_filter hfirst)
    rw [hid] at hone
    refine Eq.trans (List.filter_congr fun r _ => ?_) hone
    show (decide (r.id ∈ group.2) && decide (r.id ∉ (linePairs db).map (·.dupId))) = decide (r.id = kept)
    rw [← Bool.decide_and]
    refine decide_eq_decide.mpr ⟨fun ⟨hmem, hleft⟩ => ?_, fun heq => ⟨heq ▸ hin, heq ▸ hkept⟩⟩
    rw [hsplit] at hmem
    exact (List.mem_cons.mp hmem).resolve_right fun hdup => hleft (hdups _ hdup)
  rw [honly, List.map_singleton, sum_quantityAt hids hgroup hsplit]
  have hown : quantityAt db.recipeIngredients kept = first.quantity := by
    rw [quantityAt, ← hid, row?_of_mem hids (List.mem_of_mem_filter hfirst)]
    rfl
  have hadded : ((linePairs db).filter (·.kept = first.id)).map (fun pair => quantityAt db.recipeIngredients pair.dupId) =
      dups.map (quantityAt db.recipeIngredients) := by
    rw [hid, ← hpairs, List.map_map]
    rfl
  rw [gained, hadded, hown]

end Groups

/-! ### What the lines demand -/

section Demand
variable (py : Runtime) (factors : Factors) (unitOf : C → String) (optionalOf : C → Bool)

/-- What a line demands in a unit. The unit of the line and whether it is optional are in columns that the merging does not write. -/
def demand (line : RecipeIngredient C) (unit : String) : Except ConversionError ℚ :=
  convert py factors line.quantity (unitOf line.columns) unit line.canonicalName

/-- What one of the line's own units is worth in a unit. -/
def perUnit (line : RecipeIngredient C) (unit : String) : Except ConversionError ℚ :=
  convert py factors 1 (unitOf line.columns) unit line.canonicalName

/-- The kept line demands what the lines did in every unit that all of them convert to, and is optional only if they all were. -/
structure DemandKept (lines : List (RecipeIngredient C)) (kept : RecipeIngredient C) : Prop where
  demands : ∀ unit d, (∀ line ∈ lines, demand py factors unitOf line unit = .ok (d line)) →
    demand py factors unitOf kept unit = .ok (lines.map d).sum
  isOptional : optionalOf kept.columns = true → ∀ line ∈ lines, optionalOf line.columns = true

/-- What the units of the lines are worth more or less than the unit of the first line cancels out, and the first line is optional only if they
    all are. -/
structure Balanced (lines : List (RecipeIngredient C)) (first : RecipeIngredient C) : Prop where
  units : ∀ unit (k : RecipeIngredient C → ℚ), (∀ line ∈ lines, perUnit py factors unitOf line unit = .ok (k line)) →
    (lines.map fun line => line.quantity * (k line - k first)).sum = 0
  isOptional : optionalOf first.columns = true → ∀ line ∈ lines, optionalOf line.columns = true

variable {py factors unitOf optionalOf} {lines : List (RecipeIngredient C)} {first line : RecipeIngredient C} {unit : String}

theorem demand_eq (hexact : py.round = id) :
    demand py factors unitOf line unit = (perUnit py factors unitOf line unit).map (line.quantity * ·) := convert_mul hexact _

theorem sum_mul_sub (k : RecipeIngredient C → ℚ) (x : ℚ) : (lines.map fun line => line.quantity * (k line - x)).sum =
    (lines.map fun line => line.quantity * k line).sum - (lines.map (·.quantity)).sum * x := by
  induction lines with
  | nil => simp
  | cons line lines ih =>
    simp only [List.map_cons, List.sum_cons, ih]
    ring

theorem demandKept_iff (hexact : py.round = id) (hfirst : first ∈ lines) :
    DemandKept py factors unitOf optionalOf lines { first with quantity := (lines.map (·.quantity)).sum } ↔
      Balanced py factors unitOf optionalOf lines first := by
  have hkept {unit : String} {x : ℚ} (h : perUnit py factors unitOf first unit = .ok x) :
      demand py factors unitOf { first with quantity := (lines.map (·.quantity)).sum } unit = .ok ((lines.map (·.quantity)).sum * x) := by
    rw [demand_eq hexact]
    show (perUnit py factors unitOf first unit).map ((lines.map (·.quantity)).sum * ·) = _
    rw [h]
    rfl
  constructor
  · intro h
    refine ⟨fun unit k hk => ?_, h.isOptional⟩
    have hsum := h.demands unit (fun line => line.quantity * k line) fun line hline => by
      rw [demand_eq hexact, hk line hline]
      rfl
    rw [hkept (hk first hfirst)] at hsum
    rw [sum_mul_sub, Except.ok.inj hsum, sub_self]
  · intro h
    refine ⟨fun unit d hd => ?_, h.isOptional⟩
    have hrate : ∀ line ∈ lines, ∃ x, perUnit py factors unitOf line unit = .ok x := fun line hline => exists_convert (hd line hline) 1
    let k (line : RecipeIngredient C) : ℚ := (perUnit py factors unitOf line unit).toOption.getD 0
    have hk : ∀ line ∈ lines, perUnit py factors unitOf line unit = .ok (k line) := fun line hline => by
      obtain ⟨x, hx⟩ := hrate line hline
      show _ = Except.ok ((perUnit py factors unitOf line unit).toOption.getD 0)
      rw [hx]
      rfl
    have hd' : ∀ line ∈ lines, d line = line.quantity * k line := fun line hline => by
      have hline' := hd line hline
      rw [demand_eq hexact, hk line hline] at hline'
      exact (Except.ok.inj hline').symm
    have hzero := h.units unit k hk
    rw [sum_mul_sub, sub_eq_zero] at hzero
    rw [hkept (hk first hfirst), List.map_congr_left hd', hzero]

/-- Of every group of lines that a fold has made lines for one ingredient, one is left, and it keeps their demand if and only if their units
    are balanced. -/
theorem demandKept_iff_balanced (hexact : py.round = id) {db db' : Db C} (hvalid : db.Valid) (hrun : run (dedupStatements db) db = .ok db')
    {group : (ℕ × ℕ) × List ℕ} (hgroup : group ∈ lineGroups db) (htouched : ∃ i ∈ group.2, i ∈ repointed db) :
    ∃ first ∈ db.recipeIngredients.filter (·.id ∈ group.2),
      (∀ line ∈ db.recipeIngredients.filter (·.id ∈ group.2), first.id ≤ line.id) ∧
      ∃ kept, db'.recipeIngredients.filter (·.id ∈ group.2) = [kept] ∧
        (DemandKept py factors unitOf optionalOf (db.recipeIngredients.filter (·.id ∈ group.2)) kept ↔
          Balanced py factors unitOf optionalOf (db.recipeIngredients.filter (·.id ∈ group.2)) first) := by
  obtain ⟨first, hfirst, hleast, hkept⟩ := kept_of_group hvalid.recipes.ids hrun hgroup htouched
  exact ⟨first, hfirst, hleast, _, hkept, demandKept_iff hexact hfirst⟩

end Demand

/-- A recipe with 100 g of sugar and 1 kg of white sugar, which a fold has made the same ingredient. -/
def twoSugars : Db (String × Bool) :=
  { ingredients := [⟨1, "azucar", ("g", false)⟩]
    recipeIngredients := [⟨11, 5, 1, some "azucar", 100, ("g", false)⟩, ⟨12, 5, 1, some "azucar", 1, ("kg", false)⟩]
    pantryItems := []
    groceryListItems := []
    ingredientProductMappings := []
    providerIngredientMappings := []
    aliases := []
    audits := [⟨1, 2, 1, "azucar_blanco", ⟨2, "azucar_blanco", ("g", false)⟩⟩]
    relinks := [⟨1, .recipeIngredient, 12, 2, some "azucar_blanco"⟩]
    deletedRows := [] }

def oneSugar : Db (String × Bool) :=
  { twoSugars with
    recipeIngredients := [⟨11, 5, 1, some "azucar", 101, ("g", false)⟩]
    deletedRows := [⟨1, .recipeIngredient ⟨12, 5, 1, some "azucar", 1, ("kg", false)⟩, some 11⟩] }

theorem run_twoSugars : run (dedupStatements twoSugars) twoSugars = .ok oneSugar := by
  have hstatements : dedupStatements twoSugars = [mergeLine 1 11 12] := rfl
  have hsum : (100 : ℚ) + 1 = 101 := by norm_num
  have hmerge : mergeLine 1 11 12 twoSugars = .ok oneSugar := by
    unfold oneSugar
    rw [← hsum]
    rfl
  have hvalid : oneSugar.Valid := by decide +kernel
  rw [hstatements, run_cons hmerge hvalid]
  rfl

theorem valid_twoSugars : twoSugars.Valid := by decide +kernel

theorem demandKept_iff_balanced_twoSugars :
    ∃ first ∈ twoSugars.recipeIngredients.filter (·.id ∈ [11, 12]),
      (∀ line ∈ twoSugars.recipeIngredients.filter (·.id ∈ [11, 12]), first.id ≤ line.id) ∧
      ∃ kept, oneSugar.recipeIngredients.filter (·.id ∈ [11, 12]) = [kept] ∧
        (DemandKept (Runtime.replay []) Dict.empty Prod.fst Prod.snd (twoSugars.recipeIngredients.filter (·.id ∈ [11, 12])) kept ↔
          Balanced (Runtime.replay []) Dict.empty Prod.fst Prod.snd (twoSugars.recipeIngredients.filter (·.id ∈ [11, 12])) first) :=
  @demandKept_iff_balanced _ _ _ _ _ rfl _ _ valid_twoSugars run_twoSugars ((5, 1), [11, 12]) (by decide) (by decide)

/-- 100 g and 1 kg are merged into 101 g. -/
theorem twoSugars_unkept : run (dedupStatements twoSugars) twoSugars = .ok oneSugar ∧
    ∀ kept ∈ oneSugar.recipeIngredients,
      ¬ DemandKept (Runtime.replay []) Dict.empty Prod.fst Prod.snd twoSugars.recipeIngredients kept := by
  refine ⟨run_twoSugars, fun kept hkept hdemand => ?_⟩
  obtain rfl := List.mem_singleton.mp hkept
  have hsum := hdemand.demands "g" (fun line => if line.id = 11 then 100 else 1000) fun line hline => by
    rcases List.mem_cons.mp hline with rfl | hline
    · decide +kernel
    · obtain rfl := List.mem_singleton.mp hline
      decide +kernel
  exact absurd hsum (by decide +kernel)

end CestaPlan.Consolidation
