import CestaPlan.History.PriceHistory
import CestaPlan.Library.Selection

/-! The rows that the production writer reads and changes, against the lane of what it records.

    The writer takes the newest open row of the variant, the store, the scope and the type. A lane is told apart by the
    routing flag, the retailer, the zone and the currency as well, so the newest open row may be one of another lane. -/

namespace CestaPlan.History
open Selection

/-- The row passes the query for the open row. -/
structure PriceObservation.Answers (r : PriceObservation) (obs : NormalizedObservation) (ctx : ObservationContext) :
    Prop where
  variant : r.productVariantId = ctx.productVariantId
  scope : r.priceScope = obs.priceScope
  type : r.priceType = obs.priceType
  isOpen : r.validUntil = none
  undisputed : r.isDisputed = false
  store : r.storeId = ctx.storeId

/-- The call keeps to the lane of what it records. -/
structure LaneFramed (db : Db) (obs : NormalizedObservation) (ctx : ObservationContext) : Prop where
  read : ∀ r, latestOpen db ctx.productVariantId ctx.storeId obs.priceScope obs.priceType = some r →
    r.lane = obs.lane ctx
  returned : ∀ db' row, recordObservation db obs ctx = .ok (db', row) → row.lane = obs.lane ctx
  others : ∀ db' row, recordObservation db obs ctx = .ok (db', row) →
    db'.observations.filter (·.lane ≠ obs.lane ctx) = db.observations.filter (·.lane ≠ obs.lane ctx)

instance : Std.Total opensAfter where
  total a b := by
    unfold opensAfter
    rcases lt_trichotomy a.validFrom b.validFrom with h | h | h
    · exact Or.inr (Or.inl h)
    · exact (le_total b.id a.id).imp (fun hid => Or.inr ⟨h, hid⟩) fun hid => Or.inr ⟨h.symm, hid⟩
    · exact Or.inl (Or.inl h)

instance : IsTrans PriceObservation opensAfter where
  trans a b c := by
    unfold opensAfter
    grind

theorem opensAfter_antisymm {a b : PriceObservation} (hab : opensAfter a b) (hba : opensAfter b a) : a.id = b.id := by
  unfold opensAfter at hab hba
  grind

section Reads
variable {db db' : Db} {obs : NormalizedObservation} {ctx : ObservationContext} {r row : PriceObservation}

theorem mem_answers : r ∈ (db.observations.filter fun r =>
      r.productVariantId = ctx.productVariantId && r.priceScope = obs.priceScope && r.priceType = obs.priceType &&
        r.validUntil.isNone && !r.isDisputed && r.storeId = ctx.storeId) ↔
    r ∈ db.observations ∧ r.Answers obs ctx := by
  simp only [List.mem_filter, Bool.and_eq_true, decide_eq_true_eq, Option.isNone_iff_eq_none, Bool.not_eq_true']
  refine and_congr_right fun _ => ⟨?_, ?_⟩
  · rintro ⟨⟨⟨⟨⟨hv, hs⟩, ht⟩, ho⟩, hd⟩, hst⟩
    exact ⟨hv, hs, ht, ho, hd, hst⟩
  · intro h
    exact ⟨⟨⟨⟨⟨h.variant, h.scope⟩, h.type⟩, h.isOpen⟩, h.undisputed⟩, h.store⟩

theorem latestOpen_answers (h : latestOpen db ctx.productVariantId ctx.storeId obs.priceScope obs.priceType = some r) :
    r ∈ db.observations ∧ r.Answers obs ctx :=
  mem_answers.mp (first_mem (r := opensAfter) h)

theorem exists_latestOpen (hr : r ∈ db.observations) (ha : r.Answers obs ctx) :
    ∃ o, latestOpen db ctx.productVariantId ctx.storeId obs.priceScope obs.priceType = some o ∧ opensAfter o r := by
  obtain ⟨o, ho, hfirst⟩ := first_precedes (r := opensAfter) (mem_answers.mpr ⟨hr, ha⟩)
  refine ⟨o, ho, ?_⟩
  rcases hfirst with rfl | hafter
  · exact Or.inr ⟨rfl, le_rfl⟩
  · exact hafter

/-- The row found is of the lane exactly when the lane has a row that comes after every row of another lane. -/
theorem latestOpen_lane_iff (hk : db.Keyed) :
    (∀ r, latestOpen db ctx.productVariantId ctx.storeId obs.priceScope obs.priceType = some r → r.lane = obs.lane ctx) ↔
      ∀ r ∈ db.observations, r.Answers obs ctx → r.lane ≠ obs.lane ctx →
        ∃ o ∈ db.observations, o.Answers obs ctx ∧ o.lane = obs.lane ctx ∧ opensAfter o r := by
  constructor
  · intro h r hr ha _
    obtain ⟨o, ho, hafter⟩ := exists_latestOpen hr ha
    obtain ⟨hmem, hans⟩ := latestOpen_answers ho
    exact ⟨o, hmem, hans, h o ho, hafter⟩
  · intro h r hr
    obtain ⟨hmem, hans⟩ := latestOpen_answers hr
    by_contra hne
    obtain ⟨o, ho, hoans, holane, hafter⟩ := h r hmem hans hne
    obtain ⟨r', hr', hafter'⟩ := exists_latestOpen ho hoans
    obtain rfl := Option.some.inj (hr.symm.trans hr')
    exact hne (List.inj_on_of_nodup_map hk.ids hmem ho (opensAfter_antisymm hafter' hafter) ▸ holane)

theorem filter_lane_update {p : PriceObservation → Bool} {f : PriceObservation → PriceObservation} {lane : Lane}
    (hf : ∀ r, (f r).lane = r.lane) (hp : ∀ r ∈ db.observations, p r = true → r.lane = lane) :
    (db.update p f).observations.filter (·.lane ≠ lane) = db.observations.filter (·.lane ≠ lane) := by
  show (db.observations.map _).filter _ = _
  rw [List.filter_map]
  have hsame : (db.observations.filter ((fun r => decide (r.lane ≠ lane)) ∘ fun r => if p r then f r else r)) =
      db.observations.filter fun r => decide (r.lane ≠ lane) := by
    refine List.filter_congr fun r _ => ?_
    rw [Function.comp_apply]
    split
    · rw [hf]
    · rfl
  rw [hsame]
  refine (List.map_congr_left fun r hr => ?_).trans (List.map_id _)
  obtain ⟨hmem, hne⟩ := List.mem_filter.mp hr
  rw [if_neg fun h => of_decide_eq_true hne (hp r hmem h), id]

theorem filter_lane_insert {lane : Lane} {d : Bool} (h : r.lane = lane) :
    (db.insert r d).observations.filter (·.lane ≠ lane) = db.observations.filter (·.lane ≠ lane) := by
  show (db.observations ++ [r]).filter _ = _
  rw [List.filter_append, List.filter_cons_of_neg (by simp [h]), List.filter_nil, List.append_nil]

/-- A call whose open row is of its lane writes to that lane alone. -/
theorem ObserveStep.others (h : ObserveStep db obs ctx db') (hk : db.Keyed)
    (hread : ∀ r, latestOpen db ctx.productVariantId ctx.storeId obs.priceScope obs.priceType = some r →
      r.lane = obs.lane ctx) :
    db'.observations.filter (·.lane ≠ obs.lane ctx) = db.observations.filter (·.lane ≠ obs.lane ctx) := by
  have hrow : ∀ cur, latestOpen db ctx.productVariantId ctx.storeId obs.priceScope obs.priceType = some cur →
      ∀ r ∈ db.observations, decide (r.id = cur.id) = true → r.lane = obs.lane ctx := by
    intro cur hcur r hr hid
    have heq : r = cur :=
      List.inj_on_of_nodup_map hk.ids hr (latestOpen_answers hcur).1 (of_decide_eq_true hid)
    exact heq ▸ hread cur hcur
  cases h with
  | quarantined => exact filter_lane_insert (d := false) rfl
  | again cur _ _ hcur => exact filter_lane_update (fun _ => rfl) (hrow cur hcur)
  | changed cur _ _ _ hcur =>
    rw [filter_lane_insert (by exact rfl)]
    exact filter_lane_update (fun _ => rfl) (hrow cur hcur)
  | first => exact filter_lane_insert rfl

theorem recordObservation_row (h : recordObservation db obs ctx = .ok (db', row)) :
    row.lane = obs.lane ctx ∨
      ∃ r, latestOpen db ctx.productVariantId ctx.storeId obs.priceScope obs.priceType = some r ∧ row.lane = r.lane := by
  unfold recordObservation at h
  cases hq : ctx.quarantined with
  | true =>
    simp only [hq, if_true] at h
    split at h
    · obtain ⟨-, rfl⟩ := Prod.mk.inj (Except.ok.inj h)
      exact Or.inl rfl
    · cases h
  | false =>
    simp only [hq, Bool.false_eq_true, if_false] at h
    split at h
    · next r hr =>
      obtain ⟨-, rfl⟩ := Prod.mk.inj (Except.ok.inj h)
      exact Or.inr ⟨r, (Option.filter_eq_some_iff.mp hr).1, rfl⟩
    · split at h
      · obtain ⟨-, rfl⟩ := Prod.mk.inj (Except.ok.inj h)
        exact Or.inl rfl
      · cases h

/-- A call keeps to its lane exactly when no newer open row of another lane hides the open row of the lane. -/
theorem laneFramed_iff (hk : db.Keyed) : LaneFramed db obs ctx ↔
    ∀ r ∈ db.observations, r.Answers obs ctx → r.lane ≠ obs.lane ctx →
      ∃ o ∈ db.observations, o.Answers obs ctx ∧ o.lane = obs.lane ctx ∧ opensAfter o r := by
  rw [← latestOpen_lane_iff hk]
  refine ⟨fun h => h.read, fun hread => ⟨hread, fun db' row hok => ?_, fun db' row hok => ?_⟩⟩
  · rcases recordObservation_row hok with hlane | ⟨r, hr, hlane⟩
    · exact hlane
    · exact hlane.trans (hread r hr)
  · exact (recordObservation_step hok).others hk hread

/-- A change at 20 over a row open since 10. -/
theorem laneFramed_iff_milk :
    let db := ({} : Db).observe (milkRead 2 10) (milkContext 10 false)
    LaneFramed db (milkRead 3 20) (milkContext 20 false) ↔
      ∀ r ∈ db.observations, r.Answers (milkRead 3 20) (milkContext 20 false) →
        r.lane ≠ (milkRead 3 20).lane (milkContext 20 false) →
        ∃ o ∈ db.observations, o.Answers (milkRead 3 20) (milkContext 20 false) ∧
          o.lane = (milkRead 3 20).lane (milkContext 20 false) ∧ opensAfter o r :=
  laneFramed_iff ⟨by decide +kernel, by decide +kernel, by decide +kernel⟩

/-- A price in francs ends the open price in euros, and a price of production ends the staged one. -/
theorem not_laneFramed_currency_staged :
    ¬LaneFramed (({} : Db).observe (milkRead 2 10) (milkContext 10 false)) { milkRead 3 20 with currency := "CHF" }
        (milkContext 20 false) ∧
      ¬LaneFramed (({} : Db).record (milk 2 10 1)) (milkRead 3 20) (milkContext 20 false) := by
  refine ⟨fun h => ?_, fun h => ?_⟩
  · have hfits : (({ milkRead 3 20 with currency := "CHF" } : NormalizedObservation).fact (milkContext 20 false)).fits = true := by
      decide +kernel
    obtain ⟨row, hok⟩ := recordObservation_of_fits (({} : Db).observe (milkRead 2 10) (milkContext 10 false)) hfits
    exact absurd (h.others _ row hok) (by decide +kernel)
  · have hfits : ((milkRead 3 20).fact (milkContext 20 false)).fits = true := by decide +kernel
    obtain ⟨row, hok⟩ := recordObservation_of_fits (({} : Db).record (milk 2 10 1)) hfits
    exact absurd (h.others _ row hok) (by decide +kernel)

end Reads

end CestaPlan.History
