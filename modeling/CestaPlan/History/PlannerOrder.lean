import CestaPlan.History.PlanOrder
import CestaPlan.History.PlannerOutput
import CestaPlan.Library.JsonText

/-! The seal of the planner's manifest: what it is after the manifest was written and read back, and whether it depends on the order
    in which the database returns what the planner reads.

    The hash is taken to be injective. The foreign keys of a row are sorted by the hash of the dependent row, the table and the
    column. Two keys of one table that have different names are not told apart by that. -/

namespace CestaPlan.History
open Json (orNull reread sorted floatless field_reread items_reread)

/-! ### What the seal reads of the manifest -/

def fkKey (x : Json String) : List String :=
  [textField "full_row_hash" x, textField "referencing_table" x, textField "referencing_column" x]

section Seals
variable (P : Planner)

theorem fkSeal_manifest (fk : ForeignKey) (row : DependentRow) : fkSeal (.obj (P.fkManifest fk row)) = .obj
    [("referencing_schema", .str fk.referencingSchema), ("referencing_table", .str fk.referencingTable),
      ("referencing_column", .str fk.referencingColumn), ("referred_schema", .str fk.referredSchema),
      ("referred_table", .str fk.referredTable), ("referred_column", .str fk.referredColumn),
      ("constraint_name", orNull (fk.constraintName.map .str)), ("full_row_hash", P.rowHash row.columns),
      ("apply_policy", .str preserveUnchanged), ("restore_policy", .str preserveUnchanged)] := rfl

theorem occurrenceHash_manifest (o : OccurrenceRow) :
    (Json.obj (P.occManifest o)).field "occurrence_hash" = P.rowHash (P.occurrenceValues o) := by
  have hkeys : ∀ k ∈ occKeep, ("occurrence_hash" != k) = true ∧ ("occurrence_hash" != k ++ "_present") = true ∧
      ("occurrence_hash" != k ++ "_hash") = true := by decide +kernel
  have hnone (f g h : String → Json String) : ∀ ks : List String, (∀ k ∈ ks, k ∈ occKeep) →
      (ks.flatMap fun k => if P.isSensitiveKey k then [(k ++ "_present", f k), (k ++ "_hash", g k)] else [(k, h k)]).lookup
        "occurrence_hash" = none := by
    intro ks hks
    refine List.lookup_eq_none_iff.mpr fun e he => ?_
    obtain ⟨k, hk, he⟩ := List.mem_flatMap.mp he
    obtain ⟨hkey, hpresent, hhash⟩ := hkeys k (hks k hk)
    split at he
    · rcases List.mem_pair.mp he with rfl | rfl
      · exact hpresent
      · exact hhash
    · rw [List.mem_singleton.mp he]
      exact hkey
  rw [Planner.occManifest, Json.field, List.lookup_append, hnone _ _ _ _ fun _ hk => hk]
  rfl

theorem rowSeal_manifest (reasons : List String) (occByObs : ℕ → List OccurrenceRow) (supportedFk : ℕ → List Fields)
    (r : ObservationRow) (p : PlannedRow) : rowSeal (.obj (P.rowManifest reasons occByObs supportedFk r p)) = .obj
    [("full_row_hash", P.rowHash r.values),
      ("action", .str ((p.action.map (·.value)).getD "excluded_no_action")),
      ("classification", .str ((p.classification.map (·.text)).getD "excluded")),
      ("expected_state_template", reread (.obj (Planner.expectedTemplate (fun t => .other (P.shown t)) r p))),
      ("expected_template_hash", if p.action.isNone then P.rowHash r.values else P.templateHash r p),
      ("occurrence_hashes", sortBy fieldText ((occByObs r.id).map fun o => P.rowHash (P.occurrenceValues o))),
      ("fk", sortBy fkKey ((supportedFk r.id).map fun fields => fkSeal (.obj fields)))] := by
  have hocc : ((occByObs r.id).map fun o => Json.obj (P.occManifest o)).map (·.field "occurrence_hash") =
      (occByObs r.id).map fun o => P.rowHash (P.occurrenceValues o) := by
    rw [List.map_map]
    exact List.map_congr_left fun o _ => occurrenceHash_manifest P o
  have hfk : ((supportedFk r.id).map Json.obj).map fkSeal = (supportedFk r.id).map fun fields => fkSeal (.obj fields) :=
    List.map_map
  rw [← hocc, ← hfk]
  rfl

end Seals

/-! ### The manifest read back -/

theorem rowSeal_reread {v : Json String}
    (hstr : ∀ x ∈ [(v.field "integrity").field "full_row_hash", v.field "action", v.field "classification",
      v.field "expected_template_hash"], reread x = x)
    (hocc : ∀ o ∈ (v.field "occurrences").items, reread (o.field "occurrence_hash") = o.field "occurrence_hash")
    (hfk : ∀ x ∈ (v.field "incoming_fk_state").items, fkSeal (reread x) = fkSeal x) : rowSeal (reread v) = rowSeal v := by
  simp only [List.forall_mem_cons, List.not_mem_nil, false_implies, implies_true, and_true] at hstr
  obtain ⟨hhash, haction, hclassification, htemplate⟩ := hstr
  have hocc' : ((v.field "occurrences").items.map reread).map (·.field "occurrence_hash") =
      (v.field "occurrences").items.map (·.field "occurrence_hash") := by
    rw [List.map_map]
    exact List.map_congr_left fun o ho => (field_reread _ o).trans (hocc o ho)
  have hfk' : ((v.field "incoming_fk_state").items.map reread).map fkSeal = (v.field "incoming_fk_state").items.map fkSeal := by
    rw [List.map_map]
    exact List.map_congr_left hfk
  simp only [rowSeal, field_reread, items_reread, hhash, haction, hclassification, htemplate, Json.reread_reread, hocc', hfk']

theorem laneSeal_reread {v : Json String}
    (hstr : ∀ x ∈ [v.field "lane_fingerprint", v.field "excluded"], reread x = x)
    (hreasons : ∀ x ∈ (v.field "exclusion_reasons").items, reread x = x)
    (hrows : ∀ r ∈ (v.field "rows").items, rowSeal (reread r) = rowSeal r) : laneSeal (reread v) = laneSeal v := by
  simp only [List.forall_mem_cons, List.not_mem_nil, false_implies, implies_true, and_true] at hstr
  obtain ⟨hfp, hexcluded⟩ := hstr
  have hreasons' : (v.field "exclusion_reasons").items.map reread = (v.field "exclusion_reasons").items :=
    (List.map_congr_left hreasons).trans (List.map_id _)
  have hrows' : ((v.field "rows").items.map reread).map rowSeal = (v.field "rows").items.map rowSeal := by
    rw [List.map_map]
    exact List.map_congr_left hrows
  have heffects : ((v.field "proposed_side_effects").items.map reread).map reread =
      (v.field "proposed_side_effects").items.map reread := by
    rw [List.map_map]
    exact List.map_congr_left fun x _ => Json.reread_reread x
  simp only [laneSeal, field_reread, items_reread, hfp, hexcluded, hreasons', hrows', heffects]

section ReadBack
variable (P : Planner)

theorem reread_orNull {α : Type} {f : α → Json String} (hf : ∀ a, reread (f a) = f a) (o : Option α) :
    reread (orNull (o.map f)) = orNull (o.map f) := by
  cases o with
  | none => rfl
  | some a => exact hf a

theorem fkSeal_reread (fk : ForeignKey) (row : DependentRow) :
    fkSeal (reread (.obj (P.fkManifest fk row))) = fkSeal (.obj (P.fkManifest fk row)) := by
  have hname := reread_orNull (fun s => (rfl : reread (Json.str s) = .str s)) fk.constraintName
  rw [fkSeal_manifest, ← hname]
  rfl

theorem occurrence_reread (o : OccurrenceRow) : reread ((Json.obj (P.occManifest o)).field "occurrence_hash") =
    (Json.obj (P.occManifest o)).field "occurrence_hash" := by
  rw [occurrenceHash_manifest]
  rfl

theorem rowManifest_reread (reasons : List String) (occByObs : ℕ → List OccurrenceRow) {supportedFk : ℕ → List Fields}
    (hfk : ∀ id, ∀ fields ∈ supportedFk id, fkSeal (reread (.obj fields)) = fkSeal (.obj fields)) (r : ObservationRow)
    (p : PlannedRow) : rowSeal (reread (.obj (P.rowManifest reasons occByObs supportedFk r p))) =
      rowSeal (.obj (P.rowManifest reasons occByObs supportedFk r p)) := by
  have htemplate : reread (if p.action.isNone then P.rowHash r.values else P.templateHash r p) =
      if p.action.isNone then P.rowHash r.values else P.templateHash r p := by
    split <;> rfl
  refine rowSeal_reread ?_ ?_ ?_
  · intro x hx
    simp only [List.mem_cons, List.not_mem_nil, or_false] at hx
    rcases hx with rfl | rfl | rfl | rfl
    · rfl
    · rfl
    · rfl
    · exact htemplate
  · intro o ho
    obtain ⟨o, -, rfl⟩ := List.mem_map.mp ho
    exact occurrence_reread P o
  · intro x hx
    obtain ⟨fields, hmem, rfl⟩ := List.mem_map.mp hx
    exact hfk r.id fields hmem

theorem laneManifest_reread (laneFp : String) (rows : List ObservationRow) (occByObs : ℕ → List OccurrenceRow)
    {supportedFk : ℕ → List Fields} (hfk : ∀ id, ∀ fields ∈ supportedFk id, fkSeal (reread (.obj fields)) = fkSeal (.obj fields))
    (unknownFk : ℕ → List String) : laneSeal (reread (.obj (P.laneManifest laneFp rows occByObs supportedFk unknownFk))) =
      laneSeal (.obj (P.laneManifest laneFp rows occByObs supportedFk unknownFk)) := by
  refine laneSeal_reread ?_ ?_ ?_
  · intro x hx
    simp only [List.mem_cons, List.not_mem_nil, or_false] at hx
    rcases hx with rfl | rfl <;> rfl
  · intro x hx
    obtain ⟨reason, -, rfl⟩ := List.mem_map.mp hx
    rfl
  · intro x hx
    have hx : x ∈ List.zipWith (fun r p => Json.obj (P.rowManifest _ occByObs supportedFk r p)) rows _ := hx
    rw [← List.map_uncurry_zip_eq_zipWith] at hx
    obtain ⟨⟨r, p⟩, -, rfl⟩ := List.mem_map.mp hx
    exact rowManifest_reread P _ occByObs hfk r p

theorem fkSealLine_reread (fk : ForeignKey) : fkSealLine (reread fk.json) = fkSealLine fk.json := by
  have hname := reread_orNull (fun s => (rfl : reread (Json.str s) = .str s)) fk.constraintName
  have hfield : (reread fk.json).field "constraint_name" = fk.json.field "constraint_name" :=
    (field_reread _ _).trans hname
  simp only [fkSealLine, textField, hfield]
  rfl

theorem manifest_intact (providerCode : Option String) (retailerId : Option ℤ) {baseline : Fields}
    (hbaseline : reread (.obj baseline) = .obj baseline) {lanePlans : List Fields}
    (hplans : ∀ p ∈ lanePlans, laneSeal (reread (.obj p)) = laneSeal (.obj p)) (discovered : List ForeignKey) :
    P.recomputePlanHash (reread (.obj (P.manifest providerCode retailerId baseline lanePlans discovered))) =
      lookupD (P.manifest providerCode retailerId baseline lanePlans discovered) "plan_hash" := by
  have hlanes : ((lanePlans.map Json.obj).map reread).map laneSeal = (lanePlans.map Json.obj).map laneSeal := by
    simp only [List.map_map]
    exact List.map_congr_left hplans
  have hfks : ((discovered.map (·.json)).map reread).map fkSealLine = (discovered.map (·.json)).map fkSealLine := by
    simp only [List.map_map]
    exact List.map_congr_left fun fk _ => fkSealLine_reread fk
  have htexts (texts : List String) : Json.rereadItems (texts.map Json.str) = texts.map Json.str := by
    rw [Json.rereadItems_eq, List.map_map]
    exact List.map_congr_left fun _ _ => rfl
  have hprovider := reread_orNull (fun s => (rfl : reread (Json.str s) = .str s)) providerCode
  have hretailer := reread_orNull (fun n => (rfl : reread (Json.int n) = .int n)) retailerId
  show P.planSeal (reread (orNull (providerCode.map .str))) (reread (orNull (retailerId.map .int))) (reread (.obj baseline))
    (Json.rereadItems (lanePlans.map Json.obj)) (Json.rereadItems (discovered.map (·.json))) P.provenance _
    (Json.rereadItems (P.applyBlockers.map Json.str)) (Json.rereadItems (Planner.applyPrerequisites.map Json.str)) _ = P.planSeal _ _ _ _ _ _ _ _ _ _
  rw [hprovider, hretailer, hbaseline, htexts, htexts, Json.rereadItems_eq, Json.rereadItems_eq]
  unfold Planner.planSeal
  rw [hlanes, hfks]
  rfl

theorem dryRun_intact (db : PlannerDb) (provider : Option Provider) :
    P.recomputePlanHash (reread (.obj (P.dryRun db provider))) = lookupD (P.dryRun db provider) "plan_hash" := by
  have hplans (rows : List ObservationRow) : ∀ p ∈ P.lanePlans db rows, laneSeal (reread (.obj p)) = laneSeal (.obj p) := by
    intro p hp
    obtain ⟨l, -, rfl⟩ := List.mem_map.mp hp
    refine laneManifest_reread P _ _ _ (fun id fields hfields => ?_) _
    obtain ⟨fk, -, hrow⟩ := List.mem_flatMap.mp hfields
    obtain ⟨row, -, rfl⟩ := List.mem_map.mp hrow
    exact fkSeal_reread P fk row
  unfold Planner.dryRun
  split
  · exact manifest_intact P _ _ rfl (fun p hp => absurd hp List.not_mem_nil) _
  · exact manifest_intact P _ _ rfl (hplans _) _

end ReadBack

/-! ### What the hashes tell -/

theorem hexdigest_injective : Function.Injective hexdigest := by
  intro a b h
  have hdigit : ∀ x y : Fin 16, Nat.digitChar x.val = Nat.digitChar y.val → x = y := by decide
  exact List.map_injective_iff.mpr (fun x y => hdigit x y) (String.ofList_injective h)

theorem orNull_injective {α : Type} {f : α → Json String} (hf : Function.Injective f) (hnull : ∀ a, f a ≠ .null) {o o' : Option α}
    (h : orNull (o.map f) = orNull (o'.map f)) : o = o' := by
  cases o <;> cases o'
  · rfl
  · exact absurd h.symm (hnull _)
  · exact absurd h (hnull _)
  · exact congrArg some (hf h)

theorem sorted_orNull {α : Type} {f : α → Json String} (hf : ∀ a, sorted (f a) = f a) (o : Option α) :
    sorted (orNull (o.map f)) = orNull (o.map f) := by
  cases o with
  | none => rfl
  | some a => exact hf a

theorem priceScope_value_injective : Function.Injective PriceScope.value := by
  intro a b h
  cases a <;> cases b <;> first | rfl | exact absurd h (by decide)

theorem priceType_value_injective : Function.Injective PriceType.value := by
  intro a b h
  cases a <;> cases b <;> first | rfl | exact absurd h (by decide)

theorem floatless_values (r : ObservationRow) : floatless (.obj r.values) = true := by
  have hint (o : Option ℤ) := @Json.floatless_orNull ℤ .int (fun _ => rfl) o
  have hbool (o : Option Bool) := @Json.floatless_orNull Bool .bool (fun _ => rfl) o
  have hstr (o : Option String) := @Json.floatless_orNull String .str (fun _ => rfl) o
  have hiso (o : Option Instant) := @Json.floatless_orNull Instant isoJson (fun _ => rfl) o
  have hunit (o : Option ℚ) := @Json.floatless_orNull ℚ (fun u => .str (normalizedText 6 u)) (fun _ => rfl) o
  rw [floatless, Json.floatlessEntries_eq]
  simp only [ObservationRow.values, ObservationRow.identity, ObservationRow.temporal, List.cons_append, List.nil_append, List.all_cons,
    List.all_nil, hint, hbool, hstr, hiso, hunit, isoJson, floatless, Bool.and_self]

/-- What the fingerprint of a lane is the hash of. -/
def laneValues (r : ObservationRow) : List (Json String) := laneFields.map fun f => normalizeField f (lookupD r.values f)

theorem laneValues_eq (r : ObservationRow) : laneValues r =
    [.bool r.stagingOnly, .int r.retailerId, .int r.productVariantId, orNull (r.storeId.map .int), orNull (r.deliveryZoneId.map .int),
      .str r.priceScope.value, .str r.priceType.value, .str r.currency] := by
  have hint (field : String) (o : Option ℤ) : normalizeField field (orNull (o.map .int)) = orNull (o.map .int) := by cases o <;> rfl
  rw [← hint "store_id" r.storeId, ← hint "delivery_zone_id" r.deliveryZoneId]
  rfl

theorem floatless_laneValues (r : ObservationRow) : ∀ v ∈ laneValues r, floatless v = true := by
  have hint (o : Option ℤ) := @Json.floatless_orNull ℤ .int (fun _ => rfl) o
  simp only [laneValues_eq, List.forall_mem_cons, hint, floatless, List.not_mem_nil, false_implies, implies_true, and_self]

section Hashes
variable {P : Planner} (hsha : Function.Injective P.sha256)
include hsha

theorem sorted_eq_of_hash_eq {v w : Json String} (hv : floatless v = true) (hw : floatless w = true)
    (h : P.valueHash v = P.valueHash w) : sorted v = sorted w :=
  Json.sorted_eq_of_dumps_eq hv hw (hsha (hexdigest_injective (Json.str.inj h)))

theorem id_of_rowHash_eq {r r' : ObservationRow} (h : P.rowHash r.values = P.rowHash r'.values) : r.id = r'.id := by
  have hsorted := congrArg (Json.field "id") (sorted_eq_of_hash_eq hsha (floatless_values r) (floatless_values r') h)
  rw [Json.field_sorted, Json.field_sorted] at hsorted
  have hid : (Json.int r.id : Json String) = .int r'.id := hsorted
  exact Int.ofNat.inj (Json.int.inj hid)

theorem lane_of_laneFingerprint_eq {r r' : ObservationRow} (h : P.laneFingerprint r = P.laneFingerprint r') : r.lane = r'.lane := by
  have htexts : ['|'].intercalate ((laneValues r).map (Json.dumps Json.plain)) =
      ['|'].intercalate ((laneValues r').map (Json.dumps Json.plain)) := by
    rw [laneValues, laneValues, List.map_map, List.map_map]
    exact hsha (hexdigest_injective h)
  have hlength : (laneValues r).length = (laneValues r').length := by rw [laneValues, laneValues, List.length_map, List.length_map]
  have hsorted := @Json.sorted_eq_of_intercalate_eq '|' rfl [] _ _ hlength (floatless_laneValues r) (floatless_laneValues r') htexts
  have hint (o : Option ℤ) := @sorted_orNull ℤ .int (fun _ => rfl) o
  simp only [laneValues_eq, List.map_cons, List.map_nil, hint, sorted, List.cons.injEq, Json.bool.injEq, Json.int.injEq, Json.str.injEq,
    and_true] at hsorted
  obtain ⟨hstaging, hretailer, hvariant, hstore, hzone, hscope, htype, hcurrency⟩ := hsorted
  have hintinj : Function.Injective (Json.int : ℤ → Json String) := fun _ _ => Json.int.inj
  have hintnull (n : ℤ) : (Json.int n : Json String) ≠ .null := by simp
  simp only [PriceObservation.lane, PriceFact.lane, hstaging, hretailer, hvariant, hcurrency,
    orNull_injective hintinj hintnull hstore, orNull_injective hintinj hintnull hzone,
    priceScope_value_injective hscope, priceType_value_injective htype]

end Hashes

theorem laneFingerprint_eq_of_lane_eq (P : Planner) {r r' : ObservationRow} (h : r.lane = r'.lane) :
    P.laneFingerprint r = P.laneFingerprint r' := by
  have hvalues (r : ObservationRow) : P.laneFingerprint r =
      hexdigest (P.sha256 ("|".toList.intercalate ((laneValues r).map (Json.dumps Json.plain)))) := by
    rw [laneValues, List.map_map]
    rfl
  simp only [PriceObservation.lane, PriceFact.lane, Lane.mk.injEq] at h
  obtain ⟨hstaging, hretailer, hvariant, hstore, hzone, hscope, htype, hcurrency⟩ := h
  rw [hvalues, hvalues, laneValues_eq, laneValues_eq, hstaging, hretailer, hvariant, hstore, hzone, hscope, htype, hcurrency]

/-! ### Two orders -/

/-- One state, its tables and its catalog read in two orders. -/
structure PlannerDb.Reordered (db db' : PlannerDb) : Prop where
  observations : db.observations.Perm db'.observations
  occurrences : db.occurrences.Perm db'.occurrences
  foreignKeys : db.foreignKeys.Perm db'.foreignKeys
  promotionRules : db.promotionRules.Perm db'.promotionRules
  anomalies : db.anomalies.Perm db'.anomalies
  references : db.references.Perm db'.references

namespace PlannerDb.Reordered
variable {db db' : PlannerDb} (h : db.Reordered db')
include h

theorem loaded (provider : Option Provider) : (db.loaded provider).Perm (db'.loaded provider) := h.observations.filter _

theorem occByObs (id : ℕ) : (db.occByObs id).Perm (db'.occByObs id) := h.occurrences.filter _

theorem dependents (fk : ForeignKey) : (db.dependents fk).Perm (db'.dependents fk) := by
  unfold PlannerDb.dependents
  split
  · exact h.promotionRules
  · split
    · exact h.anomalies
    · exact .refl _

theorem supportedFk (P : Planner) (id : ℕ) : (db.supportedFk P id).Perm (db'.supportedFk P id) :=
  (h.foreignKeys.filter _).flatMap fun fk _ => ((h.dependents fk).filter _).map _

theorem unknownFk (id : ℕ) : (db.unknownFk id).Perm (db'.unknownFk id) :=
  (h.foreignKeys.filter _).flatMap fun _ _ => (h.references.filter _).map _

end PlannerDb.Reordered

theorem sortBy_perm {κ : Type} [LinearOrder κ] {key : Json String → κ} {items items' : List (Json String)}
    (hinj : ∀ a ∈ items, ∀ b ∈ items, key a = key b → a = b) (h : items.Perm items') : sortBy key items = sortBy key items' :=
  congrArg Json.arr (Grouping.insertionSort_perm hinj h)

theorem sortBy_texts_perm {texts texts' : List String} (h : texts.Perm texts') :
    sortBy fieldText (texts.map .str) = sortBy fieldText (texts'.map .str) := by
  refine sortBy_perm (fun a ha b hb heq => ?_) (h.map _)
  obtain ⟨s, -, rfl⟩ := List.mem_map.mp ha
  obtain ⟨t, -, rfl⟩ := List.mem_map.mp hb
  exact congrArg Json.str heq

/-! #### A row -/

section Rows
variable {P : Planner} {reasons reasons' : List String} {occByObs occByObs' : ℕ → List OccurrenceRow}
  {supportedFk supportedFk' : ℕ → List Fields}

theorem expectedTemplate_shown (render : Instant → Json String) (r : ObservationRow) {p p' : PlannedRow} (h : p.shown = p'.shown) :
    Planner.expectedTemplate render r p = Planner.expectedTemplate render r p' := by
  simp only [PlannedRow.shown, ShownPlan.mk.injEq] at h
  obtain ⟨-, -, haction, hexpected⟩ := h
  rw [Planner.expectedTemplate, Planner.expectedTemplate, haction, hexpected]

theorem rowSeal_reordered {r : ObservationRow} {p p' : PlannedRow} (hshown : p.shown = p'.shown)
    (hocc : (occByObs r.id).Perm (occByObs' r.id))
    (hfk : sortBy fkKey ((supportedFk r.id).map fun fields => fkSeal (.obj fields)) =
      sortBy fkKey ((supportedFk' r.id).map fun fields => fkSeal (.obj fields))) :
    rowSeal (.obj (P.rowManifest reasons occByObs supportedFk r p)) =
      rowSeal (.obj (P.rowManifest reasons' occByObs' supportedFk' r p')) := by
  have htemplate (render : Instant → Json String) := expectedTemplate_shown render r hshown
  have hhashes := sortBy_texts_perm (hocc.map fun o => fieldText (P.rowHash (P.occurrenceValues o)))
  rw [List.map_map, List.map_map] at hhashes
  simp only [PlannedRow.shown, ShownPlan.mk.injEq] at hshown
  obtain ⟨hclassification, -, haction, -⟩ := hshown
  simp only [rowSeal_manifest, Planner.templateHash, htemplate, hclassification, haction, hfk]
  simp only [show (fun o => P.rowHash (P.occurrenceValues o)) =
    Json.str ∘ fun o => fieldText (P.rowHash (P.occurrenceValues o)) from rfl, hhashes]

end Rows

/-! #### A lane -/

section Lanes
variable {P : Planner} (hsha : Function.Injective P.sha256)

theorem laneSeal_manifest {laneFp : String} {rows : List ObservationRow} {occByObs : ℕ → List OccurrenceRow}
    {supportedFk : ℕ → List Fields} {unknownFk : ℕ → List String} {f : PriceObservation → PlannedRow}
    (hf : (Planner.lanePlan rows occByObs unknownFk).rows = (rows.map (·.toPriceObservation)).map f) :
    laneSeal (.obj (P.laneManifest laneFp rows occByObs supportedFk unknownFk)) = .obj
      [("lane_fingerprint", .str laneFp),
        ("excluded", .bool (Planner.lanePlan rows occByObs unknownFk).excluded),
        ("exclusion_reasons", sortBy fieldText ((Planner.lanePlan rows occByObs unknownFk).exclusionReasons.map .str)),
        ("rows", sortBy (textField "full_row_hash") (rows.map fun r => rowSeal (.obj (P.rowManifest
          (Planner.lanePlan rows occByObs unknownFk).exclusionReasons occByObs supportedFk r (f r.toPriceObservation))))),
        ("proposed_side_effects", sortBy (textField "deterministic_action_id")
          ((rows.filter fun r => (Planner.lanePlan rows occByObs unknownFk).proposedSideEffects.contains r.id).map fun r =>
            reread (.obj (P.sideEffect laneFp r))))] := by
  have hrows : (List.zipWith (fun r p => Json.obj (P.rowManifest (Planner.lanePlan rows occByObs unknownFk).exclusionReasons occByObs
      supportedFk r p)) rows (Planner.lanePlan rows occByObs unknownFk).rows).map rowSeal = rows.map fun r => rowSeal (.obj (P.rowManifest
        (Planner.lanePlan rows occByObs unknownFk).exclusionReasons occByObs supportedFk r (f r.toPriceObservation))) := by
    rw [hf, List.map_map, List.zipWith_map_right, List.zipWith_self, List.map_map]
    rfl
  have heffects : (((rows.filter fun r => (Planner.lanePlan rows occByObs unknownFk).proposedSideEffects.contains r.id).map fun r =>
      Json.obj (P.sideEffect laneFp r)).map (·.reread)) =
        (rows.filter fun r => (Planner.lanePlan rows occByObs unknownFk).proposedSideEffects.contains r.id).map fun r =>
          reread (.obj (P.sideEffect laneFp r)) := List.map_map
  rw [← hrows, ← heffects]
  rfl

include hsha

theorem sideEffect_unique {laneFp : String} {r r' : ObservationRow}
    (h : textField "deterministic_action_id" (reread (.obj (P.sideEffect laneFp r))) =
      textField "deterministic_action_id" (reread (.obj (P.sideEffect laneFp r')))) : r.id = r'.id := by
  have hsorted := congrArg (Json.field "target_observation_ref")
    (sorted_eq_of_hash_eq hsha (v := .obj _) (w := .obj _) rfl rfl (congrArg Json.str h))
  rw [Json.field_sorted, Json.field_sorted] at hsorted
  exact id_of_rowHash_eq hsha hsorted

theorem laneSeal_reordered {laneFp : String} {rows rows' : List ObservationRow} {occByObs occByObs' : ℕ → List OccurrenceRow}
    {supportedFk supportedFk' : ℕ → List Fields} {unknownFk unknownFk' : ℕ → List String} (hrows : rows.Perm rows')
    (hids : (rows.map (·.id)).Nodup) (hlane : ∃ lane, ∀ r ∈ rows, r.lane = lane) (hocc : ∀ id, (occByObs id).Perm (occByObs' id))
    (hunknown : ∀ id, (unknownFk id).Perm (unknownFk' id))
    (hfk : ∀ r ∈ rows, sortBy fkKey ((supportedFk r.id).map fun fields => fkSeal (.obj fields)) =
      sortBy fkKey ((supportedFk' r.id).map fun fields => fkSeal (.obj fields))) :
    laneSeal (.obj (P.laneManifest laneFp rows occByObs supportedFk unknownFk)) =
      laneSeal (.obj (P.laneManifest laneFp rows' occByObs' supportedFk' unknownFk')) := by
  have hreordered : LaneReordered (rows.map (·.toPriceObservation)) (rows'.map (·.toPriceObservation))
      (fun id => (occByObs id).map (·.toPriceObservationOccurrence)) (fun id => (occByObs' id).map (·.toPriceObservationOccurrence))
      unknownFk unknownFk' := {
    perm := hrows.map _
    ids := by rwa [List.map_map]
    lane := hlane.imp fun lane hlane => List.forall_mem_map.mpr hlane
    occurrences := fun id => (hocc id).map _
    references := hunknown }
  have halike : LanePlan.Alike (rows.map (·.toPriceObservation)) (rows'.map (·.toPriceObservation))
      (Planner.lanePlan rows occByObs unknownFk) (Planner.lanePlan rows' occByObs' unknownFk') := hreordered.planLane
  obtain ⟨hexcluded, hreasons, ⟨f, f', hf, hf', hshown⟩, heffects⟩ := halike
  have hid {a b : ObservationRow} (ha : a ∈ rows) (hb : b ∈ rows) (h : a.id = b.id) : a = b :=
    List.inj_on_of_nodup_map hids ha hb h
  have hsealed : rows.map (fun r => rowSeal (.obj (P.rowManifest (Planner.lanePlan rows occByObs unknownFk).exclusionReasons occByObs
      supportedFk r (f r.toPriceObservation)))) = rows.map fun r => rowSeal (.obj (P.rowManifest
        (Planner.lanePlan rows' occByObs' unknownFk').exclusionReasons occByObs' supportedFk' r (f' r.toPriceObservation))) :=
    List.map_congr_left fun r hr => rowSeal_reordered (hshown _) (hocc r.id) (hfk r hr)
  have hrowsSeal : sortBy (textField "full_row_hash") (rows.map fun r => rowSeal (.obj (P.rowManifest
      (Planner.lanePlan rows' occByObs' unknownFk').exclusionReasons occByObs' supportedFk' r (f' r.toPriceObservation)))) =
      sortBy (textField "full_row_hash") (rows'.map fun r => rowSeal (.obj (P.rowManifest
        (Planner.lanePlan rows' occByObs' unknownFk').exclusionReasons occByObs' supportedFk' r (f' r.toPriceObservation)))) := by
    refine sortBy_perm (fun a ha b hb heq => ?_) (hrows.map _)
    obtain ⟨r, hr, rfl⟩ := List.mem_map.mp ha
    obtain ⟨r', hr', rfl⟩ := List.mem_map.mp hb
    rw [hid hr hr' (id_of_rowHash_eq hsha (congrArg Json.str heq))]
  have hcontains (id : ℕ) : (Planner.lanePlan rows occByObs unknownFk).proposedSideEffects.contains id =
      (Planner.lanePlan rows' occByObs' unknownFk').proposedSideEffects.contains id := heffects.contains_eq
  have heffectsSeal (q : ℕ → Bool) : sortBy (textField "deterministic_action_id")
      ((rows.filter fun r => q r.id).map fun r => reread (.obj (P.sideEffect laneFp r))) =
      sortBy (textField "deterministic_action_id") ((rows'.filter fun r => q r.id).map fun r => reread (.obj (P.sideEffect laneFp r))) := by
    refine sortBy_perm (fun a ha b hb heq => ?_) ((hrows.filter _).map _)
    obtain ⟨r, hr, rfl⟩ := List.mem_map.mp ha
    obtain ⟨r', hr', rfl⟩ := List.mem_map.mp hb
    rw [hid (List.mem_of_mem_filter hr) (List.mem_of_mem_filter hr') (sideEffect_unique hsha heq)]
  rw [laneSeal_manifest hf, laneSeal_manifest hf', hsealed, hrowsSeal, sortBy_texts_perm hreasons, hexcluded, heffectsSeal]
  simp only [hcontains]

end Lanes

/-! #### The keys of one table -/

namespace PlannerDb
variable (db : PlannerDb) (provider : Option Provider)

/-- The rows that are loaded of one lane. -/
def laneRows (lane : Lane) : List ObservationRow := (db.loaded provider).filter (·.lane = lane)

def anomalous (lane : Lane) : Bool :=
  !simReportOk (laneInvariantReport ((db.laneRows provider lane).map (·.toPriceObservation)))

/-- A row of a lane whose report is not clean has a dependent, in a table for which the catalog has two keys with different names. -/
def Ambiguous : Prop :=
  ∃ r ∈ db.loaded provider, db.anomalous provider r.lane = true ∧ ∃ fk ∈ db.foreignKeys, ∃ fk' ∈ db.foreignKeys,
    fkClassification fk = .domainSupported ∧ fkClassification fk' = .domainSupported ∧
      fk.referencingTable = fk'.referencingTable ∧ fk.constraintName ≠ fk'.constraintName ∧
        ∃ row ∈ db.dependents fk, row.priceObservationId = some r.id

/-- The keys that the manifest describes. -/
def discovered : List ForeignKey :=
  match provider with
  | some (_, none) => []
  | _ => db.foreignKeys

end PlannerDb

/-- The columns of a supported key, but for the table that it is in. -/
structure SupportedKey (fk : ForeignKey) : Prop where
  referencingSchema : fk.referencingSchema = "public"
  referencingColumn : fk.referencingColumn = "price_observation_id"
  referredSchema : fk.referredSchema = "public"
  referredTable : fk.referredTable = "price_observation"
  referredColumn : fk.referredColumn = "id"

theorem supportedKey {fk : ForeignKey} (h : fkClassification fk = .domainSupported) : SupportedKey fk := by
  unfold fkClassification at h
  split at h
  · cases h
  · next hcanonical =>
    split at h
    · next hhandler =>
      simp only [canonicalReferred, hasHandler, Bool.not_eq_true, Bool.not_eq_false', Bool.and_eq_true, decide_eq_true_eq] at hcanonical hhandler
      exact ⟨hhandler.1.1, hhandler.2, hcanonical.1.1, hcanonical.1.2, hcanonical.2⟩
    · cases h

theorem fkSeal_unique {P : Planner} {fk fk' : ForeignKey} {row row' : DependentRow} (hfk : SupportedKey fk) (hfk' : SupportedKey fk')
    (hkey : fkKey (fkSeal (.obj (P.fkManifest fk row))) = fkKey (fkSeal (.obj (P.fkManifest fk' row'))))
    (hname : fk.constraintName = fk'.constraintName) :
    fkSeal (.obj (P.fkManifest fk row)) = fkSeal (.obj (P.fkManifest fk' row')) := by
  have hkey : [fieldText (P.rowHash row.columns), fk.referencingTable, fk.referencingColumn] =
      [fieldText (P.rowHash row'.columns), fk'.referencingTable, fk'.referencingColumn] := hkey
  simp only [List.cons.injEq, and_true] at hkey
  have hhash : P.rowHash row.columns = P.rowHash row'.columns := congrArg Json.str hkey.1
  rw [fkSeal_manifest, fkSeal_manifest, hname, hhash, hkey.2.1, hfk.referencingSchema, hfk'.referencingSchema, hfk.referencingColumn,
    hfk'.referencingColumn, hfk.referredSchema, hfk'.referredSchema, hfk.referredTable, hfk'.referredTable, hfk.referredColumn,
    hfk'.referredColumn]

theorem fkSeals_reordered {P : Planner} {db db' : PlannerDb} {provider : Option Provider} (h : db.Reordered db')
    (hclear : ¬db.Ambiguous provider) {r : ObservationRow} (hr : r ∈ db.loaded provider) (hanomalous : db.anomalous provider r.lane = true) :
    sortBy fkKey ((db.supportedFk P r.id).map fun fields => fkSeal (.obj fields)) =
      sortBy fkKey ((db'.supportedFk P r.id).map fun fields => fkSeal (.obj fields)) := by
  have hmem {x : Json String} (hx : x ∈ (db.supportedFk P r.id).map fun fields => fkSeal (.obj fields)) :
      ∃ fk ∈ db.foreignKeys, fkClassification fk = .domainSupported ∧ ∃ row ∈ db.dependents fk, row.priceObservationId = some r.id ∧
        fkSeal (.obj (P.fkManifest fk row)) = x := by
    obtain ⟨fields, hfields, rfl⟩ := List.mem_map.mp hx
    obtain ⟨fk, hfk, hfields⟩ := List.mem_flatMap.mp hfields
    obtain ⟨row, hrow, rfl⟩ := List.mem_map.mp hfields
    obtain ⟨hfk, hsupported⟩ := List.mem_filter.mp hfk
    obtain ⟨hrow, hid⟩ := List.mem_filter.mp hrow
    exact ⟨fk, hfk, of_decide_eq_true hsupported, row, hrow, of_decide_eq_true hid, rfl⟩
  refine sortBy_perm (fun a ha b hb hkey => ?_) ((h.supportedFk P r.id).map _)
  obtain ⟨fk, hfk, hsupported, row, hrow, hid, rfl⟩ := hmem ha
  obtain ⟨fk', hfk', hsupported', row', hrow', hid', rfl⟩ := hmem hb
  refine fkSeal_unique (supportedKey hsupported) (supportedKey hsupported') hkey ?_
  by_contra hname
  have htable : fk.referencingTable = fk'.referencingTable := (List.cons.inj (List.cons.inj hkey).2).1
  exact hclear ⟨r, hr, hanomalous, fk, hfk, fk', hfk', hsupported, hsupported', htable, hname, row, hrow, hid⟩

/-! #### The plan -/

section Plan
variable (P : Planner)

/-- The `plan_hash` of the manifest. -/
def Planner.planHash (db : PlannerDb) (provider : Option Provider) : Json String := lookupD (P.dryRun db provider) "plan_hash"

/-- The seal of a lane, where its report is not clean. -/
def Planner.sealedLane (db : PlannerDb) (provider : Option Provider) (lane : Lane) : Option (Json String) :=
  if db.anomalous provider lane then
    (db.laneRows provider lane).head?.map fun r => laneSeal (.obj (P.laneManifest (P.laneFingerprint r) (db.laneRows provider lane)
      db.occByObs (db.supportedFk P) db.unknownFk))
  else none

theorem planHash_eq (db : PlannerDb) (provider : Option Provider) : P.planHash db provider =
    P.planSeal (orNull ((provider.map (·.1)).map .str)) (orNull ((provider.bind (·.2)).map .int))
      (.obj [("price_observation", countJson db.observations.length), ("price_observation_occurrence", countJson db.occurrences.length)])
      ((P.lanePlans db (db.loaded provider)).map .obj) ((db.discovered provider).map (·.json)) P.provenance (.bool P.provenanceComplete)
      (P.applyBlockers.map .str) (Planner.applyPrerequisites.map .str) (.str P.plannerSourceHash) := by
  match provider with
  | none => rfl
  | some (_, some _) => rfl
  | some (code, none) =>
    have hloaded : db.loaded (some (code, none)) = [] := List.filter_eq_nil_iff.mpr fun r _ => by simp
    rw [hloaded]
    rfl

theorem lanePlans_perm (db : PlannerDb) (provider : Option Provider) :
    (((P.lanePlans db (db.loaded provider)).map Json.obj).map laneSeal).Perm
      (((db.loaded provider).map (·.lane)).eraseDups.filterMap (P.sealedLane db provider)) := by
  have hlist (lanes : List Lane) : (((lanes.map fun lane => db.laneRows provider lane).filterMap fun group =>
      group.head?.map fun r => (P.laneFingerprint r, group)).filter fun l =>
        !simReportOk (laneInvariantReport (l.2.map (·.toPriceObservation)))).map (fun l =>
          laneSeal (.obj (P.laneManifest l.1 l.2 db.occByObs (db.supportedFk P) db.unknownFk))) =
      lanes.filterMap (P.sealedLane db provider) := by
    induction lanes with
    | nil => rfl
    | cons lane lanes ih =>
      rw [List.map_cons, List.filterMap_cons, List.filterMap_cons, ← ih]
      cases hhead : (db.laneRows provider lane).head? with
      | none => cases ha : db.anomalous provider lane <;> simp [Planner.sealedLane, hhead, ha]
      | some r =>
        cases ha : db.anomalous provider lane
        · have hok : simReportOk (laneInvariantReport ((db.laneRows provider lane).map (·.toPriceObservation))) = true := by
            simpa [PlannerDb.anomalous] using ha
          simp [Planner.sealedLane, ha, hok]
        · have hok : simReportOk (laneInvariantReport ((db.laneRows provider lane).map (·.toPriceObservation))) = false := by
            simpa [PlannerDb.anomalous] using ha
          simp [Planner.sealedLane, hhead, ha, hok]
  rw [← hlist, List.map_map, Planner.lanePlans, List.map_map]
  exact ((List.perm_insertionSort _ _).filter _).map _

theorem exists_of_sealedLane {db : PlannerDb} {provider : Option Provider} {lane : Lane} {x : Json String}
    (h : P.sealedLane db provider lane = some x) : db.anomalous provider lane = true ∧ ∃ r ∈ db.laneRows provider lane,
      x = laneSeal (.obj (P.laneManifest (P.laneFingerprint r) (db.laneRows provider lane) db.occByObs (db.supportedFk P) db.unknownFk)) := by
  unfold Planner.sealedLane at h
  split at h
  · next ha =>
    obtain ⟨r, hr, rfl⟩ := Option.map_eq_some_iff.mp h
    exact ⟨ha, r, List.mem_of_head? hr, rfl⟩
  · cases h

theorem mem_laneRows {db : PlannerDb} {provider : Option Provider} {lane : Lane} {r : ObservationRow} :
    r ∈ db.laneRows provider lane ↔ r ∈ db.loaded provider ∧ r.lane = lane := by
  rw [PlannerDb.laneRows, List.mem_filter, decide_eq_true_eq]

variable {P} (hsha : Function.Injective P.sha256)
include hsha

theorem sealedLane_unique {db : PlannerDb} {provider : Option Provider} {lane lane' : Lane} {x y : Json String}
    (hx : P.sealedLane db provider lane = some x) (hy : P.sealedLane db provider lane' = some y)
    (h : textField "lane_fingerprint" x = textField "lane_fingerprint" y) : lane = lane' := by
  obtain ⟨-, r, hr, rfl⟩ := exists_of_sealedLane P hx
  obtain ⟨-, r', hr', rfl⟩ := exists_of_sealedLane P hy
  rw [← (mem_laneRows.mp hr).2, ← (mem_laneRows.mp hr').2]
  exact lane_of_laneFingerprint_eq hsha h

variable {db db' : PlannerDb} {provider : Option Provider} (hids : (db.observations.map (·.id)).Nodup) (h : db.Reordered db')
include hids h

theorem sealedLane_reordered (hclear : ¬db.Ambiguous provider) (lane : Lane) :
    P.sealedLane db provider lane = P.sealedLane db' provider lane := by
  have hrows : (db.laneRows provider lane).Perm (db'.laneRows provider lane) := (h.loaded provider).filter _
  have hlane : ∀ r ∈ db.laneRows provider lane, r.lane = lane := fun r hr => (mem_laneRows.mp hr).2
  have hanomalous : db.anomalous provider lane = db'.anomalous provider lane :=
    congrArg not (simReportOk_perm ⟨lane, List.forall_mem_map.mpr hlane⟩ (hrows.map _))
  unfold Planner.sealedLane
  rw [← hanomalous]
  split
  · next ha =>
    cases hhead : (db.laneRows provider lane).head? with
    | none =>
      rw [List.head?_eq_none_iff.mp hhead] at hrows
      rw [← hrows.nil_eq]
      rfl
    | some r =>
      obtain ⟨r', rest, hrows'⟩ := List.exists_cons_of_ne_nil
        (List.ne_nil_of_mem (hrows.mem_iff.mp (List.mem_of_head? hhead)))
      have hr' : r' ∈ db'.laneRows provider lane := hrows' ▸ List.mem_cons_self
      have hfp : P.laneFingerprint r = P.laneFingerprint r' := laneFingerprint_eq_of_lane_eq P
        ((hlane r (List.mem_of_head? hhead)).trans (hlane r' (hrows.mem_iff.mpr hr')).symm)
      have hseal := @laneSeal_reordered P hsha (P.laneFingerprint r) _ _ _ _ _ _ _ _ hrows
        (hids.sublist ((List.filter_sublist.trans List.filter_sublist).map _)) ⟨lane, hlane⟩ h.occByObs h.unknownFk
        fun r hr => fkSeals_reordered (P := P) h hclear (mem_laneRows.mp hr).1 ((hlane r hr).symm ▸ ha)
      rw [hrows'] at hseal ⊢
      rw [hfp] at hseal
      simp only [List.head?_cons, Option.map_some, hfp, hseal]
  · rfl

theorem planHash_reordered (hclear : ¬db.Ambiguous provider) : P.planHash db' provider = P.planHash db provider := by
  have hlanes : (((P.lanePlans db (db.loaded provider)).map Json.obj).map laneSeal).Perm
      (((P.lanePlans db' (db'.loaded provider)).map Json.obj).map laneSeal) := by
    refine (lanePlans_perm P db provider).trans (.trans ?_ (lanePlans_perm P db' provider).symm)
    rw [funext (sealedLane_reordered hsha hids h hclear)]
    exact (Grouping.eraseDups_perm ((h.loaded provider).map _)).filterMap _
  have hsorted : sortBy (textField "lane_fingerprint") (((P.lanePlans db (db.loaded provider)).map Json.obj).map laneSeal) =
      sortBy (textField "lane_fingerprint") (((P.lanePlans db' (db'.loaded provider)).map Json.obj).map laneSeal) := by
    refine sortBy_perm (fun a ha b hb heq => ?_) hlanes
    obtain ⟨lane, -, hlane⟩ := List.mem_filterMap.mp ((lanePlans_perm P db provider).mem_iff.mp ha)
    obtain ⟨lane', -, hlane'⟩ := List.mem_filterMap.mp ((lanePlans_perm P db provider).mem_iff.mp hb)
    rw [sealedLane_unique hsha hlane hlane' heq] at hlane
    exact Option.some.inj (hlane.symm.trans hlane')
  have hdiscovered : (db.discovered provider).Perm (db'.discovered provider) := by
    unfold PlannerDb.discovered
    split
    · exact .refl _
    · exact h.foreignKeys
  have hlines (l : List ForeignKey) :
      (l.map (·.json)).map fkSealLine = (l.map fun fk => fieldText (fkSealLine fk.json)).map Json.str := by
    rw [List.map_map, List.map_map]
    rfl
  rw [planHash_eq, planHash_eq, h.observations.length_eq, h.occurrences.length_eq]
  unfold Planner.planSeal
  rw [hsorted, hlines, hlines, sortBy_texts_perm (hdiscovered.map _)]

end Plan

/-! ### Keys that the order decides between -/

section Floatless
variable (P : Planner)

theorem floatless_sortBy {κ : Type} [LE κ] [DecidableLE κ] {key : Json String → κ} {items : List (Json String)}
    (h : ∀ v ∈ items, floatless v = true) : floatless (sortBy key items) = true := by
  rw [sortBy, floatless, Json.floatlessItems_eq, List.all_eq_true]
  exact fun v hv => h v ((List.mem_insertionSort _).mp hv)

theorem floatless_obj {entries : Fields} (h : ∀ e ∈ entries, floatless e.2 = true) : floatless (.obj entries) = true := by
  rw [floatless, Json.floatlessEntries_eq, List.all_eq_true]
  exact h

theorem floatless_fkSeal (fk : ForeignKey) (row : DependentRow) : floatless (fkSeal (.obj (P.fkManifest fk row))) = true := by
  have hname := @Json.floatless_orNull String .str (fun _ => rfl) fk.constraintName
  rw [fkSeal_manifest]
  refine floatless_obj ?_
  simp only [List.forall_mem_cons, hname, floatless, Planner.rowHash, Redactor.valueHash, List.not_mem_nil, false_implies, implies_true,
    and_self]

theorem floatless_expectedTemplate (r : ObservationRow) (p : PlannedRow) :
    floatless (.obj (Planner.expectedTemplate (fun t => .other (P.shown t)) r p)) = true := by
  have hint (o : Option ℤ) := @Json.floatless_orNull ℤ .int (fun _ => rfl) o
  have hiso (o : Option Instant) := @Json.floatless_orNull Instant isoJson (fun _ => rfl) o
  have hshown (o : Option Instant) := @Json.floatless_orNull Instant (fun t => .other (P.shown t)) (fun _ => rfl) o
  have htemporal : ∀ e ∈ r.temporal, floatless e.2 = true := by
    simp only [ObservationRow.temporal, List.forall_mem_cons, hint, hiso, isoJson, floatless, List.not_mem_nil, false_implies, implies_true,
      and_self]
  unfold Planner.expectedTemplate
  split
  · exact floatless_obj htemporal
  · refine floatless_obj fun e he => ?_
    rcases Dict.mem_setEntries he with rfl | he
    · rfl
    · exact htemporal e he
  · refine floatless_obj ?_
    simp only [Planner.expectedFields, List.forall_mem_cons, hshown, floatless, List.not_mem_nil, false_implies, implies_true, and_self]

theorem floatless_rowSeal (db : PlannerDb) (reasons : List String) (r : ObservationRow) (p : PlannedRow) :
    floatless (rowSeal (.obj (P.rowManifest reasons db.occByObs (db.supportedFk P) r p))) = true := by
  have htemplate := Json.floatless_reread (floatless_expectedTemplate P r p)
  have hhash : floatless (if p.action.isNone then P.rowHash r.values else P.templateHash r p) = true := by split <;> rfl
  have hocc : floatless (sortBy fieldText ((db.occByObs r.id).map fun o => P.rowHash (P.occurrenceValues o))) = true :=
    floatless_sortBy (List.forall_mem_map.mpr fun _ _ => rfl)
  have hfk : floatless (sortBy fkKey ((db.supportedFk P r.id).map fun fields => fkSeal (.obj fields))) = true := by
    refine floatless_sortBy (List.forall_mem_map.mpr fun fields hfields => ?_)
    obtain ⟨fk, -, hfields⟩ := List.mem_flatMap.mp hfields
    obtain ⟨row, -, rfl⟩ := List.mem_map.mp hfields
    exact floatless_fkSeal P fk row
  have hrow : floatless (P.rowHash r.values) = true := rfl
  rw [rowSeal_manifest]
  refine floatless_obj ?_
  simp only [List.forall_mem_cons, htemplate, hhash, hocc, hfk, hrow, floatless, List.not_mem_nil, false_implies, implies_true, and_self]

end Floatless

theorem exists_lanePlan_rows (rows : List ObservationRow) (occByObs : ℕ → List OccurrenceRow) (unknownFk : ℕ → List String) :
    ∃ f : PriceObservation → PlannedRow,
      (Planner.lanePlan rows occByObs unknownFk).rows = (rows.map (·.toPriceObservation)).map f := by
  unfold Planner.lanePlan planLane
  simp only
  split
  · exact ⟨_, rfl⟩
  · generalize (_ ++ _ : List ExclusionReason) = reasons
    split
    · exact ⟨_, rfl⟩
    · exact ⟨_, rfl⟩

section Ambiguity
variable (P : Planner)

def Planner.laneSeals (db : PlannerDb) (provider : Option Provider) : List (Json String) :=
  ((P.lanePlans db (db.loaded provider)).map Json.obj).map laneSeal

/-- The keys of a row, as its seal holds them before they are sorted. -/
def Planner.fkSeals (db : PlannerDb) (id : ℕ) : List (Json String) := (db.supportedFk P id).map fun fields => fkSeal (.obj fields)

theorem mem_fkSeals {db : PlannerDb} {id : ℕ} {x : Json String} (hx : x ∈ P.fkSeals db id) :
    ∃ fk row, x = fkSeal (.obj (P.fkManifest fk row)) := by
  obtain ⟨fields, hfields, rfl⟩ := List.mem_map.mp hx
  obtain ⟨fk, -, hfields⟩ := List.mem_flatMap.mp hfields
  obtain ⟨row, -, rfl⟩ := List.mem_map.mp hfields
  exact ⟨fk, row, rfl⟩

theorem mem_laneSeals {db : PlannerDb} {provider : Option Provider} {x : Json String} : x ∈ P.laneSeals db provider ↔
    ∃ lane ∈ (db.loaded provider).map (·.lane), P.sealedLane db provider lane = some x := by
  rw [Planner.laneSeals, (lanePlans_perm P db provider).mem_iff, List.mem_filterMap]
  simp only [List.mem_eraseDups]

theorem mem_sealedRows {db : PlannerDb} {provider : Option Provider} {lane : Lane} {x y : Json String}
    (hx : P.sealedLane db provider lane = some x) (hy : y ∈ (x.field "rows").items) : ∃ r ∈ db.laneRows provider lane,
      y.field "full_row_hash" = P.rowHash r.values ∧ y.field "fk" = sortBy fkKey (P.fkSeals db r.id) := by
  obtain ⟨-, r, -, rfl⟩ := exists_of_sealedLane P hx
  obtain ⟨f, hf⟩ := exists_lanePlan_rows (db.laneRows provider lane) db.occByObs db.unknownFk
  rw [laneSeal_manifest hf] at hy
  obtain ⟨r, hr, rfl⟩ := List.mem_map.mp ((List.mem_insertionSort _).mp hy)
  refine ⟨r, hr, ?_⟩
  rw [rowSeal_manifest]
  exact ⟨rfl, rfl⟩

theorem exists_sealedRow {db : PlannerDb} {provider : Option Provider} {r : ObservationRow} (hr : r ∈ db.loaded provider)
    (ha : db.anomalous provider r.lane = true) : ∃ x, P.sealedLane db provider r.lane = some x ∧ ∃ y ∈ (x.field "rows").items,
      y.field "full_row_hash" = P.rowHash r.values ∧ y.field "fk" = sortBy fkKey (P.fkSeals db r.id) := by
  have hmem : r ∈ db.laneRows provider r.lane := mem_laneRows.mpr ⟨hr, rfl⟩
  obtain ⟨f, hf⟩ := exists_lanePlan_rows (db.laneRows provider r.lane) db.occByObs db.unknownFk
  obtain ⟨r', rest, hrows⟩ := List.exists_cons_of_ne_nil (List.ne_nil_of_mem hmem)
  have hsealed : P.sealedLane db provider r.lane = some (laneSeal (.obj (P.laneManifest (P.laneFingerprint r')
      (db.laneRows provider r.lane) db.occByObs (db.supportedFk P) db.unknownFk))) := by
    have hhead : (db.laneRows provider r.lane).head? = some r' := by rw [hrows, List.head?_cons]
    rw [Planner.sealedLane, if_pos ha, hhead, Option.map_some]
  refine ⟨_, hsealed, ?_⟩
  rw [laneSeal_manifest hf]
  refine ⟨_, (List.mem_insertionSort _).mpr (List.mem_map_of_mem hmem), ?_⟩
  rw [rowSeal_manifest]
  exact ⟨rfl, rfl⟩

theorem floatless_laneSeals (db : PlannerDb) (provider : Option Provider) : ∀ x ∈ P.laneSeals db provider, floatless x = true := by
  intro x hx
  obtain ⟨lane, -, hx⟩ := (mem_laneSeals P).mp hx
  obtain ⟨-, r, -, rfl⟩ := exists_of_sealedLane P hx
  obtain ⟨f, hf⟩ := exists_lanePlan_rows (db.laneRows provider lane) db.occByObs db.unknownFk
  have hreasons (reasons : List String) : floatless (sortBy fieldText (reasons.map .str)) = true :=
    floatless_sortBy (List.forall_mem_map.mpr fun _ _ => rfl)
  have hrows (reasons : List String) (rows : List ObservationRow) : floatless (sortBy (textField "full_row_hash")
      (rows.map fun r => rowSeal (.obj (P.rowManifest reasons db.occByObs (db.supportedFk P) r (f r.toPriceObservation))))) = true :=
    floatless_sortBy (List.forall_mem_map.mpr fun r _ => floatless_rowSeal P db reasons r _)
  have heffects (laneFp : String) (rows : List ObservationRow) : floatless (sortBy (textField "deterministic_action_id")
      (rows.map fun r => reread (.obj (P.sideEffect laneFp r)))) = true :=
    floatless_sortBy (List.forall_mem_map.mpr fun _ _ => rfl)
  rw [laneSeal_manifest hf]
  refine floatless_obj ?_
  simp only [List.forall_mem_cons, hreasons, hrows, heffects, floatless, List.not_mem_nil, false_implies, implies_true, and_self]

variable {P} (hsha : Function.Injective P.sha256) {db db' : PlannerDb} {provider : Option Provider}
include hsha

theorem laneSeals_eq_of_planHash_eq (h : P.planHash db provider = P.planHash db' provider) :
    (sortBy (textField "lane_fingerprint") (P.laneSeals db provider)).items.map sorted =
      (sortBy (textField "lane_fingerprint") (P.laneSeals db' provider)).items.map sorted := by
  have hfloatless (db : PlannerDb) : floatless (.obj
      [("schema_version", .int plannerSchemaVersion), ("tool_version", .str plannerToolVersion),
        ("planner_source_hash", .str P.plannerSourceHash),
        ("commit_provenance", .obj (P.provenance ++ [("complete", .bool P.provenanceComplete)])),
        ("provider_code", orNull ((provider.map (·.1)).map .str)), ("retailer_id", orNull ((provider.bind (·.2)).map .int)),
        ("baseline_counts", .obj [("price_observation", countJson db.observations.length),
          ("price_observation_occurrence", countJson db.occurrences.length)]),
        ("fk_discovered", sortBy fieldText (((db.discovered provider).map (·.json)).map fkSealLine)),
        ("apply_ready", .bool false), ("apply_blockers", sortBy fieldText (P.applyBlockers.map .str)),
        ("apply_prerequisites", sortBy fieldText (Planner.applyPrerequisites.map .str)),
        ("lanes", sortBy (textField "lane_fingerprint") (P.laneSeals db provider))]) = true := by
    have hcode := @Json.floatless_orNull String .str (fun _ => rfl) (provider.map (·.1))
    have hretailer := @Json.floatless_orNull ℤ .int (fun _ => rfl) (provider.bind (·.2))
    have hprovenance : Json.floatlessEntries (P.provenance ++ [("complete", .bool P.provenanceComplete)]) = true := rfl
    have hbaseline : Json.floatlessEntries [("price_observation", countJson db.observations.length),
        ("price_observation_occurrence", countJson db.occurrences.length)] = true := rfl
    have htexts (texts : List String) : floatless (sortBy fieldText (texts.map .str)) = true :=
      floatless_sortBy (List.forall_mem_map.mpr fun _ _ => rfl)
    have hlines : floatless (sortBy fieldText (((db.discovered provider).map (·.json)).map fkSealLine)) = true :=
      floatless_sortBy (List.forall_mem_map.mpr fun _ _ => rfl)
    have hlanes : floatless (sortBy (textField "lane_fingerprint") (P.laneSeals db provider)) = true :=
      floatless_sortBy (floatless_laneSeals P db provider)
    refine floatless_obj ?_
    simp only [List.forall_mem_cons, hcode, hretailer, hprovenance, hbaseline, htexts, hlines, hlanes, floatless, List.not_mem_nil,
      false_implies, implies_true, and_self]
  rw [planHash_eq, planHash_eq] at h
  have hsorted := congrArg (fun v => (v.field "lanes").items) (sorted_eq_of_hash_eq hsha (hfloatless db) (hfloatless db') h)
  simp only [Json.field_sorted, Json.items_sorted] at hsorted
  exact hsorted

theorem fkSeals_eq_of_planHash_eq (h : P.planHash db provider = P.planHash db' provider)
    {r : ObservationRow} (hr : r ∈ db.loaded provider) (ha : db.anomalous provider r.lane = true) :
    (sortBy fkKey (P.fkSeals db r.id)).items.map sorted = (sortBy fkKey (P.fkSeals db' r.id)).items.map sorted := by
  obtain ⟨x, hx, y, hy, hhash, hfk⟩ := exists_sealedRow P hr ha
  -- The seal of the lane on the other side.
  have hmem : sorted x ∈ (sortBy (textField "lane_fingerprint") (P.laneSeals db' provider)).items.map sorted := by
    rw [← laneSeals_eq_of_planHash_eq hsha h]
    refine List.mem_map_of_mem ((List.mem_insertionSort _).mpr ((mem_laneSeals P).mpr ⟨r.lane, List.mem_map_of_mem hr, hx⟩))
  obtain ⟨x', hx', heq⟩ := List.mem_map.mp hmem
  obtain ⟨lane, -, hx'⟩ := (mem_laneSeals P).mp ((List.mem_insertionSort _).mp hx')
  -- The seal of the row.
  have hrows := congrArg (fun v => (v.field "rows").items) heq
  simp only [Json.field_sorted, Json.items_sorted] at hrows
  have hmem := List.mem_map_of_mem (f := sorted) hy
  rw [← hrows] at hmem
  obtain ⟨y', hy', heq⟩ := List.mem_map.mp hmem
  obtain ⟨r', hr'mem, hhash', hfk'⟩ := mem_sealedRows P hx' hy'
  have hfields := congrArg (Json.field "full_row_hash") heq
  rw [Json.field_sorted, Json.field_sorted, hhash, hhash'] at hfields
  have hid : r'.id = r.id := id_of_rowHash_eq hsha hfields
  have hlists := congrArg (fun v => (v.field "fk").items) heq
  simp only [Json.field_sorted, Json.items_sorted, hfk, hfk', hid] at hlists
  exact hlists.symm

theorem constraintNames_eq_of_planHash_eq (h : P.planHash db provider = P.planHash db' provider)
    {r : ObservationRow} (hr : r ∈ db.loaded provider) (ha : db.anomalous provider r.lane = true) (key : List String) :
    (Grouping.group fkKey (P.fkSeals db r.id) key).map (Json.field "constraint_name") =
      (Grouping.group fkKey (P.fkSeals db' r.id) key).map (Json.field "constraint_name") := by
  have hsame (db : PlannerDb) : ∀ x ∈ P.fkSeals db r.id, fkKey (sorted x) = fkKey x ∧
      (sorted x).field "constraint_name" = x.field "constraint_name" := by
    intro x hx
    obtain ⟨fk, row, rfl⟩ := mem_fkSeals P hx
    have hname := @sorted_orNull String .str (fun _ => rfl) fk.constraintName
    simp only [fkKey, textField, Json.field_sorted]
    exact ⟨rfl, hname⟩
  have hgroup (db : PlannerDb) : ((sortBy fkKey (P.fkSeals db r.id)).items.map sorted).filter (fkKey · = key) =
      (Grouping.group fkKey (P.fkSeals db r.id) key).map sorted := by
    rw [List.filter_map, ← @Grouping.group_insertionSort _ _ _ fkKey]
    refine congrArg (List.map sorted) (List.filter_congr fun x hx => ?_)
    simp only [Function.comp_apply, (hsame db x ((List.mem_insertionSort _).mp hx)).1]
  have hnames (db : PlannerDb) : ((Grouping.group fkKey (P.fkSeals db r.id) key).map sorted).map (Json.field "constraint_name") =
      (Grouping.group fkKey (P.fkSeals db r.id) key).map (Json.field "constraint_name") := by
    rw [List.map_map]
    exact List.map_congr_left fun x hx => (hsame db x (Grouping.mem_group.mp hx).1).2
  rw [← hnames db, ← hnames db', ← hgroup db, ← hgroup db', fkSeals_eq_of_planHash_eq hsha h hr ha]

end Ambiguity

theorem head_constraintNames (P : Planner) {db : PlannerDb} {fk : ForeignKey} {fks : List ForeignKey} (hfks : db.foreignKeys = fk :: fks)
    (hsupported : fkClassification fk = .domainSupported) {row : DependentRow} (hrow : row ∈ db.dependents fk) {id : ℕ}
    (hid : row.priceObservationId = some id) :
    ((Grouping.group fkKey (P.fkSeals db id) (fkKey (fkSeal (.obj (P.fkManifest fk row))))).map (Json.field "constraint_name")).head? =
      some (orNull (fk.constraintName.map .str)) := by
  obtain ⟨rest, hsplit⟩ : ∃ rest, P.fkSeals db id =
      ((db.dependents fk).filter (·.priceObservationId = some id)).map (fun row => fkSeal (.obj (P.fkManifest fk row))) ++ rest := by
    refine ⟨((fks.filter (fkClassification · = .domainSupported)).flatMap fun fk =>
      ((db.dependents fk).filter (·.priceObservationId = some id)).map (P.fkManifest fk)).map fun fields => fkSeal (.obj fields), ?_⟩
    simp only [Planner.fkSeals, PlannerDb.supportedFk, hfks, List.filter_cons, decide_eq_true hsupported, if_true, List.flatMap_cons,
      List.map_append, List.map_map]
    rfl
  have hmem : fkSeal (.obj (P.fkManifest fk row)) ∈ Grouping.group fkKey (((db.dependents fk).filter (·.priceObservationId = some id)).map
      fun row => fkSeal (.obj (P.fkManifest fk row))) (fkKey (fkSeal (.obj (P.fkManifest fk row)))) :=
    Grouping.mem_group.mpr ⟨List.mem_map_of_mem (List.mem_filter.mpr ⟨hrow, decide_eq_true hid⟩), rfl⟩
  obtain ⟨x, xs, hcons⟩ := List.exists_cons_of_ne_nil (List.ne_nil_of_mem hmem)
  have hx : x ∈ x :: xs := List.mem_cons_self
  rw [← hcons] at hx
  obtain ⟨row', -, rfl⟩ := List.mem_map.mp (Grouping.mem_group.mp hx).1
  rw [Grouping.group] at hcons
  rw [hsplit, Grouping.group, List.filter_append, hcons]
  rfl

theorem planHash_ne_of_first {P : Planner} (hsha : Function.Injective P.sha256) {db : PlannerDb} {provider : Option Provider}
    {fk fk' : ForeignKey} {fks : List ForeignKey} (hfks : db.foreignKeys = fk :: fks) (hsupported : fkClassification fk = .domainSupported)
    (hsupported' : fkClassification fk' = .domainSupported) (htable : fk.referencingTable = fk'.referencingTable)
    (hname : fk.constraintName ≠ fk'.constraintName) {r : ObservationRow} (hr : r ∈ db.loaded provider)
    (ha : db.anomalous provider r.lane = true) {row : DependentRow} (hrow : row ∈ db.dependents fk)
    (hid : row.priceObservationId = some r.id) (fks' : List ForeignKey) :
    P.planHash db provider ≠ P.planHash { db with foreignKeys := fk' :: fks' } provider := by
  intro h
  have hdependents : ({ db with foreignKeys := fk' :: fks' } : PlannerDb).dependents fk' = db.dependents fk := by
    rw [PlannerDb.dependents, PlannerDb.dependents, htable]
  have hkey : fkKey (fkSeal (.obj (P.fkManifest fk' row))) = fkKey (fkSeal (.obj (P.fkManifest fk row))) := by
    show [_, fk'.referencingTable, fk'.referencingColumn] = [_, fk.referencingTable, fk.referencingColumn]
    rw [htable, (supportedKey hsupported).referencingColumn, (supportedKey hsupported').referencingColumn]
    rfl
  have hfirst := head_constraintNames P hfks hsupported hrow hid
  have hfirst' := @head_constraintNames P { db with foreignKeys := fk' :: fks' } fk' fks' rfl hsupported' row (hdependents ▸ hrow) r.id hid
  rw [hkey, ← constraintNames_eq_of_planHash_eq hsha h hr ha, hfirst] at hfirst'
  exact hname (orNull_injective (fun _ _ => Json.str.inj) (fun _ => by simp) (Option.some.inj hfirst'))

/-- The hash does not depend on the order in which the database returns anything, and a manifest that is read back has it, exactly where no
    row of an anomalous lane has a dependent by two keys of one column. -/
theorem planHash_order_iff (P : Planner) (hsha : Function.Injective P.sha256) (db : PlannerDb) (provider : Option Provider)
    (hids : (db.observations.map (·.id)).Nodup) :
    ((∀ db', db.Reordered db' → P.planHash db' provider = P.planHash db provider) ∧
      P.recomputePlanHash (reread (.obj (P.dryRun db provider))) = P.planHash db provider) ↔ ¬db.Ambiguous provider := by
  constructor
  · rintro ⟨hsame, -⟩ ⟨r, hr, ha, fk, hfk, fk', hfk', hsupported, hsupported', htable, hname, row, hrow, hid⟩
    -- The catalog may give either key first.
    have hreordered {k : ForeignKey} (hk : k ∈ db.foreignKeys) : db.Reordered { db with foreignKeys := k :: db.foreignKeys.erase k } :=
      ⟨.refl _, .refl _, List.perm_cons_erase hk, .refl _, .refl _, .refl _⟩
    have hne := @planHash_ne_of_first P hsha { db with foreignKeys := fk :: db.foreignKeys.erase fk } provider fk fk' _ rfl hsupported
      hsupported' htable hname r hr ha row hrow hid (db.foreignKeys.erase fk')
    exact hne ((hsame _ (hreordered hfk)).trans (hsame _ (hreordered hfk')).symm)
  · exact fun hclear => ⟨fun db' h => planHash_reordered hsha hids h hclear, dryRun_intact P db provider⟩

/-! #### Two keys of one column -/

/-- Six digits for every character. -/
def spelled (text : List Char) : List (Fin 16) :=
  text.flatMap fun c => (List.range 6).map fun i => Fin.ofNat 16 (c.toNat / 16 ^ i)

theorem spelled_injective : Function.Injective spelled := by
  intro s t h
  induction s generalizing t with
  | nil =>
    cases t with
    | nil => rfl
    | cons d t => cases h
  | cons c s ih =>
    cases t with
    | nil => cases h
    | cons d t =>
      obtain ⟨hdigits, hrest⟩ := List.append_inj h rfl
      have hlt (c : Char) : c.toNat < 16 ^ 6 := by
        have := Json.toNat_range c
        omega
      have heq : c.toNat = d.toNat := Json.eq_of_digits (hlt c) (hlt d) fun i hi =>
        congrArg Fin.val (List.map_inj_left.mp hdigits i (List.mem_range.mpr hi))
      rw [Char.toNat_inj.mp heq, ih hrest]

def spelledPlanner : Planner where
  toRedactor := asciiRedactor spelled
  shown := Calendar.instantText
  plannerCommitSha := "unknown"
  databaseCodeSha := "unknown"
  baseMainSha := "unknown"
  plannerSourceHash := "unknown"
  now := 0

/-- A row whose interval is empty, so that its lane is anomalous. -/
def emptyInterval : ObservationRow where
  retailerId := 1
  storeId := none
  deliveryZoneId := none
  productVariantId := 1
  priceScope := .national
  priceType := .regular
  amount := 1
  currency := "EUR"
  unitAmount := none
  unitCode := none
  promotionText := none
  requiresLoyalty := false
  promotionValidFrom := none
  promotionValidUntil := none
  available := none
  observedAt := 0
  id := 1
  stagingOnly := true
  sourceId := none
  importedAt := 0
  validFrom := 0
  validUntil := some 0
  confidenceScore := 1
  rawCaptureId := none
  crawlRunId := none
  verificationStatus := .unverified
  rolledBackAt := none
  rolledBackBy := none
  closedByRunId := none
  columns := ⟨by decide +kernel, by decide +kernel⟩
  publicId := "1"
  createdAt := 0
  updatedAt := 0
  sourceUrl := none
  connectorVersion := none
  parserVersion := none
  expiresAt := none

def promotionKey (name : String) : ForeignKey where
  referencingSchema := "public"
  referencingTable := "promotion_rule"
  referencingColumn := "price_observation_id"
  referredSchema := "public"
  referredTable := "price_observation"
  referredColumn := "id"
  constraintName := some name

/-- The column of the promotion rules has two constraints, which the catalog gives in one order or the other. -/
def twoKeys (names : List String) : PlannerDb where
  observations := [emptyInterval]
  occurrences := []
  foreignKeys := names.map promotionKey
  promotionRules := [⟨1, some 1, [("id", .int 1), ("price_observation_id", .int 1)]⟩]
  anomalies := []
  references := []

theorem planHash_keyOrder : (twoKeys ["fk_a", "fk_b"]).Reordered (twoKeys ["fk_b", "fk_a"]) ∧
    spelledPlanner.planHash (twoKeys ["fk_a", "fk_b"]) none ≠ spelledPlanner.planHash (twoKeys ["fk_b", "fk_a"]) none := by
  refine ⟨⟨.refl _, .refl _, .swap _ _ _, .refl _, .refl _, .refl _⟩, ?_⟩
  have hloaded : emptyInterval ∈ (twoKeys ["fk_a", "fk_b"]).loaded none := List.mem_filter.mpr ⟨List.mem_cons_self, by decide +kernel⟩
  have hname : (promotionKey "fk_a").constraintName ≠ (promotionKey "fk_b").constraintName := by decide
  exact @planHash_ne_of_first spelledPlanner spelled_injective (twoKeys ["fk_a", "fk_b"]) none (promotionKey "fk_a") (promotionKey "fk_b")
    [promotionKey "fk_b"] rfl (by decide +kernel) (by decide +kernel) rfl hname emptyInterval hloaded (by decide +kernel) _
    List.mem_cons_self rfl [promotionKey "fk_a"]

theorem planHash_order_iff_oneKey :
    (∀ db', (twoKeys ["fk_a"]).Reordered db' → spelledPlanner.planHash db' none = spelledPlanner.planHash (twoKeys ["fk_a"]) none) ∧
      spelledPlanner.recomputePlanHash (reread (.obj (spelledPlanner.dryRun (twoKeys ["fk_a"]) none))) =
        spelledPlanner.planHash (twoKeys ["fk_a"]) none := by
  refine (planHash_order_iff spelledPlanner spelled_injective (twoKeys ["fk_a"]) none (by decide)).mpr ?_
  rintro ⟨r, -, -, fk, hfk, fk', hfk', -, -, -, hname, -⟩
  exact hname (by rw [List.mem_singleton.mp hfk, List.mem_singleton.mp hfk'])

end CestaPlan.History
