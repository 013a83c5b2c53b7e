import CestaPlan.History.PlannerOutput

/-! What the scan finds in the planner's own output. The rows, the occurrences and the dependents are sanitized; the names that
    the catalog and the environment give stay as they are, and a run ends where one of them looks like a secret. -/

namespace CestaPlan.History
open Json (orNull)

namespace Redactor
variable {R : Redactor}

/-- All keys are ASCII, and none is sensitive. -/
def plainKeys (fields : Fields) : Bool :=
  (fields.map Prod.fst).all fun k => isAscii k && !(sensitiveKeyNames.map normAscii).contains (normAscii k)

theorem plainKeys_of_spelled {fields : Fields} {names : List (List Char)} (hspelled : Text.Spelled (fields.map Prod.fst) names)
    (h : names.all plainName = true) : plainKeys fields = true := by
  rw [plainKeys, hspelled.eq, List.all_map, List.all_eq_true]
  intro cs hcs
  have hname := List.all_eq_true.mp h cs hcs
  rwa [plainName, ← isAscii_ofList, ← normAscii_ofList, ← sensitiveKeyNames_normAscii] at hname

theorem isSensitiveKey_of_plainKeys {fields : Fields} (h : plainKeys fields = true) {e : String × Json String} (he : e ∈ fields) :
    R.isSensitiveKey e.1 = false := by
  obtain ⟨hascii, hnot⟩ := Bool.and_eq_true_iff.mp (List.all_eq_true.mp h e.1 (List.mem_map_of_mem he))
  rw [isSensitiveKey_ascii hascii]
  exact (Bool.not_eq_true' _).mp hnot

theorem clean_obj_of_plainKeys {fields : Fields} (h : plainKeys fields = true) :
    R.clean (.obj fields) = true ↔ ∀ e ∈ fields, R.clean e.2 = true :=
  clean_obj.trans (forall₂_congr fun _ he => and_iff_right (isSensitiveKey_of_plainKeys h he))

@[simp] theorem clean_null : R.clean .null = true := rfl

@[simp] theorem clean_bool (b : Bool) : R.clean (.bool b) = true := rfl

@[simp] theorem clean_int (n : ℤ) : R.clean (.int n) = true := rfl

@[simp] theorem clean_other (s : String) : R.clean (.other s) = true := rfl

@[simp] theorem clean_countJson (n : ℕ) : R.clean (countJson n) = true := rfl

@[simp] theorem clean_isoJson (t : Instant) : R.clean (isoJson t) = true :=
  clean_of_isPlain (isPlain_of_chars "0123456789-:.+T".toList (fun _ hc => Calendar.instantText_char hc) (by decide +kernel))

@[simp] theorem clean_hexdigest (digits : List (Fin 16)) : R.clean (.str (hexdigest digits)) = true :=
  clean_of_isPlain (isPlain_hexdigest digits)

theorem clean_orNull {v : Option (Json String)} : R.clean (orNull v) = true ↔ ∀ x ∈ v, R.clean x = true := by
  cases v <;> simp [orNull]

@[simp] theorem clean_orNull_map {α : Type} {f : α → Json String} {v : Option α} :
    R.clean (orNull (v.map f)) = true ↔ ∀ x ∈ v, R.clean (f x) = true := by
  cases v <;> simp [orNull]

@[simp] theorem clean_verificationStatus (s : VerificationStatus) : R.clean (.str s.value) = true :=
  clean_of_isPlain (by cases s <;> exact isPlain_literal (by decide))

theorem clean_temporal (r : ObservationRow) : R.clean (.obj r.temporal) = true := by
  have hkeys : plainKeys r.temporal = true := plainKeys_of_spelled (by repeat constructor) (by decide)
  exact (clean_obj_of_plainKeys hkeys).mpr (by simp [ObservationRow.temporal])

variable {P : Planner}

theorem clean_immutableIdentity (r : ObservationRow) : P.clean (.obj (P.immutableIdentity r)) = true := by
  refine clean_obj.mpr fun e he => ?_
  obtain ⟨e, hmem, rfl⟩ := List.mem_map.mp he
  exact ⟨by simpa using (List.mem_filter.mp hmem).2, clean_scrub e.2⟩

theorem clean_integrity (r : ObservationRow) : P.clean (.obj (P.integrity r)) = true := by
  refine clean_obj.mpr fun e he => ?_
  rcases List.mem_cons.mp he with rfl | he
  · exact ⟨isSensitiveKey_literal (by decide), clean_valueHash _⟩
  · obtain ⟨e', -, he⟩ := List.mem_flatMap.mp he
    rcases List.mem_cons.mp he with rfl | he
    · exact ⟨isSensitiveKey_present _, rfl⟩
    · rw [List.mem_singleton.mp he]
      exact ⟨isSensitiveKey_hash _, clean_hashOf _⟩

theorem clean_occManifest (o : OccurrenceRow) : P.clean (.obj (P.occManifest o)) = true := by
  have hhash (v : Json String) : P.clean (if isTrue v then P.valueHash v else .null) = true := by
    split
    · exact clean_valueHash v
    · rfl
  refine clean_obj.mpr fun e he => ?_
  rcases List.mem_append.mp he with he | he
  · obtain ⟨k, hk, he⟩ := List.mem_flatMap.mp he
    split at he
    · rcases List.mem_cons.mp he with rfl | he
      · exact ⟨isSensitiveKey_present k, rfl⟩
      · rw [List.mem_singleton.mp he]
        exact ⟨isSensitiveKey_hash k, hhash _⟩
    · next hkey =>
      rw [List.mem_singleton.mp he]
      exact ⟨Bool.eq_false_iff.mpr hkey, clean_scrub _⟩
  · rcases List.mem_cons.mp he with rfl | he
    · exact ⟨isSensitiveKey_literal (by decide), clean_valueHash _⟩
    · rcases List.mem_cons.mp he with rfl | he
      · exact ⟨isSensitiveKey_literal (by decide), rfl⟩
      · rw [List.mem_singleton.mp he]
        exact ⟨isSensitiveKey_literal (by decide), hhash _⟩

/-! ### The lanes -/

theorem clean_fkManifest {fk : ForeignKey} (row : DependentRow) (h : fkClassification fk = .domainSupported) :
    P.clean (.obj (P.fkManifest fk row)) = true ↔ ∀ name ∈ fk.constraintName, P.clean (.str name) = true := by
  have hkeys : plainKeys (P.fkManifest fk row) = true := plainKeys_of_spelled (by repeat constructor) (by decide)
  have htables : ∀ table ∈ handledTables, isPlain table = true :=
    isPlain_of_spelled (by unfold handledTables; repeat constructor) (by decide)
  unfold fkClassification at h
  split at h
  · cases h
  · next hcanonical =>
    split at h
    · next hhandler =>
      simp only [canonicalReferred, hasHandler, Bool.not_eq_true, Bool.not_eq_false', Bool.and_eq_true, decide_eq_true_eq,
        List.contains_iff_mem] at hcanonical hhandler
      obtain ⟨⟨hschema, htable⟩, hcolumn⟩ := hcanonical
      obtain ⟨⟨hschema', htable'⟩, hcolumn'⟩ := hhandler
      rw [clean_obj_of_plainKeys hkeys]
      simp only [Planner.fkManifest, List.forall_mem_cons, clean_orNull_map, hschema, htable, hcolumn, hschema', hcolumn', clean_int,
        clean_sanitizeMapping, Planner.rowHash, clean_valueHash, clean_of_isPlain (htables _ htable'), preserveUnchanged,
        clean_of_isPlain (show isPlain "public" = true from isPlain_literal (by decide)), clean_of_isPlain (show isPlain "price_observation" = true from isPlain_literal (by decide)),
        clean_of_isPlain (show isPlain "price_observation_id" = true from isPlain_literal (by decide)), clean_of_isPlain (show isPlain "id" = true from isPlain_literal (by decide)),
        clean_of_isPlain (show isPlain "preserve_unchanged" = true from isPlain_literal (by decide)), clean_of_isPlain (show isPlain "preexisting" = true from isPlain_literal (by decide))]
      simp
    · cases h

theorem clean_expectedTemplate (render : Instant → Json String) (hrender : ∀ t, P.clean (render t) = true) (r : ObservationRow)
    (p : PlannedRow) : P.clean (.obj (Planner.expectedTemplate render r p)) = true := by
  have hfields (t : TemporalState) : P.clean (.obj (Planner.expectedFields render t)) = true := by
    have hkeys : plainKeys (Planner.expectedFields render t) = true := plainKeys_of_spelled (by repeat constructor) (by decide)
    exact (clean_obj_of_plainKeys hkeys).mpr (by simp [Planner.expectedFields, hrender])
  unfold Planner.expectedTemplate
  split
  · exact clean_temporal r
  · exact cleanEntries_setEntries (isSensitiveKey_literal (by decide)) (clean_of_isPlain (isPlain_literal (by decide))) (clean_temporal r)
  · exact hfields _

theorem clean_rowClassification (c : Option RowClassification) {s : String} (hs : isPlain s = true) :
    P.clean (.str ((c.map (·.text)).getD s)) = true := by
  cases c with
  | none => exact clean_of_isPlain hs
  | some c =>
    have htext : isPlain c.text = true := by cases c <;> exact isPlain_literal (by decide)
    exact clean_of_isPlain htext

theorem isPlain_preflightDiag (reasons : List String) : isPlain (preflightDiag reasons) = true := by
  unfold preflightDiag
  split
  · exact isPlain_literal (by decide)
  · split <;> exact isPlain_literal (by decide)

theorem clean_rowManifest {reasons : List String} {occByObs : ℕ → List OccurrenceRow} {supportedFk : ℕ → List Fields}
    (r : ObservationRow) (p : PlannedRow) (hfk : ∀ fk ∈ supportedFk r.id, P.clean (.obj fk) = true) :
    P.clean (.obj (P.rowManifest reasons occByObs supportedFk r p)) = true := by
  have hkeys : plainKeys (P.rowManifest reasons occByObs supportedFk r p) = true := plainKeys_of_spelled (by repeat constructor) (by decide)
  have haction : P.clean (.str ((p.action.map (·.value)).getD "excluded_no_action")) = true := by
    cases p.action with
    | none => exact clean_of_isPlain (isPlain_literal (by decide))
    | some a => exact clean_of_isPlain (by cases a <;> exact isPlain_literal (by decide))
  have hoccs : P.clean (.arr ((occByObs r.id).map fun o => .obj (P.occManifest o))) = true :=
    clean_arr.mpr (List.forall_mem_map.mpr fun o _ => clean_occManifest o)
  have hfks : P.clean (.arr ((supportedFk r.id).map .obj)) = true := clean_arr.mpr (List.forall_mem_map.mpr hfk)
  have hhash : P.clean (if p.action.isNone then P.rowHash r.values else P.templateHash r p) = true := by
    split <;> exact clean_valueHash _
  rw [clean_obj_of_plainKeys hkeys]
  simp only [Planner.rowManifest, List.forall_mem_cons, clean_int, Planner.factFingerprint, Planner.fieldsHash, clean_hexdigest,
    clean_rowClassification p.classification (show isPlain "excluded" = true from isPlain_literal (by decide)),
    clean_rowClassification p.diagnosticClassification (isPlain_preflightDiag reasons), haction, clean_immutableIdentity,
    clean_temporal, clean_integrity, clean_expectedTemplate _ (fun t => clean_other (P.shown t)), hoccs, hfks, hhash]
  simp

theorem clean_sideEffect (laneFp : String) (r : ObservationRow) : P.clean (.obj (P.sideEffect laneFp r)) = true := by
  have hkeys : plainKeys (P.sideEffect laneFp r) = true := plainKeys_of_spelled (by repeat constructor) (by decide)
  have hconflict : P.clean (.str sameTimestampConflict) = true := clean_of_isPlain (isPlain_literal (by decide))
  have hhigh : P.clean (.str "high") = true := clean_of_isPlain (isPlain_literal (by decide))
  have hpayload : P.clean (.obj [("anomaly_type", .str sameTimestampConflict), ("severity", .str "high"),
      ("price_observation_ref", P.rowHash r.values), ("status", .str "open")]) = true := by
    rw [clean_obj_of_plainKeys (plainKeys_of_spelled (by repeat constructor) (by decide))]
    simp only [List.forall_mem_cons, hconflict, hhigh, Planner.rowHash, clean_valueHash, clean_of_isPlain (show isPlain "open" = true from isPlain_literal (by decide))]
    simp
  rw [clean_obj_of_plainKeys hkeys]
  simp only [Planner.sideEffect, List.forall_mem_append, List.forall_mem_cons, hconflict, hhigh, hpayload, clean_valueHash,
    clean_of_isPlain (show isPlain "create_price_anomaly" = true from isPlain_literal (by decide)), clean_of_isPlain (show isPlain "absent" = true from isPlain_literal (by decide)),
    clean_of_isPlain (show isPlain "delete_only_created_row" = true from isPlain_literal (by decide))]
  simp [Planner.rowHash]

theorem clean_laneReport (r : LaneReport) : P.clean r.json = true := by
  rw [LaneReport.json, clean_obj_of_plainKeys (plainKeys_of_spelled (by repeat constructor) (by decide))]
  simp

theorem clean_laneManifest {laneFp : List (Fin 16)} {rows : List ObservationRow} {occByObs : ℕ → List OccurrenceRow}
    {supportedFk : ℕ → List Fields} {unknownFk : ℕ → List String} (hfk : ∀ id, ∀ fk ∈ supportedFk id, P.clean (.obj fk) = true) :
    P.clean (.obj (P.laneManifest (hexdigest laneFp) rows occByObs supportedFk unknownFk)) = true ↔
      ∀ reason ∈ (Planner.lanePlan rows occByObs unknownFk).exclusionReasons, P.clean (.str reason) = true := by
  have hkeys : plainKeys (P.laneManifest (hexdigest laneFp) rows occByObs supportedFk unknownFk) = true := plainKeys_of_spelled (by repeat constructor) (by decide)
  have hreport : P.clean (((Planner.lanePlan rows occByObs unknownFk).projectedInvariants.map (·.json)).getD (.obj [])) = true := by
    cases (Planner.lanePlan rows occByObs unknownFk).projectedInvariants with
    | none => rfl
    | some r => exact clean_laneReport r
  have hrows (reasons : List String) (ps : List PlannedRow) :
      P.clean (.arr (List.zipWith (fun r p => .obj (P.rowManifest reasons occByObs supportedFk r p)) rows ps)) = true := by
    rw [clean_arr, ← List.map_uncurry_zip_eq_zipWith]
    exact List.forall_mem_map.mpr fun rp _ => clean_rowManifest rp.1 rp.2 (hfk rp.1.id)
  have hactions (actions : List LaneAction) :
      P.clean (.arr (((actions.map (·.value)).eraseDups.insertionSort (· ≤ ·)).map .str)) = true := by
    refine clean_arr.mpr (List.forall_mem_map.mpr fun text htext => ?_)
    rw [List.mem_insertionSort, List.mem_eraseDups] at htext
    obtain ⟨a, -, rfl⟩ := List.mem_map.mp htext
    exact clean_of_isPlain (by cases a <;> exact isPlain_literal (by decide))
  have hses (rs : List ObservationRow) : P.clean (.arr (rs.map fun r => .obj (P.sideEffect (hexdigest laneFp) r))) = true :=
    clean_arr.mpr (List.forall_mem_map.mpr fun r _ => clean_sideEffect _ r)
  rw [clean_obj_of_plainKeys hkeys]
  simp only [Planner.laneManifest, List.forall_mem_cons, clean_hexdigest, clean_bool, clean_countJson, hreport, hrows, hactions, hses,
    clean_arr, List.forall_mem_map]
  simp

end Redactor

/-! ### The manifest -/

/-- What the catalog calls a foreign key. -/
def ForeignKey.names (fk : ForeignKey) : List String :=
  [fk.referencingSchema, fk.referencingTable, fk.referencingColumn, fk.referredSchema, fk.referredTable, fk.referredColumn] ++
    fk.constraintName.toList

namespace Planner
open Redactor
variable {P : Planner}

theorem clean_foreignKey (fk : ForeignKey) : P.clean fk.json = true ↔ ∀ s ∈ fk.names, P.clean (.str s) = true := by
  have hkeys : plainKeys
      [("referencing_schema", .str fk.referencingSchema), ("referencing_table", .str fk.referencingTable),
        ("referencing_column", .str fk.referencingColumn), ("referred_schema", .str fk.referredSchema),
        ("referred_table", .str fk.referredTable), ("referred_column", .str fk.referredColumn),
        ("constraint_name", orNull (fk.constraintName.map .str)), ("referred_is_canonical", .bool (canonicalReferred fk)),
        ("classification", .str (fkClassification fk).text), ("supported", .bool (canonicalReferred fk && hasHandler fk))] = true := plainKeys_of_spelled (by repeat constructor) (by decide)
  have hclassification (c : FkClassification) : P.clean (.str c.text) = true := clean_of_isPlain (by cases c <;> exact isPlain_literal (by decide))
  rw [ForeignKey.json, clean_obj_of_plainKeys hkeys]
  simp [ForeignKey.names, hclassification]

theorem clean_manifest {providerCode : Option String} {retailerId : Option ℤ} {baseline : Fields} {lanePlans : List Fields}
    {discovered : List ForeignKey} (hbaseline : P.clean (.obj baseline) = true) :
    P.clean (.obj (P.manifest providerCode retailerId baseline lanePlans discovered)) = true ↔
      (∀ s ∈ providerCode.toList ++ [P.plannerSourceHash, P.plannerCommitSha, P.databaseCodeSha, P.baseMainSha] ++
        discovered.flatMap (·.names), P.clean (.str s) = true) ∧ ∀ lane ∈ lanePlans, P.clean (.obj lane) = true := by
  have hkeys : plainKeys (P.manifest providerCode retailerId baseline lanePlans discovered) = true := plainKeys_of_spelled (by repeat constructor) (by decide)
  have hprovenance (complete : Bool) : P.clean (.obj (P.provenance ++ [("complete", .bool complete)])) = true ↔
      ∀ s ∈ [P.plannerCommitSha, P.databaseCodeSha, P.baseMainSha], P.clean (.str s) = true := by
    rw [clean_obj_of_plainKeys (plainKeys_of_spelled (by repeat constructor) (by decide))]
    simp [provenance]
  have hsnapshot : P.clean (.obj [("transaction_read_only", .bool true), ("snapshot_isolation", .str "repeatable read")]) = true := by
    rw [clean_obj_of_plainKeys (plainKeys_of_spelled (by repeat constructor) (by decide))]
    simp [clean_of_isPlain (show isPlain "repeatable read" = true from isPlain_literal (by decide))]
  have hblockers : P.clean (.arr (P.applyBlockers.map .str)) = true := by
    have hall : ∀ s ∈ ["planner_is_plan_only", "record_price_fact_rolled_back_reuse_not_remediated", "unknown_commit_provenance"],
        isPlain s = true := isPlain_of_spelled (by repeat constructor) (by decide)
    refine clean_arr.mpr (List.forall_mem_map.mpr fun s hs => clean_of_isPlain (hall s ?_))
    unfold applyBlockers at hs
    split at hs
    · exact List.mem_of_mem_take (i := 2) hs
    · exact hs
  have hprerequisites : P.clean (.arr (applyPrerequisites.map .str)) = true := by
    have hall : ∀ s ∈ applyPrerequisites, isPlain s = true :=
      isPlain_of_spelled (by unfold applyPrerequisites; repeat constructor) (by decide +kernel)
    exact clean_arr.mpr (List.forall_mem_map.mpr fun s hs => clean_of_isPlain (hall s hs))
  have hseal (a b c : Json String) (l d : List (Json String)) (p : Fields) (x : Json String) (y z : List (Json String))
      (w : Json String) : P.clean (P.planSeal a b c l d p x y z w) = true := clean_valueHash _
  have hfks : P.clean (.arr (discovered.map (·.json))) = true ↔ ∀ s ∈ discovered.flatMap (·.names), P.clean (.str s) = true := by
    simp only [clean_arr, List.forall_mem_map, clean_foreignKey, List.mem_flatMap]
    grind
  have hlanes : P.clean (.arr (lanePlans.map .obj)) = true ↔ ∀ lane ∈ lanePlans, P.clean (.obj lane) = true := by
    rw [clean_arr, List.forall_mem_map]
  have htool : P.clean (.str plannerToolVersion) = true := clean_of_isPlain (isPlain_literal (by decide))
  have hwriter : P.clean (.str "unverified") = true := clean_of_isPlain (isPlain_literal (by decide))
  rw [clean_obj_of_plainKeys hkeys]
  simp only [manifest, List.forall_mem_cons, clean_int, clean_bool, clean_isoJson, clean_orNull_map, hprovenance, hsnapshot, hbaseline,
    hblockers, hprerequisites, hseal, hfks, hlanes, htool, hwriter, List.forall_mem_append, Option.mem_toList, Option.mem_def]
  simp
  tauto

variable (P)

/-- A text in which a URL or a secret is seen. -/
def Exposes (s : String) : Prop := s ≠ redacted ∧ P.looksSensitive s = true

/-- What the manifest shows as it is given: the provider, the texts of the environment, the names of the foreign keys, and the
    reasons why lanes are left out, which name foreign keys. -/
def verbatim (db : PlannerDb) (provider : Option Provider) : List String :=
  (provider.map (·.1)).toList ++ [P.plannerSourceHash, P.plannerCommitSha, P.databaseCodeSha, P.baseMainSha] ++
    match provider with
    | some (_, none) => []
    | _ => db.foreignKeys.flatMap (·.names) ++
        (P.anomalousLanes (db.loaded provider)).flatMap fun l => (lanePlan l.2 db.occByObs db.unknownFk).exclusionReasons

variable {P}

theorem clean_str_iff {s : String} : P.clean (.str s) = true ↔ ¬P.Exposes s := by
  rw [clean_str, Exposes, not_and_or, not_not, Bool.not_eq_true]

theorem exists_hexdigest {rows : List ObservationRow} {l : String × List ObservationRow} (h : l ∈ P.anomalousLanes rows) :
    ∃ digits, l.1 = hexdigest digits := by
  obtain ⟨group, -, hgroup⟩ := List.mem_filterMap.mp ((List.mem_insertionSort _).mp (List.mem_filter.mp h).1)
  obtain ⟨r, -, rfl⟩ := Option.map_eq_some_iff.mp hgroup
  exact ⟨_, rfl⟩

theorem clean_supportedFk {db : PlannerDb} (hnames : ∀ s ∈ db.foreignKeys.flatMap (·.names), P.clean (.str s) = true) (id : ℕ) :
    ∀ fields ∈ db.supportedFk P id, P.clean (.obj fields) = true := by
  intro fields hfields
  obtain ⟨fk, hfk, hfields⟩ := List.mem_flatMap.mp hfields
  obtain ⟨row, -, rfl⟩ := List.mem_map.mp hfields
  obtain ⟨hmem, hsupported⟩ := List.mem_filter.mp hfk
  refine (clean_fkManifest row (of_decide_eq_true hsupported)).mpr fun name hname => ?_
  exact hnames name (List.mem_flatMap.mpr ⟨fk, hmem, List.mem_append_right _ (Option.mem_toList.mpr hname)⟩)

theorem clean_dryRun {db : PlannerDb} {provider : Option Provider} :
    P.clean (.obj (P.dryRun db provider)) = true ↔ ∀ s ∈ P.verbatim db provider, P.clean (.str s) = true := by
  have hbaseline (n m : ℕ) :
      P.clean (.obj [("price_observation", countJson n), ("price_observation_occurrence", countJson m)]) = true := by
    rw [clean_obj_of_plainKeys (plainKeys_of_spelled (by repeat constructor) (by decide))]
    simp
  have hloaded (code : Option String) (retailer : Option ℤ) :
      P.clean (.obj (P.manifest code retailer
        [("price_observation", countJson db.observations.length), ("price_observation_occurrence", countJson db.occurrences.length)]
        (P.lanePlans db (db.loaded provider)) db.foreignKeys)) = true ↔
      ∀ s ∈ code.toList ++ [P.plannerSourceHash, P.plannerCommitSha, P.databaseCodeSha, P.baseMainSha] ++
        (db.foreignKeys.flatMap (·.names) ++
          (P.anomalousLanes (db.loaded provider)).flatMap fun l => (lanePlan l.2 db.occByObs db.unknownFk).exclusionReasons),
        P.clean (.str s) = true := by
    rw [clean_manifest (hbaseline _ _), ← List.append_assoc]
    refine Iff.trans (and_congr_right fun hnames => ?_) List.forall_mem_append.symm
    have hfk := clean_supportedFk fun s hs => hnames s (List.mem_append_right _ hs)
    rw [lanePlans, List.forall_mem_map, List.forall_mem_flatMap]
    refine forall₂_congr fun l hl => ?_
    obtain ⟨digits, hdigits⟩ := exists_hexdigest hl
    rw [hdigits]
    exact clean_laneManifest hfk
  cases provider with
  | none => exact hloaded none none
  | some p =>
    obtain ⟨code, _ | retailer⟩ := p
    · rw [dryRun, clean_manifest (hbaseline _ _)]
      simp [verbatim]
    · exact hloaded (some code) (some retailer)

/-! ### What is kept secret -/

/-- The planner keeps what stands under sensitive keys, and what looks like a URL or a secret, out of what it makes of rows. -/
structure KeepsSecrets (P : Planner) : Prop where
  mapping : ∀ path full, P.scanSensitive path (.obj (P.sanitizeMapping full)) = []
  occurrence : ∀ path o, P.scanSensitive path (.obj (P.occManifest o)) = []
  observation : ∀ path r, P.scanSensitive path (.obj (P.immutableIdentity r)) = [] ∧ P.scanSensitive path (.obj r.temporal) = [] ∧
    P.scanSensitive path (.obj (P.integrity r)) = []
  /-- Of a dependent the scan can find only the name of the constraint. -/
  dependent : ∀ path fk row, fkClassification fk = .domainSupported →
    (P.scanSensitive path (.obj (P.fkManifest fk row)) = [] ↔ ∀ name ∈ fk.constraintName, ¬P.Exposes name)
  /-- A run ends without a manifest where the catalog or the environment name something like a secret, and nowhere else. -/
  run : ∀ db provider, P.run db provider = none ↔ ∃ s ∈ P.verbatim db provider, P.Exposes s
  /-- Of the values under sensitive keys no more is shown than their hash, and whether there is one. -/
  masked : ∀ full full', P.MaskedEntries full full' → P.sanitizeMapping full = P.sanitizeMapping full'
  maskedDependent : ∀ fk (row : DependentRow) columns, P.MaskedEntries row.columns columns →
    P.rowHash row.columns = P.rowHash columns → P.fkManifest fk row = P.fkManifest fk { row with columns }
  maskedOccurrence : ∀ o : OccurrenceRow, ∀ url, o.sourceUrl.isSome = url.isSome → P.hashOf (orNull (o.sourceUrl.map .str)) =
    P.hashOf (orNull (url.map .str)) → P.rowHash (P.occurrenceValues o) = P.rowHash (P.occurrenceValues { o with sourceUrl := url }) →
    P.occManifest o = P.occManifest { o with sourceUrl := url }
  maskedObservation : ∀ r : ObservationRow, ∀ url, isGiven (orNull (r.sourceUrl.map .str)) = isGiven (orNull (url.map .str)) →
    P.hashOf (orNull (r.sourceUrl.map .str)) = P.hashOf (orNull (url.map .str)) →
    P.rowHash r.values = P.rowHash { r with sourceUrl := url }.values →
    P.immutableIdentity r = P.immutableIdentity { r with sourceUrl := url } ∧ P.integrity r = P.integrity { r with sourceUrl := url }

theorem isSensitiveKey_sourceUrl : P.isSensitiveKey "source_url" = true := by
  have hspelled : "source_url" = String.ofList ['s', 'o', 'u', 'r', 'c', 'e', '_', 'u', 'r', 'l'] := rfl
  rw [hspelled, isSensitiveKey_ascii ((isAscii_ofList _).trans (by decide)), sensitiveKeyNames_normAscii, normAscii_ofList]
  decide

theorem identity_split (r : ObservationRow) : ∃ before after : Fields, ∀ url,
    { r with sourceUrl := url }.identity = before ++ ("source_url", orNull (url.map .str)) :: after :=
  ⟨r.identity.take 18, r.identity.drop 19, fun _ => rfl⟩

theorem splitRow_masked (r : ObservationRow) (url : Option String)
    (hgiven : isGiven (orNull (r.sourceUrl.map .str)) = isGiven (orNull (url.map .str)))
    (hhash : P.hashOf (orNull (r.sourceUrl.map .str)) = P.hashOf (orNull (url.map .str)))
    (hrow : P.rowHash r.values = P.rowHash { r with sourceUrl := url }.values) :
    P.immutableIdentity r = P.immutableIdentity { r with sourceUrl := url } ∧ P.integrity r = P.integrity { r with sourceUrl := url } := by
  obtain ⟨before, after, hsplit⟩ := identity_split r
  have hself : r.identity = before ++ ("source_url", orNull (r.sourceUrl.map .str)) :: after := hsplit r.sourceUrl
  constructor
  · simp only [immutableIdentity, hself, hsplit url, List.filter_append, List.filter_cons, isSensitiveKey_sourceUrl, Bool.not_true,
      Bool.false_eq_true, if_false]
  · simp only [integrity, hself, hsplit url, hrow, List.filter_append, List.filter_cons, isSensitiveKey_sourceUrl, if_true,
      List.flatMap_append, List.flatMap_cons, hgiven, hhash]

theorem occManifest_masked (o : OccurrenceRow) (url : Option String) (hgiven : o.sourceUrl.isSome = url.isSome)
    (hhash : P.hashOf (orNull (o.sourceUrl.map .str)) = P.hashOf (orNull (url.map .str)))
    (hrow : P.rowHash (P.occurrenceValues o) = P.rowHash (P.occurrenceValues { o with sourceUrl := url })) :
    P.occManifest o = P.occManifest { o with sourceUrl := url } := by
  have hshown : ∀ k ∈ occKeep, lookupD (P.occurrenceValues o) k = lookupD (P.occurrenceValues { o with sourceUrl := url }) k := by
    intro k hk
    have hne : (k == "source_url") = false := by
      revert k
      decide +kernel
    simp only [lookupD, occurrenceValues, List.lookup_cons, hne]
  have hhidden (o : OccurrenceRow) : lookupD (P.occurrenceValues o) "source_url" = orNull (o.sourceUrl.map .str) := rfl
  have hpresent (url : Option String) : (!(orNull (url.map .str) : Json String).isNull) = url.isSome := by
    cases url <;> rfl
  have htrue (url : Option String) : isTrue (orNull (url.map .str)) = isGiven (orNull (url.map .str)) := by
    cases url with
    | none => rfl
    | some s =>
      by_cases hs : s = ""
      · rw [hs]
        rfl
      · simp [orNull, isTrue, isGiven, hs]
  unfold hashOf at hhash
  refine congrArg₂ (· ++ ·) (List.flatMap_congr fun k hk => ?_) ?_
  · simp only [hshown k hk]
  · simp only [hhidden, hpresent, htrue, hgiven, hhash, hrow]

theorem keepsSecrets (P : Planner) : KeepsSecrets P where
  mapping path full := (P.scanSensitive_eq_nil_iff path _).mpr (clean_sanitizeMapping full)
  occurrence path o := (P.scanSensitive_eq_nil_iff path _).mpr (clean_occManifest o)
  observation path r :=
    ⟨(P.scanSensitive_eq_nil_iff path _).mpr (clean_immutableIdentity r), (P.scanSensitive_eq_nil_iff path _).mpr (clean_temporal r),
      (P.scanSensitive_eq_nil_iff path _).mpr (clean_integrity r)⟩
  dependent path fk row h := by
    rw [P.scanSensitive_eq_nil_iff, clean_fkManifest row h]
    exact forall₂_congr fun _ _ => clean_str_iff
  run db provider := by
    have hscan : P.scanSensitive "$" (.obj (P.dryRun db provider)) = [] ↔ ∀ s ∈ P.verbatim db provider, ¬P.Exposes s := by
      rw [P.scanSensitive_eq_nil_iff, clean_dryRun]
      exact forall₂_congr fun _ _ => clean_str_iff
    rw [Planner.run, ite_eq_right_iff, hscan]
    simp
  masked _ _ h := h.sanitizeFrom_eq []
  maskedDependent fk row columns h hrow := by
    have hmapping : P.sanitizeMapping row.columns = P.sanitizeMapping columns := h.sanitizeFrom_eq []
    simp only [fkManifest, hmapping, hrow]
  maskedOccurrence := occManifest_masked
  maskedObservation := splitRow_masked

/-! #### A constraint that is called after a key -/

/-- The planner where no letters but those of ASCII have a lower case. -/
def asciiPlanner : Planner where
  toRedactor := asciiRedactor fun _ => []
  shown := Calendar.instantText
  plannerCommitSha := "unknown"
  databaseCodeSha := "unknown"
  baseMainSha := "unknown"
  plannerSourceHash := "unknown"
  now := 0

def apiKeyConstraint : ForeignKey where
  referencingSchema := "public"
  referencingTable := "promotion_rule"
  referencingColumn := "price_observation_id"
  referredSchema := "public"
  referredTable := "price_observation"
  referredColumn := "id"
  constraintName := some "promotion_api_key"

/-- The entry of a dependent does not pass the scan, and the planner ends on its own output. -/
theorem not_scanned_apiKeyConstraint :
    asciiPlanner.scanSensitive "$" (.obj (asciiPlanner.fkManifest apiKeyConstraint ⟨1, some 1, []⟩)) = [⟨"$.constraint_name", false⟩] ∧
      asciiPlanner.run ⟨[], [], [apiKeyConstraint], [], [], []⟩ none = none := by
  have hname : asciiPlanner.clean (.str "promotion_api_key") = false := by decide +kernel
  refine ⟨by decide +kernel, ?_⟩
  rw [Planner.run, ite_eq_right_iff, asciiPlanner.scanSensitive_eq_nil_iff, clean_dryRun]
  intro hclean
  -- the constraint stands in the manifest as the catalog calls it
  have hmem : "promotion_api_key" ∈ asciiPlanner.verbatim ⟨[], [], [apiKeyConstraint], [], [], []⟩ none := by
    simp [verbatim, ForeignKey.names, apiKeyConstraint]
  cases hname.symm.trans (hclean _ hmem)

end Planner
end CestaPlan.History
