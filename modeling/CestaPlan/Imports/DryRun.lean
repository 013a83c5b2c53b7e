import CestaPlan.Imports.Commits

/-! The counts of a dry run, and those of the commit. The plan remembers the products of the batch but not its observations,
    and looks a store up by its code alone. -/

namespace CestaPlan.Imports
open Calendar (Instant)
open Runs

namespace ImportDb

section Definitions
variable (py : Engine.Runtime) (db : ImportDb)

/-- The product is there, or an earlier record has it. -/
def productKnown (before : List NormalizedRecord) (record : NormalizedRecord) : Bool :=
  db.productExists record || before.any (·.product = record.product)

/-- The observation repeats one of an earlier record. -/
def repeated (before : List NormalizedRecord) (record : NormalizedRecord) : Bool := before.any (·.key = record.key)

/-- What the plan takes a record for, after those before it. -/
def planAction (before : List NormalizedRecord) (record : NormalizedRecord) : Action :=
  if !db.productKnown before record then .created else if db.observationExists record then .skipped else .updated

/-- What the commit takes a record for, after those before it. -/
def commitAction (before : List NormalizedRecord) (record : NormalizedRecord) : Action :=
  if !db.productKnown before record then .created
  else if db.duplicate record || repeated before record then .skipped else .updated

/-- Only a store of another retailer with the code has the observation. -/
def lookalike (before : List NormalizedRecord) (record : NormalizedRecord) : Bool :=
  db.productKnown before record && db.observationExists record && !db.duplicate record && !repeated before record

/-- The observation repeats one of the batch, and is not in the database. -/
def unplannedRepeat (before : List NormalizedRecord) (record : NormalizedRecord) : Bool :=
  repeated before record && !db.observationExists record

/-- As many observations look stored that are not as repeat one of the batch and do not look stored. -/
def Planned (records : List NormalizedRecord) : Prop :=
  (judged db.lookalike [] records).count true = (judged db.unplannedRepeat [] records).count true

/-- The import of a batch on the database, committed on the database with it. -/
def committedBatch (rows : List (Option NormalizedRecord)) (dryRun : Bool) (now : Instant) : ImportDb × Except ImportError DataImport :=
  (db.createImport rows dryRun).commitImport py now (db.plannedImport rows dryRun)

end Definitions
end ImportDb

/-- The created, updated and skipped counts. -/
def DataImport.counts (dataImport : DataImport) : Nat × Nat × Nat :=
  (dataImport.createdCount, dataImport.updatedCount, dataImport.skippedCount)

/-- The counts that a commit reports are those of the plan, and the batch committed again creates no price and is skipped. -/
structure ImportDb.DryRunHolds (py : Engine.Runtime) (db : ImportDb) (rows : List (Option NormalizedRecord)) (dryRun : Bool)
    (now : Instant) : Prop where
  counts : ∀ db' committed, db.committedBatch py rows dryRun now = (db', .ok committed) →
    committed.counts = (db.plannedImport rows dryRun).counts
  again : ∀ db' committed, db.committedBatch py rows dryRun now = (db', .ok committed) → ∀ dryRun' now', ∃ db'' committed',
    db'.committedBatch py rows dryRun' now' = (db'', .ok committed') ∧ db''.prices = db'.prices ∧
      (db'.plannedImport rows dryRun').counts = (0, 0, committed'.okCount) ∧ committed'.counts = (0, 0, committed'.okCount)

/-- The counts of some actions. -/
structure PlanResult.Tallies (result : PlanResult) (actions : List Action) : Prop where
  created : result.created = actions.count .created
  updated : result.updated = actions.count .updated
  skipped : result.skipped = actions.count .skipped

theorem PlanResult.Tallies.concat {result : PlanResult} {actions : List Action} (h : result.Tallies actions) (action : Action) :
    (result.count action).Tallies (actions ++ [action]) := by
  obtain ⟨hcreated, hupdated, hskipped⟩ := h
  cases action <;> constructor <;> simp [PlanResult.count, hcreated, hupdated, hskipped]

namespace ImportDb
section Counts
variable {py : Engine.Runtime} {db db' : ImportDb} {records : List NormalizedRecord} {importId : Nat} {now : Instant}

/-! ### The plan and the commit -/

theorem planChanges_tallies : (db.planChanges records).Tallies (judged db.planAction [] records) := by
  have hrun : (∀ r : NormalizedRecord, ((records.foldl db.planRecord ([], {})).1.contains r.product || db.productExists r) =
      db.productKnown records r) ∧ (records.foldl db.planRecord ([], {})).2.Tallies (judged db.planAction [] records) := by
    induction records using List.reverseRecOn with
    | nil => exact ⟨fun r => by simp [productKnown], rfl, rfl, rfl⟩
    | append_singleton records record ih =>
      obtain ⟨hknown, htallies⟩ := ih
      have haction : ∀ action, action = db.planAction records record →
          ((records.foldl db.planRecord ([], {})).2.count action).Tallies (judged db.planAction [] (records ++ [record])) := by
        rintro action rfl
        rw [judged_concat]
        exact htallies.concat _
      have hknows : ∀ r : NormalizedRecord, db.productKnown (records ++ [record]) r =
          (decide (record.product = r.product) || db.productKnown records r) := fun r => by
        simp only [productKnown, List.any_append, List.any_cons, List.any_nil, Bool.or_false]
        rw [← Bool.or_assoc, Bool.or_comm]
      rw [List.foldl_append, List.foldl_cons, List.foldl_nil, planRecord]
      split
      · next hnew =>
        have hunknown : db.productKnown records record = false := by rw [← hknown]; exact Bool.eq_false_iff.mpr hnew
        refine ⟨fun r => ?_, haction .created (by rw [planAction, hunknown]; rfl)⟩
        rw [hknows, ← hknown, List.contains_cons, Bool.or_assoc]
        congr 1
        rw [Bool.eq_iff_iff, beq_iff_eq, decide_eq_true_eq, eq_comm]
      · next hold =>
        have hthere : db.productKnown records record = true := by rw [← hknown]; exact not_not.mp hold
        have hsame : ∀ r : NormalizedRecord, db.productKnown (records ++ [record]) r = db.productKnown records r := by
          intro r
          rw [hknows]
          by_cases hr : record.product = r.product
          · have hr' : db.productKnown records r = true := by
              simp only [productKnown, productExists, ← hr] at hthere ⊢
              exact hthere
            rw [hr', Bool.or_true]
          · rw [decide_eq_false hr, Bool.false_or]
        split
        · next hobserved =>
          exact ⟨fun r => by rw [hsame, ← hknown], haction .skipped (by rw [planAction, hthere, hobserved]; rfl)⟩
        · next hobserved =>
          exact ⟨fun r => by rw [hsame, ← hknown],
            haction .updated (by rw [planAction, hthere, Bool.eq_false_iff.mpr hobserved]; rfl)⟩
  exact hrun.2

theorem commitRecords_tallies {plan : PlanResult} (h : db.commitRecords py records importId now = .ok (db', plan)) :
    plan.Tallies (judged db.commitAction [] records) := by
  induction records using List.reverseRecOn generalizing db' plan with
  | nil =>
    obtain ⟨-, rfl⟩ := Prod.mk.inj (Except.ok.inj h)
    exact ⟨rfl, rfl, rfl⟩
  | append_singleton records record ih =>
    obtain ⟨db₁, plan₁, hrecords, hrecord⟩ := commitRecords_concat.mp h
    have hall := commitRecords_spec hrecords
    obtain ⟨-, -, mapped, rfl⟩ := commitRecord_spec hrecord
    have haction : db₁.action record = db.commitAction records record := by
      rw [action, commitAction, hall.products, hall.keys, productKnown, repeated]
    rw [judged_concat, List.nil_append, ← haction]
    have htallies : PlanResult.Tallies { plan₁ with mapped } (judged db.commitAction [] records) :=
      ⟨(ih hrecords).created, (ih hrecords).updated, (ih hrecords).skipped⟩
    exact htallies.concat _

theorem observationExists_of_duplicate {record : NormalizedRecord} (h : db.duplicate record = true) :
    db.observationExists record = true := by
  simp only [duplicate, observationExists, List.any_eq_true, Bool.and_eq_true, decide_eq_true_eq] at h ⊢
  obtain ⟨price, hprice, ⟨hstore, hproduct⟩, hinstant⟩ := h
  exact ⟨price, hprice, ⟨hproduct, by rw [hstore]; rfl⟩, hinstant⟩

theorem planAction_cases (db : ImportDb) (before : List NormalizedRecord) (record : NormalizedRecord) :
    (db.planAction before record = db.commitAction before record ∧ db.lookalike before record = false ∧
      db.unplannedRepeat before record = false) ∨
    (db.planAction before record = .skipped ∧ db.commitAction before record = .updated ∧ db.lookalike before record = true ∧
      db.unplannedRepeat before record = false) ∨
    (db.planAction before record = .updated ∧ db.commitAction before record = .skipped ∧ db.lookalike before record = false ∧
      db.unplannedRepeat before record = true) := by
  have hstored : db.duplicate record = true → db.observationExists record = true := observationExists_of_duplicate
  have hrepeated : repeated before record = true → db.productKnown before record = true := by
    simp only [repeated, productKnown, List.any_eq_true, decide_eq_true_eq, Bool.or_eq_true]
    rintro ⟨earlier, hearlier, hkey⟩
    exact .inr ⟨earlier, hearlier, (Prod.mk.inj (Prod.mk.inj hkey).2).1⟩
  simp only [planAction, commitAction, lookalike, unplannedRepeat]
  cases hk : db.productKnown before record <;> cases ho : db.observationExists record <;> cases hd : db.duplicate record <;>
    cases hr : repeated before record <;> simp_all

theorem count_actions (db : ImportDb) (before records : List NormalizedRecord) :
    (judged db.planAction before records).count .created = (judged db.commitAction before records).count .created ∧
      (judged db.planAction before records).count .skipped + (judged db.unplannedRepeat before records).count true =
        (judged db.commitAction before records).count .skipped + (judged db.lookalike before records).count true ∧
      (judged db.planAction before records).count .updated + (judged db.lookalike before records).count true =
        (judged db.commitAction before records).count .updated + (judged db.unplannedRepeat before records).count true := by
  induction records generalizing before with
  | nil => simp [judged]
  | cons record records ih =>
    obtain ⟨hcreated, hskipped, hupdated⟩ := ih (before ++ [record])
    simp only [judged, List.count_cons]
    rcases planAction_cases db before record with ⟨hsame, hlook, hrepeat⟩ | ⟨hplan, hcommit, hlook, hrepeat⟩ |
      ⟨hplan, hcommit, hlook, hrepeat⟩
    · rw [hsame, hlook, hrepeat]
      refine ⟨?_, ?_, ?_⟩ <;> simp <;> omega
    · rw [hplan, hcommit, hlook, hrepeat]
      refine ⟨?_, ?_, ?_⟩ <;> simp <;> omega
    · rw [hplan, hcommit, hlook, hrepeat]
      refine ⟨?_, ?_, ?_⟩ <;> simp <;> omega

/-! ### The batch again -/

theorem judged_const {f : List NormalizedRecord → NormalizedRecord → Action} {a : Action} (h : ∀ r ∈ records, ∀ before, f before r = a)
    (before : List NormalizedRecord) : judged f before records = List.replicate records.length a := by
  induction records generalizing before with
  | nil => rfl
  | cons record records ih =>
    rw [judged, h record List.mem_cons_self, ih fun r hr => h r (List.mem_cons_of_mem _ hr)]
    rfl

theorem tallies_skipped {result : PlanResult} (h : result.Tallies (List.replicate records.length .skipped)) :
    result.created = 0 ∧ result.updated = 0 ∧ result.skipped = records.length := by
  obtain ⟨hcreated, hupdated, hskipped⟩ := h
  rw [List.count_replicate] at hcreated hupdated hskipped
  exact ⟨hcreated, hupdated, hskipped⟩

theorem committedBatch_ok {rows : List (Option NormalizedRecord)} {dryRun : Bool} {committed : DataImport} :
    db.committedBatch py rows dryRun now = (db', .ok committed) ↔ ∃ db₁ plan,
      (db.createImport rows dryRun).commitRecords py (db.plannedImport rows dryRun).records db.nextImportId now = .ok (db₁, plan) ∧
        db' = db₁.saveImport committed ∧ committed = (db.plannedImport rows dryRun).committed plan now := by
  have hstatus : (db.plannedImport rows dryRun).status = .pending ∨ (db.plannedImport rows dryRun).status = .dryRun := by
    cases dryRun
    · exact .inl rfl
    · exact .inr rfl
  rw [committedBatch, commitImport, if_neg (not_not.mpr hstatus)]
  constructor
  · intro h
    split at h
    · cases (Prod.mk.inj h).2
    · next db₁ plan hcommit =>
      obtain ⟨hdb, hcommitted⟩ := Prod.mk.inj h
      obtain rfl := Except.ok.inj hcommitted
      exact ⟨db₁, plan, hcommit, hdb.symm, rfl⟩
  · rintro ⟨db₁, plan, hcommit, rfl, rfl⟩
    have hrecords : (db.createImport rows dryRun).commitRecords py (db.plannedImport rows dryRun).records
        (db.plannedImport rows dryRun).id now = .ok (db₁, plan) := hcommit
    rw [hrecords]

theorem counts_eq_some {result : Except ImportError DataImport} {counts : Nat × Nat × Nat} :
    result.toOption.map (·.counts) = some counts ↔ ∃ committed, result = .ok committed ∧ committed.counts = counts := by
  cases result <;> simp [Except.toOption]

theorem length_dedupBatch (seen : List (String × String × String × AwareDateTime)) (records : List NormalizedRecord) :
    (dedupBatch seen records).length ≤ records.length := by
  induction records generalizing seen with
  | nil => exact le_rfl
  | cons record records ih =>
    rw [dedupBatch]
    split
    · exact (ih seen).trans (Nat.le_succ _)
    · exact Nat.succ_le_succ (ih _)

theorem plannedImport_okCount (db : ImportDb) (rows : List (Option NormalizedRecord)) (dryRun : Bool) :
    (db.plannedImport rows dryRun).records.length + (db.plannedImport rows dryRun).duplicatesInBatch =
      (db.plannedImport rows dryRun).okCount := by
  have hvalid : (rows.filterMap id).length + rows.countP (·.isNone) = rows.length := by
    induction rows with
    | nil => rfl
    | cons row rows ih => cases row <;> simp at ih ⊢ <;> omega
  have hdedup := length_dedupBatch [] (rows.filterMap id)
  simp only [plannedImport]
  omega

/-- A batch whose observations are there is planned and committed as skipped, and adds no price. -/
theorem skips (rows : List (Option NormalizedRecord)) (dryRun : Bool)
    (h : ∀ r ∈ dedupBatch [] (rows.filterMap id), db.Accepts py r ∧ db.duplicate r = true ∧ db.productExists r = true) :
    ∃ db' committed, db.committedBatch py rows dryRun now = (db', .ok committed) ∧ db'.prices = db.prices ∧
      (db.plannedImport rows dryRun).counts = (0, 0, committed.okCount) ∧ committed.counts = (0, 0, committed.okCount) := by
  have hplan : ∀ r ∈ dedupBatch [] (rows.filterMap id), ∀ before, db.planAction before r = .skipped := fun r hr before => by
    rw [planAction, productKnown, (h r hr).2.2, observationExists_of_duplicate (h r hr).2.1]
    rfl
  have hcommit : ∀ r ∈ dedupBatch [] (rows.filterMap id), ∀ before, db.commitAction before r = .skipped := fun r hr before => by
    rw [commitAction, productKnown, (h r hr).2.2, (h r hr).2.1]
    rfl
  obtain ⟨db₁, plan, hrecords, hprices⟩ : ∃ db₁ plan, (db.createImport rows dryRun).commitRecords py
      (db.plannedImport rows dryRun).records db.nextImportId now = .ok (db₁, plan) ∧ db₁.prices = db.prices :=
    exists_commitRecords fun r hr => ⟨(h r hr).1.congr rfl, (h r hr).2.1⟩
  have hcount := plannedImport_okCount db rows dryRun
  refine ⟨_, _, committedBatch_ok.mpr ⟨db₁, plan, hrecords, rfl, rfl⟩, hprices, ?_, ?_⟩
  · have htallies : (db.planChanges (dedupBatch [] (rows.filterMap id))).Tallies (judged db.planAction [] _) := planChanges_tallies
    rw [judged_const hplan] at htallies
    obtain ⟨hcreated, hupdated, hskipped⟩ := tallies_skipped htallies
    show ((db.planChanges _).created, (db.planChanges _).updated, (db.planChanges _).skipped + _) = _
    rw [hcreated, hupdated, hskipped]
    exact congrArg (fun n => (0, 0, n)) hcount
  · have hrun := commitRecords_tallies hrecords
    have htallies : plan.Tallies (judged db.commitAction [] (dedupBatch [] (rows.filterMap id))) := hrun
    rw [judged_const hcommit] at htallies
    obtain ⟨hcreated, hupdated, hskipped⟩ := tallies_skipped htallies
    show (plan.created, plan.updated, plan.skipped + _) = _
    rw [hcreated, hupdated, hskipped]
    exact congrArg (fun n => (0, 0, n)) hcount

end Counts

/-- The dry run counts what the commit does when as many records look stored only by another retailer's store as repeat an
    instant of the batch unseen. -/
theorem dryRunHolds_iff (py : Engine.Runtime) (db : ImportDb) (rows : List (Option NormalizedRecord)) (dryRun : Bool)
    (now : Instant) (h : ∃ committed, (db.committedBatch py rows dryRun now).2 = .ok committed) :
    db.DryRunHolds py rows dryRun now ↔ db.Planned (dedupBatch [] (rows.filterMap id)) := by
  obtain ⟨committed, hcommitted⟩ := h
  have hcommit : db.committedBatch py rows dryRun now = ((db.committedBatch py rows dryRun now).1, .ok committed) :=
    Prod.ext rfl hcommitted
  obtain ⟨db₁, plan, hrecords, hdb, rfl⟩ := committedBatch_ok.mp hcommit
  have hplan : (db.planChanges (dedupBatch [] (rows.filterMap id))).Tallies (judged db.planAction [] _) := planChanges_tallies
  have hrun := commitRecords_tallies hrecords
  have htallies : plan.Tallies (judged db.commitAction [] (dedupBatch [] (rows.filterMap id))) := hrun
  obtain ⟨hcreated, hskipped, hupdated⟩ := count_actions db [] (dedupBatch [] (rows.filterMap id))
  have hcounts : ((db.plannedImport rows dryRun).committed plan now).counts = (db.plannedImport rows dryRun).counts ↔
      db.Planned (dedupBatch [] (rows.filterMap id)) := by
    show (plan.created, plan.updated, plan.skipped + (db.plannedImport rows dryRun).duplicatesInBatch) =
      ((db.planChanges _).created, (db.planChanges _).updated,
        (db.planChanges _).skipped + (db.plannedImport rows dryRun).duplicatesInBatch) ↔ _
    rw [Prod.mk.injEq, Prod.mk.injEq, Nat.add_right_cancel_iff, hplan.created, hplan.updated, hplan.skipped, htallies.created,
      htallies.updated, htallies.skipped, Planned]
    omega
  constructor
  · intro hholds
    exact hcounts.mp (hholds.counts _ _ hcommit)
  · intro hplanned
    constructor
    · intro db' committed' hcommit'
      rw [hcommit] at hcommit'
      obtain ⟨-, hsame⟩ := Prod.mk.inj hcommit'
      obtain rfl := Except.ok.inj hsame
      exact hcounts.mpr hplanned
    · intro db' committed' hcommit' dryRun' now'
      rw [hcommit] at hcommit'
      obtain ⟨rfl, -⟩ := Prod.mk.inj hcommit'
      have hall := commitRecords_spec hrecords
      refine skips rows dryRun' fun r hr => ?_
      have hrecord : r ∈ (db.plannedImport rows dryRun).records := hr
      rw [hdb]
      refine ⟨((hall.accepts r hr).congr hall.ingredients).congr rfl, ?_, ?_⟩
      · show db₁.duplicate r = true
        rw [hall.keys, List.any_eq_true.mpr ⟨r, hrecord, decide_eq_true (rfl : r.key = r.key)⟩, Bool.or_true]
      · show db₁.productExists r = true
        rw [hall.products, List.any_eq_true.mpr ⟨r, hrecord, decide_eq_true (rfl : r.product = r.product)⟩, Bool.or_true]

theorem dryRunHolds_chicken : Planned {} (dedupBatch [] ([some (chickenAt 8 0)].filterMap id)) ∧
    DryRunHolds (Engine.Runtime.replay []) {} [some (chickenAt 8 0)] true 0 := by
  have hresult : (committedBatch (Engine.Runtime.replay []) {} [some (chickenAt 8 0)] true 0).2.toOption.map (·.counts) =
      some (1, 0, 0) := by decide +kernel
  obtain ⟨committed, hcommitted, -⟩ := counts_eq_some.mp hresult
  have hplanned : Planned {} (dedupBatch [] ([some (chickenAt 8 0)].filterMap id)) := by
    rw [Planned]
    decide +kernel
  exact ⟨hplanned, (dryRunHolds_iff _ _ _ _ _ ⟨committed, hcommitted⟩).mpr hplanned⟩

/-- The same chicken at the same instant, on the clocks of UTC and of Madrid. -/
def chickenTwice : List (Option NormalizedRecord) := [some (chickenAt 8 0), some (chickenAt 10 2)]

theorem not_dryRunHolds_chickenTwice : ¬∀ py db rows dryRun now,
    (∃ committed, (committedBatch py db rows dryRun now).2 = .ok committed) → DryRunHolds py db rows dryRun now := by
  intro h
  have hresult : (committedBatch (Engine.Runtime.replay []) {} chickenTwice true 0).2.toOption.map (·.counts) = some (1, 0, 1) := by
    decide +kernel
  obtain ⟨committed, hcommitted, hcounts⟩ := counts_eq_some.mp hresult
  have hplan : (plannedImport {} chickenTwice true).counts = (1, 1, 0) := by decide +kernel
  have hsame := (h _ _ _ _ _ ⟨committed, hcommitted⟩).counts _ committed (Prod.ext rfl hcommitted)
  rw [hcounts, hplan] at hsame
  cases hsame

end ImportDb
end CestaPlan.Imports
