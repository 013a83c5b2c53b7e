import CestaPlan.History.Restore

/-! Sequences of `execute_apply` and `execute_restore`, one at a time under the global lock, with the writes of other
    sessions between them.

    The consumption of a plan is written with its run and never goes away, so that no plan is applied twice and no run
    of a restored plan is ever written again. -/

namespace CestaPlan.History
open Runs

/-! ### The calls -/

inductive Call where
  | apply (call : ApplyCall)
  | restore (call : RestoreCall)
  /-- Other sessions write what is not the audit of the remediation. -/
  | others (written : AuditedDb)

/-- The tables with the audit of `s`. -/
def AuditedDb.withAuditOf (t s : AuditedDb) : AuditedDb :=
  { t with
    runs := s.runs
    changes := s.changes
    consumptions := s.consumptions
    nextRunId := s.nextRunId
    nextChangeId := s.nextChangeId }

namespace AuditedDb
variable (s : AuditedDb)

def step : Call → AuditedDb
  | .apply call => (executeApply s call).1
  | .restore call => (executeRestore s call).1
  | .others written => written.withAuditOf s

def run (calls : List Call) : AuditedDb := calls.foldl step s

/-- The plan that the call is about. -/
def planOf : Call → Option (Digest PlanSeal)
  | .apply call => some call.manifest.planHash
  | .restore call => (s.run? call.runId).map (·.planHash)
  | .others _ => none

/-- The plan whose writes the call commits. -/
def applies : Call → Option (Digest PlanSeal)
  | .apply call =>
    match (executeApply s call).2 with
    | .ok result => if result.status = .applied then some call.manifest.planHash else none
    | .error _ => none
  | .restore _ | .others _ => none

/-- The run that the call restores. -/
def restores : Call → Option Nat
  | .restore call =>
    match (executeRestore s call).2 with
    | .ok result => if result.status = .restored then some call.runId else none
    | .error _ => none
  | .apply _ | .others _ => none

/-- The plans that a sequence applies, and the runs that it restores. -/
def appliedPlans (s : AuditedDb) : List Call → List (Digest PlanSeal)
  | [] => []
  | call :: calls => (s.applies call).toList ++ (s.step call).appliedPlans calls

def restoredRuns (s : AuditedDb) : List Call → List Nat
  | [] => []
  | call :: calls => (s.restores call).toList ++ (s.step call).restoredRuns calls

/-- The tables before any run. -/
def unaudited : AuditedDb := { s with runs := [], changes := [], consumptions := [] }

end AuditedDb

/-! ### What the audit tables promise -/

/-- What may become of a run. -/
structure Moved (r r' : HistoryRemediationRun) : Prop where
  id : r'.id = r.id
  plan : r'.planHash = r.planHash
  status : r'.status = r.status ∨ r.status = .applied ∧ r'.status = .rolledBack
  failed : r.status = .failed → r' = r

structure AuditSound (s : AuditedDb) : Prop where
  ids : (s.runs.map (·.id)).Nodup
  fresh : ∀ r ∈ s.runs, r.id < s.nextRunId
  consumed : ∀ r ∈ s.runs, r.status ≠ .failed → ∃ c ∈ s.consumptions, c.planHash = r.planHash ∧ c.firstRunId = r.id
  plans : (s.consumptions.map (·.planHash)).Nodup
  failed : ∀ r ∈ s.runs, r.status = .failed → r.restoreStatus = .none

theorem Moved.refl (r : HistoryRemediationRun) : Moved r r := ⟨rfl, rfl, Or.inl rfl, fun _ => rfl⟩

theorem Moved.trans {r r' r'' : HistoryRemediationRun} (h : Moved r r') (h' : Moved r' r'') : Moved r r'' := by
  refine ⟨h'.id.trans h.id, h'.plan.trans h.plan, ?_, fun hf => ?_⟩
  · rcases h.status with hs | ⟨ha, hr⟩
    · rw [← hs]
      exact h'.status
    · rcases h'.status with hs | ⟨ha', -⟩
      · exact Or.inr ⟨ha, hs.trans hr⟩
      · rw [hr] at ha'
        cases ha'
  · have heq := h.failed hf
    subst heq
    exact h'.failed hf

theorem Moved.rolledBack {r r' : HistoryRemediationRun} (h : Moved r r') (hr : r.status = .rolledBack) :
    r'.status = .rolledBack := by
  rcases h.status with hs | ⟨ha, -⟩
  · exact hs.trans hr
  · rw [hr] at ha
    cases ha

section Step
variable {s s' : AuditedDb} {call : Call} {r : HistoryRemediationRun} {i : Nat} {plan : Digest PlanSeal}

theorem AuditSound.unaudited (s : AuditedDb) : AuditSound s.unaudited :=
  ⟨List.nodup_nil, by simp [AuditedDb.unaudited], by simp [AuditedDb.unaudited], List.nodup_nil,
    by simp [AuditedDb.unaudited]⟩

theorem AuditSound.run_eq (h : AuditSound s) {r' : HistoryRemediationRun} (hr : r ∈ s.runs) (hr' : r' ∈ s.runs)
    (hid : r.id = r'.id) : r = r' :=
  List.inj_on_of_nodup_map h.ids hr hr' hid

theorem AuditSound.run?_of_mem (h : AuditSound s) (hr : r ∈ s.runs) : s.run? r.id = some r :=
  Updates.row?_of_mem h.ids hr

theorem AuditSound.consumed_eq (h : AuditSound s) {r' : HistoryRemediationRun} (hr : r ∈ s.runs) (hr' : r' ∈ s.runs)
    (hs : r.status ≠ .failed) (hs' : r'.status ≠ .failed) (hplan : r.planHash = r'.planHash) : r = r' := by
  obtain ⟨c, hc, hcp, hcr⟩ := h.consumed r hr hs
  obtain ⟨c', hc', hcp', hcr'⟩ := h.consumed r' hr' hs'
  have heq : c = c' := List.inj_on_of_nodup_map h.plans hc hc' (hcp.trans (hplan.trans hcp'.symm))
  subst heq
  exact h.run_eq hr hr' (hcr.symm.trans hcr')

/-- What a call does to the audit. -/
structure Audited (s : AuditedDb) (call : Call) : Prop where
  sound : AuditSound (s.step call)
  consumptions : ∀ c ∈ s.consumptions, c ∈ (s.step call).consumptions
  moved : ∀ r ∈ s.runs, ∃ r' ∈ (s.step call).runs, Moved r r'
  applied : ∀ plan, s.applies call = some plan →
    (∀ c ∈ s.consumptions, c.planHash ≠ plan) ∧ ∃ c ∈ (s.step call).consumptions, c.planHash = plan
  restored : ∀ i, s.restores call = some i →
    (∃ r ∈ s.runs, r.id = i ∧ r.status = .applied) ∧ ∃ r ∈ (s.step call).runs, r.id = i ∧ r.status = .rolledBack

theorem runs_moved (hruns : ∃ new, s'.runs = s.runs ++ new) : ∀ r ∈ s.runs, ∃ r' ∈ s'.runs, Moved r r' := by
  obtain ⟨new, hnew⟩ := hruns
  exact fun r hr => ⟨r, hnew ▸ List.mem_append_left new hr, Moved.refl r⟩

theorem AuditSound.append (h : AuditSound s) {run : HistoryRemediationRun} (hid : run.id = s.nextRunId)
    (hruns : s'.runs = s.runs ++ [run]) (hnext : s'.nextRunId = s.nextRunId + 1)
    (hcons : ∀ c ∈ s.consumptions, c ∈ s'.consumptions) (hplans : (s'.consumptions.map (·.planHash)).Nodup)
    (hrun : run.status ≠ .failed → ∃ c ∈ s'.consumptions, c.planHash = run.planHash ∧ c.firstRunId = run.id)
    (hfailed : run.status = .failed → run.restoreStatus = .none) : AuditSound s' := by
  have hmem : ∀ r ∈ s'.runs, r ∈ s.runs ∨ r = run := fun r hr => by simpa [hruns] using hr
  constructor
  · rw [hruns, List.map_append, List.nodup_append_comm]
    refine List.nodup_cons.mpr ⟨fun hin => ?_, h.ids⟩
    obtain ⟨r, hr, heq : r.id = run.id⟩ := List.mem_map.mp hin
    have hlt := h.fresh r hr
    omega
  · intro r hr
    rcases hmem r hr with hr | rfl
    · exact (h.fresh r hr).trans (by omega)
    · omega
  · intro r hr hs
    rcases hmem r hr with hr | rfl
    · obtain ⟨c, hc, hp⟩ := h.consumed r hr hs
      exact ⟨c, hcons c hc, hp⟩
    · exact hrun hs
  · exact hplans
  · intro r hr hs
    rcases hmem r hr with hr | rfl
    · exact h.failed r hr hs
    · exact hfailed hs

/-- The tables after an update of one run. -/
theorem AuditSound.update (h : AuditSound s) {f : HistoryRemediationRun → HistoryRemediationRun}
    (hruns : s'.runs = Updates.updateAt (·.id) i f s.runs) (hnext : s'.nextRunId = s.nextRunId)
    (hcons : s'.consumptions = s.consumptions) (hf : ∀ r ∈ s.runs, r.id = i → r.status ≠ .failed ∧ Moved r (f r)) :
    AuditSound s' ∧ ∀ r ∈ s.runs, ∃ r' ∈ s'.runs, Moved r r' := by
  have hmoved : ∀ r ∈ s.runs, Moved r (if r.id = i then f r else r) := by
    intro r hr
    split
    · next hid => exact (hf r hr hid).2
    · exact Moved.refl r
  have hback : ∀ r' ∈ s'.runs, ∃ r ∈ s.runs, Moved r r' ∧ (r.status = .failed → r' = r) := by
    intro r' hr'
    rw [hruns] at hr'
    obtain ⟨r, hr, rfl⟩ := List.mem_map.mp hr'
    exact ⟨r, hr, hmoved r hr, (hmoved r hr).failed⟩
  have hfailed : ∀ r' ∈ s'.runs, ∀ r, Moved r r' → r ∈ s.runs → r'.status = .failed → r.status = .failed := by
    intro r' _ r hm _ hs
    rcases hm.status with heq | ⟨-, heq⟩
    · exact heq.symm.trans hs
    · rw [hs] at heq
      cases heq
  refine ⟨⟨?_, ?_, ?_, hcons ▸ h.plans, ?_⟩, fun r hr => ?_⟩
  · have hids : s'.runs.map (·.id) = s.runs.map (·.id) := by
      rw [hruns, Updates.updateAt, List.map_map]
      exact List.map_congr_left fun r hr => (hmoved r hr).id
    exact hids ▸ h.ids
  · intro r' hr'
    obtain ⟨r, hr, hm, -⟩ := hback r' hr'
    rw [hm.id, hnext]
    exact h.fresh r hr
  · intro r' hr' hs
    obtain ⟨r, hr, hm, hsame⟩ := hback r' hr'
    obtain ⟨c, hc, hp, hfirst⟩ := h.consumed r hr fun hf => hs (hsame hf ▸ hf)
    exact ⟨c, hcons ▸ hc, hp.trans hm.plan.symm, hfirst.trans hm.id.symm⟩
  · intro r' hr' hs
    obtain ⟨r, hr, hm, hsame⟩ := hback r' hr'
    have hf := hfailed r' hr' r hm hr hs
    rw [hsame hf]
    exact h.failed r hr hf
  · exact ⟨_, hruns ▸ List.mem_map_of_mem hr, hmoved r hr⟩

theorem AuditSound.not_failed_of_restored (h : AuditSound s) (hr : r ∈ s.runs)
    (hs : r.status = .applied ∨ r.restoreStatus = .restored) : r.status ≠ .failed := by
  intro hf
  rcases hs with hs | hs
  · rw [hf] at hs
    cases hs
  · rw [h.failed r hr hf] at hs
    cases hs

theorem audited_others (h : AuditSound s) (written : AuditedDb) : Audited s (.others written) where
  sound := ⟨h.ids, h.fresh, h.consumed, h.plans, h.failed⟩
  consumptions _ hc := hc
  moved r hr := ⟨r, hr, Moved.refl r⟩
  applied _ hp := by cases hp
  restored _ hi := by cases hi

theorem audited_apply (h : AuditSound s) (call : ApplyCall) : Audited s (.apply call) := by
  have heff := executeApply_effect s call
  generalize hout : executeApply s call = out at heff
  have hstep : s.step (.apply call) = out.1 := congrArg Prod.fst hout
  have happlies : s.applies (.apply call) = match out.2 with
    | .ok result => if result.status = .applied then some call.manifest.planHash else none
    | .error _ => none := by rw [← hout]; rfl
  cases heff with
  | untouched r hr =>
    have hnone : s.applies (.apply call) = none := by
      rw [happlies]
      cases r with
      | error e => rfl
      | ok result => exact if_neg (hr result rfl)
    refine ⟨hstep ▸ h, fun c hc => hstep ▸ hc, fun r hr => ⟨r, hstep ▸ hr, Moved.refl r⟩, ?_, ?_⟩
    · rw [hnone]
      exact fun _ hp => by cases hp
    · exact fun _ hi => by cases hi
  | audited code supersedes e =>
    refine ⟨?_, fun c hc => hstep ▸ hc, runs_moved ⟨_, congrArg AuditedDb.runs hstep⟩, ?_, ?_⟩
    · rw [hstep]
      exact h.append rfl rfl rfl (fun _ hc => hc) h.plans (fun hne => absurd rfl hne) fun _ => rfl
    · rw [happlies]
      exact fun _ hp => by cases hp
    · exact fun _ hi => by cases hi
  | applied supersedes st changes hex =>
    have hnew := hex.unconsumed
    refine ⟨?_, fun c hc => ?_, runs_moved ⟨_, congrArg AuditedDb.runs hstep⟩, ?_, ?_⟩
    · rw [hstep]
      refine h.append rfl rfl rfl (fun _ hc => List.mem_append_left _ hc) ?_ (fun _ => ?_) fun hf => by cases hf
      · show ((s.consumptions ++ [_]).map _).Nodup
        rw [List.map_append, List.nodup_append_comm]
        refine List.nodup_cons.mpr ⟨fun hin => ?_, h.plans⟩
        obtain ⟨c, hc, heq⟩ := List.mem_map.mp hin
        exact hnew c hc heq
      · exact ⟨_, List.mem_append_right _ (List.mem_singleton_self _), rfl, rfl⟩
    · rw [hstep]
      exact List.mem_append_left _ hc
    · rw [happlies, hstep]
      rintro plan hp
      obtain rfl : call.manifest.planHash = plan := Option.some.inj hp
      exact ⟨hnew, _, List.mem_append_right _ (List.mem_singleton_self _), rfl⟩
    · exact fun _ hi => by cases hi

theorem audited_restore (h : AuditSound s) (call : RestoreCall) : Audited s (.restore call) := by
  have heff := executeRestore_effect s call
  generalize hout : executeRestore s call = out at heff
  have hstep : s.step (.restore call) = out.1 := congrArg Prod.fst hout
  have hrestores : s.restores (.restore call) = match out.2 with
    | .ok result => if result.status = .restored then some call.runId else none
    | .error _ => none := by rw [← hout]; rfl
  cases heff with
  | untouched r hr =>
    have hnone : s.restores (.restore call) = none := by
      rw [hrestores]
      cases r with
      | error e => rfl
      | ok result => exact if_neg (hr result rfl)
    refine ⟨hstep ▸ h, fun c hc => hstep ▸ hc, fun r hr => ⟨r, hstep ▸ hr, Moved.refl r⟩, (fun _ hp => by cases hp), ?_⟩
    rw [hnone]
    exact fun _ hi => by cases hi
  | marked code e run hrun hst =>
    have hmem := Updates.mem_of_row? hrun
    have hruns : (s.markManualReview call.runId code).runs = Updates.updateAt (·.id) call.runId _ s.runs := rfl
    have hupdate := h.update hruns rfl rfl fun r hr hid => by
      obtain rfl := h.run_eq hr hmem (hid.trans (Updates.key_of_row? hrun).symm)
      have hne := h.not_failed_of_restored hr hst
      exact ⟨hne, rfl, rfl, Or.inl rfl, fun hf => absurd hf hne⟩
    refine ⟨hstep ▸ hupdate.1, fun c hc => hstep ▸ hc, hstep ▸ hupdate.2, (fun _ hp => by cases hp), ?_⟩
    rw [hrestores]
    exact fun _ hi => by cases hi
  | restored run result hrun hstatus hev hresult =>
    have hmem := Updates.mem_of_row? hrun
    have hid : run.id = call.runId := Updates.key_of_row? hrun
    have hruns : (s.restoreRun run (s.changesOf run.id) call.operationNow).runs = Updates.updateAt (·.id) run.id _ s.runs :=
      rfl
    have hupdate := h.update hruns rfl rfl fun r hr hrid => by
      obtain rfl := h.run_eq hr hmem hrid
      have hne := h.not_failed_of_restored hr (Or.inl hstatus)
      exact ⟨hne, rfl, rfl, Or.inr ⟨hstatus, rfl⟩, fun hf => absurd hf hne⟩
    refine ⟨hstep ▸ hupdate.1, fun c hc => hstep ▸ hc, hstep ▸ hupdate.2, (fun _ hp => by cases hp), ?_⟩
    rw [hrestores, hstep]
    intro i hi
    have hi : some call.runId = some i := by simpa [hresult] using hi
    obtain rfl := Option.some.inj hi
    refine ⟨⟨run, hmem, hid, hstatus⟩, _, List.mem_map_of_mem hmem, ?_⟩
    rw [if_pos rfl]
    exact ⟨hid, rfl⟩

theorem audited (h : AuditSound s) (call : Call) : Audited s call := by
  cases call with
  | apply call => exact audited_apply h call
  | restore call => exact audited_restore h call
  | others written => exact audited_others h written

theorem planOf_of_applies (h : s.applies call = some plan) : s.planOf call = some plan := by
  cases call with
  | restore call => cases h
  | others written => cases h
  | apply call =>
    simp only [AuditedDb.applies] at h
    split at h
    · split at h
      · exact h
      · cases h
    · cases h

theorem planOf_of_restores (h : s.restores call = some i) : s.planOf call = (s.run? i).map (·.planHash) := by
  cases call with
  | apply call => cases h
  | others written => cases h
  | restore call =>
    simp only [AuditedDb.restores] at h
    split at h
    · split at h
      · cases h
        rfl
      · cases h
    · cases h

/-- A call that commits neither an apply nor a restore leaves the observations and the anomalies as they are. -/
theorem step_data (hplan : s.planOf call = some plan) (ha : s.applies call = none) (hr : s.restores call = none) :
    (s.step call).observations = s.observations ∧ (s.step call).anomalies = s.anomalies := by
  cases call with
  | others written => cases hplan
  | apply call =>
    have heff := executeApply_effect s call
    simp only [AuditedDb.applies] at ha
    simp only [AuditedDb.step]
    generalize executeApply s call = out at heff ha
    cases heff with
    | untouched => exact ⟨rfl, rfl⟩
    | audited => exact ⟨rfl, rfl⟩
    | applied supersedes st changes hex => cases ha
  | restore call =>
    have heff := executeRestore_effect s call
    simp only [AuditedDb.restores] at hr
    simp only [AuditedDb.step]
    generalize executeRestore s call = out at heff hr
    cases heff with
    | untouched => exact ⟨rfl, rfl⟩
    | marked => exact ⟨rfl, rfl⟩
    | restored run result hrun hstatus hev hresult => simp [hresult] at hr

theorem step_of_rolledBack (h : AuditSound s) (hr : r ∈ s.runs) (hs : r.status = .rolledBack)
    (hplan : s.planOf call = some r.planHash) :
    s.applies call = none ∧ s.restores call = none := by
  have hne : r.status ≠ .failed := fun hf => by rw [hf] at hs; cases hs
  refine ⟨Option.eq_none_iff_forall_ne_some.mpr fun plan ha => ?_, Option.eq_none_iff_forall_ne_some.mpr fun i hi => ?_⟩
  · obtain ⟨c, hc, hp, -⟩ := h.consumed r hr hne
    have heq : r.planHash = plan := Option.some.inj (hplan.symm.trans (planOf_of_applies ha))
    exact ((audited h call).applied plan ha).1 c hc (hp.trans heq)
  · obtain ⟨⟨r', hr', rfl, hs'⟩, -⟩ := (audited h call).restored i hi
    have hplan' := (planOf_of_restores hi).symm.trans hplan
    rw [h.run?_of_mem hr'] at hplan'
    have heq := h.consumed_eq hr hr' hne (fun hf => by rw [hf] at hs'; cases hs') (Option.some.inj hplan').symm
    rw [heq, hs'] at hs
    cases hs

end Step

/-! ### Sequences of calls -/

section Run
variable {s : AuditedDb} {r : HistoryRemediationRun} {i : Nat} {plan : Digest PlanSeal}

theorem run_sound (h : AuditSound s) (calls : List Call) : AuditSound (s.run calls) :=
  foldl_induction (fun _ hs call _ => (audited hs call).sound) h

theorem run_moved (h : AuditSound s) (calls : List Call) : ∀ r ∈ s.runs, ∃ r' ∈ (s.run calls).runs, Moved r r' := by
  induction calls generalizing s with
  | nil => exact fun r hr => ⟨r, hr, Moved.refl r⟩
  | cons call calls ih =>
    intro r hr
    obtain ⟨r', hr', hm⟩ := (audited h call).moved r hr
    obtain ⟨r'', hr'', hm'⟩ := ih (audited h call).sound r' hr'
    exact ⟨r'', hr'', hm.trans hm'⟩

theorem not_mem_appliedPlans (h : AuditSound s) (hc : ∃ c ∈ s.consumptions, c.planHash = plan) (calls : List Call) :
    plan ∉ s.appliedPlans calls := by
  induction calls generalizing s with
  | nil => exact List.not_mem_nil
  | cons call calls ih =>
    obtain ⟨c, hc, hp⟩ := hc
    intro hmem
    rcases List.mem_append.mp hmem with hmem | hmem
    · exact ((audited h call).applied plan (Option.mem_toList.mp hmem)).1 c hc hp
    · exact ih (audited h call).sound ⟨c, (audited h call).consumptions c hc, hp⟩ hmem

theorem appliedPlans_nodup (h : AuditSound s) (calls : List Call) : (s.appliedPlans calls).Nodup := by
  induction calls generalizing s with
  | nil => exact List.nodup_nil
  | cons call calls ih =>
    have hrest := ih (audited h call).sound
    rw [AuditedDb.appliedPlans]
    cases ha : s.applies call with
    | none => exact hrest
    | some plan =>
      exact List.nodup_cons.mpr ⟨not_mem_appliedPlans (audited h call).sound ((audited h call).applied plan ha).2 calls, hrest⟩

theorem not_mem_restoredRuns (h : AuditSound s) (hr : ∃ r ∈ s.runs, r.id = i ∧ r.status = .rolledBack)
    (calls : List Call) : i ∉ s.restoredRuns calls := by
  induction calls generalizing s with
  | nil => exact List.not_mem_nil
  | cons call calls ih =>
    obtain ⟨r, hr, hid, hs⟩ := hr
    intro hmem
    rcases List.mem_append.mp hmem with hmem | hmem
    · obtain ⟨⟨r', hr', hid', hs'⟩, -⟩ := (audited h call).restored i (Option.mem_toList.mp hmem)
      rw [h.run_eq hr hr' (hid.trans hid'.symm), hs'] at hs
      cases hs
    · obtain ⟨r', hr', hm⟩ := (audited h call).moved r hr
      exact ih (audited h call).sound ⟨r', hr', hm.id.trans hid, hm.rolledBack hs⟩ hmem

theorem restoredRuns_nodup (h : AuditSound s) (calls : List Call) : (s.restoredRuns calls).Nodup := by
  induction calls generalizing s with
  | nil => exact List.nodup_nil
  | cons call calls ih =>
    have hrest := ih (audited h call).sound
    rw [AuditedDb.restoredRuns]
    cases hi : s.restores call with
    | none => exact hrest
    | some i =>
      exact List.nodup_cons.mpr ⟨not_mem_restoredRuns (audited h call).sound ((audited h call).restored i hi).2 calls, hrest⟩

theorem run_append (s : AuditedDb) (pre post : List Call) : s.run (pre ++ post) = (s.run pre).run post :=
  List.foldl_append

theorem run_after_restore (h : AuditSound s) {call later : Call} {mid : List Call} (hr : s.restores call = some i)
    (hp : s.planOf call = some plan) (hlater : (s.run (call :: mid)).planOf later = some plan) :
    (s.run (call :: mid)).applies later = none ∧ (s.run (call :: mid)).restores later = none := by
  obtain ⟨⟨r₀, hr₀, rfl, -⟩, r, hr', hid, hs⟩ := (audited h call).restored i hr
  have hplan : r.planHash = plan := by
    obtain ⟨r', hr'', hm⟩ := (audited h call).moved r₀ hr₀
    have hfound := (planOf_of_restores hr).symm.trans hp
    rw [h.run?_of_mem hr₀] at hfound
    rw [(audited h call).sound.run_eq hr' hr'' (hid.trans hm.id.symm), hm.plan]
    exact Option.some.inj hfound
  obtain ⟨r', hr', hm⟩ := run_moved (audited h call).sound mid r hr'
  refine step_of_rolledBack (run_sound h (call :: mid)) hr' (hm.rolledBack hs) ?_
  rw [hlater, hm.plan, hplan]

/-- Over any sequence of calls, each of which may fail anywhere: every plan is applied at most once and every run is
    restored at most once; a run only goes from applied to rolled back, and a failed one stays as it is; nothing but an
    apply or a restore that is committed writes an observation; and no call writes one for a plan that was restored. -/
theorem run_remediations (s : AuditedDb) (calls : List Call) :
    (s.unaudited.appliedPlans calls).Nodup ∧ (s.unaudited.restoredRuns calls).Nodup ∧
      (∀ pre post, calls = pre ++ post →
        ∀ r ∈ (s.unaudited.run pre).runs, ∃ r' ∈ (s.unaudited.run calls).runs, Moved r r') ∧
      (∀ pre call post plan, calls = pre ++ call :: post → (s.unaudited.run pre).planOf call = some plan →
        (s.unaudited.run pre).applies call = none → (s.unaudited.run pre).restores call = none →
        ((s.unaudited.run pre).step call).observations = (s.unaudited.run pre).observations) ∧
      ∀ pre call mid later post i plan, calls = pre ++ call :: mid ++ later :: post →
        (s.unaudited.run pre).restores call = some i → (s.unaudited.run pre).planOf call = some plan →
        (s.unaudited.run (pre ++ call :: mid)).planOf later = some plan →
        ((s.unaudited.run (pre ++ call :: mid)).step later).observations =
          (s.unaudited.run (pre ++ call :: mid)).observations := by
  have h := AuditSound.unaudited s
  refine ⟨appliedPlans_nodup h calls, restoredRuns_nodup h calls, ?_, ?_, ?_⟩
  · rintro pre post rfl r hr
    rw [run_append]
    exact run_moved (run_sound h pre) post r hr
  · intro pre call post plan _ hplan ha hr
    exact (step_data hplan ha hr).1
  · intro pre call mid later post i plan _ hr hp hlater
    rw [run_append] at hlater ⊢
    obtain ⟨ha, hr⟩ := run_after_restore (run_sound h pre) hr hp hlater
    exact (step_data hlater ha hr).1

end Run
end CestaPlan.History
