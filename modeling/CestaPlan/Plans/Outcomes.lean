import CestaPlan.Library.Runs
import CestaPlan.Plans.Generation

/-! What the rows of a generation say of each other: the job that has ended, its run and its plan.

    A worker writes what it has found without asking whether the job is still its own, and a plan is written by each of
    its jobs. -/

namespace CestaPlan.Plans.Generation
open Calendar Updates

def GenerationStatus.Ended (status : GenerationStatus) : Prop := status = .completed ∨ status = .failed

instance : DecidablePred GenerationStatus.Ended := fun _ => inferInstanceAs (Decidable (_ ∨ _))

/-- The status of a plan whose latest job has this one. -/
def GenerationStatus.ofPlan : GenerationStatus → PlanStatus
  | .completed => .ready
  | .failed => .failed
  | _ => .generating

/-- No job of the plan was enqueued after this one. -/
def GenerationDb.Latest (db : GenerationDb) (job : GenerationJob) : Prop :=
  ∀ other ∈ db.jobs, other.mealPlanId = job.mealPlanId → other.id ≤ job.id

/-- The run and the plan of a job that has ended say how. -/
structure Agrees (db : GenerationDb) : Prop where
  run : ∀ job ∈ db.jobs, job.status.Ended →
    ∃ run, db.run? job.optimizationRunId = some run ∧ run.status = job.status
  plan : ∀ job ∈ db.jobs, job.status.Ended → db.Latest job →
    ∃ plan, db.plan? job.mealPlanId = some plan ∧ plan.status = job.status.ofPlan

/-! ### Which rows belong together -/

structure JobLink where
  id : Nat
  optimizationRunId : Option Nat
  mealPlanId : Option Nat
  maxAttempts : Nat

def GenerationJob.link (job : GenerationJob) : JobLink := ⟨job.id, job.optimizationRunId, job.mealPlanId, job.maxAttempts⟩

/-- What no step rewrites. -/
structure Shape where
  jobs : List JobLink
  runs : List (Nat × Nat)
  plans : List Nat
  nextPlanId : Nat
  nextRunId : Nat
  nextJobId : Nat

def GenerationDb.shape (db : GenerationDb) : Shape where
  jobs := db.jobs.map (·.link)
  runs := db.runs.map fun run => (run.id, run.mealPlanId)
  plans := db.plans.map (·.id)
  nextPlanId := db.nextPlanId
  nextRunId := db.nextRunId
  nextJobId := db.nextJobId

/-- Every job has a run of its own, and the plan of that run. -/
structure Shape.Linked (shape : Shape) : Prop where
  jobIds : (shape.jobs.map (·.id)).Nodup
  runIds : (shape.runs.map (·.1)).Nodup
  planIds : shape.plans.Nodup
  freshJob : ∀ job ∈ shape.jobs, job.id < shape.nextJobId
  freshRun : ∀ run ∈ shape.runs, run.1 < shape.nextRunId
  freshPlan : ∀ plan ∈ shape.plans, plan < shape.nextPlanId
  run : ∀ job ∈ shape.jobs, ∃ run ∈ shape.runs, job.optimizationRunId = some run.1 ∧ job.mealPlanId = some run.2
  plan : ∀ run ∈ shape.runs, run.2 ∈ shape.plans
  own : ∀ job ∈ shape.jobs, ∀ other ∈ shape.jobs, job.optimizationRunId = other.optimizationRunId → job = other

section Linked
variable {db : GenerationDb} {job : GenerationJob}

theorem mem_jobs_shape (h : job ∈ db.jobs) : job.link ∈ db.shape.jobs := List.mem_map_of_mem h

theorem Shape.Linked.jobs_nodup (h : db.shape.Linked) : (db.jobs.map (·.id)).Nodup := by
  have hids := h.jobIds
  unfold GenerationDb.shape at hids
  rwa [List.map_map] at hids

theorem Shape.Linked.job_inj (h : db.shape.Linked) {other : GenerationJob} (hjob : job ∈ db.jobs) (hother : other ∈ db.jobs)
    (hid : job.id = other.id) : job = other :=
  List.inj_on_of_nodup_map h.jobs_nodup hjob hother hid

theorem Shape.Linked.linked_rows (h : db.shape.Linked) (hjob : job ∈ db.jobs) : ∃ run plan,
    db.run? job.optimizationRunId = some run ∧ db.plan? job.mealPlanId = some plan ∧
      job.mealPlanId = some run.mealPlanId := by
  obtain ⟨link, hlink, hrunId, hplanId⟩ := h.run _ (mem_jobs_shape hjob)
  obtain ⟨run, hrun, rfl⟩ := List.mem_map.mp hlink
  obtain ⟨plan, hplan, hid⟩ := List.mem_map.mp (h.plan _ hlink)
  change plan.id = run.mealPlanId at hid
  have hruns : (db.runs.map (·.id)).Nodup := by
    have hids := h.runIds
    unfold GenerationDb.shape at hids
    rwa [List.map_map] at hids
  have hrunFound := row?_of_mem hruns hrun
  have hplanFound := row?_of_mem h.planIds hplan
  refine ⟨run, plan, ?_, ?_, hplanId⟩
  · rw [GenerationDb.run?, show job.optimizationRunId = some run.id from hrunId]
    exact hrunFound
  · rw [GenerationDb.plan?, show job.mealPlanId = some run.mealPlanId from hplanId, ← hid]
    exact hplanFound

theorem Shape.Linked.run_ne (h : db.shape.Linked) {other : GenerationJob} (hjob : job ∈ db.jobs) (hother : other ∈ db.jobs)
    (hid : other.id ≠ job.id) : other.optimizationRunId ≠ job.optimizationRunId := by
  intro hrun
  have hlink := h.own _ (mem_jobs_shape hother) _ (mem_jobs_shape hjob) hrun
  exact hid (congrArg JobLink.id hlink)

theorem shape_writeJob {id : Nat} {f : GenerationJob → GenerationJob} (hf : ∀ job, (f job).link = job.link) :
    (db.writeJob id f).shape = db.shape := by
  unfold GenerationDb.shape GenerationDb.writeJob
  rw [map_updateAt hf]

theorem shape_writeRun {id : Nat} {f : OptimizationRun → OptimizationRun}
    (hf : ∀ run, ((f run).id, (f run).mealPlanId) = (run.id, run.mealPlanId)) : (db.writeRun id f).shape = db.shape := by
  unfold GenerationDb.shape GenerationDb.writeRun
  rw [map_updateAt (g := fun run : OptimizationRun => (run.id, run.mealPlanId)) hf]

theorem shape_writePlan {id : Nat} {f : MealPlan → MealPlan} (hf : ∀ plan, (f plan).id = plan.id) :
    (db.writePlan id f).shape = db.shape := by
  unfold GenerationDb.shape GenerationDb.writePlan
  rw [map_updateAt hf]

end Linked
/-! ### What the writes of a step do -/

section Agrees
variable {db db' : GenerationDb} {job : GenerationJob} {run : OptimizationRun} {plan : MealPlan}
  {fJob : GenerationJob → GenerationJob} {fRun : OptimizationRun → OptimizationRun} {fPlan : MealPlan → MealPlan}

theorem run?_id (h : db.run? job.optimizationRunId = some run) : job.optimizationRunId = some run.id := by
  obtain ⟨id, hid, hrun⟩ := Option.bind_eq_some_iff.mp h
  rw [hid, key_of_row? hrun]

theorem plan?_id (h : db.plan? job.mealPlanId = some plan) : job.mealPlanId = some plan.id := by
  obtain ⟨id, hid, hplan⟩ := Option.bind_eq_some_iff.mp h
  rw [hid, key_of_row? hplan]

/-- The writes of a step about one job: to its row, to its run and to its plan. -/
structure Writes (db : GenerationDb) (job : GenerationJob) (run : OptimizationRun) (plan : MealPlan)
    (fJob : GenerationJob → GenerationJob) (fRun : OptimizationRun → OptimizationRun) (fPlan : MealPlan → MealPlan)
    (db' : GenerationDb) : Prop where
  jobMem : job ∈ db.jobs
  runFound : db.run? job.optimizationRunId = some run
  planFound : db.plan? job.mealPlanId = some plan
  link : ∀ j, (fJob j).link = j.link
  runId : ∀ r, (fRun r).id = r.id ∧ (fRun r).mealPlanId = r.mealPlanId
  planId : ∀ p, (fPlan p).id = p.id
  jobs : db'.jobs = updateAt (·.id) job.id fJob db.jobs
  runs : db'.runs = updateAt (·.id) run.id fRun db.runs
  plans : db'.plans = updateAt (·.id) plan.id fPlan db.plans

theorem Writes.mem (h : Writes db job run plan fJob fRun fPlan db') (hlinked : db.shape.Linked) {j : GenerationJob}
    (hj : j ∈ db'.jobs) : j = fJob job ∨ j ∈ db.jobs ∧ j.id ≠ job.id := by
  rw [h.jobs] at hj
  obtain ⟨j₀, hj₀, rfl⟩ := mem_updateAt.mp hj
  by_cases hid : j₀.id = job.id
  · rw [if_pos hid, hlinked.job_inj hj₀ h.jobMem hid]
    exact Or.inl rfl
  · rw [if_neg hid]
    exact Or.inr ⟨hj₀, hid⟩

theorem Writes.shape_jobs (h : Writes db job run plan fJob fRun fPlan db') :
    db'.jobs.map (·.link) = db.jobs.map (·.link) := by
  rw [h.jobs, map_updateAt h.link]

theorem Writes.latest_iff (h : Writes db job run plan fJob fRun fPlan db') {j j' : GenerationJob}
    (hlink : j'.link = j.link) : db'.Latest j' ↔ db.Latest j := by
  have hlatest : ∀ (db : GenerationDb) (j : GenerationJob), db.Latest j ↔
      ∀ link ∈ db.jobs.map (·.link), link.mealPlanId = j.link.mealPlanId → link.id ≤ j.link.id := by
    intro db j
    rw [List.forall_mem_map]
    rfl
  rw [hlatest, hlatest, h.shape_jobs, hlink]

theorem Writes.run?_eq (h : Writes db job run plan fJob fRun fPlan db') (id : Option Nat) :
    db'.run? id = (db.run? id).map fun r => if r.id = run.id then fRun r else r := by
  unfold GenerationDb.run?
  rw [h.runs, Option.map_bind]
  refine Option.bind_congr fun id _ => ?_
  exact row?_updateAt fun r => (h.runId r).1

theorem Writes.plan?_eq (h : Writes db job run plan fJob fRun fPlan db') (id : Option Nat) :
    db'.plan? id = (db.plan? id).map fun p => if p.id = plan.id then fPlan p else p := by
  unfold GenerationDb.plan?
  rw [h.plans, Option.map_bind]
  refine Option.bind_congr fun id _ => ?_
  exact row?_updateAt h.planId

/-- A step keeps the agreement when it writes one outcome into the three rows, and the plan of another job that has
    ended says the same. -/
theorem Agrees.writes (hagrees : Agrees db) (hlinked : db.shape.Linked) (h : Writes db job run plan fJob fRun fPlan db')
    (hended : (fJob job).status.Ended →
      (fRun run).status = (fJob job).status ∧ (fPlan plan).status = (fJob job).status.ofPlan)
    (hothers : ∀ other ∈ db.jobs, other.id ≠ job.id → other.mealPlanId = job.mealPlanId → other.status.Ended →
      db.Latest other → plan.status = other.status.ofPlan → (fPlan plan).status = other.status.ofPlan) : Agrees db' := by
  have hrunId : (fJob job).optimizationRunId = job.optimizationRunId := congrArg JobLink.optimizationRunId (h.link job)
  have hplanId : (fJob job).mealPlanId = job.mealPlanId := congrArg JobLink.mealPlanId (h.link job)
  refine ⟨fun j hj hend => ?_, fun j hj hend hlatest => ?_⟩
  · rcases h.mem hlinked hj with rfl | ⟨hj, hne⟩
    · refine ⟨fRun run, ?_, (hended hend).1⟩
      rw [h.run?_eq, hrunId, h.runFound, Option.map_some, if_pos rfl]
    · obtain ⟨r, hr, hstatus⟩ := hagrees.run j hj hend
      refine ⟨r, ?_, hstatus⟩
      have hother : r.id ≠ run.id := fun hid =>
        hlinked.run_ne h.jobMem hj hne (by rw [run?_id hr, run?_id h.runFound, hid])
      rw [h.run?_eq, hr, Option.map_some, if_neg hother]
  · rcases h.mem hlinked hj with rfl | ⟨hj, hne⟩
    · refine ⟨fPlan plan, ?_, (hended hend).2⟩
      rw [h.plan?_eq, hplanId, h.planFound, Option.map_some, if_pos rfl]
    · have hlatest : db.Latest j := (h.latest_iff rfl).mp hlatest
      obtain ⟨p, hp, hstatus⟩ := hagrees.plan j hj hend hlatest
      by_cases hid : p.id = plan.id
      · have hsame : j.mealPlanId = job.mealPlanId := by rw [plan?_id hp, plan?_id h.planFound, hid]
        have hrow : p = plan := by
          rw [hsame, h.planFound] at hp
          exact (Option.some.inj hp).symm
        subst hrow
        refine ⟨fPlan p, ?_, hothers j hj hne hsame hend hlatest hstatus⟩
        rw [h.plan?_eq, hp, Option.map_some, if_pos rfl]
      · refine ⟨p, ?_, hstatus⟩
        rw [h.plan?_eq, hp, Option.map_some, if_neg hid]

end Agrees
/-! ### The invariant -/

/-- What is known of a job that was claimed `n` times. -/
structure GenerationJob.Counted (job : GenerationJob) (n : Nat) : Prop where
  le_max : n ≤ job.maxAttempts
  le_attempts : n ≤ job.attempts + 1
  queued : job.status = .queued → n ≤ job.attempts ∧ job.attempts < job.maxAttempts

structure Sound (db : GenerationDb) : Prop where
  linked : db.shape.Linked
  agrees : Agrees db
  counted : ∀ job ∈ db.jobs, job.Counted (db.claimed.count job.id)
  claimed : ∀ id ∈ db.claimed, id < db.nextJobId
  held : ∀ worker job, db.held worker = some job → ∃ row ∈ db.jobs, row.link = job.link

/-- The jobs that have ended stay as they are. -/
def Stable (db db' : GenerationDb) : Prop :=
  ∀ job ∈ db.jobs, job.status.Ended → ∃ job' ∈ db'.jobs, job'.id = job.id ∧ job'.status = job.status

/-- An attempt is over: a job is queued again only while attempts are left. -/
structure GenerationJob.Advances (job job' : GenerationJob) : Prop where
  attempts : job.attempts ≤ job'.attempts
  queued : job'.status = .queued → job'.attempts = job.attempts + 1 ∧ job'.attempts < job'.maxAttempts

/-- The end of an attempt of a job: with a status in the three rows, or back in the queue. -/
structure Moves (db : GenerationDb) (job : GenerationJob) (ends : Option GenerationStatus) (db' : GenerationDb) : Prop where
  writes : ∃ run plan fJob fRun fPlan, Writes db job run plan fJob fRun fPlan db' ∧ job.Advances (fJob job) ∧
    (∀ status, ends = some status →
      (fJob job).status = status ∧ (fRun run).status = status ∧ (fPlan plan).status = status.ofPlan) ∧
    (ends = none → (fJob job).status = .queued ∧ (fPlan plan).status = plan.status)
  shape : db'.shape = db.shape
  claimed : db'.claimed = db.claimed

/-- If another job is the latest of the plan, and has ended, it has this status. -/
def GenerationDb.LatestAgrees (db : GenerationDb) (job : GenerationJob) (status : GenerationStatus) : Prop :=
  ∀ other ∈ db.jobs, other.id ≠ job.id → other.mealPlanId = job.mealPlanId → db.Latest other → other.status.Ended →
    other.status = status

section Moves
variable {db db' : GenerationDb} {job : GenerationJob} {ends : Option GenerationStatus}

theorem GenerationJob.Counted.advances {job' : GenerationJob} {n : Nat} (h : job.Counted n) (ha : job.Advances job')
    (hmax : job'.maxAttempts = job.maxAttempts) : job'.Counted n := by
  have hattempts := h.le_attempts
  have hmono := ha.attempts
  refine ⟨hmax ▸ h.le_max, by omega, fun hqueued => ?_⟩
  obtain ⟨hnext, hleft⟩ := ha.queued hqueued
  exact ⟨by omega, hleft⟩

theorem Moves.agrees (h : Moves db job ends db') (hlinked : db.shape.Linked) (hagrees : Agrees db)
    (hlatest : ∀ status, ends = some status → db.LatestAgrees job status) : Agrees db' := by
  obtain ⟨run, plan, fJob, fRun, fPlan, hwrites, -, hsome, hnone⟩ := h.writes
  refine hagrees.writes hlinked hwrites (fun hended => ?_) fun other hother hne hplan hended hlast hstatus => ?_
  · cases ends with
    | none =>
      rw [(hnone rfl).1] at hended
      rcases hended with hended | hended
      · cases hended
      · cases hended
    | some status =>
      obtain ⟨hjob, hrun, hplan⟩ := hsome status rfl
      rw [hjob]
      exact ⟨hrun, hplan⟩
  · cases ends with
    | none => rw [(hnone rfl).2, hstatus]
    | some status => rw [(hsome status rfl).2.2, hlatest status rfl other hother hne hplan hlast hended]

theorem Moves.counted (h : Moves db job ends db') (hlinked : db.shape.Linked)
    (hcounted : ∀ job ∈ db.jobs, job.Counted (db.claimed.count job.id)) :
    ∀ job ∈ db'.jobs, job.Counted (db'.claimed.count job.id) := by
  obtain ⟨run, plan, fJob, fRun, fPlan, hwrites, hadvances, -, -⟩ := h.writes
  intro j hj
  rw [h.claimed]
  rcases hwrites.mem hlinked hj with rfl | ⟨hj, -⟩
  · have hid : (fJob job).id = job.id := congrArg JobLink.id (hwrites.link job)
    rw [hid]
    exact (hcounted job hwrites.jobMem).advances hadvances (congrArg JobLink.maxAttempts (hwrites.link job))
  · exact hcounted j hj

theorem Moves.sound (h : Moves db job ends db') (hsound : Sound db)
    (hlatest : ∀ status, ends = some status → db.LatestAgrees job status)
    (hheld : ∀ worker held, db'.held worker = some held → db.held worker = some held) : Sound db' := by
  obtain ⟨run, plan, fJob, fRun, fPlan, hwrites, -, -, -⟩ := h.writes
  refine ⟨h.shape ▸ hsound.linked, h.agrees hsound.linked hsound.agrees hlatest,
    h.counted hsound.linked hsound.counted, ?_, fun worker held hworker => ?_⟩
  · have hnext : db'.nextJobId = db.nextJobId := congrArg Shape.nextJobId h.shape
    rw [h.claimed, hnext]
    exact hsound.claimed
  · obtain ⟨row, hrow, hlink⟩ := hsound.held worker held (hheld worker held hworker)
    have hmem : row.link ∈ db'.jobs.map (·.link) := hwrites.shape_jobs.symm ▸ List.mem_map_of_mem hrow
    obtain ⟨row', hrow', hsame⟩ := List.mem_map.mp hmem
    exact ⟨row', hrow', hsame.trans hlink⟩

theorem Moves.stable (h : Moves db job ends db') (hlinked : db.shape.Linked)
    (hopen : job.status.Ended → ends = some job.status) : Stable db db' := by
  obtain ⟨run, plan, fJob, fRun, fPlan, hwrites, -, hsome, -⟩ := h.writes
  intro j hj hended
  by_cases hid : j.id = job.id
  · have hrow : j = job := hlinked.job_inj hj hwrites.jobMem hid
    subst hrow
    refine ⟨fJob j, ?_, congrArg JobLink.id (hwrites.link j), (hsome _ (hopen hended)).1⟩
    rw [hwrites.jobs]
    exact mem_updateAt.mpr ⟨j, hj, if_pos rfl⟩
  · refine ⟨j, ?_, rfl, rfl⟩
    rw [hwrites.jobs]
    exact mem_updateAt.mpr ⟨j, hj, if_neg hid⟩

theorem Stable.refl (db : GenerationDb) : Stable db db := fun job hjob _ => ⟨job, hjob, rfl, rfl⟩

theorem Stable.trans {db'' : GenerationDb} (h : Stable db db') (h' : Stable db' db'') : Stable db db'' := by
  intro job hjob hended
  obtain ⟨job', hjob', hid, hstatus⟩ := h job hjob hended
  obtain ⟨job'', hjob'', hid', hstatus'⟩ := h' job' hjob' (hstatus ▸ hended)
  exact ⟨job'', hjob'', hid'.trans hid, hstatus'.trans hstatus⟩

end Moves
/-! ### The end of an attempt -/

/-- The status with which an execution ends its job, unless the job is queued again. -/
def Outcome.ends (outcome : Outcome) (job : GenerationJob) : Option GenerationStatus :=
  match outcome with
  | .feasible => some .completed
  | .infeasible _ => some .failed
  | .error _ => if job.exhausted then some .failed else none

/-- A recovery ends a job that has no attempts left. -/
def GenerationJob.reaped (job : GenerationJob) : Option GenerationStatus := if job.exhausted then some .failed else none

section Ends
variable {db : GenerationDb} {job held : GenerationJob} {now : Instant}

theorem Outcome.ended {outcome : Outcome} {status : GenerationStatus} (h : outcome.ends job = some status) :
    status.Ended := by
  unfold Outcome.ends at h
  split at h
  · exact Or.inl (Option.some.inj h).symm
  · exact Or.inr (Option.some.inj h).symm
  · split at h
    · exact Or.inr (Option.some.inj h).symm
    · cases h

theorem advances_retry (pollInterval : Int) (message : String) : job.Advances (job.retry pollInterval message now) := by
  refine ⟨Nat.le_succ _, fun hqueued => ⟨rfl, ?_⟩⟩
  by_cases hexhausted : job.exhausted = true
  · simp [GenerationJob.retry, hexhausted] at hqueued
  · simp only [GenerationJob.exhausted, decide_eq_true_eq, not_le] at hexhausted
    exact hexhausted

theorem advances_recovered : job.Advances job.recovered := by
  refine ⟨Nat.le_succ _, fun hqueued => ⟨rfl, ?_⟩⟩
  by_cases hexhausted : job.exhausted = true
  · simp [GenerationJob.recovered, hexhausted] at hqueued
  · simp only [GenerationJob.exhausted, decide_eq_true_eq, not_le] at hexhausted
    exact hexhausted

theorem not_advances_queued {job' : GenerationJob} (hattempts : job'.attempts = job.attempts) (h : job'.status ≠ .queued) :
    job.Advances job' := ⟨hattempts.ge, fun hqueued => absurd hqueued h⟩

section Rows
variable {run : OptimizationRun} {plan : MealPlan} (fJob : GenerationJob → GenerationJob)
  (fRun : OptimizationRun → OptimizationRun)

theorem moves_closed (hjob : job ∈ db.jobs) (hrun : db.run? job.optimizationRunId = some run)
    (hplan : db.plan? job.mealPlanId = some plan) (hlink : ∀ j, (fJob j).link = j.link)
    (hrunId : ∀ r, (fRun r).id = r.id ∧ (fRun r).mealPlanId = r.mealPlanId) (hadvances : job.Advances (fJob job))
    (hstatus : (fRun run).status = (fJob job).status) :
    Moves db job (some (fJob job).status)
      (((db.writeJob job.id fJob).writeRun run.id fRun).writePlan plan.id
        (GenerationDb.setPlan (fJob job).status.ofPlan)) := by
  refine ⟨⟨run, plan, fJob, fRun, GenerationDb.setPlan (fJob job).status.ofPlan, ?_, hadvances, ?_, ?_⟩, ?_, rfl⟩
  · exact ⟨hjob, hrun, hplan, hlink, hrunId, fun _ => rfl, rfl, rfl, rfl⟩
  · intro status hsome
    obtain rfl := Option.some.inj hsome
    exact ⟨rfl, hstatus, rfl⟩
  · exact fun h => by cases h
  · rw [shape_writePlan (f := GenerationDb.setPlan _) fun _ => rfl, shape_writeRun fun r => Prod.ext (hrunId r).1 (hrunId r).2, shape_writeJob hlink]

/-- A job that is queued again, whatever the run says. -/
theorem moves_queued (hjob : job ∈ db.jobs) (hrun : db.run? job.optimizationRunId = some run)
    (hplan : db.plan? job.mealPlanId = some plan) (hlink : ∀ j, (fJob j).link = j.link)
    (hrunId : ∀ r, (fRun r).id = r.id ∧ (fRun r).mealPlanId = r.mealPlanId) (hadvances : job.Advances (fJob job))
    (hqueued : (fJob job).status = .queued) :
    Moves db job none ((db.writeJob job.id fJob).writeRun run.id fRun) := by
  refine ⟨⟨run, plan, fJob, fRun, id, ?_, hadvances, ?_, ?_⟩, ?_, rfl⟩
  · exact ⟨hjob, hrun, hplan, hlink, hrunId, fun _ => rfl, rfl, rfl, updateAt_id.symm⟩
  · exact fun status hsome => by cases hsome
  · exact fun _ => ⟨hqueued, rfl⟩
  · rw [shape_writeRun fun r => Prod.ext (hrunId r).1 (hrunId r).2, shape_writeJob hlink]

end Rows

theorem moves_processJob (hlinked : db.shape.Linked) (hjob : job ∈ db.jobs) (hlink : job.link = held.link)
    (pollInterval : Int) (outcome : Outcome) (now : Instant) :
    Moves db job (outcome.ends job) (db.processJob pollInterval held outcome now) := by
  obtain ⟨run, plan, hrun, hplan, hplanId⟩ := hlinked.linked_rows hjob
  have hid : held.id = job.id := (congrArg JobLink.id hlink).symm
  have hheldRun : db.run? held.optimizationRunId = some run := by
    rw [← show job.optimizationRunId = held.optimizationRunId from congrArg JobLink.optimizationRunId hlink, hrun]
  have hrow : row? (·.id) db.jobs job.id = some job := row?_of_mem hlinked.jobs_nodup hjob
  unfold GenerationDb.processJob
  simp only [hheldRun, ← hplanId, hplan, hid]
  cases outcome with
  | feasible =>
    exact moves_closed (held.close .completed none now) (OptimizationRun.execute .completed now)
      hjob hrun hplan (fun _ => rfl) (fun _ => ⟨rfl, rfl⟩) (not_advances_queued rfl GenerationStatus.noConfusion) rfl
  | infeasible message =>
    exact moves_closed (held.close .failed (some message) now) (OptimizationRun.execute .failed now)
      hjob hrun hplan (fun _ => rfl) (fun _ => ⟨rfl, rfl⟩) (not_advances_queued rfl GenerationStatus.noConfusion) rfl
  | error message =>
    unfold Outcome.ends GenerationDb.handleFailure
    simp only [hid, hrow]
    have hstatus : (job.retry pollInterval message now).status = if job.exhausted then .failed else .queued := rfl
    split
    · next hexhausted =>
      rw [if_pos hexhausted] at hstatus
      have hmoves := moves_closed (GenerationJob.retry pollInterval message now)
        (OptimizationRun.finish .failed now) hjob hrun hplan (fun _ => rfl) (fun _ => ⟨rfl, rfl⟩)
        (advances_retry pollInterval message) hstatus.symm
      rwa [hstatus] at hmoves
    · next hleft =>
      rw [if_neg hleft] at hstatus
      exact moves_queued (GenerationJob.retry pollInterval message now) (fun run => { run with status := .queued })
        hjob hrun hplan (fun _ => rfl) (fun _ => ⟨rfl, rfl⟩) (advances_retry pollInterval message) hstatus

theorem moves_recoverJob (hlinked : db.shape.Linked) (hjob : job ∈ db.jobs) (now : Instant) :
    Moves db job job.reaped (GenerationDb.recoverJob now db job) := by
  obtain ⟨run, plan, hrun, hplan, -⟩ := hlinked.linked_rows hjob
  have hstatus : job.recovered.status = if job.exhausted then .failed else .queued := rfl
  have hrun' : (db.writeJob job.id GenerationJob.recovered).run? job.optimizationRunId = some run := hrun
  have hplan' : ((db.writeJob job.id GenerationJob.recovered).writeRun run.id
      (OptimizationRun.finish .failed now)).plan? job.mealPlanId = some plan := hplan
  unfold GenerationDb.recoverJob GenerationJob.reaped
  simp only [GenerationDb.failLinked, hrun', hplan']
  split
  · next hexhausted =>
    rw [if_pos hexhausted] at hstatus
    have hmoves := moves_closed GenerationJob.recovered (OptimizationRun.finish .failed now) hjob hrun hplan
      (fun _ => rfl) (fun _ => ⟨rfl, rfl⟩) advances_recovered hstatus.symm
    rwa [hstatus] at hmoves
  · next hleft =>
    rw [if_neg hleft] at hstatus
    have hmoves := moves_queued GenerationJob.recovered id hjob hrun hplan (fun _ => rfl) (fun _ => ⟨rfl, rfl⟩)
      advances_recovered hstatus
    unfold GenerationDb.writeRun at hmoves
    rwa [updateAt_id] at hmoves

end Ends
/-! ### The steps -/

section Steps
variable {db db' : GenerationDb} {job : GenerationJob} {ends : Option GenerationStatus} {now : Instant}

theorem Moves.mem (h : Moves db job ends db') (hlinked : db.shape.Linked) {j : GenerationJob} (hj : j ∈ db'.jobs) :
    (j ∈ db.jobs ∧ j.id ≠ job.id) ∨ ∀ status, ends.getD .queued = status → j.status = status := by
  obtain ⟨run, plan, fJob, fRun, fPlan, hwrites, -, hsome, hnone⟩ := h.writes
  rcases hwrites.mem hlinked hj with rfl | hold
  · refine Or.inr fun status hstatus => ?_
    cases ends with
    | none => exact (hnone rfl).1.trans hstatus
    | some ended => exact (hsome ended rfl).1.trans hstatus
  · exact Or.inl hold

theorem Moves.mem_of_ne (h : Moves db job ends db') {j : GenerationJob} (hj : j ∈ db.jobs) (hne : j.id ≠ job.id) :
    j ∈ db'.jobs := by
  obtain ⟨run, plan, fJob, fRun, fPlan, hwrites, -⟩ := h.writes
  rw [hwrites.jobs]
  exact mem_updateAt.mpr ⟨j, hj, if_neg hne⟩

theorem Moves.latest_iff (h : Moves db job ends db') (j : GenerationJob) : db'.Latest j ↔ db.Latest j := by
  obtain ⟨run, plan, fJob, fRun, fPlan, hwrites, -⟩ := h.writes
  exact hwrites.latest_iff rfl

theorem not_ended_of_inProgress (h : job.inProgress = true) : ¬job.status.Ended := by
  rintro (hended | hended)
  · simp [GenerationJob.inProgress, hended] at h
  · simp [GenerationJob.inProgress, hended] at h

theorem reaped_some {status : GenerationStatus} (h : job.reaped = some status) :
    job.exhausted = true ∧ status = .failed := by
  unfold GenerationJob.reaped at h
  split at h
  · next hexhausted => exact ⟨hexhausted, (Option.some.inj h).symm⟩
  · cases h

theorem held_recoverJob (now : Instant) (db : GenerationDb) (job : GenerationJob) :
    (GenerationDb.recoverJob now db job).held = db.held := by
  unfold GenerationDb.recoverJob GenerationDb.failLinked
  dsimp only
  split
  · split
    · split
      · rfl
      · rfl
    · split
      · rfl
      · rfl
  · rfl

theorem sound_recover (jobs : List GenerationJob) (hsound : Sound db)
    (hjobs : ∀ job ∈ jobs, job ∈ db.jobs ∧ job.inProgress = true) (hids : (jobs.map (·.id)).Nodup)
    (hlatest : ∀ job ∈ jobs, job.exhausted = true → db.LatestAgrees job .failed) :
    Sound (jobs.foldl (GenerationDb.recoverJob now) db) ∧ Stable db (jobs.foldl (GenerationDb.recoverJob now) db) := by
  induction jobs generalizing db with
  | nil => exact ⟨hsound, Stable.refl db⟩
  | cons job jobs ih =>
    obtain ⟨hjob, hprogress⟩ := hjobs job List.mem_cons_self
    obtain ⟨hfirst, hrest⟩ := List.nodup_cons.mp hids
    have hmoves := moves_recoverJob hsound.linked hjob now
    have hnext : Sound (GenerationDb.recoverJob now db job) := by
      refine hmoves.sound hsound (fun status hends => ?_) fun worker held hworker => ?_
      · obtain ⟨hexhausted, rfl⟩ := reaped_some hends
        exact hlatest job List.mem_cons_self hexhausted
      · rwa [held_recoverJob] at hworker
    have hstable := hmoves.stable hsound.linked fun hended => absurd hended (not_ended_of_inProgress hprogress)
    have hne : ∀ j ∈ jobs, j.id ≠ job.id := fun j hj hid => hfirst (List.mem_map.mpr ⟨j, hj, hid⟩)
    have htail := ih hnext (fun j hj => ?_) hrest fun j hj hexhausted other hother hdiff hplan hlast hended => ?_
    · exact ⟨htail.1, hstable.trans htail.2⟩
    · obtain ⟨hmem, hp⟩ := hjobs j (List.mem_cons_of_mem _ hj)
      exact ⟨hmoves.mem_of_ne hmem (hne j hj), hp⟩
    · rcases hmoves.mem hsound.linked hother with ⟨hmem, -⟩ | hstatus
      · exact hlatest j (List.mem_cons_of_mem _ hj) hexhausted other hmem hdiff hplan ((hmoves.latest_iff other).mp hlast)
          hended
      · have hwritten := hstatus _ rfl
        cases hreaped : job.reaped with
        | none =>
          rw [hreaped] at hwritten
          rcases hended with hended | hended
          · cases hwritten.symm.trans hended
          · cases hwritten.symm.trans hended
        | some status =>
          rw [hreaped, (reaped_some hreaped).2] at hwritten
          exact hwritten

theorem sound_processHeld {worker : String} (hsound : Sound db) (pollInterval : Int) (outcome : Outcome)
    (horderly : ∀ held, db.held worker = some held → ∀ job ∈ db.jobs, job.id = held.id →
      (job.status.Ended → outcome.ends job = some job.status) ∧
        ∀ status, outcome.ends job = some status → db.LatestAgrees job status) :
    Sound (db.processHeld worker pollInterval outcome now) ∧
      Stable db (db.processHeld worker pollInterval outcome now) := by
  unfold GenerationDb.processHeld
  cases hworker : db.held worker with
  | none => exact ⟨hsound, Stable.refl db⟩
  | some held =>
    obtain ⟨row, hrow, hlink⟩ := hsound.held worker held hworker
    obtain ⟨hopen, hlatest⟩ := horderly held hworker row hrow (congrArg JobLink.id hlink)
    have hmoves := moves_processJob hsound.linked hrow hlink pollInterval outcome now
    have hreleased : Moves db row (outcome.ends row)
        { db.processJob pollInterval held outcome now with held := Function.update db.held worker none } := by
      obtain ⟨run, plan, fJob, fRun, fPlan, hwrites, hrest⟩ := hmoves.writes
      exact ⟨⟨run, plan, fJob, fRun, fPlan, ⟨hwrites.jobMem, hwrites.runFound, hwrites.planFound, hwrites.link,
        hwrites.runId, hwrites.planId, hwrites.jobs, hwrites.runs, hwrites.plans⟩, hrest⟩, hmoves.shape, hmoves.claimed⟩
    refine ⟨hreleased.sound hsound hlatest fun other job hother => ?_, hreleased.stable hsound.linked hopen⟩
    by_cases hsame : other = worker
    · subst hsame
      simp at hother
    · simpa [Function.update_of_ne hsame] using hother

theorem shape_take (worker : String) (job : GenerationJob) : (db.take worker now job).shape = db.shape :=
  shape_writeJob (f := GenerationDb.lock worker now) fun _ => rfl

theorem counted_take (hsound : Sound db) (worker : String) (hjob : job ∈ db.jobs) (hqueued : job.status = .queued) :
    ∀ j ∈ (db.take worker now job).jobs, j.Counted ((db.take worker now job).claimed.count j.id) := by
  intro j hj
  have hcount : (db.take worker now job).claimed.count j.id = db.claimed.count j.id + [job.id].count j.id :=
    List.count_append
  obtain ⟨j₀, hj₀, rfl⟩ := mem_updateAt.mp hj
  rw [hcount]
  by_cases hid : j₀.id = job.id
  · obtain rfl := hsound.linked.job_inj hj₀ hjob hid
    obtain ⟨hstarts, hleft⟩ := (hsound.counted j₀ hj₀).queued hqueued
    rw [if_pos rfl]
    have hone : [j₀.id].count (GenerationDb.lock worker now j₀).id = 1 := List.count_singleton_self
    rw [hone]
    refine ⟨?_, Nat.succ_le_succ hstarts, fun h => by cases h⟩
    exact Nat.succ_le_of_lt (hstarts.trans_lt hleft)
  · rw [if_neg hid, List.count_eq_zero.mpr fun h => hid (List.mem_singleton.mp h)]
    exact hsound.counted j₀ hj₀

theorem held_take (hsound : Sound db) (worker : String) (hjob : job ∈ db.jobs) {other : String} {held : GenerationJob}
    (h : (db.take worker now job).held other = some held) :
    ∃ row ∈ (db.take worker now job).jobs, row.link = held.link := by
  have hrows : ∀ row ∈ db.jobs, ∃ row' ∈ (db.take worker now job).jobs, row'.link = row.link := by
    intro row hrow
    refine ⟨_, mem_updateAt.mpr ⟨row, hrow, rfl⟩, ?_⟩
    split
    · rfl
    · rfl
  change Function.update db.held worker (some (GenerationDb.lock worker now job)) other = some held at h
  by_cases hsame : other = worker
  · rw [hsame, Function.update_self] at h
    obtain rfl := Option.some.inj h
    exact hrows job hjob
  · rw [Function.update_of_ne hsame] at h
    obtain ⟨row, hrow, hlink⟩ := hsound.held other held h
    obtain ⟨row', hrow', hsameLink⟩ := hrows row hrow
    exact ⟨row', hrow', hsameLink.trans hlink⟩

theorem not_ended_of_queued (h : job.status = .queued) : ¬job.status.Ended := by
  rw [h]
  decide

theorem sound_claimJob (hsound : Sound db) (worker : String) (now : Instant) :
    Sound (db.claimJob worker now) ∧ Stable db (db.claimJob worker now) := by
  unfold GenerationDb.claimJob
  split
  · exact ⟨hsound, Stable.refl db⟩
  · next job hfirst =>
    obtain ⟨hjob, hrunnable⟩ := List.mem_filter.mp (Selection.first_mem hfirst)
    have hqueued : job.status = .queued := by
      simp only [GenerationDb.runnable, Bool.and_eq_true, decide_eq_true_eq] at hrunnable
      exact hrunnable.1
    obtain ⟨run, plan, hrun, hplan, -⟩ := hsound.linked.linked_rows hjob
    have hwrites : Writes db job run plan (GenerationDb.lock worker now) id id (db.take worker now job) :=
      ⟨hjob, hrun, hplan, fun _ => rfl, fun _ => ⟨rfl, rfl⟩, fun _ => rfl, rfl, updateAt_id.symm, updateAt_id.symm⟩
    refine ⟨⟨(shape_take worker job).symm ▸ hsound.linked, ?_, counted_take hsound worker hjob hqueued, fun id hid => ?_,
      fun other held hother => held_take hsound worker hjob hother⟩, fun j hj hended => ?_⟩
    · refine hsound.agrees.writes hsound.linked hwrites (fun hended => ?_) fun other _ _ _ _ _ hstatus => hstatus
      rcases hended with hended | hended
      · cases hended
      · cases hended
    · rcases List.mem_append.mp hid with hid | hid
      · exact hsound.claimed id hid
      · rw [List.mem_singleton.mp hid]
        exact hsound.linked.freshJob _ (mem_jobs_shape hjob)
    · have hne : j.id ≠ job.id := fun hid =>
        not_ended_of_queued hqueued (hsound.linked.job_inj hj hjob hid ▸ hended)
      exact ⟨j, mem_updateAt.mpr ⟨j, hj, if_neg hne⟩, rfl, rfl⟩

end Steps
/-! ### New jobs -/

/-- A run and a job of a plan that is there. -/
def Shape.enqueue (shape : Shape) (planId maxAttempts : Nat) : Shape where
  jobs := shape.jobs ++ [⟨shape.nextJobId, some shape.nextRunId, some planId, maxAttempts⟩]
  runs := shape.runs ++ [(shape.nextRunId, planId)]
  plans := shape.plans
  nextPlanId := shape.nextPlanId
  nextRunId := shape.nextRunId + 1
  nextJobId := shape.nextJobId + 1

theorem nodup_concat {l : List Nat} {next : Nat} (h : l.Nodup) (hfresh : ∀ id ∈ l, id < next) : (l ++ [next]).Nodup := by
  refine List.nodup_append.mpr ⟨h, List.nodup_singleton _, ?_⟩
  rintro id hid other hother rfl
  exact absurd (List.mem_singleton.mp hother) (hfresh id hid).ne

theorem Shape.Linked.enqueue {shape : Shape} (h : shape.Linked) {planId : Nat} (hplan : planId ∈ shape.plans)
    (maxAttempts : Nat) : (shape.enqueue planId maxAttempts).Linked := by
  have hrunIds : ∀ job ∈ shape.jobs, job.optimizationRunId ≠ some shape.nextRunId := by
    intro job hjob hrun
    obtain ⟨run, hmem, hid, -⟩ := h.run job hjob
    exact (h.freshRun run hmem).ne (Option.some.inj (hid.symm.trans hrun))
  have hold : ∀ job ∈ (shape.enqueue planId maxAttempts).jobs, job ∈ shape.jobs ∨
      job = ⟨shape.nextJobId, some shape.nextRunId, some planId, maxAttempts⟩ := fun job hjob =>
    (List.mem_append.mp hjob).imp id List.mem_singleton.mp
  constructor
  case jobIds =>
    rw [Shape.enqueue, List.map_append]
    exact nodup_concat h.jobIds fun id hid => by
      obtain ⟨job, hjob, rfl⟩ := List.mem_map.mp hid
      exact h.freshJob job hjob
  case runIds =>
    rw [Shape.enqueue, List.map_append]
    exact nodup_concat h.runIds fun id hid => by
      obtain ⟨run, hrun, rfl⟩ := List.mem_map.mp hid
      exact h.freshRun run hrun
  case planIds => exact h.planIds
  case freshJob =>
    intro job hjob
    rcases hold job hjob with hjob | rfl
    · exact Nat.lt_succ_of_lt (h.freshJob job hjob)
    · exact Nat.lt_succ_self _
  case freshRun =>
    intro run hrun
    rcases List.mem_append.mp hrun with hrun | hrun
    · exact Nat.lt_succ_of_lt (h.freshRun run hrun)
    · rw [List.mem_singleton.mp hrun]
      exact Nat.lt_succ_self _
  case freshPlan => exact h.freshPlan
  case run =>
    intro job hjob
    rcases hold job hjob with hjob | rfl
    · obtain ⟨run, hrun, hids⟩ := h.run job hjob
      exact ⟨run, List.mem_append_left _ hrun, hids⟩
    · exact ⟨_, List.mem_append_right _ (List.mem_singleton_self _), rfl, rfl⟩
  case plan =>
    intro run hrun
    rcases List.mem_append.mp hrun with hrun | hrun
    · exact h.plan run hrun
    · rw [List.mem_singleton.mp hrun]
      exact hplan
  case own =>
    intro job hjob other hother hsame
    rcases hold job hjob with hjob | rfl
    · rcases hold other hother with hother | rfl
      · exact h.own job hjob other hother hsame
      · exact absurd hsame (hrunIds job hjob)
    · rcases hold other hother with hother | rfl
      · exact absurd hsame.symm (hrunIds other hother)
      · rfl

section Enqueue
variable {db : GenerationDb} {planId maxAttempts : Nat} {f : MealPlan → MealPlan}

theorem shape_enqueueRun (now : Instant) :
    (db.enqueueRun planId maxAttempts now).shape = db.shape.enqueue planId maxAttempts := by
  unfold GenerationDb.enqueueRun GenerationDb.shape Shape.enqueue
  simp [GenerationJob.link]

theorem sound_enqueue (hsound : Sound db) (hplan : planId ∈ db.shape.plans) (hmax : 0 < maxAttempts)
    (hf : ∀ plan, (f plan).id = plan.id) (now : Instant) :
    Sound ((db.writePlan planId f).enqueueRun planId maxAttempts now) ∧
      Stable db ((db.writePlan planId f).enqueueRun planId maxAttempts now) := by
  have hkept : ∀ job ∈ db.jobs, job ∈ ((db.writePlan planId f).enqueueRun planId maxAttempts now).jobs :=
    fun job hjob => List.mem_append_left _ hjob
  have hmem : ∀ job ∈ ((db.writePlan planId f).enqueueRun planId maxAttempts now).jobs, job ∈ db.jobs ∨
      (job.id = db.nextJobId ∧ job.mealPlanId = some planId ∧ job.status = .queued ∧ job.attempts = 0 ∧
        job.maxAttempts = maxAttempts) := by
    intro job hjob
    rcases List.mem_append.mp hjob with hjob | hjob
    · exact Or.inl hjob
    · rw [List.mem_singleton.mp hjob]
      exact Or.inr ⟨rfl, rfl, rfl, rfl, rfl⟩
  refine ⟨⟨?_, ⟨fun job hjob hended => ?_, fun job hjob hended hlatest => ?_⟩, fun job hjob => ?_, fun id hid => ?_,
    fun worker held hworker => ?_⟩, fun job hjob _ => ⟨job, hkept job hjob, rfl, rfl⟩⟩
  · rw [shape_enqueueRun, shape_writePlan hf]
    exact hsound.linked.enqueue hplan maxAttempts
  · rcases hmem job hjob with hjob | ⟨-, -, hstatus, -⟩
    · obtain ⟨run, hrun, hstatus⟩ := hsound.agrees.run job hjob hended
      obtain ⟨id, hid, hrow⟩ := Option.bind_eq_some_iff.mp hrun
      refine ⟨run, ?_, hstatus⟩
      rw [hid]
      exact row?_append_of_some hrow
    · exact absurd hended (not_ended_of_queued hstatus)
  · rcases hmem job hjob with hjob | ⟨-, -, hstatus, -⟩
    · have hother : job.mealPlanId ≠ some planId := by
        intro hsame
        have hnew := hlatest _ (List.mem_append_right _ (List.mem_singleton_self _)) hsame.symm
        exact absurd (hsound.linked.freshJob _ (mem_jobs_shape hjob)) (Nat.not_lt.mpr hnew)
      obtain ⟨plan, hfound, hstatus⟩ := hsound.agrees.plan job hjob hended fun other hother =>
        hlatest other (hkept other hother)
      obtain ⟨id, hid, hrow⟩ := Option.bind_eq_some_iff.mp hfound
      refine ⟨plan, ?_, hstatus⟩
      have hne : plan.id ≠ planId := fun h => hother (h ▸ plan?_id hfound)
      rw [hid]
      show row? (·.id) (updateAt (·.id) planId f db.plans) id = some plan
      rw [row?_updateAt hf, hrow, Option.map_some, if_neg hne]
    · exact absurd hended (not_ended_of_queued hstatus)
  · rcases hmem job hjob with hjob | ⟨hid, -, -, hattempts, hmaxAttempts⟩
    · exact hsound.counted job hjob
    · have hnone : db.claimed.count job.id = 0 :=
        List.count_eq_zero.mpr fun h => (hsound.claimed _ h).ne hid
      show job.Counted (db.claimed.count job.id)
      rw [hnone]
      exact ⟨Nat.zero_le _, Nat.zero_le _, fun _ => ⟨Nat.zero_le _, by omega⟩⟩
  · exact Nat.lt_succ_of_lt (hsound.claimed id hid)
  · obtain ⟨row, hrow, hlink⟩ := hsound.held worker held hworker
    exact ⟨row, hkept row hrow, hlink⟩

theorem sound_addPlan (hsound : Sound db) :
    Sound { db with plans := db.plans ++ [{ id := db.nextPlanId }], nextPlanId := db.nextPlanId + 1 } := by
  have hlinked := hsound.linked
  refine ⟨⟨hlinked.jobIds, hlinked.runIds, ?_, hlinked.freshJob, hlinked.freshRun, fun id hid => ?_, hlinked.run,
    fun run hrun => ?_, hlinked.own⟩, ⟨hsound.agrees.run, fun job hjob hended hlatest => ?_⟩, hsound.counted,
    hsound.claimed, hsound.held⟩
  · unfold GenerationDb.shape
    rw [List.map_append]
    exact nodup_concat hlinked.planIds hlinked.freshPlan
  · unfold GenerationDb.shape at hid
    rw [List.map_append] at hid
    rcases List.mem_append.mp hid with hid | hid
    · exact Nat.lt_succ_of_lt (hlinked.freshPlan id hid)
    · rw [List.mem_singleton.mp hid]
      exact Nat.lt_succ_self _
  · unfold GenerationDb.shape
    rw [List.map_append]
    exact List.mem_append_left _ (hlinked.plan run hrun)
  · obtain ⟨plan, hfound, hstatus⟩ := hsound.agrees.plan job hjob hended hlatest
    obtain ⟨id, hid, hrow⟩ := Option.bind_eq_some_iff.mp hfound
    refine ⟨plan, ?_, hstatus⟩
    rw [hid]
    exact row?_append_of_some hrow

end Enqueue
/-! ### Runs -/

/-- The tables after a run of events, from empty ones. -/
def after (events : List GenerationEvent) : GenerationDb := events.foldl GenerationDb.step {}

/-- No job was started more often than it may, and the run and the plan of a job that has ended say how. -/
structure Settled (db : GenerationDb) : Prop where
  starts : ∀ job ∈ db.jobs, db.claimed.count job.id ≤ job.maxAttempts
  agrees : Agrees db

structure KeepsOutcomes (events : List GenerationEvent) : Prop where
  settled : ∀ pre, pre <+: events → Settled (after pre)
  final : ∀ pre pre', pre <+: pre' → pre' <+: events → Stable (after pre) (after pre')

/-- A step that overwrites no outcome: an attempt that ends leaves a job as it has ended, and the status that a job brings
    to its plan is that of the latest job, if this one has ended. -/
def Orderly (db : GenerationDb) : GenerationEvent → Prop
  | .create maxAttempts _ => 0 < maxAttempts
  | .regenerate _ maxAttempts _ => 0 < maxAttempts
  | .claim _ _ => True
  | .process worker _ outcome _ => ∀ held ∈ db.held worker, ∀ job ∈ db.jobs, job.id = held.id →
      (job.status.Ended → outcome.ends job = some job.status) ∧
        ∀ status ∈ outcome.ends job, db.LatestAgrees job status
  | .recover timeout now => ∀ job ∈ db.jobs, job.stale (now - timeout) = true → job.exhausted = true →
      db.LatestAgrees job .failed

instance (db : GenerationDb) (job : GenerationJob) : Decidable (db.Latest job) :=
  inferInstanceAs (Decidable (∀ other ∈ db.jobs, other.mealPlanId = job.mealPlanId → other.id ≤ job.id))

instance (db : GenerationDb) (job : GenerationJob) (status : GenerationStatus) : Decidable (db.LatestAgrees job status) :=
  inferInstanceAs (Decidable (∀ other ∈ db.jobs, other.id ≠ job.id → other.mealPlanId = job.mealPlanId → db.Latest other →
    other.status.Ended → other.status = status))

instance (db : GenerationDb) : DecidablePred (Orderly db)
  | .create maxAttempts _ => inferInstanceAs (Decidable (0 < maxAttempts))
  | .regenerate _ maxAttempts _ => inferInstanceAs (Decidable (0 < maxAttempts))
  | .claim _ _ => isTrue trivial
  | .process worker _ outcome _ =>
    inferInstanceAs (Decidable (∀ held ∈ db.held worker, ∀ job ∈ db.jobs, job.id = held.id →
      (job.status.Ended → outcome.ends job = some job.status) ∧ ∀ status ∈ outcome.ends job, db.LatestAgrees job status))
  | .recover timeout now =>
    inferInstanceAs (Decidable (∀ job ∈ db.jobs, job.stale (now - timeout) = true → job.exhausted = true →
      db.LatestAgrees job .failed))

section Runs
variable {db : GenerationDb} {ev : GenerationEvent} {events : List GenerationEvent}

theorem sound_create (hsound : Sound db) {maxAttempts : Nat} (hmax : 0 < maxAttempts) (now : Instant) :
    Sound (db.createGeneration maxAttempts now) ∧ Stable db (db.createGeneration maxAttempts now) := by
  have hplan : db.nextPlanId ∈
      (GenerationDb.shape { db with plans := db.plans ++ [{ id := db.nextPlanId }], nextPlanId := db.nextPlanId + 1 }).plans := by
    unfold GenerationDb.shape
    rw [List.map_append]
    exact List.mem_append_right _ (List.mem_singleton_self _)
  have henqueue := sound_enqueue (f := id) (sound_addPlan hsound) hplan hmax (fun _ => rfl) now
  unfold GenerationDb.writePlan at henqueue
  rwa [updateAt_id] at henqueue

theorem sound_regenerate (hsound : Sound db) (planId : Nat) {maxAttempts : Nat} (hmax : 0 < maxAttempts) (now : Instant) :
    Sound (db.enqueueRegeneration planId maxAttempts now) ∧ Stable db (db.enqueueRegeneration planId maxAttempts now) := by
  unfold GenerationDb.enqueueRegeneration
  cases hplan : db.plan? (some planId) with
  | none => exact ⟨hsound, Stable.refl db⟩
  | some plan =>
    have hmem : plan.id ∈ db.shape.plans := List.mem_map_of_mem (mem_of_row? hplan)
    exact sound_enqueue (f := GenerationDb.setPlan .generating) hsound hmem hmax (fun _ => rfl) now

theorem Sound.step (hsound : Sound db) (horderly : Orderly db ev) : Sound (db.step ev) ∧ Stable db (db.step ev) := by
  cases ev with
  | create maxAttempts now => exact sound_create hsound horderly now
  | regenerate planId maxAttempts now => exact sound_regenerate hsound planId horderly now
  | claim worker now =>
    show Sound (if _ then _ else _) ∧ Stable db (if _ then _ else _)
    split
    · exact ⟨hsound, Stable.refl db⟩
    · exact sound_claimJob hsound worker now
  | process worker pollInterval outcome now => exact sound_processHeld hsound pollInterval outcome horderly
  | recover timeout now =>
    refine sound_recover _ hsound (fun job hjob => ?_) ?_ fun job hjob hexhausted => ?_
    · obtain ⟨hmem, hstale⟩ := List.mem_filter.mp hjob
      exact ⟨hmem, (Bool.and_eq_true_iff.mp hstale).1⟩
    · exact hsound.linked.jobs_nodup.sublist (List.filter_sublist.map _)
    · obtain ⟨hmem, hstale⟩ := List.mem_filter.mp hjob
      exact horderly job hmem hstale hexhausted

theorem sound_empty : Sound {} := by
  refine ⟨⟨List.nodup_nil, List.nodup_nil, List.nodup_nil, ?_, ?_, ?_, ?_, ?_, ?_⟩, ⟨?_, ?_⟩, ?_, ?_, ?_⟩
  case refine_11 =>
    intro _ _ h
    cases h
  all_goals
    intro _ h
    cases h

theorem after_concat (pre : List GenerationEvent) (ev : GenerationEvent) : after (pre ++ [ev]) = (after pre).step ev := by
  unfold after
  rw [List.foldl_append]
  rfl

theorem sound_after (horderly : ∀ pre ev, pre ++ [ev] <+: events → Orderly (after pre) ev) : Sound (after events) := by
  induction events using List.reverseRecOn with
  | nil => exact sound_empty
  | append_singleton events ev ih =>
    rw [after_concat]
    have hevents := ih fun pre e hpre => horderly pre e (hpre.trans (List.prefix_append _ _))
    exact (hevents.step (horderly events ev List.prefix_rfl)).1

end Runs
/-! ### A plan that is generated twice -/

section Examples

def minute (n : Int) : Instant := n * 60000000

/-- A plan fails once and is generated; then it is generated anew, and the second job is not feasible. -/
def twoJobs : List GenerationEvent :=
  [.create 3 0, .claim "a" (minute 1), .process "a" 2000000 (.error "timeout") (minute 2), .claim "b" (minute 3),
    .process "b" 2000000 .feasible (minute 4), .regenerate 1 3 (minute 5), .claim "a" (minute 6),
    .process "a" 2000000 (.infeasible "infeasible: budget") (minute 7)]

/-- A worker that is slow, and taken for dead. -/
def slowWorker : List GenerationEvent :=
  [.create 3 0, .claim "a" (minute 1), .recover 600000000 (minute 12), .claim "b" (minute 13),
    .process "b" 2000000 .feasible (minute 14), .process "a" 2000000 (.error "timeout") (minute 15)]

/-- Two jobs of a plan, of which the newer one ends first. -/
def olderLast : List GenerationEvent :=
  [.create 3 0, .regenerate 1 3 (minute 1), .claim "a" (minute 2), .claim "b" (minute 2),
    .process "b" 2000000 .feasible (minute 3), .process "a" 2000000 (.infeasible "infeasible: budget") (minute 4)]

end Examples
end CestaPlan.Plans.Generation
