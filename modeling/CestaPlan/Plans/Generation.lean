import CestaPlan.Library.Calendar
import CestaPlan.Library.Selection
import CestaPlan.Library.Updates

/-! The queue of the generation jobs (`cestaplan_worker/main.py`), their processing (`cestaplan_worker/processor.py`) and
    what it writes to the run and to the plan (`services/plan_service.py`). -/

namespace CestaPlan.Plans.Generation
open Calendar (Instant)
open Updates

/-- The status of a job and of an optimization run. -/
inductive GenerationStatus where
  | queued | collectingData | generatingCandidates | validating | optimizing | completed | failed | cancelled
deriving DecidableEq, Repr

inductive PlanStatus where
  | draft | generating | ready | failed | archived
deriving DecidableEq, Repr

structure MealPlan where
  id : Nat
  status : PlanStatus := .generating
deriving DecidableEq

structure OptimizationRun where
  id : Nat
  mealPlanId : Nat
  status : GenerationStatus := .queued
  startedAt : Option Instant := none
  finishedAt : Option Instant := none
deriving DecidableEq

structure GenerationJob where
  id : Nat
  optimizationRunId : Option Nat
  mealPlanId : Option Nat
  status : GenerationStatus := .queued
  priority : Int := 0
  attempts : Nat := 0
  maxAttempts : Nat := 3
  runAfter : Option Instant := none
  lockedAt : Option Instant := none
  lockedBy : Option String := none
  heartbeatAt : Option Instant := none
  lastError : Option String := none
deriving DecidableEq

/-- The tables, and the job that each worker has claimed and not yet processed. -/
structure GenerationDb where
  plans : List MealPlan := []
  runs : List OptimizationRun := []
  jobs : List GenerationJob := []
  nextPlanId : Nat := 1
  nextRunId : Nat := 1
  nextJobId : Nat := 1
  held : String → Option GenerationJob := fun _ => none
  /-- The jobs that were claimed, in order. -/
  claimed : List Nat := []

namespace GenerationDb
variable (db : GenerationDb)

def writePlan (id : Nat) (f : MealPlan → MealPlan) : GenerationDb := { db with plans := updateAt (·.id) id f db.plans }

def setPlan (status : PlanStatus) (plan : MealPlan) : MealPlan := { plan with status := status }

def writeRun (id : Nat) (f : OptimizationRun → OptimizationRun) : GenerationDb :=
  { db with runs := updateAt (·.id) id f db.runs }

def writeJob (id : Nat) (f : GenerationJob → GenerationJob) : GenerationDb :=
  { db with jobs := updateAt (·.id) id f db.jobs }

def plan? (id : Option Nat) : Option MealPlan := id.bind (row? (·.id) db.plans)

def run? (id : Option Nat) : Option OptimizationRun := id.bind (row? (·.id) db.runs)

/-! ### Enqueueing -/

/-- `_enqueue_run`; `maxAttempts` is a setting. -/
def enqueueRun (planId maxAttempts : Nat) (now : Instant) : GenerationDb :=
  { db with
    runs := db.runs ++ [{ id := db.nextRunId, mealPlanId := planId }]
    nextRunId := db.nextRunId + 1
    jobs := db.jobs ++
      [{ id := db.nextJobId
         optimizationRunId := some db.nextRunId
         mealPlanId := some planId
         maxAttempts := maxAttempts
         runAfter := some now }]
    nextJobId := db.nextJobId + 1 }

/-- `create_generation`. -/
def createGeneration (maxAttempts : Nat) (now : Instant) : GenerationDb :=
  let withPlan : GenerationDb :=
    { db with plans := db.plans ++ [{ id := db.nextPlanId }], nextPlanId := db.nextPlanId + 1 }
  withPlan.enqueueRun db.nextPlanId maxAttempts now

/-- `enqueue_regeneration`, of a plan that is there. -/
def enqueueRegeneration (planId maxAttempts : Nat) (now : Instant) : GenerationDb :=
  match db.plan? (some planId) with
  | none => db
  | some plan => (db.writePlan plan.id (setPlan .generating)).enqueueRun plan.id maxAttempts now

/-! ### Claiming -/

def runnable (now : Instant) (job : GenerationJob) : Bool := job.status = .queued && job.runAfter.all (· ≤ now)

def claimBefore (a b : GenerationJob) : Prop := b.priority < a.priority ∨ b.priority = a.priority ∧ a.id ≤ b.id

instance : DecidableRel claimBefore := fun _ _ => inferInstanceAs (Decidable (_ ∨ _))

def lock (worker : String) (now : Instant) (job : GenerationJob) : GenerationJob :=
  { job with status := .collectingData, lockedAt := some now, lockedBy := some worker, heartbeatAt := some now }

/-- The job is locked, and given to the worker. -/
def take (worker : String) (now : Instant) (job : GenerationJob) : GenerationDb :=
  { db.writeJob job.id (lock worker now) with
    held := Function.update db.held worker (some (lock worker now job))
    claimed := db.claimed ++ [job.id] }

/-- `claim_job`, and the commit after it. -/
def claimJob (worker : String) (now : Instant) : GenerationDb :=
  match Selection.first claimBefore (db.jobs.filter (runnable now)) with
  | none => db
  | some job => db.take worker now job

end GenerationDb

/-! ### Processing -/

/-- How the execution of a job ends: a plan, a diagnosis (of the preflight or of the engine), or an exception. -/
inductive Outcome where
  | feasible
  | infeasible (message : String)
  | error (message : String)

/-- What an assignment leaves in a row: a value that the object was loaded with is not written. -/
def assigned {α : Type} [DecidableEq α] (loaded new row : α) : α := if loaded = new then row else new

/-- `_backoff`; the poll interval in microseconds. -/
def backoff (pollInterval : Int) (attempts : Nat) : Int := min 300000000 (pollInterval * 2 ^ attempts)

namespace OptimizationRun

def finish (status : GenerationStatus) (now : Instant) (run : OptimizationRun) : OptimizationRun :=
  { run with status := status, finishedAt := some now }

/-- The transitions of the execution, and its end. -/
def execute (status : GenerationStatus) (now : Instant) (run : OptimizationRun) : OptimizationRun :=
  { run.finish status now with startedAt := run.startedAt <|> some now }

end OptimizationRun

namespace GenerationJob

/-- No attempt is left after this one. -/
def exhausted (job : GenerationJob) : Bool := job.maxAttempts ≤ job.attempts + 1

/-- A job that the worker has ended, `loaded` being its object. -/
def close (loaded : GenerationJob) (status : GenerationStatus) (error : Option String) (now : Instant)
    (job : GenerationJob) : GenerationJob :=
  { job with status := status, lastError := assigned loaded.lastError error job.lastError, heartbeatAt := some now }

/-- A job without its run or its plan. -/
def orphaned (loaded : GenerationJob) (job : GenerationJob) : GenerationJob :=
  { job with
    status := .failed
    lastError := assigned loaded.lastError (some "job references a missing run or plan") job.lastError }

/-- `_handle_failure`, on a row that was read again after the rollback. -/
def retry (pollInterval : Int) (message : String) (now : Instant) (job : GenerationJob) : GenerationJob :=
  { job with
    attempts := job.attempts + 1
    lastError := some message
    lockedAt := none
    lockedBy := none
    heartbeatAt := some now
    status := if job.exhausted then .failed else .queued
    runAfter := if job.exhausted then job.runAfter else some (now + backoff pollInterval (job.attempts + 1)) }

def inProgress (job : GenerationJob) : Bool :=
  job.status = .collectingData || job.status = .generatingCandidates || job.status = .validating || job.status = .optimizing

def stale (cutoff : Int) (job : GenerationJob) : Bool := job.inProgress && job.heartbeatAt.all (· < cutoff)

/-- What the recovery makes of a stale job. -/
def recovered (job : GenerationJob) : GenerationJob :=
  { job with
    attempts := job.attempts + 1
    lockedAt := none
    lockedBy := none
    heartbeatAt := none
    status := if job.exhausted then .failed else .queued
    lastError :=
      if job.exhausted then some "reaped: el worker abandonó el job (heartbeat vencido)" else job.lastError
    runAfter := if job.exhausted then job.runAfter else none }

end GenerationJob

namespace GenerationDb
variable (db : GenerationDb)

/-- `_handle_failure`. -/
def handleFailure (pollInterval : Int) (job : GenerationJob) (run : OptimizationRun) (plan : MealPlan) (message : String)
    (now : Instant) : GenerationDb :=
  match row? (·.id) db.jobs job.id with
  | none => db
  | some row =>
    let db := db.writeJob job.id (GenerationJob.retry pollInterval message now)
    if row.exhausted then (db.writeRun run.id (OptimizationRun.finish .failed now)).writePlan plan.id (setPlan .failed)
    else db.writeRun run.id fun run => { run with status := .queued }

/-- `process_job`, and the commit after it. -/
def processJob (pollInterval : Int) (job : GenerationJob) (outcome : Outcome) (now : Instant) : GenerationDb :=
  match db.run? job.optimizationRunId with
  | none => db.writeJob job.id job.orphaned
  | some run =>
    match db.plan? (some run.mealPlanId) with
    | none => db.writeJob job.id job.orphaned
    | some plan =>
      match outcome with
      | .feasible =>
        ((db.writeRun run.id (OptimizationRun.execute .completed now)).writePlan plan.id (setPlan .ready)).writeJob job.id
          (GenerationJob.close job .completed none now)
      | .infeasible message =>
        ((db.writeRun run.id (OptimizationRun.execute .failed now)).writePlan plan.id (setPlan .failed)).writeJob job.id
          (GenerationJob.close job .failed (some message) now)
      | .error message => db.handleFailure pollInterval job run plan message now

/-! ### Recovery -/

/-- `_fail_linked`. -/
def failLinked (job : GenerationJob) (now : Instant) : GenerationDb :=
  let db := match db.run? job.optimizationRunId with
    | none => db
    | some run => db.writeRun run.id (OptimizationRun.finish .failed now)
  match db.plan? job.mealPlanId with
  | none => db
  | some plan => db.writePlan plan.id (setPlan .failed)

/-- The body of the loop of `recover_abandoned_jobs`; the rows are locked. -/
def recoverJob (now : Instant) (db : GenerationDb) (job : GenerationJob) : GenerationDb :=
  let db := db.writeJob job.id GenerationJob.recovered
  if job.exhausted then db.failLinked job now else db

/-- `recover_abandoned_jobs`. -/
def recoverAbandonedJobs (timeout : Int) (now : Instant) : GenerationDb :=
  (db.jobs.filter (GenerationJob.stale (now - timeout))).foldl (recoverJob now) db

end GenerationDb

/-! ### Workers -/

inductive GenerationEvent where
  | create (maxAttempts : Nat) (now : Instant)
  | regenerate (planId maxAttempts : Nat) (now : Instant)
  /-- A worker that has nothing to process claims a job. -/
  | claim (worker : String) (now : Instant)
  | process (worker : String) (pollInterval : Int) (outcome : Outcome) (now : Instant)
  | recover (timeout : Int) (now : Instant)

/-- A worker processes the object that its claim has given it, however late. -/
def GenerationDb.processHeld (db : GenerationDb) (worker : String) (pollInterval : Int) (outcome : Outcome)
    (now : Instant) : GenerationDb :=
  match db.held worker with
  | none => db
  | some job => { db.processJob pollInterval job outcome now with held := Function.update db.held worker none }

def GenerationDb.step (db : GenerationDb) : GenerationEvent → GenerationDb
  | .create maxAttempts now => db.createGeneration maxAttempts now
  | .regenerate planId maxAttempts now => db.enqueueRegeneration planId maxAttempts now
  | .claim worker now => if (db.held worker).isSome then db else db.claimJob worker now
  | .process worker pollInterval outcome now => db.processHeld worker pollInterval outcome now
  | .recover timeout now => db.recoverAbandonedJobs timeout now

end CestaPlan.Plans.Generation
