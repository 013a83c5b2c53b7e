import CestaPlan.Jobs.CrawlQueue
import CestaPlan.Jobs.Scheduler

/-! The rows of the queue: which of them `claim_job` takes, and what each transition writes (`ingestion/queue.py`).

    A transition changes the object that its session has read, and `flush` stores the columns that it has changed.
    Sessions keep what they have read (`expire_on_commit=False`). -/

namespace CestaPlan.Jobs
open Calendar (Instant)
open Updates

structure JobRow extends CrawlJob where
  lockedAt : Option Instant := none
  heartbeatAt : Option Instant := none
  lockedBy : Option String := none
  lastError : Option String := none
  completedAt : Option Instant := none

/-! ### Claiming -/

/-- The retailer of the run. -/
def retailerOf (runs : List CrawlRun) (job : JobRow) : Option Nat := (row? (·.id) runs job.crawlRunId).map (·.retailerId)

/-- `ORDER BY priority DESC, available_at, id`. -/
def JobRow.before (a b : JobRow) : Bool :=
  b.priority < a.priority || b.priority = a.priority && (a.availableAt < b.availableAt ||
    a.availableAt = b.availableAt && a.id ≤ b.id)

/-- The jobs of a retailer that are in flight. -/
def inFlight (runs : List CrawlRun) (jobs : List JobRow) (retailer : Nat) : Nat :=
  jobs.countP fun job => job.status = .locked && retailerOf runs job = some retailer

/-- `_retailers_at_capacity`: the counts are grouped by retailer, so one with no job in flight is not there. -/
def atCapacity (limits : Dict Nat Int) (runs : List CrawlRun) (jobs : List JobRow) (retailer : Nat) : Bool :=
  0 < inFlight runs jobs retailer && (limits.get? retailer).any (· ≤ (inFlight runs jobs retailer : Int))

/-- The job that `claim_job` selects: those that another transaction has locked are skipped. -/
def claimable? (runs : List CrawlRun) (full : Nat → Bool) (skipped : List Nat) (now : Instant) (jobs : List JobRow) :
    Option JobRow :=
  Selection.first (fun a b : JobRow => a.before b) (jobs.filter fun job => job.status = .queued && job.availableAt ≤ now &&
    (retailerOf runs job).any (!full ·) && !skipped.contains job.id)

/-! ### Transitions -/

/-- `backoff_delay`, in microseconds. -/
def backoffDelay (attempts : Nat) (jitter : Int) : Int :=
  let base : Int := 30000000
  let cap : Int := 3600000000
  min (min cap (base * 2 ^ (attempts - 1)) + jitter) (cap + base)

namespace JobRow
variable (job : JobRow) (now : Instant)

def claim (worker : String) : JobRow :=
  { job with status := .locked, lockedAt := some now, lockedBy := some worker, heartbeatAt := some now }

def heartbeat : JobRow := { job with heartbeatAt := some now }

def complete : JobRow :=
  { job with
    status := .completed, completedAt := some now, heartbeatAt := some now, lockedAt := none, lockedBy := none
    lastError := none }

def fail (error : Option String) (jitter : Int) : JobRow :=
  let job := { job with
    attempts := job.attempts + 1
    lastError := (error.map fun text : String => String.ofList (text.toList.take 2000)) <|> job.lastError
    lockedAt := none, lockedBy := none, heartbeatAt := some now }
  if job.maxAttempts ≤ job.attempts then { job with status := .deadLetter }
  else { job with status := .queued, availableAt := now + backoffDelay job.attempts jitter }

def cancel : JobRow :=
  { job with status := .cancelled, lockedAt := none, lockedBy := none, heartbeatAt := some now }

/-- What `recover_stuck_jobs` makes of a job. -/
def recovered : JobRow :=
  { job with status := .queued, availableAt := now, lockedAt := none, lockedBy := none, heartbeatAt := none }

/-- A job that `recover_stuck_jobs` finds. -/
def stuck (timeout : Int) : Bool := job.status = .locked && job.heartbeatAt.all (· < now - timeout)

end JobRow

/-- A column of the row, after a flush of an object that was read as `seen` and is `new` now. -/
def column {α : Type} [DecidableEq α] (seen new stored : α) : α := if new = seen then stored else new

def JobRow.flushed (seen new stored : JobRow) : JobRow :=
  { stored with
    status := column seen.status new.status stored.status
    attempts := column seen.attempts new.attempts stored.attempts
    availableAt := column seen.availableAt new.availableAt stored.availableAt
    lockedAt := column seen.lockedAt new.lockedAt stored.lockedAt
    heartbeatAt := column seen.heartbeatAt new.heartbeatAt stored.heartbeatAt
    lockedBy := column seen.lockedBy new.lockedBy stored.lockedBy
    lastError := column seen.lastError new.lastError stored.lastError
    completedAt := column seen.completedAt new.completedAt stored.completedAt }

section Transitions
variable {job : JobRow} {now : Instant} {error : Option String} {jitter : Int}

theorem JobRow.fail_status : (job.fail now error jitter).status = .deadLetter ∨ (job.fail now error jitter).status = .queued := by
  unfold JobRow.fail
  simp only
  split
  · exact .inl rfl
  · exact .inr rfl

theorem JobRow.fail_lockedBy : (job.fail now error jitter).lockedBy = none := by
  unfold JobRow.fail
  simp only
  split <;> rfl

end Transitions

section Keyed
variable {job job' : JobRow} {jobs : List JobRow}

theorem id_ite {p : Prop} [Decidable p] (h : job'.id = job.id) : (if p then job' else job).id = job.id := by
  split
  · exact h
  · rfl

theorem keyed_map {g : JobRow → JobRow} (hid : ∀ job, (g job).id = job.id) (h : (jobs.map (·.id)).Nodup) :
    ((jobs.map g).map (·.id)).Nodup := by
  rw [List.map_map]
  simpa only [Function.comp_def, hid] using h

end Keyed

section Column
variable {α : Type} [DecidableEq α] {seen new stored : α}

@[simp] theorem column_same : column seen seen stored = stored := if_pos rfl

theorem column_changed (h : new ≠ seen) : column seen new stored = new := if_neg h

end Column

end CestaPlan.Jobs
