import CestaPlan.Library.Calendar
import CestaPlan.Library.Dict
import CestaPlan.Library.Selection
import CestaPlan.Library.Updates

/-! The queue of crawl jobs (`ingestion/queue.py`). -/

namespace CestaPlan.Jobs
open Calendar (Instant)

inductive JobStatus where
  | queued | locked | completed | failed | deadLetter | cancelled
deriving DecidableEq, Repr

/-- A value of a payload: a text, or another one with what `str` and what the database show of it. -/
inductive PayloadValue where
  | null
  | text (s : String)
  | other (shown stored : String)
deriving DecidableEq

/-- `str(value)`, of a value that is there. -/
def PayloadValue.shown? : PayloadValue → Option String
  | .null => none
  | .text s => some s
  | .other shown _ => some shown

/-- `payload[key].astext`. -/
def PayloadValue.asText : PayloadValue → Option String
  | .null => none
  | .text s => some s
  | .other _ stored => some stored

abbrev Payload := Dict String PayloadValue

structure CrawlJob where
  id : Nat
  crawlRunId : Nat
  jobType : String
  payload : Option Payload
  status : JobStatus := .queued
  priority : Int := 0
  attempts : Nat := 0
  maxAttempts : Nat := 3
  availableAt : Instant

/-- The job is still to be done. -/
def CrawlJob.active (job : CrawlJob) : Bool := job.status = .queued || job.status = .locked

/-- The key under which a job is looked up. -/
def CrawlJob.key (job : CrawlJob) : Option String :=
  (job.payload.bind (·.get? "idempotency_key")).bind PayloadValue.asText

/-! ### Enqueueing -/

structure EnqueueCall where
  crawlRunId : Nat
  jobType : String
  payload : Option Payload := none
  priority : Int := 0
  maxAttempts : Nat := 3
  availableAt : Option Instant := none
  idempotencyKey : Option String := none

namespace EnqueueCall
variable (call : EnqueueCall)

/-- `dict(payload) if payload else None`. -/
def givenPayload : Option Payload := call.payload.filter (!·.entries.isEmpty)

def key : Option String :=
  call.idempotencyKey <|> (call.givenPayload.bind (·.get? "idempotency_key")).bind PayloadValue.shown?

/-- A key does not replace one that the payload already has. -/
def storedPayload : Option Payload :=
  match call.key with
  | some key => some ((call.givenPayload.getD Dict.empty).setDefault "idempotency_key" (.text key))
  | none => call.givenPayload

def job (id : Nat) (now : Instant) : CrawlJob where
  id := id
  crawlRunId := call.crawlRunId
  jobType := call.jobType
  payload := call.storedPayload
  priority := call.priority
  maxAttempts := call.maxAttempts
  availableAt := call.availableAt.getD now

/-- The job is stored under the key under which it is looked up. -/
def Plain : Prop := (call.storedPayload.bind (·.get? "idempotency_key")).bind PayloadValue.asText = call.key

end EnqueueCall

/-- `_find_by_idempotency_key`: a job of any status. -/
def findByIdempotencyKey (jobs : List CrawlJob) (key : String) : Option CrawlJob :=
  Selection.first (fun a b : CrawlJob => a.id ≤ b.id) (jobs.filter (·.key = some key))

/-- `enqueue_job`, alone in the database: the jobs and the one that the caller receives. -/
def enqueueJob (jobs : List CrawlJob) (nextId : Nat) (call : EnqueueCall) (now : Instant) : List CrawlJob × CrawlJob :=
  match call.key.bind (findByIdempotencyKey jobs) with
  | some existing => (jobs, existing)
  | none => (jobs ++ [call.job nextId now], call.job nextId now)

section Find
variable {jobs : List CrawlJob} {key : String} {job : CrawlJob}

theorem findByIdempotencyKey_some (h : findByIdempotencyKey jobs key = some job) :
    job ∈ jobs ∧ job.key = some key := by
  have hmem := List.mem_filter.mp (Selection.first_mem h)
  exact ⟨hmem.1, of_decide_eq_true hmem.2⟩

theorem findByIdempotencyKey_none (h : findByIdempotencyKey jobs key = none) : ∀ job ∈ jobs, job.key ≠ some key := by
  intro job hjob hkey
  have hnil := Selection.first_eq_none_iff.mp h
  exact List.filter_eq_nil_iff.mp hnil job hjob (decide_eq_true hkey)

theorem EnqueueCall.plain_of_payload {call : EnqueueCall}
    (h : ∀ v, call.givenPayload.bind (·.get? "idempotency_key") = some v → v.asText = call.key) : call.Plain := by
  unfold EnqueueCall.Plain EnqueueCall.storedPayload
  cases hkey : call.key with
  | none =>
    cases hv : call.givenPayload.bind (·.get? "idempotency_key") with
    | none => rfl
    | some v => rw [← hkey, ← h v hv]; rfl
  | some key =>
    simp only [Option.bind_some, Dict.get?_setDefault, if_true, Dict.getD]
    cases hp : call.givenPayload with
    | none => rfl
    | some payload =>
      cases hv : payload.get? "idempotency_key" with
      | none => simp [hv, PayloadValue.asText]
      | some v =>
        have := h v (by rw [hp, Option.bind_some, hv])
        simp [hv, this, hkey]

end Find
end CestaPlan.Jobs
