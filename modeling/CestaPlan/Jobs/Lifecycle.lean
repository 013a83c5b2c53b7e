import CestaPlan.Jobs.JobRows
import CestaPlan.Library.Runs

/-! Workers and admins that share the queue (`ingestion/crawl_worker.py`, `routers/ingestion_admin.py`).

    A worker commits its claim before it goes on with the job, and no transition looks at the row again. -/

namespace CestaPlan.Jobs
open Calendar (Instant)
open Updates

structure JobState where
  jobs : List JobRow
  /-- The job that each worker is at, as its session has it. -/
  held : String → Option JobRow := fun _ => none
  /-- The job that each request of an admin has read. -/
  read : Nat → Option JobRow := fun _ => none
  /-- The workers whose job was cancelled or recovered since they claimed it; no code sees it. -/
  lost : String → Bool := fun _ => false

inductive JobEvent where
  /-- `full` are the retailers that are at capacity, `skipped` the jobs that another transaction has locked. -/
  | claim (worker : String) (full : Nat → Bool) (skipped : List Nat) (now : Instant)
  | heartbeat (worker : String) (now : Instant)
  | complete (worker : String) (now : Instant)
  | fail (worker : String) (error : Option String) (jitter : Int) (now : Instant)
  /-- The worker dies, or its session is rolled back. -/
  | abandon (worker : String)
  | read (request jobId : Nat)
  | cancel (request : Nat) (now : Instant)
  | recover (skipped : List Nat) (timeout : Int) (now : Instant)

namespace JobState
variable (runs : List CrawlRun) (s : JobState)

/-- An object that was read as `seen` is flushed as `new`. -/
def save (seen new : JobRow) : List JobRow := updateAt (·.id) seen.id (seen.flushed new) s.jobs

def claim (worker : String) (full : Nat → Bool) (skipped : List Nat) (now : Instant) : JobState :=
  match s.held worker, claimable? runs full skipped now s.jobs with
  | none, some job =>
    { s with
      jobs := updateAt (·.id) job.id (·.claim now worker) s.jobs
      held := Function.update s.held worker (some (job.claim now worker))
      lost := Function.update s.lost worker false }
  | _, _ => s

def heartbeat (worker : String) (now : Instant) : JobState :=
  match s.held worker with
  | some job => { s with
      jobs := s.save job (job.heartbeat now), held := Function.update s.held worker (some (job.heartbeat now)) }
  | none => s

/-- The worker is done with its job. -/
def finish (worker : String) (transition : JobRow → JobRow) : JobState :=
  match s.held worker with
  | some job => { s with jobs := s.save job (transition job), held := Function.update s.held worker none }
  | none => s

def abandon (worker : String) : JobState := { s with held := Function.update s.held worker none }

/-- `cancel_crawl` takes only jobs that are still to be done. -/
def readJob (request jobId : Nat) : JobState :=
  { s with read := Function.update s.read request ((row? (·.id) s.jobs jobId).filter (·.active)) }

def cancel (request : Nat) (now : Instant) : JobState :=
  match s.read request with
  | some job => { s with
      jobs := s.save job (job.cancel now)
      read := Function.update s.read request none
      lost := fun worker => s.lost worker || (s.held worker).any (·.id = job.id) }
  | none => s

/-- The job is found by `recover_stuck_jobs`. -/
def recovers (skipped : List Nat) (timeout : Int) (now : Instant) (job : JobRow) : Bool :=
  job.stuck now timeout && !skipped.contains job.id

def recover (skipped : List Nat) (timeout : Int) (now : Instant) : JobState :=
  { s with
    jobs := s.jobs.map fun job => if recovers skipped timeout now job then job.recovered now else job
    lost := fun worker => s.lost worker || (s.held worker).any fun held =>
      s.jobs.any fun job => job.id = held.id && recovers skipped timeout now job }

def step : JobEvent → JobState
  | .claim worker full skipped now => s.claim runs worker full skipped now
  | .heartbeat worker now => s.heartbeat worker now
  | .complete worker now => s.finish worker (·.complete now)
  | .fail worker error jitter now => s.finish worker (·.fail now error jitter)
  | .abandon worker => s.abandon worker
  | .read request jobId => s.readJob request jobId
  | .cancel request now => s.cancel request now
  | .recover skipped timeout now => s.recover skipped timeout now

end JobState

/-! ### What the queue promises -/

/-- The status is the last one of a job. -/
def JobStatus.terminal (status : JobStatus) : Bool := status = .completed || status = .cancelled || status = .deadLetter

/-- The worker that ends its job with the event. -/
def JobEvent.finisher? : JobEvent → Option String
  | .complete worker _ => some worker
  | .fail worker _ _ _ => some worker
  | _ => none

def JobEvent.isCancel : JobEvent → Bool
  | .cancel _ _ => true
  | _ => false

/-- A job that is over keeps its status, whatever a worker does. -/
def KeepsOver (runs : List CrawlRun) (s : JobState) (e : JobEvent) : Prop :=
  e.isCancel = false → ∀ job ∈ s.jobs, job.status.terminal = true →
    ∀ job' ∈ (s.step runs e).jobs, job'.id = job.id → job'.status = job.status

/-- Who completes or fails a job is recorded as its owner. -/
def ByOwner (s : JobState) (e : JobEvent) : Prop :=
  ∀ worker ∈ e.finisher?, ∀ held ∈ s.held worker, ∀ job ∈ s.jobs, job.id = held.id → job.lockedBy = some worker

def Honest (runs : List CrawlRun) (s : JobState) (e : JobEvent) : Prop := KeepsOver runs s e ∧ ByOwner s e

/-- The job was neither cancelled nor recovered since the worker that ends it claimed it. -/
def Undisturbed (s : JobState) (e : JobEvent) : Prop :=
  ∀ worker ∈ e.finisher?, (s.held worker).isSome = true → s.lost worker = false

instance (s : JobState) (e : JobEvent) : Decidable (Undisturbed s e) :=
  inferInstanceAs (Decidable (∀ worker ∈ e.finisher?, (s.held worker).isSome = true → s.lost worker = false))

section Lifecycle
variable {runs : List CrawlRun} {s t : JobState} {e : JobEvent} {worker : String} {held job seen : JobRow} {now : Instant}

/-! ### Transitions -/

/-- What completing and failing have in common. -/
structure Ends (transition : JobRow → JobRow) : Prop where
  not_locked : ∀ job, (transition job).status ≠ .locked
  not_cancelled : ∀ job, (transition job).status ≠ .cancelled
  free : ∀ job, (transition job).lockedBy = none

theorem ends_complete : Ends (·.complete now) where
  not_locked _ h := by cases h
  not_cancelled _ h := by cases h
  free _ := rfl

theorem ends_fail {error : Option String} {jitter : Int} : Ends (·.fail now error jitter) where
  not_locked _ h := by rcases JobRow.fail_status with hs | hs <;> cases hs.symm.trans h
  not_cancelled _ h := by rcases JobRow.fail_status with hs | hs <;> cases hs.symm.trans h
  free _ := JobRow.fail_lockedBy

theorem finisher_step (runs : List CrawlRun) (s : JobState) (h : e.finisher? = some worker) : ∃ transition, Ends transition ∧
    s.step runs e = s.finish worker transition := by
  cases e with
  | complete worker now =>
    cases h
    exact ⟨_, ends_complete, rfl⟩
  | fail worker error jitter now =>
    cases h
    exact ⟨_, ends_fail, rfl⟩
  | claim | heartbeat | abandon | read | cancel | recover => cases h

/-! ### What is known of the jobs that workers are at -/

/-- The row of a job that a worker is at. -/
def Recorded (lost : Bool) (worker : String) (job : JobRow) : Prop :=
  if lost then job.status = .cancelled ∨ job.lockedBy ≠ some worker else job.status = .locked ∧ job.lockedBy = some worker

structure Holds (s : JobState) (worker : String) (held : JobRow) : Prop where
  status : held.status = .locked
  owner : held.lockedBy = some worker
  stored : ∃ job ∈ s.jobs, job.id = held.id
  recorded : ∀ job ∈ s.jobs, job.id = held.id → Recorded (s.lost worker) worker job

structure Tracked (s : JobState) : Prop where
  keyed : (s.jobs.map (·.id)).Nodup
  holds : ∀ worker held, s.held worker = some held → Holds s worker held
  active : ∀ request seen, s.read request = some seen → seen.active = true

/-- A step that rewrites rows keeps what is known of a worker's job as far as it keeps what is recorded. -/
theorem Holds.map (h : Holds s worker held) {g : JobRow → JobRow} (hjobs : t.jobs = s.jobs.map g)
    (hid : ∀ job, (g job).id = job.id)
    (hkeeps : ∀ job ∈ s.jobs, job.id = held.id → Recorded (s.lost worker) worker job →
      Recorded (t.lost worker) worker (g job)) : Holds t worker held where
  status := h.status
  owner := h.owner
  stored := by
    obtain ⟨job, hjob, hjobid⟩ := h.stored
    exact ⟨g job, hjobs ▸ List.mem_map_of_mem hjob, (hid job).trans hjobid⟩
  recorded job' hjob' hid' := by
    rw [hjobs] at hjob'
    obtain ⟨job, hjob, rfl⟩ := List.mem_map.mp hjob'
    rw [hid job] at hid'
    exact hkeeps job hjob hid' (h.recorded job hjob hid')

theorem Tracked.same (h : Tracked s) {job' : JobRow} (hjob : job ∈ s.jobs) (hjob' : job' ∈ s.jobs) (hid : job.id = job'.id) :
    job = job' := List.inj_on_of_nodup_map h.keyed hjob hjob' hid

/-! ### Steps -/

theorem id_claimed (job : JobRow) (now : Instant) (worker : String) (x : JobRow) :
    (if x.id = job.id then x.claim now worker else x).id = x.id := id_ite rfl

theorem id_flushed (job new x : JobRow) : (if x.id = job.id then job.flushed new x else x).id = x.id := id_ite rfl

theorem id_recovered (skipped : List Nat) (timeout : Int) (now : Instant) (x : JobRow) :
    (if JobState.recovers skipped timeout now x then x.recovered now else x).id = x.id := id_ite rfl

theorem claimable?_some {full : Nat → Bool} {skipped : List Nat} (h : claimable? runs full skipped now s.jobs = some job) :
    job ∈ s.jobs ∧ job.status = .queued := by
  have hmem := List.mem_filter.mp (Selection.first_mem h)
  simp only [Bool.and_eq_true, decide_eq_true_eq] at hmem
  exact ⟨hmem.1, hmem.2.1.1.1⟩

theorem Tracked.claim (h : Tracked s) {full : Nat → Bool} {skipped : List Nat} :
    Tracked (s.claim runs worker full skipped now) := by
  unfold JobState.claim
  split
  · next job hfree hjob =>
    obtain ⟨hmem, hqueued⟩ := claimable?_some hjob
    refine ⟨keyed_map (id_claimed job now worker) h.keyed, fun w held hheld => ?_, h.active⟩
    simp only [Function.update_apply] at hheld
    split at hheld
    · next hw =>
      obtain rfl := Option.some.inj hheld
      refine ⟨rfl, hw ▸ rfl, ⟨_, List.mem_map_of_mem hmem, (id_claimed job now worker job).trans rfl⟩, fun x hx hxid => ?_⟩
      obtain ⟨y, hy, rfl⟩ := List.mem_map.mp hx
      have hyid : y.id = job.id := (id_claimed job now worker y).symm.trans hxid
      simp only [hyid, if_true, hw, Function.update_self, Recorded]
      exact ⟨rfl, rfl⟩
    · next hw =>
      refine (h.holds w held hheld).map rfl (id_claimed job now worker) fun x hx hxid hrecorded => ?_
      simp only [Function.update_of_ne hw]
      split
      · next hxjob =>
        obtain rfl := h.same hx hmem hxjob
        cases hlost : s.lost w with
        | true => exact .inr fun howner => hw (Option.some.inj howner).symm
        | false =>
          rw [hlost] at hrecorded
          exact absurd (hqueued.symm.trans hrecorded.1) (by decide)
      · exact hrecorded
  · exact h

theorem flushed_heartbeat_status : (held.flushed (held.heartbeat now) job).status = job.status := column_same

theorem flushed_heartbeat_lockedBy : (held.flushed (held.heartbeat now) job).lockedBy = job.lockedBy := column_same

theorem Tracked.heartbeat (h : Tracked s) : Tracked (s.heartbeat worker now) := by
  unfold JobState.heartbeat
  split
  · next job hjob =>
    have hrow : ∀ w held, s.held w = some held → ∀ x ∈ s.jobs, x.id = held.id → Recorded (s.lost w) w x →
        Recorded (s.lost w) w (if x.id = job.id then job.flushed (job.heartbeat now) x else x) := by
      intro w held _ x _ _ hrecorded
      split
      · unfold Recorded at hrecorded ⊢
        rwa [flushed_heartbeat_status, flushed_heartbeat_lockedBy]
      · exact hrecorded
    refine ⟨keyed_map (id_flushed job (job.heartbeat now)) h.keyed, fun w held hheld => ?_, h.active⟩
    simp only [Function.update_apply] at hheld
    split at hheld
    · next hw =>
      obtain rfl := Option.some.inj hheld
      subst hw
      have hold := (h.holds w job hjob).map (t := { s with jobs := s.save job (job.heartbeat now) }) rfl (id_flushed job _)
        (hrow w job hjob)
      exact ⟨hold.status, hold.owner, hold.stored, hold.recorded⟩
    · exact (h.holds w held hheld).map rfl (id_flushed job (job.heartbeat now)) (hrow w held hheld)
  · exact h

theorem Ends.flushed_lockedBy {transition : JobRow → JobRow} (hends : Ends transition) (howner : held.lockedBy = some worker) :
    (held.flushed (transition held) job).lockedBy = none := by
  refine (column_changed ?_).trans (hends.free held)
  rw [hends.free held, howner]
  exact (Option.some_ne_none worker).symm

theorem Ends.flushed_status {transition : JobRow → JobRow} (hends : Ends transition) (hlocked : held.status = .locked) :
    (held.flushed (transition held) job).status = (transition held).status :=
  column_changed (hlocked ▸ hends.not_locked held)

theorem Tracked.finish (h : Tracked s) {transition : JobRow → JobRow} (hends : Ends transition)
    (hlost : (s.held worker).isSome = true → s.lost worker = false) : Tracked (s.finish worker transition) := by
  unfold JobState.finish
  split
  · next job hjob =>
    have howns := h.holds worker job hjob
    refine ⟨keyed_map (id_flushed job (transition job)) h.keyed, fun w held hheld => ?_, h.active⟩
    simp only [Function.update_apply] at hheld
    split at hheld
    · cases hheld
    · next hw =>
      refine (h.holds w held hheld).map rfl (id_flushed job (transition job)) fun x hx hxid hrecorded => ?_
      simp only
      split
      · next hxjob =>
        -- The row is recorded as the worker's own, so whoever else is at it has lost it.
        have hmine := howns.recorded x hx hxjob
        rw [hlost (Option.isSome_iff_exists.mpr ⟨job, hjob⟩)] at hmine
        cases hl : s.lost w with
        | true =>
          refine .inr ?_
          rw [hends.flushed_lockedBy howns.owner]
          exact (Option.some_ne_none w).symm
        | false =>
          rw [hl] at hrecorded
          exact absurd (Option.some.inj (hrecorded.2.symm.trans hmine.2)) hw
      · exact hrecorded
  · exact h

theorem Tracked.abandon (h : Tracked s) : Tracked (s.abandon worker) where
  keyed := h.keyed
  active := h.active
  holds w held hheld := by
    simp only [JobState.abandon, Function.update_apply] at hheld
    split at hheld
    · cases hheld
    · have hold := h.holds w held hheld
      exact ⟨hold.status, hold.owner, hold.stored, hold.recorded⟩

theorem Tracked.readJob (h : Tracked s) {request jobId : Nat} : Tracked (s.readJob request jobId) where
  keyed := h.keyed
  holds w held hheld := by
    have hold := h.holds w held hheld
    exact ⟨hold.status, hold.owner, hold.stored, hold.recorded⟩
  active request' seen hseen := by
    simp only [JobState.readJob, Function.update_apply] at hseen
    split at hseen
    · exact (Option.filter_eq_some_iff.mp hseen).2
    · exact h.active request' seen hseen

theorem flushed_cancel_status (hactive : seen.active = true) : (seen.flushed (seen.cancel now) job).status = .cancelled := by
  refine column_changed fun hcancelled => ?_
  rw [CrawlJob.active, ← hcancelled] at hactive
  cases hactive

theorem Tracked.cancel (h : Tracked s) {request : Nat} : Tracked (s.cancel request now) := by
  unfold JobState.cancel
  split
  · next job hjob =>
    refine ⟨keyed_map (id_flushed job (job.cancel now)) h.keyed, fun w held hheld => ?_, fun request' seen hseen => ?_⟩
    · refine (h.holds w held hheld).map rfl (id_flushed job (job.cancel now)) fun x hx hxid hrecorded => ?_
      have hheld : s.held w = some held := hheld
      simp only [hheld, Option.any_some]
      by_cases hsame : held.id = job.id
      · rw [if_pos (hxid.trans hsame), decide_eq_true hsame, Bool.or_true]
        exact .inl (flushed_cancel_status (h.active request job hjob))
      · rw [if_neg (hxid ▸ hsame), decide_eq_false hsame, Bool.or_false]
        exact hrecorded
    · simp only [Function.update_apply] at hseen
      split at hseen
      · cases hseen
      · exact h.active request' seen hseen
  · exact h

theorem Tracked.recover (h : Tracked s) {skipped : List Nat} {timeout : Int} : Tracked (s.recover skipped timeout now) := by
  refine ⟨keyed_map (id_recovered skipped timeout now) h.keyed, fun w held hheld => ?_, h.active⟩
  refine (h.holds w held hheld).map rfl (id_recovered skipped timeout now) fun x hx hxid hrecorded => ?_
  have hheld : s.held w = some held := hheld
  simp only [JobState.recover, hheld, Option.any_some]
  by_cases hrecovers : JobState.recovers skipped timeout now x = true
  · have hany : (s.jobs.any fun job => job.id = held.id && JobState.recovers skipped timeout now job) = true :=
      List.any_eq_true.mpr ⟨x, hx, by simp [hxid, hrecovers]⟩
    rw [if_pos hrecovers, hany, Bool.or_true]
    exact .inr (Option.some_ne_none w).symm
  · have hnone : (s.jobs.any fun job => job.id = held.id && JobState.recovers skipped timeout now job) = false := by
      refine List.any_eq_false.mpr fun y hy hfound => ?_
      simp only [Bool.and_eq_true, decide_eq_true_eq] at hfound
      exact hrecovers (h.same hx hy (hxid.trans hfound.1.symm) ▸ hfound.2)
    rw [if_neg hrecovers, hnone, Bool.or_false]
    exact hrecorded

theorem Tracked.step (h : Tracked s) (hundisturbed : Undisturbed s e) : Tracked (s.step runs e) := by
  cases e with
  | claim => exact h.claim
  | heartbeat => exact h.heartbeat
  | complete worker now => exact h.finish ends_complete (hundisturbed worker rfl)
  | fail worker error jitter now => exact h.finish ends_fail (hundisturbed worker rfl)
  | abandon => exact h.abandon
  | read => exact h.readJob
  | cancel => exact h.cancel
  | recover => exact h.recover

/-! ### Which steps are honest -/

theorem Tracked.status_map (h : Tracked s) {g : JobRow → JobRow} (hid : ∀ job, (g job).id = job.id) {job' : JobRow}
    (hjob : job ∈ s.jobs) (hjob' : job' ∈ s.jobs.map g) (heq : job'.id = job.id) : job' = g job := by
  obtain ⟨x, hx, rfl⟩ := List.mem_map.mp hjob'
  rw [h.same hx hjob ((hid x).symm.trans heq)]

theorem Tracked.keepsOver_of_undisturbed (h : Tracked s) (hundisturbed : Undisturbed s e) : KeepsOver runs s e := by
  intro hcancel job hjob hover job' hjob' heq
  have hsame : job' ∈ s.jobs → job'.status = job.status := fun hmem => congrArg (·.status) (h.same hmem hjob heq)
  have hfinish : ∀ worker transition, (∀ held ∈ s.held worker, s.lost worker = false) →
      job' ∈ (s.finish worker transition).jobs → job'.status = job.status := by
    intro worker transition hlost hmem
    unfold JobState.finish at hmem
    split at hmem
    · next held hheld =>
      rw [h.status_map (id_flushed held (transition held)) hjob hmem heq]
      split
      · next hx =>
        -- The row of a job that its worker has not lost is locked.
        have hlocked := (h.holds worker held hheld).recorded job hjob hx
        rw [hlost held hheld] at hlocked
        rw [hlocked.1] at hover
        cases hover
      · rfl
    · exact hsame hmem
  cases e with
  | claim worker full skipped now =>
    simp only [JobState.step, JobState.claim] at hjob'
    split at hjob'
    · next claimed _ hclaimed =>
      rw [h.status_map (id_claimed claimed now worker) hjob hjob' heq]
      split
      · next hx =>
        obtain ⟨hmem, hqueued⟩ := claimable?_some hclaimed
        rw [h.same hjob hmem hx, hqueued] at hover
        cases hover
      · rfl
    · exact hsame hjob'
  | heartbeat worker now =>
    simp only [JobState.step, JobState.heartbeat] at hjob'
    split at hjob'
    · next held _ =>
      rw [h.status_map (id_flushed held (held.heartbeat now)) hjob hjob' heq]
      split
      · exact flushed_heartbeat_status
      · rfl
    · exact hsame hjob'
  | complete worker now =>
    exact hfinish worker _ (fun held hheld => hundisturbed worker rfl (Option.isSome_of_mem hheld)) hjob'
  | fail worker error jitter now =>
    exact hfinish worker _ (fun held hheld => hundisturbed worker rfl (Option.isSome_of_mem hheld)) hjob'
  | abandon worker => exact hsame hjob'
  | read request jobId => exact hsame hjob'
  | cancel request now => cases hcancel
  | recover skipped timeout now =>
    rw [h.status_map (id_recovered skipped timeout now) hjob hjob' heq]
    split
    · next hrecovers =>
      simp only [JobState.recovers, JobRow.stuck, Bool.and_eq_true, decide_eq_true_eq] at hrecovers
      rw [hrecovers.1.1] at hover
      cases hover
    · rfl

theorem Tracked.byOwner_of_undisturbed (h : Tracked s) (hundisturbed : Undisturbed s e) : ByOwner s e := by
  intro worker hfinisher held hheld job hjob hid
  have hmine := (h.holds worker held hheld).recorded job hjob hid
  rw [hundisturbed worker hfinisher (Option.isSome_of_mem hheld)] at hmine
  exact hmine.2

theorem Tracked.undisturbed_of_honest (h : Tracked s) (hhonest : Honest runs s e) : Undisturbed s e := by
  intro worker hfinisher hisSome
  obtain ⟨held, hheld⟩ := Option.isSome_iff_exists.mp hisSome
  have howns := h.holds worker held hheld
  obtain ⟨job, hjob, hid⟩ := howns.stored
  cases hlost : s.lost worker with
  | false => rfl
  | true =>
    have hgone := howns.recorded job hjob hid
    rw [hlost] at hgone
    rcases hgone with hcancelled | howner
    · obtain ⟨transition, hends, hstep⟩ := finisher_step runs s hfinisher
      have hnot : e.isCancel = false := by
        cases e with
        | cancel => cases hfinisher
        | claim | heartbeat | complete | fail | abandon | read | recover => rfl
      have hmem : held.flushed (transition held) job ∈ (s.step runs e).jobs := by
        rw [hstep, JobState.finish, hheld]
        exact List.mem_map.mpr ⟨job, hjob, if_pos hid⟩
      have hstatus := hhonest.1 hnot job hjob (by rw [hcancelled]; rfl) _ hmem rfl
      rw [hends.flushed_status howns.status, hcancelled] at hstatus
      exact absurd hstatus (hends.not_cancelled held)
    · exact absurd (hhonest.2 worker hfinisher held hheld job hjob hid) howner

theorem Tracked.honest_iff (h : Tracked s) : Honest runs s e ↔ Undisturbed s e :=
  ⟨h.undisturbed_of_honest, fun hundisturbed => ⟨h.keepsOver_of_undisturbed hundisturbed, h.byOwner_of_undisturbed hundisturbed⟩⟩

theorem tracked_start {jobs : List JobRow} (h : (jobs.map (·.id)).Nodup) : Tracked { jobs := jobs } :=
  ⟨h, fun _ _ hheld => absurd hheld (Option.some_ne_none _).symm, fun _ _ hseen => absurd hseen (Option.some_ne_none _).symm⟩

end Lifecycle

/-- Along every run a job that is over keeps its status whatever the workers do, and only its owner ends a job, exactly
    when no worker ends a job that was cancelled or recovered since the worker claimed it. -/
theorem honest_iff_undisturbed (runs : List CrawlRun) (jobs : List JobRow) (hkeyed : (jobs.map (·.id)).Nodup)
    (events : List JobEvent) : Runs.Along (JobState.step runs) (Honest runs) { jobs := jobs } events ↔
      Runs.Along (JobState.step runs) Undisturbed { jobs := jobs } events :=
  Runs.along_congr (fun _ _ h => h.honest_iff) (fun _ _ h hundisturbed => h.step hundisturbed) (tracked_start hkeyed)

def nightlyRun : CrawlRun := { id := 1, retailerId := 1, storeId := none, runType := .prices, scheduledAt := 0 }

def nightlyJob (id : Nat) : JobRow := { id := id, crawlRunId := 1, jobType := "prices", payload := none, availableAt := 0 }

/-- A job fails and is completed at the next attempt; one whose worker died is recovered, and cancelled while it waits. -/
def nightlyEvents : List JobEvent :=
  [.claim "a" (fun _ => false) [] 1, .heartbeat "a" 2, .fail "a" (some "timeout") 0 3, .claim "b" (fun _ => false) [] 4,
    .abandon "b", .recover [] 10 20, .read 1 2, .cancel 1 21, .claim "a" (fun _ => false) [] 40000000,
    .complete "a" 40000001]

theorem honest_nightly : Runs.Along (JobState.step [nightlyRun]) (Honest [nightlyRun])
    { jobs := [nightlyJob 1, nightlyJob 2] } nightlyEvents :=
  (honest_iff_undisturbed [nightlyRun] [nightlyJob 1, nightlyJob 2] (by decide) nightlyEvents).mpr (by decide +kernel)

/-- An admin cancels a job that a worker has just claimed, and the worker completes it. -/
theorem not_honest_cancelled : ¬∀ (runs : List CrawlRun) (jobs : List JobRow), (jobs.map (·.id)).Nodup →
    ∀ events, Runs.Along (JobState.step runs) (Honest runs) { jobs := jobs } events := by
  intro h
  obtain ⟨-, -, -, -, ⟨hover, -⟩, -⟩ := h [nightlyRun] [nightlyJob 1] (by decide)
    [.claim "a" (fun _ => false) [] 1, .read 1 1, .cancel 1 2, .heartbeat "a" 3, .complete "a" 4]
  have hstatus := hover rfl _ List.mem_cons_self rfl _ List.mem_cons_self rfl
  revert hstatus
  decide +kernel

end CestaPlan.Jobs
