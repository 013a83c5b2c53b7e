import CestaPlan.Jobs.CrawlQueue
import CestaPlan.Library.Runs

/-! Concurrent calls of `enqueue_job`, each in a transaction of its own. A call sees the jobs that were committed when it
    reads, and no index of the table stops two of one key. -/

namespace CestaPlan.Jobs
open Calendar (Instant)
open Updates

/-- Where a call is. -/
inductive CallPhase where
  | waiting
  /-- It has found no job of its key. -/
  | missing
  /-- Its job is written, not committed. -/
  | inserted (job : CrawlJob)
  | received (job : CrawlJob)
  | rolledBack

structure Queue where
  jobs : List CrawlJob := []
  nextId : Nat := 1
  calls : Nat → CallPhase := fun _ => .waiting

inductive QueueEvent where
  | read (call : Nat)
  | insert (call : Nat) (now : Instant)
  | commit (call : Nat)
  | rollback (call : Nat)
  /-- A worker or an admin moves a job on. -/
  | move (jobId : Nat) (status : JobStatus)

section Step
variable (request : Nat → EnqueueCall)

def Queue.enter (q : Queue) (c : Nat) (phase : CallPhase) : Queue := { q with calls := Function.update q.calls c phase }

def Queue.read (q : Queue) (c : Nat) : Queue :=
  match q.calls c with
  | .waiting =>
    match (request c).key.bind (findByIdempotencyKey q.jobs) with
    | some existing => q.enter c (.received existing)
    | none => q.enter c .missing
  | _ => q

def Queue.insert (q : Queue) (c : Nat) (now : Instant) : Queue :=
  match q.calls c with
  | .missing => { q.enter c (.inserted ((request c).job q.nextId now)) with nextId := q.nextId + 1 }
  | _ => q

def Queue.commit (q : Queue) (c : Nat) : Queue :=
  match q.calls c with
  | .inserted job => { q.enter c (.received job) with jobs := q.jobs ++ [job] }
  | _ => q

def Queue.rollback (q : Queue) (c : Nat) : Queue :=
  match q.calls c with
  | .missing => q.enter c .rolledBack
  | .inserted _ => q.enter c .rolledBack
  | _ => q

def Queue.move (q : Queue) (jobId : Nat) (status : JobStatus) : Queue :=
  { q with jobs := updateAt (·.id) jobId (fun job => { job with status := status }) q.jobs }

def Queue.step (q : Queue) : QueueEvent → Queue
  | .read c => q.read request c
  | .insert c now => q.insert request c now
  | .commit c => q.commit c
  | .rollback c => q.rollback c
  | .move jobId status => q.move jobId status

/-- The call has found nothing under the key, and its transaction is not over. -/
def Pending (q : Queue) (key : String) (c : Nat) : Prop :=
  (request c).key = some key ∧ (q.calls c = .missing ∨ ∃ job, q.calls c = .inserted job)

/-- There is one job of the key at most, and every call of the key that is over has received it. -/
structure EnqueuedOnce (key : String) (q : Queue) : Prop where
  one : (q.jobs.filter (·.key = some key)).length ≤ 1
  received : ∀ c job, q.calls c = .received job → (request c).key = some key →
    ∃ a ∈ q.jobs, a.id = job.id ∧ a.key = some key

/-- No call of the key reads while another one that found nothing is not over. -/
def Serial (key : String) (q : Queue) : QueueEvent → Prop
  | .read c => (request c).key = some key → ∀ c', ¬Pending request q key c'
  | _ => True

end Step

section Serial
variable {request : Nat → EnqueueCall} {key : String} {q : Queue} {c : Nat}

theorem enter_calls {phase : CallPhase} {c' : Nat} :
    (q.enter c phase).calls c' = if c' = c then phase else q.calls c' := by
  exact Function.update_apply q.calls c phase c'

@[simp] theorem enter_jobs {phase : CallPhase} : (q.enter c phase).jobs = q.jobs := rfl

/-- With one call of the key under way at most, the one that found nothing is right. -/
structure OneUnderWay (request : Nat → EnqueueCall) (key : String) (q : Queue) : Prop where
  once : EnqueuedOnce request key q
  none_yet : ∀ c, Pending request q key c → ∀ job ∈ q.jobs, job.key ≠ some key
  alone : ∀ c c', Pending request q key c → Pending request q key c' → c = c'
  keys : ∀ c job, q.calls c = .inserted job → job.key = (request c).key

theorem pending_enter {phase : CallPhase} {c' : Nat} (h : Pending request (q.enter c phase) key c')
    (hne : c' ≠ c) : Pending request q key c' := by
  unfold Pending at h ⊢
  rwa [enter_calls, if_neg hne] at h

theorem not_pending_enter {phase : CallPhase} (hmissing : phase ≠ .missing) (hinserted : ∀ job, phase ≠ .inserted job) :
    ¬Pending request (q.enter c phase) key c := by
  rintro ⟨-, h⟩
  rw [enter_calls, if_pos rfl] at h
  rcases h with h | ⟨job, h⟩
  · exact hmissing h
  · exact hinserted job h

theorem OneUnderWay.leave {phase : CallPhase} (h : OneUnderWay request key q) (hmissing : phase ≠ .missing)
    (hinserted : ∀ job, phase ≠ .inserted job)
    (hreceived : ∀ job, phase = .received job → (request c).key = some key →
      ∃ a ∈ q.jobs, a.id = job.id ∧ a.key = some key) : OneUnderWay request key (q.enter c phase) := by
  have hold : ∀ c', Pending request (q.enter c phase) key c' → Pending request q key c' := by
    intro c' hp
    by_cases hc : c' = c
    · subst hc
      exact absurd hp (not_pending_enter hmissing hinserted)
    · exact pending_enter hp hc
  refine ⟨⟨h.once.one, fun c' job hphase hkey => ?_⟩, fun c' hp => h.none_yet c' (hold c' hp),
    fun c₁ c₂ h₁ h₂ => h.alone c₁ c₂ (hold c₁ h₁) (hold c₂ h₂), fun c' job hphase => ?_⟩
  · rw [enter_calls] at hphase
    split at hphase
    · next hc => exact hreceived job hphase (hc ▸ hkey)
    · exact h.once.received c' job hphase hkey
  · rw [enter_calls] at hphase
    split at hphase
    · exact absurd hphase (hinserted job)
    · exact h.keys c' job hphase

theorem OneUnderWay.read (h : OneUnderWay request key q) (hserial : Serial request key q (.read c)) :
    OneUnderWay request key (q.read request c) := by
  unfold Queue.read
  split
  · cases hfind : (request c).key.bind (findByIdempotencyKey q.jobs) with
    | some existing =>
      refine h.leave CallPhase.noConfusion (fun _ => CallPhase.noConfusion) fun job hjob hkey => ?_
      obtain rfl := CallPhase.received.inj hjob
      rw [hkey, Option.bind_some] at hfind
      exact ⟨existing, (findByIdempotencyKey_some hfind).1, rfl, (findByIdempotencyKey_some hfind).2⟩
    | none =>
      -- The call that enters is the only one of the key, and it has looked.
      have hnone : (request c).key = some key → ∀ job ∈ q.jobs, job.key ≠ some key := by
        intro hkey
        rw [hkey, Option.bind_some] at hfind
        exact findByIdempotencyKey_none hfind
      have hcases : ∀ c', Pending request (q.enter c .missing) key c' →
          Pending request q key c' ∨ (c' = c ∧ (request c).key = some key) := by
        intro c' hp
        by_cases hc : c' = c
        · exact Or.inr ⟨hc, hc ▸ hp.1⟩
        · exact Or.inl (pending_enter hp hc)
      refine ⟨⟨h.once.one, fun c' job hphase hkey => ?_⟩, fun c' hp => ?_, fun c₁ c₂ h₁ h₂ => ?_,
        fun c' job hphase => ?_⟩
      · rw [enter_calls] at hphase
        split at hphase
        · cases hphase
        · exact h.once.received c' job hphase hkey
      · rcases hcases c' hp with hp | ⟨-, hkey⟩
        · exact h.none_yet c' hp
        · exact hnone hkey
      · rcases hcases c₁ h₁ with hold₁ | ⟨hc₁, hkey⟩
        · rcases hcases c₂ h₂ with hold₂ | ⟨-, hkey⟩
          · exact h.alone c₁ c₂ hold₁ hold₂
          · exact absurd hold₁ (hserial hkey c₁)
        · rcases hcases c₂ h₂ with hold₂ | ⟨hc₂, -⟩
          · exact absurd hold₂ (hserial hkey c₂)
          · exact hc₁.trans hc₂.symm
      · rw [enter_calls] at hphase
        split at hphase
        · cases hphase
        · exact h.keys c' job hphase
  · exact h

theorem OneUnderWay.insert {now : Instant} (h : OneUnderWay request key q) (hplain : (request c).Plain) :
    OneUnderWay request key (q.insert request c now) := by
  unfold Queue.insert
  split
  · next hmissing =>
    have hold : ∀ c', Pending request (q.enter c (.inserted ((request c).job q.nextId now))) key c' →
        Pending request q key c' := by
      intro c' hp
      by_cases hc : c' = c
      · subst hc
        exact ⟨hp.1, Or.inl hmissing⟩
      · exact pending_enter hp hc
    refine ⟨⟨h.once.one, fun c' job hphase hkey => ?_⟩, fun c' hp => h.none_yet c' (hold c' hp),
      fun c₁ c₂ h₁ h₂ => h.alone c₁ c₂ (hold c₁ h₁) (hold c₂ h₂), fun c' job hphase => ?_⟩
    · change (q.enter c _).calls c' = _ at hphase
      rw [enter_calls] at hphase
      split at hphase
      · cases hphase
      · exact h.once.received c' job hphase hkey
    · change (q.enter c _).calls c' = _ at hphase
      rw [enter_calls] at hphase
      split at hphase
      · next hc =>
        obtain rfl := CallPhase.inserted.inj hphase
        rw [hc]
        exact hplain
      · exact h.keys c' job hphase
  · exact h

theorem OneUnderWay.commit (h : OneUnderWay request key q) :
    OneUnderWay request key (q.commit c) := by
  unfold Queue.commit
  split
  · next job hinserted =>
    have hjob := h.keys c job hinserted
    have hpending : (request c).key = some key → Pending request q key c := fun hkey => ⟨hkey, Or.inr ⟨job, hinserted⟩⟩
    have hold : ∀ c', Pending request (q.enter c (.received job)) key c' → c' ≠ c ∧ Pending request q key c' := by
      intro c' hp
      have hne : c' ≠ c := fun hc => not_pending_enter (by simp) (by simp) (hc ▸ hp)
      exact ⟨hne, pending_enter hp hne⟩
    refine ⟨⟨?_, fun c' job' hphase hkey => ?_⟩, fun c' hp => ?_,
      fun c₁ c₂ h₁ h₂ => h.alone c₁ c₂ (hold c₁ h₁).2 (hold c₂ h₂).2, fun c' job' hphase => ?_⟩
    · by_cases hkey : (request c).key = some key
      · have hnil : q.jobs.filter (·.key = some key) = [] :=
          List.filter_eq_nil_iff.mpr fun a ha hak => h.none_yet c (hpending hkey) a ha (of_decide_eq_true hak)
        rw [List.filter_append, hnil, List.nil_append]
        exact List.length_filter_le _ [job]
      · rw [List.filter_append, List.filter_cons_of_neg (by simpa [hjob] using hkey), List.filter_nil, List.append_nil]
        exact h.once.one
    · change (q.enter c _).calls c' = _ at hphase
      rw [enter_calls] at hphase
      split at hphase
      · next hc =>
        obtain rfl := CallPhase.received.inj hphase
        exact ⟨job, by simp, rfl, hjob.trans (hc ▸ hkey)⟩
      · obtain ⟨a, ha, hid, hak⟩ := h.once.received c' job' hphase hkey
        exact ⟨a, List.mem_append_left _ ha, hid, hak⟩
    · obtain ⟨hne, hold⟩ := hold c' hp
      intro a ha
      rcases List.mem_append.mp ha with ha | ha
      · exact h.none_yet c' hold a ha
      · rw [List.mem_singleton.mp ha, hjob]
        exact fun hkey => hne (h.alone c' c hold (hpending hkey))
    · change (q.enter c _).calls c' = _ at hphase
      rw [enter_calls] at hphase
      split at hphase
      · cases hphase
      · exact h.keys c' job' hphase
  · exact h

theorem OneUnderWay.rollback (h : OneUnderWay request key q) :
    OneUnderWay request key (q.rollback c) := by
  unfold Queue.rollback
  split
  · exact h.leave (by simp) (by simp) (by simp)
  · exact h.leave (by simp) (by simp) (by simp)
  · exact h

theorem OneUnderWay.move {jobId : Nat} {status : JobStatus} (h : OneUnderWay request key q) :
    OneUnderWay request key (q.move jobId status) := by
  have hkey : ∀ job : CrawlJob, (if job.id = jobId then { job with status := status } else job).key = job.key := by
    intro job
    split <;> rfl
  have hid : ∀ job : CrawlJob, (if job.id = jobId then { job with status := status } else job).id = job.id := by
    intro job
    split <;> rfl
  refine ⟨⟨?_, fun c job hphase hck => ?_⟩, fun c hp => ?_, h.alone, h.keys⟩
  · show ((updateAt _ _ _ _).filter _).length ≤ 1
    rw [updateAt, List.filter_map, List.length_map]
    simpa only [Function.comp_def, hkey] using h.once.one
  · obtain ⟨a, ha, haid, hak⟩ := h.once.received c job hphase hck
    exact ⟨_, List.mem_map_of_mem ha, (hid a).trans haid, (hkey a).trans hak⟩
  · intro job hjob
    obtain ⟨a, ha, rfl⟩ := List.mem_map.mp hjob
    rw [hkey]
    exact h.none_yet c hp a ha

/-- Calls that do not overlap enqueue one job of the key, and all of them receive it. -/
theorem enqueuedOnce_of_serial (request : Nat → EnqueueCall) (hplain : ∀ c, (request c).Plain) (key : String) (q : Queue)
    (hone : (q.jobs.filter (·.key = some key)).length ≤ 1) (hcalls : ∀ c, q.calls c = .waiting) (events : List QueueEvent)
    (hserial : ∀ pre e, pre ++ [e] <+: events → Serial request key (pre.foldl (Queue.step request) q) e) :
    ∀ pre, pre <+: events → EnqueuedOnce request key (pre.foldl (Queue.step request) q) := by
  intro pre hpre
  suffices h : OneUnderWay request key (pre.foldl (Queue.step request) q) from h.once
  induction pre using List.reverseRecOn with
  | nil =>
    have hnone : ∀ c, ¬Pending request q key c := by
      rintro c ⟨-, h | ⟨job, h⟩⟩
      · rw [hcalls] at h
        cases h
      · rw [hcalls] at h
        cases h
    refine ⟨⟨hone, fun c job h => ?_⟩, fun c h => absurd h (hnone c), fun c _ h => absurd h (hnone c), fun c job h => ?_⟩
    · rw [List.foldl_nil, hcalls] at h
      cases h
    · rw [List.foldl_nil, hcalls] at h
      cases h
  | append_singleton pre e ih =>
    rw [List.foldl_append, List.foldl_cons, List.foldl_nil]
    have hbefore := ih ((List.prefix_append pre [e]).trans hpre)
    cases e with
    | read c => exact hbefore.read (hserial pre _ hpre)
    | insert c now => exact hbefore.insert (hplain c)
    | commit c => exact hbefore.commit
    | rollback c => exact hbefore.rollback
    | move jobId status => exact hbefore.move

end Serial

/-- The daily price crawl of a chain, as two schedulers enqueue it. -/
def dailyCrawl : Nat → EnqueueCall := fun _ =>
  { crawlRunId := 1, jobType := "prices", idempotencyKey := some "dia:None:prices:2026-07-24" }

theorem dailyCrawl_plain (c : Nat) : (dailyCrawl c).Plain :=
  EnqueueCall.plain_of_payload fun v hv => by cases hv

theorem enqueuedOnce_dailyCrawl : EnqueuedOnce dailyCrawl "dia:None:prices:2026-07-24"
    ([QueueEvent.read 0, .insert 0 5, .commit 0, .read 1].foldl (Queue.step dailyCrawl) {}) := by
  refine enqueuedOnce_of_serial dailyCrawl dailyCrawl_plain _ {} (by decide) (fun _ => rfl) _ ?_ _ (List.prefix_refl _)
  simp only [Runs.forall_prefix_concat_cons]
  refine ⟨fun _ c' hp => ?_, trivial, trivial, fun _ c' hp => ?_, fun pre e hpre => ?_⟩
  · rcases hp.2 with h | ⟨job, h⟩
    · cases h
    · cases h
  · cases c' with
    | zero =>
      rcases hp.2 with h | ⟨job, h⟩
      · cases h
      · cases h
    | succ n =>
      rcases hp.2 with h | ⟨job, h⟩
      · cases h
      · cases h
  · simp at hpre

/-- Two calls that both read before the other commits enqueue the crawl twice. -/
theorem not_one_dailyCrawl : ¬∀ (request : Nat → EnqueueCall) (key : String) (events : List QueueEvent),
    (∀ c, (request c).key = some key) →
      (((events.foldl (Queue.step request) {}).jobs.filter fun job => job.active && job.key = some key).length ≤ 1) := by
  intro h
  have htwice := h dailyCrawl "dia:None:prices:2026-07-24"
    [.read 0, .read 1, .insert 0 5, .insert 1 6, .commit 0, .commit 1] fun _ => rfl
  revert htwice
  decide

end CestaPlan.Jobs
