import CestaPlan.Jobs.JobRows
import CestaPlan.Library.Runs
import Mathlib.Algebra.Order.Ring.Int

/-! Concurrent calls of `claim_job`, each in a transaction of its own.

    A call counts the jobs in flight that are committed, then locks a job, and commits it later. -/

namespace CestaPlan.Jobs
open Calendar (Instant)
open Updates

/-- What else is done with a job. -/
inductive Transition where
  | complete
  | fail (error : Option String) (jitter : Int)
  | cancel
  | recover

def Transition.apply (now : Instant) (job : JobRow) : Transition → JobRow
  | .complete => job.complete now
  | .fail error jitter => job.fail now error jitter
  | .cancel => job.cancel now
  | .recover => job.recovered now

structure ClaimState where
  jobs : List JobRow
  /-- The retailers that each call has found at capacity. -/
  counted : Nat → Option (Nat → Bool) := fun _ => none
  /-- The calls that have locked a job and are not over, with their jobs. -/
  selected : List (Nat × JobRow) := []

inductive ClaimEvent where
  | count (call : Nat)
  /-- `skipped` are the jobs that transactions other than claims have locked. -/
  | select (call : Nat) (skipped : List Nat) (now : Instant)
  | commit (call : Nat) (worker : String) (now : Instant)
  | rollback (call : Nat)
  | leave (jobId : Nat) (transition : Transition) (now : Instant)

namespace ClaimState
variable (limits : Dict Nat Int) (runs : List CrawlRun) (s : ClaimState)

def count (call : Nat) : ClaimState :=
  { s with counted := Function.update s.counted call (some (atCapacity limits runs s.jobs)) }

/-- The job that a call selects: `SKIP LOCKED` leaves out those of the other calls. -/
def selects? (call : Nat) (skipped : List Nat) (now : Instant) : Option JobRow :=
  (s.counted call).bind fun full => claimable? runs full (skipped ++ s.selected.map (·.2.id)) now s.jobs

def select (call : Nat) (skipped : List Nat) (now : Instant) : ClaimState :=
  { s with
    counted := Function.update s.counted call none
    selected := ((s.selects? runs call skipped now).map (call, ·)).toList ++ s.selected }

/-- The call is over. -/
def ended (call : Nat) : List (Nat × JobRow) := s.selected.filter (·.1 ≠ call)

def commit (call : Nat) (worker : String) (now : Instant) : ClaimState :=
  match row? (·.1) s.selected call with
  | some (_, job) => { s with jobs := updateAt (·.id) job.id (·.claim now worker) s.jobs, selected := s.ended call }
  | none => s

def rollback (call : Nat) : ClaimState :=
  { s with counted := Function.update s.counted call none, selected := s.ended call }

/-- The row of a job that a call has locked is not to be had. -/
def leave (jobId : Nat) (transition : Transition) (now : Instant) : ClaimState :=
  if jobId ∈ s.selected.map (·.2.id) then s
  else { s with jobs := updateAt (·.id) jobId (transition.apply now ·) s.jobs }

def step : ClaimEvent → ClaimState
  | .count call => s.count limits runs call
  | .select call skipped now => s.select runs call skipped now
  | .commit call worker now => s.commit call worker now
  | .rollback call => s.rollback call
  | .leave jobId transition now => s.leave jobId transition now

/-- The jobs of a retailer that calls have selected and not committed. -/
def reserved (retailer : Nat) : Nat := s.selected.countP fun entry => retailerOf runs entry.2 = some retailer

end ClaimState

/-- No retailer has more jobs in flight than its limit. -/
def WithinLimits (limits : Dict Nat Int) (runs : List CrawlRun) (jobs : List JobRow) : Prop :=
  ∀ retailer limit, limits.get? retailer = some limit → (inFlight runs jobs retailer : Int) ≤ limit

/-- A call selects a job only while those of its retailer that are in flight and those that others have selected are
    fewer than the limit. -/
def HasRoom (limits : Dict Nat Int) (runs : List CrawlRun) (s : ClaimState) : ClaimEvent → Prop
  | .select call skipped now => ∀ job ∈ s.selects? runs call skipped now, ∀ retailer ∈ retailerOf runs job,
    ∀ limit ∈ limits.get? retailer, (inFlight runs s.jobs retailer + s.reserved runs retailer : Int) < limit
  | _ => True

instance (limits : Dict Nat Int) (runs : List CrawlRun) (s : ClaimState) : ∀ e, Decidable (HasRoom limits runs s e)
  | .select call skipped now => inferInstanceAs (Decidable (∀ job ∈ s.selects? runs call skipped now,
      ∀ retailer ∈ retailerOf runs job, ∀ limit ∈ limits.get? retailer,
        (inFlight runs s.jobs retailer + s.reserved runs retailer : Int) < limit))
  | .count _ => isTrue trivial
  | .commit _ _ _ => isTrue trivial
  | .rollback _ => isTrue trivial
  | .leave _ _ _ => isTrue trivial

section Capacity
variable {limits : Dict Nat Int} {runs : List CrawlRun} {s : ClaimState} {e : ClaimEvent} {call retailer : Nat} {now : Instant}

/-- The jobs in flight and those that calls have selected are within the limits together. -/
structure Reserves (limits : Dict Nat Int) (runs : List CrawlRun) (s : ClaimState) : Prop where
  keyed : (s.jobs.map (·.id)).Nodup
  /-- A selected job is still of its run. -/
  current : ∀ entry ∈ s.selected, ∀ job ∈ s.jobs, job.id = entry.2.id → job.crawlRunId = entry.2.crawlRunId
  within : ∀ retailer limit, limits.get? retailer = some limit →
    (inFlight runs s.jobs retailer + s.reserved runs retailer : Int) ≤ limit

theorem retailerOf_congr {a b : JobRow} (h : a.crawlRunId = b.crawlRunId) : retailerOf runs a = retailerOf runs b := by
  unfold retailerOf
  rw [h]

theorem Transition.apply_id {t : Transition} {job : JobRow} : (t.apply now job).id = job.id := by
  cases t with
  | fail => unfold Transition.apply JobRow.fail; simp only; split <;> rfl
  | complete | cancel | recover => rfl

theorem Transition.apply_crawlRunId {t : Transition} {job : JobRow} : (t.apply now job).crawlRunId = job.crawlRunId := by
  cases t with
  | fail => unfold Transition.apply JobRow.fail; simp only; split <;> rfl
  | complete | cancel | recover => rfl

theorem Transition.apply_status {t : Transition} {job : JobRow} : (t.apply now job).status ≠ .locked := by
  cases t with
  | fail => exact fun h => by rcases JobRow.fail_status with hs | hs <;> cases hs.symm.trans h
  | complete | cancel | recover => exact fun h => by cases h

theorem Reserves.count (h : Reserves limits runs s) : Reserves limits runs (s.count limits runs call) :=
  ⟨h.keyed, h.current, h.within⟩

theorem selects?_mem {skipped : List Nat} {job : JobRow} (h : s.selects? runs call skipped now = some job) : job ∈ s.jobs := by
  obtain ⟨full, -, hjob⟩ := Option.bind_eq_some_iff.mp h
  exact (List.mem_filter.mp (Selection.first_mem hjob)).1

theorem Reserves.select (h : Reserves limits runs s) {skipped : List Nat}
    (hroom : HasRoom limits runs s (.select call skipped now)) : Reserves limits runs (s.select runs call skipped now) := by
  unfold ClaimState.select
  cases hselects : s.selects? runs call skipped now with
  | none => exact ⟨h.keyed, h.current, h.within⟩
  | some job =>
    have hmem := selects?_mem hselects
    refine ⟨h.keyed, fun entry hentry row hrow hid => ?_, fun retailer limit hlimit => ?_⟩
    · rcases List.mem_cons.mp hentry with rfl | hentry
      · rw [List.inj_on_of_nodup_map h.keyed hrow hmem hid]
      · exact h.current entry hentry row hrow hid
    · have hwithin := h.within retailer limit hlimit
      simp only [ClaimState.reserved, Option.map_some, Option.toList_some, List.cons_append, List.nil_append,
        List.countP_cons] at hwithin ⊢
      split
      · next hretailer =>
        have hlt := hroom job hselects retailer (of_decide_eq_true hretailer) limit hlimit
        rw [ClaimState.reserved] at hlt
        push_cast
        omega
      · push_cast
        omega

theorem reserved_over_le (runs : List CrawlRun) (s : ClaimState) (call retailer : Nat) :
    (s.ended call).countP (fun entry => retailerOf runs entry.2 = some retailer) ≤ s.reserved runs retailer :=
  List.Sublist.countP_le List.filter_sublist

theorem reserved_over_lt {entry : Nat × JobRow} (hentry : entry ∈ s.selected) (hcall : entry.1 = call)
    (hretailer : retailerOf runs entry.2 = some retailer) :
    (s.ended call).countP (fun entry => retailerOf runs entry.2 = some retailer) < s.reserved runs retailer := by
  have hsplit := List.countP_eq_countP_filter_add s.selected (fun entry => retailerOf runs entry.2 = some retailer)
    fun entry => entry.1 ≠ call
  have hpos : 0 < (s.selected.filter fun entry => !decide (entry.1 ≠ call)).countP
      (fun entry => retailerOf runs entry.2 = some retailer) := List.countP_pos_iff.mpr ⟨entry, List.mem_filter.mpr ⟨hentry, by simpa using hcall⟩, decide_eq_true hretailer⟩
  rw [ClaimState.ended, ClaimState.reserved, hsplit]
  omega

theorem Reserves.ended (h : Reserves limits runs s) : Reserves limits runs (s.rollback call) := by
  refine ⟨h.keyed, fun entry hentry => h.current entry (List.mem_of_mem_filter hentry), fun retailer limit hlimit => ?_⟩
  have hwithin := h.within retailer limit hlimit
  have hle := reserved_over_le runs s call retailer
  simp only [ClaimState.rollback, ClaimState.reserved] at hle ⊢
  rw [ClaimState.reserved] at hwithin
  omega

theorem Reserves.retailer_eq (h : Reserves limits runs s) {entry : Nat × JobRow} (hentry : entry ∈ s.selected) {job : JobRow}
    (hjob : job ∈ s.jobs) (hid : job.id = entry.2.id) : retailerOf runs job = retailerOf runs entry.2 :=
  retailerOf_congr (h.current entry hentry job hjob hid)

theorem Reserves.commit (h : Reserves limits runs s) {worker : String} : Reserves limits runs (s.commit call worker now) := by
  unfold ClaimState.commit
  split
  · next found job hfound =>
    have hentry := mem_of_row? hfound
    have hcall := key_of_row? hfound
    refine ⟨?_, fun entry hmem row hrow hid => ?_, fun retailer limit hlimit => ?_⟩
    · exact keyed_map (fun _ => id_ite rfl) h.keyed
    · obtain ⟨x, hx, rfl⟩ := mem_updateAt.mp hrow
      have hrun : (if x.id = job.id then x.claim now worker else x).crawlRunId = x.crawlRunId := by split <;> rfl
      have hxid : (if x.id = job.id then x.claim now worker else x).id = x.id := id_ite rfl
      exact hrun.trans (h.current entry (List.mem_of_mem_filter hmem) x hx (hxid.symm.trans hid))
    · have hwithin := h.within retailer limit hlimit
      simp only [ClaimState.reserved] at hwithin ⊢
      by_cases hretailer : retailerOf runs job = some retailer
      · -- The job was counted as selected, and is counted as in flight.
        have hflight : inFlight runs (updateAt (·.id) job.id (·.claim now worker) s.jobs) retailer ≤
            inFlight runs s.jobs retailer + 1 := countP_updateAt_le_succ h.keyed
        have hlt := reserved_over_lt hentry hcall hretailer
        simp only [ClaimState.reserved] at hlt
        omega
      · have hflight : inFlight runs (updateAt (·.id) job.id (·.claim now worker) s.jobs) retailer ≤
            inFlight runs s.jobs retailer := by
          refine countP_updateAt_le fun x hx hid hp => ?_
          simp only [Bool.and_eq_true, decide_eq_true_eq] at hp
          exact absurd ((h.retailer_eq hentry hx hid).symm.trans hp.2) hretailer
        have hle := reserved_over_le runs s call retailer
        simp only [ClaimState.reserved] at hle
        omega
  · exact h

theorem Reserves.leave (h : Reserves limits runs s) {jobId : Nat} {transition : Transition} :
    Reserves limits runs (s.leave jobId transition now) := by
  unfold ClaimState.leave
  split
  · exact h
  · refine ⟨?_, fun entry hmem row hrow hid => ?_, fun retailer limit hlimit => ?_⟩
    · exact keyed_map (fun _ => id_ite Transition.apply_id) h.keyed
    · obtain ⟨x, hx, rfl⟩ := mem_updateAt.mp hrow
      have hrun : (if x.id = jobId then transition.apply now x else x).crawlRunId = x.crawlRunId := by
        split
        · exact Transition.apply_crawlRunId
        · rfl
      exact hrun.trans (h.current entry hmem x hx ((id_ite Transition.apply_id).symm.trans hid))
    · have hwithin := h.within retailer limit hlimit
      have hflight : inFlight runs (updateAt (·.id) jobId (transition.apply now ·) s.jobs) retailer ≤
          inFlight runs s.jobs retailer := by
        refine countP_updateAt_le fun x _ _ hp => ?_
        simp only [Bool.and_eq_true, decide_eq_true_eq] at hp
        exact absurd hp.1 Transition.apply_status
      simp only [ClaimState.reserved] at hwithin ⊢
      omega

theorem Reserves.step (h : Reserves limits runs s) (hroom : HasRoom limits runs s e) :
    Reserves limits runs (s.step limits runs e) := by
  cases e with
  | count => exact h.count
  | select => exact h.select hroom
  | commit => exact h.commit
  | rollback => exact h.ended
  | leave => exact h.leave

theorem Reserves.withinLimits (h : Reserves limits runs s) : WithinLimits limits runs s.jobs := by
  intro retailer limit hlimit
  have hwithin := h.within retailer limit hlimit
  omega

/-- A call that counts the jobs as they are finds room, where no other call has selected a job of the retailer and the
    limit lets one job through. -/
theorem hasRoom_of_alone {skipped : List Nat} (hcounted : s.counted call = some (atCapacity limits runs s.jobs))
    (halone : ∀ retailer limit, limits.get? retailer = some limit → s.reserved runs retailer = 0 ∧ 0 < limit) :
    HasRoom limits runs s (.select call skipped now) := by
  intro job hselects retailer hretailer limit hlimit
  obtain ⟨hnone, hpos⟩ := halone retailer limit hlimit
  rw [ClaimState.selects?, hcounted] at hselects
  have hclaimable := (List.mem_filter.mp (Selection.first_mem hselects)).2
  rw [Option.mem_def.mp hretailer] at hclaimable
  simp only [Option.any_some, atCapacity, Option.mem_def.mp hlimit, Bool.and_eq_true, Bool.not_eq_true', Bool.and_eq_false_iff,
    decide_eq_false_iff_not] at hclaimable
  rw [hnone]
  rcases hclaimable.1.2 with hzero | hbelow <;> omega

end Capacity

/-- Along every run from jobs within the limits, they stay within them, when every job that a call selects has room beside
    those in flight and those that other calls have selected. -/
theorem withinLimits_of_hasRoom (limits : Dict Nat Int) (runs : List CrawlRun) (jobs : List JobRow)
    (hkeyed : (jobs.map (·.id)).Nodup) (hwithin : WithinLimits limits runs jobs) (events : List ClaimEvent)
    (hroom : Runs.Along (ClaimState.step limits runs) (HasRoom limits runs) { jobs := jobs } events) :
    ∀ pre, pre <+: events → WithinLimits limits runs (pre.foldl (ClaimState.step limits runs) { jobs := jobs }).jobs := by
  have hstart : Reserves limits runs { jobs := jobs } := by
    refine ⟨hkeyed, fun entry hentry => absurd hentry List.not_mem_nil, fun retailer limit hlimit => ?_⟩
    have hle := hwithin retailer limit hlimit
    simpa [ClaimState.reserved] using hle
  intro pre hpre
  exact (Runs.along_invariant (fun _ _ h hroom => h.step hroom) hstart hroom pre hpre).withinLimits

/-- Two shops, the first of which is to be crawled by one worker at a time. -/
def shopRuns : List CrawlRun :=
  [{ id := 1, retailerId := 1, storeId := none, runType := .prices, scheduledAt := 0 },
    { id := 2, retailerId := 2, storeId := none, runType := .prices, scheduledAt := 0 }]

def shopJob (id run : Nat) : JobRow := { id := id, crawlRunId := run, jobType := "prices", payload := none, availableAt := 0 }

def shopLimits : Dict Nat Int := Dict.empty.set 1 1

theorem shopLimits_pos (retailer : Nat) (limit : Int) (h : shopLimits.get? retailer = some limit) : 0 < limit := by
  rw [shopLimits, Dict.get?_set] at h
  split at h
  · exact Option.some.inj h ▸ Int.one_pos
  · cases h

/-- A call leaves out the shop that is at capacity, until its job is completed. -/
theorem withinLimits_oneAtATime : WithinLimits shopLimits shopRuns
    ([ClaimEvent.count 1, .select 1 [] 1, .commit 1 "a" 1, .count 2, .select 2 [] 2, .commit 2 "b" 2,
      .leave 1 .complete 3, .count 3, .select 3 [] 3, .commit 3 "b" 3].foldl (ClaimState.step shopLimits shopRuns)
        { jobs := [shopJob 1 1, shopJob 2 1, shopJob 3 2] }).jobs :=
  withinLimits_of_hasRoom shopLimits shopRuns [shopJob 1 1, shopJob 2 1, shopJob 3 2] (by decide)
    (fun retailer limit h => (shopLimits_pos retailer limit h).le) _ (by decide +kernel) _ List.prefix_rfl

/-- Two calls count before either commits, and each takes a job of the shop. -/
theorem not_withinLimits_two_at_once : ¬∀ (limits : Dict Nat Int) (runs : List CrawlRun) (jobs : List JobRow),
    (jobs.map (·.id)).Nodup → WithinLimits limits runs jobs → ∀ events : List ClaimEvent,
      WithinLimits limits runs (events.foldl (ClaimState.step limits runs) { jobs := jobs }).jobs := by
  intro h
  have hwithin := h shopLimits shopRuns [shopJob 1 1, shopJob 2 1] (by decide)
    (fun retailer limit h => (shopLimits_pos retailer limit h).le)
    [.count 1, .count 2, .select 1 [] 1, .select 2 [] 1, .commit 1 "a" 1, .commit 2 "b" 1] 1 1 rfl
  revert hwithin
  decide +kernel

end CestaPlan.Jobs
