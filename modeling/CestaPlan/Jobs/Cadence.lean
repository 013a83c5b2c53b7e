import CestaPlan.Jobs.Scheduler
import CestaPlan.Library.Runs
import Mathlib

/-! What the scheduler keeps of its cadence: the crawls that are due, each with a job of its own.

    A crawl is due by the runs that are there, whatever became of them, and its job is found by the day. -/

namespace CestaPlan.Jobs
open Calendar

/-! ### The slots of a call -/

section Slots

/-- `scheduleSlot`, without its report. -/
def slotStep (now clock : Instant) (force : Bool) (db : CrawlDb) (slot : Slot) : CrawlDb :=
  if !force && recentRunExists db.runs slot.retailer.id slot.storeId slot.runType (slot.cfg.cadenceFor slot.runType) now then
    db
  else db.create slot now clock

def retailerSlots (config : SchedulerConfig) (db : CrawlDb) (retailer : Retailer) : List Slot :=
  (storesFor db retailer).flatMap (storeSlots retailer (config.forRetailer retailer.slug))

def dailySlots (config : SchedulerConfig) (now : Instant) (db : CrawlDb) : List Slot :=
  (activeRetailers db).flatMap fun retailer =>
    if connectorBlocked db retailer.id now then [] else retailerSlots config db retailer

variable {config : SchedulerConfig} {now clock : Instant} {force : Bool} {db : CrawlDb}

theorem scheduleSlot_fst (p : CrawlDb × ScheduleReport) (slot : Slot) :
    (scheduleSlot now clock force p slot).1 = slotStep now clock force p.1 slot := by
  unfold scheduleSlot slotStep
  split
  · rfl
  · rfl

theorem foldl_scheduleSlot_fst (p : CrawlDb × ScheduleReport) (slots : List Slot) :
    (slots.foldl (scheduleSlot now clock force) p).1 = slots.foldl (slotStep now clock force) p.1 := by
  induction slots generalizing p with
  | nil => rfl
  | cons slot slots ih => rw [List.foldl_cons, List.foldl_cons, ih, scheduleSlot_fst]

/-- The tables that say what there is to crawl. -/
structure SamePlan (db db' : CrawlDb) : Prop where
  stores : db'.stores = db.stores
  connectors : db'.connectors = db.connectors

theorem samePlan_slotStep (now clock : Instant) (force : Bool) (db : CrawlDb) (slot : Slot) : SamePlan db (slotStep now clock force db slot) := by
  unfold slotStep
  split
  · exact ⟨rfl, rfl⟩
  · exact ⟨rfl, rfl⟩

theorem samePlan_foldl (now clock : Instant) (force : Bool) (db : CrawlDb) (slots : List Slot) : SamePlan db (slots.foldl (slotStep now clock force) db) := by
  refine Runs.foldl_induction (I := SamePlan db) (fun db' h slot _ => ?_) ⟨rfl, rfl⟩
  have hstep := samePlan_slotStep now clock force db' slot
  exact ⟨hstep.stores.trans h.stores, hstep.connectors.trans h.connectors⟩

theorem scheduleRetailer_fst (p : CrawlDb × ScheduleReport) (retailer : Retailer) :
    (scheduleRetailer config now clock force p retailer).1 =
      (retailerSlots config p.1 retailer).foldl (slotStep now clock force) p.1 := by
  unfold scheduleRetailer retailerSlots
  generalize storesFor p.1 retailer = stores
  induction stores generalizing p with
  | nil => rfl
  | cons store stores ih =>
    rw [List.foldl_cons, ih, scheduleStoreTypes, foldl_scheduleSlot_fst, List.flatMap_cons, List.foldl_append]

theorem scheduleStore_fst (store : Store) : (scheduleStore config now clock force db store).1 =
    ((db.retailer? store.retailerId).elim [] fun retailer =>
      storeSlots retailer (config.forRetailer retailer.slug) (some store.id)).foldl (slotStep now clock force) db := by
  unfold scheduleStore
  cases db.retailer? store.retailerId with
  | none => rfl
  | some retailer => exact foldl_scheduleSlot_fst (db, {}) _

theorem retailerSlots_of_samePlan {db' : CrawlDb} (h : SamePlan db db') (retailer : Retailer) :
    retailerSlots config db' retailer = retailerSlots config db retailer := by
  unfold retailerSlots storesFor
  rw [h.stores]

theorem connectorBlocked_of_samePlan {db' : CrawlDb} (h : SamePlan db db') (retailerId : Nat) :
    connectorBlocked db' retailerId now = connectorBlocked db retailerId now := by
  unfold connectorBlocked
  rw [h.connectors]

theorem scheduleDaily_fst : (scheduleDaily config now clock true db).1 =
    (dailySlots config now db).foldl (slotStep now clock false) db := by
  have hretailers : ∀ (retailers : List Retailer) (p : CrawlDb × ScheduleReport), SamePlan db p.1 →
      (retailers.foldl (fun db retailer =>
        if connectorBlocked db.1 retailer.id now then
          (db.1, { db.2 with skippedRetailers := db.2.skippedRetailers + 1 })
        else scheduleRetailer config now clock false db retailer) p).1 =
      (retailers.flatMap fun retailer => if connectorBlocked db retailer.id now then [] else
        retailerSlots config db retailer).foldl (slotStep now clock false) p.1 := by
    intro retailers
    induction retailers with
    | nil => exact fun p _ => rfl
    | cons retailer retailers ih =>
      intro p hp
      rw [List.foldl_cons, List.flatMap_cons, List.foldl_append, connectorBlocked_of_samePlan hp]
      split
      · exact ih _ hp
      · rw [ih, scheduleRetailer_fst, retailerSlots_of_samePlan hp]
        have hfold := samePlan_foldl now clock false p.1 (retailerSlots config p.1 retailer)
        rw [scheduleRetailer_fst]
        exact ⟨hfold.stores.trans hp.stores, hfold.connectors.trans hp.connectors⟩
  exact hretailers _ (db, {}) ⟨rfl, rfl⟩

end Slots

/-! ### The keys -/

section Keys

theorem split_last {l l' a a' : List Char} (ha : ':' ∉ a) (ha' : ':' ∉ a') (h : l ++ [':'] ++ a = l' ++ [':'] ++ a') :
    l = l' ∧ a = a' := by
  have hreverse : a.reverse ++ ':' :: l.reverse = a'.reverse ++ ':' :: l'.reverse := by
    simpa using congrArg List.reverse h
  have hlast : ∀ {b : List Char} (m : List Char), ':' ∉ b →
      (b.reverse ++ ':' :: m).takeWhile (· ≠ ':') = b.reverse := by
    intro b m hb
    rw [List.takeWhile_append_of_pos]
    · simp
    · intro c hc
      have hne : c ≠ ':' := fun hcolon => hb (List.mem_reverse.mp (hcolon ▸ hc))
      simpa using hne
  have hsame : a.reverse = a'.reverse := by
    have htake := congrArg (List.takeWhile (· ≠ ':')) hreverse
    rwa [hlast l.reverse ha, hlast l'.reverse ha'] at htake
  rw [hsame, List.append_cancel_left_eq, List.cons.injEq] at hreverse
  exact ⟨List.reverse_injective hreverse.2, List.reverse_injective hsame⟩

theorem colon_notMem_value (runType : RunType) : ':' ∉ runType.value.toList := by
  cases runType
  all_goals decide

theorem value_injective {runType runType' : RunType} (h : runType.value = runType'.value) : runType = runType' := by
  cases runType <;> cases runType' <;> first | rfl | exact absurd h (by decide)

theorem isDigit_of_mem_repr {n : Nat} {c : Char} (h : c ∈ n.repr.toList) : c.isDigit = true := by
  rw [Nat.repr, String.toList_ofList] at h
  exact Nat.isDigit_of_mem_toDigits (by decide) (by decide) h

theorem colon_notMem_storeText (storeId : Option Nat) : ':' ∉ (storeText storeId).toList := by
  cases storeId with
  | none => decide
  | some id =>
    intro h
    cases isDigit_of_mem_repr h

theorem storeText_injective {storeId storeId' : Option Nat} (h : storeText storeId = storeText storeId') :
    storeId = storeId' := by
  have hnone : ∀ id : Nat, "None" ≠ id.repr := by
    intro id hid
    have hdigit : 'N'.isDigit = true := isDigit_of_mem_repr (n := id) (hid ▸ by decide)
    cases hdigit
  cases storeId with
  | none =>
    cases storeId' with
    | none => rfl
    | some id' => exact absurd h (hnone id')
  | some id =>
    cases storeId' with
    | none => exact absurd h.symm (hnone id)
    | some id' => rw [Nat.repr_injective h]

theorem idempotencyKey_injective {slug slug' : String} {storeId storeId' : Option Nat} {runType runType' : RunType}
    {day day' : Int} (hday : IsDate day) (hday' : IsDate day')
    (h : idempotencyKey slug storeId runType day = idempotencyKey slug' storeId' runType' day') :
    slug = slug' ∧ storeId = storeId' ∧ runType = runType' ∧ day = day' := by
  have hcolon : ":".toList = [':'] := rfl
  have hlist := congrArg String.toList h
  simp only [idempotencyKey, String.toList_append, hcolon] at hlist
  obtain ⟨hlist, hdate⟩ := split_last (colon_notMem_isoformat day) (colon_notMem_isoformat day') hlist
  obtain ⟨hlist, htype⟩ := split_last (colon_notMem_value runType) (colon_notMem_value runType') hlist
  obtain ⟨hslug, hstore⟩ := split_last (colon_notMem_storeText storeId) (colon_notMem_storeText storeId') hlist
  exact ⟨String.toList_injective hslug, storeText_injective (String.toList_injective hstore),
    value_injective (String.toList_injective htype), isoformat_injective hday hday' (String.toList_injective hdate)⟩

end Keys
/-! ### One call -/

/-- What a call does, once it is known which crawls it considers. -/
structure Pass where
  now : Instant
  clock : Instant
  force : Bool
  slots : List Slot

def Pass.run (pass : Pass) (db : CrawlDb) : CrawlDb := pass.slots.foldl (slotStep pass.now pass.clock pass.force) db

def SchedulerEvent.pass? (db : CrawlDb) : SchedulerEvent → Option Pass
  | .daily config now clock lock => some ⟨now, clock, false, if lock then dailySlots config now db else []⟩
  | .retailer config now clock force chain => some ⟨now, clock, force, retailerSlots config db chain⟩
  | .store config now clock force shop =>
    some ⟨now, clock, force, (db.retailer? shop.retailerId).elim [] fun chain =>
      storeSlots chain (config.forRetailer chain.slug) (some shop.id)⟩
  | _ => none

def Slot.cadence (slot : Slot) : Int := slot.cfg.cadenceFor slot.runType

/-- A run of the crawl that the slot is about. -/
def Slot.Covers (slot : Slot) (run : CrawlRun) : Prop :=
  run.retailerId = slot.retailer.id ∧ run.storeId = slot.storeId ∧ run.runType = slot.runType

section Pass
variable {db db' : CrawlDb} {ev : SchedulerEvent} {pass : Pass} {slot : Slot} {now clock : Instant} {force : Bool}

theorem step_of_pass (h : ev.pass? db = some pass) : db.step ev = pass.run db := by
  cases ev with
  | daily config now clock lock =>
    obtain rfl := Option.some.inj h
    cases lock
    · rfl
    · exact scheduleDaily_fst
  | retailer config now clock force retailer =>
    obtain rfl := Option.some.inj h
    exact scheduleRetailer_fst (db, {}) retailer
  | store config now clock force store =>
    obtain rfl := Option.some.inj h
    exact scheduleStore_fst store
  | runOutcome => cases h
  | jobOutcome => cases h
  | outcome => cases h
  | enable => cases h
  | disable => cases h
  | unsupported => cases h
  | catalogue => cases h

theorem recentRunExists_iff {cadence : Int} :
    recentRunExists db.runs slot.retailer.id slot.storeId slot.runType cadence now = true ↔
      ∃ run ∈ db.runs, slot.Covers run ∧ dayOf now - dayOf run.scheduledAt < max 1 cadence := by
  have hwindow : ∀ t : Int, startOf (dayOf now) - max 0 (cadence - 1) * dayLength ≤ t ↔
      dayOf now - dayOf t < max 1 cadence := by
    intro t
    have hstart : startOf (dayOf now) - max 0 (cadence - 1) * dayLength =
        startOf (dayOf now - max 0 (cadence - 1)) := by
      simp only [startOf, dayLength]
      ring
    rw [hstart, startOf_le_iff]
    omega
  simp only [recentRunExists, List.any_eq_true, Bool.and_eq_true, decide_eq_true_iff, hwindow, Slot.Covers]
  constructor
  · rintro ⟨run, hmem, ⟨⟨hretailer, htype⟩, hday⟩, hstore⟩
    exact ⟨run, hmem, ⟨hretailer, hstore, htype⟩, hday⟩
  · rintro ⟨run, hmem, ⟨hretailer, hstore, htype⟩, hday⟩
    exact ⟨run, hmem, ⟨⟨hretailer, htype⟩, hday⟩, hstore⟩

theorem slotStep_cases (now clock : Instant) (force : Bool) (db : CrawlDb) (slot : Slot) :
    (slotStep now clock force db slot = db ∧
      ∃ run ∈ db.runs, slot.Covers run ∧ dayOf now - dayOf run.scheduledAt < max 1 slot.cadence) ∨
    (slotStep now clock force db slot = db.create slot now clock ∧
      (force = false → ∀ run ∈ db.runs, slot.Covers run → max 1 slot.cadence ≤ dayOf now - dayOf run.scheduledAt)) := by
  unfold slotStep
  split
  · next h => exact Or.inl ⟨rfl, recentRunExists_iff.mp (Bool.and_eq_true_iff.mp h).2⟩
  · next h =>
    refine Or.inr ⟨rfl, fun hforce run hrun hcovers => ?_⟩
    by_contra hlate
    exact h (Bool.and_eq_true_iff.mpr ⟨by rw [hforce]; rfl, recentRunExists_iff.mpr ⟨run, hrun, hcovers, lt_of_not_ge hlate⟩⟩)

end Pass
/-! ### The invariant -/

section Backed
variable (slugOf : Nat → String)

def Retailer.Named (retailer : Retailer) : Prop := retailer.slug = slugOf retailer.id

/-- The key of the job of a run. -/
def CrawlRun.key (run : CrawlRun) : String :=
  idempotencyKey (slugOf run.retailerId) run.storeId run.runType (dayOf run.scheduledAt)

/-- Every job is under the key of a run that is there. -/
structure Backed (db : CrawlDb) : Prop where
  named : ∀ retailer ∈ db.retailers, retailer.Named slugOf
  dated : ∀ run ∈ db.runs, IsDate (dayOf run.scheduledAt)
  keyed : ∀ job ∈ db.jobs, ∃ run ∈ db.runs, job.key = some (run.key slugOf)
  fresh : ∀ run ∈ db.runs, run.id < db.nextRunId
  unique : (db.runs.map (·.id)).Nodup

/-- What the caller of the scheduler gives it: times that are dates, and the retailers under their slugs. -/
def SchedulerEvent.WellFormed : SchedulerEvent → Prop
  | .daily _ now _ _ => IsDate (dayOf now)
  | .retailer _ now _ _ chain => IsDate (dayOf now) ∧ chain.Named slugOf
  | .store _ now _ _ _ => IsDate (dayOf now)
  | .catalogue retailers _ => ∀ chain ∈ retailers, chain.Named slugOf
  | _ => True

/-- The runs and the jobs of `db` are still there, and still of each other. -/
structure Kept (db db' : CrawlDb) : Prop where
  runs : ∀ run ∈ db.runs, ∃ run' ∈ db'.runs, run'.id = run.id ∧ run'.retailerId = run.retailerId ∧
    run'.storeId = run.storeId ∧ run'.runType = run.runType ∧ run'.scheduledAt = run.scheduledAt
  jobs : ∀ job ∈ db.jobs, ∃ job' ∈ db'.jobs, job'.crawlRunId = job.crawlRunId

variable {slugOf} {db db' : CrawlDb} {slot : Slot} {now clock : Instant} {force : Bool} {ev : SchedulerEvent} {pass : Pass}

theorem Kept.refl : Kept db db :=
  ⟨fun run h => ⟨run, h, rfl, rfl, rfl, rfl, rfl⟩, fun job h => ⟨job, h, rfl⟩⟩

theorem Kept.trans {db'' : CrawlDb} (h : Kept db db') (h' : Kept db' db'') : Kept db db'' := by
  refine ⟨fun run hrun => ?_, fun job hjob => ?_⟩
  · obtain ⟨run', hrun', hid, hretailer, hstore, htype, hat⟩ := h.runs run hrun
    obtain ⟨run'', hrun'', hid', hretailer', hstore', htype', hat'⟩ := h'.runs run' hrun'
    exact ⟨run'', hrun'', hid'.trans hid, hretailer'.trans hretailer, hstore'.trans hstore, htype'.trans htype,
      hat'.trans hat⟩
  · obtain ⟨job', hjob', hid⟩ := h.jobs job hjob
    obtain ⟨job'', hjob'', hid'⟩ := h'.jobs job' hjob'
    exact ⟨job'', hjob'', hid'.trans hid⟩

/-- The crawl of the slot has a run inside its cadence. -/
def Slot.Fresh (slot : Slot) (now : Instant) (db : CrawlDb) : Prop :=
  ∃ run ∈ db.runs, slot.Covers run ∧ dayOf now - dayOf run.scheduledAt < max 1 slot.cadence

theorem Slot.Fresh.kept (h : slot.Fresh now db) (hkept : Kept db db') : slot.Fresh now db' := by
  obtain ⟨run, hrun, ⟨hretailer, hstore, htype⟩, hday⟩ := h
  obtain ⟨run', hrun', -, hretailer', hstore', htype', hat⟩ := hkept.runs run hrun
  exact ⟨run', hrun', ⟨hretailer'.trans hretailer, hstore'.trans hstore, htype'.trans htype⟩, hat ▸ hday⟩

/-! ### A slot -/

theorem slot_call_plain (slot : Slot) (runId : Nat) : (slot.call runId now).Plain := by
  have hnone : slot.payload.get? "idempotency_key" = none := by
    simp [Slot.payload, Dict.get?_set]
  refine EnqueueCall.plain_of_payload fun v hv => ?_
  obtain ⟨payload, hpayload, hv⟩ := Option.bind_eq_some_iff.mp hv
  obtain rfl := Option.some.inj (Option.filter_eq_some_iff.mp hpayload).1
  rw [hnone] at hv
  cases hv

theorem key_slot_job (slot : Slot) (runId id : Nat) : ((slot.call runId now).job id clock).key = some (slot.key now) :=
  slot_call_plain slot runId

theorem create_jobs (db : CrawlDb) (now clock : Instant) (slot : Slot) :
    ((db.create slot now clock).jobs = db.jobs ∧ ∃ job ∈ db.jobs, job.key = some (slot.key now)) ∨
    ((db.create slot now clock).jobs = db.jobs ++ [(slot.call db.nextRunId now).job db.nextJobId clock]) := by
  have hkey : (slot.call db.nextRunId now).key = some (slot.key now) := rfl
  unfold CrawlDb.create enqueueJob
  rw [hkey, Option.bind_some]
  cases hfind : findByIdempotencyKey db.jobs (slot.key now) with
  | some job => exact Or.inl ⟨rfl, job, findByIdempotencyKey_some hfind⟩
  | none => exact Or.inr rfl

theorem kept_create (now clock : Instant) (db : CrawlDb) (slot : Slot) : Kept db (db.create slot now clock) := by
  refine ⟨fun run hrun => ⟨run, List.mem_append_left _ hrun, rfl, rfl, rfl, rfl, rfl⟩, fun job hjob => ⟨job, ?_, rfl⟩⟩
  rcases create_jobs db now clock slot with ⟨hjobs, -⟩ | hjobs
  · exact hjobs ▸ hjob
  · exact hjobs ▸ List.mem_append_left _ hjob

theorem Backed.create (h : Backed slugOf db) (hnow : IsDate (dayOf now)) (hslot : slot.retailer.Named slugOf) :
    Backed slugOf (db.create slot now clock) := by
  have hkey : (slot.run db.nextRunId now).key slugOf = slot.key now := by
    unfold CrawlRun.key Slot.key
    rw [hslot]
    rfl
  have hold : ∀ job ∈ db.jobs, ∃ run ∈ (db.create slot now clock).runs, job.key = some (run.key slugOf) := by
    intro job hjob
    obtain ⟨run, hrun, hrunKey⟩ := h.keyed job hjob
    exact ⟨run, List.mem_append_left _ hrun, hrunKey⟩
  refine ⟨h.named, fun run hrun => ?_, fun job hjob => ?_, fun run hrun => ?_, ?_⟩
  · rcases List.mem_append.mp hrun with hrun | hrun
    · exact h.dated run hrun
    · rw [List.mem_singleton.mp hrun]
      exact hnow
  · rcases create_jobs db now clock slot with ⟨hjobs, -⟩ | hjobs
    · exact hold job (hjobs ▸ hjob)
    · rcases List.mem_append.mp (hjobs ▸ hjob) with hjob | hjob
      · exact hold job hjob
      · refine ⟨_, List.mem_append_right _ (List.mem_singleton_self _), ?_⟩
        rw [List.mem_singleton.mp hjob, key_slot_job, hkey]
  · rcases List.mem_append.mp hrun with hrun | hrun
    · exact Nat.lt_succ_of_lt (h.fresh run hrun)
    · rw [List.mem_singleton.mp hrun]
      exact Nat.lt_succ_self _
  · unfold CrawlDb.create
    rw [List.map_append, List.nodup_append]
    refine ⟨h.unique, List.nodup_singleton _, ?_⟩
    rintro id hid id' hid' rfl
    obtain ⟨run, hrun, rfl⟩ := List.mem_map.mp hid
    have := h.fresh run hrun
    simp [Slot.run] at hid'
    omega

/-- A run that the cadence lets through gets a job of its own: a job of its key would be of a run of the same day. -/
theorem Backed.own_job (h : Backed slugOf db) (hslugs : Function.Injective slugOf) (hnow : IsDate (dayOf now))
    (hslot : slot.retailer.Named slugOf)
    (hdue : ∀ run ∈ db.runs, slot.Covers run → max 1 slot.cadence ≤ dayOf now - dayOf run.scheduledAt) :
    ∃ job ∈ (db.create slot now clock).jobs, job.crawlRunId = db.nextRunId := by
  rcases create_jobs db now clock slot with ⟨-, job, hjob, hkey⟩ | hjobs
  · obtain ⟨run, hrun, hrunKey⟩ := h.keyed job hjob
    rw [hkey, Option.some_inj] at hrunKey
    obtain ⟨hslug, hstore, htype, hday⟩ := idempotencyKey_injective hnow (h.dated run hrun) hrunKey
    have hcovers : slot.Covers run := ⟨hslugs (hslug.symm.trans hslot), hstore.symm, htype.symm⟩
    have := hdue run hrun hcovers
    omega
  · rw [hjobs]
    exact ⟨_, List.mem_append_right _ (List.mem_singleton_self _), rfl⟩

/-! ### The slots of a call, one after the other -/

/-- A run that a call makes for one of its slots, with the runs before it. -/
def Pass.Due (pass : Pass) (earlier : List CrawlRun) (run : CrawlRun) : Prop :=
  ∃ slot ∈ pass.slots, slot.Covers run ∧ run.scheduledAt = pass.now ∧
    (pass.force = false → ∀ other ∈ earlier, slot.Covers other →
      max 1 slot.cadence ≤ dayOf run.scheduledAt - dayOf other.scheduledAt)

theorem grown_slotStep {runs : List CrawlRun} (h : Runs.Grown pass.Due runs db.runs) (hslot : slot ∈ pass.slots) :
    Runs.Grown pass.Due runs (slotStep pass.now pass.clock pass.force db slot).runs := by
  rcases slotStep_cases pass.now pass.clock pass.force db slot with ⟨hsame, -⟩ | ⟨hcreate, hdue⟩
  · rw [hsame]
    exact h
  · rw [hcreate]
    exact h.snoc ⟨slot, hslot, ⟨rfl, rfl, rfl⟩, rfl, fun hforce other hother hcovers => hdue hforce other hother hcovers⟩

theorem grown_run (pass : Pass) (db : CrawlDb) : Runs.Grown pass.Due db.runs (pass.run db).runs :=
  Runs.foldl_induction (I := fun db' : CrawlDb => Runs.Grown pass.Due db.runs db'.runs)
    (fun _ h _ hslot => grown_slotStep h hslot) Runs.Grown.refl

/-- What the slots of a call have made of the tables so far. -/
structure Passed (slugOf : Nat → String) (pass : Pass) (db db' : CrawlDb) : Prop where
  backed : Backed slugOf db'
  kept : Kept db db'
  grown : Runs.Grown pass.Due db.runs db'.runs
  own : pass.force = false → ∀ run ∈ db'.runs.drop db.runs.length, ∃ job ∈ db'.jobs, job.crawlRunId = run.id

/-- The times and the retailers of a call are as its caller promises. -/
structure Pass.WellFormed (slugOf : Nat → String) (pass : Pass) : Prop where
  dated : IsDate (dayOf pass.now)
  named : ∀ slot ∈ pass.slots, slot.retailer.Named slugOf

theorem Passed.slotStep (hslugs : Function.Injective slugOf) (hpass : pass.WellFormed slugOf)
    (h : Passed slugOf pass db db') (hslot : slot ∈ pass.slots) :
    Passed slugOf pass db (slotStep pass.now pass.clock pass.force db' slot) := by
  have hgrown := grown_slotStep h.grown hslot
  rcases slotStep_cases pass.now pass.clock pass.force db' slot with ⟨hsame, -⟩ | ⟨hcreate, hdue⟩
  · rw [hsame]
    exact h
  · rw [hcreate] at hgrown ⊢
    have hkept := kept_create pass.now pass.clock db' slot
    refine ⟨h.backed.create hpass.dated (hpass.named slot hslot), h.kept.trans hkept, hgrown, ?_⟩
    intro hforce run hrun
    have hdrop : (db'.create slot pass.now pass.clock).runs.drop db.runs.length =
        db'.runs.drop db.runs.length ++ [slot.run db'.nextRunId pass.now] :=
      List.drop_append_of_le_length h.grown.isPrefix.length_le
    rw [hdrop] at hrun
    rcases List.mem_append.mp hrun with hrun | hrun
    · obtain ⟨job, hjob, hid⟩ := h.own hforce run hrun
      obtain ⟨job', hjob', hid'⟩ := hkept.jobs job hjob
      exact ⟨job', hjob', hid'.trans hid⟩
    · rw [List.mem_singleton.mp hrun]
      exact h.backed.own_job hslugs hpass.dated (hpass.named slot hslot) (hdue hforce)

theorem passed_run (hslugs : Function.Injective slugOf) (hpass : pass.WellFormed slugOf) (h : Backed slugOf db) :
    Passed slugOf pass db (pass.run db) := by
  refine Runs.foldl_induction (fun db' h slot hslot => h.slotStep hslugs hpass hslot) ⟨h, Kept.refl, .refl, ?_⟩
  intro _ run hrun
  rw [List.drop_length] at hrun
  cases hrun

theorem kept_slotStep (now clock : Instant) (force : Bool) (db : CrawlDb) (slot : Slot) :
    Kept db (slotStep now clock force db slot) := by
  unfold slotStep
  split
  · exact Kept.refl
  · exact kept_create now clock db slot

theorem kept_foldl (now clock : Instant) (force : Bool) (db : CrawlDb) (slots : List Slot) :
    Kept db (slots.foldl (slotStep now clock force) db) :=
  Runs.foldl_induction (fun _ h slot _ => h.trans (kept_slotStep now clock force _ slot)) Kept.refl

theorem fresh_of_run (hslot : slot ∈ pass.slots) : slot.Fresh pass.now (pass.run db) := by
  obtain ⟨before, after, hslots⟩ := List.append_of_mem hslot
  unfold Pass.run
  rw [hslots, List.foldl_append, List.foldl_cons]
  refine Slot.Fresh.kept ?_ (kept_foldl _ _ _ _ after)
  generalize before.foldl (CestaPlan.Jobs.slotStep pass.now pass.clock pass.force) db = db'
  rcases slotStep_cases pass.now pass.clock pass.force db' slot with ⟨hsame, hfresh⟩ | ⟨hcreate, -⟩
  · rw [hsame]
    exact hfresh
  · rw [hcreate]
    refine ⟨_, List.mem_append_right _ (List.mem_singleton_self _), ⟨rfl, rfl, rfl⟩, ?_⟩
    rw [Slot.run, Int.sub_self]
    exact lt_of_lt_of_le Int.zero_lt_one (le_max_left _ _)

/-! ### Runs -/

theorem storeSlots_retailer {retailer : Retailer} {cfg : FrequencyConfig} {storeId : Option Nat}
    (h : slot ∈ storeSlots retailer cfg storeId) : slot.retailer = retailer := by
  obtain ⟨runType, -, rfl⟩ := List.mem_map.mp h
  rfl

theorem retailerSlots_retailer {config : SchedulerConfig} {retailer : Retailer}
    (h : slot ∈ retailerSlots config db retailer) : slot.retailer = retailer := by
  obtain ⟨storeId, -, h⟩ := List.mem_flatMap.mp h
  exact storeSlots_retailer h

theorem wellFormed_pass (h : Backed slugOf db) (hev : ev.WellFormed slugOf) (hpass : ev.pass? db = some pass) :
    pass.WellFormed slugOf := by
  cases ev with
  | daily config now clock lock =>
    obtain rfl := Option.some.inj hpass
    refine ⟨hev, fun slot hslot => ?_⟩
    cases lock with
    | false => cases hslot
    | true =>
      obtain ⟨retailer, hretailer, hslot⟩ := List.mem_flatMap.mp hslot
      have hmem := (List.mem_filter.mp ((List.mem_insertionSort _).mp hretailer)).1
      split at hslot
      · cases hslot
      · exact retailerSlots_retailer hslot ▸ h.named retailer hmem
  | retailer config now clock force chain =>
    obtain rfl := Option.some.inj hpass
    exact ⟨hev.1, fun slot hslot => retailerSlots_retailer hslot ▸ hev.2⟩
  | store config now clock force shop =>
    obtain rfl := Option.some.inj hpass
    refine ⟨hev, fun slot hslot => ?_⟩
    cases hfind : db.retailer? shop.retailerId with
    | none =>
      rw [hfind] at hslot
      cases hslot
    | some chain =>
      rw [hfind] at hslot
      exact storeSlots_retailer hslot ▸ h.named chain (List.mem_of_find?_eq_some hfind)
  | runOutcome => cases hpass
  | jobOutcome => cases hpass
  | outcome => cases hpass
  | enable => cases hpass
  | disable => cases hpass
  | unsupported => cases hpass
  | catalogue => cases hpass

theorem runOutcome_mem {id : Nat} {status : RunStatus} {version : Option String} {run : CrawlRun}
    (h : run ∈ (db.step (.runOutcome id status version)).runs) :
    ∃ run₀ ∈ db.runs, run.id = run₀.id ∧ run.scheduledAt = run₀.scheduledAt := by
  obtain ⟨run₀, hrun₀, rfl⟩ := List.mem_map.mp h
  refine ⟨run₀, hrun₀, ?_⟩
  split
  · exact ⟨rfl, rfl⟩
  · exact ⟨rfl, rfl⟩

theorem jobOutcome_mem {id : Nat} {status : JobStatus} {attempts : Nat} {job : CrawlJob}
    (h : job ∈ (db.step (.jobOutcome id status attempts)).jobs) : ∃ job₀ ∈ db.jobs, job.key = job₀.key := by
  obtain ⟨job₀, hjob₀, rfl⟩ := List.mem_map.mp h
  refine ⟨job₀, hjob₀, ?_⟩
  split
  · rfl
  · rfl

theorem kept_step (db : CrawlDb) (ev : SchedulerEvent) : Kept db (db.step ev) := by
  cases hpass : ev.pass? db with
  | some pass =>
    rw [step_of_pass hpass]
    exact kept_foldl _ _ _ _ _
  | none =>
    cases ev with
    | daily => cases hpass
    | retailer => cases hpass
    | store => cases hpass
    | runOutcome id status version =>
      refine ⟨fun run hrun => ⟨_, List.mem_map_of_mem hrun, ?_⟩, fun job hjob => ⟨job, hjob, rfl⟩⟩
      split
      · exact ⟨rfl, rfl, rfl, rfl, rfl⟩
      · exact ⟨rfl, rfl, rfl, rfl, rfl⟩
    | jobOutcome id status attempts =>
      refine ⟨fun run hrun => ⟨run, hrun, rfl, rfl, rfl, rfl, rfl⟩, fun job hjob => ⟨_, List.mem_map_of_mem hjob, ?_⟩⟩
      split
      · rfl
      · rfl
    | outcome => exact ⟨Kept.refl.runs, Kept.refl.jobs⟩
    | enable => exact ⟨Kept.refl.runs, Kept.refl.jobs⟩
    | disable => exact ⟨Kept.refl.runs, Kept.refl.jobs⟩
    | unsupported => exact ⟨Kept.refl.runs, Kept.refl.jobs⟩
    | catalogue => exact ⟨Kept.refl.runs, Kept.refl.jobs⟩

theorem Backed.step (h : Backed slugOf db) (hslugs : Function.Injective slugOf) (hev : ev.WellFormed slugOf) :
    Backed slugOf (db.step ev) := by
  cases hpass : ev.pass? db with
  | some pass =>
    rw [step_of_pass hpass]
    exact (passed_run hslugs (wellFormed_pass h hev hpass) h).backed
  | none =>
    cases ev with
    | daily => cases hpass
    | retailer => cases hpass
    | store => cases hpass
    | runOutcome id status version =>
      refine ⟨h.named, fun run hrun => ?_, fun job hjob => ?_, fun run hrun => ?_, ?_⟩
      · obtain ⟨run₀, hrun₀, -, hat⟩ := runOutcome_mem hrun
        exact hat ▸ h.dated run₀ hrun₀
      · obtain ⟨run, hrun, hkey⟩ := h.keyed job hjob
        refine ⟨_, List.mem_map_of_mem hrun, ?_⟩
        split
        · exact hkey
        · exact hkey
      · obtain ⟨run₀, hrun₀, hid, -⟩ := runOutcome_mem hrun
        exact hid ▸ h.fresh run₀ hrun₀
      · have hids : (db.step (.runOutcome id status version)).runs.map (·.id) = db.runs.map (·.id) := by
          unfold CrawlDb.step Updates.updateAt
          rw [List.map_map]
          refine List.map_congr_left fun run _ => ?_
          rw [Function.comp_apply]
          split
          · rfl
          · rfl
        rw [hids]
        exact h.unique
    | jobOutcome id status attempts =>
      refine ⟨h.named, h.dated, fun job hjob => ?_, h.fresh, h.unique⟩
      obtain ⟨job₀, hjob₀, hkey⟩ := jobOutcome_mem hjob
      exact hkey ▸ h.keyed job₀ hjob₀
    | outcome => exact ⟨h.named, h.dated, h.keyed, h.fresh, h.unique⟩
    | enable => exact ⟨h.named, h.dated, h.keyed, h.fresh, h.unique⟩
    | disable => exact ⟨h.named, h.dated, h.keyed, h.fresh, h.unique⟩
    | unsupported => exact ⟨h.named, h.dated, h.keyed, h.fresh, h.unique⟩
    | catalogue => exact ⟨hev, h.dated, h.keyed, h.fresh, h.unique⟩

theorem kept_run (db : CrawlDb) (events : List SchedulerEvent) : Kept db (events.foldl CrawlDb.step db) :=
  Runs.foldl_induction (fun _ h ev _ => h.trans (kept_step _ ev)) Kept.refl

theorem backed_run {events : List SchedulerEvent} (hslugs : Function.Injective slugOf)
    (hevents : ∀ ev ∈ events, ev.WellFormed slugOf) (h : Backed slugOf db) :
    Backed slugOf (events.foldl CrawlDb.step db) :=
  Runs.foldl_induction (fun _ h ev hev => h.step hslugs (hevents ev hev)) h

end Backed
/-! ### What the scheduler keeps -/

/-- The tables after a run of events, from empty ones. -/
def after (events : List SchedulerEvent) : CrawlDb := events.foldl CrawlDb.step {}

/-- What an event has added to the runs. -/
def added (pre : List SchedulerEvent) (ev : SchedulerEvent) : List CrawlRun :=
  (after (pre ++ [ev])).runs.drop (after pre).runs.length

/-- The calls that were not forced keep the cadence, and each of their runs has its job.

    * `apart`: a run comes a cadence, in days, after every earlier one of its crawl;
    * `repeated`: a crawl that was considered on a day gets no other run on it, unless its cadence is shorter now;
    * `own`: a run has a job, and keeps it. -/
structure KeepsCadence (events : List SchedulerEvent) : Prop where
  apart : ∀ pre ev post pass, events = pre ++ ev :: post → ev.pass? (after pre) = some pass → pass.force = false →
    ∀ earlier run later, (after (pre ++ [ev])).runs = earlier ++ run :: later →
      (after pre).runs.length ≤ earlier.length →
        ∃ slot ∈ pass.slots, slot.Covers run ∧ ∀ other ∈ earlier, slot.Covers other →
          max 1 slot.cadence ≤ dayOf run.scheduledAt - dayOf other.scheduledAt
  repeated : ∀ pre ev mid ev' post pass pass', events = pre ++ ev :: (mid ++ ev' :: post) →
    ev.pass? (after pre) = some pass → ev'.pass? (after (pre ++ ev :: mid)) = some pass' → pass'.force = false →
      dayOf pass'.now = dayOf pass.now → ∀ slot ∈ pass.slots, ∀ run ∈ added (pre ++ ev :: mid) ev', slot.Covers run →
        ∃ slot' ∈ pass'.slots, slot'.Covers run ∧ slot'.cadence < slot.cadence
  own : ∀ pre ev post pass, events = pre ++ ev :: post → ev.pass? (after pre) = some pass → pass.force = false →
    ∀ run ∈ added pre ev, ∃ job ∈ (after events).jobs, job.crawlRunId = run.id
  unique : ((after events).runs.map (·.id)).Nodup

section KeepsCadence
variable {slugOf : Nat → String} {events pre : List SchedulerEvent} {ev : SchedulerEvent} {pass : Pass}

theorem after_concat (hpass : ev.pass? (after pre) = some pass) : after (pre ++ [ev]) = pass.run (after pre) := by
  unfold after
  rw [List.foldl_append]
  exact step_of_pass hpass

theorem kept_after (pre post : List SchedulerEvent) : Kept (after pre) (after (pre ++ post)) := by
  unfold after
  rw [List.foldl_append]
  exact kept_run _ post

theorem backed_after (hslugs : Function.Injective slugOf) (hevents : ∀ ev ∈ events, ev.WellFormed slugOf) :
    Backed slugOf (after events) := by
  refine backed_run hslugs hevents ⟨?_, ?_, ?_, ?_, List.nodup_nil⟩
  all_goals
    intro _ h
    cases h

theorem passed_after (hslugs : Function.Injective slugOf) (hevents : ∀ ev ∈ events, ev.WellFormed slugOf)
    {post : List SchedulerEvent} (hsplit : events = pre ++ ev :: post) (hpass : ev.pass? (after pre) = some pass) :
    Passed slugOf pass (after pre) (after (pre ++ [ev])) := by
  have hpre : Backed slugOf (after pre) :=
    backed_after hslugs fun e he => hevents e (hsplit ▸ List.mem_append_left _ he)
  have hev : ev.WellFormed slugOf := hevents ev (hsplit ▸ List.mem_append_right _ List.mem_cons_self)
  rw [after_concat hpass]
  exact passed_run hslugs (wellFormed_pass hpre hev hpass) hpre

theorem keepsCadence (hslugs : Function.Injective slugOf) (hevents : ∀ ev ∈ events, ev.WellFormed slugOf) :
    KeepsCadence events := by
  constructor
  case apart =>
    intro pre ev post pass hsplit hpass hforce earlier run later hruns hlength
    have hpassed := passed_after hslugs hevents hsplit hpass
    obtain ⟨slot, hslot, hcovers, -, hdue⟩ := hpassed.grown.of_split hruns hlength
    exact ⟨slot, hslot, hcovers, hdue hforce⟩
  case repeated =>
    intro pre ev mid ev' post pass pass' hsplit hpass hpass' hforce hday slot hslot run hrun hcovers
    have hsplit' : events = (pre ++ ev :: mid) ++ ev' :: post := by simpa using hsplit
    have hpassed := passed_after hslugs hevents hsplit' hpass'
    -- The first call leaves a run of the crawl inside the cadence of the day, and it is still there.
    have hfresh : slot.Fresh pass.now (after (pre ++ ev :: mid)) := by
      have hfirst : slot.Fresh pass.now (after (pre ++ [ev])) := after_concat hpass ▸ fresh_of_run hslot
      have hkept := kept_after (pre ++ [ev]) mid
      rw [List.append_assoc] at hkept
      exact hfirst.kept hkept
    obtain ⟨other, hother, ⟨hretailer, hstore, htype⟩, hwindow⟩ := hfresh
    obtain ⟨earlier, hearlier, slot', hslot', hcovers', hat, hdue⟩ := hpassed.grown.of_mem_drop hrun
    have hcoversOther : slot'.Covers other :=
      ⟨hretailer.trans (hcovers.1.symm.trans hcovers'.1), hstore.trans (hcovers.2.1.symm.trans hcovers'.2.1),
        htype.trans (hcovers.2.2.symm.trans hcovers'.2.2)⟩
    have hapart := hdue hforce other (hearlier.subset hother) hcoversOther
    rw [hat, hday] at hapart
    refine ⟨slot', hslot', hcovers', ?_⟩
    omega
  case own =>
    intro pre ev post pass hsplit hpass hforce run hrun
    have hpassed := passed_after hslugs hevents hsplit hpass
    obtain ⟨job, hjob, hid⟩ := hpassed.own hforce run hrun
    obtain ⟨job', hjob', hid'⟩ := (kept_after (pre ++ [ev]) post).jobs job hjob
    refine ⟨job', ?_, hid'.trans hid⟩
    rw [hsplit]
    simpa using hjob'
  case unique => exact (backed_after hslugs hevents).unique

end KeepsCadence
/-! ### Days on which a crawl is scheduled twice -/

section Examples

/-- An hour of a day. -/
def atHour (day hour : Int) : Instant := startOf day + hour * 3600000000

def dia : Retailer where
  id := 1
  slug := "dia"

def dailyAt (day hour : Int) : SchedulerEvent := .daily {} (atHour day hour) (atHour day hour) true

/-- Two days of the chain, the first of them with two calls, and the call a month after it. -/
def diaMonth : List SchedulerEvent :=
  [.catalogue [dia] [], dailyAt 739621 6, dailyAt 739621 18, dailyAt 739622 6, dailyAt 739651 6]

/-- `dia`, with the other slugs by their ids. -/
def slugOfId (id : Nat) : String := if id = 1 then "dia" else id.repr

theorem slugOfId_injective : Function.Injective slugOfId := by
  have hdia : ∀ id : Nat, "dia" ≠ id.repr := by
    intro id hid
    have hdigit : 'd'.isDigit = true := isDigit_of_mem_repr (n := id) (hid ▸ by decide)
    cases hdigit
  intro id id' h
  unfold slugOfId at h
  split at h
  · next hid =>
    split at h
    · next hid' => exact hid.trans hid'.symm
    · exact absurd h (hdia id')
  · split at h
    · exact absurd h.symm (hdia id)
    · exact Nat.repr_injective h

theorem keepsCadence_diaMonth : KeepsCadence diaMonth ∧ (after diaMonth).runs.length = 4 := by
  refine ⟨keepsCadence slugOfId_injective fun ev hev => ?_, by decide⟩
  simp only [diaMonth, List.mem_cons, List.not_mem_nil, or_false] at hev
  rcases hev with rfl | rfl | rfl | rfl | rfl
  · simp [SchedulerEvent.WellFormed, Retailer.Named, dia, slugOfId]
  all_goals
    unfold dailyAt SchedulerEvent.WellFormed IsDate
    decide

/-- The second daily call of a day adds no runs. -/
def SilentRepeat (events : List SchedulerEvent) : Prop :=
  ∀ pre config now clock mid now' clock' post,
    events = pre ++ .daily config now clock true :: (mid ++ .daily config now' clock' true :: post) →
      dayOf now' = dayOf now → added (pre ++ .daily config now clock true :: mid) (.daily config now' clock' true) = []

/-- Every run that a call adds has a job. -/
def OwnJobs (events : List SchedulerEvent) : Prop :=
  ∀ pre ev post, events = pre ++ ev :: post → ∀ run ∈ added pre ev, ∃ job ∈ (after events).jobs, job.crawlRunId = run.id

def consum : Retailer where
  id := 2
  slug := "consum"

/-- A failure of a crawl of the first day, at six of the second. -/
def failureOf (runId : Nat) : SchedulerEvent := .outcome {} runId false (atHour 739622 6)

/-- Five failures open the circuit of the chain for a quarter of an hour. -/
def circuitOpened : List SchedulerEvent :=
  [.catalogue [consum] [], dailyAt 739621 6, failureOf 1, failureOf 1, failureOf 1, failureOf 2, failureOf 2]

/-- With its circuit open the chain is skipped at six, and crawled at noon. A forced call of a day finds the jobs that are
    there, and its runs stay without any. -/
theorem not_silentRepeat_circuit :
    ¬SilentRepeat (circuitOpened ++ [dailyAt 739622 6, dailyAt 739622 12]) ∧
      ¬OwnJobs [.catalogue [dia] [], dailyAt 739621 6, .retailer {} (atHour 739621 12) (atHour 739621 12) true dia] := by
  constructor
  · intro h
    have hadded := h circuitOpened {} (atHour 739622 6) (atHour 739622 6) [] (atHour 739622 12) (atHour 739622 12) [] rfl rfl
    exact absurd (congrArg List.length hadded) (by decide)
  · intro h
    have hjobs := h [.catalogue [dia] [], dailyAt 739621 6] _ [] rfl
      (Slot.run ⟨dia, none, .catalog, monthly⟩ 3 (atHour 739621 12)) (by decide)
    exact absurd hjobs (by decide)

end Examples
end CestaPlan.Jobs
