import CestaPlan.Library.Calendar
import CestaPlan.Library.Runs
import Mathlib.Algebra.Order.Ring.Int
import Mathlib.Data.List.Count

/-! The quota of generations (`services/quota.py`) and the requests that share it (`routers/plans.py`).

    A request counts the runs that are committed, and commits its own later. Nothing reserves its place meanwhile, and
    the run is dated when its transaction began, not when the quota was checked. -/

namespace CestaPlan.Plans
open Calendar

/-- A run, with the household of its plan. -/
structure OptimizationRun where
  householdId : Int
  /-- `now()` of the database: when the transaction began. -/
  createdAt : Instant
deriving DecidableEq

structure QuotaSettings where
  deploymentMode : String := "self_hosted"
  cloudDailyGenerationLimit : Int := 0
  cloudMonthlyGenerationLimit : Int := 0
  cloudMonthlyTokenLimit : Int := 0

inductive QuotaError where
  | daily (limit : Int)
  | monthly (limit : Int)
  | tokens (limit : Int)
deriving DecidableEq

def QuotaError.detail : QuotaError → String
  | .daily limit => s!"Has alcanzado el límite diario de generaciones ({limit}). Inténtalo de nuevo mañana."
  | .monthly limit =>
    s!"Has alcanzado el límite mensual de generaciones ({limit}). Inténtalo de nuevo el próximo mes."
  | .tokens limit => s!"Has alcanzado el límite mensual de tokens ({limit}). Inténtalo de nuevo el próximo mes."

def monthStart (now : Instant) : Instant := startOf (monthOf (dayOf now))

def dayStart (now : Instant) : Instant := startOf (dayOf now)

def countGenerations (runs : List OptimizationRun) (householdId : Int) (since : Instant) : Nat :=
  runs.countP fun run => run.householdId = householdId && since ≤ run.createdAt

/-! ### The checks, in their order -/

section Checks
variable (settings : QuotaSettings)

def checkDaily (generations : Nat) : Except QuotaError Unit :=
  if settings.deploymentMode = "cloud" ∧ 0 < settings.cloudDailyGenerationLimit ∧
      settings.cloudDailyGenerationLimit ≤ generations then
    .error (.daily settings.cloudDailyGenerationLimit)
  else .ok ()

def checkMonthly (generations : Nat) : Except QuotaError Unit :=
  if settings.deploymentMode = "cloud" ∧ 0 < settings.cloudMonthlyGenerationLimit ∧
      settings.cloudMonthlyGenerationLimit ≤ generations then
    .error (.monthly settings.cloudMonthlyGenerationLimit)
  else .ok ()

def checkTokens (tokens : Int) : Except QuotaError Unit :=
  if settings.deploymentMode = "cloud" ∧ 0 < settings.cloudMonthlyTokenLimit ∧ settings.cloudMonthlyTokenLimit ≤ tokens then
    .error (.tokens settings.cloudMonthlyTokenLimit)
  else .ok ()

/-- `_enforce_quota`, where nothing is committed between its queries. -/
def enforceQuota (runs : List OptimizationRun) (householdId : Int) (tokens : Int) (now : Instant) :
    Except QuotaError Unit := do
  checkDaily settings (countGenerations runs householdId (dayStart now))
  checkMonthly settings (countGenerations runs householdId (monthStart now))
  checkTokens settings tokens

end Checks

/-! ### Requests -/

inductive RequestPhase where
  | begun
  /-- It has passed the daily check, by the clock of the server. -/
  | dayCounted (now : Instant)
  /-- It has passed all the checks and made its run, which is not committed. -/
  | admitted
deriving DecidableEq

/-- A request for a generation, a regeneration or a duplicate. -/
structure Request where
  id : Nat
  householdId : Int
  /-- When its transaction began. -/
  begunAt : Instant
  phase : RequestPhase := .begun
deriving DecidableEq

def Request.run (r : Request) : OptimizationRun where
  householdId := r.householdId
  createdAt := r.begunAt

structure QuotaState where
  runs : List OptimizationRun := []
  requests : List Request := []

inductive QuotaEvent where
  | begin (id : Nat) (householdId : Int) (at_ : Instant)
  | countDay (r : Request) (now : Instant)
  | countMonth (r : Request) (now : Instant) (tokens : Int)
  | commit (r : Request)
  | rollback (r : Request)

namespace QuotaState
variable (settings : QuotaSettings) (s : QuotaState)

def leave (r : Request) : QuotaState := { s with requests := s.requests.erase r }

def enter (r : Request) (phase : RequestPhase) : QuotaState :=
  { s with requests := { r with phase := phase } :: s.requests.erase r }

def begin (id : Nat) (householdId : Int) (at_ : Instant) : QuotaState :=
  { s with requests := { id := id, householdId := householdId, begunAt := at_ } :: s.requests }

def countDay (r : Request) (now : Instant) : QuotaState :=
  if r ∈ s.requests ∧ r.phase = .begun then
    match checkDaily settings (countGenerations s.runs r.householdId (dayStart now)) with
    | .ok _ => s.enter r (.dayCounted now)
    | .error _ => s.leave r
  else s

def countMonth (r : Request) (now : Instant) (tokens : Int) : QuotaState :=
  if r ∈ s.requests ∧ r.phase = .dayCounted now then
    match checkMonthly settings (countGenerations s.runs r.householdId (monthStart now)), checkTokens settings tokens with
    | .ok _, .ok _ => s.enter r .admitted
    | _, _ => s.leave r
  else s

def commit (r : Request) : QuotaState :=
  if r ∈ s.requests ∧ r.phase = .admitted then { s.leave r with runs := s.runs ++ [r.run] } else s

def step : QuotaEvent → QuotaState
  | .begin id householdId at_ => s.begin id householdId at_
  | .countDay r now => s.countDay settings r now
  | .countMonth r now tokens => s.countMonth settings r now tokens
  | .commit r => s.commit r
  | .rollback r => s.leave r

end QuotaState

/-! ### The limits -/

def onDay (householdId day : Int) (run : OptimizationRun) : Bool :=
  run.householdId = householdId && dayOf run.createdAt = day

def inMonth (householdId month : Int) (run : OptimizationRun) : Bool :=
  run.householdId = householdId && monthOf (dayOf run.createdAt) = month

/-- The request has been let through for the day, and its run is not committed. -/
def Request.heldDay (householdId day : Int) (r : Request) : Bool := r.phase ≠ .begun && onDay householdId day r.run

def Request.heldMonth (householdId month : Int) (r : Request) : Bool :=
  r.phase = .admitted && inMonth householdId month r.run

structure WithinQuota (settings : QuotaSettings) (s : QuotaState) : Prop where
  daily : ∀ householdId day, (s.runs.countP (onDay householdId day) : Int) ≤ settings.cloudDailyGenerationLimit
  monthly : ∀ householdId month, (s.runs.countP (inMonth householdId month) : Int) ≤ settings.cloudMonthlyGenerationLimit

/-- Where a check lets a request through, it would do so too if it saw the runs that other requests have yet to commit;
    and the transaction has begun on the day of the check. -/
def Seen (settings : QuotaSettings) (s : QuotaState) : QuotaEvent → Prop
  | .countDay r now =>
    let counted := countGenerations s.runs r.householdId (dayStart now)
    counted < settings.cloudDailyGenerationLimit → dayOf r.begunAt = dayOf now ∧
      (counted + s.requests.countP (Request.heldDay r.householdId (dayOf now)) : Int) < settings.cloudDailyGenerationLimit
  | .countMonth r now _ =>
    let counted := countGenerations s.runs r.householdId (monthStart now)
    counted < settings.cloudMonthlyGenerationLimit →
      (counted + s.requests.countP (Request.heldMonth r.householdId (monthOf (dayOf now))) : Int) <
        settings.cloudMonthlyGenerationLimit
  | _ => True

section Limits
variable {settings : QuotaSettings} {s : QuotaState} {r : Request} {now : Instant} {householdId day month : Int}

theorem countP_erase_add {requests : List Request} (hr : r ∈ requests) (p : Request → Bool) :
    requests.countP p = (requests.erase r).countP p + if p r then 1 else 0 := by
  rw [(List.perm_cons_erase hr).countP_eq, List.countP_cons]

theorem countP_erase_le {requests : List Request} (p : Request → Bool) :
    (requests.erase r).countP p ≤ requests.countP p := List.erase_sublist.countP_le

variable (now) (householdId) in
theorem countP_onDay_le (runs : List OptimizationRun) :
    runs.countP (onDay householdId (dayOf now)) ≤ countGenerations runs householdId (dayStart now) := by
  refine List.countP_mono_left fun run _ hrun => ?_
  simp only [onDay, Bool.and_eq_true, decide_eq_true_eq] at hrun ⊢
  exact ⟨hrun.1, startOf_le_iff.mpr hrun.2.ge⟩

variable (now) (householdId) in
theorem countP_inMonth_le (runs : List OptimizationRun) :
    runs.countP (inMonth householdId (monthOf (dayOf now))) ≤ countGenerations runs householdId (monthStart now) := by
  refine List.countP_mono_left fun run _ hrun => ?_
  simp only [inMonth, Bool.and_eq_true, decide_eq_true_eq] at hrun ⊢
  refine ⟨hrun.1, ?_⟩
  rw [monthStart, ← hrun.2]
  exact startOf_monthOf_le run.createdAt

theorem checkDaily_ok (hmode : settings.deploymentMode = "cloud") (hlimit : 0 < settings.cloudDailyGenerationLimit)
    {generations : Nat} {u : Unit} (h : checkDaily settings generations = .ok u) :
    generations < settings.cloudDailyGenerationLimit := by
  unfold checkDaily at h
  split at h
  · cases h
  · next hno => exact not_le.mp fun hle => hno ⟨hmode, hlimit, hle⟩

theorem checkMonthly_ok (hmode : settings.deploymentMode = "cloud") (hlimit : 0 < settings.cloudMonthlyGenerationLimit)
    {generations : Nat} {u : Unit} (h : checkMonthly settings generations = .ok u) :
    generations < settings.cloudMonthlyGenerationLimit := by
  unfold checkMonthly at h
  split at h
  · cases h
  · next hno => exact not_le.mp fun hle => hno ⟨hmode, hlimit, hle⟩

theorem onDay_iff {run : OptimizationRun} :
    onDay householdId day run = true ↔ run.householdId = householdId ∧ dayOf run.createdAt = day := by
  simp [onDay]

theorem inMonth_iff {run : OptimizationRun} :
    inMonth householdId month run = true ↔ run.householdId = householdId ∧ monthOf (dayOf run.createdAt) = month := by
  simp [inMonth]

theorem heldDay_of_counted (h : r.phase ≠ .begun) : r.heldDay householdId day = onDay householdId day r.run := by
  simp [Request.heldDay, h]

theorem heldMonth_of_admitted (h : r.phase = .admitted) :
    r.heldMonth householdId month = inMonth householdId month r.run := by
  simp [Request.heldMonth, h]

theorem heldMonth_of_not_admitted (h : r.phase ≠ .admitted) : r.heldMonth householdId month = false := by
  simp [Request.heldMonth, h]

/-- The runs and the requests that were let through have their places. -/
structure Reserved (settings : QuotaSettings) (s : QuotaState) : Prop where
  daily : ∀ householdId day, (s.runs.countP (onDay householdId day) +
    s.requests.countP (Request.heldDay householdId day) : Int) ≤ settings.cloudDailyGenerationLimit
  monthly : ∀ householdId month, (s.runs.countP (inMonth householdId month) +
    s.requests.countP (Request.heldMonth householdId month) : Int) ≤ settings.cloudMonthlyGenerationLimit
  today : ∀ r ∈ s.requests, ∀ now, r.phase = .dayCounted now → dayOf r.begunAt = dayOf now

theorem Reserved.within (h : Reserved settings s) : WithinQuota settings s where
  daily householdId day := by
    have := h.daily householdId day
    omega
  monthly householdId month := by
    have := h.monthly householdId month
    omega

theorem Reserved.leave (h : Reserved settings s) (r : Request) : Reserved settings (s.leave r) where
  daily householdId day := by
    have hday := h.daily householdId day
    have hless : (s.requests.erase r).countP (Request.heldDay householdId day) ≤ _ := countP_erase_le _
    simp only [QuotaState.leave]
    omega
  monthly householdId month := by
    have hmonth := h.monthly householdId month
    have hless : (s.requests.erase r).countP (Request.heldMonth householdId month) ≤ _ := countP_erase_le _
    simp only [QuotaState.leave]
    omega
  today r' hr' := h.today r' (List.mem_of_mem_erase hr')

theorem Reserved.begin (h : Reserved settings s) (id : Nat) (householdId : Int) (at_ : Instant) :
    Reserved settings (s.begin id householdId at_) where
  daily householdId' day := by
    simpa [QuotaState.begin, Request.heldDay] using h.daily householdId' day
  monthly householdId' month := by
    simpa [QuotaState.begin, Request.heldMonth] using h.monthly householdId' month
  today r hr now hphase := by
    rcases List.mem_cons.mp hr with rfl | hr
    · cases hphase
    · exact h.today r hr now hphase

theorem Reserved.countDay (hmode : settings.deploymentMode = "cloud") (hlimit : 0 < settings.cloudDailyGenerationLimit)
    (h : Reserved settings s) (hseen : Seen settings s (.countDay r now)) :
    Reserved settings (s.countDay settings r now) := by
  unfold QuotaState.countDay
  split
  · next hr =>
    split
    · next hok =>
      obtain ⟨htoday, hroom⟩ := hseen (checkDaily_ok hmode hlimit hok)
      refine ⟨fun householdId day => ?_, fun householdId month => ?_, fun r' hr' now' hphase => ?_⟩
      · have hday := h.daily householdId day
        have hless : (s.requests.erase r).countP (Request.heldDay householdId day) ≤ _ := countP_erase_le _
        have hown : Request.heldDay householdId day { r with phase := .dayCounted now } = onDay householdId day r.run :=
          heldDay_of_counted RequestPhase.noConfusion
        simp only [QuotaState.enter, List.countP_cons, hown]
        split
        · next hheld =>
          -- The request takes a place on the day of its check.
          obtain ⟨rfl, rfl⟩ := onDay_iff.mp hheld
          have hcounted := countP_onDay_le now r.householdId s.runs
          rw [← htoday] at hcounted hroom
          simp only [Request.run] at hless ⊢
          omega
        · omega
      · have hmonth := h.monthly householdId month
        have hless : (s.requests.erase r).countP (Request.heldMonth householdId month) ≤ _ := countP_erase_le _
        have hown : Request.heldMonth householdId month { r with phase := .dayCounted now } = false :=
          heldMonth_of_not_admitted RequestPhase.noConfusion
        simp only [QuotaState.enter, List.countP_cons, hown, Bool.false_eq_true, if_false]
        omega
      · rcases List.mem_cons.mp hr' with rfl | hr'
        · obtain rfl := RequestPhase.dayCounted.inj hphase
          exact htoday
        · exact h.today r' (List.mem_of_mem_erase hr') now' hphase
    · exact h.leave r
  · exact h

theorem Reserved.countMonth (hmode : settings.deploymentMode = "cloud")
    (hlimit : 0 < settings.cloudMonthlyGenerationLimit) {tokens : Int} (h : Reserved settings s)
    (hseen : Seen settings s (.countMonth r now tokens)) :
    Reserved settings (s.countMonth settings r now tokens) := by
  unfold QuotaState.countMonth
  split
  · next hr =>
    split
    · next hmonthly htokens =>
      have hroom := hseen (checkMonthly_ok hmode hlimit hmonthly)
      refine ⟨fun householdId day => ?_, fun householdId month => ?_, fun r' hr' now' hphase => ?_⟩
      · have hday := h.daily householdId day
        have hheld := countP_erase_add hr.1 (Request.heldDay householdId day)
        have hbefore : r.heldDay householdId day = onDay householdId day r.run := by
          refine heldDay_of_counted ?_
          rw [hr.2]
          exact RequestPhase.noConfusion
        have hown : Request.heldDay householdId day { r with phase := .admitted } = onDay householdId day r.run :=
          heldDay_of_counted RequestPhase.noConfusion
        simp only [QuotaState.enter, List.countP_cons, hown]
        rw [hbefore] at hheld
        omega
      · have hmonth := h.monthly householdId month
        have hless : (s.requests.erase r).countP (Request.heldMonth householdId month) ≤ _ := countP_erase_le _
        have hown : Request.heldMonth householdId month { r with phase := .admitted } = inMonth householdId month r.run :=
          heldMonth_of_admitted rfl
        simp only [QuotaState.enter, List.countP_cons, hown]
        split
        · next hheld =>
          obtain ⟨rfl, rfl⟩ := inMonth_iff.mp hheld
          have hcounted := countP_inMonth_le now r.householdId s.runs
          rw [← h.today r hr.1 now hr.2] at hcounted hroom
          simp only [Request.run] at hless ⊢
          omega
        · omega
      · rcases List.mem_cons.mp hr' with rfl | hr'
        · cases hphase
        · exact h.today r' (List.mem_of_mem_erase hr') now' hphase
    · exact h.leave r
  · exact h

theorem Reserved.commit (h : Reserved settings s) : Reserved settings (s.commit r) := by
  unfold QuotaState.commit
  split
  · next hr =>
    refine ⟨fun householdId day => ?_, fun householdId month => ?_, (h.leave r).today⟩
    · have hday := h.daily householdId day
      have hheld := countP_erase_add hr.1 (Request.heldDay householdId day)
      have hown : r.heldDay householdId day = onDay householdId day r.run := by
        refine heldDay_of_counted ?_
        rw [hr.2]
        exact RequestPhase.noConfusion
      rw [hown] at hheld
      simp only [QuotaState.leave, List.countP_append, List.countP_cons, List.countP_nil, zero_add]
      omega
    · have hmonth := h.monthly householdId month
      have hheld := countP_erase_add hr.1 (Request.heldMonth householdId month)
      rw [heldMonth_of_admitted hr.2] at hheld
      simp only [QuotaState.leave, List.countP_append, List.countP_cons, List.countP_nil, zero_add]
      omega
  · exact h

theorem Reserved.step (hmode : settings.deploymentMode = "cloud") (hdaily : 0 < settings.cloudDailyGenerationLimit)
    (hmonthly : 0 < settings.cloudMonthlyGenerationLimit) {e : QuotaEvent} (h : Reserved settings s)
    (hseen : Seen settings s e) : Reserved settings (s.step settings e) := by
  cases e with
  | begin id householdId at_ => exact h.begin id householdId at_
  | countDay r now => exact h.countDay hmode hdaily hseen
  | countMonth r now tokens => exact h.countMonth hmode hmonthly hseen
  | commit r => exact h.commit
  | rollback r => exact h.leave r

/-- In a run whose checks miss nothing that matters, no household has more runs than its limits on any day or in any
    month. -/
theorem withinQuota_of_seen (settings : QuotaSettings) (hmode : settings.deploymentMode = "cloud")
    (hdaily : 0 < settings.cloudDailyGenerationLimit) (hmonthly : 0 < settings.cloudMonthlyGenerationLimit)
    (s : QuotaState) (hstart : WithinQuota settings s) (hnone : s.requests = []) (events : List QuotaEvent)
    (hseen : ∀ pre e, pre ++ [e] <+: events → Seen settings (pre.foldl (QuotaState.step settings) s) e) :
    ∀ pre, pre <+: events → WithinQuota settings (pre.foldl (QuotaState.step settings) s) := by
  intro pre hpre
  suffices h : Reserved settings (pre.foldl (QuotaState.step settings) s) from h.within
  induction pre using List.reverseRecOn with
  | nil =>
    refine ⟨fun householdId day => ?_, fun householdId month => ?_, fun r hr => ?_⟩
    · simpa [hnone] using hstart.daily householdId day
    · simpa [hnone] using hstart.monthly householdId month
    · rw [List.foldl_nil, hnone] at hr
      cases hr
  | append_singleton pre e ih =>
    rw [List.foldl_append]
    exact (ih ((List.prefix_append pre [e]).trans hpre)).step hmode hdaily hmonthly (hseen pre e hpre)

/-- A request that is alone misses nothing: the check itself keeps a place for it. -/
theorem seen_of_alone (htoday : dayOf r.begunAt = dayOf now)
    (halone : ∀ r' ∈ s.requests, r'.householdId = r.householdId → r'.phase = .begun) :
    Seen settings s (.countDay r now) := by
  intro hcounted
  have hzero : s.requests.countP (Request.heldDay r.householdId (dayOf now)) = 0 := by
    refine List.countP_eq_zero.mpr fun r' hr' hheld => ?_
    rw [Request.heldDay, Bool.and_eq_true, onDay_iff] at hheld
    exact of_decide_eq_true hheld.1 (halone r' hr' hheld.2.1)
  exact ⟨htoday, by rwa [hzero, Nat.cast_zero, add_zero]⟩

end Limits

/-- One generation a day, two a month. -/
def oneADay : QuotaSettings where
  deploymentMode := "cloud"
  cloudDailyGenerationLimit := 1
  cloudMonthlyGenerationLimit := 2

/-- A request that is answered, and another one after it. -/
theorem withinQuota_oneADay : WithinQuota oneADay
    ([QuotaEvent.begin 1 7 0, .countDay ⟨1, 7, 0, .begun⟩ 3, .countMonth ⟨1, 7, 0, .dayCounted 3⟩ 3 0,
      .commit ⟨1, 7, 0, .admitted⟩, .begin 2 7 5, .countDay ⟨2, 7, 5, .begun⟩ 6].foldl (QuotaState.step oneADay) {}) := by
  refine withinQuota_of_seen oneADay rfl (by decide) (by decide) {}
    ⟨fun _ _ => Int.zero_le_ofNat 1, fun _ _ => Int.zero_le_ofNat 2⟩ rfl _ ?_ _ (List.prefix_refl _)
  simp only [Runs.forall_prefix_concat_cons]
  refine ⟨trivial, ?_, ?_, trivial, trivial, ?_, fun pre e hpre => ?_⟩
  · unfold Seen
    decide
  · unfold Seen
    decide
  · unfold Seen
    decide
  · simp at hpre

/-- Two requests that are checked before either commits are both let through. -/
theorem not_withinQuota_two_at_once : ¬∀ (settings : QuotaSettings) (events : List QuotaEvent),
    settings.deploymentMode = "cloud" → 0 < settings.cloudDailyGenerationLimit →
      0 < settings.cloudMonthlyGenerationLimit →
        WithinQuota settings (events.foldl (QuotaState.step settings) {}) := by
  intro h
  have hday := (h oneADay [.begin 1 7 0, .begin 2 7 1, .countDay ⟨1, 7, 0, .begun⟩ 3, .countDay ⟨2, 7, 1, .begun⟩ 4,
    .countMonth ⟨1, 7, 0, .dayCounted 3⟩ 3 0, .countMonth ⟨2, 7, 1, .dayCounted 4⟩ 4 0, .commit ⟨1, 7, 0, .admitted⟩,
    .commit ⟨2, 7, 1, .admitted⟩] rfl (by decide) (by decide)).daily 7 epoch
  revert hday
  decide

end CestaPlan.Plans
