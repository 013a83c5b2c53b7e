import CestaPlan.Library.Runs
import CestaPlan.Library.Windows
import Mathlib.Algebra.Order.Ring.Rat
import Mathlib.Data.List.Pairwise

/-! The rate limiter (`security.py`) and the requests that it guards (`rate_limit` of `deps.py`).

    A request checks and is recorded in two calls. Each of them holds the lock, but nothing holds it between the two. -/

namespace CestaPlan.Security

structure RateLimiter where
  maxAttempts : Nat := 5
  windowSeconds : ℚ := 900

/-- `_attempts`; a key that is absent has none. -/
abbrev Attempts := String → List ℚ

namespace RateLimiter
variable (limiter : RateLimiter) (attempts : Attempts) (key : String) (now : ℚ)

def prune : Attempts := Function.update attempts key (Windows.recent limiter.windowSeconds now (attempts key))

/-- `is_limited`: it prunes too. -/
def isLimited : Attempts × Bool :=
  let attempts := limiter.prune attempts key now
  (attempts, limiter.maxAttempts ≤ (attempts key).length)

def record : Attempts :=
  let attempts := limiter.prune attempts key now
  Function.update attempts key (attempts key ++ [now])

end RateLimiter

/-! ### Requests -/

inductive LimitEvent where
  /-- A request calls `is_limited`, and fails if it is. -/
  | check (request : Nat) (key : String) (now : ℚ)
  /-- A request that has passed calls `record`. -/
  | record (request : Nat) (key : String) (now : ℚ)

def LimitEvent.now : LimitEvent → ℚ
  | .check _ _ now => now
  | .record _ _ now => now

structure LimitState where
  attempts : Attempts := fun _ => []
  /-- The requests that have passed the check and are not recorded yet. -/
  passed : List (Nat × String) := []
  /-- When the requests of each key were admitted, since the beginning. -/
  admitted : String → List ℚ := fun _ => []

/-- How many requests of a key have passed and are not recorded yet. -/
def LimitState.passedOf (s : LimitState) (key : String) : Nat := s.passed.countP (·.2 = key)

namespace LimitState
variable (limiter : RateLimiter) (s : LimitState)

def check (request : Nat) (key : String) (now : ℚ) : LimitState :=
  let (attempts, limited) := limiter.isLimited s.attempts key now
  { s with attempts := attempts, passed := if limited then s.passed else (request, key) :: s.passed }

def record (request : Nat) (key : String) (now : ℚ) : LimitState :=
  if (request, key) ∈ s.passed then
    { attempts := limiter.record s.attempts key now
      passed := s.passed.erase (request, key)
      admitted := Function.update s.admitted key (s.admitted key ++ [now]) }
  else s

def step : LimitEvent → LimitState
  | .check request key now => s.check limiter request key now
  | .record request key now => s.record limiter request key now

end LimitState

/-! ### The limit -/

/-- In any interval of the window's length at most so many requests of a key are admitted. -/
def WithinLimit (limiter : RateLimiter) (s : LimitState) : Prop :=
  ∀ key start, Windows.within limiter.windowSeconds start (s.admitted key) ≤ limiter.maxAttempts

/-- A request that is refused finds the limit reached in the window that ends with it. -/
def RefusesRightly (limiter : RateLimiter) (s : LimitState) : LimitEvent → Prop
  | .check _ key now => (limiter.isLimited s.attempts key now).2 = true →
    limiter.maxAttempts ≤ Windows.within limiter.windowSeconds (now - limiter.windowSeconds) (s.admitted key)
  | .record .. => True

/-- A request that passes would do so too if those of its key that have passed before were recorded by then. -/
def CountsPassed (limiter : RateLimiter) (s : LimitState) : LimitEvent → Prop
  | .check _ key now =>
    let counted := Windows.within limiter.windowSeconds (now - limiter.windowSeconds) (s.admitted key)
    counted < limiter.maxAttempts → counted + s.passedOf key < limiter.maxAttempts
  | .record .. => True

section Limits
variable {limiter : RateLimiter} {s : LimitState} {e : LimitEvent} {request : Nat} {key : String} {now now' : ℚ}

/-- What is stored counts as all that was admitted does, from `now` on. -/
structure Faithful (limiter : RateLimiter) (now : ℚ) (s : LimitState) : Prop where
  past : ∀ key, ∀ t ∈ s.admitted key, t ≤ now
  stored : ∀ key now', now ≤ now' →
    Windows.recent limiter.windowSeconds now' (s.attempts key) = Windows.recent limiter.windowSeconds now' (s.admitted key)

theorem Faithful.later (h : Faithful limiter now s) (hle : now ≤ now') : Faithful limiter now' s where
  past key t ht := (h.past key t ht).trans hle
  stored key now'' hle' := h.stored key now'' (hle.trans hle')

theorem recent_prune {attempts : Attempts} (hle : now ≤ now') (key' : String) :
    Windows.recent limiter.windowSeconds now' (limiter.prune attempts key now key') =
      Windows.recent limiter.windowSeconds now' (attempts key') := by
  rw [RateLimiter.prune, Function.update_apply]
  split
  · next hkey => rw [Windows.recent_recent hle, hkey]
  · rfl

theorem Faithful.check (h : Faithful limiter now s) : Faithful limiter now (s.check limiter request key now) where
  past := h.past
  stored key' now' hle := (recent_prune hle key').trans (h.stored key' now' hle)

theorem Faithful.record (h : Faithful limiter now s) : Faithful limiter now (s.record limiter request key now) := by
  unfold LimitState.record
  split
  · refine ⟨fun key' t ht => ?_, fun key' now' hle => ?_⟩
    · simp only [Function.update_apply] at ht
      split at ht
      · rcases List.mem_append.mp ht with hold | hnew
        · exact h.past key t hold
        · exact (List.mem_singleton.mp hnew).le
      · exact h.past key' t ht
    · simp only [RateLimiter.record, Function.update_apply]
      split
      · rw [Windows.recent_append, Windows.recent_append, recent_prune hle, h.stored key now' hle]
      · exact (recent_prune hle key').trans (h.stored key' now' hle)
  · exact h

theorem Faithful.step (h : Faithful limiter e.now s) : Faithful limiter e.now (s.step limiter e) := by
  cases e with
  | check request key now => exact h.check
  | record request key now => exact h.record

theorem Faithful.isLimited_iff (h : Faithful limiter now s) : (limiter.isLimited s.attempts key now).2 = true ↔
    limiter.maxAttempts ≤ Windows.within limiter.windowSeconds (now - limiter.windowSeconds) (s.admitted key) := by
  rw [RateLimiter.isLimited, decide_eq_true_iff, RateLimiter.prune, Function.update_self, h.stored key now le_rfl,
    Windows.within_sub_eq (h.past key)]

/-- The admitted requests that count and those that have passed are within the limit, as are those of any interval. -/
structure Reserved (limiter : RateLimiter) (now : ℚ) (s : LimitState) : Prop where
  room : ∀ key, (Windows.recent limiter.windowSeconds now (s.admitted key)).length + s.passedOf key ≤ limiter.maxAttempts
  within : WithinLimit limiter s

theorem Reserved.later (h : Reserved limiter now s) (hle : now ≤ now') : Reserved limiter now' s where
  room key := (Nat.add_le_add_right (Windows.length_recent_le hle) _).trans (h.room key)
  within := h.within

theorem Reserved.check (hf : Faithful limiter now s) (h : Reserved limiter now s)
    (hcounts : CountsPassed limiter s (.check request key now)) :
    Reserved limiter now (s.check limiter request key now) := by
  refine ⟨fun key' => ?_, h.within⟩
  have hroom := h.room key'
  simp only [LimitState.check, LimitState.passedOf] at hroom ⊢
  split
  · exact hroom
  · next hpasses =>
    have hlt := not_le.mp fun hle => hpasses (hf.isLimited_iff.mpr hle)
    have hfits := hcounts hlt
    rw [Windows.within_sub_eq (hf.past key), LimitState.passedOf] at hfits
    rw [List.countP_cons]
    split
    · next hkey =>
      have hkey : key = key' := of_decide_eq_true hkey
      subst hkey
      omega
    · omega

theorem Reserved.record (h : Reserved limiter now s) : Reserved limiter now (s.record limiter request key now) := by
  unfold LimitState.record
  split
  · next hpassed =>
    have hperm := List.perm_cons_erase hpassed
    refine ⟨fun key' => ?_, fun key' start => ?_⟩
    · have hroom := h.room key'
      simp only [LimitState.passedOf, hperm.countP_eq, List.countP_cons] at hroom ⊢
      rw [Function.update_apply]
      split
      · next hkey =>
        rw [hkey, if_pos (decide_eq_true rfl)] at hroom
        rw [hkey]
        have hone : (Windows.recent limiter.windowSeconds now (s.admitted key ++ [now])).length ≤
            (Windows.recent limiter.windowSeconds now (s.admitted key)).length + 1 := Windows.length_recent_concat_le
        omega
      · omega
    · simp only [Function.update_apply]
      split
      · refine Windows.within_concat_le (h.within key start) ?_
        have hroom := h.room key
        simp only [LimitState.passedOf, hperm.countP_eq, List.countP_cons, decide_true, if_true] at hroom
        omega
      · exact h.within key' start
  · exact h

theorem Reserved.step (hf : Faithful limiter e.now s) (h : Reserved limiter e.now s) (hcounts : CountsPassed limiter s e) :
    Reserved limiter e.now (s.step limiter e) := by
  cases e with
  | check request key now => exact h.check hf hcounts
  | record request key now => exact h.record

/-! ### Runs -/

theorem refusesRightly_of_faithful {events : List LimitEvent} (hsorted : (events.map (·.now)).Pairwise (· ≤ ·))
    (h : ∀ e ∈ events, Faithful limiter e.now s) :
    ∀ pre e, pre ++ [e] <+: events → RefusesRightly limiter (pre.foldl (LimitState.step limiter) s) e := by
  induction events generalizing s with
  | nil => intro pre e hpre; simp at hpre
  | cons e events ih =>
    rw [List.map_cons, List.pairwise_cons] at hsorted
    refine Runs.forall_prefix_concat_cons.mpr ⟨?_, ih hsorted.2 fun e' he' => ?_⟩
    · have hfaithful := h e List.mem_cons_self
      cases e with
      | check request key now => exact hfaithful.isLimited_iff.mp
      | record request key now => trivial
    · exact (h e List.mem_cons_self).step.later (hsorted.1 _ (List.mem_map_of_mem he'))

theorem withinLimit_of_reserved {events : List LimitEvent} (hsorted : (events.map (·.now)).Pairwise (· ≤ ·))
    (hf : ∀ e ∈ events, Faithful limiter e.now s) (h : ∀ e ∈ events, Reserved limiter e.now s)
    (hwithin : WithinLimit limiter s)
    (hcounts : ∀ pre e, pre ++ [e] <+: events → CountsPassed limiter (pre.foldl (LimitState.step limiter) s) e) :
    ∀ pre, pre <+: events → WithinLimit limiter (pre.foldl (LimitState.step limiter) s) := by
  induction events generalizing s with
  | nil =>
    intro pre hpre
    rw [List.prefix_nil.mp hpre]
    exact hwithin
  | cons e events ih =>
    rw [List.map_cons, List.pairwise_cons] at hsorted
    obtain ⟨hnow, hrest⟩ := Runs.forall_prefix_concat_cons.mp hcounts
    have hfaithful := hf e List.mem_cons_self
    have hreserved := (h e List.mem_cons_self).step hfaithful hnow
    refine Runs.forall_prefix_cons.mpr ⟨hwithin, ih hsorted.2 (fun e' he' => ?_) (fun e' he' => ?_) hreserved.within hrest⟩
    · exact hfaithful.step.later (hsorted.1 _ (List.mem_map_of_mem he'))
    · exact hreserved.later (hsorted.1 _ (List.mem_map_of_mem he'))

theorem countsPassed_of_alone (h : s.passedOf key = 0) : CountsPassed limiter s (.check request key now) := by
  intro hlt
  rwa [h, Nat.add_zero]

end Limits

/-- However the calls interleave, every refusal is right; and when each check allows for the requests that have passed
    before it, no interval admits more than the limit. -/
theorem withinLimit_of_countsPassed (limiter : RateLimiter) (events : List LimitEvent)
    (hsorted : (events.map (·.now)).Pairwise (· ≤ ·)) :
    (∀ pre e, pre ++ [e] <+: events → RefusesRightly limiter (pre.foldl (LimitState.step limiter) {}) e) ∧
      ((∀ pre e, pre ++ [e] <+: events → CountsPassed limiter (pre.foldl (LimitState.step limiter) {}) e) →
        ∀ pre, pre <+: events → WithinLimit limiter (pre.foldl (LimitState.step limiter) {})) := by
  have hfaithful : ∀ now, Faithful limiter now {} := fun now => ⟨fun _ t ht => absurd ht List.not_mem_nil, fun _ _ _ => rfl⟩
  have hwithin : WithinLimit limiter {} := fun _ _ => Nat.zero_le _
  refine ⟨refusesRightly_of_faithful hsorted fun e _ => hfaithful e.now, fun hcounts => ?_⟩
  exact withinLimit_of_reserved hsorted (fun e _ => hfaithful e.now) (fun _ _ => ⟨fun _ => Nat.zero_le _, hwithin⟩) hwithin hcounts

/-- One request in ten seconds. -/
def oneInTen : RateLimiter := { maxAttempts := 1, windowSeconds := 10 }

/-- A request is admitted, one is refused, and one comes after the window. -/
theorem withinLimit_oneInTen : WithinLimit oneInTen ([LimitEvent.check 1 "ip" 0, .record 1 "ip" 0, .check 2 "ip" 3,
    .check 3 "ip" 10, .record 3 "ip" 11].foldl (LimitState.step oneInTen) {}) := by
  refine (withinLimit_of_countsPassed oneInTen _ (by decide +kernel)).2 ?_ _ List.prefix_rfl
  simp only [Runs.forall_prefix_concat_cons]
  refine ⟨countsPassed_of_alone rfl, trivial, countsPassed_of_alone (by decide +kernel),
    countsPassed_of_alone (by decide +kernel), trivial, fun pre e hpre => ?_⟩
  simp at hpre

/-- Two requests that check before either is recorded are both admitted. -/
theorem not_withinLimit_two_at_once : ¬∀ (limiter : RateLimiter) (events : List LimitEvent),
    (events.map (·.now)).Pairwise (· ≤ ·) → WithinLimit limiter (events.foldl (LimitState.step limiter) {}) := by
  intro h
  have hwithin := h oneInTen [.check 1 "ip" 0, .check 2 "ip" 0, .record 1 "ip" 1, .record 2 "ip" 1] (by decide +kernel) "ip" 0
  revert hwithin
  decide +kernel

end CestaPlan.Security
