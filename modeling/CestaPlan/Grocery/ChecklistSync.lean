import CestaPlan.Grocery.Checklist
import Mathlib.Data.List.Perm.Basic

/-! The server and the device agree on every item once the device is at rest, in the runs that flip each item on the server
    once for each tap. -/

namespace CestaPlan.Grocery
open Flips Runs

/-- The server has made the flip of an entry that is still in the queue. -/
def replayed : Option Flush → Bool
  | some ⟨_ :: _, .calling .applied⟩ => true
  | some ⟨_ :: _, .removing⟩ => true
  | _ => false

/-- The step loses no flip and makes none twice. A tap answers to what the device shows; a commit negates what the server
    still has, for a request that was not queued again; a request fails for the device only before its commit, and is lost
    only if it was queued again; and a reload finds no item state half stored and no replayed entry in the queue. -/
def calm (s : State) : ChecklistEvent → Bool
  | .toggle itemId => s.isHydrated &&
      effectiveChecked s.rendered.overrides itemId (s.rendered.serverChecked itemId) == s.shown itemId
  | .toggleItemCommits k =>
    match s.requests[k]? with
    | some ⟨itemId, .read isChecked, caller⟩ => caller != .requeued && isChecked == s.isChecked itemId
    | _ => true
  | .toggleFailed k => (s.requests[k]?.map (·.phase)) != some .applied
  | .requestLost k => (s.requests[k]?.map (·.caller)) != some .nobody
  | .flushCommits =>
    match s.flush with
    | some ⟨entry :: _, .calling (.read isChecked)⟩ => isChecked == s.isChecked entry.itemId
    | _ => true
  | .flushFailed => (s.flush.map (·.step)) != some (.calling .applied)
  | .reload puts adds removes => (s.storing.take puts).isEmpty && decide (s.queueing.length ≤ adds) &&
      !replayed (match removes with | true => flushRemoved s | false => s).flush
  | _ => true

def Calm (s : State) (event : ChecklistEvent) : Prop := calm s event = true

instance (s : State) (event : ChecklistEvent) : Decidable (Calm s event) := inferInstanceAs (Decidable (calm s event = true))

/-! ### The flips that are due -/

/-- The flip of the request is still to come. -/
def Request.due (r : Request) : Bool := r.phase != .applied && r.caller != .requeued

def dueOf (requests : List Request) : List ItemId := (requests.filter Request.due).map (·.itemId)

/-- The entry that the running `flush` has sent and not yet removed. -/
def inFlush : Option Flush → Option QueuedToggle
  | some ⟨_, .next⟩ => none
  | some ⟨queued, _⟩ => queued.head?
  | none => none

/-- The rows of the queue that are yet to be sent. -/
def unsent (s : State) : List QueuedToggle :=
  match inFlush s.flush with
  | none => s.syncQueue
  | some entry => s.syncQueue.filter (·.id != entry.id)

def dueInFlush : Option Flush → List ItemId
  | some ⟨entry :: _, .calling phase⟩ => if phase = .applied then [] else [entry.itemId]
  | _ => []

/-- The flips that the server has yet to make. -/
def due (s : State) : List ItemId :=
  dueInFlush s.flush ++ (dueOf s.requests ++ (s.queueing ++ (unsent s).map (·.itemId)))

/-- The checked states that the device has stored. -/
def target (isChecked : ItemId → Bool) (itemState : ItemId → Option Bool) (itemId : ItemId) : Bool :=
  (itemState itemId).getD (isChecked itemId)

/-- The stored states are those of the server after the due flips, and every due flip is of an item with a stored state. -/
structure Tracks (isChecked : ItemId → Bool) (itemState : ItemId → Option Bool) (flips : List ItemId) : Prop where
  due : Due isChecked flips (target isChecked itemState)
  stored : ∀ itemId ∈ flips, itemState itemId ≠ none

/-- Each tap negates what the taps before it leave. -/
def Alternates : (ItemId → Bool) → List Storing → Prop
  | _, [] => True
  | checked, tap :: taps => tap.next = (!checked tap.itemId) ∧ Alternates (flipAt checked tap.itemId) taps

/-- What the runs of calm steps keep. -/
structure Balanced (s : State) : Prop where
  tracks : Tracks s.isChecked s.itemState (due s)
  taps : Alternates (target s.isChecked s.itemState) s.storing
  overrides : s.isHydrated = true → s.overrides = s.storing.foldl setItemState s.itemState
  unhydrated : s.isHydrated = false → s.storing = []
  lists : ∀ list ∈ s.list :: s.responses, ∀ itemId, s.itemState itemId = none → list itemId = s.isChecked itemId
  ids : (s.syncQueue.map (·.id)).Nodup
  autoIncrement : ∀ entry ∈ s.syncQueue, entry.id < s.autoIncrement
  queued : ∀ flush, s.flush = some flush → (flush.queued.map (·.id)).Nodup ∧ flush.queued ⊆ s.syncQueue

section Tracks
variable {isChecked : ItemId → Bool} {itemState : ItemId → Option Bool} {flips flips' : List ItemId} {itemId : ItemId}
  {tap : Storing} {taps : List Storing}

theorem Tracks.perm (h : Tracks isChecked itemState flips) (hperm : flips.Perm flips') : Tracks isChecked itemState flips' :=
  ⟨h.due.perm hperm, fun itemId hmem => h.stored itemId (hperm.mem_iff.mpr hmem)⟩

theorem target_flipAt (h : itemState itemId ≠ none) :
    target (flipAt isChecked itemId) itemState = target isChecked itemState := by
  funext j
  rcases eq_or_ne j itemId with rfl | hne
  · obtain ⟨b, hb⟩ := Option.ne_none_iff_exists'.mp h
    simp [target, hb]
  · rw [target, target, flipAt_of_ne hne]

theorem target_setItemState (h : tap.next = (!target isChecked itemState tap.itemId)) :
    target isChecked (setItemState itemState tap) = flipAt (target isChecked itemState) tap.itemId := by
  funext j
  rcases eq_or_ne j tap.itemId with rfl | hne
  · simpa [target, setItemState] using h
  · simp [target, setItemState, flipAt_of_ne hne, hne]

theorem Tracks.settle (h : Tracks isChecked itemState (itemId :: flips)) : Tracks (flipAt isChecked itemId) itemState flips := by
  refine ⟨?_, fun j hj => h.stored j (List.mem_cons_of_mem _ hj)⟩
  rw [target_flipAt (h.stored itemId List.mem_cons_self)]
  exact h.due.settle

theorem Tracks.owe (h : Tracks isChecked itemState flips) (hnext : tap.next = (!target isChecked itemState tap.itemId)) :
    Tracks isChecked (setItemState itemState tap) (tap.itemId :: flips) := by
  refine ⟨?_, fun j hj => ?_⟩
  · rw [target_setItemState hnext]
    exact h.due.owe tap.itemId
  · rcases eq_or_ne j tap.itemId with rfl | hne
    · simp [setItemState]
    · rw [setItemState, Function.update_of_ne hne]
      exact h.stored j ((List.mem_cons.mp hj).resolve_left hne)

theorem alternates_concat {checked : ItemId → Bool} : Alternates checked (taps ++ [tap]) ↔
    Alternates checked taps ∧ tap.next = (!replay checked (taps.map (·.itemId)) tap.itemId) := by
  induction taps generalizing checked with
  | nil => simp [Alternates]
  | cons first taps ih => simp [Alternates, ih, and_assoc]

theorem Alternates.target_foldl (h : Alternates (target isChecked itemState) taps) :
    target isChecked (taps.foldl setItemState itemState) = replay (target isChecked itemState) (taps.map (·.itemId)) := by
  induction taps generalizing itemState with
  | nil => rfl
  | cons first taps ih =>
    obtain ⟨hnext, hrest⟩ := h
    rw [← target_setItemState hnext] at hrest
    rw [List.foldl_cons, ih hrest, target_setItemState hnext]
    rfl

theorem foldl_setItemState_none (h : taps.foldl setItemState itemState itemId = none) : itemState itemId = none := by
  induction taps generalizing itemState with
  | nil => exact h
  | cons first taps ih =>
    have hfirst := ih h
    rcases eq_or_ne itemId first.itemId with rfl | hne
    · simp [setItemState] at hfirst
    · rwa [setItemState, Function.update_of_ne hne] at hfirst

end Tracks

/-! ### The requests -/

section Requests
variable {requests requests' : List Request} {r r' : Request} {k : Nat} {entry : QueuedToggle} {queue : List QueuedToggle}

@[simp] theorem dueOf_append : dueOf (requests ++ requests') = dueOf requests ++ dueOf requests' := by
  simp [dueOf]

theorem dueOf_perm (h : requests.Perm requests') : (dueOf requests).Perm (dueOf requests') := (h.filter _).map _

theorem dueOf_eraseIdx (h : requests[k]? = some r) :
    (dueOf requests).Perm (dueOf [r] ++ dueOf (requests.eraseIdx k)) := by
  obtain ⟨hk, rfl⟩ := List.getElem?_eq_some_iff.mp h
  rw [← dueOf_append]
  exact dueOf_perm (List.getElem_cons_eraseIdx_perm hk).symm

theorem dueOf_set (h : requests[k]? = some r) (r' : Request) :
    (dueOf [r'] ++ dueOf requests).Perm (dueOf [r] ++ dueOf (requests.set k r')) := by
  obtain ⟨hk, -⟩ := List.getElem?_eq_some_iff.mp h
  have hset := dueOf_perm (List.set_perm_cons_eraseIdx hk r')
  have herase := dueOf_eraseIdx h
  refine List.perm_iff_count.mpr fun i => ?_
  have hset := hset.count_eq i
  have herase := herase.count_eq i
  rw [← List.singleton_append, dueOf_append] at hset
  simp only [List.count_append] at hset herase ⊢
  omega

theorem dueOf_singleton (h : r.due = true) : dueOf [r] = [r.itemId] := by
  simp [dueOf, h]

theorem dueOf_set_same (h : requests[k]? = some r) (r' : Request) (hdue : r'.due = r.due) (hitem : r'.itemId = r.itemId) :
    (dueOf requests).Perm (dueOf (requests.set k r')) := by
  have hset := dueOf_set h r'
  have hsame : dueOf [r'] = dueOf [r] := by
    cases hr : r.due <;> simp [dueOf, hdue, hr, hitem]
  rw [hsame] at hset
  exact (List.perm_append_left_iff _).mp hset

theorem queue_perm (hids : (queue.map (·.id)).Nodup) (h : entry ∈ queue) :
    queue.Perm (entry :: queue.filter (·.id != entry.id)) := by
  induction queue with
  | nil => cases h
  | cons first queue ih =>
    rw [List.map_cons, List.nodup_cons] at hids
    rcases List.mem_cons.mp h with rfl | hmem
    · have hrest : queue.filter (·.id != entry.id) = queue := by
        refine List.filter_eq_self.mpr fun other hother => ?_
        simpa using fun heq : other.id = entry.id => hids.1 (heq ▸ List.mem_map_of_mem hother)
      simp [hrest]
    · have hne : first.id ≠ entry.id := fun heq => hids.1 (heq ▸ List.mem_map_of_mem hmem)
      have hkeep : (first :: queue).filter (·.id != entry.id) = first :: queue.filter (·.id != entry.id) := by
        simp [hne]
      rw [hkeep]
      exact ((ih hids.2 hmem).cons first).trans (List.Perm.swap ..)

end Requests

/-! ### The steps -/

section Steps
variable {s : State} {itemId : ItemId} {k : Nat}

theorem Balanced.toggle (h : Balanced s) (hhydrated : s.isHydrated = true)
    (hshown : effectiveChecked s.rendered.overrides itemId (s.rendered.serverChecked itemId) = s.shown itemId) :
    Balanced (toggle s itemId) := by
  have hoverrides := h.overrides hhydrated
  have hlast : s.shown itemId =
      replay (target s.isChecked s.itemState) (s.storing.map (·.itemId)) itemId := by
    rw [← h.taps.target_foldl, State.shown, effectiveChecked, hoverrides, target]
    cases hstate : s.storing.foldl setItemState s.itemState itemId with
    | none => exact h.lists _ List.mem_cons_self itemId (foldl_setItemState_none hstate)
    | some b => rfl
  unfold Grocery.toggle
  rw [hshown]
  refine { h with taps := ?_, overrides := fun _ => ?_, unhydrated := fun hnot => ?_ }
  · exact alternates_concat.mpr ⟨h.taps, by rw [hlast]⟩
  · rw [List.foldl_append, hoverrides]
    rfl
  · rw [hhydrated] at hnot
    cases hnot

theorem Balanced.toggleStored (h : Balanced s) : Balanced (toggleStored s) := by
  unfold Grocery.toggleStored
  split
  · exact h
  · next tap storing hstoring =>
    have htaps := h.taps
    have hoverrides := h.overrides
    have hunhydrated := h.unhydrated
    rw [hstoring] at htaps hoverrides hunhydrated
    obtain ⟨hnext, hrest⟩ := htaps
    rw [← target_setItemState hnext] at hrest
    have howed := h.tracks.owe hnext
    have hlists : ∀ list ∈ s.list :: s.responses, ∀ itemId, setItemState s.itemState tap itemId = none →
        list itemId = s.isChecked itemId := by
      intro list hlist itemId hnone
      have hbefore : [tap].foldl setItemState s.itemState itemId = none := hnone
      exact h.lists list hlist itemId (foldl_setItemState_none hbefore)
    have hhydrated : s.isHydrated = false → storing = [] := fun hnot => nomatch hunhydrated hnot
    have hdue : ∀ requests queueing, (dueOf requests ++ queueing).Perm (tap.itemId :: (dueOf s.requests ++ s.queueing)) →
        Tracks s.isChecked (setItemState s.itemState tap)
          (due { s with requests := requests, queueing := queueing }) := fun requests queueing hperm => by
      refine howed.perm (List.perm_iff_count.mpr fun j => ?_)
      have hcount := hperm.count_eq j
      simp only [due, unsent, List.count_append, List.count_cons] at hcount ⊢
      omega
    dsimp only
    split
    · refine { h with tracks := hdue _ _ ?_, taps := hrest, overrides := hoverrides, unhydrated := hhydrated, lists := hlists }
      rw [dueOf_append, List.append_assoc]
      exact List.perm_middle
    · refine { h with tracks := hdue _ _ ?_, taps := hrest, overrides := hoverrides, unhydrated := hhydrated, lists := hlists }
      rw [← List.append_assoc]
      exact List.perm_append_singleton ..

theorem Balanced.settle (h : Balanced s) {requests : List Request} {flush : Option Flush}
    (hdue : (due s).Perm (itemId :: due { s with requests := requests, flush := flush }))
    (hqueued : ∀ f, flush = some f → (f.queued.map (·.id)).Nodup ∧ f.queued ⊆ s.syncQueue) :
    Balanced { s with isChecked := flipAt s.isChecked itemId, requests := requests, flush := flush } := by
  have htracks := h.tracks.perm hdue
  have hstored := htracks.stored itemId List.mem_cons_self
  refine { h with tracks := htracks.settle, taps := ?_, lists := fun list hlist j hj => ?_, queued := hqueued }
  · dsimp only
    rw [target_flipAt hstored]
    exact h.taps
  · have hne : j ≠ itemId := fun heq => hstored (heq ▸ hj)
    dsimp only
    rw [flipAt_of_ne hne]
    exact h.lists list hlist j hj

/-- The requests and the calls that wait for the queue change, and owe the same flips. -/
theorem Balanced.moved (h : Balanced s) {requests : List Request} {queueing : List ItemId}
    (hdue : (dueOf s.requests ++ s.queueing).Perm (dueOf requests ++ queueing)) :
    Balanced { s with requests := requests, queueing := queueing } := by
  refine { h with tracks := h.tracks.perm (List.Perm.append_left _ ?_) }
  rw [← List.append_assoc, ← List.append_assoc]
  exact hdue.append_right _

/-- The server makes the flip of a request. -/
theorem Balanced.committed (h : Balanced s) {requests : List Request}
    (hdue : (dueOf s.requests).Perm (itemId :: dueOf requests)) :
    Balanced { s with isChecked := flipAt s.isChecked itemId, requests := requests } :=
  h.settle ((List.Perm.append_left _ (hdue.append_right _)).trans List.perm_middle) h.queued

theorem Balanced.toggleItemReads (h : Balanced s) : Balanced (toggleItemReads s k) := by
  unfold Grocery.toggleItemReads
  split
  · next itemId caller hk =>
    exact h.moved ((dueOf_set_same hk ⟨itemId, .read (s.isChecked itemId), caller⟩ rfl rfl).append_right _)
  · exact h

theorem calm_commits {isChecked : Bool} {caller : Caller} (hk : s.requests[k]? = some ⟨itemId, .read isChecked, caller⟩) :
    calm s (.toggleItemCommits k) = true ↔ caller ≠ .requeued ∧ isChecked = s.isChecked itemId := by
  simp [calm, hk]

theorem Balanced.toggleItemCommits (h : Balanced s) (hcalm : calm s (.toggleItemCommits k) = true) :
    Balanced (toggleItemCommits s k) := by
  unfold Grocery.toggleItemCommits
  split
  · next itemId isChecked hk =>
    obtain ⟨-, rfl⟩ := (calm_commits hk).mp hcalm
    exact h.committed (dueOf_set hk ⟨itemId, .applied, .toggle⟩)
  · next itemId isChecked caller hcaller hk =>
    obtain ⟨hnot, rfl⟩ := (calm_commits hk).mp hcalm
    cases caller with
    | toggle => exact absurd rfl hcaller
    | nobody => exact h.committed (dueOf_eraseIdx hk)
    | requeued => exact absurd rfl hnot
  · exact h

theorem Balanced.toggleAnswered (h : Balanced s) : Balanced (toggleAnswered s k) := by
  unfold Grocery.toggleAnswered
  split
  · next hk => exact h.moved ((dueOf_eraseIdx hk).append_right _)
  · next itemId isChecked hk =>
    exact h.moved ((dueOf_set_same hk ⟨itemId, .read isChecked, .nobody⟩ rfl rfl).append_right _)
  · exact h

theorem Balanced.toggleFailed (h : Balanced s) (hcalm : calm s (.toggleFailed k) = true) :
    Balanced (toggleFailed s k) := by
  unfold Grocery.toggleFailed
  split
  · next hk => simp [calm, hk] at hcalm
  · next itemId phase hphase hk =>
    have hwas : dueOf [⟨itemId, phase, .toggle⟩] = [itemId] := dueOf_singleton (by simpa [Request.due] using hphase)
    have hset := dueOf_set hk ⟨itemId, phase, .requeued⟩
    rw [hwas] at hset
    refine h.moved (List.perm_iff_count.mpr fun j => ?_)
    have hcount := hset.count_eq j
    simp [dueOf, Request.due, List.count_cons] at hcount ⊢
    omega
  · exact h

theorem Balanced.requestLost (h : Balanced s) (hcalm : calm s (.requestLost k) = true) :
    Balanced (requestLost s k) := by
  unfold Grocery.requestLost
  split
  · exact h
  · exact h
  · next r hr hk =>
    obtain ⟨itemId, phase, caller⟩ := r
    cases caller with
    | toggle => exact absurd rfl (hr itemId phase)
    | nobody => simp [calm, hk] at hcalm
    | requeued =>
      have hwas : dueOf [⟨itemId, phase, .requeued⟩] = [] := by simp [dueOf, Request.due]
      have herase := dueOf_eraseIdx hk
      rw [hwas] at herase
      exact h.moved (herase.append_right _)

theorem Balanced.inFlush_mem (h : Balanced s) {entry : QueuedToggle} (hentry : inFlush s.flush = some entry) :
    entry ∈ s.syncQueue := by
  cases hflush : s.flush with
  | none =>
    rw [hflush] at hentry
    cases hentry
  | some flush =>
    refine (h.queued flush hflush).2 (List.mem_of_mem_head? ?_)
    rw [hflush] at hentry
    unfold inFlush at hentry
    split at hentry
    · cases hentry
    · next heq => cases heq; exact hentry
    · cases hentry

theorem Balanced.enqueue (h : Balanced s) {queueing : List ItemId} (hqueueing : s.queueing = itemId :: queueing) :
    Balanced { enqueueToggle s itemId with queueing := queueing } := by
  have hunsent : unsent (enqueueToggle s itemId) = unsent s ++ [{ id := s.autoIncrement, itemId := itemId }] := by
    unfold unsent enqueueToggle
    dsimp only
    split
    · rfl
    · next entry hentry =>
      have hlt := h.autoIncrement entry (h.inFlush_mem hentry)
      rw [List.filter_append, List.filter_singleton]
      rw [show (s.autoIncrement != entry.id) = true from bne_iff_ne.mpr hlt.ne']
      rfl
  refine { h with tracks := h.tracks.perm ?_, ids := ?_, autoIncrement := ?_, queued := fun flush hflush => ?_ }
  · have hdue : due s = dueInFlush s.flush ++ (dueOf s.requests ++ (itemId :: queueing ++ (unsent s).map (·.itemId))) := by
      rw [due, hqueueing]
    have hdue' : due { enqueueToggle s itemId with queueing := queueing } =
        dueInFlush s.flush ++ (dueOf s.requests ++ (queueing ++ ((unsent s).map (·.itemId) ++ [itemId]))) := by
      have hitems := congrArg (List.map (·.itemId)) hunsent
      rw [List.map_append] at hitems
      exact congrArg (fun items => dueInFlush s.flush ++ (dueOf s.requests ++ (queueing ++ items))) hitems
    rw [hdue, hdue']
    refine List.perm_iff_count.mpr fun j => ?_
    simp only [List.count_append, List.cons_append, List.count_cons, List.count_nil]
    omega
  · simp only [enqueueToggle, List.map_append, List.map_cons, List.map_nil]
    refine List.nodup_append.mpr ⟨h.ids, by simp, fun id hid new hnew => ?_⟩
    obtain ⟨entry, hentry, rfl⟩ := List.mem_map.mp hid
    rw [List.mem_singleton.mp hnew]
    exact (h.autoIncrement entry hentry).ne
  · intro entry hentry
    rcases List.mem_append.mp hentry with hold | hnew
    · exact Nat.lt_succ_of_lt (h.autoIncrement entry hold)
    · obtain rfl := List.mem_singleton.mp hnew
      exact Nat.lt_succ_self _
  · exact ⟨(h.queued flush hflush).1, fun entry hentry => List.mem_append_left _ ((h.queued flush hflush).2 hentry)⟩

theorem Balanced.toggleQueued (h : Balanced s) : Balanced (toggleQueued s) := by
  unfold Grocery.toggleQueued
  split
  · exact h
  · next hqueueing => exact { h.enqueue hqueueing with }

/-! ### The flush -/

theorem Balanced.flushStart (h : Balanced s) : Balanced (flushStart s) := by
  unfold Grocery.flushStart
  split
  · next hflush =>
    have hdue : due { s with flush := some ⟨s.syncQueue, .next⟩ } = due s := by
      simp [due, unsent, hflush, inFlush, dueInFlush]
    refine { h with tracks := hdue ▸ h.tracks, queued := fun flush hnew => ?_ }
    cases hnew
    exact ⟨h.ids, List.Subset.refl _⟩
  · exact h

theorem Balanced.unsent_perm (h : Balanced s) {entry : QueuedToggle} (hentry : entry ∈ s.syncQueue) :
    (s.syncQueue.map (·.itemId)).Perm
      (entry.itemId :: (s.syncQueue.filter (·.id != entry.id)).map (·.itemId)) :=
  (queue_perm h.ids hentry).map _

theorem Balanced.flushMoved (h : Balanced s) {queued queued' : List QueuedToggle} {step step' : FlushStep}
    {requests : List Request} (hflush : s.flush = some ⟨queued, step⟩) (hqueued : queued'.Sublist queued)
    (hdue : (due s).Perm (due { s with requests := requests, flush := some ⟨queued', step'⟩ })) :
    Balanced { s with requests := requests, flush := some ⟨queued', step'⟩ } := by
  obtain ⟨hids, hsub⟩ := h.queued _ hflush
  refine { h with tracks := h.tracks.perm hdue, queued := fun flush hnew => ?_ }
  cases hnew
  exact ⟨hids.sublist (hqueued.map _), fun entry hentry => hsub (hqueued.subset hentry)⟩

theorem Balanced.flushNext (h : Balanced s) : Balanced (flushNext s) := by
  unfold Grocery.flushNext
  split
  · next hflush =>
    have hdue : due { s with pendingCount := s.syncQueue.length, flush := none } = due s := by
      simp [due, unsent, hflush, inFlush, dueInFlush]
    exact { h with tracks := hdue ▸ h.tracks, queued := fun flush hnone => nomatch hnone }
  · next entry queued hflush =>
    have hperm := h.unsent_perm ((h.queued _ hflush).2 List.mem_cons_self)
    refine h.flushMoved hflush (List.Sublist.refl _) (List.perm_iff_count.mpr fun j => ?_)
    have hcount := hperm.count_eq j
    simp [due, unsent, hflush, inFlush, dueInFlush, List.count_cons] at hcount ⊢
    omega
  · exact h

theorem Balanced.flushReads (h : Balanced s) : Balanced (flushReads s) := by
  unfold Grocery.flushReads
  split
  · next entry queued hflush =>
    refine h.flushMoved hflush (List.Sublist.refl _) ?_
    simp [due, unsent, hflush, inFlush, dueInFlush]
  · exact h

theorem Balanced.flushCommits (h : Balanced s) (hcalm : calm s .flushCommits = true) : Balanced (flushCommits s) := by
  unfold Grocery.flushCommits
  split
  · next entry queued isChecked hflush =>
    have hread : isChecked = s.isChecked entry.itemId := by simpa [calm, hflush] using hcalm
    have hentries : ((entry :: queued).map (·.id)).Nodup ∧ entry :: queued ⊆ s.syncQueue := h.queued _ hflush
    subst hread
    refine h.settle ?_ fun flush hnew => ?_
    · simp [due, unsent, hflush, inFlush, dueInFlush]
    · cases hnew
      exact hentries
  · exact h

theorem Balanced.flushAnswered (h : Balanced s) : Balanced (flushAnswered s) := by
  unfold Grocery.flushAnswered
  split
  · next entry queued hflush =>
    refine h.flushMoved hflush (List.Sublist.refl _) ?_
    simp [due, unsent, hflush, inFlush, dueInFlush]
  · next entry queued isChecked hflush =>
    refine h.flushMoved hflush (List.Sublist.refl _) (List.perm_iff_count.mpr fun j => ?_)
    have hleft : dueOf [⟨entry.itemId, .read isChecked, .nobody⟩] = [entry.itemId] := rfl
    simp [due, unsent, hflush, inFlush, dueInFlush, hleft, List.count_cons]
    omega
  · exact h

theorem Balanced.flushRemoved (h : Balanced s) : Balanced (flushRemoved s) := by
  unfold Grocery.flushRemoved
  split
  · next entry queued hflush =>
    obtain ⟨hids, hsub⟩ := h.queued _ hflush
    have hdue : due { removeQueuedToggle s entry.id with flush := some ⟨queued, .next⟩ } = due s := by
      simp [due, unsent, hflush, inFlush, dueInFlush, removeQueuedToggle]
    refine { h with
      tracks := hdue ▸ h.tracks, ids := ?_, autoIncrement := fun other hother => ?_, queued := fun flush hnew => ?_ }
    · exact h.ids.sublist (List.filter_sublist.map _)
    · exact h.autoIncrement other (List.mem_of_mem_filter hother)
    · cases hnew
      rw [List.map_cons, List.nodup_cons] at hids
      refine ⟨hids.2, fun other hother => List.mem_filter.mpr ⟨hsub (List.mem_cons_of_mem _ hother), ?_⟩⟩
      simpa using fun heq : other.id = entry.id => hids.1 (heq ▸ List.mem_map_of_mem hother)
  · exact h

theorem dueOf_abandoned (flush : Option Flush) : dueOf (abandoned flush) = [] := by
  unfold abandoned
  split
  · split
    · rfl
    · simp [dueOf, Request.due]
  · rfl

theorem Balanced.unsent_due (h : Balanced s) (hreplayed : replayed s.flush = false) :
    (dueInFlush s.flush ++ (unsent s).map (·.itemId)).Perm (s.syncQueue.map (·.itemId)) := by
  cases hflush : s.flush with
  | none => simp [unsent, hflush, inFlush, dueInFlush]
  | some flush =>
    obtain ⟨queued, step⟩ := flush
    cases queued with
    | nil => cases step <;> simp [unsent, hflush, inFlush, dueInFlush]
    | cons entry queued =>
      rw [hflush] at hreplayed
      cases step with
      | next => simp [unsent, hflush, inFlush, dueInFlush]
      | removing => cases hreplayed
      | calling phase =>
        have hphase : phase ≠ .applied := by
          rintro rfl
          cases hreplayed
        have hperm := h.unsent_perm ((h.queued _ hflush).2 List.mem_cons_self)
        simpa [unsent, hflush, inFlush, dueInFlush, hphase] using hperm.symm

theorem Balanced.flushFailed (h : Balanced s) (hcalm : calm s .flushFailed = true) : Balanced (flushFailed s) := by
  unfold Grocery.flushFailed
  split
  · next queued phase hflush =>
    have hreplayed : replayed s.flush = false := by
      simp only [calm, hflush, bne_iff_ne, ne_eq] at hcalm
      cases queued with
      | nil => simp [hflush, replayed]
      | cons entry queued => cases phase <;> simp_all [replayed]
    have hperm := h.unsent_due hreplayed
    refine h.flushMoved hflush (List.nil_sublist _) (List.perm_iff_count.mpr fun j => ?_)
    have hcount := hperm.count_eq j
    simp only [due, dueOf_append, dueOf_abandoned, List.append_nil, List.count_append] at hcount ⊢
    simp only [unsent, inFlush, dueInFlush, List.count_nil] at hcount ⊢
    omega
  · exact h

/-! ### The page -/

theorem Balanced.listFetched (h : Balanced s) : Balanced (listFetched s k) := by
  unfold Grocery.listFetched
  split
  · exact h
  · next list hlist =>
    refine { h with lists := fun other hother => h.lists other ?_ }
    rcases List.mem_cons.mp hother with rfl | hrest
    · exact List.mem_cons_of_mem _ (List.mem_of_getElem? hlist)
    · exact List.mem_cons_of_mem _ (List.mem_of_mem_eraseIdx hrest)

theorem Balanced.listSent (h : Balanced s) : Balanced (listSent s) := by
  refine { h with lists := fun list hlist itemId hnone => ?_ }
  rcases List.mem_append.mp (List.cons_append .. ▸ hlist) with hold | hnew
  · exact h.lists list hold itemId hnone
  · obtain rfl := List.mem_singleton.mp hnew
    rfl

theorem Balanced.hydrate (h : Balanced s) : Balanced (hydrate s) := by
  unfold Grocery.hydrate
  split
  · exact h
  · next hhydrated =>
    have hstoring := h.unhydrated hhydrated
    refine { h with overrides := fun _ => ?_, unhydrated := fun _ => hstoring }
    dsimp only
    rw [hstoring]
    rfl

theorem Balanced.enqueueAll {queueing : List ItemId} (h : Balanced { s with queueing := queueing }) :
    Balanced (queueing.foldl enqueueToggle { s with queueing := [] }) := by
  induction queueing generalizing s with
  | nil => exact h
  | cons itemId queueing ih => exact ih (s := enqueueToggle s itemId) (h.enqueue rfl)

@[simp] theorem Request.left_due (r : Request) : r.left.due = r.due := by
  obtain ⟨itemId, phase, caller⟩ := r
  cases caller <;> rfl

@[simp] theorem Request.left_itemId (r : Request) : r.left.itemId = r.itemId := by
  obtain ⟨itemId, phase, caller⟩ := r
  cases caller <;> rfl

theorem dueOf_left (requests : List Request) :
    dueOf ((requests.filter (·.phase != .applied)).map Request.left) = dueOf requests := by
  have hdue : ∀ r ∈ requests, (r.due && r.phase != .applied) = r.due := fun r _ => by
    unfold Request.due
    cases r.phase != .applied <;> simp
  simp only [dueOf, List.filter_map, List.map_map, List.filter_filter, Function.comp_def, Request.left_due,
    Request.left_itemId]
  rw [List.filter_congr hdue]

theorem Balanced.restart (h : Balanced s) {puts : Nat} (hputs : s.storing.take puts = [])
    (hreplayed : replayed s.flush = false) : Balanced (restart s puts) := by
  have hperm := h.unsent_due hreplayed
  unfold Grocery.restart
  rw [hputs]
  refine { h with
    tracks := h.tracks.perm (List.perm_iff_count.mpr fun j => ?_), taps := trivial, overrides := fun hnot => ?_,
    unhydrated := fun _ => rfl, lists := fun list hlist => ?_, queued := fun flush hnone => nomatch hnone }
  · have hcount := hperm.count_eq j
    simp only [due, dueOf_append, dueOf_left, dueOf_abandoned, List.append_nil, List.count_append] at hcount ⊢
    simp only [unsent, inFlush, dueInFlush, List.count_nil] at hcount ⊢
    omega
  · cases hnot
  · rw [List.mem_singleton.mp hlist]
    exact h.lists s.list List.mem_cons_self

theorem flushRemoved_storing : (flushRemoved s).storing = s.storing ∧ (flushRemoved s).queueing = s.queueing := by
  unfold flushRemoved
  split <;> exact ⟨rfl, rfl⟩

theorem Balanced.reload (h : Balanced s) {puts adds : Nat} {removes : Bool}
    (hcalm : calm s (.reload puts adds removes) = true) : Balanced (reload s puts adds removes) := by
  simp only [calm, Bool.and_eq_true, List.isEmpty_iff, decide_eq_true_eq, Bool.not_eq_true'] at hcalm
  obtain ⟨⟨hputs, hadds⟩, hreplayed⟩ := hcalm
  unfold Grocery.reload
  cases removes with
  | false =>
    dsimp only at hreplayed ⊢
    rw [List.take_of_length_le hadds]
    exact (h.restart hputs hreplayed).enqueueAll
  | true =>
    obtain ⟨hstoring, hqueueing⟩ := flushRemoved_storing (s := s)
    rw [← hstoring] at hputs
    rw [← hqueueing] at hadds
    dsimp only at hreplayed ⊢
    rw [List.take_of_length_le hadds]
    exact (h.flushRemoved.restart hputs hreplayed).enqueueAll

theorem Balanced.step (h : Balanced s) {event : ChecklistEvent} (hcalm : calm s event = true) :
    Balanced (checklistStep s event) := by
  cases event with
  | toggle itemId =>
    simp only [calm, Bool.and_eq_true, beq_iff_eq] at hcalm
    exact h.toggle hcalm.1 hcalm.2
  | toggleStored => exact h.toggleStored
  | toggleItemReads k => exact h.toggleItemReads
  | toggleItemCommits k => exact h.toggleItemCommits hcalm
  | toggleAnswered k => exact h.toggleAnswered
  | toggleFailed k => exact h.toggleFailed hcalm
  | requestLost k => exact h.requestLost hcalm
  | toggleQueued => exact h.toggleQueued
  | flushStart => exact h.flushStart
  | flushNext => exact h.flushNext
  | flushReads => exact h.flushReads
  | flushCommits => exact h.flushCommits hcalm
  | flushAnswered => exact h.flushAnswered
  | flushRemoved => exact h.flushRemoved
  | flushFailed => exact h.flushFailed hcalm
  | connectivity isOnline => exact { h with }
  | render => exact { h with }
  | listSent => exact h.listSent
  | listFetched k => exact h.listFetched
  | hydrate => exact h.hydrate
  | reload puts adds removes => exact h.reload hcalm

end Steps

/-! ### Runs -/

section Runs
variable {s : State} {isChecked : ItemId → Bool} {isOnline : Bool} {events : List ChecklistEvent}

theorem balanced_opened : Balanced (opened isChecked isOnline) where
  tracks := ⟨rfl, fun itemId hdue => nomatch hdue⟩
  taps := trivial
  overrides := fun hhydrated => nomatch hhydrated
  unhydrated := fun _ => rfl
  lists := fun list hlist itemId _ => by rw [List.mem_singleton.mp hlist]; rfl
  ids := List.nodup_nil
  autoIncrement := fun entry hentry => nomatch hentry
  queued := fun flush hflush => nomatch hflush

theorem Balanced.run (h : Balanced s) (hcalm : Along checklistStep Calm s events) :
    Balanced (events.foldl checklistStep s) := by
  induction events generalizing s with
  | nil => exact h
  | cons event events ih => exact ih (h.step hcalm.1) hcalm.2

theorem Balanced.inSync (h : Balanced s) (hrest : s.AtRest) (itemId : ItemId) : s.isChecked itemId = s.shown itemId := by
  have hflush : dueInFlush s.flush = [] := by
    cases hflush : s.flush with
    | none => rfl
    | some flush =>
      have hqueued := (h.queued flush hflush).2
      rw [hrest.syncQueue, List.subset_nil] at hqueued
      obtain ⟨queued, step⟩ := flush
      subst hqueued
      rfl
  have hdue : due s = [] := by
    have hunsent : unsent s = [] := by
      unfold unsent
      rw [hrest.syncQueue]
      split <;> rfl
    rw [due, hflush, hrest.requests, hrest.queueing, hunsent]
    rfl
  have htarget := h.tracks.due
  rw [hdue] at htarget
  have hoverrides := h.overrides hrest.isHydrated
  rw [hrest.storing] at hoverrides
  rw [State.shown, effectiveChecked, hoverrides, List.foldl_nil]
  cases hstate : s.itemState itemId with
  | none => exact (h.lists _ List.mem_cons_self itemId hstate).symm
  | some b =>
    have hb := congrFun htarget.eq itemId
    rw [target, hstate] at hb
    exact hb

/-- A tap without a connection, which is replayed once the device is online again. -/
def offlineTap : List ChecklistEvent :=
  [.hydrate, .connectivity false, .render, .toggle 7, .render, .toggleStored, .toggleQueued, .connectivity true, .render,
    .flushStart, .flushNext, .flushReads, .flushCommits, .flushAnswered, .flushRemoved, .flushNext, .listSent, .listFetched 0]

/-- A tap whose answer is lost after the server has made its flip, which is then replayed. -/
def lostAnswer : List ChecklistEvent :=
  [.hydrate, .render, .toggle 7, .render, .toggleStored, .toggleItemReads 0, .toggleItemCommits 0, .connectivity false,
    .toggleFailed 0, .toggleQueued, .render, .connectivity true, .render, .flushStart, .flushNext, .flushReads,
    .flushCommits, .flushAnswered, .flushRemoved, .flushNext]

end Runs

end CestaPlan.Grocery
