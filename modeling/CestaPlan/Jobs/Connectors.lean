import CestaPlan.Jobs.Cadence

/-! How long a connector stays off.

    The admin writes one state of the retailer, a worker the one of the run that it ends, and the daily call asks whether
    no state of the retailer is usable. -/

namespace CestaPlan.Jobs
open Calendar Updates

/-- The state keeps its retailer out of the daily call. -/
def ConnectorState.Shut (state : ConnectorState) : Prop := state.status = .disabled ∨ state.status = .unsupported

@[simp] theorem setStatus_id (status : ConnectorStatus) (now : Instant) (state : ConnectorState) :
    (state.setStatus status now).id = state.id := rfl

@[simp] theorem setStatus_retailerId (status : ConnectorStatus) (now : Instant) (state : ConnectorState) :
    (state.setStatus status now).retailerId = state.retailerId := rfl

/-! ### What a step does to the states -/

section Table
variable {table : ConnectorTable} {retailerId : Nat} {state : ConnectorState} {now : Instant}

structure ConnectorTable.Keyed (table : ConnectorTable) : Prop where
  unique : (table.states.map (·.id)).Nodup
  fresh : ∀ state ∈ table.states, state.id < table.nextId

/-- The retailer has states, and all of them are shut. -/
structure Off (retailerId : Nat) (table : ConnectorTable) : Prop where
  known : ∃ state ∈ table.states, state.retailerId = retailerId
  shut : ∀ state ∈ table.states, state.retailerId = retailerId → state.Shut

theorem ConnectorTable.Keyed.add (h : table.Keyed) : (table.add state).Keyed := by
  refine ⟨?_, fun s hs => ?_⟩
  · unfold ConnectorTable.add
    rw [List.map_append, List.nodup_append]
    refine ⟨h.unique, List.nodup_singleton _, ?_⟩
    rintro id hid id' hid' rfl
    obtain ⟨s, hs, rfl⟩ := List.mem_map.mp hid
    exact absurd (List.mem_singleton.mp hid') (h.fresh s hs).ne
  · rcases List.mem_append.mp hs with hs | hs
    · exact Nat.lt_succ_of_lt (h.fresh s hs)
    · rw [List.mem_singleton.mp hs]
      exact Nat.lt_succ_self _

theorem ConnectorTable.Keyed.write {f : ConnectorState → ConnectorState} (h : table.Keyed) (hf : ∀ s, (f s).id = s.id)
    (id : Nat) : (table.write id f).Keyed := by
  have hkeep : ∀ s : ConnectorState, (if s.id = id then f s else s).id = s.id := by
    intro s
    split
    · exact hf s
    · rfl
  refine ⟨?_, fun s hs => ?_⟩
  · have hids : (table.write id f).states.map (·.id) = table.states.map (·.id) := by
      unfold ConnectorTable.write updateAt
      rw [List.map_map]
      exact List.map_congr_left fun s _ => hkeep s
    exact hids ▸ h.unique
  · obtain ⟨s₀, hs₀, rfl⟩ := List.mem_map.mp hs
    exact (hkeep s₀).symm ▸ h.fresh s₀ hs₀

theorem Off.add (h : Off retailerId table) (hstate : state.retailerId = retailerId → state.Shut) :
    Off retailerId (table.add state) := by
  obtain ⟨known, hknown, hretailer⟩ := h.known
  refine ⟨⟨known, List.mem_append_left _ hknown, hretailer⟩, fun s hs => ?_⟩
  rcases List.mem_append.mp hs with hs | hs
  · exact h.shut s hs
  · rw [List.mem_singleton.mp hs]
    exact hstate

/-- A write to a state of another retailer, or one that shuts the state, leaves the retailer off. -/
theorem Off.write {f : ConnectorState → ConnectorState} (h : Off retailerId table) {id : Nat}
    (hf : ∀ s, (f s).retailerId = s.retailerId)
    (hshut : ∀ s ∈ table.states, s.id = id → s.retailerId = retailerId → (f s).Shut) :
    Off retailerId (table.write id f) := by
  obtain ⟨known, hknown, hretailer⟩ := h.known
  refine ⟨⟨_, List.mem_map_of_mem hknown, ?_⟩, fun s hs => ?_⟩
  · split
    · rw [hf, hretailer]
    · exact hretailer
  · obtain ⟨s₀, hs₀, rfl⟩ := List.mem_map.mp hs
    split
    · next hid => exact fun hr => hshut s₀ hs₀ hid (hf s₀ ▸ hr)
    · exact h.shut s₀ hs₀

/-- A state of another retailer is under an id of its own. -/
theorem ConnectorTable.Keyed.other (h : table.Keyed) (hstate : state ∈ table.states) (hne : state.retailerId ≠ retailerId) :
    ∀ s ∈ table.states, s.id = state.id → s.retailerId ≠ retailerId := by
  intro s hs hid
  rwa [List.inj_on_of_nodup_map h.unique hs hstate hid]

theorem getOrCreateState_cases (table : ConnectorTable) (run : CrawlRun) (now : Instant) :
    (∃ state ∈ table.states, state.retailerId = run.retailerId ∧ table.getOrCreateState run now = (table, state.id)) ∨
    ∃ state : ConnectorState, state.retailerId = run.retailerId ∧
      table.getOrCreateState run now = (table.add state, table.nextId) := by
  unfold ConnectorTable.getOrCreateState
  split
  · next state hfind =>
    refine Or.inl ⟨state, List.mem_of_find?_eq_some hfind, ?_, rfl⟩
    have hsame := List.find?_some hfind
    simp only [Bool.and_eq_true, decide_eq_true_iff] at hsame
    exact hsame.1.1
  · exact Or.inr ⟨_, rfl, rfl⟩

variable (retailerId) in
/-- What the recording of an outcome comes to: a state of the retailer of the run is there, and is written. -/
theorem getOrCreateState_spec (h : table.Keyed) (run : CrawlRun) (now : Instant) :
    (table.getOrCreateState run now).1.Keyed ∧
      (∃ state ∈ (table.getOrCreateState run now).1.states, state.id = (table.getOrCreateState run now).2 ∧
        state.retailerId = run.retailerId) ∧
      (run.retailerId ≠ retailerId → Off retailerId table → Off retailerId (table.getOrCreateState run now).1) := by
  rcases getOrCreateState_cases table run now with ⟨state, hstate, hretailer, heq⟩ | ⟨state, hretailer, heq⟩
  · rw [heq]
    exact ⟨h, ⟨state, hstate, rfl, hretailer⟩, fun _ => id⟩
  · rw [heq]
    exact ⟨h.add, ⟨_, List.mem_append_right _ (List.mem_singleton_self _), rfl, hretailer⟩,
      fun hne hoff => hoff.add fun hr => absurd (hretailer.symm.trans hr) hne⟩

theorem getOrCreateRetailerState_cases (table : ConnectorTable) (retailerId : Nat) (version : Option String) (now : Instant) :
    (∃ state ∈ table.states, state.retailerId = retailerId ∧ table.latestState retailerId = some state ∧
      table.getOrCreateRetailerState retailerId version now = (table, state)) ∨
    ∃ state : ConnectorState, state.id = table.nextId ∧ state.retailerId = retailerId ∧ state.status = .disabled ∧
      table.latestState retailerId = none ∧
      table.getOrCreateRetailerState retailerId version now = (table.add state, state) := by
  unfold ConnectorTable.getOrCreateRetailerState
  split
  · next state hlatest =>
    obtain ⟨hstate, hretailer⟩ := List.mem_filter.mp (Selection.first_mem hlatest)
    rw [Bool.and_eq_true, decide_eq_true_iff] at hretailer
    exact Or.inl ⟨state, hstate, hretailer.1, hlatest, rfl⟩
  · next hlatest => exact Or.inr ⟨_, rfl, rfl, rfl, hlatest, rfl⟩

variable (retailerId) (now) in
theorem recorded_spec {f : ConnectorState → ConnectorState} (h : table.Keyed) (hid : ∀ s, (f s).id = s.id)
    (hretailer : ∀ s, (f s).retailerId = s.retailerId) (run : CrawlRun) :
    ((table.getOrCreateState run now).1.write (table.getOrCreateState run now).2 f).Keyed ∧
      (run.retailerId ≠ retailerId → Off retailerId table →
        Off retailerId ((table.getOrCreateState run now).1.write (table.getOrCreateState run now).2 f)) := by
  obtain ⟨hkeyed, ⟨state, hstate, hstateId, hsame⟩, hoff⟩ := getOrCreateState_spec retailerId h run now
  refine ⟨hkeyed.write hid _, fun hne h => (hoff hne h).write hretailer fun s hs hsid hr => ?_⟩
  exact absurd hr (hkeyed.other hstate (hsame ▸ hne) s hs (hsid.trans hstateId.symm))

theorem failed_keeps (circuit : CircuitConfig) (s : ConnectorState) :
    (s.failed circuit now).id = s.id ∧ (s.failed circuit now).retailerId = s.retailerId := by
  unfold ConnectorState.failed
  dsimp only
  split
  · exact ⟨rfl, rfl⟩
  · exact ⟨rfl, rfl⟩

variable (retailerId) in
theorem outcome_spec {db : CrawlDb} (h : db.connectors.Keyed) (circuit : CircuitConfig) (runId : Nat) (ok : Bool)
    (now : Instant) :
    (db.outcome circuit runId ok now).Keyed ∧
      ((∀ run, db.runs.find? (·.id = runId) = some run → run.retailerId ≠ retailerId) → Off retailerId db.connectors →
        Off retailerId (db.outcome circuit runId ok now)) := by
  unfold CrawlDb.outcome
  cases hrun : db.runs.find? (·.id = runId) with
  | none => exact ⟨h, fun _ => id⟩
  | some run =>
    dsimp only
    split
    · obtain ⟨hkeyed, hoff⟩ := recorded_spec retailerId now (f := ConnectorState.succeeded now)
        h (fun _ => rfl) (fun _ => rfl) run
      exact ⟨hkeyed, fun hother => hoff (hother run rfl)⟩
    · obtain ⟨hkeyed, hoff⟩ := recorded_spec retailerId now h
        (fun s => (failed_keeps circuit s).1) (fun s => (failed_keeps circuit s).2) run
      exact ⟨hkeyed, fun hother => hoff (hother run rfl)⟩

variable (retailerId) in
theorem getOrCreateRetailerState_spec (h : table.Keyed) (id : Nat) (version : Option String) (now : Instant) :
    (table.getOrCreateRetailerState id version now).1.Keyed ∧
      (table.getOrCreateRetailerState id version now).2 ∈ (table.getOrCreateRetailerState id version now).1.states ∧
      (table.getOrCreateRetailerState id version now).2.retailerId = id ∧
      (Off retailerId table → Off retailerId (table.getOrCreateRetailerState id version now).1) := by
  rcases getOrCreateRetailerState_cases table id version now with
    ⟨state, hstate, hretailer, -, heq⟩ | ⟨state, hid, hretailer, hstatus, -, heq⟩
  · rw [heq]
    exact ⟨h, hstate, hretailer, fun hoff => hoff⟩
  · rw [heq]
    refine ⟨h.add, List.mem_append_right _ (List.mem_singleton.mpr ?_), hretailer, fun hoff => hoff.add fun _ => Or.inl hstatus⟩
    rw [← hid]

variable (retailerId) in
theorem enable_spec (h : table.Keyed) (id : Nat) (version : Option String) (legalBlocked : Bool) (now : Instant) :
    (table.enable id version legalBlocked now).Keyed ∧
      (id ≠ retailerId → Off retailerId table → Off retailerId (table.enable id version legalBlocked now)) := by
  obtain ⟨hkeyed, hstate, hretailer, hoff⟩ := getOrCreateRetailerState_spec retailerId h id version now
  unfold ConnectorTable.enable
  split
  · exact ⟨h, fun _ h => h⟩
  · dsimp only
    split
    · exact ⟨hkeyed, fun _ => hoff⟩
    · refine ⟨hkeyed.write (setStatus_id _ _) _, fun hne h => ?_⟩
      refine (hoff h).write (setStatus_retailerId _ _) fun s hs hid hr => ?_
      exact absurd hr (hkeyed.other hstate (hretailer.trans_ne hne) s hs hid)

theorem enable_refused {legalBlocked : Bool} {version : Option String}
    (h : legalBlocked = true ∨ ∃ state, table.latestState retailerId = some state ∧ state.status = .unsupported) :
    table.enable retailerId version legalBlocked now = table := by
  unfold ConnectorTable.enable ConnectorTable.getOrCreateRetailerState
  rcases h with rfl | ⟨state, hlatest, hstatus⟩
  · rfl
  · rw [hlatest]
    simp [hstatus]

variable (retailerId) in
theorem disable_spec (h : table.Keyed) (id : Nat) (version : Option String) (now : Instant) :
    (table.disable id version now).Keyed ∧ (Off retailerId table → Off retailerId (table.disable id version now)) := by
  obtain ⟨hkeyed, -, -, hoff⟩ := getOrCreateRetailerState_spec retailerId h id version now
  unfold ConnectorTable.disable
  dsimp only
  split
  · exact ⟨hkeyed, hoff⟩
  · refine ⟨hkeyed.write (setStatus_id _ _) _, fun h => ?_⟩
    exact (hoff h).write (setStatus_retailerId _ _) fun _ _ _ _ => Or.inl rfl

theorem off_disable {version : Option String} (h : table.Keyed)
    (hothers : ∀ s ∈ table.states, s.retailerId = retailerId →
      (table.latestState retailerId).map (·.id) = some s.id ∨ s.Shut) :
    Off retailerId (table.disable retailerId version now) := by
  unfold ConnectorTable.disable
  rcases getOrCreateRetailerState_cases table retailerId version now with
    ⟨state, hstate, hretailer, hlatest, heq⟩ | ⟨state, hid, hretailer, hstatus, hlatest, heq⟩
  · rw [hlatest, Option.map_some] at hothers
    have hown : ∀ s ∈ table.states, s.id = state.id → s = state := fun s hs hid =>
      List.inj_on_of_nodup_map h.unique hs hstate hid
    rw [heq]
    dsimp only
    split
    · next hdisabled =>
      refine ⟨⟨state, hstate, hretailer⟩, fun s hs hr => ?_⟩
      rcases hothers s hs hr with hid | hshut
      · exact Or.inl (hown s hs (Option.some.inj hid).symm ▸ hdisabled)
      · exact hshut
    · refine ⟨⟨_, List.mem_map_of_mem hstate, ?_⟩, fun s hs hr => ?_⟩
      · rw [if_pos rfl]
        exact hretailer
      · obtain ⟨s₀, hs₀, rfl⟩ := List.mem_map.mp hs
        by_cases hid : s₀.id = state.id
        · rw [if_pos hid]
          exact Or.inl rfl
        · rw [if_neg hid] at hr ⊢
          exact (hothers s₀ hs₀ hr).resolve_left fun h => hid (Option.some.inj h).symm
  · rw [hlatest] at hothers
    rw [heq]
    dsimp only
    rw [if_pos hstatus]
    refine ⟨⟨_, List.mem_append_right _ (List.mem_singleton_self _), hretailer⟩, fun s hs hr => ?_⟩
    rcases List.mem_append.mp hs with hs | hs
    · exact (hothers s hs hr).resolve_left fun hnone => by cases hnone
    · rw [List.mem_singleton.mp hs]
      exact Or.inl hstatus

end Table
/-! ### Runs -/

/-- The event turns the connector of the retailer off. -/
def SchedulerEvent.TurnsOff (retailerId : Nat) (db : CrawlDb) : SchedulerEvent → Prop
  | .disable chain _ _ => chain.id = retailerId
  | .unsupported stateId _ => ∃ state ∈ db.connectors.states, state.id = stateId ∧ state.retailerId = retailerId
  | _ => False

/-- An enabling of the retailer that is not refused. -/
def SchedulerEvent.Enables (retailerId : Nat) (db : CrawlDb) : SchedulerEvent → Prop
  | .enable chain _ legalBlocked _ => chain.id = retailerId ∧ legalBlocked = false ∧
      ∀ state, db.connectors.latestState retailerId = some state → state.status ≠ .unsupported
  | _ => False

/-- The outcome of a crawl of the retailer. -/
def SchedulerEvent.Records (retailerId : Nat) (db : CrawlDb) : SchedulerEvent → Prop
  | .outcome _ runId _ _ => ∃ run, db.runs.find? (·.id = runId) = some run ∧ run.retailerId = retailerId
  | _ => False

/-- The id of the state that turns off. -/
def SchedulerEvent.target? (db : CrawlDb) : SchedulerEvent → Option Nat
  | .disable chain _ _ => (db.connectors.latestState chain.id).map (·.id)
  | .unsupported stateId _ => some stateId
  | _ => none

/-- The other states of the retailer are shut. -/
def SchedulerEvent.OthersShut (retailerId : Nat) (db : CrawlDb) (ev : SchedulerEvent) : Prop :=
  ∀ state ∈ db.connectors.states, state.retailerId = retailerId → ev.target? db = some state.id ∨ state.Shut

/-- `ev` has turned the retailer off, and nothing since has enabled it. -/
def OffSince (retailerId : Nat) (pre : List SchedulerEvent) (ev : SchedulerEvent) (mid : List SchedulerEvent) : Prop :=
  ev.TurnsOff retailerId (after pre) ∧
    ∀ since next, since ++ [next] <+: mid → ¬next.Enables retailerId (after (pre ++ ev :: since))

/-- No state of the retailer is active, and a daily call makes no run for it. -/
structure IsOff (retailerId : Nat) (events : List SchedulerEvent) : Prop where
  inactive : ∀ state ∈ (after events).connectors.states, state.retailerId = retailerId → state.status ≠ .active
  unscheduled : ∀ config now clock lock, ∀ run ∈ added events (.daily config now clock lock), run.retailerId ≠ retailerId

def StaysOff (retailerId : Nat) (events : List SchedulerEvent) : Prop :=
  ∀ pre ev mid, pre ++ ev :: mid <+: events → OffSince retailerId pre ev mid → IsOff retailerId (pre ++ ev :: mid)

section Runs
variable {retailerId : Nat} {db : CrawlDb} {ev : SchedulerEvent}

theorem connectors_of_pass {pass : Pass} (h : ev.pass? db = some pass) : (db.step ev).connectors = db.connectors := by
  rw [step_of_pass h]
  exact (samePlan_foldl pass.now pass.clock pass.force db pass.slots).connectors

theorem keyed_step (h : db.connectors.Keyed) (ev : SchedulerEvent) : (db.step ev).connectors.Keyed := by
  cases hpass : ev.pass? db with
  | some pass => exact connectors_of_pass hpass ▸ h
  | none =>
    cases ev with
    | daily => cases hpass
    | retailer => cases hpass
    | store => cases hpass
    | runOutcome => exact h
    | jobOutcome => exact h
    | outcome circuit runId ok now => exact (outcome_spec 0 h circuit runId ok now).1
    | enable chain version legalBlocked now => exact (enable_spec 0 h chain.id version legalBlocked now).1
    | disable chain version now => exact (disable_spec 0 h chain.id version now).1
    | unsupported stateId now => exact h.write (setStatus_id _ _) _
    | catalogue => exact h

theorem keyed_after (events : List SchedulerEvent) : (after events).connectors.Keyed :=
  Runs.foldl_induction (I := fun db : CrawlDb => db.connectors.Keyed) (fun _ h ev _ => keyed_step h ev)
    ⟨List.nodup_nil, by intro _ h; cases h⟩

theorem Off.step (hkeyed : db.connectors.Keyed) (h : Off retailerId db.connectors) (henables : ¬ev.Enables retailerId db)
    (hrecords : ¬ev.Records retailerId db) : Off retailerId (db.step ev).connectors := by
  cases hpass : ev.pass? db with
  | some pass => exact connectors_of_pass hpass ▸ h
  | none =>
    cases ev with
    | daily => cases hpass
    | retailer => cases hpass
    | store => cases hpass
    | runOutcome => exact h
    | jobOutcome => exact h
    | outcome circuit runId ok now =>
      exact (outcome_spec _ hkeyed circuit runId ok now).2 (fun run hrun hr => hrecords ⟨run, hrun, hr⟩) h
    | enable chain version legalBlocked now =>
      by_cases hchain : chain.id = retailerId
      · have hrefused : db.connectors.enable chain.id version legalBlocked now = db.connectors := by
          rw [hchain]
          refine enable_refused (or_iff_not_imp_left.mpr fun hlegal => ?_)
          by_contra hnone
          exact henables ⟨hchain, Bool.eq_false_iff.mpr hlegal, fun state hlatest hstatus =>
            hnone ⟨state, hlatest, hstatus⟩⟩
        show Off retailerId (db.connectors.enable chain.id version legalBlocked now)
        rw [hrefused]
        exact h
      · exact (enable_spec _ hkeyed chain.id version legalBlocked now).2 hchain h
    | disable chain version now => exact (disable_spec _ hkeyed chain.id version now).2 h
    | unsupported stateId now => exact h.write (setStatus_retailerId _ _) fun _ _ _ _ => Or.inr rfl
    | catalogue => exact h

theorem off_of_turnsOff (hkeyed : db.connectors.Keyed) (hoff : ev.TurnsOff retailerId db)
    (hothers : ev.OthersShut retailerId db) : Off retailerId (db.step ev).connectors := by
  cases ev with
  | disable chain version now =>
    obtain rfl := hoff
    exact off_disable hkeyed hothers
  | unsupported stateId now =>
    obtain ⟨state, hstate, hid, hretailer⟩ := hoff
    refine ⟨⟨_, List.mem_map_of_mem hstate, ?_⟩, fun s hs hr => ?_⟩
    · rw [if_pos hid]
      exact hretailer
    · obtain ⟨s₀, hs₀, rfl⟩ := List.mem_map.mp hs
      by_cases hid₀ : s₀.id = stateId
      · rw [if_pos hid₀]
        exact Or.inr rfl
      · rw [if_neg hid₀] at hr ⊢
        exact (hothers s₀ hs₀ hr).resolve_left fun h => hid₀ (Option.some.inj h).symm
  | _ => cases hoff

theorem Off.blocked (h : Off retailerId db.connectors) (now : Instant) : connectorBlocked db retailerId now = true := by
  obtain ⟨state, hstate, hretailer⟩ := h.known
  unfold connectorBlocked
  rw [Bool.and_eq_true, List.all_eq_true]
  refine ⟨?_, fun s hs => ?_⟩
  · rw [Bool.not_eq_true', List.isEmpty_eq_false_iff_exists_mem]
    exact ⟨state, List.mem_filter.mpr ⟨hstate, decide_eq_true hretailer⟩⟩
  · obtain ⟨hs, hr⟩ := List.mem_filter.mp hs
    rcases h.shut s hs (of_decide_eq_true hr) with hshut | hshut
    · simp [ConnectorState.usable, hshut]
    · simp [ConnectorState.usable, hshut]

theorem dailySlots_retailer {config : SchedulerConfig} {now : Instant} {slot : Slot}
    (hblocked : connectorBlocked db retailerId now = true) (h : slot ∈ dailySlots config now db) :
    slot.retailer.id ≠ retailerId := by
  obtain ⟨chain, -, hslot⟩ := List.mem_flatMap.mp h
  split at hslot
  · cases hslot
  · next hfree =>
    rw [retailerSlots_retailer hslot]
    intro hchain
    exact hfree (hchain ▸ hblocked)

theorem isOff_of_off {events : List SchedulerEvent} (h : Off retailerId (after events).connectors) :
    IsOff retailerId events := by
  refine ⟨fun state hstate hretailer hactive => ?_, fun config now clock lock run hrun => ?_⟩
  · rcases h.shut state hstate hretailer with hshut | hshut
    · rw [hactive] at hshut
      cases hshut
    · rw [hactive] at hshut
      cases hshut
  · unfold added at hrun
    rw [after_concat rfl] at hrun
    obtain ⟨-, -, slot, hslot, hcovers, -⟩ := (grown_run _ _).of_mem_drop hrun
    cases lock with
    | false => cases hslot
    | true => exact hcovers.1 ▸ dailySlots_retailer (h.blocked now) hslot

theorem after_snoc (pre : List SchedulerEvent) (ev : SchedulerEvent) : after (pre ++ [ev]) = (after pre).step ev := by
  unfold after
  rw [List.foldl_append]
  rfl

theorem off_since {pre mid : List SchedulerEvent} (hoff : OffSince retailerId pre ev mid)
    (hothers : ev.OthersShut retailerId (after pre))
    (hrecords : ∀ since next, since ++ [next] <+: mid → ¬next.Records retailerId (after (pre ++ ev :: since))) :
    Off retailerId (after (pre ++ ev :: mid)).connectors := by
  induction mid using List.reverseRecOn with
  | nil =>
    rw [after_snoc]
    exact off_of_turnsOff (keyed_after pre) hoff.1 hothers
  | append_singleton mid next ih =>
    have hold : ∀ since e, since ++ [e] <+: mid → since ++ [e] <+: mid ++ [next] := fun since e h =>
      h.trans (List.prefix_append _ _)
    have hmid := ih ⟨hoff.1, fun since e h => hoff.2 since e (hold since e h)⟩ fun since e h => hrecords since e (hold since e h)
    have hsplit : pre ++ ev :: (mid ++ [next]) = (pre ++ ev :: mid) ++ [next] := by simp
    rw [hsplit, after_snoc]
    exact hmid.step (keyed_after _) (hoff.2 mid next List.prefix_rfl) (hrecords mid next List.prefix_rfl)

/-- A retailer stays off when nothing of it was left on, and no crawl of it ends before an admin enables it. -/
theorem staysOff_of_alone {retailerId : Nat} {events : List SchedulerEvent}
    (hothers : ∀ pre ev, pre ++ [ev] <+: events → ev.TurnsOff retailerId (after pre) → ev.OthersShut retailerId (after pre))
    (hrecords : ∀ pre ev mid next, pre ++ ev :: (mid ++ [next]) <+: events → OffSince retailerId pre ev mid →
      ¬next.Records retailerId (after (pre ++ ev :: mid))) :
    StaysOff retailerId events := by
  intro pre ev mid hprefix hoff
  refine isOff_of_off (off_since hoff (hothers pre ev ?_ hoff.1) fun since next hsince => ?_)
  · have hfirst : pre ++ [ev] <+: pre ++ ev :: mid := (List.prefix_append_right_inj pre).mpr ⟨mid, rfl⟩
    exact hfirst.trans hprefix
  · have hpart : pre ++ ev :: (since ++ [next]) <+: pre ++ ev :: mid :=
      (List.prefix_append_right_inj pre).mpr ((List.prefix_cons_inj ev).mpr hsince)
    refine hrecords pre ev since next (hpart.trans hprefix) ⟨hoff.1, fun s e hs => hoff.2 s e ?_⟩
    exact hs.trans ((List.prefix_append since [next]).trans hsince)

end Runs

/-! ### A job that was claimed before the disabling -/

section Examples

/-- Two chains are crawled, and one of them is disabled at noon. -/
def disabledAtNoon : List SchedulerEvent :=
  [.catalogue [consum, dia] [], dailyAt 739621 6, .disable consum none (atHour 739621 12), dailyAt 739622 6]

theorem staysOff_disabledAtNoon : StaysOff 2 disabledAtNoon ∧ (after disabledAtNoon).runs.length = 6 := by
  refine ⟨staysOff_of_alone (fun pre ev hprefix hoff => ?_) fun pre ev mid next hprefix _ => ?_, by decide⟩
  · obtain ⟨post, hsplit⟩ := hprefix
    rcases pre with _ | ⟨first, _ | ⟨second, _ | ⟨third, _ | ⟨fourth, pre⟩⟩⟩⟩
    · obtain rfl := (List.cons.inj hsplit).1
      cases hoff
    · obtain rfl := (List.cons.inj (List.cons.inj hsplit).2).1
      cases hoff
    · -- The chain that is disabled has no state yet.
      obtain ⟨rfl, hsecond⟩ := List.cons.inj hsplit
      obtain ⟨rfl, hthird⟩ := List.cons.inj hsecond
      obtain rfl := (List.cons.inj hthird).1
      intro state hstate
      have hnone : (after [.catalogue [consum, dia] [], dailyAt 739621 6]).connectors.states = [] := by decide
      rw [hnone] at hstate
      cases hstate
    · obtain rfl := (List.cons.inj (List.cons.inj (List.cons.inj (List.cons.inj hsplit).2).2).2).1
      cases hoff
    · simp [disabledAtNoon] at hsplit
  · have hnext : next ∈ disabledAtNoon := hprefix.subset (by simp)
    simp only [disabledAtNoon, List.mem_cons, List.not_mem_nil, or_false] at hnext
    rcases hnext with rfl | rfl | rfl | rfl
    all_goals exact id

/-- A crawl of the morning ends after the disabling: its connector is active again, and the chain is crawled. -/
theorem not_staysOff_lateOutcome :
    ¬StaysOff 2 (disabledAtNoon ++ [.outcome {} 3 true (atHour 739622 7)]) := by
  intro h
  have hoff := h [.catalogue [consum, dia] [], dailyAt 739621 6] (.disable consum none (atHour 739621 12))
    [dailyAt 739622 6, .outcome {} 3 true (atHour 739622 7)] List.prefix_rfl ⟨rfl, fun since next hsince => ?_⟩
  · have hinactive := hoff.inactive
    revert hinactive
    decide
  · have hnext := hsince.subset (List.mem_append_right since (List.mem_singleton_self next))
    simp only [List.mem_cons, List.not_mem_nil, or_false] at hnext
    rcases hnext with rfl | rfl
    all_goals exact id

end Examples
end CestaPlan.Jobs
