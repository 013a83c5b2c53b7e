import CestaPlan.History.Chain

/-! The logical rollback of a sync run (`services/price_rollback.py`), and what it does to the chains.

    A rollback withdraws the rows that a run created and opens again the rows that it closed. It opens them
    without looking at what the lane holds by then: where another live row follows, two intervals overlap. -/

namespace CestaPlan.History
open Anchors

structure RollbackReport where
  runId : String
  reopened : Nat := 0
  invalidated : Nat := 0
  alreadyRolledBack : Bool := false
deriving DecidableEq, Repr

/-- A row that the run had closed is open again. -/
def PriceObservation.reopen (runId : Int) (r : PriceObservation) : PriceObservation :=
  if r.closedByRunId = some runId then { r with validUntil := none, closedByRunId := none } else r

/-- The rollback withdraws the row: the run created it, and it was not withdrawn before. -/
def PriceObservation.withdrawn (runId : Int) (force : Bool) (r : PriceObservation) : Bool :=
  r.crawlRunId = some runId && (r.rolledBackAt.isNone || force)

/-- A row that the run created is marked, and closed when it was open. -/
def PriceObservation.withdraw (runId : Int) (actorUserId : Option Int) (force : Bool) (now : Instant)
    (r : PriceObservation) : PriceObservation :=
  if r.withdrawn runId force then
    { r with rolledBackAt := some now, rolledBackBy := actorUserId, validUntil := r.validUntil <|> some r.validFrom }
  else r

def alreadyRolledBack (db : Db) (runId : Int) (force : Bool) : Bool :=
  let created := db.observations.filter (·.crawlRunId = some runId)
  !created.isEmpty && created.all (·.rolledBackAt.isSome) && !force

def rollbackSync (db : Db) (runPublicId : String) (actorUserId : Option Int) (force : Bool) (now : Instant) :
    Except String (Db × RollbackReport) :=
  match db.crawlRuns.find? (·.publicId = runPublicId) with
  | none => .error s!"unknown run {runPublicId}"
  | some run =>
    if alreadyRolledBack db run.id force then .ok (db, { runId := run.publicId, alreadyRolledBack := true })
    else .ok
      ({ db with observations := db.observations.map fun r => (r.reopen run.id).withdraw run.id actorUserId force now },
        { runId := run.publicId
          reopened := (db.observations.filter (·.closedByRunId = some run.id)).length
          invalidated := (db.observations.filter (·.withdrawn run.id force)).length })

/-- The tables after a rollback; an unknown run changes nothing. -/
def Db.rollback (db : Db) (runPublicId : String) (actorUserId : Option Int) (force : Bool) (now : Instant) : Db :=
  match rollbackSync db runPublicId actorUserId force now with
  | .ok (db', _) => db'
  | .error _ => db

/-! ### What stays live -/

section Rows
variable {db : Db} {lane : Lane} {runId : Int} {actorUserId : Option Int} {force : Bool} {now : Instant}
  {r : PriceObservation} {rows : List PriceObservation}

@[simp] theorem PriceObservation.reopen_toPriceFact : (r.reopen runId).toPriceFact = r.toPriceFact := by
  unfold PriceObservation.reopen; split <;> rfl

@[simp] theorem PriceObservation.reopen_id : (r.reopen runId).id = r.id := by
  unfold PriceObservation.reopen; split <;> rfl

@[simp] theorem PriceObservation.reopen_lane : (r.reopen runId).lane = r.lane := by
  unfold PriceObservation.reopen; split <;> rfl

@[simp] theorem PriceObservation.reopen_validFrom : (r.reopen runId).validFrom = r.validFrom := by
  unfold PriceObservation.reopen; split <;> rfl

@[simp] theorem PriceObservation.reopen_crawlRunId : (r.reopen runId).crawlRunId = r.crawlRunId := by
  unfold PriceObservation.reopen; split <;> rfl

@[simp] theorem PriceObservation.reopen_rolledBackAt : (r.reopen runId).rolledBackAt = r.rolledBackAt := by
  unfold PriceObservation.reopen; split <;> rfl

@[simp] theorem PriceObservation.reopen_verificationStatus :
    (r.reopen runId).verificationStatus = r.verificationStatus := by
  unfold PriceObservation.reopen; split <;> rfl

@[simp] theorem PriceObservation.reopen_isDisputed : (r.reopen runId).isDisputed = r.isDisputed := by
  simp [PriceObservation.isDisputed]

theorem PriceObservation.reopen_of_ne (h : r.closedByRunId ≠ some runId) : r.reopen runId = r := if_neg h

theorem PriceObservation.reopen_validUntil (h : r.closedByRunId = some runId) : (r.reopen runId).validUntil = none := by
  unfold PriceObservation.reopen
  rw [if_pos h]

theorem PriceObservation.withdraw_lane : (r.withdraw runId actorUserId force now).lane = r.lane := by
  unfold PriceObservation.withdraw; split <;> rfl

theorem PriceObservation.withdraw_live (h : r.rolledBackAt = none) :
    (r.withdraw runId actorUserId force now).rolledBackAt = none ↔ r.crawlRunId ≠ some runId := by
  unfold PriceObservation.withdraw PriceObservation.withdrawn
  by_cases hc : r.crawlRunId = some runId <;> simp [h, hc]

def Db.undo (db : Db) (runId : Int) (actorUserId : Option Int) (force : Bool) (now : Instant) : Db :=
  { db with observations := db.observations.map fun r => (r.reopen runId).withdraw runId actorUserId force now }

/-- The live rows after a rollback: those that the run did not create, open again where the run had closed them. -/
theorem Db.live_undo : (db.undo runId actorUserId force now).live lane =
    ((db.live lane).filter (·.crawlRunId ≠ some runId)).map (·.reopen runId) := by
  simp only [Db.live, Db.undo, List.filter_map, List.filter_filter]
  have hpred : (fun r : PriceObservation => decide (r.lane = lane) && r.rolledBackAt.isNone) ∘
      (fun r : PriceObservation => (r.reopen runId).withdraw runId actorUserId force now) =
      fun r : PriceObservation => decide (r.crawlRunId ≠ some runId) && (decide (r.lane = lane) && r.rolledBackAt.isNone) := by
    funext r
    rw [Bool.eq_iff_iff]
    simp only [Function.comp_apply, PriceObservation.withdraw_lane, PriceObservation.reopen_lane, Bool.and_eq_true,
      decide_eq_true_eq, Option.isNone_iff_eq_none]
    by_cases hr : r.rolledBackAt = none
    · rw [PriceObservation.withdraw_live (by simpa using hr)]
      simp [hr, and_comm]
    · have : ((r.reopen runId).withdraw runId actorUserId force now).rolledBackAt ≠ none := by
        unfold PriceObservation.withdraw
        split <;> simp [hr]
      simp [hr, this]
  rw [hpred]
  refine List.map_congr_left fun r hr => ?_
  have hr := (List.mem_filter.mp hr).2
  simp only [Bool.and_eq_true, decide_eq_true_eq] at hr
  unfold PriceObservation.withdraw PriceObservation.withdrawn
  rw [if_neg]
  simp [hr.1]

end Rows

section Cases
variable {db : Db} {run : CrawlRun} {runPublicId : String} {actorUserId : Option Int} {force : Bool} {now : Instant}

theorem rollback_of_run (hrun : db.crawlRuns.find? (·.publicId = runPublicId) = some run)
    (halready : alreadyRolledBack db run.id force = false) :
    db.rollback runPublicId actorUserId force now = db.undo run.id actorUserId force now := by
  simp [Db.rollback, rollbackSync, hrun, halready, Db.undo]

theorem rollback_cases (db : Db) (runPublicId : String) (actorUserId : Option Int) (force : Bool) (now : Instant) :
    db.rollback runPublicId actorUserId force now = db ∨
    ∃ run, db.crawlRuns.find? (·.publicId = runPublicId) = some run ∧ alreadyRolledBack db run.id force = false ∧
      db.rollback runPublicId actorUserId force now = db.undo run.id actorUserId force now := by
  cases hrun : db.crawlRuns.find? (·.publicId = runPublicId) with
  | none => exact Or.inl (by simp [Db.rollback, rollbackSync, hrun])
  | some run =>
    cases halready : alreadyRolledBack db run.id force with
    | true => exact Or.inl (by simp [Db.rollback, rollbackSync, hrun, halready])
    | false => exact Or.inr ⟨run, rfl, halready, rollback_of_run hrun halready⟩

end Cases

/-! ### The chains after a rollback -/

section Chains
variable {db : Db} {lane : Lane} {runId : Int} {actorUserId : Option Int} {force : Bool} {now : Instant}
  {rows : List PriceObservation}

theorem Chained.filter (h : Chained rows) {p : PriceObservation → Bool} : Chained (rows.filter p) := by
  have hactive : ∀ a ∈ activeRows (rows.filter p), a ∈ activeRows rows := by
    intro a ha
    obtain ⟨hmem, hdis⟩ := mem_activeRows.mp ha
    exact mem_activeRows.mpr ⟨(List.mem_filter.mp hmem).1, hdis⟩
  refine ⟨h.alone.filter _, fun a ha b hb hlt => ?_, fun r hr => h.positive r (hactive r hr), fun d hd => ?_⟩
  · exact h.chained a (hactive a ha) b (List.mem_filter.mp hb).1 hlt
  · obtain ⟨hmem, hdis⟩ := mem_disputedRows.mp hd
    exact h.empty d (mem_disputedRows.mpr ⟨(List.mem_filter.mp hmem).1, hdis⟩)

/-- Each row that the run closed is an active one with no row of the lane after it. -/
def ClosedLast (runId : Int) (rows : List PriceObservation) : Prop :=
  ∀ r ∈ rows, r.closedByRunId = some runId → r.isDisputed = false ∧ ∀ s ∈ rows, s.validFrom ≤ r.validFrom

theorem reopen_cases (runId : Int) (r : PriceObservation) :
    (r.closedByRunId ≠ some runId ∧ r.reopen runId = r) ∨
      (r.closedByRunId = some runId ∧ (r.reopen runId).validUntil = none) := by
  by_cases h : r.closedByRunId = some runId
  · exact Or.inr ⟨h, r.reopen_validUntil h⟩
  · exact Or.inl ⟨h, r.reopen_of_ne h⟩

theorem Chained.reopen (h : Chained rows) (hlast : ClosedLast runId rows) : Chained (rows.map (·.reopen runId)) := by
  refine ⟨?_, fun a ha b hb hlt => ?_, fun a ha u hu => ?_, fun d hd => ?_⟩
  · rw [List.pairwise_map]
    exact h.alone.imp fun hab heq => by simpa using hab (by simpa using heq)
  · obtain ⟨hmem, hdis⟩ := mem_activeRows.mp ha
    obtain ⟨r, hr, rfl⟩ := List.mem_map.mp hmem
    obtain ⟨s, hs, rfl⟩ := List.mem_map.mp hb
    simp only [PriceObservation.reopen_isDisputed, PriceObservation.reopen_validFrom] at hdis hlt ⊢
    rcases reopen_cases runId r with ⟨-, heq⟩ | ⟨hclosed, -⟩
    · rw [heq]
      exact h.chained r (mem_activeRows.mpr ⟨hr, hdis⟩) s hs hlt
    · exact absurd hlt (not_lt_of_ge ((hlast r hr hclosed).2 s hs))
  · obtain ⟨hmem, hdis⟩ := mem_activeRows.mp ha
    obtain ⟨r, hr, rfl⟩ := List.mem_map.mp hmem
    rcases reopen_cases runId r with ⟨-, heq⟩ | ⟨-, hnone⟩
    · rw [heq] at hdis hu ⊢
      exact h.positive r (mem_activeRows.mpr ⟨hr, hdis⟩) u hu
    · rw [hnone] at hu
      cases hu
  · obtain ⟨hmem, hdis⟩ := mem_disputedRows.mp hd
    obtain ⟨r, hr, rfl⟩ := List.mem_map.mp hmem
    rcases reopen_cases runId r with ⟨-, heq⟩ | ⟨hclosed, -⟩
    · rw [heq] at hdis ⊢
      exact h.empty r (mem_disputedRows.mpr ⟨hr, hdis⟩)
    · rw [PriceObservation.reopen_isDisputed, (hlast r hr hclosed).1] at hdis
      cases hdis

/-- Opening any other row breaks an invariant: a disputed row is no longer empty, or an open one has a successor. -/
theorem closedLast_of_laneHolds (h : LaneHolds (rows.map (·.reopen runId))) : ClosedLast runId rows := by
  intro r hr hclosed
  have hmem : r.reopen runId ∈ rows.map (·.reopen runId) := List.mem_map_of_mem hr
  have hnone := r.reopen_validUntil hclosed
  have hact : r.isDisputed = false := by
    by_contra hd
    have := h.empty _ (mem_disputedRows.mpr ⟨hmem, by simpa using hd⟩)
    rw [hnone] at this
    cases this
  refine ⟨hact, fun s hs => ?_⟩
  by_contra hlt
  push Not at hlt
  have hract : r.reopen runId ∈ activeRows (rows.map (·.reopen runId)) := mem_activeRows.mpr ⟨hmem, by simpa using hact⟩
  have hsmem : s.reopen runId ∈ rows.map (·.reopen runId) := List.mem_map_of_mem hs
  have hends : (r.reopen runId).endsBy (s.reopen runId).validFrom = true := by
    cases hs' : s.isDisputed with
    | false => exact h.chained _ hract _ (mem_activeRows.mpr ⟨hsmem, by simpa using hs'⟩) (by simpa using hlt)
    | true => exact h.clear _ hract _ (mem_disputedRows.mpr ⟨hsmem, by simpa using hs'⟩) (by simpa using hlt)
  obtain ⟨u, hu, -⟩ := PriceObservation.endsBy_iff.mp hends
  rw [hnone] at hu
  cases hu

def Db.survivors (db : Db) (lane : Lane) (runId : Int) : List PriceObservation :=
  (db.live lane).filter (·.crawlRunId ≠ some runId)

theorem chained_undo (h : Chained (db.live lane)) (hlast : ClosedLast runId (db.survivors lane runId)) :
    Chained ((db.undo runId actorUserId force now).live lane) := by
  rw [Db.live_undo]
  exact h.filter.reopen hlast

/-- A rollback of one run keeps the invariants of a chained lane exactly when it opens only last rows. -/
theorem laneHolds_undo_iff (h : Chained (db.live lane)) :
    LaneHolds ((db.undo runId actorUserId force now).live lane) ↔ ClosedLast runId (db.survivors lane runId) := by
  refine ⟨fun hh => ?_, fun hlast => (chained_undo h hlast).laneHolds⟩
  rw [Db.live_undo] at hh
  exact closedLast_of_laneHolds hh

end Chains

/-! ### Runs of records and rollbacks -/

inductive Op where
  | record (call : RecordCall)
  | rollback (runPublicId : String) (actorUserId : Option Int) (force : Bool) (now : Instant)
deriving DecidableEq

def Db.apply (db : Db) : Op → Db
  | .record call => db.record call
  | .rollback runPublicId actorUserId force now => db.rollback runPublicId actorUserId force now

def Db.applyAll (db : Db) (ops : List Op) : Db := ops.foldl Db.apply db

/-- A recorded candidate is in a lane, and its caller does not mark it disputed. -/
def Op.Routed : Op → Prop
  | .record call => (∃ lane, call.candidate.lane? = some lane) ∧ call.candidate.verificationStatus ≠ some .disputed
  | .rollback .. => True

instance (runId : Int) (rows : List PriceObservation) : Decidable (ClosedLast runId rows) := by
  unfold ClosedLast
  infer_instance

/-- A rollback that is not a repetition opens only rows of the lane that are last in it. -/
def Op.OpensLast (lane : Lane) (db : Db) : Op → Prop
  | .record _ => True
  | .rollback runPublicId _ force _ => ∀ run, db.crawlRuns.find? (·.publicId = runPublicId) = some run →
      alreadyRolledBack db run.id force = false → ClosedLast run.id (db.survivors lane run.id)

def OpensLastAlong (lane : Lane) (db : Db) : List Op → Prop
  | [] => True
  | op :: ops => op.OpensLast lane db ∧ OpensLastAlong lane (db.apply op) ops

section Run
variable {db : Db} {lane : Lane} {op : Op} {ops : List Op}

theorem chained_apply (hop : op.Routed) (hlast : op.OpensLast lane db) (hc : Chained (db.live lane)) :
    Chained ((db.apply op).live lane) := by
  cases op with
  | record call =>
    obtain ⟨⟨l, hl⟩, hs⟩ := hop
    by_cases hlane : lane = l
    · subst hlane
      exact chained_record hl hs hc
    · show Chained ((db.record call).live lane)
      rw [live_record_of_ne hl hlane]
      exact hc
  | rollback runPublicId actorUserId force now =>
    show Chained ((db.rollback runPublicId actorUserId force now).live lane)
    rcases rollback_cases db runPublicId actorUserId force now with heq | ⟨run, hrun, halready, heq⟩
    · rw [heq]
      exact hc
    · rw [heq]
      exact chained_undo hc (hlast run hrun halready)

theorem chained_applyAll (hops : ∀ op ∈ ops, op.Routed) (hlast : OpensLastAlong lane db ops)
    (hc : Chained (db.live lane)) : ∀ pre, pre <+: ops → Chained ((db.applyAll pre).live lane) := by
  induction ops generalizing db with
  | nil =>
    intro pre hpre
    rw [List.prefix_nil.mp hpre]
    exact hc
  | cons op ops ih =>
    intro pre hpre
    cases pre with
    | nil => exact hc
    | cons op' pre =>
      obtain ⟨rfl, hrest⟩ := List.cons_prefix_cons.mp hpre
      have hstep := chained_apply (hops op' List.mem_cons_self) hlast.1 hc
      exact ih (fun d hd => hops d (List.mem_cons_of_mem _ hd)) hlast.2 hstep pre hrest

/-- In a run of records and rollbacks on any lanes, an empty lane passes the checker in every state reached, when
    each rollback opens only rows that are last in the lane by then. -/
theorem laneInvariantsHold_applyAll (hempty : db.live lane = []) (hops : ∀ op ∈ ops, op.Routed)
    (hlast : OpensLastAlong lane db ops) :
    ∀ pre, pre <+: ops → laneInvariantsHold ((db.applyAll pre).live lane) = true := by
  intro pre hpre
  have hc := chained_applyAll hops hlast (by rw [hempty]; exact Chained.nil) pre hpre
  exact (laneInvariantsHold_of_lane fun r hr => lane_of_mem_live hr).mpr hc.laneHolds

end Run

def threeRuns : Db := { crawlRuns := [⟨1, "a"⟩, ⟨2, "b"⟩, ⟨3, "c"⟩] }

/-- The last run is rolled back, then recorded prices follow. -/
theorem laneInvariantsHold_applyAll_milk :
    laneInvariantsHold ((threeRuns.applyAll [.record (milk 1 10 1), .record (milk 2 20 2), .rollback "b" none false 99,
      .record (milk 3 30 3)]).live milkLane) = true := by
  have hmilk : ∀ price t run, (Op.record (milk price t run)).Routed :=
    fun price t run => ⟨⟨milkLane, rfl⟩, fun h => by cases h⟩
  have hlast : ClosedLast 2 (((threeRuns.record (milk 1 10 1)).record (milk 2 20 2)).survivors milkLane 2) := by
    decide +kernel
  refine laneInvariantsHold_applyAll rfl ?_ ?_ _ List.prefix_rfl
  · simp only [List.forall_mem_cons]
    exact ⟨hmilk _ _ _, hmilk _ _ _, trivial, hmilk _ _ _, List.forall_mem_nil _⟩
  · refine ⟨trivial, trivial, fun run hrun _ => ?_, trivial, trivial⟩
    have hid : run.id = 2 := by
      have hfound : (((threeRuns.apply (.record (milk 1 10 1))).apply (.record (milk 2 20 2))).crawlRuns.find?
          (·.publicId = "b")).map (·.id) = some 2 := by decide +kernel
      rw [hrun] at hfound
      exact Option.some.inj hfound
    rw [hid]
    exact hlast

/-- A run that is not the last one is rolled back: the row that it had closed is open again, under the row of
    the run after it. -/
theorem not_laneInvariantsHold_rollback :
    laneInvariantsHold ((threeRuns.applyAll [.record (milk 1 10 1), .record (milk 2 20 2), .record (milk 3 30 3),
      .rollback "b" none false 99]).live milkLane) = false := by
  decide +kernel

end CestaPlan.History
