import CestaPlan.Imports.Commits
import CestaPlan.Library.FirstWins

/-! Runs of imports: batches are created, committed and rolled back by the requests of `routers/admin.py`, while the grocery
    lists change. -/

namespace CestaPlan.Imports
open Calendar (Instant)

namespace ImportDb
variable (py : Engine.Runtime) (db : ImportDb)

/-- `_get_import` -/
def import? (importId : Nat) : Option DataImport := db.imports.find? (·.id = importId)

/-- `POST /imports/{import_id}/commit` -/
def commitRequest (importId : Nat) (now : Instant) : ImportDb × Except ImportError DataImport :=
  match db.import? importId with
  | none => (db, .error .notFound)
  | some dataImport => db.commitImport py now dataImport

/-- `POST /imports/{import_id}/rollback` -/
def rollbackRequest (importId : Nat) (now : Instant) : ImportDb × Except ImportError Nat :=
  match db.import? importId with
  | none => (db, .error .notFound)
  | some dataImport => db.rollbackImport now dataImport

end ImportDb

inductive ImportEvent where
  | create (rows : List (Option NormalizedRecord)) (dryRun : Bool)
  | commit (importId : Nat) (now : Instant)
  | rollback (importId : Nat) (now : Instant)
  | items (items : List GroceryListItem)

/-- The database, and the imports that are committed, in the order of their commits. -/
structure Ledger where
  db : ImportDb
  committed : List DataImport := []

namespace Ledger
section Definitions
variable (py : Engine.Runtime) (s : Ledger)

def commit (importId : Nat) (now : Instant) : Ledger :=
  match s.db.commitRequest py importId now with
  | (db, .ok dataImport) => { db, committed := s.committed ++ [dataImport] }
  | (db, .error _) => { s with db }

def rollback (importId : Nat) (now : Instant) : Ledger :=
  match s.db.rollbackRequest importId now with
  | (db, .ok _) => { db, committed := s.committed.filter (·.id ≠ importId) }
  | (db, .error _) => { s with db }

def step : ImportEvent → Ledger
  | .create rows dryRun => { s with db := s.db.createImport rows dryRun }
  | .commit importId now => s.commit py importId now
  | .rollback importId now => s.rollback importId now
  | .items items => { s with db := { s.db with items } }

/-- The import that an event commits. -/
def committed? : ImportEvent → Option Nat
  | .commit importId now => (s.db.commitRequest py importId now).2.toOption.map fun _ => importId
  | _ => none

/-- The import that an event rolls back. -/
def rolledBack? : ImportEvent → Option Nat
  | .rollback importId now => (s.db.rollbackRequest importId now).2.toOption.map fun _ => importId
  | _ => none

/-- A rollback that the lines of a grocery list stop changes nothing. -/
def KeepsReferenced : ImportEvent → Prop
  | .rollback importId now => ∀ items, (s.db.rollbackRequest importId now).2 = .error (.pricesReferenced items) →
      s.rollback importId now = s
  | _ => True

/-- After the commit of the import, with what its records leave. -/
def committing (db : ImportDb) (i : DataImport) (plan : PlanResult) (now : Instant) : Ledger :=
  ⟨db.saveImport (i.committed plan now), s.committed ++ [i.committed plan now]⟩

/-- After the rollback of the import. -/
def rollingBack (i : DataImport) (now : Instant) : Ledger :=
  ⟨{ s.db with prices := s.db.prices.filter (!ImportDb.owned i.id ·) }.saveImport
      { i with status := .rolledBack, rolledBackAt := some now }, s.committed.filter (·.id ≠ i.id)⟩

/-- What an event does. -/
inductive Steps : ImportEvent → Ledger → Prop
  | create {rows : List (Option NormalizedRecord)} {dryRun : Bool} :
      Steps (.create rows dryRun) { s with db := s.db.createImport rows dryRun }
  | items {items : List GroceryListItem} : Steps (.items items) { s with db := { s.db with items } }
  | commit {i : DataImport} {now : Instant} {db : ImportDb} {plan : PlanResult} (hi : i ∈ s.db.imports)
      (hstatus : i.status = .pending ∨ i.status = .dryRun) (hrecords : s.db.commitRecords py i.records i.id now = .ok (db, plan))
      (hcommitted : s.committed? py (.commit i.id now) = some i.id) :
      Steps (.commit i.id now) (s.committing db i plan now)
  | rollback {i : DataImport} {now : Instant} (hi : i ∈ s.db.imports) (hstatus : i.status = .committed)
      (hrolledBack : s.rolledBack? (.rollback i.id now) = some i.id) :
      Steps (.rollback i.id now) (s.rollingBack i now)
  | refused {e : ImportEvent} (hcommitted : s.committed? py e = none) (hrolledBack : s.rolledBack? e = none) : Steps e s

end Definitions

section Steps
variable {py : Engine.Runtime} {s s' : Ledger} {e : ImportEvent} {db db' : ImportDb} {importId : Nat} {now : Instant}

theorem commitRequest_ok {committed : DataImport} (h : db.commitRequest py importId now = (db', .ok committed)) :
    ∃ i ∈ db.imports, i.id = importId ∧ (i.status = .pending ∨ i.status = .dryRun) ∧ ∃ db₁ plan,
      db.commitRecords py i.records i.id now = .ok (db₁, plan) ∧ db' = db₁.saveImport (i.committed plan now) ∧
        committed = i.committed plan now := by
  unfold ImportDb.commitRequest at h
  split at h
  · cases (Prod.mk.inj h).2
  · next i hi =>
    refine ⟨i, List.mem_of_find?_eq_some hi, by simpa using List.find?_some hi, ?_⟩
    unfold ImportDb.commitImport at h
    split at h
    · cases (Prod.mk.inj h).2
    · next hstatus =>
      refine ⟨not_not.mp hstatus, ?_⟩
      split at h
      · cases (Prod.mk.inj h).2
      · next db₁ plan hrecords =>
        obtain ⟨rfl, hcommitted⟩ := Prod.mk.inj h
        exact ⟨db₁, plan, hrecords, rfl, (Except.ok.inj hcommitted).symm⟩

theorem commitRequest_error {error : ImportError} (h : db.commitRequest py importId now = (db', .error error)) : db' = db := by
  unfold ImportDb.commitRequest at h
  split at h
  · exact (Prod.mk.inj h).1.symm
  · unfold ImportDb.commitImport at h
    split at h
    · exact (Prod.mk.inj h).1.symm
    · split at h
      · exact (Prod.mk.inj h).1.symm
      · cases (Prod.mk.inj h).2

theorem rollbackRequest_ok {deleted : Nat} (h : db.rollbackRequest importId now = (db', .ok deleted)) :
    ∃ i ∈ db.imports, i.id = importId ∧ i.status = .committed ∧
      db' = { db with prices := db.prices.filter (!ImportDb.owned i.id ·) }.saveImport
        { i with status := .rolledBack, rolledBackAt := some now } := by
  unfold ImportDb.rollbackRequest at h
  split at h
  · cases (Prod.mk.inj h).2
  · next i hi =>
    refine ⟨i, List.mem_of_find?_eq_some hi, by simpa using List.find?_some hi, ?_⟩
    unfold ImportDb.rollbackImport at h
    split at h
    · cases (Prod.mk.inj h).2
    · next hstatus =>
      split at h
      · cases (Prod.mk.inj h).2
      · exact ⟨not_not.mp hstatus, (Prod.mk.inj h).1.symm⟩

theorem rollbackRequest_error {error : ImportError} (h : db.rollbackRequest importId now = (db', .error error)) : db' = db := by
  unfold ImportDb.rollbackRequest at h
  split at h
  · exact (Prod.mk.inj h).1.symm
  · unfold ImportDb.rollbackImport at h
    split at h
    · exact (Prod.mk.inj h).1.symm
    · split at h
      · exact (Prod.mk.inj h).1.symm
      · cases (Prod.mk.inj h).2

theorem keepsReferenced (s : Ledger) (e : ImportEvent) : s.KeepsReferenced e := by
  cases e with
  | rollback importId now =>
    intro items h
    have hrequest : s.db.rollbackRequest importId now = ((s.db.rollbackRequest importId now).1, .error (.pricesReferenced items)) :=
      Prod.ext rfl h
    rw [rollback, hrequest]
    show { s with db := (s.db.rollbackRequest importId now).1 } = s
    rw [rollbackRequest_error hrequest]
  | create => trivial
  | commit => trivial
  | items => trivial

theorem steps (py : Engine.Runtime) (s : Ledger) (e : ImportEvent) : s.Steps py e (s.step py e) := by
  cases e with
  | create rows dryRun => exact .create
  | items items => exact .items
  | commit importId now =>
    rcases hrequest : s.db.commitRequest py importId now with ⟨db, error | committed⟩
    · have hsame : s.step py (.commit importId now) = s := by
        rw [step, commit, hrequest, commitRequest_error hrequest]
      rw [hsame]
      exact .refused (by rw [committed?, hrequest]; rfl) rfl
    · obtain ⟨i, hi, rfl, hstatus, db₁, plan, hrecords, rfl, rfl⟩ := commitRequest_ok hrequest
      have hstep : s.step py (.commit i.id now) = s.committing db₁ i plan now := by
        rw [step, commit, hrequest]
        rfl
      rw [hstep]
      exact .commit hi hstatus hrecords (by rw [committed?, hrequest]; rfl)
  | rollback importId now =>
    rcases hrequest : s.db.rollbackRequest importId now with ⟨db, error | deleted⟩
    · have hsame : s.step py (.rollback importId now) = s := by
        rw [step, rollback, hrequest, rollbackRequest_error hrequest]
      rw [hsame]
      exact .refused rfl (by rw [rolledBack?, hrequest]; rfl)
    · obtain ⟨i, hi, rfl, hstatus, rfl⟩ := rollbackRequest_ok hrequest
      have hstep : s.step py (.rollback i.id now) = s.rollingBack i now := by
        rw [step, rollback, hrequest]
        rfl
      rw [hstep]
      exact .rollback hi hstatus (by rw [rolledBack?, hrequest]; rfl)

theorem step_of_committed? (h : s.committed? py e = some importId) :
    ∃ i ∈ s.db.imports, i.id = importId ∧ (i.status = .pending ∨ i.status = .dryRun) ∧ ∃ now db plan,
      s.db.commitRecords py i.records i.id now = .ok (db, plan) ∧ s.step py e = s.committing db i plan now := by
  have hsteps := s.steps py e
  generalize s.step py e = s' at hsteps ⊢
  cases hsteps with
  | create => cases h
  | items => cases h
  | rollback => cases h
  | refused hnone => rw [hnone] at h; cases h
  | commit hi hstatus hrecords hsome =>
    exact ⟨_, hi, Option.some.inj (hsome.symm.trans h), hstatus, _, _, _, hrecords, rfl⟩

theorem step_of_rolledBack? (py : Engine.Runtime) (h : s.rolledBack? e = some importId) :
    ∃ i ∈ s.db.imports, i.id = importId ∧ i.status = .committed ∧ ∃ now, s.step py e = s.rollingBack i now := by
  have hsteps := s.steps py e
  generalize s.step py e = s' at hsteps ⊢
  cases hsteps with
  | create => cases h
  | items => cases h
  | commit => cases h
  | refused _ hnone => rw [hnone] at h; cases h
  | rollback hi hstatus hsome => exact ⟨_, hi, Option.some.inj (hsome.symm.trans h), hstatus, _, rfl⟩

end Steps

/-! ### The statuses of the imports -/

/-- The ids come from the sequence, and the ledger knows the committed imports. -/
structure Tracked (first : Nat) (s : Ledger) : Prop where
  nextImportId : first ≤ s.db.nextImportId
  ids : ∀ i ∈ s.db.imports, first ≤ i.id ∧ i.id < s.db.nextImportId
  nodup : (s.db.imports.map (·.id)).Nodup
  committed : ∀ i, i ∈ s.committed ↔ i ∈ s.db.imports ∧ i.status = .committed

/-- The import has been created, and has one of the statuses. -/
structure Passed (P : ImportStatus → Prop) (s : Ledger) (importId : Nat) : Prop where
  created : importId < s.db.nextImportId
  status : ∀ i ∈ s.db.imports, i.id = importId → P i.status

section Statuses
variable {py : Engine.Runtime} {s s' : Ledger} {e : ImportEvent} {importId first : Nat} {P : ImportStatus → Prop}

theorem mem_saveImport {db : ImportDb} {i i' j : DataImport} (hi : i ∈ db.imports) (hid : i'.id = i.id) :
    j ∈ (db.saveImport i').imports ↔ j = i' ∨ j ∈ db.imports ∧ j.id ≠ i.id := by
  show j ∈ db.imports.map (fun row => if row.id = i'.id then i' else row) ↔ _
  rw [List.mem_map, hid]
  constructor
  · rintro ⟨k, hk, rfl⟩
    split
    · exact .inl rfl
    · next hother => exact .inr ⟨hk, hother⟩
  · rintro (rfl | ⟨hj, hother⟩)
    · exact ⟨i, hi, if_pos rfl⟩
    · exact ⟨j, hj, if_neg hother⟩

theorem mem_committing {db : ImportDb} {i j : DataImport} {plan : PlanResult} {now : Instant} (hi : i ∈ s.db.imports)
    (hrecords : s.db.commitRecords py i.records i.id now = .ok (db, plan)) :
    j ∈ (s.committing db i plan now).db.imports ↔ j = i.committed plan now ∨ j ∈ s.db.imports ∧ j.id ≠ i.id := by
  have himports := (ImportDb.commitRecords_spec hrecords).imports
  rw [← himports] at hi ⊢
  exact mem_saveImport hi rfl

theorem mem_rollingBack {i j : DataImport} {now : Instant} (hi : i ∈ s.db.imports) :
    j ∈ (s.rollingBack i now).db.imports ↔
      j = { i with status := .rolledBack, rolledBackAt := some now } ∨ j ∈ s.db.imports ∧ j.id ≠ i.id :=
  mem_saveImport hi (rfl : ({ i with status := .rolledBack, rolledBackAt := some now } : DataImport).id = i.id)

theorem ids_saveImport {db : ImportDb} {i : DataImport} : (db.saveImport i).imports.map (·.id) = db.imports.map (·.id) := by
  show (db.imports.map fun row => if row.id = i.id then i else row).map (·.id) = _
  rw [List.map_map]
  refine List.map_congr_left fun row _ => ?_
  show (if row.id = i.id then i else row).id = row.id
  split
  · next hid => exact hid.symm
  · rfl

theorem Tracked.same (h : Tracked first s) {i j : DataImport} (hi : i ∈ s.db.imports) (hj : j ∈ s.db.imports) (hid : j.id = i.id) :
    j = i := List.inj_on_of_nodup_map h.nodup hj hi hid

theorem Tracked.save (h : Tracked first s) {db : ImportDb} {committed : List DataImport} {i i' : DataImport}
    (himports : db.imports = s.db.imports) (hnext : db.nextImportId = s.db.nextImportId) (hi : i ∈ s.db.imports) (hid : i'.id = i.id)
    (hcommitted : ∀ j, j ∈ committed ↔ (j = i' ∨ j ∈ s.db.imports ∧ j.id ≠ i.id) ∧ j.status = .committed) :
    Tracked first ⟨db.saveImport i', committed⟩ := by
  have hmem : ∀ j, j ∈ (db.saveImport i').imports ↔ j = i' ∨ j ∈ s.db.imports ∧ j.id ≠ i.id := fun j => by
    rw [mem_saveImport (himports ▸ hi) hid, himports]
  have hlast : (db.saveImport i').nextImportId = s.db.nextImportId := hnext
  refine ⟨hlast ▸ h.nextImportId, fun j hj => ?_, ?_, fun j => ?_⟩
  · rw [hlast]
    rcases (hmem j).mp hj with rfl | ⟨hj, -⟩
    · rw [hid]
      exact h.ids i hi
    · exact h.ids j hj
  · rw [ids_saveImport, himports]
    exact h.nodup
  · rw [hcommitted, hmem]

theorem Tracked.steps (h : Tracked first s) (hs : s.Steps py e s') : Tracked first s' := by
  cases hs with
  | create =>
    rename_i rows dryRun
    refine ⟨h.nextImportId.trans (Nat.le_succ _), fun i hi => ?_, ?_, fun i => ?_⟩
    · rcases List.mem_append.mp hi with hi | hi
      · exact ⟨(h.ids i hi).1, (h.ids i hi).2.trans (Nat.lt_succ_self _)⟩
      · rw [List.mem_singleton.mp hi]
        exact ⟨h.nextImportId, Nat.lt_succ_self _⟩
    · show (s.db.imports ++ [s.db.plannedImport rows dryRun]).map (·.id) |>.Nodup
      rw [List.map_append, List.nodup_append]
      refine ⟨h.nodup, List.nodup_singleton _, fun id hid other hother heq => ?_⟩
      obtain ⟨i, hi, rfl⟩ := List.mem_map.mp hid
      rw [List.mem_singleton.mp hother] at heq
      exact absurd heq (h.ids i hi).2.ne
    · show i ∈ s.committed ↔ i ∈ s.db.imports ++ [s.db.plannedImport rows dryRun] ∧ i.status = .committed
      rw [h.committed, List.mem_append, List.mem_singleton]
      refine and_congr_left fun hstatus => (or_iff_left ?_).symm
      rintro rfl
      cases dryRun <;> cases hstatus
  | items => exact ⟨h.nextImportId, h.ids, h.nodup, h.committed⟩
  | commit hi hstatus hrecords =>
    rename_i i now db plan
    have hall := ImportDb.commitRecords_spec hrecords
    refine h.save hall.imports hall.nextImportId hi rfl fun j => ?_
    rw [List.mem_append, List.mem_singleton, h.committed]
    constructor
    · rintro (⟨hj, hjstatus⟩ | rfl)
      · refine ⟨.inr ⟨hj, fun hid => ?_⟩, hjstatus⟩
        rw [h.same hi hj hid] at hjstatus
        rcases hstatus with hstatus | hstatus <;> rw [hstatus] at hjstatus <;> cases hjstatus
      · exact ⟨.inl rfl, rfl⟩
    · rintro ⟨rfl | ⟨hj, -⟩, hjstatus⟩
      · exact .inr rfl
      · exact .inl ⟨hj, hjstatus⟩
  | rollback hi hstatus =>
    rename_i i now
    refine h.save rfl rfl hi rfl fun j => ?_
    rw [List.mem_filter, h.committed, decide_eq_true_eq]
    constructor
    · rintro ⟨⟨hj, hjstatus⟩, hid⟩
      exact ⟨.inr ⟨hj, hid⟩, hjstatus⟩
    · rintro ⟨rfl | ⟨hj, hid⟩, hjstatus⟩
      · cases hjstatus
      · exact ⟨⟨hj, hjstatus⟩, hid⟩
  | refused => exact h

/-- Statuses that are not those of an import before its commit are kept. -/
theorem Passed.steps (hpending : ¬P .pending) (hdryRun : ¬P .dryRun) (hrolledBack : P .committed → P .rolledBack)
    (h : Passed P s importId) (hs : s.Steps py e s') : Passed P s' importId := by
  cases hs with
  | create =>
    refine ⟨h.created.trans (Nat.lt_succ_self _), fun i hi hid => ?_⟩
    rcases List.mem_append.mp hi with hi | hi
    · exact h.status i hi hid
    · rw [List.mem_singleton.mp hi] at hid
      exact absurd hid h.created.ne'
  | items => exact ⟨h.created, h.status⟩
  | commit hi hstatus hrecords =>
    refine ⟨((ImportDb.commitRecords_spec hrecords).nextImportId.symm ▸ h.created : _ < _), fun j hj hid => ?_⟩
    rcases (mem_committing hi hrecords).mp hj with rfl | ⟨hj, -⟩
    · have hbefore := h.status _ hi hid
      rcases hstatus with hstatus | hstatus <;> rw [hstatus] at hbefore
      · exact absurd hbefore hpending
      · exact absurd hbefore hdryRun
    · exact h.status j hj hid
  | rollback hi hstatus =>
    refine ⟨h.created, fun j hj hid => ?_⟩
    rcases (mem_rollingBack hi).mp hj with rfl | ⟨hj, -⟩
    · exact hrolledBack (hstatus ▸ h.status _ hi hid)
    · exact h.status j hj hid
  | refused => exact h

theorem committed_once (py : Engine.Runtime) (h : Tracked first s) (events : List ImportEvent) :
    Runs.Once (step py) (committed? py) s events := by
  refine Runs.once_of_mark (M := Passed fun status => status = .committed ∨ status = .rolledBack)
    (fun s e h => h.steps (s.steps py e)) (fun s e importId h hcommitted => ?_)
    (fun s e importId h hpassed => hpassed.steps (by simp) (by simp) (by simp) (s.steps py e))
    (fun s e importId hpassed hcommitted => ?_) h
  · obtain ⟨i, hi, rfl, -, now, db, plan, hrecords, hstep⟩ := step_of_committed? hcommitted
    rw [hstep]
    refine ⟨((ImportDb.commitRecords_spec hrecords).nextImportId.symm ▸ (h.ids i hi).2 : _ < _), fun j hj hid => ?_⟩
    rcases (mem_committing hi hrecords).mp hj with rfl | ⟨-, hother⟩
    · exact .inl rfl
    · exact absurd hid hother
  · obtain ⟨i, hi, rfl, hstatus, -⟩ := step_of_committed? hcommitted
    have hbefore := hpassed.status i hi rfl
    rcases hstatus with hstatus | hstatus <;> simp [hstatus] at hbefore

theorem rolledBack_once (py : Engine.Runtime) (h : Tracked first s) (events : List ImportEvent) :
    Runs.Once (step py) rolledBack? s events := by
  refine Runs.once_of_mark (M := Passed fun status => status = .rolledBack)
    (fun s e h => h.steps (s.steps py e)) (fun s e importId h hrolledBack => ?_)
    (fun s e importId h hpassed => hpassed.steps (by simp) (by simp) (by simp) (s.steps py e))
    (fun s e importId hpassed hrolledBack => ?_) h
  · obtain ⟨i, hi, rfl, -, now, hstep⟩ := step_of_rolledBack? py hrolledBack
    rw [hstep]
    refine ⟨(h.ids i hi).2, fun j hj hid => ?_⟩
    rcases (mem_rollingBack hi).mp hj with rfl | ⟨-, hother⟩
    · rfl
    · exact absurd hid hother
  · obtain ⟨i, hi, rfl, hstatus, -⟩ := step_of_rolledBack? py hrolledBack
    have hbefore := hpassed.status i hi rfl
    simp [hstatus] at hbefore

end Statuses
end Ledger
end CestaPlan.Imports
