import CestaPlan.Imports.Ledger

/-! What rollbacks leave of the prices. A price is of the import that wrote it first, and its rollback takes it from all others
    that have the observation. -/

namespace CestaPlan.Imports
open FirstWins
open Calendar (Instant)
open Ingestion (Decimal)

/-- A store, a product, an instant and an amount. -/
abbrev Fact := ObservationKey × Decimal

def ImportDb.facts (db : ImportDb) : List Fact := db.prices.map fun price => (price.key, price.amount)

def commitAlone (py : Engine.Runtime) (now : Instant) (db : ImportDb) (i : DataImport) : Except DbError ImportDb := do
  let result ← db.commitRecords py i.records i.id now
  return result.1

/-- What the commits of some imports alone produce. -/
def replay (py : Engine.Runtime) (now : Instant) (db : ImportDb) (imports : List DataImport) : Except DbError ImportDb :=
  imports.foldlM (commitAlone py now) db

namespace Ledger

/-- After a rollback the prices are those that the remaining committed imports alone produce. -/
def Restores (py : Engine.Runtime) (start : ImportDb) (s : Ledger) (e : ImportEvent) : Prop :=
  ∀ importId ∈ s.rolledBack? e, ∀ now, ∃ db, replay py now start (s.step py e).committed = .ok db ∧
    ∀ fact, fact ∈ (s.step py e).db.facts ↔ fact ∈ db.facts

/-- No other committed import has an observation of a price that is rolled back. -/
def Unshared (s : Ledger) (e : ImportEvent) : Prop :=
  ∀ importId ∈ s.rolledBack? e, ∀ price ∈ s.db.prices, ImportDb.owned importId price = true → ∀ i ∈ s.committed,
    i.id ≠ importId → ∀ record ∈ i.records, price.key ≠ record.key

instance decidableUnshared (s : Ledger) (e : ImportEvent) : Decidable (s.Unshared e) :=
  inferInstanceAs (Decidable (∀ importId ∈ s.rolledBack? e, ∀ price ∈ s.db.prices, ImportDb.owned importId price = true →
    ∀ i ∈ s.committed, i.id ≠ importId → ∀ record ∈ i.records, price.key ≠ record.key))

end Ledger

/-! ### The prices as a log -/

/-- What a price says, and the import that it is of. Nothing is the amount of a record that does not fit. -/
structure Entry where
  importId : Option Nat
  key : ObservationKey
  amount : Option Decimal

def ProductPrice.entry (price : ProductPrice) : Entry := ⟨price.importId, price.key, some price.amount⟩

def NormalizedRecord.entry (record : NormalizedRecord) (importId : Nat) : Entry := ⟨some importId, record.key, record.storedAmount⟩

def DataImport.entries (i : DataImport) : List Entry := i.records.map (·.entry i.id)

namespace ImportDb

def entries (db : ImportDb) : List Entry := db.prices.map (·.entry)

section Entries
variable {py : Engine.Runtime} {db db' : ImportDb} {record : NormalizedRecord} {records : List NormalizedRecord} {importId : Nat}
variable {now : Instant} {plan plan' : PlanResult}

theorem isSome_of_mem_entries {x : Entry} (h : x ∈ db.entries) : x.amount.isSome := by
  obtain ⟨price, -, rfl⟩ := List.mem_map.mp h
  rfl

theorem mem_facts {fact : Fact} : fact ∈ db.facts ↔ ∃ x ∈ db.entries, x.key = fact.1 ∧ x.amount = some fact.2 := by
  simp [facts, entries, ProductPrice.entry, Prod.ext_iff]

theorem duplicate_iff_entries : db.duplicate record = true ↔ ∃ x ∈ db.entries, x.key = record.key := by
  rw [duplicate_iff]
  simp [entries, ProductPrice.entry]

theorem entries_commitRecord (h : commitRecord py importId now (db, plan) record = .ok (db', plan')) :
    db'.entries = write Entry.key db.entries (record.entry importId) := by
  rcases (commitRecord_spec h).1.prices with ⟨hthere, hprices⟩ | ⟨hnew, row, hkey, hid, hamount, hprices⟩
  · rw [write_of_mem (duplicate_iff_entries.mp hthere), entries, hprices, entries]
  · have hnone : ¬∃ x ∈ db.entries, x.key = (record.entry importId).key := fun hx => by
      rw [duplicate_iff_entries.mpr hx] at hnew
      cases hnew
    have hrow : row.entry = record.entry importId := by
      rw [ProductPrice.entry, NormalizedRecord.entry, hid, hkey, hamount]
    rw [write_of_new hnone, entries, hprices, List.map_append, List.map_singleton, hrow, entries]

theorem entries_commitRecords (h : db.commitRecords py records importId now = .ok (db', plan)) :
    db'.entries = writeAll Entry.key db.entries (records.map (·.entry importId)) := by
  induction records using List.reverseRecOn generalizing db' plan with
  | nil =>
    obtain ⟨rfl, rfl⟩ := Prod.mk.inj (Except.ok.inj h)
    rfl
  | append_singleton records record ih =>
    obtain ⟨db₁, plan₁, hrecords, hrecord⟩ := commitRecords_concat.mp h
    rw [entries_commitRecord hrecord, ih hrecords, List.map_append, List.map_singleton, writeAll_concat]

theorem exists_commitRecords_of_entries (importId : Nat) (now : Instant) (haccepts : ∀ r ∈ records, db.Accepts py r)
    (hsome : ∀ x ∈ writeAll Entry.key db.entries (records.map (·.entry importId)), x.amount.isSome) :
    ∃ db' plan, db.commitRecords py records importId now = .ok (db', plan) := by
  induction records using List.reverseRecOn with
  | nil => exact ⟨db, {}, rfl⟩
  | append_singleton records record ih =>
    rw [List.map_append, List.map_singleton, writeAll_concat] at hsome
    obtain ⟨db₁, plan₁, hrecords⟩ := ih (fun r hr => haccepts r (List.mem_append_left _ hr)) fun x hx => hsome x (subset_write hx)
    have haccept : db₁.Accepts py record :=
      (haccepts record (List.mem_append_right _ (List.mem_singleton_self record))).congr (commitRecords_spec hrecords).ingredients
    have hstored : db₁.duplicate record = true ∨ record.storedAmount.isSome := by
      refine or_iff_not_imp_left.mpr fun hnew => ?_
      rw [duplicate_iff_entries, entries_commitRecords hrecords] at hnew
      have hmem : record.entry importId ∈ write Entry.key (writeAll Entry.key db.entries (records.map (·.entry importId)))
          (record.entry importId) := by
        rw [write_of_new hnew]
        exact List.mem_append_right _ (List.mem_singleton_self _)
      exact hsome _ hmem
    obtain ⟨db', plan', hrecord⟩ := exists_commitRecord haccept hstored
    exact ⟨db', plan', commitRecords_concat.mpr ⟨db₁, plan₁, hrecords, hrecord⟩⟩

/-! ### Replays -/

theorem replay_concat {imports : List DataImport} {i : DataImport} : replay py now db (imports ++ [i]) = .ok db' ↔
    ∃ db₁ plan, replay py now db imports = .ok db₁ ∧ db₁.commitRecords py i.records i.id now = .ok (db', plan) := by
  rw [replay, List.foldlM_append, Runs.bind_eq_ok]
  constructor
  · rintro ⟨db₁, himports, hi⟩
    obtain ⟨db₂, halone, hnil⟩ := Runs.foldlM_cons_eq_ok.mp hi
    obtain rfl := Except.ok.inj hnil
    obtain ⟨⟨db₃, plan⟩, hrecords, hsame⟩ := Runs.bind_eq_ok.mp halone
    obtain rfl := Except.ok.inj hsame
    exact ⟨db₁, plan, himports, hrecords⟩
  · rintro ⟨db₁, plan, himports, hrecords⟩
    exact ⟨db₁, himports, Runs.foldlM_cons_eq_ok.mpr ⟨db', Runs.bind_eq_ok.mpr ⟨_, hrecords, rfl⟩, rfl⟩⟩

theorem replay_ok {imports : List DataImport} (h : replay py now db imports = .ok db') :
    db'.entries = writeAll Entry.key db.entries (imports.flatMap DataImport.entries) ∧ db'.ingredients = db.ingredients := by
  induction imports using List.reverseRecOn generalizing db' with
  | nil =>
    obtain rfl := Except.ok.inj h
    exact ⟨rfl, rfl⟩
  | append_singleton imports i ih =>
    obtain ⟨db₁, plan, himports, hrecords⟩ := replay_concat.mp h
    obtain ⟨hentries, hingredients⟩ := ih himports
    refine ⟨?_, (commitRecords_spec hrecords).ingredients.trans hingredients⟩
    rw [entries_commitRecords hrecords, hentries, List.flatMap_append, List.flatMap_singleton, writeAll_append]
    rfl

theorem exists_replay (now : Instant) {imports : List DataImport} (haccepts : ∀ i ∈ imports, ∀ r ∈ i.records, db.Accepts py r)
    (hsome : ∀ x ∈ writeAll Entry.key db.entries (imports.flatMap DataImport.entries), x.amount.isSome) :
    ∃ db', replay py now db imports = .ok db' := by
  induction imports using List.reverseRecOn with
  | nil => exact ⟨db, rfl⟩
  | append_singleton imports i ih =>
    rw [List.flatMap_append, List.flatMap_singleton, writeAll_append] at hsome
    obtain ⟨db₁, himports⟩ := ih (fun j hj => haccepts j (List.mem_append_left _ hj)) fun x hx =>
      hsome x (subset_writeAll hx)
    obtain ⟨hentries, hingredients⟩ := replay_ok himports
    obtain ⟨db', plan, hrecords⟩ := exists_commitRecords_of_entries i.id now
      (fun r hr => (haccepts i (List.mem_append_right _ (List.mem_singleton_self i)) r hr).congr hingredients)
      (fun x hx => hsome x (by rw [← hentries]; exact hx))
    exact ⟨db', replay_concat.mpr ⟨db₁, plan, himports, hrecords⟩⟩

end Entries

/-- No import has been created, and no price is of one to come. -/
structure Unowned (db : ImportDb) : Prop where
  imports : db.imports = []
  prices : ∀ price ∈ db.prices, ∀ importId, price.importId = some importId → importId < db.nextImportId

end ImportDb

namespace Ledger

/-- The prices are those that the committed imports alone produce. -/
structure Sound (py : Engine.Runtime) (start : ImportDb) (s : Ledger) : Prop where
  tracked : Tracked start.nextImportId s
  ingredients : s.db.ingredients = start.ingredients
  accepts : ∀ i ∈ s.committed, ∀ r ∈ i.records, start.Accepts py r
  entries : s.db.entries = writeAll Entry.key start.entries (s.committed.flatMap DataImport.entries)

/-- The entry is not of the import. -/
def keeps (importId : Nat) (x : Entry) : Bool := !decide (x.importId = some importId)

section Sound
variable {py : Engine.Runtime} {start : ImportDb} {s s' : Ledger} {e : ImportEvent} {i : DataImport} {now : Instant} {importId : Nat}

theorem keeps_price {price : ProductPrice} : keeps importId price.entry = !ImportDb.owned importId price := rfl

theorem keeps_record {record : NormalizedRecord} : keeps importId (record.entry i.id) = true ↔ i.id ≠ importId := by
  rw [keeps, Bool.not_eq_true', decide_eq_false_iff_not]
  exact not_congr Option.some_inj

theorem entries_rollingBack : (s.rollingBack i now).db.entries = s.db.entries.filter (keeps i.id) := by
  show (s.db.prices.filter (!ImportDb.owned i.id ·)).map (·.entry) = (s.db.prices.map (·.entry)).filter (keeps i.id)
  rw [List.filter_map]
  rfl

theorem filter_start (hstart : start.Unowned) (h : start.nextImportId ≤ importId) :
    start.entries.filter (keeps importId) = start.entries := by
  refine List.filter_eq_self.mpr fun x hx => ?_
  obtain ⟨price, hprice, rfl⟩ := List.mem_map.mp hx
  have hother : price.importId ≠ some importId := fun hid => absurd (hstart.prices price hprice importId hid) (not_lt.mpr h)
  rw [keeps_price, ImportDb.owned, decide_eq_false hother]
  rfl

theorem filter_committed (imports : List DataImport) (importId : Nat) :
    (imports.flatMap DataImport.entries).filter (keeps importId) =
      (imports.filter (·.id ≠ importId)).flatMap DataImport.entries := by
  induction imports with
  | nil => rfl
  | cons i imports ih =>
    rw [List.flatMap_cons, List.filter_append, ih]
    by_cases hid : i.id = importId
    · have hnone : i.entries.filter (keeps importId) = [] := by
        rw [List.filter_eq_nil_iff]
        simp [DataImport.entries, NormalizedRecord.entry, keeps, hid]
      rw [hnone, List.nil_append, List.filter_cons_of_neg (by simpa using hid)]
    · have hall : i.entries.filter (keeps importId) = i.entries := by
        rw [List.filter_eq_self]
        simp [DataImport.entries, NormalizedRecord.entry, keeps, hid]
      rw [hall, List.filter_cons_of_pos (by simpa using hid), List.flatMap_cons]

theorem unshared_iff : (∀ price ∈ s.db.prices, ImportDb.owned importId price = true → ∀ i ∈ s.committed, i.id ≠ importId →
      ∀ record ∈ i.records, price.key ≠ record.key) ↔
    ∀ a ∈ s.committed.flatMap DataImport.entries, keeps importId a = true → ∀ x ∈ s.db.entries, keeps importId x = false →
      x.key ≠ a.key := by
  constructor
  · intro h a ha hkeep x hx hout
    obtain ⟨i, hi, ha⟩ := List.mem_flatMap.mp ha
    obtain ⟨record, hrecord, rfl⟩ := List.mem_map.mp ha
    obtain ⟨price, hprice, rfl⟩ := List.mem_map.mp hx
    rw [keeps_price, Bool.not_eq_false'] at hout
    exact h price hprice hout i hi (keeps_record.mp hkeep) record hrecord
  · intro h price hprice howned i hi hother record hrecord
    refine h (record.entry i.id) (List.mem_flatMap.mpr ⟨i, hi, List.mem_map_of_mem hrecord⟩) (keeps_record.mpr hother) price.entry
      (List.mem_map_of_mem hprice) ?_
    rw [keeps_price, howned]
    rfl

theorem Sound.commit (h : Sound py start s) {db : ImportDb} {plan : PlanResult}
    (hrecords : s.db.commitRecords py i.records i.id now = .ok (db, plan)) (ht : Tracked start.nextImportId (s.committing db i plan now)) :
    Sound py start (s.committing db i plan now) := by
  have hall := ImportDb.commitRecords_spec hrecords
  refine ⟨ht, hall.ingredients.trans h.ingredients, fun j hj r hr => ?_, ?_⟩
  · rcases List.mem_append.mp hj with hj | hj
    · exact h.accepts j hj r hr
    · rw [List.mem_singleton.mp hj] at hr
      exact (hall.accepts r hr).congr h.ingredients.symm
  · show db.entries = writeAll Entry.key start.entries ((s.committed ++ [i.committed plan now]).flatMap DataImport.entries)
    rw [ImportDb.entries_commitRecords hrecords, h.entries, List.flatMap_append, List.flatMap_singleton, writeAll_append]
    rfl

theorem Sound.rollback (h : Sound py start s) (hstart : start.Unowned) (hi : i ∈ s.db.imports)
    (hunshared : ∀ price ∈ s.db.prices, ImportDb.owned i.id price = true → ∀ j ∈ s.committed, j.id ≠ i.id →
      ∀ record ∈ j.records, price.key ≠ record.key)
    (ht : Tracked start.nextImportId (s.rollingBack i now)) : Sound py start (s.rollingBack i now) := by
  refine ⟨ht, h.ingredients, fun j hj => h.accepts j (List.mem_filter.mp hj).1, ?_⟩
  have hfilter := unshared_iff.mp hunshared
  rw [h.entries] at hfilter
  rw [entries_rollingBack, h.entries, filter_writeAll hfilter, filter_start hstart (h.tracked.ids i hi).1, filter_committed]
  rfl

theorem Sound.step (h : Sound py start s) (hstart : start.Unowned) (hunshared : s.Unshared e) : Sound py start (s.step py e) := by
  have hsteps := s.steps py e
  generalize s.step py e = s' at hsteps ⊢
  have ht := h.tracked.steps hsteps
  cases hsteps with
  | create => exact ⟨ht, h.ingredients, h.accepts, h.entries⟩
  | items => exact ⟨ht, h.ingredients, h.accepts, h.entries⟩
  | commit _ _ hrecords => exact h.commit hrecords ht
  | rollback hi _ hrolledBack => exact h.rollback hstart hi (hunshared _ hrolledBack) ht
  | refused => exact h

theorem Sound.restores_iff (h : Sound py start s) (hstart : start.Unowned) : s.Restores py start e ↔ s.Unshared e := by
  constructor
  · intro hrestores importId hid
    obtain ⟨db, hreplay, hfacts⟩ := hrestores importId hid 0
    obtain ⟨i, hi, rfl, -, now, hstep⟩ := step_of_rolledBack? py hid
    rw [hstep] at hreplay hfacts
    have hentries : db.entries = writeAll Entry.key start.entries ((s.committed.flatMap DataImport.entries).filter (keeps i.id)) := by
      rw [filter_committed]
      exact (ImportDb.replay_ok hreplay).1
    have hlog : ∀ x ∈ start.entries, keeps i.id x = true :=
      List.filter_eq_self.mp (filter_start hstart (h.tracked.ids i hi).1)
    refine unshared_iff.mpr fun a ha hkeep x hx hout => ?_
    rw [h.entries] at hx
    refine key_ne_of_filter hlog (fun z hz => ?_) ha hkeep hx hout
    rw [← hentries] at hz
    obtain ⟨amount, hamount⟩ := Option.isSome_iff_exists.mp (ImportDb.isSome_of_mem_entries hz)
    obtain ⟨y, hy, hkey, -⟩ := ImportDb.mem_facts.mp ((hfacts (z.key, amount)).mpr (ImportDb.mem_facts.mpr ⟨z, hz, rfl, hamount⟩))
    rw [entries_rollingBack, h.entries] at hy
    exact ⟨y, hy, hkey⟩
  · intro hunshared importId hid now
    have hsound := h.step hstart hunshared
    have hsome : ∀ x ∈ writeAll Entry.key start.entries ((s.step py e).committed.flatMap DataImport.entries), x.amount.isSome :=
      fun x hx => ImportDb.isSome_of_mem_entries (hsound.entries.symm ▸ hx)
    obtain ⟨db, hreplay⟩ := ImportDb.exists_replay now hsound.accepts hsome
    refine ⟨db, hreplay, fun fact => ?_⟩
    rw [ImportDb.mem_facts, ImportDb.mem_facts, hsound.entries, (ImportDb.replay_ok hreplay).1]

theorem tracked_start (hstart : start.Unowned) : Tracked start.nextImportId ⟨start, []⟩ := by
  refine ⟨le_rfl, fun i hi => ?_, ?_, fun i => ?_⟩
  · rw [hstart.imports] at hi
    cases hi
  · rw [hstart.imports]
    exact List.nodup_nil
  · rw [hstart.imports]
    simp

end Sound

/-- The rollbacks of a run leave what the remaining committed imports alone produce exactly when none of them takes an observation
    of another one away. -/
theorem restores_iff_unshared (py : Engine.Runtime) (db : ImportDb) (hdb : db.Unowned) (events : List ImportEvent) :
    Runs.Once (step py) (committed? py) ⟨db, []⟩ events ∧ Runs.Once (step py) rolledBack? ⟨db, []⟩ events ∧
      Runs.Along (step py) KeepsReferenced ⟨db, []⟩ events ∧
        (Runs.Along (step py) (Restores py db) ⟨db, []⟩ events ↔ Runs.Along (step py) Unshared ⟨db, []⟩ events) := by
  have ht := tracked_start hdb
  refine ⟨committed_once py ht events, rolledBack_once py ht events, Runs.along_iff.mpr fun pre e _ => keepsReferenced _ e, ?_⟩
  have hsound : Sound py db ⟨db, []⟩ := ⟨ht, rfl, fun i hi => absurd hi List.not_mem_nil, rfl⟩
  exact Runs.along_congr (fun s e h => h.restores_iff hdb) (fun s e h hunshared => h.step hdb hunshared) hsound

/-- A batch is committed and rolled back. -/
def chickenBack : List ImportEvent := [.create [some (chickenAt 8 0)] true, .commit 0 0, .rollback 0 1]

theorem restores_chickenBack : Runs.Along (step (Engine.Runtime.replay [])) Unshared ⟨{}, []⟩ chickenBack ∧
    Runs.Along (step (Engine.Runtime.replay [])) (Restores (Engine.Runtime.replay []) {}) ⟨{}, []⟩ chickenBack := by
  have hunshared : Runs.Along (step (Engine.Runtime.replay [])) Unshared ⟨{}, []⟩ chickenBack := by decide +kernel
  have hstart : ({} : ImportDb).Unowned := ⟨rfl, by simp⟩
  exact ⟨hunshared, (restores_iff_unshared _ _ hstart _).2.2.2.mpr hunshared⟩

/-- The same batch twice: the second import has nothing to write, and the rollback of the first takes its price away. -/
def chickenLost : List ImportEvent :=
  [.create [some (chickenAt 8 0)] true, .create [some (chickenAt 8 0)] true, .commit 0 0, .commit 1 0, .rollback 0 1]

theorem not_restores_chickenLost : ¬∀ (py : Engine.Runtime) (db : ImportDb), db.Unowned → ∀ events,
    Runs.Along (step py) (Restores py db) ⟨db, []⟩ events := by
  intro h
  have halong := h (Engine.Runtime.replay []) {} ⟨rfl, by simp⟩ chickenLost
  have hlast := Runs.along_iff.mp halong (chickenLost.take 4) (.rollback 0 1) (List.prefix_refl _)
  have hrolled : ((chickenLost.take 4).foldl (step (Engine.Runtime.replay [])) ⟨{}, []⟩).rolledBack? (.rollback 0 1) = some 0 := by
    decide +kernel
  obtain ⟨db, hreplay, hfacts⟩ := hlast 0 hrolled 0
  have halone : (replay (Engine.Runtime.replay []) 0 {} (((chickenLost.take 4).foldl (step (Engine.Runtime.replay [])) ⟨{}, []⟩).step
      (Engine.Runtime.replay []) (.rollback 0 1)).committed).toOption.map (·.facts.length) = some 1 := by decide +kernel
  have hleft : (((chickenLost.take 4).foldl (step (Engine.Runtime.replay [])) ⟨{}, []⟩).step
      (Engine.Runtime.replay []) (.rollback 0 1)).db.facts = [] := by decide +kernel
  rw [hreplay] at halone
  have hone : db.facts.length = 1 := Option.some.inj halone
  obtain ⟨fact, hfact⟩ := List.exists_mem_of_length_pos (hone ▸ Nat.one_pos : 0 < db.facts.length)
  have hgone := (hfacts fact).mpr hfact
  rw [hleft] at hgone
  cases hgone

end Ledger
end CestaPlan.Imports
