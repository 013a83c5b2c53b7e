import CestaPlan.Jobs.CrawlQueue
import Mathlib.Data.List.Sort

/-! The scheduler of the crawls (`ingestion/scheduler.py`), with the runs that it creates (`ingestion/run_service.py`) and
    the connectors that it asks about (`ingestion/crawl_worker.py`, `routers/ingestion_admin.py`). -/

namespace CestaPlan.Jobs
open Calendar

inductive RunType where
  | discovery | catalog | prices | offers | health
deriving DecidableEq, Repr

def RunType.value : RunType → String
  | .discovery => "discovery"
  | .catalog => "catalog"
  | .prices => "prices"
  | .offers => "offers"
  | .health => "health"

inductive RunStatus where
  | queued | running | completed | failed | cancelled
deriving DecidableEq, Repr

inductive ConnectorStatus where
  | active | degraded | disabled | unsupported | permissionRequired | temporarilyBlocked | parserBroken
  | sourceUnavailable | partialOnly
deriving DecidableEq, Repr

/-! ### Configuration -/

structure FrequencyConfig where
  runTypes : List RunType := [.discovery, .catalog, .prices, .offers]
  cadenceDays : RunType → Option Int := fun
    | .discovery => some 7
    | .catalog => some 3
    | .prices => some 1
    | .offers => some 1
    | .health => none
  defaultCadenceDays : Int := 1
  priority : Int := 0
  maxAttempts : Nat := 3

def FrequencyConfig.cadenceFor (cfg : FrequencyConfig) (runType : RunType) : Int :=
  (cfg.cadenceDays runType).getD cfg.defaultCadenceDays

/-- The catalogue and the prices, every thirty days. -/
def monthly : FrequencyConfig where
  runTypes := [.catalog, .prices]
  cadenceDays := fun
    | .catalog => some 30
    | .prices => some 30
    | _ => none
  defaultCadenceDays := 30

structure SchedulerConfig where
  default : FrequencyConfig := {}
  perRetailer : String → Option FrequencyConfig := fun slug => if slug = "mercadona" ∨ slug = "dia" then some monthly else none

def SchedulerConfig.forRetailer (config : SchedulerConfig) (slug : String) : FrequencyConfig :=
  (config.perRetailer slug).getD config.default

/-! ### The tables -/

structure Retailer where
  id : Nat
  slug : String
  isActive : Bool := true
deriving DecidableEq

structure Store where
  id : Nat
  retailerId : Nat
  isActive : Bool := true
deriving DecidableEq

/-- Unique by retailer, store and version, where the store is given. -/
structure ConnectorState where
  id : Nat
  retailerId : Nat
  storeId : Option Nat
  connectorVersion : String
  status : ConnectorStatus := .active
  consecutiveFailures : Nat := 0
  circuitOpenUntil : Option Instant := none
  updatedAt : Instant := 0
deriving DecidableEq

structure CrawlRun where
  id : Nat
  retailerId : Nat
  storeId : Option Nat
  runType : RunType
  scheduledAt : Instant
  status : RunStatus := .queued
  connectorVersion : Option String := none
deriving DecidableEq

structure ConnectorTable where
  states : List ConnectorState := []
  nextId : Nat := 1

structure CrawlDb where
  retailers : List Retailer := []
  stores : List Store := []
  connectors : ConnectorTable := {}
  runs : List CrawlRun := []
  jobs : List CrawlJob := []
  nextRunId : Nat := 1
  nextJobId : Nat := 1

structure ScheduleReport where
  acquiredLock : Bool := true
  runsCreated : Nat := 0
  jobsCreated : Nat := 0
  skippedExisting : Nat := 0
  skippedRetailers : Nat := 0
  runIds : List Nat := []
deriving DecidableEq

/-! ### One crawl -/

/-- A crawl that a call of the scheduler considers. -/
structure Slot where
  retailer : Retailer
  storeId : Option Nat
  runType : RunType
  cfg : FrequencyConfig

def storeText : Option Nat → String
  | none => "None"
  | some id => id.repr

/-- `_idempotency_key`. -/
def idempotencyKey (slug : String) (storeId : Option Nat) (runType : RunType) (day : Int) : String :=
  slug ++ ":" ++ storeText storeId ++ ":" ++ runType.value ++ ":" ++ isoformat day

/-- `_recent_run_exists`. -/
def recentRunExists (runs : List CrawlRun) (retailerId : Nat) (storeId : Option Nat) (runType : RunType)
    (cadenceDays : Int) (now : Instant) : Bool :=
  let cutoff := startOf (dayOf now) - max 0 (cadenceDays - 1) * dayLength
  runs.any fun run => run.retailerId = retailerId && run.runType = runType && cutoff ≤ run.scheduledAt &&
    run.storeId = storeId

def Slot.run (slot : Slot) (id : Nat) (now : Instant) : CrawlRun where
  id := id
  retailerId := slot.retailer.id
  storeId := slot.storeId
  runType := slot.runType
  scheduledAt := now

def storePayload : Option Nat → PayloadValue
  | none => .null
  | some id => .other id.repr id.repr

def Slot.payload (slot : Slot) : Payload :=
  ((Dict.empty.set "retailer_slug" (.text slot.retailer.slug)).set "store_id" (storePayload slot.storeId)).set
    "run_type" (.text slot.runType.value)

def Slot.key (slot : Slot) (now : Instant) : String :=
  idempotencyKey slot.retailer.slug slot.storeId slot.runType (dayOf now)

def Slot.call (slot : Slot) (runId : Nat) (now : Instant) : EnqueueCall where
  crawlRunId := runId
  jobType := slot.runType.value
  payload := some slot.payload
  priority := slot.cfg.priority
  maxAttempts := slot.cfg.maxAttempts
  idempotencyKey := some (slot.key now)

/-- `create_run` and `enqueue_jobs`: the run is there before the queue is asked. -/
def CrawlDb.create (db : CrawlDb) (slot : Slot) (now clock : Instant) : CrawlDb :=
  let jobs := (enqueueJob db.jobs db.nextJobId (slot.call db.nextRunId now) clock).1
  { db with
    runs := db.runs ++ [slot.run db.nextRunId now]
    nextRunId := db.nextRunId + 1
    jobs := jobs
    nextJobId := db.nextJobId + (jobs.length - db.jobs.length) }

/-- The body of the loop of `_schedule_store`; `clock` is what the queue reads. -/
def scheduleSlot (now clock : Instant) (force : Bool) (db : CrawlDb × ScheduleReport) (slot : Slot) :
    CrawlDb × ScheduleReport :=
  if !force && recentRunExists db.1.runs slot.retailer.id slot.storeId slot.runType (slot.cfg.cadenceFor slot.runType) now then
    (db.1, { db.2 with skippedExisting := db.2.skippedExisting + 1 })
  else
    (db.1.create slot now clock,
      { db.2 with
        runsCreated := db.2.runsCreated + 1
        jobsCreated := db.2.jobsCreated + 1
        runIds := db.2.runIds ++ [db.1.nextRunId] })

def storeSlots (retailer : Retailer) (cfg : FrequencyConfig) (storeId : Option Nat) : List Slot :=
  cfg.runTypes.map fun runType => { retailer := retailer, storeId := storeId, runType := runType, cfg := cfg }

/-- `_schedule_store`. -/
def scheduleStoreTypes (now clock : Instant) (force : Bool) (retailer : Retailer) (cfg : FrequencyConfig)
    (db : CrawlDb × ScheduleReport) (storeId : Option Nat) : CrawlDb × ScheduleReport :=
  (storeSlots retailer cfg storeId).foldl (scheduleSlot now clock force) db

/-! ### The calls -/

/-- `_stores_for`: without an active store the whole chain. -/
def storesFor (db : CrawlDb) (retailer : Retailer) : List (Option Nat) :=
  let stores := (db.stores.filter fun s => s.retailerId = retailer.id && s.isActive).insertionSort fun a b => a.id ≤ b.id
  if stores = [] then [none] else stores.map (some ·.id)

def activeRetailers (db : CrawlDb) : List Retailer :=
  (db.retailers.filter (·.isActive)).insertionSort fun a b => a.id ≤ b.id

def ConnectorState.usable (state : ConnectorState) (now : Instant) : Bool :=
  !(state.status = .disabled || state.status = .unsupported) && !state.circuitOpenUntil.any (now < ·)

/-- `_connector_blocked`: there are states, and none is usable. -/
def connectorBlocked (db : CrawlDb) (retailerId : Nat) (now : Instant) : Bool :=
  let states := db.connectors.states.filter (·.retailerId = retailerId)
  !states.isEmpty && states.all (!·.usable now)

/-- `schedule_retailer`. -/
def scheduleRetailer (config : SchedulerConfig) (now clock : Instant) (force : Bool) (db : CrawlDb × ScheduleReport)
    (retailer : Retailer) : CrawlDb × ScheduleReport :=
  (storesFor db.1 retailer).foldl
    (scheduleStoreTypes now clock force retailer (config.forRetailer retailer.slug)) db

/-- `db.get(Retailer, id)`. -/
def CrawlDb.retailer? (db : CrawlDb) (id : Nat) : Option Retailer := db.retailers.find? (·.id = id)

/-- `schedule_store`. -/
def scheduleStore (config : SchedulerConfig) (now clock : Instant) (force : Bool) (db : CrawlDb) (store : Store) :
    CrawlDb × ScheduleReport :=
  match db.retailer? store.retailerId with
  | none => (db, {})
  | some retailer =>
    scheduleStoreTypes now clock force retailer (config.forRetailer retailer.slug) (db, {}) (some store.id)

/-- `schedule_daily`; `lock` is whether the advisory lock is free. -/
def scheduleDaily (config : SchedulerConfig) (now clock : Instant) (lock : Bool) (db : CrawlDb) :
    CrawlDb × ScheduleReport :=
  if !lock then (db, { acquiredLock := false })
  else
    (activeRetailers db).foldl (fun db retailer =>
      if connectorBlocked db.1 retailer.id now then
        (db.1, { db.2 with skippedRetailers := db.2.skippedRetailers + 1 })
      else scheduleRetailer config now clock false db retailer) (db, {})

/-! ### The connectors -/

/-- `circuit_threshold` and `circuit_cooldown` of a worker. -/
structure CircuitConfig where
  threshold : Nat := 5
  cooldown : Int := 900000000

/-- `run.connector_version or _UNKNOWN_VERSION`. -/
def CrawlRun.version (run : CrawlRun) : String := (run.connectorVersion.filter (· ≠ "")).getD "unknown"

def ConnectorState.setStatus (status : ConnectorStatus) (now : Instant) (state : ConnectorState) : ConnectorState :=
  { state with status := status, updatedAt := now }

/-- What `_record_connector_success` makes of the state. -/
def ConnectorState.succeeded (now : Instant) (state : ConnectorState) : ConnectorState :=
  { state with consecutiveFailures := 0, circuitOpenUntil := none, status := .active, updatedAt := now }

/-- What `_record_connector_failure` makes of the state. -/
def ConnectorState.failed (circuit : CircuitConfig) (now : Instant) (state : ConnectorState) : ConnectorState :=
  let failures := state.consecutiveFailures + 1
  if circuit.threshold ≤ failures then
    { state with
      consecutiveFailures := failures
      status := .temporarilyBlocked
      circuitOpenUntil := some (now + circuit.cooldown)
      updatedAt := now }
  else { state with consecutiveFailures := failures, status := .degraded, updatedAt := now }

namespace ConnectorTable
variable (table : ConnectorTable)

def write (id : Nat) (f : ConnectorState → ConnectorState) : ConnectorTable :=
  { table with states := Updates.updateAt (·.id) id f table.states }

def add (state : ConnectorState) : ConnectorTable :=
  { states := table.states ++ [{ state with id := table.nextId }], nextId := table.nextId + 1 }

/-- `_get_or_create_state`: the table with the state of the run, and its id. -/
def getOrCreateState (run : CrawlRun) (now : Instant) : ConnectorTable × Nat :=
  match table.states.find? fun s =>
      s.retailerId = run.retailerId && s.storeId = run.storeId && s.connectorVersion = run.version with
  | some state => (table, state.id)
  | none =>
    (table.add
      { id := 0
        retailerId := run.retailerId
        storeId := run.storeId
        connectorVersion := run.version
        updatedAt := now }, table.nextId)

/-- `_record_connector_success`. -/
def recordSuccess (run : CrawlRun) (now : Instant) : ConnectorTable :=
  let (table, id) := table.getOrCreateState run now
  table.write id (ConnectorState.succeeded now)

/-- `_record_connector_failure`. -/
def recordFailure (circuit : CircuitConfig) (run : CrawlRun) (now : Instant) : ConnectorTable :=
  let (table, id) := table.getOrCreateState run now
  table.write id (ConnectorState.failed circuit now)

/-- `_latest_state` of the retailer as a whole. -/
def latestState (retailerId : Nat) : Option ConnectorState :=
  Selection.first (fun a b : ConnectorState => b.updatedAt < a.updatedAt ∨ b.updatedAt = a.updatedAt ∧ b.id ≤ a.id)
    (table.states.filter fun s => s.retailerId = retailerId && s.storeId = none)

/-- `_get_or_create_retailer_state`: the table with the state, and the state; `version` is the one of the adapter. -/
def getOrCreateRetailerState (retailerId : Nat) (version : Option String) (now : Instant) :
    ConnectorTable × ConnectorState :=
  match table.latestState retailerId with
  | some state => (table, state)
  | none =>
    let state : ConnectorState :=
      { id := table.nextId
        retailerId := retailerId
        storeId := none
        connectorVersion := version.getD "unknown"
        status := .disabled
        updatedAt := now }
    (table.add state, state)

/-- `enable_connector`; `legalBlocked` is whether the footing of its source forbids it. -/
def enable (retailerId : Nat) (version : Option String) (legalBlocked : Bool) (now : Instant) : ConnectorTable :=
  if legalBlocked then table
  else
    let (table, state) := table.getOrCreateRetailerState retailerId version now
    if state.status = .unsupported || state.status = .active then table
    else table.write state.id (ConnectorState.setStatus .active now)

/-- `disable_connector`. -/
def disable (retailerId : Nat) (version : Option String) (now : Instant) : ConnectorTable :=
  let (table, state) := table.getOrCreateRetailerState retailerId version now
  if state.status = .disabled then table
  else table.write state.id (ConnectorState.setStatus .disabled now)

end ConnectorTable

/-! ### Runs of the scheduler -/

inductive SchedulerEvent where
  | daily (config : SchedulerConfig) (now clock : Instant) (lock : Bool)
  | retailer (config : SchedulerConfig) (now clock : Instant) (force : Bool) (retailer : Retailer)
  | store (config : SchedulerConfig) (now clock : Instant) (force : Bool) (store : Store)
  /-- What a worker makes of a run and of a job. -/
  | runOutcome (id : Nat) (status : RunStatus) (connectorVersion : Option String)
  | jobOutcome (id : Nat) (status : JobStatus) (attempts : Nat)
  /-- What it records of the connector of a run after a job, done or not. -/
  | outcome (circuit : CircuitConfig) (runId : Nat) (ok : Bool) (now : Instant)
  | enable (chain : Retailer) (version : Option String) (legalBlocked : Bool) (now : Instant)
  | disable (chain : Retailer) (version : Option String) (now : Instant)
  /-- No code writes this status; it is set in the database. -/
  | unsupported (stateId : Nat) (now : Instant)
  | catalogue (retailers : List Retailer) (stores : List Store)

/-- The end of `_handle_claimed`: a run that is gone leaves the connectors as they are. -/
def CrawlDb.outcome (db : CrawlDb) (circuit : CircuitConfig) (runId : Nat) (ok : Bool) (now : Instant) : ConnectorTable :=
  match db.runs.find? (·.id = runId) with
  | none => db.connectors
  | some run => if ok then db.connectors.recordSuccess run now else db.connectors.recordFailure circuit run now

def CrawlDb.step (db : CrawlDb) : SchedulerEvent → CrawlDb
  | .daily config now clock lock => (scheduleDaily config now clock lock db).1
  | .retailer config now clock force retailer => (scheduleRetailer config now clock force (db, {}) retailer).1
  | .store config now clock force store => (scheduleStore config now clock force db store).1
  | .runOutcome id status version =>
    { db with
      runs := Updates.updateAt (·.id) id (fun run => { run with status := status, connectorVersion := version }) db.runs }
  | .jobOutcome id status attempts =>
    { db with
      jobs := Updates.updateAt (·.id) id (fun job => { job with status := status, attempts := attempts }) db.jobs }
  | .outcome circuit runId ok now => { db with connectors := db.outcome circuit runId ok now }
  | .enable chain version legalBlocked now =>
    { db with connectors := db.connectors.enable chain.id version legalBlocked now }
  | .disable chain version now => { db with connectors := db.connectors.disable chain.id version now }
  | .unsupported stateId now =>
    { db with connectors := db.connectors.write stateId (ConnectorState.setStatus .unsupported now) }
  | .catalogue retailers stores => { db with retailers := retailers, stores := stores }

end CestaPlan.Jobs
