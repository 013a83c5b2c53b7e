import CestaPlan.Library.Flips
import CestaPlan.Library.Runs

/-! The checklist of a grocery list on a device that may be offline: the server, which only flips an item, the store and
    the queue of the device, the hook that joins them, and the requests on their way. The rows are those of one meal plan. -/

namespace CestaPlan.Grocery
open Flips

abbrev ItemId := Nat

/-! ### The states -/

/-- How far a request to flip an item has come. The server reads the item, and commits its negation later. -/
inductive Phase where
  | sent
  | read (isChecked : Bool)
  | applied
deriving DecidableEq, Repr

/-- Who waits for a request. -/
inductive Caller where
  /-- The `toggle` that sent it. -/
  | toggle
  /-- Nobody, and nobody sends its flip again. -/
  | nobody
  /-- Nobody, and its flip is queued again. -/
  | requeued
deriving DecidableEq, Repr

structure Request where
  itemId : ItemId
  phase : Phase
  caller : Caller
deriving DecidableEq, Repr

/-- A row of the store `syncQueue`. -/
structure QueuedToggle where
  id : Nat
  itemId : ItemId
deriving DecidableEq, Repr

/-- A call of `toggle` that waits for `setItemState`. It was made while the device was online or not. -/
structure Storing where
  itemId : ItemId
  next : Bool
  isOnline : Bool
deriving DecidableEq, Repr

/-- Where the loop of `flush` stands with its first entry. -/
inductive FlushStep where
  | next
  | calling (phase : Phase)
  | removing
deriving DecidableEq, Repr

/-- A run of `flush`, with the entries that it has yet to replay. -/
structure Flush where
  queued : List QueuedToggle
  step : FlushStep
deriving DecidableEq, Repr

/-- What the callbacks of a render close over. -/
structure Rendered where
  overrides : ItemId → Option Bool
  serverChecked : ItemId → Bool
  isOnline : Bool

/-- `syncingRef` is set while there is a `flush`. -/
structure State where
  /-- The checked state on the server. -/
  isChecked : ItemId → Bool
  requests : List Request
  itemState : ItemId → Option Bool
  syncQueue : List QueuedToggle
  autoIncrement : Nat
  overrides : ItemId → Option Bool
  pendingCount : Nat
  isHydrated : Bool
  storing : List Storing
  /-- The calls of `toggle` that wait for `enqueueToggle`. -/
  queueing : List ItemId
  flush : Option Flush
  isOnline : Bool
  /-- The checked states of the fetched list, which outlives the page as its snapshot. -/
  list : ItemId → Bool
  /-- The lists that the server has sent and the page has yet to take over. -/
  responses : List (ItemId → Bool)
  rendered : Rendered

/-- A device on which the list is opened for the first time. -/
def opened (isChecked : ItemId → Bool) (isOnline : Bool) : State where
  isChecked := isChecked
  requests := []
  itemState := fun _ => none
  syncQueue := []
  autoIncrement := 1
  overrides := fun _ => none
  pendingCount := 0
  isHydrated := false
  storing := []
  queueing := []
  flush := none
  isOnline := isOnline
  list := isChecked
  responses := []
  rendered := { overrides := fun _ => none, serverChecked := isChecked, isOnline := false }

def effectiveChecked (overrides : ItemId → Option Bool) (itemId : ItemId) (serverChecked : Bool) : Bool :=
  (overrides itemId).getD serverChecked

/-- The checked state that the device shows. -/
def State.shown (s : State) (itemId : ItemId) : Bool := effectiveChecked s.overrides itemId (s.list itemId)

/-! ### The store of the device -/

def setItemState (itemState : ItemId → Option Bool) (tap : Storing) : ItemId → Option Bool :=
  Function.update itemState tap.itemId (some tap.next)

def enqueueToggle (s : State) (itemId : ItemId) : State :=
  { s with
    syncQueue := s.syncQueue ++ [{ id := s.autoIncrement, itemId := itemId }]
    autoIncrement := s.autoIncrement + 1 }

def removeQueuedToggle (s : State) (id : Nat) : State :=
  { s with syncQueue := s.syncQueue.filter (·.id != id) }

/-! ### The server -/

/-- `toggle_item` reads the item of a request. -/
def toggleItemReads (s : State) (k : Nat) : State :=
  match s.requests[k]? with
  | some ⟨itemId, .sent, caller⟩ =>
    { s with requests := s.requests.set k ⟨itemId, .read (s.isChecked itemId), caller⟩ }
  | _ => s

/-- `toggle_item` commits the negation of what it read. A request that nobody waits for is over then. -/
def toggleItemCommits (s : State) (k : Nat) : State :=
  match s.requests[k]? with
  | some ⟨itemId, .read isChecked, .toggle⟩ =>
    { s with
      isChecked := Function.update s.isChecked itemId (!isChecked)
      requests := s.requests.set k ⟨itemId, .applied, .toggle⟩ }
  | some ⟨itemId, .read isChecked, _⟩ =>
    { s with
      isChecked := Function.update s.isChecked itemId (!isChecked)
      requests := s.requests.eraseIdx k }
  | _ => s

/-- The same for the request of the running `flush`. -/
def flushReads (s : State) : State :=
  match s.flush with
  | some ⟨entry :: queued, .calling .sent⟩ =>
    { s with flush := some ⟨entry :: queued, .calling (.read (s.isChecked entry.itemId))⟩ }
  | _ => s

def flushCommits (s : State) : State :=
  match s.flush with
  | some ⟨entry :: queued, .calling (.read isChecked)⟩ =>
    { s with
      isChecked := Function.update s.isChecked entry.itemId (!isChecked)
      flush := some ⟨entry :: queued, .calling .applied⟩ }
  | _ => s

/-! ### The hook -/

/-- `toggle` up to its first `await`. -/
def toggle (s : State) (itemId : ItemId) : State :=
  let effective := effectiveChecked s.rendered.overrides itemId (s.rendered.serverChecked itemId)
  let tap : Storing := { itemId := itemId, next := !effective, isOnline := s.rendered.isOnline }
  { s with overrides := setItemState s.overrides tap, storing := s.storing ++ [tap] }

/-- `setItemState` is done for the oldest call that waits for it, which sends its request or goes on to the queue. -/
def toggleStored (s : State) : State :=
  match s.storing with
  | [] => s
  | tap :: storing =>
    let stored := { s with itemState := setItemState s.itemState tap, storing := storing }
    if tap.isOnline then { stored with requests := s.requests ++ [⟨tap.itemId, .sent, .toggle⟩] }
    else { stored with queueing := s.queueing ++ [tap.itemId] }

/-- The answer comes back. The server answers before or after it commits. -/
def toggleAnswered (s : State) (k : Nat) : State :=
  match s.requests[k]? with
  | some ⟨_, .applied, .toggle⟩ => { s with requests := s.requests.eraseIdx k }
  | some ⟨itemId, .read isChecked, .toggle⟩ =>
    { s with requests := s.requests.set k ⟨itemId, .read isChecked, .nobody⟩ }
  | _ => s

/-- The request fails for the device, wherever it is by then, and its flip goes on to the queue. -/
def toggleFailed (s : State) (k : Nat) : State :=
  match s.requests[k]? with
  | some ⟨itemId, .applied, .toggle⟩ =>
    { s with requests := s.requests.eraseIdx k, queueing := s.queueing ++ [itemId] }
  | some ⟨itemId, phase, .toggle⟩ =>
    { s with requests := s.requests.set k ⟨itemId, phase, .requeued⟩, queueing := s.queueing ++ [itemId] }
  | _ => s

/-- A request that nobody waits for never reaches the server, or is rolled back there. -/
def requestLost (s : State) (k : Nat) : State :=
  match s.requests[k]? with
  | some ⟨_, _, .toggle⟩ | none => s
  | some _ => { s with requests := s.requests.eraseIdx k }

def toggleQueued (s : State) : State :=
  match s.queueing with
  | [] => s
  | itemId :: queueing =>
    { enqueueToggle s itemId with queueing := queueing, pendingCount := s.pendingCount + 1 }

/-- The effect on `isOnline` runs `flush`, which reads the queue. -/
def flushStart (s : State) : State :=
  match s.rendered.isOnline, s.flush with
  | true, none => { s with flush := some ⟨s.syncQueue, .next⟩ }
  | _, _ => s

/-- The loop takes its next entry, or ends. -/
def flushNext (s : State) : State :=
  match s.flush with
  | some ⟨[], .next⟩ => { s with pendingCount := s.syncQueue.length, flush := none }
  | some ⟨entry :: queued, .next⟩ => { s with flush := some ⟨entry :: queued, .calling .sent⟩ }
  | _ => s

def flushAnswered (s : State) : State :=
  match s.flush with
  | some ⟨entry :: queued, .calling .applied⟩ => { s with flush := some ⟨entry :: queued, .removing⟩ }
  | some ⟨entry :: queued, .calling (.read isChecked)⟩ =>
    { s with
      requests := s.requests ++ [⟨entry.itemId, .read isChecked, .nobody⟩]
      flush := some ⟨entry :: queued, .removing⟩ }
  | _ => s

def flushRemoved (s : State) : State :=
  match s.flush with
  | some ⟨entry :: queued, .removing⟩ => { removeQueuedToggle s entry.id with flush := some ⟨queued, .next⟩ }
  | _ => s

/-- The request of `flush` on its way, now that its entry stays in the queue. -/
def abandoned : Option Flush → List Request
  | some ⟨entry :: _, .calling phase⟩ => if phase = .applied then [] else [⟨entry.itemId, phase, .requeued⟩]
  | _ => []

/-- The network dropped again: the loop breaks and the entry stays in the queue. -/
def flushFailed (s : State) : State :=
  match s.flush with
  | some ⟨_, .calling _⟩ =>
    { s with requests := s.requests ++ abandoned s.flush, flush := some ⟨[], .next⟩ }
  | _ => s

/-! ### The page -/

def connectivity (s : State) (isOnline : Bool) : State := { s with isOnline := isOnline }

def render (s : State) : State :=
  { s with rendered := { overrides := s.overrides, serverChecked := s.list, isOnline := s.isOnline } }

/-- The server sends the list. -/
def listSent (s : State) : State := { s with responses := s.responses ++ [s.isChecked] }

def listFetched (s : State) (k : Nat) : State :=
  match s.responses[k]? with
  | none => s
  | some list => { s with list := list, responses := s.responses.eraseIdx k }

/-- The stored states and the queue are loaded. -/
def hydrate (s : State) : State :=
  match s.isHydrated with
  | true => s
  | false => { s with overrides := s.itemState, pendingCount := s.syncQueue.length, isHydrated := true }

def Request.left (r : Request) : Request :=
  match r.caller with
  | .toggle => { r with caller := .nobody }
  | _ => r

/-- The page starts anew. Of the item states that its calls of `toggle` wait for, the first `puts` are still stored. -/
def restart (s : State) (puts : Nat) : State :=
  { s with
    requests := (s.requests.filter (·.phase != .applied)).map Request.left ++ abandoned s.flush
    itemState := (s.storing.take puts).foldl setItemState s.itemState
    overrides := fun _ => none
    pendingCount := 0
    isHydrated := false
    storing := []
    flush := none
    responses := []
    rendered := { overrides := fun _ => none, serverChecked := s.list, isOnline := false } }

/-- The page is closed and opened again. Of the rows that wait for the queue, the first `adds` still get there, and the
    removal of a replayed row goes through if it `removes`. -/
def reload (s : State) (puts adds : Nat) (removes : Bool) : State :=
  let s := match removes with | true => flushRemoved s | false => s
  (s.queueing.take adds).foldl enqueueToggle { restart s puts with queueing := [] }

/-! ### Runs -/

inductive ChecklistEvent where
  | toggle (itemId : ItemId)
  | toggleStored
  | toggleItemReads (k : Nat)
  | toggleItemCommits (k : Nat)
  | toggleAnswered (k : Nat)
  | toggleFailed (k : Nat)
  | requestLost (k : Nat)
  | toggleQueued
  | flushStart
  | flushNext
  | flushReads
  | flushCommits
  | flushAnswered
  | flushRemoved
  | flushFailed
  | connectivity (isOnline : Bool)
  | render
  | listSent
  | listFetched (k : Nat)
  | hydrate
  | reload (puts adds : Nat) (removes : Bool)

/-- One step of the device, of the network or of the server. A step that cannot be taken leaves the state. -/
def ChecklistEvent.step (s : State) : ChecklistEvent → State
  | .toggle itemId => Grocery.toggle s itemId
  | .toggleStored => Grocery.toggleStored s
  | .toggleItemReads k => Grocery.toggleItemReads s k
  | .toggleItemCommits k => Grocery.toggleItemCommits s k
  | .toggleAnswered k => Grocery.toggleAnswered s k
  | .toggleFailed k => Grocery.toggleFailed s k
  | .requestLost k => Grocery.requestLost s k
  | .toggleQueued => Grocery.toggleQueued s
  | .flushStart => Grocery.flushStart s
  | .flushNext => Grocery.flushNext s
  | .flushReads => Grocery.flushReads s
  | .flushCommits => Grocery.flushCommits s
  | .flushAnswered => Grocery.flushAnswered s
  | .flushRemoved => Grocery.flushRemoved s
  | .flushFailed => Grocery.flushFailed s
  | .connectivity isOnline => Grocery.connectivity s isOnline
  | .render => Grocery.render s
  | .listSent => Grocery.listSent s
  | .listFetched k => Grocery.listFetched s k
  | .hydrate => Grocery.hydrate s
  | .reload puts adds removes => Grocery.reload s puts adds removes

def checklistStep (s : State) (event : ChecklistEvent) : State := event.step s

/-- The stored states are loaded, the queue is empty, and nothing is on its way to it or to the server. -/
structure State.AtRest (s : State) : Prop where
  isHydrated : s.isHydrated = true
  storing : s.storing = []
  queueing : s.queueing = []
  syncQueue : s.syncQueue = []
  requests : s.requests = []

/-- Whenever the device is at rest, the server has for every item the checked state that the device shows. -/
def InSync (s : State) (events : List ChecklistEvent) : Prop :=
  ∀ pre, pre <+: events → (pre.foldl checklistStep s).AtRest →
    ∀ itemId, (pre.foldl checklistStep s).isChecked itemId = (pre.foldl checklistStep s).shown itemId

end CestaPlan.Grocery
