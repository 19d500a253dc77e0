import ManifestLint.Checking.Rules
import ManifestLint.Fetching.Host
import ManifestLint.Manifest.Reading
import ManifestLint.Session.Query
import ManifestLint.Tracking.Tracker

/-!
# Jobs

What is under way in a session.  A job is a query, the refresh of a document, or a batch of
refreshes; queries and refreshes run in threads, one for a query and one for each check of a
document.  While the gate to the host is closed a thread that sends a request is parked; when the
gate opens the parked threads go on in the order in which they were parked.

A refresh ends when its last check has ended, and is settled then.  If a check ends in a fault the
refresh ends with it at once, and so does its batch; the other threads go on nevertheless.

* `Workshop.start…` start jobs, `Workshop.work` lets threads run and settles what has ended.
-/

namespace ManifestLint

/-- What a thread ends with: the answer of a query, or what a check found. -/
inductive Yield where
  | answer (value : Answer)
  | found (value : Option Finding)

/-- The value of a job that has ended. -/
abbrev Outcome : Type := Except Fault Answer

/-- What a job does. -/
inductive Task where
  /-- A query. -/
  | query
  /-- The refresh of a document under a generation, perhaps for a batch; what its checks have found
  so far, in their order. -/
  | refresh (batch : Option Nat) (uri : String) (generation : Nat) (manifest : Manifest)
      (found : List (Option (Option Finding)))
  /-- Refreshes of which some are still under way. -/
  | batch (left : Nat)

/-- A job, and its outcome once it has ended. -/
structure Job where
  task : Task
  outcome : Option Outcome := none

/-- A thread that can run: its job, its place among the job's threads, and what it does. -/
structure Thread where
  job : Nat
  place : Nat
  action : Action Registry (Except Fault Yield)

/-- A thread that waits for the reply to a request. -/
structure Parked where
  job : Nat
  place : Nat
  request : Request
  resume : Registry → Reply → Program Registry (Except Fault Yield)

/-- The parts of a session that jobs work on. -/
structure Workshop where
  registry : Registry := {}
  tracker : Tracker := {}
  host : Host := .repositories []
  gateOpen : Bool := true
  jobs : List Job := []
  parked : List Parked := []

namespace Workshop

/-- The outcome of a job, if it has ended. -/
def outcome? (shop : Workshop) (job : Nat) : Option Outcome :=
  (shop.jobs[job]?).bind (·.outcome)

/-- The workshop with one more job, and the job's number. -/
def addJob (shop : Workshop) (job : Job) : Workshop × Nat :=
  ({ shop with jobs := shop.jobs ++ [job] }, shop.jobs.length)

/-- The workshop with a job changed. -/
def modifyJob (shop : Workshop) (job : Nat) (change : Job → Job) : Workshop :=
  { shop with jobs := shop.jobs.modify job change }

/-- The workshop after a job has ended, unless it had ended before. -/
def finish (shop : Workshop) (job : Nat) (outcome : Outcome) : Workshop :=
  shop.modifyJob job fun job =>
    { job with outcome := some (job.outcome.getD outcome) }

/-- The workshop after one part of a batch has ended. -/
def finishPart (shop : Workshop) (batch : Option Nat) (fault : Option Fault) : Workshop :=
  match batch with
  | none => shop
  | some batch =>
    match fault, shop.jobs[batch]? with
    | some fault, _ => shop.finish batch (.error fault)
    | none, some { task := .batch (left + 2), .. } =>
      shop.modifyJob batch fun job => { job with task := .batch (left + 1) }
    | none, _ => shop.finish batch (.ok .nothing)

/-- The workshop after a refresh has ended. -/
def finishRefresh (shop : Workshop) (job : Nat) (batch : Option Nat)
    (published : Option (List Finding)) : Workshop :=
  (shop.finish job (.ok (.ofOption .findings published))).finishPart batch none

/-- The workshop after the findings of a refresh were settled. -/
def settle (shop : Workshop) (job : Nat) : Workshop :=
  match shop.jobs[job]? with
  | some { task := .refresh batch uri generation manifest found, outcome := none } =>
    let findings := Rule.sorted manifest (found.map (·.join))
    let (tracker, published) := shop.tracker.settle uri generation findings
    { shop with tracker }.finishRefresh job batch published
  | _ => shop

/-- Takes what a thread has ended with, and tells whether that was the last part of a refresh. -/
def deliver (shop : Workshop) (job place : Nat) (yield : Except Fault Yield) : Workshop × Bool :=
  match yield, shop.jobs[job]? with
  | .ok (.found value), some { task := .refresh batch uri generation manifest found, outcome } =>
    let found := found.set place (some value)
    let task := .refresh batch uri generation manifest found
    (shop.modifyJob job fun job => { job with task }, found.all (·.isSome) && outcome.isNone)
  | .error fault, some { task := .refresh batch .., outcome := none } =>
    ((shop.finish job (.error fault)).finishPart batch (some fault), false)
  | .ok (.answer value), _ => (shop.finish job (.ok value), false)
  | .error fault, _ => (shop.finish job (.error fault), false)
  | .ok (.found _), _ => (shop, false)

/-- Lets a thread run until it ends, or until it waits at a closed gate. -/
def runThread (shop : Workshop) (thread : Thread) : Workshop × Bool :=
  let program := thread.action shop.registry
  if shop.gateOpen then
    let (registry, yield) := program.run shop.host.answer
    { shop with registry }.deliver thread.job thread.place yield
  else
    match program with
    | .done registry yield => { shop with registry }.deliver thread.job thread.place yield
    | .waiting registry request resume =>
      ({ shop with
        registry
        parked := shop.parked ++ [⟨thread.job, thread.place, request, resume⟩] }, false)

/-- Lets threads run one after the other, and collects the refreshes whose last check ended. -/
def runThreads (shop : Workshop) : List Thread → Workshop × List Nat
  | [] => (shop, [])
  | thread :: rest =>
    let (shop, ended) := shop.runThread thread
    let (shop, others) := shop.runThreads rest
    (shop, if ended then thread.job :: others else others)

/-- Lets threads run, then settles the refreshes that have ended, in that order. -/
def work (shop : Workshop) (threads : List Thread) : Workshop :=
  let (shop, ended) := shop.runThreads threads
  ended.foldl settle shop

/-- Opens or closes the gate.  When it opens, all parked threads go on. -/
def setGate (shop : Workshop) (isOpen : Bool) : Workshop :=
  if isOpen then
    let threads := shop.parked.map fun parked =>
      ⟨parked.job, parked.place, fun registry =>
        parked.resume registry (shop.host.answer parked.request)⟩
    { shop with gateOpen := true, parked := [] }.work threads
  else { shop with gateOpen := false }

/-- Starts a query. -/
def startQuery (shop : Workshop) (lookup : Lookup Answer) : Workshop × Nat :=
  let (shop, job) := shop.addJob { task := .query }
  let action : Action Registry (Except Fault Yield) := do
    return (← lookup.run).map .answer
  (shop.work [⟨job, 0, action⟩], job)

/-- The threads of the checks of a document. -/
def checkThreads (job : Nat) (checks : List (Lookup (Option Finding))) : List Thread :=
  checks.zipIdx.map fun (check, place) =>
    ⟨job, place, do return (← check.run).map Yield.found⟩

/-- Takes up the refresh of a document: what can be settled at once is, and else its threads are
to be run. -/
def openRefresh (shop : Workshop) (batch : Option Nat) (uri text : String) :
    Workshop × Nat × List Thread :=
  let (tracker, start) := shop.tracker.refresh uri text
  let shop := { shop with tracker }
  match start with
  | .untracked =>
    let (shop, job) := shop.addJob { task := .query }
    (shop.finishRefresh job batch none, job, [])
  | .cleared =>
    let (shop, job) := shop.addJob { task := .query }
    (shop.finishRefresh job batch (some []), job, [])
  | .started generation =>
    match Manifest.parse? text with
    | none =>
      let (shop, job) := shop.addJob { task := .query }
      let (tracker, published) := shop.tracker.settle uri generation []
      ({ shop with tracker }.finishRefresh job batch published, job, [])
    | some manifest =>
      let (handle, registry) := shop.registry.find? manifest.indexUrl
      let checks := Rule.checks manifest handle
      let task := .refresh batch uri generation manifest (checks.map fun _ => none)
      let (shop, job) := { shop with registry }.addJob { task }
      (shop, job, checkThreads job checks)

/-- Starts the refresh of a document. -/
def startRefresh (shop : Workshop) (uri text : String) : Workshop × Nat :=
  let (shop, job, threads) := shop.openRefresh none uri text
  (shop.work threads, job)

/-- Takes up the refreshes of several documents. -/
def openRefreshes (shop : Workshop) (batch : Nat) :
    List (String × String) → Workshop × List Thread
  | [] => (shop, [])
  | (uri, text) :: rest =>
    let (shop, _, threads) := shop.openRefresh (some batch) uri text
    let (shop, others) := shop.openRefreshes batch rest
    (shop, threads ++ others)

/-- Starts the refreshes of all documents. -/
def startRefreshAll (shop : Workshop) : Workshop × Nat :=
  let documents := shop.tracker.documents
  let (shop, batch) := shop.addJob { task := .batch documents.length }
  if documents.isEmpty then (shop.finish batch (.ok .nothing), batch)
  else
    let (shop, threads) := shop.openRefreshes batch documents
    (shop.work threads, batch)

end Workshop

end ManifestLint
