import ManifestLint.Session.Job

/-!
# Sessions

A session is a sequence of steps on one registry, one tracker and one host.  A step may also start
another one without waiting for it, and take up its outcome later.

* `Session.step` performs a step and gives its outcome; there is none while the step is under way.
* `Report.between` says what happened between two states of a session.
-/

namespace ManifestLint

/-- What can be done in a session. -/
inductive Step where
  /-- Puts a query to the client for a URL, which belongs to the store or stands alone. -/
  | query (alone : Bool) (url : String) (query : Query)
  | find (url : String)
  | require (url : String)
  | clients
  | setToken (token : Option String)
  | invalidateAll
  | close
  | fetch (request : Request)
  | setFetcherToken (token : Option String)
  | closeFetcher
  | setStatus (place : String) (status : Int)
  | store (place : String) (kind : RequestKind) (id : String) (stored : Stored)
  | advance (seconds : Float)
  | notify (message : String)
  | pending
  | reset
  | complete (text : String) (position : Toml.Position)
  | init (uri text : String)
  | refresh (uri text : String)
  | delete (uri : String)
  | setEnabled (enabled : Bool)
  | refreshAll
  | findingsOf (uri : String)
  | summary (uri : Option String)
  | isTracked (uri : String)
  | addListener (id : String)
  | removeListener (id : String)
  | setGate (isOpen : Bool)
  | start (id : String) (step : Step)
  | join (id : String)

/-- Where the outcome of a step is found: it is there, or a job will have it. -/
inductive Pending where
  | settled (outcome : Outcome)
  | underWay (job : Nat)

/-- A session: what its jobs work on, and the steps that were started. -/
structure Session extends Workshop where
  started : Entries String Pending := []

namespace Session

/-- The client for a URL. -/
def clientFor (alone : Bool) (url : String) : Lookup Handle :=
  if alone then Lookup.requireAlone url else Lookup.require url

/-- The session with its registry changed. -/
def onRegistry (session : Session) (change : Registry → Registry) : Session :=
  { session with registry := change session.registry }

/-- The session with its tracker changed. -/
def onTracker (session : Session) (change : Tracker → Tracker) : Session :=
  { session with tracker := change session.tracker }

/-- The session with its host changed. -/
def onHost (session : Session) (change : Host → Host) : Session :=
  { session with host := change session.host }

/-- The session after a job was started. -/
def onWorkshop (session : Session) (start : Workshop → Workshop × Nat) : Session × Pending :=
  let (shop, job) := start session.toWorkshop
  ({ session with toWorkshop := shop }, .underWay job)

/-- Starts a query. -/
def ask (session : Session) (lookup : Lookup Answer) : Session × Pending :=
  session.onWorkshop (·.startQuery lookup)

/-- A session and an answer that is there at once. -/
def answering (session : Session) (answer : Answer) : Session × Pending :=
  (session, .settled (.ok answer))

/-- The candidates at a position of a text, unless it is no manifest. -/
def complete (text : String) (position : Toml.Position) : Lookup Answer := do
  match Manifest.parse? text with
  | some manifest => return .candidates (← Lookup.candidatesAt manifest position)
  | none => return .nothing

/-- Begins a step, and says where its outcome is found. -/
def begin (session : Session) : Step → Session × Pending
  | .query alone url query => session.ask do query.run (← clientFor alone url)
  | .find url => session.ask do return .ofOption .client (← Lookup.find? url)
  | .require url => session.ask do return .client (← Lookup.require url)
  | .clients => session.answering (.texts (session.registry.shared.map (·.url)))
  | .setToken token => session.ask do return .flag (← Lookup.setStoreToken token)
  | .invalidateAll => session.ask do
      Lookup.invalidateAll
      return .nothing
  | .close =>
    (session.onRegistry fun registry =>
      { registry with fetcher := registry.fetcher.close }).answering (.flag true)
  | .fetch request => session.ask do return .result (← Lookup.fetch request)
  | .setFetcherToken token => session.ask do
      Lookup.setFetcherToken token
      return .nothing
  | .closeFetcher =>
    (session.onRegistry fun registry =>
      { registry with fetcher := registry.fetcher.close }).answering .nothing
  | .setStatus place status =>
    let change (repository : Repository) : Repository := { repository with status }
    (session.onHost (·.update place change)).answering .nothing
  | .store place kind id stored =>
    (session.onHost (·.update place (·.store kind id stored))).answering .nothing
  | .advance seconds =>
    (session.onRegistry fun registry =>
      { registry with notifier := registry.notifier.advance seconds }).answering .nothing
  | .notify message => session.ask do return .flag (← Lookup.notify message)
  | .pending => session.answering (.count session.registry.notifier.pending)
  | .reset =>
    (session.onRegistry fun registry =>
      { registry with notifier := registry.notifier.reset }).answering .nothing
  | .complete text position => session.ask (complete text position)
  | .init uri text =>
    if session.tracker.isTracked uri then session.answering .nothing
    else (session.onTracker (·.track uri text)).onWorkshop (·.startRefresh uri text)
  | .refresh uri text => session.onWorkshop (·.startRefresh uri text)
  | .delete uri => (session.onTracker (·.delete uri)).answering .nothing
  | .setEnabled true => (session.onTracker Tracker.enable).onWorkshop (·.startRefreshAll)
  | .setEnabled false => (session.onTracker Tracker.disable).answering .nothing
  | .refreshAll => session.onWorkshop (·.startRefreshAll)
  | .findingsOf uri => session.answering (.findings (session.tracker.findingsOf uri))
  | .summary (some uri) => session.answering (.summary (session.tracker.summaryOf uri))
  | .summary none => session.answering (.summary session.tracker.summary)
  | .isTracked uri => session.answering (.flag (session.tracker.isTracked uri))
  | .addListener id => (session.onTracker (·.addListener id)).answering .nothing
  | .removeListener id => (session.onTracker (·.removeListener id)).answering .nothing
  | .setGate isOpen =>
    ({ session with toWorkshop := session.toWorkshop.setGate isOpen }).answering .nothing
  | .start id step =>
    let (session, pending) := session.begin step
    ({ session with started := session.started.put id pending }).answering .nothing
  | .join id =>
    match session.started.get? id with
    | some pending => (session, pending)
    | none => session.answering .nothing

/-- The outcome that a step has by now. -/
def outcome? (session : Session) : Pending → Option Outcome
  | .settled outcome => some outcome
  | .underWay job => session.toWorkshop.outcome? job

/-- Performs a step, and gives its outcome unless it is still under way. -/
def step (session : Session) (step : Step) : Session × Option Outcome :=
  let (session, pending) := session.begin step
  (session, session.outcome? pending)

end Session

/-- What happened during a step: the messages and publications that were delivered, and what the
fetcher was used for. -/
structure Report where
  sent : List String
  deliveries : List Delivery
  events : List Event

/-- What happened between two states of a session. -/
def Report.between (before after : Session) : Report where
  sent := after.registry.notifier.delivered.drop before.registry.notifier.delivered.length
  deliveries := after.tracker.deliveries.drop before.tracker.deliveries.length
  events := after.registry.fetcher.journal.drop before.registry.fetcher.journal.length

end ManifestLint
