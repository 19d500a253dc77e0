import ManifestLint.Collections.Entries
import ManifestLint.Finding.Basic

/-!
# Tracked documents

The documents whose findings are kept current.  Every refresh of a document gets a generation of its
own; while it is under way the document may be changed, dropped and taken up again, and the checks
may be switched off.  A refresh is therefore settled only if, at that time, the checks are on, the
document is tracked and no later refresh of it has started.

* `Tracker.refresh` starts a refresh, `Tracker.settle` publishes its findings or throws them away.
* Every publication is delivered to all listeners, in the order in which they were added.
-/

namespace ManifestLint

/-- A publication, as one listener received it. -/
structure Delivery where
  listener : String
  uri : String
  findings : List Finding
  deriving DecidableEq, Repr

/-- The tracked documents with their texts, the findings that were published last where there are
any, the generation of the last refresh of each document, the count of refreshes, the listeners, and
all deliveries so far. -/
structure Tracker where
  enabled : Bool := true
  documents : Entries String String := []
  findings : Entries String (List Finding) := []
  generations : Entries String Nat := []
  counter : Nat := 0
  listeners : List String := []
  deliveries : List Delivery := []
  deriving DecidableEq, Repr

/-- How a refresh starts. -/
inductive Refresh where
  /-- The document is not tracked. -/
  | untracked
  /-- The checks are off; the document was published without findings. -/
  | cleared
  /-- The checks are under way under this generation. -/
  | started (generation : Nat)
  deriving DecidableEq, Repr

namespace Tracker

/-- The tracker with one more listener. -/
def addListener (tracker : Tracker) (listener : String) : Tracker :=
  { tracker with listeners := tracker.listeners ++ [listener] }

/-- The tracker without the first occurrence of a listener. -/
def removeListener (tracker : Tracker) (listener : String) : Tracker :=
  { tracker with listeners := tracker.listeners.erase listener }

/-- Whether a document is tracked. -/
def isTracked (tracker : Tracker) (uri : String) : Bool := tracker.documents.has uri

/-- The findings that were published last for a document. -/
def findingsOf (tracker : Tracker) (uri : String) : List Finding :=
  (tracker.findings.get? uri).getD []

/-- The counts of the findings of a document. -/
def summaryOf (tracker : Tracker) (uri : String) : Summary := .of (tracker.findingsOf uri)

/-- The counts of the findings of all documents. -/
def summary (tracker : Tracker) : Summary :=
  tracker.findings.foldl (fun total entry => total + .of entry.2) {}

/-- The tracker after findings of a document were published. -/
def publish (tracker : Tracker) (uri : String) (findings : List Finding) : Tracker :=
  { tracker with
    findings :=
      if findings.isEmpty then tracker.findings.erase uri else tracker.findings.put uri findings
    deliveries := tracker.deliveries ++ tracker.listeners.map (⟨·, uri, findings⟩) }

/-- The tracker after a refresh of a document was counted. -/
def nextGeneration (tracker : Tracker) (uri : String) : Tracker :=
  { tracker with
    counter := tracker.counter + 1
    generations := tracker.generations.put uri (tracker.counter + 1) }

/-- Whether the findings of a refresh are still wanted. -/
def isCurrent (tracker : Tracker) (uri : String) (generation : Nat) : Bool :=
  tracker.enabled && tracker.isTracked uri && tracker.generations.get? uri = some generation

/-- Takes a document up. -/
def track (tracker : Tracker) (uri text : String) : Tracker :=
  { tracker with documents := tracker.documents.put uri text }

/-- Starts a refresh of a document with a text. -/
def refresh (tracker : Tracker) (uri text : String) : Tracker × Refresh :=
  if tracker.isTracked uri then
    let counted := (tracker.track uri text).nextGeneration uri
    if counted.enabled then (counted, .started counted.counter)
    else (counted.publish uri [], .cleared)
  else (tracker, .untracked)

/-- Publishes the findings of a refresh if they are still wanted, and tells which were published. -/
def settle (tracker : Tracker) (uri : String) (generation : Nat) (findings : List Finding) :
    Tracker × Option (List Finding) :=
  if tracker.isCurrent uri generation then (tracker.publish uri findings, some findings)
  else (tracker, none)

/-- Drops a document. -/
def delete (tracker : Tracker) (uri : String) : Tracker :=
  if tracker.isTracked uri then
    { tracker with
      documents := tracker.documents.erase uri
      generations := tracker.generations.erase uri }.publish uri []
  else tracker

/-- Switches the checks off: refreshes that are under way become outdated, and every document is
published without findings. -/
def disable (tracker : Tracker) : Tracker :=
  tracker.documents.keys.foldl (fun tracker uri => (tracker.nextGeneration uri).publish uri [])
    { tracker with enabled := false }

/-- Switches the checks on. -/
def enable (tracker : Tracker) : Tracker := { tracker with enabled := true }

end Tracker

end ManifestLint
