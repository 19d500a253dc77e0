import ManifestLint.Collections.Entries

/-!
# Notices with a cooldown

The user is told about failures, but not of the same one again and again: a message is delivered
only if it was not delivered less than a cooldown ago.  Messages whose cooldown is over are
forgotten whenever a new one comes in.  Time may be of any type that knows differences and an order.

* `Notifier.notify` delivers a message or holds it back.
-/

namespace ManifestLint

/-- The state of the notices: the time, the cooldown, when each message was last delivered, and all
messages delivered so far.  A cooldown may be missing. -/
structure Notifier (τ : Type) where
  clock : τ
  cooldown : Option τ
  sent : Entries String τ := []
  delivered : List String := []

namespace Notifier

variable {τ : Type}

/-- The notifier after a message was delivered. -/
def deliver (notifier : Notifier τ) (message : String) : Notifier τ :=
  { notifier with
    sent := notifier.sent.put message notifier.clock
    delivered := notifier.delivered ++ [message] }

/-- The notifier after some time has passed. -/
def advance [Add τ] (notifier : Notifier τ) (span : τ) : Notifier τ :=
  { notifier with clock := notifier.clock + span }

/-- The notifier that has forgotten what it delivered. -/
def reset (notifier : Notifier τ) : Notifier τ := { notifier with sent := [] }

/-- How many messages are remembered. -/
def pending (notifier : Notifier τ) : Nat := notifier.sent.length

variable [Sub τ] [LE τ] [DecidableLE τ] [LT τ] [DecidableLT τ]

/-- The notifier without the messages whose cooldown is over. -/
def prune (notifier : Notifier τ) (cooldown : τ) : Notifier τ :=
  { notifier with
    sent := List.filter (fun entry => !(cooldown ≤ notifier.clock - entry.2)) notifier.sent }

/-- Whether a message was delivered less than a cooldown ago. -/
def cools (notifier : Notifier τ) (cooldown : τ) (message : String) : Bool :=
  match notifier.sent.get? message with
  | some last => notifier.clock - last < cooldown
  | none => false

/-- The notifier after a message came in, and whether the message was delivered.  Without a cooldown
there is no answer as soon as an earlier message is remembered. -/
def notify (notifier : Notifier τ) (message : String) : Option (Notifier τ × Bool) :=
  match notifier.cooldown with
  | some cooldown =>
    let pruned := notifier.prune cooldown
    if pruned.cools cooldown message then some (pruned, false)
    else some (pruned.deliver message, true)
  | none => if notifier.sent.isEmpty then some (notifier.deliver message, true) else none

end Notifier

end ManifestLint
