import Mal.Consumer.Demand
import Mal.Instance.Instance

/-!
# Consumers

A consumer starts interactions under one addressing. `Instance.start` is the way to start any of
them, with a listener that their outcomes go to or without one. What comes after it without a
listener is up to the initiator:

1. `Correlator.await` begins to wait for the first answer
2. `Correlator.collect` takes the answer, or `Correlator.expire` gives the wait up
3. `Instance.conclude` ends the interaction, unless more answers follow; then it gives a `Handle`
   on the rest, with which the initiator goes on waiting, and which it drops in the end

An initiator that loses interest while it waits calls `Instance.abandon` instead.
-/

namespace Mal

structure Consumer where
  addressing : Addressing
  /-- How long a wait lasts in milliseconds, if not as long as is usual on the instance. -/
  patience : Option UInt64 := none

/-- The right to wait for the further answers of an interaction. -/
structure Handle where
  transaction : TransactionId
  patience : Option UInt64
  deriving DecidableEq

namespace Instance

/-- Sends the first message of an interaction. If it cannot be sent, nothing stays pending. -/
def launch (i : Instance) (s : Site) (a : Addressing) (d : Demand) (listener : Option Listener) :
    Instance × Site × Except Failure TransactionId :=
  match i.initiate s d.pattern d.stage listener with
  | (i, .error failure) => (i, s, .error failure)
  | (i, .ok id) =>
    match s.send a.endpoint (d.message a s.now id) with
    | (.ok _, s) => (i, s, .ok id)
    | (.error failure, s) => ((i.abandon id).1, s, .error failure)

/-- Takes down the route of a registration that failed. -/
def withdraw (i : Instance) (a : Addressing) (d : Demand) : Instance :=
  { i with routing := d.withdraw a i.routing }

/-- Starts an interaction, reporting its outcomes to a listener if there is one. -/
def start (i : Instance) (s : Site) (c : Consumer) (d : Demand) (reporter : Option String) :
    Instance × Site × Except Failure TransactionId :=
  let i := { i with routing := d.prepare c.addressing i.routing }
  match i.launch s c.addressing d (reporter.map fun r => d.listener c.addressing r) with
  | (i, s, .ok id) => (i, s, .ok id)
  | (i, s, .error failure) => (i.withdraw c.addressing d, s, .error failure)

/-- Draws the consequences of the first answer to an interaction. If further answers follow, gives
    the handle on them. -/
def conclude (i : Instance) (c : Consumer) (d : Demand) (id : TransactionId)
    (outcome : Except Failure Message) : Instance × Option Handle :=
  match outcome with
  | .ok _ =>
    if d.isStaged then (i, some { transaction := id, patience := c.patience })
    else ((i.abandon id).1, none)
  | .error _ => ((i.abandon id).1.withdraw c.addressing d, none)

end Instance

end Mal
