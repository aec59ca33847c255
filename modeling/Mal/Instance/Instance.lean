import Mal.Correlation.Correlator
import Mal.Instance.Security
import Mal.Instance.Site
import Mal.Bindings
import Mal.Provider.Relay
import Mal.Routing
import Mal.Settings

/-!
# Instances

An instance owns the pending interactions it has initiated, the routes of its subscribers and
publishers, and the providers and brokers bound on it. Its state is a value; whatever an operation
does outside the instance shows in the `Site` it returns.
-/

namespace Mal

/-- Where transaction ids take the time from. -/
inductive Clock where
  /-- Moves only when told to; reads the given seconds. -/
  | manual (seconds : UInt64)
  /-- The time of the site. -/
  | system

/-- Seconds that a clock reads when the time is `now` milliseconds. -/
def Clock.seconds (clock : Clock) (now : UInt64) : UInt64 :=
  match clock with
  | manual seconds => seconds
  | system => now / 1000

/-- An instance of the middleware. -/
structure Instance where
  settings : Settings
  clock : Clock
  security : Security := .unrestricted
  correlator : Correlator
  relay : Relay
  routing : Routing
  bindings : Bindings := {}

namespace Instance

/-- A new instance, made when the time is `now`. -/
def create (settings : Settings) (clock : Clock) (now : UInt64) : Instance :=
  let allocator := Allocator.start settings.epoch (clock.seconds now)
  { settings := settings
    clock := clock
    correlator := { allocator := allocator, patience := settings.waitTimeout }
    relay := { allocator := allocator }
    routing := { separator := settings.separator } }

/-! ## Reports to listeners -/

/-- Hands an outcome to a listener. A rejected registration drops its notify route first. -/
def report (i : Instance) (s : Site) (r : Report) : Instance × Site :=
  let routing := match r.listener.droppedRoute? r.outcome with
    | some (uri, id) => i.routing.removeNotify uri [id]
    | none => i.routing
  ({ i with routing := routing }, s.tell (r.listener.notice? r.outcome))

/-- Hands outcomes to their listeners, in order. -/
def reportAll (i : Instance) (s : Site) : List Report → Instance × Site
  | [] => (i, s)
  | r :: rest =>
    let (i, s) := i.report s r
    i.reportAll s rest

/-! ## The initiating side -/

/-- Starts an interaction at a stage. -/
def initiate (i : Instance) (s : Site) (pattern : Pattern) (stage : Option Stage)
    (listener : Option Listener) : Instance × Except Failure TransactionId :=
  let (correlator, result) := i.correlator.initiate (i.clock.seconds s.now) pattern stage listener
  ({ i with correlator := correlator }, result)

/-- Takes over an interaction that was started elsewhere. -/
def resume (i : Instance) (pattern : Pattern) (last : Stage) (id : TransactionId)
    (listener : Listener) : Instance × Except Failure Unit :=
  let (correlator, result) := i.correlator.resume pattern last id listener
  ({ i with correlator := correlator }, result)

/-- Takes in a reply. -/
def receiveReply (i : Instance) (s : Site) (m : Message) : Instance × Site × Except Failure Unit :=
  match i.correlator.receive m with
  | (_, .error failure) => (i, s, .error failure)
  | (correlator, .ok none) => ({ i with correlator := correlator }, s, .ok ())
  | (correlator, .ok (some report)) =>
    let (i, s) := { i with correlator := correlator }.report s report
    (i, s, .ok ())

/-- Ends the interaction that a header belongs to. -/
def failExchange (i : Instance) (s : Site) (h : Header) (failure : Failure) : Instance × Site :=
  let (correlator, report?) := i.correlator.fail s.now h failure
  { i with correlator := correlator }.reportAll s report?.toList

/-- Forgets a pending interaction; says whether there was one. -/
def abandon (i : Instance) (id : TransactionId) : Instance × Bool :=
  let (correlator, present) := i.correlator.abandon id
  ({ i with correlator := correlator }, present)

/-! ## Bindings -/

/-- Binds a provider. -/
def bindProvider (i : Instance) (service : Service) (a : Address) : Instance :=
  { i with bindings := (i.bindings.bindProvider service a).2 }

/-- Binds a broker. -/
def bindBroker (i : Instance) (uri : String) (b : Broker) : Instance :=
  { i with bindings := (i.bindings.bindBroker uri b).2 }

/-- Takes down everything bound to a URI: providers, broker, subscribers and publishers. Nobody is
    told. -/
def closeEndpoint (i : Instance) (uri : String) : Instance :=
  { i with
    bindings := ((i.bindings.unbindProvidersOn uri).2.unbindBroker uri).2
    routing := (i.routing.removeNotifyOn uri).removePublishersOn uri }

/-- Ends every pending interaction. -/
def close (i : Instance) (s : Site) : Instance × Site :=
  let (correlator, reports) := i.correlator.shutdown s.now
  { i with correlator := correlator }.reportAll s reports

end Instance

end Mal
