import Mal.Proofs.PubSub.Ledger
import Mal.Proofs.PubSub.Parties
import Mal.Proofs.Routing.Routes

/-!
# A subscriber, a publisher and a broker

A `Scene` has a subscriber, a publisher and a distributing broker, each on an instance of its own in
a network that may have others. They act by calls (`Call`), one after another: a call starts what a
consumer asks for, and all messages that come of it are delivered before the next call
(`Scene.perform`).

The moves of the network are the only thing that happens (`Network.step`). Messages are delivered in
rounds (`Scene.rounds`). In each round everything is delivered that was under way when it began, in
any order; and as it does not matter how many rounds there are beyond two, nothing is under way
after these.
-/

namespace Mal.PubSub

/-- The consumer sends under the URI of its endpoint, and what it asks of brokers goes to `hub`. -/
structure Reaches (c : Consumer) (hub : String) : Prop where
  sender : c.addressing.uriFrom = c.addressing.endpoint.uri
  receiver : c.addressing.brokerUri.getD c.addressing.uriTo = hub

/-- A subscriber, a publisher and a distributing broker, each on an instance of its own. -/
structure Scene where
  /-- The name of the instance that is at home at a URI. -/
  home : String → String
  subscriber : Consumer
  publisher : Consumer
  brokerName : String
  /-- Where the broker's memory is kept. -/
  slot : Nat
  /-- The endpoint of the broker. -/
  hub : EndpointRef
  subscriber_reaches : Reaches subscriber hub.uri
  publisher_reaches : Reaches publisher hub.uri
  apart : [home subscriber.addressing.endpoint.uri, home publisher.addressing.endpoint.uri,
    home hub.uri].Nodup

/-- How the transport delivers what was sent: in which order what is under way together, and for how
    many more rounds than two. -/
structure Courier where
  order : List Nat → List Nat := id
  perm (places : List Nat) : (order places).Perm places := by exact fun _ => .refl _
  more : Nat := 0

/-- How a subscriber or a publisher goes about something: what it does, when, whether it waits for
    the acknowledgement itself or has it reported to a listener, and how messages are delivered
    meanwhile. -/
structure Call where
  action : Action
  now : UInt64 := 0
  reporter : Option String := none
  courier : Courier := {}

namespace Scene

variable (sc : Scene)

def broker : Broker := Distributor.broker sc.brokerName sc.slot sc.hub

def consumers : List Consumer := [sc.subscriber, sc.publisher]

/-- The endpoints of the three. -/
def endpoints : List EndpointRef :=
  [sc.subscriber.addressing.endpoint, sc.publisher.addressing.endpoint, sc.hub]

/-- Whose business a demand is. -/
def consumer : Demand → Consumer
  | .publishRegister .. | .publish _ | .publishDeregister => sc.publisher
  | _ => sc.subscriber

/-- The name of the instance of a consumer. -/
def name (c : Consumer) : String := sc.home c.addressing.endpoint.uri

/-- The endpoint that a message for a URI comes in by. -/
def entrance (uri : String) : EndpointRef :=
  if uri = sc.hub.uri then sc.hub
  else if uri = sc.subscriber.addressing.endpoint.uri then sc.subscriber.addressing.endpoint
  else sc.publisher.addressing.endpoint

/-- Delivers the message that was sent in a place. -/
def deliver (n : Network) (place : Nat) : Network :=
  match n.sent[place]? with
  | none => n
  | some m => n.step sc.home (.deliver place (sc.entrance m.header.uriTo))

/-- Delivers messages in rounds: what was sent from a place on, then what was sent meanwhile, and so
    on. -/
def rounds (n : Network) (place : Nat) (order : List Nat → List Nat) : Nat → Network
  | 0 => n
  | more + 1 =>
    let places := order (List.range' place (n.sent.length - place))
    rounds (places.foldl sc.deliver n) n.sent.length order more

/-- Delivers what was sent from a place on and all that comes of it, which takes two rounds: one for
    a request to the broker, and one for what the broker sends. -/
def settle (n : Network) (place : Nat) (courier : Courier) : Network :=
  sc.rounds n place courier.order (courier.more + 2)

/-- Waits for the one reply to an interaction while everything is delivered, and draws the
    consequences of it. -/
def wait (n : Network) (d : Demand) (id : TransactionId) (place : Nat)
    (courier : Courier) : Network :=
  let c := sc.consumer d
  let settled := sc.settle (n.step sc.home (.work (sc.name c) (.await id))) place courier
  match (n.nodes (sc.name c)).inst.correlator.await id with
  | .error _ => settled
  | .ok ticket =>
    match settled.outcome? (sc.name c) ticket with
    | none => settled
    | some outcome =>
      (settled.step sc.home (.work (sc.name c) (.collect ticket))).step sc.home
        (.conclude (sc.name c) c d id outcome)

/-- Starts what a consumer asks for, and delivers all messages that come of it. -/
def converse (n : Network) (d : Demand) (reporter : Option String) (courier : Courier) :
    Network :=
  let c := sc.consumer d
  let started := n.step sc.home (.start (sc.name c) c d reporter)
  match ((n.nodes (sc.name c)).inst.start n.site c d reporter).2.2 with
  | .error _ => started
  | .ok id =>
    if d.isAnswered ∧ reporter = none then sc.wait started d id n.sent.length courier
    else sc.settle started n.sent.length courier

/-- Time goes on, a call is made, and all messages that come of it are delivered. -/
def perform (n : Network) (c : Call) : Network :=
  let endpoints := n.site.transport.endpoints
  match c.action.demand? with
  | some d =>
    sc.converse (n.step sc.home (.pass c.now endpoints n.site.memories)) d c.reporter c.courier
  | none =>
    let publisher := sc.publisher.addressing.endpoint.uri
    let memory := Distributor.revoke publisher (n.site.memory sc.broker)
    n.step sc.home (.pass c.now endpoints (n.site.memories.put sc.slot memory))

/-- Several calls, one after another. -/
def run (n : Network) (calls : List Call) : Network :=
  calls.foldl sc.perform n

end Scene

end Mal.PubSub
