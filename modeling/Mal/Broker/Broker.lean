import Mal.Transport

/-!
# Brokers

A broker serves the initial stages of PubSub. The body of such a message must have the shape that
its stage requires (`BrokerRequest.ofMessage`); a publish-deregister may have any body. Requests
other than a publish are acknowledged, at the stage after the request's own, once the broker has
accepted them.

What a broker does with a request is a `BrokerConduct`: finitely many sends, each followed by what
the broker makes of its result, and at last the broker's answer and what it remembers.
-/

namespace Mal

/-- What is asked of a broker. -/
inductive BrokerRequest where
  | register (subscription : Subscription)
  | publishRegister (keys : List EntityKey)
  | publish (updates : List Update)
  | deregister (ids : List String)
  | publishDeregister
  deriving DecidableEq

namespace BrokerRequest

/-- Name of a request. -/
def name : BrokerRequest → String
  | register _ => "register"
  | publishRegister _ => "publish_register"
  | publish _ => "publish"
  | deregister _ => "deregister"
  | publishDeregister => "publish_deregister"

/-- The stage at which an accepted request is acknowledged. -/
def ackStage? : BrokerRequest → Option Stage
  | register _ => some Stage.registerAck
  | publishRegister _ => some Stage.publishRegisterAck
  | publish _ => none
  | deregister _ => some Stage.deregisterAck
  | publishDeregister => some Stage.publishDeregisterAck

/-- Shape of body that a request at a stage requires. -/
def requiredShape (stage : Stage) : String :=
  if stage = Stage.register then "subscription"
  else if stage = Stage.publishRegister then "entity-key-list"
  else if stage = Stage.publish then "update-list"
  else if stage = Stage.deregister then "identifier-list"
  else "empty"

/-- The request that a message makes, if its body fits its stage. -/
def ofMessage (m : Message) : Except Failure BrokerRequest :=
  match m.header.stageOrZero, m.body with
  | Stage.register, .subscription s => .ok (register s)
  | Stage.publishRegister, .entityKeys keys => .ok (publishRegister keys)
  | Stage.publish, .updates updates => .ok (publish updates)
  | Stage.deregister, .identifiers ids => .ok (deregister ids)
  | Stage.publishDeregister, _ => .ok publishDeregister
  | stage, body => .error (.badEncoding (requiredShape stage) body.shape)

end BrokerRequest

/-- What a broker remembers. -/
structure BrokerMemory where
  /-- Names of the requests on record, oldest first. -/
  calls : List String := []
  /-- Subscriptions, oldest first, each with the header it came under. -/
  subscriptions : List (Header × Subscription) := []
  /-- URIs of the registered publishers. -/
  publishers : List String := []

/-- What a broker does with a request. -/
inductive BrokerConduct where
  /-- Answers, remembering what is given. -/
  | finish (memory : BrokerMemory) (result : Except Failure Unit)
  /-- Sends a message and goes on with the result. -/
  | send (endpoint : EndpointRef) (message : Message) (next : Except Failure Unit → BrokerConduct)

/-- A broker. Its conduct depends on the time, on what it remembers, and on the header and the
    request. -/
structure Broker where
  name : String
  /-- Where the broker's memory is kept. -/
  slot : Nat
  /-- Whether requests to the broker are reported among the events of a site. -/
  observed : Bool := false
  conduct : UInt64 → BrokerMemory → Header → BrokerRequest → BrokerConduct

end Mal
