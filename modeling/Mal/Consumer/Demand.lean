import Mal.Routing

/-!
# What consumers ask for

A `Demand` is an interaction that a consumer can start: its pattern and first stage, the operation
and the body of its first message, and the routes it needs. The route of a registration is set up
before its message is sent, so that no notify comes too early; the route of a deregistration is
taken down before its message is sent. If a registration fails, its route is taken down again.
-/

namespace Mal

/-- An interaction that a consumer can start. -/
inductive Demand where
  | send (operation : UInt16) (body : Body)
  | submit (operation : UInt16) (body : Body)
  | request (operation : UInt16) (body : Body)
  | invoke (operation : UInt16) (body : Body)
  | progress (operation : UInt16) (body : Body)
  /-- Subscribes; notifies go to the listener. -/
  | register (subscription : Subscription) (listener : String)
  | deregister (ids : List String)
  /-- Registers as a publisher; publish errors go to the listener. -/
  | publishRegister (keys : List EntityKey) (listener : String)
  | publish (updates : List Update)
  | publishDeregister
  deriving DecidableEq

namespace Demand

def pattern : Demand → Pattern
  | send .. => .send
  | submit .. => .submit
  | request .. => .request
  | invoke .. => .invoke
  | progress .. => .progress
  | register .. | deregister _ | publishRegister .. | publish _ | publishDeregister => .pubSub

/-- Stage of the first message. -/
def stage : Demand → Option Stage
  | send .. => none
  | submit .. | request .. | invoke .. | progress .. => some Stage.initial
  | register .. => some Stage.register
  | deregister _ => some Stage.deregister
  | publishRegister .. => some Stage.publishRegister
  | publish _ => some Stage.publish
  | publishDeregister => some Stage.publishDeregister

/-- Operation number of the first message. PubSub uses the operation of the addressing. -/
def operation (a : Addressing) : Demand → UInt16
  | send operation _ | submit operation _ | request operation _ | invoke operation _
  | progress operation _ => operation
  | _ => a.service.operation

/-- Body of the first message. -/
def body : Demand → Body
  | send _ body | submit _ body | request _ body | invoke _ body | progress _ body => body
  | register subscription _ => .subscription subscription
  | deregister ids => .identifiers ids
  | publishRegister keys _ => .entityKeys keys
  | publish updates => .updates updates
  | publishDeregister => .empty

/-- Whether there is an answer at all. -/
def isAnswered : Demand → Bool
  | send .. | publish _ => false
  | _ => true

/-- Whether the first answer is followed by others. -/
def isStaged : Demand → Bool
  | invoke .. | progress .. => true
  | _ => false

/-- Changes the routes before the first message is sent. -/
def prepare (a : Addressing) (r : Routing) : Demand → Routing
  | register subscription listener => r.addNotify a.endpoint.uri subscription.id listener
  | deregister ids => r.removeNotify a.endpoint.uri ids
  | publishRegister _ listener => r.addPublisher a listener
  | publishDeregister => r.removePublisher (r.publisherKey a)
  | _ => r

/-- Takes down the route of a registration that failed. -/
def withdraw (a : Addressing) (r : Routing) : Demand → Routing
  | register subscription _ => r.removeNotify a.endpoint.uri [subscription.id]
  | publishRegister .. => r.removePublisher (r.publisherKey a)
  | _ => r

/-- The listener that the outcomes of an asynchronous interaction go to. -/
def listener (a : Addressing) (reporter : String) : Demand → Listener
  | register subscription _ => .registration reporter (a.endpoint.uri, subscription.id)
  | publishRegister .. | publishDeregister => .publishing reporter
  | _ => .interaction reporter

/-- The first message, made at time `now`. -/
def message (a : Addressing) (now : UInt64) (transaction : TransactionId) (d : Demand) : Message :=
  { header :=
      { a.header now d.pattern d.stage (d.operation a) with transaction := some transaction }
    body := d.body
    properties := a.properties }

end Demand

end Mal
