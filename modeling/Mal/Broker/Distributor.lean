import Mal.Broker.Broker

/-!
# A distributing broker

A broker that passes published updates on to the subscribers that asked for them. Only registered
publishers may publish. An update matches a subscription if their first sub-keys are equal, or the
subscription's is `*`.

A notify answers the register message of its subscription, so it carries that message's transaction
id and scope.
-/

namespace Mal.Distributor

/-- Whether a subscription asks for updates about a key. -/
def wants (s : Subscription) (key : EntityKey) : Bool :=
  s.entities.any fun e => e.first == some "*" || e.first == key.first

/-- It does if one of its entities has the first sub-key of the key, or `*`. -/
theorem wants_iff {s : Subscription} {key : EntityKey} :
    wants s key = true ↔ ∃ e ∈ s.entities, e.first = some "*" ∨ e.first = key.first := by
  simp [wants]

/-- The notify for a subscription, if any of the updates is for it. -/
def notify? (now : UInt64) (updates : List Update) (registered : Header × Subscription) :
    Option Message :=
  let (header, s) := registered
  match updates.filter fun u => wants s u.header.key with
  | [] => none
  | wanted =>
    some
      { header := header.reply now Stage.notify false
        body := .notify { subscriptionId := s.id, updates := wanted } }

/-- Sends messages one after another, giving up at the first that fails. -/
def sendAll (endpoint : EndpointRef) (memory : BrokerMemory) : List Message → BrokerConduct
  | [] => .finish memory (.ok ())
  | m :: rest =>
    .send endpoint m fun result =>
      match result with
      | .ok _ => sendAll endpoint memory rest
      | .error failure => .finish memory (.error failure)

/-- The subscriptions other than those of one subscriber with one of the ids. -/
def without (subscriber : String) (ids : List String) (memory : BrokerMemory) :
    List (Header × Subscription) :=
  memory.subscriptions.filter fun (h, s) => !(h.uriFrom == subscriber && ids.contains s.id)

def conduct (endpoint : EndpointRef) (now : UInt64) (memory : BrokerMemory) (h : Header) :
    BrokerRequest → BrokerConduct
  | .register s =>
    .finish { memory with subscriptions := without h.uriFrom [s.id] memory ++ [(h, s)] } (.ok ())
  | .publishRegister _ =>
    .finish { memory with publishers := h.uriFrom :: memory.publishers.erase h.uriFrom } (.ok ())
  | .publish updates =>
    if h.uriFrom ∈ memory.publishers then
      sendAll endpoint memory (memory.subscriptions.filterMap (notify? now updates))
    else
      .finish memory (.error (.standard
        (.withInfo StandardError.unknown s!"{h.uriFrom} is not a registered publisher")))
  | .deregister ids =>
    .finish { memory with subscriptions := without h.uriFrom ids memory } (.ok ())
  | .publishDeregister =>
    .finish { memory with publishers := memory.publishers.erase h.uriFrom } (.ok ())

/-- A distributing broker that sends through an endpoint. -/
def broker (name : String) (slot : Nat) (endpoint : EndpointRef) : Broker :=
  { name := name, slot := slot, conduct := conduct endpoint }

/-- Takes the right to publish from a publisher. -/
def revoke (uri : String) (memory : BrokerMemory) : BrokerMemory :=
  { memory with publishers := memory.publishers.erase uri }

end Mal.Distributor
