import Mal.Directory
import Mal.Message.Message

/-!
# Addressing of outgoing messages

`Addressing` holds everything that the outgoing messages of a consumer or publisher share: the
endpoint they leave from, where they go, and the service, scope and quality of service they are sent
under.
-/

namespace Mal

/-- A reference to a transport endpoint: its place in the transport, and its URI. -/
structure EndpointRef where
  slot : Nat
  uri : String
  deriving DecidableEq

/-- What the outgoing messages of a consumer or publisher share. -/
structure Addressing where
  endpoint : EndpointRef
  /-- Sender given in headers; usually the endpoint's URI. -/
  uriFrom : String
  uriTo : String := ""
  /-- Where PubSub messages go instead of `uriTo`. -/
  brokerUri : Option String := none
  service : Service := {}
  authenticationId : Bytes := []
  scope : Scope := {}
  qos : Qos := {}
  properties : Properties := []

namespace Addressing

/-- Header of an outgoing message, made at time `now`. PubSub messages go to the broker when one is
    set. -/
def header (a : Addressing) (now : UInt64) (pattern : Pattern) (stage : Option Stage)
    (operation : UInt16) : Header :=
  { uriFrom := a.uriFrom
    uriTo := if pattern = .pubSub then a.brokerUri.getD a.uriTo else a.uriTo
    pattern := pattern
    stage := stage
    timestamp := now
    authenticationId := a.authenticationId
    qos := a.qos
    scope := a.scope
    service := a.service.withOperation operation }

/-- The headers made from some details have their scope. -/
@[simp] theorem scope_header (a : Addressing) (now : UInt64) (pattern : Pattern)
    (stage : Option Stage) (operation : UInt16) :
    (a.header now pattern stage operation).scope = a.scope := rfl

end Addressing

end Mal
