import Mal.Broker.Broker
import Mal.Directory
import Mal.Provider.Handler

/-!
# Bindings of providers and brokers

Providers are bound per URI and service. The operation number is dropped both on binding and on
look-up, so that one provider serves every operation of its service. Brokers are bound per URI. A
new binding replaces one with the same key.
-/

namespace Mal

/-- What is bound on an instance. -/
structure Bindings where
  providers : Directory (String × Service) Address := .empty
  brokers : Directory String Broker := .empty

namespace Bindings

/-- The provider bound to a URI for the service that an operation belongs to. -/
def provider? (b : Bindings) (uri : String) (service : Service) : Option Address :=
  b.providers.get? (uri, service.whole)

/-- Binds a provider to its URI, giving the binding it replaces. -/
def bindProvider (b : Bindings) (service : Service) (a : Address) : Option Address × Bindings :=
  (b.provider? a.uri service, { b with providers := b.providers.put (a.uri, service.whole) a })

/-- Removes the binding of a provider, giving what was bound. -/
def unbindProvider (b : Bindings) (uri : String) (service : Service) : Option Address × Bindings :=
  (b.provider? uri service, { b with providers := b.providers.erase (uri, service.whole) })

/-- Removes all providers bound to a URI, giving their number. -/
def unbindProvidersOn (b : Bindings) (uri : String) : Nat × Bindings :=
  let providers := b.providers.eraseIf fun key _ => key.1 = uri
  (b.providers.size - providers.size, { b with providers := providers })

def broker? (b : Bindings) (uri : String) : Option Broker :=
  b.brokers.get? uri

/-- Binds a broker to a URI, giving the one it replaces. -/
def bindBroker (b : Bindings) (uri : String) (broker : Broker) : Option Broker × Bindings :=
  (b.broker? uri, { b with brokers := b.brokers.put uri broker })

/-- Removes the binding of a broker, giving what was bound. -/
def unbindBroker (b : Bindings) (uri : String) : Option Broker × Bindings :=
  (b.broker? uri, { b with brokers := b.brokers.erase uri })

end Bindings

end Mal
