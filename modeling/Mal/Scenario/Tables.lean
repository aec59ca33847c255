import Mal.Bindings
import Mal.Json.Brief
import Mal.Provider.Relay
import Mal.Routing

/-!
# Steps on single tables

Steps, written in JSON, on the tables that an instance is made of. Each step gives the changed table
and an answer; `none` says that the step has not the right form.
-/

namespace Mal

namespace Allocator

/-- Ranges of ids, each given by its first and its last. -/
def ranges? (j : Json) : Option (List (UInt64 × UInt64)) :=
  j.asList? fun range =>
    match range with
    | .array [low, high] => do some (← low.asUInt64?, ← high.asUInt64?)
    | _ => none

/-- Takes a number of ids. -/
def take (clock : UInt64) (inUse : TransactionId → Bool) :
    Nat → List TransactionId → Allocator → Option (List TransactionId × Allocator)
  | 0, ids, a => some (ids.reverse, a)
  | count + 1, ids, a =>
    match a.next (fun _ => clock) inUse with
    | some (id, a) => take clock inUse count (id :: ids) a
    | none => none

/-- A step on an allocator with a manual clock. -/
def step (state : Allocator × UInt64) (j : Json) : Option ((Allocator × UInt64) × Json) := do
  let (a, clock) := state
  match ← j.need "do" Json.asText? with
  | "next" =>
    let used ← j.orDefault "used" [] ranges?
    let count ← j.orDefault "count" 1 Json.asUInt64?
    let inUse := fun id => used.any fun (low, high) => low ≤ id && id ≤ high
    let (ids, a) ← take clock inUse count.toNat [] a
    some ((a, clock),
      .object [("ids", .array (ids.map .ofUInt64)), ("offset", .ofUInt64 a.offset)])
  | "advance" =>
    let clock := clock + (← j.need "seconds" Json.asUInt64?)
    some ((a, clock), .object [("clock", .ofUInt64 clock)])
  | _ => none

end Allocator

namespace Relay

/-- A source as an answer. -/
def sourceJson (source : Option Source) : Json :=
  Json.ofOption
    (fun s : Source => Json.array [.string s.uri, .ofUInt64 s.transaction]) source

/-- An answer with the size of a relay. -/
def answer (r : Relay) (result : Json) : Json :=
  .object [("result", result), ("len", .natural r.size), ("empty", .bool (r.size == 0))]

/-- A step on a relay, when a clock reads `seconds`. -/
def step (r : Relay) (seconds : UInt64) (j : Json) : Option (Relay × Json) := do
  match ← j.need "do" Json.asText? with
  | "add" =>
    let source : Source :=
      { uri := ← j.need "uri" Json.asText?
        transaction := ← j.need "transaction_id" Json.asUInt64? }
    let (id, r) ← r.add seconds source
    some (r, r.answer (.ofUInt64 id))
  | "resolve" => some (r, r.answer (sourceJson (r.resolve (← j.need "id" Json.asUInt64?))))
  | "remove" =>
    let (source, r) := r.remove (← j.need "id" Json.asUInt64?)
    some (r, r.answer (sourceJson source))
  | _ => none

end Relay

namespace Bindings

/-- An address as an answer: its URI, and its authentication id as a text. -/
def addressJson (a : Option Address) : Json :=
  Json.ofOption
    (fun a : Address =>
      let tag := (String.fromUTF8? ⟨a.authenticationId.toArray⟩).getD ""
      Json.array [.string a.uri, .string tag])
    a

/-- An answer with the number of providers. -/
def providerAnswer (b : Bindings) (result : Json) : Json :=
  let size := b.providers.size
  .object [("result", result), ("len", .natural size), ("empty", .bool (size == 0))]

/-- A step on the providers that are bound. A provider is told from others by a tag, which is kept
    as its authentication id. -/
def providerStep (b : Bindings) (j : Json) : Option (Bindings × Json) := do
  let uri ← j.orDefault "uri" "" Json.asText?
  let service := j.orDefault "service" {} Service.ofBrief?
  match ← j.need "do" Json.asText? with
  | "register" =>
    let tag ← j.need "tag" Json.asText?
    let address : Address :=
      { endpoint := { slot := 0, uri := uri }, uri := uri
        authenticationId := tag.toUTF8.toList, handler := Handler.refusing tag }
    let (replaced, b) := b.bindProvider (← service) address
    some (b, b.providerAnswer (addressJson replaced))
  | "lookup" => some (b, b.providerAnswer (addressJson (b.provider? uri (← service))))
  | "deregister" =>
    let (removed, b) := b.unbindProvider uri (← service)
    some (b, b.providerAnswer (addressJson removed))
  | "deregister_endpoint" =>
    let (count, b) := b.unbindProvidersOn uri
    some (b, b.providerAnswer (.natural count))
  | _ => none

/-- An answer with the number of brokers. -/
def brokerAnswer (b : Bindings) (broker : Option Broker) : Json :=
  let size := b.brokers.size
  .object
    [("result", Json.ofOption (fun b : Broker => .string b.name) broker),
     ("len", .natural size), ("empty", .bool (size == 0))]

/-- A step on the brokers that are bound. -/
def brokerStep (b : Bindings) (j : Json) : Option (Bindings × Json) := do
  let uri ← j.need "uri" Json.asText?
  match ← j.need "do" Json.asText? with
  | "bind" =>
    let broker : Broker :=
      { name := ← j.need "broker" Json.asText?, slot := 0
        conduct := fun _ memory _ _ => .finish memory (.ok ()) }
    let (replaced, b) := b.bindBroker uri broker
    some (b, b.brokerAnswer replaced)
  | "unbind" =>
    let (removed, b) := b.unbindBroker uri
    some (b, b.brokerAnswer removed)
  | "resolve" => some (b, b.brokerAnswer (b.broker? uri))
  | _ => none

end Bindings

namespace Routing

/-- Reads details with the URI of their endpoint. -/
def details? (j : Json) : Option Addressing := do
  Addressing.ofBrief? { slot := 0, uri := ← j.orDefault "uri" "" Json.asText? } j

/-- The publisher key that a step is about: given as such, by a header, or by details. -/
def keyArgument? (r : Routing) (now : UInt64) (j : Json) : Option PublisherKey :=
  match j.member? "key", j.member? "header" with
  | some (.array [uri, key]), _ => do some (← uri.asText?, ← key.asText?)
  | some _, _ => none
  | none, some header => do
    let h ← Header.ofBrief? now header
    match ← j.may "at" Json.asText? with
    | some uri => some (r.publisherKeyAt uri h)
    | none => some (r.publisherKeyFor h)
  | none, none => do some (r.publisherKey (← j.need "details" details?))

/-- A step on routes. -/
def step (r : Routing) (now : UInt64) (j : Json) : Option (Routing × Json) := do
  let answer (r : Routing) (result : Json) : Routing × Json :=
    (r, .object [("result", result), ("notify_count", .natural r.notify.size)])
  let name (listener : Option String) : Json := Json.ofOption Json.string listener
  let ok := Json.string "ok"
  match ← j.need "do" Json.asText? with
  | "publisher_key" =>
    let (uri, key) ← r.keyArgument? now j
    some (answer r (.array [.string uri, .string key]))
  | "register_publish" =>
    let listener ← j.need "listener" Json.asText?
    some (answer (r.addPublisher (← j.need "details" details?) listener) ok)
  | "get_publish" => some (answer r (name (r.publisher? (← r.keyArgument? now j))))
  | "remove_publish" =>
    let key ← r.keyArgument? now j
    some (answer (r.removePublisher key) (name (r.publisher? key)))
  | "remove_publish_uri" =>
    let uri ← j.need "uri" Json.asText?
    let names := (r.publishersOn uri).mergeSort fun a b => a ≤ b
    some (answer (r.removePublishersOn uri) (.array (names.map .string)))
  | "register_notify" =>
    let details ← j.need "details" details?
    let id ← j.need "id" Json.asText?
    let listener ← j.need "listener" Json.asText?
    some (answer (r.addNotify details.endpoint.uri id listener) ok)
  | "get_notify" =>
    let uri ← j.need "uri" Json.asText?
    let id ← j.need "id" Json.asText?
    some (answer r (name (r.notify? uri id)))
  | "remove_notify_uri" =>
    let uri ← j.need "uri" Json.asText?
    let routes := (r.notifyOn uri).map fun (id, listener) =>
      Json.array [.string id, .string listener]
    let routes := (routes.map fun route => (route.render, route)).mergeSort fun a b => a.1 ≤ b.1
    some (answer (r.removeNotifyOn uri) (.array (routes.map Prod.snd)))
  | "deregister_notify" =>
    let details ← j.need "details" details?
    let ids ← j.need "ids" (Json.asList? Json.asText?)
    some (answer (r.removeNotify details.endpoint.uri ids) ok)
  | _ => none

end Routing

end Mal
