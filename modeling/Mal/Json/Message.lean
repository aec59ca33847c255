import Mal.Json.Reader
import Mal.Json.Printer
import Mal.Message.Message

/-!
# Messages as JSON

The JSON form in which messages are exchanged. Every field is written, a missing value as null. On
reading, only fields that may be null may be missing, and unknown fields are passed over.

* a value of an enumeration is its name
* octets are an array of numbers
* a body is its shape and its content: `"Empty"`, or an object with one member
-/

namespace Mal

namespace Enumeration

/-- Reads the name of a value, also when it is written as a variant without content. -/
def ofJson? (α : Type) [Enumeration α] : Json → Option α
  | .string text => ofName? α text
  | .object [(text, .null)] => ofName? α text
  | _ => none

/-- The name of a value. -/
def toJson {α : Type} [Enumeration α] (v : α) : Json :=
  .string (name v)

end Enumeration

namespace Service

def ofJson? (j : Json) : Option Service := do
  match ← j.fields? ["area", "service", "operation", "area_version"] with
  | [area, service, operation, version] =>
    some
      { area := ← Json.required Json.asUInt16? area
        service := ← Json.required Json.asUInt16? service
        operation := ← Json.required Json.asUInt16? operation
        version := ← Json.required Json.asUInt8? version }
  | _ => none

def toJson (s : Service) : Json :=
  .object
    [("area", .natural s.area.toNat), ("service", .natural s.service.toNat),
     ("operation", .natural s.operation.toNat), ("area_version", .natural s.version.toNat)]

end Service

namespace StandardError

def ofJson? (j : Json) : Option StandardError := do
  match ← j.fields? ["error_number", "extra_information"] with
  | [number, info] =>
    some
      { number := ← Json.required Json.asUInt32? number
        info := ← Json.optional Json.asText? info }
  | _ => none

def toJson (e : StandardError) : Json :=
  .object
    [("error_number", .natural e.number.toNat),
     ("extra_information", Json.ofOption Json.string e.info)]

end StandardError

namespace EntityKey

def ofJson? (j : Json) : Option EntityKey := do
  match ← j.fields? ["first_sub_key", "second_sub_key", "third_sub_key", "fourth_sub_key"] with
  | [first, second, third, fourth] =>
    some
      { first := ← Json.optional Json.asText? first
        second := ← Json.optional Json.asUInt64? second
        third := ← Json.optional Json.asUInt64? third
        fourth := ← Json.optional Json.asUInt64? fourth }
  | _ => none

def toJson (k : EntityKey) : Json :=
  let number := Json.ofOption fun n : UInt64 => Json.natural n.toNat
  .object
    [("first_sub_key", Json.ofOption Json.string k.first), ("second_sub_key", number k.second),
     ("third_sub_key", number k.third), ("fourth_sub_key", number k.fourth)]

end EntityKey

namespace Subscription

def ofJson? (j : Json) : Option Subscription := do
  match ← j.fields? ["subscription_id", "entities"] with
  | [id, entities] =>
    some
      { id := ← Json.required Json.asText? id
        entities := ← Json.required (Json.asList? EntityKey.ofJson?) entities }
  | _ => none

def toJson (s : Subscription) : Json :=
  .object
    [("subscription_id", .string s.id), ("entities", .array (s.entities.map EntityKey.toJson))]

end Subscription

namespace UpdateHeader

def ofJson? (j : Json) : Option UpdateHeader := do
  match ← j.fields? ["timestamp_ms", "source_uri", "update_type", "key"] with
  | [timestamp, sourceUri, kind, key] =>
    some
      { timestamp := ← Json.required Json.asUInt64? timestamp
        sourceUri := ← Json.required Json.asText? sourceUri
        kind := ← Json.required (Enumeration.ofJson? UpdateKind) kind
        key := ← Json.required EntityKey.ofJson? key }
  | _ => none

def toJson (h : UpdateHeader) : Json :=
  .object
    [("timestamp_ms", .natural h.timestamp.toNat), ("source_uri", .string h.sourceUri),
     ("update_type", Enumeration.toJson h.kind), ("key", h.key.toJson)]

end UpdateHeader

namespace Update

def ofJson? (j : Json) : Option Update := do
  match ← j.fields? ["header", "value"] with
  | [header, value] =>
    some
      { header := ← Json.required UpdateHeader.ofJson? header
        value := ← Json.required Json.asOctets? value }
  | _ => none

def toJson (u : Update) : Json :=
  .object [("header", u.header.toJson), ("value", .ofOctets u.value)]

end Update

namespace Notification

def ofJson? (j : Json) : Option Notification := do
  match ← j.fields? ["subscription_id", "updates"] with
  | [id, updates] =>
    some
      { subscriptionId := ← Json.required Json.asText? id
        updates := ← Json.required (Json.asList? Update.ofJson?) updates }
  | _ => none

def toJson (n : Notification) : Json :=
  .object
    [("subscription_id", .string n.subscriptionId),
     ("updates", .array (n.updates.map Update.toJson))]

end Notification

namespace Body

def ofJson? (j : Json) : Option Body :=
  match j with
  | .string "Empty" => some empty
  | _ =>
    match j.variant? with
    | some ("Empty", .null) => some empty
    | some ("Elements", content) => (content.asList? Json.asOctets?).map elements
    | some ("Subscription", content) => (Subscription.ofJson? content).map subscription
    | some ("EntityKeyList", content) => (content.asList? EntityKey.ofJson?).map entityKeys
    | some ("UpdateList", content) => (content.asList? Update.ofJson?).map updates
    | some ("Notify", content) => (Notification.ofJson? content).map notify
    | some ("IdentifierList", content) => (content.asList? Json.asText?).map identifiers
    | some ("Error", content) => (StandardError.ofJson? content).map error
    | _ => none

def toJson : Body → Json
  | empty => .string "Empty"
  | elements es => .object [("Elements", .array (es.map .ofOctets))]
  | subscription s => .object [("Subscription", s.toJson)]
  | entityKeys keys => .object [("EntityKeyList", .array (keys.map EntityKey.toJson))]
  | updates us => .object [("UpdateList", .array (us.map Update.toJson))]
  | notify n => .object [("Notify", n.toJson)]
  | identifiers ids => .object [("IdentifierList", .array (ids.map .string))]
  | error e => .object [("Error", e.toJson)]

end Body

namespace Header

/-- The names of the fields of a header, in order. -/
def fieldNames : List String :=
  ["uri_from", "uri_to", "authentication_id", "timestamp_ms", "qos_level", "priority", "domain",
   "network_zone", "session", "session_name", "interaction_type", "interaction_stage",
   "transaction_id", "service", "is_error_message"]

def ofJson? (j : Json) : Option Header := do
  match ← j.fields? fieldNames with
  | [uriFrom, uriTo, authenticationId, timestamp, level, priority, domain, networkZone, session,
     sessionName, pattern, stage, transaction, service, isError] =>
    some
      { uriFrom := ← Json.required Json.asText? uriFrom
        uriTo := ← Json.required Json.asText? uriTo
        pattern := ← Json.required (Enumeration.ofJson? Pattern) pattern
        stage := ← Json.optional Json.asUInt8? stage
        timestamp := ← Json.required Json.asUInt64? timestamp
        authenticationId := ← Json.required Json.asOctets? authenticationId
        qos :=
          { level := ← Json.required (Enumeration.ofJson? QosLevel) level
            priority := ← Json.required Json.asUInt32? priority }
        scope :=
          { domain := ← Json.required (Json.asList? Json.asText?) domain
            networkZone := ← Json.required Json.asText? networkZone
            session := ← Json.required (Enumeration.ofJson? Session) session
            sessionName := ← Json.required Json.asText? sessionName }
        transaction := ← Json.optional Json.asUInt64? transaction
        service := ← Json.required Service.ofJson? service
        isError := ← Json.required Json.asBool? isError }
  | _ => none

def toJson (h : Header) : Json :=
  .object
    [("uri_from", .string h.uriFrom), ("uri_to", .string h.uriTo),
     ("authentication_id", .ofOctets h.authenticationId),
     ("timestamp_ms", .natural h.timestamp.toNat),
     ("qos_level", Enumeration.toJson h.qos.level), ("priority", .natural h.qos.priority.toNat),
     ("domain", .array (h.scope.domain.map .string)),
     ("network_zone", .string h.scope.networkZone),
     ("session", Enumeration.toJson h.scope.session),
     ("session_name", .string h.scope.sessionName),
     ("interaction_type", Enumeration.toJson h.pattern),
     ("interaction_stage", Json.ofOption (fun s : Stage => .natural s.toNat) h.stage),
     ("transaction_id", Json.ofOption (fun t : UInt64 => .natural t.toNat) h.transaction),
     ("service", h.service.toJson), ("is_error_message", .bool h.isError)]

end Header

namespace Properties

def ofJson? (j : Json) : Option Properties :=
  j.asMap? Json.asText?

def toJson (p : Properties) : Json :=
  .object (p.map fun (name, value) => (name, .string value))

end Properties

namespace Message

def ofJson? (j : Json) : Option Message := do
  match ← j.fields? ["header", "body", "qos_properties"] with
  | [header, body, properties] =>
    some
      { header := ← Json.required Header.ofJson? header
        body := ← Json.required Body.ofJson? body
        properties := ← Json.required Properties.ofJson? properties }
  | _ => none

def toJson (m : Message) : Json :=
  .object
    [("header", m.header.toJson), ("body", m.body.toJson),
     ("qos_properties", m.properties.toJson)]

end Message

end Mal
