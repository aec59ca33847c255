import Mal.Addressing
import Mal.Failure
import Mal.Json.Message

/-!
# Brief messages

A shorter JSON form, for people. A header leaves out every field that has its default value; a
service is an array of four numbers; a message leaves out an empty body and empty properties.

A timestamp is left out if it lies in a window of some decades around the present
(`Header.isClockTime`), so that what was stamped by a clock reads the same whenever it is written.
-/

namespace Mal

/-- A field that is left out when it has its default value. -/
def Json.unlessDefault {α : Type} [DecidableEq α] (name : String) (default : α) (write : α → Json)
    (value : α) : List (String × Json) :=
  if value = default then [] else [(name, write value)]

namespace Service

/-- Reads area, service, operation and version. -/
def ofBrief? : Json → Option Service
  | .array [area, service, operation, version] => do
    some
      { area := ← area.asUInt16?
        service := ← service.asUInt16?
        operation := ← operation.asUInt16?
        version := ← version.asUInt8? }
  | _ => none

def toBrief (s : Service) : Json :=
  .array
    [.natural s.area.toNat, .natural s.service.toNat, .natural s.operation.toNat,
     .natural s.version.toNat]

end Service

namespace Header

/-- Whether a timestamp came from a clock. -/
def isClockTime (timestamp : UInt64) : Bool :=
  1700000000000 ≤ timestamp && timestamp < 4000000000000

/-- Reads a header; a missing timestamp is `now`. -/
def ofBrief? (now : UInt64) (j : Json) : Option Header := do
  if !j.isObject then none
  let field {α : Type} (name : String) (default : α) (read : Json → Option α) : Option α :=
    Json.defaulting default read (j.member? name)
  some
    { uriFrom := ← field "uri_from" "" Json.asText?
      uriTo := ← field "uri_to" "" Json.asText?
      pattern := ← field "interaction_type" .send (Enumeration.ofJson? Pattern)
      stage := ← j.may "interaction_stage" Json.asUInt8?
      timestamp := ← field "timestamp_ms" now Json.asUInt64?
      authenticationId := ← field "authentication_id" [] Json.asOctets?
      qos :=
        { level := ← field "qos_level" .bestEffort (Enumeration.ofJson? QosLevel)
          priority := ← field "priority" 0 Json.asUInt32? }
      scope :=
        { domain := ← field "domain" [] (Json.asList? Json.asText?)
          networkZone := ← field "network_zone" "" Json.asText?
          session := ← field "session" .live (Enumeration.ofJson? Session)
          sessionName := ← field "session_name" "" Json.asText? }
      transaction := ← j.may "transaction_id" Json.asUInt64?
      service := ← field "service" {} Service.ofBrief?
      isError := ← field "is_error_message" false Json.asBool? }

def toBrief (h : Header) : Json :=
  let timestamp := if isClockTime h.timestamp then [] else
    [("timestamp_ms", Json.natural h.timestamp.toNat)]
  .object
    (Json.unlessDefault "uri_from" "" .string h.uriFrom
      ++ Json.unlessDefault "uri_to" "" .string h.uriTo
      ++ Json.unlessDefault "authentication_id" [] .ofOctets h.authenticationId
      ++ timestamp
      ++ Json.unlessDefault "qos_level" .bestEffort Enumeration.toJson h.qos.level
      ++ Json.unlessDefault "priority" 0 (fun p : UInt32 => .natural p.toNat) h.qos.priority
      ++ Json.unlessDefault "domain" [] (fun d => .array (d.map .string)) h.scope.domain
      ++ Json.unlessDefault "network_zone" "" .string h.scope.networkZone
      ++ Json.unlessDefault "session" .live Enumeration.toJson h.scope.session
      ++ Json.unlessDefault "session_name" "" .string h.scope.sessionName
      ++ [("interaction_type", Enumeration.toJson h.pattern)]
      ++ Json.unlessDefault "interaction_stage" none
          (Json.ofOption fun s : Stage => .natural s.toNat) h.stage
      ++ Json.unlessDefault "transaction_id" none
          (Json.ofOption Json.ofUInt64) h.transaction
      ++ Json.unlessDefault "service" {} Service.toBrief h.service
      ++ Json.unlessDefault "is_error_message" false .bool h.isError)

end Header

namespace Message

/-- Reads a message; everything may be missing. -/
def ofBrief? (now : UInt64) (j : Json) : Option Message := do
  if !j.isObject then none
  let header ← j.may "header" (Header.ofBrief? now)
  some
    { header := ← header.or (Header.ofBrief? now (.object []))
      body := ← j.orDefault "body" .empty Body.ofJson?
      properties := ← j.orDefault "qos_properties" [] Properties.ofJson? }

def toBrief (m : Message) : Json :=
  .object
    ([("header", m.header.toBrief)]
      ++ Json.unlessDefault "body" .empty Body.toJson m.body
      ++ Json.unlessDefault "qos_properties" [] Properties.toJson m.properties)

end Message

namespace Failure

/-- Name of the kind of a failure. -/
def kind : Failure → String
  | incorrectState .. => "IncorrectState"
  | destinationUnknown _ => "DestinationUnknown"
  | badEncoding .. => "BadEncoding"
  | standard _ => "Standard"
  | timeout .. => "Timeout"
  | transport _ => "Transport"
  | security _ => "Security"
  | unsupported _ => "Unsupported"
  | internal _ => "Internal"

/-- Reads a failure by its kind and the fields of the kind. -/
def ofBrief? (j : Json) : Option Failure := do
  let text (name : String) := j.need name Json.asText?
  match ← text "kind" with
  | "IncorrectState" =>
    some (incorrectState (← text "message")
      (← j.may "transaction_id" Json.asUInt64?) (← j.may "stage" Json.asUInt8?))
  | "DestinationUnknown" => some (destinationUnknown (← text "uri"))
  | "BadEncoding" => some (badEncoding (← text "expected") (← text "actual"))
  | "Standard" => some (standard (← j.need "error" StandardError.ofJson?))
  | "Timeout" =>
    some (timeout (← j.need "transaction_id" Json.asUInt64?) (← j.need "timeout_ms" Json.asUInt64?))
  | "Transport" => some (transport (← text "message"))
  | "Security" => some (security (← text "message"))
  | "Unsupported" => some (unsupported (← text "message"))
  | "Internal" => some (internal (← text "message"))
  | _ => none

/-- A failure as the answer to a question: its kind and its message. -/
def toBrief (f : Failure) : Json :=
  .object [("error", .string f.kind), ("message", .string f.message)]

end Failure

/-- A result without a value, as an answer. -/
def Json.ofOutcome : Except Failure Unit → Json
  | .ok _ => .string "ok"
  | .error failure => failure.toBrief

/-- Reads what the messages sent from an endpoint share. -/
def Addressing.ofBrief? (endpoint : EndpointRef) (j : Json) : Option Addressing := do
  if !j.isObject then none
  some
    { endpoint := endpoint
      uriFrom := ← j.orDefault "uri_from" endpoint.uri Json.asText?
      uriTo := ← j.orDefault "uri_to" "" Json.asText?
      brokerUri := ← j.may "broker_uri" Json.asText?
      service := ← j.orDefault "service" {} Service.ofBrief?
      authenticationId := ← j.orDefault "authentication_id" [] Json.asOctets?
      scope :=
        { domain := ← j.orDefault "domain" [] (Json.asList? Json.asText?)
          networkZone := ← j.orDefault "network_zone" "" Json.asText?
          session := ← j.orDefault "session" .live (Enumeration.ofJson? Session)
          sessionName := ← j.orDefault "session_name" "" Json.asText? }
      qos :=
        { level := ← j.orDefault "qos_level" .bestEffort (Enumeration.ofJson? QosLevel)
          priority := ← j.orDefault "priority" 0 Json.asUInt32? }
      properties := ← j.orDefault "qos_properties" [] Properties.ofJson? }

end Mal
