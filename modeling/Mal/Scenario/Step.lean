import Mal.Json.Settings
import Mal.Provider.Echo
import Mal.Provider.Script
import Mal.Scenario.Report
import Mal.Scenario.Tables

/-!
# Scenarios

A scenario is a list of steps, written in JSON, that set up a world and make things happen in it.
Each step has the name of what it does under `do`. A step that has not the right form, or that names
something that is not there, changes nothing and is answered with bad input; the scenario goes on.
-/

namespace Mal

/-- What a step did: the world afterwards, the result, and whether what happened, happened at
    once. -/
structure StepOutcome where
  world : World
  result : Json
  atOnce : Bool := false

namespace Json

def ok : Json := string "ok"

/-- A result with a value. -/
def okWith (value : Json) : Json := object [("ok", value)]

/-- Octets of several authentication ids. -/
def asOctetLists? (j : Json) : Option (List Bytes) := j.asList? asOctets?

end Json

/-! ## Parts of steps -/

namespace Security

/-- Replaces header fields of every message, given by name. A message that has no valid header after
    that is refused. -/
def replacing (fields : List (String × Json)) : Security := fun m =>
  let members := match m.header.toJson with
    | .object members => members
    | _ => []
  let changed := fields.foldl (fun ms (name, value) => Directory.store name value ms) members
  match Header.ofJson? (.object changed) with
  | some h => .ok { m with header := h }
  | none => .error (.internal "bad rewrite")

/-- Reads what to check messages for. -/
def ofJson? (j : Json) : Option Security :=
  match j.member? "allow", j.member? "deny", j.member? "rewrite" with
  | some allow, _, _ => allow.asOctetLists?.map allowing
  | none, some deny, _ => (Failure.ofBrief? deny).map denying
  | none, none, some (.object fields) => some (replacing fields)
  | _, _, _ => none

end Security

namespace Action

/-- Reads what a reply carries. -/
def content? (j : Json) : Option Content := do
  if ← j.orDefault "echo" false Json.asBool? then some .echo
  else some (.given (← j.orDefault "body" .empty Body.ofJson?))

/-- Reads a reply call. -/
def reply? (j : Json) : Option ReplyAction := do
  match ← j.need "act" Json.asText? with
  | "ack" => some (.acknowledge (← content? j))
  | "update" => some (.update (← content? j))
  | "response" => some (.respond (← content? j))
  | "error" => some (.fail (← j.need "error" StandardError.ofJson?))
  | "update_error" => some (.failUpdate (← j.need "error" StandardError.ofJson?))
  | _ => none

/-- Reads an action of a script. -/
def ofJson? (j : Json) : Option Action := do
  match ← j.need "act" Json.asText? with
  | "fail" => some (.fail (← j.need "error" Failure.ofBrief?))
  | "fail_next_send" => some .failNextSend
  | "save" => some (.keep (← j.need "as" Json.asText?))
  | _ => some (.reply (← reply? j) (← j.orDefault "try" false Json.asBool?))

end Action

namespace Script

/-- Reads the actions for each pattern. -/
def ofJson? (j : Json) : Option Script := do
  let actions (pattern : Pattern) :=
    j.may (Handler.patternWord pattern) (Json.asList? Action.ofJson?)
  let send ← actions .send
  let submit ← actions .submit
  let request ← actions .request
  let invoke ← actions .invoke
  let progress ← actions .progress
  some fun
    | .send => send
    | .submit => submit
    | .request => request
    | .invoke => invoke
    | .progress => progress
    | .pubSub => none

end Script

namespace Listener

/-- Reads a listener's name, and as what it listens. -/
def ofJson? (j : Json) : Option Listener := do
  let name ← j.need "listener" Json.asText?
  match ← j.orDefault "as" "interaction" Json.asText? with
  | "interaction" => some (interaction name)
  | "publish" => some (publishing name)
  | _ => none

end Listener

namespace Demand

/-- Reads an operation number and a body. -/
def operationAndBody? (j : Json) : Option (UInt16 × Body) := do
  some (← j.orDefault "operation" 0 Json.asUInt16?, ← j.orDefault "body" .empty Body.ofJson?)

/-- Reads what is asked for, and the listener that is told of the outcome, if one is. -/
def ofJson? (j : Json) : Option (Demand × Option String) := do
  let plain (make : UInt16 → Body → Demand) : Option Demand :=
    (operationAndBody? j).map fun (operation, body) => make operation body
  let listener := j.need "listener" Json.asText?
  let ids := j.need "ids" (Json.asList? Json.asText?)
  let keys := j.need "keys" (Json.asList? EntityKey.ofJson?)
  let subscription := j.need "subscription" Subscription.ofJson?
  match ← j.need "method" Json.asText? with
  | "send" => some (← plain send, none)
  | "submit" => some (← plain submit, none)
  | "request" => some (← plain request, none)
  | "invoke" => some (← plain invoke, none)
  | "progress" => some (← plain progress, none)
  | "register" => some (register (← subscription) (← listener), none)
  | "deregister" => some (deregister (← ids), none)
  | "publish_register" => some (publishRegister (← keys) (← listener), none)
  | "publish" => some (publish (← j.need "updates" (Json.asList? Update.ofJson?)), none)
  | "publish_deregister" => some (publishDeregister, none)
  | "async_submit" => some (← plain submit, some (← listener))
  | "async_request" => some (← plain request, some (← listener))
  | "async_invoke" => some (← plain invoke, some (← listener))
  | "async_progress" => some (← plain progress, some (← listener))
  | "async_register" => some (register (← subscription) (← listener), some (← listener))
  | "async_deregister" => some (deregister (← ids), some (← listener))
  | "async_publish_register" => some (publishRegister (← keys) (← listener), some (← listener))
  | "async_publish_deregister" => some (publishDeregister, some (← listener))
  | _ => none

end Demand

/-! ## Steps -/

namespace World

/-- The instance that a step is about. -/
def home? (w : World) (j : Json) : Option (String × Instance) := do
  let name ← j.orDefault "instance" "a" Json.asText?
  some (name, ← w.instances.get? name)

/-- The endpoint that a step is about. -/
def endpointArgument? (w : World) (j : Json) : Option EndpointRef := do
  w.endpoint? (← j.need "endpoint" Json.asText?)

/-- The consumer that a step is about. -/
def consumerArgument? (w : World) (j : Json) : Option ConsumerAt := do
  w.consumers.get? (← j.need "consumer" Json.asText?)

/-- The message of the history that a step is about. -/
def pastMessage? (w : World) (j : Json) : Option (Nat × Message) := do
  let n := (← j.need "n" Json.asUInt64?).toNat
  some (n, ← w.history[n]?)

/-- Whether what a message brings about happens at once. -/
def isBroadcast (m : Message) : Bool :=
  m.header.pattern = .pubSub && m.header.stage == some Stage.notify && m.header.isError

/-- Delivers a message to where it is addressed. -/
def deliverStep (w : World) (m : Message) : StepOutcome :=
  match w.deliver m with
  | (w, some via) =>
    { world := w, atOnce := isBroadcast m
      result := .object [("to", .string (w.endpointName via.slot))] }
  | (w, none) => { world := w, result := .string "no route", atOnce := isBroadcast m }

/-- Delivers the oldest messages of the queue, a limited number of them, with a report on each. -/
def pump (w : World) : Nat → List Json → World × List Json
  | 0, reports => (w, reports.reverse)
  | limit + 1, reports =>
    match w.queue with
    | [] => (w, reports.reverse)
    | n :: rest =>
      let w := { w with queue := rest }
      match w.history[n]? with
      | none => (w, reports.reverse)
      | some m =>
        let outcome := w.deliverStep m
        let (w, report) := outcome.world.report outcome.atOnce outcome.result [("n", .natural n)]
        pump w limit (report :: reports)

/-! ### Setting up -/

/-- Makes an instance. -/
def instanceStep (w : World) (j : Json) : Option StepOutcome := do
  let name ← j.need "name" Json.asText?
  let standard : Settings := {}
  let settings : Settings :=
    { waitTimeout := ← j.orDefault "wait_timeout_ms" standard.waitTimeout Json.asUInt64?
      epoch := ← j.orDefault "epoch" standard.epoch Json.asUInt64?
      separator := ← j.orDefault "separator" standard.separator Json.asText? }
  let clock : Clock ← match j.member? "clock" with
    | none | some .null => some (.manual settings.epoch)
    | some (.string "system") => some .system
    | some seconds => seconds.asUInt64?.map .manual
  let security ← j.orDefault "security" Security.unrestricted Security.ofJson?
  let i := { Instance.create settings clock w.site.now with security := security }
  some { world := w.setInstance name i, result := settings.toJson }

/-- Adds an endpoint to an instance. -/
def endpointStep (w : World) (j : Json) : Option StepOutcome := do
  let (home, _) ← w.home? j
  let name ← j.need "name" Json.asText?
  let uri ← j.need "uri" Json.asText?
  some { world := w.addEndpoint name uri home, result := .ok }

/-- Binds a provider to an endpoint. -/
def providerStep (w : World) (j : Json) : Option StepOutcome := do
  let endpoint ← w.endpointArgument? j
  let home ← w.homes[endpoint.slot]?
  let i ← w.instances.get? home
  let name ← j.need "name" Json.asText?
  let handler ← match ← j.orDefault "kind" "script" Json.asText? with
    | "script" => some (Script.handler name (← j.orDefault "script" (fun _ => none) Script.ofJson?))
    | "test" => some (Echo.handler name)
    | "noop" => some (Handler.refusing name)
    | _ => none
  let address : Address :=
    { endpoint := endpoint, uri := endpoint.uri, handler := handler
      authenticationId := ← j.orDefault "authentication_id" [] Json.asOctets? }
  let i := i.bindProvider (← j.orDefault "service" {} Service.ofBrief?) address
  some { world := w.setInstance home i, result := .object [("uri", .string address.uri)] }

/-- Binds a broker. -/
def brokerStep (w : World) (j : Json) : Option StepOutcome := do
  let (home, i) ← w.home? j
  let name ← j.need "name" Json.asText?
  let uri ← j.need "uri" Json.asText?
  let broker ← match ← j.orDefault "kind" "script" Json.asText? with
    | "script" =>
      let refused ← j.orDefault "fails" [] (Json.asMap? Failure.ofBrief?)
      let publishError ← j.may "fail_publish" StandardError.ofJson?
      some (Recorder.broker name w.brokersMade refused publishError)
    | "test" => some (Distributor.broker name w.brokersMade (← w.endpointArgument? j))
    | _ => none
  let w := { w with brokers := w.brokers.put name broker, brokersMade := w.brokersMade + 1 }
  some { world := w.setInstance home (i.bindBroker uri broker), result := .ok }

/-- Asks a distributing broker for the number of its subscriptions, taking the right to publish from
    a publisher before, if one is named. -/
def testBrokerStep (w : World) (j : Json) : Option StepOutcome := do
  let broker ← w.brokers.get? (← j.need "name" Json.asText?)
  if broker.observed then none
  let memory := w.site.memory broker
  let memory := match ← j.may "revoke" Json.asText? with
    | some uri => Distributor.revoke uri memory
    | none => memory
  let site := { w.site with memories := w.site.memories.put broker.slot memory }
  some
    { world := { w with site := site }
      result := .object [("subscriptions", .natural memory.subscriptions.length)] }

/-- Makes a consumer. -/
def consumerStep (w : World) (j : Json) : Option StepOutcome := do
  let endpoint ← w.endpointArgument? j
  let home ← w.homes[endpoint.slot]?
  let consumer : Consumer :=
    { addressing := ← Addressing.ofBrief? endpoint j
      patience := ← j.may "wait_timeout_ms" Json.asUInt64? }
  let name ← j.need "name" Json.asText?
  some { world := { w with consumers := w.consumers.put name ⟨home, consumer⟩ }, result := .ok }

/-- The header of a message that a consumer would send. -/
def detailsHeaderStep (w : World) (j : Json) : Option StepOutcome := do
  let c ← w.consumerArgument? j
  let h := c.consumer.addressing.header w.site.now
    (← j.need "type" (Enumeration.ofJson? Pattern)) (← j.may "stage" Json.asUInt8?)
    (← j.orDefault "operation" 0 Json.asUInt16?)
  some { world := w, result := h.toBrief }

/-! ### Interactions -/

/-- Starts an interaction of a consumer, or takes one over. -/
def callStep (w : World) (j : Json) : Option StepOutcome := do
  let c ← w.consumerArgument? j
  match ← j.need "method" Json.asText? with
  | "continue" =>
    let i ← w.instances.get? c.home
    let (i, result) := i.resume (← j.need "type" (Enumeration.ofJson? Pattern))
      (← j.need "stage" Json.asUInt8?) (← j.need "transaction_id" Json.asUInt64?)
      (.interaction (← j.need "listener" Json.asText?))
    some { world := w.setInstance c.home i, result := .ofOutcome result }
  | _ =>
    let id ← j.need "id" Json.asText?
    let (demand, reporter) ← Demand.ofJson? j
    some { world := w.call id c demand reporter, result := .string "started" }

/-- Waits for a further answer. -/
def nextStageStep (w : World) (j : Json) : Option StepOutcome := do
  let id ← j.need "id" Json.asText?
  let h ← w.handles.get? (← j.need "pending" Json.asText?)
  some
    { world := w.wait id h.home h.handle.transaction h.handle.patience (.stage h)
      result := .string "started" }

/-- Asks whether further answers are to come. -/
def isPendingStep (w : World) (j : Json) : Option StepOutcome := do
  let h ← w.handles.get? (← j.need "pending" Json.asText?)
  let i ← w.instances.get? h.home
  let id := h.handle.transaction
  let isPending := i.correlator.contains id
  some
    { world := w
      result := .object [("is_pending", .bool isPending), ("transaction_id", .ofUInt64 id)] }

/-- Drops a handle. -/
def dropPendingStep (w : World) (j : Json) : Option StepOutcome := do
  let name ← j.need "pending" Json.asText?
  let _ ← w.handles.get? name
  some { world := w.dropHandle name, result := .ok }

/-- Waits for an outcome. -/
def waitStep (w : World) (j : Json) : Option StepOutcome := do
  let (home, _) ← w.home? j
  let id ← j.need "id" Json.asText?
  let transaction ← j.need "transaction_id" Json.asUInt64?
  some
    { world := w.wait id home transaction (← j.may "timeout_ms" Json.asUInt64?) .outcome
      result := .string "started" }

/-- Makes a reply call on a respondent that was kept. -/
def actStep (w : World) (j : Json) : Option StepOutcome := do
  let name ← j.need "interaction" Json.asText?
  let place ← w.site.kept.get? name
  let respondent ← w.site.respondents[place]?
  let action ← Action.reply? j
  let (result, progress, site) ← w.site.replyKept name (action.call respondent.request)
  let _ ← result
  some
    { world := { w with site := site }
      result := .object [("result", result.toJson), ("progress", progress.toJson)] }

/-! ### Messages -/

/-- Delivers a message of the history, once more if it has left the queue. -/
def deliverPastStep (w : World) (j : Json) : Option StepOutcome := do
  let (n, m) ← w.pastMessage? j
  some ({ w with queue := w.queue.filter (· ≠ n) }.deliverStep m)

/-- Makes up a reply to a message of the history and delivers it. -/
def replyStep (w : World) (j : Json) : Option StepOutcome := do
  let (_, m) ← w.pastMessage? j
  let stage ← j.need "stage" Json.asUInt8?
  let error ← j.may "error" StandardError.ofJson?
  let body ← j.orDefault "body" .empty Body.ofJson?
  let isError ← j.orDefault "is_error" error.isSome Json.asBool?
  let pattern ← j.orDefault "type" m.header.pattern (Enumeration.ofJson? Pattern)
  let h := { m.header.reply w.site.now stage isError with pattern := pattern }
  some (w.deliverStep
    (match error with
      | some e => .ofError h e
      | none => { header := h, body := body }))

/-- Hands a message to the instance of an endpoint. -/
def onMessageStep (w : World) (j : Json) : Option StepOutcome := do
  let via ← w.endpointArgument? j
  let m ← j.need "message" (Message.ofBrief? w.site.now)
  some { world := w.receive via m, result := .ok, atOnce := isBroadcast m }

/-- Reports a failure of the transport to an instance. -/
def onTransmitErrorStep (w : World) (j : Json) : Option StepOutcome := do
  let (home, i) ← w.home? j
  let uri ← j.need "uri" Json.asText?
  let failure ← j.need "error" Failure.ofBrief?
  let header ← match j.member? "n" with
    | none | some .null => j.may "header" (Header.ofBrief? w.site.now)
    | some _ => (w.pastMessage? j).map fun (_, m) => some m.header
  let (i, site) := i.failTransmission w.site uri header failure
  some
    { world := { w with site := site }.setInstance home i, result := .ok
      atOnce := header.isNone }

/-! ### Tables -/

/-- Starts an interaction without sending anything. -/
def createTransactionStep (w : World) (j : Json) : Option StepOutcome := do
  let (home, i) ← w.home? j
  let pattern ← j.need "type" (Enumeration.ofJson? Pattern)
  let stage ← j.may "stage" Json.asUInt8?
  let listener ← match j.member? "listener" with
    | none | some .null => some none
    | some _ => (Listener.ofJson? j).map some
  let (i, result) := i.initiate w.site pattern stage listener
  some
    { world := w.setInstance home i
      result := match result with
        | .ok id => .okWith (.ofUInt64 id)
        | .error failure => failure.toBrief }

/-- Takes an interaction over. -/
def continueTransactionStep (w : World) (j : Json) : Option StepOutcome := do
  let (home, i) ← w.home? j
  let (i, result) := i.resume (← j.need "type" (Enumeration.ofJson? Pattern))
    (← j.need "stage" Json.asUInt8?) (← j.need "transaction_id" Json.asUInt64?)
    (← Listener.ofJson? j)
  some { world := w.setInstance home i, result := .ofOutcome result }

/-- Takes in a reply. -/
def handleStageStep (w : World) (j : Json) : Option StepOutcome := do
  let (home, i) ← w.home? j
  let (i, site, result) := i.receiveReply w.site (← j.need "message" (Message.ofBrief? w.site.now))
  some { world := { w with site := site }.setInstance home i, result := .ofOutcome result }

/-- Ends an interaction by a failure. -/
def handleErrorStep (w : World) (j : Json) : Option StepOutcome := do
  let (home, i) ← w.home? j
  let h ← j.need "header" (Header.ofBrief? w.site.now)
  let (i, site) := i.failExchange w.site h (← j.need "error" Failure.ofBrief?)
  some { world := { w with site := site }.setInstance home i, result := .ok }

/-- Forgets an interaction. -/
def abandonStep (w : World) (j : Json) : Option StepOutcome := do
  let (home, i) ← w.home? j
  let (i, present) := i.abandon (← j.need "transaction_id" Json.asUInt64?)
  some { world := w.setInstance home i, result := .bool present }

/-- Asks whether an interaction is pending, and whether none is. -/
def containsStep (w : World) (j : Json) : Option StepOutcome := do
  let (_, i) ← w.home? j
  let present := i.correlator.contains (← j.need "transaction_id" Json.asUInt64?)
  let isEmpty := i.correlator.exchanges.size == 0
  some { world := w, result := .object [("contains", .bool present), ("empty", .bool isEmpty)] }

/-- A step on the routes of an instance. -/
def routingStep (w : World) (j : Json) : Option StepOutcome := do
  let (home, i) ← w.home? j
  match i.routing.step w.site.now (← j.member? "step") with
  | some (routing, result) =>
    some { world := w.setInstance home { i with routing := routing }, result := result }
  | none => some { world := w, result := .badInput }

/-- A step on the relayed interactions of an instance. -/
def relayStep (w : World) (j : Json) : Option StepOutcome := do
  let (home, i) ← w.home? j
  match i.relay.step (i.clock.seconds w.site.now) (← j.member? "step") with
  | some (relay, result) =>
    some { world := w.setInstance home { i with relay := relay }, result := result }
  | none => some { world := w, result := .badInput }

/-- Moves the clock of an instance on. -/
def clockStep (w : World) (j : Json) : Option StepOutcome := do
  let (home, i) ← w.home? j
  let seconds ← j.need "seconds" Json.asUInt64?
  match i.clock with
  | .manual reading =>
    let reading := reading + seconds
    some
      { world := w.setInstance home { i with clock := .manual reading }
        result := .ofUInt64 reading }
  | .system => none

/-- What a recording listener has on record. -/
def recordedStep (w : World) (j : Json) : Option StepOutcome := do
  let name ← j.need "listener" Json.asText?
  if !name.startsWith "rec" then none
  let notices := w.notices.filter fun n => n.listener == name
  let messages := notices.filterMap fun n =>
    match n.outcome with
    | .message m => some m.toBrief
    | .error .. => none
  let errors := notices.filterMap fun n =>
    match n.outcome with
    | .message _ => none
    | .error _ e => some e
  some
    { world := w
      result := .object
        [("callbacks", .array (notices.map fun n => .string n.callback.name)),
         ("messages", .array messages),
         ("last_error", Json.ofOption StandardError.toJson errors.getLast?)] }

/-- A step of a scenario; `none` if it has not the right form. -/
def step? (w : World) (j : Json) : Option StepOutcome := do
  match ← j.need "do" Json.asText? with
  | "instance" => w.instanceStep j
  | "endpoint" => w.endpointStep j
  | "fail_next_send" =>
    some
      { world := w.updateEndpoint (← w.endpointArgument? j).slot Endpoint.failNext, result := .ok }
  | "close_transport" =>
    some { world := w.updateEndpoint (← w.endpointArgument? j).slot Endpoint.close, result := .ok }
  | "provider" => w.providerStep j
  | "act" => w.actStep j
  | "broker" => w.brokerStep j
  | "test_broker" => w.testBrokerStep j
  | "consumer" => w.consumerStep j
  | "details_header" => w.detailsHeaderStep j
  | "call" => w.callStep j
  | "next_stage" => w.nextStageStep j
  | "is_pending" => w.isPendingStep j
  | "drop_pending" => w.dropPendingStep j
  | "wait" => w.waitStep j
  | "cancel" => some { world := ← w.cancel (← j.need "id" Json.asText?), result := .ok }
  | "advance" =>
    let ms ← j.need "ms" Json.asUInt64?
    some { world := { w with elapsed := w.elapsed + ms.toNat }, result := .ok }
  | "clock" => w.clockStep j
  | "pump" =>
    let (w, reports) := w.pump (← j.orDefault "max" 100 Json.asUInt64?).toNat []
    some { world := w, result := .array reports }
  | "deliver" => w.deliverPastStep j
  | "discard" => some { world := { w with queue := [] }, result := .ok }
  | "reply" => w.replyStep j
  | "on_message" => w.onMessageStep j
  | "on_transmit_error" => w.onTransmitErrorStep j
  | "create_transaction" => w.createTransactionStep j
  | "continue_transaction" => w.continueTransactionStep j
  | "handle_stage" => w.handleStageStep j
  | "handle_error" => w.handleErrorStep j
  | "abandon" => w.abandonStep j
  | "contains" => w.containsStep j
  | "close_endpoint" =>
    let (home, i) ← w.home? j
    let i := i.closeEndpoint (← j.need "uri" Json.asText?)
    some { world := w.setInstance home i, result := .ok }
  | "close" =>
    let (home, i) ← w.home? j
    let (i, site) := i.close w.site
    some { world := { w with site := site }.setInstance home i, result := .ok, atOnce := true }
  | "routing" => w.routingStep j
  | "provider_table" => w.relayStep j
  | "recorded" => w.recordedStep j
  | _ => none

/-- Carries out a step and reports on it. -/
def perform (w : World) (j : Json) : World × Json :=
  match w.step? j with
  | some outcome => outcome.world.report outcome.atOnce outcome.result []
  | none => w.report false .badInput []

/-- Carries out steps in order, with a report on each. -/
def performAll (w : World) : List Json → List Json
  | [] => []
  | j :: rest =>
    let (w, report) := w.perform j
    report :: performAll w rest

/-- The reports on a scenario that happens at time `now`. -/
def scenario (now : UInt64) (steps : List Json) : List Json :=
  performAll { site := { now := now } } steps

end World

end Mal
