import Mal.Instance.Instance

/-!
# Dispatch of incoming messages

`Instance.receive` is the one way in for messages. After the security check, a message goes by its
pattern and stage: initial stages to the bound provider or broker, replies to the pending
interaction they belong to, notifies and publish errors to the routes of subscribers and publishers.
A failure is returned to the sender as an error reply, at the stage that the sender is waiting for;
where there is no such stage it is dropped.

`Instance.failTransmission` takes in what the transport could not deliver.
-/

namespace Mal

/-- What a message is, by its pattern and stage. -/
inductive Intake where
  /-- A single message for a provider. -/
  | send
  /-- The start of an interaction with a provider. -/
  | request
  /-- A reply to an interaction that was initiated here. -/
  | reply
  /-- The rejection of a publish. -/
  | publishError
  | notify
  /-- A request to a broker. -/
  | broker
  /-- No message of the pattern has the stage. -/
  | unexpected
  deriving DecidableEq

/-- What a message with this header is. -/
def Header.intake (h : Header) : Intake :=
  match h.pattern, h.stage with
  | .send, _ => .send
  | .submit, some 1 | .request, some 1 | .invoke, some 1 | .progress, some 1 => .request
  | .submit, some 2 | .request, some 2 => .reply
  | .invoke, some 2 | .invoke, some 3 => .reply
  | .progress, some 2 | .progress, some 3 | .progress, some 4 => .reply
  | .pubSub, some 2 | .pubSub, some 4 | .pubSub, some 8 | .pubSub, some 10 => .reply
  | .pubSub, some 5 => if h.isError then .publishError else .broker
  | .pubSub, some 6 => .notify
  | .pubSub, some 1 | .pubSub, some 3 | .pubSub, some 7 | .pubSub, some 9 => .broker
  | _, _ => .unexpected

namespace Instance

/-- The provider that a message is for. -/
def provider (i : Instance) (h : Header) : Except Failure Address :=
  match i.bindings.provider? h.uriTo h.service with
  | some a => .ok a
  | none => .error (.destinationUnknown s!"{h.uriTo} ({h.service.text})")

/-- Gives a Send to its provider. The sender learns nothing of the outcome. -/
def dispatchSend (i : Instance) (s : Site) (m : Message) : Site × Except Failure Unit :=
  match i.provider m.header with
  | .error failure => (s, .error failure)
  | .ok a => ((s.serve a m).2.2, .ok ())

/-- Gives the start of an interaction to its provider. If the handler fails before the interaction
    is complete, its failure is returned, at the stage that the interaction has come to. -/
def dispatchRequest (i : Instance) (s : Site) (m : Message) : Site × Except Failure Unit :=
  match i.provider m.header with
  | .error failure => (s, .error failure)
  | .ok a =>
    let (result, r, s) := s.serve a m
    match result with
    | .ok _ => (s, .ok ())
    | .error failure =>
      match r.errorStage with
      | none => (s, .ok ())
      | some stage => ((s.respondError a m.header stage failure.standardError).2, .ok ())

/-- Gives a request to its broker and acknowledges it. -/
def dispatchBroker (i : Instance) (s : Site) (via : EndpointRef) (m : Message) :
    Site × Except Failure Unit :=
  match i.bindings.broker? m.header.uriTo with
  | none => (s, .error (.destinationUnknown m.header.uriTo))
  | some broker =>
    match BrokerRequest.ofMessage m with
    | .error failure => (s, .error failure)
    | .ok request =>
      match s.ask broker m.header request with
      | (.error failure, s) => (s, .error failure)
      | (.ok _, s) =>
        match request.ackStage? with
        | none => (s, .ok ())
        | some stage =>
          let (result, s) := s.respondVia via m.header m.properties stage .empty
          (s, result)

/-- Tells listeners about an error that concerns all their subscriptions. -/
def tellNotifyError (s : Site) (h : Header) (error : StandardError) (listeners : List String) :
    Site :=
  listeners.foldl (fun s name => s.note (.told ⟨name, .notifyError, .error h error⟩)) s

/-- Passes a notify on to its subscriber. An error notify goes to all subscribers on the endpoint,
    and takes their routes down. -/
def dispatchNotify (i : Instance) (s : Site) (m : Message) :
    Instance × Site × Except Failure Unit :=
  let uri := m.header.uriTo
  match m.error? with
  | some error =>
    ({ i with routing := i.routing.removeNotifyOn uri },
     tellNotifyError s m.header error ((i.routing.notifyOn uri).map Prod.snd), .ok ())
  | none =>
    match m.body with
    | .notify n =>
      match i.routing.notify? uri n.subscriptionId with
      | some name => (i, s.note (.told ⟨name, .notify, .message m⟩), .ok ())
      | none => (i, s, .ok ())
    | body => (i, s, .error (.badEncoding "notify" body.shape))

/-- Passes the rejection of a publish on to the publisher, and takes its route down. -/
def dispatchPublishError (i : Instance) (s : Site) (m : Message) : Instance × Site :=
  let key := i.routing.publisherKeyFor m.header
  let error := m.error?.getD { number := StandardError.unknown }
  match i.routing.publisher? key with
  | some name =>
    ({ i with routing := i.routing.removePublisher key },
     s.note (.told ⟨name, .publishError, .error m.header error⟩))
  | none => (i, s)

/-- Dispatches a message that came in by an endpoint. -/
def dispatch (i : Instance) (s : Site) (via : EndpointRef) (m : Message) :
    Instance × Site × Except Failure Unit :=
  match i.security m with
  | .error failure => (i, s, .error failure)
  | .ok m =>
    match m.header.intake with
    | .send => (i, i.dispatchSend s m)
    | .request => (i, i.dispatchRequest s m)
    | .reply => i.receiveReply s m
    | .publishError =>
      let (i, s) := i.dispatchPublishError s m
      (i, s, .ok ())
    | .notify => i.dispatchNotify s m
    | .broker => (i, i.dispatchBroker s via m)
    | .unexpected =>
      (i, s, .error (.disorder (.unexpectedStage m.header.pattern) m.header.transaction
        m.header.stage))

/-- Returns a failure to the sender of a message, if the sender waits for a reply. -/
def returnFailure (s : Site) (via : EndpointRef) (h : Header) (failure : Failure) : Site :=
  match h.errorReplyStage with
  | none => s
  | some stage => (s.respondErrorVia via h stage failure.standardError).2

/-- Handles a message that came in by an endpoint. -/
def receive (i : Instance) (s : Site) (via : EndpointRef) (m : Message) : Instance × Site :=
  match i.dispatch s via m with
  | (i, s, .ok _) => (i, s)
  | (i, s, .error failure) => (i, returnFailure s via m.header failure)

/-- Takes in a failure of the transport. With the header of the message that was not delivered, the
    interaction it started is ended, or, if it was a publish, its publisher is told; a reply is
    dropped. Without a header the whole connection of the endpoint is gone, and all its subscribers
    are told. -/
def failTransmission (i : Instance) (s : Site) (uri : String) (h : Option Header)
    (failure : Failure) : Instance × Site :=
  match h with
  | some h =>
    if h.pattern = .pubSub ∧ h.stage = some Stage.publish then
      match i.routing.publisher? (i.routing.publisherKeyAt uri h) with
      | some name =>
        (i, s.note (.told ⟨name, .publishError,
          .error (h.reply s.now Stage.publish true) failure.standardError⟩))
      | none => (i, s)
    else if h.isInitial ∧ h.pattern.expectsReply then i.failExchange s h failure
    else (i, s)
  | none =>
    let h : Header :=
      { uriFrom := "", uriTo := uri, pattern := .pubSub, stage := some Stage.notify,
        timestamp := s.now, isError := true }
    ({ i with routing := i.routing.removeNotifyOn uri },
     tellNotifyError s h failure.standardError ((i.routing.notifyOn uri).map Prod.snd))

end Instance

end Mal
