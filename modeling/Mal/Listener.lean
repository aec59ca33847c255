import Mal.Message.Message

/-!
# Listeners

Asynchronous interactions report to a listener. What arrived for an interaction, a message or an
error at some stage, is an `Outcome`; the pattern and the stage of its header decide which callback
of the listener it invokes.

A listener is known by its name, and what it was told is a list of notices. A listener on a
registration also owns the notify route that was set up for the registration: a rejection drops the
route (`Listener.droppedRoute?`).
-/

namespace Mal

/-- What arrived for an interaction. -/
inductive Outcome where
  | message (message : Message)
  | error (header : Header) (error : StandardError)
  deriving DecidableEq

namespace Outcome

/-- A received message as an outcome: its error if it is flagged, else the message itself. -/
def ofMessage (m : Message) : Outcome :=
  match m.error? with
  | some e => error m.header e
  | none => message m

def header : Outcome → Header
  | message m => m.header
  | error h _ => h

def isError : Outcome → Bool
  | message _ => false
  | error .. => true

@[simp] theorem header_ofMessage (m : Message) : (ofMessage m).header = m.header := by
  unfold ofMessage
  split <;> rfl

/-- An outcome is an error exactly when the message was flagged. -/
@[simp] theorem isError_ofMessage (m : Message) : (ofMessage m).isError = m.header.isError := by
  rw [← Message.isSome_error?]
  unfold ofMessage
  split <;> simp_all [isError]

end Outcome

/-- The callbacks of listeners, first those of the initiating side, then those of publishers. -/
inductive Callback where
  | submitAck
  | submitError
  | requestResponse
  | requestError
  | invokeAck
  | invokeAckError
  | invokeResponse
  | invokeResponseError
  | progressAck
  | progressAckError
  | progressUpdate
  | progressUpdateError
  | progressResponse
  | progressResponseError
  | registerAck
  | registerError
  | deregisterAck
  | deregisterError
  | notify
  | notifyError
  | publishRegisterAck
  | publishRegisterError
  | publishError
  | publishDeregisterAck
  deriving DecidableEq

/-- Name of a callback. -/
def Callback.name : Callback → String
  | submitAck => "submit_ack_received"
  | submitError => "submit_error_received"
  | requestResponse => "request_response_received"
  | requestError => "request_error_received"
  | invokeAck => "invoke_ack_received"
  | invokeAckError => "invoke_ack_error_received"
  | invokeResponse => "invoke_response_received"
  | invokeResponseError => "invoke_response_error_received"
  | progressAck => "progress_ack_received"
  | progressAckError => "progress_ack_error_received"
  | progressUpdate => "progress_update_received"
  | progressUpdateError => "progress_update_error_received"
  | progressResponse => "progress_response_received"
  | progressResponseError => "progress_response_error_received"
  | registerAck => "register_ack_received"
  | registerError => "register_error_received"
  | deregisterAck => "deregister_ack_received"
  | deregisterError => "deregister_error_received"
  | notify => "notify_received"
  | notifyError => "notify_error_received"
  | publishRegisterAck => "publish_register_ack_received"
  | publishRegisterError => "publish_register_error_received"
  | publishError => "publish_error_received"
  | publishDeregisterAck => "publish_deregister_ack_received"

namespace Outcome

/-- The callback that reports an outcome to an interaction listener. A Send has no replies, so an
    outcome of one invokes nothing. -/
def interactionCallback? (o : Outcome) : Option Callback :=
  let pick (plain error : Callback) := some (if o.isError then error else plain)
  let stage := o.header.stageOrZero
  match o.header.pattern with
  | .send => none
  | .submit => pick .submitAck .submitError
  | .request => pick .requestResponse .requestError
  | .invoke =>
    if stage = Stage.invokeAck then pick .invokeAck .invokeAckError
    else pick .invokeResponse .invokeResponseError
  | .progress =>
    if stage = Stage.progressAck then pick .progressAck .progressAckError
    else if stage = Stage.progressUpdate then pick .progressUpdate .progressUpdateError
    else pick .progressResponse .progressResponseError
  | .pubSub =>
    if stage = Stage.deregisterAck then pick .deregisterAck .deregisterError
    else if stage = Stage.notify then pick .notify .notifyError
    else pick .registerAck .registerError

/-- The callback that reports an outcome to a publish listener; the pattern is not looked at. -/
def publishCallback (o : Outcome) : Callback :=
  let stage := o.header.stageOrZero
  if o.isError then
    if stage = Stage.publishRegisterAck then .publishRegisterError else .publishError
  else
    if stage = Stage.publishDeregisterAck then .publishDeregisterAck else .publishRegisterAck

end Outcome

/-- Where a notify route leads from: endpoint URI and subscription id. -/
abbrev RouteKey := String × String

/-- What the outcomes of an asynchronous interaction are reported to. -/
inductive Listener where
  | interaction (name : String)
  | publishing (name : String)
  /-- The listener of a registration that set up the given notify route. -/
  | registration (name : String) (route : RouteKey)
  deriving DecidableEq

/-- One invocation of a callback. -/
structure Notice where
  listener : String
  callback : Callback
  outcome : Outcome
  deriving DecidableEq

namespace Listener

/-- The callback invocation that reports an outcome. A registration listener passes on only the
    answers to the registration. -/
def notice? (l : Listener) (o : Outcome) : Option Notice :=
  match l with
  | interaction name => o.interactionCallback?.map fun c => ⟨name, c, o⟩
  | publishing name => some ⟨name, o.publishCallback, o⟩
  | registration name _ =>
    match o.interactionCallback? with
    | some .registerAck => some ⟨name, .registerAck, o⟩
    | some .registerError => some ⟨name, .registerError, o⟩
    | _ => none

/-- The notify route that an outcome drops: the one a rejected registration had set up. -/
def droppedRoute? (l : Listener) (o : Outcome) : Option RouteKey :=
  match l with
  | registration _ route =>
    if o.interactionCallback? = some .registerError then some route else none
  | _ => none

/-- How the kind of a listener is written. -/
def text : Listener → String
  | publishing _ => "ConsumerListener::Publish"
  | _ => "ConsumerListener::Interaction"

end Listener

end Mal
