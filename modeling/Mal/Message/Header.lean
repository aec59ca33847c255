import Mal.Message.Enumeration
import Mal.Message.Pattern
import Mal.Message.Service
import Mal.Message.Stage

/-!
# Message headers

A header addresses a message, correlates it with its interaction, and carries the quality of service
and the scope it is exchanged under. Replies are derived from the header of the message being
answered (`Header.reply`): the addressing is swapped, the stage, the error flag and the timestamp
are new, and all else is echoed.

Timestamps are milliseconds since 1970. Nothing here reads a clock: whoever builds a header says
what time it is.
-/

namespace Mal

/-- Uninterpreted octets. -/
abbrev Bytes := List UInt8

/-- Identifier that the messages of one interaction share. -/
abbrev TransactionId := UInt64

/-- How carefully a message has to be delivered. -/
inductive QosLevel where
  | bestEffort
  | assured
  | queued
  | timely
  deriving DecidableEq

/-- Whether data is current, simulated or played back. -/
inductive Session where
  | live
  | simulation
  | replay
  deriving DecidableEq

instance : Enumeration QosLevel where
  title := "QosLevel"
  values := [.bestEffort, .assured, .queued, .timely]
  name
    | .bestEffort => "BestEffort"
    | .assured => "Assured"
    | .queued => "Queued"
    | .timely => "Timely"
  number
    | .bestEffort => 1
    | .assured => 2
    | .queued => 3
    | .timely => 4

instance : Enumeration Session where
  title := "SessionType"
  values := [.live, .simulation, .replay]
  name
    | .live => "Live"
    | .simulation => "Simulation"
    | .replay => "Replay"
  number
    | .live => 1
    | .simulation => 2
    | .replay => 3

/-- A session as it is written in publisher keys. -/
def Session.text : Session → String
  | .live => "LIVE"
  | .simulation => "SIMULATION"
  | .replay => "REPLAY"

/-- Quality of service of a message. -/
structure Qos where
  level : QosLevel := .bestEffort
  priority : UInt32 := 0
  deriving DecidableEq

/-- The part of the system a message is about: a domain path, a network zone and a session. -/
structure Scope where
  domain : List String := []
  networkZone : String := ""
  session : Session := .live
  sessionName : String := ""
  deriving DecidableEq

/-- A scope written as one text: session, session name, network zone and dotted domain, set apart by
    `separator`. Publishers of one endpoint are told apart by this text. -/
def Scope.key (scope : Scope) (separator : String) : String :=
  separator.intercalate
    [scope.session.text, scope.sessionName, scope.networkZone, ".".intercalate scope.domain]

/-- Header of a message. -/
structure Header where
  uriFrom : String
  uriTo : String
  pattern : Pattern
  stage : Option Stage
  timestamp : UInt64
  authenticationId : Bytes := []
  qos : Qos := {}
  scope : Scope := {}
  transaction : Option TransactionId := none
  service : Service := {}
  isError : Bool := false
  deriving DecidableEq

namespace Header

/-- The stage, reading a missing one as 0. -/
def stageOrZero (h : Header) : Stage :=
  h.stage.getD 0

/-- Whether a message with this header starts an interaction. A Send always does; a PubSub message
    does at the five stages that a broker serves. -/
def isInitial (h : Header) : Bool :=
  match h.pattern with
  | .send => true
  | .pubSub => h.stage ∈
      [some Stage.register, some Stage.publishRegister, some Stage.publish,
       some Stage.deregister, some Stage.publishDeregister]
  | _ => h.stage == some Stage.initial

/-- Header of a reply to `h`, made at time `now`. -/
def reply (h : Header) (now : UInt64) (stage : Stage) (isError : Bool) : Header :=
  { h with
    uriFrom := h.uriTo
    uriTo := h.uriFrom
    timestamp := now
    stage := some stage
    isError := isError }

/-- The stage an error about `h` has to be returned at, or `none` if nothing can be returned: the
    message is itself an error or a reply, or its pattern has no replies. A publish has no
    acknowledgement, so an error about it returns at the publish stage itself. -/
def errorReplyStage (h : Header) : Option Stage :=
  if h.isError then none
  else
    match h.pattern, h.stage with
    | .send, _ => none
    | .submit, some 1 => some Stage.submitAck
    | .request, some 1 => some Stage.requestResponse
    | .invoke, some 1 => some Stage.invokeAck
    | .progress, some 1 => some Stage.progressAck
    | .pubSub, some 1 => some Stage.registerAck
    | .pubSub, some 3 => some Stage.publishRegisterAck
    | .pubSub, some 5 => some Stage.publish
    | .pubSub, some 7 => some Stage.deregisterAck
    | .pubSub, some 9 => some Stage.publishDeregisterAck
    | _, _ => none

end Header

end Mal
