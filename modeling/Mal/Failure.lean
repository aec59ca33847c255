import Mal.Message.Message

/-!
# Failures

Everything that can go wrong while an interaction is carried out is one `Failure`. Departures from
the order of a pattern are told apart by cause (`Disorder`) and reported as an incorrect state.
Every failure has a one-line message and a standard error, the form in which it travels in error
replies.
-/

namespace Mal

/-- Why a reply cannot be accepted by the interaction it arrived for. -/
inductive Unexpected where
  | singleReply
  | invokeComplete
  | invokeOrder
  | progressComplete
  | progressOrder
  deriving DecidableEq

/-- Wording of each cause. -/
def Unexpected.text : Unexpected → String
  | singleReply => "single reply already received or stage not expected"
  | invokeComplete => "invoke already complete"
  | invokeOrder => "invoke stage out of order"
  | progressComplete => "progress already complete"
  | progressOrder => "progress stage out of order"

/-- Departures from the order a pattern prescribes. -/
inductive Disorder where
  /-- No interaction of the pattern starts at the stage. -/
  | notInitial (pattern : Pattern) (stage : Option Stage)
  /-- A Send has no further stages. -/
  | sendContinued
  /-- The pattern ends with the stage. -/
  | nothingLeft (pattern : Pattern) (stage : Stage)
  /-- A reply that its interaction does not expect. -/
  | unexpected (reason : Unexpected) (header : Header)
  /-- The id belongs to another interaction. -/
  | idInUse
  /-- Nothing is pending under the id. -/
  | notPending
  /-- The outcomes of the interaction go to a listener. -/
  | listened
  /-- The last reply has been sent. -/
  | replyComplete
  | acknowledgementMissing
  | acknowledgementRepeated
  /-- No message of the pattern has the stage. -/
  | unexpectedStage (pattern : Pattern)

/-- Wording of each departure. -/
def Disorder.text : Disorder → String
  | notInitial pattern stage =>
    s!"{pattern.name} cannot be initiated at stage {Stage.optionText stage}"
  | sendContinued => "Send interactions cannot be continued"
  | nothingLeft pattern stage =>
    s!"{pattern.name} has nothing left to receive after stage {stage.toNat}"
  | unexpected reason header =>
    let mark := if header.isError then " (error)" else ""
    s!"{reason.text}: {header.pattern.name} stage {Stage.optionText header.stage}{mark}"
  | idInUse => "transaction id already in use"
  | notPending => "no pending interaction"
  | listened => "asynchronous interaction cannot be waited on"
  | replyComplete => "interaction already complete"
  | acknowledgementMissing => "acknowledgement not sent yet"
  | acknowledgementRepeated => "acknowledgement already sent"
  | unexpectedStage pattern => s!"unexpected stage for {pattern.name}"

/-- What can go wrong while an interaction is carried out. -/
inductive Failure where
  /-- A message or a call came in the wrong order, or for the wrong interaction. -/
  | incorrectState (message : String) (transaction : Option TransactionId) (stage : Option Stage)
  /-- Nothing is bound to the URI. -/
  | destinationUnknown (uri : String)
  /-- The body does not have the shape that the stage requires. -/
  | badEncoding (expected actual : String)
  /-- An error raised by a handler or received from the other side. -/
  | standard (error : StandardError)
  /-- No reply came in time. -/
  | timeout (transaction : TransactionId) (milliseconds : UInt64)
  /-- An endpoint did not take the message. -/
  | transport (message : String)
  /-- Access control refused the message. -/
  | security (message : String)
  /-- The handler does not offer the operation. -/
  | unsupported (message : String)
  | internal (message : String)
  deriving DecidableEq

namespace Failure

/-- The failure that reports a departure from a pattern's order. -/
def disorder (d : Disorder) (transaction : Option TransactionId) (stage : Option Stage) : Failure :=
  incorrectState d.text transaction stage

/-- A transaction id as it is written in messages: `Some(7)`, or `None`. -/
def transactionText : Option TransactionId → String
  | some id => s!"Some({id.toNat})"
  | none => "None"

/-- One line describing a failure. -/
def message : Failure → String
  | incorrectState text transaction stage =>
    let place := s!"transaction: {transactionText transaction}, stage: {Stage.optionText stage}"
    s!"Incorrect state: {text} ({place})"
  | destinationUnknown uri => s!"Destination unknown: {uri}"
  | badEncoding expected actual => s!"Bad encoding: expected {expected} body, got {actual}"
  | standard error => error.text
  | timeout transaction milliseconds =>
    s!"Timeout: transaction {transaction.toNat} received no reply within {milliseconds.toNat}ms"
  | transport text => s!"Transport error: {text}"
  | security text => s!"Security check failed: {text}"
  | unsupported text => s!"Unsupported operation: {text}"
  | internal text => s!"Internal error: {text}"

/-- Whether a failure is a departure from the order of a pattern. -/
def isDisorder : Failure → Bool
  | incorrectState .. => true
  | _ => false

/-- The form in which a failure travels in an error reply. A standard error is passed on as it
    is. -/
def standardError : Failure → StandardError
  | incorrectState text _ _ => .withInfo StandardError.incorrectState text
  | destinationUnknown uri => .withInfo StandardError.destinationUnknown uri
  | failure@(badEncoding _ _) => .withInfo StandardError.badEncoding failure.message
  | standard error => error
  | failure@(timeout _ _) => .withInfo StandardError.deliveryTimedOut failure.message
  | transport text => .withInfo StandardError.deliveryFailed text
  | security text => .withInfo StandardError.authorisationFail text
  | unsupported text => .withInfo StandardError.unsupportedOperation text
  | internal text => .withInfo StandardError.internal text

@[simp] theorem standardError_standard (error : StandardError) :
    (standard error).standardError = error := rfl

end Failure

end Mal
