import Mal.Provider.Handler

/-!
# The answering side of an interaction

A provider that received an initial message answers it through a `Respondent`, which knows how far
the answers have come. A reply is recorded before it is sent (`Respondent.begin`), and the record is
taken back if the send fails (`Respondent.settle`).
-/

namespace Mal

/-- The answering side of one interaction. -/
structure Respondent where
  /-- The message that started the interaction. -/
  request : Message
  address : Address
  progress : ReplyProgress := {}

namespace Respondent

/-- The pattern that is answered. -/
def pattern (r : Respondent) : Pattern :=
  r.request.header.pattern

/-- The reply that a call sends at a stage, made at time `now`. -/
def replyMessage (r : Respondent) (now : UInt64) (stage : Stage) (call : ReplyCall) : Message :=
  match call.error? with
  | some e => r.address.errorResponse now r.request.header stage e
  | none =>
    r.address.response now r.request.header r.request.properties stage (call.body r.pattern)

/-- Records a reply and gives the message to send. `none` if the pattern has no such call. -/
def begin (r : Respondent) (now : UInt64) (call : ReplyCall) :
    Option (Except Failure (Respondent × Message)) :=
  let transaction := r.request.header.transaction
  match call.step? r.pattern r.progress with
  | none => none
  | some none => some (.error (.disorder .replyComplete transaction none))
  | some (some step) =>
    match r.progress.advance step with
    | .error d => some (.error (.disorder d transaction (some step.stage)))
    | .ok p => some (.ok ({ r with progress := p }, r.replyMessage now step.stage call))

/-- Takes the record of a reply back if it could not be sent; `previous` is the progress before
    it. -/
def settle (r : Respondent) (previous : ReplyProgress) (result : Except Failure Unit) :
    Respondent :=
  match result with
  | .ok _ => r
  | .error _ => { r with progress := previous }

/-- The stage at which an error about the interaction would have to be returned now. -/
def errorStage (r : Respondent) : Option Stage :=
  r.progress.errorStage r.pattern

end Respondent

end Mal
