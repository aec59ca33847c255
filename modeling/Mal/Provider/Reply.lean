import Mal.Failure

/-!
# Replies of a provider

A provider answers an initial message by reply calls, in the order that the pattern allows:

* Submit:   an acknowledgement
* Request:  a response
* Invoke:   an acknowledgement, then a response
* Progress: an acknowledgement, any number of updates, then a response

An error ends the interaction: at the acknowledgement stage if nothing was acknowledged yet, at the
final stage otherwise, or, for Progress, at the update stage by a call of its own.

`ReplyCall.step?` says what each call needs and does under each pattern, and `ReplyProgress.advance`
checks it against how far the answers have come.
-/

namespace Mal

/-- How far the answers to an interaction have come. -/
structure ReplyProgress where
  acknowledged : Bool := false
  complete : Bool := false
  deriving DecidableEq

/-- What a reply needs of the progress, and does to it. -/
structure ReplyStep where
  stage : Stage
  needsAck : Bool := false
  marksAck : Bool := false
  completes : Bool := false
  deriving DecidableEq

/-- The calls by which a provider answers. -/
inductive ReplyCall where
  | acknowledge (body : Body)
  | update (body : Body)
  | respond (body : Body)
  | fail (error : StandardError)
  | failUpdate (error : StandardError)
  deriving DecidableEq

namespace ReplyProgress

/-- The progress after a reply, unless the reply is out of order. -/
def advance (p : ReplyProgress) (step : ReplyStep) : Except Disorder ReplyProgress :=
  if p.complete then .error .replyComplete
  else if step.needsAck && !p.acknowledged then .error .acknowledgementMissing
  else if step.marksAck && p.acknowledged then .error .acknowledgementRepeated
  else .ok ⟨p.acknowledged || step.marksAck, p.complete || step.completes⟩

/-- The stage an error has to be returned at: the acknowledgement stage before an acknowledgement,
    the final stage after it, none once the interaction is complete. -/
def errorStage (p : ReplyProgress) (pattern : Pattern) : Option Stage :=
  if p.complete then none
  else
    match pattern with
    | .submit => some Stage.submitAck
    | .request => some Stage.requestResponse
    | .invoke => some (if p.acknowledged then Stage.invokeResponse else Stage.invokeAck)
    | .progress => some (if p.acknowledged then Stage.progressResponse else Stage.progressAck)
    | .send | .pubSub => none

end ReplyProgress

namespace ReplyCall

/-- What a call does, given the pattern it answers and the progress so far. `none` if the pattern
    has no such call; `some none` if the call would return an error and there is no stage left to
    return it at. -/
def step? (call : ReplyCall) (pattern : Pattern) (p : ReplyProgress) : Option (Option ReplyStep) :=
  let erring := some ((p.errorStage pattern).map fun stage => { stage := stage, completes := true })
  match pattern, call with
  | .submit, acknowledge _ =>
    some (some { stage := Stage.submitAck, marksAck := true, completes := true })
  | .submit, fail _ => some (some { stage := Stage.submitAck, completes := true })
  | .request, respond _ => some (some { stage := Stage.requestResponse, completes := true })
  | .request, fail _ => some (some { stage := Stage.requestResponse, completes := true })
  | .invoke, acknowledge _ => some (some { stage := Stage.invokeAck, marksAck := true })
  | .invoke, respond _ =>
    some (some { stage := Stage.invokeResponse, needsAck := true, completes := true })
  | .invoke, fail _ => erring
  | .progress, acknowledge _ => some (some { stage := Stage.progressAck, marksAck := true })
  | .progress, update _ => some (some { stage := Stage.progressUpdate, needsAck := true })
  | .progress, failUpdate _ =>
    some (some { stage := Stage.progressUpdate, needsAck := true, completes := true })
  | .progress, respond _ =>
    some (some { stage := Stage.progressResponse, needsAck := true, completes := true })
  | .progress, fail _ => erring
  | _, _ => none

/-- The error that a call returns, if it returns one. -/
def error? : ReplyCall → Option StandardError
  | fail e => some e
  | failUpdate e => some e
  | _ => none

/-- The body of the reply that a call sends. The acknowledgement of a Submit is empty. -/
def body (pattern : Pattern) : ReplyCall → Body
  | acknowledge b => if pattern = .submit then .empty else b
  | update b => b
  | respond b => b
  | fail e => .error e
  | failUpdate e => .error e

/-- Name of a call. -/
def name : ReplyCall → String
  | acknowledge _ => "ack"
  | update _ => "update"
  | respond _ => "response"
  | fail _ => "error"
  | failUpdate _ => "update_error"

end ReplyCall

end Mal
