import Mal.Provider.Reply
import Mal.Transport

/-!
# Provider handlers

A handler decides how a provider answers an initial message. What it does is a `Conduct`: a finite
tree of reply calls, each followed by what the handler makes of the call's result, that ends with
the handler's own result. Every handler that makes finitely many calls is of this form.

A handler together with the endpoint, the URI and the authentication id that it answers under is an
`Address`.
-/

namespace Mal

/-- The result of a reply call; `none` if the pattern has no such call. -/
abbrev ReplyResult := Option (Except Failure Unit)

/-- What a handler does with an interaction. -/
inductive Conduct where
  /-- Returns. -/
  | finish (result : Except Failure Unit)
  /-- Makes a reply call and goes on with its result. -/
  | reply (call : ReplyCall) (next : ReplyResult → Conduct)
  /-- Makes the provider's endpoint fail its next send. -/
  | failNextSend (next : Conduct)
  /-- Keeps the respondent under a name, to use it after returning. -/
  | keep (name : String) (next : Conduct)

/-- How a provider answers initial messages. -/
structure Handler where
  name : String
  /-- For which patterns the handler's work is meant to be watched. -/
  observed : Pattern → Bool := fun _ => false
  conduct : Message → Conduct

namespace Handler

/-- A pattern as it is named in refusals. -/
def patternWord : Pattern → String
  | .send => "send"
  | .submit => "submit"
  | .request => "request"
  | .invoke => "invoke"
  | .progress => "progress"
  | .pubSub => "pubsub"

/-- How an operation is refused that the provider does not offer. -/
def refusal (h : Header) : Failure :=
  .unsupported s!"{patternWord h.pattern} operation {h.service.text}"

/-- The conduct of a provider that does not offer the operation. -/
def refuse (m : Message) : Conduct :=
  .finish (.error (refusal m.header))

/-- A provider that offers nothing. -/
def refusing (name : String) : Handler :=
  { name := name, conduct := refuse }

end Handler

/-- A provider bound to an endpoint. -/
structure Address where
  endpoint : EndpointRef
  /-- Sender of the provider's replies; usually the endpoint's URI. -/
  uri : String
  authenticationId : Bytes := []
  handler : Handler

namespace Address

/-- Header of a reply from this provider to a message with header `source`. -/
def replyHeader (a : Address) (now : UInt64) (source : Header) (stage : Stage) (isError : Bool) :
    Header :=
  { source.reply now stage isError with
    uriFrom := a.uri
    authenticationId := a.authenticationId }

/-- A reply with a body; properties are passed on. -/
def response (a : Address) (now : UInt64) (source : Header) (properties : Properties)
    (stage : Stage) (body : Body) : Message :=
  { header := a.replyHeader now source stage false, body := body, properties := properties }

/-- A reply that reports an error. -/
def errorResponse (a : Address) (now : UInt64) (source : Header) (stage : Stage)
    (error : StandardError) : Message :=
  .ofError (a.replyHeader now source stage true) error

end Address

end Mal
