import Mal.Message.Enumeration

/-!
# Interaction patterns

Every message belongs to one of six patterns. Send is a single message; the other patterns expect at
least one reply.
-/

namespace Mal

/-- The pattern an interaction follows. -/
inductive Pattern where
  | send
  | submit
  | request
  | invoke
  | progress
  | pubSub
  deriving DecidableEq

namespace Pattern

/-- Name of a pattern in headers and error texts. -/
def name : Pattern → String
  | send => "Send"
  | submit => "Submit"
  | request => "Request"
  | invoke => "Invoke"
  | progress => "Progress"
  | pubSub => "PubSub"

instance : Enumeration Pattern where
  title := "InteractionType"
  values := [send, submit, request, invoke, progress, pubSub]
  name := name
  number
    | send => 1
    | submit => 2
    | request => 3
    | invoke => 4
    | progress => 5
    | pubSub => 6

/-- Whether an interaction of this pattern is answered at all. -/
def expectsReply : Pattern → Bool
  | send => false
  | _ => true

end Pattern

end Mal
