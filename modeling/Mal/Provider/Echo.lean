import Mal.Provider.Handler

/-!
# An echoing provider

A provider for trying out a system. It acknowledges a Submit unless its body is empty, answers a
Request and an Invoke with the body it was given, and answers a Progress with one update for each
element of the body. It gives up at the first reply that fails.
-/

namespace Mal

namespace Conduct

/-- Makes reply calls one after another, giving up at the first that fails. -/
def inTurn : List ReplyCall → Conduct
  | [] => .finish (.ok ())
  | call :: rest =>
    .reply call fun result =>
      match result with
      | some (.error failure) => .finish (.error failure)
      | _ => inTurn rest

end Conduct

namespace Echo

/-- What an empty Submit is rejected with. -/
def rejection : StandardError :=
  .withInfo 70100 "empty submit"

/-- One update for each element of a body. -/
def updates : Body → List ReplyCall
  | .elements es => es.map fun e => .update (.elements [e])
  | _ => []

def conduct (m : Message) : Conduct :=
  match m.header.pattern with
  | .submit =>
    if m.body = .empty then .finish (.error (.standard rejection))
    else .inTurn [.acknowledge .empty]
  | .request => .inTurn [.respond m.body]
  | .invoke => .inTurn [.acknowledge .empty, .respond m.body]
  | .progress => .inTurn (.acknowledge .empty :: updates m.body ++ [.respond .empty])
  | .send | .pubSub => Handler.refuse m

def handler (name : String) : Handler :=
  { name := name, conduct := conduct }

end Echo

end Mal
