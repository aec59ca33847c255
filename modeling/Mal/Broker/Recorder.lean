import Mal.Broker.Broker

/-!
# A recording broker

A broker for watching a system. It accepts every request and puts it on record, except the kinds of
request that it was told to refuse.
-/

namespace Mal.Recorder

/-- A broker that refuses each kind of request in `refused` without recording it, and each publish
    with `publishError`, if there is one, after recording it. -/
def broker (name : String) (slot : Nat) (refused : List (String × Failure))
    (publishError : Option StandardError) : Broker :=
  { name := name
    slot := slot
    observed := true
    conduct := fun _ memory header request =>
      match (refused.find? fun e => e.1 == request.name) with
      | some (_, failure) => .finish memory (.error failure)
      | none =>
        let memory := { memory with calls := memory.calls ++ [request.name] }
        match request, publishError with
        | .register s, _ =>
          .finish { memory with subscriptions := memory.subscriptions ++ [(header, s)] } (.ok ())
        | .publish _, some e => .finish memory (.error (.standard e))
        | _, _ => .finish memory (.ok ()) }

end Mal.Recorder
