import Mal.Addressing
import Mal.Failure

/-!
# Transport endpoints

Messages leave an instance through endpoints. Encoding and connections are no concern here: an
endpoint takes a message, or fails to. Which sends fail is part of the endpoint's state (`faults`),
so every pattern of failures is the behaviour of some endpoint.
-/

namespace Mal

/-- An endpoint that messages leave from. -/
structure Endpoint where
  name : String
  uri : String
  /-- A closed endpoint takes nothing any more. -/
  closed : Bool := false
  /-- What happens to the next sends, in order; afterwards every send succeeds. -/
  faults : List (Option Failure) := []

namespace Endpoint

/-- Whether the endpoint takes the next message, and the endpoint afterwards. A send that fails
    because the endpoint is closed uses up no scheduled fault. -/
def attempt (e : Endpoint) : Except Failure Unit × Endpoint :=
  if e.closed then (.error (.transport s!"{e.uri} is closed"), e)
  else
    match e.faults with
    | [] => (.ok (), e)
    | none :: rest => (.ok (), { e with faults := rest })
    | some failure :: rest => (.error failure, { e with faults := rest })

/-- What a send fails with on request. -/
def simulatedFailure : Failure := .transport "simulated send failure"

/-- The same endpoint, failing its next send. -/
def failNext (e : Endpoint) : Endpoint :=
  { e with faults := some simulatedFailure :: e.faults.tail }

def close (e : Endpoint) : Endpoint :=
  { e with closed := true }

end Endpoint

/-- All endpoints, and what has left them. -/
structure Transport where
  endpoints : List Endpoint := []
  /-- The messages that have been sent, oldest first, each with the place of its endpoint. -/
  sent : List (Nat × Message) := []

namespace Transport

/-- Sends a message through an endpoint. An endpoint that does not exist is as good as closed. -/
def send (t : Transport) (e : EndpointRef) (m : Message) : Except Failure Unit × Transport :=
  match t.endpoints[e.slot]? with
  | none => (.error (.transport s!"{e.uri} is closed"), t)
  | some endpoint =>
    let (result, endpoint) := endpoint.attempt
    let sent := match result with
      | .ok _ => t.sent ++ [(e.slot, m)]
      | .error _ => t.sent
    (result, { endpoints := t.endpoints.set e.slot endpoint, sent := sent })

/-- Changes the state of one endpoint. -/
def update (t : Transport) (slot : Nat) (change : Endpoint → Endpoint) : Transport :=
  { t with endpoints := t.endpoints.modify slot change }

/-- A send adds its message to what was sent exactly when it succeeds. -/
theorem sent_send (t : Transport) (e : EndpointRef) (m : Message) :
    (t.send e m).2.sent =
      match (t.send e m).1 with
      | .ok _ => t.sent ++ [(e.slot, m)]
      | .error _ => t.sent := by
  unfold send
  split
  · rfl
  · simp only

end Transport

end Mal
