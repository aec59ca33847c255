import Mal.Failure

/-!
# Access control

Every message that comes in is checked before anything else is done with it. A check may let the
message pass, replace it, or refuse it.
-/

namespace Mal

/-- A check of incoming messages. -/
abbrev Security := Message → Except Failure Message

namespace Security

/-- Lets every message pass. -/
def unrestricted : Security := .ok

/-- Lets messages pass whose authentication id is on the list. -/
def allowing (allowed : List Bytes) : Security := fun m =>
  if m.header.authenticationId ∈ allowed then .ok m
  else .error (.security s!"authentication id from {m.header.uriFrom} not permitted")

/-- Refuses every message. -/
def denying (failure : Failure) : Security := fun _ => .error failure

/-- Changes the header of every message. -/
def rewriting (change : Header → Header) : Security := fun m =>
  .ok { m with header := change m.header }

end Security

end Mal
