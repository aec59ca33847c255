import Mal.Message.Body

/-!
# Messages

A message is a header, a body and free-form QoS properties. Whether a message reports an error is
decided by the flag in its header, not by the shape of its body: `Message.error?` finds an error in
every flagged message, and in no other.
-/

namespace Mal

/-- Named settings that travel with a message; names are distinct. -/
abbrev Properties := List (String × String)

structure Message where
  header : Header
  body : Body := .empty
  properties : Properties := []
  deriving DecidableEq

namespace Message

/-- An error message: flagged, with the error as its body and no properties. -/
def ofError (header : Header) (error : StandardError) : Message :=
  { header := { header with isError := true }, body := .error error }

/-- The error a message reports, if it is flagged as one. A flagged message whose body is no error
    reports an unknown error. -/
def error? (m : Message) : Option StandardError :=
  if m.header.isError then
    some (m.body.error?.getD
      (.withInfo StandardError.unknown s!"error message with {m.body.shape} body"))
  else
    none

@[simp] theorem error?_ofError (header : Header) (error : StandardError) :
    (ofError header error).error? = some error := rfl

/-- Exactly the flagged messages report an error. -/
@[simp] theorem isSome_error? (m : Message) : m.error?.isSome = m.header.isError := by
  unfold error?
  split <;> simp_all

end Message

end Mal
