/-!
# Stage numbers

A stage is the position of a message within its interaction. The numbers restart at 1 for every
pattern, so a stage means something only together with the pattern:

* Submit:   1 submit, 2 acknowledgement
* Request:  1 request, 2 response
* Invoke:   1 invoke, 2 acknowledgement, 3 response
* Progress: 1 progress, 2 acknowledgement, 3 update, 4 response
* PubSub:   1 register, 3 publish-register, 7 deregister, 9 publish-deregister, each acknowledged
  at the next number; 5 publish, 6 notify

Any byte may arrive on the wire; the names below are the numbers that some pattern uses.
-/

namespace Mal

/-- Position of a message within its interaction, as carried on the wire. -/
abbrev Stage := UInt8

namespace Stage

/-- First stage of Submit, Request, Invoke and Progress. -/
abbrev initial : Stage := 1

abbrev submitAck : Stage := 2
abbrev requestResponse : Stage := 2

abbrev invokeAck : Stage := 2
abbrev invokeResponse : Stage := 3

abbrev progressAck : Stage := 2
abbrev progressUpdate : Stage := 3
abbrev progressResponse : Stage := 4

@[match_pattern] abbrev register : Stage := 1
abbrev registerAck : Stage := 2
@[match_pattern] abbrev publishRegister : Stage := 3
abbrev publishRegisterAck : Stage := 4
@[match_pattern] abbrev publish : Stage := 5
abbrev notify : Stage := 6
@[match_pattern] abbrev deregister : Stage := 7
abbrev deregisterAck : Stage := 8
@[match_pattern] abbrev publishDeregister : Stage := 9
abbrev publishDeregisterAck : Stage := 10

/-- An optional stage as it is written in error texts: `Some(2)`, or `None`. -/
def optionText : Option Stage → String
  | some stage => s!"Some({stage.toNat})"
  | none => "None"

end Stage

end Mal
