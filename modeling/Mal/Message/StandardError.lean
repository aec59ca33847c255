/-!
# Standard errors

An error reply carries a number and an optional text. The numbers from 65536 to 65553 have standard
meanings; all others belong to the application that raises them.
-/

namespace Mal

/-- An error as carried in the body of an error reply. -/
structure StandardError where
  number : UInt32
  info : Option String := none
  deriving DecidableEq

namespace StandardError

abbrev deliveryFailed : UInt32 := 65536
abbrev deliveryTimedOut : UInt32 := 65537
abbrev destinationUnknown : UInt32 := 65539
abbrev authorisationFail : UInt32 := 65543
abbrev unsupportedOperation : UInt32 := 65546
abbrev badEncoding : UInt32 := 65548
abbrev internal : UInt32 := 65549
abbrev unknown : UInt32 := 65550
abbrev incorrectState : UInt32 := 65551
abbrev shutdown : UInt32 := 65553

/-- The names of the standard numbers, in order from 65536. -/
def standardNames : List String :=
  ["DELIVERY_FAILED", "DELIVERY_TIMEDOUT", "DELIVERY_DELAYED", "DESTINATION_UNKNOWN",
   "DESTINATION_TRANSIENT", "DESTINATION_LOST", "AUTHENTICATION_FAIL", "AUTHORISATION_FAIL",
   "ENCRYPTION_FAIL", "UNSUPPORTED_AREA", "UNSUPPORTED_OPERATION", "UNSUPPORTED_VERSION",
   "BAD_ENCODING", "INTERNAL", "UNKNOWN", "INCORRECT_STATE", "TOO_MANY", "SHUTDOWN"]

/-- Standard name of an error number; application numbers have none. -/
def name? (number : UInt32) : Option String :=
  if deliveryFailed ≤ number then standardNames[(number - deliveryFailed).toNat]? else none

/-- Whether the number has a standard meaning. -/
def isStandard (e : StandardError) : Bool :=
  (name? e.number).isSome

/-- An error with an explanation. -/
def withInfo (number : UInt32) (info : String) : StandardError :=
  { number := number, info := some info }

/-- One line describing an error: number, standard name, and the explanation when there is one. -/
def text (e : StandardError) : String :=
  let name := (name? e.number).getD "APPLICATION"
  let extra := match e.info with
    | some info => s!": {info}"
    | none => ""
  s!"MAL error {e.number.toNat} ({name}){extra}"

end StandardError

end Mal
