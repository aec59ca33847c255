import Mal.Decimal.Reading
import Mal.Directory

/-!
# JSON values

Of numbers, only the natural ones have a meaning here; the others are kept as they were written.
Some texts have no proper value, and are told apart from those that do:

* a string with an unpaired surrogate is no Unicode text, and one with a control character that is
  not escaped is against the grammar, but both still have octets (`Json.octets`)
* an object with an unpaired surrogate in a name can be read over, but not read (`Json.unreadable`)

A string with an unescaped control character cannot even be read over (`Json.isSkippable`).

An object keeps all its members in order, also when names repeat. `Json.settled?` gives the value
for readers to whom only the last of them counts.
-/

namespace Mal

/-- A JSON value. -/
inductive Json where
  | null
  | bool (value : Bool)
  /-- A number written with digits only. -/
  | natural (value : Nat)
  /-- Any other number, as it was written. -/
  | number (text : String)
  | string (text : String)
  /-- The octets of a string that is no proper text, and whether its control characters are
      escaped. -/
  | octets (octets : List UInt8) (escaped : Bool)
  | array (items : List Json)
  | object (members : List (String × Json))
  /-- An object with a member whose name is no text. -/
  | unreadable

namespace Json

instance : Inhabited Json := ⟨null⟩

mutual

/-- Whether a value may stand where values are read over. -/
def isSkippable : Json → Bool
  | array items => areItemsSkippable items
  | object members => areMembersSkippable members
  | octets _ escaped => escaped
  | _ => true

/-- `isSkippable` for all items of an array. -/
def areItemsSkippable : List Json → Bool
  | [] => true
  | item :: rest => isSkippable item && areItemsSkippable rest

/-- `isSkippable` for the values of all members of an object. -/
def areMembersSkippable : List (String × Json) → Bool
  | [] => true
  | (_, value) :: rest => isSkippable value && areMembersSkippable rest

end

/-- Whether a number that is not natural lies within the range of doubles. -/
def isInRange (text : String) : Bool :=
  ((floatOfText? text).map fun x => !x.isInf).getD false

/-- How many levels a value may have for readers that hold an object as a map. -/
def maxDepth : Nat := 127

mutual

/-- The value for readers that hold an object as a map: the last member of a name counts. `none` if
    some string in it is no text, some number is out of the range of doubles, or it has more than
    `depth` levels. -/
def settled? : (depth : Nat) → Json → Option Json
  | 0, array _ => none
  | depth + 1, array items => (settledItems? depth items).map array
  | 0, object _ => none
  | depth + 1, object members => (settledMembers? depth [] members).map object
  | _, octets _ _ => none
  | _, unreadable => none
  | _, natural n => if (floatOfDecimal n 0).isInf then none else some (natural n)
  | _, number text => if isInRange text then some (number text) else none
  | _, value => some value

/-- `settled?` for the items of an array. -/
def settledItems? (depth : Nat) : List Json → Option (List Json)
  | [] => some []
  | item :: rest =>
    match settled? depth item, settledItems? depth rest with
    | some item, some rest => some (item :: rest)
    | _, _ => none

/-- `settled?` for the members of an object, added to members that are settled. -/
def settledMembers? (depth : Nat) (done : List (String × Json)) :
    List (String × Json) → Option (List (String × Json))
  | [] => some done
  | (name, value) :: rest =>
    match settled? depth value with
    | some value => settledMembers? depth (Directory.store name value done) rest
    | none => none

end

end Json

end Mal
