import Mal.Json.Value

/-!
# Reading JSON values

Each reader gives the typed content of a value, or `none` if the value has not the right form. A
record is read by the names of its fields (`Json.fields?`): it is an object in which each of them
occurs at most once, and others may occur, or an array with the fields in their order.
-/

namespace Mal.Json

def asBool? : Json → Option Bool
  | bool b => some b
  | _ => none

def asText? : Json → Option String
  | string text => some text
  | _ => none

/-- A natural number that is not above a limit. -/
def asNatural? (limit : Nat) : Json → Option Nat
  | natural n => if n ≤ limit then some n else none
  | _ => none

def asUInt8? (j : Json) : Option UInt8 :=
  (j.asNatural? 0xFF).map UInt8.ofNat

def asUInt16? (j : Json) : Option UInt16 :=
  (j.asNatural? 0xFFFF).map UInt16.ofNat

def asUInt32? (j : Json) : Option UInt32 :=
  (j.asNatural? 0xFFFFFFFF).map UInt32.ofNat

def asUInt64? (j : Json) : Option UInt64 :=
  (j.asNatural? 0xFFFFFFFFFFFFFFFF).map UInt64.ofNat

/-- The items of an array, each read in the same way. -/
def asList? {α : Type} (read : Json → Option α) : Json → Option (List α)
  | array items => items.mapM read
  | _ => none

/-- Octets, written as numbers or as a string. -/
def asOctets? : Json → Option (List UInt8)
  | string text => some text.toUTF8.toList
  | octets os _ => some os
  | j => j.asList? asUInt8?

/-- The members of an object, each value read in the same way; the last of a name counts. -/
def asMap? {α : Type} (read : Json → Option α) : Json → Option (List (String × α))
  | object members =>
    members.foldl
      (fun done? (name, value) => do
        let done ← done?
        let value ← read value
        some ((done.filter fun e => e.1 ≠ name) ++ [(name, value)]))
      (some [])
  | _ => none

/-- The value of an object's last member with a name. -/
def member? (j : Json) (name : String) : Option Json :=
  match j with
  | object members => (members.reverse.find? fun e => e.1 == name).map Prod.snd
  | _ => none

/-- Whether a value is an object. -/
def isObject : Json → Bool
  | object _ => true
  | _ => false

/-- The values of a record's fields, in the order of the names; `none` for a field that is
    missing. -/
def fields? (j : Json) (names : List String) : Option (List (Option Json)) :=
  match j with
  | array items => if items.length = names.length then some (items.map some) else none
  | object members =>
    if members.all fun (name, value) => names.contains name || value.isSkippable then
      names.mapM fun name =>
        match members.filter fun e => e.1 == name with
        | [] => some none
        | [(_, value)] => some (some value)
        | _ => none
    else none
  | _ => none

/-- Reads a field that has to be there. -/
def required {α : Type} (read : Json → Option α) (field : Option Json) : Option α :=
  field.bind read

/-- Reads a field that may be missing or null. -/
def optional {α : Type} (read : Json → Option α) : Option Json → Option (Option α)
  | none => some none
  | some null => some none
  | some value => (read value).map some

/-- Reads a field that stands for a default when it is missing. -/
def defaulting {α : Type} (default : α) (read : Json → Option α) : Option Json → Option α
  | none => some default
  | some value => read value

/-- Reads a field that stands for a default when it is missing or null. -/
def lenient {α : Type} (default : α) (read : Json → Option α) (field : Option Json) : Option α :=
  (optional read field).map fun value => value.getD default

/-- Reads the member of an object that has to be there. -/
def need {α : Type} (j : Json) (name : String) (read : Json → Option α) : Option α :=
  required read (j.member? name)

/-- Reads the member of an object that may be missing or null. -/
def may {α : Type} (j : Json) (name : String) (read : Json → Option α) : Option (Option α) :=
  optional read (j.member? name)

/-- Reads the member of an object that stands for a default when it is missing or null. -/
def orDefault {α : Type} (j : Json) (name : String) (default : α) (read : Json → Option α) :
    Option α :=
  lenient default read (j.member? name)

/-- The constructor and the content of a variant: an object with one member. -/
def variant? : Json → Option (String × Json)
  | object [(name, content)] => some (name, content)
  | _ => none

/-- A number of 64 bits. -/
def ofUInt64 (n : UInt64) : Json := natural n.toNat

/-- The answer to what has not the right form. -/
def badInput : Json := object [("error", string "BadInput")]

/-- A value that may be missing, null standing for none. -/
def ofOption {α : Type} (write : α → Json) : Option α → Json
  | some value => write value
  | none => null

end Mal.Json
