/-!
# Enumerations with wire numbers

Several header and body fields take their value from a short fixed list. Each value has a name, used
in text encodings, and a one-byte number, used on the wire. `Enumeration` gathers the list and both
labels, so that reading a name or a number is one search for every such type.
-/

namespace Mal

/-- A type with finitely many values, each with a name and a one-byte number. -/
class Enumeration (α : Type) where
  /-- Name of the whole enumeration. -/
  title : String
  /-- The values, in the order of their numbers. -/
  values : List α
  /-- Name of a value. -/
  name : α → String
  /-- Wire number of a value. -/
  number : α → UInt8

namespace Enumeration

/-- The value with this name, if there is one. Names are compared exactly, case included. -/
def ofName? (α : Type) [Enumeration α] (text : String) : Option α :=
  (values : List α).find? fun v => name v == text

/-- The value with this number, if there is one. -/
def ofNumber? (α : Type) [Enumeration α] (n : UInt8) : Option α :=
  (values : List α).find? fun v => number v == n

/-- What is reported about a number that no value has. -/
def unknownNumber (α : Type) [Enumeration α] (n : UInt8) : String :=
  s!"No discriminant in enum `{title α}` matches the value `{n.toNat}`"

end Enumeration

end Mal
