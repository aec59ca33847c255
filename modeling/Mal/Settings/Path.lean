import Mal.Decimal.Reading

/-!
# Paths to settings

The name of a setting is a path through the tables and lists of a tree: names of entries set apart
by dots, and numbers of items in brackets, as in `outer.list[0].inner`. A negative number counts
from the end of the list. `Path.parse?` reads a path; what is not of this form is no path.
-/

namespace Mal

/-- A step from a table or a list to something in it. -/
inductive PathStep where
  | entry (name : String)
  /-- An item by its number; negative ones count from the end. -/
  | item (number : Int)
  deriving DecidableEq

namespace PathStep

/-- The place of an item in a list of some length, unless it would be before the first. -/
def place? (number : Int) (length : Nat) : Option Nat :=
  if 0 ≤ number then some number.toNat
  else if number.natAbs ≤ length then some (length - number.natAbs)
  else none

end PathStep

namespace Path

/-- Whether a character may stand in a name. -/
def isNameChar (c : Char) : Bool :=
  c.isAlphanum || c == ' ' || c == '_' || c == '-'

/-- Reads a name. -/
def name? (cs : List Char) : Option (PathStep × List Char) :=
  match cs.span isNameChar with
  | ([], _) => none
  | (name, rest) => some (.entry (String.ofList name), rest)

/-- Skips blanks and tabs. -/
def skipBlanks (cs : List Char) : List Char :=
  cs.dropWhile fun c => c == ' ' || c == '\t'

/-- Reads the number of an item, of 64 bits, and the closing bracket after it. -/
def number? (cs : List Char) : Option (PathStep × List Char) :=
  let (negative, cs) := match skipBlanks cs with
    | '-' :: rest => (true, rest)
    | cs => (false, cs)
  match spanDigits cs with
  | ([], _) => none
  | (digits, rest) =>
    let n : Int := naturalOfDigits digits
    let n := if negative then -n else n
    match skipBlanks rest with
    | ']' :: rest =>
      if -0x8000000000000000 ≤ n ∧ n ≤ 0x7FFFFFFFFFFFFFFF then some (.item n, rest) else none
    | _ => none

/-- Reads the steps after the first. -/
def steps? : (fuel : Nat) → List Char → Option (List PathStep)
  | _, [] => some []
  | 0, _ => none
  | fuel + 1, c :: cs =>
    let step? :=
      if c = '.' then name? cs
      else if c = '[' then number? cs
      else none
    match step? with
    | none => none
    | some (step, rest) => (steps? fuel rest).map (step :: ·)

/-- The path that a text is, if it is one. -/
def parse? (text : String) : Option (List PathStep) :=
  match name? text.toList with
  | none => none
  | some (first, rest) => (steps? rest.length rest).map (first :: ·)

end Path

end Mal
