/-!
# Letter case

Names of settings are compared without regard to case. All of them are made of ASCII letters, so of
the small forms of letters only those matter that are ASCII: the ones of the ASCII letters, and of
the Kelvin sign.
-/

namespace Mal

/-- The small form of a letter, if that is an ASCII letter; any other character itself. -/
def foldLetter (c : Char) : Char :=
  if c = '\u212A' then 'k' else c.toLower

/-- A name with all letters in their small form. -/
def foldCase (name : String) : String :=
  name.map foldLetter

end Mal
