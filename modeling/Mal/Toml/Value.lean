/-!
# TOML values

A value as it is written in a TOML document. A table remembers how it came to be (`TableKind`),
because that decides what may still be added to it.
-/

namespace Mal

/-- How a table came to be. -/
inductive TableKind where
  /-- By a header of its own, or as the document itself. -/
  | header
  /-- By the header of a table within it. -/
  | implied
  /-- By a dotted key. -/
  | dotted
  /-- Between braces. -/
  | inline
  deriving DecidableEq

inductive Toml where
  | string (text : String)
  | integer (value : Int)
  | float (value : Float)
  | boolean (value : Bool)
  /-- A date, a time, or both, in standard form. -/
  | datetime (text : String)
  | array (items : List Toml)
  | table (kind : TableKind) (entries : List (String × Toml))
  /-- The tables made by headers in double brackets. -/
  | tables (tables : List (List (String × Toml)))

namespace Toml

instance : Inhabited Toml := ⟨boolean false⟩

end Toml

end Mal
