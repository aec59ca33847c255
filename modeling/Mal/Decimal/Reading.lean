/-!
# Reading decimal numbers

A decimal number is a natural number times a power of ten. `floatOfDecimal` gives the double next to
it, without computing powers of ten that lie beyond the range of doubles.
-/

namespace Mal

/-- The number written by decimal digits. -/
def naturalOfDigits (digits : List Char) : Nat :=
  digits.foldl (fun n d => n * 10 + (d.toNat - '0'.toNat)) 0

/-- The double next to `mantissa · 10 ^ exponent`. What is too large becomes infinite. -/
def floatOfDecimal (mantissa : Nat) (exponent : Int) : Float :=
  let digits : Int := (toString mantissa).length
  if mantissa = 0 ∨ digits + exponent < -400 then 0.0
  else if digits + exponent > 400 then 1.0 / 0.0
  else Float.ofScientific mantissa (exponent < 0) exponent.natAbs

/-- The parts of a decimal number as it is written. -/
structure DecimalText where
  whole : List Char
  fraction : List Char := []
  exponentSign : Option Char := none
  exponent : List Char := []

/-- The double next to a written number. -/
def DecimalText.toFloat (d : DecimalText) : Float :=
  let size : Int := naturalOfDigits d.exponent
  let exponent := if d.exponentSign = some '-' then -size else size
  floatOfDecimal (naturalOfDigits (d.whole ++ d.fraction)) (exponent - d.fraction.length)

/-- Splits leading digits off. -/
def spanDigits (cs : List Char) : List Char × List Char :=
  cs.span Char.isDigit

/-- Reads a number with an optional sign: digits with a point before, in or after them, and an
    optional exponent; or `inf`, `infinity` or `nan` in letters of any case. -/
def floatOfText? (text : String) : Option Float :=
  let (negative, cs) := match text.toList with
    | '-' :: rest => (true, rest)
    | '+' :: rest => (false, rest)
    | cs => (false, cs)
  let magnitude : Option Float :=
    match String.ofList (cs.map Char.toLower) with
    | "inf" | "infinity" => some (1.0 / 0.0)
    | "nan" => some (0.0 / 0.0)
    | _ =>
      let (whole, cs) := spanDigits cs
      let (fraction, cs) := match cs with
        | '.' :: rest => spanDigits rest
        | cs => ([], cs)
      if whole.isEmpty && fraction.isEmpty then none
      else
        match cs with
        | [] => some (DecimalText.toFloat { whole := whole, fraction := fraction })
        | e :: cs =>
          let (sign, cs) := match cs with
            | '-' :: rest => (some '-', rest)
            | '+' :: rest => (some '+', rest)
            | cs => (none, cs)
          let (exponent, rest) := spanDigits cs
          if (e = 'e' ∨ e = 'E') ∧ !exponent.isEmpty ∧ rest.isEmpty then
            some (DecimalText.toFloat
              { whole := whole, fraction := fraction, exponentSign := sign, exponent := exponent })
          else none
  magnitude.map fun x => if negative then -x else x

/-- Reads an integer with an optional sign. -/
def integerOfText? (text : String) : Option Int :=
  let (negative, cs) := match text.toList with
    | '-' :: rest => (true, rest)
    | '+' :: rest => (false, rest)
    | cs => (false, cs)
  if cs.isEmpty ∨ !cs.all Char.isDigit then none
  else
    let n : Int := naturalOfDigits cs
    some (if negative then -n else n)

/-- Reads a natural number, which may have a plus sign. -/
def naturalOfText? (text : String) : Option Nat :=
  let cs := match text.toList with
    | '+' :: rest => rest
    | cs => cs
  if cs.isEmpty ∨ !cs.all Char.isDigit then none else some (naturalOfDigits cs)

end Mal
