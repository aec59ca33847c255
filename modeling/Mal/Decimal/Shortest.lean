/-!
# Shortest decimal text of a double

A double stands for all real numbers that round to it. Its text is the one with the fewest digits
that lies among them and, of those, the one next to it; if two are equally near, the upper one. It
is written without exponent.

All arithmetic is on natural numbers. A positive double is `numerator / denominator`; the ends of
the interval of reals that round to it are given by their distances from it.
-/

namespace Mal.Shortest

/-- A positive double as an exact fraction, with the interval of reals that round to it. -/
structure Exact where
  numerator : Nat
  denominator : Nat
  /-- Numerator of the lower end. -/
  low : Nat
  /-- Numerator of the upper end. -/
  high : Nat
  /-- Whether the ends round to the double. -/
  inclusive : Bool

/-- The fraction of a positive finite double, given by its bits. -/
def Exact.ofBits (bits : UInt64) : Exact :=
  let field := (bits.toNat / 0x10000000000000) % 0x800
  let fraction := bits.toNat % 0x10000000000000
  let mantissa := if field = 0 then fraction else fraction + 0x10000000000000
  let exponent := max field 1
  -- the value is `4 * mantissa * 2 ^ (exponent - 1077)`
  let below := if fraction = 0 ∧ field > 1 then 1 else 2
  let up := Nat.pow 2 (exponent - 1077)
  { numerator := 4 * mantissa * up
    denominator := Nat.pow 2 (1077 - exponent)
    low := (4 * mantissa - below) * up
    high := (4 * mantissa + 2) * up
    inclusive := mantissa % 2 = 0 }

/-- A decimal number: digits with some places behind the point, or before it. -/
structure Decimal where
  digits : Nat
  /-- Number of places behind the point; negative for zeros to be added. -/
  places : Int

/-- The numerators of a decimal number and of a fraction over a common denominator. -/
def Decimal.compare (d : Decimal) (numerator denominator : Nat) : Nat × Nat :=
  (d.digits * denominator * Nat.pow 10 (-d.places).toNat, numerator * Nat.pow 10 d.places.toNat)

/-- Whether a decimal number rounds to the double. -/
def Exact.contains (x : Exact) (d : Decimal) : Bool :=
  let (a, low) := d.compare x.low x.denominator
  let (_, high) := d.compare x.high x.denominator
  if x.inclusive then low ≤ a && a ≤ high else low < a && a < high

/-- The distance of a decimal number from the double, over the common denominator. -/
def Exact.distance (x : Exact) (d : Decimal) : Nat :=
  let (a, b) := d.compare x.numerator x.denominator
  max a b - min a b

/-- The decimal number with the given places next to the double, of its neighbours that round to
    it. -/
def Exact.neighbour? (x : Exact) (places : Int) : Option Decimal :=
  let digits := x.numerator * Nat.pow 10 places.toNat / (x.denominator * Nat.pow 10 (-places).toNat)
  let lower : Decimal := ⟨digits, places⟩
  let upper : Decimal := ⟨digits + 1, places⟩
  match x.contains lower, x.contains upper with
  | true, true => some (if x.distance lower < x.distance upper then lower else upper)
  | true, false => some lower
  | false, true => some upper
  | false, false => none

/-- The least number of places, from `places` on, at which the double is at least one unit. -/
def Exact.firstPlaces (x : Exact) : (tries : Nat) → (places : Int) → Int
  | 0, places => places
  | tries + 1, places =>
    if x.denominator * Nat.pow 10 (-places).toNat ≤ x.numerator * Nat.pow 10 places.toNat then
      places
    else x.firstPlaces tries (places + 1)

/-- The shortest decimal number that rounds to a positive finite double. -/
def Exact.shortest (x : Exact) : Decimal :=
  let first := x.firstPlaces 650 (-309)
  ((List.range 17).findSome? fun (n : Nat) => x.neighbour? (first + n)).getD ⟨0, 0⟩

/-- The same number with at most `limit` zeros less at the end of its digits. -/
def Decimal.dropZeros : (limit : Nat) → Decimal → Decimal
  | 0, d => d
  | limit + 1, d =>
    if d.digits % 10 = 0 then dropZeros limit ⟨d.digits / 10, d.places - 1⟩ else d

/-- A decimal number without exponent. -/
def Decimal.text (d : Decimal) : String :=
  let digits := (toString d.digits).toList
  let behind := d.places.toNat
  if behind = 0 then
    String.ofList (digits ++ List.replicate (-d.places).toNat '0')
  else
    let padded := List.replicate (behind + 1 - digits.length) '0' ++ digits
    let whole := padded.length - behind
    String.ofList (padded.take whole ++ '.' :: padded.drop whole)

/-- The text of a double. -/
def text (x : Float) : String :=
  let bits := x.toBits
  let magnitude := bits &&& 0x7FFFFFFFFFFFFFFF
  let sign := if bits = magnitude then "" else "-"
  if magnitude > 0x7FF0000000000000 then "NaN"
  else if magnitude = 0x7FF0000000000000 then sign ++ "inf"
  else if magnitude = 0 then sign ++ "0"
  else sign ++ ((Exact.ofBits magnitude).shortest.dropZeros 17).text

end Mal.Shortest
