import Mal.Decimal.Reading

/-!
# Dates and times

Dates and times are kept as text in standard form: four digits for the year and two for anything
else, a `T` between date and time, fractions of a second without superfluous zeros. `datetime?`
reads one where it stands in a document; `datetimeOfText?` reads a text that is nothing but one, by
a grammar that is wider in two points: a day may have the hour 24, and the distance from universal
time may have any minutes, up to a day in all.
-/

namespace Mal.Toml

/-- Reads a number of a fixed count of digits. -/
def fixed? (count : Nat) (cs : List Char) : Option (Nat × List Char) :=
  let ds := cs.take count
  if ds.length = count ∧ ds.all Char.isDigit then some (naturalOfDigits ds, cs.drop count) else none

/-- A number with zeros in front of it, up to a width. -/
def padded (width n : Nat) : String :=
  let text := toString n
  String.ofList (List.replicate (width - text.length) '0') ++ text

/-- Number of days of a month. -/
def daysIn (year month : Nat) : Nat :=
  if month = 2 then
    if year % 4 = 0 ∧ (year % 100 ≠ 0 ∨ year % 400 = 0) then 29 else 28
  else if month ∈ [4, 6, 9, 11] then 30
  else 31

/-- Reads a date. -/
def date? (cs : List Char) : Option (String × List Char) := do
  let (year, cs) ← fixed? 4 cs
  let '-' :: cs := cs | none
  let (month, cs) ← fixed? 2 cs
  let '-' :: cs := cs | none
  let (day, cs) ← fixed? 2 cs
  if 1 ≤ month ∧ month ≤ 12 ∧ 1 ≤ day ∧ day ≤ daysIn year month then
    some (padded 4 year ++ "-" ++ padded 2 month ++ "-" ++ padded 2 day, cs)
  else none

/-- Reads two numbers of two digits with a colon between them. -/
def pair? (cs : List Char) : Option (Nat × Nat × List Char) := do
  let (first, cs) ← fixed? 2 cs
  let ':' :: cs := cs | none
  let (second, cs) ← fixed? 2 cs
  some (first, second, cs)

/-- A fraction of a second, to nine digits, without the zeros at its end. -/
def fractionText (ds : List Char) : String :=
  match ((ds.take 9).reverse.dropWhile (· == '0')).reverse with
  | [] => ""
  | ds => "." ++ String.ofList ds

/-- Reads a time; its hour may go up to `lastHour`. -/
def time? (lastHour : Nat) (cs : List Char) : Option (String × List Char) := do
  let (hour, minute, cs) ← pair? cs
  let ':' :: cs := cs | none
  let (second, cs) ← fixed? 2 cs
  if hour > lastHour ∨ minute > 59 ∨ second > 60 then none
  let text := padded 2 hour ++ ":" ++ padded 2 minute ++ ":" ++ padded 2 second
  match cs with
  | '.' :: rest =>
    let (ds, rest) := spanDigits rest
    if ds.isEmpty then none else some (text ++ fractionText ds, rest)
  | rest => some (text, rest)

/-- A distance from universal time in minutes, in standard form. There is no negative zero. -/
def zoneText (negative : Bool) (minutes : Nat) : String :=
  (if negative && minutes > 0 then "-" else "+") ++
    padded 2 (minutes / 60) ++ ":" ++ padded 2 (minutes % 60)

/-- Whether a distance from universal time is ahead of it or behind it. -/
def zoneSign? : Char → Option Bool
  | '+' => some false
  | '-' => some true
  | _ => none

/-- Reads the distance from universal time, if it is given. -/
def zone (cs : List Char) : String × List Char :=
  match cs with
  | [] => ("", [])
  | c :: rest =>
    if c = 'Z' ∨ c = 'z' then ("Z", rest)
    else
      match zoneSign? c, pair? rest with
      | some negative, some (hours, minutes, rest) =>
        if hours ≤ 23 ∧ minutes ≤ 59 then (zoneText negative (hours * 60 + minutes), rest)
        else ("", cs)
      | _, _ => ("", cs)

/-- Whether a character may stand between a date and a time. -/
def isTimeMark (c : Char) : Bool :=
  c == 'T' || c == 't' || c == ' '

/-- Reads a date, a time or both in a document. -/
def datetime? (cs : List Char) : Option (String × List Char) :=
  match date? cs with
  | none => time? 23 cs
  | some (day, rest) =>
    let time := match rest with
      | c :: after => if isTimeMark c then time? 23 after else none
      | [] => none
    match time with
    | none => some (day, rest)
    | some (clock, rest) =>
      let (zone, rest) := zone rest
      some (day ++ "T" ++ clock ++ zone, rest)

/-- The distance from universal time that a text is, if it is one. -/
def zoneOfText? : List Char → Option String
  | [] => some ""
  | ['Z'] => some "Z"
  | ['z'] => some "Z"
  | c :: rest =>
    match zoneSign? c, pair? rest with
    | some negative, some (hours, minutes, []) =>
      if hours * 60 + minutes ≤ 24 * 60 then some (zoneText negative (hours * 60 + minutes))
      else none
    | _, _ => none

/-- The date, the time or both that a text is, if it is one. -/
def datetimeOfText? (text : String) : Option String :=
  let cs := text.toList
  match date? cs with
  | none =>
    match time? 24 cs with
    | some (clock, []) => some clock
    | _ => none
  | some (day, []) => some day
  | some (day, c :: rest) =>
    if isTimeMark c then do
      let (clock, rest) ← time? 24 rest
      some (day ++ "T" ++ clock ++ (← zoneOfText? rest))
    else none

end Mal.Toml
