import Mal.Decimal.Reading
import Mal.Toml.Date
import Mal.Toml.Value

/-!
# Lexemes of TOML

Strings, keys and numbers. Each reader takes the characters from where the lexeme begins and gives
its value and the characters after it.
-/

namespace Mal.Toml

/-! ## White space -/

/-- Skips blanks and tabs. -/
def skipBlanks : List Char → List Char
  | ' ' :: rest => skipBlanks rest
  | '\t' :: rest => skipBlanks rest
  | cs => cs

/-- Reads the end of a line. -/
def newline? : List Char → Option (List Char)
  | '\n' :: rest => some rest
  | '\r' :: '\n' :: rest => some rest
  | _ => none

/-- Whether a character may stand unescaped in strings and comments. -/
def isPlain (c : Char) : Bool :=
  c == '\t' || (0x20 ≤ c.toNat && c.toNat ≠ 0x7F)

/-- Skips a comment, if there is one. -/
def skipComment : List Char → List Char
  | '#' :: rest => rest.dropWhile isPlain
  | cs => cs

/-! ## Strings -/

/-- The value of a hexadecimal digit. -/
def hexDigit? (c : Char) : Option Nat :=
  if '0' ≤ c ∧ c ≤ '9' then some (c.toNat - '0'.toNat)
  else if 'a' ≤ c ∧ c ≤ 'f' then some (c.toNat - 'a'.toNat + 10)
  else if 'A' ≤ c ∧ c ≤ 'F' then some (c.toNat - 'A'.toNat + 10)
  else none

/-- The character whose number is written by hexadecimal digits. -/
def hexChar? (digits : List Char) : Option Char := do
  let n ← digits.foldlM (fun n c => (hexDigit? c).map fun d => n * 16 + d) 0
  if h : n.isValidChar then some (Char.ofNatAux n h) else none

/-- Reads an escape after its backslash. -/
def escape? : List Char → Option (Char × List Char)
  | 'b' :: rest => some ('\x08', rest)
  | 't' :: rest => some ('\t', rest)
  | 'n' :: rest => some ('\n', rest)
  | 'f' :: rest => some ('\x0c', rest)
  | 'r' :: rest => some ('\r', rest)
  | '"' :: rest => some ('"', rest)
  | '\\' :: rest => some ('\\', rest)
  | 'u' :: a :: b :: c :: d :: rest => (hexChar? [a, b, c, d]).map fun e => (e, rest)
  | 'U' :: a :: b :: c :: d :: e :: f :: g :: h :: rest =>
    (hexChar? [a, b, c, d, e, f, g, h]).map fun x => (x, rest)
  | _ => none

/-- Reads a string in quotes after its opening quote. `done` is in reverse. -/
def basic? : (fuel : Nat) → (done : List Char) → List Char → Option (String × List Char)
  | 0, _, _ => none
  | _ + 1, done, '"' :: rest => some (String.ofList done.reverse, rest)
  | fuel + 1, done, '\\' :: rest =>
    match escape? rest with
    | some (c, rest) => basic? fuel (c :: done) rest
    | none => none
  | fuel + 1, done, c :: rest => if isPlain c then basic? fuel (c :: done) rest else none
  | _ + 1, _, [] => none

/-- Reads a string in apostrophes after its opening apostrophe. -/
def literal? (cs : List Char) : Option (String × List Char) :=
  match cs.span fun c => c ≠ '\'' && isPlain c with
  | (text, '\'' :: rest) => some (String.ofList text, rest)
  | _ => none

/-- Skips white space that follows a backslash at the end of a line. -/
def skipLineEnds : List Char → List Char
  | ' ' :: rest => skipLineEnds rest
  | '\t' :: rest => skipLineEnds rest
  | '\n' :: rest => skipLineEnds rest
  | '\r' :: '\n' :: rest => skipLineEnds rest
  | cs => cs

/-- Drops a line end right after the opening of a string of several lines. -/
def dropNewline (cs : List Char) : List Char :=
  (newline? cs).getD cs

/-- Reads a string of several lines, up to its closing in threefold `mark`. Escapes are read if
    `escapes` holds. One or two marks within the string, also right before its closing, are part of
    it. -/
def multiline? (mark : Char) (escapes : Bool) :
    (fuel : Nat) → (done : List Char) → List Char → Option (String × List Char)
  | 0, _, _ => none
  | _ + 1, _, [] => none
  | fuel + 1, done, c :: rest =>
    if c = mark then
      let (marks, after) := (c :: rest).span (· == mark)
      if marks.length < 3 then multiline? mark escapes fuel (marks ++ done) after
      else if marks.length ≤ 5 then
        some (String.ofList (marks.drop 3 ++ done).reverse, after)
      else none
    else if c = '\\' ∧ escapes then
      match newline? (skipBlanks rest) with
      | some after => multiline? mark escapes fuel done (skipLineEnds after)
      | none =>
        match escape? rest with
        | some (e, after) => multiline? mark escapes fuel (e :: done) after
        | none => none
    else
      match newline? (c :: rest) with
      | some after => multiline? mark escapes fuel ('\n' :: done) after
      | none => if isPlain c then multiline? mark escapes fuel (c :: done) rest else none

/-- Reads a string, if one begins here. -/
def string? (cs : List Char) : Option (String × List Char) :=
  let fuel := cs.length + 1
  match cs with
  | '"' :: '"' :: '"' :: rest => multiline? '"' true fuel [] (dropNewline rest)
  | '"' :: rest => basic? fuel [] rest
  | '\'' :: '\'' :: '\'' :: rest => multiline? '\'' false fuel [] (dropNewline rest)
  | '\'' :: rest => literal? rest
  | _ => none

/-! ## Keys -/

/-- Whether a character may stand in a key without quotes. -/
def isBare (c : Char) : Bool :=
  c.isAlphanum || c == '_' || c == '-'

/-- Reads one part of a key. -/
def simpleKey? (cs : List Char) : Option (String × List Char) :=
  match cs with
  | '"' :: rest => basic? (rest.length + 1) [] rest
  | '\'' :: rest => literal? rest
  | cs =>
    match cs.span isBare with
    | ([], _) => none
    | (text, rest) => some (String.ofList text, rest)

/-- How deep values may be nested, and how many parts a key may have. -/
def nesting : Nat := 79

/-- Reads a key, in parts set apart by dots. -/
def key? : (fuel : Nat) → (done : List String) → List Char → Option (List String × List Char)
  | 0, _, _ => none
  | fuel + 1, done, cs =>
    match simpleKey? (skipBlanks cs) with
    | none => none
    | some (part, rest) =>
      match skipBlanks rest with
      | '.' :: rest => key? fuel (part :: done) rest
      | rest =>
        if done.length < nesting then some ((part :: done).reverse, rest) else none

/-! ## Numbers -/

/-- Reads digits, at least one, which single underscores may set apart. -/
def digits? (isDigit : Char → Bool) : List Char → Option (List Char × List Char)
  | c :: rest =>
    if isDigit c then
      match rest with
      | '_' :: rest =>
        (digits? isDigit rest).map fun (ds, rest) => (c :: ds, rest)
      | rest =>
        match digits? isDigit rest with
        | some (ds, rest) => some (c :: ds, rest)
        | none => some ([c], rest)
    else none
  | [] => none

/-- Reads an optional sign: whether it is a minus. -/
def sign : List Char → Bool × List Char
  | '-' :: rest => (true, rest)
  | '+' :: rest => (false, rest)
  | cs => (false, cs)

/-- Reads the whole part of a number; a zero at its beginning stands alone. -/
def whole? (cs : List Char) : Option (List Char × List Char) :=
  match cs with
  | '0' :: rest => some (['0'], rest)
  | cs => digits? Char.isDigit cs

/-- Reads the exponent of a number after its mark: its sign and its digits. -/
def exponent? (cs : List Char) : Option ((Option Char × List Char) × List Char) :=
  let (sign, cs) := match cs with
    | '-' :: rest => (some '-', rest)
    | '+' :: rest => (some '+', rest)
    | cs => (none, cs)
  (digits? Char.isDigit cs).map fun (ds, rest) => ((sign, ds), rest)

/-- Reads a number with a fraction or an exponent. What is too large for a double is refused, unless
    it is negative. -/
def float? (cs : List Char) : Option (Toml × List Char) := do
  let (negative, cs) := sign cs
  let signed (x : Float) : Float := if negative then -x else x
  match cs with
  | 'i' :: 'n' :: 'f' :: rest => some (float (signed (1.0 / 0.0)), rest)
  | 'n' :: 'a' :: 'n' :: rest => some (float (signed (0.0 / 0.0)), rest)
  | cs =>
    let (whole, cs) ← whole? cs
    let (fraction, cs) ← match cs with
      | '.' :: rest => digits? Char.isDigit rest
      | cs => some ([], cs)
    let exponent : Option ((Option Char × List Char) × List Char) := match cs with
      | 'e' :: rest => exponent? rest
      | 'E' :: rest => exponent? rest
      | _ => none
    let ((exponentSign, exponentDigits), rest) ← match exponent with
      | some e => some e
      | none => if fraction.isEmpty then none else some ((none, []), cs)
    let x := DecimalText.toFloat
      { whole := whole, fraction := fraction
        exponentSign := exponentSign, exponent := exponentDigits }
    if x.isInf && !negative then none else some (float (signed x), rest)

/-- An integer, if it has 64 bits. -/
def ofInt? (n : Int) : Option Toml :=
  if -9223372036854775808 ≤ n ∧ n ≤ 9223372036854775807 then some (integer n) else none

/-- Reads digits of a base. -/
def inBase? (base : Nat) (cs : List Char) : Option (Toml × List Char) := do
  let isDigit (c : Char) : Bool := (hexDigit? c).any (· < base)
  let (ds, rest) ← digits? isDigit cs
  let n := ds.foldl (fun n c => n * base + (hexDigit? c).getD 0) 0
  some (← ofInt? n, rest)

/-- Reads an integer. -/
def integer? (cs : List Char) : Option (Toml × List Char) :=
  match cs with
  | '0' :: 'x' :: rest => inBase? 16 rest
  | '0' :: 'o' :: rest => inBase? 8 rest
  | '0' :: 'b' :: rest => inBase? 2 rest
  | cs => do
    let (negative, cs) := sign cs
    let (ds, rest) ← whole? cs
    let n : Int := naturalOfDigits ds
    some (← ofInt? (if negative then -n else n), rest)

/-- Reads a number, a date or a time. -/
def number? (cs : List Char) : Option (Toml × List Char) :=
  ((datetime? cs).map fun (text, rest) => (datetime text, rest)) <|> float? cs <|> integer? cs

end Mal.Toml
