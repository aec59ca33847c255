import Mal.Json.Value

/-!
# Reading JSON text

The grammar is the standard one, without extensions: white space is blank, tab, line feed and
carriage return; numbers have no superfluous zeros. Surrogate pairs written as escapes are joined.
Control characters have to be escaped, except in a string that is only wanted for its octets.

The readers of nested values take fuel. `Json.parse?` provides twice the length of the text, which
is enough: of any two nested calls, one consumes a character.
-/

namespace Mal.Json

/-! ## Strings -/

/-- The value of a hexadecimal digit. -/
def hexDigit? (c : Char) : Option Nat :=
  if '0' ≤ c ∧ c ≤ '9' then some (c.toNat - '0'.toNat)
  else if 'a' ≤ c ∧ c ≤ 'f' then some (c.toNat - 'a'.toNat + 10)
  else if 'A' ≤ c ∧ c ≤ 'F' then some (c.toNat - 'A'.toNat + 10)
  else none

/-- The number written by some hexadecimal digits. -/
def hexNumber? (cs : List Char) : Option Nat :=
  cs.foldl (fun n? c => n?.bind fun n => (hexDigit? c).map fun d => n * 16 + d) (some 0)

/-- The character that an escape letter stands for. -/
def escaped? : Char → Option Char
  | '"' => some '"'
  | '\\' => some '\\'
  | '/' => some '/'
  | 'b' => some '\x08'
  | 'f' => some '\x0c'
  | 'n' => some '\n'
  | 'r' => some '\r'
  | 't' => some '\t'
  | _ => none

/-- What stands between the quotes of a string. -/
structure Quoted where
  /-- Its code points, with surrogates written as escapes not joined yet. -/
  points : List Nat
  /-- Whether its control characters are escaped. -/
  escaped : Bool

/-- Reads a string up to its closing quote, after what is in `done`, in reverse. -/
def quoted? (done : Quoted) : List Char → Option (Quoted × List Char)
  | '"' :: rest => some ({ done with points := done.points.reverse }, rest)
  | '\\' :: 'u' :: a :: b :: c :: d :: rest =>
    match hexNumber? [a, b, c, d] with
    | some n => quoted? { done with points := n :: done.points } rest
    | none => none
  | '\\' :: c :: rest =>
    match escaped? c with
    | some e => quoted? { done with points := e.toNat :: done.points } rest
    | none => none
  | c :: rest =>
    quoted? { points := c.toNat :: done.points, escaped := done.escaped && 0x20 ≤ c.toNat } rest
  | [] => none

def isHighSurrogate (n : Nat) : Bool := 0xD800 ≤ n && n < 0xDC00

def isLowSurrogate (n : Nat) : Bool := 0xDC00 ≤ n && n < 0xE000

/-- Joins each high surrogate to a low one that follows it. -/
def joinSurrogates : List Nat → List Nat
  | high :: low :: rest =>
    if isHighSurrogate high && isLowSurrogate low then
      (0x10000 + (high - 0xD800) * 0x400 + (low - 0xDC00)) :: joinSurrogates rest
    else high :: joinSurrogates (low :: rest)
  | points => points

/-- The octets that encode a code point, by the rule of UTF-8 also for a surrogate. -/
def pointOctets (n : Nat) : List UInt8 :=
  let tail (shift : Nat) : UInt8 := UInt8.ofNat (0x80 + (n >>> shift) % 0x40)
  if n < 0x80 then [UInt8.ofNat n]
  else if n < 0x800 then [UInt8.ofNat (0xC0 + n >>> 6), tail 0]
  else if n < 0x10000 then [UInt8.ofNat (0xE0 + n >>> 12), tail 6, tail 0]
  else [UInt8.ofNat (0xF0 + n >>> 18), tail 12, tail 6, tail 0]

/-- The text of a string, if it has one. -/
def Quoted.text? (q : Quoted) : Option String :=
  let points := joinSurrogates q.points
  if q.escaped && !points.any fun n => isHighSurrogate n || isLowSurrogate n then
    some (String.ofList (points.map Char.ofNat))
  else none

/-- The value of a string. -/
def Quoted.value (q : Quoted) : Json :=
  match q.text? with
  | some text => string text
  | none => octets ((joinSurrogates q.points).flatMap pointOctets) q.escaped

/-- The object with some members, unless one that has no name is against the grammar. -/
def objectOf? (members : List (Option String × Json)) : Option Json :=
  match members.mapM fun (name?, value) => name?.map fun name => (name, value) with
  | some members => some (object members)
  | none => if members.all fun (_, value) => value.isSkippable then some unreadable else none

/-! ## Numbers -/

/-- Reads digits, at least one. -/
def digits? (cs : List Char) : Option (List Char × List Char) :=
  let (ds, rest) := cs.span Char.isDigit
  if ds.isEmpty then none else some (ds, rest)

/-- Reads the digits after a decimal point, if there is one. -/
def fraction? : List Char → Option (List Char × List Char)
  | '.' :: rest => (digits? rest).map fun (ds, rest) => ('.' :: ds, rest)
  | rest => some ([], rest)

/-- Reads an exponent, if there is one. -/
def exponent? : List Char → Option (List Char × List Char)
  | e :: rest =>
    if e = 'e' ∨ e = 'E' then
      match rest with
      | '+' :: rest => (digits? rest).map fun (ds, rest) => (e :: '+' :: ds, rest)
      | '-' :: rest => (digits? rest).map fun (ds, rest) => (e :: '-' :: ds, rest)
      | rest => (digits? rest).map fun (ds, rest) => (e :: ds, rest)
    else some ([], e :: rest)
  | [] => some ([], [])

/-- The number written by decimal digits. -/
def decimal (ds : List Char) : Nat :=
  ds.foldl (fun n d => n * 10 + (d.toNat - '0'.toNat)) 0

/-- Reads a number. -/
def number? (cs : List Char) : Option (Json × List Char) := do
  let (sign, cs) := match cs with
    | '-' :: rest => (['-'], rest)
    | cs => ([], cs)
  let (whole, cs) ← digits? cs
  if whole.length > 1 ∧ whole.head? = some '0' then none
  let (frac, cs) ← fraction? cs
  let (exp, cs) ← exponent? cs
  if sign.isEmpty && frac.isEmpty && exp.isEmpty then some (natural (decimal whole), cs)
  else some (number (String.ofList (sign ++ whole ++ frac ++ exp)), cs)

/-! ## Values -/

/-- Skips white space. -/
def skipBlanks : List Char → List Char
  | ' ' :: rest => skipBlanks rest
  | '\t' :: rest => skipBlanks rest
  | '\n' :: rest => skipBlanks rest
  | '\r' :: rest => skipBlanks rest
  | cs => cs

mutual

/-- Reads a value. -/
def value? : Nat → List Char → Option (Json × List Char)
  | 0, _ => none
  | fuel + 1, cs =>
    match skipBlanks cs with
    | 'n' :: 'u' :: 'l' :: 'l' :: rest => some (null, rest)
    | 't' :: 'r' :: 'u' :: 'e' :: rest => some (bool true, rest)
    | 'f' :: 'a' :: 'l' :: 's' :: 'e' :: rest => some (bool false, rest)
    | '"' :: rest => (quoted? ⟨[], true⟩ rest).map fun (q, rest) => (q.value, rest)
    | '[' :: rest =>
      match skipBlanks rest with
      | ']' :: rest => some (array [], rest)
      | rest => items? fuel [] rest
    | '\x7b' :: rest =>
      match skipBlanks rest with
      | '\x7d' :: rest => some (object [], rest)
      | rest => members? fuel [] rest
    | rest => number? rest

/-- Reads the items of an array and its closing bracket, after those in `done`, which are in
    reverse. -/
def items? : Nat → List Json → List Char → Option (Json × List Char)
  | 0, _, _ => none
  | fuel + 1, done, cs =>
    match value? fuel cs with
    | none => none
    | some (item, rest) =>
      match skipBlanks rest with
      | ',' :: rest => items? fuel (item :: done) rest
      | ']' :: rest => some (array (item :: done).reverse, rest)
      | _ => none

/-- Reads the members of an object and its closing brace, after those in `done`, which are in
    reverse. -/
def members? : Nat → List (Option String × Json) → List Char → Option (Json × List Char)
  | 0, _, _ => none
  | fuel + 1, done, cs =>
    match skipBlanks cs with
    | '"' :: rest =>
      match quoted? ⟨[], true⟩ rest with
      | some (⟨points, true⟩, rest) =>
        match skipBlanks rest with
        | ':' :: rest =>
          match value? fuel rest with
          | none => none
          | some (item, rest) =>
            let done := (Quoted.text? ⟨points, true⟩, item) :: done
            match skipBlanks rest with
            | ',' :: rest => members? fuel done rest
            | '\x7d' :: rest => (objectOf? done.reverse).map fun value => (value, rest)
            | _ => none
        | _ => none
      | _ => none
    | _ => none

end

/-- The value that a text is, if it is one. -/
def parse? (text : String) : Option Json :=
  let cs := text.toList
  match value? (2 * cs.length + 2) cs with
  | some (value, rest) => if (skipBlanks rest).isEmpty then some value else none
  | none => none

end Mal.Json
