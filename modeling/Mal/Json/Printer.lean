import Mal.Json.Value

/-!
# Writing JSON text

Values are written without white space. The members of an object are written in the order of their
names, by code points. Of all characters in strings, only quotes, backslashes and control characters
are escaped.
-/

namespace Mal.Json

/-- The digit with a value below 16. -/
def hexDigit (n : Nat) : Char :=
  Char.ofNat (if n < 10 then '0'.toNat + n else 'a'.toNat + (n - 10))

/-- A character as it is written in a string. -/
def escapeChar (c : Char) : String :=
  match c with
  | '"' => "\\\""
  | '\\' => "\\\\"
  | '\n' => "\\n"
  | '\r' => "\\r"
  | '\t' => "\\t"
  | '\x08' => "\\b"
  | '\x0c' => "\\f"
  | c =>
    if c.toNat < 0x20 then
      "\\u00" ++ String.ofList [hexDigit (c.toNat / 16), hexDigit (c.toNat % 16)]
    else c.toString

/-- A text as a JSON string. -/
def quote (text : String) : String :=
  text.foldl (fun out c => out ++ escapeChar c) "\"" ++ "\""

/-- Octets as an array of numbers. -/
def ofOctets (octets : List UInt8) : Json :=
  array (octets.map fun o => natural o.toNat)

mutual

/-- The text of a value. Octets without a text are written as an array. -/
def render : Json → String
  | null => "null"
  | bool true => "true"
  | bool false => "false"
  | natural n => toString n
  | number text => text
  | string text => quote text
  | octets os _ => "[" ++ ",".intercalate (os.map fun o => toString o.toNat) ++ "]"
  | array items => "[" ++ ",".intercalate (renderItems items) ++ "]"
  | object members =>
    let written := (renderMembers members).mergeSort fun a b => a.1 ≤ b.1
    "\x7b" ++ ",".intercalate (written.map fun (name, text) => quote name ++ ":" ++ text) ++ "\x7d"
  | unreadable => "null"

/-- The texts of the items of an array. -/
def renderItems : List Json → List String
  | [] => []
  | item :: rest => render item :: renderItems rest

/-- The names of the members of an object, each with the text of its value. -/
def renderMembers : List (String × Json) → List (String × String)
  | [] => []
  | (name, value) :: rest => (name, render value) :: renderMembers rest

end

end Mal.Json
