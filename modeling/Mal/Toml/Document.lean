import Mal.Directory
import Mal.Toml.Lexeme

/-!
# TOML documents

A document is a list of statements: a key with its value, or the header of a table. The statements
build up one table (`Document.add`). A header may not name a table that has a header already, or
that was made by a dotted key; a dotted key may not reach into a table that has a header. Entries
are kept in the order in which they came in; a table that gets its header after tables within it
counts from the header.

Reading is in two steps, `statements?` and `build?`; only the first knows the grammar.
-/

namespace Mal.Toml

abbrev Entries := List (String × Toml)

/-- A statement of a document. -/
inductive Statement where
  /-- A key, in parts, with its value. -/
  | pair (key : List String) (value : Toml)
  | header (key : List String)
  /-- The header of one more table of several. -/
  | listHeader (key : List String)

/-! ## Building tables -/

/-- Changes the table that a path leads to, making the tables on the way that are missing. `made` is
    the kind of these. -/
def descend (made : TableKind) (change : TableKind → Entries → Option (TableKind × Entries)) :
    List String → TableKind → Entries → Option (TableKind × Entries)
  | [], kind, entries => change kind entries
  | key :: path, kind, entries =>
    match Directory.find key entries with
    | none => do
      let (subkind, sub) ← descend made change path made []
      some (kind, Directory.store key (table subkind sub) entries)
    | some (table .inline _) => none
    | some (table subkind sub) => do
      if made = .dotted ∧ subkind = .header then none
      let (subkind, sub) ← descend made change path subkind sub
      some (kind, Directory.store key (table subkind sub) entries)
    | some (tables ts) => do
      let (_, last) ← descend made change path .header (ts.getLast?.getD [])
      some (kind, Directory.store key (tables (ts.dropLast ++ [last])) entries)
    | some _ => none

/-- Adds a key with its value to a table. -/
def addPair (key : List String) (value : Toml) (kind : TableKind) (entries : Entries) :
    Option (TableKind × Entries) := do
  let last ← key.getLast?
  let path := key.dropLast
  descend .dotted
    (fun kind entries =>
      if !path.isEmpty && kind ≠ .dotted then none
      else
        match Directory.find last entries with
        | some _ => none
        | none => some (kind, Directory.store last value entries))
    path kind entries

/-- A document so far, with the path to the table that keys are added to. -/
structure Document where
  entries : Entries := []
  current : List String := []

namespace Document

/-- Carries out a statement, if it is allowed. -/
def add (d : Document) : Statement → Option Document
  | .pair key value => do
    let (_, entries) ← descend .implied (addPair key value) d.current .header d.entries
    some { d with entries := entries }
  | .header key => do
    let last ← key.getLast?
    let (_, entries) ← descend .implied
      (fun kind entries =>
        match Directory.find last entries with
        | none => some (kind, Directory.store last (table .header []) entries)
        | some (table .implied sub) =>
          some (kind, (entries.filter fun e => e.1 ≠ last) ++ [(last, table .header sub)])
        | some _ => none)
      key.dropLast .header d.entries
    some { entries := entries, current := key }
  | .listHeader key => do
    let last ← key.getLast?
    let (_, entries) ← descend .implied
      (fun kind entries =>
        match Directory.find last entries with
        | none => some (kind, Directory.store last (tables [[]]) entries)
        | some (tables ts) => some (kind, Directory.store last (tables (ts ++ [[]])) entries)
        | some _ => none)
      key.dropLast .header d.entries
    some { entries := entries, current := key }

end Document

/-- The table that statements build up. -/
def build? (statements : List Statement) : Option Entries :=
  (statements.foldlM Document.add {}).map Document.entries

/-! ## Grammar -/

/-- Skips white space, line ends and comments. -/
def skipLines : (fuel : Nat) → List Char → List Char
  | 0, cs => cs
  | fuel + 1, cs =>
    let cs := skipComment (skipBlanks cs)
    match newline? cs with
    | some rest => skipLines fuel rest
    | none => cs

mutual

/-- Reads a value; arrays and tables within it may be nested `depth` deep. -/
def value? : (fuel depth : Nat) → List Char → Option (Toml × List Char)
  | 0, _, _ => none
  | fuel + 1, depth, cs =>
    match cs with
    | 't' :: 'r' :: 'u' :: 'e' :: rest => some (boolean true, rest)
    | 'f' :: 'a' :: 'l' :: 's' :: 'e' :: rest => some (boolean false, rest)
    | '[' :: rest =>
      match depth with
      | 0 => none
      | depth + 1 => items? fuel depth [] (skipLines rest.length rest)
    | '\x7b' :: rest =>
      match depth with
      | 0 => none
      | depth + 1 =>
        match skipBlanks rest with
        | '\x7d' :: rest => some (table .inline [], rest)
        | rest => inlinePairs? fuel depth [] rest
    | '"' :: _ => (string? cs).map fun (text, rest) => (string text, rest)
    | '\'' :: _ => (string? cs).map fun (text, rest) => (string text, rest)
    | cs => number? cs

/-- Reads the items of an array and its closing bracket, after those in `done`, which are in
    reverse. -/
def items? : (fuel depth : Nat) → List Toml → List Char → Option (Toml × List Char)
  | 0, _, _, _ => none
  | fuel + 1, depth, done, cs =>
    match cs with
    | ']' :: rest => some (array done.reverse, rest)
    | cs =>
      match value? fuel depth cs with
      | none => none
      | some (item, rest) =>
        match skipLines rest.length rest with
        | ',' :: rest => items? fuel depth (item :: done) (skipLines rest.length rest)
        | ']' :: rest => some (array (item :: done).reverse, rest)
        | _ => none

/-- Reads the keys and values of a table and its closing brace, after those already in it. -/
def inlinePairs? : (fuel depth : Nat) → Entries → List Char → Option (Toml × List Char)
  | 0, _, _, _ => none
  | fuel + 1, depth, entries, cs =>
    match key? cs.length [] cs with
    | some (key, '=' :: rest) =>
      match value? fuel depth (skipBlanks rest) with
      | none => none
      | some (value, rest) =>
        match addPair key value .inline entries with
        | none => none
        | some (_, entries) =>
          match skipBlanks rest with
          | ',' :: rest => inlinePairs? fuel depth entries rest
          | '\x7d' :: rest => some (table .inline entries, rest)
          | _ => none
    | _ => none

end

/-- Reads one statement. -/
def statement? (cs : List Char) : Option (Statement × List Char) :=
  let fuel := 2 * cs.length + 2
  match cs with
  | '[' :: '[' :: rest =>
    match key? fuel [] rest with
    | some (key, ']' :: ']' :: rest) => some (.listHeader key, rest)
    | _ => none
  | '[' :: rest =>
    match key? fuel [] rest with
    | some (key, ']' :: rest) => some (.header key, rest)
    | _ => none
  | cs =>
    match key? fuel [] cs with
    | some (key, '=' :: rest) =>
      (value? fuel nesting (skipBlanks rest)).map fun (value, rest) => (.pair key value, rest)
    | _ => none

/-- Reads statements, one on a line, after those in `done`, which are in reverse. -/
def statements? : (fuel : Nat) → List Statement → List Char → Option (List Statement)
  | 0, _, _ => none
  | fuel + 1, done, cs =>
    match skipLines cs.length cs with
    | [] => some done.reverse
    | cs =>
      match statement? cs with
      | none => none
      | some (statement, rest) =>
        match skipComment (skipBlanks rest) with
        | [] => some (statement :: done).reverse
        | rest =>
          match newline? rest with
          | some rest => statements? fuel (statement :: done) rest
          | none => none

/-- The entries of the document that a text is, if it is one. -/
def parse? (text : String) : Option Entries :=
  let cs := match text.toList with
    | '\ufeff' :: rest => rest
    | cs => cs
  (statements? (cs.length + 1) [] cs).bind build?

end Mal.Toml
