import Mal.Directory
import Mal.Toml.Value
import Mal.Toml.Date

/-!
# Trees of settings

Settings from several sources are put together in one tree. What a source does not say is `absent`,
which is no value of any kind; it only occurs where an item is given of a list that has no items
before it.

`SettingTree.ofToml?` gives the tree of a TOML document. Dates become texts. A table whose first key
is `SettingTree.dateMark` stands for a date, which is the text under that key.
-/

namespace Mal

/-- A value in settings from several sources. -/
inductive SettingTree where
  | absent
  | text (text : String)
  | integer (value : Int)
  | float (value : Float)
  | flag (value : Bool)
  | list (items : List SettingTree)
  | table (entries : List (String × SettingTree))

namespace SettingTree

instance : Inhabited SettingTree := ⟨absent⟩

/-- The entries of a table; any other value has none. -/
def entries : SettingTree → List (String × SettingTree)
  | table entries => entries
  | _ => []

/-- The items of a list; any other value has none. -/
def items : SettingTree → List SettingTree
  | list items => items
  | _ => []

/-- The key that makes a table stand for a date. -/
def dateMark : String := "$__toml_private_datetime"

/-- The date that a table stands for: `none` if it stands for itself, `some none` if what should be
    a date is none. -/
def markedDate? : List (String × Toml) → Option (Option SettingTree)
  | (key, value) :: _ =>
    if key = dateMark then
      match value with
      | .string date => some ((Toml.datetimeOfText? date).map text)
      | _ => some none
    else none
  | [] => none

mutual

/-- The tree of a TOML value, unless some date in it is none. -/
def ofToml? : Toml → Option SettingTree
  | .string s => some (text s)
  | .integer n => some (integer n)
  | .float x => some (float x)
  | .boolean b => some (flag b)
  | .datetime s => some (text s)
  | .array items => (ofItems? items).map list
  | .table _ entries =>
    match markedDate? entries with
    | some date? => date?
    | none => (ofEntries? entries).map table
  | .tables tables => (ofTables? tables).map list

/-- The trees of all items of an array. -/
def ofItems? : List Toml → Option (List SettingTree)
  | [] => some []
  | item :: rest =>
    match ofToml? item, ofItems? rest with
    | some item, some rest => some (item :: rest)
    | _, _ => none

/-- The trees of all values in a table. -/
def ofEntries? : List (String × Toml) → Option (List (String × SettingTree))
  | [] => some []
  | (key, value) :: rest =>
    match ofToml? value, ofEntries? rest with
    | some value, some rest => some ((key, value) :: rest)
    | _, _ => none

/-- The trees of several tables. -/
def ofTables? : List (List (String × Toml)) → Option (List SettingTree)
  | [] => some []
  | entries :: rest =>
    let first? := match markedDate? entries with
      | some date? => date?
      | none => (ofEntries? entries).map table
    match first?, ofTables? rest with
    | some first, some rest => some (first :: rest)
    | _, _ => none

end

end SettingTree

end Mal
