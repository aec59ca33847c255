import Mal.Decimal.Shortest
import Mal.Settings.Form
import Mal.Settings.Path
import Mal.Settings.Tree
import Mal.Text.Case
import Mal.Toml.Document

/-!
# Settings from several sources

Settings can be laid over each other: those of a file below, those of environment variables above.
Each source names settings by their paths. A table is merged into a table that is there, and any
other value takes the place of what is there (`Layers.overlay`). The letter case of names does not
matter.

The values of variables are texts, so values are converted to what is asked for where that makes
sense (`SettingsFormat.converting`).
-/

namespace Mal.Layers

/-! ## Laying trees over each other -/

mutual

/-- A value laid over what is there. An empty table leaves any value in place. -/
def overlay : SettingTree → Option SettingTree → SettingTree
  | .table [], some below => below
  | .table above, some below => .table (overlayAll above below.entries)
  | .table above, none => .table (overlayAll above [])
  | above, _ => above

/-- All values of a table laid over those of another. -/
def overlayAll :
    List (String × SettingTree) → List (String × SettingTree) → List (String × SettingTree)
  | [], below => below
  | (name, value) :: rest, below =>
    let name := foldCase name
    overlayAll rest (Directory.store name (overlay value (Directory.find name below)) below)

end

/-- Lays a value over what is at the end of a path. What is on the way is made a table or a list
    where it is none, and a list is made long enough. An item takes the place of what is there. -/
def assign (value : SettingTree) : List PathStep → SettingTree → SettingTree
  | [], _ => value
  | [.entry name], below => .table (overlayAll [(name, value)] below.entries)
  | .entry name :: path, below =>
    let name := foldCase name
    let inner := (Directory.find name below.entries).getD .absent
    .table (Directory.store name (assign value path inner) below.entries)
  | .item number :: path, below =>
    let items := below.items
    match PathStep.place? number items.length with
    | none => below
    | some n =>
      let longer := items ++ List.replicate (n + 1 - items.length) .absent
      .list (longer.set n (assign value path (items[n]?.getD .absent)))

/-- Lays all entries of a source over a tree. A name that is no path stands for itself. -/
def lay (source : List (String × SettingTree)) (below : SettingTree) : SettingTree :=
  source.foldl
    (fun below (name, value) => assign value ((Path.parse? name).getD [.entry name]) below) below

/-- One tree of several sources, the lowest first. A name that was no path may have become one by
    its letter case, so the entries are laid out once more in the end. -/
def collect (sources : List (List (String × SettingTree))) : SettingTree :=
  let all := sources.foldl (fun below source => lay source below) (.table [])
  lay all.entries (.table [])

/-! ## Environment variables -/

/-- The value that the text of a variable stands for. -/
def variableValue (text : String) : SettingTree :=
  match foldCase text with
  | "true" => .flag true
  | "false" => .flag false
  | _ =>
    match (integerOfText? text).bind Toml.ofInt? with
    | some (.integer n) => .integer n
    | _ =>
      match floatOfText? text with
      | some x => .float x
      | none => .text text

/-- The settings in environment variables. Only variables count whose names start with the prefix
    and two underscores; further pairs of underscores set the parts of a name apart. -/
def ofEnvironment (environment : List (String × String)) : List (String × SettingTree) :=
  let mark := foldCase (Settings.variablePrefix ++ "__")
  environment.filterMap fun (name, text) =>
    let name := foldCase name
    if name.startsWith mark then
      some (".".intercalate ((String.ofList (name.toList.drop mark.length)).splitOn "__"),
        variableValue text)
    else none

end Layers

/-! ## Reading values -/

/-- The fields of a record written as a table, or in order, with the last ones missing or more than
    there are fields. -/
def Toml.fields? (names : List String) : Toml → Option (List (Option Toml))
  | .table _ entries => some (names.map fun name => Directory.find name entries)
  | .array items => some (names.zipIdx.map fun (_, n) => items[n]?)
  | .tables ts => some (names.zipIdx.map fun (_, n) => ts[n]?.map (table .header))
  | _ => none

/-- The fields of a record written as a table, or in order, with the last ones missing or more than
    there are fields. -/
def SettingTree.fields? (names : List String) : SettingTree → Option (List (Option SettingTree))
  | .table entries => some (names.map fun name => Directory.find name entries)
  | .list items => some (names.zipIdx.map fun (_, n) => items[n]?)
  | _ => none

/-- A natural number of 64 bits. -/
def Toml.ofInteger? (n : Int) : Option UInt64 :=
  if 0 ≤ n ∧ n ≤ 0xFFFFFFFFFFFFFFFF then some (UInt64.ofNat n.toNat) else none

/-- Settings in a TOML document, with each value written as what it is. A date is a record without
    any known field. -/
def SettingsFormat.toml : SettingsFormat Toml :=
  { fields := fun names value =>
      match value with
      | .datetime _ => some (names.map fun _ => none)
      | value => value.fields? names
    natural := fun
      | .integer n => Toml.ofInteger? n
      | _ => none
    text := fun
      | .string text => some text
      | _ => none
    flag := fun
      | .boolean b => some b
      | _ => none }

/-- The truth value that a word stands for. -/
def wordFlag? (word : String) : Option Bool :=
  match foldCase word with
  | "true" | "on" | "yes" => some true
  | "false" | "off" | "no" => some false
  | _ => none

/-- Settings whose values are converted to what is asked for. -/
def SettingsFormat.converting : SettingsFormat SettingTree :=
  { fields := SettingTree.fields?
    natural := fun
      | .integer n => Toml.ofInteger? n
      | .float x => some x.round.toUInt64
      | .flag b => some (if b then 1 else 0)
      | .text text =>
        match wordFlag? text with
        | some b => some (if b then 1 else 0)
        | none => (naturalOfText? text).bind fun n => Toml.ofInteger? n
      | _ => none
    text := fun
      | .text text => some text
      | .integer n => some (toString n)
      | .float x => some (Shortest.text x)
      | .flag b => some (if b then "true" else "false")
      | _ => none
    flag := fun
      | .flag b => some b
      | .integer n => some (n != 0)
      | .float x => some (x != 0.0)
      | .text "1" => some true
      | .text "0" => some false
      | .text text => wordFlag? text
      | _ => none }

/-! ## Loading -/

/-- Why settings cannot be loaded. -/
inductive LoadFault where
  /-- The text is no document, or its values are of the wrong kind. -/
  | unparsable
  /-- The file that was named does not exist, or is no document. -/
  | unbuildable
  /-- Some value cannot be converted to what is asked for. -/
  | unreadable
  | invalid (fault : SettingsFault)

/-- Wording of each fault. -/
def LoadFault.message : LoadFault → String
  | unparsable => "Failed to parse MAL configuration"
  | unbuildable => "Failed to build MAL configuration"
  | unreadable => "Failed to deserialize MAL configuration"
  | invalid fault => fault.message

namespace Settings

/-- Settings that can be worked with. -/
def checked (s : Settings) : Except LoadFault Settings :=
  s.validate.mapError .invalid

/-- The settings in a TOML document. -/
def ofToml (text : String) : Except LoadFault Settings :=
  match (Toml.parse? text).bind fun entries =>
      SettingsFormat.toml.read? (.table .header entries) with
  | some s => s.checked
  | none => .error .unparsable

/-- A text without the mark that may stand at the beginning of a file. -/
def withoutMark (text : String) : String :=
  match text.toList with
  | '\ufeff' :: rest => String.ofList rest
  | _ => text

/-- The entries of a file, if it is a document. -/
def fileEntries? (text : String) : Option (List (String × SettingTree)) :=
  match (Toml.parse? (withoutMark text)).bind fun es => SettingTree.ofToml? (.table .header es) with
  | some (.table entries) => some entries
  | _ => none

/-- The settings in a file and in environment variables. A file that is not there has no settings,
    unless it is required. -/
def load (file : Option String) (required : Bool) (environment : List (String × String)) :
    Except LoadFault Settings :=
  let base := match file with
    | some text => fileEntries? text
    | none => if required then none else some []
  match base with
  | none => .error .unbuildable
  | some base =>
    let tree := Layers.collect [base, Layers.ofEnvironment environment]
    match SettingsFormat.converting.read? tree with
    | some s => s.checked
    | none => .error .unreadable

end Settings

end Mal
