import Mal.Settings

/-!
# The form of settings

Settings are written in four sections of named fields, whatever the format they are written in. A
`SettingsFormat` says how a format writes records, numbers, texts and truth values;
`SettingsFormat.read?` reads settings in it. What is missing has its default.
-/

namespace Mal

/-- How a format writes what settings are made of. -/
structure SettingsFormat (α : Type) where
  /-- The fields of a record, in the order of their names; `none` for one that is missing. -/
  fields : List String → α → Option (List (Option α))
  natural : α → Option UInt64
  text : α → Option String
  flag : α → Option Bool

namespace SettingsFormat

variable {α : Type} (f : SettingsFormat α)

/-- Reads a field, if it is there. -/
def field? {β : Type} (default : β) (read : α → Option β) : Option α → Option β
  | none => some default
  | some value => read value

/-- Reads a section that has one field. -/
def single? {β : Type} (name : String) (default : β) (read : α → Option β) (part : Option α) :
    Option β :=
  field? default
    (fun value => do
      match ← f.fields [name] value with
      | [field] => field? default read field
      | _ => none)
    part

/-- Reads the section on the log: its level, and whether it is written as JSON. -/
def logging? (part : Option α) : Option (String × Bool) :=
  let standard : Settings := {}
  field? (standard.logLevel, standard.logJson)
    (fun value => do
      match ← f.fields ["level", "json"] value with
      | [level, json] =>
        some (← field? standard.logLevel f.text level, ← field? standard.logJson f.flag json)
      | _ => none)
    part

/-- Reads settings. -/
def read? (value : α) : Option Settings := do
  let standard : Settings := {}
  match ← f.fields ["consumer", "transaction", "pubsub", "logging"] value with
  | [consumer, transaction, pubsub, logging] =>
    let waitTimeout ← f.single? "wait_timeout_ms" standard.waitTimeout f.natural consumer
    let epoch ← f.single? "epoch_unix_seconds" standard.epoch f.natural transaction
    let separator ← f.single? "provider_key_separator" standard.separator f.text pubsub
    let (logLevel, logJson) ← f.logging? logging
    some
      { waitTimeout := waitTimeout, epoch := epoch, separator := separator
        logLevel := logLevel, logJson := logJson }
  | _ => none

end SettingsFormat

end Mal
