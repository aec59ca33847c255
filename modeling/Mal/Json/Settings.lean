import Mal.Json.Message
import Mal.Settings.Form

/-!
# Settings as JSON

A section or a field that is missing has its default; null is no value of either.
-/

namespace Mal

/-- Settings in JSON. A record written as an array may lack fields at its end. -/
def SettingsFormat.json : SettingsFormat Json :=
  { fields := fun names j =>
      match j with
      | .array items =>
        if items.length ≤ names.length then
          some (items.map some ++ List.replicate (names.length - items.length) none)
        else none
      | j => j.fields? names
    natural := Json.asUInt64?
    text := Json.asText?
    flag := Json.asBool? }

namespace Settings

def ofJson? (j : Json) : Option Settings :=
  SettingsFormat.json.read? j

def toJson (s : Settings) : Json :=
  .object
    [("consumer", .object [("wait_timeout_ms", .natural s.waitTimeout.toNat)]),
     ("transaction", .object [("epoch_unix_seconds", .natural s.epoch.toNat)]),
     ("pubsub", .object [("provider_key_separator", .string s.separator)]),
     ("logging", .object [("level", .string s.logLevel), ("json", .bool s.logJson)])]

end Settings

end Mal
