import Mal.Text.Blank

/-!
# Settings of an instance

`Settings` holds what can be configured, with the defaults. `Settings.validate` refuses values that
no instance can work with, reporting the first in a fixed order.
-/

namespace Mal

/-- What can be configured of an instance. -/
structure Settings where
  /-- How long a wait for a reply lasts, in milliseconds. -/
  waitTimeout : UInt64 := 30000
  /-- Start of transaction id magnitudes, in seconds since 1970; the default is the start of
      2010. -/
  epoch : UInt64 := 1262304000
  /-- Sets the parts of a publisher's scope key apart. -/
  separator : String := "::"
  /-- Filter directive of the log. -/
  logLevel : String := "info"
  /-- Whether the log is written as JSON. -/
  logJson : Bool := false
  deriving DecidableEq

/-- Settings that no instance can work with. -/
inductive SettingsFault where
  | zeroTimeout
  | emptySeparator
  | blankLogLevel
  deriving DecidableEq

/-- Wording of each fault. -/
def SettingsFault.message : SettingsFault → String
  | zeroTimeout => "consumer.wait_timeout_ms must be greater than zero"
  | emptySeparator => "pubsub.provider_key_separator must not be empty"
  | blankLogLevel => "logging.level must not be empty"

namespace Settings

/-- The same settings, if they can be worked with, else their first fault. -/
def validate (s : Settings) : Except SettingsFault Settings :=
  if s.waitTimeout = 0 then .error .zeroTimeout
  else if s.separator.isEmpty then .error .emptySeparator
  else if isBlank s.logLevel then .error .blankLogLevel
  else .ok s

/-- Where settings are looked for when no file is named. -/
def defaultPath : String := "config/mal.toml"

/-- What the names of overriding environment variables start with. -/
def variablePrefix : String := "MAL"

end Settings

end Mal
