import FiatRamp.Codec.Config
import FiatRamp.Config.Validation
import FiatRamp.Text.Utf8
import FiatRamp.Toml.Reader

/-!
# FiatRamp.Config.File

Configuration files: text in TOML.

A file that is no TOML, or where a setting has a value of the wrong type, is
refused at once; else all that is wrong with the settings is reported.  Names
that are no settings do not count.
-/

namespace FiatRamp

/-- Why a configuration file is refused. -/
inductive ConfigError where
  /-- There is no file, or it is no text. -/
  | unreadable
  /-- The text does not say what the settings are. -/
  | malformed
  /-- Settings are wrong. -/
  | invalid (issues : List ConfigIssue)
  deriving DecidableEq

namespace Config

/-- The configuration a file's text describes, valid or not. -/
def ofFileText? (text : String) : Option Config := do
  Config.ofJson? .file (← Toml.Value.ofText? text).toJson

/-- A configuration, if it is valid. -/
def checked (c : Config) : Except ConfigError Config :=
  if c.issues.isEmpty then .ok c else .error (.invalid c.issues)

/-- The valid configuration a file's text describes. -/
def parse (text : String) : Except ConfigError Config :=
  match ofFileText? text with
  | some c => c.checked
  | none => .error .malformed

/-- The valid configuration in a file, given by its bytes if there is one. -/
def load (file : Option (List Nat)) : Except ConfigError Config :=
  match file.bind Utf8.decode? with
  | some cs => parse (String.ofList cs)
  | none => .error .unreadable

end Config

end FiatRamp
