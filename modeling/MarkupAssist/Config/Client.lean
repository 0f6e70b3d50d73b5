import MarkupAssist.Config.Basic
import MarkupAssist.Json.Collapsed

/-!
# Settings sent by a client

A client may change the snippet settings while the server runs. What it sends is looked at only in
one section (`Config.settingsSection`). An object there is merged into the settings in force, member
by member (`Settings.merge`), and the result is decoded as settings; anything else must be complete
settings. A payload that cannot be decoded changes nothing.
-/

namespace MarkupAssist

namespace Settings

/-- The key that a member of a section is merged under: other spellings of the indent stand for
its own key. -/
def mergeKey : String → String
  | "indentSize" | "indent_size" => "indent-size"
  | other => other

/-- Settings as JSON with the members of a section put on top of them, one after the other. A
section that is no object takes their place. -/
def merge (settings : Settings) (part : Json) : Json :=
  match settings.encode, part with
  | .object current, .object changes =>
    .object (Json.insertAll current (changes.map fun m => (m.1.map mergeKey, m.2)))
  | _, _ => part

end Settings

namespace Config

/-- The section of a payload that holds snippet settings. -/
def settingsSection : String := "flow-helper"

/-- What comes of a payload of a client. -/
inductive ClientUpdate where
  /-- The payload has no section for the settings. -/
  | absent
  | accepted (config : Config)
  /-- The section cannot be decoded. -/
  | refused
  deriving DecidableEq, Repr

/-- The settings that a section leads to. -/
def sectionSettings? (config : Config) (part : Json) : Option Settings :=
  Settings.decode? (config.settings.merge part)

/-- What a payload of a client does to a configuration. -/
def applyClient (config : Config) (payload : Json) : ClientUpdate :=
  match payload.collapsed.get? settingsSection with
  | none => .absent
  | some part =>
    match config.sectionSettings? part with
    | some settings => .accepted { config with settings }
    | none => .refused

/-- The configuration after a payload of a client, which is unchanged if it is refused. -/
def afterClient (config : Config) (payload : Json) : Config :=
  match config.applyClient payload with
  | .accepted changed => changed
  | _ => config

end Config

end MarkupAssist
