import ComponentHost.Config.Shape
import ComponentHost.Toml.Decode
import ComponentHost.Toml.Document
import ComponentHost.Value

/-! The host's configuration file. It is TOML; what is wrong with its form is not told further,
but what does not fit its shape is. -/

namespace ComponentHost

inductive ConfigError
  | unreadable (path reason : String)
  | malformed
  | mismatched (reason : String)
deriving DecidableEq

namespace ConfigError

def message : ConfigError → String
  | unreadable path reason => "Failed to read config file '" ++ path ++ "': " ++ reason
  | malformed => "Failed to parse config file: TOML parse error"
  | mismatched reason => "Failed to parse config file: " ++ reason

def causes : ConfigError → List String
  | unreadable _ reason => [reason]
  | malformed | mismatched _ => []

end ConfigError

namespace ConfigFile

def ofToml (text : String) : Except ConfigError ConfigFile :=
  match Toml.parse text with
  | none => .error .malformed
  | some v =>
    match Toml.fit ConfigFile.schema v with
    | .ok fields => .ok (shape.ofFields fields)
    | .error reason => .error (.mismatched reason)

def notUtf8 : String := "stream did not contain valid UTF-8"

def ofFile (path : String) (content : Except String Bytes) : Except ConfigError ConfigFile :=
  match content with
  | .error reason => .error (.unreadable path reason)
  | .ok bytes =>
    match String.fromUTF8? (ByteArray.mk bytes.toArray) with
    | none => .error (.unreadable path notUtf8)
    | some text => ofToml text

end ConfigFile

end ComponentHost
