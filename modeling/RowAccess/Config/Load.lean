import RowAccess.Config.Check
import RowAccess.Config.Read
import RowAccess.Toml.Document

/-!
Contract: configurations from text, bytes and paths.

A loaded configuration has been accepted. The size is tested before anything
else, and bytes have to be UTF-8.

Owns:
- loading, and the order of its tests.
-/

namespace RowAccess.AccessConfig

/-- Accepts a configuration or reports its first defect. -/
def accept (config : AccessConfig) : Except ConfigError AccessConfig :=
  match config.check with
  | .ok _ => .ok config
  | .error defect => .error (.invalid defect)

def ofText (content : String) : Except ConfigError AccessConfig :=
  if ConfigLimit.fileBytes < content.utf8ByteSize then .error (.invalid .fileTooLarge)
  else
    match (Toml.parse? content).bind (fun value => read .toml (SourceValue.ofToml value)) with
    | some config => config.accept
    | none => .error .parse

def ofBytes (content : ByteArray) : Except ConfigError AccessConfig :=
  if ConfigLimit.fileBytes < content.size then .error (.invalid .fileTooLarge)
  else
    match String.fromUTF8? content with
    | some text => ofText text
    | none => .error (.invalid .fileNotUtf8)

/-- Loads a path, given what can be read there. -/
def ofPath (path : String) (content : Option ByteArray) : Except ConfigError AccessConfig :=
  match Location.defect? path with
  | some defect => .error (.invalid (.configPath defect))
  | none =>
      match content with
      | some bytes => ofBytes bytes
      | none => .error .unreadable

end RowAccess.AccessConfig
