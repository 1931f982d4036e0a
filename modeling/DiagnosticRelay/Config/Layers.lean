import DiagnosticRelay.Config.Basic
import DiagnosticRelay.FileSystem
import DiagnosticRelay.Number.Reading
import DiagnosticRelay.Toml.Document

/-!
# Where a configuration comes from

Four layers are put on top of one another: the tool's section of the project
description, the tool's own file, the environment, and the overrides of the command
line.  Each is a set of keys; a later layer wins key by key.

All layers are read before any of them is validated, so a layer that cannot be read is
reported even if an earlier one holds nonsense.  Then the merged keys are validated
after each layer, and the first layer after which they do not fit is the one that is
blamed.
-/

namespace DiagnosticRelay

/-- Why there is no configuration. -/
inductive ConfigFailure where
  | unreadable (path : Text)
  | notTable (path : Text)
  | badTimeout (given : Text)
  | invalid (layer : Text) (complaints : List Complaint)
  | fault (fault : Fault)

namespace ConfigFailure

/-- A failure in words; a refusal of a file or of values by its own words is left to the caller. -/
def message : ConfigFailure → Text
  | .unreadable path => text "Unable to read configuration at " ++ path
  | .notTable path => text "[tool.checkdiag] in " ++ path ++ text " must be a table"
  | .badTimeout given => text "CHECKDIAG_TIMEOUT must be a number, got " ++ Text.quoted given
  | .invalid layer _ => text "Invalid configuration from " ++ layer
  | .fault f => f.message

end ConfigFailure

namespace ConfigLayers

/-- The name of the file that describes a project. -/
def projectDescription : Text := text "pyproject.toml"

/-- The name of the tool's own file. -/
def ownFile : Text := text ".checkdiag.toml"

/-- A path below a directory. -/
def within (root : NamedPath) (name : Text) : NamedPath := root.append (.ofText name)

/-- The table of a file, empty if there is no such file. -/
def readTable (files : FileSystem) (path : NamedPath) : Except ConfigFailure Members :=
  match files.isFile path with
  | .error fault => .error (.fault fault)
  | .ok false => .ok []
  | .ok true =>
    match files.read path with
    | .error _ => .error (.unreadable path.toText)
    | .ok octets =>
      match Utf8.decode octets with
      | .error failure => .error (.fault (.undecodable failure))
      | .ok document =>
        match Toml.read document with
        | .ok table => .ok table
        | .error .malformed => .error (.unreadable path.toText)
        | .error (.tooManyDigits digits) => .error (.fault (.tooManyDigits digits))

/-- The keys of the tool's section in the description of a project. -/
def projectSection (files : FileSystem) (root : NamedPath) : Except ConfigFailure Members := do
  let path := within root projectDescription
  let table ← readTable files path
  match Members.get table (text "tool") with
  | .object tools =>
    match Members.get? tools (text "checkdiag") with
    | none => return []
    | some (.object keys) => return keys
    | some _ => .error (.notTable path.toText)
  | _ => return []

/-- The keys of the tool's own file. -/
def ownTable (files : FileSystem) (root : NamedPath) : Except ConfigFailure Members :=
  readTable files (within root ownFile)

/-- The variables of an environment. -/
abbrev Environment := List (Text × Text)

/-- A variable without the blanks around it, empty if it is not set. -/
def setting (environment : Environment) (name : Text) : Text :=
  Text.trim (((environment.find? fun entry => entry.1 == name).map (·.2)).getD [])

/-- The keys that are set in the environment. -/
def fromEnvironment (environment : Environment) : Except ConfigFailure Members :=
  let binary := setting environment (text "CHECKDIAG_BIN")
  let limit := setting environment (text "CHECKDIAG_TIMEOUT")
  let keys : Members := if binary.isEmpty then [] else [(text "binary", .str binary)]
  if limit.isEmpty then .ok keys
  else match Binary64.readAnyScript? limit with
    | some x => .ok (keys ++ [(text "timeout", .float x)])
    | none => .error (.badTimeout limit)

/-- The keys of overrides that are set. -/
def fromOverrides (overrides : Members) : Members :=
  overrides.filter fun member => !member.2.isNull

/-- Puts named layers on top of the keys so far, validating after each. -/
def layered : Members → List (Text × Members) → Except ConfigFailure Members
  | keys, [] => .ok keys
  | keys, (name, layer) :: rest =>
    let keys := keys.update layer
    match CheckConfig.ofMembers keys with
    | .valid _ => layered keys rest
    | .invalid complaints => .error (.invalid name complaints)

/-- The layers of a configuration, the weakest first. -/
def layers (files : FileSystem) (root : NamedPath) (environment : Environment)
    (overrides : Members) : Except ConfigFailure (List (Text × Members)) := do
  let described ← projectSection files root
  let own ← ownTable files root
  let given ← fromEnvironment environment
  return [(projectDescription, described), (ownFile, own), (text "environment", given),
    (text "overrides", fromOverrides overrides)]

/-- The configuration of a project. -/
def load (files : FileSystem) (root : NamedPath) (environment : Environment)
    (overrides : Members) : Except ConfigFailure CheckConfig := do
  let keys ← layered [] (← layers files root environment overrides)
  match CheckConfig.ofMembers keys with
  | .valid config => return config
  | .invalid complaints => .error (.invalid (text "overrides") complaints)

end ConfigLayers

end DiagnosticRelay
