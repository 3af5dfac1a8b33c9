import SqlDesk.Config.Toml.Reader
import SqlDesk.Files
import SqlDesk.LogFilter
import SqlDesk.Settings

/-! The configuration of the service: how queries run by default, where rows are kept and what is
logged. Every part has a standard value, and names that are not known are passed over. -/

set_option autoImplicit false

namespace SqlDesk

inductive StorageKind where
  | memory
  | file
  deriving DecidableEq, Repr

def StorageKind.name : StorageKind → String
  | memory => "memory"
  | file => "file"

structure StorageConfig where
  kind : StorageKind
  /-- Where row files are made; a directory for temporary files by default. -/
  directory : Option String
  deriving DecidableEq, Repr

inductive LogFormat where
  | compact
  | json
  deriving DecidableEq, Repr

def LogFormat.name : LogFormat → String
  | compact => "compact"
  | json => "json"

structure LoggingConfig where
  level : String
  format : LogFormat
  deriving DecidableEq, Repr

structure Config where
  execution : Settings
  storage : StorageConfig
  logging : LoggingConfig
  deriving DecidableEq, Repr

inductive ConfigError where
  | unreadable (path : String) (error : FileError)
  | malformed
  | invalid (key reason : String)
  deriving DecidableEq, Repr

def ConfigError.message : ConfigError → String
  | unreadable path error => s!"failed to read config file {path}: {error.message}"
  | malformed => "failed to parse config file"
  | invalid key reason => s!"invalid setting {key}: {reason}"

namespace Config

def standard : Config := ⟨.standard, ⟨.file, none⟩, ⟨"info", .compact⟩⟩

def section? (names : List String) : Json → Option (List (Option Json))
  | .array items => Json.fields? names (.array (items.take names.length))
  | json => Json.fields? names json

/-- One of several named values: its name, or a table that holds nothing under its name. -/
def choice? {α : Type} (name : α → String) (values : List α) (json : Json) : Option α :=
  let named (word : String) : Option α := values.find? fun value => name value = word
  match json with
  | .string word => named word
  | .object [(word, .object [])] | .object [(word, .array [])] => named word
  | _ => none

def execution? (json : Json) : Option Settings := do
  Settings.ofFields? (← section? Settings.fieldNames json)

def storage? (json : Json) : Option StorageConfig := do
  match ← section? ["kind", "directory"] json with
  | [kind, directory] =>
    return {
      kind := ← Json.defaulted? .file (choice? StorageKind.name [.memory, .file]) kind
      directory := ← Json.optional? Json.asString? directory }
  | _ => none

def logging? (json : Json) : Option LoggingConfig := do
  match ← section? ["level", "format"] json with
  | [level, format] =>
    return {
      level := ← Json.defaulted? standard.logging.level Json.asString? level
      format := ← Json.defaulted? .compact (choice? LogFormat.name [.compact, .json]) format }
  | _ => none

def ofJson? (json : Json) : Option Config := do
  match ← section? ["execution", "storage", "logging"] json with
  | [execution, storage, logging] =>
    return {
      execution := ← Json.defaulted? standard.execution execution? execution
      storage := ← Json.defaulted? standard.storage storage? storage
      logging := ← Json.defaulted? standard.logging logging? logging }
  | _ => none

def levelNames : List String := LogLevel.ofEvents.map LogLevel.name

def levelList : String := ", ".intercalate levelNames

def validate (isDirectory : String → Bool) (config : Config) : Except ConfigError Unit :=
  if config.execution.updateRows = 0 then
    .error (.invalid "execution.update_interval_rows" "must be at least 1")
  else if !levelNames.contains config.logging.level then
    .error (.invalid "logging.level"
      s!"'{config.logging.level}' is not one of: {levelList}")
  else match config.storage.kind, config.storage.directory with
    | .file, some directory =>
      if isDirectory directory then .ok ()
      else .error (.invalid "storage.directory" s!"{directory} is not a directory")
    | _, _ => .ok ()

def ofText (tree : FileTree) (text : String) : Except ConfigError Config := do
  match (Toml.parse? text).bind ofJson? with
  | none => .error .malformed
  | some config =>
    config.validate tree.isDirectory
    return config

def ofFile (tree : FileTree) (path : String) : Except ConfigError Config :=
  match tree.read path with
  | .error error => .error (.unreadable path error)
  | .ok content => match Bytes.toString? content with
    | some text => ofText tree text
    | none => .error (.unreadable path (.medium "stream did not contain valid UTF-8"))

end Config

end SqlDesk
