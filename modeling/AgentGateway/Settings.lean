import AgentGateway.Schema.Shape
import AgentGateway.Signature
import AgentGateway.Text.Casing

/-! Settings of the service.

A setting that is not given is taken from the environment variable of its name,
and else from its default. Among the settings there may be options of loading: what
stands in front of the names of variables, whether upper and lower case differ in them,
and whether empty ones count. -/
namespace AgentGateway

inductive Level where
  | debug
  | info
  | warning
  | error
  | critical
deriving DecidableEq, Repr

namespace Level

def name : Level → String
  | debug => "DEBUG"
  | info => "INFO"
  | warning => "WARNING"
  | error => "ERROR"
  | critical => "CRITICAL"

def all : List Level := [debug, info, warning, error, critical]

/-- A level by its name, in any case and with blanks around it. -/
def read : Value → Checked Level
  | .text s =>
    let name := Text.upper (String.ofList (Text.trimBy Text.isBlankOrSeparator s.toList))
    match all.find? fun l => l.name == name with
    | some l => .ok l
    | none => Schema.encoded name fun _ => .fail .notLiteral
  | _ => .fail .notLiteral

end Level

structure Settings where
  host : String
  port : Int
  logLevel : Level
  logJson : Bool
  pathTemplate : String
  maxConcurrentRequests : Int
  streamMedia : Bool
  entropyLength : Int
  partitionLength : Int
  extra : Fields
deriving DecidableEq, Repr

namespace Settings

def standardTemplate : String := "/\x7bagent_name\x7d/v1/responses"

def known : List String :=
  ["HOST", "PORT", "LOG_LEVEL", "LOG_JSON", "RESPONSES_PATH_TEMPLATE", "MAX_CONCURRENT_REQUESTS",
    "STREAM_MEDIA_CONTENT", "ID_ENTROPY_LENGTH", "ID_PARTITION_KEY_LENGTH"]

section
open Schema

def readFields : Fields → Checked Settings := keeping fun fs =>
  Settings.mk
    <$> optional fs "HOST" text "127.0.0.1"
    <*> optional fs "PORT" int 8000
    <*> optional fs "LOG_LEVEL" Level.read .info
    <*> optional fs "LOG_JSON" bool false
    <*> optional fs "RESPONSES_PATH_TEMPLATE" text standardTemplate
    <*> optional fs "MAX_CONCURRENT_REQUESTS" positiveInt 100
    <*> optional fs "STREAM_MEDIA_CONTENT" bool false
    <*> optional fs "ID_ENTROPY_LENGTH" positiveInt 32
    <*> optional fs "ID_PARTITION_KEY_LENGTH" positiveInt 16
    <*> pure (fs.without known)

end

/-! ### Loading -/

/-- Options of loading; those that nothing here depends on are taken all the same. -/
def loadingOptions : List String :=
  ["_case_sensitive", "_nested_model_default_partial_update", "_env_prefix", "_env_prefix_target", "_env_file",
    "_env_file_encoding", "_env_ignore_empty", "_env_nested_delimiter", "_env_nested_max_split",
    "_env_parse_none_str", "_env_parse_enums", "_cli_prog_name", "_cli_parse_args",
    "_cli_settings_source", "_cli_parse_none_str", "_cli_hide_none_type", "_cli_avoid_json",
    "_cli_enforce_required", "_cli_use_class_docs_for_groups", "_cli_exit_on_error",
    "_cli_prefix", "_cli_flag_prefix_char", "_cli_implicit_flags", "_cli_ignore_unknown_args",
    "_cli_kebab_case", "_cli_shortcuts", "_secrets_dir"]

/-- The variable of a setting. -/
def sought? (given : Fields) (environment : Keyed String) (name : String) : Option String :=
  let isMarked := match given.get? "_env_prefix_target" with
    | some (.text target) => target = "variable" || target = "all"
    | _ => true
  let mark := if isMarked then ((given.get? "_env_prefix").bind Value.text?).getD "" else ""
  let exact := ((given.get? "_case_sensitive").bind Value.present?).all fun v => !v.isVoid
  let emptyCounts := ((given.get? "_env_ignore_empty").getD .null).isVoid
  let found := if exact then environment.get? (mark ++ name)
    else environment.reverse.findSome? fun e =>
      if Text.lower e.1 = Text.lower (mark ++ name) then some e.2 else none
  found.filter fun v => emptyCounts || !v.isEmpty

/-- What is wrong with the names of what is given. -/
def callFault? (given : Fields) : Option CallFault :=
  takenFault? "BaseSettings.__init__" ["__pydantic_self__"] given

/-- The given settings, with those of the environment where none is given. -/
def load (given : Fields) (environment : Keyed String) : Checked Settings :=
  let fromEnvironment := known.filterMap fun name =>
    if given.has name then none
    else (sought? given environment name).map fun v => (name, Value.text v)
  readFields (given.without loadingOptions ++ fromEnvironment)

def write (s : Settings) : Fields :=
  [("HOST", .text s.host), ("PORT", .int s.port), ("LOG_LEVEL", .text s.logLevel.name),
    ("LOG_JSON", .bool s.logJson), ("RESPONSES_PATH_TEMPLATE", .text s.pathTemplate),
    ("MAX_CONCURRENT_REQUESTS", .int s.maxConcurrentRequests),
    ("STREAM_MEDIA_CONTENT", .bool s.streamMedia), ("ID_ENTROPY_LENGTH", .int s.entropyLength),
    ("ID_PARTITION_KEY_LENGTH", .int s.partitionLength)]

end Settings
end AgentGateway
