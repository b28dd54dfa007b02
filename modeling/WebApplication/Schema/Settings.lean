import WebApplication.Schema.Shape

/-!
# Shapes of settings

How the settings of logging, servers and clients are read from JSON.
-/

set_option autoImplicit false

namespace WebApplication.Schema.Settings

def words (name : String) (choices : List String) : Shape :=
  .choice name (choices.map fun word => (word, .bare))

def integer16 : Shape := .integer ⟨16, false⟩

def integer64 : Shape := .integer ⟨64, false⟩

def mode : Shape := words "ApplicationType" ["none", "reactive"]

def level : Shape := words "LogLevel" ["trace", "debug", "info", "warn", "error", "off"]

def format : Shape := words "LogFormat" ["compact", "json"]

def codec : Shape := words "CodecKind" ["string", "json"]

def profiled (inner : Shape) : Shape :=
  .record "Profiled" false
    [.required "default" inner, .required "overrides" (.list (.tuple [.text, inner]))]

def profiles : Shape := .record "Profiles" false [.required "active" (.list .text)]

def corsRule : Shape :=
  .record "CorsRule" false
    [.required "origin" .text, .required "allowed_methods" (.list .text),
      .required "allowed_headers" (.list .text), .required "allow_credentials" .bool,
      .required "max_age_secs" (.optional integer64)]

def template : Shape :=
  .record "TemplateConfig" false
    [.withDefault "prefix" .text (.text "templates/"),
      .withDefault "suffix" .text (.text ".mustache"),
      .withDefault "inline" (.table none .text) (.table [])]

def client : Shape :=
  .record "WebClientConfig" false
    [.withDefault "base_url" (.optional .text) .absent,
      .withDefault "codecs" (.list codec) (.list []),
      .withDefault "timeout_secs" (.optional integer64) .absent]

def logging : Shape :=
  .record "LoggingConfig" false
    [.withDefault "level" (profiled level)
        (.record [("default", .text "info"), ("overrides", .list [])]),
      .withDefault "loggers" (.list (.tuple [.text, level])) (.list []),
      .withDefault "format" format (.text "compact")]

end WebApplication.Schema.Settings
