import WebApplication.Configuration.Block

/-!
# Configurations shown as JSON

What a configuration comes to under some profiles. Passwords, handlers and programs are
not shown.
-/

set_option autoImplicit false

namespace WebApplication

open Json (Value)

variable {C : Bean.Catalog} {σ : Type}

def textsToJson (texts : List String) : Value := .array (texts.map .string)

def numberToJson : Option Nat → Value
  | some n => .ofNat n
  | none => .null

def Http.ClientSettings.toJson (s : Http.ClientSettings) : Value :=
  .object [("base_url", .ofOption s.baseUrl), ("codecs", textsToJson (s.codecs.map (·.word))),
    ("timeout_secs", numberToJson s.timeout)]

def Http.Cors.Rule.toJson (r : Http.Cors.Rule) : Value :=
  .object [("origin", .string r.origin), ("allowed_methods", textsToJson r.methods),
    ("allowed_headers", textsToJson r.headers), ("allow_credentials", .bool r.credentials),
    ("max_age_secs", numberToJson r.maxAge)]

def Template.Settings.toJson (s : Template.Settings) : Value :=
  .object [("prefix", .string s.before), ("suffix", .string s.after),
    ("inline", .object (s.registered.map fun (name, source) => (name, .string source)))]

def Access.Rule.toJson (r : Access.Rule) : Value := textsToJson [r.pattern, r.access.describe]

def Access.Settings.toJson (s : Access.Settings C σ) : Value :=
  .object [("realm", .string s.realm), ("rules", .array (s.rules.map (·.toJson))),
    ("users", .ofOption (s.users.map (·.describe))),
    ("encoder", .ofOption (s.encoder.map (·.describe))),
    ("manager", .ofOption (s.manager.map (·.describe)))]

def Server.Settings.toJson (profiles : Profiles) (s : Server.Settings C σ) : Value :=
  .object [("port", .ofNat (s.port.resolve profiles)), ("default_port", .ofNat s.port.default),
    ("host", .string s.host), ("cors", .array (s.cors.map (·.toJson))),
    ("codecs", textsToJson (s.codecs.map (·.word))),
    ("template", (s.template.map (·.toJson)).getD .null), ("timeout", .ofNat s.timeout),
    ("max_body", .ofNat s.maxBody), ("routers", textsToJson (s.routers.map (·.describe))),
    ("security", (s.security.map (·.toJson)).getD .null)]

namespace Configuration

def definitionToJson (d : Bean.Definition C σ) : Value :=
  .array [.string d.name, .string (C.typeName d.kind),
    textsToJson (d.dependencies.map (·.describe))]

def serverToJson (profiles : Profiles) : Option (String × Server.Settings C σ) → Value
  | none => .null
  | some (block, s) =>
    .object [("block", .string block), ("config", s.toJson profiles),
      ("problems", .array (s.problems.map fun p => textsToJson [p.field, p.message]))]

def Merged.toJson (profiles : Profiles) (m : Merged C σ) : Value :=
  .object [("beans", .array (m.beans.map definitionToJson)),
    ("listeners", textsToJson (m.listeners.map fun l => C.eventName l.event)),
    ("prefixes", textsToJson m.prefixes), ("server", serverToJson profiles m.server)]

end Configuration

end WebApplication
