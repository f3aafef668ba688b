import MailCode.Json.Basic
import MailCode.Json.Record
import MailCode.Settings.Variables
import MailCode.Text.Basic
/-!
# The deployment and its log
-/

namespace MailCode

/-- What the service runs for. -/
inductive Deployment where
  | development
  | staging
  | production
  deriving DecidableEq, Repr

namespace Deployment

/-- The name of a deployment. -/
def name : Deployment → String
  | .development => "development"
  | .staging => "staging"
  | .production => "production"

/-- The name of the case, as logs show it. -/
def caseName : Deployment → String
  | .development => "Development"
  | .staging => "Staging"
  | .production => "Production"

/-- Every deployment by its name. -/
def byName : List (String × Deployment) :=
  [("development", .development), ("staging", .staging), ("production", .production)]

/-- The deployment unless another is named. -/
def default : Deployment := .development

/-- Whether real users are served. -/
def isProduction : Deployment → Bool
  | .production => true
  | _ => false

/-- The file that may hold variables for a deployment. -/
def variablesFile (d : Deployment) : String :=
  ".env." ++ d.name

/-- Reads a deployment in any case, with blanks around it; each has a short form. -/
def parse (text : String) : Except String Deployment :=
  match String.ofList (Text.lowerAscii (Text.trim text.toList)) with
  | "development" | "dev" => .ok .development
  | "staging" | "stage" => .ok .staging
  | "production" | "prod" => .ok .production
  | other => .error ("expected development, staging or production, got " ++ Text.quote other)

/-- The deployment that the variables name. -/
def ofVariables (vars : Variables) : Except InvalidSetting Deployment :=
  vars.valueOr "ENVIRONMENT" default parse

/-- The deployment as JSON. -/
def toJson (d : Deployment) : Json :=
  .text d.name

/-- The deployment that a received value stands for. -/
def ofTree? : Json.Tree → Option Deployment :=
  Json.Tree.variant? byName

end Deployment

/-- The layout of log lines. -/
inductive LogFormat where
  | json
  | pretty
  | compact
  deriving DecidableEq, Repr

namespace LogFormat

/-- The name of a layout. -/
def name : LogFormat → String
  | .json => "json"
  | .pretty => "pretty"
  | .compact => "compact"

/-- Every layout by its name. -/
def byName : List (String × LogFormat) :=
  [("json", .json), ("pretty", .pretty), ("compact", .compact)]

/-- Reads a layout in any case, with blanks around it. -/
def parse (text : String) : Except String LogFormat :=
  match String.ofList (Text.lowerAscii (Text.trim text.toList)) with
  | "json" => .ok .json
  | "pretty" => .ok .pretty
  | "compact" => .ok .compact
  | other => .error ("expected json, pretty or compact, got " ++ Text.quote other)

/-- The layout as JSON. -/
def toJson (f : LogFormat) : Json :=
  .text f.name

/-- The layout that a received value stands for. -/
def ofTree? : Json.Tree → Option LogFormat :=
  Json.Tree.variant? byName

end LogFormat

/-- The settings of the log. -/
structure LoggingSettings where
  level : String
  format : LogFormat
  /-- Whether lines tell the place in the source they come from. -/
  sourceLocation : Bool
  deriving DecidableEq, Repr

namespace LoggingSettings

/-- The log that suits a deployment: talkative for development, terse lines elsewhere. -/
def forDeployment : Deployment → LoggingSettings
  | .development => ⟨"debug", .pretty, true⟩
  | .staging | .production => ⟨"info", .json, false⟩

/-- The log as it is by default. -/
def default : LoggingSettings :=
  forDeployment Deployment.default

/-- The log that the variables describe for a deployment. -/
def ofVariables (vars : Variables) (d : Deployment) : Except InvalidSetting LoggingSettings := do
  let level := vars.textOr "LOG_LEVEL" (forDeployment d).level
  let format ← vars.valueOr "LOG_FORMAT" (forDeployment d).format LogFormat.parse
  return { forDeployment d with level, format }

/-- The settings as JSON. -/
def toJson (s : LoggingSettings) : Json :=
  .object [("level", .text s.level), ("format", s.format.toJson),
    ("source_location", .bool s.sourceLocation)]

/-- The settings that a received value stands for. -/
def ofTree? (t : Json.Tree) : Option LoggingSettings := do
  let r ← Json.Record.ofTree? ["level", "format", "source_location"] t
  let level ← r.required "level" Json.Tree.text?
  let format ← r.withDefault "format" .pretty LogFormat.ofTree?
  let sourceLocation ← r.withDefault "source_location" false Json.Tree.bool?
  return ⟨level, format, sourceLocation⟩

end LoggingSettings

end MailCode
