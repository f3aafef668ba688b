import MailCode.Mail.Relay
import MailCode.Redis.Connection
import MailCode.Settings.App
import MailCode.Startup.Filter
import MailCode.Startup.VariablesFile
/-!
# From the variables to a service that is ready
-/

namespace MailCode.Startup

/-!
## Starting the service

Starting reads the variables, sets the log up, chooses who delivers mails, connects to the cache
and takes the address the server listens on. The first thing that fails ends the program with a
report; otherwise the service is `Ready`.

What a start needs of the machine it runs on, connecting, binding and mailing, comes as a `Host`; the
outcome is a `Launch`, with the events that the log's filter shows.
-/

/-- The machine that the service is started on. -/
structure Host where
  /-- How attempts to connect to a server end. -/
  connect : Redis.Endpoint → Redis.Connection.Attempts
  /-- Takes an address to listen on, or tells why that is not possible. -/
  bind : String → Except String Unit
  /-- The client that mails leave through. -/
  mailer : Smtp.Client

/-- A service that is about to serve requests. -/
structure Ready (mailer : Smtp.Client) where
  settings : Settings
  mail : MailService mailer

/-- Why a start failed: what was being done, and the causes, the nearest first. -/
structure Problem where
  doing : String
  causes : List String
  deriving DecidableEq, Repr

namespace Problem

/-- A text with every line after its first one moved in. -/
def indented (width : Nat) (text : String) : String :=
  String.ofList <| text.toList.flatMap fun c =>
    if c = '\n' then '\n' :: List.replicate width ' ' else [c]

/-- The causes by number. -/
def numbered (first : Nat) : List String → String
  | [] => ""
  | cause :: rest =>
    let number := Text.Decimal.render first
    "\n" ++ String.ofList (List.replicate (5 - number.length) ' ' ++ number) ++ ": " ++
      indented 7 cause ++ numbered (first + 1) rest

/-- The report of a failed start: a single cause is moved in, several are numbered. -/
def report (p : Problem) : String :=
  "Error: " ++ p.doing ++
    (match p.causes with
      | [] => ""
      | [cause] => "\n\nCaused by:\n    " ++ indented 4 cause
      | causes => "\n\nCaused by:" ++ numbered 0 causes) ++ "\n"

/-- A variable that cannot be read. -/
def ofSetting (doing : String) (e : InvalidSetting) : Problem :=
  ⟨doing, [e.text]⟩

/-- A cache that cannot be reached; what its server said is a cause of its own. -/
def ofCache (e : BackendError) : Problem :=
  ⟨"failed to connect to Redis",
    e.text ::
      match e with
      | .cache failure => [failure.text]
      | _ => []⟩

end Problem

/-- What became of starting the service. -/
structure Launch (mailer : Smtp.Client) where
  result : Except Problem (Ready mailer)
  /-- The layout of the log, once it has been set up. -/
  format : Option LogFormat
  /-- The events that the log shows. -/
  shown : List Event

/-- An event of the start; it may have fields. -/
def said (level : Level) (message : String) (fields : List (String × Field)) : Event where
  level := level
  target := "vs_api"
  message := message
  fields := fields

/-- The service starts. -/
def starting (s : Settings) : Event :=
  said .info "Starting VerifyServer"
    [("environment", .text s.deployment.caseName), ("strategy", .text s.issuing.strategy.caseName),
      ("delivery_policy", .text s.issuing.policy.caseName)]

/-- What the log says of whoever delivers the mails. -/
def mailReady {mailer : Smtp.Client} (s : Settings) (mail : MailService mailer) : List Event :=
  said .info "Mail service ready" [("provider", .text mail.name)] ::
    if s.deployment.isProduction && mail.name == "Mock" then
      [said .warn "Mock mail service in production; no verification mail will be delivered" []]
    else []

/-- Connects to the cache, if it is one that has to be connected to. -/
def openCache (host : Host) (s : Settings) : Except Problem Unit × List Event :=
  match s.cache.backend with
  | .redis =>
    let report := Redis.Connection.connect s.cache.url s.cache.connectRetries
      s.cache.connectRetryDelay host.connect
    (report.result.mapError Problem.ofCache, report.events)
  | .memory =>
    (.ok (),
      (if s.deployment.isProduction then
        [said .warn "In-memory cache in production; codes are not shared between instances" []]
      else []) ++ [said .warn "Using in-memory cache; codes are lost on restart" []])

/-- Takes the address of the server. -/
def openServer (host : Host) (s : Settings) : Except Problem Unit × List Event :=
  let address := s.server.bindAddress
  ((host.bind address).mapError fun reason => ⟨"failed to bind " ++ address, [reason]⟩,
    [said .info ("Server will bind to: " ++ address) []])

/-- Starts a service whose settings have been read: the outcome and everything that is logged. -/
def prepare (host : Host) (s : Settings) : Except Problem (Ready host.mailer) × List Event :=
  let (mail, choosing) := MailService.ofSettings host.mailer s.mail
  let begun := starting s :: choosing ++ mailReady s mail
  match openCache host s with
  | (.error p, events) => (.error p, begun ++ events)
  | (.ok (), events) =>
    match openServer host s with
    | (.error p, more) => (.error p, begun ++ events ++ more)
    | (.ok (), more) => (.ok ⟨s, mail⟩, begun ++ events ++ more)

/-- The variables with those set that the files for a deployment give: its own file comes first,
then the common one. -/
def withFiles (files : List (String × String)) (d : Deployment) (vars : Variables) : Variables :=
  let load (name : String) (vars : Variables) : Variables :=
    match files.lookup name with
    | some content => VariablesFile.load content vars
    | none => vars
  load ".env" (load d.variablesFile vars)

/-- Starts the service with the variables of the process and the files beside it. -/
def launch (host : Host) (files : List (String × String)) (vars : Variables) :
    Launch host.mailer :=
  match Deployment.ofVariables vars with
  | .error e => ⟨.error (.ofSetting "invalid ENVIRONMENT" e), none, []⟩
  | .ok deployment =>
    let vars := withFiles files deployment vars
    match Settings.ofVariables vars with
    | .error e => ⟨.error (.ofSetting "invalid configuration" e), none, []⟩
    | .ok settings =>
      let filter := Filter.choose (vars.text? "RUST_LOG") settings.logging.level
      let (result, events) := prepare host settings
      ⟨result, some settings.logging.format, events.filter filter.shows⟩

end MailCode.Startup

namespace MailCode

/-!
## A machine without a network

No server and no relay can be reached from it, and there is no socket on it either. An address to
listen on can always be taken, for nobody will ever come. It may have a mail client all the same.
-/

/-- What a machine without a network says of every connection. -/
def unreachable : String := "Network is unreachable (os error 101)"

/-- What it says of a socket. The path of one is shorter than 108 bytes and holds no zero; the root
is there, but nobody listens. -/
def noSocket (path : List UInt8) : String :=
  if path.contains 0 then "paths must not contain interior null bytes"
  else if 108 ≤ path.length then "path must be shorter than SUN_LEN"
  else if path.all (· == 0x2f) then "Connection refused (os error 111)"
  else "No such file or directory (os error 2)"

/-- Why no connection to a server comes about. -/
def Redis.Place.offline : Place → String
  | .tcp _ _ => unreachable
  | .socket path => noSocket path

/-- The relay as it looks from a machine without a network. -/
def Smtp.Relay.offline {ρ : Type} : Smtp.Relay ρ :=
  fun _ state => (.closed unreachable, state)

/-- No mail client at all; it cannot even read an address. -/
def Smtp.Client.missing : Smtp.Client where
  Address := Empty
  Message := Empty
  parse _ := .error "no mail client"
  prepare _ _ := .error "no mail client"
  compose sender := nomatch sender
  session _ message := nomatch message

/-- The machine without a network. -/
def Startup.Host.offline (mailer : Smtp.Client) : Startup.Host where
  connect endpoint _ := .error (.network endpoint.place.offline)
  bind _ := .ok ()
  mailer

end MailCode
