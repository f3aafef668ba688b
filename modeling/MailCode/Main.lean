import MailCode.Cache.Memory
import MailCode.Http.Server
import MailCode.Mail.Relay
import MailCode.Rehearsal.World
import MailCode.Startup.Launch
import MailCode.Text.Numerals
/-!
# The program

It starts as the variables and the files beside it say. A start that fails is reported on the
standard error with exit code 1. A service that is ready reads its requests from the standard
input, one body a line, and answers each with one line, until the input ends. The program itself
uses no network and brings no mail client, so that a relay is replaced by the mailbox.
-/

namespace MailCode.Program

open MailCode

/-- The variables that the service looks at. -/
def variableNames : List String :=
  ["ENVIRONMENT", "SERVER_HOST", "SERVER_PORT", "SERVER_WORKERS", "SERVER_MAX_PAYLOAD_SIZE",
    "CACHE_BACKEND", "REDIS_URL", "REDIS_CONNECT_RETRIES", "SMTP_SECURITY", "MAIL_PROVIDER",
    "SMTP_HOST", "SMTP_PORT", "SMTP_USERNAME", "SMTP_PASSWORD", "MAIL_FROM", "SMTP_TIMEOUT_SECS",
    "VERIFY_ISSUANCE_STRATEGY", "VERIFY_DELIVERY_POLICY", "LOG_LEVEL", "LOG_FORMAT", "RUST_LOG"]

/-- The variables of this process. -/
def readVariables : IO Variables :=
  variableNames.filterMapM fun name => do
    return (← IO.getEnv name).map fun text => (name, text.toUTF8.toList)

/-- The files with variables that stand beside the program. -/
def readFiles : IO (List (String × String)) :=
  (".env" :: [Deployment.development, .staging, .production].map Deployment.variablesFile)
    |>.filterMapM fun (name : String) => do
      try return some (name, ← IO.FS.readFile name)
      catch _ => return none

/-- An identifier that nobody has seen before. -/
def randomId : IO String := do
  let bytes ← IO.getRandomBytes 16
  return Uuid.ofBits (bytes.toList.foldl (fun n b => n * 256 + b.toNat) 0)

/-- Shows events that the filter lets through. -/
def log (shows : Event → Bool) (events : List Event) : IO Unit := do
  for e in events.filter shows do
    IO.println e.toJson.compress

/-- Those who work for a ready service. -/
def collaborators {mailer : Smtp.Client} (ready : Startup.Ready mailer) :
    Collaborators (Rehearsal.World Memory) :=
  let base := Rehearsal.World.collaborators Memory.gateway
  match ready.mail with
  | .mailbox => base
  | .relay service =>
    let provider (world : Rehearsal.World Memory) :=
      service.provider Smtp.Relay.offline (world.mailbox.ids world.mailbox.named)
    base.mailing provider (fun _ => ()) fun () world => world

/-- Serves the requests of the standard input. -/
partial def serve {mailer : Smtp.Client} (ready : Startup.Ready mailer) (shows : Event → Bool)
    (world : Rehearsal.World Memory) : IO Unit := do
  let input ← IO.getStdin
  let line ← input.getLine
  if line.isEmpty then return ()
  let code ← randomId
  let id ← randomId
  let now ← IO.monoMsNow
  let world :=
    { world with now, codes := fun _ => code, mailbox := { world.mailbox with ids := fun _ => id } }
  let handled := Http.getCode (collaborators ready) ready.settings.issuing
    ready.settings.server.maxPayloadSize.toNat [.bytes line.toUTF8.toList] world
  log shows handled.events
  IO.println handled.response.content.toJson.compress
  serve ready shows handled.state

/-- Starts the service and serves. -/
def run : IO UInt32 := do
  let vars ← readVariables
  let launched := Startup.launch (Startup.Host.offline .missing) (← readFiles) vars
  log (fun _ => true) launched.shown
  match launched.result with
  | .error problem =>
    IO.eprint problem.report
    return 1
  | .ok ready =>
    let filter := Startup.Filter.choose ((vars.lookup "RUST_LOG").bind Json.utf8Text?)
      ready.settings.logging.level
    serve ready filter.shows (.fresh .empty (fun _ => "") (fun _ => ""))
    return 0

end MailCode.Program

/-- The entry point of the program. -/
def main : IO UInt32 :=
  MailCode.Program.run
