import MailCode.Issuance.Stage
import MailCode.Text.Numerals
import MailCode.Url
/-!
# Requests and responses
-/

namespace MailCode.Http

/-!
## Reading a body

A body arrives in chunks and may break off. It is read to its end, but no further than a limit:
as soon as the bytes received would pass it the body is refused.
-/

/-- A part of a body, or the end of a connection that broke. -/
inductive Chunk where
  | bytes (bytes : List UInt8)
  | broken
  deriving DecidableEq, Repr

/-- Why a body was not read. -/
inductive BodyRejection where
  | oversized
  | unreadable
  deriving DecidableEq, Repr

/-- Reads chunks onto what has been read. -/
def readOnto (limit : Nat) : (read : List UInt8) → List Chunk → Except BodyRejection (List UInt8)
  | read, [] => .ok read
  | _, .broken :: _ => .error .unreadable
  | read, .bytes bytes :: rest =>
    if limit < read.length + bytes.length then .error .oversized
    else readOnto limit (read ++ bytes) rest

/-- Reads a whole body of `limit` bytes at most. -/
def readBody (limit : Nat) (chunks : List Chunk) : Except BodyRejection (List UInt8) :=
  readOnto limit [] chunks

/-!
## Finding the handler of a request

A request is answered by its method and the path of its target, which is a path or a whole URL.
Query and fragment play no role; in the path an escaped character counts as itself if it needs no
escaping.
-/

/-- The handlers of the service. -/
inductive Route where
  | getCode
  | health
  deriving DecidableEq, Repr

namespace Route

/-- Whether a character of a path never needs escaping. -/
def isUnreserved (c : Char) : Bool :=
  c.isAlphanum || c == '-' || c == '.' || c == '_' || c == '~'

/-- The character that two hexadecimal digits escape, if it needs no escaping. -/
def unescaped? (high low : Char) : Option Char := do
  let high ← Text.Hex.valueOfChar? high
  let low ← Text.Hex.valueOfChar? low
  let c := Char.ofNat (high * 16 + low)
  if isUnreserved c then some c else none

/-- A path with the needless escapes resolved. -/
def resolve : List Char → List Char
  | '%' :: high :: low :: rest =>
    match unescaped? high low with
    | some c => c :: resolve rest
    | none => '%' :: resolve (high :: low :: rest)
  | c :: rest => c :: resolve rest
  | [] => []

/-- The path of a target; a target that is neither a path nor a URL with an authority has none. -/
def pathOf (target : List Char) : List Char :=
  let located := target.takeWhile fun c => c != '?' && c != '#'
  match located with
  | '/' :: _ => located
  | _ =>
    match Url.splitScheme? located with
    | some (_, '/' :: '/' :: rest) =>
      match rest.dropWhile (· != '/') with
      | [] => ['/']
      | path => path
    | _ => []

/-- The handler for a method and a target. -/
def find? (method target : String) : Option Route :=
  match method, String.ofList (resolve (pathOf target.toList)) with
  | "POST", "/api/v1/verify/get-verify-code" => some .getCode
  | "GET", "/health" => some .health
  | _, _ => none

end Route

/-!
## The service over HTTP

A request for a code carries its address as JSON. Whatever becomes of it the status is 200 and the
outcome stands in the answer; a body that cannot be read as a request is answered without the
service being asked. The health page tells by its status whether the cache answers. Everything
else is not found.
-/

/-- A request. -/
structure Request where
  method : String
  /-- A path or a URL, with query and fragment. -/
  path : String
  chunks : List Chunk

/-- What a response carries. -/
inductive Content where
  | answer (a : Answer)
  | health (h : Health)
  | notFound
  deriving DecidableEq, Repr

/-- What a response carries, as JSON. -/
def Content.toJson : Content → Json
  | .answer a => a.toJson
  | .health h => h.toJson
  | .notFound =>
    .object [("error", .text "not_found"),
      ("message", .text "The requested resource was not found")]

/-- The media type of every response. -/
def contentType : String := "application/json"

/-- A response. -/
structure Response where
  status : Nat
  content : Content
  deriving DecidableEq, Repr

/-- What a handler leaves behind. -/
structure Handled (σ α : Type) where
  response : α
  state : σ
  calls : List Call
  events : List Event

/-- Who logs the events of the handler for codes. -/
def target : String := "vs_api::routes::verify::get_verify_code"

/-- A body passes the limit. -/
def oversizedRequest (limit : Nat) : Event where
  level := .warn
  target := target
  message := "Rejecting get-verify-code request body over the size limit"
  fields := [("limit", .number limit), ("event", .text "oversized_request")]

/-- A body broke off. -/
def unreadableRequest : Event where
  level := .warn
  target := target
  message := "Failed to read get-verify-code request body"
  fields := [("event", .text "unreadable_request")]

/-- A body is no request. -/
def malformedRequest (length : Nat) : Event where
  level := .warn
  target := target
  message := "Rejecting unparseable get-verify-code request"
  fields := [("body_length", .number length), ("event", .text "malformed_request")]

/-- A request is served. -/
def processing (email : String) : Event where
  level := .info
  target := target
  message := "Processing get-verify-code request"
  fields := [("email", .text (Address.mask email)), ("event", .text "get_verify_code")]

/-- The answer to what is no request. -/
def noRequest : Response :=
  ⟨200, .answer ⟨"", .exception⟩⟩

/-- The request that a body holds. -/
def requestOfBody? (body : List UInt8) : Option CodeRequest :=
  (Json.Tree.parse? body).bind CodeRequest.ofTree?

variable {σ : Type}

/-- Serves a request for a code; bodies of more than `limit` bytes are refused. -/
def getCode (c : Collaborators σ) (settings : IssuingSettings) (limit : Nat)
    (chunks : List Chunk) (s : σ) : Handled σ Response :=
  match readBody limit chunks with
  | .error .oversized => ⟨noRequest, s, [], [oversizedRequest limit]⟩
  | .error .unreadable => ⟨noRequest, s, [], [unreadableRequest]⟩
  | .ok body =>
    match requestOfBody? body with
    | none => ⟨noRequest, s, [], [malformedRequest body.length]⟩
    | some request =>
      let p := Issuance.issue c settings request.email s
      let answer := p.stage.answer?.getD ⟨request.email, .exception⟩
      ⟨⟨200, .answer answer⟩, p.state, p.calls, processing request.email :: p.events⟩

/-- Tells how the service is; there is no response if the cache panics. -/
def health (c : Collaborators σ) (timestamp : String) (s : σ) : Handled σ (Option Response) :=
  let r := Issuance.cacheHealthy c s
  let response :=
    match r.outcome with
    | .ok answers => some ⟨if answers then 200 else 503, .health (.ofCache answers timestamp)⟩
    | .error _ | .panic _ => none
  ⟨response, r.state, [], r.events⟩

/-- Serves a request that arrives at the given time. -/
def serve (c : Collaborators σ) (settings : IssuingSettings) (limit : Nat) (timestamp : String)
    (request : Request) (s : σ) : Handled σ (Option Response) :=
  match Route.find? request.method request.path with
  | some .getCode =>
    let handled := getCode c settings limit request.chunks s
    ⟨some handled.response, handled.state, handled.calls, handled.events⟩
  | some .health => health c timestamp s
  | none => ⟨some ⟨404, .notFound⟩, s, [], []⟩

end MailCode.Http
