import MailCode.Main
import MailCode.Rehearsal.Action
import MailCode.Redis.Client
import MailCode.Proofs.Address.Masks
import MailCode.Proofs.Cache.Refinement
import MailCode.Proofs.Issuance.Course
import MailCode.Proofs.Issuance.Protocol
import MailCode.Proofs.Issuance.Replay
import MailCode.Proofs.Issuance.Verdict
import MailCode.Proofs.Rehearsal.Cast
import MailCode.Proofs.Rehearsal.Receipts
import MailCode.Proofs.Rehearsal.Reuse
import MailCode.Proofs.Rehearsal.Convergence
import MailCode.Proofs.Rehearsal.Race
import MailCode.Proofs.Rehearsal.Independence
import MailCode.Proofs.Cache.Renaming
import MailCode.Proofs.Rehearsal.Masking
import MailCode.Proofs.Rehearsal.Together
import MailCode.Proofs.Cache.Recoding
import MailCode.Proofs.Rehearsal.Strategies
import MailCode.Proofs.Rehearsal.Secrecy
import MailCode.Proofs.Cache.Backends
import MailCode.Proofs.Issuance.Backends
import MailCode.Proofs.Json.Grammar
import MailCode.Proofs.Json.NumberParts
import MailCode.Proofs.Json.Acceptance
import MailCode.Proofs.Json.Derivation
import MailCode.Proofs.Json.Denotation
import MailCode.Proofs.Json.Numbers
import MailCode.Proofs.Json.Parsing
import MailCode.Proofs.Json.RoundTrip
import MailCode.Proofs.Json.Objects
import MailCode.Proofs.Http.Requests
import MailCode.Proofs.Rehearsal.Frame
import MailCode.Proofs.Cache.Upkeep
import MailCode.Proofs.Http.Arrival
import MailCode.Proofs.Cache.Poisoning
import MailCode.Proofs.Issuance.Log
import MailCode.Proofs.Issuance.Policies
import MailCode.Proofs.Issuance.Story
import MailCode.Proofs.Rehearsal.Poisoning
import MailCode.Proofs.Redis.Line
import MailCode.Proofs.Issuance.Traffic
import MailCode.Proofs.Settings.Reading
import MailCode.Proofs.Settings.Loading
import MailCode.Proofs.Settings.Rendering
import MailCode.Proofs.Settings.Defaults
import MailCode.Proofs.Redis.Retries
import MailCode.Proofs.Mail.Protection
import MailCode.Proofs.Mail.Rejection
import MailCode.Proofs.Redis.Credentials
