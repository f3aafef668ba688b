import MailCode.Json.Basic
import MailCode.Json.Record
import MailCode.Settings.Variables
import MailCode.Text.Basic
/-!
# How codes are issued
-/

namespace MailCode

/-- How a fresh code is written: over whatever is there, or only where nothing is. -/
inductive Strategy where
  | checkThenSet
  | setIfAbsent
  deriving DecidableEq, Repr

namespace Strategy

/-- The name of a strategy. -/
def name : Strategy → String
  | .checkThenSet => "check-then-set"
  | .setIfAbsent => "set-if-absent"

/-- The name of the case, as logs show it. -/
def caseName : Strategy → String
  | .checkThenSet => "CheckThenSet"
  | .setIfAbsent => "SetIfAbsent"

/-- Every strategy by its name. -/
def byName : List (String × Strategy) :=
  [("check-then-set", .checkThenSet), ("set-if-absent", .setIfAbsent)]

/-- Reads a strategy in any case. -/
def parse (text : String) : Except String Strategy :=
  match String.ofList (Text.lowerForAscii text.toList) with
  | "check-then-set" => .ok .checkThenSet
  | "set-if-absent" => .ok .setIfAbsent
  | _ => .error ("Invalid issuance strategy: " ++ text)

/-- The strategy as JSON. -/
def toJson (s : Strategy) : Json :=
  .text s.name

/-- The strategy that a received value stands for. -/
def ofTree? : Json.Tree → Option Strategy :=
  Json.Tree.variant? byName

end Strategy

/-- What a refused mail does to the answer: nothing, or it is reported. -/
inductive DeliveryPolicy where
  | bestEffort
  | strict
  deriving DecidableEq, Repr

namespace DeliveryPolicy

/-- The name of a policy. -/
def name : DeliveryPolicy → String
  | .bestEffort => "best-effort"
  | .strict => "strict"

/-- The name of the case, as logs show it. -/
def caseName : DeliveryPolicy → String
  | .bestEffort => "BestEffort"
  | .strict => "Strict"

/-- Every policy by its name. -/
def byName : List (String × DeliveryPolicy) :=
  [("best-effort", .bestEffort), ("strict", .strict)]

/-- Reads a policy in any case. -/
def parse (text : String) : Except String DeliveryPolicy :=
  match String.ofList (Text.lowerForAscii text.toList) with
  | "best-effort" => .ok .bestEffort
  | "strict" => .ok .strict
  | _ => .error ("Invalid delivery policy: " ++ text)

/-- The policy as JSON. -/
def toJson (p : DeliveryPolicy) : Json :=
  .text p.name

/-- The policy that a received value stands for. -/
def ofTree? : Json.Tree → Option DeliveryPolicy :=
  Json.Tree.variant? byName

end DeliveryPolicy

/-- The settings of issuing. -/
structure IssuingSettings where
  strategy : Strategy
  policy : DeliveryPolicy
  deriving DecidableEq, Repr

namespace IssuingSettings

/-- Issuing as it is by default. -/
def default : IssuingSettings :=
  ⟨.checkThenSet, .bestEffort⟩

/-- Issuing as the variables describe it. -/
def ofVariables (vars : Variables) : Except InvalidSetting IssuingSettings := do
  let strategy ← vars.valueOr "VERIFY_ISSUANCE_STRATEGY" default.strategy Strategy.parse
  let policy ← vars.valueOr "VERIFY_DELIVERY_POLICY" default.policy DeliveryPolicy.parse
  return ⟨strategy, policy⟩

/-- The settings as JSON. -/
def toJson (s : IssuingSettings) : Json :=
  .object [("strategy", s.strategy.toJson), ("delivery_policy", s.policy.toJson)]

/-- The settings that a received value stands for. -/
def ofTree? (t : Json.Tree) : Option IssuingSettings := do
  let r ← Json.Record.ofTree? ["strategy", "delivery_policy"] t
  let strategy ← r.withDefault "strategy" default.strategy Strategy.ofTree?
  let policy ← r.withDefault "delivery_policy" default.policy DeliveryPolicy.ofTree?
  return ⟨strategy, policy⟩

end IssuingSettings

end MailCode
