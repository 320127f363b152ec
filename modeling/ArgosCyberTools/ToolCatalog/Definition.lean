import ArgosCyberTools.Python.Effect
import ArgosCyberTools.Python.JsonSchema
import ArgosCyberTools.Python.Runtime

/-!
# Tool definitions

`tool_catalog`: the frozen dataclass of a tool, its reading from a loaded
document, and the shipped JSON schema every definition file must satisfy.
The dataclass declares the fields' types without checking them; they are
checked by the schema, so `fromDict` is read at the declared types.
-/

namespace ArgosCyberTools.ToolCatalog

open Python

structure RateLimit where
  callsPerMinute : Int
deriving DecidableEq

structure ToolDefinition where
  name : PyStr
  version : PyStr
  riskLevel : PyStr
  mode : List PyStr
  requiredScope : PyStr
  approvalRequired : Bool
  idempotent : Bool
  timeoutSeconds : Int
  targetAllowlistRequired : Bool
  rollbackSupported : Bool
  evidenceRequired : Bool
  sideEffectClass : PyStr
  rateLimit : RateLimit
deriving DecidableEq

/-- `DENIED_IN_P0`: never authorised, whatever else the caller presents. -/
def deniedInP0 : List PyStr := ["IRREVERSIBLE", "DESTRUCTIVE"]

/-! ## `ToolDefinition.from_dict` -/

/-- The entries of a `dict`. -/
abbrev Document := List (PyStr × Json)

/-- `data.get(key)`. -/
def fieldOf (data : Document) (key : PyStr) : Option Json :=
  PyDict.lookupIn key data

/-- `data[key]`, read at a declared type. -/
def readField {Value : Type} (decode : Json → Option Value)
    (data : Document) (key : PyStr) : Except BuiltinError Value := do
  let held ← orExit (fieldOf data key) (.keyError key)
  orExit (decode held) .typeError

def asStr : Json → Option PyStr
  | .str value => some value
  | _ => none

def asBool : Json → Option Bool
  | .bool value => some value
  | _ => none

/-- An integral float stands for the integer it equals. -/
def asInt : Json → Option Int
  | .int value => some value
  | .float held => if held.value.den = 1 then some held.value.num else none
  | _ => none

def asStrings : Json → Option (List PyStr)
  | .list items => items.mapM asStr
  | _ => none

def asDocument : Json → Option Document
  | .dict entries => some entries
  | _ => none

def ToolDefinition.fromDict (data : Document) :
    Except BuiltinError ToolDefinition := do
  let rateLimit ← readField asDocument data "rate_limit"
  return {
    name := ← readField asStr data "name"
    version := ← readField asStr data "version"
    riskLevel := ← readField asStr data "risk_level"
    mode := ← readField asStrings data "mode"
    requiredScope := ← readField asStr data "required_scope"
    approvalRequired := ← readField asBool data "approval_required"
    idempotent := ← readField asBool data "idempotent"
    timeoutSeconds := ← readField asInt data "timeout_seconds"
    targetAllowlistRequired := ← readField asBool data "target_allowlist_required"
    rollbackSupported := ← readField asBool data "rollback_supported"
    evidenceRequired := ← readField asBool data "evidence_required"
    sideEffectClass := ← readField asStr data "side_effect_class"
    rateLimit := { callsPerMinute := ← readField asInt rateLimit "calls_per_minute" } }

/-! ## `tool-definition.schema.json` -/

def isLowerAscii (point : CodePoint) : Bool :=
  decide (0x61 ≤ point.val ∧ point.val ≤ 0x7A)

def isAsciiDigit (point : CodePoint) : Bool :=
  decide (0x30 ≤ point.val ∧ point.val ≤ 0x39)

/-- `^[a-z][a-z0-9_]*$`. -/
def toolNamePattern : PyStr → Bool :=
  matchesToEnd fun text =>
    match text with
    | [] => false
    | first :: rest =>
        isLowerAscii first &&
          rest.all fun point =>
            isLowerAscii point || isAsciiDigit point || decide (point = 0x5F)

section Schema

variable [PyRuntime]

/-- `^\d+\.\d+\.\d+$`. -/
def versionPattern : PyStr → Bool :=
  matchesToEnd fun text =>
    let parts := text.splitOn 0x2E
    decide (parts.length = 3) &&
      parts.all fun part => !part.isEmpty && part.all PyRuntime.isDecimal

/-- The thirteen mandatory keys. -/
def requiredKeys : List PyStr :=
  ["name", "version", "risk_level", "mode", "required_scope",
    "approval_required", "idempotent", "timeout_seconds",
    "target_allowlist_required", "rollback_supported", "evidence_required",
    "side_effect_class", "rate_limit"]

def propertySchemas : List (PyStr × Schema) :=
  [("name", .allOf [.type .string, .pattern toolNamePattern]),
    ("version", .allOf [.type .string, .pattern versionPattern]),
    ("risk_level",
      .allOf [.type .string,
        .enum [.str "low", .str "medium", .str "high", .str "critical"]]),
    ("mode",
      .allOf [.type .array, .minItems 1,
        .items
          (.allOf [.type .string,
            .enum [.str "read-only", .str "dry-run", .str "execute"]])]),
    ("required_scope", .type .string),
    ("approval_required", .type .boolean),
    ("idempotent", .type .boolean),
    ("timeout_seconds", .allOf [.type .integer, .minimum 1, .maximum 300]),
    ("target_allowlist_required", .type .boolean),
    ("rollback_supported", .type .boolean),
    ("evidence_required", .type .boolean),
    ("side_effect_class",
      .allOf [.type .string,
        .enum [.str "READ_ONLY", .str "DRY_RUN", .str "REVERSIBLE_WRITE",
          .str "IRREVERSIBLE", .str "DESTRUCTIVE"]]),
    ("rate_limit",
      .allOf [.type .object, .onlyProperties ["calls_per_minute"],
        .required ["calls_per_minute"],
        .properties
          [("calls_per_minute",
            .allOf [.type .integer, .minimum 1, .maximum 1000])]])]

/-- High and critical tools need an approval and a target allowlist. -/
def highRiskRule : Schema :=
  .implies
    (.properties [("risk_level", .enum [.str "high", .str "critical"])])
    (.allOf [
      .properties
        [("approval_required", .const (.bool true)),
          ("target_allowlist_required", .const (.bool true))],
      .required ["approval_required", "target_allowlist_required"]])

/-- Tools that can execute must produce evidence. -/
def executeRule : Schema :=
  .implies
    (.properties [("mode", .contains (.const (.str "execute")))])
    (.allOf [
      .properties [("evidence_required", .const (.bool true))],
      .required ["evidence_required"]])

/-- The shipped schema. -/
def toolDefinitionSchema : Schema :=
  .allOf [.type .object, .onlyProperties requiredKeys,
    .required requiredKeys, .properties propertySchemas,
    .allOf [highRiskRule, executeRule]]

end Schema

end ArgosCyberTools.ToolCatalog
