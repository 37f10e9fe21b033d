import WebhookWise.ForwardDecisions
import WebhookWise.RuleMarks
import WebhookWise.SqlTable
import Mathlib.Data.List.Sort

/-!
# The suggestions of the noise centre

The noise centre reads the alerts of a window and the rules and silences of now, and suggests what
would send fewer notifications: forward only new alerts, silence an alert for a day, deliver it as a
digest, or tune a threshold upstream.  What the window says is an argument.
-/

namespace WebhookWise

namespace NoiseCenter

open RuleMatching SqlTable RuleMarks ImportanceCeilings

/-- The runtime of the noise centre, where `int` reads the decimal digits. -/
structure NoiseRuntime extends JudgeRuntime where
  digitValue_digitChar : ∀ digit < 10, digitValue (Nat.digitChar digit) = some digit

/-! ## Rows -/

structure ForwardRule extends RuleCriteria where
  id : Nat
  name : String
  enabled : Bool := true
  priority : Int := 0
  targetType : String
deriving DecidableEq

/-- `str(rule.match_duplicate or "all")`. -/
def ForwardRule.duplicateMode (rule : ForwardRule) : String :=
  if rule.matchDuplicate = "" then "all" else rule.matchDuplicate

structure InboundRule extends CapRule where
  id : Nat
  enabled : Bool := true
  priority : Int := 0

structure Silence where
  id : Nat
  selectors : SilenceSnapshot
  comment : String := ""
  createdBy : String := ""
  expiresAt : Option DateTime
  liftedAt : Option DateTime := none
deriving DecidableEq

/-- `_active_filter`. -/
def Silence.isActive (now : DateTime) (silence : Silence) : Bool :=
  silence.liftedAt.isNone && silence.expiresAt.all (now < ·)

/-! ## What the window says -/

/-- How often something fired.  Rates are rounded to tenths of a percent, and counted in them. -/
structure Volume where
  total : Nat
  duplicates : Nat
  duplicateRate : Nat

structure SourceVolume extends Volume where
  source : String

structure NoisyRule extends Volume where
  name : String
  firingWindows : Nat

/-- What `get_rule_audit` counts of one source and rule. -/
structure AuditGroup extends Volume where
  source : Option String
  ruleName : Option String
  flags : List String

/-- `str(row["…"] or "unknown")` of a column which is read as `(value or "unknown").strip()`. -/
def auditText (value : Option String) : String :=
  let text := strip (match value with
    | none => "unknown"
    | some text => if text = "" then "unknown" else text)
  if text = "" then "unknown" else text

/-- The metrics and the audit of one window, and the settings read with them. -/
structure Observed where
  summary : Volume
  sources : List SourceVolume
  noisyRules : List NoisyRule
  /-- `rule_keys`: the field which names the rule in the payloads of a source. -/
  ruleKeys : String → String → Option String
  alertRuleNames : List String
  auditRows : List AuditGroup
  syntheticSources : List String
  digestMinAlerts : Nat

/-! ## Suggestions -/

/-- The kind of a suggestion, with the parts of its scope that applying it reads. -/
inductive Remedy where
  | duplicateFilter (ruleId : Nat)
  | temporarySilence (source ruleName matchPayload : String) (durationHours : Nat)
  | tuneThreshold (source ruleName : String)
  | digest (ruleName : String) (windowMinutes : Nat)
deriving DecidableEq

namespace Remedy

def kind : Remedy → String
  | duplicateFilter .. => "duplicate_filter"
  | temporarySilence .. => "temporary_silence"
  | tuneThreshold .. => "tune_threshold"
  | digest .. => "digest"

/-- What the id of the suggestion is made of. -/
def parts : Remedy → List String
  | duplicateFilter ruleId => [toString ruleId]
  | temporarySilence source _ matchPayload _ => [source, matchPayload]
  | tuneThreshold source ruleName => [source, ruleName]
  | digest ruleName _ => [ruleName]

/-- `action_available`. -/
def isAvailable : Remedy → Bool
  | tuneThreshold .. => false
  | _ => true

end Remedy

def suggestionId (python : PythonRuntime) (kind : String) (parts : List String) : String :=
  let identity := "|".intercalate (kind :: parts.map fun part => python.lower (strip part))
  kind ++ ":" ++ String.ofList ((python.sha256Hexdigest identity).toList.take 16)

inductive Priority where
  | high
  | medium
deriving DecidableEq

def Priority.order : Priority → Nat
  | high => 0
  | medium => 1

structure Suggestion where
  id : String
  remedy : Remedy
  priority : Priority
  estimatedNotifications : Nat
deriving DecidableEq

def Suggestion.actionAvailable (suggestion : Suggestion) : Bool :=
  suggestion.remedy.isAvailable

/-- The order of the list. -/
def ListedBefore (first second : Suggestion) : Prop :=
  first.priority.order < second.priority.order ∨
    first.priority.order = second.priority.order ∧
      (second.estimatedNotifications < first.estimatedNotifications ∨
        second.estimatedNotifications = first.estimatedNotifications ∧ first.id ≤ second.id)

instance : DecidableRel ListedBefore := fun first second =>
  inferInstanceAs (Decidable (first.priority.order < second.priority.order ∨
    first.priority.order = second.priority.order ∧
      (second.estimatedNotifications < first.estimatedNotifications ∨
        second.estimatedNotifications = first.estimatedNotifications ∧ first.id ≤ second.id)))

section Listing

variable (runtime : NoiseRuntime)

def suggest (remedy : Remedy) (isHigh : Bool) (estimated : Nat) : Suggestion where
  id := suggestionId runtime.toPythonRuntime remedy.kind remedy.parts
  remedy := remedy
  priority := if isHigh then .high else .medium
  estimatedNotifications := estimated

def systemEventTypes : List String :=
  ["incident_created", "incident_resolved", "sla_breached", "deep_analysis", "ai_error",
    "ai_degraded", "outbox_exhausted", "forward_exhausted"]

def matchesOnlySystemEvents (matchEventType : String) : Bool :=
  let eventTypes := splitCsvLower runtime.toPythonRuntime matchEventType
  !eventTypes.isEmpty && eventTypes.all fun eventType => systemEventTypes.contains eventType

def isTunableForwardRule (rule : ForwardRule) : Bool :=
  ! ["feishu_relay", "relay"].contains (runtime.lower (strip rule.targetType)) &&
    !"shadow:".toList.isPrefixOf (runtime.lower (strip rule.name)).toList &&
    !matchesOnlySystemEvents runtime rule.matchEventType

def sourceForRule (rule : ForwardRule) (observed : Observed) : Volume :=
  let values := ((splitOnCommas (strip rule.matchSource)).map strip).filter (· ≠ "")
  let found :=
    match values with
    | [value] =>
        if value.toList.head? = some '!' then none
        else
          observed.sources.find? fun (row : SourceVolume) =>
            runtime.lower row.source = runtime.lower value
    | _ => none
  (found.map SourceVolume.toVolume).getD observed.summary

/-- The turn of the first loop of `_build_suggestions`. -/
def duplicateSuggestion (observed : Observed) (rule : ForwardRule) : Option Suggestion :=
  let stats := sourceForRule runtime rule observed
  if rule.duplicateMode ≠ "all" || !isTunableForwardRule runtime rule || stats.total < 10 ||
      stats.duplicates < 5 || stats.duplicateRate < 350 then none
  else
    some (suggest runtime (.duplicateFilter rule.id) (20 ≤ stats.duplicates) stats.duplicates)

/-- The pair by which `active_signatures` knows a silence. -/
def signature (matchSource matchPayload : String) : String × String :=
  (runtime.lower matchSource, runtime.lower matchPayload)

/-- `match_payload` of an audit row. -/
def auditPayload (observed : Observed) (row : AuditGroup) : String :=
  match observed.ruleKeys (auditText row.source) (auditText row.ruleName) with
  | none => ""
  | some key => if key = "" then "" else key ++ "=" ++ auditText row.ruleName

/-- The first branch of the second loop of `_build_suggestions`. -/
def silenceSuggestion (observed : Observed) (signatures : List (String × String))
    (row : AuditGroup) : Option Suggestion :=
  let source := auditText row.source
  let ruleName := auditText row.ruleName
  let matchPayload := auditPayload observed row
  if 10 ≤ row.total && 8 ≤ row.duplicates && 900 ≤ row.duplicateRate && matchPayload ≠ "" &&
      !ruleName.toList.contains ',' && !ruleName.toList.contains '=' &&
      !signatures.contains (signature runtime source matchPayload) then
    some (suggest runtime (.temporarySilence source ruleName matchPayload 24)
      (25 ≤ row.duplicates) row.duplicates)
  else none

/-- The second branch of the loop. -/
def tuneSuggestion (row : AuditGroup) : Option Suggestion :=
  if row.flags.contains "flapping" && 7 ≤ row.total then
    some (suggest runtime (.tuneThreshold (auditText row.source) (auditText row.ruleName)) false
      row.duplicates)
  else none

/-- `_digest_suggestions` of one noisy rule. -/
def digestSuggestion (observed : Observed) (covered : List String) (row : NoisyRule) :
    Option Suggestion :=
  let minimum := max 1 observed.digestMinAlerts
  let isCovered := covered.any (csvValueMatches runtime.toMatchRuntime · row.name)
  if !observed.alertRuleNames.contains row.name || row.total < minimum ||
      row.duplicateRate < 400 || isCovered then
    none
  else
    some (suggest runtime (.digest row.name 60) (minimum * 2 ≤ row.total)
      (row.total - row.firingWindows))

def isSyntheticSource (observed : Observed) (source : String) : Bool :=
  observed.syntheticSources.contains (runtime.lower (strip source))

end Listing

/-! ## The state -/

/-- `before_state` and `after_state` of an action. -/
inductive Change where
  | duplicateFilter (before after : String)
  | temporarySilence (silenceId : Nat) (matchSource matchPayload : String) (durationHours : Nat)
  | digest (inboundRuleId : Nat) (matchRuleName : String) (windowMinutes : Nat)
deriving DecidableEq

inductive ActionStatus where
  | applied
  | undone
deriving DecidableEq

/-- A row of `noise_reduction_actions`. -/
structure NoiseAction where
  id : Nat
  suggestionId : String
  change : Change
  resourceId : Nat
  estimatedNotifications : Nat
  status : ActionStatus
  actor : String
  createdAt : DateTime
  undoneAt : Option DateTime := none
deriving DecidableEq

/-- The tables that the noise centre reads and writes, and the clock. -/
structure NoiseState where
  now : DateTime
  forwardRules : Table ForwardRule.id
  inboundRules : Table InboundRule.id
  silences : Table Silence.id
  actions : Table NoiseAction.id

namespace NoiseState

variable (runtime : NoiseRuntime) (state : NoiseState)

/-- `list_silences(active_only=True)`. -/
def activeSilences : List Silence :=
  state.silences.rows.filter fun silence => silence.isActive state.now

def activeSignatures : List (String × String) :=
  state.activeSilences.map fun silence =>
    signature runtime silence.selectors.matchSource silence.selectors.matchPayload

def digestedRuleNames : List String :=
  (state.inboundRules.rows.filter fun rule => rule.enabled && rule.action = "digest").map
    fun rule => rule.matchRuleName

/-- The rules of the first loop of `_build_suggestions`. -/
def enabledForwardRules : List ForwardRule :=
  (state.forwardRules.rows.filter ForwardRule.enabled).insertionSort fun first second =>
    second.priority ≤ first.priority

/-- The second loop of `_build_suggestions`. -/
def auditSuggestions (observed : Observed) : List Suggestion :=
  (observed.auditRows.filter fun row =>
    !isSyntheticSource runtime observed (auditText row.source)).flatMap fun row =>
      (silenceSuggestion runtime observed (state.activeSignatures runtime) row).toList ++
        (tuneSuggestion runtime row).toList

def digestSuggestions (observed : Observed) : List Suggestion :=
  observed.noisyRules.filterMap (digestSuggestion runtime observed state.digestedRuleNames)

def buildSuggestions (observed : Observed) : List Suggestion :=
  ((state.enabledForwardRules.filterMap (duplicateSuggestion runtime observed) ++
    state.auditSuggestions runtime observed ++
      state.digestSuggestions runtime observed).insertionSort ListedBefore).take 20

end NoiseState

end NoiseCenter

end WebhookWise
