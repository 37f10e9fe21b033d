import WebhookWise.EmbeddedJson
import WebhookWise.PythonValues
import Mathlib.Data.List.DropRight

/-!
# The report of a deep analysis

An engine answers with a mapping, with JSON in a fence or in a string, with prose around JSON, or
with plain text.  `normalize_deep_analysis_report` collects every mapping it can find in the answer,
merges them, and picks the fields of the report under their various names.

The confidence, a float that nothing else reads, is left out.
-/

namespace WebhookWise

namespace DeepReports

open EmbeddedJson

/-- What the normalizer calls. -/
structure ReportEnv extends PythonRuntime where
  /-- `loads`; `none` for `JSONDecodeError`. -/
  loads : String → Option Json
  /-- `repair_json(…, return_objects=True)`; `none` for an exception that is caught. -/
  repairJson : String → Option Json
  /-- `dumps(value, indent=False)`, or `str(value)` where that fails. -/
  dumps : Json → String

/-! ## Keys -/

def wrapperReportKeys : List String :=
  ["analysis_result", "normalized_report", "result", "report", "data", "payload", "response",
    "output", "content", "message", "text", "details", "detail", "_gateway_text"]

def stringReportKeys : List String :=
  ["summary", "root_cause", "analysis", "impact", "recommendations", "evidence", "next_checks",
    "failure_reason", "error"]

def textKeys : List String :=
  ["answer", "description", "summary", "conclusion", "finding", "observation", "analysis",
    "reason", "root_cause", "impact", "impact_scope", "scope", "action", "recommendation",
    "solution", "message", "content", "text", "title", "name", "status"]

def summaryKeys : List String :=
  ["summary", "conclusion", "diagnosis_summary", "overview", "title"]

def rootCauseKeys : List String :=
  ["root_cause", "rootCause", "cause", "reason", "failure_reason", "analysis"]

def impactKeys : List String :=
  ["impact_scope", "impact", "business_impact", "scope", "blast_radius"]

def recommendationKeys : List String :=
  ["recommendations", "recommendation", "actions", "action_items", "next_steps", "solution",
    "solutions", "remediation", "repair_suggestions"]

def evidenceKeys : List String :=
  ["evidence", "supports", "supporting_evidence", "observations", "signals", "facts"]

def nextCheckKeys : List String :=
  ["next_checks", "checks", "verification_steps", "diagnostic_steps", "runbooks"]

def failureKeys : List String := ["analysis_failed", "failed", "is_failed"]

def statusKeys : List String := ["status", "state"]

def errorKeys : List String := ["error", "failure_reason", "exception", "message"]

def rawTextKeys : List String :=
  ["_gateway_text", "raw_text", "content", "text", "message", "root_cause", "summary"]

def actionKeys : List String := ["action", "answer", "recommendation", "solution", "step"]

def reasonKeys : List String := ["reason", "why"]

def identitySourceKeys : List String :=
  ["alert_identity", "identity", "alertIdentity", "_alert_identity"]

def identityKeys : PyDict (List String) :=
  [("source", ["source", "Source"]),
    ("project", ["project", "Project", "ProjectName"]),
    ("region", ["region", "Region"]),
    ("namespace", ["namespace", "product_namespace", "Namespace"]),
    ("service", ["service", "Service", "Product", "product"]),
    ("resource_name", ["resource_name", "resourceName", "ResourceName", "Name", "InstanceName"]),
    ("resource_id", ["resource_id", "resourceId", "ResourceId", "Id", "InstanceId"]),
    ("rule_name", ["rule_name", "ruleName", "RuleName", "alert_name", "AlertName"]),
    ("rule_id", ["rule_id", "ruleId", "RuleId"]),
    ("metric_name", ["metric_name", "metricName", "MetricName", "Name"]),
    ("severity", ["severity", "Severity", "Level", "level"]),
    ("status", ["status", "Status", "state"])]

/-! ## Texts -/

def backticks : List Char := ['\x60', '\x60', '\x60']

/-- `[a-z0-9_-]` with `IGNORECASE`, which takes four more characters for letters. -/
def isFenceWord (character : Char) : Bool :=
  character.isAlphanum || ['_', '-', 'ı', 'İ', 'ſ', '\u212A'].contains character

/-- The first substitution of `_strip_markdown_json_fence`. -/
def dropFenceOpening (text : List Char) : List Char :=
  if backticks.isPrefixOf text then
    ((text.drop 3).dropWhile isFenceWord).dropWhile isPythonSpace
  else text

/-- The second substitution; the text has no white space at its end, so `$` is the end. -/
def dropFenceClosing (text : List Char) : List Char :=
  if backticks.isSuffixOf text then (text.take (text.length - 3)).rdropWhile isPythonSpace
  else text

/-- `_strip_markdown_json_fence`; it is not unfolded on the way to other definitions. -/
@[irreducible]
def stripMarkdownJsonFence (text : String) : String :=
  strip (String.ofList (dropFenceClosing (dropFenceOpening (strip text).toList)))

def looksLikeJsonContainer (text : String) : Bool :=
  (stripMarkdownJsonFence text).toList.head?.any (isOpening true)

/-- `_sanitize_loose_json`: a backslash that begins no escape is doubled. -/
def sanitizeLooseJson : List Char → List Char
  | [] => []
  | character :: rest =>
      if character = '\\' && !rest.head?.any ['"', '\\', '/', 'b', 'f', 'n', 'r', 't', 'u'].contains
      then '\\' :: '\\' :: sanitizeLooseJson rest
      else character :: sanitizeLooseJson rest

/-- `_JSON_ESCAPE_MAP`. -/
def jsonEscape : Char → Option Char
  | '\\' => some '\\'
  | '"' => some '"'
  | '/' => some '/'
  | 'n' => some '\n'
  | 't' => some '\t'
  | 'r' => some '\r'
  | 'b' => some '\x08'
  | 'f' => some '\x0c'
  | _ => none

/-- The substitution of `_decode_escaped_json_text`. -/
def decodeEscapes : List Char → List Char
  | '\\' :: character :: rest =>
      ((jsonEscape character).elim ['\\', character] fun decoded => [decoded]) ++
        decodeEscapes rest
  | character :: rest => character :: decodeEscapes rest
  | [] => []

def decodeEscapedJsonText (text : String) : String :=
  let stripped := strip text
  if [['\\', '"'], ['\\', 'n'], ['\\', 't']].any fun token => occursIn token stripped.toList then
    strip (String.ofList (decodeEscapes stripped.toList))
  else ""

def uniqueTexts (values : List String) : List String :=
  values.foldl
    (fun texts value =>
      let text := strip value
      if text = "" ∨ text ∈ texts then texts else texts ++ [text]) []

/-- `" ".join(text.split()).strip()`. -/
def singleLine (text : String) : String :=
  strip (" ".intercalate
    (((text.toList.splitOnP isPythonSpace).filter fun word => word ≠ []).map String.ofList))

def uniqueItems (values : List String) : List String :=
  uniqueTexts (values.map singleLine)

def truncate (text : String) (maxLength : Nat) : String :=
  if text.length ≤ maxLength then text else truncated text (maxLength - 3) ++ "..."

def isEmpty : Json → Bool
  | .null => true
  | .str text => text = ""
  | .list items => items.isEmpty
  | .dict entries => entries.isEmpty
  | _ => false

/-- `isinstance(value, Mapping | list)`. -/
def isStructured : Json → Bool
  | .list _ => true
  | .dict _ => true
  | _ => false

section Reading

variable (env : ReportEnv)

/-! ## Text that may be JSON -/

def repairJsonLikeText (text : String) : Option Json :=
  if looksLikeJsonContainer text then (env.repairJson text).filter isStructured else none

def extractTruncatedJson (text : String) : Option Json :=
  let fragment := text.toList.dropWhile fun character => !isOpening true character
  if fragment.length < 20 then none else repairJsonLikeText env (String.ofList fragment)

/-- `extract_balanced_json_text(text, allow_arrays=True) or ""`. -/
def jsonBlock (text : String) : String :=
  ((extractBalancedJsonText (fun span => (env.loads (String.ofList span)).isSome) true
    text.toList).map String.ofList).getD ""

/-- The candidates of `_parse_json_like_text`. -/
def candidateTexts (stripped block : String) : List String :=
  let sanitized (text : String) := String.ofList (sanitizeLooseJson text.toList)
  let decodedStripped := decodeEscapedJsonText stripped
  let decodedBlock := decodeEscapedJsonText block
  uniqueTexts
    [stripped, sanitized stripped, decodedStripped, sanitized decodedStripped,
      block, sanitized block, decodedBlock, sanitized decodedBlock]

/-- `_parse_json_like_text`, which may go so many levels deep. -/
def parseJsonLikeText : Nat → String → Option Json
  | 0, _ => none
  | levels + 1, value =>
      let stripped := stripMarkdownJsonFence value
      if stripped = "" then none
      else
        let block := jsonBlock env stripped
        let parsed := (candidateTexts stripped block).findSome? fun candidate =>
          match (env.loads candidate).or (repairJsonLikeText env candidate) with
          | some (.str text) => some ((parseJsonLikeText levels text).getD (.str text))
          | some (.list items) => some (.list items)
          | some (.dict entries) => some (.dict entries)
          | _ => none
        parsed.or
          (if block = "" then (extractTruncatedJson env stripped).filter Json.truthy else none)

def parseLevels : Nat := 4

/-- Such a call. -/
def parseJsonText (text : String) : Option Json :=
  parseJsonLikeText env parseLevels text

def parseJsonContainerText (text : String) : Option Json :=
  if looksLikeJsonContainer text then parseJsonText env text else none

/-! ## Picking -/

def keyId (key : String) : String :=
  String.ofList ((env.lower key).toList.filter fun character =>
    character.isLower || character.isDigit)

/-- The dict that `_pick` makes of a mapping. -/
def indexed (entries : JsonObject) : JsonObject :=
  entries.foldl (fun index entry => index.set (keyId env entry.1) entry.2) []

def pick (mapping : Json) (keys : List String) : Option Json :=
  match mapping with
  | .dict entries =>
      keys.findSome? fun key =>
        ((indexed env entries).get? (keyId env key)).filter fun value => !isEmpty value
  | _ => none

/-! ## Candidates -/

/-- `_collect_candidate_mappings`, which may go so many levels deep. -/
def collectCandidateMappings : Nat → Json → List JsonObject
  | 0, _ => []
  | levels + 1, .dict current =>
      let wrapped := wrapperReportKeys.flatMap fun key =>
        ((pick env (.dict current) [key]).map (collectCandidateMappings levels)).getD []
      let written := stringReportKeys.flatMap fun key =>
        match pick env (.dict current) [key] with
        | some (.str nested) =>
            ((parseJsonText env nested).map (collectCandidateMappings levels)).getD []
        | _ => []
      current :: (wrapped ++ written)
  | levels + 1, .list items => items.flatMap (collectCandidateMappings levels)
  | levels + 1, .str text =>
      ((parseJsonText env text).map (collectCandidateMappings levels)).getD []
  | _ + 1, _ => []

def collectLevels : Nat := 6

def isMoreStructured (value existing : Json) : Bool :=
  isStructured value && !isStructured existing

/-- One turn of the inner loop of `_merge_candidates`. -/
def mergeEntry (merged : JsonObject) (entry : String × Json) : JsonObject :=
  let existing := (merged.get? entry.1).getD .null
  if isEmpty entry.2 then merged
  else if isEmpty existing || isMoreStructured entry.2 existing then merged.set entry.1 entry.2
  else merged

def mergeCandidates (candidates : List JsonObject) : JsonObject :=
  candidates.foldl (fun merged candidate => candidate.foldl mergeEntry merged) []

/-! ## Displaying -/

/-- The two parts of a recommendation, where both are given. -/
def withReason (action reason : String) : Option String :=
  if action = "" ∨ reason = "" then none else some (action ++ "（" ++ reason ++ "）")

/-- `_display_value`, which may go so many levels deep. -/
def displayValue : Nat → Json → String
  | 0, _ => ""
  | _ + 1, .null => ""
  | levels + 1, .str text =>
      match parseJsonContainerText env text with
      | some parsed => displayValue levels parsed
      | none => strip text
  | _ + 1, .bool value => if value then "true" else "false"
  | _ + 1, .int value => toString value
  | _ + 1, .float printed => printed
  | levels + 1, .list items =>
      "\n".intercalate ((items.map (displayValue levels)).filter fun text => text ≠ "")
  | levels + 1, .dict entries =>
      let shown (keys : List String) :=
        displayValue levels ((pick env (.dict entries) keys).getD .null)
      (withReason (shown actionKeys) (shown reasonKeys)).getD
        (((textKeys.map fun key => shown [key]).find? fun text => text ≠ "").getD
          (env.dumps (.dict entries)))

def displayLevels : Nat := 5

/-- `_display_value(_pick(mapping, *keys))`. -/
def displayPicked (mapping : Json) (keys : List String) : String :=
  displayValue env displayLevels ((pick env mapping keys).getD .null)

def firstText (mapping : Json) (keys : List String) : String :=
  ((keys.map fun key => displayPicked env mapping [key]).find? fun text => text ≠ "").getD ""

inductive ListStyle where
  | recommendation
  | evidence
deriving DecidableEq

/-- The text of an item of `_list_texts`. -/
def itemText (style : ListStyle) (item : Json) : String :=
  match style, item with
  | .recommendation, .dict entries =>
      let action := displayPicked env (.dict entries) actionKeys
      let reason := displayPicked env (.dict entries) reasonKeys
      (withReason action reason).getD
        (if action = "" then displayValue env displayLevels item else action)
  | _, _ => displayValue env displayLevels item

def listTexts (value : Json) (style : ListStyle) : List String :=
  let read :=
    match value with
    | .str text => (parseJsonContainerText env text).getD value
    | _ => value
  let items :=
    match read with
    | .null => []
    | .str text => if text = "" then [] else [read]
    | .list items => items
    | _ => [read]
  (items.map (itemText env style)).filter fun text => text ≠ ""

def shownList (mapping : Json) (keys : List String) (style : ListStyle) : List String :=
  uniqueItems (listTexts env ((pick env mapping keys).getD .null) style)

/-! ## The report -/

def scalarTextOrEmpty (value : Option Json) : String :=
  match value with
  | none | some .null | some (.list _) | some (.dict _) => ""
  | some scalar =>
      strip (" ".intercalate
        ((splitlines (scalar.pyStr env.toPythonRuntime).toList).map String.ofList))

def firstMappingFromList (value : Option Json) : JsonObject :=
  match value with
  | some (.list items) =>
      (items.findSome? fun item => match item with
        | .dict entries => some entries
        | _ => none).getD []
  | _ => []

def extractIdentity (data : JsonObject) : PyDict String :=
  let identity :=
    match pick env (.dict data) identitySourceKeys with
    | some (.dict entries) => entries
    | _ => []
  let resource := firstMappingFromList (pick env (.dict data) ["Resources", "resources"])
  let metric := firstMappingFromList (resource.get? "Metrics")
  identityKeys.filterMap fun target =>
    let raw :=
      (((pick env (.dict identity) target.2).or (pick env (.dict data) target.2)).or
        (pick env (.dict resource) target.2)).or
        (if target.1 = "metric_name" then pick env (.dict metric) target.2 else none)
    let text := scalarTextOrEmpty env raw
    if text = "" then none else some (target.1, text)

/-- `_first_raw_text`, which may go so many levels deep. -/
def firstRawText : Nat → Json → String
  | _ + 1, .str text => stripMarkdownJsonFence text
  | levels + 1, .dict entries =>
      ((rawTextKeys.map fun key =>
        firstRawText levels ((pick env (.dict entries) [key]).getD .null)).find? fun text =>
          text ≠ "").getD ""
  | levels + 1, .list items =>
      ((items.map (firstRawText levels)).find? fun text => text ≠ "").getD ""
  | _, _ => ""

def rawTextLevels : Nat := 5

def sourceFormat : Json → String
  | .null => "empty"
  | .dict _ => "object"
  | .list _ => "array"
  | .bool _ => "bool"
  | .int _ => "int"
  | .float _ => "float"
  | .str text =>
      if text = "" then "empty"
      else
        match parseJsonText env (stripMarkdownJsonFence text) with
        | some _ => "json_text"
        | none => "plain_text"

def boolish : Option Json → Bool
  | some (.bool value) => value
  | some (.int value) => value ≠ 0
  | some (.float printed) => Json.truthy (.float printed)
  | some (.str text) =>
      ["1", "true", "yes", "y", "failed", "error"].contains (env.lower (strip text))
  | _ => false

def isFailedStatus (value : Option Json) : Bool :=
  let text := ((value.filter Json.truthy).map (Json.pyStr env.toPythonRuntime)).getD ""
  ["failed", "failure", "error", "timeout", "degraded"].contains (env.lower (strip text))

structure DeepAnalysisReport where
  summary : String := ""
  rootCause : String := ""
  impact : String := ""
  recommendations : List String := []
  evidence : List String := []
  nextChecks : List String := []
  alertIdentity : PyDict String := []
  analysisFailed : Bool := false
  failureReason : String := ""
  primaryText : String := ""
  sourceFormat : String := "empty"
  rawText : String := ""

/-- The candidates of a result: a string is parsed without its fence. -/
def reportCandidates (value : Json) : List JsonObject :=
  match value with
  | .str text =>
      ((parseJsonText env (stripMarkdownJsonFence text)).map
        (collectCandidateMappings env (collectLevels - 1))).getD []
  | _ => collectCandidateMappings env collectLevels value

def normalizeDeepAnalysisReport (value : Json) : DeepAnalysisReport :=
  let rawText := firstRawText env rawTextLevels value
  let entries := mergeCandidates (reportCandidates env value)
  let data := Json.dict entries
  if entries = [] ∧ rawText ≠ "" then
    { summary := singleLine rawText
      primaryText := singleLine rawText
      sourceFormat := "plain_text"
      rawText := rawText }
  else
    let summary := firstText env data summaryKeys
    let rootCause := displayPicked env data rootCauseKeys
    let impact := displayPicked env data impactKeys
    let failureReason := displayPicked env data errorKeys
    let primaryText :=
      ([summary, rootCause, impact, failureReason, rawText].find? fun text => text ≠ "").getD ""
    { summary := if summary = "" then truncate (singleLine primaryText) 260 else summary
      rootCause := rootCause
      impact := impact
      recommendations := shownList env data recommendationKeys .recommendation
      evidence := shownList env data evidenceKeys .evidence
      nextChecks := shownList env data nextCheckKeys .evidence
      alertIdentity := extractIdentity env entries
      analysisFailed :=
        boolish env (pick env data failureKeys) || isFailedStatus env (pick env data statusKeys)
      failureReason := failureReason
      primaryText := primaryText
      sourceFormat := sourceFormat env value
      rawText := rawText }

end Reading

end DeepReports

end WebhookWise
