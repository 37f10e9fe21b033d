import WebhookWise.IdentityKeys
import WebhookWise.RuleMatching
import WebhookWise.WebhookBoundary

/-!
# The built-in adapters

A detector picks an adapter by a few keys of the payload.  Its normalizer writes some fields into a
copy of it and adds the identity of the alert.  Any field of the payload may have any JSON type;
most lookups test it, some do not.
-/

namespace WebhookWise

namespace EcosystemAdapters

open RuleMatching TextRewriting WebhookBoundary

/-- Python as the adapters use it: with the tables of `re`, and with `float(value)` of an
`int`.  The objects that `json.loads` returns have every key once. -/
structure AdapterRuntime extends PythonRuntime, Pseudonymizer.CharacterTables where
  floatOfInt : FloatOfInt
  loads_distinct : ∀ text entries, jsonLoads text = some (.dict entries) →
    (entries.map Prod.fst).Nodup

/-! ## Lookups -/

/-- `data.get(key)`. -/
def getOrNone (data : JsonObject) (key : String) : Json :=
  (PyDict.get? data key).getD .null

/-- `key in data`. -/
def hasKey (data : JsonObject) (key : String) : Bool :=
  (PyDict.get? data key).isSome

/-- `value.get(key, default)`, which only an object has. -/
def getOf (value : Json) (key : String) (default : Json) : Except Raised Json :=
  match value with
  | .dict entries => .ok ((PyDict.get? entries key).getD default)
  | _ => .error .attributeError

/-- `value if isinstance(value, Mapping) else {}`. -/
def mappingOrEmpty : Json → JsonObject
  | .dict entries => entries
  | _ => []

section Picking

variable (runtime : AdapterRuntime)

def pickFirst (values : List Json) : Json :=
  (values.find? fun value =>
    ! isNone value && strip (value.pyStr runtime.toPythonRuntime) ≠ "").getD .null

/-- `pick_case_insensitive`, and so `_pick_label`. -/
def pickLabel (labels : JsonObject) (keys : List String) : Json :=
  let lowered := labels.foldl
    (fun lowered entry => PyDict.set lowered (runtime.lower entry.1) entry.2) []
  pickFirst runtime (keys.map fun key => getOrNone lowered (runtime.lower key))

/-- `str(value) if value else None`. -/
def textIfTruthy (value : Json) : Json :=
  if value.truthy then .str (value.pyStr runtime.toPythonRuntime) else .null

/-- `str(value) if value is not None else None`. -/
def textUnlessNone (value : Json) : Json :=
  if isNone value then .null else .str (value.pyStr runtime.toPythonRuntime)

/-- `first or second`. -/
def orElse (first second : Json) : Json :=
  if first.truthy then first else second

def extractTag (tags : Json) (key : String) : Json :=
  let tagPrefix := (key ++ ":").toList
  match tags with
  | .list items =>
      (items.findSome? fun item =>
        match item with
        | .str text =>
            if tagPrefix.isPrefixOf text.toList then
              some (.str (strip (String.ofList (text.toList.drop tagPrefix.length))))
            else none
        | _ => none).getD .null
  | _ => .null

/-! ## Levels -/

def levelHigh : List String :=
  ["critical", "error", "fatal", "p0", "sev1", "severe", "high", "urgent", "alerting", "firing",
    "triggered", "严重", "紧急"]

def levelMedium : List String :=
  ["warning", "warn", "p1", "medium", "moderate", "acknowledged", "警告"]

def levelLow : List String :=
  ["info", "ok", "resolved", "normal", "low", "notice", "恢复", "已恢复", "正常"]

/-- `_LEVEL_MATCHERS`: the labels with their keywords. -/
def levelMatchers : List (String × List String) :=
  [("critical", levelHigh), ("warning", levelMedium), ("info", levelLow)]

def isAscii (text : String) : Bool :=
  text.toList.all fun character => character.toNat < 128

def keywordLeads (keywords : List String) : List Char → List Char → Bool
  | _, [] => false
  | before, next :: after =>
      (Regex.isBoundary runtime.isWord ⟨before, next :: after⟩ &&
        keywords.any fun keyword => keyword.toList.isPrefixOf (next :: after)) ||
      keywordLeads keywords (next :: before) after

def normalizeLevel (value : Json) : String :=
  let text := runtime.lower
    (strip (if value.truthy then value.pyStr runtime.toPythonRuntime else ""))
  match levelMatchers.find? fun matcher => matcher.2.contains text with
  | some matcher => matcher.1
  | none =>
      -- ASCII keywords match at the start of a word, the others anywhere.
      match levelMatchers.find? fun matcher =>
          keywordLeads runtime (matcher.2.filter isAscii) [] text.toList ||
            (matcher.2.filter fun keyword => ! isAscii keyword).any fun keyword =>
              occursIn keyword.toList text.toList with
      | some matcher => matcher.1
      | none => "warning"

/-! ## Identities -/

/-- `AlertIdentity`; `None` is the JSON null. -/
structure AlertIdentity where
  source : String
  name : Json := .null
  resource : Json := .null
  service : Json := .null
  fingerprint : Json := .null
  severity : Json := .null

def AlertIdentity.toPayload (identity : AlertIdentity) : JsonObject :=
  [("source", .str identity.source), ("name", identity.name), ("resource", identity.resource),
    ("service", identity.service), ("fingerprint", identity.fingerprint),
    ("severity", identity.severity)].filterMap fun field =>
      (IdentityKeys.normalizeIdentityValue runtime.toPythonRuntime field.2).map fun text => (field.1, .str text)

def withAlertIdentity (data : JsonObject) (identity : AlertIdentity) : Except Raised JsonObject :=
  webhookDataFromMapping runtime.floatOfInt false
    (PyDict.set data "_alert_identity" (.dict (identity.toPayload runtime)))

/-- What a normalizer makes of a payload: the fields which it writes into the copy, in order,
and the identity.  All normalizers end with `with_alert_identity(res, identity)`. -/
structure Normalization where
  written : JsonObject
  identity : AlertIdentity

/-- `[{"InstanceId": value}]` -/
def instanceResources (value : Json) : Json :=
  .list [.dict [("InstanceId", value)]]

/-! ## `volcengine` -/

def safeResourceList : Json → List JsonObject
  | .list items => items.filterMap fun item =>
      match item with
      | .dict entries => some entries
      | _ => none
  | _ => []

def importantDimensions : List String :=
  ["Node", "ResourceID", "Instance", "InstanceId", "Host", "Pod", "Container"]

/-- `name in important`: a list or an object has no hash. -/
def isImportant : Json → Except Raised Bool
  | .str name => .ok (importantDimensions.contains name)
  | .list _ | .dict _ => .error .typeError
  | _ => .ok false

/-- The loop of `_pick_first_resource`. -/
def pickDimension : List Json → Except Raised Json
  | [] => .ok .null
  | .dict item :: rest => do
      if (← isImportant (getOrNone item "Name")) && (getOrNone item "Value").truthy then
        return .str ((getOrNone item "Value").pyStr runtime.toPythonRuntime)
      else pickDimension rest
  | _ :: rest => pickDimension rest

def resourceId (resource : JsonObject) : Json :=
  pickFirst runtime (["InstanceId", "ResourceID", "Id", "id"].map (getOrNone resource))

def pickFirstResource : List JsonObject → Except Raised Json
  | [] => .ok .null
  | first :: _ =>
      if (resourceId runtime first).truthy then
        .ok (.str ((resourceId runtime first).pyStr runtime.toPythonRuntime))
      else
        match getOrNone first "Dimensions" with
        | .list dimensions => pickDimension runtime dimensions
        | _ => .ok .null

def detectVolc (data : JsonObject) : Bool :=
  "VCM_".toList.isPrefixOf (data.strAt runtime.toPythonRuntime "Namespace" "").toList &&
    data.truthyAt "Resources"

def normVolc (data : JsonObject) : Except Raised Normalization := do
  let resource ← pickFirstResource runtime (safeResourceList (getOrNone data "Resources"))
  let name := pickFirst runtime
    (["RuleName", "AlertName", "MetricName", "Type"].map (getOrNone data))
  let fingerprint := pickFirst runtime (["alert_id", "AlertId", "ID"].map (getOrNone data))
  return {
    written := []
    identity := {
      source := "volcengine"
      name := textIfTruthy runtime name
      resource := resource
      fingerprint := textIfTruthy runtime fingerprint
      severity := .str (normalizeLevel runtime
        (orElse (getOrNone data "Level") (getOrNone data "Severity"))) } }

/-! ## `grafana` -/

def detectGrafana (data : JsonObject) : Bool :=
  let legacyPayload := ["ruleName", "dashboardId"].any (hasKey data) &&
    ["state", "status"].any (hasKey data)
  let unifiedPayload :=
    (match getOrNone data "alerts" with
      | .list alerts => ! alerts.isEmpty
      | _ => false) &&
    (hasKey data "orgId" ||
      (hasKey data "receiver" && hasKey data "title" && hasKey data "message"))
  legacyPayload || unifiedPayload

def grafanaFirstAlert (data : JsonObject) : JsonObject :=
  match getOrNone data "alerts" with
  | .list (first :: _) => mappingOrEmpty first
  | _ => []

/-- The `rule` of `_norm_grafana`. -/
def grafanaRule (data : JsonObject) : Json :=
  pickFirst runtime
    [pickLabel runtime (mappingOrEmpty (getOrNone (grafanaFirstAlert data) "labels"))
        ["alertname", "alert_name"],
      pickLabel runtime (mappingOrEmpty (getOrNone data "commonLabels"))
        ["alertname", "alert_name"],
      getOrNone data "ruleName", getOrNone data "title", .str "grafana_alert"]

def normGrafana (data : JsonObject) : Except Raised Normalization :=
  let firstAlert := grafanaFirstAlert data
  let labels := mappingOrEmpty (getOrNone firstAlert "labels")
  let commonLabels := mappingOrEmpty (getOrNone data "commonLabels")
  let annotations := mappingOrEmpty (getOrNone firstAlert "annotations")
  let commonAnnotations := mappingOrEmpty (getOrNone data "commonAnnotations")
  let rule := grafanaRule runtime data
  let state := pickFirst runtime
    [getOrNone firstAlert "status", getOrNone data "state", getOrNone data "status"]
  let resource := pickFirst runtime
    [pickLabel runtime labels ["instance", "pod", "host", "container", "node"],
      getOrNone data "ruleId", getOrNone data "panelId", getOrNone data "dashboardId"]
  let service := pickFirst runtime
    [pickLabel runtime labels ["service", "app", "job"],
      pickLabel runtime commonLabels ["service", "app", "job"]]
  let fingerprint := pickFirst runtime
    [getOrNone firstAlert "fingerprint", getOrNone data "ruleId"]
  let summary := pickFirst runtime
    [pickLabel runtime annotations ["summary", "description"],
      pickLabel runtime commonAnnotations ["summary", "description"],
      getOrNone data "message", getOrNone data "title"]
  let level := Json.str (normalizeLevel runtime state)
  .ok {
    written :=
      [("Type", .str "GrafanaAlert"), ("RuleName", rule), ("Level", level),
        ("event", .str "alert")] ++
      (if isNone summary then [] else [("summary", textUnlessNone runtime summary)]) ++
      (if isNone resource then []
        else [("Resources", instanceResources (textUnlessNone runtime resource))]) ++
      (if isNone service then [] else [("service", textUnlessNone runtime service)])
    identity := {
      source := "grafana"
      name := textIfTruthy runtime rule
      resource := textUnlessNone runtime resource
      service := textUnlessNone runtime service
      fingerprint := textUnlessNone runtime fingerprint
      severity := level } }

/-! ## `prometheus` -/

def detectProm (data : JsonObject) : Bool :=
  match getOrNone data "alerts" with
  | .list alerts => ! alerts.isEmpty
  | _ => false

/-- `data.get("alerts", [{}])[0]`, of which `_norm_prom` asks for fields. -/
def promFirstAlert (data : JsonObject) : Except Raised JsonObject :=
  match PyDict.get? data "alerts" with
  | none => .ok []
  | some (.list []) => .error .indexError
  | some (.list (.dict first :: _)) => .ok first
  | some (.list (_ :: _)) => .error .attributeError
  | some (.str text) => .error (if text = "" then .indexError else .attributeError)
  | some (.dict _) => .error .keyError
  | some _ => .error .typeError

/-- The `name` of `_norm_prom`. -/
def promName (data first : JsonObject) : Json :=
  pickFirst runtime
    [pickLabel runtime (mappingOrEmpty (getOrNone first "labels"))
        ["alertname", "alert_name", "internal_label_alertname"],
      getOrNone data "alertingRuleName", .str "prometheus_alert"]

/-- The `summary` of `_norm_prom`. -/
def promSummary (first : JsonObject) : Json :=
  let annotations := mappingOrEmpty (getOrNone first "annotations")
  pickFirst runtime [getOrNone annotations "summary", getOrNone annotations "description"]

def normProm (data : JsonObject) : Except Raised Normalization := do
  let first ← promFirstAlert data
  let labels := mappingOrEmpty (getOrNone first "labels")
  let name := promName runtime data first
  let level := Json.str (normalizeLevel runtime
    (pickLabel runtime labels ["severity", "internal_label_alert_level"]))
  let summary := promSummary runtime first
  let alertInstance := pickFirst runtime
    [pickLabel runtime labels ["instance", "pod", "host", "node", "container", "deployment"],
      pickLabel runtime labels ["resource", "resource_id", "internal_label_resource"]]
  let namespaceLabel := pickFirst runtime
    [pickLabel runtime labels ["namespace", "internal_label_namespace", "kubernetes_namespace"]]
  let service := pickFirst runtime
    [pickLabel runtime labels
      ["service", "internal_label_service", "app", "app_kubernetes_io_name",
        "app.kubernetes.io/name", "k8s_app", "job"]]
  return {
    written :=
      [("Type", .str "PrometheusAlert"), ("RuleName", name), ("Level", level),
        ("event", .str "alert")] ++
      (if summary.truthy then [("summary", summary)] else []) ++
      (if alertInstance.truthy then [("Resources", instanceResources alertInstance)] else [])
    identity := {
      source := "prometheus"
      name := textIfTruthy runtime name
      resource := .str ((orElse alertInstance (orElse service
        (orElse namespaceLabel (.str "")))).pyStr runtime.toPythonRuntime)
      service := textIfTruthy runtime service
      fingerprint := pickFirst runtime
        [getOrNone first "fingerprint",
          pickLabel runtime labels
            ["fingerprint", "internal_label_alert_id", "alert_id", "rule_id"]]
      severity := level } }

/-! ## `datadog` -/

def detectDatadog (data : JsonObject) : Bool :=
  2 ≤ (["alert_type", "event_type", "query"].filter (hasKey data)).length

/-- The `title` of `_norm_datadog`. -/
def datadogTitle (data : JsonObject) : Json :=
  pickFirst runtime
    [getOrNone data "alert_name", getOrNone data "title", .str "datadog_alert"]

/-- The summary which `_norm_datadog` writes if there is a text or a body. -/
def datadogSummary (data : JsonObject) : Json :=
  pickFirst runtime [getOrNone data "text", getOrNone data "body"]

def normDatadog (data : JsonObject) : Except Raised Normalization :=
  let tags := (PyDict.get? data "tags").getD (.list [])
  let title := datadogTitle runtime data
  let level := Json.str (normalizeLevel runtime
    (pickFirst runtime [getOrNone data "alert_type", getOrNone data "priority"]))
  let host := pickFirst runtime
    [getOrNone data "host", extractTag tags "host", extractTag tags "instance"]
  let fingerprint := pickFirst runtime [getOrNone data "id", getOrNone data "event_id"]
  .ok {
    written :=
      [("Type", .str "DatadogAlert"), ("RuleName", title), ("Level", level),
        ("event", .str "alert")] ++
      (if host.truthy then [("Resources", instanceResources host)] else []) ++
      (if hasKey data "text" || hasKey data "body" then
        [("summary", datadogSummary runtime data)] else [])
    identity := {
      source := "datadog"
      name := textIfTruthy runtime title
      resource := textIfTruthy runtime host
      service := extractTag tags "service"
      fingerprint := textIfTruthy runtime fingerprint
      severity := level } }

/-! ## `pagerduty` -/

def detectPagerduty (data : JsonObject) : Bool :=
  hasKey data "incident" ||
    match getOrNone data "event" with
    | .dict event => hasKey event "event_type"
    | _ => false

/-- The `alert_id` of `_norm_pagerduty`. -/
def pagerdutyAlertId (inc evt : Json) : Except Raised Json := do
  let incId ← getOf inc "id" .null
  if incId.truthy then return incId
  else getOf (← getOf evt "data" (.dict [])) "id" .null

/-- The `service` of `_norm_pagerduty`. -/
def pagerdutyService (inc evt : Json) : Except Raised Json := do
  let incService ← getOf (← getOf inc "service" (.dict [])) "summary" .null
  if incService.truthy then return incService
  else getOf (← getOf (← getOf evt "data" (.dict [])) "service" (.dict [])) "summary" .null

def normPagerduty (data : JsonObject) : Except Raised Normalization := do
  let inc := (PyDict.get? data "incident").getD (.dict [])
  let evt := (PyDict.get? data "event").getD (.dict [])
  let alertId ← pagerdutyAlertId inc evt
  let service ← pagerdutyService inc evt
  let incTitle ← getOf inc "title" .null
  let evtTitle ← getOf (← getOf evt "data" (.dict [])) "title" .null
  let title := pickFirst runtime
    [incTitle, evtTitle, getOrNone data "description", .str "pagerduty_incident"]
  let urgency ← getOf inc "urgency" .null
  let eventType ← getOf evt "event_type" .null
  let level := Json.str (normalizeLevel runtime (orElse urgency eventType))
  let event ← getOf evt "event_type" (.str "alert")
  return {
    written :=
      [("Type", .str "PagerDutyEvent"), ("RuleName", title), ("Level", level), ("event", event),
        ("alert_id", alertId), ("service", service)]
    identity := {
      source := "pagerduty"
      name := textIfTruthy runtime title
      service := textIfTruthy runtime service
      fingerprint := textIfTruthy runtime alertId
      severity := level } }

/-! ## `feishu_card` -/

def detectFeishuCard (data : JsonObject) : Bool :=
  (match getOrNone data "msg_type" with
    | .str text => text = "interactive"
    | _ => false) &&
  isMapping (getOrNone data "card")

structure CardLines where
  alertStrategy : String := ""
  logTopic : String := ""
  alertLevel : String := ""
  firstTriggerTime : String := ""
  triggerCondition : String := ""
  queryResult : String := ""

/-- `line.split(marker, 1)[1].strip()`, if the marker is in the line. -/
def textAfter (marker line : String) : Option String :=
  line.toList.tails.findSome? fun rest =>
    if marker.toList.isPrefixOf rest then
      some (strip (String.ofList (rest.drop marker.toList.length)))
    else none

def CardLines.read (lines : CardLines) (line : String) : CardLines :=
  match textAfter "告警策略：" line with
  | some text => { lines with alertStrategy := text }
  | none =>
  match textAfter "告警日志主题：" line with
  | some text => { lines with logTopic := text }
  | none =>
  match textAfter "告警级别：" line with
  | some text => { lines with alertLevel := text }
  | none =>
  match textAfter "首次触发时间：" line with
  | some text => { lines with firstTriggerTime := text }
  | none =>
  match textAfter "触发条件：" line with
  | some text => { lines with triggerCondition := text }
  | none =>
  match textAfter "当前查询结果：" line with
  | some text => { lines with queryResult := text }
  | none => lines

/-- `header_title`. -/
def feishuHeaderTitle (header : Json) : String :=
  match header with
  | .dict entries =>
      match PyDict.get? entries "title" with
      | some (.dict title) => strip (JsonObject.strOr runtime.toPythonRuntime title "content" "")
      | some (.str text) => strip text
      | _ => ""
  | _ => ""

/-- `content_text`: the first markdown element of the card. -/
def feishuContentText (elements : Json) : String :=
  match elements with
  | .list items =>
      (items.findSome? fun item =>
        match item with
        | .dict elem =>
            match getOrNone elem "tag" with
            | .str tag =>
                if tag = "markdown" then
                  some (strip (JsonObject.strOr runtime.toPythonRuntime elem "content" ""))
                else none
            | _ => none
        | _ => none).getD ""
  | _ => ""

/-- `if text: normalized[key] = text`. -/
def fieldIfText (key text : String) : JsonObject :=
  if text = "" then [] else [(key, .str text)]

/-- `first or second`, of texts. -/
def textOr (first second : String) : String :=
  if first = "" then second else first

def textOrNone (text : String) : Json :=
  if text = "" then .null else .str text

def normFeishuCard (data : JsonObject) : Except Raised Normalization :=
  let card := mappingOrEmpty (getOrNone data "card")
  let headerTitle := feishuHeaderTitle runtime (getOrNone card "header")
  let contentText := feishuContentText runtime (getOrNone card "elements")
  let lines := ((splitWhere (· = '\n') contentText).map strip).foldl CardLines.read {}
  let ruleName := textOr lines.alertStrategy (textOr headerTitle "feishu_alert")
  let level := Json.str (normalizeLevel runtime (.str lines.alertLevel))
  let fingerprint := "|".intercalate
    ([lines.alertStrategy, lines.triggerCondition].filter (· ≠ ""))
  .ok {
    written :=
      [("Type", .str "FeishuCard"), ("RuleName", .str ruleName), ("alert_name", .str ruleName),
        ("Level", level), ("MetricName", .str (textOr lines.logTopic "feishu_log_alert")),
        ("event", .str "alert"), ("event_type", .str "feishu_card_alert"),
        ("alert_id", .str lines.alertStrategy)] ++
      fieldIfText "first_trigger_time" lines.firstTriggerTime ++
      fieldIfText "trigger_condition" lines.triggerCondition ++
      fieldIfText "query_result" lines.queryResult ++
      (if lines.logTopic = "" then []
        else [("Resources", instanceResources (.str lines.logTopic))]) ++
      fieldIfText "summary" contentText
    identity := {
      source := "feishu_card"
      name := textOrNone (textOr lines.alertStrategy headerTitle)
      resource := textOrNone lines.logTopic
      fingerprint := textOrNone fingerprint
      severity := level } }

end Picking

end EcosystemAdapters

end WebhookWise
