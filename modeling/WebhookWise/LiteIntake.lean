import WebhookWise.LiteNormalize
import WebhookWise.LitePipeline

/-!
# What Lite accepts

One call of `process` on any payload, with what it binds to the statements that it sends to the
store.  A statement is refused when a text bound to it has an unpaired surrogate, and an
exception of the call leaves what was committed before it.  What the store and the language model
answer in between is given.
-/

namespace WebhookWise

open SurrogateTexts RenderedJson PythonTexts LiteNormalize

namespace LiteIntake

open LitePipeline (LiteRule LiteSilence Outcome SkipCode scanRules)

/-! ## Triage -/

inductive Importance where
  | high
  | medium
  | low
deriving DecidableEq

def Importance.name : Importance → String
  | high => "high"
  | medium => "medium"
  | low => "low"

def Importance.upper : Importance → String
  | high => "HIGH"
  | medium => "MEDIUM"
  | low => "LOW"

def importanceNamed (text : PyText) : Option Importance :=
  [Importance.high, .medium, .low].find? fun importance =>
    text = PyText.ofString importance.name

structure IntakeRuntime extends LiteRuntime where
  /-- What `\w` matches. -/
  isWord : PyChar → Bool

def highKeywords : List String :=
  ["critical", "fatal", "down", "outage", "payment", "withdraw", "topup", "security", "breach",
    "严重", "宕机", "故障", "不可用", "失败率", "充值", "提现", "支付", "订单", "余额", "资金", "安全",
    "攻击", "泄露"]

def mediumKeywords : List String :=
  ["error", "warn", "high", "错误", "告警", "超时", "异常"]

def lowKeywords : List String :=
  ["info", "notice", "recovered", "恢复", "通知"]

/-- What `triage` answers. -/
structure Analysis where
  importance : Importance
  summary : PyText
  route : String
  degraded : Option PyText

/-- What comes back from the language model: the value that `json.loads` reads from its answer,
or the text of what was raised before there was one. -/
inductive LlmReply where
  | failed (report : PyText)
  | parsed (value : PyJson)

/-- `type(value).__name__`. -/
def typeName : PyJson → String
  | .null => "NoneType"
  | .bool _ => "bool"
  | .int _ => "int"
  | .float _ => "float"
  | .str _ => "str"
  | .list _ => "list"
  | .dict _ => "dict"

structure IntakeSettings where
  dedupWindowSeconds : Int
  cooldownSeconds : Int
  openaiApiKey : String

section

variable (runtime : IntakeRuntime)

/-- Whether a word begins or ends between two characters. -/
def isBoundary (before after : Option PyChar) : Bool :=
  before.any runtime.isWord != after.any runtime.isWord

/-- `re.search(rf"\b{keyword}\b", text)`, after a character. -/
def searchWord (keyword : PyText) (before : Option PyChar) : PyText → Bool
  | [] => false
  | character :: rest =>
      (keyword.isPrefixOf (character :: rest) && isBoundary runtime before (some character) &&
          isBoundary runtime keyword.getLast? ((character :: rest).drop keyword.length).head?) ||
        searchWord keyword (some character) rest

def hits (keywords : List String) (text : PyText) : Bool :=
  keywords.any fun keyword =>
    if keyword.toList.all fun character => character.toNat < 128 then
      searchWord runtime (PyText.ofString keyword) none text
    else isWithin (PyText.ofString keyword) text

def ruleTriage (title body : PyText) : Analysis :=
  let text := runtime.lower (title ++ .scalar ' ' :: body)
  let importance :=
    if hits runtime highKeywords text then .high
    else if hits runtime mediumKeywords text then .medium
    else if hits runtime lowKeywords text then .low
    else .medium
  { importance := importance
    summary := title
    route := "rule"
    degraded := none }

def triage (settings : IntakeSettings) (reply : LlmReply) (title body : PyText)
    (resolved : Bool) : Analysis :=
  let fallback := ruleTriage runtime title body
  if resolved then { fallback with route := "recovery" }
  else if settings.openaiApiKey = "" then fallback
  else
    match reply with
    | .failed report => { fallback with degraded := some (report.take 200) }
    | .parsed (.dict answer) =>
        let named := ((PyJson.get? answer "importance").map (pyStr runtime.toTextRuntime)).getD []
        match importanceNamed (runtime.lower named) with
        | none =>
            { fallback with
              route := "rule"
              degraded := some (PyText.ofString "llm returned an unknown importance") }
        | some importance =>
            { importance := importance
              summary := (strOfFirst runtime.toTextRuntime [PyJson.get? answer "summary"]
                              title).take 300
              route := "ai"
              degraded := none }
    | .parsed value =>
        { fallback with
          degraded := some (PyText.ofString
            ("AttributeError: '" ++ typeName value ++ "' object has no attribute 'get'")) }

end

/-! ## Payloads of deliveries -/

def object (entries : List (String × PyJson)) : PyJson :=
  .dict (entries.map fun entry => (PyText.ofString entry.1, entry.2))

def plain (text : String) : PyJson :=
  .str (PyText.ofString text)

section

variable (event : LiteEvent) (analysis : Analysis) (correlationId : String)

/-- `"\n".join(lines)`. -/
def joinLines : List PyText → PyText
  | [] => []
  | [line] => line
  | line :: lines => line ++ .scalar '\n' :: joinLines lines

def colour : Importance → String
  | .high => "red"
  | .medium => "orange"
  | .low => "grey"

def cardLines : List PyText :=
  let body := stripText event.body
  [PyText.ofString ("**Status** " ++ if event.resolved then "RESOLVED" else "FIRING"),
    PyText.ofString ("**Importance** " ++ analysis.importance.upper),
    PyText.ofString "**Source** " ++ event.source,
    [],
    orText analysis.summary event.title] ++
    (if body.isEmpty then [] else [[], PyText.ofString "---", body.take 1500]) ++
      if analysis.route = "rule" then
        [[], PyText.ofString "_(rule-based triage: AI judgement unavailable)_"]
      else []

def feishuCard : PyJson :=
  let title := if event.resolved then PyText.ofString "[RESOLVED] " ++ event.title else event.title
  object
    [("msg_type", plain "interactive"),
      ("card", object
        [("header", object
          [("title", object [("tag", plain "plain_text"), ("content", .str (title.take 100))]),
            ("template",
              plain (if event.resolved then "green" else colour analysis.importance))]),
          ("elements", .list
            [object
              [("tag", plain "div"),
                ("text", object
                  [("tag", plain "lark_md"),
                    ("content", .str (joinLines (cardLines event analysis)))])]])])]

def buildPayload (kind : String) : PyJson :=
  if kind = "feishu" then feishuCard event analysis
  else
    object
      [("source", .str event.source),
        ("title", .str event.title),
        ("status", plain (if event.resolved then "resolved" else "firing")),
        ("importance", plain analysis.importance.name),
        ("summary", .str analysis.summary),
        ("body", .str event.body),
        ("route", plain analysis.route),
        ("meta", object
          [("brain", plain "ww-lite"),
            ("alert_name", .str event.title),
            ("source", .str event.source),
            ("importance", plain analysis.importance.name),
            ("summary", .str analysis.summary),
            ("route", plain analysis.route),
            ("correlation_id", plain correlationId)])]

end

/-! ## Statements -/

/-- A row that `insert_event` has committed. -/
structure EventRow where
  id : Nat
  receivedAt : DateTime
  source : String
  title : String
  body : String
  alertHash : String
  importance : Option String
  summary : Option String
  route : String
  raw : String

/-- A row that `insert_decision` has committed. -/
structure DecisionRow where
  eventId : Nat
  decidedAt : DateTime
  outcome : Outcome
  skipCode : SkipCode
  steps : String
  matched : String

/-- A row that `enqueue_delivery` has committed. -/
structure OutboxRow where
  eventId : Nat
  ruleName : String
  targetKind : String
  targetUrl : String
  payload : String
  queuedAt : DateTime

inductive Write where
  | event (row : EventRow)
  | decision (row : DecisionRow)
  | outbox (row : OutboxRow)

def eventOf : Write → Option EventRow
  | .event row => some row
  | _ => none

def decisionOf : Write → Option DecisionRow
  | .decision row => some row
  | _ => none

/-- What the store answers to the reads of the call, and the id of the row it inserts. -/
structure StoreAnswers where
  recentDuplicate : String → Option (Nat × DateTime)
  activeSilences : List LiteSilence
  activeRules : List LiteRule
  lastForwardAt : String → String → Option DateTime
  eventId : Nat

/-- A call which may raise, with what it has committed. -/
abbrev Intake := ExceptT UnicodeEncodeError (StateM (List Write))

def bound (text : PyText) : Intake String :=
  liftExcept (encoded text)

def commit (write : Write) : Intake Unit :=
  modifyThe (List Write) (· ++ [write])

section

variable (answers : StoreAnswers) (now : DateTime)

/-- `_persist`, with no analysis for an alert that was skipped before it. -/
def persist (event : LiteEvent) (analysis : Option Analysis) : Intake Nat := do
  let source ← bound event.source
  let title ← bound event.title
  let body ← bound event.body
  let summary ← analysis.mapM fun analysis => bound analysis.summary
  let raw ← bound (render event.raw)
  commit (.event
    { id := answers.eventId
      receivedAt := now
      source := source
      title := title
      body := body
      alertHash := event.alertHash
      importance := analysis.map fun analysis => analysis.importance.name
      summary := summary
      route := (analysis.map Analysis.route).getD "skipped"
      raw := raw })
  return answers.eventId

def insertDecision (eventId : Nat) (outcome : Outcome) (skipCode : SkipCode)
    (steps : List PyJson) (matched : List String) : Intake Unit := do
  let steps ← bound (render (.list steps))
  let matched ← bound (render (.list (matched.map plain)))
  commit (.decision
    { eventId := eventId
      decidedAt := now
      outcome := outcome
      skipCode := skipCode
      steps := steps
      matched := matched })

def enqueueDelivery (eventId : Nat) (rule : LiteRule) (payload : PyJson) : Intake Unit := do
  let payload ← bound (render payload)
  commit (.outbox
    { eventId := eventId
      ruleName := rule.name
      targetKind := rule.targetKind
      targetUrl := rule.targetUrl
      payload := payload
      queuedAt := now })

end

/-! ## The call -/

/-- `Decision.record`. -/
def recorded (step result : String) (detail : List (String × PyJson)) : PyJson :=
  object (("step", plain step) :: ("result", plain result) :: detail)

def names (texts : List String) : PyJson :=
  .list (texts.map plain)

/-- What `process` returns. -/
structure Verdict where
  eventId : Nat
  outcome : Outcome
  skipCode : SkipCode
  rules : Option (List String)

section

variable (runtime : IntakeRuntime) (settings : IntakeSettings) (answers : StoreAnswers)
  (now : DateTime)

/-- `csv_ok` of `_matches`. -/
def csvOk (raw : String) (value : PyText) : Bool :=
  let wanted := (((PyText.ofString raw).splitOn (.scalar ',')).filter fun part =>
    !(stripText part).isEmpty).map fun part => runtime.lower (stripText part)
  wanted.isEmpty || wanted.contains (runtime.lower value)

def matches_ (source : PyText) (importance : Importance) (rule : LiteRule) : Bool :=
  csvOk runtime rule.matchSource source &&
    csvOk runtime rule.matchImportance (PyText.ofString importance.name)

def matchRules (source : PyText) (importance : Importance) :
    List LiteRule → List LiteRule × Option String :=
  scanRules (matches_ runtime source importance)

def silencedBy (event : LiteEvent) : Option LiteSilence :=
  let haystack := runtime.lower
    (event.source ++ .scalar ' ' :: (event.title ++ .scalar ' ' :: event.body))
  answers.activeSilences.find? fun silence =>
    isWithin (runtime.lower (PyText.ofString silence.pattern)) haystack

/-- The test of `_apply_cooldown`. -/
def heldBack (alertHash : String) (rule : LiteRule) : Bool :=
  0 < settings.cooldownSeconds && (answers.lastForwardAt alertHash rule.name).any fun last =>
    now < last.addSeconds settings.cooldownSeconds

def openingSteps (event : LiteEvent) (correlationId : String) : List PyJson :=
  (if correlationId = "" then []
    else [recorded "correlate" "quoted" [("correlation_id", plain correlationId)]]) ++
  [recorded "normalize" "ok"
    [("title", .str event.title), ("alert_hash", plain event.alertHash),
      ("resolved", .bool event.resolved)]]

/-- A call that a gate stops before the analysis. -/
def skipEarly (event : LiteEvent) (steps : List PyJson) (skipCode : SkipCode) :
    Intake Verdict := do
  let eventId ← persist answers now event none
  insertDecision now eventId .skipped skipCode steps []
  return ⟨eventId, .skipped, skipCode, none⟩

def enqueueAll (event : LiteEvent) (analysis : Analysis) (correlationId : String) (eventId : Nat) :
    List LiteRule → Intake Unit
  | [] => return
  | rule :: rules => do
      enqueueDelivery now eventId rule
        (buildPayload event analysis correlationId rule.targetKind)
      enqueueAll event analysis correlationId eventId rules

/-- What follows `_apply_cooldown`. -/
def deliver (event : LiteEvent) (correlationId : String) (analysis : Analysis)
    (steps : List PyJson) (eventId : Nat) (due : List LiteRule) (cooled : List String) :
    Intake Verdict :=
  if due.isEmpty then do
    insertDecision now eventId .skipped .cooldown
      (steps ++ [recorded "cooldown" "cooling" [("cooled", names cooled)]]) []
    return ⟨eventId, .skipped, .cooldown, none⟩
  else do
    let steps := steps ++ [recorded "cooldown" "pass"
      [("seconds", .int settings.cooldownSeconds),
        ("cooled", if cooled.isEmpty then .null else names cooled)]]
    enqueueAll now event analysis correlationId eventId due
    insertDecision now eventId .forwarded .none
      (steps ++ [recorded "forward" "enqueued" [("count", .int due.length)]])
      (due.map LiteRule.name)
    return ⟨eventId, .forwarded, .none, some (due.map LiteRule.name)⟩

def route (event : LiteEvent) (correlationId : String) (analysis : Analysis)
    (steps : List PyJson) (eventId : Nat) : Intake Verdict :=
  let (matched, stoppedBy) := matchRules runtime event.source analysis.importance answers.activeRules
  if matched.isEmpty then do
    insertDecision now eventId .skipped .noMatch (steps ++ [recorded "rules" "no_match" []]) []
    return ⟨eventId, .skipped, .noMatch, none⟩
  else
    deliver settings now event correlationId analysis
      (steps ++ [recorded "rules" "matched"
        [("rules", names (matched.map LiteRule.name)),
          ("stopped_by", (stoppedBy.map plain).getD .null)]])
      eventId (matched.filter fun rule => !heldBack settings answers now event.alertHash rule)
      ((matched.filter (heldBack settings answers now event.alertHash)).map LiteRule.name)

/-- What follows the silences. -/
def analyse (event : LiteEvent) (correlationId : String) (analysis : Analysis)
    (steps : List PyJson) : Intake Verdict := do
  let eventId ← persist answers now event (some analysis)
  route runtime settings answers now event correlationId analysis
    (steps ++ [recorded "analysis" analysis.route
      [("importance", plain analysis.importance.name),
        ("degraded", (analysis.degraded.map PyJson.str).getD .null)]]) eventId

/-- The gates, which an event that `normalize` has returned walks through. -/
def walk (reply : LlmReply) (event : LiteEvent) (correlationId : String) : Intake Verdict :=
  match answers.recentDuplicate event.alertHash with
  | some (id, receivedAt) =>
      let age := (now - receivedAt).tdiv DateTime.microsecondsPerSecond
      skipEarly answers now event
        (openingSteps event correlationId ++ [recorded "dedup" "duplicate"
          [("first_event_id", .int id), ("seconds_ago", .int age)]]) .duplicate
  | none =>
      let steps := openingSteps event correlationId ++ [recorded "dedup" "pass"
        [("window_seconds", .int settings.dedupWindowSeconds)]]
      match silencedBy runtime answers event with
      | some silence =>
          skipEarly answers now event
            (steps ++ [recorded "silence" "silenced"
              [("silence_id", .int silence.id), ("pattern", plain silence.pattern)]]) .silenced
      | none =>
          analyse runtime settings answers now event correlationId
            (triage runtime settings reply event.title event.body event.resolved)
            (steps ++ [recorded "silence" "pass" []])

def process (reply : LlmReply) (source : PyText) (payload : PyJson) (correlationId : String) :
    Intake Verdict := do
  let event ← liftExcept (normalize runtime.toLiteRuntime source payload)
  walk runtime settings answers now reply event correlationId

end

end LiteIntake

end WebhookWise
