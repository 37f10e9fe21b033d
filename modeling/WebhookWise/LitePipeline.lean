import WebhookWise.SqlTable
import WebhookWise.PythonValues

/-!
# The pipeline of the Lite edition

One call of `process` walks an alert through the gates.  Every read and write of the store commits
before the next; a stage is what a call holds while it awaits.  Payloads and the delivery are left
out; an alert is what `normalize` has made of one.
-/

namespace WebhookWise

open SqlTable

namespace LitePipeline

/-! ## The store -/

/-- What `normalize` makes of a payload, with the correlation id of the request. -/
structure LiteAlert where
  source : String
  title : String
  body : String
  resolved : Bool
  alertHash : String
  raw : JsonObject
  correlationId : String

structure LiteEvent where
  id : Nat
  receivedAt : DateTime
  source : String
  title : String
  body : String
  alertHash : String
  importance : Option String
  summary : Option String
  route : Option String
  raw : JsonObject

inductive Outcome where
  | forwarded
  | skipped
deriving DecidableEq

inductive SkipCode where
  | none
  | duplicate
  | silenced
  | noMatch
  | cooldown
deriving DecidableEq

structure LiteDecision where
  id : Nat
  eventId : Nat
  decidedAt : DateTime
  outcome : Outcome
  skipCode : SkipCode
  steps : List JsonObject
  matched : List String

/-- A row of `outbox`, as it is queued. -/
structure LiteDelivery where
  id : Nat
  eventId : Nat
  ruleName : String
  targetKind : String
  targetUrl : String
  nextAttemptAt : DateTime
  updatedAt : DateTime

structure LiteRule where
  id : Nat
  name : String
  enabled : Bool
  matchSource : String
  matchImportance : String
  targetKind : String
  targetUrl : String
  priority : Int
  stopOnMatch : Bool

structure LiteSilence where
  id : Nat
  pattern : String
  expiresAt : DateTime

structure LiteStore where
  events : Table LiteEvent.id
  decisions : Table LiteDecision.id
  outbox : Table LiteDelivery.id
  rules : Table LiteRule.id
  silences : Table LiteSilence.id

/-- A database as `open` leaves it. -/
def LiteStore.empty : LiteStore where
  events := .empty
  decisions := .empty
  outbox := .empty
  rules := .empty
  silences := .empty

structure LiteSettings where
  python : PythonRuntime
  dedupWindowSeconds : Int
  cooldownSeconds : Int

/-- What `triage` answers. -/
structure Analysis where
  importance : String
  summary : String
  route : String
  degraded : Option String

namespace LiteStore

variable (store : LiteStore) (now : DateTime)

def eventRow (alert : LiteAlert) (analysis : Option Analysis) (id : Nat) : LiteEvent where
  id := id
  receivedAt := now
  source := alert.source
  title := alert.title
  body := alert.body
  alertHash := alert.alertHash
  importance := analysis.map Analysis.importance
  summary := analysis.map Analysis.summary
  route := some ((analysis.map Analysis.route).getD "skipped")
  raw := alert.raw

theorem eventRow_id (alert : LiteAlert) (analysis : Option Analysis) (id : Nat) :
    (eventRow now alert analysis id).id = id :=
  rfl

/-- `_persist`, with no analysis for an alert that was skipped before it. -/
def insertEvent (alert : LiteAlert) (analysis : Option Analysis) : LiteStore :=
  { store with
    events := store.events.insert (eventRow now alert analysis) (eventRow_id now alert analysis) }

def decisionRow (eventId : Nat) (outcome : Outcome) (skipCode : SkipCode)
    (steps : List JsonObject) (matched : List String) (id : Nat) : LiteDecision where
  id := id
  eventId := eventId
  decidedAt := now
  outcome := outcome
  skipCode := skipCode
  steps := steps
  matched := matched

theorem decisionRow_id (eventId : Nat) (outcome : Outcome) (skipCode : SkipCode)
    (steps : List JsonObject) (matched : List String) (id : Nat) :
    (decisionRow now eventId outcome skipCode steps matched id).id = id :=
  rfl

def insertDecision (eventId : Nat) (outcome : Outcome) (skipCode : SkipCode)
    (steps : List JsonObject) (matched : List String) : LiteStore :=
  { store with
    decisions := store.decisions.insert (decisionRow now eventId outcome skipCode steps matched)
      (decisionRow_id now eventId outcome skipCode steps matched) }

def deliveryRow (eventId : Nat) (rule : LiteRule) (id : Nat) : LiteDelivery where
  id := id
  eventId := eventId
  ruleName := rule.name
  targetKind := rule.targetKind
  targetUrl := rule.targetUrl
  nextAttemptAt := now
  updatedAt := now

theorem deliveryRow_id (eventId : Nat) (rule : LiteRule) (id : Nat) :
    (deliveryRow now eventId rule id).id = id :=
  rfl

def enqueueDelivery (eventId : Nat) (rule : LiteRule) : LiteStore :=
  { store with
    outbox := store.outbox.insert (deliveryRow now eventId rule) (deliveryRow_id now eventId rule) }

def recentDuplicate (alertHash : String) (windowSeconds : Int) : Option LiteEvent :=
  store.events.selectFirst (fun first second => second.id ≤ first.id) fun event =>
    event.alertHash = alertHash && now.addSeconds (-windowSeconds) < event.receivedAt

def deliveredAt (alertHash ruleName : String) : List DateTime :=
  store.outbox.rows.filterMap fun delivery =>
    if delivery.ruleName = ruleName then
      ((store.events.lookup delivery.eventId).filter (·.alertHash = alertHash)).map
        LiteEvent.receivedAt
    else none

/-- `MAX` of a column. -/
def latest : List DateTime → Option DateTime
  | [] => none
  | instant :: instants =>
      match latest instants with
      | none => some instant
      | some other => some (if instant ≤ other then other else instant)

def lastForwardAt (alertHash ruleName : String) : Option DateTime :=
  latest (store.deliveredAt alertHash ruleName)

def activeRules : List LiteRule :=
  (store.rules.rows.filter LiteRule.enabled).insertionSort fun first second =>
    second.priority < first.priority ∨ first.priority = second.priority ∧ first.id ≤ second.id

def activeSilences : List LiteSilence :=
  (store.silences.rows.filter fun silence => now < silence.expiresAt).insertionSort
    fun first second => first.id ≤ second.id

end LiteStore

/-! ## The gates -/

section Gates

variable (settings : LiteSettings)

/-- The loop of `_match_rules`: the rules that match, and the one that ended the evaluation. -/
def scanRules (isMatch : LiteRule → Bool) : List LiteRule → List LiteRule × Option String
  | [] => ([], none)
  | rule :: rules =>
      if isMatch rule then
        if rule.stopOnMatch then ([rule], some rule.name)
        else
          let rest := scanRules isMatch rules
          (rule :: rest.1, rest.2)
      else scanRules isMatch rules

/-- `csv_ok` of `_matches`. -/
def csvOk (raw : String) (value : String) : Bool :=
  let wanted := splitCsvLower settings.python raw
  wanted.isEmpty || wanted.contains (settings.python.lower value)

def matches_ (source importance : String) (rule : LiteRule) : Bool :=
  csvOk settings rule.matchSource source && csvOk settings rule.matchImportance importance

def matchRules (source importance : String) : List LiteRule → List LiteRule × Option String :=
  scanRules (matches_ settings source importance)

def silencedBy (alert : LiteAlert) (silences : List LiteSilence) : Option LiteSilence :=
  let haystack := settings.python.lower (alert.source ++ " " ++ alert.title ++ " " ++ alert.body)
  silences.find? fun silence =>
    occursIn (settings.python.lower silence.pattern).toList haystack.toList

/-- `Decision.record`. -/
def recorded (step result : String) (detail : JsonObject) : JsonObject :=
  ("step", .str step) :: ("result", .str result) :: detail

def openingSteps (alert : LiteAlert) : List JsonObject :=
  (if alert.correlationId = "" then []
    else [recorded "correlate" "quoted" [("correlation_id", .str alert.correlationId)]]) ++
  [recorded "normalize" "ok"
    [("title", .str alert.title), ("alert_hash", .str alert.alertHash),
      ("resolved", .bool alert.resolved)]]

end Gates

/-! ## Calls -/

/-- What a call of `process` holds while it awaits. -/
inductive Stage where
  | arrived
  | gated (duplicate : Option LiteEvent)
  | quieted (steps : List JsonObject) (silences : List LiteSilence)
  | analysing (steps : List JsonObject)
  | skipped (steps : List JsonObject) (eventId : Nat) (skipCode : SkipCode)
  | stored (steps : List JsonObject) (eventId : Nat) (importance : String)
  | routed (steps : List JsonObject) (eventId : Nat) (matched : List LiteRule)
      (stoppedBy : Option String)
  | cooling (steps : List JsonObject) (eventId : Nat) (checkedAt : DateTime)
      (rest due : List LiteRule) (cooled : List String)
  | enqueueing (steps : List JsonObject) (eventId : Nat) (sent rest : List LiteRule)
  | finished

section Calls

variable (settings : LiteSettings) (store : LiteStore) (now : DateTime)

def deliver (steps : List JsonObject) (eventId : Nat) (sent : List LiteRule) :
    List LiteRule → LiteStore × Stage
  | rule :: rest =>
      (store.enqueueDelivery now eventId rule, .enqueueing steps eventId (sent ++ [rule]) rest)
  | [] =>
      (store.insertDecision now eventId .forwarded .none
        (steps ++ [recorded "forward" "enqueued" [("count", .int sent.length)]])
        (sent.map LiteRule.name), .finished)

def names (texts : List String) : Json :=
  .list (texts.map Json.str)

/-- What follows `_apply_cooldown`. -/
def afterCooldown (steps : List JsonObject) (eventId : Nat) (due : List LiteRule)
    (cooled : List String) : LiteStore × Stage :=
  if due.isEmpty then
    (store.insertDecision now eventId .skipped .cooldown
      (steps ++ [recorded "cooldown" "cooling" [("cooled", names cooled)]]) [], .finished)
  else
    deliver store now
      (steps ++ [recorded "cooldown" "pass"
        [("seconds", .int settings.cooldownSeconds),
          ("cooled", if cooled.isEmpty then .null else names cooled)]]) eventId [] due

/-- The test of `_apply_cooldown`. -/
def heldBack (alert : LiteAlert) (checkedAt : DateTime) (rule : LiteRule) : Bool :=
  (store.lastForwardAt alert.alertHash rule.name).any fun last =>
    checkedAt < last.addSeconds settings.cooldownSeconds

/-- One turn of the loop of `_apply_cooldown`. -/
def checkCooldown (alert : LiteAlert) (steps : List JsonObject) (eventId : Nat)
    (checkedAt : DateTime) (rule : LiteRule) (rest due : List LiteRule) (cooled : List String) :
    Stage :=
  if heldBack settings store alert checkedAt rule then
    .cooling steps eventId checkedAt rest due (cooled ++ [rule.name])
  else .cooling steps eventId checkedAt rest (due ++ [rule]) cooled

def advance (analysis : Analysis) (alert : LiteAlert) : Stage → LiteStore × Stage
  | .arrived =>
      (store, .gated (store.recentDuplicate now alert.alertHash settings.dedupWindowSeconds))
  | .gated (some duplicate) =>
      let age := (now - duplicate.receivedAt).tdiv DateTime.microsecondsPerSecond
      let steps := openingSteps alert ++ [recorded "dedup" "duplicate"
        [("first_event_id", .int duplicate.id), ("seconds_ago", .int age)]]
      (store.insertEvent now alert none, .skipped steps store.events.nextKey .duplicate)
  | .gated none =>
      let steps := openingSteps alert ++ [recorded "dedup" "pass"
        [("window_seconds", .int settings.dedupWindowSeconds)]]
      (store, .quieted steps (store.activeSilences now))
  | .quieted steps silences =>
      match silencedBy settings alert silences with
      | some silence =>
          let steps := steps ++ [recorded "silence" "silenced"
            [("silence_id", .int silence.id), ("pattern", .str silence.pattern)]]
          (store.insertEvent now alert none, .skipped steps store.events.nextKey .silenced)
      | none => (store, .analysing (steps ++ [recorded "silence" "pass" []]))
  | .analysing steps =>
      let steps := steps ++ [recorded "analysis" analysis.route
        [("importance", .str analysis.importance),
          ("degraded", (analysis.degraded.map Json.str).getD .null)]]
      (store.insertEvent now alert (some analysis),
        .stored steps store.events.nextKey analysis.importance)
  | .skipped steps eventId skipCode =>
      (store.insertDecision now eventId .skipped skipCode steps [], .finished)
  | .stored steps eventId importance =>
      let rules := matchRules settings alert.source importance store.activeRules
      (store, .routed steps eventId rules.1 rules.2)
  | .routed steps eventId [] _ =>
      (store.insertDecision now eventId .skipped .noMatch
        (steps ++ [recorded "rules" "no_match" []]) [], .finished)
  | .routed steps eventId (rule :: rules) stoppedBy =>
      let steps := steps ++ [recorded "rules" "matched"
        [("rules", names ((rule :: rules).map LiteRule.name)),
          ("stopped_by", (stoppedBy.map Json.str).getD .null)]]
      if settings.cooldownSeconds ≤ 0 then
        afterCooldown settings store now steps eventId (rule :: rules) []
      else (store, checkCooldown settings store alert steps eventId now rule rules [] [])
  | .cooling steps eventId checkedAt (rule :: rest) due cooled =>
      (store, checkCooldown settings store alert steps eventId checkedAt rule rest due cooled)
  | .cooling steps eventId _ [] due cooled =>
      afterCooldown settings store now steps eventId due cooled
  | .enqueueing steps eventId sent rest => deliver store now steps eventId sent rest
  | .finished => (store, .finished)

end Calls

/-! ## Runs -/

structure Call where
  alert : LiteAlert
  stage : Stage

structure State where
  store : LiteStore
  calls : List Call

inductive Event where
  | arrive (alert : LiteAlert)
  | advance (index : Nat) (now : DateTime) (analysis : Analysis)
  | crash
  | rulesEdited (rules : Table LiteRule.id)
  | silencesEdited (silences : Table LiteSilence.id)

def step (settings : LiteSettings) (state : State) : Event → State
  | .arrive alert => { state with calls := state.calls ++ [⟨alert, .arrived⟩] }
  | .advance index now analysis =>
      match state.calls[index]? with
      | none => state
      | some call =>
          let advanced := advance settings state.store now analysis call.alert call.stage
          { store := advanced.1, calls := state.calls.set index ⟨call.alert, advanced.2⟩ }
  | .crash => { state with calls := [] }
  | .rulesEdited rules => { state with store := { state.store with rules := rules } }
  | .silencesEdited silences => { state with store := { state.store with silences := silences } }

def opened : State :=
  ⟨.empty, []⟩

/-! ## Samples -/

def plainLite : LiteSettings where
  python := .plain
  dedupWindowSeconds := 300
  cooldownSeconds := 1800

def diskAlert : LiteAlert where
  source := "zabbix"
  title := "Disk full"
  body := ""
  resolved := false
  alertHash := "disk"
  raw := []
  correlationId := ""

def mediumAnalysis : Analysis where
  importance := "medium"
  summary := "Disk full"
  route := "ai"
  degraded := none

def catchAll (name : String) (id : Nat) : LiteRule where
  id := id
  name := name
  enabled := true
  matchSource := ""
  matchImportance := ""
  targetKind := "generic"
  targetUrl := "https://example.com"
  priority := 0
  stopOnMatch := false

theorem catchAll_id (name : String) (id : Nat) : (catchAll name id).id = id :=
  rfl

def rulesNamed (texts : List String) : Table LiteRule.id :=
  texts.foldl (fun rules name => rules.insert (catchAll name) (catchAll_id name)) .empty

end LitePipeline

end WebhookWise
