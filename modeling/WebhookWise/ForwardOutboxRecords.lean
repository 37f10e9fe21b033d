import WebhookWise.ForwardChannels
import WebhookWise.SqlTable

/-!
# Filing outbox records

`create_outbox_records` files one row for every matched forward rule, unless
the rule is skipped or an earlier row carries the same idempotency key.  The
target of a rule is copied into the row, so that editing the rule later does
not change where the row is sent.  A row of a digest rule carries a digest key
and waits for the end of its window.
-/

namespace WebhookWise

open SqlTable

/-- The table `forward_outboxes`. -/
abbrev OutboxTable := Table ForwardOutbox.id

/-- `ForwardDeliveryPolicy`.  `from_config` never allows fewer than one attempt.
`delay_for_attempt` computes in floating point and is kept as a table. -/
structure ForwardDeliveryPolicy where
  maxAttempts : Nat
  maxAttempts_pos : 1 ≤ maxAttempts
  delayForAttempt : Nat → Nat
  staleProcessingThresholdSeconds : Int
  maxDeliveryAgeSeconds : Nat

/-- The fields of `ForwardRuleSnapshot` which filing reads. -/
structure ForwardRuleSnapshot where
  id : Option Nat
  name : String
  targetType : String
  targetUrl : String
  targetName : String
  targetGateway : String

variable (python : PythonRuntime)

/-- The keyword arguments of `create_outbox_records`, and the actions which
`inbound_actions_for` finds for the alert. -/
structure OutboxRequest where
  webhookId : Option Nat
  origId : Option Nat
  forwardData : Option JsonObject
  analysisResult : Option JsonObject
  formattedPayload : Option JsonObject
  eventType : String
  isPeriodicReminder : Bool
  idempotencyExtra : String
  inboundActions : List String

namespace ForwardOutboxRecords

open ForwardChannels

/-! ## Digest windows -/

/-- `digest_window_start`: windows are aligned to UTC midnight. -/
def digestWindowStart (eventTime : DateTime) (windowMinutes : Int) : DateTime :=
  let seconds := max 1 windowMinutes * 60
  let epoch := eventTime.tdiv DateTime.microsecondsPerSecond
  (epoch - epoch % seconds) * DateTime.microsecondsPerSecond

/-- `digest_key_for`: one forward rule, one target kind, one window. -/
def digestKeyFor (forwardRuleId : Option Nat) (targetType : String) (windowStart : DateTime) :
    String :=
  let rule :=
    match forwardRuleId with
    | some id => toString id
    | none => "default"
  rule ++ ":" ++ targetType ++ ":" ++ windowStart.isoformatMinutes

private def afterColon (characters : List Char) : Option (List Char) :=
  match characters.dropWhile (· ≠ ':') with
  | [] => none
  | _ :: rest => some rest

/-- `digest_window_start_from_key`: the part after the second colon. -/
def digestWindowStartFromKey (digestKey : Option String) : Option DateTime := do
  let rest ← afterColon (digestKey.getD "").toList
  let start ← afterColon rest
  parseUtcDatetime python (String.ofList start)

/-- `analysis_digest_window`: the window minutes and the rule name recorded on an
analysis. -/
def analysisDigestWindow (result : Option JsonObject) : Int × String :=
  match PyDict.get? (result.getD []) "_digest" with
  | some (.dict marker) =>
      match PyDict.get? marker "window_minutes" with
      | some (.int minutes) =>
          if minutes ≤ 0 then (0, "") else (minutes, JsonObject.strOr python marker "rule" "")
      | _ => (0, "")
  | _ => (0, "")

def analysisRoute (result : Option JsonObject) (default : String) : String :=
  JsonObject.strAt python (result.getD []) "_route_type" default

/-- Start and end of the digest window of an alert, when an inbound digest rule
marked its analysis. -/
def digestWindow (python : PythonRuntime) (now : DateTime) (request : OutboxRequest) :
    Option (DateTime × DateTime) :=
  let minutes := (analysisDigestWindow python request.analysisResult).1
  if minutes = 0 then none
  else
    let timestamp := JsonObject.strOr python (request.forwardData.getD []) "timestamp" ""
    let stamped := parseUtcDatetime python (some timestamp)
    let start := digestWindowStart (stamped.getD now) minutes
    some (start, start.addMinutes minutes)

/-! ## Record creation -/

def idempotencyKey (webhookId : Nat) (ruleId : Option Nat) (targetType targetUrl : String)
    (isPeriodicReminder : Bool) (extra : String) : String :=
  let rule :=
    match ruleId with
    | none | some 0 => "default"
    | some id => toString id
  let raw := toString webhookId ++ "|" ++ rule ++ "|" ++ targetType ++ "|" ++ targetUrl ++ "|" ++
    (if isPeriodicReminder then "1" else "0") ++ "|" ++ extra
  "forward:" ++ toString webhookId ++ ":" ++ truncated (python.sha256Hexdigest raw) 32

/-- Whether the alert's rule is excluded from AI analysis.  The inbound rules are
asked only when a deep-analysis target is in play. -/
def aiExcluded (request : OutboxRequest) (matchedRules : List ForwardRuleSnapshot) : Bool :=
  analysisRoute python request.analysisResult "rule" = "rule_excluded" ||
    (matchedRules.any (fun rule => rule.targetType = "deep_analysis") &&
      request.inboundActions.any fun action =>
        action = "skip_ai" || action = "skip_deep_analysis")

/-- `rule.target_type or "webhook"`. -/
def ruleTargetType (rule : ForwardRuleSnapshot) : String :=
  if rule.targetType = "" then "webhook" else rule.targetType

/-- `rule.name or rule.id or "default"`. -/
def ruleLabel (rule : ForwardRuleSnapshot) : String :=
  if rule.name ≠ "" then rule.name
  else
    match rule.id with
    | none | some 0 => "default"
    | some id => toString id

def ruleDigest (window : Option (DateTime × DateTime)) (rule : ForwardRuleSnapshot) :
    Option (String × DateTime) :=
  match window with
  | some (windowStart, windowEnd) =>
      if isChatTarget python (ruleTargetType rule) rule.targetUrl then
        some (digestKeyFor rule.id (ruleTargetType rule) windowStart, windowEnd)
      else none
  | none => none

/-- Whether `create_outbox_records` skips a rule: a reminder of a digested alert,
an investigation of an excluded alert, or a target without a URL. -/
def skipsRule (window : Option (DateTime × DateTime)) (excluded : Bool) (request : OutboxRequest)
    (rule : ForwardRuleSnapshot) : Bool :=
  let targetType := ruleTargetType rule
  ((ruleDigest python window rule).isSome && request.isPeriodicReminder) ||
    (excluded && targetType = "deep_analysis") ||
    (targetType ≠ "deep_analysis" && rule.targetUrl = "")

/-- The row filed for a rule. -/
def newRecord (now : DateTime) (policy : ForwardDeliveryPolicy) (request : OutboxRequest)
    (window : Option (DateTime × DateTime)) (rule : ForwardRuleSnapshot) (id : Nat) :
    ForwardOutbox where
  id := id
  idempotencyKey := idempotencyKey python (request.webhookId.getD 0) rule.id (ruleTargetType rule)
    rule.targetUrl request.isPeriodicReminder request.idempotencyExtra
  webhookEventId := request.webhookId
  originalEventId := request.origId
  forwardRuleId := rule.id
  ruleName := ruleLabel rule
  targetType := ruleTargetType rule
  targetUrl := rule.targetUrl
  targetName := rule.targetName
  targetGateway := rule.targetGateway
  isPeriodicReminder := request.isPeriodicReminder
  digestKey := (ruleDigest python window rule).map Prod.fst
  digestWindowEnd := (ruleDigest python window rule).map Prod.snd
  channelName := ruleTargetType rule
  eventType := request.eventType
  status := .pending
  attempts := 0
  maxAttempts := policy.maxAttempts
  nextAttemptAt := some (((ruleDigest python window rule).map Prod.snd).getD now)
  lastAttemptAt := none
  sentAt := none
  lastError := none
  forwardData := request.forwardData
  analysisResult := request.analysisResult
  formattedPayload := request.formattedPayload
  responseData := none
  createdAt := now
  updatedAt := now

def findOutboxIdByKey (table : OutboxTable) (key : String) : Option Nat :=
  (table.rows.find? fun row => row.idempotencyKey = key).map ForwardOutbox.id

/-- `insert_outbox_or_existing`, after the look-up by key which precedes it: the
table, the id, and whether the row is new. -/
def insertOutboxOrExisting (table : OutboxTable) (record : Nat → ForwardOutbox)
    (keyed : ∀ id, (record id).id = id) : OutboxTable × Nat × Bool :=
  match findOutboxIdByKey table (record table.nextKey).idempotencyKey with
  | some existing => (table, existing, false)
  | none => (table.insert record keyed, table.nextKey, true)

section Creation

variable (python : PythonRuntime) (now : DateTime) (policy : ForwardDeliveryPolicy)
  (request : OutboxRequest) (window : Option (DateTime × DateTime)) (excluded : Bool)

/-- One turn of the loop over the matched rules: the table after it and the id of
the rule's row. -/
def fileRule (table : OutboxTable) (rule : ForwardRuleSnapshot) : OutboxTable × Option Nat :=
  if skipsRule python window excluded request rule then (table, none)
  else
    let filed := insertOutboxOrExisting table (newRecord python now policy request window rule)
      fun _ => rfl
    (filed.1, some filed.2.1)

def tableAfterRule (table : OutboxTable) (rule : ForwardRuleSnapshot) : OutboxTable :=
  (fileRule python now policy request window excluded table rule).1

def fileRules (table : OutboxTable) : List ForwardRuleSnapshot → OutboxTable × List Nat
  | [] => (table, [])
  | rule :: rules =>
      let filed := fileRule python now policy request window excluded table rule
      let rest := fileRules filed.1 rules
      (rest.1, filed.2.toList ++ rest.2)

/-- Whether a rule files a row of its own: it is not skipped, and its idempotency
key is new. -/
def filesRow (table : OutboxTable) (rule : ForwardRuleSnapshot) : Bool :=
  !skipsRule python window excluded request rule &&
    (findOutboxIdByKey table
      (newRecord python now policy request window rule table.nextKey).idempotencyKey).isNone

theorem tableAfterRule_eq (table : OutboxTable) (rule : ForwardRuleSnapshot) :
    tableAfterRule python now policy request window excluded table rule =
      if filesRow python now policy request window excluded table rule then
        table.insert (newRecord python now policy request window rule) fun _ => rfl
      else table := by
  unfold tableAfterRule fileRule insertOutboxOrExisting filesRow
  by_cases skipped : skipsRule python window excluded request rule = true
  · simp [skipped]
  · simp only [skipped, Bool.not_false, Bool.true_and, if_false, Bool.false_eq_true]
    split
    · simp [*]
    · simp [*]

theorem fileRules_table (table : OutboxTable) (rules : List ForwardRuleSnapshot) :
    (fileRules python now policy request window excluded table rules).1 =
      rules.foldl (tableAfterRule python now policy request window excluded) table := by
  induction rules generalizing table with
  | nil => rfl
  | cons rule rules ih => exact ih _

end Creation

def createOutboxRecords (now : DateTime) (policy : ForwardDeliveryPolicy) (request : OutboxRequest)
    (matchedRules : List ForwardRuleSnapshot) (table : OutboxTable) : OutboxTable × List Nat :=
  fileRules python now policy request (digestWindow python now request)
    (aiExcluded python request matchedRules) table matchedRules

theorem origin_of_mem_createOutboxRecords {python : PythonRuntime} {now : DateTime}
    {policy : ForwardDeliveryPolicy} {request : OutboxRequest}
    {matchedRules : List ForwardRuleSnapshot} {table : OutboxTable} {row : ForwardOutbox}
    (member : row ∈ (createOutboxRecords python now policy request matchedRules table).1.rows) :
    row ∈ table.rows ∨ ∃ rule ∈ matchedRules,
      skipsRule python (digestWindow python now request) (aiExcluded python request matchedRules)
        request rule = false ∧
      ∃ id, row = newRecord python now policy request (digestWindow python now request) rule id := by
  unfold createOutboxRecords at member
  rw [fileRules_table] at member
  generalize aiExcluded python request matchedRules = excluded at member ⊢
  induction matchedRules generalizing table with
  | nil => exact Or.inl member
  | cons rule rules ih =>
      rcases ih member with earlier | ⟨other, otherMember, filed⟩
      · rw [tableAfterRule_eq] at earlier
        split at earlier
        · rename_i files
          have kept : skipsRule python (digestWindow python now request) excluded request rule =
              false := by
            simp only [filesRow, Bool.and_eq_true, Bool.not_eq_true'] at files
            exact files.1
          rcases Table.mem_insert.1 earlier with old | new
          · exact Or.inl old
          · exact Or.inr ⟨rule, by simp, kept, _, new⟩
        · exact Or.inl earlier
      · exact Or.inr ⟨other, List.mem_cons_of_mem _ otherMember, filed⟩

end ForwardOutboxRecords

end WebhookWise
