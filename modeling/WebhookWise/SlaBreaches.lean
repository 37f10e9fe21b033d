import WebhookWise.ForwardOutboxRecords
import WebhookWise.IncidentScans
import WebhookWise.IsoDates
import WebhookWise.PagedBacklogs
import Mathlib.Data.Prod.Lex

/-!
# Notifications of breached SLAs

`queue_sla_breach_notifications` reads a page of incidents and a page of alerts that are overdue,
the earliest due first, and files a row of the outbox for every one that has none yet.  The key of
the row names the resource and the due time.
-/

namespace WebhookWise

namespace SlaBreaches

open ForwardOutboxRecords IncidentGrouping PagedBacklogs SqlTable

/-! ## Text of a card -/

/-- `text.translate(_ANGLE_BRACKETS)`. -/
def widenAngleBrackets (text : List Char) : List Char :=
  text.map fun character =>
    if character = '<' then '＜' else if character = '>' then '＞' else character

/-- `text.replace("](", _LINK_JOINT)`. -/
def breakLinks : List Char → List Char
  | [] => []
  | ']' :: '(' :: rest => ']' :: '\u200b' :: '(' :: breakLinks rest
  | character :: rest => character :: breakLinks rest

/-- `pattern.sub(lambda match: wide * len(match.group()), text)`, where the pattern is a run of
a mark, at least so long. -/
def widenRuns (mark wide : Char) (least : Nat) (text : List Char) : List Char :=
  (text.splitBy (· == ·)).flatMap fun matched =>
    if matched.head? = some mark ∧ least ≤ matched.length then List.replicate matched.length wide
    else matched

def escapeLarkMd (text : String) : String :=
  String.ofList (widenRuns '\x60' 'ˋ' 1 (widenRuns '~' '～' 2 (widenRuns '*' '＊' 2
    (breakLinks (widenAngleBrackets text.toList)))))

example : escapeLarkMd "a*b **c** [x](y) <at>" = "a*b ＊＊c＊＊ [x]\u200b(y) ＜at＞" := by decide

def workflowStatusText : WorkflowStatus → String
  | .opened => "open"
  | .acknowledged => "acknowledged"
  | .inProgress => "in_progress"
  | .resolved => "resolved"
  | .ignored => "ignored"

/-! ## Where a notification goes -/

structure NotificationTarget where
  url : String
  targetType : String
  ruleId : Option Nat
  ruleName : String

def NotificationTarget.fromRule (target : NotificationTarget) : Bool :=
  target.ruleId.isSome

def notificationTargets : List String := ["feishu", "feishu_app", "feishu_relay"]

def takesNotifications (rule : ForwardRuleSnapshot) : Bool :=
  rule.targetType ∈ notificationTargets && (rule.targetType = "feishu_app" || rule.targetUrl ≠ "")

/-- `resolve_notification_target`, of the rules that claim the event type; there are none when
the lookup fails. -/
def resolveNotificationTarget (matched : List ForwardRuleSnapshot)
    (fallbackUrl fallbackName fallbackTargetType : String) : NotificationTarget :=
  match matched.find? takesNotifications with
  | some rule =>
      { url := rule.targetUrl
        targetType := rule.targetType
        ruleId := rule.id
        ruleName :=
          if rule.name ≠ "" then rule.name
          else "rule:" ++ (match rule.id with | some id => toString id | none => "None") }
  | none =>
      { url := fallbackUrl
        targetType := fallbackTargetType
        ruleId := none
        ruleName := fallbackName }

/-- The clock of a scan, and what it reads of the configuration and of the forward rules. -/
structure BreachScan where
  now : DateTime
  matchedRules : List ForwardRuleSnapshot
  slaBreachFeishuWebhook : String
  deepAnalysisFeishuWebhook : String
  weeklyReportFeishuWebhook : String
  mentionAll : Bool
  dashboardUrl : String
  policy : ForwardDeliveryPolicy

namespace BreachScan

def configured (scan : BreachScan) : String :=
  strip (if scan.slaBreachFeishuWebhook ≠ "" then scan.slaBreachFeishuWebhook
    else if scan.deepAnalysisFeishuWebhook ≠ "" then scan.deepAnalysisFeishuWebhook
    else scan.weeklyReportFeishuWebhook)

def target (scan : BreachScan) : NotificationTarget :=
  resolveNotificationTarget scan.matchedRules scan.configured "sla-breach-notification" "feishu"

end BreachScan

/-! ## Breached resources -/

inductive ResourceType where
  | incident
  | alert
deriving DecidableEq

def ResourceType.text : ResourceType → String
  | .incident => "incident"
  | .alert => "alert"

/-- A tuple of `resources`. -/
structure Breach where
  resourceType : ResourceType
  resourceId : Nat
  title : String
  workflowStatus : WorkflowStatus
  dueAt : DateTime
  assignee : String
deriving DecidableEq

def resourcePrefix (resourceType : ResourceType) (resourceId : Nat) : String :=
  "sla-breached:" ++ resourceType.text ++ ":" ++ toString resourceId ++ ":"

def breachKey (resourceType : ResourceType) (resourceId : Nat) (dueAt : DateTime) : String :=
  resourcePrefix resourceType resourceId ++ dueAt.isoformat

def Breach.key (breach : Breach) : String :=
  breachKey breach.resourceType breach.resourceId breach.dueAt

/-- The order by `sla_due_at` and `id`. -/
def Breach.place (breach : Breach) : Int ×ₗ Nat :=
  toLex (breach.dueAt, breach.resourceId)

/-- The `WHERE` clause of both pages; what it admits is due, so the tuple can be built. -/
def overdueBreach (now : DateTime) (slaDueAt acknowledgedAt : Option DateTime)
    (workflowStatus : WorkflowStatus) (build : DateTime → Breach) : Option Breach :=
  match slaDueAt with
  | none => none
  | some dueAt =>
      if dueAt ≤ now ∧ workflowStatus ≠ .resolved ∧ workflowStatus ≠ .ignored ∧
          acknowledgedAt = none then
        some (build dueAt)
      else none

/-- The fields of a row of `incidents` which the scan reads and writes. -/
structure TrackedIncident where
  id : Nat
  title : String
  workflowStatus : WorkflowStatus
  acknowledgedAt : Option DateTime
  slaDueAt : Option DateTime
  escalatedAt : Option DateTime
  assignee : Option String

def TrackedIncident.breach (now : DateTime) (incident : TrackedIncident) : Option Breach :=
  overdueBreach now incident.slaDueAt incident.acknowledgedAt incident.workflowStatus fun dueAt =>
    { resourceType := .incident
      resourceId := incident.id
      title := incident.title
      workflowStatus := incident.workflowStatus
      dueAt := dueAt
      assignee := incident.assignee.getD "" }

/-- The fields of a row of `webhook_events` which the scan reads. -/
structure TrackedAlert where
  id : Nat
  requestId : Option String
  workflowStatus : WorkflowStatus
  acknowledgedAt : Option DateTime
  slaDueAt : Option DateTime
  assignee : Option String

def TrackedAlert.breach (now : DateTime) (event : TrackedAlert) : Option Breach :=
  overdueBreach now event.slaDueAt event.acknowledgedAt event.workflowStatus fun dueAt =>
    { resourceType := .alert
      resourceId := event.id
      title := (event.requestId.filter (· ≠ "")).getD ("Alert #" ++ toString event.id)
      workflowStatus := event.workflowStatus
      dueAt := dueAt
      assignee := event.assignee.getD "" }

/-! ## The outbox row -/

def bodyOf (scan : BreachScan) (breach : Breach) : String :=
  let assignee := escapeLarkMd breach.assignee
  "**Resource:** " ++ breach.resourceType.text ++ " #" ++ toString breach.resourceId ++ "\n" ++
    "**Title:** " ++ escapeLarkMd (truncated breach.title 160) ++ "\n" ++
    "**Workflow status:** " ++ workflowStatusText breach.workflowStatus ++ "\n" ++
    "**Assignee:** " ++ (if assignee = "" then "unassigned" else assignee) ++ "\n" ++
    "**SLA due:** " ++ breach.dueAt.isoformat ++
    (if scan.dashboardUrl = "" then "" else "\n[Open dashboard](" ++ scan.dashboardUrl ++ ")") ++
    (if scan.mentionAll then "\n<at id=\"all\"></at> unacknowledged past its SLA — please claim it."
      else "")

def cardOf (scan : BreachScan) (breach : Breach) : JsonObject :=
  [("msg_type", .str "interactive"),
    ("card", .dict
      [("header", .dict
          [("title", .dict
              [("tag", .str "plain_text"), ("content", .str "⏰ WebhookWise SLA breached")]),
            ("template", .str "red")]),
        ("elements", .list
          [.dict [("tag", .str "markdown"), ("content", .str (bodyOf scan breach))]])])]

def breachRecord (scan : BreachScan) (breach : Breach) (id : Nat) : ForwardOutbox where
  id := id
  idempotencyKey := breach.key
  webhookEventId := none
  originalEventId := none
  forwardRuleId := scan.target.ruleId
  ruleName := if scan.target.fromRule then scan.target.ruleName else "system:sla-breached"
  targetType := scan.target.targetType
  targetUrl := scan.target.url
  targetName := scan.target.ruleName
  targetGateway := ""
  isPeriodicReminder := false
  digestKey := none
  digestWindowEnd := none
  channelName := scan.target.targetType
  eventType := "sla_breached"
  status := .pending
  attempts := 0
  maxAttempts := scan.policy.maxAttempts
  nextAttemptAt := some scan.now
  lastAttemptAt := none
  sentAt := none
  lastError := none
  forwardData := none
  analysisResult := none
  formattedPayload := some (cardOf scan breach)
  responseData := none
  createdAt := scan.now
  updatedAt := scan.now

theorem breachRecord_id (scan : BreachScan) (breach : Breach) (id : Nat) :
    (breachRecord scan breach id).id = id :=
  rfl

/-! ## The scan -/

def keysOf (outbox : OutboxTable) : List String :=
  outbox.rows.map ForwardOutbox.idempotencyKey

theorem keysOf_insertOutboxOrExisting (outbox : OutboxTable) (record : Nat → ForwardOutbox)
    (keyed : ∀ id, (record id).id = id) (key : String)
    (isKey : ∀ id, (record id).idempotencyKey = key) :
    keysOf (insertOutboxOrExisting outbox record keyed).1 = enrolled (keysOf outbox) [key] := by
  unfold insertOutboxOrExisting
  rw [enrolled_cons, enrolled_nil, isKey]
  cases found : findOutboxIdByKey outbox key with
  | some existing =>
      have present : key ∈ keysOf outbox := by
        obtain ⟨row, rowFound, -⟩ := Option.map_eq_some_iff.1 found
        exact List.mem_map.2 ⟨row, List.mem_of_find?_eq_some rowFound,
          by simpa using List.find?_some rowFound⟩
      rw [if_pos present]
  | none =>
      have absent : key ∉ keysOf outbox := by
        intro present
        obtain ⟨row, member, isRow⟩ := List.mem_map.1 present
        have noRow := List.find?_eq_none.1 (Option.map_eq_none_iff.1 found) row member
        exact noRow (by simpa using isRow)
      rw [if_neg absent]
      simp [keysOf, Table.insert, isKey]

/-- The rows a scan reads and writes.  The unique index of `forward_outboxes` keeps the
idempotency keys apart. -/
structure SlaStore where
  incidents : Table TrackedIncident.id
  events : Table TrackedAlert.id
  outbox : OutboxTable
  keys_nodup : (keysOf outbox).Nodup

namespace SlaStore

def pageSize : Nat := 50

/-- The breaches of a kind which the `WHERE` clause admits. -/
def overdue (store : SlaStore) (now : DateTime) : ResourceType → List Breach
  | .incident => store.incidents.rows.filterMap (TrackedIncident.breach now)
  | .alert => store.events.rows.filterMap (TrackedAlert.breach now)

def resources (store : SlaStore) (now : DateTime) : List Breach :=
  page Breach.place pageSize (store.overdue now .incident) ++
    page Breach.place pageSize (store.overdue now .alert)

/-- `incident.escalated_at = now`, unless it was set. -/
def escalate (store : SlaStore) (now : DateTime) (breach : Breach) : SlaStore where
  incidents := store.incidents.update
    (fun incident => breach.resourceType = .incident ∧ incident.id = breach.resourceId ∧
      incident.escalatedAt = none)
    (fun incident => { incident with escalatedAt := some now }) fun _ => rfl
  events := store.events
  outbox := store.outbox
  keys_nodup := store.keys_nodup

theorem keysOf_insert (store : SlaStore) (scan : BreachScan) (breach : Breach) :
    keysOf (insertOutboxOrExisting store.outbox (breachRecord scan breach)
      (breachRecord_id scan breach)).1 = enrolled (keysOf store.outbox) [breach.key] :=
  keysOf_insertOutboxOrExisting store.outbox (breachRecord scan breach)
    (breachRecord_id scan breach) breach.key fun _ => rfl

theorem nodup_keysOf_insert (store : SlaStore) (scan : BreachScan) (breach : Breach) :
    (keysOf (insertOutboxOrExisting store.outbox (breachRecord scan breach)
      (breachRecord_id scan breach)).1).Nodup := by
  rw [keysOf_insert]
  exact nodup_enrolled store.keys_nodup

/-- `insert_outbox_or_existing` of the record of a breach. -/
def file (store : SlaStore) (scan : BreachScan) (breach : Breach) : SlaStore where
  incidents := store.incidents
  events := store.events
  outbox := (insertOutboxOrExisting store.outbox (breachRecord scan breach)
    (breachRecord_id scan breach)).1
  keys_nodup := nodup_keysOf_insert store scan breach

/-- The loop over `keys_by_resource`, with the ids of the outbox rows. -/
def queueAll (scan : BreachScan) (alreadyQueued : List String) :
    List Breach → SlaStore → SlaStore × List Nat
  | [], store => (store, [])
  | breach :: rest, store =>
      if breach.key ∈ alreadyQueued then queueAll scan alreadyQueued rest store
      else
        let outboxId := (insertOutboxOrExisting store.outbox (breachRecord scan breach)
          (breachRecord_id scan breach)).2.1
        let queued := queueAll scan alreadyQueued rest
          ((store.file scan breach).escalate scan.now breach)
        (queued.1, outboxId :: queued.2)

end SlaStore

def queueSlaBreachNotifications (store : SlaStore) (scan : BreachScan) : SlaStore × List Nat :=
  if scan.target.url = "" then (store, [])
  else
    let resources := store.resources scan.now
    let alreadyQueued := (keysOf store.outbox).filter (· ∈ resources.map Breach.key)
    SlaStore.queueAll scan alreadyQueued resources store

end SlaBreaches

end WebhookWise
