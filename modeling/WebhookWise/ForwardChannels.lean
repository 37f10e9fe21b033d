import Mathlib.Data.List.ReduceOption
import WebhookWise.PythonValues

/-!
# Outbox rows and forward channels

The channel registry decides from a row how it is delivered; the enqueue path decides, before the
row exists, whether its rows can be delivered as one digest.  The two decisions agree.
-/

namespace WebhookWise

inductive ForwardOutboxStatus where
  | pending
  | processing
  | retrying
  | sent
  | expired
  | exhausted
deriving DecidableEq, Repr

namespace ForwardOutboxStatus

/-- `_is_outbox_terminal`. -/
def isTerminal : ForwardOutboxStatus → Bool
  | sent | expired | exhausted => true
  | pending | processing | retrying => false

def isQueued : ForwardOutboxStatus → Bool
  | pending | retrying => true
  | processing | sent | expired | exhausted => false

/-- The statuses `requeue_forward_outbox` accepts. -/
def isRequeueable : ForwardOutboxStatus → Bool
  | exhausted | expired | retrying | pending => true
  | processing | sent => false

variable {status : ForwardOutboxStatus}

theorem isTerminal_eq_false_of_isQueued (queued : status.isQueued = true) :
    status.isTerminal = false := by
  cases status <;> simp_all [isQueued, isTerminal]

theorem ne_sent_of_not_isTerminal (unsettled : status.isTerminal = false) : status ≠ sent := by
  rintro rfl
  simp [isTerminal] at unsettled

theorem ne_sent_of_isRequeueable (requeueable : status.isRequeueable = true) : status ≠ sent := by
  rintro rfl
  simp [isRequeueable] at requeueable

end ForwardOutboxStatus

/-- A row of `forward_outboxes`. -/
structure ForwardOutbox where
  id : Nat
  idempotencyKey : String
  webhookEventId : Option Nat
  originalEventId : Option Nat
  forwardRuleId : Option Nat
  ruleName : String
  targetType : String
  targetUrl : String
  targetName : String
  targetGateway : String
  isPeriodicReminder : Bool
  digestKey : Option String
  digestWindowEnd : Option DateTime
  channelName : String
  eventType : String
  status : ForwardOutboxStatus
  attempts : Nat
  maxAttempts : Nat
  nextAttemptAt : Option DateTime
  lastAttemptAt : Option DateTime
  sentAt : Option DateTime
  lastError : Option String
  forwardData : Option JsonObject
  analysisResult : Option JsonObject
  formattedPayload : Option JsonObject
  responseData : Option JsonObject
  createdAt : DateTime
  updatedAt : DateTime

namespace ForwardOutbox

/-- `_related_webhook_event_ids`: the two event ids of a row, without a zero and
without a repetition. -/
def relatedWebhookEventIds (record : ForwardOutbox) : List Nat :=
  ([record.webhookEventId, record.originalEventId].reduceOption.filter (· ≠ 0)).eraseDups

/-- The row waits for no later time than `now`. -/
def dueAt (now : DateTime) (record : ForwardOutbox) : Bool :=
  match record.nextAttemptAt with
  | none => true
  | some due => due ≤ now

/-- `str(record.digest_key or "")`, with `none` for the empty text. -/
def groupKey (record : ForwardOutbox) : Option String :=
  record.digestKey.filter (· ≠ "")

end ForwardOutbox

namespace ForwardChannels

def forwardPending : String := "_pending"

def isPendingResult (result : JsonObject) : Bool :=
  result.truthyAt forwardPending

inductive ForwardChannel where
  | deepAnalysis
  | feishuRelay
  | feishuApp
  | feishu
  | dingtalk
  | wecom
  | webhook
deriving DecidableEq, Repr

/-- Whether the channel implements `DigestChannel`. -/
def ForwardChannel.canDigest : ForwardChannel → Bool
  | feishuApp | feishu | dingtalk | wecom => true
  | deepAnalysis | feishuRelay | webhook => false

/-- `needs_followup_on_success`: only the deep-analysis channel asks for a
follow-up record, and only for a pending result. -/
def ForwardChannel.needsFollowupOnSuccess (channel : ForwardChannel) (result : JsonObject) : Bool :=
  match channel with
  | .deepAnalysis => isPendingResult result
  | _ => false

variable (python : PythonRuntime)

private def withoutTrailingDots (host : String) : String :=
  String.ofList (host.toList.reverse.dropWhile (· = '.')).reverse

def isFeishuUrl (url : String) : Bool :=
  match python.urlparse url with
  | none => false
  | some parts =>
      let host := withoutTrailingDots (python.lower (parts.hostname.getD ""))
      ["feishu.cn", "larksuite.com"].contains host ||
        [".feishu.cn", ".larksuite.com"].any fun suffix => host.endsWith suffix

private def isRobotUrl (host pathHead url : String) : Bool :=
  match python.urlparse (strip url) with
  | none => false
  | some parts =>
      parts.scheme = "https" && parts.hostname = some host && parts.path.startsWith pathHead

def isDingtalkUrl (url : String) : Bool :=
  isRobotUrl python "oapi.dingtalk.com" "/robot/send" url

def isWecomUrl (url : String) : Bool :=
  isRobotUrl python "qyapi.weixin.qq.com" "/cgi-bin/webhook/send" url

def isChatTarget (targetType targetUrl : String) : Bool :=
  if targetType = "deep_analysis" ∨ targetType = "feishu_relay" then false
  else if targetType = "feishu_app" then true
  else isFeishuUrl python targetUrl || isDingtalkUrl python targetUrl || isWecomUrl python targetUrl

/-- `record.channel_name or record.target_type`. -/
def channelKind (record : ForwardOutbox) : String :=
  if record.channelName = "" then record.targetType else record.channelName

/-- `matches` of each channel. -/
def ForwardChannel.matchesRecord (channel : ForwardChannel) (record : ForwardOutbox) : Bool :=
  match channel with
  | .deepAnalysis => channelKind record = "deep_analysis"
  | .feishuRelay => channelKind record = "feishu_relay"
  | .feishuApp => channelKind record = "feishu_app"
  | .feishu => channelKind record ≠ "deep_analysis" && isFeishuUrl python record.targetUrl
  | .dingtalk => isDingtalkUrl python record.targetUrl
  | .wecom => isWecomUrl python record.targetUrl
  | .webhook => true

/-- `_CHANNELS`, in the order in which they are tried. -/
def channels : List ForwardChannel :=
  [.deepAnalysis, .feishuRelay, .feishuApp, .feishu, .dingtalk, .wecom, .webhook]

def resolveChannel (record : ForwardOutbox) : ForwardChannel :=
  (channels.find? fun channel => channel.matchesRecord python record).getD .webhook

end ForwardChannels

end WebhookWise
