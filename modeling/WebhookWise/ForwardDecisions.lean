import WebhookWise.ForwardOutboxRecords
import WebhookWise.RuleMatching

/-!
# Deciding whether to forward an alert

An alert is withheld when noise reduction suppressed it, when it flaps, or when an active silence
matches it; otherwise the matched rules decide, and for a duplicate the time since the last
notification.  Silences are also looked for before the analysis, with less known.
-/

namespace WebhookWise

/-- The whole of `ForwardRuleSnapshot`: what filing reads, and what matching reads. -/
structure ForwardRoute extends ForwardRuleSnapshot, RuleCriteria where
  stopOnMatch : Bool

/-- `SilenceSnapshot`.  A silence mutes duplicates too: it has no `match_duplicate`. -/
structure SilenceSnapshot where
  id : Option Nat
  matchEventType : String := ""
  matchImportance : String := ""
  matchSource : String := ""
  matchPayload : String := ""
  matchProject : String := ""
  matchRegion : String := ""
  matchEnvironment : String := ""
deriving DecidableEq

structure ForwardingPolicy where
  notificationCooldownSeconds : Int
  enablePeriodicReminder : Bool
  reminderIntervalHours : Int

/-- The fields of `NoiseReductionContext` which the decision reads. -/
structure NoiseReductionContext where
  suppressForward : Bool
  reason : String

structure ForwardDecision where
  shouldForward : Bool
  skipReason : Option String
  isPeriodicReminder : Bool
  matchedRules : List ForwardRoute := []
  skipCode : String := "none"
  silenceId : Option Nat := none

/-- The keyword arguments of `decide_forwarding`, the time resolved.  Of the original
event the decision reads `last_notified_at`. -/
structure ForwardingRequest where
  eventType : String := ""
  importance : String := ""
  isDuplicate : Bool := false
  noise : Option NoiseReductionContext := none
  lastNotifiedAt : Option DateTime := none
  source : String := ""
  rules : List ForwardRoute
  policy : ForwardingPolicy
  parsedData : Option JsonObject := none
  now : DateTime
  silences : Option (List SilenceSnapshot) := none
  identity : Option MatchIdentity := none
  flapping : Bool := false

namespace ForwardDecisions

open RuleMatching

variable (runtime : MatchRuntime)

/-! ## Silences -/

/-- The rule that `_first_matching_silence` matches in place of a silence. -/
def probe (silence : SilenceSnapshot) : RuleCriteria where
  matchEventType := silence.matchEventType
  matchImportance := silence.matchImportance
  matchSource := silence.matchSource
  matchDuplicate := "all"
  matchPayload := silence.matchPayload
  matchProject := silence.matchProject
  matchRegion := silence.matchRegion
  matchEnvironment := silence.matchEnvironment

def firstMatchingSilence (silences : List SilenceSnapshot) (alert : AlertFacts) :
    Option SilenceSnapshot :=
  silences.find? fun silence => ruleMatches runtime (probe silence) alert

def matchActiveSilence (silences : List SilenceSnapshot) (alert : AlertFacts) :
    Option SilenceSnapshot :=
  if silences.isEmpty then none
  else
    firstMatchingSilence runtime silences
      { alert with
        identity := some (alert.identity.getD (extractForwardMatchFields runtime alert.parsedData)) }

/-! ## The decision -/

/-- `select_forward_rules`: the matching rules, up to the first that stops the search. -/
def selectForwardRules (alert : AlertFacts) : List ForwardRoute → List ForwardRoute
  | [] => []
  | rule :: rules =>
      if ruleMatches runtime rule.toRuleCriteria alert then
        if rule.stopOnMatch then [rule] else rule :: selectForwardRules alert rules
      else selectForwardRules alert rules

/-- `_decide_duplicate_alert`, with the time since the last notification in microseconds. -/
def decideDuplicateAlert (baseShouldForward : Bool) (sinceNotify : Option Int)
    (policy : ForwardingPolicy) (matchedRules : List ForwardRoute) : ForwardDecision :=
  let second := DateTime.microsecondsPerSecond
  if sinceNotify.any (· < policy.notificationCooldownSeconds * second) then
    { shouldForward := false
      skipReason := some "Just notified, in cooldown"
      isPeriodicReminder := false
      skipCode := "cooldown" }
  else if policy.enablePeriodicReminder &&
      sinceNotify.any (policy.reminderIntervalHours * 3600 * second ≤ ·) then
    { shouldForward := baseShouldForward
      skipReason :=
        if baseShouldForward then none else some "Periodic reminder: no matching forwarding rule"
      isPeriodicReminder := true
      matchedRules
      skipCode := if baseShouldForward then "none" else "periodic_no_rule" }
  else if baseShouldForward then
    { shouldForward := true, skipReason := none, isPeriodicReminder := false, matchedRules }
  else
    { shouldForward := false
      skipReason := some "Duplicate alert: no matching forwarding rule"
      isPeriodicReminder := false
      skipCode := "duplicate_no_rule" }

/-- What `decide_forwarding` passes to the matchers. -/
def decisionFacts (request : ForwardingRequest) : AlertFacts where
  eventType := request.eventType
  importance := request.importance
  source := request.source
  isDuplicate := request.isDuplicate
  parsedData := request.parsedData
  identity :=
    some (request.identity.getD (extractForwardMatchFields runtime request.parsedData))

/-- The end of `decide_forwarding`, after the suppressors. -/
def decideByRules (request : ForwardingRequest) (matchedRules : List ForwardRoute) :
    ForwardDecision :=
  let baseShouldForward := !matchedRules.isEmpty
  if request.isDuplicate then
    decideDuplicateAlert baseShouldForward (request.lastNotifiedAt.map (request.now - ·))
      request.policy matchedRules
  else
    { shouldForward := baseShouldForward
      skipReason := if baseShouldForward then none else some "No matching forwarding rule"
      isPeriodicReminder := false
      matchedRules
      skipCode := if baseShouldForward then "none" else "no_match" }

def decideForwarding (request : ForwardingRequest) : ForwardDecision :=
  match request.noise.filter NoiseReductionContext.suppressForward with
  | some noise =>
      { shouldForward := false
        skipReason := some ("Smart noise reduction suppressed forwarding: " ++ noise.reason)
        isPeriodicReminder := false
        skipCode := "noise_suppressed" }
  | none =>
      if request.flapping then
        { shouldForward := false
          skipReason := some "Flapping identity: notifications withheld until it stabilizes"
          isPeriodicReminder := false
          skipCode := "flapping" }
      else
        let alert := decisionFacts runtime request
        match firstMatchingSilence runtime (request.silences.getD []) alert with
        | some silenced =>
            let printed := (silenced.id.map toString).getD "None"
            { shouldForward := false
              skipReason := some ("Silenced (id=" ++ printed ++ ")")
              isPeriodicReminder := false
              skipCode := "silenced"
              silenceId := silenced.id }
        | none => decideByRules request (selectForwardRules runtime alert request.rules)

/-- The arguments of `match_active_silence` in `_resolve_silence_skip`, for the alert of a
later request: neither its event type nor its importance is known yet. -/
def preAnalysisFacts (request : ForwardingRequest) : AlertFacts where
  source := request.source
  parsedData := request.parsedData
  identity := request.identity

/-! ## What a decision tells -/

variable {runtime}

theorem firstMatchingSilence_isSome_of_learns {silences : List SilenceSnapshot}
    {earlier later : AlertFacts} (learns : Learns earlier later)
    (matched : (firstMatchingSilence runtime silences earlier).isSome = true) :
    (firstMatchingSilence runtime silences later).isSome = true := by
  simp only [firstMatchingSilence, List.find?_isSome] at matched ⊢
  rcases matched with ⟨silence, active, matches_⟩
  exact ⟨silence, active, ruleMatches_of_learns rfl learns matches_⟩

theorem learns_of_preAnalysisFacts (request : ForwardingRequest) :
    Learns
      { preAnalysisFacts request with
        identity :=
          some (request.identity.getD (extractForwardMatchFields runtime request.parsedData)) }
      (decisionFacts runtime request) where
  eventType := Or.inl rfl
  importance := Or.inl rfl
  source := Or.inr rfl
  parsedData := rfl
  identity := rfl

/-- Nothing withholds the alert before its rules are asked. -/
structure Unsuppressed (runtime : MatchRuntime) (request : ForwardingRequest) : Prop where
  noise : request.noise.filter NoiseReductionContext.suppressForward = none
  flapping : request.flapping = false
  silences : firstMatchingSilence runtime (request.silences.getD [])
    (decisionFacts runtime request) = none

theorem unsuppressed_of_shouldForward {request : ForwardingRequest}
    (forwards : (decideForwarding runtime request).shouldForward = true) :
    Unsuppressed runtime request := by
  unfold decideForwarding at forwards
  split at forwards
  · cases forwards
  · rename_i noise
    split at forwards
    · cases forwards
    · rename_i flapping
      dsimp only at forwards
      split at forwards
      · cases forwards
      · rename_i silences
        exact ⟨noise, Bool.eq_false_of_not_eq_true flapping, silences⟩

/-- A silence that mutes an alert before its analysis mutes it for good: whatever the
analysis finds, the decision withholds the alert. -/
theorem withheld_of_matchActiveSilence (request : ForwardingRequest) (silence : SilenceSnapshot)
    (matched : matchActiveSilence runtime (request.silences.getD []) (preAnalysisFacts request) =
      some silence) :
    (decideForwarding runtime request).shouldForward = false := by
  by_contra forwards
  have unsuppressed := unsuppressed_of_shouldForward (Bool.of_not_eq_false forwards)
  unfold matchActiveSilence at matched
  split at matched
  · cases matched
  · have late := firstMatchingSilence_isSome_of_learns (learns_of_preAnalysisFacts request)
      (Option.isSome_of_eq_some matched)
    simp [unsuppressed.silences] at late

private def silencedRequest : ForwardingRequest where
  eventType := "alert"
  importance := "high"
  source := "Grafana"
  rules := [{
    id := some 1, name := "all", targetType := "webhook", targetUrl := "https://example.org"
    targetName := "", targetGateway := "", stopOnMatch := false }]
  policy := ⟨60, true, 6⟩
  parsedData := some [("project", .str "shop"), ("env", .str "production")]
  now := 0
  silences := some [{ id := some 3, matchSource := "grafana,zabbix", matchEnvironment := "!dev" }]

theorem withheld_of_matchActiveSilence_source :
    (decideForwarding (.ascii ⟨[], [], [], []⟩) silencedRequest).shouldForward = false :=
  withheld_of_matchActiveSilence silencedRequest
    { id := some 3, matchSource := "grafana,zabbix", matchEnvironment := "!dev" } (by decide)

end ForwardDecisions

end WebhookWise
