import WebhookWise.NoiseCenter

/-!
# Applying a suggestion of the noise centre

An application changes one rule, or adds one silence, and records what it did as an action
under the id of the suggestion.  A suggestion that is recorded as applied is refused.
-/

namespace WebhookWise

namespace NoiseActions

open RuleMatching SqlTable RuleMarks ImportanceCeilings NoiseCenter

/-- What the page is told. -/
inductive Reply where
  | changed (action : NoiseAction)
  | refused (reason : String)
  /-- The database refuses a value. -/
  | failed
deriving DecidableEq

inductive Applied where
  | changed (state : NoiseState) (change : Change) (resourceId : Nat)
  | refused (reason : String)
  | failed

section Calls

variable (runtime : NoiseRuntime)

/-! ## Inbound rules -/

def validate (payload : CapRule) : Option String :=
  let action := strip payload.action
  let value := runtime.lower (strip payload.actionValue)
  let criteria :=
    [payload.matchEventType, payload.matchImportance, payload.matchSource, payload.matchProject,
      payload.matchRegion, payload.matchEnvironment, payload.matchPayload, payload.matchRuleName]
  if ! ["cap_importance", "digest", "skip_ai", "skip_deep_analysis"].contains action then
    some "action must be one of cap_importance, digest, skip_ai, skip_deep_analysis"
  else if strip payload.name = "" then some "name is required"
  else if action = "cap_importance" && ! ["high", "low", "medium"].contains value then
    some "cap_importance needs action_value to be one of high, low, medium"
  else if action = "digest" && (parseDigestWindowMinutes runtime.toJudgeRuntime value).isNone then
    some "digest needs action_value to be a window in whole minutes between 5 and 1440"
  else if action ≠ "cap_importance" && action ≠ "digest" && value ≠ "" then
    some (action ++ " takes no action_value")
  else if action = "skip_ai" && strip payload.matchImportance ≠ "" then
    some ("a skip_ai rule runs before the alert is judged, so it cannot filter on " ++
      "match_importance — it would never match")
  else if criteria.all fun text => strip text = "" then
    some "a rule with no criteria would match every alert; state at least one"
  else none

def normalizeActionValue (action value : String) : String :=
  let text := runtime.lower (strip value)
  if action = "digest" then
    match parseDigestWindowMinutes runtime.toJudgeRuntime text with
    | some minutes => toString minutes
    | none => text
  else text

/-- The row of `create_inbound_rule`. -/
def inboundRuleOf (payload : CapRule) (id : Nat) : InboundRule :=
  { payload with
    id
    name := strip payload.name
    action := strip payload.action
    actionValue := normalizeActionValue runtime (strip payload.action) payload.actionValue
    matchDuplicate := if payload.matchDuplicate = "" then "all" else payload.matchDuplicate }

@[simp]
theorem inboundRuleOf_id (payload : CapRule) (id : Nat) :
    (inboundRuleOf runtime payload id).id = id :=
  rfl

theorem inboundRuleOf_actionValue (payload : CapRule) (id : Nat) :
    (inboundRuleOf runtime payload id).actionValue =
      normalizeActionValue runtime (strip payload.action) payload.actionValue :=
  rfl

/-- What `update_inbound_rule` makes of a digest rule that is enabled again. -/
def enabledAgain (windowMinutes : Nat) (rule : InboundRule) : InboundRule :=
  { rule with
    enabled := true
    actionValue := normalizeActionValue runtime rule.action (toString windowMinutes) }

@[simp]
theorem enabledAgain_id (windowMinutes : Nat) (rule : InboundRule) :
    (enabledAgain runtime windowMinutes rule).id = rule.id :=
  rfl

/-! ## Applying -/

/-- The branch of `apply_noise_suggestion` for a duplicate filter. -/
def applyDuplicateFilter (state : NoiseState) (ruleId : Nat) : Applied :=
  match state.forwardRules.lookup ruleId with
  | none => .refused "rule_state_changed"
  | some rule =>
      if !rule.enabled || rule.duplicateMode ≠ "all" then .refused "rule_state_changed"
      else
        .changed
          { state with
            forwardRules := state.forwardRules.update (fun rule => rule.id = ruleId)
              (fun rule => { rule with matchDuplicate := "new" }) fun _ => rfl }
          (.duplicateFilter rule.duplicateMode "new") ruleId

/-- The row of `create_silence`. -/
def trialSilence (now : DateTime) (actor source ruleName matchPayload : String)
    (durationHours id : Nat) : Silence where
  id := id
  selectors := { id := some id, matchSource := source, matchPayload := matchPayload }
  comment := "Noise Center trial for " ++ ruleName
  createdBy := actor
  expiresAt := some (now.addSeconds (3600 * durationHours))

def applyTemporarySilence (actor : String) (state : NoiseState)
    (source ruleName matchPayload : String) (durationHours : Nat) : Applied :=
  let hours := max 1 (min 168 durationHours)
  .changed
    { state with
      silences := state.silences.insert
        (trialSilence state.now actor source ruleName matchPayload hours) fun _ => rfl }
    (.temporarySilence state.silences.nextKey source matchPayload hours) state.silences.nextKey

def digestPayload (ruleName : String) (windowMinutes : Nat) : CapRule where
  name := "digest " ++ toString windowMinutes ++ "m: " ++ ruleName
  action := "digest"
  actionValue := toString windowMinutes
  matchRuleName := ruleName

@[simp]
theorem digestPayload_action (ruleName : String) (windowMinutes : Nat) :
    (digestPayload ruleName windowMinutes).action = "digest" :=
  rfl

@[simp]
theorem digestPayload_actionValue (ruleName : String) (windowMinutes : Nat) :
    (digestPayload ruleName windowMinutes).actionValue = toString windowMinutes :=
  rfl

def existingDigest (state : NoiseState) (ruleName : String) : Option InboundRule :=
  state.inboundRules.selectFirst (fun first second => first.id ≤ second.id) fun rule =>
    rule.action = "digest" && rule.matchRuleName = ruleName

/-- The branch for a digest.  The column of the name holds a hundred characters. -/
def applyDigest (state : NoiseState) (ruleName : String) (windowMinutes : Nat) : Applied :=
  let payload := digestPayload ruleName windowMinutes
  if (validate runtime payload).isSome then .refused "invalid_inbound_rule"
  else
    match existingDigest state ruleName with
    | none =>
        if 100 < (strip payload.name).length then .failed
        else
          .changed
            { state with
              inboundRules :=
                state.inboundRules.insert (inboundRuleOf runtime payload)
                  (inboundRuleOf_id runtime payload) }
            (.digest state.inboundRules.nextKey ruleName windowMinutes) state.inboundRules.nextKey
    | some existing =>
        .changed
          { state with
            inboundRules := state.inboundRules.update (fun rule => rule.id = existing.id)
              (enabledAgain runtime windowMinutes) (enabledAgain_id runtime windowMinutes) }
          (.digest existing.id ruleName windowMinutes) existing.id

/-- The branches of `apply_noise_suggestion`. -/
def applyRemedy (actor : String) (state : NoiseState) : Remedy → Applied
  | .duplicateFilter ruleId => applyDuplicateFilter state ruleId
  | .temporarySilence source ruleName matchPayload durationHours =>
      applyTemporarySilence actor state source ruleName matchPayload durationHours
  | .digest ruleName windowMinutes => applyDigest runtime state ruleName windowMinutes
  | .tuneThreshold .. => .refused "unsupported_suggestion"

/-- The row that `apply_noise_suggestion` records. -/
def recorded (suggestion : Suggestion) (actor : String) (now : DateTime) (change : Change)
    (resourceId id : Nat) : NoiseAction where
  id := id
  suggestionId := suggestion.id
  change := change
  resourceId := resourceId
  estimatedNotifications := suggestion.estimatedNotifications
  status := .applied
  actor := actor
  createdAt := now

/-- The end of `apply_noise_suggestion`: a change is recorded. -/
def concluded (suggestion : Suggestion) (actor : String) (state : NoiseState) :
    Applied → NoiseState × Reply
  | .refused reason => (state, .refused reason)
  | .failed => (state, .failed)
  | .changed next change resourceId =>
      ({ next with
          actions := next.actions.insert
            (recorded suggestion actor state.now change resourceId) fun _ => rfl },
        .changed (recorded suggestion actor state.now change resourceId next.actions.nextKey))

/-- Whether `apply_noise_suggestion` finds the suggestion applied already. -/
def isRecorded (state : NoiseState) (suggestionId : String) : Bool :=
  state.actions.rows.any fun action =>
    action.suggestionId = suggestionId && action.status = .applied

def applyNoiseSuggestion (observed : Observed) (actor : String) (state : NoiseState)
    (suggestionId : String) : NoiseState × Reply :=
  if isRecorded state suggestionId then (state, .refused "already_applied")
  else
    match (state.buildSuggestions runtime observed).find? fun suggestion =>
        suggestion.id = suggestionId with
    | none => (state, .refused "suggestion_not_available")
    | some suggestion =>
        if !suggestion.actionAvailable then (state, .refused "suggestion_not_available")
        else
          concluded suggestion actor state (applyRemedy runtime actor state suggestion.remedy)

end Calls

end NoiseActions

end WebhookWise
