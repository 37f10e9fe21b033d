import WebhookWise.IdentityKeys
import WebhookWise.WebhookDedup
import Mathlib.Logic.Function.Basic

/-!
# The analysis of an alert, and where it may come from

A new alert is analysed from the AI cache, by the rules, or by a model; a repeat is given the
analysis that Redis or the database has under its dedup key.  A correction is applied to later
analyses of the same alert hash.  The id of an event is the number of its alert.
-/

namespace WebhookWise

open IdentityKeys WebhookDedup

namespace AnalysisPipeline

/-- An alert as `parse_request` leaves it. -/
structure Alert where
  sourceConnectionId : Option Nat
  source : String
  parsedData : JsonObject

/-- The columns of an event that change what later alerts are given. -/
structure SavedEvent where
  id : Nat
  timestamp : DateTime
  importance : Option String
  aiAnalysis : JsonObject
  isDuplicate : Bool
  duplicateOf : Option Nat

/-- `ImportanceOverride`; `since` is `created_at` in ISO format. -/
structure ImportanceOverride where
  importance : String
  actor : String
  since : String

/-- An analysis in the AI cache, with its hit counter and the alert it was made for. -/
structure CacheEntry where
  writer : Nat
  analysis : JsonObject
  hits : Nat
  expiresAt : DateTime

/-- What `analyze_noise_reduction` is told of an earlier alert. -/
structure AlertContext where
  id : Nat
  source : String
  importance : String
  parsedData : JsonObject
  analysis : JsonObject
  timestamp : DateTime

/-- The clock, and which stores answer.  Without the database an alert is not resolved or
saved, but its overrides and its recent alerts are taken to be none. -/
structure Reading where
  now : DateTime
  redisUp : Bool
  databaseUp : Bool

/-- The settings, and what is computed from an alert alone. -/
structure PipelineSettings (Key : Type) where
  keys : KeySettings Key
  windows : DedupWindows
  cacheEnabled : Bool
  analysisCacheTtlSeconds : Int
  noiseWindowMinutes : Int
  promptKind : String
  promptVersion : String
  /-- `rule_excluded` or `rule_routed`, for an alert that never reaches the model. -/
  rulesRoute : Alert → Option String
  analyzeWithRules : Alert → JsonObject
  /-- `call_ai_with_breaker`, with what `set_analysis_usage` records of the call. -/
  callAi : Alert → JsonObject × Json
  applyResourceImportanceOverride : JsonObject → JsonObject → JsonObject
  isRecoveryPayload : JsonObject → JsonObject → Bool
  /-- `inbound_importance_cap_for` an importance, with the name of the rule. -/
  inboundImportanceCap : Alert → String → Option (String × String)
  /-- `inbound_digest_window_for` an importance, with the name of the rule. -/
  inboundDigestWindow : Alert → String → Option (Nat × String)
  /-- `compute_noise`, once the recent alerts are loaded. -/
  computeNoise : Alert → JsonObject → DateTime → List AlertContext → Json

/-- Where a delivery of an alert stands. -/
inductive Phase where
  | waiting
  /-- The alert is new, and its placeholder is written. -/
  | unanalyzed (dedup : DedupResult)
  /-- The AI cache has no analysis. -/
  | uncached (dedup : DedupResult)
  | analyzed (dedup : DedupResult) (analysis : JsonObject)
  | concluded (dedup : DedupResult) (analysis : JsonObject)
  | persisted (dedup : DedupResult) (analysis : JsonObject)

def Phase.dedup : Phase → Option DedupResult
  | waiting => none
  | unanalyzed dedup | uncached dedup | analyzed dedup _ | concluded dedup _ | persisted dedup _ =>
      some dedup

/-- The database, Redis, and the deliveries.  The events stand with the last inserted first.
Under a key of the AI cache stands what was ever written there, the last first: only the last
is still in Redis. -/
@[ext]
structure PipelineState (Key : Type) where
  events : List SavedEvent
  overrides : Key → Option ImportanceOverride
  remembered : Key → Option DedupEntry
  cache : Key → List CacheEntry
  phases : Nat → Phase

/-- Before the first delivery. -/
def PipelineState.initial (Key : Type) : PipelineState Key :=
  ⟨[], fun _ => none, fun _ => none, fun _ => [], fun _ => .waiting⟩

def PipelineState.setPhase {Key : Type} (state : PipelineState Key) (alert : Nat) (phase : Phase) :
    PipelineState Key :=
  { state with phases := Function.update state.phases alert phase }

section Phases

variable {Key : Type} {state : PipelineState Key} {alert : Nat} {phase : Phase}

@[simp]
theorem setPhase_phases_self : (state.setPhase alert phase).phases alert = phase :=
  Function.update_self ..

theorem setPhase_phases_of_ne {asked : Nat} (other : asked ≠ alert) :
    (state.setPhase alert phase).phases asked = state.phases asked :=
  Function.update_of_ne other ..

end Phases

inductive PipelineEvent where
  /-- `resolve_dedup`, and what follows from it at once. -/
  | resolve (alert : Nat) (reading : Reading) (silenced : Bool)
  /-- `get_cached_analysis`. -/
  | lookUp (alert : Nat) (reading : Reading)
  /-- The rest of `analyze_webhook_with_ai`; a refusal is why the model is not asked, or why
  its answer fails. -/
  | analyze (alert : Nat) (reading : Reading) (refusal : Option String)
  | correlate (alert : Nat) (reading : Reading)
  /-- The transaction of `finalize_analysis_transaction`. -/
  | save (alert : Nat) (reading : Reading) (timestamp : DateTime)
  | remember (alert : Nat) (reading : Reading)
  /-- The delivery fails, and may be made again. -/
  | abandon (alert : Nat)
  /-- `add_feedback` with a corrected importance. -/
  | correct (alert : Nat) (importance actor since : String)

def PipelineEvent.alert : PipelineEvent → Nat
  | resolve alert _ _ | lookUp alert _ | analyze alert _ _ | correlate alert _ | save alert _ _
  | remember alert _ | abandon alert | correct alert _ _ _ => alert

/-! ## Importances -/

section Importances

variable (python : PythonRuntime)

/-- `str(analysis.get("importance") or "")`. -/
def importanceText (analysis : JsonObject) : String :=
  JsonObject.strOr python analysis "importance" ""

/-- `normalize_importance`: what follows the last dot. -/
def normalizeImportance (importance : String) : String :=
  String.ofList
    ((python.lower (strip importance)).toList.reverse.takeWhile (· ≠ '.')).reverse

def importanceRank (importance : String) : Option Nat :=
  PyDict.get? [("low", 0), ("medium", 1), ("high", 2)] importance

def applyImportanceCap (analysis : JsonObject) (cap ruleName : String) : JsonObject :=
  match importanceRank cap with
  | some ceiling =>
      let current := importanceText python analysis
      if (importanceRank current).getD 2 ≤ ceiling then analysis
      else
        PyDict.set (PyDict.set analysis "importance" (.str cap)) "_importance_cap"
          (.dict [("capped_to", .str cap), ("judged", .str current), ("rule", .str ruleName)])
  | none => analysis

end Importances

variable {Key : Type} (settings : PipelineSettings Key)

/-! ## Keys -/

/-- The namespace of `_handle_raw_ingest`. -/
def Alert.identityNamespace (alert : Alert) : Option String :=
  IdentityKeys.identityNamespace alert.sourceConnectionId

def alertHash (alert : Alert) : Key :=
  (generateEventKeys settings.keys alert.parsedData alert.source alert.identityNamespace).1

def dedupKey (alert : Alert) : Key :=
  (generateEventKeys settings.keys alert.parsedData alert.source alert.identityNamespace).2

/-- The alert hash of `analyze_webhook_with_ai`, to which `_run_fresh_analysis` passes none. -/
def cacheHash (alert : Alert) : Key :=
  generateAlertHash settings.keys alert.parsedData alert.source none

/-! ## Marks on an analysis -/

def setAnalysisRoute (analysis : JsonObject) (route : String) : JsonObject :=
  PyDict.set analysis "_route_type" (.str route)

def markCacheHit (analysis : JsonObject) (count : Nat) : JsonObject :=
  PyDict.set (PyDict.set analysis "_cache_hit" (.bool true)) "_cache_hit_count" (.int count)

def setAnalysisPrompt (analysis : JsonObject) : JsonObject :=
  PyDict.set (PyDict.set analysis "_prompt_kind" (.str settings.promptKind)) "_prompt_version"
    (.str settings.promptVersion)

/-- `mark_analysis_degraded`, with a route. -/
def markAnalysisDegraded (analysis : JsonObject) (reason route : String) : JsonObject :=
  setAnalysisRoute
    (PyDict.set (PyDict.set analysis "_degraded" (.bool true)) "_degraded_reason" (.str reason)) route

def firingGlyphs : List String := ["🔴", "🟠", "🟡", "⚠️", "❗", "🚨"]

def recoveryRecolour (alert : Alert) (analysis : JsonObject) : JsonObject :=
  let summary := JsonObject.strOr settings.keys.python analysis "summary" ""
  match firingGlyphs.find? fun glyph => glyph.toList.isPrefixOf summary.toList with
  | some glyph =>
      if settings.isRecoveryPayload alert.parsedData analysis then
        PyDict.set analysis "summary"
          (.str ("🟢" ++ String.ofList (summary.toList.drop glyph.length)))
      else analysis
  | none => analysis

def applyRuleImportanceCap (alert : Alert) (analysis : JsonObject) : JsonObject :=
  match settings.inboundImportanceCap alert (importanceText settings.keys.python analysis) with
  | some (cap, ruleName) => applyImportanceCap settings.keys.python analysis cap ruleName
  | none => analysis

def markRuleDigest (alert : Alert) (analysis : JsonObject) : JsonObject :=
  let unmarked := PyDict.without analysis "_digest"
  match settings.inboundDigestWindow alert (importanceText settings.keys.python unmarked) with
  | some (minutes, ruleName) =>
      if minutes = 0 then unmarked
      else
        PyDict.set unmarked "_digest"
          (.dict [("window_minutes", .int minutes), ("rule", .str ruleName)])
  | none => unmarked

/-- The end of `resolve_noise_context`, then `build_final_analysis`. -/
def finalAnalysis (alert : Alert) (analysis : JsonObject) (noise : Json) : JsonObject :=
  PyDict.set (markRuleDigest settings alert (applyRuleImportanceCap settings alert analysis))
    "noise_reduction" noise

/-- The `NoiseReductionContext` of an alert that is not compared with others. -/
def standalone (reason : String) : Json :=
  .dict [("relation", .str "standalone"), ("root_cause_event_id", .null),
    ("confidence", .float "0.0"), ("suppress_forward", .bool false), ("reason", .str reason),
    ("related_alert_count", .int 0), ("related_alert_ids", .list [])]

/-- `apply_override`, with the override of the alert hash. -/
def applyOverride (override : Option ImportanceOverride) (analysis : JsonObject) : JsonObject :=
  match override with
  | some override =>
      PyDict.set (PyDict.set analysis "importance" (.str override.importance))
        "importance_override"
        (.dict [("applied", .bool true), ("importance", .str override.importance),
          ("model_importance", .str (importanceText settings.keys.python analysis)),
          ("actor", .str override.actor), ("since", .str override.since)])
  | none => analysis

/-! ## Readings of the database and of Redis -/

variable [DecidableEq Key] (alerts : Nat → Alert)

/-- `ORDER BY timestamp DESC, id DESC LIMIT 1`. -/
def latest (selects : SavedEvent → Bool) (events : List SavedEvent) : Option SavedEvent :=
  ((events.filter selects).insertionSort
    fun first second => second.timestamp ≤ first.timestamp).head?

def findOriginalByDedupKey (alert : Nat) (now : DateTime) (events : List SavedEvent) :
    Option SavedEvent :=
  (latest
    (fun event => dedupKey settings (alerts event.id) = dedupKey settings (alerts alert) &&
      now.addSeconds (-settings.windows.dedup) ≤ event.timestamp && !event.isDuplicate)
    events).filter fun event => hasReusableAnalysis (some event.aiAnalysis)

def resolveDedup (alert : Nat) (reading : Reading) (state : PipelineState Key) : DedupResult :=
  let remembered :=
    if reading.redisUp then
      getDedupState reading.now (state.remembered (dedupKey settings (alerts alert)))
    else none
  match remembered.bind (answerFromState reading.now settings.windows) with
  | some answer => answer
  | none =>
      match findOriginalByDedupKey settings alerts alert reading.now state.events with
      | some original => ⟨.reuse, some original.aiAnalysis, some original.id, "db_reuse", false⟩
      | none => ⟨.new, none, none, "", remembered.any fun state =>
          !within settings.windows.dedup state.lastSeenAt reading.now⟩

def liveEntry (reading : Reading) (entries : List CacheEntry) : Option CacheEntry :=
  if settings.cacheEnabled && reading.redisUp then
    entries.head?.filter fun entry => reading.now < entry.expiresAt
  else none

/-- The override that `apply_override` finds. -/
def overrideOf (alert : Nat) (reading : Reading) (state : PipelineState Key) :
    Option ImportanceOverride :=
  if reading.databaseUp then state.overrides (alertHash settings (alerts alert)) else none

def listRecentAlertContexts (alert : Nat) (reading : Reading) (events : List SavedEvent) :
    List AlertContext :=
  if reading.databaseUp then
    let recent := events.filter fun event =>
      reading.now.addMinutes (-settings.noiseWindowMinutes) ≤ event.timestamp &&
        event.timestamp ≤ reading.now &&
        alertHash settings (alerts event.id) ≠ alertHash settings (alerts alert) &&
        (alerts event.id).sourceConnectionId = (alerts alert).sourceConnectionId
    ((recent.insertionSort fun first second => second.timestamp ≤ first.timestamp).take 100).map
      fun event =>
        { id := event.id
          source := (alerts event.id).source
          importance := normalizeImportance settings.keys.python (event.importance.getD "medium")
          parsedData := (alerts event.id).parsedData
          analysis := event.aiAnalysis
          timestamp := event.timestamp }
  else []

def originalOf (events : List SavedEvent) (event : SavedEvent) : SavedEvent :=
  ((if event.isDuplicate then event.duplicateOf else some event.id).bind fun id =>
    events.find? fun other => other.id = id).getD event

def checkDuplicateEventByDedupKey (alert : Nat) (now : DateTime) (rechainPrevious : Option Nat)
    (events : List SavedEvent) : Option SavedEvent :=
  let recent (event : SavedEvent) : Bool :=
    dedupKey settings (alerts event.id) = dedupKey settings (alerts alert) &&
      now.addSeconds (-max 1 settings.windows.dedup) ≤ event.timestamp
  if rechainPrevious.isSome then latest (fun event => recent event && !event.isDuplicate) events
  else (latest recent events).map (originalOf events)

def checkDuplicateEvent (alert : Nat) (now : DateTime) (events : List SavedEvent) :
    Option SavedEvent :=
  (latest
    (fun event => alertHash settings (alerts event.id) = alertHash settings (alerts alert) &&
      now.addSeconds (-max 1 settings.windows.dedup) ≤ event.timestamp)
    events).map (originalOf events)

def prevAlertIdForSave (dedup : DedupResult) : Option Nat :=
  if dedup.action = .rechain then dedup.originalEventId else none

def resolveDuplicateStatus (alert : Nat) (now : DateTime) (dedup : DedupResult)
    (events : List SavedEvent) : Option Nat :=
  match checkDuplicateEventByDedupKey settings alerts alert now (prevAlertIdForSave dedup)
    events with
  | some original => some original.id
  | none =>
      if (prevAlertIdForSave dedup).isSome then none
      else
        match checkDuplicateEvent settings alerts alert now events with
        | some original => some original.id
        | none => if dedup.action = .reuse then dedup.originalEventId else none

/-! ## Steps -/

/-- `remember_dedup_state`. -/
def rememberDedup (alert : Nat) (reading : Reading) (originalEventId : Nat)
    (analysis : JsonObject) (resetChain : Bool) (state : PipelineState Key) :
    PipelineState Key :=
  let key := dedupKey settings (alerts alert)
  if reading.redisUp then
    { state with
      remembered := Function.update state.remembered key
        (some (rememberDedupState reading.now (dedupTtlSeconds settings.windows.dedup)
          originalEventId analysis resetChain (state.remembered key))) }
  else state

/-- `_resolve_noise_context` up to the analysis: a repeat is given the analysis that is found,
a silenced alert none. -/
def resolved (alert : Nat) (reading : Reading) (silenced : Bool) (state : PipelineState Key) :
    PipelineState Key :=
  let dedup := resolveDedup settings alerts alert reading state
  if dedup.action ≠ .new then
    let reused := setAnalysisRoute (dedup.analysis.getD []) dedup.routeType
    state.setPhase alert
      (.concluded dedup (finalAnalysis settings (alerts alert)
        (recoveryRecolour settings (alerts alert) reused) (standalone "Cache reuse path")))
  else if silenced then
    let placeholder := (WebhookIngest.presentAnalysis dedup.analysis).getD
      WebhookIngest.unknownAnalysisResult
    state.setPhase alert
      (.concluded dedup (finalAnalysis settings (alerts alert)
        (setAnalysisRoute placeholder "silenced_skip") (standalone "Silenced: analysis skipped")))
  else
    (rememberDedup settings alerts alert reading 0 pendingDedupPlaceholder dedup.resetChain
      state).setPhase alert (.unanalyzed dedup)

/-- `get_cached_analysis`, and the rest of a cache hit. -/
def lookedUp (alert : Nat) (reading : Reading) (dedup : DedupResult) (state : PipelineState Key) :
    PipelineState Key :=
  let key := cacheHash settings (alerts alert)
  match liveEntry settings reading (state.cache key) with
  | some entry =>
      let cached := settings.applyResourceImportanceOverride
        (markCacheHit entry.analysis (entry.hits + 1)) (alerts alert).parsedData
      { state with
        cache := Function.update state.cache key
          ({ entry with hits := entry.hits + 1 } :: (state.cache key).tail) }.setPhase alert
        (.analyzed dedup (applyOverride settings (overrideOf settings alerts alert reading state)
          (setAnalysisRoute cached "cache")))
  | none => state.setPhase alert (.uncached dedup)

def modelAnalysis (alert : Alert) : JsonObject :=
  setAnalysisPrompt settings
    (settings.applyResourceImportanceOverride (settings.callAi alert).1 alert.parsedData)

/-- The result of `analyze_webhook_with_ai` past the cache, and what it caches. -/
def analyzeWebhookWithAi (alert : Alert) (refusal : Option String) :
    JsonObject × Option JsonObject :=
  match settings.rulesRoute alert, refusal with
  | some route, _ => (setAnalysisRoute (settings.analyzeWithRules alert) route, none)
  | none, some reason =>
      (markAnalysisDegraded (settings.analyzeWithRules alert) reason "rule", none)
  | none, none =>
      let analysis := modelAnalysis settings alert
      (setAnalysisRoute (PyDict.set analysis "_usage" (settings.callAi alert).2) "ai",
        if analysis.truthyAt "_degraded" then none
        else some (analysis.filter fun entry => entry.1.toList.head? ≠ some '_'))

def saveToCache (alert : Nat) (reading : Reading) (analysis : Option JsonObject)
    (state : PipelineState Key) : PipelineState Key :=
  let key := cacheHash settings (alerts alert)
  match analysis.filter fun _ => settings.cacheEnabled && reading.redisUp with
  | some analysis =>
      { state with
        cache := Function.update state.cache key
          (⟨alert, analysis, 0, reading.now.addSeconds (max 1 settings.analysisCacheTtlSeconds)⟩ ::
            state.cache key) }
  | none => state

/-- `finalize_analysis_transaction`.  A request that is completed is not saved again. -/
def saved (alert : Nat) (reading : Reading) (timestamp : DateTime) (dedup : DedupResult)
    (analysis : JsonObject) (state : PipelineState Key) : PipelineState Key :=
  if state.events.any fun event => event.id = alert then state
  else
    let original := (resolveDuplicateStatus settings alerts alert reading.now dedup
      state.events).filter fun id => state.events.any fun event => event.id = id
    { state with
      events :=
        { id := alert
          timestamp := timestamp
          importance := WebhookIngest.importanceOf analysis
          aiAnalysis := analysis
          isDuplicate := original.isSome
          duplicateOf := original } :: state.events }

/-- `add_feedback`: it corrects the column, and with `remember_override` the later alerts. -/
def corrected (alert : Nat) (importance actor since : String) (state : PipelineState Key) :
    PipelineState Key :=
  let key := alertHash settings (alerts alert)
  if state.events.any fun event => event.id = alert then
    { state with
      events := state.events.map fun event =>
        if event.id = alert then { event with importance := some importance } else event
      overrides :=
        if importance ∈ ["high", "medium", "low"] then
          Function.update state.overrides key
            (some ⟨importance, actor, ((state.overrides key).map ImportanceOverride.since).getD
              since⟩)
        else state.overrides }
  else state

def step (state : PipelineState Key) : PipelineEvent → PipelineState Key
  | .resolve alert reading silenced =>
      match state.phases alert with
      | .waiting => resolved settings alerts alert reading silenced state
      | _ => state
  | .lookUp alert reading =>
      match state.phases alert with
      | .unanalyzed dedup => lookedUp settings alerts alert reading dedup state
      | _ => state
  | .analyze alert reading refusal =>
      match state.phases alert with
      | .uncached dedup =>
          let (analysis, cacheable) := analyzeWebhookWithAi settings (alerts alert) refusal
          (saveToCache settings alerts alert reading cacheable state).setPhase alert
            (.analyzed dedup
              (applyOverride settings (overrideOf settings alerts alert reading state) analysis))
      | _ => state
  | .correlate alert reading =>
      match state.phases alert with
      | .analyzed dedup analysis =>
          let noise := settings.computeNoise (alerts alert) analysis reading.now
            (listRecentAlertContexts settings alerts alert reading state.events)
          state.setPhase alert
            (.concluded dedup (finalAnalysis settings (alerts alert) analysis noise))
      | _ => state
  | .save alert reading timestamp =>
      match state.phases alert with
      | .concluded dedup analysis =>
          (saved settings alerts alert reading timestamp dedup analysis state).setPhase alert
            (.persisted dedup analysis)
      | _ => state
  | .remember alert reading =>
      match state.phases alert with
      | .persisted dedup analysis =>
          (rememberDedup settings alerts alert reading alert analysis
            (dedup.resetChain || dedup.action = .rechain) state).setPhase alert .waiting
      | _ => state
  | .abandon alert => state.setPhase alert .waiting
  | .correct alert importance actor since =>
      corrected settings alerts alert importance actor since state

/-! ## What is isolated -/

def storedAnalyses (connection : Option Nat) (state : PipelineState Key) :
    List (Nat × JsonObject) :=
  (state.events.filter fun event => (alerts event.id).sourceConnectionId = connection).map
    fun event => (event.id, event.aiAnalysis)

def isOf (connection : Option Nat) (event : PipelineEvent) : Bool :=
  (alerts event.alert).sourceConnectionId = connection

end AnalysisPipeline

end WebhookWise
