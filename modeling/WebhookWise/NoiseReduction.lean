import WebhookWise.AlertFinalization
import Mathlib.Algebra.Field.Defs
import Mathlib.Algebra.Order.Ring.Defs
import Mathlib.Data.Finset.Lattice.Basic
import Mathlib.Data.Finset.Card

/-!
# Comparing an alert with the alerts around it

Every fresh alert is scored against the recent alerts of other identities: by their source,
their resources, their words, their importance and their time.  When the best of them scores
high enough, the alert is taken for a consequence of it and may be withheld.

The scores are exact numbers of any ordered field.
-/

namespace WebhookWise

namespace NoiseReduction

open WebhookIngest AlertFinalization

/-- What the scoring takes from Python: the value of a float that prints so, the square root,
and the texts of scores. -/
structure ScoreRuntime (Score : Type) extends PythonRuntime where
  floatValue : String → Score
  sqrt : Score → Score
  /-- `round(score, 4)`, as it prints. -/
  roundFour : Score → String
  /-- `f"{score:.2f}"`. -/
  formatTwo : Score → String

structure NoiseScoringConfig (Score : Type) where
  sourceWeight : Score
  resourceWeight : Score
  semanticWeight : Score
  severityWeight : Score
  timeWeight : Score
  severityDowngradeScore : Score
  relatedMinConfidence : Score

structure NoiseReductionPolicy (Score : Type) where
  enabled : Bool
  windowMinutes : Int
  rootCauseMinConfidence : Score
  suppressDerivedForward : Bool
  scoringConfig : NoiseScoringConfig Score

structure AlertContext where
  eventId : Option Nat
  source : String
  importance : String
  parsedData : JsonObject
  analysis : JsonObject
  timestamp : DateTime

/-! ## Features -/

def dictOrEmpty : Option Json → JsonObject
  | some (.dict entries) => entries
  | _ => []

def listOrEmpty : Option Json → List Json
  | some (.list items) => items
  | _ => []

/-- The longest runs of such characters, of at least some length: `re.findall` of a class. -/
def runsOf (isPart : Char → Bool) (least : Nat) (text : String) : List String :=
  (RuleMatching.splitWhere (fun character => !isPart character) text).filter fun part =>
    least ≤ part.length

/-- `[a-z0-9_.-]`. -/
def isWordCharacter (character : Char) : Bool :=
  character.isLower || character.isDigit || character ∈ ['_', '.', '-']

/-- `[\u4e00-\u9fff]`. -/
def isHanCharacter (character : Char) : Bool :=
  0x4e00 ≤ character.toNat && character.toNat ≤ 0x9fff

section Features

variable (python : PythonRuntime)

def tokenizeText (values : List (Option Json)) : Finset String :=
  (values.flatMap fun value =>
    match value with
    | none | some .null => []
    | some value =>
        let text := strip (python.lower (value.pyStr python))
        runsOf isWordCharacter 3 text ++ runsOf isHanCharacter 2 text).toFinset

/-- `str(value).strip().lower()`, if the value is there and not falsy. -/
def loweredText (value : Option Json) : List String :=
  match value with
  | some value =>
      if value.truthy then [python.lower (strip (value.pyStr python))] else []
  | none => []

def firstAlert (parsedData : JsonObject) : JsonObject :=
  dictOrEmpty (listOrEmpty (PyDict.get? parsedData "alerts")).head?

def resourceId (resource : Json) : Option String :=
  match resource with
  | .dict entries =>
      (["InstanceId", "Id", "id"].flatMap fun key =>
        ((PyDict.get? entries key).filter Json.truthy).toList.map fun value =>
          strip (value.pyStr python)).find? (· ≠ "") |>.map python.lower
  | _ => none

def extractResourceIds (parsedData : JsonObject) : Finset String :=
  let direct := ["resource_id", "ResourceID", "InstanceId", "instance", "host", "pod"].flatMap
    fun key => loweredText python (PyDict.get? parsedData key)
  let resources := (listOrEmpty (PyDict.get? parsedData "Resources")).filterMap (resourceId python)
  let labels := dictOrEmpty (PyDict.get? (firstAlert parsedData) "labels")
  let labelled := ["instance", "pod", "host", "service", "namespace"].flatMap
    fun key => loweredText python (PyDict.get? labels key)
  ((direct ++ resources ++ labelled).filter (· ≠ "")).toFinset

/-- `_extract_features`: the ids of the resources, and the words. -/
def extractFeatures (context : AlertContext) : Finset String × Finset String :=
  let parsed := context.parsedData
  let first := firstAlert parsed
  let labels := dictOrEmpty (PyDict.get? first "labels")
  let annotations := dictOrEmpty (PyDict.get? first "annotations")
  (extractResourceIds python parsed,
    tokenizeText python
      ((["RuleName", "alert_name", "event_type", "event", "MetricName", "Type", "service"].map
          fun key => PyDict.get? parsed key) ++
        (["event_type", "summary", "root_cause", "impact_scope"].map
          fun key => PyDict.get? context.analysis key) ++
        (["alertname", "severity", "service"].map fun key => PyDict.get? labels key) ++
        (["summary", "description"].map fun key => PyDict.get? annotations key)))

end Features

/-! ## Scores -/

section Scores

variable {Score : Type} [Field Score] [LinearOrder Score] (runtime : ScoreRuntime Score)

def jaccard (first second : Finset String) : Score :=
  if first = ∅ ∨ second = ∅ then 0
  else ((first ∩ second).card : Score) / ((first ∪ second).card : Score)

/-- `float(item)`, if it is a number; a `bool` is one. -/
def numberOf : Json → Option Score
  | .int value => some value
  | .float printed => some (runtime.floatValue printed)
  | .bool value => some (if value then 1 else 0)
  | _ => none

/-- The embedding in one container, `container.get("_embedding") or container.get("embedding")`. -/
def embeddingIn (container : JsonObject) : Option (List Score) :=
  let value := ((PyDict.get? container "_embedding").filter Json.truthy).orElse fun _ =>
    PyDict.get? container "embedding"
  match value with
  | some (.list (item :: items)) => (item :: items).mapM (numberOf runtime)
  | _ => none

def getEmbedding (context : AlertContext) : Option (List Score) :=
  (embeddingIn runtime context.analysis).orElse fun _ => embeddingIn runtime context.parsedData

/-- The cosine of two vectors of one length, cut to the unit interval. -/
def embeddingScore (first second : List Score) : Score :=
  if first.length = second.length then
    let dot := (List.zipWith (· * ·) first second).sum
    let firstNorm := runtime.sqrt ((first.map fun coordinate => coordinate * coordinate).sum)
    let secondNorm := runtime.sqrt ((second.map fun coordinate => coordinate * coordinate).sum)
    if 0 < firstNorm ∧ 0 < secondNorm then max 0 (min 1 (dot / (firstNorm * secondNorm))) else 0
  else 0

def semanticSimilarity (current candidate : AlertContext)
    (currentTokens candidateTokens : Finset String) : Score :=
  let embedded :=
    match getEmbedding runtime current, getEmbedding runtime candidate with
    | some first, some second => embeddingScore runtime first second
    | _, _ => 0
  max embedded (jaccard currentTokens candidateTokens)

/-- `imp_map.get(str(importance).lower(), 0.6)`. -/
def importanceLevel (importance : String) : Score :=
  let lowered := runtime.lower importance
  if lowered = "high" then 1 else if lowered = "low" then 1 / 5 else 3 / 5

def scoreCandidate (current candidate : AlertContext) (windowMinutes : Int)
    (config : NoiseScoringConfig Score) : Score :=
  if current.timestamp < candidate.timestamp then 0
  else
    let elapsed : Score := ((current.timestamp - candidate.timestamp : Int) : Score) /
      (DateTime.microsecondsPerSecond : Score)
    let windowSeconds : Score := ((max windowMinutes 1 * 60 : Int) : Score)
    let currentFeatures := extractFeatures runtime.toPythonRuntime current
    let candidateFeatures := extractFeatures runtime.toPythonRuntime candidate
    let sourceScore := if current.source = candidate.source then config.sourceWeight else 0
    let resourceScore := config.resourceWeight * jaccard currentFeatures.1 candidateFeatures.1
    let semanticScore := config.semanticWeight *
      semanticSimilarity runtime current candidate currentFeatures.2 candidateFeatures.2
    let severityScore :=
      if importanceLevel runtime current.importance ≤ importanceLevel runtime candidate.importance
      then config.severityWeight else config.severityDowngradeScore
    let timeScore := config.timeWeight * (1 - elapsed / windowSeconds)
    let total := sourceScore + resourceScore + semanticScore + severityScore + timeScore
    if total < 0 then 0 else if 1 < total then 1 else total

/-- `scored.sort(key=lambda item: item[1], reverse=True)`, which is stable. -/
def HigherScore (first second : AlertContext × Score) : Prop :=
  second.2 ≤ first.2

instance : DecidableRel (@HigherScore Score _) :=
  fun first second => inferInstanceAs (Decidable (second.2 ≤ first.2))

def collectRelated (current : AlertContext) (recentAlerts : List AlertContext)
    (windowMinutes : Int) (config : NoiseScoringConfig Score) : List (AlertContext × Score) :=
  ((recentAlerts.map fun alert =>
    (alert, scoreCandidate runtime current alert windowMinutes config)).filter fun scored =>
      0 < scored.2).insertionSort HigherScore

/-! ## The decision -/

/-- An alert that is related to no other. -/
def standalone (reason : String) : NoiseFindings where
  relation := "standalone"
  rootCauseEventId := none
  confidence := "0.0"
  suppressForward := false
  reason
  relatedAlertCount := 0
  relatedAlertIds := []

def analyzeNoiseReduction (current : AlertContext) (recentAlerts : List AlertContext)
    (policy : NoiseReductionPolicy Score) : NoiseFindings :=
  let scored := collectRelated runtime current recentAlerts policy.windowMinutes
    policy.scoringConfig
  match scored with
  | [] => standalone "No correlatable alert relationship found"
  | (bestAlert, bestScore) :: _ =>
      let relatedIds := (scored.filter fun alert =>
        policy.scoringConfig.relatedMinConfidence ≤ alert.2).filterMap fun alert => alert.1.eventId
      let findings (relation : String) (rootCauseEventId : Option Nat) (suppressForward : Bool)
          (reason : String) : NoiseFindings :=
        { relation
          rootCauseEventId
          confidence := runtime.roundFour bestScore
          suppressForward
          reason
          relatedAlertCount := relatedIds.length
          relatedAlertIds := relatedIds }
      match bestAlert.eventId.filter fun _ => policy.rootCauseMinConfidence ≤ bestScore with
      | some eventId =>
          findings "derived" (some eventId) policy.suppressDerivedForward
            ("Highly correlated with alert #" ++ toString eventId ++ " (confidence " ++
              runtime.formatTwo bestScore ++ ")")
      | none =>
          if current.importance = "high" ∧ 2 ≤ relatedIds.length then
            findings "root_cause" current.eventId false
              ("Alert storm detected; correlated " ++ toString relatedIds.length ++
                " nearby alerts")
          else
            findings "standalone" none false
              ("Weakly correlated alerts exist, " ++
                "but the root-cause determination threshold was not reached")

theorem mem_of_mem_collectRelated {current : AlertContext} {recentAlerts : List AlertContext}
    {windowMinutes : Int} {config : NoiseScoringConfig Score} {scored : AlertContext × Score}
    (member : scored ∈ collectRelated runtime current recentAlerts windowMinutes config) :
    scored.1 ∈ recentAlerts := by
  have kept := List.mem_of_mem_filter ((List.perm_insertionSort _ _).mem_iff.1 member)
  obtain ⟨alert, recent, rfl⟩ := List.mem_map.1 kept
  exact recent

theorem analyzeNoiseReduction_suppressed {current : AlertContext}
    {recentAlerts : List AlertContext} {policy : NoiseReductionPolicy Score}
    (suppressed :
      (analyzeNoiseReduction runtime current recentAlerts policy).suppressForward = true) :
    ∃ alert ∈ recentAlerts, ∃ eventId, alert.eventId = some eventId ∧
      (analyzeNoiseReduction runtime current recentAlerts policy).rootCauseEventId =
        some eventId := by
  unfold analyzeNoiseReduction at suppressed ⊢
  cases scored : collectRelated runtime current recentAlerts policy.windowMinutes
      policy.scoringConfig with
  | nil =>
      rw [scored] at suppressed
      exact absurd suppressed (by simp [standalone])
  | cons best others =>
      obtain ⟨bestAlert, bestScore⟩ := best
      have recent : bestAlert ∈ recentAlerts :=
        mem_of_mem_collectRelated runtime (scored ▸ List.mem_cons_self)
      simp only [scored] at suppressed ⊢
      cases correlated : bestAlert.eventId.filter fun _ =>
          policy.rootCauseMinConfidence ≤ bestScore with
      | some eventId =>
          exact ⟨bestAlert, recent, eventId, (Option.filter_eq_some_iff.1 correlated).1, rfl⟩
      | none =>
          rw [correlated] at suppressed
          simp only at suppressed
          split at suppressed <;> simp at suppressed

end Scores

/-! ## The stage -/

/-- `ORDER BY timestamp DESC`.  What the database makes of a tie is passed to the query. -/
def NewerContext (tieBreak : Nat → Nat) (first second : WebhookEvent) : Prop :=
  second.timestamp < first.timestamp ∨
    second.timestamp = first.timestamp ∧ tieBreak first.id ≤ tieBreak second.id

instance (tieBreak : Nat → Nat) : DecidableRel (NewerContext tieBreak) :=
  fun _ _ => inferInstanceAs (Decidable (_ ∨ _ ∧ _))

/-- The settings and the readings of one comparison: `loads` says that the query does not raise. -/
structure NoiseReading (Score : Type) where
  policy : NoiseReductionPolicy Score
  now : DateTime
  tieBreak : Nat → Nat
  loads : Bool

/-- A new row of `suppressed_records`. -/
structure SuppressedRecord where
  alertHash : String
  source : String
  relation : String
  rootCauseEventId : Option Nat
  reason : String
  relatedAlertIds : List Nat
  confidence : String
  createdAt : DateTime

section Stage

variable {Score : Type} [Field Score] [LinearOrder Score] (runtime : ScoreRuntime Score)

/-- `list_recent_alert_contexts`.  An event that no save has filled has no alert hash, and the
query does not find it. -/
def listRecentAlertContexts (tieBreak : Nat → Nat) (alertHash : String) (now : DateTime)
    (windowMinutes : Int) (sourceConnectionId : Option Nat) (events : EventTable) :
    List AlertContext :=
  (((events.rows.filter fun row =>
      now.addMinutes (-windowMinutes) ≤ row.timestamp && row.timestamp ≤ now &&
        row.alertHash.any (· ≠ alertHash) &&
        row.sourceConnectionId = sourceConnectionId).insertionSort
    (NewerContext tieBreak)).take 100).map fun row =>
      { eventId := some row.id
        source := row.source
        importance := AnalysisPipeline.normalizeImportance runtime.toPythonRuntime
          ((presentText row.importance).getD "medium")
        parsedData := row.parsedData.getD []
        analysis := row.aiAnalysis.getD []
        timestamp := row.timestamp }

/-- `normalize_importance(analysis.get("importance", "medium"))`. -/
def analysedImportance (analysis : JsonObject) : String :=
  AnalysisPipeline.normalizeImportance runtime.toPythonRuntime
    (match PyDict.get? analysis "importance" with
    | some value => if value.truthy then value.pyStr runtime.toPythonRuntime else ""
    | none => "medium")

def computeNoise (reading : NoiseReading Score) (alertHash source : String)
    (parsed analysis : JsonObject) (sourceConnectionId : Option Nat) (events : EventTable) :
    NoiseFindings :=
  if reading.policy.enabled then
    let recent :=
      if reading.loads then
        listRecentAlertContexts runtime reading.tieBreak alertHash reading.now
          reading.policy.windowMinutes sourceConnectionId events
      else []
    analyzeNoiseReduction runtime
      { eventId := none
        source
        importance := analysedImportance runtime analysis
        parsedData := parsed
        analysis
        timestamp := reading.now }
      recent reading.policy
  else standalone "Smart noise reduction is not enabled"

/-- The row that `compute_noise` adds for an alert which it suppresses. -/
def suppressedRecord (now : DateTime) (alertHash source : String) (noise : NoiseFindings) :
    Option SuppressedRecord :=
  if noise.suppressForward then
    some
      { alertHash
        source
        relation := noise.relation
        rootCauseEventId := noise.rootCauseEventId
        reason := truncated noise.reason 500
        relatedAlertIds := noise.relatedAlertIds
        confidence := noise.confidence
        createdAt := now }
  else none

variable {runtime}

omit [Field Score] [LinearOrder Score] in
theorem exists_row_of_mem_contexts {tieBreak : Nat → Nat} {alertHash : String} {now : DateTime}
    {windowMinutes : Int} {sourceConnectionId : Option Nat} {events : EventTable}
    {context : AlertContext} (member : context ∈ listRecentAlertContexts runtime tieBreak alertHash
      now windowMinutes sourceConnectionId events) :
    ∃ row ∈ events.rows, row.alertHash.isSome = true ∧ context.eventId = some row.id := by
  obtain ⟨row, taken, rfl⟩ := List.mem_map.1 member
  have sorted := (List.perm_insertionSort _ _).mem_iff.1 (List.mem_of_mem_take taken)
  obtain ⟨stored, selected⟩ := List.mem_filter.1 sorted
  simp only [Bool.and_eq_true] at selected
  obtain ⟨hash, isHash, _⟩ := (Option.any_eq_true _ _).1 selected.1.2
  exact ⟨row, stored, by rw [isHash]; rfl, rfl⟩

theorem computeNoise_suppressed {reading : NoiseReading Score} {alertHash source : String}
    {parsed analysis : JsonObject} {sourceConnectionId : Option Nat} {events : EventTable}
    (suppressed : (computeNoise runtime reading alertHash source parsed analysis
      sourceConnectionId events).suppressForward = true) :
    ∃ row ∈ events.rows, row.alertHash.isSome = true ∧
      (computeNoise runtime reading alertHash source parsed analysis sourceConnectionId
        events).rootCauseEventId = some row.id := by
  unfold computeNoise at suppressed ⊢
  by_cases enabled : reading.policy.enabled = true
  · rw [if_pos enabled] at suppressed ⊢
    obtain ⟨alert, recent, eventId, isEvent, root⟩ :=
      analyzeNoiseReduction_suppressed runtime suppressed
    by_cases loads : reading.loads = true
    · rw [if_pos loads] at recent
      obtain ⟨row, stored, filled, isRow⟩ := exists_row_of_mem_contexts recent
      exact ⟨row, stored, filled, root.trans (isEvent.symm.trans isRow)⟩
    · rw [if_neg loads] at recent
      cases recent
  · rw [if_neg enabled] at suppressed
    exact absurd suppressed (by simp [standalone])

end Stage

end NoiseReduction

end WebhookWise
