import WebhookWise.AlertFinalization
import WebhookWise.IncidentAlerts

/-!
# Backtesting a silence

The events of the last days are matched against a silence before it is made.  The pipeline asks the
matcher with the event type `webhook_forward` and the normalized importance; the backtest with no
event type and the stored importance, or `unknown`.
-/

namespace WebhookWise

open SqlTable

namespace SilenceBacktest

open WebhookIngest AlertFinalization ForwardDecisions RuleMatching

/-! ## The backtest -/

def maxBacktestScan : Nat := 50000

/-- An entry of `sample_matched_events`. -/
structure MatchedEvent where
  id : Nat
  timestamp : String
  source : String
  importance : String
  isDuplicate : Bool
  summary : String

/-- What `backtest_silence_rule` counts. -/
structure BacktestReport where
  totalScanned : Nat
  totalMatched : Nat
  importanceCounts : PyDict Nat
  sourceCounts : PyDict Nat
  sampleMatchedEvents : List MatchedEvent

/-- `counts[key] = counts.get(key, 0) + 1`. -/
def counted (counts : PyDict Nat) (key : String) : PyDict Nat :=
  counts.set key ((counts.get? key).getD 0 + 1)

/-- `event.importance or "unknown"`. -/
def readImportance (event : WebhookEvent) : String :=
  (presentText event.importance).getD "unknown"

def proposed (silence : SilenceSnapshot) : SilenceSnapshot :=
  { silence with id := some 999999 }

def backtestFacts (event : WebhookEvent) : AlertFacts where
  eventType := ""
  importance := readImportance event
  source := event.source
  isDuplicate := event.isDuplicate
  parsedData := event.parsedData

section Backtest

variable (runtime : MatchRuntime) (silence : SilenceSnapshot)

def countsAsSilenced (event : WebhookEvent) : Bool :=
  (matchActiveSilence runtime [proposed silence] (backtestFacts event)).isSome

def matchedEvent (event : WebhookEvent) : MatchedEvent where
  id := event.id
  timestamp := event.timestamp.isoformat
  source := event.source
  importance := readImportance event
  isDuplicate := event.isDuplicate
  summary := truncated
    (IncidentGrouping.firstTruthyText runtime.toPythonRuntime (event.parsedData.getD [])
      ["summary", "RuleName", "alertname"]) 120

def scanEvent (limit : Nat) (report : BacktestReport) (event : WebhookEvent) : BacktestReport :=
  let scanned := { report with totalScanned := report.totalScanned + 1 }
  if countsAsSilenced runtime silence event then
    { scanned with
      totalMatched := report.totalMatched + 1
      importanceCounts := counted report.importanceCounts (readImportance event)
      sourceCounts := counted report.sourceCounts event.source
      sampleMatchedEvents :=
        if report.sampleMatchedEvents.length < limit then
          report.sampleMatchedEvents ++ [matchedEvent runtime event]
        else report.sampleMatchedEvents }
  else scanned

/-- `ORDER BY timestamp DESC`, where events of one time are in no given order. -/
def LaterFirst (first second : WebhookEvent) : Prop :=
  second.timestamp ≤ first.timestamp

instance : DecidableRel LaterFirst :=
  fun first second => inferInstanceAs (Decidable (second.timestamp ≤ first.timestamp))

def scannedEvents (now : DateTime) (lookbackDays : Int) (events : EventTable) :
    List WebhookEvent :=
  let startTime := now.addSeconds (-86400 * max 1 (min lookbackDays 90))
  ((events.rows.filter fun event => startTime ≤ event.timestamp).insertionSort LaterFirst).take
    maxBacktestScan

def backtestSilenceRule (now : DateTime) (lookbackDays : Int) (limit : Nat) (events : EventTable) :
    BacktestReport :=
  (scannedEvents now lookbackDays events).foldl (scanEvent runtime silence limit)
    ⟨0, 0, [("high", 0), ("medium", 0), ("low", 0), ("unknown", 0)], [], []⟩

/-- The report counts the silenced events of a scan, and shows the first of them. -/
structure Tallies (limit : Nat) (events : List WebhookEvent) (report : BacktestReport) : Prop where
  scanned : report.totalScanned = events.length
  matched : report.totalMatched = events.countP (countsAsSilenced runtime silence)
  importance : ∀ importance, (report.importanceCounts.get? importance).getD 0 =
    events.countP fun event =>
      countsAsSilenced runtime silence event && readImportance event = importance
  source : ∀ source, (report.sourceCounts.get? source).getD 0 =
    events.countP fun event => countsAsSilenced runtime silence event && event.source = source
  samples : report.sampleMatchedEvents =
    ((events.filter (countsAsSilenced runtime silence)).take limit).map (matchedEvent runtime)

theorem get?_counted (counts : PyDict Nat) (key wanted : String) :
    ((counted counts key).get? wanted).getD 0 =
      (counts.get? wanted).getD 0 + if key = wanted then 1 else 0 := by
  rw [counted, PyDict.get?_set]
  by_cases same : wanted = key
  · subst same
    simp
  · simp [same, Ne.symm same]

variable {runtime silence}

theorem Tallies.scanEvent {limit : Nat} {events : List WebhookEvent} {report : BacktestReport}
    (tallies : Tallies runtime silence limit events report) (event : WebhookEvent) :
    Tallies runtime silence limit (events ++ [event])
      (scanEvent runtime silence limit report event) := by
  obtain ⟨scanned, matched, importance, source, samples⟩ := tallies
  cases isCounted : countsAsSilenced runtime silence event with
  | false =>
      refine ⟨?_, ?_, ?_, ?_, ?_⟩ <;>
        simp [SilenceBacktest.scanEvent, isCounted, scanned, matched, importance, source, samples]
  | true =>
      refine ⟨by simp [SilenceBacktest.scanEvent, isCounted, scanned],
        by simp [SilenceBacktest.scanEvent, isCounted, matched], ?_, ?_, ?_⟩
      · intro text
        simp [SilenceBacktest.scanEvent, isCounted, get?_counted, importance]
      · intro text
        simp [SilenceBacktest.scanEvent, isCounted, get?_counted, source]
      · simp only [SilenceBacktest.scanEvent, isCounted, if_true, samples, List.length_map,
          List.length_take, List.filter_append, List.filter_singleton]
        split
        · rename_i room
          have all : (events.filter (countsAsSilenced runtime silence)).length < limit := by omega
          rw [List.take_of_length_le all.le, List.take_of_length_le (by simp; omega)]
          simp
        · rename_i full
          rw [List.take_append_of_le_length (by omega)]

variable (runtime silence)

/-- The backtest's report tallies with the events that it has scanned. -/
theorem tallies_backtestSilenceRule (now : DateTime) (lookbackDays : Int) (limit : Nat)
    (events : EventTable) :
    Tallies runtime silence limit (scannedEvents now lookbackDays events)
      (backtestSilenceRule runtime silence now lookbackDays limit events) := by
  unfold backtestSilenceRule
  induction scannedEvents now lookbackDays events using List.reverseRecOn with
  | nil =>
      refine ⟨rfl, rfl, fun importance => ?_, fun source => rfl, by simp⟩
      have zero : ∀ entry ∈ ([("high", 0), ("medium", 0), ("low", 0), ("unknown", 0)] : PyDict Nat),
          entry.2 = 0 := by
        decide
      rw [List.foldl_nil, PyDict.get?]
      cases found : List.find? _ _ with
      | none => rfl
      | some entry => exact zero entry (List.mem_of_find?_eq_some found)
  | append_singleton scanned event ih =>
      rw [List.foldl_append]
      exact ih.scanEvent event

/-! ## The live pipeline -/

def liveFacts (event : WebhookEvent) : AlertFacts where
  eventType := "webhook_forward"
  importance :=
    AnalysisPipeline.normalizeImportance runtime.toPythonRuntime (event.importance.getD "")
  source := event.source
  isDuplicate := event.isDuplicate
  parsedData := event.parsedData
  identity := some (extractForwardMatchFields runtime event.parsedData)

/-- The silence check of `decide_forwarding` matches the silence. -/
def silencedLive (event : WebhookEvent) : Bool :=
  (firstMatchingSilence runtime [silence] (liveFacts runtime event)).isSome

end Backtest

/-! ## Where they agree -/

section Agreement

variable (runtime : MatchRuntime) (silence : SilenceSnapshot) (event : WebhookEvent)

def otherSelectorsMatch : Bool :=
  ruleMatches runtime { probe silence with matchEventType := "", matchImportance := "" }
    (liveFacts runtime event)

def itemsOf (selector : String) : List String :=
  splitCsvLower runtime.toPythonRuntime selector

/-- Neither difference between the two calls meets a selector of the silence. -/
structure Agrees : Prop where
  /-- A silence for any event type tells the stored importance from the normalized one nowhere. -/
  anyEventType : silence.matchEventType = "" → silence.matchImportance ≠ "" →
    (readImportance event ∈ itemsOf runtime silence.matchImportance ↔
      (liveFacts runtime event).importance ∈ itemsOf runtime silence.matchImportance)
  /-- A silence for the event type of the pipeline is not for this importance. -/
  forwardedType : "webhook_forward" ∈ itemsOf runtime silence.matchEventType →
    silence.matchImportance ≠ "" ∧
      (liveFacts runtime event).importance ∉ itemsOf runtime silence.matchImportance

variable {runtime silence event}

theorem listCovers_iff {selector value : String} : listCovers runtime selector value = true ↔
    selector = "" ∨ value ∈ itemsOf runtime selector := by
  simp [listCovers, itemsOf]

theorem ruleMatches_probe_iff (facts : AlertFacts) :
    ruleMatches runtime (probe silence) facts = true ↔
      listCovers runtime silence.matchEventType facts.eventType = true ∧
        listCovers runtime silence.matchImportance facts.importance = true ∧
        ruleMatches runtime { probe silence with matchEventType := "", matchImportance := "" }
          facts = true := by
  have blank : ∀ value, listCovers runtime "" value = true := fun _ => rfl
  simp only [ruleMatches, probe, blank, Bool.and_eq_true, Bool.true_and, and_assoc]

theorem isSome_firstMatchingSilence (facts : AlertFacts) :
    (firstMatchingSilence runtime [silence] facts).isSome =
      ruleMatches runtime (probe silence) facts := by
  cases matched : ruleMatches runtime (probe silence) facts with
  | true => simp [firstMatchingSilence, matched]
  | false => simp [firstMatchingSilence, matched]

theorem silencedLive_iff : silencedLive runtime silence event = true ↔
    (silence.matchEventType = "" ∨ "webhook_forward" ∈ itemsOf runtime silence.matchEventType) ∧
      (silence.matchImportance = "" ∨
        (liveFacts runtime event).importance ∈ itemsOf runtime silence.matchImportance) ∧
      otherSelectorsMatch runtime silence event = true := by
  rw [silencedLive, isSome_firstMatchingSilence, ruleMatches_probe_iff, listCovers_iff,
    listCovers_iff]
  rfl

theorem countsAsSilenced_iff : countsAsSilenced runtime silence event = true ↔
    silence.matchEventType = "" ∧
      (silence.matchImportance = "" ∨
        readImportance event ∈ itemsOf runtime silence.matchImportance) ∧
      otherSelectorsMatch runtime silence event = true := by
  have called : countsAsSilenced runtime silence event =
      (firstMatchingSilence runtime [proposed silence] { backtestFacts event with
        identity := some (extractForwardMatchFields runtime event.parsedData) }).isSome := rfl
  rw [called, isSome_firstMatchingSilence, ruleMatches_probe_iff]
  have eventType : listCovers runtime (proposed silence).matchEventType "" = true ↔
      silence.matchEventType = "" := listCovers_empty runtime silence.matchEventType
  have importance : listCovers runtime (proposed silence).matchImportance (readImportance event) =
      true ↔ silence.matchImportance = "" ∨
        readImportance event ∈ itemsOf runtime silence.matchImportance := listCovers_iff
  -- Beyond the event type and the importance, the two calls pass the same.
  exact and_congr eventType (and_congr importance Iff.rfl)

/-- The backtest counts an event as silenced just when the pipeline silences it, if and only if
the other selectors do not match the event or the two calls differ in nothing that the event type
and the importance selectors see. -/
theorem backtest_agrees_iff (runtime : MatchRuntime) (silence : SilenceSnapshot)
    (event : WebhookEvent) :
    (countsAsSilenced runtime silence event = true ↔ silencedLive runtime silence event = true) ↔
      (otherSelectorsMatch runtime silence event = true → Agrees runtime silence event) := by
  rw [countsAsSilenced_iff, silencedLive_iff]
  have noItems : itemsOf runtime "" = [] := rfl
  constructor
  · intro same others
    refine ⟨fun anyType someImportance => ?_, fun named => ?_⟩
    · simpa [anyType, someImportance, others] using same
    · have someType : silence.matchEventType ≠ "" := by
        intro anyType
        rw [anyType, noItems] at named
        contradiction
      simpa [someType, named, others] using same
  · intro agrees
    cases others : otherSelectorsMatch runtime silence event with
    | false => simp
    | true =>
        obtain ⟨anyType, named⟩ := agrees others
        by_cases blankType : silence.matchEventType = ""
        · by_cases blankImportance : silence.matchImportance = ""
          · simp [blankType, blankImportance]
          · simp [blankType, blankImportance, anyType blankType blankImportance]
        · by_cases isNamed : "webhook_forward" ∈ itemsOf runtime silence.matchEventType
          · simp [blankType, named isNamed]
          · simp [blankType, isNamed]

end Agreement

/-! ## The forwarding stage -/

/-- The analysis names its importance by a text, if at all. -/
def NamesImportance (analysis : JsonObject) : Prop :=
  ∀ value, PyDict.get? analysis "importance" = some value →
    value = .null ∨ ∃ text, value = .str text

theorem importanceOf_getD {analysis : JsonObject} (names : NamesImportance analysis)
    (python : PythonRuntime) :
    (importanceOf analysis).getD "" = AnalysisPipeline.importanceText python analysis := by
  unfold importanceOf AnalysisPipeline.importanceText JsonObject.strOr
  cases found : PyDict.get? analysis "importance" with
  | none => rfl
  | some value =>
      rcases names value found with rfl | ⟨text, rfl⟩
      · rfl
      · by_cases blank : text = ""
        · simp [Json.truthy, blank]
        · simp [Json.truthy, Json.pyStr, blank]

theorem namesImportance_buildFinalAnalysis {findings : AlertFindings}
    (names : NamesImportance findings.analysis) :
    NamesImportance (buildFinalAnalysis findings) := by
  intro value found
  rw [buildFinalAnalysis, PyDict.get?_set] at found
  exact names value (by simpa using found)

section Stage

variable (settings : FinalizeSettings) (context : ProcessContext) (findings : AlertFindings)
  (readings : FinalizeReadings) (events : EventTable)

def storedEvent : WebhookEvent :=
  savedEvent settings.saveEnvironment readings.times (saveRequest context findings) events

theorem storedEvent_importance :
    (storedEvent settings context findings readings events).importance =
      importanceOf (buildFinalAnalysis findings) := by
  have present : presentAnalysis (some (buildFinalAnalysis findings)) =
      some (buildFinalAnalysis findings) := by
    have nonempty : (buildFinalAnalysis findings).isEmpty = false := by
      cases analysis : findings.analysis with
      | nil => simp [buildFinalAnalysis, analysis, PyDict.set]
      | cons entry entries =>
          simp only [buildFinalAnalysis, analysis, PyDict.set]
          split
          · rfl
          · rfl
    simp [presentAnalysis, Option.filter, nonempty]
  have duplicate : ∀ original : WebhookEvent,
      (duplicateInput settings.saveEnvironment.python (saveRequest context findings).requestId
        (settings.saveEnvironment.prepared (saveRequest context findings).payload)
        original).importance = importanceOf (buildFinalAnalysis findings) := by
    intro original
    have analysed : (settings.saveEnvironment.prepared
        (saveRequest context findings).payload).aiAnalysis =
          some (buildFinalAnalysis findings) := rfl
    simp only [duplicateInput, analysisForDuplicate, analysed, present]
  unfold storedEvent savedEvent savedInput
  cases repeatedEvent (savedStatus settings.saveEnvironment readings.times
      (saveRequest context findings) events) events with
  | none =>
      cases existingEvent (saveRequest context findings) events with
      | none | some => rfl
  | some original =>
      cases existingEvent (saveRequest context findings) events with
      | none | some => exact duplicate original

theorem storedEvent_payload :
    (storedEvent settings context findings readings events).source = context.source ∧
      (storedEvent settings context findings readings events).parsedData =
        some context.parsedData := by
  unfold storedEvent savedEvent savedInput
  cases repeatedEvent (savedStatus settings.saveEnvironment readings.times
      (saveRequest context findings) events) events with
  | none =>
      cases existingEvent (saveRequest context findings) events with
      | none | some => exact ⟨rfl, rfl⟩
  | some original =>
      cases existingEvent (saveRequest context findings) events with
      | none | some => exact ⟨rfl, rfl⟩

end Stage

def forwardedSilence : SilenceSnapshot where
  id := some 1
  matchEventType := "webhook_forward"

def fullDisk : WebhookEvent :=
  filled 1 0 none
    { source := "grafana"
      parsedData := some [("alertname", .str "disk full")]
      importance := some "high"
      processingStatus := .completed }

/-- A silence on an event type mutes live, and is not counted. -/
theorem forwardedSilence_uncounted :
    silencedLive (.ascii ⟨[], [], [], []⟩) forwardedSilence fullDisk = true ∧
      countsAsSilenced (.ascii ⟨[], [], [], []⟩) forwardedSilence fullDisk = false := by
  decide

end SilenceBacktest

end WebhookWise
