import WebhookWise.Reanalysis

/-!
# Trying a payload out

The sandbox reports what would become of a payload: how it is parsed and judged by the rules,
and whether it would be forwarded, by which forward rules.  It makes the steps of the pipeline by
its own calls, without writing anything.
-/

namespace WebhookWise

open SqlTable

namespace Sandbox

open RuleMarks RuleMatching WebhookIngest WebhookBoundary WebhookNormalization EcosystemAdapters
open ForwardDecisions AlertFinalization IdentityKeys
open AnalysisPipeline (importanceText normalizeImportance)
open ImportanceCeilings (CapRule importanceText_of_get? level levelName capEverything)

/-! ## The sandbox -/

/-- What the sandbox and the pipeline are configured with.  The rule-based analysis is the same
for both: `analyze_with_rules`. -/
structure SandboxSettings where
  runtime : JudgeRuntime
  keys : KeySettings String
  samePython : keys.python = runtime.toPythonRuntime
  /-- `DEDUP_WINDOW_SECONDS`. -/
  windowSeconds : Int
  analyzeWithRules : JsonObject → String → JsonObject
  /-- The rules find an importance of `low`, `medium` or `high`. -/
  rated : ∀ data source, ∃ wanted,
    PyDict.get? (analyzeWithRules data source) "importance" = some (.str (levelName wanted))

def SandboxSettings.finalizeSettings (settings : SandboxSettings) : FinalizeSettings where
  keys := settings.keys
  runtime := settings.runtime.toMatchRuntime
  samePython := settings.samePython
  windowSeconds := settings.windowSeconds

structure LiveRules where
  now : DateTime
  rules : List ForwardRoute
  /-- The id of a forward rule is its primary key. -/
  distinctRules : (rules.map fun rule => rule.id).Nodup
  silences : List SilenceSnapshot
  /-- `cached_inbound_rules`, the highest priority first. -/
  inboundRules : List CapRule
  forwardingPolicy : ForwardingPolicy

structure RuleSummary where
  id : Option Nat
  name : String
  targetType : String
  targetName : Option String
  stopOnMatch : Bool
deriving DecidableEq

def ruleSummary (rule : ForwardRoute) : RuleSummary where
  id := rule.id
  name := rule.name
  targetType := rule.targetType
  targetName := orNone rule.targetName
  stopOnMatch := rule.stopOnMatch

/-- The report of `test_webhook_payload`, without the identity context of the prompt. -/
structure SandboxReport where
  input : String
  resolved : String
  adapter : String
  matched : Bool
  alertHash : String
  dedupKey : String
  matchFields : MatchIdentity
  importance : String
  eventType : String
  summary : Json
  shouldForward : Bool
  skipCode : String
  skipReason : Option String
  matchedRules : List RuleSummary
  silencedBy : Option (Option Nat)

section Sandbox

variable (settings : SandboxSettings) (live : LiveRules)

/-- `normalize_importance(rule_analysis.get("importance", "")) or "unknown"`. -/
def sandboxImportance (analysis : JsonObject) : String :=
  textOr (normalizeImportance settings.runtime.toPythonRuntime
    (importanceText settings.runtime.toPythonRuntime analysis)) "unknown"

/-- The call of `decide_forwarding`. -/
def sandboxRequest (webhook : NormalizedWebhook) : ForwardingRequest where
  eventType := "webhook_forward"
  importance := sandboxImportance settings (settings.analyzeWithRules webhook.data webhook.source)
  source := webhook.source
  rules := live.rules
  policy := live.forwardingPolicy
  parsedData := some webhook.data
  now := live.now
  silences := some live.silences

def testWebhookPayload (source : String) (payload : JsonObject) : Except Raised SandboxReport := do
  let webhook ← normalizeWebhookEvent settings.runtime.toAdapterRuntime (.dict payload)
    (some source) none
  let keys := generateEventKeys settings.keys webhook.data webhook.source none
  let analysis := settings.analyzeWithRules webhook.data webhook.source
  let decision := decideForwarding settings.runtime.toMatchRuntime
    (sandboxRequest settings live webhook)
  return {
    input := source
    resolved := webhook.source
    adapter := webhook.adapter
    matched := webhook.adapter ≠ "passthrough"
    alertHash := keys.1
    dedupKey := keys.2
    matchFields := extractForwardMatchFields settings.runtime.toMatchRuntime (some webhook.data)
    importance := sandboxImportance settings analysis
    eventType := JsonObject.strOr settings.runtime.toPythonRuntime analysis "event_type" ""
    summary := presentValue analysis "summary"
    shouldForward := decision.shouldForward
    skipCode := decision.skipCode
    skipReason := decision.skipReason
    matchedRules := decision.matchedRules.map ruleSummary
    silencedBy := if decision.skipCode = "silenced" then some decision.silenceId else none }

/-! ## The pipeline -/

/-- What else the pipeline knows when the payload arrives as a fresh alert. -/
structure FreshArrival where
  context : ProcessContext
  readings : FinalizeReadings
  noise : NoiseFindings
  events : EventTable
  /-- The route, and what else is marked on a rule-based analysis. -/
  marks : JsonObject
  unrated : ∀ entry ∈ marks, entry.1 ≠ "importance"

/-- `parse_request`, of a request without an `x-webhook-source` header. -/
def parseRequest (source : String) (payload : JsonObject) : Except Raised NormalizedWebhook :=
  normalizeWebhookEvent settings.runtime.toAdapterRuntime (.dict payload)
    (some (textOr source "unknown")) none

def ruledAlert (webhook : NormalizedWebhook) : RuledAlert where
  source := webhook.source
  parsedData := webhook.data
  rules := live.inboundRules

def resolveSilenceSkip (webhook : NormalizedWebhook) : Option SilenceSnapshot :=
  matchActiveSilence settings.runtime.toMatchRuntime live.silences
    (preAnalysisFacts (sandboxRequest settings live webhook))

/-- `resolve_noise_context`: the analysis of a fresh alert without a remembered override. -/
def resolvedAnalysis (arrival : FreshArrival) (webhook : NormalizedWebhook) : JsonObject :=
  let analysis :=
    if (resolveSilenceSkip settings live webhook).isSome then
      PyDict.set unknownAnalysisResult "_route_type" (.str "silenced_skip")
    else
      PyDict.updated (settings.analyzeWithRules webhook.data webhook.source) arrival.marks
  freshAnalysis settings.runtime none (ruledAlert live webhook) analysis

/-- The decision of `finalize_analysis_transaction` for a fresh alert, which is saved as an
original, without noise or flapping. -/
def pipelineDecision (arrival : FreshArrival) (webhook : NormalizedWebhook) : ForwardDecision :=
  resolveForwardDecision settings.finalizeSettings
    { arrival.context with
      source := webhook.source
      parsedData := webhook.data
      forwardMatchIdentity :=
        some (extractForwardMatchFields settings.runtime.toMatchRuntime (some webhook.data)) }
    { dedup := ⟨.new, none, none, "", false⟩
      analysis := resolvedAnalysis settings live arrival webhook
      noise := { arrival.noise with suppressForward := false } }
    { arrival.readings with
      now := live.now
      rules := live.rules
      silences := live.silences
      forwardingPolicy := live.forwardingPolicy
      flapping := false }
    arrival.events false none

/-- The sandbox reports the decision of the pipeline. -/
def SandboxAgrees (source : String) (payload : JsonObject) : Prop :=
  ∀ report, testWebhookPayload settings live source payload = .ok report →
    ∀ arrival webhook, parseRequest settings source payload = .ok webhook →
      report.shouldForward = (pipelineDecision settings live arrival webhook).shouldForward ∧
      report.skipCode = (pipelineDecision settings live arrival webhook).skipCode ∧
      report.matchedRules =
        (pipelineDecision settings live arrival webhook).matchedRules.map ruleSummary

/-! ## What the importance decides -/

def alertFacts (webhook : NormalizedWebhook) (importance : String) : AlertFacts where
  eventType := "webhook_forward"
  importance := importance
  source := webhook.source
  parsedData := some webhook.data
  identity := some (extractForwardMatchFields settings.runtime.toMatchRuntime (some webhook.data))

def isSilenced (webhook : NormalizedWebhook) (importance : String) : Bool :=
  (firstMatchingSilence settings.runtime.toMatchRuntime live.silences
    (alertFacts settings webhook importance)).isSome

def matchedSummaries (webhook : NormalizedWebhook) (importance : String) : List RuleSummary :=
  (selectForwardRules settings.runtime.toMatchRuntime (alertFacts settings webhook importance)
    live.rules).map ruleSummary

/-- The importance of the rule-based analysis under the ceiling of the inbound rules. -/
def cappedImportance (webhook : NormalizedWebhook) : String :=
  decidedImportance settings.finalizeSettings
    (applyRuleImportanceCap settings.runtime (ruledAlert live webhook)
      (settings.analyzeWithRules webhook.data webhook.source))

/-- What is decided of an alert that only the silences can hold back. -/
def outcome (silenced : Bool) (matched : List RuleSummary) : Bool × String × List RuleSummary :=
  if silenced then (false, "silenced", [])
  else if matched.isEmpty then (false, "no_match", [])
  else (true, "none", matched)

def outcomeUnder (webhook : NormalizedWebhook) (importance : String) :
    Bool × String × List RuleSummary :=
  outcome (isSilenced settings live webhook importance)
    (matchedSummaries settings live webhook importance)

/-! ## What a ceiling takes away -/

/-- The rules find this importance. -/
def Judges (webhook : NormalizedWebhook) (judged : String) : Prop :=
  PyDict.get? (settings.analyzeWithRules webhook.data webhook.source) "importance" =
    some (.str judged)

/-- The `cap_importance` rule matches the alert, and names a ceiling. -/
def SetsCeiling (webhook : NormalizedWebhook) (judged : String) (rule : CapRule) : Prop :=
  rule.action = "cap_importance" ∧ rule.actionValue ≠ "" ∧
    InboundRules.inboundRuleMatches settings.runtime.toMatchRuntime
      { parsedData := some webhook.data
        source := webhook.source
        importance := judged
        identity :=
          some (extractForwardMatchFields settings.runtime.toMatchRuntime (some webhook.data)) }
      (InboundRules.alertRuleName settings.runtime.toMatchRuntime webhook.data)
      rule.toInboundRuleSnapshot = true

instance (webhook : NormalizedWebhook) (judged : String) (rule : CapRule) :
    Decidable (SetsCeiling settings webhook judged rule) :=
  inferInstanceAs (Decidable (_ ∧ _ ∧ _))

/-- The first rule that sets a ceiling for the alert sets this one, and it is below the importance
that the rules find. -/
def IsLowered (webhook : NormalizedWebhook) (judged ceiling : String) : Prop :=
  level ceiling < level judged ∧
    ∃ before rule after, live.inboundRules = before ++ rule :: after ∧
      (∀ earlier ∈ before, ¬ SetsCeiling settings webhook judged earlier) ∧
      SetsCeiling settings webhook judged rule ∧
      settings.runtime.lower (strip rule.actionValue) = ceiling

/-- The alert is what the criteria ask for, up to its importance. -/
def MeetsOtherwise (webhook : NormalizedWebhook) (criteria : RuleCriteria) : Prop :=
  ruleMatches settings.runtime.toMatchRuntime { criteria with matchImportance := "" }
    (alertFacts settings webhook "") = true

/-- The criteria name no importance, or this one. -/
def Lists (criteria : RuleCriteria) (importance : String) : Prop :=
  listCovers settings.runtime.toMatchRuntime criteria.matchImportance importance = true

/-- A silence that the alert meets otherwise lists the importance. -/
def MeetsSilence (webhook : NormalizedWebhook) (importance : String) : Prop :=
  ∃ silence ∈ live.silences, MeetsOtherwise settings webhook (probe silence) ∧
    Lists settings (probe silence) importance

/-- Every forward rule that the alert meets otherwise takes a ceiling like the importance that it
lowers, as far as the search goes: up to a rule which stops it. -/
def RulesTakeAlike (webhook : NormalizedWebhook) (judged ceiling : String) : Prop :=
  ∀ before rule after, live.rules = before ++ rule :: after →
    (∀ earlier ∈ before, earlier.stopOnMatch = true →
      MeetsOtherwise settings webhook earlier.toRuleCriteria →
        ¬ Lists settings earlier.toRuleCriteria judged) →
    MeetsOtherwise settings webhook rule.toRuleCriteria →
      (Lists settings rule.toRuleCriteria judged ↔ Lists settings rule.toRuleCriteria ceiling)

/-- The silences take a ceiling like the importance that it lowers, and so do the forward rules. -/
structure StandsLowered (webhook : NormalizedWebhook) (judged ceiling : String) : Prop where
  silences : MeetsSilence settings live webhook judged ↔ MeetsSilence settings live webhook ceiling
  rules : ¬ MeetsSilence settings live webhook judged →
    RulesTakeAlike settings live webhook judged ceiling

end Sandbox

/-! ## A request without a source -/

private theorem lower_of_ascii (runtime : JudgeRuntime) {text : String}
    (ascii : isAscii text = true)
    (same : String.ofList (text.toList.map Char.toLower) = text) : runtime.lower text = text :=
  (runtime.lower_ascii text ascii).trans same

theorem findAdapterBySource_unknown (runtime : JudgeRuntime) :
    findAdapterBySource runtime.toAdapterRuntime "unknown" = none := by
  have keyOf (text : String) (ascii : isAscii text = true)
      (same : String.ofList (text.toList.map Char.toLower) = text)
      (unspaced : String.ofList (text.toList.filter (· ≠ ' ')) = text) :
      aliasKey runtime.toAdapterRuntime text = text := by
    unfold aliasKey
    rw [lower_of_ascii runtime ascii same]
    exact unspaced
  unfold findAdapterBySource aliasTable
  rw [keyOf "unknown" (by decide) (by decide) (by decide)]
  simp only [Adapter.all, Adapter.name, Adapter.aliases, List.foldl_cons, List.foldl_nil,
    keyOf "volcengine" (by decide) (by decide) (by decide),
    keyOf "volc" (by decide) (by decide) (by decide),
    keyOf "vcm" (by decide) (by decide) (by decide),
    keyOf "cloudmonitor" (by decide) (by decide) (by decide),
    keyOf "volcengine_cloudmonitor" (by decide) (by decide) (by decide),
    keyOf "grafana" (by decide) (by decide) (by decide),
    keyOf "prometheus" (by decide) (by decide) (by decide),
    keyOf "alertmanager" (by decide) (by decide) (by decide),
    keyOf "datadog" (by decide) (by decide) (by decide),
    keyOf "pagerduty" (by decide) (by decide) (by decide),
    keyOf "feishu_card" (by decide) (by decide) (by decide),
    keyOf "volcengine_log" (by decide) (by decide) (by decide)]
  decide

theorem parseRequest_eq (settings : SandboxSettings) (source : String) (payload : JsonObject) :
    parseRequest settings source payload =
      normalizeWebhookEvent settings.runtime.toAdapterRuntime (.dict payload) (some source) none := by
  by_cases blank : source = ""
  · subst blank
    have hint : sourceHint settings.runtime.toAdapterRuntime (some "unknown") none = "unknown" := by
      have stripped : strip "unknown" = "unknown" := by decide
      have lowered : settings.runtime.lower "unknown" = "unknown" :=
        lower_of_ascii settings.runtime (by decide) (by decide)
      simp [sourceHint, stripped, lowered, textOr]
    have blankHint : sourceHint settings.runtime.toAdapterRuntime (some "") none = "" := by
      have stripped : strip "" = "" := by decide
      simp [sourceHint, stripped, headerGet, textOr, settings.runtime.lower_empty]
    have unknown := findAdapterBySource_unknown settings.runtime
    unfold parseRequest normalizeWebhookEvent normalizeObject
    simp [hint, blankHint, textOr, selectedAdapter, finalSource, unknown]
  · simp [parseRequest, textOr, blank]

/-! ## Where the sandbox agrees -/

variable {rules : List ForwardRoute} {runtime : MatchRuntime} (importance : String)

section Agreement

variable {settings : SandboxSettings} {live : LiveRules} {webhook : NormalizedWebhook}
  {arrival : FreshArrival}

theorem outcome_inj {silenced other : Bool} {matched others : List RuleSummary} :
    outcome silenced matched = outcome other others ↔
      silenced = other ∧ (silenced = false → matched = others) := by
  cases silenced <;> cases other <;> cases matched <;> cases others <;> simp [outcome]

def shown (decision : ForwardDecision) : Bool × String × List RuleSummary :=
  (decision.shouldForward, decision.skipCode, decision.matchedRules.map ruleSummary)

theorem shown_decideForwarding {request : ForwardingRequest}
    (quiet : request.noise.filter NoiseReductionContext.suppressForward = none)
    (steady : request.flapping = false) (fresh : request.isDuplicate = false)
    (facts : decisionFacts settings.runtime.toMatchRuntime request =
      alertFacts settings webhook importance)
    (silences : request.silences = some live.silences) (isRules : request.rules = live.rules) :
    shown (decideForwarding settings.runtime.toMatchRuntime request) =
      outcomeUnder settings live webhook importance := by
  unfold decideForwarding outcomeUnder isSilenced matchedSummaries
  simp only [quiet, steady, facts, silences, isRules, Option.getD_some, Bool.false_eq_true, if_false]
  cases firstMatchingSilence settings.runtime.toMatchRuntime live.silences
      (alertFacts settings webhook importance) with
  | some silence => rfl
  | none =>
      simp only [decideByRules, fresh, Bool.false_eq_true, if_false]
      cases selectForwardRules settings.runtime.toMatchRuntime
        (alertFacts settings webhook importance) live.rules <;> rfl

theorem isSilenced_of_resolveSilenceSkip
    (skips : (resolveSilenceSkip settings live webhook).isSome = true) :
    isSilenced settings live webhook importance = true := by
  unfold resolveSilenceSkip matchActiveSilence at skips
  split at skips
  · cases skips
  · exact firstMatchingSilence_isSome_of_learns
      (learns_of_preAnalysisFacts
        { sandboxRequest settings live webhook with importance := importance }) skips

theorem get?_importance_applyRuleImportanceCap {runtime : JudgeRuntime} {alert : RuledAlert}
    {first second : JsonObject}
    (same : PyDict.get? first "importance" = PyDict.get? second "importance") :
    PyDict.get? (applyRuleImportanceCap runtime alert first) "importance" =
      PyDict.get? (applyRuleImportanceCap runtime alert second) "importance" := by
  have text := @importanceText_congr _ _ runtime.toPythonRuntime same
  cases lowers : alert.lowers runtime (importanceText runtime.toPythonRuntime second) with
  | true =>
      rw [(get?_applyRuleImportanceCap_of_lowers text lowers).1,
        (get?_applyRuleImportanceCap_of_lowers rfl lowers).1]
  | false =>
      rw [applyRuleImportanceCap_of_not_lowers text lowers,
        applyRuleImportanceCap_of_not_lowers rfl lowers, same]

theorem decidedImportance_of_analyzed
    (analyzed : (resolveSilenceSkip settings live webhook).isSome = false) (noise : NoiseFindings) :
    decidedImportance settings.finalizeSettings
        (buildFinalAnalysis
          { dedup := ⟨.new, none, none, "", false⟩
            analysis := resolvedAnalysis settings live arrival webhook
            noise }) =
      cappedImportance settings live webhook := by
  have marked : PyDict.get? (PyDict.updated (settings.analyzeWithRules webhook.data webhook.source)
      arrival.marks) "importance" =
      PyDict.get? (settings.analyzeWithRules webhook.data webhook.source) "importance" :=
    PyDict.get?_updated_of_forall_ne arrival.unrated
  unfold cappedImportance decidedImportance
  congr 1
  apply importanceText_congr
  rw [buildFinalAnalysis, PyDict.get?_set, if_neg (by decide), resolvedAnalysis]
  simp only [analyzed, Bool.false_eq_true, if_false]
  rw [freshAnalysis, get?_markRuleDigest_of_ne (by decide)]
  exact get?_importance_applyRuleImportanceCap marked

theorem shown_pipelineDecision :
    ∃ importance, ((resolveSilenceSkip settings live webhook).isSome = false →
        importance = cappedImportance settings live webhook) ∧
      shown (pipelineDecision settings live arrival webhook) =
        outcomeUnder settings live webhook importance :=
  ⟨_, fun analyzed => decidedImportance_of_analyzed analyzed _,
    shown_decideForwarding _ rfl rfl rfl rfl rfl rfl⟩

theorem shown_report {source : String} {payload : JsonObject} {report : SandboxReport}
    (parsed : parseRequest settings source payload = .ok webhook)
    (reported : testWebhookPayload settings live source payload = .ok report) :
    (report.shouldForward, report.skipCode, report.matchedRules) =
      outcomeUnder settings live webhook
        (sandboxImportance settings (settings.analyzeWithRules webhook.data webhook.source)) := by
  rw [parseRequest_eq] at parsed
  unfold testWebhookPayload at reported
  rw [parsed] at reported
  cases reported
  exact shown_decideForwarding _ rfl rfl rfl rfl rfl rfl

theorem agrees_iff_outcomeUnder {source : String} {payload : JsonObject} {report : SandboxReport}
    (parsed : parseRequest settings source payload = .ok webhook)
    (reported : testWebhookPayload settings live source payload = .ok report)
    (arrival : FreshArrival) :
    (report.shouldForward, report.skipCode, report.matchedRules) =
        shown (pipelineDecision settings live arrival webhook) ↔
      outcomeUnder settings live webhook
          (sandboxImportance settings (settings.analyzeWithRules webhook.data webhook.source)) =
        outcomeUnder settings live webhook (cappedImportance settings live webhook) := by
  obtain ⟨importance, decided, isShown⟩ :=
    @shown_pipelineDecision settings live webhook arrival
  rw [shown_report parsed reported, isShown]
  cases skips : (resolveSilenceSkip settings live webhook).isSome with
  | false => rw [decided skips]
  | true =>
      have silenced (asked : String) : outcomeUnder settings live webhook asked =
          (false, "silenced", []) := by
        rw [outcomeUnder, isSilenced_of_resolveSilenceSkip asked skips, outcome, if_pos rfl]
      exact iff_of_true (by rw [silenced, silenced]) (by rw [silenced, silenced])

theorem unrated_nil (entry : String × Json) (member : entry ∈ ([] : JsonObject)) :
    entry.1 ≠ "importance" :=
  absurd member List.not_mem_nil

def plainArrival : FreshArrival where
  context := sampleContext ""
  readings := sampleReadings [] 0
  noise := sampleFindings.noise
  events := .empty
  marks := []
  unrated := unrated_nil

/-! ## Two importances of one alert -/

theorem ruleMatches_alertFacts_iff (criteria : RuleCriteria) (importance : String) :
    ruleMatches settings.runtime.toMatchRuntime criteria
        (alertFacts settings webhook importance) = true ↔
      MeetsOtherwise settings webhook criteria ∧ Lists settings criteria importance := by
  have anything : listCovers settings.runtime.toMatchRuntime "" "" = true := by
    simp [listCovers]
  simp only [MeetsOtherwise, Lists, ruleMatches, alertFacts, anything, Bool.and_eq_true]
  tauto

theorem isSilenced_iff :
    isSilenced settings live webhook importance = true ↔
      MeetsSilence settings live webhook importance := by
  rw [isSilenced, firstMatchingSilence, List.find?_isSome]
  simp only [ruleMatches_alertFacts_iff, MeetsSilence]

theorem id_of_mem_selectForwardRules {alert : AlertFacts} {rule : ForwardRoute}
    (selected : rule ∈ selectForwardRules runtime alert rules) : rule ∈ rules := by
  induction rules with
  | nil => exact selected
  | cons first rules ih =>
      rw [selectForwardRules] at selected
      split at selected
      · split at selected
        · exact List.mem_cons.2 (Or.inl (List.mem_singleton.1 selected))
        · exact (List.mem_cons.1 selected).elim (fun same => same ▸ List.mem_cons_self)
            fun later => List.mem_cons_of_mem first (ih later)
      · exact List.mem_cons_of_mem first (ih selected)

/-- A rule that is not among others is not first among those of them which are selected. -/
theorem summary_not_first {alert : AlertFacts} {rule : ForwardRoute}
    (fresh : rule.id ∉ rules.map fun rule => rule.id) {rest : List RuleSummary} :
    (selectForwardRules runtime alert rules).map ruleSummary ≠ ruleSummary rule :: rest := by
  intro same
  have first : ruleSummary rule ∈ (selectForwardRules runtime alert rules).map ruleSummary :=
    same ▸ List.mem_cons_self
  obtain ⟨other, selected, isSame⟩ := List.mem_map.1 first
  exact fresh (List.mem_map.2 ⟨other, id_of_mem_selectForwardRules selected,
    congrArg RuleSummary.id isSame⟩)

/-- The rules match two alerts alike, up to one that matches the first and stops the search. -/
def MatchedAlike (runtime : MatchRuntime) (first second : AlertFacts) (rules : List ForwardRoute) :
    Prop :=
  ∀ before rule after, rules = before ++ rule :: after →
    (∀ earlier ∈ before, earlier.stopOnMatch = true →
      ¬ ruleMatches runtime earlier.toRuleCriteria first = true) →
    (ruleMatches runtime rule.toRuleCriteria first = true ↔
      ruleMatches runtime rule.toRuleCriteria second = true)

theorem matchedAlike_cons {first second : AlertFacts} {head : ForwardRoute} :
    MatchedAlike runtime first second (head :: rules) ↔
      (ruleMatches runtime head.toRuleCriteria first = true ↔
        ruleMatches runtime head.toRuleCriteria second = true) ∧
      ((head.stopOnMatch = true → ¬ ruleMatches runtime head.toRuleCriteria first = true) →
        MatchedAlike runtime first second rules) := by
  constructor
  · intro every
    refine ⟨every [] head rules rfl (by simp), ?_⟩
    intro passes before rule after parts unstopped
    refine every (head :: before) rule after (congrArg (head :: ·) parts) ?_
    exact List.forall_mem_cons.2 ⟨passes, unstopped⟩
  · rintro ⟨atHead, later⟩ before rule after parts unstopped
    cases before with
    | nil =>
        obtain ⟨rfl, -⟩ := List.cons.inj parts
        exact atHead
    | cons earlier before =>
        obtain ⟨rfl, rest⟩ := List.cons.inj parts
        obtain ⟨passes, noneLater⟩ := List.forall_mem_cons.1 unstopped
        exact later passes before rule after rest noneLater

theorem selectForwardRules_same_iff {first second : AlertFacts}
    (distinct : (rules.map fun rule => rule.id).Nodup) :
    (selectForwardRules runtime first rules).map ruleSummary =
        (selectForwardRules runtime second rules).map ruleSummary ↔
      MatchedAlike runtime first second rules := by
  induction rules with
  | nil => simp [selectForwardRules, MatchedAlike]
  | cons head rules ih =>
      obtain ⟨fresh, distinctRest⟩ := List.nodup_cons.1 distinct
      rw [matchedAlike_cons, ← ih distinctRest]
      by_cases firstMatches : ruleMatches runtime head.toRuleCriteria first = true
      · by_cases secondMatches : ruleMatches runtime head.toRuleCriteria second = true
        · cases stops : head.stopOnMatch <;>
            simp [selectForwardRules, firstMatches, secondMatches, stops]
        · rw [selectForwardRules, if_pos firstMatches, selectForwardRules, if_neg secondMatches]
          refine iff_of_false (fun same => ?_) fun both => secondMatches (both.1.1 firstMatches)
          split at same
          · exact summary_not_first fresh same.symm
          · exact summary_not_first fresh same.symm
      · by_cases secondMatches : ruleMatches runtime head.toRuleCriteria second = true
        · rw [selectForwardRules, if_neg firstMatches, selectForwardRules, if_pos secondMatches]
          refine iff_of_false (fun same => ?_) fun both => firstMatches (both.1.2 secondMatches)
          split at same
          · exact summary_not_first fresh same
          · exact summary_not_first fresh same
        · simp [selectForwardRules, firstMatches, secondMatches]

theorem outcomeUnder_eq_iff {judged ceiling : String} :
    outcomeUnder settings live webhook judged = outcomeUnder settings live webhook ceiling ↔
      StandsLowered settings live webhook judged ceiling := by
  have matched : matchedSummaries settings live webhook judged =
      matchedSummaries settings live webhook ceiling ↔
      RulesTakeAlike settings live webhook judged ceiling := by
    rw [matchedSummaries, matchedSummaries, selectForwardRules_same_iff live.distinctRules]
    unfold MatchedAlike RulesTakeAlike
    simp only [ruleMatches_alertFacts_iff, not_and, and_congr_right_iff]
  rw [outcomeUnder, outcomeUnder, outcome_inj, matched, Bool.eq_iff_iff, ← Bool.not_eq_true,
    isSilenced_iff, isSilenced_iff]
  exact ⟨fun both => ⟨both.1, both.2⟩, fun stands => ⟨stands.silences, stands.rules⟩⟩

/-! ## The ceiling -/

theorem importanceCapFor_fst (judged : String) :
    ((ruledAlert live webhook).importanceCapFor settings.runtime judged).1 =
      ((live.inboundRules.find? fun rule => SetsCeiling settings webhook judged rule).map
        fun rule => settings.runtime.lower (strip rule.actionValue)).getD "" := by
  have test : (fun rule : CapRule => decide (rule.action = "cap_importance") &&
      decide (rule.actionValue ≠ "") &&
        InboundRules.inboundRuleMatches settings.runtime.toMatchRuntime
          { parsedData := some webhook.data
            source := webhook.source
            importance := judged
            identity :=
              some (extractForwardMatchFields settings.runtime.toMatchRuntime (some webhook.data)) }
          (InboundRules.alertRuleName settings.runtime.toMatchRuntime webhook.data)
          rule.toInboundRuleSnapshot) =
      fun rule => decide (SetsCeiling settings webhook judged rule) := by
    funext rule
    rw [Bool.eq_iff_iff, decide_eq_true_iff]
    simp [SetsCeiling, and_assoc]
  unfold RuledAlert.importanceCapFor ImportanceCeilings.matchingInboundImportanceCap
  simp only [ruledAlert, RuledAlert.facts, test]
  cases live.inboundRules.find? fun rule => SetsCeiling settings webhook judged rule <;> rfl

theorem isLowered_iff {judged ceiling : String} :
    IsLowered settings live webhook judged ceiling ↔
      (ruledAlert live webhook).lowers settings.runtime judged = true ∧
        ((ruledAlert live webhook).importanceCapFor settings.runtime judged).1 = ceiling := by
  rw [RuledAlert.lowers, decide_eq_true_eq, importanceCapFor_fst, IsLowered]
  cases found : live.inboundRules.find? fun rule => SetsCeiling settings webhook judged rule with
  | none =>
      refine iff_of_false ?_ ?_
      · rintro ⟨_, before, rule, after, parts, _, sets, _⟩
        have unset := List.find?_eq_none.1 found rule (by simp [parts])
        exact unset (decide_eq_true sets)
      · rintro ⟨lower, _⟩
        exact absurd lower (not_lt_of_ge (Fin.le_last _))
  | some first =>
      obtain ⟨sets, before, after, parts, unset⟩ := List.find?_eq_some_iff_append.1 found
      rw [Option.map_some, Option.getD_some]
      constructor
      · rintro ⟨lower, otherBefore, rule, otherAfter, otherParts, otherUnset, otherSets, rfl⟩
        have same := found.symm.trans (List.find?_eq_some_iff_append.2
          ⟨decide_eq_true otherSets, otherBefore, otherAfter, otherParts,
            fun earlier member => by simpa using otherUnset earlier member⟩)
        obtain rfl := Option.some.inj same
        exact ⟨lower, rfl⟩
      · rintro ⟨lower, rfl⟩
        exact ⟨lower, before, first, after, parts,
          fun earlier member => by simpa using unset earlier member, of_decide_eq_true sets, rfl⟩

theorem normalizeImportance_level (runtime : JudgeRuntime) (wanted : Fin 3) :
    normalizeImportance runtime.toPythonRuntime (levelName wanted) = levelName wanted := by
  refine ImportanceCeilings.normalizeImportance_levelName (fun wanted => ?_) wanted
  refine lower_of_ascii runtime ?_ ?_
  · revert wanted
    decide
  · revert wanted
    decide

theorem outcomeUnder_eq_iff_standsLowered {judged : String}
    (judges : Judges settings webhook judged) :
    outcomeUnder settings live webhook
          (sandboxImportance settings (settings.analyzeWithRules webhook.data webhook.source)) =
        outcomeUnder settings live webhook (cappedImportance settings live webhook) ↔
      ∀ ceiling, IsLowered settings live webhook judged ceiling →
        StandsLowered settings live webhook judged ceiling := by
  have isJudged := @importanceText_of_get? settings.runtime.toPythonRuntime _ _ judges
  obtain ⟨wanted, rated⟩ := settings.rated webhook.data webhook.source
  obtain rfl : judged = levelName wanted := Json.str.inj (Option.some.inj (judges.symm.trans rated))
  have shown : sandboxImportance settings
      (settings.analyzeWithRules webhook.data webhook.source) = levelName wanted := by
    rw [sandboxImportance, isJudged, normalizeImportance_level, textOr, if_neg]
    exact (by decide : ∀ wanted, levelName wanted ≠ "") wanted
  rw [shown, cappedImportance, decidedImportance]
  cases lowers : (ruledAlert live webhook).lowers settings.runtime (levelName wanted) with
  | true =>
      have below := of_decide_eq_true lowers
      have isCeiling := (ImportanceCeilings.level_eq_iff
        (below.trans_le (Fin.le_last _))).1 rfl
      have capped := @importanceText_of_get? settings.runtime.toPythonRuntime _ _
        (get?_applyRuleImportanceCap_of_lowers isJudged lowers).1
      rw [isCeiling] at capped
      rw [show settings.finalizeSettings.python = settings.runtime.toPythonRuntime from rfl, capped,
        normalizeImportance_level, outcomeUnder_eq_iff, ← isCeiling]
      constructor
      · rintro stands ceiling isLowered
        obtain ⟨_, rfl⟩ := isLowered_iff.1 isLowered
        exact stands
      · intro every
        exact every _ (isLowered_iff.2 ⟨lowers, rfl⟩)
  | false =>
      rw [applyRuleImportanceCap_of_not_lowers isJudged lowers,
        show settings.finalizeSettings.python = settings.runtime.toPythonRuntime from rfl, isJudged,
        normalizeImportance_level]
      refine iff_of_true rfl fun ceiling isLowered => ?_
      exact absurd (lowers.symm.trans (isLowered_iff.1 isLowered).1) (by decide)

/-- The sandbox agrees with the pipeline just when the silences and the forward rules which the
alert meets otherwise take the ceiling of the inbound rules like the importance that it lowers. -/
theorem sandbox_agrees_iff (settings : SandboxSettings) (live : LiveRules) (source : String)
    (payload : JsonObject) (webhook : NormalizedWebhook)
    (parsed : parseRequest settings source payload = .ok webhook) :
    SandboxAgrees settings live source payload ↔
      ∀ judged ceiling, Judges settings webhook judged →
        IsLowered settings live webhook judged ceiling →
          StandsLowered settings live webhook judged ceiling := by
  have normalized := parsed
  rw [parseRequest_eq] at normalized
  obtain ⟨wanted, judges⟩ := settings.rated webhook.data webhook.source
  have alike := @outcomeUnder_eq_iff_standsLowered settings live webhook _ judges
  constructor
  · intro agrees judged ceiling otherJudges
    obtain rfl : judged = levelName wanted :=
      Json.str.inj (Option.some.inj (otherJudges.symm.trans judges))
    obtain ⟨report, reported⟩ : ∃ report,
        testWebhookPayload settings live source payload = .ok report := by
      unfold testWebhookPayload
      rw [normalized]
      exact ⟨_, rfl⟩
    refine alike.1 ((agrees_iff_outcomeUnder parsed reported plainArrival).1 ?_) ceiling
    obtain ⟨forwards, skips, matched⟩ := agrees report reported plainArrival webhook parsed
    rw [shown, forwards, skips, matched]
  · intro stands report reported arrival other otherParsed
    obtain rfl : webhook = other := Except.ok.inj (parsed.symm.trans otherParsed)
    simpa only [shown, Prod.mk.injEq] using (agrees_iff_outcomeUnder parsed reported arrival).2
      (alike.2 fun ceiling => stands _ ceiling judges)

/-- A payload of no known adapter, which the rules judge to be high. -/
def criticalPayload : JsonObject :=
  [("AlertName", .str "disk"), ("level", .str "critical")]

def sampleSandbox : SandboxSettings where
  runtime := .ascii
  keys := sampleSettings.keys
  samePython := rfl
  windowSeconds := 3600
  analyzeWithRules _ source :=
    [("source", .str source), ("event_type", .str "disk"), ("importance", .str "high"),
      ("summary", .str "🔴 disk")]
  rated _ _ := ⟨2, rfl⟩

/-- One forward rule, under a ceiling of medium. -/
def listing (matchImportance : String) : LiveRules where
  now := 0
  rules := [{ sampleRoute with matchImportance }]
  distinctRules := List.nodup_singleton _
  silences := []
  inboundRules := [capEverything "medium"]
  forwardingPolicy := ⟨60, true, 6⟩

theorem parsed_criticalPayload :
    parseRequest sampleSandbox "scripts" criticalPayload =
      .ok ⟨"scripts", criticalPayload, "passthrough"⟩ := by
  rfl

/-- The rule takes the alert under the ceiling too. -/
theorem sandbox_agrees_medium :
    SandboxAgrees sampleSandbox (listing "high,medium") "scripts" criticalPayload := by
  refine (sandbox_agrees_iff sampleSandbox (listing "high,medium") "scripts" criticalPayload _
    parsed_criticalPayload).2 fun judged ceiling judges isLowered => ?_
  obtain rfl : judged = "high" := (Json.str.inj (Option.some.inj judges)).symm
  obtain ⟨_, rfl⟩ := isLowered_iff.1 isLowered
  refine ⟨by simp [MeetsSilence, listing], fun _ before rule after parts _ _ => ?_⟩
  rcases List.singleton_eq_append_iff.1 parts with ⟨-, isRule⟩ | ⟨-, isNil⟩
  · obtain ⟨rfl, -⟩ := List.cons.inj isRule
    unfold Lists
    exact iff_of_true (by decide) (by decide)
  · cases isNil

/-- Under a ceiling the alert is not forwarded, and the sandbox says that it is. -/
theorem sandbox_passes_over_ceiling :
    ¬ SandboxAgrees sampleSandbox (listing "high") "scripts" criticalPayload := by
  intro agrees
  have same := agrees _ rfl plainArrival _ parsed_criticalPayload
  exact absurd same.1 (by decide)

end Agreement

end Sandbox

end WebhookWise
