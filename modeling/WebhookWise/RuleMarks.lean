import WebhookWise.ImportanceCeilings
import WebhookWise.WebhookNormalization

/-!
# What operators have ruled about an alert

Three rulings stand over the analysis of an alert: the correction that an operator made of the
same condition, the ceiling of a `cap_importance` rule, and the window of a digest rule.  The
pipeline applies them in this order to a fresh analysis, and leaves a marker for each.
-/

namespace WebhookWise

namespace RuleMarks

open RuleMatching InboundRules ImportanceCeilings
open AnalysisPipeline (ImportanceOverride importanceText importanceRank applyImportanceCap)

/-- The runtime where alerts are judged, with `int` of a decimal digit.  A digit that `int`
refuses is in no stored window: the validation of its rule fails on it.  The law says what
`str.lower` does on ASCII. -/
structure JudgeRuntime extends MatchRuntime, EcosystemAdapters.AdapterRuntime where
  digitValue : Char → Option Nat
  lower_ascii : ∀ text, EcosystemAdapters.isAscii text = true →
    lower text = String.ofList (text.toList.map Char.toLower)

def JudgeRuntime.ascii : JudgeRuntime where
  toMatchRuntime := .ascii ⟨[], [], [], []⟩
  floatOfInt := WebhookNormalization.plainAdapters.floatOfInt
  loads_distinct := WebhookNormalization.plainAdapters.loads_distinct
  digitValue character := if character.isDigit then some (character.toNat - '0'.toNat) else none
  lower_ascii _ _ := rfl

structure RuledAlert where
  source : String
  parsedData : JsonObject
  /-- `cached_inbound_rules`, the highest priority first. -/
  rules : List CapRule

section Judging

variable (runtime : JudgeRuntime)

/-! ## Corrections -/

/-- What `apply_override` writes under `OVERRIDE_KEY`. -/
def overrideMark (override : ImportanceOverride) (modelImportance : String) : Json :=
  .dict [("applied", .bool true), ("importance", .str override.importance),
    ("model_importance", .str modelImportance), ("actor", .str override.actor),
    ("since", .str override.since)]

/-- `apply_override`, with the override that is found for the alert hash. -/
def applyOverride (override : Option ImportanceOverride) (analysis : JsonObject) : JsonObject :=
  match override with
  | some override =>
      PyDict.set (PyDict.set analysis "importance" (.str override.importance))
        "importance_override"
        (overrideMark override (importanceText runtime.toPythonRuntime analysis))
  | none => analysis

/-! ## Ceilings -/

namespace RuledAlert

variable (alert : RuledAlert)

def facts (importance : String) : AlertFacts where
  parsedData := some alert.parsedData
  source := alert.source
  importance := importance

/-- `inbound_importance_cap_for`. -/
def importanceCapFor (importance : String) : String × String :=
  matchingInboundImportanceCap runtime.toMatchRuntime alert.rules (alert.facts importance)
    (alertRuleName runtime.toMatchRuntime alert.parsedData)

end RuledAlert

def applyRuleImportanceCap (alert : RuledAlert) (analysis : JsonObject) : JsonObject :=
  let (cap, ruleName) :=
    alert.importanceCapFor runtime (importanceText runtime.toPythonRuntime analysis)
  applyImportanceCap runtime.toPythonRuntime analysis cap ruleName

/-! ## Digest windows -/

def parseDigestWindowMinutes (value : String) : Option Nat :=
  let text := strip value
  if text = "" then some 60
  else
    let digits := text.toList.mapM runtime.digitValue
    (digits.map fun digits => digits.foldl (fun value digit => value * 10 + digit) 0).filter
      fun minutes => 5 ≤ minutes && minutes ≤ 1440

/-- `matching_inbound_digest_window`: the minutes and the name of the first rule that matches. -/
def matchingInboundDigestWindow (rules : List CapRule) (alert : AlertFacts) (ruleName : String) :
    Nat × String :=
  let identified :=
    { alert with
      identity := some (extractForwardMatchFields runtime.toMatchRuntime alert.parsedData) }
  let matching := rules.find? fun rule =>
    rule.action = "digest" &&
      inboundRuleMatches runtime.toMatchRuntime identified ruleName rule.toInboundRuleSnapshot
  match matching with
  | some rule =>
      if rule.name = "" then (0, "")
      else
        match parseDigestWindowMinutes runtime (runtime.lower (strip rule.actionValue)) with
        | some minutes => (minutes, rule.name)
        | none => (0, "")
  | none => (0, "")

/-- `inbound_digest_window_for`. -/
def RuledAlert.digestWindowFor (alert : RuledAlert) (importance : String) : Nat × String :=
  matchingInboundDigestWindow runtime alert.rules (alert.facts importance)
    (alertRuleName runtime.toMatchRuntime alert.parsedData)

/-- What `mark_analysis_digest` writes, if there is a window. -/
def digestMark (window : Nat × String) : Option Json :=
  if window.1 = 0 then none
  else some (.dict [("window_minutes", .int window.1), ("rule", .str window.2)])

def markRuleDigest (alert : RuledAlert) (analysis : JsonObject) : JsonObject :=
  let unmarked := PyDict.without analysis "_digest"
  let window :=
    alert.digestWindowFor runtime (importanceText runtime.toPythonRuntime unmarked)
  match digestMark window with
  | some mark => PyDict.set unmarked "_digest" mark
  | none => unmarked

/-- What the pipeline makes of a fresh analysis: `_run_fresh_analysis`, and then the end of
`resolve_noise_context`. -/
def freshAnalysis (override : Option ImportanceOverride) (alert : RuledAlert)
    (analysis : JsonObject) : JsonObject :=
  markRuleDigest runtime alert
    (applyRuleImportanceCap runtime alert (applyOverride runtime override analysis))

/-! ## Comparing judgements -/

/-- The importance, and the markers of the three rulings. -/
def judgementKeys : List String :=
  ["importance", "importance_override", "_importance_cap", "_digest"]

/-- Two analyses say the same of the importance, and of who decided it. -/
def SameJudgement (first second : JsonObject) : Prop :=
  ∀ key ∈ judgementKeys, PyDict.get? first key = PyDict.get? second key

def RuledAlert.lowers (alert : RuledAlert) (importance : String) : Bool :=
  level (alert.importanceCapFor runtime importance).1 < level importance

/-- What a ceiling leaves in place of the importance that it lowers. -/
def capMark (cap : String × String) (judged : String) : Json :=
  .dict [("capped_to", .str cap.1), ("judged", .str judged), ("rule", .str cap.2)]

def rated (override : Option ImportanceOverride) (analysis : JsonObject) : String :=
  match override with
  | some override => override.importance
  | none => importanceText runtime.toPythonRuntime analysis

/-- An analysis that has the marks of a correction already, and of a ceiling that lowers the
corrected importance. -/
structure CarriesCorrection (alert : RuledAlert) (analysis : JsonObject)
    (override : ImportanceOverride) : Prop where
  marked : PyDict.get? analysis "importance_override" =
    some (overrideMark override (importanceText runtime.toPythonRuntime analysis))
  uncapped : alert.lowers runtime override.importance = false →
    PyDict.get? analysis "importance" = some (.str override.importance)
  capped : alert.lowers runtime override.importance = true →
    PyDict.get? analysis "importance" =
        some (.str (alert.importanceCapFor runtime override.importance).1) ∧
      PyDict.get? analysis "_importance_cap" =
        some (capMark (alert.importanceCapFor runtime override.importance) override.importance)

/-- No ruling changes the analysis: nothing is remembered of the alert and no ceiling lowers it,
or the analysis has their marks; and its digest window is the one of the rules. -/
structure StandsAsJudged (override : Option ImportanceOverride) (alert : RuledAlert)
    (analysis : JsonObject) : Prop where
  importance :
    override = none ∧
        alert.lowers runtime (importanceText runtime.toPythonRuntime analysis) = false ∨
      ∃ made, override = some made ∧ CarriesCorrection runtime alert analysis made
  digest : PyDict.get? analysis "_digest" =
    digestMark (alert.digestWindowFor runtime (importanceText runtime.toPythonRuntime analysis))

end Judging

/-! ## What each ruling writes -/

variable (made : ImportanceOverride)

section Marks

variable {runtime : JudgeRuntime} {override : Option ImportanceOverride} {alert : RuledAlert}
  {analysis : JsonObject} {key : String}

theorem importanceText_congr {first second : JsonObject} {python : PythonRuntime}
    (same : PyDict.get? first "importance" = PyDict.get? second "importance") :
    importanceText python first = importanceText python second := by
  unfold importanceText JsonObject.strOr
  rw [same]

theorem get?_applyOverride_of_ne (importance : key ≠ "importance")
    (marker : key ≠ "importance_override") :
    PyDict.get? (applyOverride runtime override analysis) key = PyDict.get? analysis key := by
  cases override with
  | none => rfl
  | some made =>
      rw [applyOverride, PyDict.get?_set, if_neg marker, PyDict.get?_set, if_neg importance]

theorem get?_importance_applyOverride :
    PyDict.get? (applyOverride runtime (some made) analysis) "importance" =
      some (.str made.importance) := by
  rw [applyOverride, PyDict.get?_set, if_neg (by decide), PyDict.get?_set, if_pos rfl]

theorem get?_override_applyOverride :
    PyDict.get? (applyOverride runtime (some made) analysis) "importance_override" =
      some (overrideMark made (importanceText runtime.toPythonRuntime analysis)) := by
  rw [applyOverride, PyDict.get?_set, if_pos rfl]

theorem importanceText_applyOverride :
    importanceText runtime.toPythonRuntime (applyOverride runtime override analysis) =
      rated runtime override analysis := by
  cases override with
  | none => rfl
  | some made => exact importanceText_of_get? (get?_importance_applyOverride made)

theorem applyImportanceCap_eq (python : PythonRuntime) (cap ruleName : String) :
    applyImportanceCap python analysis cap ruleName =
      if level cap < level (importanceText python analysis) then
        PyDict.set (PyDict.set analysis "importance" (.str cap)) "_importance_cap"
          (capMark (cap, ruleName) (importanceText python analysis))
      else analysis := by
  unfold applyImportanceCap
  have rank := importanceRank_getD cap
  cases isRank : importanceRank cap with
  | none =>
      rw [isRank] at rank
      have high : level cap = 2 := Fin.ext rank.symm
      rw [if_neg]
      rw [high]
      exact not_lt_of_ge (Fin.le_last _)
  | some ceiling =>
      rw [isRank, Option.getD_some] at rank
      dsimp only
      rw [importanceRank_getD, rank]
      by_cases under : level (importanceText python analysis) ≤ level cap
      · rw [if_pos (Fin.le_def.1 under), if_neg (not_lt_of_ge under)]
      · rw [if_neg fun le => under (Fin.le_def.2 le), if_pos (lt_of_not_ge under)]
        rfl

theorem get?_applyRuleImportanceCap_of_ne (importance : key ≠ "importance")
    (marker : key ≠ "_importance_cap") :
    PyDict.get? (applyRuleImportanceCap runtime alert analysis) key =
      PyDict.get? analysis key := by
  unfold applyRuleImportanceCap
  dsimp only
  rw [applyImportanceCap_eq]
  split
  · rw [PyDict.get?_set, if_neg marker, PyDict.get?_set, if_neg importance]
  · rfl

theorem applyRuleImportanceCap_of_not_lowers {importance : String}
    (isRated : importanceText runtime.toPythonRuntime analysis = importance)
    (keeps : alert.lowers runtime importance = false) :
    applyRuleImportanceCap runtime alert analysis = analysis := by
  unfold applyRuleImportanceCap
  dsimp only
  rw [applyImportanceCap_eq, isRated]
  exact if_neg (of_decide_eq_false keeps)

theorem get?_applyRuleImportanceCap_of_lowers {importance : String}
    (isRated : importanceText runtime.toPythonRuntime analysis = importance)
    (lowers : alert.lowers runtime importance = true) :
    PyDict.get? (applyRuleImportanceCap runtime alert analysis) "importance" =
        some (.str (alert.importanceCapFor runtime importance).1) ∧
      PyDict.get? (applyRuleImportanceCap runtime alert analysis) "_importance_cap" =
        some (capMark (alert.importanceCapFor runtime importance) importance) := by
  unfold applyRuleImportanceCap
  dsimp only
  rw [applyImportanceCap_eq, isRated, if_pos (of_decide_eq_true lowers)]
  constructor
  · rw [PyDict.get?_set, if_neg (by decide), PyDict.get?_set, if_pos rfl]
  · rw [PyDict.get?_set, if_pos rfl]

theorem get?_without_self (entries : JsonObject) (key : String) :
    PyDict.get? (PyDict.without entries key) key = none := by
  simp [PyDict.get?, PyDict.without]

theorem get?_markRuleDigest_of_ne (other : key ≠ "_digest") :
    PyDict.get? (markRuleDigest runtime alert analysis) key = PyDict.get? analysis key := by
  unfold markRuleDigest
  dsimp only
  split
  · rw [PyDict.get?_set, if_neg other, PyDict.get?_without_of_ne other]
  · exact PyDict.get?_without_of_ne other

theorem get?_digest_markRuleDigest :
    PyDict.get? (markRuleDigest runtime alert analysis) "_digest" =
      digestMark (alert.digestWindowFor runtime
        (importanceText runtime.toPythonRuntime analysis)) := by
  have sameText : importanceText runtime.toPythonRuntime (PyDict.without analysis "_digest") =
      importanceText runtime.toPythonRuntime analysis :=
    importanceText_congr (PyDict.get?_without_of_ne (by decide))
  unfold markRuleDigest
  dsimp only
  rw [sameText]
  cases digestMark (alert.digestWindowFor runtime
      (importanceText runtime.toPythonRuntime analysis)) with
  | none => exact get?_without_self analysis "_digest"
  | some mark => rw [PyDict.get?_set, if_pos rfl]

/-! ## What the pipeline makes of a fresh analysis -/

theorem get?_freshAnalysis_of_keeps
    (keeps : alert.lowers runtime (rated runtime override analysis) = false)
    (other : key ≠ "_digest") :
    PyDict.get? (freshAnalysis runtime override alert analysis) key =
      PyDict.get? (applyOverride runtime override analysis) key := by
  rw [freshAnalysis, get?_markRuleDigest_of_ne other,
    applyRuleImportanceCap_of_not_lowers importanceText_applyOverride keeps]

theorem get?_freshAnalysis_of_lowers
    (lowers : alert.lowers runtime (rated runtime override analysis) = true) :
    PyDict.get? (freshAnalysis runtime override alert analysis) "importance" =
        some (.str (alert.importanceCapFor runtime (rated runtime override analysis)).1) ∧
      PyDict.get? (freshAnalysis runtime override alert analysis) "_importance_cap" =
        some (capMark (alert.importanceCapFor runtime (rated runtime override analysis))
          (rated runtime override analysis)) := by
  have written := get?_applyRuleImportanceCap_of_lowers importanceText_applyOverride lowers
  rw [freshAnalysis, get?_markRuleDigest_of_ne (by decide), get?_markRuleDigest_of_ne (by decide)]
  exact written

theorem get?_override_freshAnalysis :
    PyDict.get? (freshAnalysis runtime override alert analysis) "importance_override" =
      PyDict.get? (applyOverride runtime override analysis) "importance_override" := by
  rw [freshAnalysis, get?_markRuleDigest_of_ne (by decide),
    get?_applyRuleImportanceCap_of_ne (by decide) (by decide)]

theorem get?_digest_freshAnalysis :
    PyDict.get? (freshAnalysis runtime override alert analysis) "_digest" =
      digestMark (alert.digestWindowFor runtime
        (importanceText runtime.toPythonRuntime
          (freshAnalysis runtime override alert analysis))) := by
  have sameText : importanceText runtime.toPythonRuntime
      (freshAnalysis runtime override alert analysis) =
      importanceText runtime.toPythonRuntime
        (applyRuleImportanceCap runtime alert (applyOverride runtime override analysis)) :=
    importanceText_congr (get?_markRuleDigest_of_ne (by decide))
  rw [sameText]
  exact get?_digest_markRuleDigest

theorem importance_ne_of_lowers
    (lowers : alert.lowers runtime (importanceText runtime.toPythonRuntime analysis) = true) :
    PyDict.get? analysis "importance" ≠
      some (.str (alert.importanceCapFor runtime
        (importanceText runtime.toPythonRuntime analysis)).1) := by
  intro same
  have text := @importanceText_of_get? runtime.toPythonRuntime _ _ same
  have lower := of_decide_eq_true lowers
  rw [← text] at lower
  exact absurd lower (lt_irrefl _)

theorem sameJudgement_iff {first second : JsonObject} :
    SameJudgement first second ↔
      PyDict.get? first "importance" = PyDict.get? second "importance" ∧
        PyDict.get? first "importance_override" = PyDict.get? second "importance_override" ∧
        PyDict.get? first "_importance_cap" = PyDict.get? second "_importance_cap" ∧
        PyDict.get? first "_digest" = PyDict.get? second "_digest" := by
  simp [SameJudgement, judgementKeys]

theorem carriesCorrection_iff :
    CarriesCorrection runtime alert analysis made ↔
      ∀ key ∈ ["importance", "importance_override", "_importance_cap"],
        PyDict.get? analysis key =
          PyDict.get? (freshAnalysis runtime (some made) alert analysis) key := by
  have marked : PyDict.get? (freshAnalysis runtime (some made) alert analysis)
      "importance_override" =
      some (overrideMark made (importanceText runtime.toPythonRuntime analysis)) :=
    get?_override_freshAnalysis.trans (get?_override_applyOverride made)
  cases lowers : alert.lowers runtime made.importance with
  | true =>
      obtain ⟨importance, capped⟩ :=
        @get?_freshAnalysis_of_lowers runtime (some made) alert analysis lowers
      constructor
      · intro carries
        obtain ⟨isCap, hasMark⟩ := carries.capped lowers
        simp only [List.forall_mem_cons, List.not_mem_nil, false_implies, implies_true, and_true]
        exact ⟨isCap.trans importance.symm, carries.marked.trans marked.symm,
          hasMark.trans capped.symm⟩
      · intro same
        exact ⟨(same _ (by simp)).trans marked,
          fun keeps => absurd (lowers.symm.trans keeps) (by decide),
          fun _ => ⟨(same _ (by simp)).trans importance, (same _ (by simp)).trans capped⟩⟩
  | false =>
      have unchanged {key : String} (other : key ≠ "_digest") :=
        @get?_freshAnalysis_of_keeps runtime (some made) alert analysis key lowers other
      have importance := (unchanged (by decide)).trans (get?_importance_applyOverride made)
      constructor
      · intro carries
        simp only [List.forall_mem_cons, List.not_mem_nil, false_implies, implies_true, and_true]
        refine ⟨(carries.uncapped lowers).trans importance.symm,
          carries.marked.trans marked.symm, ?_⟩
        rw [unchanged (by decide), get?_applyOverride_of_ne (by decide) (by decide)]
      · intro same
        exact ⟨(same _ (by simp)).trans marked, fun _ => (same _ (by simp)).trans importance,
          fun caps => absurd (lowers.symm.trans caps) (by decide)⟩

theorem sameJudgement_freshAnalysis_iff :
    SameJudgement analysis (freshAnalysis runtime override alert analysis) ↔
      StandsAsJudged runtime override alert analysis := by
  constructor
  · intro same
    obtain ⟨importance, marker, cap, digest⟩ := sameJudgement_iff.1 same
    refine ⟨?_, ?_⟩
    · cases override with
      | none =>
          refine Or.inl ⟨rfl, Bool.eq_false_of_not_eq_true fun lowers => ?_⟩
          have written := @get?_freshAnalysis_of_lowers runtime none alert analysis lowers
          exact importance_ne_of_lowers lowers (importance.trans written.1)
      | some made =>
          refine Or.inr ⟨made, rfl, (carriesCorrection_iff made).2 ?_⟩
          simp only [List.forall_mem_cons, List.not_mem_nil, false_implies, implies_true, and_true]
          exact ⟨importance, marker, cap⟩
    · rw [digest, get?_digest_freshAnalysis, importanceText_congr importance]
  · intro stands
    have marks : ∀ key ∈ ["importance", "importance_override", "_importance_cap"],
        PyDict.get? analysis key =
          PyDict.get? (freshAnalysis runtime override alert analysis) key := by
      rcases stands.importance with ⟨rfl, keeps⟩ | ⟨made, rfl, carries⟩
      · intro key member
        have other : key ≠ "_digest" := by
          rintro rfl
          simp at member
        exact (@get?_freshAnalysis_of_keeps runtime none alert analysis key keeps other).symm
      · exact (carriesCorrection_iff made).1 carries
    have importance := marks "importance" (by simp)
    refine sameJudgement_iff.2 ⟨importance, marks _ (by simp), marks _ (by simp), ?_⟩
    rw [stands.digest, get?_digest_freshAnalysis, importanceText_congr importance]

end Marks

end RuleMarks

end WebhookWise
