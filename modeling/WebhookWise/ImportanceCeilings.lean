import WebhookWise.AnalysisPipeline
import WebhookWise.InboundRules
import WebhookWise.WebhookReuse

/-!
# Importance ceilings

A `cap_importance` rule lowers the importance of the alerts that it matches.  The capped
analysis is what is saved and remembered, so the next alert that reuses it is matched by its
capped importance, and starts from it.
-/

namespace WebhookWise

open SqlTable

namespace ImportanceCeilings

open RuleMatching InboundRules WebhookIngest WebhookDedup WebhookLinks WebhookReuse
open AnalysisPipeline (importanceText normalizeImportance importanceRank applyImportanceCap)

/-! ## Levels -/

/-- Low, medium or high; whatever else an importance says counts as high. -/
def level (importance : String) : Fin 3 :=
  if importance = "low" then 0 else if importance = "medium" then 1 else 2

def levelName (level : Fin 3) : String :=
  if level = 0 then "low" else if level = 1 then "medium" else "high"

def lowered (ceiling : Fin 3) (importance : String) : String :=
  if level importance ≤ ceiling then importance else levelName ceiling

@[simp]
theorem level_levelName (wanted : Fin 3) : level (levelName wanted) = wanted := by
  revert wanted
  decide

theorem level_eq_iff {importance : String} {wanted : Fin 3} (lower : wanted < 2) :
    level importance = wanted ↔ importance = levelName wanted := by
  constructor
  · intro same
    unfold level at same
    split at same
    · rename_i low
      rw [low, ← same]
      rfl
    · split at same
      · rename_i medium
        rw [medium, ← same]
        rfl
      · exact absurd lower (by rw [← same]; decide)
  · rintro rfl
    exact level_levelName wanted

theorem levelName_injective : Function.Injective levelName :=
  fun first second same => by rw [← level_levelName first, same, level_levelName]

@[simp]
theorem lowered_high (importance : String) : lowered 2 importance = importance :=
  if_pos (Fin.le_last _)

theorem lowered_lowered (earlier later : Fin 3) (importance : String) :
    lowered later (lowered earlier importance) = lowered (min earlier later) importance := by
  unfold lowered
  by_cases under : level importance ≤ earlier
  · rw [if_pos under]
    by_cases further : level importance ≤ later
    · rw [if_pos further, if_pos (le_min under further)]
    · have stricter : later ≤ earlier := (lt_of_not_ge further).le.trans under
      rw [if_neg further, min_eq_right stricter, if_neg further]
  · have exceeds : ¬ level importance ≤ min earlier later :=
      fun both => under (both.trans (min_le_left _ _))
    rw [if_neg under, if_neg exceeds, level_levelName]
    by_cases looser : earlier ≤ later
    · rw [if_pos looser, min_eq_left looser]
    · rw [if_neg looser, min_eq_right (lt_of_not_ge looser).le]

def reached (ceiling : Fin 3) (spelled normalized : String) : Fin 3 :=
  if level spelled ≤ ceiling then level normalized else ceiling

theorem lowered_eq_lowered_iff (ceiling wanted : Fin 3) (spelled normalized : String) :
    (if level spelled ≤ ceiling then normalized else levelName ceiling) =
        lowered wanted normalized ↔
      reached ceiling spelled normalized = min (level normalized) wanted := by
  unfold lowered reached
  by_cases under : level spelled ≤ ceiling
  · rw [if_pos under, if_pos under]
    by_cases fits : level normalized ≤ wanted
    · rw [if_pos fits, min_eq_left fits]
      exact iff_of_true rfl rfl
    · rw [if_neg fits, min_eq_right (lt_of_not_ge fits).le]
      refine ⟨fun same => ?_, fun same => absurd same.le fits⟩
      rw [same, level_levelName]
  · rw [if_neg under, if_neg under]
    have lower : ceiling < 2 := (lt_of_not_ge under).trans_le (Fin.le_last _)
    by_cases fits : level normalized ≤ wanted
    · rw [if_pos fits, min_eq_left fits, eq_comm, ← level_eq_iff lower, eq_comm]
    · rw [if_neg fits, min_eq_right (lt_of_not_ge fits).le]
      exact levelName_injective.eq_iff

/-! ## Importances -/

section Importances

variable (python : PythonRuntime)

/-- The levels are written as they are. -/
def KeepsLevels : Prop :=
  ∀ wanted, python.lower (levelName wanted) = levelName wanted

variable {python}

theorem normalizeImportance_levelName (keepsLevels : KeepsLevels python) (wanted : Fin 3) :
    normalizeImportance python (levelName wanted) = levelName wanted := by
  have stripped : strip (levelName wanted) = levelName wanted := by
    revert wanted
    decide
  unfold normalizeImportance
  rw [stripped, keepsLevels wanted]
  revert wanted
  decide

theorem importanceRank_getD (importance : String) :
    (importanceRank importance).getD 2 = (level importance).val := by
  unfold importanceRank level
  by_cases low : importance = "low"
  · rw [low]
    rfl
  · by_cases medium : importance = "medium"
    · rw [medium]
      rfl
    · by_cases high : importance = "high"
      · rw [high]
        rfl
      · simp [PyDict.get?, Ne.symm low, Ne.symm medium, Ne.symm high, low, medium]

end Importances

/-! ## Cap rules -/

structure CapRule extends InboundRuleSnapshot where
  name : String
  actionValue : String

/-- `matching_inbound_importance_cap`: the ceiling and the name of the first rule that
matches. -/
def matchingInboundImportanceCap (runtime : MatchRuntime) (rules : List CapRule)
    (alert : AlertFacts) (ruleName : String) : String × String :=
  let identified :=
    { alert with identity := some (extractForwardMatchFields runtime alert.parsedData) }
  let matching := rules.find? fun rule =>
    rule.action = "cap_importance" && rule.actionValue ≠ "" &&
      inboundRuleMatches runtime identified ruleName rule.toInboundRuleSnapshot
  match matching with
  | some rule => (runtime.lower (strip rule.actionValue), rule.name)
  | none => ("", "")

/-! ## Arrivals -/

/-- An alert of the identity, with the inbound rules as they are when it is processed. -/
structure CappedArrival where
  after : Nat
  requestId : Option String
  payload : SaveWebhookInput
  /-- The analysis of a run, and the importance that it is judged to have; a silenced alert is
  not judged. -/
  judgement : Option (JsonObject × String)
  source : String
  parsedData : JsonObject
  /-- `cached_inbound_rules`, the highest priority first. -/
  rules : List CapRule
  /-- The route, the colour of a recovery and the digest window. -/
  annotations : JsonObject
  noise : Json
  named : requestId ≠ some ""
  unmarked : ∀ entry ∈ annotations, entry.1 ≠ "_degraded" ∧ entry.1 ≠ "_pending"
  unrated : ∀ entry ∈ annotations, entry.1 ≠ "importance"

namespace CappedArrival

variable (capped : CappedArrival)

def fresh : FreshAnalysis :=
  match capped.judgement with
  | some (analysis, importance) => .analyzed (PyDict.set analysis "importance" (.str importance))
  | none => .silenced

/-- The importance of the analysis that is made if none is reused. -/
def judged : String :=
  match capped.judgement with
  | some (_, importance) => importance
  | none => "unknown"

variable (runtime : MatchRuntime)

/-- `inbound_importance_cap_for`, as `_apply_rule_importance_cap` asks it. -/
def importanceCapFor (importance : String) : String × String :=
  matchingInboundImportanceCap runtime capped.rules
    { parsedData := some capped.parsedData, source := capped.source, importance := importance }
    (alertRuleName runtime capped.parsedData)

def ceilingFor (importance : String) : Fin 3 :=
  level (capped.importanceCapFor runtime importance).1

def applyRuleImportanceCap (analysis : JsonObject) : JsonObject :=
  let (cap, ruleName) :=
    capped.importanceCapFor runtime (importanceText runtime.toPythonRuntime analysis)
  applyImportanceCap runtime.toPythonRuntime analysis cap ruleName

def capMarks (importance : String) : JsonObject :=
  let (cap, ruleName) := capped.importanceCapFor runtime importance
  match importanceRank cap with
  | some ceiling =>
      if (importanceRank importance).getD 2 ≤ ceiling then []
      else
        [("importance", .str cap),
          ("_importance_cap",
            .dict [("capped_to", .str cap), ("judged", .str importance), ("rule", .str ruleName)])]
  | none => []

theorem applyRuleImportanceCap_eq (analysis : JsonObject) :
    capped.applyRuleImportanceCap runtime analysis =
      PyDict.updated analysis
        (capped.capMarks runtime (importanceText runtime.toPythonRuntime analysis)) := by
  simp only [applyRuleImportanceCap, capMarks, applyImportanceCap]
  cases importanceRank (capped.importanceCapFor runtime _).1 with
  | none => rfl
  | some ceiling =>
      dsimp only
      split <;> rfl

variable (importance : String)

theorem capMarks_cases :
    capped.capMarks runtime importance = [] ∧
        lowered (capped.ceilingFor runtime importance) importance = importance ∨
      ∃ marker, capped.capMarks runtime importance =
        [("importance", .str (lowered (capped.ceilingFor runtime importance) importance)),
          ("_importance_cap", marker)] := by
  unfold capMarks ceilingFor
  dsimp only
  generalize capped.importanceCapFor runtime importance = found
  obtain ⟨cap, ruleName⟩ := found
  dsimp only
  have rank := importanceRank_getD cap
  cases isRank : importanceRank cap with
  | none =>
      rw [isRank] at rank
      have high : level cap = 2 := Fin.ext rank.symm
      refine Or.inl ⟨rfl, ?_⟩
      rw [high, lowered_high]
  | some ceiling =>
      rw [isRank, Option.getD_some] at rank
      dsimp only
      rw [importanceRank_getD, rank]
      split
      · rename_i under
        exact Or.inl ⟨rfl, if_pos (Fin.le_def.2 under)⟩
      · rename_i exceeds
        have stricter : level cap < level importance :=
          lt_of_not_ge fun under => exceeds (Fin.le_def.1 under)
        have named : lowered (level cap) importance = cap := by
          rw [lowered, if_neg (not_le_of_gt stricter)]
          exact ((level_eq_iff (stricter.trans_le (Fin.le_last _))).1 rfl).symm
        rw [named]
        exact Or.inr ⟨_, rfl⟩

theorem capMarks_unmarked :
    ∀ entry ∈ capped.capMarks runtime importance, entry.1 ≠ "_degraded" ∧ entry.1 ≠ "_pending" := by
  intro entry member
  rcases capped.capMarks_cases runtime importance with ⟨none, _⟩ | ⟨marker, both⟩
  · rw [none] at member
    cases member
  · rw [both] at member
    rcases List.mem_pair.1 member with rfl | rfl
    · exact ⟨by simp, by simp⟩
    · exact ⟨by simp, by simp⟩

theorem marks_unmarked :
    ∀ entry ∈ capped.annotations ++ capped.capMarks runtime importance,
      entry.1 ≠ "_degraded" ∧ entry.1 ≠ "_pending" := by
  intro entry member
  rcases List.mem_append.1 member with own | cap
  · exact capped.unmarked entry own
  · exact capped.capMarks_unmarked runtime importance entry cap

def toArrival (importance : String) : Arrival where
  after := capped.after
  requestId := capped.requestId
  payload := capped.payload
  fresh := capped.fresh
  annotations := capped.annotations ++ capped.capMarks runtime importance
  noise := capped.noise
  named := capped.named
  unmarked := capped.marks_unmarked runtime importance

end CappedArrival

/-! ## Runs -/

/-- The database and Redis, and how the analyses in them were judged before any cap. -/
structure CappedState where
  reuse : ReuseState
  rememberedJudged : Option String
  storedJudged : Nat → Option String

def CappedState.initial : CappedState :=
  ⟨.initial, none, fun _ => none⟩

section Steps

variable (env : SaveEnvironment) (runtime : MatchRuntime) (windows : DedupWindows)
  (dedupKey : String)

def uncapped (state : CappedState) (capped : CappedArrival) : JsonObject :=
  let answer := resolution windows dedupKey state.reuse (capped.toArrival runtime "")
  if answer.action = .new then capped.fresh.content else answer.analysis.getD []

def cappedArrival (state : CappedState) (capped : CappedArrival) : Arrival :=
  capped.toArrival runtime
    (importanceText runtime.toPythonRuntime (uncapped runtime windows dedupKey state capped))

def judgedImportance (state : CappedState) (capped : CappedArrival) : Option String :=
  let answer := resolution windows dedupKey state.reuse (capped.toArrival runtime "")
  if answer.action = .new then some capped.judged
  else if answer.routeType = "db_reuse" then answer.originalEventId.bind state.storedJudged
  else state.rememberedJudged

def saveTimes (state : CappedState) (capped : CappedArrival) : SaveTimes :=
  let now := state.reuse.now + capped.after
  ⟨now, now, now⟩

def saveRequest (state : CappedState) (capped : CappedArrival) : SaveRequest :=
  arrivalRequest windows dedupKey state.reuse (cappedArrival runtime windows dedupKey state capped)

def storedEvent (state : CappedState) (capped : CappedArrival) : WebhookEvent :=
  savedEvent (withWindow env windows.dedup) (saveTimes state capped)
    (saveRequest runtime windows dedupKey state capped) state.reuse.events

/-- One alert, from `resolve_dedup` to `remember_dedup_state`. -/
def arriveCapped (state : CappedState) (capped : CappedArrival) : CappedState :=
  let request := saveRequest runtime windows dedupKey state capped
  let judged := judgedImportance runtime windows dedupKey state capped
  let reuse := arrive env windows dedupKey state.reuse
    (cappedArrival runtime windows dedupKey state capped)
  match saveWebhookDataInSession (withWindow env windows.dedup) (saveTimes state capped) request
    state.reuse.events with
  | some (_, result) =>
      { reuse := reuse
        rememberedJudged := judged
        storedJudged := fun eventId =>
          if eventId = result.webhookId && !alreadyCompleted request state.reuse.events then judged
          else state.storedJudged eventId }
  | none => { state with reuse := reuse }

/-- The event is stored with the importance that was judged, lowered to the ceiling that the
rules have for it now. -/
def CeilingHolds (state : CappedState) (capped : CappedArrival) : Prop :=
  alreadyCompleted (saveRequest runtime windows dedupKey state capped) state.reuse.events = false →
    storedEvent env runtime windows dedupKey state capped ∈
        (arriveCapped env runtime windows dedupKey state capped).reuse.events.rows ∧
      ∃ judged ∈ judgedImportance runtime windows dedupKey state capped,
        normalizeImportance runtime.toPythonRuntime
            ((storedEvent env runtime windows dedupKey state capped).importance.getD "") =
          lowered (capped.ceilingFor runtime judged)
            (normalizeImportance runtime.toPythonRuntime judged)

end Steps

/-! ## Series -/

/-- The arrivals up to now that each came within the dedup window of the one before: how their
reusable analysis was judged, and the strictest ceiling that they have met.  The requests are
those of all arrivals. -/
structure CapSeries where
  now : DateTime
  requests : List (Option String)
  analysis : Option (String × Fin 3)

def CapSeries.initial : CapSeries :=
  ⟨0, [], none⟩

section Series

variable (runtime : MatchRuntime) (windows : DedupWindows)

def CapSeries.continued (series : CapSeries) (capped : CappedArrival) :
    Option (String × Fin 3) :=
  if within windows.dedup series.now (series.now + capped.after) then series.analysis else none

def CapSeries.standing (series : CapSeries) (capped : CappedArrival) : String × Fin 3 :=
  (series.continued windows capped).getD (capped.judged, 2)

/-- The strictest ceiling with that of an arrival, which is matched by its lowered importance. -/
def CapSeries.strictest (series : CapSeries) (capped : CappedArrival) : Fin 3 :=
  let (judged, ceiling) := series.standing windows capped
  min ceiling (capped.ceilingFor runtime (lowered ceiling judged))

def extendCapped (series : CapSeries) (capped : CappedArrival) : CapSeries where
  now := series.now + capped.after
  requests := capped.requestId :: series.requests
  analysis :=
    if (series.continued windows capped).isSome || hasReusableAnalysis (some capped.fresh.content)
    then some ((series.standing windows capped).1, series.strictest runtime windows capped)
    else none

/-- The strictest ceiling of the series lowers what was judged just as far as the ceiling that
the rules have for it now. -/
def SteadyCeiling (series : CapSeries) (capped : CappedArrival) : Prop :=
  (capped.requestId.isSome → capped.requestId ∉ series.requests) →
    let judged := (series.standing windows capped).1
    let normalized := normalizeImportance runtime.toPythonRuntime judged
    reached (series.strictest runtime windows capped) judged normalized =
      min (level normalized) (capped.ceilingFor runtime judged)

end Series

/-! ## What the series says of the state -/

/-- The state of the plain run is that of a series with the same arrivals, and what Redis
remembers has the importance that the series says. -/
structure RepresentsCaps (windows : DedupWindows) (state : CappedState) (series : CapSeries) :
    Prop where
  plain : ∃ plain, Represents windows state.reuse plain ∧ plain.now = series.now ∧
    plain.analysis.isSome = series.analysis.isSome
  judged : ∀ known ∈ series.analysis, state.rememberedJudged = some known.1
  importance : ∀ known ∈ series.analysis, ∀ entry ∈ state.reuse.remembered,
    ∃ analysis, entry.state.analysis = some analysis ∧
      PyDict.get? analysis "importance" = some (.str (lowered known.2 known.1))
  completed : ∀ row ∈ state.reuse.events.rows, row.processingStatus = .completed
  seen : ∀ requestId : Option String, requestId.isSome →
    (requestId ∈ series.requests ↔ ∃ row ∈ state.reuse.events.rows, row.requestId = requestId)

section Arrivals

variable {env : SaveEnvironment} {runtime : MatchRuntime} {windows : DedupWindows}
  {dedupKey : String} {state : CappedState} {series : CapSeries} {capped : CappedArrival}

theorem importanceText_of_get? {python : PythonRuntime} {analysis : JsonObject}
    {importance : String} (rated : PyDict.get? analysis "importance" = some (.str importance)) :
    importanceText python analysis = importance := by
  unfold importanceText JsonObject.strOr
  rw [rated]
  by_cases empty : importance = ""
  · simp [Json.truthy, empty]
  · simp [Json.truthy, Json.pyStr, empty]

theorem get?_fresh (capped : CappedArrival) :
    PyDict.get? capped.fresh.content "importance" = some (.str capped.judged) := by
  unfold CappedArrival.fresh CappedArrival.judged
  cases capped.judgement with
  | none => rfl
  | some judgement =>
      dsimp only [FreshAnalysis.content]
      rw [PyDict.get?_set, if_pos rfl]

theorem standing_spec (represents : RepresentsCaps windows state series) :
    judgedImportance runtime windows dedupKey state capped =
        some (series.standing windows capped).1 ∧
      PyDict.get? (uncapped runtime windows dedupKey state capped) "importance" =
        some (.str (lowered (series.standing windows capped).2
          (series.standing windows capped).1)) := by
  obtain ⟨plain, plainly, sameNow, sameKnown⟩ := represents.plain
  unfold judgedImportance uncapped CapSeries.standing
  cases continued : series.continued windows capped with
  | none =>
      have discontinued : plain.continued windows (capped.toArrival runtime "") = none := by
        unfold CapSeries.continued at continued
        unfold Series.continued
        rw [sameNow]
        split at continued
        · rename_i recent
          rw [continued, Option.isSome_none, Option.isSome_eq_false_iff,
            Option.isNone_iff_eq_none] at sameKnown
          exact (if_pos recent).trans sameKnown
        · rename_i apart
          exact if_neg apart
      dsimp only
      rw [if_pos (resolution_of_discontinued plainly discontinued),
        if_pos (resolution_of_discontinued plainly discontinued)]
      exact ⟨rfl, by rw [Option.getD_none, lowered_high, get?_fresh]⟩
  | some known =>
      have isKnown : series.analysis = some known := by
        unfold CapSeries.continued at continued
        split at continued
        · exact continued
        · cases continued
      rw [isKnown, Option.isSome_some, Option.isSome_iff_exists] at sameKnown
      obtain ⟨produced, plainKnown⟩ := sameKnown
      have plainContinued : plain.continued windows (capped.toArrival runtime "") =
          some produced := by
        unfold CapSeries.continued at continued
        unfold Series.continued
        rw [sameNow]
        split at continued
        · rename_i recent
          exact (if_pos recent).trans plainKnown
        · cases continued
      obtain ⟨entry, remembered, _, answered, notStored, sameAnalysis⟩ :=
        resolution_of_continued dedupKey plainly plainContinued
      obtain ⟨analysis, isAnalysis, rated⟩ := represents.importance known isKnown entry remembered
      dsimp only
      rw [if_neg answered, if_neg notStored, if_neg answered, sameAnalysis, isAnalysis]
      exact ⟨represents.judged known isKnown, rated⟩

theorem get?_givenAnalysis (represents : RepresentsCaps windows state series) :
    PyDict.get? (givenAnalysis windows dedupKey state.reuse
        (cappedArrival runtime windows dedupKey state capped)) "importance" =
      some (.str (lowered (series.strictest runtime windows capped)
        (series.standing windows capped).1)) := by
  obtain ⟨_, rated⟩ := @standing_spec runtime windows dedupKey state series capped represents
  have text := @importanceText_of_get? runtime.toPythonRuntime _ _ rated
  have given : givenAnalysis windows dedupKey state.reuse
      (cappedArrival runtime windows dedupKey state capped) =
      (cappedArrival runtime windows dedupKey state capped).finalAnalysis
        (uncapped runtime windows dedupKey state capped) := rfl
  have marks : (cappedArrival runtime windows dedupKey state capped).annotations =
      capped.annotations ++ capped.capMarks runtime
        (lowered (series.standing windows capped).2 (series.standing windows capped).1) := by
    rw [← text]
    rfl
  rw [given, Arrival.finalAnalysis, PyDict.get?_set, if_neg (by decide), marks]
  have before : PyDict.get? (PyDict.updated
      (PyDict.without (uncapped runtime windows dedupKey state capped) "_digest")
      capped.annotations) "importance" = some (.str (lowered (series.standing windows capped).2
        (series.standing windows capped).1)) := by
    rw [PyDict.get?_updated_of_forall_ne capped.unrated, PyDict.get?_without_of_ne (by decide)]
    exact rated
  have appended (analysis first second : JsonObject) : PyDict.updated analysis (first ++ second) =
      PyDict.updated (PyDict.updated analysis first) second := List.foldl_append
  unfold CapSeries.strictest
  rw [appended, ← lowered_lowered]
  rcases capped.capMarks_cases runtime (lowered (series.standing windows capped).2
      (series.standing windows capped).1) with ⟨unmarked, same⟩ | ⟨marker, marked⟩
  · rw [unmarked, same]
    exact before
  · rw [marked, PyDict.updated, List.foldl_cons, List.foldl_cons, List.foldl_nil, PyDict.get?_set,
      if_neg (by simp), PyDict.get?_set, if_pos rfl]

theorem presentAnalysis_givenAnalysis (reuse : ReuseState) (arrival : Arrival) :
    presentAnalysis (some (givenAnalysis windows dedupKey reuse arrival)) =
      some (givenAnalysis windows dedupKey reuse arrival) := by
  have nonempty : givenAnalysis windows dedupKey reuse arrival ≠ [] := PyDict.set_ne_nil _ _ _
  simp [presentAnalysis, nonempty]

theorem importance_savedEvent {times : SaveTimes} {request : SaveRequest} {events : EventTable}
    {analysis : JsonObject} (given : request.payload.aiAnalysis = some analysis)
    (present : presentAnalysis (some analysis) = some analysis) :
    (savedEvent env times request events).importance = importanceOf analysis := by
  have prepared : (env.prepared request.payload).aiAnalysis = some analysis := given
  have filledWith : (savedInput env request events (savedStatus env times request events)).importance =
      importanceOf analysis := by
    unfold savedInput
    split
    · simp only [duplicateInput, analysisForDuplicate, prepared, present]
    · simp only [completedInput, prepared, Option.bind_some]
  unfold savedEvent
  cases existingEvent request events with
  | none | some => exact filledWith

theorem importance_storedEvent (represents : RepresentsCaps windows state series) :
    (storedEvent env runtime windows dedupKey state capped).importance =
      some (lowered (series.strictest runtime windows capped)
        (series.standing windows capped).1) := by
  rw [storedEvent, importance_savedEvent rfl (presentAnalysis_givenAnalysis _ _), importanceOf,
    get?_givenAnalysis represents]

theorem reuse_arriveCapped :
    (arriveCapped env runtime windows dedupKey state capped).reuse =
      arrive env windows dedupKey state.reuse
        (cappedArrival runtime windows dedupKey state capped) := by
  unfold arriveCapped
  dsimp only
  split
  · rfl
  · rfl

theorem arrive_of_saved {events : EventTable} {result : SaveWebhookResult}
    (saved : saveWebhookDataInSession (withWindow env windows.dedup) (saveTimes state capped)
      (saveRequest runtime windows dedupKey state capped) state.reuse.events =
        some (events, result)) :
    (arrive env windows dedupKey state.reuse
        (cappedArrival runtime windows dedupKey state capped)).events = events ∧
      ∀ entry ∈ (arrive env windows dedupKey state.reuse
        (cappedArrival runtime windows dedupKey state capped)).remembered,
        entry.state.analysis = some (givenAnalysis windows dedupKey state.reuse
          (cappedArrival runtime windows dedupKey state capped)) := by
  have savedThere : saveWebhookDataInSession (withWindow env windows.dedup)
      ⟨state.reuse.now + (cappedArrival runtime windows dedupKey state capped).after,
        state.reuse.now + (cappedArrival runtime windows dedupKey state capped).after,
        state.reuse.now + (cappedArrival runtime windows dedupKey state capped).after⟩
      (arrivalRequest windows dedupKey state.reuse
        (cappedArrival runtime windows dedupKey state capped)) state.reuse.events =
      some (events, result) := saved
  unfold arrive
  simp only [savedThere]
  refine ⟨trivial, fun entry isEntry => ?_⟩
  obtain rfl := Option.some.inj isEntry
  exact presentAnalysis_givenAnalysis _ _

theorem exists_saved (env : SaveEnvironment) (runtime : MatchRuntime) (windows : DedupWindows)
    (dedupKey : String) (state : CappedState) (capped : CappedArrival) :
    ∃ events result, saveWebhookDataInSession (withWindow env windows.dedup)
        (saveTimes state capped) (saveRequest runtime windows dedupKey state capped)
        state.reuse.events = some (events, result) ∧
      (arriveCapped env runtime windows dedupKey state capped).reuse.events = events ∧
      (arriveCapped env runtime windows dedupKey state capped).rememberedJudged =
        judgedImportance runtime windows dedupKey state capped ∧
      ∀ entry ∈ (arriveCapped env runtime windows dedupKey state capped).reuse.remembered,
        entry.state.analysis = some (givenAnalysis windows dedupKey state.reuse
          (cappedArrival runtime windows dedupKey state capped)) := by
  have named : (saveRequest runtime windows dedupKey state capped).requestId ≠ some "" :=
    capped.named
  obtain ⟨⟨events, result⟩, saved⟩ := exists_saveWebhookDataInSession
    (withWindow env windows.dedup) (saveTimes state capped) state.reuse.events named
  rw [reuse_arriveCapped]
  obtain ⟨sameEvents, remembered⟩ := arrive_of_saved saved
  refine ⟨events, result, saved, sameEvents, ?_, remembered⟩
  unfold arriveCapped
  simp only [saved]

theorem alreadyCompleted_iff (represents : RepresentsCaps windows state series) :
    alreadyCompleted (saveRequest runtime windows dedupKey state capped) state.reuse.events = false ↔
      (capped.requestId.isSome → capped.requestId ∉ series.requests) := by
  have sameRequest : (saveRequest runtime windows dedupKey state capped).requestId =
      capped.requestId := rfl
  unfold alreadyCompleted existingEvent findByRequestId
  rw [sameRequest]
  cases isRequest : capped.requestId with
  | none => simp [presentText]
  | some requestId =>
      have present : presentText (some requestId) = some requestId := by
        have named : requestId ≠ "" := fun empty => capped.named (by rw [isRequest, empty])
        simp [presentText, Option.filter, named]
      rw [present, Option.isSome_some, if_pos rfl, Option.any_eq_false]
      simp only [forall_const]
      rw [represents.seen (some requestId) rfl]
      constructor
      · rintro unfinished ⟨row, member, same⟩
        cases found : state.reuse.events.rows.find? fun row => row.requestId = some requestId with
        | none => exact absurd (decide_eq_true same) (List.find?_eq_none.1 found row member)
        | some first =>
            have isCompleted := represents.completed first (List.mem_of_find?_eq_some found)
            exact absurd isCompleted (of_decide_eq_false (unfinished first found))
      · intro unseen row found
        have same := List.find?_some found
        exact absurd ⟨row, List.mem_of_find?_eq_some found, of_decide_eq_true same⟩ unseen

theorem saved_storedEvent
    (unfinished : alreadyCompleted (saveRequest runtime windows dedupKey state capped)
      state.reuse.events = false) :
    Saved false state.reuse.events
      (arriveCapped env runtime windows dedupKey state capped).reuse.events
      (storedEvent env runtime windows dedupKey state capped) := by
  obtain ⟨events, result, saved, sameEvents, _, _⟩ :=
    exists_saved env runtime windows dedupKey state capped
  rw [sameEvents]
  rcases saveWebhookDataInSession_spec saved with ⟨_, row, found, completed, _⟩ | ⟨written, _⟩
  · unfold alreadyCompleted at unfinished
    rw [found, Option.any_some, completed] at unfinished
    cases unfinished
  · exact written

theorem events_of_alreadyCompleted
    (finished : alreadyCompleted (saveRequest runtime windows dedupKey state capped)
      state.reuse.events = true) :
    (arriveCapped env runtime windows dedupKey state capped).reuse.events =
      state.reuse.events := by
  obtain ⟨events, result, saved, sameEvents, _, _⟩ :=
    exists_saved env runtime windows dedupKey state capped
  rw [sameEvents]
  rcases saveWebhookDataInSession_spec saved with ⟨same, _⟩ | ⟨written, _⟩
  · exact same
  · unfold alreadyCompleted at finished
    cases found : existingEvent (saveRequest runtime windows dedupKey state capped)
        state.reuse.events with
    | none =>
        rw [found] at finished
        cases finished
    | some row =>
        rw [found, Option.any_some, decide_eq_true_eq] at finished
        have sameId : row.id = (storedEvent env runtime windows dedupKey state capped).id := by
          rw [storedEvent, savedEvent_id, found]
          rfl
        exact absurd finished (written.unfinished row (existingEvent_spec found).1 sameId)

theorem ceilingHolds_iff (keepsLevels : KeepsLevels runtime.toPythonRuntime)
    (represents : RepresentsCaps windows state series) :
    CeilingHolds env runtime windows dedupKey state capped ↔
      SteadyCeiling runtime windows series capped := by
  obtain ⟨judged, _⟩ := @standing_spec runtime windows dedupKey state series capped represents
  have normalized : normalizeImportance runtime.toPythonRuntime
      ((storedEvent env runtime windows dedupKey state capped).importance.getD "") =
      if level (series.standing windows capped).1 ≤ series.strictest runtime windows capped then
        normalizeImportance runtime.toPythonRuntime (series.standing windows capped).1
      else levelName (series.strictest runtime windows capped) := by
    rw [importance_storedEvent represents, Option.getD_some, lowered]
    split
    · rfl
    · exact normalizeImportance_levelName keepsLevels _
  unfold CeilingHolds SteadyCeiling
  rw [judged, normalized, ← alreadyCompleted_iff represents]
  refine forall_congr' fun unfinished => ?_
  rw [and_iff_right (saved_storedEvent unfinished).stored, ← lowered_eq_lowered_iff]
  simp

theorem requests_arriveCapped (represents : RepresentsCaps windows state series) :
    (∀ row ∈ (arriveCapped env runtime windows dedupKey state capped).reuse.events.rows,
      row.processingStatus = .completed) ∧
    ∀ requestId : Option String, requestId.isSome →
      (requestId ∈ (extendCapped runtime windows series capped).requests ↔
        ∃ row ∈ (arriveCapped env runtime windows dedupKey state capped).reuse.events.rows,
          row.requestId = requestId) := by
  cases finished : alreadyCompleted (saveRequest runtime windows dedupKey state capped)
      state.reuse.events with
  | true =>
      rw [events_of_alreadyCompleted finished]
      refine ⟨represents.completed, fun requestId present => ?_⟩
      rw [← represents.seen requestId present]
      refine ⟨fun member => ?_, List.mem_cons_of_mem _⟩
      rcases List.mem_cons.1 member with rfl | earlier
      · by_contra unseen
        rw [(alreadyCompleted_iff represents).2 fun _ => unseen] at finished
        cases finished
      · exact earlier
  | false =>
      have written := @saved_storedEvent env runtime windows dedupKey state capped finished
      have ownRequest : (storedEvent env runtime windows dedupKey state capped).requestId =
          capped.requestId := savedEvent_requestId
      have isNew (row : WebhookEvent) (member : row ∈ state.reuse.events.rows) :
          row.id ≠ (storedEvent env runtime windows dedupKey state capped).id :=
        fun same => written.unfinished row member same (represents.completed row member)
      constructor
      · intro row member
        by_cases own : row.id = (storedEvent env runtime windows dedupKey state capped).id
        · rw [Table.eq_of_key_eq member written.stored own]
          exact savedEvent_processingStatus
        · obtain ⟨old, oldMember, _, linked⟩ := written.others row member own
          rw [linked]
          exact represents.completed old oldMember
      · intro requestId present
        rw [extendCapped, List.mem_cons, represents.seen requestId present]
        constructor
        · rintro (rfl | ⟨old, oldMember, same⟩)
          · exact ⟨_, written.stored, ownRequest⟩
          · obtain ⟨row, member, _, linked⟩ := written.kept old oldMember (isNew old oldMember)
            refine ⟨row, member, ?_⟩
            rw [linked]
            exact same
        · rintro ⟨row, member, same⟩
          by_cases own : row.id = (storedEvent env runtime windows dedupKey state capped).id
          · rw [Table.eq_of_key_eq member written.stored own, ownRequest] at same
            exact Or.inl same.symm
          · obtain ⟨old, oldMember, _, linked⟩ := written.others row member own
            rw [linked] at same
            exact Or.inr ⟨old, oldMember, same⟩

theorem hasReusableAnalysis_fresh (arrival : Arrival) (capped : CappedArrival) :
    hasReusableAnalysis (some (arrival.finalAnalysis capped.fresh.content)) =
      hasReusableAnalysis (some capped.fresh.content) := by
  have nonempty : capped.fresh.content ≠ [] := by
    intro empty
    have rated := get?_fresh capped
    rw [empty] at rated
    cases rated
  have present : presentAnalysis (some capped.fresh.content) = some capped.fresh.content := by
    simp [presentAnalysis, nonempty]
  rw [arrival.hasReusableAnalysis_finalAnalysis, hasReusableAnalysis]
  simp only [present]

theorem isSome_extend {plain : Series} (sameNow : plain.now = series.now)
    (sameKnown : plain.analysis.isSome = series.analysis.isSome) :
    (extend windows plain (cappedArrival runtime windows dedupKey state capped)).analysis.isSome =
      (extendCapped runtime windows series capped).analysis.isSome := by
  have sameContinued : (plain.continued windows
      (cappedArrival runtime windows dedupKey state capped)).isSome =
      (series.continued windows capped).isSome := by
    unfold Series.continued CapSeries.continued
    rw [sameNow]
    change (if within windows.dedup series.now (series.now + capped.after) then _ else none).isSome = _
    split
    · exact sameKnown
    · rfl
  unfold extend extendCapped
  rw [← sameContinued]
  cases plain.continued windows (cappedArrival runtime windows dedupKey state capped) with
  | some known => rfl
  | none =>
      have sameContent : (cappedArrival runtime windows dedupKey state capped).fresh = capped.fresh :=
        rfl
      simp only [sameContent, hasReusableAnalysis_fresh, Option.isSome_none, Bool.false_or]
      split
      · rfl
      · rfl

theorem representsCaps_arriveCapped (represents : RepresentsCaps windows state series) :
    RepresentsCaps windows (arriveCapped env runtime windows dedupKey state capped)
      (extendCapped runtime windows series capped) := by
  obtain ⟨plain, plainly, sameNow, sameKnown⟩ := represents.plain
  obtain ⟨judged, _⟩ := @standing_spec runtime windows dedupKey state series capped represents
  obtain ⟨completed, seen⟩ :=
    @requests_arriveCapped env runtime windows dedupKey state series capped represents
  refine ⟨?_, ?_, ?_, completed, seen⟩
  · refine ⟨extend windows plain (cappedArrival runtime windows dedupKey state capped), ?_, ?_, ?_⟩
    · rw [reuse_arriveCapped]
      exact represents_arrive plainly
    · rw [extend, extendCapped, sameNow]
      rfl
    · exact isSome_extend sameNow sameKnown
  · intro known isKnown
    obtain ⟨_, _, _, _, remembered, _⟩ := exists_saved env runtime windows dedupKey state capped
    rw [remembered, judged]
    unfold extendCapped at isKnown
    dsimp only at isKnown
    split at isKnown
    · cases isKnown
      rfl
    · cases isKnown
  · intro known isKnown entry isEntry
    obtain ⟨_, _, _, _, _, remembered⟩ := exists_saved env runtime windows dedupKey state capped
    refine ⟨_, remembered entry isEntry, ?_⟩
    rw [get?_givenAnalysis represents]
    unfold extendCapped at isKnown
    dsimp only at isKnown
    split at isKnown
    · cases isKnown
      rfl
    · cases isKnown

theorem representsCaps_initial : RepresentsCaps windows .initial .initial where
  plain := ⟨.initial, represents_initial, rfl, rfl⟩
  judged := nofun
  importance := nofun
  completed row member := by simp [CappedState.initial, ReuseState.initial, Table.empty] at member
  seen requestId _ := by
    simp [CappedState.initial, ReuseState.initial, Table.empty, CapSeries.initial]

end Arrivals

/-- Every event is stored under the ceiling of its time just when the strictest ceiling of each
series is, for what was judged, as strict as the one of the time. -/
theorem ceilings_hold_iff (env : SaveEnvironment) (runtime : MatchRuntime)
    (windows : DedupWindows) (dedupKey : String) (arrivals : List CappedArrival)
    (keepsLevels : KeepsLevels runtime.toPythonRuntime) :
    GuardedRuns.Along (arriveCapped env runtime windows dedupKey)
        (CeilingHolds env runtime windows dedupKey) .initial arrivals ↔
      GuardedRuns.Along (extendCapped runtime windows) (SteadyCeiling runtime windows) .initial
        arrivals := by
  apply GuardedRuns.along_iff_of_simulation (RepresentsCaps windows)
  · intro state series capped represents
    exact ceilingHolds_iff keepsLevels represents
  · intro state series capped represents
    exact representsCaps_arriveCapped represents
  · exact representsCaps_initial

instance (runtime : MatchRuntime) (windows : DedupWindows) (series : CapSeries)
    (capped : CappedArrival) : Decidable (SteadyCeiling runtime windows series capped) :=
  inferInstanceAs (Decidable ((_ → _) → _ = _))

def highAlert (requestId : String) (named : some requestId ≠ some "") (rules : List CapRule) :
    CappedArrival where
  after := 50000000
  requestId := some requestId
  payload := sampleSave
  judgement := some ([("summary", .str "disk full")], "high")
  source := "grafana"
  parsedData := []
  rules := rules
  annotations := []
  noise := .null
  named := named
  unmarked := nofun
  unrated := nofun

def capEverything (ceiling : String) : CapRule :=
  { action := "cap_importance", name := "quiet", actionValue := ceiling }

theorem keepsLevels_ascii : KeepsLevels (MatchRuntime.ascii ⟨[], [], [], []⟩).toPythonRuntime := by
  unfold KeepsLevels
  decide

/-- A ceiling that stays, or becomes stricter, is the one that is stored. -/
theorem stricter_ceilings_hold :
    GuardedRuns.Along
      (arriveCapped ⟨.plain, 60, fun _ _ _ => "hash"⟩ (.ascii ⟨[], [], [], []⟩) shortWindows "key")
      (CeilingHolds ⟨.plain, 60, fun _ _ _ => "hash"⟩ (.ascii ⟨[], [], [], []⟩) shortWindows "key")
      .initial
      [highAlert "req-1" (by decide) [capEverything "medium"],
        highAlert "req-2" (by decide) [capEverything "low"]] := by
  rw [ceilings_hold_iff _ _ _ _ _ keepsLevels_ascii]
  decide

/-- The cap of the first alert outlives its rule. -/
theorem ceiling_outlives_rule :
    ¬ GuardedRuns.Along
      (arriveCapped ⟨.plain, 60, fun _ _ _ => "hash"⟩ (.ascii ⟨[], [], [], []⟩) shortWindows "key")
      (CeilingHolds ⟨.plain, 60, fun _ _ _ => "hash"⟩ (.ascii ⟨[], [], [], []⟩) shortWindows "key")
      .initial
      [highAlert "req-1" (by decide) [capEverything "medium"], highAlert "req-2" (by decide) []] := by
  intro along
  obtain ⟨_, judged, isJudged, same⟩ := along.2.1 (by decide)
  have isHigh : judged = "high" := Option.some.inj (isJudged.symm.trans (by decide))
  subst isHigh
  revert same
  decide

end ImportanceCeilings

end WebhookWise
