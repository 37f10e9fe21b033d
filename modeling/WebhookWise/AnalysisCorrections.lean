import WebhookWise.AnalysisIsolation
import WebhookWise.GuardedRuns

/-!
# Operators' corrections

A correction of an importance is stored under the alert hash, and `apply_override` looks it up
for every analysis that is made or found in the AI cache.  An analysis that is reused from
Redis or from the database passes no such lookup: it leaves with what was stored of it, which
may be older than the correction, or capped.
-/

namespace WebhookWise

open IdentityKeys AnalysisPipeline

namespace AnalysisCorrections

/-! ## Marks of an operator -/

section Marks

variable {Key : Type} (settings : PipelineSettings Key)

/-- The analysis has the importance, marked as an operator's. -/
def Carries (importance : String) (analysis : JsonObject) : Prop :=
  PyDict.get? analysis "importance" = some (.str importance) ∧
    ∃ marker, PyDict.get? analysis "importance_override" = some (.dict marker) ∧
      PyDict.get? marker "importance" = some (.str importance)

/-- The analysis has no marker of an operator. -/
def Unmarked (analysis : JsonObject) : Prop :=
  PyDict.get? analysis "importance_override" = none

/-- Neither the rules nor the model write the marker, and what raises the importance of a
scarce resource leaves it out too. -/
structure JudgesUnmarked : Prop where
  rules : ∀ alert, Unmarked (settings.analyzeWithRules alert)
  model : ∀ alert, Unmarked (settings.callAi alert).1
  resources : ∀ analysis data, Unmarked analysis →
    Unmarked (settings.applyResourceImportanceOverride analysis data)

variable {settings} {analysis : JsonObject}

theorem unmarked_set {key : String} {value : Json} (other : key ≠ "importance_override") :
    Unmarked (PyDict.set analysis key value) ↔ Unmarked analysis := by
  unfold Unmarked
  rw [PyDict.get?_set, if_neg (Ne.symm other)]

theorem unmarked_filter (kept : String × Json → Bool) (unmarked : Unmarked analysis) :
    Unmarked (analysis.filter kept) := by
  unfold Unmarked PyDict.get? at unmarked ⊢
  rw [Option.map_eq_none_iff, List.find?_eq_none] at unmarked ⊢
  exact fun entry member => unmarked entry (List.mem_of_mem_filter member)

theorem carries_set {key importance : String} {value : Json} (notImportance : key ≠ "importance")
    (notMarker : key ≠ "importance_override") :
    Carries importance (PyDict.set analysis key value) ↔ Carries importance analysis := by
  unfold Carries
  rw [PyDict.get?_set, PyDict.get?_set, if_neg (Ne.symm notImportance), if_neg (Ne.symm notMarker)]

theorem carries_reused {alert : Alert} {importance route : String} :
    Carries importance (recoveryRecolour settings alert (setAnalysisRoute analysis route)) ↔
      Carries importance analysis := by
  have routed : Carries importance (setAnalysisRoute analysis route) ↔
      Carries importance analysis := carries_set (by decide) (by decide)
  unfold recoveryRecolour
  dsimp only
  split
  · split
    · exact (carries_set (by decide) (by decide)).trans routed
    · exact routed
  · exact routed

theorem carries_applyOverride (unmarked : Unmarked analysis) {override : Option ImportanceOverride}
    {importance : String} :
    Carries importance (applyOverride settings override analysis) ↔
      ∃ found ∈ override, found.importance = importance := by
  cases override with
  | none =>
      refine ⟨?_, fun found => (nomatch found)⟩
      rintro ⟨_, marker, marked, _⟩
      rw [applyOverride, show PyDict.get? analysis "importance_override" = none from unmarked]
        at marked
      cases marked
  | some override =>
      have ownImportance : PyDict.get? (applyOverride settings (some override) analysis)
          "importance" = some (.str override.importance) := by
        simp [applyOverride, PyDict.get?_set]
      constructor
      · rintro ⟨isImportance, _⟩
        rw [ownImportance] at isImportance
        exact ⟨override, rfl, Json.str.inj (Option.some.inj isImportance)⟩
      · rintro ⟨found, isFound, rfl⟩
        cases isFound
        refine ⟨ownImportance, ?_⟩
        simp only [applyOverride, PyDict.get?_set, if_true]
        exact ⟨_, rfl, rfl⟩

theorem mem_of_liveEntry {reading : Reading} {entries : List CacheEntry} {entry : CacheEntry}
    (live : liveEntry settings reading entries = some entry) : entry ∈ entries := by
  apply List.mem_of_mem_head?
  rw [(liveEntry_spec live).2.1]
  rfl

theorem unmarked_modelAnalysis (judges : JudgesUnmarked settings) (alert : Alert) :
    Unmarked (modelAnalysis settings alert) := by
  unfold modelAnalysis setAnalysisPrompt
  rw [unmarked_set (by decide), unmarked_set (by decide)]
  exact judges.resources _ _ (judges.model alert)

theorem unmarked_analyzeWebhookWithAi (judges : JudgesUnmarked settings) (alert : Alert)
    (refusal : Option String) :
    Unmarked (analyzeWebhookWithAi settings alert refusal).1 ∧
      ∀ cacheable ∈ (analyzeWebhookWithAi settings alert refusal).2, Unmarked cacheable := by
  unfold analyzeWebhookWithAi
  split
  · exact ⟨(unmarked_set (by decide)).2 (judges.rules alert), nofun⟩
  · refine ⟨?_, nofun⟩
    unfold markAnalysisDegraded setAnalysisRoute
    rw [unmarked_set (by decide), unmarked_set (by decide), unmarked_set (by decide)]
    exact judges.rules alert
  · have unmarked := unmarked_modelAnalysis judges alert
    refine ⟨?_, fun cacheable isCacheable => ?_⟩
    · unfold setAnalysisRoute
      rw [unmarked_set (by decide), unmarked_set (by decide)]
      exact unmarked
    · dsimp only at isCacheable
      split at isCacheable
      · cases isCacheable
      · cases isCacheable
        exact unmarked_filter _ unmarked

end Marks

/-! ## Deliveries -/

/-- The pipeline, and for each delivery that has started the override that stood then. -/
structure CorrectedState (Key : Type) where
  pipeline : PipelineState Key
  started : Nat → Option (Option ImportanceOverride)

def CorrectedState.initial (Key : Type) : CorrectedState Key :=
  ⟨.initial Key, fun _ => none⟩

/-- The override that stood when the processing of a delivery started. -/
def CorrectedState.standing {Key : Type} (state : CorrectedState Key) (alert : Nat) :
    Option ImportanceOverride :=
  (state.started alert).getD none

inductive CorrectionEvent (Key : Type) where
  | start (alert : Nat)
  | process (event : PipelineEvent)
  /-- `forget_override`. -/
  | forget (key : Key)

def ended {Key : Type} (state : PipelineState Key) : PipelineEvent → Option Nat
  | .abandon alert => some alert
  | .remember alert _ =>
      match state.phases alert with
      | .persisted _ _ => some alert
      | _ => none
  | _ => none

/-- Only a delivery that has started is resolved. -/
def admits {Key : Type} (state : CorrectedState Key) : PipelineEvent → Bool
  | .resolve alert _ _ => (state.started alert).isSome
  | _ => true

variable {Key : Type} [DecidableEq Key] (settings : PipelineSettings Key) (alerts : Nat → Alert)

def advance (state : CorrectedState Key) : CorrectionEvent Key → CorrectedState Key
  | .start alert =>
      match state.pipeline.phases alert with
      | .waiting =>
          { state with
            started := Function.update state.started alert
              (some (state.pipeline.overrides (alertHash settings (alerts alert)))) }
      | _ => state
  | .process event =>
      if admits state event then
        { pipeline := step settings alerts state.pipeline event
          started :=
            match ended state.pipeline event with
            | some alert => Function.update state.started alert none
            | none => state.started }
      else state
  | .forget key =>
      { state with
        pipeline := { state.pipeline with
          overrides := Function.update state.pipeline.overrides key none } }

/-! ## Ways out of the analysis -/

/-- How a delivery leaves the analysis. -/
inductive WayOut where
  /-- By `_handle_reused_analysis`, with what `resolve_dedup` has found. -/
  | reused (analysis : JsonObject) (route : String)
  /-- By `apply_override`, with what was made or found in the AI cache. -/
  | judged (reading : Reading) (analysis : JsonObject)

/-- The way out that an event is.  A silenced alert that has no analysis is given none. -/
def wayOut (state : PipelineState Key) : PipelineEvent → Option WayOut
  | .resolve alert reading _ =>
      match state.phases alert with
      | .waiting =>
          let dedup := resolveDedup settings alerts alert reading state
          if dedup.action ≠ .new then some (.reused (dedup.analysis.getD []) dedup.routeType)
          else none
      | _ => none
  | .lookUp alert reading =>
      match state.phases alert with
      | .unanalyzed _ =>
          (liveEntry settings reading (state.cache (cacheHash settings (alerts alert)))).map
            fun entry => .judged reading
              (setAnalysisRoute (settings.applyResourceImportanceOverride
                (markCacheHit entry.analysis (entry.hits + 1)) (alerts alert).parsedData) "cache")
      | _ => none
  | .analyze alert reading refusal =>
      match state.phases alert with
      | .uncached _ => some (.judged reading (analyzeWebhookWithAi settings (alerts alert) refusal).1)
      | _ => none
  | _ => none

def leftAnalysis (state : PipelineState Key) (alert : Nat) : WayOut → JsonObject
  | .reused analysis route =>
      recoveryRecolour settings (alerts alert) (setAnalysisRoute analysis route)
  | .judged reading analysis =>
      applyOverride settings (overrideOf settings alerts alert reading state) analysis

/-! ## Corrections that stick -/

/-- A delivery leaves the analysis with the correction that stood when it started. -/
def Sticks (state : CorrectedState Key) : CorrectionEvent Key → Prop
  | .process event =>
      ∀ way ∈ wayOut settings alerts state.pipeline event,
        ∀ override ∈ state.standing event.alert,
          Carries override.importance (leftAnalysis settings alerts state.pipeline event.alert way)
  | _ => True

/-- A way out that respects an importance: what is reused carries it already, what is judged
is given it by the override that the lookup finds. -/
def WayOut.Respects (state : PipelineState Key) (alert : Nat) (importance : String) :
    WayOut → Prop
  | .reused analysis _ => Carries importance analysis
  | .judged reading _ =>
      ∃ found ∈ overrideOf settings alerts alert reading state, found.importance = importance

/-- Deliveries that start under an override take a way out that respects it. -/
def Honoured (state : CorrectedState Key) : CorrectionEvent Key → Prop
  | .process event =>
      ∀ way ∈ wayOut settings alerts state.pipeline event,
        ∀ override ∈ state.standing event.alert,
          way.Respects settings alerts state.pipeline event.alert override.importance
  | _ => True

/-! ## Runs -/

variable {pipeline : PipelineState Key}

section Runs

variable {settings alerts} {state : CorrectedState Key}

/-- The AI cache has analyses without a marker only. -/
def CacheUnmarked (state : PipelineState Key) : Prop :=
  ∀ key, ∀ entry ∈ state.cache key, Unmarked entry.analysis

theorem cacheUnmarked_update (unmarked : CacheUnmarked pipeline) {key : Key}
    {entries : List CacheEntry} (all : ∀ entry ∈ entries, Unmarked entry.analysis) :
    CacheUnmarked { pipeline with cache := Function.update pipeline.cache key entries } := by
  intro other entry member
  dsimp only at member
  by_cases same : other = key
  · subst same
    rw [Function.update_self] at member
    exact all entry member
  · rw [Function.update_of_ne same] at member
    exact unmarked other entry member

theorem cacheUnmarked_lookedUp (unmarked : CacheUnmarked pipeline) (alert : Nat) (reading : Reading)
    (dedup : WebhookDedup.DedupResult) :
    CacheUnmarked (lookedUp settings alerts alert reading dedup pipeline) := by
  unfold lookedUp
  dsimp only
  split
  · rename_i entry live
    refine cacheUnmarked_update unmarked fun cached member => ?_
    rcases List.mem_cons.1 member with rfl | older
    · exact unmarked _ entry (mem_of_liveEntry live)
    · exact unmarked _ cached (List.mem_of_mem_tail older)
  · exact unmarked

theorem cacheUnmarked_saveToCache (unmarked : CacheUnmarked pipeline) (alert : Nat)
    (reading : Reading) {cacheable : Option JsonObject}
    (all : ∀ analysis ∈ cacheable, Unmarked analysis) :
    CacheUnmarked (saveToCache settings alerts alert reading cacheable pipeline) := by
  unfold saveToCache
  dsimp only
  split
  · rename_i analysis isCached
    refine cacheUnmarked_update unmarked fun cached member => ?_
    rcases List.mem_cons.1 member with rfl | older
    · exact all analysis (Option.filter_eq_some_iff.1 isCached).1
    · exact unmarked _ cached older
  · exact unmarked

theorem cacheUnmarked_rememberDedup (unmarked : CacheUnmarked pipeline) (alert : Nat)
    (reading : Reading) (original : Nat) (analysis : JsonObject) (resetChain : Bool) :
    CacheUnmarked
      (rememberDedup settings alerts alert reading original analysis resetChain pipeline) := by
  unfold rememberDedup
  dsimp only
  split
  · exact unmarked
  · exact unmarked

theorem cacheUnmarked_step (judges : JudgesUnmarked settings) (unmarked : CacheUnmarked pipeline)
    (event : PipelineEvent) : CacheUnmarked (step settings alerts pipeline event) := by
  cases event with
  | resolve alert reading silenced =>
      dsimp only [step]
      split
      · unfold resolved
        dsimp only
        split
        · exact unmarked
        · split
          · exact unmarked
          · exact cacheUnmarked_rememberDedup unmarked alert reading _ _ _
      · exact unmarked
  | lookUp alert reading =>
      dsimp only [step]
      split
      · exact cacheUnmarked_lookedUp unmarked alert reading _
      · exact unmarked
  | analyze alert reading refusal =>
      dsimp only [step]
      split
      · exact cacheUnmarked_saveToCache unmarked alert reading
          (unmarked_analyzeWebhookWithAi judges (alerts alert) refusal).2
      · exact unmarked
  | correlate alert reading =>
      dsimp only [step]
      split
      · exact unmarked
      · exact unmarked
  | save alert reading timestamp =>
      dsimp only [step]
      split
      · unfold saved
        split
        · exact unmarked
        · exact unmarked
      · exact unmarked
  | remember alert reading =>
      dsimp only [step]
      split
      · exact cacheUnmarked_rememberDedup unmarked alert reading _ _ _
      · exact unmarked
  | abandon alert => exact unmarked
  | correct alert importance actor since =>
      dsimp only [step]
      unfold corrected
      dsimp only
      split
      · exact unmarked
      · exact unmarked

theorem cacheUnmarked_advance (judges : JudgesUnmarked settings)
    (unmarked : CacheUnmarked state.pipeline) (event : CorrectionEvent Key) :
    CacheUnmarked (advance settings alerts state event).pipeline := by
  cases event with
  | start alert =>
      dsimp only [advance]
      split
      · exact unmarked
      · exact unmarked
  | process event =>
      dsimp only [advance]
      split
      · exact cacheUnmarked_step judges unmarked event
      · exact unmarked
  | forget key => exact unmarked

theorem unmarked_of_judged (judges : JudgesUnmarked settings) (unmarked : CacheUnmarked pipeline)
    {event : PipelineEvent} {reading : Reading} {analysis : JsonObject}
    (isWay : wayOut settings alerts pipeline event = some (.judged reading analysis)) :
    Unmarked analysis := by
  cases event with
  | resolve alert reading silenced =>
      dsimp only [wayOut] at isWay
      split at isWay
      · split at isWay
        · cases isWay
        · cases isWay
      · cases isWay
  | lookUp alert reading =>
      dsimp only [wayOut] at isWay
      split at isWay
      · obtain ⟨entry, live, same⟩ := Option.map_eq_some_iff.1 isWay
        cases same
        unfold setAnalysisRoute
        rw [unmarked_set (by decide)]
        apply judges.resources
        unfold markCacheHit
        rw [unmarked_set (by decide), unmarked_set (by decide)]
        exact unmarked _ entry (mem_of_liveEntry live)
      · cases isWay
  | analyze alert reading refusal =>
      dsimp only [wayOut] at isWay
      split at isWay
      · cases isWay
        exact (unmarked_analyzeWebhookWithAi judges (alerts alert) refusal).1
      · cases isWay
  | correlate | save | remember | abandon | correct => cases isWay

theorem sticks_iff_honoured (judges : JudgesUnmarked settings)
    (unmarked : CacheUnmarked state.pipeline) (event : CorrectionEvent Key) :
    Sticks settings alerts state event ↔ Honoured settings alerts state event := by
  cases event with
  | start | forget => exact Iff.rfl
  | process event =>
      refine forall_congr' fun way => forall_congr' fun isWay => forall_congr' fun override =>
        forall_congr' fun _ => ?_
      cases way with
      | reused analysis route => exact carries_reused
      | judged reading analysis =>
          exact carries_applyOverride (unmarked_of_judged judges unmarked isWay)

/-- Every correction sticks just when every delivery that starts under an override respects
it on its way out. -/
theorem corrections_stick_iff (judges : JudgesUnmarked settings)
    (events : List (CorrectionEvent Key)) :
    GuardedRuns.Along (advance settings alerts) (Sticks settings alerts) (.initial Key) events ↔
      GuardedRuns.Along (advance settings alerts) (Honoured settings alerts) (.initial Key)
        events := by
  have always : GuardedRuns.Along (advance settings alerts) (fun _ _ => True) (.initial Key)
      events := GuardedRuns.along_of_always fun _ _ => trivial
  refine always.congr_of_invariant (fun state => CacheUnmarked state.pipeline) ?_ ?_ ?_
  · intro key entry member
    cases member
  · exact fun state event unmarked _ => cacheUnmarked_advance judges unmarked event
  · exact fun state event unmarked _ => sticks_iff_honoured judges unmarked event

end Runs

/-! ## A correction that a repeat ignores -/

def repeatedAlert : Nat → Alert :=
  fun _ => cpuAlert 1 "load is high"

theorem echoSettings_judgesUnmarked : JudgesUnmarked echoSettings where
  rules _ := rfl
  model _ := rfl
  resources _ _ unmarked := unmarked

private def readAt (second : Int) : Reading :=
  ⟨DateTime.addSeconds 0 second, true, true⟩

def correctedDelivery : List (CorrectionEvent (List (String × Option String))) :=
  [.start 0, .process (.resolve 0 (readAt 0) false), .process (.lookUp 0 (readAt 0)),
    .process (.analyze 0 (readAt 0) none), .process (.correlate 0 (readAt 0)),
    .process (.save 0 (readAt 0) (DateTime.addSeconds 0 0)), .process (.remember 0 (readAt 0)),
    .process (.correct 0 "low" "operator" "2026-01-01T00:00:00")]

/-- A delivery that comes when nothing is reused any more finds the correction. -/
theorem correction_kept_afresh :
    GuardedRuns.Along (advance echoSettings repeatedAlert) (Sticks echoSettings repeatedAlert)
      (.initial _)
      (correctedDelivery ++
        [.start 1, .process (.resolve 1 (readAt 7200) false), .process (.lookUp 1 (readAt 7200)),
          .process (.analyze 1 (readAt 7200) none)]) := by
  refine (corrections_stick_iff echoSettings_judgesUnmarked _).2
    (GuardedRuns.along_append.2 ⟨⟨trivial, ?_, ?_, ?_, ?_, ?_, ?_, ?_, trivial⟩,
      trivial, ?_, ?_, ?_, trivial⟩)
  -- The first delivery starts before there is a correction.
  iterate 7 exact fun _ _ _ standing => nomatch standing
  · exact fun _ isWay => nomatch isWay
  · exact fun _ isWay => nomatch isWay
  · rintro _ ⟨⟩ _ ⟨⟩
    exact ⟨_, rfl, rfl⟩

/-- The next delivery reuses the analysis as it was before the correction. -/
theorem correction_lost_on_reuse :
    ¬ GuardedRuns.Along (advance echoSettings repeatedAlert) (Sticks echoSettings repeatedAlert)
      (.initial _)
      (correctedDelivery ++ [.start 1, .process (.resolve 1 (readAt 60) false)]) := by
  intro sticks
  have left := ((GuardedRuns.along_append.1 sticks).2.2.1 _ rfl _ rfl).1
  have text := congrArg (Option.map (Json.pyStr .plain)) left
  exact absurd text (by decide)

end AnalysisCorrections

end WebhookWise
