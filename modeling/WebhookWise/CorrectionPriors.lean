import WebhookWise.AnalysisIsolation
import WebhookWise.GuardedRuns
import WebhookWise.InboundRules
import WebhookWise.SqlTable
import Mathlib.Algebra.Order.Ring.Int

/-!
# Corrections of other instances of a rule

A correction of an alert is kept under its alert hash, with a label.  `build_correction_prior` looks
for the other instances of an alert rule by that label, though it is not the rule name, and leaves
the alert's own condition out by a hash without a namespace.
-/

namespace WebhookWise

open SqlTable IdentityKeys

namespace CorrectionPriors

open AnalysisPipeline InboundRules

/-! ## Tables -/

/-- The columns of an event that a correction reads. -/
structure StoredAlert (Key : Type) where
  id : Nat
  alert : Alert
  aiAnalysis : JsonObject
  alertHash : Key

/-- `ImportanceOverride`, with the columns that a prior reads. -/
structure OverrideRow (Key : Type) where
  id : Nat
  alertHash : Key
  importance : String
  source : Option String
  alertName : Option String
  originEventId : Nat
  hitCount : Nat
  createdAt : DateTime
  updatedAt : DateTime

abbrev StoredAlerts (Key : Type) := Table (@StoredAlert.id Key)

abbrev OverrideTable (Key : Type) := Table (@OverrideRow.id Key)

structure PriorState (Key : Type) where
  events : StoredAlerts Key
  overrides : OverrideTable Key

def PriorState.initial (Key : Type) : PriorState Key :=
  ⟨.empty, .empty⟩

structure CorrectionPrior where
  alertName : String
  source : String
  importance : String
  corrections : Nat
  totalHits : Nat
  since : Option DateTime

/-- `CorrectionPriorPolicy`, when it is enabled. -/
structure PriorPolicy where
  minCorrections : Nat
  lookbackDays : Nat

inductive PriorEvent (Key : Type) where
  /-- The pipeline saves an event. -/
  | save (alert : Alert) (analysis : JsonObject)
  | reanalyze (eventId : Nat) (analysis : JsonObject)
  /-- `add_feedback` with a corrected importance. -/
  | addFeedback (eventId : Nat) (correctedImportance : String) (now : DateTime)
  /-- `apply_override` counts a hit. -/
  | applyOverride (alertHash : Key)
  | forgetOverride (overrideId : Nat)
  /-- `build_correction_prior`. -/
  | build (alert : Alert) (policy : PriorPolicy) (now : DateTime)

/-! ## Steps -/

section Steps

variable {Key : Type} (runtime : MatchRuntime) (settings : KeySettings Key)

def pipelineHash (alert : Alert) : Key :=
  generateAlertHash settings alert.parsedData alert.source alert.identityNamespace

/-- The `own_hash` of `build_correction_prior`. -/
def ownHash (alert : Alert) : Key :=
  generateAlertHash settings alert.parsedData alert.source none

def alertLabel (event : StoredAlert Key) : Option String :=
  let named :=
    match PyDict.get? event.alert.parsedData "_alert_identity" with
    | some (.dict identity) =>
        if JsonObject.truthyAt identity "name" then
          some (JsonObject.strOr runtime.toPythonRuntime identity "name" "")
        else none
    | _ => none
  let summarized :=
    if JsonObject.truthyAt event.aiAnalysis "summary" then
      some (JsonObject.strOr runtime.toPythonRuntime event.aiAnalysis "summary" "")
    else none
  (named.or summarized).map fun label => truncated label 200

/-- `source or None`. -/
def presentSource (source : String) : Option String :=
  if source = "" then none else some source

variable [DecidableEq Key]

/-- `remember_override`, for an event. -/
def rememberOverride (event : StoredAlert Key) (importance : String) (now : DateTime)
    (overrides : OverrideTable Key) : OverrideTable Key :=
  let label := ((alertLabel runtime event).filter fun label => label ≠ "").map fun label =>
    truncated label 200
  if importance ∈ ["high", "medium", "low"] then
    if overrides.rows.any fun row => row.alertHash = event.alertHash then
      overrides.update (fun row => row.alertHash = event.alertHash)
        (fun row =>
          { row with
            importance := importance
            source := presentSource event.alert.source
            alertName := label
            originEventId := event.id
            updatedAt := now })
        fun _ => rfl
    else
      overrides.insert
        (fun id =>
          { id := id
            alertHash := event.alertHash
            importance := importance
            source := presentSource event.alert.source
            alertName := label
            originEventId := event.id
            hitCount := 0
            createdAt := now
            updatedAt := now })
        fun _ => rfl
  else overrides

def step (state : PriorState Key) : PriorEvent Key → PriorState Key
  | .save alert analysis =>
      { state with
        events := state.events.insert (fun id => ⟨id, alert, analysis, pipelineHash settings alert⟩)
          fun _ => rfl }
  | .reanalyze eventId analysis =>
      { state with
        events := state.events.update (fun event => event.id = eventId)
          (fun event => { event with aiAnalysis := analysis }) fun _ => rfl }
  | .addFeedback eventId correctedImportance now =>
      match state.events.lookup eventId with
      | some event =>
          { state with
            overrides := rememberOverride runtime event correctedImportance now state.overrides }
      | none => state
  | .applyOverride alertHash =>
      { state with
        overrides := state.overrides.update (fun row => row.alertHash = alertHash)
          (fun row => { row with hitCount := row.hitCount + 1 }) fun _ => rfl }
  | .forgetOverride overrideId =>
      { state with overrides := state.overrides.delete fun row => row.id = overrideId }
  | .build _ _ _ => state

/-! ## The prior -/

/-- `alert_name[:200]`, which the label of a correction is compared with. -/
def wantedLabel (alert : Alert) : String :=
  truncated (alertRuleName runtime alert.parsedData) 200

/-- `utcnow() - timedelta(days=…)`. -/
def cutoff (policy : PriorPolicy) (now : DateTime) : DateTime :=
  now.addSeconds (-(policy.lookbackDays * 86400))

/-- The `WHERE` of `build_correction_prior`. -/
def consideredOverrides (alert : Alert) (policy : PriorPolicy) (now : DateTime)
    (overrides : OverrideTable Key) : List (OverrideRow Key) :=
  overrides.rows.filter fun row =>
    row.alertName = some (wantedLabel runtime alert) && row.source = some alert.source &&
      row.alertHash ≠ ownHash settings alert && cutoff policy now ≤ row.updatedAt

/-- `build_correction_prior`: what the considered corrections say, if they agree. -/
def buildCorrectionPrior (alert : Alert) (policy : PriorPolicy) (now : DateTime)
    (overrides : OverrideTable Key) : Option CorrectionPrior :=
  let considered := consideredOverrides runtime settings alert policy now overrides
  let verdicts := (considered.map OverrideRow.importance).dedup.filter fun importance =>
    runtime.lower importance ∈ ["high", "medium", "low"]
  if alertRuleName runtime alert.parsedData = "" then none
  else
    match verdicts with
    | [importance] =>
        let agreeing := considered.filter fun row => row.importance = importance
        if agreeing.length < policy.minCorrections then none
        else
          some
            { alertName := alertRuleName runtime alert.parsedData
              source := alert.source
              importance := runtime.lower importance
              corrections := agreeing.length
              totalHits := (agreeing.map OverrideRow.hitCount).sum
              since := (agreeing.map OverrideRow.createdAt).min? }
    | _ => none

end Steps

/-! ## Corrections of siblings -/

section Siblings

variable {Key : Type} [DecidableEq Key] (runtime : MatchRuntime) (settings : KeySettings Key)

/-- The events are alerts of one rule. -/
def SameRule (first second : Alert) : Prop :=
  alertRuleName runtime first.parsedData = alertRuleName runtime second.parsedData

/-- A recent correction of another condition, recorded on an event of the alert's source and
rule. -/
def SiblingCorrection (state : PriorState Key) (alert : Alert) (policy : PriorPolicy)
    (now : DateTime) (row : OverrideRow Key) : Prop :=
  cutoff policy now ≤ row.updatedAt ∧ row.alertHash ≠ pipelineHash settings alert ∧
    ∃ event ∈ state.events.rows, event.id = row.originEventId ∧
      event.alert.source = alert.source ∧ SameRule runtime event.alert alert

/-- A prior considers the corrections of siblings, and no others. -/
def CountsSiblings (state : PriorState Key) : PriorEvent Key → Prop
  | .build alert policy now =>
      alertRuleName runtime alert.parsedData ≠ "" → ∀ row ∈ state.overrides.rows,
        (row ∈ consideredOverrides runtime settings alert policy now state.overrides ↔
          SiblingCorrection runtime settings state alert policy now row)
  | _ => True

/-- The label under which an event of the alert's source was corrected, and its hash, tell what
the prior has to know. -/
structure Tells (alert : Alert) (event : StoredAlert Key) (label : Option String) : Prop where
  /-- A sibling is labelled by the rule name of the alert. -/
  sibling : event.alertHash ≠ pipelineHash settings alert → SameRule runtime event.alert alert →
    alert.source ≠ "" ∧ label = some (wantedLabel runtime alert) ∧
      event.alertHash ≠ ownHash settings alert
  /-- An event of another rule is not. -/
  stranger : event.alertHash ≠ pipelineHash settings alert →
    ¬ SameRule runtime event.alert alert → alert.source ≠ "" →
      label = some (wantedLabel runtime alert) → event.alertHash = ownHash settings alert
  /-- Nor is the alert's own condition, unless its hash has no namespace. -/
  own : event.alertHash = pipelineHash settings alert → alert.source ≠ "" →
    label = some (wantedLabel runtime alert) →
      pipelineHash settings alert = ownHash settings alert

/-- A prior is built when every recent correction of the alert's source tells what it is of. -/
def LabelsTell (state : PriorState Key) : PriorEvent Key → Prop
  | .build alert policy now =>
      alertRuleName runtime alert.parsedData ≠ "" → ∀ row ∈ state.overrides.rows,
        cutoff policy now ≤ row.updatedAt → ∀ event ∈ state.events.rows,
          event.id = row.originEventId → event.alert.source = alert.source →
            Tells runtime settings alert event row.alertName
  | _ => True

end Siblings

/-! ## What is recorded -/

section Recorded

variable {Key : Type} {runtime : MatchRuntime} {settings : KeySettings Key}
  {state : PriorState Key}

/-- Every override is of the event that it was recorded on. -/
def Recorded (events : StoredAlerts Key) (overrides : OverrideTable Key) : Prop :=
  ∀ row ∈ overrides.rows, ∃ event ∈ events.rows, event.id = row.originEventId ∧
    row.alertHash = event.alertHash ∧ row.source = presentSource event.alert.source

theorem recorded_of_same {events : StoredAlerts Key} {overrides after : OverrideTable Key}
    (recorded : Recorded events overrides)
    (same : ∀ row ∈ after.rows, ∃ old ∈ overrides.rows, row.originEventId = old.originEventId ∧
      row.alertHash = old.alertHash ∧ row.source = old.source) :
    Recorded events after := by
  intro row member
  obtain ⟨old, oldMember, sameOrigin, sameHash, sameSource⟩ := same row member
  obtain ⟨event, eventMember, isOrigin, hash, source⟩ := recorded old oldMember
  exact ⟨event, eventMember, isOrigin.trans sameOrigin.symm, sameHash.trans hash,
    sameSource.trans source⟩

theorem recorded_of_events {events after : StoredAlerts Key} {overrides : OverrideTable Key}
    (recorded : Recorded events overrides)
    (kept : ∀ old ∈ events.rows, ∃ event ∈ after.rows, event.id = old.id ∧
      event.alertHash = old.alertHash ∧ event.alert = old.alert) :
    Recorded after overrides := by
  intro row member
  obtain ⟨old, oldMember, isOrigin, hash, source⟩ := recorded row member
  obtain ⟨event, eventMember, sameId, sameHash, sameAlert⟩ := kept old oldMember
  refine ⟨event, eventMember, sameId.trans isOrigin, hash.trans sameHash.symm, ?_⟩
  rw [sameAlert]
  exact source

theorem presentSource_eq_some_iff {source wanted : String} :
    presentSource source = some wanted ↔ source = wanted ∧ wanted ≠ "" := by
  unfold presentSource
  split
  · rename_i empty
    simp [empty, eq_comm]
  · rename_i present
    constructor
    · intro same
      cases same
      exact ⟨rfl, present⟩
    · rintro ⟨rfl, _⟩
      rfl

variable [DecidableEq Key]

theorem recorded_rememberOverride {events : StoredAlerts Key} {overrides : OverrideTable Key}
    (recorded : Recorded events overrides) {event : StoredAlert Key} (member : event ∈ events.rows)
    (importance : String) (now : DateTime) :
    Recorded events (rememberOverride runtime event importance now overrides) := by
  unfold rememberOverride
  dsimp only
  split
  · split
    · intro row rowMember
      obtain ⟨old, oldMember, rfl⟩ := Table.mem_update.1 rowMember
      split
      · rename_i sameHash
        exact ⟨event, member, rfl, of_decide_eq_true sameHash, rfl⟩
      · exact recorded old oldMember
    · intro row rowMember
      rcases Table.mem_insert.1 rowMember with old | rfl
      · exact recorded row old
      · exact ⟨event, member, rfl, rfl, rfl⟩
  · exact recorded

theorem recorded_step (recorded : Recorded state.events state.overrides) (event : PriorEvent Key) :
    Recorded (step runtime settings state event).events
      (step runtime settings state event).overrides := by
  cases event with
  | save alert analysis =>
      exact recorded_of_events recorded fun old member =>
        ⟨old, Table.mem_insert.2 (Or.inl member), rfl, rfl, rfl⟩
  | reanalyze eventId analysis =>
      dsimp only [step]
      refine recorded_of_events recorded fun old member => ?_
      refine ⟨_, Table.mem_update.2 ⟨old, member, rfl⟩, ?_⟩
      split
      · exact ⟨rfl, rfl, rfl⟩
      · exact ⟨rfl, rfl, rfl⟩
  | addFeedback eventId correctedImportance now =>
      dsimp only [step]
      split
      · rename_i event found
        exact recorded_rememberOverride recorded (Table.lookup_eq_some_iff.1 found).1 _ _
      · exact recorded
  | applyOverride alertHash =>
      dsimp only [step]
      refine recorded_of_same recorded fun row member => ?_
      obtain ⟨old, oldMember, rfl⟩ := Table.mem_update.1 member
      refine ⟨old, oldMember, ?_⟩
      split
      · exact ⟨rfl, rfl, rfl⟩
      · exact ⟨rfl, rfl, rfl⟩
  | forgetOverride overrideId =>
      exact recorded_of_same recorded fun row member =>
        ⟨row, (List.mem_filter.1 member).1, rfl, rfl, rfl⟩
  | build alert policy now => exact recorded

/-- Of one override: it is considered as it should be just when it tells what it is of. -/
theorem considered_iff_tells (alert : Alert) (policy : PriorPolicy) (now : DateTime)
    {row : OverrideRow Key} (member : row ∈ state.overrides.rows) {origin : StoredAlert Key}
    (originMember : origin ∈ state.events.rows) (isOrigin : origin.id = row.originEventId)
    (sameHash : row.alertHash = origin.alertHash)
    (sameSource : row.source = presentSource origin.alert.source) :
    (row ∈ consideredOverrides runtime settings alert policy now state.overrides ↔
        SiblingCorrection runtime settings state alert policy now row) ↔
      (cutoff policy now ≤ row.updatedAt → ∀ event ∈ state.events.rows,
        event.id = row.originEventId → event.alert.source = alert.source →
          Tells runtime settings alert event row.alertName) := by
  have onlyOrigin (event : StoredAlert Key) (eventMember : event ∈ state.events.rows)
      (same : event.id = row.originEventId) : event = origin :=
    Table.eq_of_key_eq eventMember originMember (same.trans isOrigin.symm)
  have considered : row ∈ consideredOverrides runtime settings alert policy now state.overrides ↔
      row.alertName = some (wantedLabel runtime alert) ∧
        (origin.alert.source = alert.source ∧ alert.source ≠ "") ∧
        origin.alertHash ≠ ownHash settings alert ∧ cutoff policy now ≤ row.updatedAt := by
    rw [consideredOverrides, List.mem_filter, and_iff_right member, sameHash, sameSource]
    simp only [Bool.and_eq_true, decide_eq_true_eq, presentSource_eq_some_iff, and_assoc]
  have sibling : SiblingCorrection runtime settings state alert policy now row ↔
      cutoff policy now ≤ row.updatedAt ∧ origin.alertHash ≠ pipelineHash settings alert ∧
        origin.alert.source = alert.source ∧ SameRule runtime origin.alert alert := by
    unfold SiblingCorrection
    rw [sameHash]
    constructor
    · rintro ⟨recent, other, event, eventMember, same, sourced, rule⟩
      cases onlyOrigin event eventMember same
      exact ⟨recent, other, sourced, rule⟩
    · rintro ⟨recent, other, sourced, rule⟩
      exact ⟨recent, other, origin, originMember, isOrigin, sourced, rule⟩
  rw [considered, sibling]
  constructor
  · intro agree recent event eventMember same sourced
    cases onlyOrigin event eventMember same
    refine ⟨?_, ?_, ?_⟩
    · intro other rule
      obtain ⟨labelled, ⟨_, present⟩, notOwn, _⟩ := agree.2 ⟨recent, other, sourced, rule⟩
      exact ⟨present, labelled, notOwn⟩
    · intro other notRule present labelled
      by_contra notOwn
      exact notRule (agree.1 ⟨labelled, ⟨sourced, present⟩, notOwn, recent⟩).2.2.2
    · intro own present labelled
      by_contra differ
      rw [← own] at differ
      exact (agree.1 ⟨labelled, ⟨sourced, present⟩, differ, recent⟩).2.1 own
  · intro tells
    constructor
    · rintro ⟨labelled, ⟨sourced, present⟩, notOwn, recent⟩
      have told := tells recent origin originMember isOrigin sourced
      have other : origin.alertHash ≠ pipelineHash settings alert := by
        intro own
        rw [own] at notOwn
        exact notOwn (told.own own present labelled)
      refine ⟨recent, other, sourced, ?_⟩
      by_contra notRule
      exact notOwn (told.stranger other notRule present labelled)
    · rintro ⟨recent, other, sourced, rule⟩
      obtain ⟨present, labelled, notOwn⟩ :=
        (tells recent origin originMember isOrigin sourced).sibling other rule
      exact ⟨labelled, ⟨sourced, present⟩, notOwn, recent⟩

theorem countsSiblings_iff (recorded : Recorded state.events state.overrides)
    (event : PriorEvent Key) :
    CountsSiblings runtime settings state event ↔ LabelsTell runtime settings state event := by
  cases event with
  | build alert policy now =>
      refine forall_congr' fun _ => forall_congr' fun row => forall_congr' fun member => ?_
      obtain ⟨origin, originMember, isOrigin, sameHash, sameSource⟩ := recorded row member
      exact considered_iff_tells alert policy now member originMember isOrigin sameHash sameSource
  | _ => exact Iff.rfl

/-- Every prior considers just the corrections of siblings if and only if every recent
correction of its alert's source tells by its label and its hash what it is of. -/
theorem counts_siblings_iff (events : List (PriorEvent Key)) :
    GuardedRuns.Along (step runtime settings) (CountsSiblings runtime settings) (.initial Key)
        events ↔
      GuardedRuns.Along (step runtime settings) (LabelsTell runtime settings) (.initial Key)
        events := by
  have always : GuardedRuns.Along (step runtime settings) (fun _ _ => True) (.initial Key) events :=
    GuardedRuns.along_of_always fun _ _ => trivial
  refine always.congr_of_invariant (fun state => Recorded state.events state.overrides) ?_ ?_ ?_
  · intro row member
    cases member
  · exact fun state event recorded _ => recorded_step recorded event
  · exact fun state event recorded _ => countsSiblings_iff recorded event

end Recorded

/-- The alert of a host, as the adapter of a source leaves it: the identity is folded, the
labels are not. -/
def hostAlert (resource : String) : Alert where
  sourceConnectionId := some 1
  source := "grafana"
  parsedData :=
    [("alertname", .str "HighCPU"),
      ("_alert_identity", .dict [("name", .str "highcpu"), ("resource", .str resource)])]

/-- The sibling was corrected under its folded name, which is not the rule name. -/
theorem folded_label_hides_sibling :
    ¬ GuardedRuns.Along (step (.ascii ⟨[], [], [], []⟩) textKeys)
      (CountsSiblings (.ascii ⟨[], [], [], []⟩) textKeys) (.initial _)
      [.save (hostAlert "web-1") [], .addFeedback 1 "high" 0,
        .build (hostAlert "web-2") ⟨1, 90⟩ 0] := by
  intro counts
  have atBuild := counts.2.2.1 (by decide)
  have found := (atBuild _ (List.mem_singleton.2 rfl)).2
    ⟨by decide, by decide, _, List.mem_singleton.2 rfl, rfl, rfl, by unfold SameRule; decide⟩
  exact nomatch found

end CorrectionPriors

end WebhookWise
