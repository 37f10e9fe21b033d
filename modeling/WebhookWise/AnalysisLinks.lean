import WebhookWise.AnalysisPipeline

/-!
# Links of the pipeline stay within a connection

The alert hash and the dedup key carry the namespace of the source connection.  So what the
pipeline remembers of an alert, and what it stores with its event, names events of the same
connection only, in every state that it reaches.
-/

namespace WebhookWise

open IdentityKeys WebhookDedup

namespace AnalysisPipeline

variable {Key : Type} (settings : PipelineSettings Key) (alerts : Nat → Alert)

/-- Alerts with a key in common are of one connection. -/
structure Separated : Prop where
  dedupKey : ∀ first second, dedupKey settings (alerts first) = dedupKey settings (alerts second) →
    (alerts first).sourceConnectionId = (alerts second).sourceConnectionId
  alertHash : ∀ first second,
    alertHash settings (alerts first) = alertHash settings (alerts second) →
      (alerts first).sourceConnectionId = (alerts second).sourceConnectionId

variable {settings alerts}

/-- Without collisions a common key tells a common connection. -/
theorem separated_of_collisionFree (collisionFree : settings.keys.CollisionFree)
    (unnamed : ∀ alert, (alerts alert).sourceConnectionId = none →
      ¬ NamesConnection settings.keys (alerts alert).parsedData) :
    Separated settings alerts where
  dedupKey first second := collisionFree.connection_eq
    (hasNamespace_eventKeyFields (unnamed first)).2 (hasNamespace_eventKeyFields (unnamed second)).2
  alertHash first second := collisionFree.connection_eq
    (hasNamespace_eventKeyFields (unnamed first)).1 (hasNamespace_eventKeyFields (unnamed second)).1

variable {state : PipelineState Key} {alert : Nat}

variable (settings alerts) in
/-- What the state says of an alert names events of its own connection only. -/
structure Scoped (state : PipelineState Key) : Prop where
  events : ∀ event ∈ state.events, ∀ original ∈ event.duplicateOf,
    (alerts original).sourceConnectionId = (alerts event.id).sourceConnectionId
  remembered : ∀ alert entry, state.remembered (dedupKey settings (alerts alert)) = some entry →
    hasReusableAnalysis entry.state.analysis = true →
      (alerts entry.state.originalEventId).sourceConnectionId = (alerts alert).sourceConnectionId
  phases : ∀ alert, ∀ dedup ∈ (state.phases alert).dedup, ∀ original ∈ dedup.originalEventId,
    (alerts original).sourceConnectionId = (alerts alert).sourceConnectionId

section Events

variable {events : List SavedEvent} {selects : SavedEvent → Bool} {event : SavedEvent}

theorem latest_spec (found : latest selects events = some event) :
    event ∈ events ∧ selects event = true := by
  have member := List.mem_of_mem_head? (Option.mem_def.2 found)
  rw [List.mem_insertionSort] at member
  exact List.mem_filter.1 member

theorem originalOf_id (linked : ∀ original ∈ event.duplicateOf,
      (alerts original).sourceConnectionId = (alerts event.id).sourceConnectionId) :
    (alerts (originalOf events event).id).sourceConnectionId =
      (alerts event.id).sourceConnectionId := by
  unfold originalOf
  cases found : (if event.isDuplicate then event.duplicateOf else some event.id).bind
      fun id => events.find? fun other => other.id = id with
  | none => rfl
  | some original =>
      obtain ⟨id, isId, isOriginal⟩ := Option.bind_eq_some_iff.1 found
      have sameId : original.id = id := by simpa using List.find?_some isOriginal
      rw [Option.getD_some, sameId]
      split at isId
      · exact linked id isId
      · cases isId
        rfl

end Events

/-! ## Steps -/

section Links

theorem scoped_initial : Scoped settings alerts (.initial Key) where
  events := by simp [PipelineState.initial]
  remembered := by simp [PipelineState.initial]
  phases := by simp [PipelineState.initial, Phase.dedup]

theorem Scoped.setPhase (inScope : Scoped settings alerts state) {phase : Phase}
    (named : ∀ dedup ∈ phase.dedup, ∀ original ∈ dedup.originalEventId,
      (alerts original).sourceConnectionId = (alerts alert).sourceConnectionId) :
    Scoped settings alerts (state.setPhase alert phase) where
  events := inScope.events
  remembered := inScope.remembered
  phases := by
    intro asked dedup isDedup
    by_cases same : asked = alert
    · subst same
      rw [setPhase_phases_self] at isDedup
      exact named dedup isDedup
    · rw [setPhase_phases_of_ne same] at isDedup
      exact inScope.phases asked dedup isDedup

theorem Scoped.advance (inScope : Scoped settings alerts state) {after : PipelineState Key}
    (reached : Scoped settings alerts after) {dedup : DedupResult} {next : Phase}
    (current : (state.phases alert).dedup = some dedup) (kept : next.dedup = some dedup) :
    Scoped settings alerts (after.setPhase alert next) := by
  refine reached.setPhase fun named isNamed => inScope.phases alert named ?_
  rw [current, ← kept]
  exact isNamed

variable [DecidableEq Key] {now : DateTime} {reading : Reading}

theorem Scoped.rememberDedup (inScope : Scoped settings alerts state)
    (separated : Separated settings alerts) {original : Nat} {analysis : JsonObject}
    {resetChain : Bool}
    (named : hasReusableAnalysis (WebhookIngest.presentAnalysis (some analysis)) = true →
      (alerts original).sourceConnectionId = (alerts alert).sourceConnectionId) :
    Scoped settings alerts
      (rememberDedup settings alerts alert reading original analysis resetChain state) := by
  unfold AnalysisPipeline.rememberDedup
  dsimp only
  split
  · refine ⟨inScope.events, fun asked entry isEntry reusable => ?_, inScope.phases⟩
    by_cases sameKey : dedupKey settings (alerts asked) = dedupKey settings (alerts alert)
    · dsimp only at isEntry
      rw [sameKey, Function.update_self] at isEntry
      cases isEntry
      rw [separated.dedupKey _ _ sameKey]
      exact named reusable
    · dsimp only at isEntry
      rw [Function.update_of_ne sameKey] at isEntry
      exact inScope.remembered asked entry isEntry reusable
  · exact inScope

/-- An alert is resolved to an original of its own connection. -/
theorem resolveDedup_scoped (inScope : Scoped settings alerts state)
    (separated : Separated settings alerts) :
    ∀ original ∈ (resolveDedup settings alerts alert reading state).originalEventId,
      (alerts original).sourceConnectionId = (alerts alert).sourceConnectionId := by
  intro original isOriginal
  unfold resolveDedup at isOriginal
  dsimp only at isOriginal
  split at isOriginal
  · rename_i answer answered
    obtain ⟨remembered, isRemembered, fromState⟩ := Option.bind_eq_some_iff.1 answered
    obtain ⟨sameId, _, _, reusable, _⟩ := answerFromState_spec fromState
    rw [sameId] at isOriginal
    cases isOriginal
    split at isRemembered
    · obtain ⟨entry, live, rfl⟩ := Option.map_eq_some_iff.1 isRemembered
      exact inScope.remembered alert entry (Option.filter_eq_some_iff.1 live).1 reusable
    · cases isRemembered
  · split at isOriginal
    · rename_i event found
      cases isOriginal
      obtain ⟨isLatest, _⟩ := Option.filter_eq_some_iff.1 found
      obtain ⟨_, selected⟩ := latest_spec isLatest
      simp only [Bool.and_eq_true, decide_eq_true_eq] at selected
      exact separated.dedupKey _ _ selected.1.1
    · cases isOriginal

theorem checkDuplicateEventByDedupKey_scoped (inScope : Scoped settings alerts state)
    (separated : Separated settings alerts) {rechainPrevious : Option Nat} {original : SavedEvent}
    (found : checkDuplicateEventByDedupKey settings alerts alert now rechainPrevious state.events =
      some original) :
    (alerts original.id).sourceConnectionId = (alerts alert).sourceConnectionId := by
  unfold checkDuplicateEventByDedupKey at found
  dsimp only at found
  split at found
  · obtain ⟨_, selected⟩ := latest_spec found
    simp only [Bool.and_eq_true, decide_eq_true_eq] at selected
    exact separated.dedupKey _ _ selected.1.1
  · obtain ⟨event, isLatest, rfl⟩ := Option.map_eq_some_iff.1 found
    obtain ⟨member, selected⟩ := latest_spec isLatest
    simp only [Bool.and_eq_true, decide_eq_true_eq] at selected
    rw [originalOf_id (inScope.events event member)]
    exact separated.dedupKey _ _ selected.1

theorem checkDuplicateEvent_scoped (inScope : Scoped settings alerts state)
    (separated : Separated settings alerts) {original : SavedEvent}
    (found : checkDuplicateEvent settings alerts alert now state.events = some original) :
    (alerts original.id).sourceConnectionId = (alerts alert).sourceConnectionId := by
  obtain ⟨event, isLatest, rfl⟩ := Option.map_eq_some_iff.1 found
  obtain ⟨member, selected⟩ := latest_spec isLatest
  simp only [Bool.and_eq_true, decide_eq_true_eq] at selected
  rw [originalOf_id (inScope.events event member)]
  exact separated.alertHash _ _ selected.1

/-- So is the event, when its save looks again. -/
theorem resolveDuplicateStatus_scoped (inScope : Scoped settings alerts state)
    (separated : Separated settings alerts) {dedup : DedupResult}
    (named : ∀ original ∈ dedup.originalEventId,
      (alerts original).sourceConnectionId = (alerts alert).sourceConnectionId) :
    ∀ original ∈ resolveDuplicateStatus settings alerts alert now dedup state.events,
      (alerts original).sourceConnectionId = (alerts alert).sourceConnectionId := by
  intro original isOriginal
  unfold resolveDuplicateStatus at isOriginal
  split at isOriginal
  · cases isOriginal
    exact checkDuplicateEventByDedupKey_scoped inScope separated ‹_›
  · split at isOriginal
    · cases isOriginal
    · split at isOriginal
      · cases isOriginal
        exact checkDuplicateEvent_scoped inScope separated ‹_›
      · split at isOriginal
        · exact named original isOriginal
        · cases isOriginal

theorem Scoped.resolved (inScope : Scoped settings alerts state)
    (separated : Separated settings alerts) {silenced : Bool} :
    Scoped settings alerts (resolved settings alerts alert reading silenced state) := by
  have named : ∀ dedup ∈ some (resolveDedup settings alerts alert reading state),
      ∀ original ∈ dedup.originalEventId,
        (alerts original).sourceConnectionId = (alerts alert).sourceConnectionId := by
    rintro dedup ⟨⟩
    exact resolveDedup_scoped inScope separated
  unfold AnalysisPipeline.resolved
  dsimp only
  split
  · exact inScope.setPhase named
  · split
    · exact inScope.setPhase named
    · refine Scoped.setPhase (inScope.rememberDedup separated fun reusable => ?_) named
      exact absurd reusable (by decide)

theorem Scoped.lookedUp (inScope : Scoped settings alerts state) {dedup : DedupResult}
    (current : (state.phases alert).dedup = some dedup) :
    Scoped settings alerts (lookedUp settings alerts alert reading dedup state) := by
  unfold AnalysisPipeline.lookedUp
  dsimp only
  split
  · refine inScope.advance ?_ current rfl
    exact ⟨inScope.events, inScope.remembered, inScope.phases⟩
  · exact inScope.advance inScope current rfl

theorem Scoped.saveToCache (inScope : Scoped settings alerts state)
    {analysis : Option JsonObject} :
    Scoped settings alerts (saveToCache settings alerts alert reading analysis state) := by
  unfold AnalysisPipeline.saveToCache
  dsimp only
  split
  · exact ⟨inScope.events, inScope.remembered, inScope.phases⟩
  · exact inScope

theorem Scoped.saved (inScope : Scoped settings alerts state)
    (separated : Separated settings alerts) {timestamp : DateTime} {dedup : DedupResult}
    {analysis : JsonObject} (current : (state.phases alert).dedup = some dedup) :
    Scoped settings alerts
      (saved settings alerts alert reading timestamp dedup analysis state) := by
  unfold AnalysisPipeline.saved
  dsimp only
  split
  · exact inScope
  · refine ⟨fun event member => ?_, inScope.remembered, inScope.phases⟩
    rcases List.mem_cons.1 member with rfl | old
    · intro original isOriginal
      exact resolveDuplicateStatus_scoped inScope separated
        (inScope.phases alert dedup current) original (Option.filter_eq_some_iff.1 isOriginal).1
    · exact inScope.events event old

theorem Scoped.corrected (inScope : Scoped settings alerts state)
    {importance actor since : String} :
    Scoped settings alerts (corrected settings alerts alert importance actor since state) := by
  unfold AnalysisPipeline.corrected
  dsimp only
  split
  · refine ⟨fun event member => ?_, inScope.remembered, inScope.phases⟩
    obtain ⟨old, oldMember, rfl⟩ := List.mem_map.1 member
    have linked := inScope.events old oldMember
    split
    · exact linked
    · exact linked
  · exact inScope

/-- No step links an alert to an event of another connection. -/
theorem Scoped.step (inScope : Scoped settings alerts state)
    (separated : Separated settings alerts) (event : PipelineEvent) :
    Scoped settings alerts (step settings alerts state event) := by
  have named {alert : Nat} {phase : Phase} (current : state.phases alert = phase) :
      (state.phases alert).dedup = phase.dedup := by
    rw [current]
  cases event with
  | resolve alert reading silenced =>
      dsimp only [AnalysisPipeline.step]
      split
      · exact inScope.resolved separated
      · exact inScope
  | lookUp alert reading =>
      dsimp only [AnalysisPipeline.step]
      split
      · rename_i current
        exact inScope.lookedUp (named current)
      · exact inScope
  | analyze alert reading refusal =>
      dsimp only [AnalysisPipeline.step]
      split
      · rename_i current
        exact inScope.advance inScope.saveToCache (named current) rfl
      · exact inScope
  | correlate alert reading =>
      dsimp only [AnalysisPipeline.step]
      split
      · rename_i current
        exact inScope.advance inScope (named current) rfl
      · exact inScope
  | save alert reading timestamp =>
      dsimp only [AnalysisPipeline.step]
      split
      · rename_i current
        exact inScope.advance (inScope.saved separated (named current)) (named current) rfl
      · exact inScope
  | remember alert reading =>
      dsimp only [AnalysisPipeline.step]
      split
      · refine Scoped.setPhase (inScope.rememberDedup separated fun _ => rfl) ?_
        simp [Phase.dedup]
      · exact inScope
  | abandon alert =>
      refine inScope.setPhase ?_
      simp [Phase.dedup]
  | correct alert importance actor since => exact inScope.corrected

end Links

end AnalysisPipeline

end WebhookWise
