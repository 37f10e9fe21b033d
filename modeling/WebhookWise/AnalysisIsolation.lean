import WebhookWise.AnalysisLinks
import WebhookWise.Noninterference

/-!
# Analyses stay with their connection

The alert hash and the dedup key carry the namespace of the source connection.  The AI cache is read
under an alert hash without one.  Where no lookup finds an entry of another connection, the analyses
of a connection are what its own alerts make of them.
-/

namespace WebhookWise

open IdentityKeys WebhookDedup GuardedRuns Noninterference

namespace AnalysisPipeline

variable {Key : Type} (settings : PipelineSettings Key) (alerts : Nat → Alert)

/-- Of the entries under a key, the last is the connection's own; or it has expired, and so
has the last entry of the connection. -/
def FindsOwnEntry (connection : Option Nat) (reading : Reading) (entries : List CacheEntry) :
    Prop :=
  ∀ entry ∈ entries.head?, (alerts entry.writer).sourceConnectionId ≠ connection →
    entry.expiresAt ≤ reading.now ∧
      ∀ own ∈ entries.find? (fun own => (alerts own.writer).sourceConnectionId = connection),
        own.expiresAt ≤ reading.now

/-- A lookup in the AI cache neither finds a live entry of an alert of another connection, nor
misses one of its own that such an entry has replaced. -/
def FindsOwn (state : PipelineState Key) : PipelineEvent → Prop
  | .lookUp alert reading =>
      (∃ dedup, state.phases alert = .unanalyzed dedup) →
        (settings.cacheEnabled && reading.redisUp) = true →
        FindsOwnEntry alerts (alerts alert).sourceConnectionId reading
          (state.cache (cacheHash settings (alerts alert)))
  | _ => True

variable {settings alerts}

/-! ## The part of a connection -/

section Part

variable (settings alerts) (connection : Option Nat)

open Classical in
noncomputable def part (state : PipelineState Key) : PipelineState Key where
  events := state.events.filter fun event => (alerts event.id).sourceConnectionId = connection
  overrides key :=
    if ∃ alert, (alerts alert).sourceConnectionId = connection ∧
      alertHash settings (alerts alert) = key then state.overrides key else none
  remembered key :=
    if ∃ alert, (alerts alert).sourceConnectionId = connection ∧
      dedupKey settings (alerts alert) = key then state.remembered key else none
  cache key :=
    (state.cache key).filter fun entry => (alerts entry.writer).sourceConnectionId = connection
  phases alert :=
    if (alerts alert).sourceConnectionId = connection then state.phases alert else .waiting

end Part

variable {connection : Option Nat} {state : PipelineState Key} {alert : Nat}

theorem storedAnalyses_part :
    storedAnalyses alerts connection (part settings alerts connection state) =
      storedAnalyses alerts connection state := by
  unfold storedAnalyses part
  rw [List.filter_filter]
  simp

theorem part_events :
    (part settings alerts connection state).events =
      state.events.filter fun event => (alerts event.id).sourceConnectionId = connection :=
  rfl

theorem part_phases (own : (alerts alert).sourceConnectionId = connection) :
    (part settings alerts connection state).phases alert = state.phases alert :=
  if_pos own

theorem part_remembered (own : (alerts alert).sourceConnectionId = connection) :
    (part settings alerts connection state).remembered (dedupKey settings (alerts alert)) =
      state.remembered (dedupKey settings (alerts alert)) :=
  if_pos ⟨alert, own, rfl⟩

theorem part_overrides (own : (alerts alert).sourceConnectionId = connection) :
    (part settings alerts connection state).overrides (alertHash settings (alerts alert)) =
      state.overrides (alertHash settings (alerts alert)) :=
  if_pos ⟨alert, own, rfl⟩

theorem part_setPhase (own : (alerts alert).sourceConnectionId = connection) (phase : Phase) :
    part settings alerts connection (state.setPhase alert phase) =
      (part settings alerts connection state).setPhase alert phase := by
  have phases : (part settings alerts connection (state.setPhase alert phase)).phases =
      ((part settings alerts connection state).setPhase alert phase).phases := by
    funext asked
    by_cases same : asked = alert
    · subst same
      simp [part, PipelineState.setPhase, own]
    · simp [part, PipelineState.setPhase, same]
  exact PipelineState.ext rfl rfl rfl rfl phases

theorem part_setPhase_of_ne (other : (alerts alert).sourceConnectionId ≠ connection)
    (phase : Phase) :
    part settings alerts connection (state.setPhase alert phase) =
      part settings alerts connection state := by
  have phases : (part settings alerts connection (state.setPhase alert phase)).phases =
      (part settings alerts connection state).phases := by
    funext asked
    by_cases same : asked = alert
    · subst same
      simp [part, other]
    · simp [part, PipelineState.setPhase, same]
  exact PipelineState.ext rfl rfl rfl rfl phases

theorem part_writeCache [DecidableEq Key] (key : Key) (entries : List CacheEntry) :
    part settings alerts connection
        { state with cache := Function.update state.cache key entries } =
      { part settings alerts connection state with
        cache := Function.update (part settings alerts connection state).cache key
          (entries.filter fun entry => (alerts entry.writer).sourceConnectionId = connection) } := by
  refine PipelineState.ext rfl rfl rfl ?_ rfl
  funext asked
  by_cases same : asked = key
  · subst same
    simp [part]
  · simp [part, same]

/-! ## What is read -/

section Events

variable {events : List SavedEvent} {selects : SavedEvent → Bool} {event : SavedEvent}

theorem filter_filter_of_implies {kept : SavedEvent → Bool}
    (keeps : ∀ event, selects event = true → kept event = true) :
    (events.filter kept).filter selects = events.filter selects := by
  rw [List.filter_filter]
  refine List.filter_congr fun event _ => ?_
  cases selected : selects event with
  | true => simp [keeps event selected]
  | false => rfl

theorem latest_filter {kept : SavedEvent → Bool}
    (keeps : ∀ event, selects event = true → kept event = true) :
    latest selects (events.filter kept) = latest selects events := by
  unfold latest
  rw [filter_filter_of_implies keeps]

theorem find?_own {id : Nat} (own : (alerts id).sourceConnectionId = connection) :
    ((events.filter fun event => (alerts event.id).sourceConnectionId = connection).find?
      fun event => event.id = id) = events.find? fun event => event.id = id := by
  rw [List.find?_filter]
  congr 1
  funext event
  by_cases same : event.id = id
  · simp [same, own]
  · simp [same]

theorem originalOf_own (own : (alerts event.id).sourceConnectionId = connection)
    (linked : ∀ original ∈ event.duplicateOf,
      (alerts original).sourceConnectionId = (alerts event.id).sourceConnectionId) :
    originalOf (events.filter fun event => (alerts event.id).sourceConnectionId = connection)
      event = originalOf events event := by
  unfold originalOf
  congr 1
  refine Option.bind_congr fun id isId => find?_own ?_
  split at isId
  · rw [linked id isId, own]
  · cases isId
    exact own

end Events

section Readings

variable {now : DateTime} {reading : Reading}

theorem overrideOf_part (own : (alerts alert).sourceConnectionId = connection) :
    overrideOf settings alerts alert reading (part settings alerts connection state) =
      overrideOf settings alerts alert reading state := by
  unfold overrideOf
  rw [part_overrides own]

theorem any_id_part {id : Nat} (own : (alerts id).sourceConnectionId = connection) :
    ((part settings alerts connection state).events.any fun event => event.id = id) =
      state.events.any fun event => event.id = id := by
  have sameFind := @find?_own _ _ state.events id own
  rw [← List.isSome_find?, ← List.isSome_find?, ← sameFind]
  rfl

variable [DecidableEq Key]

theorem findOriginalByDedupKey_part (separated : Separated settings alerts)
    (own : (alerts alert).sourceConnectionId = connection) :
    findOriginalByDedupKey settings alerts alert now
        (part settings alerts connection state).events =
      findOriginalByDedupKey settings alerts alert now state.events := by
  unfold findOriginalByDedupKey
  congr 1
  refine latest_filter fun event selected => ?_
  simp only [Bool.and_eq_true, decide_eq_true_eq] at selected ⊢
  rw [separated.dedupKey _ _ selected.1.1, own]

theorem resolveDedup_part (separated : Separated settings alerts)
    (own : (alerts alert).sourceConnectionId = connection) :
    resolveDedup settings alerts alert reading (part settings alerts connection state) =
      resolveDedup settings alerts alert reading state := by
  unfold resolveDedup
  rw [part_remembered own, findOriginalByDedupKey_part separated own]

theorem listRecentAlertContexts_part (own : (alerts alert).sourceConnectionId = connection) :
    listRecentAlertContexts settings alerts alert reading
        (part settings alerts connection state).events =
      listRecentAlertContexts settings alerts alert reading state.events := by
  have recent := @filter_filter_of_implies state.events
    (fun event => reading.now.addMinutes (-settings.noiseWindowMinutes) ≤ event.timestamp &&
      event.timestamp ≤ reading.now &&
      alertHash settings (alerts event.id) ≠ alertHash settings (alerts alert) &&
      (alerts event.id).sourceConnectionId = (alerts alert).sourceConnectionId)
    (fun event => (alerts event.id).sourceConnectionId = connection)
    fun event selected => by
      simp only [Bool.and_eq_true, decide_eq_true_eq] at selected ⊢
      rw [selected.2, own]
  unfold listRecentAlertContexts
  dsimp only
  rw [part_events, recent]

theorem checkDuplicateEventByDedupKey_part (separated : Separated settings alerts)
    (inScope : Scoped settings alerts state) (own : (alerts alert).sourceConnectionId = connection)
    (rechainPrevious : Option Nat) :
    checkDuplicateEventByDedupKey settings alerts alert now rechainPrevious
        (part settings alerts connection state).events =
      checkDuplicateEventByDedupKey settings alerts alert now rechainPrevious state.events := by
  unfold checkDuplicateEventByDedupKey
  dsimp only
  split
  · refine latest_filter fun event selected => ?_
    simp only [Bool.and_eq_true, decide_eq_true_eq] at selected ⊢
    rw [separated.dedupKey _ _ selected.1.1, own]
  · rw [part_events, latest_filter]
    · refine Option.map_congr fun event found => ?_
      obtain ⟨member, selected⟩ := latest_spec found
      simp only [Bool.and_eq_true, decide_eq_true_eq] at selected
      exact originalOf_own ((separated.dedupKey _ _ selected.1).trans own)
        (inScope.events event member)
    · intro event selected
      simp only [Bool.and_eq_true, decide_eq_true_eq] at selected ⊢
      rw [separated.dedupKey _ _ selected.1, own]

theorem checkDuplicateEvent_part (separated : Separated settings alerts)
    (inScope : Scoped settings alerts state)
    (own : (alerts alert).sourceConnectionId = connection) :
    checkDuplicateEvent settings alerts alert now (part settings alerts connection state).events =
      checkDuplicateEvent settings alerts alert now state.events := by
  unfold checkDuplicateEvent
  rw [part_events, latest_filter]
  · refine Option.map_congr fun event found => ?_
    obtain ⟨member, selected⟩ := latest_spec found
    simp only [Bool.and_eq_true, decide_eq_true_eq] at selected
    exact originalOf_own ((separated.alertHash _ _ selected.1).trans own)
      (inScope.events event member)
  · intro event selected
    simp only [Bool.and_eq_true, decide_eq_true_eq] at selected ⊢
    rw [separated.alertHash _ _ selected.1, own]

theorem resolveDuplicateStatus_part (separated : Separated settings alerts)
    (inScope : Scoped settings alerts state) (own : (alerts alert).sourceConnectionId = connection)
    (dedup : DedupResult) :
    resolveDuplicateStatus settings alerts alert now dedup
        (part settings alerts connection state).events =
      resolveDuplicateStatus settings alerts alert now dedup state.events := by
  unfold resolveDuplicateStatus
  rw [checkDuplicateEvent_part separated inScope own,
    checkDuplicateEventByDedupKey_part separated inScope own]

end Readings

/-! ## Lookups in the AI cache -/

section Lookups

variable {reading : Reading} {entries : List CacheEntry} {entry : CacheEntry}

theorem liveEntry_spec (found : liveEntry settings reading entries = some entry) :
    (settings.cacheEnabled && reading.redisUp) = true ∧ entries = entry :: entries.tail ∧
      reading.now < entry.expiresAt := by
  unfold liveEntry at found
  split at found
  · rename_i asked
    obtain ⟨isHead, live⟩ := Option.filter_eq_some_iff.1 found
    exact ⟨asked, List.eq_cons_of_mem_head? isHead, of_decide_eq_true live⟩
  · cases found

theorem FindsOwnEntry.own (findsOwn : FindsOwnEntry alerts connection reading entries)
    (found : liveEntry settings reading entries = some entry) :
    (alerts entry.writer).sourceConnectionId = connection := by
  obtain ⟨_, isHead, live⟩ := liveEntry_spec found
  by_contra other
  have expired := (findsOwn entry (by rw [isHead]; rfl) other).1
  exact Int.not_le.2 live expired

theorem liveEntry_filter
    (findsOwn : (settings.cacheEnabled && reading.redisUp) = true →
      FindsOwnEntry alerts connection reading entries) :
    liveEntry settings reading
        (entries.filter fun entry => (alerts entry.writer).sourceConnectionId = connection) =
      liveEntry settings reading entries := by
  unfold liveEntry
  split
  · rename_i asked
    cases entries with
    | nil => rfl
    | cons head older =>
        by_cases own : (alerts head.writer).sourceConnectionId = connection
        · rw [List.filter_cons, if_pos (decide_eq_true own)]
          rfl
        · obtain ⟨expired, ownExpired⟩ := findsOwn asked head rfl own
          rw [List.head?_filter, List.head?_cons, Option.filter_some,
            if_neg (by simpa using expired)]
          refine Option.filter_eq_none_iff.2 fun entry isOwn => ?_
          simpa using ownExpired entry isOwn
  · rfl

end Lookups

/-! ## Steps of the own alerts -/

variable {analysis : JsonObject} {dedup : DedupResult}

theorem filter_map_corrected (importance : String) (events : List SavedEvent) :
    (events.map fun event =>
        if event.id = alert then { event with importance := some importance } else event).filter
        (fun event => (alerts event.id).sourceConnectionId = connection) =
      (events.filter fun event => (alerts event.id).sourceConnectionId = connection).map
        fun event =>
          if event.id = alert then { event with importance := some importance } else event := by
  rw [List.filter_map]
  congr 1
  refine List.filter_congr fun event _ => ?_
  simp only [Function.comp_apply]
  split <;> rfl

section Own

variable [DecidableEq Key] {reading : Reading} (own : (alerts alert).sourceConnectionId = connection)

include own

theorem part_rememberDedup {original : Nat} {resetChain : Bool} :
    part settings alerts connection
        (rememberDedup settings alerts alert reading original analysis resetChain state) =
      rememberDedup settings alerts alert reading original analysis resetChain
        (part settings alerts connection state) := by
  unfold rememberDedup
  dsimp only
  split
  · rw [part_remembered own]
    refine PipelineState.ext rfl rfl ?_ rfl rfl
    funext asked
    by_cases same : asked = dedupKey settings (alerts alert)
    · subst same
      simp only [part, Function.update_self]
      exact if_pos ⟨alert, own, rfl⟩
    · simp [part, same]
  · rfl

theorem part_resolved (separated : Separated settings alerts) {silenced : Bool} :
    part settings alerts connection
        (resolved settings alerts alert reading silenced state) =
      resolved settings alerts alert reading silenced (part settings alerts connection state) := by
  unfold resolved
  rw [resolveDedup_part separated own]
  dsimp only
  split
  · exact part_setPhase own _
  · split
    · exact part_setPhase own _
    · rw [part_setPhase own, part_rememberDedup own]

theorem part_lookedUp (findsOwn : (settings.cacheEnabled && reading.redisUp) = true →
      FindsOwnEntry alerts connection reading (state.cache (cacheHash settings (alerts alert)))) :
    part settings alerts connection (lookedUp settings alerts alert reading dedup state) =
      lookedUp settings alerts alert reading dedup (part settings alerts connection state) := by
  have sameEntry : liveEntry settings reading
      ((part settings alerts connection state).cache (cacheHash settings (alerts alert))) =
        liveEntry settings reading (state.cache (cacheHash settings (alerts alert))) :=
    liveEntry_filter findsOwn
  unfold lookedUp
  dsimp only
  rw [sameEntry, overrideOf_part own]
  cases found : liveEntry settings reading (state.cache (cacheHash settings (alerts alert))) with
  | none => exact part_setPhase own _
  | some entry =>
      obtain ⟨asked, isHead, _⟩ := liveEntry_spec found
      have ownEntry := decide_eq_true ((findsOwn asked).own found)
      dsimp only
      rw [part_setPhase own, part_writeCache, List.filter_cons, if_pos ownEntry]
      have ownTail : ((part settings alerts connection state).cache
          (cacheHash settings (alerts alert))).tail =
            (state.cache (cacheHash settings (alerts alert))).tail.filter
              fun entry => (alerts entry.writer).sourceConnectionId = connection := by
        change (List.filter _ (state.cache (cacheHash settings (alerts alert)))).tail = _
        rw [isHead, List.filter_cons, if_pos ownEntry]
        rfl
      rw [ownTail]

theorem part_saveToCache {analysis : Option JsonObject} :
    part settings alerts connection (saveToCache settings alerts alert reading analysis state) =
      saveToCache settings alerts alert reading analysis
        (part settings alerts connection state) := by
  unfold saveToCache
  dsimp only
  split
  · rw [part_writeCache, List.filter_cons, if_pos (decide_eq_true own)]
    rfl
  · rfl

theorem part_saved (separated : Separated settings alerts) (inScope : Scoped settings alerts state)
    {timestamp : DateTime} (current : (state.phases alert).dedup = some dedup) :
    part settings alerts connection
        (saved settings alerts alert reading timestamp dedup analysis state) =
      saved settings alerts alert reading timestamp dedup analysis
        (part settings alerts connection state) := by
  have sameOriginal : (resolveDuplicateStatus settings alerts alert reading.now dedup
        state.events).filter (fun id => (part settings alerts connection state).events.any
          fun event => event.id = id) =
      (resolveDuplicateStatus settings alerts alert reading.now dedup
        state.events).filter fun id => state.events.any fun event => event.id = id := by
    cases found : resolveDuplicateStatus settings alerts alert reading.now dedup state.events with
    | none => rfl
    | some id =>
        have named := resolveDuplicateStatus_scoped inScope separated
          (inScope.phases alert dedup current) id found
        simp only [Option.filter_some, any_id_part (named.trans own)]
  unfold saved
  rw [any_id_part own, resolveDuplicateStatus_part separated inScope own]
  dsimp only
  split
  · rfl
  · rw [sameOriginal]
    refine PipelineState.ext ?_ rfl rfl rfl rfl
    rw [part_events, List.filter_cons, if_pos (decide_eq_true own)]
    rfl

theorem part_corrected {importance actor since : String} :
    part settings alerts connection
        (corrected settings alerts alert importance actor since state) =
      corrected settings alerts alert importance actor since
        (part settings alerts connection state) := by
  unfold corrected
  rw [any_id_part own]
  dsimp only
  split
  · refine PipelineState.ext ?_ ?_ rfl rfl rfl
    · exact filter_map_corrected importance state.events
    · split
      · rw [part_overrides own]
        funext asked
        by_cases same : asked = alertHash settings (alerts alert)
        · subst same
          simp only [part, Function.update_self]
          exact if_pos ⟨alert, own, rfl⟩
        · simp [part, same]
      · rfl
  · rfl

end Own

/-! ## Steps of the other alerts -/

section Other

variable [DecidableEq Key] {reading : Reading}

theorem part_writeCache_of_filter_eq {key : Key} {entries : List CacheEntry}
    (sameOwn :
      entries.filter (fun entry => (alerts entry.writer).sourceConnectionId = connection) =
        (state.cache key).filter
          fun entry => (alerts entry.writer).sourceConnectionId = connection) :
    part settings alerts connection
        { state with cache := Function.update state.cache key entries } =
      part settings alerts connection state := by
  rw [part_writeCache, sameOwn]
  exact PipelineState.ext rfl rfl rfl (Function.update_eq_self ..) rfl

variable (other : (alerts alert).sourceConnectionId ≠ connection)

include other

theorem part_rememberDedup_of_ne (separated : Separated settings alerts) {original : Nat}
    {resetChain : Bool} :
    part settings alerts connection
        (rememberDedup settings alerts alert reading original analysis resetChain state) =
      part settings alerts connection state := by
  unfold rememberDedup
  dsimp only
  split
  · refine PipelineState.ext rfl rfl ?_ rfl rfl
    funext asked
    by_cases same : asked = dedupKey settings (alerts alert)
    · have notOwn : ¬ ∃ own, (alerts own).sourceConnectionId = connection ∧
          dedupKey settings (alerts own) = asked := by
        rintro ⟨own, isOwn, sameKey⟩
        exact other ((separated.dedupKey _ _ (same.symm.trans sameKey.symm)).trans isOwn)
      simp only [part, if_neg notOwn]
    · simp [part, same]
  · rfl

theorem part_resolved_of_ne (separated : Separated settings alerts) {silenced : Bool} :
    part settings alerts connection
        (resolved settings alerts alert reading silenced state) =
      part settings alerts connection state := by
  unfold resolved
  dsimp only
  split
  · exact part_setPhase_of_ne other _
  · split
    · exact part_setPhase_of_ne other _
    · rw [part_setPhase_of_ne other, part_rememberDedup_of_ne other separated]

theorem part_lookedUp_of_ne (findsOwn : (settings.cacheEnabled && reading.redisUp) = true →
      FindsOwnEntry alerts (alerts alert).sourceConnectionId reading
        (state.cache (cacheHash settings (alerts alert)))) :
    part settings alerts connection (lookedUp settings alerts alert reading dedup state) =
      part settings alerts connection state := by
  unfold lookedUp
  dsimp only
  cases found : liveEntry settings reading (state.cache (cacheHash settings (alerts alert))) with
  | none => exact part_setPhase_of_ne other _
  | some entry =>
      obtain ⟨asked, isHead, _⟩ := liveEntry_spec found
      have notOwn : ¬ decide ((alerts entry.writer).sourceConnectionId = connection) = true := by
        rw [(findsOwn asked).own found]
        simpa using other
      dsimp only
      rw [part_setPhase_of_ne other]
      refine part_writeCache_of_filter_eq ?_
      conv => rhs; rw [isHead]
      rw [List.filter_cons, if_neg notOwn, List.filter_cons, if_neg notOwn]

theorem part_saveToCache_of_ne {analysis : Option JsonObject} :
    part settings alerts connection (saveToCache settings alerts alert reading analysis state) =
      part settings alerts connection state := by
  unfold saveToCache
  dsimp only
  split
  · refine part_writeCache_of_filter_eq ?_
    rw [List.filter_cons, if_neg (by simpa using other)]
  · rfl

theorem part_saved_of_ne {timestamp : DateTime} :
    part settings alerts connection
        (saved settings alerts alert reading timestamp dedup analysis state) =
      part settings alerts connection state := by
  unfold saved
  dsimp only
  split
  · rfl
  · refine PipelineState.ext ?_ rfl rfl rfl rfl
    rw [part_events, List.filter_cons, if_neg (by simpa using other)]
    rfl

theorem part_corrected_of_ne (separated : Separated settings alerts)
    {importance actor since : String} :
    part settings alerts connection
        (corrected settings alerts alert importance actor since state) =
      part settings alerts connection state := by
  unfold corrected
  dsimp only
  split
  · refine PipelineState.ext ?_ ?_ rfl rfl rfl
    · rw [part_events, filter_map_corrected]
      refine (List.map_congr_left fun event member => ?_).trans (List.map_id _)
      have own := of_decide_eq_true (List.mem_filter.1 member).2
      refine if_neg fun same => other ?_
      rw [← same, own]
    · split
      · funext asked
        by_cases same : asked = alertHash settings (alerts alert)
        · have notOwn : ¬ ∃ own, (alerts own).sourceConnectionId = connection ∧
              alertHash settings (alerts own) = asked := by
            rintro ⟨own, isOwn, sameKey⟩
            exact other ((separated.alertHash _ _ (same.symm.trans sameKey.symm)).trans isOwn)
          simp only [part, if_neg notOwn]
        · simp [part, same]
      · rfl
  · rfl

end Other

/-! ## Runs -/

variable [DecidableEq Key]

variable (settings alerts) in
/-- Runs that differ only in the alerts of other connections store the same analyses with the
events of a connection. -/
def StaysWithin (admitted : PipelineState Key → PipelineEvent → Prop) : Prop :=
  ∀ connection first second,
    Along (step settings alerts) admitted (.initial Key) first →
    Along (step settings alerts) admitted (.initial Key) second →
    first.filter (isOf alerts connection) = second.filter (isOf alerts connection) →
    storedAnalyses alerts connection (run (step settings alerts) (.initial Key) first) =
      storedAnalyses alerts connection (run (step settings alerts) (.initial Key) second)

variable (settings alerts) in
/-- A connection sees its own alerts, and nothing else changes its part. -/
theorem isolates_part (separated : Separated settings alerts) (connection : Option Nat) :
    Isolates (step settings alerts)
      (fun state event => Scoped settings alerts state ∧ FindsOwn settings alerts state event)
      (part settings alerts connection) (isOf alerts connection) where
  hidden := by
    intro state event admitted hidden
    have other : (alerts event.alert).sourceConnectionId ≠ connection :=
      of_decide_eq_false hidden
    cases event with
    | resolve alert reading silenced =>
        dsimp only [step]
        split
        · exact part_resolved_of_ne other separated
        · rfl
    | lookUp alert reading =>
        dsimp only [step]
        split
        · exact part_lookedUp_of_ne other (admitted.2 ⟨_, ‹_›⟩)
        · rfl
    | analyze alert reading refusal =>
        dsimp only [step]
        split
        · exact (part_setPhase_of_ne other _).trans (part_saveToCache_of_ne other)
        · rfl
    | correlate alert reading =>
        dsimp only [step]
        split
        · exact part_setPhase_of_ne other _
        · rfl
    | save alert reading timestamp =>
        dsimp only [step]
        split
        · exact (part_setPhase_of_ne other _).trans (part_saved_of_ne other)
        · rfl
    | remember alert reading =>
        dsimp only [step]
        split
        · exact (part_setPhase_of_ne other _).trans (part_rememberDedup_of_ne other separated)
        · rfl
    | abandon alert => exact part_setPhase_of_ne other _
    | correct alert importance actor since => exact part_corrected_of_ne other separated
  seen := by
    intro state event admitted seen
    have own : (alerts event.alert).sourceConnectionId = connection := of_decide_eq_true seen
    have named {alert : Nat} {phase : Phase} (current : state.phases alert = phase) :
        (state.phases alert).dedup = phase.dedup := by
      rw [current]
    cases event with
    | resolve alert reading silenced =>
        dsimp only [step, PipelineEvent.alert] at own ⊢
        rw [part_phases own]
        split
        · exact part_resolved own separated
        · rfl
    | lookUp alert reading =>
        dsimp only [step, PipelineEvent.alert] at own ⊢
        rw [part_phases own]
        split
        · refine part_lookedUp own ?_
          rw [← own]
          exact admitted.2 ⟨_, ‹_›⟩
        · rfl
    | analyze alert reading refusal =>
        dsimp only [step, PipelineEvent.alert] at own ⊢
        rw [part_phases own, overrideOf_part own]
        split
        · rw [part_setPhase own, part_saveToCache own]
        · rfl
    | correlate alert reading =>
        dsimp only [step, PipelineEvent.alert] at own ⊢
        rw [part_phases own, listRecentAlertContexts_part own]
        split
        · exact part_setPhase own _
        · rfl
    | save alert reading timestamp =>
        dsimp only [step, PipelineEvent.alert] at own ⊢
        rw [part_phases own]
        split
        · rename_i current
          rw [part_setPhase own, part_saved own separated admitted.1 (named current)]
        · rfl
    | remember alert reading =>
        dsimp only [step, PipelineEvent.alert] at own ⊢
        rw [part_phases own]
        split
        · rw [part_setPhase own, part_rememberDedup own]
        · rfl
    | abandon alert => exact part_setPhase own _
    | correct alert importance actor since => exact part_corrected own

theorem along_scoped (separated : Separated settings alerts) {events : List PipelineEvent}
    (along : Along (step settings alerts) (FindsOwn settings alerts) (.initial Key) events) :
    Along (step settings alerts)
      (fun state event => Scoped settings alerts state ∧ FindsOwn settings alerts state event)
      (.initial Key) events :=
  along.of_invariant (Scoped settings alerts) scoped_initial
    (fun _ event inScope _ => inScope.step separated event)
    fun _ _ inScope findsOwn => ⟨inScope, findsOwn⟩

variable (settings alerts) in
/-- The analyses of a connection come from its own alerts, in every run whose lookups in the
AI cache are not led to the entries of another connection. -/
theorem staysWithin_of_findsOwn (collisionFree : settings.keys.CollisionFree)
    (unnamed : ∀ alert, (alerts alert).sourceConnectionId = none →
      ¬ NamesConnection settings.keys (alerts alert).parsedData) :
    StaysWithin settings alerts (FindsOwn settings alerts) := by
  have separated := separated_of_collisionFree collisionFree unnamed
  intro connection first second firstAlong secondAlong sameSeen
  have samePart := (isolates_part settings alerts separated connection).part_eq
    (along_scoped separated firstAlong) (along_scoped separated secondAlong) sameSeen
  rw [← storedAnalyses_part, samePart, storedAnalyses_part]

/-! ## Two connections that report one condition -/

def textKeys : KeySettings (List (String × Option String)) where
  python := .plain
  digest fields := fields.map fun field =>
    (field.1, match field.2 with
      | .str text => some text
      | _ => none)
  resourceDedupBucket _ := none
  fingerprintMode := .off
  fingerprintFields _ := []
  excludedLabels _ := []

theorem textKeys_collisionFree : textKeys.CollisionFree := by
  have textAt (fields : JsonObject) (key text : String) :
      PyDict.get? fields key = some (.str text) ↔
        PyDict.get? (textKeys.digest fields) key = some (some text) := by
    induction fields with
    | nil => simp [textKeys, PyDict.get?]
    | cons field fields ih =>
        simp only [textKeys, PyDict.get?, List.map_cons, List.find?_cons] at ih ⊢
        by_cases same : field.1 = key
        · cases isText : field.2 <;> simp [same, isText]
        · simpa [same] using ih
  intro first second sameDigest key text present
  rw [textAt, ← sameDigest, ← textAt]
  exact present

def echoSettings : PipelineSettings (List (String × Option String)) where
  keys := textKeys
  windows := ⟨3600, 86400⟩
  cacheEnabled := true
  analysisCacheTtlSeconds := 3600
  noiseWindowMinutes := 5
  promptKind := "user"
  promptVersion := "1"
  rulesRoute _ := none
  analyzeWithRules _ := []
  callAi alert :=
    ([("importance", .str "high"),
      ("summary", (PyDict.get? alert.parsedData "message").getD .null)], .null)
  applyResourceImportanceOverride analysis _ := analysis
  isRecoveryPayload _ _ := false
  inboundImportanceCap _ _ := none
  inboundDigestWindow _ _ := none
  computeNoise _ _ _ _ := standalone ""

def cpuAlert (sourceConnectionId : Nat) (message : String) : Alert where
  sourceConnectionId := some sourceConnectionId
  source := "grafana"
  parsedData :=
    [("_alert_identity", .dict [("name", .str "cpu"), ("resource", .str "web-1")]),
      ("message", .str message)]

/-- Two connections report one condition; what else comes has no connection. -/
def sharedAlerts : Nat → Alert
  | 0 => cpuAlert 1 "seen by the first"
  | 1 => cpuAlert 2 "seen by the second"
  | _ => ⟨none, "grafana", []⟩

private def atSecond (second : Int) : Reading :=
  ⟨DateTime.addSeconds 0 second, true, true⟩

private def analyzedBy (alert : Nat) (second : Int) : List PipelineEvent :=
  [.resolve alert (atSecond second) false, .lookUp alert (atSecond second),
    .analyze alert (atSecond second) none, .correlate alert (atSecond second),
    .save alert (atSecond second) (DateTime.addSeconds 0 second)]

instance (connection : Option Nat) (reading : Reading) (entries : List CacheEntry) :
    Decidable (FindsOwnEntry sharedAlerts connection reading entries) :=
  inferInstanceAs (Decidable (∀ entry ∈ entries.head?, _ → _))

/-- Two hours later the entry of the first connection has expired, and the second connection
stores what it stores without the first. -/
theorem sharedAlerts_stayWithin :
    Along (step echoSettings sharedAlerts) (FindsOwn echoSettings sharedAlerts) (.initial _)
        (analyzedBy 0 0 ++ analyzedBy 1 7200) ∧
      Along (step echoSettings sharedAlerts) (FindsOwn echoSettings sharedAlerts) (.initial _)
        (analyzedBy 1 7200) ∧
      storedAnalyses sharedAlerts (some 2) (run (step echoSettings sharedAlerts) (.initial _)
          (analyzedBy 0 0 ++ analyzedBy 1 7200)) =
        storedAnalyses sharedAlerts (some 2) (run (step echoSettings sharedAlerts) (.initial _)
          (analyzedBy 1 7200)) := by
  have both : Along (step echoSettings sharedAlerts) (FindsOwn echoSettings sharedAlerts)
      (.initial _) (analyzedBy 0 0 ++ analyzedBy 1 7200) :=
    ⟨trivial, fun _ _ => by decide, trivial, trivial, trivial,
      trivial, fun _ _ => by decide, trivial, trivial, trivial, trivial⟩
  have alone : Along (step echoSettings sharedAlerts) (FindsOwn echoSettings sharedAlerts)
      (.initial _) (analyzedBy 1 7200) :=
    ⟨trivial, fun _ _ => by decide, trivial, trivial, trivial, trivial⟩
  refine ⟨both, alone, staysWithin_of_findsOwn echoSettings sharedAlerts textKeys_collisionFree
    ?_ (some 2) _ _ both alone rfl⟩
  intro alert unconnected
  match alert, unconnected with
  | _ + 2, _ =>
      rintro ⟨identity, extracted, _⟩
      cases extracted

/-- The alert of the second connection is given the analysis of the first. -/
theorem sharedAlerts_cross :
    ¬ StaysWithin echoSettings sharedAlerts fun _ _ => True := by
  intro stays
  have same := congrArg (List.map fun stored =>
    JsonObject.strOr .plain stored.2 "summary" "")
    (stays (some 2) (analyzedBy 0 0 ++ analyzedBy 1 60) (analyzedBy 1 60)
      (along_of_always fun _ _ => trivial) (along_of_always fun _ _ => trivial) rfl)
  exact absurd same (by decide)

end AnalysisPipeline

end WebhookWise
