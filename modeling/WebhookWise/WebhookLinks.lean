import WebhookWise.GuardedRuns
import WebhookWise.WebhookDedup

/-!
# Links between events

An attempt of the pipeline resolves its alert, saves it, and remembers what it saved.
The id that is remembered is the id of the saved event, also where that event is a
duplicate; the next attempt hands it on as an original.  As long as no save takes its
link from a remembered duplicate, every link leads to an original.
-/

namespace WebhookWise

open SqlTable

namespace WebhookLinks

open WebhookIngest WebhookDedup

/-! ## Attempts -/

/-- An attempt has resolved its alert, and then saved it. -/
inductive AttemptStage where
  | resolved
  | saved (result : SaveWebhookResult)

structure PipelineAttempt where
  dedupKey : String
  resolution : DedupResult
  stage : AttemptStage

structure PipelineState where
  events : EventTable
  remembered : String → Option DedupEntry
  attempts : List PipelineAttempt

def PipelineState.initial : PipelineState :=
  ⟨.empty, fun _ => none, []⟩

/-- The save that `finalize_analysis_transaction` asks for. -/
def finalizeRequest (attempt : PipelineAttempt) (requestId : Option String)
    (payload : SaveWebhookInput) : SaveRequest :=
  let isRechain := attempt.resolution.action = .rechain
  { requestId := requestId
    payload :=
      { payload with
        dedupKey := some attempt.dedupKey
        reanalyzed := false
        prevAlertId := if isRechain then attempt.resolution.originalEventId else none }
    verdict :=
      { isDuplicate := some (!isRechain && attempt.resolution.action = .reuse)
        originalEventId := if isRechain then none else attempt.resolution.originalEventId
        skipDuplicateLookup := true } }

/-- The steps of all attempts, in any order.  A step that does not happen is a worker
that has stopped, or a write to Redis that has failed. -/
inductive PipelineEvent where
  /-- `resolve_dedup`, which may not get an answer from Redis. -/
  | resolve (now : DateTime) (windows : DedupWindows) (redisAnswers : Bool) (dedupKey : String)
  /-- The placeholder that `_run_fresh_analysis` remembers. -/
  | rememberPending (index : Nat) (now : DateTime) (ttlSeconds : Int)
  /-- The save, with the dedup window that it sees. -/
  | save (index : Nat) (windowSeconds : Int) (times : SaveTimes) (requestId : Option String)
      (payload : SaveWebhookInput)
  /-- The state that `persist_and_schedule` remembers. -/
  | remember (index : Nat) (now : DateTime) (ttlSeconds : Int) (analysis : JsonObject)
  /-- Redis loses a state. -/
  | forget (dedupKey : String)
  | insertRetry (now : DateTime) (delivery : Delivery) (failure : Failure)
      (nextRetryAt : DateTime)
  | updateRetry (now : DateTime) (delivery : Delivery) (failure : Failure)
      (nextRetryAt : DateTime)

def remembering (remembered : String → Option DedupEntry) (dedupKey : String)
    (entry : Option DedupEntry) (other : String) : Option DedupEntry :=
  if other = dedupKey then entry else remembered other

variable (env : SaveEnvironment)

def withWindow (windowSeconds : Int) : SaveEnvironment :=
  { env with windowSeconds := windowSeconds }

def step (state : PipelineState) : PipelineEvent → PipelineState
  | .resolve now windows redisAnswers dedupKey =>
      let known := if redisAnswers then getDedupState now (state.remembered dedupKey) else none
      { state with
        attempts := state.attempts ++
          [⟨dedupKey, resolveDedup now windows known dedupKey state.events, .resolved⟩] }
  | .rememberPending index now ttlSeconds =>
      match state.attempts[index]? with
      | some ⟨dedupKey, resolution, .resolved⟩ =>
          if resolution.action = .new then
            { state with
              remembered := remembering state.remembered dedupKey (some (rememberDedupState now
                ttlSeconds 0 pendingDedupPlaceholder resolution.resetChain
                (state.remembered dedupKey))) }
          else state
      | _ => state
  | .save index windowSeconds times requestId payload =>
      match state.attempts[index]? with
      | some ⟨dedupKey, resolution, .resolved⟩ =>
          let attempt : PipelineAttempt := ⟨dedupKey, resolution, .resolved⟩
          match saveWebhookDataInSession (withWindow env windowSeconds) times
            (finalizeRequest attempt requestId payload) state.events with
          | some (saved, result) =>
              { state with
                events := saved
                attempts := state.attempts.set index { attempt with stage := .saved result } }
          | none => { state with attempts := state.attempts.eraseIdx index }
      | _ => state
  | .remember index now ttlSeconds analysis =>
      match state.attempts[index]? with
      | some ⟨dedupKey, resolution, .saved result⟩ =>
          { state with
            remembered := remembering state.remembered dedupKey (some (rememberDedupState now
              ttlSeconds result.webhookId analysis
              (resolution.resetChain || resolution.action = .rechain)
              (state.remembered dedupKey)))
            attempts := state.attempts.eraseIdx index }
      | _ => state
  | .forget dedupKey =>
      { state with remembered := remembering state.remembered dedupKey none }
  | .insertRetry now delivery failure nextRetryAt =>
      { state with
        events := (insertEvent now (retryInput env.python delivery failure nextRetryAt)
          state.events).getD state.events }
  | .updateRetry now delivery failure nextRetryAt =>
      { state with
        events := updateExistingRetry now delivery failure nextRetryAt state.events }

/-! ## Flat links -/

/-- Every duplicate repeats another event, which is an original, and every rechained
event follows an original. -/
def LinksFlat (events : EventTable) : Prop :=
  ∀ row ∈ events.rows,
    (row.isDuplicate = true → ∃ original ∈ events.rows, row.duplicateOf = some original.id ∧
      original.isDuplicate = false ∧ original.id ≠ row.id) ∧
    ∀ previousId, row.prevAlertId = some previousId →
      ∃ previous ∈ events.rows, previous.id = previousId ∧ previous.isDuplicate = false

/-- Neither the identity nor the alert hash of an event decides its link, so that the save
follows what `resolve_dedup` has answered. -/
def followsResolution (env : SaveEnvironment) (times : SaveTimes) (request : SaveRequest)
    (events : EventTable) : Bool :=
  !alreadyCompleted request events && (recheckedOriginal env times request events).isNone &&
    (request.payload.prevAlertId.isSome || (hashedOriginal env times request events).isNone)

/-- A save that follows the answer of `resolve_dedup` was given the id of an original. -/
def FollowsOriginals (state : PipelineState) : PipelineEvent → Prop
  | .save index windowSeconds times requestId payload =>
      ∀ attempt ∈ state.attempts[index]?,
        followsResolution (withWindow env windowSeconds) times
          (finalizeRequest attempt requestId payload) state.events = true →
        ∀ eventId ∈ attempt.resolution.originalEventId, ∀ row ∈ state.events.rows,
          row.id = eventId → row.isDuplicate = false
  | _ => True

/-! ## Rows -/

/-- A completed event that repeats no other. -/
structure IsOriginal (events : EventTable) (row : WebhookEvent) : Prop where
  member : row ∈ events.rows
  completed : row.processingStatus = .completed
  original : row.isDuplicate = false

/-- A row that waits for its retry has no links yet, and no identity to be found by; the
links of the others lead to originals. -/
structure FlatRow (events : EventTable) (row : WebhookEvent) : Prop where
  blank : row.processingStatus ≠ .completed → row.dedupKey = none ∧ row.alertHash = none ∧
    row.isDuplicate = false ∧ row.prevAlertId = none
  repeats : row.isDuplicate = true →
    ∃ original, IsOriginal events original ∧ row.duplicateOf = some original.id
  follows : ∀ previousId, row.prevAlertId = some previousId →
    ∃ previous, IsOriginal events previous ∧ previous.id = previousId

def FlatTable (events : EventTable) : Prop :=
  ∀ row ∈ events.rows, FlatRow events row

section Rows

variable {events after : EventTable}

theorem IsOriginal.kept {row : WebhookEvent} (isOriginal : IsOriginal events row)
    (keeps : KeepsCompleted events after) : ∃ moved, IsOriginal after moved ∧ moved.id = row.id := by
  obtain ⟨moved, member, sameId, linked⟩ := keeps row isOriginal.member isOriginal.completed
  exact ⟨moved, ⟨member, (congrArg WebhookEvent.processingStatus linked).trans isOriginal.completed,
    (congrArg WebhookEvent.isDuplicate linked).trans isOriginal.original⟩, sameId⟩

theorem FlatRow.mono {row : WebhookEvent} (flat : FlatRow events row)
    (keeps : KeepsCompleted events after) : FlatRow after row where
  blank := flat.blank
  repeats isDuplicate := by
    obtain ⟨original, isOriginal, repeated⟩ := flat.repeats isDuplicate
    obtain ⟨moved, movedOriginal, sameId⟩ := isOriginal.kept keeps
    exact ⟨moved, movedOriginal, by rw [sameId, repeated]⟩
  follows previousId isPrevious := by
    obtain ⟨previous, isOriginal, rfl⟩ := flat.follows previousId isPrevious
    exact isOriginal.kept keeps

theorem FlatRow.of_sameLinks {reanalyzed : Bool} {old row : WebhookEvent}
    (flat : FlatRow events old) (linked : SameLinks reanalyzed old row) :
    FlatRow events row := by
  rw [linked]
  exact ⟨flat.blank, flat.repeats, flat.follows⟩

theorem FlatRow.of_blank {row : WebhookEvent} (noKey : row.dedupKey = none)
    (noHash : row.alertHash = none) (isOriginal : row.isDuplicate = false)
    (noPrevious : row.prevAlertId = none) : FlatRow events row where
  blank _ := ⟨noKey, noHash, isOriginal, noPrevious⟩
  repeats isDuplicate := by simp [isOriginal] at isDuplicate
  follows previousId isPrevious := by simp [noPrevious] at isPrevious

theorem flatTable_insertRetry (python : PythonRuntime) {now nextRetryAt : DateTime}
    {delivery : Delivery} {failure : Failure} (flat : FlatTable events) :
    FlatTable ((insertEvent now (retryInput python delivery failure nextRetryAt) events).getD
      events) := by
  intro row member
  rcases mem_insertEvent member with old | rfl
  · exact (flat row old).mono keepsCompleted_insertEvent
  · exact .of_blank rfl rfl rfl rfl

theorem flatTable_updateExistingRetry {now nextRetryAt : DateTime} {delivery : Delivery}
    {failure : Failure} (flat : FlatTable events) :
    FlatTable (updateExistingRetry now delivery failure nextRetryAt events) := by
  intro row member
  obtain ⟨old, oldMember, rfl⟩ := Table.mem_update.1 member
  split
  · rename_i selected
    simp only [Bool.and_eq_true, decide_eq_true_eq] at selected
    obtain ⟨noKey, noHash, isOriginal, noPrevious⟩ := (flat old oldMember).blank selected.2
    exact .of_blank noKey noHash isOriginal noPrevious
  · exact (flat old oldMember).mono keepsCompleted_updateExistingRetry

theorem flatTable_of_saved {reanalyzed : Bool} {written : WebhookEvent} (flat : FlatTable events)
    (saved : Saved reanalyzed events after written) (writtenFlat : FlatRow events written) :
    FlatTable after := by
  intro row member
  by_cases own : row.id = written.id
  · rw [Table.eq_of_key_eq member saved.stored own]
    exact writtenFlat.mono saved.keepsCompleted
  · obtain ⟨old, oldMember, _, linked⟩ := saved.others row member own
    exact ((flat old oldMember).of_sameLinks linked).mono saved.keepsCompleted

theorem isOriginal_originalOf (flat : FlatTable events) {event : WebhookEvent}
    (member : event ∈ events.rows) (completed : event.processingStatus = .completed) :
    IsOriginal events (originalOf events event) := by
  unfold originalOf
  cases isDuplicate : event.isDuplicate with
  | true =>
      obtain ⟨original, isOriginal, repeated⟩ := (flat event member).repeats isDuplicate
      simp only [if_true, repeated, Option.bind_some,
        Table.mem_rows_iff_lookup.1 isOriginal.member, Option.getD_some]
      exact isOriginal
  | false =>
      simp only [Bool.false_eq_true, if_false, Option.bind_some,
        Table.mem_rows_iff_lookup.1 member, Option.getD_some]
      exact ⟨member, completed, isDuplicate⟩

end Rows

/-! ## Saves -/

section Saves

variable {env} {times : SaveTimes} {request : SaveRequest} {events : EventTable}

theorem isOriginal_of_rechecked (flat : FlatTable events) {original : WebhookEvent}
    (found : recheckedOriginal env times request events = some original) :
    IsOriginal events original := by
  obtain ⟨dedupKey, _, checked⟩ := Option.bind_eq_some_iff.1 found
  have completed {row : WebhookEvent} (member : row ∈ events.rows)
      (keyed : row.dedupKey = some dedupKey) : row.processingStatus = .completed := by
    by_contra unfinished
    rw [((flat row member).blank unfinished).1] at keyed
    contradiction
  unfold checkDuplicateEventByDedupKey at checked
  split at checked
  · obtain ⟨member, selected⟩ := Table.selectFirst_spec checked
    simp only [Bool.and_eq_true, decide_eq_true_eq, Bool.not_eq_true'] at selected
    exact ⟨member, completed member selected.1.1, selected.1.2⟩
  · obtain ⟨latest, isLatest, rfl⟩ := Option.map_eq_some_iff.1 checked
    obtain ⟨member, selected⟩ := Table.selectFirst_spec isLatest
    simp only [Bool.and_eq_true, decide_eq_true_eq] at selected
    exact isOriginal_originalOf flat member (completed member selected.1.1)

theorem isOriginal_of_hashed (flat : FlatTable events) {original : WebhookEvent}
    (found : hashedOriginal env times request events = some original) :
    IsOriginal events original := by
  obtain ⟨alertHash, _, checked⟩ := Option.bind_eq_some_iff.1 found
  obtain ⟨latest, isLatest, rfl⟩ := Option.map_eq_some_iff.1 checked
  obtain ⟨member, selected⟩ := Table.selectFirst_spec isLatest
  simp only [Bool.and_eq_true, decide_eq_true_eq] at selected
  apply isOriginal_originalOf flat member
  by_contra unfinished
  rw [((flat latest member).blank unfinished).2.1] at selected
  simp at selected

/-- A completed event is stored under the id. -/
def Stored (events : EventTable) (eventId : Nat) : Prop :=
  ∃ row ∈ events.rows, row.id = eventId ∧ row.processingStatus = .completed

theorem Stored.kept {after : EventTable} {eventId : Nat} (stored : Stored events eventId)
    (keeps : KeepsCompleted events after) : Stored after eventId := by
  obtain ⟨old, oldMember, rfl, completed⟩ := stored
  obtain ⟨row, member, sameId, linked⟩ := keeps old oldMember completed
  exact ⟨row, member, sameId, (congrArg WebhookEvent.processingStatus linked).trans completed⟩

theorem isOriginal_of_followed {attempt : PipelineAttempt}
    (stored : ∀ eventId ∈ attempt.resolution.originalEventId, Stored events eventId)
    (originals : followsResolution env times request events = true →
      ∀ eventId ∈ attempt.resolution.originalEventId, ∀ row ∈ events.rows,
        row.id = eventId → row.isDuplicate = false)
    (follows : followsResolution env times request events = true) {eventId : Nat}
    (resolved : attempt.resolution.originalEventId = some eventId) :
    ∃ original, IsOriginal events original ∧ original.id = eventId := by
  obtain ⟨row, member, rfl, completed⟩ := stored eventId resolved
  exact ⟨row, ⟨member, completed, originals follows _ resolved row member rfl⟩, rfl⟩

theorem flatRow_savedEvent {attempt : PipelineAttempt} {requestId : Option String}
    {payload : SaveWebhookInput} (isRequest : request = finalizeRequest attempt requestId payload)
    (flat : FlatTable events)
    (stored : ∀ eventId ∈ attempt.resolution.originalEventId, Stored events eventId)
    (originals : followsResolution env times request events = true →
      ∀ eventId ∈ attempt.resolution.originalEventId, ∀ row ∈ events.rows,
        row.id = eventId → row.isDuplicate = false)
    (notCompleted : alreadyCompleted request events = false) :
    FlatRow events (savedEvent env times request events) where
  blank unfinished := absurd savedEvent_processingStatus unfinished
  repeats isDuplicate := by
    rw [savedEvent_isDuplicate] at isDuplicate
    obtain ⟨original, repeated⟩ := Option.isSome_iff_exists.1 isDuplicate
    refine ⟨original, ?_, by rw [savedEvent_duplicateOf, repeated]; rfl⟩
    rcases repeatedEvent_cases (by rw [isRequest]; rfl) repeated with
      rechecked | hashed | ⟨notRechecked, notHashed, _, byCaller, member⟩
    · exact isOriginal_of_rechecked flat rechecked
    · exact isOriginal_of_hashed flat hashed
    · have follows : followsResolution env times request events = true := by
        simp [followsResolution, notCompleted, notRechecked, notHashed]
      have resolved : attempt.resolution.originalEventId = some original.id := by
        rw [isRequest] at byCaller
        simp only [finalizeRequest] at byCaller
        split at byCaller
        · contradiction
        · exact byCaller
      obtain ⟨named, isOriginal, sameId⟩ :=
        isOriginal_of_followed stored originals follows resolved
      rw [← Table.eq_of_key_eq isOriginal.member member sameId]
      exact isOriginal
  follows previousId isPrevious := by
    rw [savedEvent_prevAlertId] at isPrevious
    split at isPrevious
    · contradiction
    · rename_i notRepeated
      have notRechecked : recheckedOriginal env times request events = none := by
        cases rechecked : recheckedOriginal env times request events with
        | none => rfl
        | some original => simp [repeatedEvent_of_rechecked rechecked] at notRepeated
      have follows : followsResolution env times request events = true := by
        simp [followsResolution, notCompleted, notRechecked, isPrevious]
      have resolved : attempt.resolution.originalEventId = some previousId := by
        rw [isRequest] at isPrevious
        simp only [finalizeRequest] at isPrevious
        split at isPrevious
        · exact isPrevious
        · contradiction
      exact isOriginal_of_followed stored originals follows resolved

end Saves

/-! ## Steps -/

/-- What an attempt goes on with is stored. -/
structure AttemptSound (events : EventTable) (attempt : PipelineAttempt) : Prop where
  resolved : ∀ eventId ∈ attempt.resolution.originalEventId, Stored events eventId
  saved : ∀ result, attempt.stage = .saved result → Stored events result.webhookId

/-- The links are flat, and every id that Redis or an attempt knows is stored. -/
structure PipelineSound (state : PipelineState) : Prop where
  flat : FlatTable state.events
  remembered : ∀ dedupKey entry, state.remembered dedupKey = some entry →
    hasReusableAnalysis entry.state.analysis = true →
      Stored state.events entry.state.originalEventId
  attempts : ∀ attempt ∈ state.attempts, AttemptSound state.events attempt

theorem pipelineSound_initial : PipelineSound .initial where
  flat row member := by simp [PipelineState.initial, Table.empty] at member
  remembered dedupKey entry found := by simp [PipelineState.initial] at found
  attempts attempt member := by simp [PipelineState.initial] at member

section Steps

variable {env} {state : PipelineState} {after : EventTable}

theorem AttemptSound.kept {events : EventTable} {attempt : PipelineAttempt}
    (sound : AttemptSound events attempt) (keeps : KeepsCompleted events after) :
    AttemptSound after attempt where
  resolved eventId isResolved := (sound.resolved eventId isResolved).kept keeps
  saved result isSaved := (sound.saved result isSaved).kept keeps

theorem PipelineSound.withEvents (sound : PipelineSound state) (flat : FlatTable after)
    (keeps : KeepsCompleted state.events after) :
    PipelineSound { state with events := after } where
  flat := flat
  remembered dedupKey entry found reusable :=
    (sound.remembered dedupKey entry found reusable).kept keeps
  attempts attempt member := (sound.attempts attempt member).kept keeps

theorem PipelineSound.remembering (sound : PipelineSound state) (dedupKey : String)
    (entry : Option DedupEntry)
    (stored : ∀ known ∈ entry, hasReusableAnalysis known.state.analysis = true →
      Stored state.events known.state.originalEventId) :
    PipelineSound { state with
      remembered := WebhookLinks.remembering state.remembered dedupKey entry } where
  flat := sound.flat
  remembered other known found := by
    simp only [WebhookLinks.remembering] at found
    split at found
    · exact stored known found
    · exact sound.remembered other known found
  attempts := sound.attempts

theorem stored_resolveDedup (flat : FlatTable state.events) {now : DateTime}
    {windows : DedupWindows} {known : Option DedupState} {dedupKey : String}
    (remembered : ∀ state' ∈ known, hasReusableAnalysis state'.analysis = true →
      Stored state.events state'.originalEventId) :
    ∀ eventId ∈ (resolveDedup now windows known dedupKey state.events).originalEventId,
      Stored state.events eventId := by
  intro eventId isResolved
  unfold resolveDedup at isResolved
  split at isResolved
  · rename_i result answered
    obtain ⟨current, isKnown, fromState⟩ := Option.bind_eq_some_iff.1 answered
    obtain ⟨sameId, _, _, reusable, _⟩ := answerFromState_spec fromState
    rw [sameId] at isResolved
    obtain rfl := Option.some.inj isResolved
    exact remembered current isKnown reusable
  · split at isResolved
    · rename_i original found
      obtain ⟨member, keyed, _⟩ := findOriginalByDedupKey_spec found
      obtain rfl := Option.some.inj isResolved
      refine ⟨original, member, rfl, ?_⟩
      by_contra unfinished
      rw [((flat original member).blank unfinished).1] at keyed
      contradiction
    · simp at isResolved

theorem PipelineSound.withAttempts (sound : PipelineSound state)
    {attempts : List PipelineAttempt}
    (sounds : ∀ attempt ∈ attempts, AttemptSound state.events attempt) :
    PipelineSound { state with attempts := attempts } where
  flat := sound.flat
  remembered := sound.remembered
  attempts := sounds

theorem sound_resolve (sound : PipelineSound state) (now : DateTime) (windows : DedupWindows)
    (redisAnswers : Bool) (dedupKey : String) :
    PipelineSound (step env state (.resolve now windows redisAnswers dedupKey)) := by
  refine sound.withAttempts ?_
  intro attempt member
  rcases List.mem_append.1 member with old | new
  · exact sound.attempts attempt old
  · obtain rfl := List.mem_singleton.1 new
    refine ⟨?_, fun result isSaved => by contradiction⟩
    apply stored_resolveDedup sound.flat
    intro current isKnown reusable
    split at isKnown
    · obtain ⟨entry, found, rfl⟩ := Option.map_eq_some_iff.1 isKnown
      exact sound.remembered dedupKey entry (Option.filter_eq_some_iff.1 found).1 reusable
    · contradiction

theorem sound_rememberPending (sound : PipelineSound state) (index : Nat) (now : DateTime)
    (ttlSeconds : Int) :
    PipelineSound (step env state (.rememberPending index now ttlSeconds)) := by
  simp only [step]
  split
  · split
    · apply sound.remembering
      intro known isKnown reusable
      obtain rfl := Option.some.inj isKnown
      change hasReusableAnalysis (some pendingDedupPlaceholder) = true at reusable
      rw [hasReusableAnalysis_pendingDedupPlaceholder] at reusable
      contradiction
    · exact sound
  · exact sound

theorem sound_save (sound : PipelineSound state) {index : Nat} {windowSeconds : Int}
    {times : SaveTimes} {requestId : Option String} {payload : SaveWebhookInput}
    (originals : FollowsOriginals env state
      (.save index windowSeconds times requestId payload)) :
    PipelineSound (step env state (.save index windowSeconds times requestId payload)) := by
  simp only [step]
  split
  · rename_i dedupKey resolution isAttempt
    have attemptSound := sound.attempts _ (List.mem_of_getElem? isAttempt)
    split
    · rename_i saved result isSaved
      have keeps := keepsCompleted_save isSaved
      have flat : FlatTable saved ∧ Stored saved result.webhookId := by
        rcases saveWebhookDataInSession_spec isSaved with
          ⟨rfl, row, isExisting, completed, rfl⟩ | ⟨written, rfl⟩
        · exact ⟨sound.flat, row, (existingEvent_spec isExisting).1, rfl, completed⟩
        · refine ⟨flatTable_of_saved sound.flat written ?_, _, written.stored, rfl,
            savedEvent_processingStatus⟩
          exact flatRow_savedEvent rfl sound.flat attemptSound.resolved (originals _ isAttempt)
            (alreadyCompleted_eq_false written)
      refine (sound.withEvents flat.1 keeps).withAttempts ?_
      intro attempt member
      rcases List.mem_or_eq_of_mem_set member with old | rfl
      · exact (sound.attempts attempt old).kept keeps
      · refine ⟨fun eventId isResolved => (attemptSound.resolved eventId isResolved).kept keeps, ?_⟩
        intro other isOther
        obtain rfl := AttemptStage.saved.inj isOther
        exact flat.2
    · exact sound.withAttempts fun attempt member =>
        sound.attempts attempt (List.mem_of_mem_eraseIdx member)
  · exact sound

theorem sound_remember (sound : PipelineSound state) (index : Nat) (now : DateTime)
    (ttlSeconds : Int) (analysis : JsonObject) :
    PipelineSound (step env state (.remember index now ttlSeconds analysis)) := by
  simp only [step]
  split
  · rename_i dedupKey resolution result isAttempt
    have attemptSound := sound.attempts _ (List.mem_of_getElem? isAttempt)
    refine (sound.remembering dedupKey _ ?_).withAttempts ?_
    · intro known isKnown _
      obtain rfl := Option.some.inj isKnown
      exact attemptSound.saved result rfl
    · exact fun attempt member => sound.attempts attempt (List.mem_of_mem_eraseIdx member)
  · exact sound

theorem sound_step (event : PipelineEvent) (sound : PipelineSound state)
    (originals : FollowsOriginals env state event) : PipelineSound (step env state event) := by
  cases event with
  | resolve now windows redisAnswers dedupKey =>
      exact sound_resolve sound now windows redisAnswers dedupKey
  | rememberPending index now ttlSeconds => exact sound_rememberPending sound index now ttlSeconds
  | save index windowSeconds times requestId payload => exact sound_save sound originals
  | remember index now ttlSeconds analysis =>
      exact sound_remember sound index now ttlSeconds analysis
  | forget dedupKey => exact sound.remembering dedupKey none (by simp)
  | insertRetry now delivery failure nextRetryAt =>
      exact sound.withEvents (flatTable_insertRetry env.python sound.flat)
        keepsCompleted_insertEvent
  | updateRetry now delivery failure nextRetryAt =>
      exact sound.withEvents (flatTable_updateExistingRetry sound.flat)
        keepsCompleted_updateExistingRetry

end Steps

/-! ## Runs -/

theorem linksFlat_of_flatTable {events : EventTable} (flat : FlatTable events) :
    LinksFlat events := by
  intro row member
  constructor
  · intro isDuplicate
    obtain ⟨original, isOriginal, repeated⟩ := (flat row member).repeats isDuplicate
    refine ⟨original, isOriginal.member, repeated, isOriginal.original, ?_⟩
    intro sameId
    rw [← Table.eq_of_key_eq isOriginal.member member sameId, isOriginal.original] at isDuplicate
    contradiction
  · intro previousId isPrevious
    obtain ⟨previous, isOriginal, sameId⟩ := (flat row member).follows previousId isPrevious
    exact ⟨previous, isOriginal.member, sameId, isOriginal.original⟩

/-- Links stay flat as long as no save follows the id of a duplicate. -/
theorem links_flat (events : List PipelineEvent)
    (along : GuardedRuns.Along (step env) (FollowsOriginals env) .initial events) :
    LinksFlat (GuardedRuns.run (step env) .initial events).events := by
  have sound := along.invariant PipelineSound pipelineSound_initial
    fun _ event sound => sound_step event sound
  exact linksFlat_of_flatTable sound.flat

instance (state : PipelineState) : ∀ event, Decidable (FollowsOriginals env state event)
  | .save index _ _ _ _ =>
      inferInstanceAs (Decidable (∀ attempt ∈ state.attempts[index]?, _ →
        ∀ eventId ∈ attempt.resolution.originalEventId, ∀ row ∈ state.events.rows, _ → _))
  | .resolve _ _ _ _ | .rememberPending _ _ _ | .remember _ _ _ _ | .forget _
  | .insertRetry _ _ _ _ | .updateRetry _ _ _ _ => isTrue trivial

def sampleWindows : DedupWindows :=
  ⟨60, 3600⟩

def attemptAt (seconds : Int) (requestId : String) : List PipelineEvent :=
  let now := DateTime.addSeconds 0 seconds
  [.resolve now sampleWindows true "key",
    .save 0 60 ⟨now, now, now⟩ (some requestId) sampleSave,
    .remember 0 now 120 [("summary", .str "disk full")]]

def repeatedAlert : List PipelineEvent :=
  attemptAt 0 "req-1" ++ attemptAt 50 "req-2" ++ attemptAt 70 "req-3"

/-- The state names the duplicate that was saved last, and the rechained event follows
it. -/
theorem rechained_event_follows_duplicate :
    ¬ ∀ (env : SaveEnvironment) (events : List PipelineEvent),
      LinksFlat (GuardedRuns.run (step env) .initial events).events := by
  intro everFlat
  have flat := everFlat ⟨.plain, 60, fun _ _ _ => "hash"⟩ repeatedAlert
  obtain ⟨previous, member, sameId, isOriginal⟩ :=
    (flat (List.get _ ⟨2, by decide⟩) (List.get_mem _ _)).2 2 (by decide)
  revert previous
  decide

/-- Up to the second event, the links are flat. -/
theorem links_flat_repeated :
    LinksFlat (GuardedRuns.run (step ⟨.plain, 60, fun _ _ _ => "hash"⟩) .initial
      (attemptAt 0 "req-1" ++ attemptAt 50 "req-2")).events :=
  links_flat ⟨.plain, 60, fun _ _ _ => "hash"⟩ (attemptAt 0 "req-1" ++ attemptAt 50 "req-2")
    (by decide)

end WebhookLinks

end WebhookWise
