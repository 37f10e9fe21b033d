import WebhookWise.WebhookIngest

/-!
# Duplicate checks at commit time

A save takes the advisory lock of its alert identity, looks once more for an earlier event of it,
and writes the event as a duplicate of that one or as an original.  `Saved` says it once: one event
is written, and the links of every other event stay.
-/

namespace WebhookWise

open SqlTable

namespace WebhookIngest

def presentText (text : Option String) : Option String :=
  text.filter fun characters => characters ≠ ""

/-! ## Looking for duplicates -/

/-- `ORDER BY timestamp DESC, id DESC`. -/
def NewerFirst (first second : WebhookEvent) : Prop :=
  second.timestamp < first.timestamp ∨ second.timestamp = first.timestamp ∧ second.id ≤ first.id

instance : DecidableRel NewerFirst :=
  fun _ _ => inferInstanceAs (Decidable (_ ∨ _ ∧ _))

def windowStart (now : DateTime) (windowSeconds : Int) : DateTime :=
  now.addSeconds (-max 1 windowSeconds)

/-- The event that a duplicate repeats, if it is still stored; else the event itself. -/
def originalOf (events : EventTable) (event : WebhookEvent) : WebhookEvent :=
  ((if event.isDuplicate then event.duplicateOf else some event.id).bind events.lookup).getD event

section Checks

variable (now : DateTime) (windowSeconds : Int) (events : EventTable)

/-- `check_duplicate_event`: the original of the newest recent event of an alert hash.
Older originals of the hash are not looked at by any caller. -/
def checkDuplicateEvent (alertHash : String) (excluded : Option Nat) : Option WebhookEvent :=
  (events.selectFirst NewerFirst fun row =>
    row.alertHash = some alertHash && windowStart now windowSeconds ≤ row.timestamp &&
      excluded ≠ some row.id).map (originalOf events)

/-- `check_duplicate_event_by_dedup_key`.  A rechain only gives way to a recent original. -/
def checkDuplicateEventByDedupKey (dedupKey : String) (excluded rechainPrevious : Option Nat) :
    Option WebhookEvent :=
  if rechainPrevious.isSome then
    events.selectFirst NewerFirst fun row =>
      row.dedupKey = some dedupKey && !row.isDuplicate &&
        windowStart now windowSeconds ≤ row.timestamp
  else
    (events.selectFirst NewerFirst fun row =>
      row.dedupKey = some dedupKey && windowStart now windowSeconds ≤ row.timestamp &&
        excluded ≠ some row.id).map (originalOf events)

end Checks

/-! ## Saves -/

/-- What the caller of a save has resolved about its event. -/
structure DuplicateVerdict where
  isDuplicate : Option Bool
  originalEventId : Option Nat
  skipDuplicateLookup : Bool

/-- A call of `save_webhook_data_in_session`. -/
structure SaveRequest where
  requestId : Option String
  payload : SaveWebhookInput
  verdict : DuplicateVerdict

structure SaveWebhookResult where
  webhookId : Nat
  isDuplicate : Bool
  originalId : Option Nat
deriving DecidableEq

/-- The clock readings of a save: when it looks for duplicates, when it fills the event,
and when its transaction commits. -/
structure SaveTimes where
  checkedAt : DateTime
  filledAt : DateTime
  committedAt : DateTime

/-- The row of a request, `if request_id:`. -/
def findByRequestId (events : EventTable) (requestId : Option String) : Option WebhookEvent :=
  if (presentText requestId).isSome then
    events.rows.find? fun row => row.requestId = requestId
  else none

/-- The settings and functions that a save asks for. -/
structure SaveEnvironment where
  python : PythonRuntime
  /-- `DEDUP_WINDOW_SECONDS`. -/
  windowSeconds : Int
  /-- `generate_alert_hash` of the data, the source and the source connection. -/
  generateAlertHash : JsonObject → String → Option Nat → String

variable (env : SaveEnvironment)

/-- `generate_alert_hash` for a payload. -/
def SaveEnvironment.alertHashOf (payload : SaveWebhookInput) : String :=
  env.generateAlertHash payload.data payload.source payload.sourceConnectionId

/-- `input.alert_hash or generate_alert_hash(…)`. -/
def SaveEnvironment.prepared (payload : SaveWebhookInput) : SaveWebhookInput :=
  { payload with
    alertHash := some ((presentText payload.alertHash).getD (env.alertHashOf payload)) }

def duplicateStatus (original : Option WebhookEvent) : DuplicateStatus :=
  ⟨original.isSome, original.map WebhookEvent.id⟩

/-- `_resolve_duplicate_status`, where the alert identity has not decided. -/
def resolveByAlertHash (now : DateTime) (payload : SaveWebhookInput) (verdict : DuplicateVerdict)
    (existing : Option Nat) (events : EventTable) : DuplicateStatus :=
  match presentText payload.alertHash with
  | some alertHash =>
      match checkDuplicateEvent now env.windowSeconds events alertHash existing with
      | some original => ⟨true, some original.id⟩
      | none =>
          if verdict.isDuplicate = some true ∧ verdict.originalEventId.isSome then
            ⟨true, verdict.originalEventId⟩
          else ⟨false, none⟩
  | none =>
      if verdict.isDuplicate.isSome ∨ verdict.skipDuplicateLookup ∨ existing.isSome then
        ⟨verdict.isDuplicate.getD false, verdict.originalEventId⟩
      else
        duplicateStatus (checkDuplicateEvent now (max 1 (env.windowSeconds / 3600) * 3600) events
          (env.alertHashOf payload) none)

def resolveDuplicateStatus (now : DateTime) (payload : SaveWebhookInput)
    (verdict : DuplicateVerdict) (existing : Option Nat) (events : EventTable) :
    DuplicateStatus :=
  match presentText payload.dedupKey with
  | some dedupKey =>
      match checkDuplicateEventByDedupKey now env.windowSeconds events dedupKey existing
        payload.prevAlertId with
      | some original => ⟨true, some original.id⟩
      | none =>
          if payload.prevAlertId.isSome then ⟨false, none⟩
          else resolveByAlertHash env now payload verdict existing events
  | none => resolveByAlertHash env now payload verdict existing events

def repeatedEvent (status : DuplicateStatus) (events : EventTable) : Option WebhookEvent :=
  (if status.isDuplicate then status.originalEventId else none).bind events.lookup

/-- `save_webhook_data_in_session`; `none` where the database refuses the event. -/
def saveWebhookDataInSession (times : SaveTimes) (request : SaveRequest) (events : EventTable) :
    Option (EventTable × SaveWebhookResult) :=
  let payload := env.prepared request.payload
  let existing := findByRequestId events request.requestId
  match existing.filter fun row => row.processingStatus = .completed with
  | some row => some (events, ⟨row.id, row.isDuplicate, row.duplicateOf⟩)
  | none =>
      let status := resolveDuplicateStatus env times.checkedAt payload request.verdict
        (existing.map WebhookEvent.id) events
      let original := repeatedEvent status events
      (saveEvent env.python times.filledAt request.requestId payload status existing events).map
        fun saved =>
          (saved, ⟨(existing.map WebhookEvent.id).getD events.nextKey, original.isSome,
            original.map WebhookEvent.id⟩)

/-! ## What a save leaves -/

variable {original row : WebhookEvent} {reanalyzed : Bool} {now : DateTime} {moved : WebhookEvent}
  {data : WebhookEventInput} {windowSeconds : Int}

/-- A row of which at most the count of duplicates has changed, and the analysis if the
event was analysed again. -/
def SameLinks (reanalyzed : Bool) (row moved : WebhookEvent) : Prop :=
  moved = { row with
    aiAnalysis := if reanalyzed then moved.aiAnalysis else row.aiAnalysis
    importance := if reanalyzed then moved.importance else row.importance
    duplicateCount := moved.duplicateCount
    updatedAt := moved.updatedAt }

theorem SameLinks.refl (reanalyzed : Bool) (row : WebhookEvent) : SameLinks reanalyzed row row := by
  cases reanalyzed <;> rfl

theorem SameLinks.weaken (same : SameLinks reanalyzed row moved) : SameLinks true row moved := by
  cases reanalyzed with
  | true => exact same
  | false =>
      rw [same]
      rfl

theorem SameLinks.timestamp_eq (same : SameLinks reanalyzed row moved) :
    moved.timestamp = row.timestamp := by
  rw [same]

theorem SameLinks.isDuplicate_eq (same : SameLinks reanalyzed row moved) :
    moved.isDuplicate = row.isDuplicate := by
  rw [same]

theorem SameLinks.aiAnalysis_eq (same : SameLinks false row moved) :
    moved.aiAnalysis = row.aiAnalysis := by
  rw [same]
  rfl

theorem sameLinks_withDuplicate (now : DateTime) (payload : SaveWebhookInput)
    (original : WebhookEvent) :
    SameLinks payload.reanalyzed original (withDuplicate now payload original) := by
  unfold withDuplicate
  simp only
  split
  · cases payload.reanalyzed with
    | true => split <;> rfl
    | false => rfl
  · cases payload.reanalyzed <;> rfl

/-- A later table with rows under the same ids, linked as they were. -/
structure SameTable (reanalyzed : Bool) (events after : EventTable) : Prop where
  nextKey : after.nextKey = events.nextKey
  origin : ∀ row ∈ after.rows, ∃ old ∈ events.rows, old.id = row.id ∧
    SameLinks reanalyzed old row
  kept : ∀ old ∈ events.rows, ∃ row ∈ after.rows, row.id = old.id ∧
    SameLinks reanalyzed old row

/-- One event is written which was not completed before, and all others are linked as
they were. -/
structure Saved (reanalyzed : Bool) (events after : EventTable) (written : WebhookEvent) :
    Prop where
  stored : written ∈ after.rows
  unfinished : ∀ row ∈ events.rows, row.id = written.id → row.processingStatus ≠ .completed
  others : ∀ row ∈ after.rows, row.id ≠ written.id →
    ∃ old ∈ events.rows, old.id = row.id ∧ SameLinks reanalyzed old row
  kept : ∀ old ∈ events.rows, old.id ≠ written.id →
    ∃ row ∈ after.rows, row.id = old.id ∧ SameLinks reanalyzed old row

variable (same : SameTable reanalyzed events counted)

def writtenEvent (now : DateTime) (data : WebhookEventInput) (loaded : Option WebhookEvent)
    (events : EventTable) : WebhookEvent :=
  match loaded with
  | some loaded => filled loaded.id loaded.timestamp (some now) data
  | none => filled events.nextKey now (some now) data

section Writes

variable {reanalyzed : Bool} {events counted after : EventTable} {now : DateTime}
  {data : WebhookEventInput}

theorem SameTable.refl (events : EventTable) : SameTable reanalyzed events events where
  nextKey := rfl
  origin row member := ⟨row, member, rfl, .refl reanalyzed row⟩
  kept row member := ⟨row, member, rfl, .refl reanalyzed row⟩

theorem sameTable_withDuplicate (payload : SaveWebhookInput) (original : WebhookEvent) :
    SameTable payload.reanalyzed events (events.update (fun row => row.id = original.id)
      (withDuplicate now payload) (withDuplicate_id now payload)) where
  nextKey := rfl
  origin row member := by
    obtain ⟨old, oldMember, rfl⟩ := Table.mem_update.1 member
    refine ⟨old, oldMember, ?_⟩
    split
    · exact ⟨(withDuplicate_id now payload old).symm, sameLinks_withDuplicate now payload old⟩
    · exact ⟨rfl, .refl payload.reanalyzed old⟩
  kept old member := by
    refine ⟨_, Table.mem_update.2 ⟨old, member, rfl⟩, ?_⟩
    split
    · exact ⟨withDuplicate_id now payload old, sameLinks_withDuplicate now payload old⟩
    · exact ⟨rfl, .refl payload.reanalyzed old⟩

theorem flushed_of_sameLinks {loaded current : WebhookEvent}
    (same : SameLinks reanalyzed loaded current) :
    flushed now data loaded current = filled loaded.id loaded.timestamp (some now) data := by
  have column {Value : Type} [DecidableEq Value] (written loaded : Value) :
      flushColumn loaded written loaded = written := by
    unfold flushColumn
    split
    · exact Eq.symm ‹_›
    · rfl
  rw [same]
  simp only [flushed, column]

theorem saved_insertEvent (same : SameTable reanalyzed events counted)
    (inserted : insertEvent now data counted = some after) :
    Saved reanalyzed events after (writtenEvent now data none events) := by
  unfold insertEvent at inserted
  split at inserted
  · contradiction
  · obtain rfl := Option.some.inj inserted
    have fresh : writtenEvent now data none events =
        filled counted.nextKey now (some now) data := by
      rw [same.nextKey]
      rfl
    rw [fresh]
    refine ⟨Table.mem_insert.2 (Or.inr rfl), ?_, ?_, ?_⟩
    · intro row member sameId
      have below := events.keys_lt row member
      rw [sameId, ← same.nextKey] at below
      exact absurd below (lt_irrefl _)
    · intro row member other
      rcases Table.mem_insert.1 member with old | rfl
      · exact same.origin row old
      · exact absurd rfl other
    · intro old member _
      obtain ⟨row, rowMember, linked⟩ := same.kept old member
      exact ⟨row, Table.mem_insert.2 (Or.inl rowMember), linked⟩

theorem saved_flush (same : SameTable reanalyzed events counted) {loaded : WebhookEvent}
    (member : loaded ∈ events.rows) (unfinished : loaded.processingStatus ≠ .completed) :
    Saved reanalyzed events (counted.update (fun row => row.id = loaded.id) (flushed now data loaded)
      fun _ => rfl) (writtenEvent now data (some loaded) events) where
  stored := by
    obtain ⟨row, rowMember, sameId, linked⟩ := same.kept loaded member
    refine Table.mem_update.2 ⟨row, rowMember, ?_⟩
    rw [if_pos (decide_eq_true sameId)]
    exact flushed_of_sameLinks linked
  unfinished := by
    intro row rowMember sameId
    rw [Table.eq_of_key_eq rowMember member sameId]
    exact unfinished
  others := by
    intro row rowMember other
    obtain ⟨moved, movedMember, rfl⟩ := Table.mem_update.1 rowMember
    split at other
    · rename_i isLoaded
      exact absurd (of_decide_eq_true isLoaded) other
    · rename_i notLoaded
      rw [if_neg notLoaded]
      exact same.origin moved movedMember
  kept := by
    intro old oldMember other
    obtain ⟨row, rowMember, sameId, linked⟩ := same.kept old oldMember
    refine ⟨row, Table.mem_update.2 ⟨row, rowMember, ?_⟩, sameId, linked⟩
    rw [if_neg]
    simp only [decide_eq_true_eq, sameId]
    exact other

theorem saved_writeEvent (same : SameTable reanalyzed events counted) {loaded : Option WebhookEvent}
    (unfinished : ∀ row ∈ loaded, row ∈ events.rows ∧ row.processingStatus ≠ .completed)
    (written : writeEvent now data loaded counted = some after) :
    Saved reanalyzed events after (writtenEvent now data loaded events) := by
  cases loaded with
  | none => exact saved_insertEvent same written
  | some loaded =>
      obtain rfl := Option.some.inj written
      obtain ⟨member, notCompleted⟩ := unfinished loaded rfl
      exact saved_flush same member notCompleted

end Writes

section Saves

variable (env : SaveEnvironment) (times : SaveTimes) (request : SaveRequest) (events : EventTable)

/-- The row a request is already recorded in. -/
def existingEvent : Option WebhookEvent :=
  findByRequestId events request.requestId

def alreadyCompleted : Bool :=
  (existingEvent request events).any fun row => row.processingStatus = .completed

def savedStatus : DuplicateStatus :=
  resolveDuplicateStatus env times.checkedAt (env.prepared request.payload) request.verdict
    ((existingEvent request events).map WebhookEvent.id) events

def savedInput (status : DuplicateStatus) : WebhookEventInput :=
  match repeatedEvent status events with
  | some original =>
      duplicateInput env.python request.requestId (env.prepared request.payload) original
  | none => completedInput env.python request.requestId (env.prepared request.payload)

def savedEvent : WebhookEvent :=
  writtenEvent times.filledAt (savedInput env request events (savedStatus env times request events))
    (existingEvent request events) events

variable {env times request events} {after : EventTable} {result : SaveWebhookResult}

theorem existingEvent_spec (found : existingEvent request events = some row) :
    row ∈ events.rows ∧ row.requestId = request.requestId := by
  unfold existingEvent findByRequestId at found
  split at found
  · exact ⟨List.mem_of_find?_eq_some found, by simpa using List.find?_some found⟩
  · contradiction

theorem saved_saveEvent {status : DuplicateStatus} {loaded : Option WebhookEvent}
    (unfinished : ∀ row ∈ loaded, row ∈ events.rows ∧ row.processingStatus ≠ .completed)
    (written : saveEvent env.python now request.requestId (env.prepared request.payload) status
      loaded events = some after) :
    Saved request.payload.reanalyzed events after
      (writtenEvent now (savedInput env request events status) loaded events) := by
  unfold saveEvent at written
  unfold savedInput
  change (match repeatedEvent status events with
    | some original => _
    | none => _) = some after at written
  cases repeated : repeatedEvent status events with
  | some original =>
      rw [repeated] at written
      exact saved_writeEvent (sameTable_withDuplicate _ _) unfinished written
  | none =>
      rw [repeated] at written
      exact saved_writeEvent (SameTable.refl events) unfinished written

theorem savedEvent_id : (savedEvent env times request events).id =
    ((existingEvent request events).map WebhookEvent.id).getD events.nextKey := by
  unfold savedEvent
  cases existingEvent request events <;> rfl

theorem savedEvent_isDuplicate : (savedEvent env times request events).isDuplicate =
    (repeatedEvent (savedStatus env times request events) events).isSome := by
  unfold savedEvent savedInput
  cases existingEvent request events <;>
    cases repeatedEvent (savedStatus env times request events) events <;> rfl

theorem savedEvent_duplicateOf : (savedEvent env times request events).duplicateOf =
    (repeatedEvent (savedStatus env times request events) events).map WebhookEvent.id := by
  unfold savedEvent savedInput
  cases existingEvent request events <;>
    cases repeatedEvent (savedStatus env times request events) events <;> rfl

theorem savedEvent_prevAlertId : (savedEvent env times request events).prevAlertId =
    if (repeatedEvent (savedStatus env times request events) events).isSome then none
    else request.payload.prevAlertId := by
  unfold savedEvent savedInput
  cases existingEvent request events <;>
    cases repeatedEvent (savedStatus env times request events) events <;> rfl

theorem savedEvent_dedupKey :
    (savedEvent env times request events).dedupKey = request.payload.dedupKey := by
  unfold savedEvent savedInput
  cases existingEvent request events <;>
    cases repeatedEvent (savedStatus env times request events) events <;> rfl

theorem savedEvent_requestId :
    (savedEvent env times request events).requestId = request.requestId := by
  unfold savedEvent savedInput
  cases existingEvent request events <;>
    cases repeatedEvent (savedStatus env times request events) events <;> rfl

theorem savedEvent_timestamp : (savedEvent env times request events).timestamp =
    ((existingEvent request events).map WebhookEvent.timestamp).getD times.filledAt := by
  unfold savedEvent savedInput
  cases existingEvent request events <;>
    cases repeatedEvent (savedStatus env times request events) events <;> rfl

theorem savedEvent_aiAnalysis
    (isOriginal : (savedEvent env times request events).isDuplicate = false) :
    (savedEvent env times request events).aiAnalysis = request.payload.aiAnalysis := by
  rw [savedEvent_isDuplicate, Option.isSome_eq_false_iff, Option.isNone_iff_eq_none] at isOriginal
  unfold savedEvent savedInput
  rw [isOriginal]
  cases existingEvent request events <;> rfl

theorem savedEvent_processingStatus :
    (savedEvent env times request events).processingStatus = .completed := by
  unfold savedEvent savedInput
  cases existingEvent request events <;>
    cases repeatedEvent (savedStatus env times request events) events <;> rfl

theorem saveWebhookDataInSession_spec
    (saved : saveWebhookDataInSession env times request events = some (after, result)) :
    (after = events ∧ ∃ row, existingEvent request events = some row ∧
      row.processingStatus = .completed ∧
      result = ⟨row.id, row.isDuplicate, row.duplicateOf⟩) ∨
    (Saved request.payload.reanalyzed events after (savedEvent env times request events) ∧
      result = ⟨(savedEvent env times request events).id,
        (savedEvent env times request events).isDuplicate,
        (savedEvent env times request events).duplicateOf⟩) := by
  unfold saveWebhookDataInSession at saved
  simp only at saved
  split at saved
  · rename_i row found
    obtain ⟨foundRow, completed⟩ := Option.filter_eq_some_iff.1 found
    obtain ⟨rfl, rfl⟩ := Prod.mk.inj (Option.some.inj saved)
    exact Or.inl ⟨rfl, row, foundRow, of_decide_eq_true completed, rfl⟩
  · rename_i notCompleted
    obtain ⟨written, writtenEq, same⟩ := Option.map_eq_some_iff.1 saved
    obtain ⟨rfl, rfl⟩ := Prod.mk.inj same
    have unfinished : ∀ row ∈ existingEvent request events,
        row ∈ events.rows ∧ row.processingStatus ≠ .completed := by
      intro row found
      refine ⟨(existingEvent_spec found).1, ?_⟩
      intro completed
      rw [Option.filter_eq_none_iff] at notCompleted
      exact notCompleted row found (decide_eq_true completed)
    refine Or.inr ⟨saved_saveEvent unfinished writtenEq, ?_⟩
    rw [savedEvent_id, savedEvent_isDuplicate, savedEvent_duplicateOf]
    rfl

theorem requestIdTaken_of_sameTable {counted : EventTable}
    (same : SameTable reanalyzed events counted) {requestId : Option String}
    (taken : requestIdTaken counted requestId = true) : requestIdTaken events requestId = true := by
  unfold requestIdTaken at taken ⊢
  rw [Bool.and_eq_true, List.any_eq_true] at taken ⊢
  obtain ⟨row, member, sameId⟩ := taken.2
  obtain ⟨old, oldMember, _, linked⟩ := same.origin row member
  refine ⟨taken.1, old, oldMember, ?_⟩
  rw [congrArg WebhookEvent.requestId linked] at sameId
  exact sameId

theorem isSome_insertEvent (named : request.requestId ≠ some "")
    (absent : existingEvent request events = none) {counted : EventTable}
    (same : SameTable reanalyzed events counted) (ofRequest : data.requestId = request.requestId) :
    (insertEvent now data counted).isSome = true := by
  unfold insertEvent
  split
  · rename_i taken
    rw [ofRequest] at taken
    have takenBefore := requestIdTaken_of_sameTable same taken
    unfold requestIdTaken at takenBefore
    rw [Bool.and_eq_true, List.any_eq_true] at takenBefore
    obtain ⟨isId, row, member, sameId⟩ := takenBefore
    obtain ⟨requestId, isRequestId⟩ := Option.isSome_iff_exists.1 isId
    have present : (presentText request.requestId).isSome = true := by
      rw [isRequestId] at named ⊢
      have nonempty : requestId ≠ "" := fun empty => named (by rw [empty])
      simp [presentText, nonempty]
    unfold existingEvent findByRequestId at absent
    rw [if_pos present, List.find?_eq_none] at absent
    exact absurd sameId (absent row member)
  · rfl

theorem exists_saveWebhookDataInSession (env : SaveEnvironment) (times : SaveTimes)
    (events : EventTable) (named : request.requestId ≠ some "") :
    ∃ saved, saveWebhookDataInSession env times request events = some saved := by
  unfold saveWebhookDataInSession
  simp only
  split
  · exact ⟨_, rfl⟩
  · rw [← Option.isSome_iff_exists, Option.isSome_map]
    unfold saveEvent
    cases isExisting : findByRequestId events request.requestId with
    | some existing => split <;> rfl
    | none =>
        split
        · exact isSome_insertEvent named isExisting (sameTable_withDuplicate _ _) rfl
        · exact isSome_insertEvent named isExisting (@SameTable.refl true events) rfl

theorem alreadyCompleted_eq_false
    (saved : Saved reanalyzed events after (savedEvent env times request events)) :
    alreadyCompleted request events = false := by
  unfold alreadyCompleted
  cases isExisting : existingEvent request events with
  | none => rfl
  | some row =>
      have sameId : row.id = (savedEvent env times request events).id := by
        rw [savedEvent_id, isExisting]
        rfl
      have unfinished := saved.unfinished row (existingEvent_spec isExisting).1 sameId
      simpa using unfinished

/-- The completed events are still there, linked as they were. -/
def KeepsCompleted (events after : EventTable) : Prop :=
  ∀ old ∈ events.rows, old.processingStatus = .completed →
    ∃ row ∈ after.rows, row.id = old.id ∧ SameLinks true old row

theorem KeepsCompleted.refl (events : EventTable) : KeepsCompleted events events :=
  fun old member _ => ⟨old, member, rfl, .refl true old⟩

theorem Saved.keepsCompleted {written : WebhookEvent}
    (saved : Saved reanalyzed events after written) : KeepsCompleted events after := by
  intro old member completed
  have other : old.id ≠ written.id := by
    intro sameId
    exact saved.unfinished old member sameId completed
  obtain ⟨row, rowMember, sameId, linked⟩ := saved.kept old member other
  exact ⟨row, rowMember, sameId, linked.weaken⟩

theorem mem_insertEvent (member : row ∈ ((insertEvent now data events).getD events).rows) :
    row ∈ events.rows ∨ row = filled events.nextKey now (some now) data := by
  unfold insertEvent at member
  split at member
  · exact Or.inl member
  · rw [Option.getD_some] at member
    exact Table.mem_insert.1 member

theorem keepsCompleted_insertEvent :
    KeepsCompleted events ((insertEvent now data events).getD events) := by
  intro old member _
  unfold insertEvent
  split
  · exact ⟨old, member, rfl, .refl true old⟩
  · refine ⟨old, ?_, rfl, .refl true old⟩
    rw [Option.getD_some]
    exact Table.mem_insert.2 (Or.inl member)

theorem keepsCompleted_updateExistingRetry {nextRetryAt : DateTime} {delivery : Delivery}
    {failure : Failure} :
    KeepsCompleted events (updateExistingRetry now delivery failure nextRetryAt events) := by
  intro old member completed
  refine ⟨old, Table.mem_update.2 ⟨old, member, ?_⟩, rfl, .refl true old⟩
  simp [completed]

theorem keepsCompleted_save
    (saved : saveWebhookDataInSession env times request events = some (after, result)) :
    KeepsCompleted events after := by
  rcases saveWebhookDataInSession_spec saved with ⟨rfl, _⟩ | ⟨written, _⟩
  · exact KeepsCompleted.refl _
  · exact written.keepsCompleted

/-! ## What the duplicate checks find -/

theorem originalOf_mem {event : WebhookEvent} (member : event ∈ events.rows) :
    originalOf events event ∈ events.rows := by
  unfold originalOf
  cases found : (if event.isDuplicate then event.duplicateOf else some event.id).bind
      events.lookup with
  | none => exact member
  | some original =>
      obtain ⟨_, _, isOriginal⟩ := Option.bind_eq_some_iff.1 found
      exact (Table.lookup_eq_some_iff.1 isOriginal).1

theorem checkDuplicateEventByDedupKey_mem {dedupKey : String}
    {excluded rechainPrevious : Option Nat}
    (found : checkDuplicateEventByDedupKey now windowSeconds events dedupKey excluded
      rechainPrevious = some original) : original ∈ events.rows := by
  unfold checkDuplicateEventByDedupKey at found
  split at found
  · exact (Table.selectFirst_spec found).1
  · obtain ⟨latest, isLatest, rfl⟩ := Option.map_eq_some_iff.1 found
    exact originalOf_mem (Table.selectFirst_spec isLatest).1

theorem exists_checkDuplicateEventByDedupKey {dedupKey : String}
    {excluded rechainPrevious : Option Nat} (member : row ∈ events.rows)
    (sameKey : row.dedupKey = some dedupKey) (isOriginal : row.isDuplicate = false)
    (isRecent : windowStart now windowSeconds ≤ row.timestamp) (other : excluded ≠ some row.id) :
    ∃ original, checkDuplicateEventByDedupKey now windowSeconds events dedupKey excluded
      rechainPrevious = some original := by
  unfold checkDuplicateEventByDedupKey
  split
  · exact Table.exists_selectFirst member (by simp [sameKey, isOriginal, isRecent])
  · obtain ⟨latest, isLatest⟩ : ∃ latest, events.selectFirst NewerFirst (fun row =>
        row.dedupKey = some dedupKey && windowStart now windowSeconds ≤ row.timestamp &&
          excluded ≠ some row.id) = some latest :=
      Table.exists_selectFirst member (by simp [sameKey, isRecent, other])
    exact ⟨originalOf events latest, by rw [isLatest]; rfl⟩

def recheckedOriginal (env : SaveEnvironment) (times : SaveTimes) (request : SaveRequest)
    (events : EventTable) : Option WebhookEvent :=
  (presentText request.payload.dedupKey).bind fun dedupKey =>
    checkDuplicateEventByDedupKey times.checkedAt env.windowSeconds events dedupKey
      ((existingEvent request events).map WebhookEvent.id) request.payload.prevAlertId

theorem repeatedEvent_of_mem (member : original ∈ events.rows) :
    repeatedEvent ⟨true, some original.id⟩ events = some original :=
  Table.mem_rows_iff_lookup.1 member

theorem repeatedEvent_of_rechecked
    (found : recheckedOriginal env times request events = some original) :
    repeatedEvent (savedStatus env times request events) events = some original := by
  obtain ⟨dedupKey, present, checked⟩ := Option.bind_eq_some_iff.1 found
  have status : savedStatus env times request events = ⟨true, some original.id⟩ := by
    unfold savedStatus resolveDuplicateStatus
    change (match presentText request.payload.dedupKey with
      | some dedupKey => _
      | none => _) = _
    rw [present]
    simp only
    rw [show (env.prepared request.payload).prevAlertId = request.payload.prevAlertId from rfl,
      checked]
  rw [status]
  exact repeatedEvent_of_mem (checkDuplicateEventByDedupKey_mem checked)

theorem checkDuplicateEvent_mem {alertHash : String} {excluded : Option Nat}
    (found : checkDuplicateEvent now windowSeconds events alertHash excluded = some original) :
    original ∈ events.rows := by
  obtain ⟨latest, isLatest, rfl⟩ := Option.map_eq_some_iff.1 found
  exact originalOf_mem (Table.selectFirst_spec isLatest).1

def hashedOriginal (env : SaveEnvironment) (times : SaveTimes) (request : SaveRequest)
    (events : EventTable) : Option WebhookEvent :=
  (presentText (env.prepared request.payload).alertHash).bind fun alertHash =>
    checkDuplicateEvent times.checkedAt env.windowSeconds events alertHash
      ((existingEvent request events).map WebhookEvent.id)

theorem repeatedEvent_of_alertHash (decided : request.verdict.isDuplicate.isSome = true)
    (repeated : repeatedEvent (resolveByAlertHash env times.checkedAt
      (env.prepared request.payload) request.verdict
      ((existingEvent request events).map WebhookEvent.id) events) events = some original) :
    hashedOriginal env times request events = some original ∨
      hashedOriginal env times request events = none ∧
        request.verdict.isDuplicate = some true ∧
        request.verdict.originalEventId = some original.id ∧ original ∈ events.rows := by
  have ofVerdict {status : DuplicateStatus} (found : repeatedEvent status events = some original) :
      status.isDuplicate = true ∧ status.originalEventId = some original.id ∧
        original ∈ events.rows := by
    obtain ⟨id, isId, isOriginal⟩ := Option.bind_eq_some_iff.1 found
    obtain ⟨member, rfl⟩ := Table.lookup_eq_some_iff.1 isOriginal
    split at isId
    · exact ⟨‹_›, isId, member⟩
    · contradiction
  unfold resolveByAlertHash at repeated
  unfold hashedOriginal
  cases hashed : presentText (env.prepared request.payload).alertHash with
  | some alertHash =>
      rw [hashed] at repeated
      simp only [Option.bind_some] at repeated ⊢
      cases checked : checkDuplicateEvent times.checkedAt env.windowSeconds events alertHash
          ((existingEvent request events).map WebhookEvent.id) with
      | some found =>
          rw [checked] at repeated
          rw [repeatedEvent_of_mem (checkDuplicateEvent_mem checked)] at repeated
          exact Or.inl repeated
      | none =>
          simp only [checked] at repeated
          by_cases byCaller : request.verdict.isDuplicate = some true ∧
              request.verdict.originalEventId.isSome = true
          · rw [if_pos byCaller] at repeated
            obtain ⟨_, isId, member⟩ := ofVerdict repeated
            exact Or.inr ⟨rfl, byCaller.1, isId, member⟩
          · rw [if_neg byCaller] at repeated
            exact absurd (ofVerdict repeated).1 Bool.false_ne_true
  | none =>
      rw [hashed] at repeated
      simp only [Option.bind_none, decided, true_or, if_true] at repeated ⊢
      obtain ⟨isDuplicate, isId, member⟩ := ofVerdict repeated
      obtain ⟨verdict, isVerdict⟩ := Option.isSome_iff_exists.1 decided
      simp only [isVerdict, Option.getD_some] at isDuplicate
      exact Or.inr ⟨trivial, by rw [isVerdict, isDuplicate], isId, member⟩

theorem repeatedEvent_cases (decided : request.verdict.isDuplicate.isSome = true)
    (repeated : repeatedEvent (savedStatus env times request events) events = some original) :
    recheckedOriginal env times request events = some original ∨
      hashedOriginal env times request events = some original ∨
      recheckedOriginal env times request events = none ∧
        hashedOriginal env times request events = none ∧
        request.verdict.isDuplicate = some true ∧
        request.verdict.originalEventId = some original.id ∧ original ∈ events.rows := by
  cases rechecked : recheckedOriginal env times request events with
  | some found =>
      rw [repeatedEvent_of_rechecked rechecked] at repeated
      exact Or.inl repeated
  | none =>
      have byAlertHash : repeatedEvent (resolveByAlertHash env times.checkedAt
          (env.prepared request.payload) request.verdict
          ((existingEvent request events).map WebhookEvent.id) events) events = some original := by
        unfold savedStatus resolveDuplicateStatus at repeated
        unfold recheckedOriginal at rechecked
        rw [show (env.prepared request.payload).dedupKey = request.payload.dedupKey from rfl,
          show (env.prepared request.payload).prevAlertId = request.payload.prevAlertId from rfl]
          at repeated
        cases present : presentText request.payload.dedupKey with
        | none =>
            rw [present] at repeated
            exact repeated
        | some dedupKey =>
            rw [present, Option.bind_some] at rechecked
            rw [present] at repeated
            simp only [rechecked] at repeated
            split at repeated
            · contradiction
            · exact repeated
      rcases repeatedEvent_of_alertHash decided byAlertHash with hashed | byCaller
      · exact Or.inr (Or.inl hashed)
      · exact Or.inr (Or.inr ⟨rfl, byCaller⟩)

end Saves

end WebhookIngest

end WebhookWise
