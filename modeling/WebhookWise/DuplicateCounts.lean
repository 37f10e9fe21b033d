import WebhookWise.GuardedRuns
import WebhookWise.WebhookOriginals

/-!
# Counting the duplicates of an alert

An original starts with a count of one, and every duplicate that is saved adds one.  Nothing takes
one away: a duplicate that is recorded as a dead letter stays in the count, and is counted again
when it is replayed.  Saves of other identities and the recorders of failures do not take the lock
of a save.
-/

namespace WebhookWise

open SqlTable

namespace DuplicateCounts

open WebhookIngest
open WebhookOriginals (minuteWindow sampleRequest savedAt)

/-! ## Saves under way -/

/-- A save between its reads and its commit, with the row of its request and the event it
repeats as it has read them. -/
structure OpenSave where
  times : SaveTimes
  request : SaveRequest
  existing : Option WebhookEvent
  original : Option WebhookEvent

structure CountState where
  events : EventTable
  saves : List OpenSave

def CountState.initial : CountState :=
  ⟨.empty, []⟩

/-- A transaction of the recorders, or the lease of a retry scan. -/
inductive Recording where
  | insertRetry (now : DateTime) (delivery : Delivery) (failure : Failure) (nextRetryAt : DateTime)
  | updateRetry (now : DateTime) (delivery : Delivery) (failure : Failure) (nextRetryAt : DateTime)
  | insertDeadLetter (now : DateTime) (delivery : Delivery) (failure : Failure)
  | updateDeadLetter (now : DateTime) (delivery : Delivery) (failure : Failure)
  | lease (scan : RetryScan) (id : Nat)

/-- A replay of a failed row is a save under its request id. -/
inductive CountEvent where
  | read (times : SaveTimes) (request : SaveRequest)
  | commit (index : Nat)
  | rollback (index : Nat)
  | record (recording : Recording)

variable (env : SaveEnvironment)

/-- `payload.dedup_key or payload.alert_hash`. -/
def lockIdentity (request : SaveRequest) : Option String :=
  (presentText request.payload.dedupKey).or (presentText (env.prepared request.payload).alertHash)

def locked (saves : List OpenSave) (request : SaveRequest) : Bool :=
  (lockIdentity env request).isSome &&
    saves.any fun save => lockIdentity env save.request = lockIdentity env request

def openSave (times : SaveTimes) (request : SaveRequest) (events : EventTable) : OpenSave where
  times := times
  request := request
  existing := existingEvent request events
  original := repeatedEvent (savedStatus env times request events) events

/-- The original takes over the analysis of its duplicate. -/
def reanalyzes (payload : SaveWebhookInput) (loaded : WebhookEvent) : Bool :=
  (presentAnalysis payload.aiAnalysis).isSome && payload.reanalyzed &&
    !((presentAnalysis loaded.aiAnalysis).getD []).truthyAt "summary"

/-- The flush of the original: the count is one more than the save has read. -/
def recounted (now : DateTime) (payload : SaveWebhookInput) (loaded current : WebhookEvent) :
    WebhookEvent :=
  let counted := withDuplicate now payload loaded
  { current with
    duplicateCount := counted.duplicateCount
    updatedAt := counted.updatedAt
    aiAnalysis := if reanalyzes payload loaded then counted.aiAnalysis else current.aiAnalysis
    importance := if reanalyzes payload loaded then counted.importance else current.importance }

/-- The flush of the row of the request, which another save may have written since it was
read. -/
def reflushed (now : DateTime) (data : WebhookEventInput) (loaded current : WebhookEvent) :
    WebhookEvent :=
  { flushed now data loaded current with
    isDuplicate := flushColumn loaded.isDuplicate data.isDuplicate current.isDuplicate
    duplicateOf := flushColumn loaded.duplicateOf data.duplicateOf current.duplicateOf
    duplicateCount := flushColumn loaded.duplicateCount data.duplicateCount current.duplicateCount }

namespace OpenSave

variable (save : OpenSave)

def input : WebhookEventInput :=
  let payload := env.prepared save.request.payload
  match save.original with
  | some original => duplicateInput env.python save.request.requestId payload original
  | none => completedInput env.python save.request.requestId payload

def counted (events : EventTable) : EventTable :=
  match save.original with
  | some original =>
      events.update (fun row => row.id = original.id)
        (recounted save.times.filledAt (env.prepared save.request.payload) original) fun _ => rfl
  | none => events

/-- `_save_duplicate_event`, `_update_existing_event` or `_save_new_event`, with the commit;
`none` where the database refuses the event. -/
def commit (events : EventTable) : Option EventTable :=
  match save.existing with
  | some existing =>
      some ((save.counted env events).update (fun row => row.id = existing.id)
        (reflushed save.times.filledAt (save.input env) existing) fun _ => rfl)
  | none => insertEvent save.times.filledAt (save.input env) (save.counted env events)

end OpenSave

def record (events : EventTable) : Recording → EventTable
  | .insertRetry now delivery failure nextRetryAt =>
      (insertEvent now (retryInput env.python delivery failure nextRetryAt) events).getD events
  | .updateRetry now delivery failure nextRetryAt =>
      if delivery.hasRequestId then updateExistingRetry now delivery failure nextRetryAt events
      else events
  | .insertDeadLetter now delivery failure =>
      (insertEvent now (deadLetterInput env.python delivery failure) events).getD events
  | .updateDeadLetter now delivery failure =>
      if delivery.hasRequestId then updateExistingDeadLetter now delivery failure events
      else events
  | .lease scan id => leaseRetry scan id events

def step (state : CountState) : CountEvent → CountState
  | .read times request =>
      -- A completed row is the result of the save, and a locked identity makes it wait.
      if alreadyCompleted request state.events || locked env state.saves request then state
      else { state with saves := state.saves ++ [openSave env times request state.events] }
  | .commit index =>
      match state.saves[index]? with
      | some save =>
          ⟨(save.commit env state.events).getD state.events, state.saves.eraseIdx index⟩
      | none => state
  | .rollback index => { state with saves := state.saves.eraseIdx index }
  | .record recording => { state with events := record env state.events recording }

/-! ## Exact counts -/

def repeats (id : Nat) (row : WebhookEvent) : Bool :=
  row.processingStatus = .completed && row.duplicateOf = some id

/-- The number of completed events whose `duplicate_of` is this id. -/
def completedDuplicates (events : EventTable) (id : Nat) : Nat :=
  events.rows.countP (repeats id)

def IsCompletedOriginal (row : WebhookEvent) : Prop :=
  row.processingStatus = .completed ∧ row.isDuplicate = false

/-- Every completed original counts itself and its completed duplicates. -/
def CountsExact (events : EventTable) : Prop :=
  ∀ row ∈ events.rows, IsCompletedOriginal row →
    row.duplicateCount = 1 + completedDuplicates events row.id

/-- What a row says about duplicates. -/
def SameCount (row moved : WebhookEvent) : Prop :=
  (moved.processingStatus = .completed ↔ row.processingStatus = .completed) ∧
    moved.isDuplicate = row.isDuplicate ∧ moved.duplicateOf = row.duplicateOf ∧
      moved.duplicateCount = row.duplicateCount

/-- No other save has written what a save that commits has read: the links and the count of the
row of its request, and the count of the event it repeats. -/
def Undisturbed (state : CountState) : CountEvent → Prop
  | .commit index =>
      ∀ save ∈ state.saves[index]?, ∀ row ∈ state.events.rows,
        (∀ loaded ∈ save.existing, row.id = loaded.id → SameCount loaded row) ∧
          ∀ loaded ∈ save.original, row.id = loaded.id → row.duplicateCount = loaded.duplicateCount
  | _ => True

/-- The transaction keeps the counts: a save completes a recorded row as an original only if no
completed event repeats it yet, and a dead letter is not recorded over a completed duplicate of
another event which is a completed original. -/
def KeepsCounts (state : CountState) : CountEvent → Prop
  | .commit index =>
      ∀ save ∈ state.saves[index]?, save.original = none →
        ∀ loaded ∈ save.existing, completedDuplicates state.events loaded.id = 0
  | .record (.updateDeadLetter _ delivery _) =>
      delivery.hasRequestId = true → ∀ original ∈ state.events.rows,
        IsCompletedOriginal original → original.requestId ≠ delivery.requestId →
          ∀ row ∈ state.events.rows, repeats original.id row = true →
            row.requestId ≠ delivery.requestId
  | _ => True

instance : DecidablePred IsCompletedOriginal :=
  fun _ => inferInstanceAs (Decidable (_ ∧ _))

instance : DecidablePred CountsExact :=
  fun events => inferInstanceAs (Decidable (∀ row ∈ events.rows, IsCompletedOriginal row → _))

instance (row moved : WebhookEvent) : Decidable (SameCount row moved) :=
  inferInstanceAs (Decidable (_ ∧ _ ∧ _ ∧ _))

instance (state : CountState) : DecidablePred (Undisturbed state)
  | .commit index =>
      inferInstanceAs (Decidable (∀ save ∈ state.saves[index]?, ∀ row ∈ state.events.rows, _ ∧ _))
  | .read _ _ | .rollback _ | .record _ => inferInstanceAs (Decidable True)

instance (state : CountState) : DecidablePred (KeepsCounts state)
  | .commit index =>
      inferInstanceAs (Decidable (∀ save ∈ state.saves[index]?, save.original = none →
        ∀ loaded ∈ save.existing, _))
  | .record (.updateDeadLetter _ _ _) =>
      inferInstanceAs (Decidable (_ → ∀ original ∈ state.events.rows,
        IsCompletedOriginal original → _ → ∀ row ∈ state.events.rows, _))
  | .read _ _ | .rollback _ => inferInstanceAs (Decidable True)
  | .record (.insertRetry _ _ _ _) | .record (.updateRetry _ _ _ _)
  | .record (.insertDeadLetter _ _ _) | .record (.lease _ _) => inferInstanceAs (Decidable True)

/-! ## What leaves the counts alone -/

variable {data : WebhookEventInput} {now : DateTime}

section Updates

variable {events : EventTable} {guard : WebhookEvent → Bool} {change : WebhookEvent → WebhookEvent}
  {keeps : ∀ row, (change row).id = row.id}

theorem SameCount.refl (row : WebhookEvent) : SameCount row row :=
  ⟨Iff.rfl, rfl, rfl, rfl⟩

theorem SameCount.repeats_eq {row moved : WebhookEvent} (same : SameCount row moved) (id : Nat) :
    repeats id moved = repeats id row := by
  unfold repeats
  rw [same.2.2.1, decide_eq_decide.2 same.1]

theorem SameCount.isCompletedOriginal {row moved : WebhookEvent} (same : SameCount row moved)
    (isOriginal : IsCompletedOriginal moved) : IsCompletedOriginal row :=
  ⟨same.1.1 isOriginal.1, same.2.1.symm.trans isOriginal.2⟩

theorem completedDuplicates_update {id : Nat}
    (same : ∀ row ∈ events.rows, guard row = true → repeats id (change row) = repeats id row) :
    completedDuplicates (events.update guard change keeps) id = completedDuplicates events id := by
  unfold completedDuplicates
  change (events.rows.map _).countP _ = _
  rw [List.countP_map]
  apply List.countP_congr
  intro row member
  rw [Function.comp_apply]
  split
  · rw [same row member ‹_›]
  · rfl

theorem CountsExact.update (counts : CountsExact events)
    (same : ∀ row ∈ events.rows, guard row = true → SameCount row (change row)) :
    CountsExact (events.update guard change keeps) := by
  intro row member isOriginal
  rw [completedDuplicates_update fun row member guarded =>
    (same row member guarded).repeats_eq _]
  obtain ⟨old, oldMember, rfl⟩ := Table.mem_update.1 member
  by_cases guarded : guard old = true
  · rw [if_pos guarded] at isOriginal ⊢
    have moved := same old oldMember guarded
    rw [moved.2.2.2, keeps old]
    exact counts old oldMember (moved.isCompletedOriginal isOriginal)
  · rw [if_neg guarded] at isOriginal ⊢
    exact counts old oldMember isOriginal

theorem completedDuplicates_insertEvent {after : EventTable}
    (inserted : insertEvent now data events = some after) (id : Nat) :
    completedDuplicates after id = completedDuplicates events id +
      (repeats id (filled events.nextKey now (some now) data)).toNat := by
  unfold insertEvent at inserted
  split at inserted
  · contradiction
  · obtain rfl := Option.some.inj inserted
    unfold completedDuplicates
    change (events.rows ++ [_]).countP _ = _
    rw [List.countP_append, List.countP_singleton]
    cases repeats id (filled events.nextKey now (some now) data) <;> rfl

theorem CountsExact.insert (counts : CountsExact events)
    (unfinished : data.processingStatus ≠ .completed) :
    CountsExact ((insertEvent now data events).getD events) := by
  intro row member isOriginal
  rcases mem_insertEvent member with old | rfl
  · rw [counts row old isOriginal]
    cases inserted : insertEvent now data events with
    | none => rfl
    | some after =>
        have silent : repeats row.id (filled events.nextKey now (some now) data) = false := by
          simp [repeats, filled, unfinished]
        rw [Option.getD_some, completedDuplicates_insertEvent inserted, silent]
        rfl
  · exact absurd isOriginal.1 unfinished

end Updates

/-! ## Dead letters -/

section DeadLetters

variable {events : EventTable} {now : DateTime} {delivery : Delivery} {failure : Failure}

theorem completedDuplicates_updateExistingDeadLetter (id : Nat) :
    completedDuplicates events id =
      (events.rows.filter fun row => row.requestId = delivery.requestId).countP (repeats id) +
        completedDuplicates (updateExistingDeadLetter now delivery failure events) id := by
  unfold completedDuplicates
  rw [List.countP_eq_countP_filter_add events.rows (repeats id)
    fun row => row.requestId = delivery.requestId]
  congr 1
  change _ = (events.rows.map _).countP _
  rw [List.countP_filter, List.countP_map]
  apply List.countP_congr
  intro row _
  rw [Function.comp_apply]
  by_cases hit : row.requestId = delivery.requestId
  · simp [hit, repeats, deadLettered]
  · simp [hit]

theorem countsExact_updateExistingDeadLetter_iff (counts : CountsExact events) :
    CountsExact (updateExistingDeadLetter now delivery failure events) ↔
      ∀ original ∈ events.rows, IsCompletedOriginal original →
        original.requestId ≠ delivery.requestId →
          ∀ row ∈ events.rows, repeats original.id row = true →
            row.requestId ≠ delivery.requestId := by
  constructor
  · intro countsAfter original member isOriginal missed row rowMember repeating hit
    have kept : original ∈ (updateExistingDeadLetter now delivery failure events).rows :=
      Table.mem_update.2 ⟨original, member, by simp [missed]⟩
    have before := counts original member isOriginal
    have afterwards := countsAfter original kept isOriginal
    rw [@completedDuplicates_updateExistingDeadLetter events now delivery failure] at before
    have silent : (events.rows.filter fun row => row.requestId = delivery.requestId).countP
        (repeats original.id) = 0 := by
      omega
    exact List.countP_eq_zero.1 silent row
      (List.mem_filter.2 ⟨rowMember, decide_eq_true hit⟩) repeating
  · intro spared row member isOriginal
    obtain ⟨old, oldMember, rfl⟩ := Table.mem_update.1 member
    split at isOriginal
    · exact absurd isOriginal.1 (by simp [deadLettered])
    · rename_i missed
      rw [if_neg missed]
      have silent : (events.rows.filter fun row => row.requestId = delivery.requestId).countP
          (repeats old.id) = 0 := by
        rw [List.countP_eq_zero]
        intro row hit repeating
        obtain ⟨rowMember, sameRequest⟩ := List.mem_filter.1 hit
        exact spared old oldMember isOriginal (by simpa using missed) row rowMember repeating
          (of_decide_eq_true sameRequest)
      rw [counts old oldMember isOriginal,
        @completedDuplicates_updateExistingDeadLetter events now delivery failure, silent,
        Nat.zero_add]

end DeadLetters

/-! ## Commits -/

section Commits

variable {env : SaveEnvironment} {save : OpenSave} {events after : EventTable}

theorem withDuplicate_duplicateCount (now : DateTime) (payload : SaveWebhookInput)
    (original : WebhookEvent) :
    (withDuplicate now payload original).duplicateCount =
      (if original.duplicateCount = 0 then 1 else original.duplicateCount) + 1 := by
  unfold withDuplicate
  simp only
  repeat' split
  all_goals rfl

theorem flushColumn_self {Value : Type} [DecidableEq Value] (loaded written : Value) :
    flushColumn loaded written loaded = written := by
  unfold flushColumn
  split
  · exact Eq.symm ‹_›
  · rfl

theorem completedDuplicates_counted (id : Nat) :
    completedDuplicates (save.counted env events) id = completedDuplicates events id := by
  unfold OpenSave.counted
  cases save.original with
  | none => rfl
  | some original => exact completedDuplicates_update fun _ _ _ => rfl

@[simp]
theorem counted_nextKey : (save.counted env events).nextKey = events.nextKey := by
  unfold OpenSave.counted
  cases save.original <;> rfl

/-- A row with the duplicate counted, and the row it was. -/
structure Recounted (save : OpenSave) (old row : WebhookEvent) : Prop where
  id : row.id = old.id
  processingStatus : row.processingStatus = old.processingStatus
  isDuplicate : row.isDuplicate = old.isDuplicate
  duplicateOf : row.duplicateOf = old.duplicateOf
  others : save.original.map WebhookEvent.id ≠ some old.id → row.duplicateCount = old.duplicateCount
  original : ∀ loaded ∈ save.original, old.id = loaded.id →
    row.duplicateCount = (if loaded.duplicateCount = 0 then 1 else loaded.duplicateCount) + 1

theorem exists_recounted {row : WebhookEvent} (member : row ∈ (save.counted env events).rows) :
    ∃ old ∈ events.rows, Recounted save old row := by
  unfold OpenSave.counted at member
  cases isOriginal : save.original with
  | none =>
      rw [isOriginal] at member
      refine ⟨row, member, rfl, rfl, rfl, rfl, fun _ => rfl, ?_⟩
      simp [isOriginal]
  | some original =>
      rw [isOriginal] at member
      obtain ⟨old, oldMember, rfl⟩ := Table.mem_update.1 member
      refine ⟨old, oldMember, ?_⟩
      split
      · rename_i hit
        refine ⟨rfl, rfl, rfl, rfl, ?_, ?_⟩
        · intro another
          rw [isOriginal, Option.map_some, of_decide_eq_true hit] at another
          exact absurd rfl another
        · intro loaded isLoaded _
          obtain rfl := Option.some.inj (isOriginal.symm.trans isLoaded)
          exact withDuplicate_duplicateCount _ _ _
      · rename_i missed
        refine ⟨rfl, rfl, rfl, rfl, fun _ => rfl, ?_⟩
        intro loaded isLoaded sameId
        obtain rfl := Option.some.inj (isOriginal.symm.trans isLoaded)
        exact absurd (decide_eq_true sameId) missed

/-- A commit writes one completed event, which was not completed before and repeats the original
if there is one. -/
structure Writes (save : OpenSave) (counted after : EventTable) (written : WebhookEvent) : Prop where
  stored : written ∈ after.rows
  others : ∀ row ∈ after.rows, row.id ≠ written.id → row ∈ counted.rows
  duplicates : ∀ id, completedDuplicates after id =
    completedDuplicates counted id + (repeats id written).toNat
  processingStatus : written.processingStatus = .completed
  isDuplicate : written.isDuplicate = save.original.isSome
  duplicateOf : written.duplicateOf = save.original.map WebhookEvent.id
  duplicateCount : save.original = none → written.duplicateCount = 1

theorem input_processingStatus : (save.input env).processingStatus = .completed := by
  unfold OpenSave.input
  cases save.original <;> rfl

theorem input_isDuplicate : (save.input env).isDuplicate = save.original.isSome := by
  unfold OpenSave.input
  cases save.original <;> rfl

theorem input_duplicateOf :
    (save.input env).duplicateOf = save.original.map WebhookEvent.id := by
  unfold OpenSave.input
  cases save.original <;> rfl

theorem input_duplicateCount (isOriginal : save.original = none) :
    (save.input env).duplicateCount = 1 := by
  unfold OpenSave.input
  rw [isOriginal]
  rfl

theorem writes_insert (fresh : save.existing = none) (committed : save.commit env events = some after) :
    Writes save (save.counted env events) after
      (filled events.nextKey save.times.filledAt (some save.times.filledAt) (save.input env)) := by
  unfold OpenSave.commit at committed
  rw [fresh] at committed
  have duplicates := completedDuplicates_insertEvent committed
  rw [counted_nextKey] at duplicates
  refine ⟨?_, ?_, duplicates, input_processingStatus, input_isDuplicate, input_duplicateOf,
    input_duplicateCount⟩
  · simp only at committed
    unfold insertEvent at committed
    split at committed
    · contradiction
    · obtain rfl := Option.some.inj committed
      refine Table.mem_insert.2 (Or.inr ?_)
      rw [counted_nextKey]
  · intro row member other
    simp only at committed
    have inserted : row ∈ ((insertEvent save.times.filledAt (save.input env)
        (save.counted env events)).getD (save.counted env events)).rows := by
      rw [committed]
      exact member
    rcases mem_insertEvent inserted with old | rfl
    · exact old
    · rw [counted_nextKey] at other
      exact absurd rfl other

theorem exists_writes_update {loaded : WebhookEvent} (isLoaded : save.existing = some loaded)
    (unfinished : loaded.processingStatus ≠ .completed)
    (present : ∃ row ∈ events.rows, row.id = loaded.id)
    (undisturbed : ∀ row ∈ events.rows, row.id = loaded.id → SameCount loaded row)
    (committed : save.commit env events = some after) :
    ∃ written, Writes save (save.counted env events) after written ∧ written.id = loaded.id := by
  unfold OpenSave.commit at committed
  rw [isLoaded] at committed
  obtain rfl := Option.some.inj committed
  have presentCounted : ∃ row ∈ (save.counted env events).rows, row.id = loaded.id := by
    unfold OpenSave.counted
    cases save.original with
    | none => exact present
    | some original => exact Table.exists_key_update.2 present
  obtain ⟨current, currentMember, sameId⟩ := presentCounted
  obtain ⟨old, oldMember, recounts⟩ := exists_recounted currentMember
  have same := undisturbed old oldMember (recounts.id.symm.trans sameId)
  have unfinishedNow : current.processingStatus ≠ .completed := by
    rw [recounts.processingStatus]
    exact fun completed => unfinished (same.1.1 completed)
  refine ⟨reflushed save.times.filledAt (save.input env) loaded current,
    ⟨?_, ?_, ?_, ?_, ?_, ?_, ?_⟩, sameId⟩
  · refine Table.mem_update.2 ⟨current, currentMember, ?_⟩
    rw [if_pos (decide_eq_true sameId)]
  · intro row member other
    obtain ⟨moved, movedMember, rfl⟩ := Table.mem_update.1 member
    split at other
    · rename_i hit
      exact absurd ((of_decide_eq_true hit).trans sameId.symm) other
    · rename_i missed
      rw [if_neg missed]
      exact movedMember
  · intro id
    have silent : repeats id current = false := by
      simp [repeats, unfinishedNow]
    have isKey (row : WebhookEvent) :
        (decide (row.id = loaded.id) = true) ↔ row.id = current.id := by
      rw [decide_eq_true_eq, sameId]
    have moves := Table.countP_update_of_key (repeats id) currentMember isKey fun row =>
      (rfl : (reflushed save.times.filledAt (save.input env) loaded row).id = row.id)
    rw [silent] at moves
    exact moves
  · change flushColumn _ (save.input env).processingStatus _ = _
    unfold flushColumn
    rw [input_processingStatus, if_neg (Ne.symm unfinished)]
  · change flushColumn _ _ current.isDuplicate = _
    rw [recounts.isDuplicate, same.2.1, flushColumn_self, input_isDuplicate]
  · change flushColumn _ _ current.duplicateOf = _
    rw [recounts.duplicateOf, same.2.2.1, flushColumn_self, input_duplicateOf]
  · intro isOriginal
    change flushColumn _ _ current.duplicateCount = _
    rw [recounts.others (by simp [isOriginal]), same.2.2.2, flushColumn_self,
      input_duplicateCount isOriginal]

theorem Writes.countsExact_iff {written : WebhookEvent}
    (writes : Writes save (save.counted env events) after written) (counts : CountsExact events)
    (undisturbed : ∀ row ∈ events.rows, ∀ loaded ∈ save.original, row.id = loaded.id →
      row.duplicateCount = loaded.duplicateCount) :
    CountsExact after ↔
      (save.original = none → completedDuplicates events written.id = 0) := by
  have duplicates (id : Nat) : completedDuplicates after id =
      completedDuplicates events id + (repeats id written).toNat := by
    rw [writes.duplicates, completedDuplicates_counted]
  have others : ∀ row ∈ after.rows, row.id ≠ written.id → IsCompletedOriginal row →
      row.duplicateCount = 1 + completedDuplicates after row.id := by
    intro row member other isOriginal
    obtain ⟨old, oldMember, recounts⟩ := exists_recounted (writes.others row member other)
    have before := counts old oldMember ⟨recounts.processingStatus.symm.trans isOriginal.1,
      recounts.isDuplicate.symm.trans isOriginal.2⟩
    rw [duplicates, recounts.id]
    by_cases repeated : save.original.map WebhookEvent.id = some old.id
    · obtain ⟨loaded, isLoaded, sameId⟩ := Option.map_eq_some_iff.1 repeated
      have repeating : repeats old.id written = true := by
        simp [repeats, writes.processingStatus, writes.duplicateOf, repeated]
      rw [recounts.original loaded isLoaded sameId.symm, repeating,
        ← undisturbed old oldMember loaded isLoaded sameId.symm, if_neg (by omega), before]
      rfl
    · have silent : repeats old.id written = false := by
        simp [repeats, writes.duplicateOf, repeated]
      rw [recounts.others repeated, silent]
      exact before
  have ownDuplicates (isOriginal : save.original = none) :
      completedDuplicates after written.id = completedDuplicates events written.id := by
    have silent : repeats written.id written = false := by
      simp [repeats, writes.duplicateOf, isOriginal]
    rw [duplicates, silent]
    rfl
  constructor
  · intro countsAfter isOriginal
    have own := countsAfter written writes.stored ⟨writes.processingStatus,
      by rw [writes.isDuplicate, isOriginal]; rfl⟩
    rw [writes.duplicateCount isOriginal, ownDuplicates isOriginal] at own
    omega
  · intro unrepeated row member isCompletedOriginal
    by_cases other : row.id = written.id
    · obtain rfl := Table.eq_of_key_eq member writes.stored other
      have isOriginal : save.original = none := by
        rw [← Option.isNone_iff_eq_none, ← Option.isSome_eq_false_iff, ← writes.isDuplicate]
        exact isCompletedOriginal.2
      rw [writes.duplicateCount isOriginal, ownDuplicates isOriginal, unrepeated isOriginal]
    · exact others row member other isCompletedOriginal

end Commits

/-! ## Runs -/

/-- What a run keeps: a duplicate repeats a row with an earlier key, and the rows that a save has
read are still there. -/
structure Linked (state : CountState) : Prop where
  duplicateOf : ∀ row ∈ state.events.rows, ∀ id ∈ row.duplicateOf, id < state.events.nextKey
  existing : ∀ save ∈ state.saves, ∀ loaded ∈ save.existing,
    loaded.processingStatus ≠ .completed ∧ ∃ row ∈ state.events.rows, row.id = loaded.id
  original : ∀ save ∈ state.saves, ∀ loaded ∈ save.original,
    ∃ row ∈ state.events.rows, row.id = loaded.id

/-- The links of a later table point to its rows if those of the earlier one did. -/
structure KeepsLinks (events after : EventTable) : Prop where
  kept : ∀ id, (∃ row ∈ events.rows, row.id = id) → ∃ row ∈ after.rows, row.id = id
  duplicateOf : (∀ row ∈ events.rows, ∀ id ∈ row.duplicateOf, id < events.nextKey) →
    ∀ row ∈ after.rows, ∀ id ∈ row.duplicateOf, id < after.nextKey

section Links

variable {env : SaveEnvironment} {state : CountState} {events after : EventTable}

theorem KeepsLinks.refl (events : EventTable) : KeepsLinks events events :=
  ⟨fun _ present => present, fun linked => linked⟩

theorem KeepsLinks.trans {middle : EventTable} (first : KeepsLinks events middle)
    (second : KeepsLinks middle after) : KeepsLinks events after :=
  ⟨fun id present => second.kept id (first.kept id present),
    fun linked => second.duplicateOf (first.duplicateOf linked)⟩

theorem keepsLinks_update {guard : WebhookEvent → Bool} {change : WebhookEvent → WebhookEvent}
    {keeps : ∀ row, (change row).id = row.id}
    (links : ∀ row, ∀ id ∈ (change row).duplicateOf, id ∈ row.duplicateOf ∨ id < events.nextKey) :
    KeepsLinks events (events.update guard change keeps) where
  kept _ present := Table.exists_key_update.2 present
  duplicateOf linked := by
    intro row member id isLink
    obtain ⟨old, oldMember, rfl⟩ := Table.mem_update.1 member
    split at isLink
    · rcases links old id isLink with isOld | below
      · exact linked old oldMember id isOld
      · exact below
    · exact linked old oldMember id isLink

theorem keepsLinks_insertEvent (links : ∀ id ∈ data.duplicateOf, id < events.nextKey) :
    KeepsLinks events ((insertEvent now data events).getD events) := by
  unfold insertEvent
  split
  · exact .refl events
  · rw [Option.getD_some]
    constructor
    · rintro id ⟨row, member, sameId⟩
      exact ⟨row, Table.mem_insert.2 (Or.inl member), sameId⟩
    · intro linked row member id isLink
      apply Nat.lt_succ_of_lt
      rcases Table.mem_insert.1 member with old | rfl
      · exact linked row old id isLink
      · exact links id isLink

theorem keepsLinks_commit (save : OpenSave)
    (original : ∀ loaded ∈ save.original, ∃ row ∈ events.rows, row.id = loaded.id) :
    KeepsLinks events ((save.commit env events).getD events) := by
  have inputLinks : ∀ id ∈ (save.input env).duplicateOf, id < events.nextKey := by
    intro id isLink
    rw [input_duplicateOf] at isLink
    obtain ⟨loaded, isLoaded, rfl⟩ := Option.map_eq_some_iff.1 isLink
    obtain ⟨row, member, sameId⟩ := original loaded isLoaded
    rw [← sameId]
    exact events.keys_lt row member
  have counted : KeepsLinks events (save.counted env events) := by
    unfold OpenSave.counted
    cases save.original with
    | none => exact .refl events
    | some original => exact keepsLinks_update fun _ _ isLink => Or.inl isLink
  unfold OpenSave.commit
  cases save.existing with
  | some existing =>
      rw [Option.getD_some]
      refine counted.trans (keepsLinks_update ?_)
      intro row id isLink
      change id ∈ flushColumn _ _ row.duplicateOf at isLink
      unfold flushColumn at isLink
      split at isLink
      · exact Or.inl isLink
      · rw [counted_nextKey]
        exact Or.inr (inputLinks id isLink)
  | none =>
      have inserted : KeepsLinks (save.counted env events) ((insertEvent save.times.filledAt
          (save.input env) (save.counted env events)).getD (save.counted env events)) := by
        apply keepsLinks_insertEvent
        rw [counted_nextKey]
        exact inputLinks
      simp only
      cases refused : insertEvent save.times.filledAt (save.input env)
          (save.counted env events) with
      | none => exact .refl events
      | some after =>
          rw [refused] at inserted
          exact counted.trans inserted

theorem keepsLinks_record (recording : Recording) :
    KeepsLinks events (record env events recording) := by
  cases recording with
  | insertRetry now delivery failure nextRetryAt =>
      apply keepsLinks_insertEvent
      simp [retryInput, rawInput]
  | updateRetry | updateDeadLetter =>
      unfold record
      simp only
      split
      · exact keepsLinks_update fun _ _ isLink => Or.inl isLink
      · exact .refl events
  | insertDeadLetter now delivery failure =>
      apply keepsLinks_insertEvent
      simp [deadLetterInput, rawInput]
  | lease scan id =>
      unfold record leaseRetry
      exact keepsLinks_update fun _ _ isLink => Or.inl isLink

theorem Linked.of_keepsLinks (linked : Linked state) (keeps : KeepsLinks state.events after)
    {saves : List OpenSave} (remaining : ∀ save ∈ saves, save ∈ state.saves) :
    Linked ⟨after, saves⟩ where
  duplicateOf := keeps.duplicateOf linked.duplicateOf
  existing save member loaded isLoaded := by
    obtain ⟨unfinished, present⟩ := linked.existing save (remaining save member) loaded isLoaded
    exact ⟨unfinished, keeps.kept loaded.id present⟩
  original save member loaded isLoaded :=
    keeps.kept loaded.id (linked.original save (remaining save member) loaded isLoaded)

theorem mem_of_repeatedEvent {status : DuplicateStatus} {original : WebhookEvent}
    (repeated : repeatedEvent status events = some original) : original ∈ events.rows := by
  obtain ⟨id, _, found⟩ := Option.bind_eq_some_iff.1 repeated
  exact (Table.lookup_eq_some_iff.1 found).1

theorem linked_step (linked : Linked state) (event : CountEvent) :
    Linked (step env state event) := by
  cases event with
  | read times request =>
      unfold step
      simp only
      split
      · exact linked
      · rename_i free
        have unfinished : alreadyCompleted request state.events = false := by
          simp only [Bool.or_eq_true, not_or, Bool.not_eq_true] at free
          exact free.1
        refine ⟨linked.duplicateOf, ?_, ?_⟩
        · intro save member loaded isLoaded
          rcases List.mem_append.1 member with old | new
          · exact linked.existing save old loaded isLoaded
          · obtain rfl := List.mem_singleton.1 new
            change existingEvent request state.events = some loaded at isLoaded
            refine ⟨?_, loaded, (existingEvent_spec isLoaded).1, rfl⟩
            unfold alreadyCompleted at unfinished
            simpa [isLoaded] using unfinished
        · intro save member loaded isLoaded
          rcases List.mem_append.1 member with old | new
          · exact linked.original save old loaded isLoaded
          · obtain rfl := List.mem_singleton.1 new
            exact ⟨loaded, mem_of_repeatedEvent isLoaded, rfl⟩
  | commit index =>
      unfold step
      simp only
      split
      · rename_i save isOpen
        exact linked.of_keepsLinks
          (keepsLinks_commit save (linked.original save (List.mem_of_getElem? isOpen)))
          fun _ => List.mem_of_mem_eraseIdx
      · exact linked
  | rollback index =>
      exact linked.of_keepsLinks (.refl state.events) fun _ => List.mem_of_mem_eraseIdx
  | record recording =>
      exact linked.of_keepsLinks (keepsLinks_record recording) fun _ member => member

end Links

section Runs

variable {env : SaveEnvironment} {state : CountState}

theorem countsExact_commit_iff (linked : Linked state) (counts : CountsExact state.events)
    (index : Nat) (undisturbed : Undisturbed state (.commit index)) :
    CountsExact (step env state (.commit index)).events ↔ KeepsCounts state (.commit index) := by
  unfold step KeepsCounts
  unfold Undisturbed at undisturbed
  simp only
  cases isOpen : state.saves[index]? with
  | none => exact iff_of_true counts (by simp)
  | some save =>
      have member := List.mem_of_getElem? isOpen
      have asRead := undisturbed save isOpen
      simp only [Option.mem_def, Option.some.injEq, forall_eq']
      cases committed : save.commit env state.events with
      | none =>
          refine iff_of_true counts ?_
          intro _ loaded isLoaded
          unfold OpenSave.commit at committed
          rw [isLoaded] at committed
          contradiction
      | some after =>
          have originalAsRead : ∀ row ∈ state.events.rows, ∀ loaded ∈ save.original,
              row.id = loaded.id → row.duplicateCount = loaded.duplicateCount :=
            fun row rowMember => (asRead row rowMember).2
          rw [Option.getD_some]
          cases isExisting : save.existing with
          | none =>
              rw [(writes_insert isExisting committed).countsExact_iff counts originalAsRead]
              refine iff_of_true ?_ (by simp)
              intro _
              -- No row can repeat a key that has not been given out.
              unfold completedDuplicates
              rw [List.countP_eq_zero]
              intro row rowMember repeating
              simp only [repeats, Bool.and_eq_true, decide_eq_true_eq] at repeating
              have below := linked.duplicateOf row rowMember _ repeating.2
              exact absurd below (lt_irrefl _)
          | some loaded =>
              obtain ⟨unfinished, present⟩ := linked.existing save member loaded isExisting
              obtain ⟨written, writes, sameId⟩ := exists_writes_update isExisting unfinished present
                (fun row rowMember => (asRead row rowMember).1 loaded isExisting) committed
              rw [writes.countsExact_iff counts originalAsRead, sameId]
              simp

theorem countsExact_record_iff (counts : CountsExact state.events) (recording : Recording) :
    CountsExact (record env state.events recording) ↔ KeepsCounts state (.record recording) := by
  cases recording with
  | insertRetry now delivery failure nextRetryAt =>
      exact iff_of_true (counts.insert (by simp [retryInput])) trivial
  | updateRetry now delivery failure nextRetryAt =>
      refine iff_of_true ?_ trivial
      unfold record
      simp only
      split
      · apply counts.update
        intro row _ guarded
        simp only [Bool.and_eq_true, decide_eq_true_eq] at guarded
        exact ⟨by simp [retried, guarded.2], rfl, rfl, rfl⟩
      · exact counts
  | insertDeadLetter now delivery failure =>
      exact iff_of_true (counts.insert (by simp [deadLetterInput])) trivial
  | updateDeadLetter now delivery failure =>
      unfold record KeepsCounts
      simp only
      split
      · rename_i named
        rw [countsExact_updateExistingDeadLetter_iff counts]
        exact ⟨fun spared _ => spared, fun spared => spared named⟩
      · rename_i unnamed
        exact iff_of_true counts fun named => absurd named unnamed
  | lease scan id =>
      refine iff_of_true ?_ trivial
      unfold record leaseRetry
      exact counts.update fun row _ _ => SameCount.refl row

theorem countsExact_step_iff (linked : Linked state) (counts : CountsExact state.events)
    {event : CountEvent} (undisturbed : Undisturbed state event) :
    CountsExact (step env state event).events ↔ KeepsCounts state event := by
  cases event with
  | read times request =>
      refine iff_of_true ?_ trivial
      unfold step
      simp only
      split <;> exact counts
  | commit index => exact countsExact_commit_iff linked counts index undisturbed
  | rollback index => exact iff_of_true counts trivial
  | record recording => exact countsExact_record_iff counts recording

theorem linked_initial : Linked .initial :=
  ⟨by simp [CountState.initial, Table.empty], by simp [CountState.initial],
    by simp [CountState.initial]⟩

theorem countsExact_initial : CountsExact CountState.initial.events := by
  simp [CountsExact, CountState.initial, Table.empty]

end Runs

/-! ## Saves that commit at once -/

section Undelayed

variable {env : SaveEnvironment} {times : SaveTimes} {request : SaveRequest} {events : EventTable}

theorem recounted_self (now : DateTime) (payload : SaveWebhookInput) (original : WebhookEvent) :
    recounted now payload original original = withDuplicate now payload original := by
  unfold recounted reanalyzes withDuplicate
  cases present : presentAnalysis payload.aiAnalysis with
  | none => simp
  | some analysis => simp only [Option.isSome_some, Bool.true_and]; split <;> simp_all

theorem counted_openSave : (openSave env times request events).counted env events =
    match repeatedEvent (savedStatus env times request events) events with
    | some original =>
        events.update (fun row => row.id = original.id)
          (withDuplicate times.filledAt (env.prepared request.payload))
          (withDuplicate_id times.filledAt (env.prepared request.payload))
    | none => events := by
  unfold OpenSave.counted openSave
  simp only
  cases repeated : repeatedEvent (savedStatus env times request events) events with
  | none => rfl
  | some original =>
      apply Table.update_congr
      intro row member hit
      obtain rfl := Table.eq_of_key_eq member (mem_of_repeatedEvent repeated)
        (of_decide_eq_true hit)
      exact recounted_self _ _ _

theorem reflushed_counted {existing current : WebhookEvent}
    (isExisting : existingEvent request events = some existing)
    (member : current ∈ ((openSave env times request events).counted env events).rows)
    (sameId : current.id = existing.id) :
    reflushed times.filledAt ((openSave env times request events).input env) existing current =
      flushed times.filledAt ((openSave env times request events).input env) existing current := by
  obtain ⟨old, oldMember, recounts⟩ := exists_recounted member
  obtain rfl := Table.eq_of_key_eq oldMember (existingEvent_spec isExisting).1
    (recounts.id.symm.trans sameId)
  have duplicateCount : flushColumn old.duplicateCount
      ((openSave env times request events).input env).duplicateCount current.duplicateCount =
        ((openSave env times request events).input env).duplicateCount := by
    by_cases repeated :
        (openSave env times request events).original.map WebhookEvent.id = some old.id
    · obtain ⟨loaded, isLoaded, loadedId⟩ := Option.map_eq_some_iff.1 repeated
      obtain rfl := Table.eq_of_key_eq (mem_of_repeatedEvent isLoaded) oldMember loadedId
      have written : ((openSave env times request events).input env).duplicateCount =
          current.duplicateCount := by
        rw [recounts.original loaded isLoaded rfl]
        unfold OpenSave.input
        rw [isLoaded]
        rfl
      rw [written]
      unfold flushColumn
      split <;> rfl
    · rw [recounts.others repeated, flushColumn_self]
  unfold reflushed
  rw [recounts.isDuplicate, recounts.duplicateOf, flushColumn_self, flushColumn_self,
    duplicateCount]
  rfl

/-- A save that commits at once leaves what `save_webhook_data_in_session` leaves. -/
theorem commit_openSave (incomplete : alreadyCompleted request events = false) :
    (openSave env times request events).commit env events =
      (saveWebhookDataInSession env times request events).map Prod.fst := by
  have unfinished : (findByRequestId events request.requestId).filter
      (fun row => row.processingStatus = .completed) = none := by
    rw [Option.filter_eq_none_iff]
    intro row isExisting
    unfold alreadyCompleted existingEvent at incomplete
    simpa [isExisting] using incomplete
  have written : (saveWebhookDataInSession env times request events).map Prod.fst =
      writeEvent times.filledAt ((openSave env times request events).input env)
        (existingEvent request events) ((openSave env times request events).counted env events) := by
    unfold saveWebhookDataInSession
    simp only
    rw [unfinished]
    simp only [Option.map_map]
    change Option.map id (saveEvent _ _ _ _ (savedStatus env times request events) _ _) = _
    rw [Option.map_id_fun, id_eq, counted_openSave]
    unfold saveEvent OpenSave.input openSave
    simp only
    change (match repeatedEvent (savedStatus env times request events) events with
      | some original => _
      | none => _) = _
    cases repeatedEvent (savedStatus env times request events) events <;> rfl
  rw [written]
  unfold OpenSave.commit writeEvent
  change (match existingEvent request events with
    | some existing => _
    | none => _) = _
  cases isExisting : existingEvent request events with
  | none => rfl
  | some existing =>
      refine congrArg some (Table.update_congr _ ?_)
      intro row member hit
      exact reflushed_counted isExisting member (of_decide_eq_true hit)

end Undelayed

/-- In a run whose saves find at their commit what they have read, the counts are exact in every
state just when every transaction keeps them. -/
theorem counts_exact_iff (env : SaveEnvironment) (events : List CountEvent)
    (undisturbed : GuardedRuns.Along (step env) Undisturbed .initial events) :
    (∀ taken, taken <+: events →
        CountsExact (GuardedRuns.run (step env) .initial taken).events) ↔
      GuardedRuns.Along (step env) KeepsCounts .initial events :=
  undisturbed.forall_prefix_iff Linked (fun _ event linked => linked_step linked event)
    (fun _ _ linked counts asRead => countsExact_step_iff linked counts asRead) linked_initial
    countsExact_initial

/-! ## An alert that fires twice -/

def saved (seconds : Int) (requestId : String) : List CountEvent :=
  [.read (savedAt seconds) (sampleRequest requestId), .commit 0]

def lastFailure (seconds : Int) (requestId : String) : CountEvent :=
  .record (.updateDeadLetter (DateTime.addSeconds 0 seconds)
    { sampleDelivery with requestId := some requestId } ⟨"timed out", true⟩)

def retriedFiring : List CountEvent :=
  saved 0 "req-1" ++
    [.record (.insertRetry (DateTime.addSeconds 0 1)
      { sampleDelivery with requestId := some "req-2" } ⟨"timed out", true⟩
      (DateTime.addSeconds 0 2))] ++
    saved 2 "req-2"

theorem counts_exact_retriedFiring :
    CountsExact (GuardedRuns.run (step minuteWindow) .initial retriedFiring).events :=
  (counts_exact_iff minuteWindow retriedFiring (by decide +kernel)).2 (by decide +kernel)
    retriedFiring List.prefix_rfl

/-- The second firing is delivered again after it has been saved, and that attempt fails. -/
def lateDeadLetter : List CountEvent :=
  saved 0 "req-1" ++ saved 1 "req-2" ++ [lastFailure 2 "req-2"]

def replayedOriginal : List CountEvent :=
  saved 0 "req-1" ++ saved 1 "req-2" ++ [lastFailure 2 "req-1"] ++ saved 100 "req-1"

/-- A firing with an alert identity of its own, of the same alert hash. -/
def siblingRequest (requestId dedupKey : String) : SaveRequest :=
  { sampleRequest requestId with
    payload := { (sampleRequest requestId).payload with dedupKey := some dedupKey } }

def crossedSaves : List CountEvent :=
  saved 0 "req-1" ++
    [.read (savedAt 1) (siblingRequest "req-2" "second"),
      .read (savedAt 1) (siblingRequest "req-3" "third"), .commit 0, .commit 0]

/-- A duplicate that is not completed any more is counted, and one that is may be forgotten. -/
theorem counts_drift :
    ¬ CountsExact (GuardedRuns.run (step minuteWindow) .initial lateDeadLetter).events ∧
      ¬ CountsExact (GuardedRuns.run (step minuteWindow) .initial replayedOriginal).events ∧
        ¬ CountsExact (GuardedRuns.run (step minuteWindow) .initial crossedSaves).events := by
  decide +kernel

/-- The table after the first firing. -/
def firedOnce : EventTable :=
  (GuardedRuns.run (step minuteWindow) .initial (saved 0 "req-1")).events

/-- The second firing is a duplicate of the first, and counts it. -/
theorem commit_openSave_repeated :
    (openSave minuteWindow (savedAt 1) (sampleRequest "req-2") firedOnce).original.isSome = true ∧
      (openSave minuteWindow (savedAt 1) (sampleRequest "req-2") firedOnce).commit minuteWindow
          firedOnce =
        (saveWebhookDataInSession minuteWindow (savedAt 1) (sampleRequest "req-2")
          firedOnce).map Prod.fst :=
  ⟨by decide +kernel, commit_openSave (by decide +kernel)⟩

end DuplicateCounts

end WebhookWise
