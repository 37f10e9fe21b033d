import WebhookWise.GuardedRuns
import WebhookWise.WebhookSaves

/-!
# One original in each window

The check at commit time decides by the stored timestamps.  A row that waited for its retry keeps
the timestamp of its arrival, and may have left the window when it is completed; the next save of
the same identity does not see it.
-/

namespace WebhookWise

open SqlTable

namespace WebhookOriginals

open WebhookIngest

/-- A transaction that completed an event. -/
structure Commit where
  eventId : Nat
  committedAt : DateTime

/-- The stored events, and the transactions that completed them so far. -/
structure SaveHistory where
  events : EventTable
  commits : List Commit

def SaveHistory.initial : SaveHistory :=
  ⟨.empty, []⟩

/-- The transactions that write events: saves in the order of their advisory lock, and
those of the retry recorder. -/
inductive SaveStep where
  | save (times : SaveTimes) (request : SaveRequest)
  | insertRetry (now : DateTime) (delivery : Delivery) (failure : Failure)
      (nextRetryAt : DateTime)
  | updateRetry (now : DateTime) (delivery : Delivery) (failure : Failure)
      (nextRetryAt : DateTime)

variable (env : SaveEnvironment)

def step (history : SaveHistory) : SaveStep → SaveHistory
  | .save times request =>
      match saveWebhookDataInSession env times request history.events with
      | some (saved, result) =>
          { events := saved
            commits := if alreadyCompleted request history.events then history.commits
              else history.commits ++ [⟨result.webhookId, times.committedAt⟩] }
      | none => history
  | .insertRetry now delivery failure nextRetryAt =>
      { history with
        events := (insertEvent now (retryInput env.python delivery failure nextRetryAt)
          history.events).getD history.events }
  | .updateRetry now delivery failure nextRetryAt =>
      { history with
        events := updateExistingRetry now delivery failure nextRetryAt history.events }

/-- An original of the logical alert that a dedup key identifies. -/
def IsOriginalOf (dedupKey : String) (row : WebhookEvent) : Prop :=
  row.isDuplicate = false ∧ presentText row.dedupKey = some dedupKey

/-- `DEDUP_WINDOW_SECONDS`, of which a save takes at least one. -/
def windowLength : Int :=
  max 1 env.windowSeconds * DateTime.microsecondsPerSecond

/-- No two originals of one identity were committed within a window of each other. -/
def OriginalsApart (history : SaveHistory) : Prop :=
  history.commits.Pairwise fun earlier later =>
    ∀ dedupKey first second, first ∈ history.events.rows → second ∈ history.events.rows →
      first.id = earlier.eventId → second.id = later.eventId → first.id ≠ second.id →
        IsOriginalOf dedupKey first → IsOriginalOf dedupKey second →
          earlier.committedAt + windowLength env < later.committedAt

/-- Every original that was committed within a window before the save is stored with a
timestamp which the check of the save still reaches. -/
def SeesRecentOriginals (history : SaveHistory) : SaveStep → Prop
  | .save times request =>
      alreadyCompleted request history.events = false →
      ∀ commit ∈ history.commits, times.committedAt ≤ commit.committedAt + windowLength env →
        ∀ row ∈ history.events.rows, row.id = commit.eventId → row.isDuplicate = false →
          row.dedupKey = request.payload.dedupKey →
            windowStart times.checkedAt env.windowSeconds ≤ row.timestamp
  | _ => True

/-! ## Steps -/

variable {request : SaveRequest} {row : WebhookEvent} {dedupKey : String} {times : SaveTimes}

/-- Every event that a transaction completed is stored as completed. -/
def CommitsStored (history : SaveHistory) : Prop :=
  ∀ commit ∈ history.commits, ∃ row ∈ history.events.rows,
    row.id = commit.eventId ∧ row.processingStatus = .completed

section Steps

variable {env} {history : SaveHistory} {after : EventTable}

theorem commitsStored_of_keepsCompleted (stored : CommitsStored history)
    (keeps : KeepsCompleted history.events after) : CommitsStored ⟨after, history.commits⟩ := by
  intro commit member
  obtain ⟨old, oldMember, oldId, completed⟩ := stored commit member
  obtain ⟨row, rowMember, sameId, linked⟩ := keeps old oldMember completed
  exact ⟨row, rowMember, sameId.trans oldId,
    (congrArg WebhookEvent.processingStatus linked).trans completed⟩

theorem sameLinks_of_committed (stored : CommitsStored history)
    (keeps : KeepsCompleted history.events after) {commit : Commit}
    (committed : commit ∈ history.commits) (member : row ∈ after.rows)
    (isCommitted : row.id = commit.eventId) :
    ∃ old ∈ history.events.rows, old.id = row.id ∧ SameLinks true old row := by
  obtain ⟨old, oldMember, oldId, completed⟩ := stored commit committed
  obtain ⟨moved, movedMember, sameId, linked⟩ := keeps old oldMember completed
  have same : moved = row :=
    Table.eq_of_key_eq movedMember member (sameId.trans (oldId.trans isCommitted.symm))
  subst same
  exact ⟨old, oldMember, sameId.symm, linked⟩

theorem isOriginalOf_of_sameLinks {old : WebhookEvent} (linked : SameLinks true old row)
    (isOriginal : IsOriginalOf dedupKey row) : IsOriginalOf dedupKey old :=
  ⟨(congrArg WebhookEvent.isDuplicate linked).symm.trans isOriginal.1,
    (congrArg (fun event : WebhookEvent => presentText event.dedupKey) linked).symm.trans
      isOriginal.2⟩

theorem originalsApart_of_keepsCompleted (stored : CommitsStored history)
    (keeps : KeepsCompleted history.events after) (apart : OriginalsApart env history) :
    OriginalsApart env ⟨after, history.commits⟩ := by
  apply List.Pairwise.imp_of_mem _ apart
  intro earlier later earlierMember laterMember isApart dedupKey first second firstMember
    secondMember firstId secondId other firstOriginal secondOriginal
  obtain ⟨oldFirst, oldFirstMember, sameFirst, firstLinked⟩ :=
    sameLinks_of_committed stored keeps earlierMember firstMember firstId
  obtain ⟨oldSecond, oldSecondMember, sameSecond, secondLinked⟩ :=
    sameLinks_of_committed stored keeps laterMember secondMember secondId
  exact isApart dedupKey oldFirst oldSecond oldFirstMember oldSecondMember
    (sameFirst.trans firstId) (sameSecond.trans secondId)
    (by rw [sameFirst, sameSecond]; exact other)
    (isOriginalOf_of_sameLinks firstLinked firstOriginal)
    (isOriginalOf_of_sameLinks secondLinked secondOriginal)

theorem isDuplicate_of_recent {events : EventTable} (member : row ∈ events.rows)
    (isOriginal : IsOriginalOf dedupKey row) (sameKey : row.dedupKey = request.payload.dedupKey)
    (isRecent : windowStart times.checkedAt env.windowSeconds ≤ row.timestamp)
    (other : row.id ≠ (savedEvent env times request events).id) :
    (savedEvent env times request events).isDuplicate = true := by
  obtain ⟨key, present⟩ := Option.filter_eq_some_iff.1 isOriginal.2
  have notOwn : (existingEvent request events).map WebhookEvent.id ≠ some row.id := by
    intro own
    rw [savedEvent_id, own] at other
    exact other rfl
  obtain ⟨original, found⟩ : ∃ original,
      recheckedOriginal env times request events = some original := by
    unfold recheckedOriginal
    rw [← sameKey, isOriginal.2, Option.bind_some]
    exact exists_checkDuplicateEventByDedupKey member key isOriginal.1 isRecent notOwn
  rw [savedEvent_isDuplicate, repeatedEvent_of_rechecked found]
  rfl

theorem savedEvent_apart (stored : CommitsStored history)
    (sees : SeesRecentOriginals env history (.save times request)) {reanalyzed : Bool}
    (saved : Saved reanalyzed history.events after (savedEvent env times request history.events))
    {earlier : Commit} (committed : earlier ∈ history.commits) {first second : WebhookEvent}
    (firstMember : first ∈ after.rows) (secondMember : second ∈ after.rows)
    (firstId : first.id = earlier.eventId)
    (secondId : second.id = (savedEvent env times request history.events).id)
    (other : first.id ≠ second.id) (firstOriginal : IsOriginalOf dedupKey first)
    (secondOriginal : IsOriginalOf dedupKey second) :
    earlier.committedAt + windowLength env < times.committedAt := by
  obtain ⟨old, oldMember, sameId, linked⟩ :=
    sameLinks_of_committed stored saved.keepsCompleted committed firstMember firstId
  have oldOriginal := isOriginalOf_of_sameLinks linked firstOriginal
  obtain rfl := Table.eq_of_key_eq secondMember saved.stored secondId
  have sameKey : old.dedupKey = request.payload.dedupKey := by
    rw [(Option.filter_eq_some_iff.1 oldOriginal.2).1, ← savedEvent_dedupKey,
      (Option.filter_eq_some_iff.1 secondOriginal.2).1]
  by_contra near
  have isRecent := sees (alreadyCompleted_eq_false saved) earlier committed (not_lt.1 near) old
    oldMember (sameId.trans firstId) oldOriginal.1 sameKey
  have repeated := isDuplicate_of_recent oldMember oldOriginal sameKey isRecent
    (by rw [sameId]; exact other)
  rw [secondOriginal.1] at repeated
  contradiction

theorem step_save (stored : CommitsStored history) (apart : OriginalsApart env history)
    (sees : SeesRecentOriginals env history (.save times request)) :
    CommitsStored (step env history (.save times request)) ∧
      OriginalsApart env (step env history (.save times request)) := by
  simp only [step]
  split
  · rename_i after result found
    have keeps := keepsCompleted_save found
    have kept := commitsStored_of_keepsCompleted stored keeps
    have stillApart := originalsApart_of_keepsCompleted stored keeps apart
    rcases saveWebhookDataInSession_spec found with
      ⟨rfl, row, isExisting, completed, _⟩ | ⟨saved, rfl⟩
    · have already : alreadyCompleted request history.events = true := by
        simp [alreadyCompleted, isExisting, completed]
      rw [already]
      exact ⟨stored, apart⟩
    · rw [alreadyCompleted_eq_false saved]
      constructor
      · intro commit member
        rcases List.mem_append.1 member with old | new
        · exact kept commit old
        · obtain rfl := List.mem_singleton.1 new
          exact ⟨_, saved.stored, rfl, savedEvent_processingStatus⟩
      · refine List.pairwise_append.2 ⟨stillApart, List.pairwise_singleton _ _, ?_⟩
        intro earlier committed later isNew dedupKey first second firstMember secondMember firstId
          secondId
        obtain rfl := List.mem_singleton.1 isNew
        exact savedEvent_apart stored sees saved committed firstMember secondMember firstId
          secondId
  · exact ⟨stored, apart⟩

theorem step_originalsApart (event : SaveStep)
    (invariant : CommitsStored history ∧ OriginalsApart env history)
    (sees : SeesRecentOriginals env history event) :
    CommitsStored (step env history event) ∧ OriginalsApart env (step env history event) := by
  obtain ⟨stored, apart⟩ := invariant
  cases event with
  | save times request => exact step_save stored apart sees
  | insertRetry now delivery failure nextRetryAt =>
      exact ⟨commitsStored_of_keepsCompleted stored keepsCompleted_insertEvent,
        originalsApart_of_keepsCompleted stored keepsCompleted_insertEvent apart⟩
  | updateRetry now delivery failure nextRetryAt =>
      exact ⟨commitsStored_of_keepsCompleted stored keepsCompleted_updateExistingRetry,
        originalsApart_of_keepsCompleted stored keepsCompleted_updateExistingRetry apart⟩

end Steps

/-! ## Runs -/

/-- Whatever the callers have resolved, the originals of an identity are committed apart
as long as their stored timestamps do not lag behind. -/
theorem originals_apart (steps : List SaveStep)
    (along : GuardedRuns.Along (step env) (SeesRecentOriginals env) .initial steps) :
    OriginalsApart env (GuardedRuns.run (step env) .initial steps) := by
  have invariant := along.invariant
    (fun history => CommitsStored history ∧ OriginalsApart env history)
    ⟨by simp [CommitsStored, SaveHistory.initial], List.Pairwise.nil⟩
    fun _ event => step_originalsApart event
  exact invariant.2

instance (history : SaveHistory) : ∀ event, Decidable (SeesRecentOriginals env history event)
  | .save _ _ => inferInstanceAs (Decidable (_ → ∀ commit ∈ history.commits, _ →
      ∀ row ∈ history.events.rows, _ → _ → _ → _))
  | .insertRetry _ _ _ _ | .updateRetry _ _ _ _ => isTrue trivial

def minuteWindow : SaveEnvironment where
  python := .plain
  windowSeconds := 60
  generateAlertHash _ _ _ := "hash"

def sampleRequest (requestId : String) : SaveRequest where
  requestId := some requestId
  payload := { sampleSave with alertHash := some "hash", dedupKey := some "key" }
  verdict := ⟨some false, none, true⟩

def savedAt (seconds : Int) : SaveTimes :=
  let now := DateTime.addSeconds 0 seconds
  ⟨now, now, now⟩

/-- The first attempt of a request fails on arrival; the request is completed a hundred
seconds later, and the alert fires again after one more. -/
def retriedArrival : List SaveStep :=
  [.insertRetry 0 sampleDelivery ⟨"timed out", true⟩ (DateTime.addSeconds 0 100),
    .save (savedAt 100) (sampleRequest "req-1"), .save (savedAt 101) (sampleRequest "req-2")]

/-- A retried event is completed with the timestamp of its arrival, so the next save does
not see it. -/
theorem retried_event_hides_from_recheck :
    ¬ ∀ (env : SaveEnvironment) (steps : List SaveStep),
      OriginalsApart env (GuardedRuns.run (step env) .initial steps) := by
  intro everApart
  have apart := everApart minuteWindow retriedArrival
  have tooNear := List.pairwise_iff_getElem.1 apart 0 1 (by decide) (by decide) (by decide) "key"
    (List.get _ ⟨0, by decide⟩) (List.get _ ⟨1, by decide⟩) (List.get_mem _ _) (List.get_mem _ _)
    (by decide) (by decide) (by decide) ⟨by decide, by decide⟩ ⟨by decide, by decide⟩
  exact absurd tooNear (by decide)

/-- Without the failed attempt, the second firing becomes a duplicate. -/
theorem originals_apart_on_time :
    OriginalsApart minuteWindow
      (GuardedRuns.run (step minuteWindow) .initial (retriedArrival.drop 1)) :=
  originals_apart minuteWindow (retriedArrival.drop 1) (by decide)

end WebhookOriginals

end WebhookWise
