import WebhookWise.AlertFinalization
import WebhookWise.ForwardOutboxRowSteps

/-!
# The notification cooldown

A duplicate is held back for a while after the last delivery on record, which a worker of the outbox
writes.  The transactions of the pipeline and the events of the outbox come in any order, with any
clock readings; they share the outbox table and the columns that the outbox writes.
-/

namespace WebhookWise

open SqlTable

variable {notifiedAt : Option DateTime} {notices : Table WebhookEventNotice.id}
  {events : EventTable} {wanted : Nat} {row : ForwardOutbox} {database : Database} {eventId : Nat}

theorem ForwardOutboxLifecycle.RowSteps.sameEvents {requeuedId sentId : Option Nat}
    {Returned : ForwardOutbox → Prop} {moved : ForwardOutbox}
    (steps : RowSteps requeuedId sentId Returned row moved) :
    moved.webhookEventId = row.webhookEventId ∧ moved.originalEventId = row.originalEventId := by
  refine RowSteps.keep (fun current => current.webhookEventId = row.webhookEventId ∧
    current.originalEventId = row.originalEventId) steps ?_ ⟨rfl, rfl⟩
  rintro before after write same
  cases write <;> exact same

namespace NotificationCooldown

open WebhookIngest AlertFinalization ForwardOutboxRecords ForwardOutboxStatements
open ForwardOutboxLifecycle ForwardDecisions

/-! ## The events as the outbox sees them -/

def noticeOf (event : WebhookEvent) : WebhookEventNotice where
  id := event.id
  forwardStatus := event.forwardStatus
  lastNotifiedAt := event.lastNotifiedAt

private theorem nodup_notices (events : EventTable) :
    ((events.rows.map noticeOf).map WebhookEventNotice.id).Nodup := by
  rw [List.map_map]
  exact events.keys_nodup

private theorem notices_lt (events : EventTable) :
    ∀ notice ∈ events.rows.map noticeOf, notice.id < events.nextKey := by
  intro notice member
  obtain ⟨event, eventMember, rfl⟩ := List.mem_map.1 member
  exact events.keys_lt event eventMember

def noticesOf (events : EventTable) : Table WebhookEventNotice.id where
  rows := events.rows.map noticeOf
  nextKey := events.nextKey
  keys_lt := notices_lt events
  keys_nodup := nodup_notices events

def withNotice (notices : Table WebhookEventNotice.id) (event : WebhookEvent) : WebhookEvent :=
  match notices.lookup event.id with
  | some notice =>
      { event with
        forwardStatus := notice.forwardStatus
        lastNotifiedAt := notice.lastNotifiedAt }
  | none => event

theorem withNotice_id (notices : Table WebhookEventNotice.id) (event : WebhookEvent) :
    (withNotice notices event).id = event.id := by
  unfold withNotice
  split <;> rfl

def withNotices (notices : Table WebhookEventNotice.id) (events : EventTable) : EventTable :=
  events.update (fun _ => true) (withNotice notices) (withNotice_id notices)

theorem lookup_noticesOf (events : EventTable) (wanted : Nat) :
    (noticesOf events).lookup wanted = (events.lookup wanted).map noticeOf :=
  List.find?_map ..

/-! ## The system -/

/-- A delivery that a transaction of the pipeline has filed, and when `decide_forwarding`
answered for it. -/
structure DecidedDelivery where
  row : ForwardOutbox
  decidedAt : DateTime

/-- The tables and the workers, with the deliveries that were decided and those that were
recorded as sent, each with its time and the last at the end. -/
structure NotifyState where
  events : EventTable
  traces : TraceTable
  delivery : OutboxState
  decided : List DecidedDelivery
  recorded : List (ForwardOutbox × DateTime)

inductive NotifyStep where
  /-- An alert comes to its transaction, from any earlier stages and with any readings. -/
  | process (context : ProcessContext) (findings : AlertFindings) (readings : FinalizeReadings)
      (gate : GateResult)
  /-- The outbox delivers: claims, sends, settles, scans or requeues. -/
  | deliver (event : OutboxEvent) (filesNone : event.isCreate = false)

def NotifyState.tables (state : NotifyState) : FinalizedTables :=
  ⟨state.events, state.traces, state.delivery.database.outboxes⟩

def NotifyState.told (state : NotifyState) : OutboxState :=
  { state.delivery with
    database := { state.delivery.database with webhookEvents := noticesOf state.events } }

def newRows (before after : OutboxTable) : List ForwardOutbox :=
  after.rows.filter fun row => before.nextKey ≤ row.id

def recordedBy (env : OutboxEnvironment) (state : OutboxState) :
    OutboxEvent → List (ForwardOutbox × DateTime)
  | .finalize now policy worker =>
      (settledRow env state (.finalize now policy worker)).toList.map fun row => (row, now)
  | _ => []

section System

variable (settings : FinalizeSettings) (env : OutboxEnvironment) (policy : ForwardingPolicy)

/-- What a transaction of the pipeline makes of the tables. -/
def processed (context : ProcessContext) (findings : AlertFindings) (readings : FinalizeReadings)
    (gate : GateResult) (tables : FinalizedTables) : FinalizedTables :=
  (runProcessingPipeline settings context findings
    { readings with forwardingPolicy := policy } gate tables).1

def step (state : NotifyState) : NotifyStep → NotifyState
  | .process context findings readings gate =>
      let after := processed settings policy context findings readings gate state.tables
      { state with
        events := after.events
        traces := after.traces
        delivery :=
          { state.delivery with
            database := { state.delivery.database with outboxes := after.outbox } }
        decided := state.decided ++
          (newRows state.delivery.database.outboxes after.outbox).map fun row =>
            ⟨row, readings.now⟩ }
  | .deliver event _ =>
      let after := ForwardOutboxLifecycle.step env state.told event
      { state with
        events := withNotices after.database.webhookEvents state.events
        delivery := after
        recorded := state.recorded ++ recordedBy env state.told event }

/-- No alert was processed yet. -/
def initial (forwardRules : Table ForwardRule.id) : NotifyState where
  events := .empty
  traces := .empty
  delivery := ForwardOutboxLifecycle.initial .empty forwardRules
  decided := []
  recorded := []

/-- The original of the alert that a delivery is for. -/
def chainOf (row : ForwardOutbox) : Option Nat :=
  row.originalEventId <|> row.webhookEventId

def lastRecorded (eventId : Nat) (recorded : List (ForwardOutbox × DateTime)) : Option DateTime :=
  ((recorded.filter fun entry => entry.1.relatedWebhookEventIds.contains eventId).getLast?).map
    Prod.snd

/-- No two deliveries of a chain to one rule, outside a digest, are decided less than the
cooldown apart. -/
def DecisionsApart (state : NotifyState) : Prop :=
  state.decided.Pairwise fun first second =>
    first.row.digestKey = none → second.row.digestKey = none →
    chainOf first.row = chainOf second.row →
    first.row.forwardRuleId = second.row.forwardRuleId →
      first.decidedAt.addSeconds policy.notificationCooldownSeconds ≤ second.decidedAt ∨
        second.decidedAt.addSeconds policy.notificationCooldownSeconds ≤ first.decidedAt

/-! ## What is recorded -/

theorem lastRecorded_append (eventId : Nat) (recorded : List (ForwardOutbox × DateTime))
    (row : ForwardOutbox) (now : DateTime) :
    lastRecorded eventId (recorded ++ [(row, now)]) =
      if row.relatedWebhookEventIds.contains eventId then some now
      else lastRecorded eventId recorded := by
  unfold lastRecorded
  rw [List.filter_append]
  split
  · rename_i related
    simp only [List.filter_cons, related, if_true, List.filter_nil]
    rw [List.getLast?_concat]
    rfl
  · rename_i unrelated
    simp only [List.filter_cons, unrelated, List.filter_nil, Bool.false_eq_true, if_false,
      List.append_nil]

theorem exists_mem_of_lastRecorded {recorded : List (ForwardOutbox × DateTime)}
    {notifiedAt : DateTime} (last : lastRecorded eventId recorded = some notifiedAt) :
    ∃ entry ∈ recorded, eventId ∈ entry.1.relatedWebhookEventIds := by
  obtain ⟨entry, isLast, _⟩ := Option.map_eq_some_iff.1 last
  obtain ⟨member, related⟩ := List.mem_filter.1 (List.mem_of_getLast? isLast)
  exact ⟨entry, member, List.contains_iff_mem.1 related⟩

theorem mem_relatedWebhookEventIds :
    eventId ∈ row.relatedWebhookEventIds ↔
      (row.webhookEventId = some eventId ∨ row.originalEventId = some eventId) ∧ eventId ≠ 0 := by
  unfold ForwardOutbox.relatedWebhookEventIds
  rw [List.mem_eraseDups, List.mem_filter, List.reduceOption_mem_iff, List.mem_cons,
    List.mem_singleton, decide_eq_true_eq, @eq_comm _ (some eventId), @eq_comm _ (some eventId)]

/-! ## What the outbox writes to the events -/

/-- A notice under the same id, notified when it was before or at a given time. -/
structure Tells (notices : Table WebhookEventNotice.id) (wanted : Nat)
    (notifiedAt : Option DateTime) : Prop where
  notified : (notices.lookup wanted).map WebhookEventNotice.lastNotifiedAt = some notifiedAt

theorem tells_updateEvents (tells : Tells notices wanted notifiedAt) (eventIds : List Nat)
    (change : WebhookEventNotice → WebhookEventNotice)
    (keeps : ∀ notice, (change notice).id = notice.id) (later : Option DateTime)
    (changes : ∀ notice : WebhookEventNotice, notice.id = wanted →
      notice.lastNotifiedAt = notifiedAt →
      (if eventIds.contains wanted then change notice else notice).lastNotifiedAt = later) :
    Tells (updateEvents notices eventIds change keeps) wanted later := by
  obtain ⟨notice, found, same⟩ := Option.map_eq_some_iff.1 tells.notified
  refine ⟨?_⟩
  unfold updateEvents
  rw [Table.lookup_update, found, Option.map_some, Option.map_some]
  have ownId := (Table.lookup_eq_some_iff.1 found).2
  rw [ownId]
  exact congrArg some (changes notice ownId same)

theorem settled_webhookEvents {now : DateTime} {record current : ForwardOutbox}
    {result : JsonObject} {settledDatabase : Database}
    (ended : finalizeOutboxSuccess env now record result database =
      .settled settledDatabase current) :
    settledDatabase.webhookEvents =
      updateEvents database.webhookEvents current.relatedWebhookEventIds
        (fun event => { event with lastNotifiedAt := some now, forwardStatus := some "sent" })
        fun _ => rfl := by
  unfold finalizeOutboxSuccess at ended
  split at ended
  · contradiction
  · simp only at ended
    split at ended
    · split at ended
      · contradiction
      · simp only [SuccessEnd.settled.injEq] at ended
        obtain ⟨rfl, rfl⟩ := ended
        rfl
    · simp only [SuccessEnd.settled.injEq] at ended
      obtain ⟨rfl, rfl⟩ := ended
      rfl

theorem quarantine_webhookEvents (now : DateTime) (failure : DeliveryFailure)
    (record : ForwardOutbox) (database : Database) :
    (quarantine now failure record database).webhookEvents = database.webhookEvents := by
  unfold quarantine
  split
  · rfl
  · split
    · split <;> rfl
    · rfl

theorem tells_failed (tells : Tells notices wanted notifiedAt) (eventIds : List Nat) :
    Tells (updateEvents notices eventIds
      (fun event => { event with forwardStatus := some "failed" }) fun _ => rfl) wanted
      notifiedAt := by
  refine tells_updateEvents tells eventIds _ _ notifiedAt ?_
  intro notice _ same
  split
  · exact same
  · exact same

theorem tells_finalizeOutboxFailure (tells : Tells database.webhookEvents wanted notifiedAt)
    (policy : ForwardDeliveryPolicy) (now : DateTime) (outboxId : Nat) (failure : DeliveryFailure) :
    Tells (finalizeOutboxFailure policy now outboxId failure database).webhookEvents wanted
      notifiedAt := by
  unfold finalizeOutboxFailure
  split
  · exact tells
  · split
    · exact tells
    · simp only
      split
      · rw [quarantine_webhookEvents]
        exact tells_failed tells _
      · exact tells

theorem tells_parkDigestSiblings (tells : Tells database.webhookEvents wanted notifiedAt)
    (now : DateTime) (leaderId : Nat) (siblings : List ForwardOutbox) (error : String) :
    Tells (parkDigestSiblings now leaderId siblings error database).webhookEvents wanted
      notifiedAt := by
  unfold parkDigestSiblings
  simp only
  split
  · exact tells
  · split
    · exact tells
    · exact tells_failed tells _

theorem tells_runTask (tells : Tells database.webhookEvents wanted notifiedAt)
    (policy : ForwardDeliveryPolicy) (now : DateTime) (task : FinalizeTask) :
    Tells (runTask env policy now task database).database.webhookEvents wanted
      (if (runTask env policy now task database).settled.any
          (·.relatedWebhookEventIds.contains wanted) then some now else notifiedAt) := by
  cases task with
  | success record result message =>
      cases ended : finalizeOutboxSuccess env now record result database with
      | alreadySettled | rolledBack =>
          simp only [runTask, ended]
          exact tells
      | settled settledDatabase current =>
          simp only [runTask, ended, settled_webhookEvents env ended, Option.any_some]
          refine tells_updateEvents tells _ _ _ _ ?_
          intro notice _ same
          split
          · rfl
          · exact same
  | failure outboxId failure => exact tells_finalizeOutboxFailure tells policy now outboxId failure
  | park leaderId siblings error => exact tells_parkDigestSiblings tells now leaderId siblings error

theorem webhookEvents_step (state : OutboxState) (event : OutboxEvent)
    (settlesNone : ∀ now policy worker, event ≠ .finalize now policy worker) :
    (ForwardOutboxLifecycle.step env state event).database.webhookEvents =
      state.database.webhookEvents := by
  cases event with
  | finalize now policy worker => exact absurd rfl (settlesNone now policy worker)
  | claimSiblings | deliver =>
      simp only [ForwardOutboxLifecycle.step]
      split
      · split <;> rfl
      · rfl
  | _ => rfl

theorem tells_step {state : OutboxState} {wanted : Nat}
    {recorded : List (ForwardOutbox × DateTime)}
    (tells : Tells state.database.webhookEvents wanted (lastRecorded wanted recorded))
    (event : OutboxEvent) :
    Tells (ForwardOutboxLifecycle.step env state event).database.webhookEvents wanted
      (lastRecorded wanted (recorded ++ recordedBy env state event)) := by
  cases event with
  | finalize now policy worker =>
      by_cases busy : ∃ task tasks, state.workers[worker]? = some (.finishing (task :: tasks))
      · rcases busy with ⟨task, tasks, atTask⟩
        have told := tells_runTask env tells policy now task
        have stepped : ForwardOutboxLifecycle.step env state (.finalize now policy worker) =
            afterTask env policy now state worker task tasks := by
          simp only [ForwardOutboxLifecycle.step, atTask]
        have settledHere : settledRow env state (.finalize now policy worker) =
            (runTask env policy now task state.database).settled := by
          simp only [settledRow, atTask]
        rw [stepped, recordedBy, settledHere]
        cases settled : (runTask env policy now task state.database).settled with
        | none =>
            rw [settled] at told
            simpa [afterTask] using told
        | some row =>
            rw [settled, Option.any_some] at told
            simp only [Option.toList_some, List.map_cons, List.map_nil, afterTask]
            rw [lastRecorded_append]
            exact told
      · have idle (task : FinalizeTask) (tasks : List FinalizeTask) :
            state.workers[worker]? ≠ some (.finishing (task :: tasks)) :=
          fun atTask => busy ⟨task, tasks, atTask⟩
        have unmoved : ForwardOutboxLifecycle.step env state (.finalize now policy worker) =
            state := by
          simp only [ForwardOutboxLifecycle.step]
        have unsettled : settledRow env state (.finalize now policy worker) = none := by
          simp only [settledRow]
        rw [unmoved, recordedBy, unsettled]
        simpa using tells
  | _ =>
      rw [webhookEvents_step env state _ (by intros; simp)]
      simpa [recordedBy] using tells

/-! ## What a save leaves to the outbox -/

def Stored (events : EventTable) (eventId : Nat) : Prop :=
  ∃ event ∈ events.rows, event.id = eventId

/-- The events that saves alone have written. -/
structure EventsSound (events : EventTable) : Prop where
  completed : ∀ event ∈ events.rows, event.processingStatus = .completed
  linked : ∀ event ∈ events.rows, event.isDuplicate = event.duplicateOf.isSome
  originals : ∀ event ∈ events.rows, ∀ original ∈ event.duplicateOf, Stored events original

/-- The same columns, as far as the cooldown goes. -/
structure SameNotice (event later : WebhookEvent) : Prop where
  id : later.id = event.id
  lastNotifiedAt : later.lastNotifiedAt = event.lastNotifiedAt
  processingStatus : later.processingStatus = event.processingStatus
  isDuplicate : later.isDuplicate = event.isDuplicate
  duplicateOf : later.duplicateOf = event.duplicateOf

theorem SameNotice.refl (event : WebhookEvent) : SameNotice event event :=
  ⟨rfl, rfl, rfl, rfl, rfl⟩

theorem SameNotice.trans {first second third : WebhookEvent} (early : SameNotice first second)
    (late : SameNotice second third) : SameNotice first third :=
  ⟨late.id.trans early.id, late.lastNotifiedAt.trans early.lastNotifiedAt,
    late.processingStatus.trans early.processingStatus, late.isDuplicate.trans early.isDuplicate,
    late.duplicateOf.trans early.duplicateOf⟩

theorem sameNotice_of_sameLinks {event later : WebhookEvent} (sameId : event.id = later.id)
    (same : SameLinks false event later) : SameNotice event later := by
  refine ⟨sameId.symm, ?_, ?_, ?_, ?_⟩
  all_goals rw [same]

theorem sameNotice_withForwardStatus (now : DateTime) (status : String) (event : WebhookEvent) :
    SameNotice event (withForwardStatus now status event) := by
  unfold withForwardStatus
  split
  · exact .refl event
  · exact ⟨rfl, rfl, rfl, rfl, rfl⟩

/-- An event that nobody has been notified of, of a request that is just completed. -/
structure Unnotified (events : EventTable) (event : WebhookEvent) : Prop where
  fresh : ¬ Stored events event.id
  lastNotifiedAt : event.lastNotifiedAt = none
  completed : event.processingStatus = .completed
  linked : event.isDuplicate = event.duplicateOf.isSome
  original : ∀ original ∈ event.duplicateOf, Stored events original

/-- What a transaction of the pipeline does to the events: at most one is new. -/
structure EventsGrow (events after : EventTable) : Prop where
  kept : ∀ event ∈ events.rows, ∃ later ∈ after.rows, SameNotice event later
  origin : ∀ later ∈ after.rows,
    (∃ event ∈ events.rows, SameNotice event later) ∨ Unnotified events later

theorem EventsGrow.refl (events : EventTable) : EventsGrow events events :=
  ⟨fun event member => ⟨event, member, .refl event⟩,
    fun event member => Or.inl ⟨event, member, .refl event⟩⟩

theorem EventsGrow.stored {events after : EventTable} (grows : EventsGrow events after)
    {eventId : Nat} (stored : Stored events eventId) : Stored after eventId := by
  obtain ⟨event, member, rfl⟩ := stored
  obtain ⟨later, laterMember, same⟩ := grows.kept event member
  exact ⟨later, laterMember, same.id⟩

theorem EventsGrow.sound {events after : EventTable} (grows : EventsGrow events after)
    (sound : EventsSound events) : EventsSound after := by
  refine ⟨?_, ?_, ?_⟩
  · intro later member
    rcases grows.origin later member with ⟨event, eventMember, same⟩ | fresh
    · exact same.processingStatus.trans (sound.completed event eventMember)
    · exact fresh.completed
  · intro later member
    rcases grows.origin later member with ⟨event, eventMember, same⟩ | fresh
    · rw [same.isDuplicate, same.duplicateOf]
      exact sound.linked event eventMember
    · exact fresh.linked
  · intro later member original linked
    rcases grows.origin later member with ⟨event, eventMember, same⟩ | fresh
    · rw [same.duplicateOf] at linked
      exact grows.stored (sound.originals event eventMember original linked)
    · exact grows.stored (fresh.original original linked)

theorem unnotified_savedEvent {saving : SaveEnvironment} {times : SaveTimes}
    {request : SaveRequest} {events : EventTable} (absent : existingEvent request events = none) :
    Unnotified events (savedEvent saving times request events) := by
  have freshId : (savedEvent saving times request events).id = events.nextKey := by
    rw [savedEvent_id, absent]
    rfl
  refine ⟨?_, ?_, savedEvent_processingStatus, ?_, ?_⟩
  · rintro ⟨event, member, sameId⟩
    have below := events.keys_lt event member
    rw [sameId, freshId] at below
    exact absurd below (lt_irrefl _)
  · unfold savedEvent savedInput
    rw [absent]
    cases repeatedEvent (savedStatus saving times request events) events <;> rfl
  · rw [savedEvent_isDuplicate, savedEvent_duplicateOf, Option.isSome_map]
  · intro original linked
    rw [savedEvent_duplicateOf] at linked
    obtain ⟨repeated, isRepeated, rfl⟩ := Option.map_eq_some_iff.1 linked
    obtain ⟨_, _, found⟩ := Option.bind_eq_some_iff.1 isRepeated
    exact ⟨repeated, (Table.lookup_eq_some_iff.1 found).1, rfl⟩

/-- What the decision is told of the event that was saved. -/
structure SaveReports (events after : EventTable) (saved : SaveWebhookResult) : Prop where
  grows : EventsGrow events after
  stored : Stored after saved.webhookId
  linked : saved.isDuplicate = saved.originalId.isSome
  original : ∀ original ∈ saved.originalId, Stored events original

theorem saveReports {saving : SaveEnvironment} {times : SaveTimes} {request : SaveRequest}
    {after : EventTable} {saved : SaveWebhookResult} (sound : EventsSound events)
    (analysedOnce : request.payload.reanalyzed = false)
    (saves : saveWebhookDataInSession saving times request events = some (after, saved)) :
    SaveReports events after saved := by
  rcases saveWebhookDataInSession_spec saves with ⟨rfl, row, found, _, rfl⟩ | ⟨written, rfl⟩
  · have member := (existingEvent_spec found).1
    exact ⟨.refl after, ⟨row, member, rfl⟩, sound.linked row member, sound.originals row member⟩
  · rw [analysedOnce] at written
    have absent : existingEvent request events = none := by
      by_contra present
      obtain ⟨row, found⟩ := Option.ne_none_iff_exists'.1 present
      have member := (existingEvent_spec found).1
      have sameId : row.id = (savedEvent saving times request events).id := by
        rw [savedEvent_id, found]
        rfl
      exact written.unfinished row member sameId (sound.completed row member)
    have fresh := @unnotified_savedEvent saving times _ _ absent
    refine ⟨⟨?_, ?_⟩, ⟨_, written.stored, rfl⟩, fresh.linked, fresh.original⟩
    · intro event member
      have other : event.id ≠ (savedEvent saving times request events).id :=
        fun sameId => fresh.fresh ⟨event, member, sameId⟩
      obtain ⟨later, laterMember, sameId, same⟩ := written.kept event member other
      exact ⟨later, laterMember, sameNotice_of_sameLinks sameId.symm same⟩
    · intro later member
      by_cases own : later.id = (savedEvent saving times request events).id
      · rw [Table.eq_of_key_eq member written.stored own]
        exact Or.inr fresh
      · obtain ⟨event, eventMember, sameId, same⟩ := written.others later member own
        exact Or.inl ⟨event, eventMember, sameNotice_of_sameLinks sameId same⟩

/-! ## What a transaction of the pipeline decides -/

theorem cooldown_of_shouldForward {runtime : MatchRuntime} {request : ForwardingRequest}
    {notifiedAt : DateTime} (isDuplicate : request.isDuplicate = true)
    (notified : request.lastNotifiedAt = some notifiedAt)
    (forwards : (decideForwarding runtime request).shouldForward = true) :
    notifiedAt.addSeconds request.policy.notificationCooldownSeconds ≤ request.now := by
  have unsuppressed := unsuppressed_of_shouldForward forwards
  unfold decideForwarding at forwards
  simp only [unsuppressed.noise, unsuppressed.flapping, unsuppressed.silences, decideByRules,
    isDuplicate, notified, Option.map_some, if_true, Bool.false_eq_true, if_false] at forwards
  unfold decideDuplicateAlert at forwards
  simp only [Option.any_some, decide_eq_true_eq] at forwards
  split at forwards
  · cases forwards
  · rename_i over_
    exact Int.add_le_of_le_sub_left (Int.not_lt.1 over_)

/-- A delivery that a transaction has filed, for an event whose cooldown was over. -/
structure FiledFor (events after : EventTable) (now : DateTime) (row : ForwardOutbox) : Prop where
  stored : ∀ eventId ∈ row.relatedWebhookEventIds, Stored after eventId
  cooled : ∀ event ∈ events.rows, row.originalEventId = some event.id →
    ∀ notifiedAt ∈ event.lastNotifiedAt,
      notifiedAt.addSeconds policy.notificationCooldownSeconds ≤ now

variable {context : ProcessContext} {findings : AlertFindings} {readings : FinalizeReadings}
  {gate : GateResult} {tables : FinalizedTables}

theorem processed_cases :
    processed settings policy context findings readings gate tables = tables ∨
      ∃ events saved,
        saveWebhookDataInSession settings.saveEnvironment readings.times
          (saveRequest context findings) tables.events = some (events, saved) ∧
        processed settings policy context findings readings gate tables =
          (afterSave settings context findings { readings with forwardingPolicy := policy }
            { tables with events := events } saved).1 := by
  unfold processed runProcessingPipeline
  cases gate with
  | suppressed reason => exact Or.inl rfl
  | admitted lockLost =>
      cases lockLost with
      | true => exact Or.inl rfl
      | false =>
          unfold finalizeAnalysisTransaction
          cases saves : saveWebhookDataInSession settings.saveEnvironment readings.times
              (saveRequest context findings) tables.events with
          | none => exact Or.inl rfl
          | some written => exact Or.inr ⟨written.1, written.2, rfl, rfl⟩

theorem EventsGrow.marked {before : EventTable} (grows : EventsGrow before events) (webhookId : Nat)
    (now : DateTime) (status : String) :
    EventsGrow before (events.update (fun event => event.id = webhookId)
      (withForwardStatus now status) (withForwardStatus_id now status)) := by
  have kept (event : WebhookEvent) : SameNotice event
      (if decide (event.id = webhookId) then withForwardStatus now status event else event) := by
    split
    · exact sameNotice_withForwardStatus now status event
    · exact .refl event
  refine ⟨?_, ?_⟩
  · intro event member
    obtain ⟨later, laterMember, same⟩ := grows.kept event member
    refine ⟨if decide (later.id = webhookId) then withForwardStatus now status later else later,
      Table.mem_update.2 ⟨later, laterMember, rfl⟩, same.trans (kept later)⟩
  · intro later member
    obtain ⟨written, writtenMember, rfl⟩ := Table.mem_update.1 member
    have same := kept written
    rcases grows.origin written writtenMember with ⟨event, eventMember, earlier⟩ | fresh
    · exact Or.inl ⟨event, eventMember, earlier.trans same⟩
    · refine Or.inr ⟨?_, same.lastNotifiedAt.trans fresh.lastNotifiedAt,
        same.processingStatus.trans fresh.completed, ?_, ?_⟩
      · intro stored
        exact fresh.fresh (same.id ▸ stored)
      · exact same.isDuplicate.trans (fresh.linked.trans (congrArg Option.isSome same.duplicateOf.symm))
      · intro original linked
        exact fresh.original original (same.duplicateOf ▸ linked)

theorem filedFor_afterSave {saved : SaveWebhookResult}
    (reports : SaveReports tables.events events saved)
    (member : row ∈ (afterSave settings context findings
      { readings with forwardingPolicy := policy } { tables with events := events } saved).1.outbox.rows)
    :
    row ∈ tables.outbox.rows ∨
      FiledFor policy tables.events
        (afterSave settings context findings { readings with forwardingPolicy := policy }
          { tables with events := events } saved).1.events readings.now row := by
  unfold afterSave resolveAndForward at member
  dsimp only at member
  split at member
  · rename_i forwards
    rcases origin_of_mem_createOutboxRecords member with old | ⟨rule, _, _, id, rfl⟩
    · exact Or.inl old
    · refine Or.inr ⟨?_, ?_⟩
      · intro eventId related
        obtain ⟨event, eventMember, isRelated⟩ : Stored events eventId := by
          rcases (mem_relatedWebhookEventIds.1 related).1 with own | original
          · exact Option.some.inj own ▸ reports.stored
          · exact reports.grows.stored (reports.original eventId original)
        exact ((EventsGrow.refl events).marked saved.webhookId readings.now _).stored
          ⟨event, eventMember, isRelated⟩
      · intro event eventMember isOriginal notifiedAt notified
        change saved.originalId = some event.id at isOriginal
        obtain ⟨later, laterMember, same⟩ := reports.grows.kept event eventMember
        have read : saved.originalId.bind events.lookup = some later := by
          rw [isOriginal, ← same.id]
          exact Table.mem_rows_iff_lookup.1 laterMember
        refine cooldown_of_shouldForward ?_ ?_ forwards
        · change saved.isDuplicate = true
          rw [reports.linked, isOriginal]
          rfl
        · change (saved.originalId.bind events.lookup).bind WebhookEvent.lastNotifiedAt = _
          rw [read]
          exact same.lastNotifiedAt.trans notified
  · exact Or.inl member

/-! ## Runs -/

/-- The times of the events are those that the outbox has recorded. -/
structure Coherent (state : NotifyState) : Prop where
  sound : EventsSound state.events
  notified : ∀ event ∈ state.events.rows,
    event.lastNotifiedAt = lastRecorded event.id state.recorded
  filed : ∀ row ∈ state.delivery.database.outboxes.rows, ∀ eventId ∈ row.relatedWebhookEventIds,
    Stored state.events eventId
  recorded : ∀ entry ∈ state.recorded, ∀ eventId ∈ entry.1.relatedWebhookEventIds,
    Stored state.events eventId

theorem coherent_initial (forwardRules : Table ForwardRule.id) :
    Coherent (initial forwardRules) := by
  refine ⟨⟨?_, ?_, ?_⟩, ?_, ?_, ?_⟩
  all_goals
    intro row member
    cases member

theorem lastRecorded_of_not_stored {state : NotifyState} (coherent : Coherent state)
    {eventId : Nat} (unknown : ¬ Stored state.events eventId) :
    lastRecorded eventId state.recorded = none := by
  by_contra some_
  obtain ⟨notifiedAt, last⟩ := Option.ne_none_iff_exists'.1 some_
  obtain ⟨entry, member, related⟩ := exists_mem_of_lastRecorded last
  exact unknown (coherent.recorded entry member eventId related)

theorem processed_spec (sound : EventsSound tables.events) :
    EventsGrow tables.events (processed settings policy context findings readings gate tables).events ∧
      ∀ row ∈ (processed settings policy context findings readings gate tables).outbox.rows,
        row ∈ tables.outbox.rows ∨
          FiledFor policy tables.events
            (processed settings policy context findings readings gate tables).events readings.now
            row := by
  rcases @processed_cases settings policy context findings readings gate tables with
    same | ⟨events, saved, saves, same⟩
  · rw [same]
    exact ⟨.refl _, fun row member => Or.inl member⟩
  · rw [same]
    have reports := saveReports sound rfl saves
    exact ⟨reports.grows.marked saved.webhookId readings.now _,
      fun row member => filedFor_afterSave settings policy reports member⟩

theorem coherent_process {state : NotifyState} (coherent : Coherent state)
    (context : ProcessContext) (findings : AlertFindings) (readings : FinalizeReadings)
    (gate : GateResult) :
    Coherent (step settings env policy state (.process context findings readings gate)) := by
  obtain ⟨grows, filed⟩ := @processed_spec settings policy context findings readings gate
    state.tables coherent.sound
  refine ⟨grows.sound coherent.sound, ?_, ?_, ?_⟩
  · intro later member
    rcases grows.origin later member with ⟨event, eventMember, same⟩ | fresh
    · rw [same.lastNotifiedAt, same.id]
      exact coherent.notified event eventMember
    · rw [fresh.lastNotifiedAt]
      exact (lastRecorded_of_not_stored coherent fresh.fresh).symm
  · intro row member eventId related
    rcases filed row member with old | new
    · exact grows.stored (coherent.filed row old eventId related)
    · exact new.stored eventId related
  · intro entry member eventId related
    exact grows.stored (coherent.recorded entry member eventId related)

theorem stored_of_mem_recordedBy {state : NotifyState} (coherent : Coherent state)
    {event : OutboxEvent} {entry : ForwardOutbox × DateTime}
    (member : entry ∈ recordedBy env state.told event) {eventId : Nat}
    (related : eventId ∈ entry.1.relatedWebhookEventIds) : Stored state.events eventId := by
  cases event with
  | finalize now policy worker =>
      obtain ⟨row, settled, rfl⟩ := List.mem_map.1 member
      simp only [settledRow, Option.mem_toList] at settled
      split at settled
      · rename_i task tasks atTask
        cases task with
        | success record result message =>
            cases ended : finalizeOutboxSuccess env now record result state.told.database with
            | alreadySettled | rolledBack => simp [runTask, ended] at settled
            | settled settledDatabase current =>
                simp only [runTask, ended, Option.some.injEq] at settled
                obtain ⟨old, oldMember, -, -, isSent⟩ :=
                  unsettled_of_returning_sent (settled_outboxes ended).1
                rw [← settled, ← isSent] at related
                exact coherent.filed old oldMember eventId related
        | failure | park => simp [runTask] at settled
      · cases settled
  | _ => cases member

theorem mem_withNotices {later : WebhookEvent} :
    later ∈ (withNotices notices events).rows ↔
      ∃ event ∈ events.rows, withNotice notices event = later := by
  unfold withNotices
  rw [Table.mem_update]
  simp only [if_true]

theorem stored_withNotices (stored : Stored events eventId) :
    Stored (withNotices notices events) eventId :=
  Table.exists_key_update.2 stored

theorem relatedWebhookEventIds_of_rowSteps {requeuedId sentId : Option Nat}
    {Returned : ForwardOutbox → Prop} {moved : ForwardOutbox}
    (steps : RowSteps requeuedId sentId Returned row moved) :
    moved.relatedWebhookEventIds = row.relatedWebhookEventIds := by
  obtain ⟨own, original⟩ := steps.sameEvents
  unfold ForwardOutbox.relatedWebhookEventIds
  rw [own, original]

theorem lastNotifiedAt_withNotice {state : NotifyState} (coherent : Coherent state)
    (event : OutboxEvent) {row : WebhookEvent} (member : row ∈ state.events.rows) :
    (withNotice (ForwardOutboxLifecycle.step env state.told event).database.webhookEvents
        row).lastNotifiedAt =
      lastRecorded row.id (state.recorded ++ recordedBy env state.told event) := by
  have tells : Tells state.told.database.webhookEvents row.id
      (lastRecorded row.id state.recorded) := by
    refine ⟨?_⟩
    change ((noticesOf state.events).lookup row.id).map WebhookEventNotice.lastNotifiedAt = _
    rw [lookup_noticesOf, Table.mem_rows_iff_lookup.1 member, ← coherent.notified row member]
    rfl
  obtain ⟨notice, found, notified⟩ := Option.map_eq_some_iff.1 (tells_step env tells event).notified
  unfold withNotice
  rw [found]
  exact notified

theorem withNotice_links (notices : Table WebhookEventNotice.id) (event : WebhookEvent) :
    (withNotice notices event).processingStatus = event.processingStatus ∧
      (withNotice notices event).isDuplicate = event.isDuplicate ∧
      (withNotice notices event).duplicateOf = event.duplicateOf := by
  unfold withNotice
  split <;> exact ⟨rfl, rfl, rfl⟩

theorem sound_withNotices (sound : EventsSound events) (notices : Table WebhookEventNotice.id) :
    EventsSound (withNotices notices events) := by
  refine ⟨?_, ?_, ?_⟩
  · intro later member
    obtain ⟨event, eventMember, rfl⟩ := mem_withNotices.1 member
    rw [(withNotice_links notices event).1]
    exact sound.completed event eventMember
  · intro later member
    obtain ⟨event, eventMember, rfl⟩ := mem_withNotices.1 member
    rw [(withNotice_links notices event).2.1, (withNotice_links notices event).2.2]
    exact sound.linked event eventMember
  · intro later member original linked
    obtain ⟨event, eventMember, rfl⟩ := mem_withNotices.1 member
    rw [(withNotice_links notices event).2.2] at linked
    exact stored_withNotices (sound.originals event eventMember original linked)

theorem coherent_deliver {state : NotifyState} (coherent : Coherent state) (event : OutboxEvent)
    (filesNone : event.isCreate = false) :
    Coherent (step settings env policy state (.deliver event filesNone)) := by
  refine ⟨sound_withNotices coherent.sound _, ?_, ?_, ?_⟩
  · intro later member
    obtain ⟨row, rowMember, rfl⟩ := mem_withNotices.1 member
    rw [withNotice_id]
    exact lastNotifiedAt_withNotice env coherent event rowMember
  · intro moved member eventId related
    rcases (@step_rowsMove (fun _ => True) env state.told event filesNone
      fun _ _ => trivial).origin moved member with ⟨row, rowMember, -, steps⟩ | none_
    · rw [relatedWebhookEventIds_of_rowSteps steps] at related
      exact stored_withNotices (coherent.filed row rowMember eventId related)
    · exact none_.elim
  · intro entry member eventId related
    apply stored_withNotices
    rcases List.mem_append.1 member with old | new
    · exact coherent.recorded entry old eventId related
    · exact stored_of_mem_recordedBy env coherent new related

theorem coherent_run (forwardRules : Table ForwardRule.id) (steps : List NotifyStep) :
    Coherent (GuardedRuns.run (step settings env policy) (initial forwardRules) steps) := by
  apply GuardedRuns.run_invariant
  · exact coherent_initial forwardRules
  · intro state event coherent
    cases event with
    | process context findings readings gate =>
        exact coherent_process settings env policy coherent context findings readings gate
    | deliver event filesNone => exact coherent_deliver settings env policy coherent event filesNone

/-- The cooldown counts from the last delivery on record.  Whatever was processed, delivered
and recorded before, in any order and at any times, a delivery that is decided for a duplicate
is decided when the cooldown since the last recorded delivery of its chain is over; so it is
decided at least the cooldown after every earlier delivery of the chain to the same rule that
was decided by the recorded time. -/
theorem decided_after_recorded_cooldown (settings : FinalizeSettings) (env : OutboxEnvironment)
    (policy : ForwardingPolicy) (forwardRules : Table ForwardRule.id) (steps : List NotifyStep)
    (context : ProcessContext) (findings : AlertFindings) (readings : FinalizeReadings)
    (gate : GateResult) (state after : NotifyState)
    (reached : state = GuardedRuns.run (step settings env policy) (initial forwardRules) steps)
    (stepped : after = step settings env policy state (.process context findings readings gate))
    (row : ForwardOutbox)
    (new : row ∈ newRows state.delivery.database.outboxes after.delivery.database.outboxes)
    (original : Nat) (isDuplicate : row.originalEventId = some original) (recordedAt : DateTime)
    (last : lastRecorded original state.recorded = some recordedAt) :
    recordedAt.addSeconds policy.notificationCooldownSeconds ≤ readings.now ∧
      ∀ first ∈ state.decided, chainOf first.row = some original →
        first.row.forwardRuleId = row.forwardRuleId → first.decidedAt ≤ recordedAt →
          first.decidedAt.addSeconds policy.notificationCooldownSeconds ≤ readings.now := by
  have coherent : Coherent state := reached ▸ coherent_run settings env policy forwardRules steps
  subst stepped
  obtain ⟨member, isNew⟩ := List.mem_filter.1 new
  have cooled : recordedAt.addSeconds policy.notificationCooldownSeconds ≤ readings.now := by
    rcases (@processed_spec settings policy context findings readings gate state.tables
      coherent.sound).2 row member with old | filed
    · have below := state.delivery.database.outboxes.keys_lt row old
      exact absurd (of_decide_eq_true isNew) (Nat.not_le.2 below)
    · obtain ⟨entry, entryMember, related⟩ := exists_mem_of_lastRecorded last
      obtain ⟨event, eventMember, isOriginal⟩ :=
        coherent.recorded entry entryMember original related
      refine filed.cooled event eventMember (isOriginal ▸ isDuplicate) recordedAt ?_
      rw [coherent.notified event eventMember, isOriginal]
      exact last
  refine ⟨cooled, fun first _ _ _ decided => ?_⟩
  exact Int.le_trans (DateTime.addSeconds_le_addSeconds decided _) cooled

end System

/-! ## Runs of a small deployment -/

private def hourlyPolicy : ForwardingPolicy :=
  ⟨60, false, 6⟩

private def arrival (requestId : String) (now : DateTime) : NotifyStep :=
  .process (sampleContext requestId) sampleFindings (sampleReadings [sampleRoute] now)
    (.admitted false)

private def sampleState (steps : List NotifyStep) : NotifyState :=
  GuardedRuns.run (step sampleSettings sampleEnvironment hourlyPolicy) (initial .empty) steps

instance (policy : ForwardingPolicy) (state : NotifyState) :
    Decidable (DecisionsApart policy state) :=
  inferInstanceAs (Decidable (List.Pairwise _ _))

/-- A duplicate that comes a second after its original, before the delivery of the original is
on record, is decided for the same rule. -/
theorem undelivered_original_holds_nothing_back :
    ¬ ∀ (settings : FinalizeSettings) (env : OutboxEnvironment) (policy : ForwardingPolicy)
        (forwardRules : Table ForwardRule.id) (steps : List NotifyStep),
        DecisionsApart policy
          (GuardedRuns.run (step settings env policy) (initial forwardRules) steps) := by
  intro apart
  have decided := apart sampleSettings sampleEnvironment hourlyPolicy .empty
    [arrival "first" 0, arrival "second" 1000000]
  exact absurd decided (by decide)

private def deliveredRun : List NotifyStep :=
  let policy := (sampleReadings [] 0).deliveryPolicy
  [arrival "first" 0,
    .deliver (.claim 0 policy .scheduled 1) rfl,
    .deliver (.deliver 0 0 (.returned [("status", .str "success")])) rfl,
    .deliver (.finalize 1000000 policy 0) rfl]

private theorem exists_new_delivery :
    ((newRows (sampleState deliveredRun).delivery.database.outboxes
        (step sampleSettings sampleEnvironment hourlyPolicy (sampleState deliveredRun)
          (arrival "second" 61000000)).delivery.database.outboxes).map
      ForwardOutbox.originalEventId) = [some 1] := by
  decide

theorem decided_after_recorded_cooldown_sample : ∃ row : ForwardOutbox,
    row.originalEventId = some 1 ∧
      DateTime.addSeconds 1000000 60 ≤ 61000000 ∧
      ∀ first ∈ (sampleState deliveredRun).decided, chainOf first.row = some 1 →
        first.row.forwardRuleId = row.forwardRuleId → first.decidedAt ≤ 1000000 →
          first.decidedAt.addSeconds 60 ≤ 61000000 := by
  obtain ⟨row, member, isDuplicate⟩ := List.mem_map.1 (exists_new_delivery ▸ List.mem_singleton_self _)
  exact ⟨row, isDuplicate, decided_after_recorded_cooldown sampleSettings sampleEnvironment
    hourlyPolicy .empty deliveredRun (sampleContext "second") sampleFindings
    (sampleReadings [sampleRoute] 61000000) (.admitted false) _ _ rfl rfl row member 1 isDuplicate
    1000000 (by decide)⟩

end NotificationCooldown

end WebhookWise
