import WebhookWise.ForwardOutboxRowSteps

/-!
# How outbox rows are settled

Over every run of the outbox lifecycle: a SENT row stays SENT, an expired or
exhausted row is revived by a manual requeue alone, the time of sending is set
on SENT rows and on no others, and a row gets at most one follow-up record,
inserted by the event which makes it SENT when its channel reports a pending
result.
-/

namespace WebhookWise

open SqlTable ForwardChannels ForwardOutboxRecords ForwardOutboxStatements

namespace ForwardOutboxLifecycle

/-- The outbox rows which follow-up records were inserted for, in order. -/
def followedUpIds (database : Database) : List Nat :=
  database.followUps.rows.map FollowUp.outboxId

def deliveredResult (state : OutboxState) : OutboxEvent → Option JsonObject
  | .finalize _ _ worker =>
      match state.workers[worker]? with
      | some (.finishing (.success _ result _ :: _)) => some result
      | _ => none
  | _ => none

/-- The event settles a row, and the row's channel reports a pending result. -/
def ReportsPending (env : OutboxEnvironment) (state : OutboxState) (event : OutboxEvent) : Prop :=
  ∃ current result, settledRow env state event = some current ∧
    deliveredResult state event = some result ∧
    (resolveChannel env.python current).needsFollowupOnSuccess result = true

/-- The row under this id is SENT in the later database and was not before. -/
def BecomesSent (before after : Database) (outboxId : Nat) : Prop :=
  ∃ row moved, before.outboxes.lookup outboxId = some row ∧ row.status ≠ .sent ∧
    after.outboxes.lookup outboxId = some moved ∧ moved.status = .sent

variable {env : OutboxEnvironment}

/-! ## What the success finalizer does -/

theorem settled_becomesSent {now : DateTime} {record : ForwardOutbox} {result : JsonObject}
    {database settledDatabase : Database} {current : ForwardOutbox}
    (ended : finalizeOutboxSuccess env now record result database =
      .settled settledDatabase current) :
    BecomesSent database settledDatabase current.id := by
  obtain ⟨returned, _⟩ := settled_outboxes ended
  obtain ⟨row, member, _, unsettled, rfl⟩ := unsettled_of_returning_sent returned
  have moves : RowsMove none _ (fun _ => True) database.outboxes settledDatabase.outboxes :=
    settled_rowsMove ended
  have found : database.outboxes.lookup row.id = some row :=
    Table.lookup_eq_some_iff.2 ⟨member, rfl⟩
  obtain ⟨moved, movedFound, _⟩ := moves.lookup found
  refine ⟨row, moved, found, ForwardOutboxStatus.ne_sent_of_not_isTerminal unsettled, movedFound, ?_⟩
  -- The row was SENT before its response was stored, and it stays SENT.
  obtain ⟨_, written⟩ := settled_outboxes ended
  rw [written] at movedFound
  obtain ⟨movedMember, movedId⟩ := Table.lookup_eq_some_iff.1 movedFound
  obtain ⟨before, beforeMember, rfl⟩ := Table.mem_update.1 movedMember
  have sameId : before.id = row.id := by
    split at movedId <;> exact movedId
  have beforeSent : before.status = .sent := status_markSent returned beforeMember sameId
  split <;> exact beforeSent

theorem settled_followedUpIds {now : DateTime} {record : ForwardOutbox} {result : JsonObject}
    {database settledDatabase : Database} {current : ForwardOutbox}
    (ended : finalizeOutboxSuccess env now record result database =
      .settled settledDatabase current) :
    followedUpIds settledDatabase = followedUpIds database ++
      if (resolveChannel env.python current).needsFollowupOnSuccess result then [current.id]
      else [] := by
  unfold finalizeOutboxSuccess at ended
  split at ended
  · contradiction
  · simp only at ended
    split at ended
    · rename_i needsFollowup
      split at ended
      · contradiction
      · simp only [SuccessEnd.settled.injEq] at ended
        obtain ⟨rfl, rfl⟩ := ended
        simp [followedUpIds, Table.insert, followUpRow, needsFollowup]
    · rename_i noFollowup
      simp only [SuccessEnd.settled.injEq] at ended
      obtain ⟨rfl, rfl⟩ := ended
      simp [followedUpIds, noFollowup]

/-! ## What an event does -/

variable {state : OutboxState} {event : OutboxEvent} {outboxId : Nat}

def followUpRequest (env : OutboxEnvironment) (state : OutboxState) (event : OutboxEvent) :
    Option Nat :=
  match settledRow env state event, deliveredResult state event with
  | some current, some result =>
      if (resolveChannel env.python current).needsFollowupOnSuccess result then some current.id
      else none
  | _, _ => none

private theorem finalizeOutboxFailure_followUps (policy : ForwardDeliveryPolicy) (now : DateTime)
    (outboxId : Nat) (failure : DeliveryFailure) (database : Database) :
    (finalizeOutboxFailure policy now outboxId failure database).followUps =
      database.followUps := by
  unfold finalizeOutboxFailure
  split
  · rfl
  · split
    · rfl
    · simp only
      split
      · exact (quarantine_frame ..).2
      · rfl

private theorem parkDigestSiblings_followUps (now : DateTime) (leaderId : Nat)
    (siblings : List ForwardOutbox) (error : String) (database : Database) :
    (parkDigestSiblings now leaderId siblings error database).followUps = database.followUps := by
  unfold parkDigestSiblings
  simp only
  repeat' split
  all_goals rfl

theorem step_followedUpIds (state : OutboxState) (event : OutboxEvent) :
    followedUpIds (step env state event).database =
      followedUpIds state.database ++ (followUpRequest env state event).toList := by
  cases event with
  | finalize now policy worker =>
      simp only [step]
      split
      · rename_i task tasks atTask
        cases task with
        | success record result message =>
            cases ended : finalizeOutboxSuccess env now record result state.database with
            | alreadySettled =>
                simp [afterTask, runTask, ended, followUpRequest, settledRow, atTask]
            | rolledBack => simp [afterTask, runTask, ended, followUpRequest, settledRow, atTask]
            | settled settledDatabase current =>
                have inserted := settled_followedUpIds ended
                simp only [afterTask, runTask, ended, inserted, followUpRequest, settledRow, atTask,
                  deliveredResult]
                split <;> rfl
        | failure outboxId failure =>
            simp [afterTask, runTask, followUpRequest, settledRow, atTask, followedUpIds,
              finalizeOutboxFailure_followUps]
        | park leaderId siblings error =>
            simp [afterTask, runTask, followUpRequest, settledRow, atTask, followedUpIds,
              parkDigestSiblings_followUps]
      · rename_i notAtTask
        have idle : settledRow env state (.finalize now policy worker) = none := by
          simp only [settledRow]
        simp only [followUpRequest, idle, Option.toList_none, List.append_nil]
  | claimSiblings | deliver =>
      simp only [step]
      repeat' split
      all_goals simp [followUpRequest, settledRow, followedUpIds]
  | create now policy request matchedRules =>
      simp [step, followUpRequest, settledRow, followedUpIds]
  | claim | scan | requeue => simp [step, followUpRequest, settledRow, followedUpIds]

theorem step_becomesSent {current : ForwardOutbox}
    (settled : settledRow env state event = some current) :
    BecomesSent state.database (step env state event).database current.id := by
  unfold settledRow at settled
  split at settled
  · rename_i now policy worker
    split at settled
    · rename_i task tasks atTask
      cases task with
      | success record result message =>
          cases ended : finalizeOutboxSuccess env now record result state.database with
          | alreadySettled | rolledBack => simp [runTask, ended] at settled
          | settled settledDatabase row =>
              obtain rfl : row = current := by simpa [runTask, ended] using settled
              have becomes := settled_becomesSent ended
              simpa [step, atTask, afterTask, runTask, ended] using becomes
      | failure | park => simp [runTask] at settled
    · contradiction
  · contradiction

theorem settledRow_of_becomesSent
    (becomes : BecomesSent state.database (step env state event).database outboxId) :
    ∃ current, settledRow env state event = some current ∧ current.id = outboxId := by
  obtain ⟨row, moved, found, notSent, movedFound, isSent⟩ := becomes
  obtain ⟨after, afterFound, steps⟩ := (step_evolves_all env state event).lookup found
  obtain rfl : after = moved := Option.some.inj (afterFound.symm.trans movedFound)
  have settles := steps.becomesSent notSent isSent
  rw [(Table.lookup_eq_some_iff.1 found).2, Option.map_eq_some_iff] at settles
  exact settles

theorem followUpRequest_eq_some_iff :
    followUpRequest env state event = some outboxId ↔
      BecomesSent state.database (step env state event).database outboxId ∧
        ReportsPending env state event := by
  constructor
  · intro requested
    unfold followUpRequest at requested
    split at requested
    · rename_i current result settled delivered
      split at requested
      · rename_i needsFollowup
        obtain rfl : current.id = outboxId := by simpa using requested
        exact ⟨step_becomesSent settled, current, result, settled, delivered, needsFollowup⟩
      · contradiction
    · contradiction
  · rintro ⟨becomes, current, result, settled, delivered, needsFollowup⟩
    obtain ⟨row, rowSettled, rowId⟩ := settledRow_of_becomesSent becomes
    obtain rfl : row = current := Option.some.inj (rowSettled.symm.trans settled)
    simp [followUpRequest, settled, delivered, needsFollowup, rowId]

/-! ## Invariants of every run -/

/-- What holds of rows and follow-up records in every reachable state. -/
structure SettlementInvariant (state : OutboxState) : Prop where
  sentAt : ∀ row ∈ state.database.outboxes.rows, row.sentAt.isSome = true ↔ row.status = .sent
  followedUp : ∀ outboxId ∈ followedUpIds state.database,
    ∃ row, state.database.outboxes.lookup outboxId = some row ∧ row.status = .sent
  once : (followedUpIds state.database).Nodup

theorem initial_settlement (webhookEvents : Table WebhookEventNotice.id)
    (forwardRules : Table ForwardRule.id) :
    SettlementInvariant (initial webhookEvents forwardRules) where
  sentAt := by simp [initial, Table.empty]
  followedUp := by simp [initial, Table.empty, followedUpIds]
  once := by simp [initial, Table.empty, followedUpIds]

theorem step_settlement (state : OutboxState) (event : OutboxEvent)
    (invariant : SettlementInvariant state) : SettlementInvariant (step env state event) where
  sentAt := by
    refine (step_evolves_all env state event).forall_mem (fun _ _ => RowSteps.sentAt) ?_
      invariant.sentAt
    intro row filed
    simp [filed.status, filed.sentAt]
  followedUp := by
    intro outboxId member
    rw [step_followedUpIds, List.mem_append, Option.mem_toList] at member
    rcases member with old | requested
    · obtain ⟨row, found, isSent⟩ := invariant.followedUp outboxId old
      obtain ⟨moved, movedFound, steps⟩ := (step_evolves_all env state event).lookup found
      exact ⟨moved, movedFound, steps.sent isSent⟩
    · obtain ⟨⟨_, moved, _, _, movedFound, isSent⟩, _⟩ := followUpRequest_eq_some_iff.1 requested
      exact ⟨moved, movedFound, isSent⟩
  once := by
    rw [step_followedUpIds, List.nodup_append]
    refine ⟨invariant.once, ?_, ?_⟩
    · cases followUpRequest env state event <;> simp
    · -- A row that was followed up is SENT, and a SENT row does not become SENT again.
      rintro outboxId old _ requested rfl
      rw [Option.mem_toList] at requested
      obtain ⟨⟨row, _, found, notSent, _⟩, _⟩ := followUpRequest_eq_some_iff.1 requested
      obtain ⟨sentRow, sentFound, isSent⟩ := invariant.followedUp outboxId old
      obtain rfl : sentRow = row := Option.some.inj (sentFound.symm.trans found)
      exact notSent isSent

theorem run_settlement (webhookEvents : Table WebhookEventNotice.id)
    (forwardRules : Table ForwardRule.id) (events : List OutboxEvent) :
    SettlementInvariant
      (GuardedRuns.run (step env) (initial webhookEvents forwardRules) events) :=
  GuardedRuns.run_invariant SettlementInvariant (initial_settlement webhookEvents forwardRules) step_settlement events

theorem run_sent (later : List OutboxEvent) {row : ForwardOutbox}
    (found : state.database.outboxes.lookup outboxId = some row) (isSent : row.status = .sent) :
    ∃ moved, (GuardedRuns.run (step env) state later).database.outboxes.lookup outboxId =
      some moved ∧ moved.status = .sent := by
  refine GuardedRuns.run_invariant (fun current : OutboxState => ∃ moved,
    current.database.outboxes.lookup outboxId = some moved ∧ moved.status = .sent) ?_ ?_ later
  · exact ⟨row, found, isSent⟩
  · rintro current event ⟨middle, middleFound, middleSent⟩
    obtain ⟨moved, movedFound, steps⟩ := (step_evolves_all env current event).lookup middleFound
    exact ⟨moved, movedFound, steps.sent middleSent⟩

/-- The lifecycle of outbox rows under atomic transactions: (a) SENT is forever,
(b) expired and exhausted rows are revived only by a requeue of that row, (c) a
row gets at most one follow-up record, inserted exactly by the event which makes
it SENT with a pending result, and (d) the time of sending marks SENT rows. -/
theorem outbox_rows_settle_once (env : OutboxEnvironment)
    (webhookEvents : Table WebhookEventNotice.id) (forwardRules : Table ForwardRule.id)
    (events : List OutboxEvent) :
    let state := GuardedRuns.run (step env) (initial webhookEvents forwardRules) events
    (∀ (later : List OutboxEvent) (outboxId : Nat) (row : ForwardOutbox),
      state.database.outboxes.lookup outboxId = some row → row.status = .sent →
        ∃ moved, (GuardedRuns.run (step env) state later).database.outboxes.lookup outboxId =
          some moved ∧ moved.status = .sent) ∧
    (∀ (event : OutboxEvent) (outboxId : Nat) (row : ForwardOutbox),
      state.database.outboxes.lookup outboxId = some row →
        row.status = .expired ∨ row.status = .exhausted →
        ∃ moved, (step env state event).database.outboxes.lookup outboxId = some moved ∧
          (moved.status = row.status ∨ event.requeuedId = some outboxId)) ∧
    (∀ outboxId : Nat, (followedUpIds state.database).count outboxId ≤ 1) ∧
    (∀ (event : OutboxEvent) (outboxId : Nat),
      let after := (step env state event).database
      (BecomesSent state.database after outboxId ∧ ReportsPending env state event →
        (followedUpIds after).count outboxId = (followedUpIds state.database).count outboxId + 1) ∧
      (¬ (BecomesSent state.database after outboxId ∧ ReportsPending env state event) →
        (followedUpIds after).count outboxId = (followedUpIds state.database).count outboxId)) ∧
    (∀ row ∈ state.database.outboxes.rows, row.sentAt.isSome = true ↔ row.status = .sent) := by
  intro state
  have invariant : SettlementInvariant state := run_settlement webhookEvents forwardRules events
  refine ⟨fun later outboxId row => run_sent later, ?_, ?_, ?_, invariant.sentAt⟩
  · intro event outboxId row found settled
    obtain ⟨moved, movedFound, steps⟩ := (step_evolves_all env state event).lookup found
    refine ⟨moved, movedFound, ?_⟩
    by_cases requeued : event.requeuedId = some outboxId
    · exact Or.inr requeued
    · rw [← (Table.lookup_eq_some_iff.1 found).2] at requeued
      refine Or.inl (steps.terminal ?_ requeued)
      rcases settled with status | status <;> rw [status] <;> rfl
  · exact List.nodup_iff_count_le_one.1 invariant.once
  · intro event outboxId after
    have inserted : followedUpIds after =
        followedUpIds state.database ++ (followUpRequest env state event).toList :=
      step_followedUpIds state event
    rw [← followUpRequest_eq_some_iff, inserted, List.count_append]
    constructor
    · intro requested
      simp [requested]
    · intro notRequested
      have absent : outboxId ∉ (followUpRequest env state event).toList := by
        rwa [Option.mem_toList]
      rw [List.count_eq_zero_of_not_mem absent, Nat.add_zero]

end ForwardOutboxLifecycle

end WebhookWise
