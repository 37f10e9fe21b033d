import Mathlib.Logic.Relation
import WebhookWise.ForwardOutboxLifecycle
import WebhookWise.GuardedRuns

/-!
# What an event can do to an outbox row

`RowStep` lists the writes an outbox row can undergo, each with the status it
starts from.  Every event of the lifecycle moves every row by such writes and
otherwise only files new rows.  What the invariants of the outbox need to know
about an event is read off `RowStep`; they do not look at the transactions
again.
-/

namespace WebhookWise

open SqlTable ForwardChannels ForwardOutboxRecords ForwardOutboxStatements

namespace ForwardOutboxLifecycle

/-- One write to an outbox row. -/
inductive RowStep (requeuedId sentId : Option Nat) (Returned : ForwardOutbox → Prop) :
    ForwardOutbox → ForwardOutbox → Prop where
  | expired (row : ForwardOutbox) (policy : ForwardDeliveryPolicy) (now : DateTime)
      (unsettled : row.status.isTerminal = false) :
      RowStep requeuedId sentId Returned row (expired policy now row)
  | claimed (row : ForwardOutbox) (now : DateTime) (queued : row.status.isQueued = true) :
      RowStep requeuedId sentId Returned row (claimed now row)
  | sent (row : ForwardOutbox) (now : DateTime) (isSettled : sentId = some row.id)
      (unsettled : row.status.isTerminal = false) :
      RowStep requeuedId sentId Returned row (sent now row)
  | answered (row : ForwardOutbox) (now : DateTime) (response : JsonObject)
      (isSent : row.status = .sent) :
      RowStep requeuedId sentId Returned row (answered now response row)
  | failed (row : ForwardOutbox) (policy : ForwardDeliveryPolicy) (now : DateTime)
      (failure : DeliveryFailure) (unsettled : row.status.isTerminal = false) :
      RowStep requeuedId sentId Returned row (failed policy now failure row)
  | parked (row : ForwardOutbox) (now retryAt : DateTime) (error : String)
      (held : row.status = .processing) (returned : Returned row) :
      RowStep requeuedId sentId Returned row (parked now retryAt error row)
  | exhaustedWithLeader (row : ForwardOutbox) (now : DateTime) (error : String)
      (held : row.status = .processing) :
      RowStep requeuedId sentId Returned row (exhaustedWithLeader now error row)
  | recovered (row : ForwardOutbox) (now : DateTime)
      (held : row.status = .processing) (returned : Returned row) :
      RowStep requeuedId sentId Returned row (recovered now row)
  | requeued (row : ForwardOutbox) (now : DateTime) (isManual : requeuedId = some row.id)
      (requeueable : row.status.isRequeueable = true) :
      RowStep requeuedId sentId Returned row (requeued now row)

/-- The writes of one event to one row, in order. -/
abbrev RowSteps (requeuedId sentId : Option Nat) (Returned : ForwardOutbox → Prop) :
    ForwardOutbox → ForwardOutbox → Prop :=
  Relation.ReflTransGen (RowStep requeuedId sentId Returned)

variable (policy : ForwardDeliveryPolicy) (now : DateTime) {current : ForwardOutbox}
  (outboxId : Nat)

/-- A row as `create_outbox_records` files it. -/
structure Filed (row : ForwardOutbox) : Prop where
  status : row.status = .pending
  attempts : row.attempts = 0
  maxAttempts : 1 ≤ row.maxAttempts
  sentAt : row.sentAt = none

section Transactions

variable {requeuedId sentId : Option Nat} {Returned : ForwardOutbox → Prop} {table : OutboxTable}

/-- A table in which rows are only moved, and none is new. -/
abbrev RowsMove (requeuedId sentId : Option Nat) (Returned : ForwardOutbox → Prop) :
    OutboxTable → OutboxTable → Prop :=
  Table.Evolves (RowSteps requeuedId sentId Returned) fun _ => False

private theorem rowsMove_refl (table : OutboxTable) : RowsMove requeuedId sentId Returned table table :=
  Table.Evolves.refl (fun _ => .refl) table

private theorem rowsMove_trans {before middle after : OutboxTable}
    (first : RowsMove requeuedId sentId Returned before middle)
    (second : RowsMove requeuedId sentId Returned middle after) : RowsMove requeuedId sentId Returned before after :=
  Table.Evolves.trans (fun _ _ _ => Relation.ReflTransGen.trans) (fun _ _ fresh => fresh.elim)
    first second

private theorem rowsMove_update {guard : ForwardOutbox → Bool}
    {change : ForwardOutbox → ForwardOutbox} (keeps : ∀ row, (change row).id = row.id)
    (changes : ∀ row ∈ table.rows, guard row = true → RowStep requeuedId sentId Returned row (change row)) :
    RowsMove requeuedId sentId Returned table (table.update guard change keeps) :=
  Table.Evolves.of_update keeps (fun _ => .refl) fun row member guarded =>
    .single (changes row member guarded)

theorem newRecord_filed (python : PythonRuntime) (now : DateTime) (policy : ForwardDeliveryPolicy)
    (request : OutboxRequest) (window : Option (DateTime × DateTime)) (rule : ForwardRuleSnapshot)
    (id : Nat) : Filed (newRecord python now policy request window rule id) :=
  ⟨rfl, rfl, policy.maxAttempts_pos, rfl⟩

theorem createOutboxRecords_evolves (python : PythonRuntime) (now : DateTime)
    (policy : ForwardDeliveryPolicy) (request : OutboxRequest) (rules : List ForwardRuleSnapshot)
    (table : OutboxTable) :
    Table.Evolves Eq Filed table
      (createOutboxRecords python now policy request rules table).1 := by
  unfold createOutboxRecords
  rw [fileRules_table]
  refine GuardedRuns.run_relates (Table.Evolves Eq Filed) (Table.Evolves.refl fun _ => rfl) ?_ ?_ table rules
  · intro first second third
    exact Table.Evolves.trans (fun _ _ _ => Eq.trans) fun row moved filed same => same ▸ filed
  · intro table rule
    rw [tableAfterRule_eq]
    split
    · exact Table.Evolves.of_insert (fun _ => rfl) (fun _ => rfl) (newRecord_filed ..)
    · exact Table.Evolves.refl (fun _ => rfl) table

theorem claimOutbox_rowsMove :
    RowsMove requeuedId sentId Returned table
      (claimOutbox policy now outboxId table).1 := by
  unfold claimOutbox
  split
  · refine rowsMove_update (expired_id policy now) ?_
    intro row _ guarded
    simp only [expiresIfOld, Bool.and_eq_true] at guarded
    exact .expired row policy now
      (ForwardOutboxStatus.isTerminal_eq_false_of_isQueued guarded.1.2)
  · refine rowsMove_update (claimed_id now) ?_
    intro row _ guarded
    simp only [isClaimable, Bool.and_eq_true] at guarded
    exact .claimed row now guarded.1.2

theorem isDueSibling_of_mem_dueSiblings {now : DateTime} {leader row : ForwardOutbox}
    (member : row ∈ table.rows) (listed : row.id ∈ dueSiblings now leader table) :
    isDueSibling now leader row = true := by
  have unsorted := (List.mem_insertionSort _).1 (List.mem_of_mem_take listed)
  obtain ⟨found, foundMember, sameId⟩ := List.mem_map.1 unsorted
  obtain ⟨foundRow, due⟩ := List.mem_filter.1 foundMember
  rwa [Table.eq_of_key_eq foundRow member sameId] at due

theorem claimDigestSiblings_rowsMove (leader : ForwardOutbox) :
    RowsMove requeuedId sentId Returned table
      (claimDigestSiblings now leader table).1 := by
  refine rowsMove_update (claimed_id now) ?_
  intro row member listed
  have due := isDueSibling_of_mem_dueSiblings member (List.contains_iff_mem.1 listed)
  simp only [isDueSibling, Bool.and_eq_true] at due
  exact .claimed row now due.1.2

theorem unsettled_of_returning_sent {now : DateTime} {outboxId : Nat}
    (returned : (table.returning (isUnsettled outboxId) (sent now)).head? = some current) :
    ∃ row ∈ table.rows, row.id = outboxId ∧ row.status.isTerminal = false ∧
      sent now row = current := by
  obtain ⟨row, member, guarded, rfl⟩ := Table.mem_returning.1 (List.mem_of_head? returned)
  simp only [isUnsettled, Bool.and_eq_true, decide_eq_true_eq, Bool.not_eq_true'] at guarded
  exact ⟨row, member, guarded.1, guarded.2, rfl⟩

theorem status_markSent {now : DateTime} {row : ForwardOutbox} {outboxId : Nat}
    (returned : (table.returning (isUnsettled outboxId) (sent now)).head? = some current)
    (member : row ∈ (markSent table now outboxId).rows) (sameId : row.id = current.id) :
    row.status = .sent := by
  have currentMember : current ∈ (markSent table now outboxId).rows :=
    Table.mem_update_of_mem_returning (sent_id now) (List.mem_of_head? returned)
  rw [Table.eq_of_key_eq member currentMember sameId]
  obtain ⟨old, _, _, _, rfl⟩ := unsettled_of_returning_sent returned
  rfl

theorem settled_outboxes {env : OutboxEnvironment} {now : DateTime} {record : ForwardOutbox}
    {result : JsonObject} {database settledDatabase : Database}
    (ended : finalizeOutboxSuccess env now record result database =
      .settled settledDatabase current) :
    (database.outboxes.returning (isUnsettled record.id) (sent now)).head? = some current ∧
      settledDatabase.outboxes = storeResponse (markSent database.outboxes now record.id) now
        current.id (result.without "pseudonym_map") := by
  unfold finalizeOutboxSuccess at ended
  split at ended
  · contradiction
  · rename_i returned
    simp only at ended
    split at ended
    · split at ended
      · contradiction
      · simp only [SuccessEnd.settled.injEq] at ended
        obtain ⟨rfl, rfl⟩ := ended
        exact ⟨returned, rfl⟩
    · simp only [SuccessEnd.settled.injEq] at ended
      obtain ⟨rfl, rfl⟩ := ended
      exact ⟨returned, rfl⟩

theorem markSent_rowsMove :
    RowsMove requeuedId (some outboxId) Returned table (markSent table now outboxId) := by
  refine rowsMove_update (sent_id now) ?_
  intro row _ guarded
  simp only [isUnsettled, Bool.and_eq_true, decide_eq_true_eq, Bool.not_eq_true'] at guarded
  exact .sent row now (by rw [guarded.1]) guarded.2

theorem quarantine_frame (failure : DeliveryFailure) (record : ForwardOutbox)
    (database : Database) :
    (quarantine now failure record database).outboxes = database.outboxes ∧
      (quarantine now failure record database).followUps = database.followUps := by
  unfold quarantine
  split
  · exact ⟨rfl, rfl⟩
  · split
    · split <;> exact ⟨rfl, rfl⟩
    · exact ⟨rfl, rfl⟩

theorem finalizeOutboxFailure_rowsMove (failure : DeliveryFailure) (database : Database) :
    RowsMove requeuedId sentId Returned database.outboxes
      (finalizeOutboxFailure policy now outboxId failure database).outboxes := by
  unfold finalizeOutboxFailure
  split
  · exact rowsMove_refl _
  · rename_i record found
    split
    · exact rowsMove_refl _
    · rename_i unsettled
      have written : RowsMove requeuedId sentId Returned database.outboxes
          (database.outboxes.update (fun row => row.id = outboxId) (failed policy now failure)
            fun _ => rfl) := by
        refine rowsMove_update (failed_id policy now failure) ?_
        intro row member sameId
        obtain ⟨recordMember, recordId⟩ := Table.lookup_eq_some_iff.1 found
        have same : row = record :=
          Table.eq_of_key_eq member recordMember
            ((of_decide_eq_true sameId).trans recordId.symm)
        rw [same]
        exact .failed record policy now failure (by simpa using unsettled)
      simp only
      split
      · rw [(quarantine_frame ..).1]
        exact written
      · exact written

theorem parkDigestSiblings_rowsMove (leaderId : Nat) (siblings : List ForwardOutbox)
    (error : String) (database : Database)
    (returned : ∀ row ∈ database.outboxes.rows, (leaderRetryAt leaderId database.outboxes).isSome →
      isHeldSibling (siblings.map ForwardOutbox.id) row = true → Returned row) :
    RowsMove requeuedId sentId Returned database.outboxes
      (parkDigestSiblings now leaderId siblings error database).outboxes := by
  have held {row : ForwardOutbox}
      (guarded : isHeldSibling (siblings.map ForwardOutbox.id) row = true) :
      row.status = .processing := by
    simp only [isHeldSibling, Bool.and_eq_true, decide_eq_true_eq] at guarded
    exact guarded.2
  unfold parkDigestSiblings
  simp only
  split
  · exact rowsMove_refl _
  · split
    · rename_i retryAt retrying
      refine rowsMove_update (parked_id now retryAt error) ?_
      intro row member guarded
      exact .parked row now retryAt error (held guarded)
        (returned row member (by simp [retrying]) guarded)
    · refine rowsMove_update (exhaustedWithLeader_id now error) ?_
      intro row _ guarded
      exact .exhaustedWithLeader row now error (held guarded)

theorem unsettled_of_mem_dueForExpiry {policy : ForwardDeliveryPolicy} {now : DateTime}
    {limit : Nat} {row : ForwardOutbox} (member : row ∈ table.rows)
    (listed : row.id ∈ dueForExpiry policy now limit table) :
    row.status.isTerminal = false := by
  obtain ⟨found, foundMember, sameId⟩ := List.mem_map.1 listed
  have unsorted := (List.mem_insertionSort _).1 (List.mem_of_mem_take foundMember)
  obtain ⟨foundRow, due⟩ := List.mem_filter.1 unsorted
  rw [Table.eq_of_key_eq foundRow member sameId] at due
  simp only [Bool.and_eq_true, Bool.not_eq_true'] at due
  exact due.1

theorem runForwardOutboxScan_rowsMove (limit : Nat)
    (returned : ∀ row ∈ (expireListed table policy now (dueForExpiry policy now limit table)).rows,
      isStale policy now row = true → Returned row) :
    RowsMove requeuedId sentId Returned table
      (runForwardOutboxScan policy now limit table) := by
  have expires : RowsMove requeuedId sentId Returned table
      (expireListed table policy now (dueForExpiry policy now limit table)) := by
    refine rowsMove_update (expired_id policy now) ?_
    intro row member listed
    exact .expired row policy now
      (unsettled_of_mem_dueForExpiry member (List.contains_iff_mem.1 listed))
  refine rowsMove_trans expires (rowsMove_update (recovered_id now) ?_)
  intro row member stale
  have held : row.status = .processing := by
    simp only [isStale, Bool.and_eq_true, decide_eq_true_eq] at stale
    exact stale.1
  exact .recovered row now held (returned row member stale)

theorem settled_rowsMove {env : OutboxEnvironment} {now : DateTime} {record : ForwardOutbox}
    {result : JsonObject} {database settledDatabase : Database}
    (ended : finalizeOutboxSuccess env now record result database =
      .settled settledDatabase current) :
    RowsMove requeuedId (some current.id) Returned database.outboxes
      settledDatabase.outboxes := by
  obtain ⟨returned, written⟩ := settled_outboxes ended
  have sameId : current.id = record.id := by
    obtain ⟨row, _, rowId, _, rfl⟩ := unsettled_of_returning_sent returned
    exact rowId
  rw [written, sameId]
  refine rowsMove_trans (markSent_rowsMove now record.id)
    (rowsMove_update (answered_id now (result.without "pseudonym_map")) ?_)
  intro row member rowId
  exact .answered row now _
    (status_markSent returned member ((of_decide_eq_true rowId).trans sameId.symm))

end Transactions

/-! ## Events -/

variable (env : OutboxEnvironment)

/-- The rows which an event takes from a worker and returns to the queue: stale
rows, and parked siblings of a retrying leader. -/
def returnedRows (state : OutboxState) : OutboxEvent → List ForwardOutbox
  | .scan now policy limit =>
      let table := state.database.outboxes
      (expireListed table policy now (dueForExpiry policy now limit table)).rows.filter
        (isStale policy now)
  | .finalize _ _ worker =>
      match state.workers[worker]? with
      | some (.finishing (.park leaderId siblings _ :: _)) =>
          if (leaderRetryAt leaderId state.database.outboxes).isSome then
            state.database.outboxes.rows.filter (isHeldSibling (siblings.map ForwardOutbox.id))
          else []
      | _ => []
  | _ => []

def settledRow (env : OutboxEnvironment) (state : OutboxState) : OutboxEvent → Option ForwardOutbox
  | .finalize now policy worker =>
      match state.workers[worker]? with
      | some (.finishing (task :: _)) => (runTask env policy now task state.database).settled
      | _ => none
  | _ => none

variable {Returned : ForwardOutbox → Prop}

theorem runTask_rowsMove {requeuedId : Option Nat} (policy : ForwardDeliveryPolicy) (now : DateTime)
    (task : FinalizeTask) (database : Database)
    (returned : ∀ leaderId siblings error, task = .park leaderId siblings error →
      ∀ row ∈ database.outboxes.rows, (leaderRetryAt leaderId database.outboxes).isSome →
        isHeldSibling (siblings.map ForwardOutbox.id) row = true → Returned row) :
    RowsMove requeuedId ((runTask env policy now task database).settled.map ForwardOutbox.id)
      Returned database.outboxes (runTask env policy now task database).database.outboxes := by
  cases task with
  | success record result message =>
      cases ended : finalizeOutboxSuccess env now record result database with
      | alreadySettled | rolledBack => simpa [runTask, ended] using rowsMove_refl _
      | settled settledDatabase current =>
          simpa [runTask, ended] using settled_rowsMove ended
  | failure outboxId failure => exact finalizeOutboxFailure_rowsMove ..
  | park leaderId siblings error =>
      exact parkDigestSiblings_rowsMove now leaderId siblings error database
        (returned leaderId siblings error rfl)

/-- The writes an event may do. -/
abbrev EventSteps (env : OutboxEnvironment) (state : OutboxState) (event : OutboxEvent)
    (Returned : ForwardOutbox → Prop) : ForwardOutbox → ForwardOutbox → Prop :=
  RowSteps event.requeuedId ((settledRow env state event).map ForwardOutbox.id) Returned

theorem step_rowsMove (env : OutboxEnvironment) (state : OutboxState) (event : OutboxEvent)
    (filesNone : event.isCreate = false)
    (returned : ∀ row ∈ returnedRows state event, Returned row) :
    Table.Evolves (EventSteps env state event Returned) (fun _ => False) state.database.outboxes
      (step env state event).database.outboxes := by
  cases event with
  | create now policy request matchedRules => contradiction
  | claim now policy entry outboxId => exact claimOutbox_rowsMove policy now outboxId
  | claimSiblings now worker =>
      simp only [step]
      split
      · split
        · exact claimDigestSiblings_rowsMove now _
        · exact rowsMove_refl _
      · exact rowsMove_refl _
  | deliver now worker outcome =>
      simp only [step]
      split
      · split <;> exact rowsMove_refl _
      · exact rowsMove_refl _
  | finalize now policy worker =>
      simp only [step]
      split
      · rename_i task tasks atTask
        have sentId : settledRow env state (.finalize now policy worker) =
            (runTask env policy now task state.database).settled := by
          simp [settledRow, atTask]
        unfold EventSteps
        rw [sentId]
        refine runTask_rowsMove env policy now task state.database ?_
        rintro leaderId siblings error rfl row member retrying held
        refine returned row ?_
        simp [returnedRows, atTask, retrying, member, held]
      · exact rowsMove_refl _
  | scan now policy limit =>
      refine runForwardOutboxScan_rowsMove policy now limit ?_
      intro row member stale
      exact returned row (by simp [returnedRows, member, stale])
  | requeue now outboxId =>
      refine rowsMove_update (requeued_id now) ?_
      intro row _ guarded
      simp only [canRequeue, Bool.and_eq_true, decide_eq_true_eq] at guarded
      exact .requeued row now (by rw [guarded.1]; rfl) guarded.2

theorem step_evolves (state : OutboxState) (event : OutboxEvent)
    (returned : ∀ row ∈ returnedRows state event, Returned row) :
    Table.Evolves (EventSteps env state event Returned) Filed state.database.outboxes
      (step env state event).database.outboxes := by
  cases creates : event.isCreate with
  | false =>
      exact (step_rowsMove env state event creates returned).mono (fun _ _ => id)
        fun _ none => none.elim
  | true =>
      cases event with
      | create now policy request matchedRules =>
          refine Table.Evolves.mono ?_ (fun _ => id) (createOutboxRecords_evolves ..)
          rintro row _ rfl
          exact .refl
      | _ => contradiction

theorem step_evolves_all (state : OutboxState) (event : OutboxEvent) :
    Table.Evolves (EventSteps env state event fun _ => True) Filed state.database.outboxes
      (step env state event).database.outboxes :=
  step_evolves env state event fun _ _ => trivial

/-! ## What the writes keep -/

section Writes

variable {requeuedId sentId : Option Nat} {row moved : ForwardOutbox}

theorem RowSteps.keep (Property : ForwardOutbox → Prop)
    (steps : RowSteps requeuedId sentId Returned row moved)
    (keeps : ∀ before after, RowStep requeuedId sentId Returned before after →
      Property before → Property after)
    (initially : Property row) : Property moved := by
  induction steps with
  | refl => exact initially
  | tail _ write ih => exact keeps _ _ write ih

theorem RowSteps.sameIntent (steps : RowSteps requeuedId sentId Returned row moved) :
    moved.id = row.id ∧ moved.targetUrl = row.targetUrl ∧ moved.digestKey = row.digestKey ∧
      moved.maxAttempts = row.maxAttempts := by
  refine RowSteps.keep (fun current => current.id = row.id ∧ current.targetUrl = row.targetUrl ∧
    current.digestKey = row.digestKey ∧ current.maxAttempts = row.maxAttempts) steps ?_
    ⟨rfl, rfl, rfl, rfl⟩
  rintro before after write same
  cases write <;> exact same

theorem RowStep.sending {before after : ForwardOutbox}
    (write : RowStep requeuedId sentId Returned before after) :
    (before.status ≠ .sent ∧ after.status ≠ .sent ∧ after.sentAt = before.sentAt) ∨
      (before.status = .sent ∧ after.status = .sent ∧ after.sentAt = before.sentAt) ∨
      (sentId = some before.id ∧ before.status ≠ .sent ∧ after.status = .sent ∧
        after.sentAt.isSome = true) := by
  cases write with
  | expired policy now unsettled =>
      exact Or.inl ⟨ForwardOutboxStatus.ne_sent_of_not_isTerminal unsettled, by simp, rfl⟩
  | claimed now queued =>
      have unsettled := ForwardOutboxStatus.isTerminal_eq_false_of_isQueued queued
      exact Or.inl ⟨ForwardOutboxStatus.ne_sent_of_not_isTerminal unsettled, by simp, rfl⟩
  | sent now isSettled unsettled =>
      exact Or.inr (Or.inr
        ⟨isSettled, ForwardOutboxStatus.ne_sent_of_not_isTerminal unsettled, rfl, rfl⟩)
  | answered now response isSent => exact Or.inr (Or.inl ⟨isSent, isSent, rfl⟩)
  | failed policy now failure unsettled =>
      exact Or.inl ⟨ForwardOutboxStatus.ne_sent_of_not_isTerminal unsettled,
        failed_status_ne_sent policy now failure before, rfl⟩
  | parked now retryAt error held =>
      exact Or.inl ⟨by simp [held], by simp, rfl⟩
  | exhaustedWithLeader now error held =>
      exact Or.inl ⟨by simp [held], by simp, rfl⟩
  | recovered now held => exact Or.inl ⟨by simp [held], by simp, rfl⟩
  | requeued now isManual requeueable =>
      exact Or.inl
        ⟨ForwardOutboxStatus.ne_sent_of_isRequeueable requeueable, by simp, rfl⟩

theorem RowSteps.sent (steps : RowSteps requeuedId sentId Returned row moved)
    (isSent : row.status = .sent) : moved.status = .sent := by
  refine RowSteps.keep (fun current => current.status = .sent) steps ?_ isSent
  intro before after write status
  rcases write.sending with ⟨notSent, _⟩ | ⟨_, stays, _⟩ | ⟨_, notSent, _⟩
  · exact absurd status notSent
  · exact stays
  · exact absurd status notSent

theorem RowSteps.becomesSent (steps : RowSteps requeuedId sentId Returned row moved)
    (notSent : row.status ≠ .sent) (isSent : moved.status = .sent) : sentId = some row.id := by
  by_contra otherRow
  refine (RowSteps.keep (fun current => current.id = row.id ∧ current.status ≠ .sent) steps ?_
    ⟨rfl, notSent⟩).2 isSent
  rintro before after write ⟨sameId, status⟩
  refine ⟨(RowSteps.sameIntent (.single write)).1.trans sameId, ?_⟩
  rcases write.sending with ⟨_, stays, _⟩ | ⟨isSent, _⟩ | ⟨settled, _⟩
  · exact stays
  · exact absurd isSent status
  · exact absurd (sameId ▸ settled) otherRow

theorem RowSteps.sentAt (steps : RowSteps requeuedId sentId Returned row moved)
    (agrees : row.sentAt.isSome = true ↔ row.status = .sent) :
    moved.sentAt.isSome = true ↔ moved.status = .sent := by
  refine RowSteps.keep (fun current => current.sentAt.isSome = true ↔ current.status = .sent) steps
    ?_ agrees
  intro before after write agrees
  rcases write.sending with ⟨notSent, stays, same⟩ | ⟨isSent, stays, same⟩ | ⟨_, _, isSent, set⟩
  · rw [same, agrees]
    exact iff_of_false notSent stays
  · rw [same, agrees]
    exact iff_of_true isSent stays
  · exact iff_of_true set isSent

theorem RowSteps.terminal (steps : RowSteps requeuedId sentId Returned row moved)
    (settled : row.status.isTerminal = true) (notRequeued : requeuedId ≠ some row.id) :
    moved.status = row.status := by
  refine (RowSteps.keep (fun current => current.id = row.id ∧ current.status = row.status) steps ?_
    ⟨rfl, rfl⟩).2
  rintro before after write ⟨sameId, sameStatus⟩
  have stillSettled : ¬ before.status.isTerminal = false := by
    rw [sameStatus, settled]
    simp
  have notHeld : before.status ≠ .processing := by
    intro held
    simp [held, ForwardOutboxStatus.isTerminal] at stillSettled
  cases write with
  | requeued now isManual requeueable => exact absurd (sameId ▸ isManual) notRequeued
  | answered now response isSent => exact ⟨sameId, sameStatus⟩
  | expired policy now unsettled => exact absurd unsettled stillSettled
  | sent now isSettled unsettled => exact absurd unsettled stillSettled
  | failed policy now failure unsettled => exact absurd unsettled stillSettled
  | claimed now queued =>
      exact absurd (ForwardOutboxStatus.isTerminal_eq_false_of_isQueued queued) stillSettled
  | parked now retryAt error held => exact absurd held notHeld
  | exhaustedWithLeader now error held => exact absurd held notHeld
  | recovered now held => exact absurd held notHeld

end Writes

end ForwardOutboxLifecycle

end WebhookWise
