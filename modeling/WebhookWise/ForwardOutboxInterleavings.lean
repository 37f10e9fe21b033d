import WebhookWise.ForwardOutboxRowSteps

/-!
# The outbox, one statement at a time

The transactions of the outbox are taken apart into their SQL statements, and those of any number of
workers interleave.  The sub-select of an `UPDATE` and the row read by `session.get` are steps of
their own; the write which follows uses what was read then.
-/

namespace WebhookWise

open SqlTable ForwardChannels ForwardOutboxRecords ForwardOutboxStatements

namespace ForwardOutboxInterleavings

/-- A write whose rows or values were read by an earlier statement. -/
inductive PendingWrite where
  | claimSiblings (now : DateTime) (ids : List Nat)
  | expireBatch (policy : ForwardDeliveryPolicy) (now : DateTime) (ids : List Nat)
  | flushFailure (policy : ForwardDeliveryPolicy) (now : DateTime) (failure : DeliveryFailure)
      (loaded : ForwardOutbox)
  | flushResponse (now : DateTime) (outboxId : Nat) (response : JsonObject)
  | parkSiblings (now : DateTime) (retryAt : Option DateTime) (error : String) (ids : List Nat)

def flushed (policy : ForwardDeliveryPolicy) (now : DateTime) (failure : DeliveryFailure)
    (loaded current : ForwardOutbox) : ForwardOutbox :=
  let written := failed policy now failure loaded
  { current with
    lastError := flushColumn loaded.lastError written.lastError current.lastError
    responseData :=
      match failure.failureData with
      | none => current.responseData
      | some response => some response
    updatedAt := flushColumn loaded.updatedAt written.updatedAt current.updatedAt
    status := flushColumn loaded.status written.status current.status
    nextAttemptAt :=
      flushColumn loaded.nextAttemptAt written.nextAttemptAt current.nextAttemptAt }

variable (policy : ForwardDeliveryPolicy) (now : DateTime) (failure : DeliveryFailure)

theorem flushed_id (loaded current : ForwardOutbox) :
    (flushed policy now failure loaded current).id = current.id :=
  rfl

def PendingWrite.apply (table : OutboxTable) : PendingWrite → OutboxTable
  | .claimSiblings now ids => claimListed table now ids
  | .expireBatch policy now ids => expireListed table policy now ids
  | .flushFailure policy now failure loaded =>
      table.update (fun row => row.id = loaded.id) (flushed policy now failure loaded)
        (flushed_id policy now failure loaded)
  | .flushResponse now outboxId response => storeResponse table now outboxId response
  | .parkSiblings now (some retryAt) error ids => parkListed table now retryAt error ids
  | .parkSiblings now none error ids => exhaustListed table now error ids

/-- The write gives the row under this id another status, whatever its status is by
then. -/
def PendingWrite.overwrites (outboxId : Nat) : PendingWrite → Bool
  | .claimSiblings _ ids => ids.contains outboxId
  | .expireBatch _ _ ids => ids.contains outboxId
  | .flushFailure policy now failure loaded =>
      loaded.id = outboxId && (failed policy now failure loaded).status ≠ loaded.status
  | .flushResponse _ _ _ => false
  | .parkSiblings _ _ _ _ => false

structure InterleavedState where
  table : OutboxTable
  pending : List PendingWrite

/-- A statement, or the write that completes an earlier one. -/
inductive OutboxStatement where
  | expireIfOld (policy : ForwardDeliveryPolicy) (now : DateTime) (outboxId : Nat)
  | claim (now : DateTime) (outboxId : Nat)
  | selectSiblings (now : DateTime) (leader : ForwardOutbox)
  | selectExpired (policy : ForwardDeliveryPolicy) (now : DateTime) (limit : Nat)
  | markSent (now : DateTime) (outboxId : Nat) (response : JsonObject)
  | readForFailure (policy : ForwardDeliveryPolicy) (now : DateTime) (outboxId : Nat)
      (failure : DeliveryFailure)
  | readLeader (now : DateTime) (leaderId : Nat) (error : String) (siblings : List Nat)
  | recoverStale (policy : ForwardDeliveryPolicy) (now : DateTime)
  | requeue (now : DateTime) (outboxId : Nat)
  | write (index : Nat)

/-- What a reading statement leaves to be written; the failure finalizer returns
when the row is gone or settled. -/
def writesLeft (table : OutboxTable) : OutboxStatement → List PendingWrite
  | .selectSiblings now leader => [.claimSiblings now (dueSiblings now leader table)]
  | .selectExpired policy now limit =>
      [.expireBatch policy now (dueForExpiry policy now limit table)]
  | .markSent now outboxId response =>
      if (table.returning (isUnsettled outboxId) (sent now)).isEmpty then []
      else [.flushResponse now outboxId response]
  | .readForFailure policy now outboxId failure =>
      match table.lookup outboxId with
      | none => []
      | some record =>
          if record.status.isTerminal then [] else [.flushFailure policy now failure record]
  | .readLeader now leaderId error siblings =>
      [.parkSiblings now (ForwardOutboxLifecycle.leaderRetryAt leaderId table) error siblings]
  | _ => []

def step (state : InterleavedState) (statement : OutboxStatement) : InterleavedState :=
  match statement with
  | .write index =>
      match state.pending[index]? with
      | some write =>
          { table := write.apply state.table, pending := state.pending.eraseIdx index }
      | none => state
  | .expireIfOld policy now outboxId =>
      { state with table := expireIfOld state.table policy now outboxId }
  | .claim now outboxId => { state with table := claimOne state.table now outboxId }
  | .markSent now outboxId response =>
      { table := markSent state.table now outboxId
        pending := state.pending ++ writesLeft state.table (.markSent now outboxId response) }
  | .recoverStale policy now => { state with table := recoverStale state.table policy now }
  | .requeue now outboxId => { state with table := requeueOne state.table now outboxId }
  | .selectSiblings _ _ | .selectExpired _ _ _ | .readForFailure _ _ _ _ | .readLeader _ _ _ _ =>
      { state with pending := state.pending ++ writesLeft state.table statement }

/-- The statement marks no row SENT which a pending write is going to overwrite. -/
def SendsUnshadowed (state : InterleavedState) : OutboxStatement → Prop
  | .markSent _ outboxId _ =>
      ∀ row ∈ state.table.rows, isUnsettled outboxId row = true →
        ∀ write ∈ state.pending, write.overwrites row.id = false
  | _ => True

instance (state : InterleavedState) (statement : OutboxStatement) :
    Decidable (SendsUnshadowed state statement) := by
  unfold SendsUnshadowed
  split <;> infer_instance

/-- No pending write is going to overwrite a SENT row. -/
def SentUnshadowed (state : InterleavedState) : Prop :=
  ∀ row ∈ state.table.rows, row.status = .sent →
    ∀ write ∈ state.pending, write.overwrites row.id = false

/-- The row is SENT after the statement if and only if it was SENT before. -/
def SameSending (row moved : ForwardOutbox) : Prop :=
  moved.status = .sent ↔ row.status = .sent

theorem SameSending.refl (row : ForwardOutbox) : SameSending row row :=
  Iff.rfl

/-- How an update acts on the rows of a table which no statement inserts into. -/
abbrev Rewrites (Move : ForwardOutbox → ForwardOutbox → Prop) : OutboxTable → OutboxTable → Prop :=
  Table.Evolves Move fun _ => False

variable {table : OutboxTable}

private theorem rewrites_of_neither {guard : ForwardOutbox → Bool}
    {change : ForwardOutbox → ForwardOutbox} (keeps : ∀ row, (change row).id = row.id)
    (before : ∀ row ∈ table.rows, guard row = true → row.status ≠ .sent)
    (after : ∀ row, (change row).status ≠ .sent) :
    Rewrites SameSending table (table.update guard change keeps) :=
  Table.Evolves.of_update keeps SameSending.refl fun row member guarded =>
    iff_of_false (after row) (before row member guarded)

private theorem ne_sent_of_isQueued {status : ForwardOutboxStatus}
    (queued : status.isQueued = true) : status ≠ .sent :=
  ForwardOutboxStatus.ne_sent_of_not_isTerminal
    (ForwardOutboxStatus.isTerminal_eq_false_of_isQueued queued)

/-! ## The conditional updates -/

variable (outboxId : Nat)

theorem expireIfOld_sameSending :
    Rewrites SameSending table (expireIfOld table policy now outboxId) := by
  refine rewrites_of_neither (expired_id policy now) ?_ fun row => by simp
  intro row _ guarded
  simp only [expiresIfOld, Bool.and_eq_true] at guarded
  exact ne_sent_of_isQueued guarded.1.2

theorem claimOne_sameSending : Rewrites SameSending table (claimOne table now outboxId) := by
  refine rewrites_of_neither (claimed_id now) ?_ fun row => by simp
  intro row _ guarded
  simp only [isClaimable, Bool.and_eq_true] at guarded
  exact ne_sent_of_isQueued guarded.1.2

theorem recoverStale_sameSending : Rewrites SameSending table (recoverStale table policy now) := by
  refine rewrites_of_neither (recovered_id now) ?_ fun row => by simp
  intro row _ guarded
  simp only [isStale, Bool.and_eq_true, decide_eq_true_eq] at guarded
  rw [guarded.1]
  simp

theorem requeueOne_sameSending : Rewrites SameSending table (requeueOne table now outboxId) := by
  refine rewrites_of_neither (requeued_id now) ?_ fun row => by simp
  intro row _ guarded
  simp only [canRequeue, Bool.and_eq_true] at guarded
  exact ForwardOutboxStatus.ne_sent_of_isRequeueable guarded.2

private theorem ne_sent_of_isHeldSibling {ids : List Nat} {row : ForwardOutbox}
    (held : isHeldSibling ids row = true) : row.status ≠ .sent := by
  simp only [isHeldSibling, Bool.and_eq_true, decide_eq_true_eq] at held
  rw [held.2]
  simp

/-! ## The pending writes -/

theorem flushed_sameSending {policy : ForwardDeliveryPolicy} {now : DateTime}
    {failure : DeliveryFailure} {loaded current : ForwardOutbox}
    (spares : current.status = .sent → (failed policy now failure loaded).status = loaded.status) :
    SameSending current (flushed policy now failure loaded current) := by
  unfold SameSending flushed flushColumn
  simp only
  split
  · exact Iff.rfl
  · rename_i changes
    refine iff_of_false (failed_status_ne_sent policy now failure loaded) ?_
    exact fun isSent => changes (spares isSent)

theorem apply_sameSending (write : PendingWrite)
    (spares : ∀ row ∈ table.rows, row.status = .sent → write.overwrites row.id = false) :
    Rewrites SameSending table (write.apply table) := by
  cases write with
  | claimSiblings now ids =>
      refine rewrites_of_neither (claimed_id now) ?_ fun row => by simp
      intro row member listed isSent
      have spared := spares row member isSent
      simp only [PendingWrite.overwrites] at spared
      rw [listed] at spared
      contradiction
  | expireBatch policy now ids =>
      refine rewrites_of_neither (expired_id policy now) ?_ fun row => by simp
      intro row member listed isSent
      have spared := spares row member isSent
      simp only [PendingWrite.overwrites] at spared
      rw [listed] at spared
      contradiction
  | flushFailure policy now failure loaded =>
      refine Table.Evolves.of_update (flushed_id policy now failure loaded) SameSending.refl ?_
      intro row member sameId
      apply flushed_sameSending
      intro isSent
      have spared := spares row member isSent
      simp only [PendingWrite.overwrites, Bool.and_eq_false_iff, decide_eq_false_iff_not,
        not_not] at spared
      rcases spared with otherId | sameStatus
      · exact absurd (of_decide_eq_true sameId).symm otherId
      · exact sameStatus
  | flushResponse now outboxId response =>
      exact Table.Evolves.of_update (answered_id now response) SameSending.refl
        fun _ _ _ => Iff.rfl
  | parkSiblings now retryAt error ids =>
      cases retryAt with
      | none =>
          exact rewrites_of_neither (exhaustedWithLeader_id now error)
            (fun _ _ => ne_sent_of_isHeldSibling) fun row => by simp
      | some retryAt =>
          exact rewrites_of_neither (parked_id now retryAt error)
            (fun _ _ => ne_sent_of_isHeldSibling) fun row => by simp

/-- What a statement leaves to be written overwrites no row that is SENT when the
statement reads it. -/
theorem writesLeft_spare (statement : OutboxStatement) {write : PendingWrite}
    (left : write ∈ writesLeft table statement) {row : ForwardOutbox} (member : row ∈ table.rows)
    (isSent : row.status = .sent) : write.overwrites row.id = false := by
  cases statement with
  | selectSiblings now leader =>
      obtain rfl := List.mem_singleton.1 left
      simp only [PendingWrite.overwrites, Bool.eq_false_iff]
      intro listed
      have due := ForwardOutboxLifecycle.isDueSibling_of_mem_dueSiblings member
        (List.contains_iff_mem.1 listed)
      simp only [isDueSibling, Bool.and_eq_true] at due
      exact ne_sent_of_isQueued due.1.2 isSent
  | selectExpired policy now limit =>
      obtain rfl := List.mem_singleton.1 left
      simp only [PendingWrite.overwrites, Bool.eq_false_iff]
      intro listed
      have unsettled := ForwardOutboxLifecycle.unsettled_of_mem_dueForExpiry member
        (List.contains_iff_mem.1 listed)
      exact ForwardOutboxStatus.ne_sent_of_not_isTerminal unsettled isSent
  | markSent now outboxId response =>
      simp only [writesLeft] at left
      split at left
      · simp at left
      · obtain rfl := List.mem_singleton.1 left
        rfl
  | readForFailure policy now outboxId failure =>
      simp only [writesLeft] at left
      split at left
      · simp at left
      · rename_i record found
        split at left
        · simp at left
        · rename_i unsettled
          obtain rfl := List.mem_singleton.1 left
          simp only [PendingWrite.overwrites, Bool.and_eq_false_iff, decide_eq_false_iff_not]
          refine Or.inl fun sameId => ?_
          have same := Table.eq_of_key_eq (Table.lookup_eq_some_iff.1 found).1 member sameId
          rw [same, isSent] at unsettled
          exact unsettled rfl
  | readLeader now leaderId error siblings =>
      obtain rfl := List.mem_singleton.1 left
      rfl
  | expireIfOld | claim | recoverStale | requeue | write => simp [writesLeft] at left

/-! ## Statements and runs -/

theorem mem_pending_step {state : InterleavedState} {statement : OutboxStatement}
    {write : PendingWrite} (member : write ∈ (step state statement).pending) :
    write ∈ state.pending ∨ write ∈ writesLeft state.table statement := by
  cases statement with
  | write index =>
      simp only [step] at member
      split at member
      · exact Or.inl (List.mem_of_mem_eraseIdx member)
      · exact Or.inl member
  | markSent | selectSiblings | selectExpired | readForFailure | readLeader =>
      exact List.mem_append.1 member
  | expireIfOld | claim | recoverStale | requeue => exact Or.inl member

/-- A row that is SENT after a statement was SENT before, or the statement marked
it SENT; a row that was SENT before is SENT after. -/
def SendsBy (statement : OutboxStatement) (row moved : ForwardOutbox) : Prop :=
  (row.status = .sent → moved.status = .sent) ∧
    (moved.status = .sent → row.status = .sent ∨
      ∃ now outboxId response, statement = .markSent now outboxId response ∧
        isUnsettled outboxId row = true)

theorem step_sendsBy {state : InterleavedState} (statement : OutboxStatement)
    (unshadowed : SentUnshadowed state) :
    Rewrites (SendsBy statement) state.table (step state statement).table := by
  have weaken {after : OutboxTable} (same : Rewrites SameSending state.table after) :
      Rewrites (SendsBy statement) state.table after :=
    same.mono (fun _ _ agrees => ⟨agrees.2, fun isSent => Or.inl (agrees.1 isSent)⟩) fun _ => id
  have unchanged : Rewrites SameSending state.table state.table :=
    Table.Evolves.refl SameSending.refl _
  cases statement with
  | markSent now outboxId response =>
      refine Table.Evolves.of_update (sent_id now) (fun _ => ⟨id, Or.inl⟩) ?_
      intro row _ guarded
      exact ⟨fun _ => rfl, fun _ => Or.inr ⟨now, outboxId, response, rfl, guarded⟩⟩
  | write index =>
      simp only [step]
      split
      · rename_i write atIndex
        refine weaken (apply_sameSending write ?_)
        exact fun row member isSent =>
          unshadowed row member isSent write (List.mem_of_getElem? atIndex)
      · exact weaken unchanged
  | expireIfOld policy now outboxId => exact weaken (expireIfOld_sameSending policy now outboxId)
  | claim now outboxId => exact weaken (claimOne_sameSending now outboxId)
  | recoverStale policy now => exact weaken (recoverStale_sameSending policy now)
  | requeue now outboxId => exact weaken (requeueOne_sameSending now outboxId)
  | selectSiblings | selectExpired | readForFailure | readLeader => exact weaken unchanged

theorem step_sentUnshadowed (state : InterleavedState) (statement : OutboxStatement)
    (unshadowed : SentUnshadowed state) (admitted : SendsUnshadowed state statement) :
    SentUnshadowed (step state statement) := by
  intro moved movedMember isSent write pending
  obtain ⟨row, member, sameId, sends⟩ :=
    ((step_sendsBy statement unshadowed).origin moved movedMember).resolve_right id
  rw [sameId]
  rcases sends.2 isSent with wasSent | ⟨now, outboxId, response, rfl, unsettled⟩
  · rcases mem_pending_step pending with old | left
    · exact unshadowed row member wasSent write old
    · exact writesLeft_spare statement left member wasSent
  · rcases List.mem_append.1 pending with old | left
    · exact admitted row member unsettled write old
    · simp only [writesLeft] at left
      split at left
      · simp at left
      · obtain rfl := List.mem_singleton.1 left
        rfl

def statusOf (table : OutboxTable) (outboxId : Nat) : Option ForwardOutboxStatus :=
  (table.lookup outboxId).map ForwardOutbox.status

/-- SENT is absorbing, statement by statement, in every run in which no row is
marked SENT under a pending write that is going to overwrite it. -/
theorem sent_absorbing_between_statements (table : OutboxTable)
    (earlier later : List OutboxStatement)
    (along : GuardedRuns.Along step SendsUnshadowed ⟨table, []⟩ (earlier ++ later)) :
    let middle := GuardedRuns.run step ⟨table, []⟩ earlier
    ∀ outboxId : Nat, statusOf middle.table outboxId = some .sent →
      statusOf (GuardedRuns.run step middle later).table outboxId = some .sent := by
  intro middle outboxId isSent
  obtain ⟨alongEarlier, alongLater⟩ := GuardedRuns.along_append.1 along
  have unshadowed : SentUnshadowed middle :=
    alongEarlier.invariant SentUnshadowed (by simp [SentUnshadowed]) step_sentUnshadowed
  refine (alongLater.invariant (fun state : InterleavedState => SentUnshadowed state ∧
    statusOf state.table outboxId = some .sent) ⟨unshadowed, isSent⟩ ?_).2
  rintro state statement ⟨holds, stillSent⟩ admitted
  refine ⟨step_sentUnshadowed state statement holds admitted, ?_⟩
  obtain ⟨row, found, rowSent⟩ := Option.map_eq_some_iff.1 stillSent
  obtain ⟨moved, movedFound, sends⟩ := (step_sendsBy statement holds).lookup found
  rw [statusOf, movedFound, Option.map_some, sends.1 rowSent]

/-! ## Atomic transactions as statements -/

theorem flushed_self (row : ForwardOutbox) :
    flushed policy now failure row row = failed policy now failure row := by
  have column {Value : Type} [DecidableEq Value] (loaded written : Value) :
      flushColumn loaded written loaded = written := by
    unfold flushColumn
    split
    · exact Eq.symm ‹_›
    · rfl
  unfold flushed
  simp only [column]
  rfl

/-- The statements bring the table to another one, and on the way mark no row SENT
under a pending write. -/
def Performs (before : OutboxTable) (statements : List OutboxStatement) (after : OutboxTable) :
    Prop :=
  GuardedRuns.run step ⟨before, []⟩ statements = ⟨after, []⟩ ∧
    GuardedRuns.Along step SendsUnshadowed ⟨before, []⟩ statements

private theorem performs_nil (table : OutboxTable) : Performs table [] table :=
  ⟨rfl, trivial⟩

theorem claimOutbox_performs (table : OutboxTable) :
    ∃ statements, Performs table statements
      (ForwardOutboxLifecycle.claimOutbox policy now outboxId table).1 := by
  unfold ForwardOutboxLifecycle.claimOutbox
  split
  · exact ⟨[.expireIfOld policy now outboxId], rfl, trivial, trivial⟩
  · rename_i noneExpired
    have unexpired : expireIfOld table policy now outboxId = table :=
      Table.update_eq_self_of_returning_eq_nil (List.head?_eq_none_iff.1 noneExpired)
    refine ⟨[.expireIfOld policy now outboxId, .claim now outboxId], ?_, trivial, trivial, trivial⟩
    simp [step, unexpired]

theorem finalizeOutboxSuccess_performs {env : OutboxEnvironment} {now : DateTime}
    {record : ForwardOutbox} {result : JsonObject} {database settledDatabase : Database}
    {current : ForwardOutbox}
    (ended : ForwardOutboxLifecycle.finalizeOutboxSuccess env now record result database =
      .settled settledDatabase current) :
    ∃ statements, Performs database.outboxes statements settledDatabase.outboxes := by
  obtain ⟨returned, written⟩ := ForwardOutboxLifecycle.settled_outboxes ended
  have sameId : current.id = record.id := by
    obtain ⟨row, _, rowId, _, rfl⟩ := ForwardOutboxLifecycle.unsettled_of_returning_sent returned
    exact rowId
  have notEmpty :
      (database.outboxes.returning (isUnsettled record.id) (sent now)).isEmpty = false := by
    cases rows : database.outboxes.returning (isUnsettled record.id) (sent now) with
    | nil => simp [rows] at returned
    | cons row rows => rfl
  refine ⟨[.markSent now record.id (result.without "pseudonym_map"), .write 0], ?_, ?_, trivial,
    trivial⟩
  · rw [written, sameId]
    simp [step, writesLeft, notEmpty, PendingWrite.apply]
  · intro row _ _ write pending
    simp at pending

theorem finalizeOutboxFailure_performs (failure : DeliveryFailure) (database : Database) :
    ∃ statements, Performs database.outboxes statements
      (ForwardOutboxLifecycle.finalizeOutboxFailure policy now outboxId failure
        database).outboxes := by
  unfold ForwardOutboxLifecycle.finalizeOutboxFailure
  split
  · exact ⟨[], performs_nil _⟩
  · rename_i record found
    split
    · exact ⟨[], performs_nil _⟩
    · rename_i unsettled
      obtain ⟨member, recordId⟩ := Table.lookup_eq_some_iff.1 found
      have flushes : PendingWrite.apply database.outboxes (.flushFailure policy now failure record) =
          database.outboxes.update (fun row => row.id = outboxId) (failed policy now failure)
            (failed_id policy now failure) := by
        subst recordId
        refine Table.update_congr (flushed_id policy now failure record) ?_
        intro row rowMember sameId
        rw [Table.eq_of_key_eq rowMember member (of_decide_eq_true sameId), flushed_self]
      refine ⟨[.readForFailure policy now outboxId failure, .write 0], ?_, trivial, trivial, trivial⟩
      simp only [GuardedRuns.run_cons, GuardedRuns.run_nil, step, writesLeft, found, unsettled,
        if_false, Bool.false_eq_true, List.nil_append, List.getElem?_cons_zero,
        List.eraseIdx_cons_zero, flushes]
      split
      · rw [(ForwardOutboxLifecycle.quarantine_frame ..).1]
      · rfl

theorem parkDigestSiblings_performs (leaderId : Nat) (siblings : List ForwardOutbox)
    (error : String) (database : Database) :
    ∃ statements, Performs database.outboxes statements
      (ForwardOutboxLifecycle.parkDigestSiblings now leaderId siblings error
        database).outboxes := by
  unfold ForwardOutboxLifecycle.parkDigestSiblings
  simp only
  split
  · exact ⟨[], performs_nil _⟩
  · refine ⟨[.readLeader now leaderId error (siblings.map ForwardOutbox.id), .write 0], ?_, trivial,
      trivial, trivial⟩
    cases retries : ForwardOutboxLifecycle.leaderRetryAt leaderId database.outboxes with
    | none | some => simp [step, writesLeft, retries, PendingWrite.apply]

theorem event_performs (env : OutboxEnvironment) (state : ForwardOutboxLifecycle.OutboxState)
    (event : ForwardOutboxLifecycle.OutboxEvent) (filesNone : event.isCreate = false) :
    ∃ statements, Performs state.database.outboxes statements
      (ForwardOutboxLifecycle.step env state event).database.outboxes := by
  cases event with
  | create now policy request matchedRules => contradiction
  | claim now policy entry outboxId => exact claimOutbox_performs policy now outboxId _
  | claimSiblings now worker =>
      simp only [ForwardOutboxLifecycle.step]
      split
      · rename_i entry leader atWorker
        split
        · exact ⟨[.selectSiblings now leader, .write 0], rfl, trivial, trivial, trivial⟩
        · exact ⟨[], performs_nil _⟩
      · exact ⟨[], performs_nil _⟩
  | deliver now worker outcome =>
      simp only [ForwardOutboxLifecycle.step]
      split
      · split <;> exact ⟨[], performs_nil _⟩
      · exact ⟨[], performs_nil _⟩
  | finalize now policy worker =>
      simp only [ForwardOutboxLifecycle.step]
      split
      · rename_i task tasks atWorker
        simp only [ForwardOutboxLifecycle.afterTask]
        cases task with
        | success record result message =>
            simp only [ForwardOutboxLifecycle.runTask]
            split
            · exact ⟨[], performs_nil _⟩
            · exact ⟨[], performs_nil _⟩
            · exact finalizeOutboxSuccess_performs ‹_›
        | failure outboxId failure => exact finalizeOutboxFailure_performs policy now outboxId _ _
        | park leaderId siblings error => exact parkDigestSiblings_performs now leaderId _ _ _
      · exact ⟨[], performs_nil _⟩
  | scan now policy limit =>
      exact ⟨[.selectExpired policy now limit, .write 0, .recoverStale policy now], rfl, trivial,
        trivial, trivial, trivial⟩
  | requeue now outboxId => exact ⟨[.requeue now outboxId], rfl, trivial, trivial⟩

theorem Performs.append {first second third : OutboxTable} {earlier later : List OutboxStatement}
    (before : Performs first earlier second) (after : Performs second later third) :
    Performs first (earlier ++ later) third := by
  constructor
  · rw [GuardedRuns.run_append, before.1, after.1]
  · exact GuardedRuns.along_append.2 ⟨before.2, by rw [before.1]; exact after.2⟩

/-- Every run of the lifecycle that files no rows is a run of statements, which marks no row SENT
under a pending write. -/
theorem run_performs (env : OutboxEnvironment) (state : ForwardOutboxLifecycle.OutboxState)
    (events : List ForwardOutboxLifecycle.OutboxEvent)
    (filesNone : ∀ event ∈ events, event.isCreate = false) :
    ∃ statements, Performs state.database.outboxes statements
      (GuardedRuns.run (ForwardOutboxLifecycle.step env) state events).database.outboxes := by
  induction events generalizing state with
  | nil => exact ⟨[], performs_nil _⟩
  | cons event events ih =>
      obtain ⟨first, performsFirst⟩ := event_performs env state event
        (filesNone event List.mem_cons_self)
      obtain ⟨rest, performsRest⟩ := ih (ForwardOutboxLifecycle.step env state event)
        fun other member => filesNone other (List.mem_cons_of_mem event member)
      exact ⟨first ++ rest, performsFirst.append performsRest⟩

/-! ## A failure flushed over a delivery -/

open ForwardOutboxLifecycle
  (sampleEnvironment samplePolicy sampleTime sampleRequest sampleWebhookRule)

def filedTable : OutboxTable :=
  (createOutboxRecords sampleEnvironment.python sampleTime samplePolicy sampleRequest
    [sampleWebhookRule] Table.empty).1

def filedState : ForwardOutboxLifecycle.OutboxState where
  database :=
    { (ForwardOutboxLifecycle.initial Table.empty Table.empty).database with outboxes := filedTable }
  workers := []
  digestMarks := []

theorem claimed_and_recovered_performs :
    ∃ statements, Performs filedTable statements
      (GuardedRuns.run (ForwardOutboxLifecycle.step sampleEnvironment) filedState
        [.claim (sampleTime.addSeconds 1) samplePolicy .scheduled 1,
          .scan (sampleTime.addSeconds 600) samplePolicy 10]).database.outboxes :=
  run_performs sampleEnvironment filedState _ (by simp [ForwardOutboxLifecycle.OutboxEvent.isCreate])

/-- A slow delivery is recovered as stale and claimed again, and then fails while
the second delivery succeeds: the first finalizer has read the row when the
second marks it SENT. -/
def slowFailure : List OutboxStatement :=
  [.claim (sampleTime.addSeconds 1) 1,
    .recoverStale samplePolicy (sampleTime.addSeconds 600),
    .claim (sampleTime.addSeconds 601) 1,
    .readForFailure samplePolicy (sampleTime.addSeconds 610) 1
      ⟨"timed out", false, false, none⟩,
    .markSent (sampleTime.addSeconds 610) 1 [("status", .str "success")]]

/-- SENT is not absorbing in all interleavings: the failure finalizer flushes what
it made of the row before the row was SENT. -/
theorem failure_flush_overwrites_sent :
    ¬ ∀ (table : OutboxTable) (earlier later : List OutboxStatement),
      let middle := GuardedRuns.run step ⟨table, []⟩ earlier
      ∀ outboxId : Nat, statusOf middle.table outboxId = some .sent →
        statusOf (GuardedRuns.run step middle later).table outboxId = some .sent := by
  intro absorbing
  have stillSent := absorbing filedTable slowFailure [.write 0] 1 (by decide)
  exact absurd stillSent (by decide)

/-- With the flush before the second finalizer, the row stays SENT. -/
theorem sent_absorbing_after_flush :
    let table := filedTable
    let earlier := slowFailure.take 4 ++ [.write 0] ++ slowFailure.drop 4
    let middle := GuardedRuns.run step ⟨table, []⟩ earlier
    statusOf middle.table 1 = some .sent ∧
      statusOf (GuardedRuns.run step middle [.write 0]).table 1 = some .sent := by
  intro table earlier middle
  have isSent : statusOf middle.table 1 = some .sent := by
    decide +kernel
  exact ⟨isSent,
    sent_absorbing_between_statements table earlier [.write 0] (by decide +kernel) 1 isSent⟩

end ForwardOutboxInterleavings

end WebhookWise
