import Mathlib.Data.List.Sort
import WebhookWise.ForwardOutboxRecords

/-!
# The statements which write `forward_outboxes`

Every statement against `forward_outboxes` is given here once: which rows it hits, and what it
writes.  A conditional `UPDATE` rechecks its `WHERE`; the sibling claim and the batch expiry recheck
ids only, and the failure finalizer writes what it has computed from a row read before.
-/

namespace WebhookWise

open SqlTable

namespace ForwardOutboxStatements

/-! ## Expiry -/

variable (policy : ForwardDeliveryPolicy) (now : DateTime)

/-- What the age of a row counts from: the end of its digest window, if any. -/
def ageBasis (row : ForwardOutbox) : DateTime :=
  row.digestWindowEnd.getD row.createdAt

/-- The row is older than the policy's ceiling; a ceiling of zero is none. -/
def isOverAge (row : ForwardOutbox) : Bool :=
  0 < policy.maxDeliveryAgeSeconds && ageBasis row < now.addSeconds (-policy.maxDeliveryAgeSeconds)

def expired (policy : ForwardDeliveryPolicy) (now : DateTime) (row : ForwardOutbox) :
    ForwardOutbox :=
  { row with
    status := .expired
    nextAttemptAt := none
    updatedAt := now
    lastError := some ("forward delivery expired after " ++
      toString policy.maxDeliveryAgeSeconds ++ "s") }

/-- The `WHERE` of `_expire_outbox_if_old`. -/
def expiresIfOld (outboxId : Nat) (row : ForwardOutbox) : Bool :=
  row.id = outboxId && row.status.isQueued && isOverAge policy now row

/-- The sub-select of `_expire_due_outboxes`: the oldest rows over age, in flight
or queued. -/
def dueForExpiry (limit : Nat) (table : OutboxTable) : List Nat :=
  (((table.rows.filter fun row => !row.status.isTerminal && isOverAge policy now row).insertionSort
    fun first second => first.createdAt < second.createdAt ∨
      (first.createdAt = second.createdAt ∧ first.id ≤ second.id)).take limit).map ForwardOutbox.id

/-! ## Claims -/

def claimed (row : ForwardOutbox) : ForwardOutbox :=
  { row with
    status := .processing
    attempts := row.attempts + 1
    lastAttemptAt := some now
    updatedAt := now }

/-- The `WHERE` of `_claim_outbox`. -/
def isClaimable (outboxId : Nat) (row : ForwardOutbox) : Bool :=
  row.id = outboxId && row.status.isQueued && row.dueAt now

def digestGroupMaxRecords : Nat := 200

/-- A row the leader's worker may take along: another queued row of the leader's
group which is due. -/
def isDueSibling (leader row : ForwardOutbox) : Bool :=
  leader.groupKey.isSome && row.digestKey = leader.groupKey && row.id ≠ leader.id &&
    row.status.isQueued && row.dueAt now

/-- The sub-select of `_claim_digest_siblings`. -/
def dueSiblings (leader : ForwardOutbox) (table : OutboxTable) : List Nat :=
  (((table.rows.filter (isDueSibling now leader)).map ForwardOutbox.id).insertionSort (· ≤ ·)).take
    (digestGroupMaxRecords - 1)

/-! ## Success -/

/-- The `WHERE` of `_finalize_outbox_success`. -/
def isUnsettled (outboxId : Nat) (row : ForwardOutbox) : Bool :=
  row.id = outboxId && !row.status.isTerminal

/-- What the success finalizer's conditional `UPDATE` writes. -/
def sent (now : DateTime) (row : ForwardOutbox) : ForwardOutbox :=
  { row with status := .sent, sentAt := some now, updatedAt := now, lastError := none }

/-- `current.response_data = response_snapshot`, written by id when the session
flushes. -/
def answered (response : JsonObject) (row : ForwardOutbox) : ForwardOutbox :=
  { row with responseData := some response, updatedAt := now }

/-! ## Failure -/

structure DeliveryFailure where
  errorMessage : String
  permanent : Bool
  quarantineRule : Bool
  failureData : Option JsonObject

def exhausts (failure : DeliveryFailure) (record : ForwardOutbox) : Bool :=
  failure.permanent || record.maxAttempts ≤ record.attempts

def failed (failure : DeliveryFailure) (record : ForwardOutbox) : ForwardOutbox :=
  { record with
    lastError := some (truncated failure.errorMessage 2000)
    responseData :=
      match failure.failureData with
      | none => record.responseData
      | some response => some response
    updatedAt := now
    status := if exhausts failure record then .exhausted else .retrying
    nextAttemptAt :=
      if exhausts failure record then none
      else some (now.addSeconds (policy.delayForAttempt record.attempts)) }

/-! ## Parking -/

/-- The `WHERE` of both statements of `_park_digest_siblings`. -/
def isHeldSibling (siblings : List Nat) (row : ForwardOutbox) : Bool :=
  siblings.contains row.id && row.status = .processing

/-- Siblings go back to the queue, due at the leader's next attempt. -/
def parked (retryAt : DateTime) (error : String) (row : ForwardOutbox) : ForwardOutbox :=
  { row with
    status := .pending
    nextAttemptAt := some retryAt
    updatedAt := now
    lastError := some (truncated error 2000) }

def exhaustedWithLeader (error : String) (row : ForwardOutbox) : ForwardOutbox :=
  { row with
    status := .exhausted
    nextAttemptAt := none
    updatedAt := now
    lastError := some (truncated error 2000) }

/-! ## Stale recovery and requeue -/

/-- The `WHERE` of the stale recovery in `run_forward_outbox_scan`. -/
def isStale (row : ForwardOutbox) : Bool :=
  row.status = .processing &&
    row.updatedAt < now.addSeconds (-policy.staleProcessingThresholdSeconds)

def recovered (now : DateTime) (row : ForwardOutbox) : ForwardOutbox :=
  { row with
    status := .retrying
    nextAttemptAt := some now
    updatedAt := now
    lastError := some "recovered_stale_processing" }

/-- The `WHERE` of `requeue_forward_outbox`. -/
def canRequeue (outboxId : Nat) (row : ForwardOutbox) : Bool :=
  row.id = outboxId && row.status.isRequeueable

def requeued (now : DateTime) (row : ForwardOutbox) : ForwardOutbox :=
  { row with
    status := .retrying
    nextAttemptAt := some now
    updatedAt := now
    attempts := 0
    lastError := some "manual_retry" }

/-! ## Keys and statuses after a write -/

variable (policy : ForwardDeliveryPolicy) (now : DateTime)
variable (error : String) (row : ForwardOutbox)

@[simp]
theorem expired_id : (expired policy now row).id = row.id :=
  rfl

@[simp]
theorem claimed_id : (claimed now row).id = row.id :=
  rfl

@[simp]
theorem sent_id : (sent now row).id = row.id :=
  rfl

@[simp]
theorem answered_id (response : JsonObject) (row : ForwardOutbox) :
    (answered now response row).id = row.id :=
  rfl

@[simp]
theorem failed_id (failure : DeliveryFailure) (row : ForwardOutbox) :
    (failed policy now failure row).id = row.id :=
  rfl

@[simp]
theorem parked_id (retryAt : DateTime) (error : String) (row : ForwardOutbox) :
    (parked now retryAt error row).id = row.id :=
  rfl

@[simp]
theorem exhaustedWithLeader_id : (exhaustedWithLeader now error row).id = row.id :=
  rfl

@[simp]
theorem recovered_id : (recovered now row).id = row.id :=
  rfl

@[simp]
theorem requeued_id : (requeued now row).id = row.id :=
  rfl

@[simp]
theorem expired_status : (expired policy now row).status = .expired :=
  rfl

@[simp]
theorem claimed_status : (claimed now row).status = .processing :=
  rfl

@[simp]
theorem sent_status : (sent now row).status = .sent :=
  rfl

@[simp]
theorem parked_status (retryAt : DateTime) (error : String) (row : ForwardOutbox) :
    (parked now retryAt error row).status = .pending :=
  rfl

@[simp]
theorem exhaustedWithLeader_status : (exhaustedWithLeader now error row).status = .exhausted :=
  rfl

@[simp]
theorem recovered_status : (recovered now row).status = .retrying :=
  rfl

@[simp]
theorem requeued_status : (requeued now row).status = .retrying :=
  rfl

theorem failed_status_ne_sent (failure : DeliveryFailure) (row : ForwardOutbox) :
    (failed policy now failure row).status ≠ .sent := by
  unfold failed
  split <;> simp

/-! ## The statements -/

section Statements

variable (table : OutboxTable)
variable (policy : ForwardDeliveryPolicy) (now : DateTime)

def expireIfOld (outboxId : Nat) : OutboxTable :=
  table.update (expiresIfOld policy now outboxId) (expired policy now)
    (expired_id policy now)

def expireListed (policy : ForwardDeliveryPolicy) (now : DateTime) (ids : List Nat) :
    OutboxTable :=
  table.update (fun row => ids.contains row.id) (expired policy now)
    (expired_id policy now)

def claimOne (outboxId : Nat) : OutboxTable :=
  table.update (isClaimable now outboxId) (claimed now) (claimed_id now)

def claimListed (now : DateTime) (ids : List Nat) : OutboxTable :=
  table.update (fun row => ids.contains row.id) (claimed now) (claimed_id now)

def markSent (outboxId : Nat) : OutboxTable :=
  table.update (isUnsettled outboxId) (sent now) (sent_id now)

def storeResponse (now : DateTime) (outboxId : Nat) (response : JsonObject) : OutboxTable :=
  table.update (fun row => row.id = outboxId) (answered now response)
    (answered_id now response)

def parkListed (retryAt : DateTime) (error : String) (ids : List Nat) : OutboxTable :=
  table.update (isHeldSibling ids) (parked now retryAt error)
    (parked_id now retryAt error)

def exhaustListed (error : String) (ids : List Nat) : OutboxTable :=
  table.update (isHeldSibling ids) (exhaustedWithLeader now error)
    (exhaustedWithLeader_id now error)

def recoverStale : OutboxTable :=
  table.update (isStale policy now) (recovered now) (recovered_id now)

def requeueOne (outboxId : Nat) : OutboxTable :=
  table.update (canRequeue outboxId) (requeued now) (requeued_id now)

end Statements

end ForwardOutboxStatements

end WebhookWise
