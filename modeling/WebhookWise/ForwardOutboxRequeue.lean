import WebhookWise.ForwardOutboxLifecycle

/-!
# Requeueing a row and claiming it

An operator requeues a row to have it delivered once more.  `requeue_forward_outbox` makes the row
due with a fresh attempt budget, and the next claim decides whether it goes out.  The claim tests
the age of the row first, and what the age counts from is not reset: a row over age is expired
again before it is sent.
-/

namespace WebhookWise

open SqlTable ForwardOutboxStatements ForwardOutboxLifecycle

namespace ForwardOutboxRequeue

/-- `requeue_forward_outbox`, and whether it has updated a row. -/
def requeueForwardOutbox (now : DateTime) (outboxId : Nat) (table : OutboxTable) :
    OutboxTable × Bool :=
  (requeueOne table now outboxId,
    (table.returning (canRequeue outboxId) (requeued now)).head?.isSome)

/-- `datetime.min`. -/
def earliestInstant : DateTime := -62135596800000000

variable (policy : ForwardDeliveryPolicy)

/-- `now - timedelta(seconds=…)`, if `datetime` has such an instant.  It has none from some
64 thousand million seconds on: the age has no upper bound. -/
def cutoff (now : DateTime) : Option DateTime :=
  (some (now.addSeconds (-policy.maxDeliveryAgeSeconds))).filter (earliestInstant ≤ ·)

inductive Raised where
  | overflowError
deriving DecidableEq

/-- The claim as it is called.  The cutoff is computed before any statement runs, and only if
there is a ceiling. -/
def callClaimOutbox (now : DateTime) (outboxId : Nat) (table : OutboxTable) :
    Except Raised (OutboxTable × Option ForwardOutbox) :=
  if 0 < policy.maxDeliveryAgeSeconds ∧ cutoff policy now = none then .error .overflowError
  else .ok (claimOutbox policy now outboxId table)

/-- The claim hands the row out, in its first attempt. -/
def Claims (now : DateTime) (outboxId : Nat) (table : OutboxTable) : Prop :=
  ∃ after record, callClaimOutbox policy now outboxId table = .ok (after, some record) ∧
    after.lookup outboxId = some record ∧ record.status = .processing ∧ record.attempts = 1

/-- The policy has no ceiling, or the age of the row counts from its cutoff or later. -/
def WithinAge (now : DateTime) (row : ForwardOutbox) : Prop :=
  policy.maxDeliveryAgeSeconds ≤ 0 ∨ ∃ instant ∈ cutoff policy now, instant ≤ ageBasis row

section Rows

variable {policy : ForwardDeliveryPolicy} {now later : DateTime} {outboxId : Nat}
  {table : OutboxTable} {row : ForwardOutbox}

@[simp]
theorem isOverAge_requeued :
    isOverAge policy later (requeued now row) = isOverAge policy later row :=
  rfl

theorem exists_row_of_requeueForwardOutbox
    (updated : (requeueForwardOutbox now outboxId table).2 = true) :
    ∃ row, table.lookup outboxId = some row ∧ row.id = outboxId ∧
      (requeueForwardOutbox now outboxId table).1.lookup outboxId = some (requeued now row) := by
  have isKey (row : ForwardOutbox) (guarded : canRequeue outboxId row = true) :
      row.id = outboxId := by
    unfold canRequeue at guarded
    simpa using (Bool.and_eq_true_iff.1 guarded).1
  unfold requeueForwardOutbox at updated ⊢
  rw [Table.head?_returning isKey] at updated
  cases found : table.lookup outboxId with
  | none =>
      rw [found] at updated
      cases updated
  | some row =>
      rw [found, Option.isSome_map, Option.isSome_filter] at updated
      have guarded : canRequeue outboxId row = true := by simpa using updated
      refine ⟨row, rfl, isKey row guarded, ?_⟩
      unfold requeueOne
      rw [Table.lookup_update, found, Option.map_some, if_pos guarded]

theorem claimOutbox_of_lookup (found : table.lookup outboxId = some row)
    (isKey : row.id = outboxId) (queued : row.status.isQueued = true)
    (due : row.dueAt now = true) :
    (claimOutbox policy now outboxId table).2 =
        (if isOverAge policy now row then none else some (claimed now row)) ∧
      (claimOutbox policy now outboxId table).1.lookup outboxId =
        some (if isOverAge policy now row then expired policy now row else claimed now row) := by
  have expires := @Table.head?_returning _ _ table (expiresIfOld policy now outboxId)
    (expired policy now) outboxId fun row guarded => by
      simp only [expiresIfOld, Bool.and_eq_true, decide_eq_true_eq] at guarded
      exact guarded.1.1
  have claims := @Table.head?_returning _ _ table (isClaimable now outboxId) (claimed now) outboxId
    fun row guarded => by
      simp only [isClaimable, Bool.and_eq_true, decide_eq_true_eq] at guarded
      exact guarded.1.1
  have isOld : expiresIfOld policy now outboxId row = isOverAge policy now row := by
    simp [expiresIfOld, isKey, queued]
  have claimable : isClaimable now outboxId row = true := by
    simp [isClaimable, isKey, queued, due]
  rw [found, Option.filter_some, isOld] at expires
  rw [found, Option.filter_some, if_pos claimable, Option.map_some] at claims
  unfold claimOutbox
  cases old : isOverAge policy now row with
  | true =>
      rw [old, if_pos rfl, Option.map_some] at expires
      simp only [expires, if_true]
      refine ⟨trivial, ?_⟩
      unfold expireIfOld
      rw [Table.lookup_update, found, Option.map_some, isOld, old, if_pos rfl]
  | false =>
      rw [old, if_neg (by decide), Option.map_none] at expires
      simp only [expires, claims, Bool.false_eq_true, if_false]
      refine ⟨trivial, ?_⟩
      unfold claimOne
      rw [Table.lookup_update, found, Option.map_some, if_pos claimable]

theorem withinAge_iff :
    WithinAge policy now row ↔
      ¬ (0 < policy.maxDeliveryAgeSeconds ∧ cutoff policy now = none) ∧
        isOverAge policy now row = false := by
  unfold WithinAge isOverAge cutoff
  by_cases ceiling : 0 < policy.maxDeliveryAgeSeconds
  · by_cases representable : earliestInstant ≤ now.addSeconds (-policy.maxDeliveryAgeSeconds)
    · simp [ceiling, representable, not_le_of_gt ceiling]
    · simp [ceiling, representable, not_le_of_gt ceiling]
  · simp [ceiling, not_lt.1 ceiling]

end Rows

/-- A requeued row is claimed just when it is within its age then. -/
theorem requeued_claims_iff (policy : ForwardDeliveryPolicy) (table : OutboxTable) (outboxId : Nat)
    (requeuedAt claimedAt : DateTime)
    (updated : (requeueForwardOutbox requeuedAt outboxId table).2 = true)
    (later : requeuedAt ≤ claimedAt) :
    Claims policy claimedAt outboxId (requeueForwardOutbox requeuedAt outboxId table).1 ↔
      ∀ row ∈ table.lookup outboxId, WithinAge policy claimedAt row := by
  obtain ⟨row, found, isKey, after⟩ := exists_row_of_requeueForwardOutbox updated
  have due : (requeued requeuedAt row).dueAt claimedAt = true := by
    simpa [ForwardOutbox.dueAt, requeued] using later
  obtain ⟨returned, left⟩ := @claimOutbox_of_lookup policy claimedAt outboxId _ _ after isKey rfl due
  rw [isOverAge_requeued] at returned left
  simp only [found, Option.mem_def, Option.some.injEq, forall_eq', withinAge_iff]
  unfold Claims callClaimOutbox
  by_cases overflows : 0 < policy.maxDeliveryAgeSeconds ∧ cutoff policy claimedAt = none
  · rw [if_pos overflows]
    exact iff_of_false (fun ⟨_, _, claims, _⟩ => by cases claims) fun both => both.1 overflows
  · rw [if_neg overflows]
    cases old : isOverAge policy claimedAt row with
    | true =>
        rw [old, if_pos rfl] at returned
        refine iff_of_false (fun ⟨_, _, claims, _⟩ => ?_) fun both => absurd both.2 (by decide)
        rw [Except.ok.inj claims] at returned
        cases returned
    | false =>
        rw [old, if_neg (by decide)] at returned left
        exact iff_of_true ⟨_, _, congrArg Except.ok (Prod.ext rfl returned), left, rfl, rfl⟩
          ⟨overflows, rfl⟩

def filedRow : OutboxTable :=
  (ForwardOutboxRecords.createOutboxRecords sampleEnvironment.python sampleTime samplePolicy
    sampleRequest [sampleWebhookRule] Table.empty).1

theorem requeued_claims_filedRow :
    Claims samplePolicy (sampleTime.addSeconds 601) 1
      (requeueForwardOutbox (sampleTime.addSeconds 600) 1 filedRow).1 :=
  (requeued_claims_iff samplePolicy filedRow 1 (sampleTime.addSeconds 600)
    (sampleTime.addSeconds 601) (by decide) (by decide)).2 fun _ found => by
      obtain rfl := Option.some.inj found
      exact Or.inr ⟨_, rfl, by decide⟩

def expiredRow : OutboxTable :=
  (claimOutbox samplePolicy (sampleTime.addSeconds 3600) 1 filedRow).1

/-- An expired row is requeued, and expires again at the next claim. -/
theorem requeued_expires_again :
    (requeueForwardOutbox (sampleTime.addSeconds 3600) 1 expiredRow).2 = true ∧
      ¬ Claims samplePolicy (sampleTime.addSeconds 3601) 1
        (requeueForwardOutbox (sampleTime.addSeconds 3600) 1 expiredRow).1 := by
  refine ⟨by decide, ?_⟩
  rintro ⟨after, record, claims, _⟩
  have unclaimed : ((callClaimOutbox samplePolicy (sampleTime.addSeconds 3601) 1
      (requeueForwardOutbox (sampleTime.addSeconds 3600) 1 expiredRow).1).toOption.bind
        Prod.snd).isNone = true := by
    decide
  rw [claims] at unclaimed
  cases unclaimed

end ForwardOutboxRequeue

end WebhookWise
