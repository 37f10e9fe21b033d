import WebhookWise.ForwardOutboxRowSteps

/-!
# The retry budget

Both claims count an attempt, but only the failure finalizer compares the count with the budget.
Stale recovery and sibling parking return a row without looking at it, so a row whose last attempt
crashed is claimed once more.
-/

namespace WebhookWise

open SqlTable ForwardChannels ForwardOutboxRecords ForwardOutboxStatements

namespace ForwardOutboxLifecycle

/-- The row may be claimed another time. -/
def HasAttemptsLeft (row : ForwardOutbox) : Prop :=
  row.attempts < row.maxAttempts

instance : DecidablePred HasAttemptsLeft :=
  fun row => inferInstanceAs (Decidable (row.attempts < row.maxAttempts))

/-- The event is no manual requeue, and the rows it returns from a worker to the
queue have attempts left. -/
def ReturnsWithinBudget (state : OutboxState) (event : OutboxEvent) : Prop :=
  event.requeuedId = none ∧ ∀ row ∈ returnedRows state event, HasAttemptsLeft row

instance (state : OutboxState) (event : OutboxEvent) :
    Decidable (ReturnsWithinBudget state event) :=
  inferInstanceAs (Decidable (_ ∧ _))

/-- The budget of a row is kept: it is not exceeded, and a row in the queue has
attempts left. -/
structure BudgetKept (row : ForwardOutbox) : Prop where
  attempts_le : row.attempts ≤ row.maxAttempts
  queued : row.status.isQueued = true → HasAttemptsLeft row

theorem BudgetKept.of_filed {row : ForwardOutbox} (filed : Filed row) : BudgetKept row := by
  have attempts := filed.attempts
  have maxAttempts := filed.maxAttempts
  constructor
  · omega
  · intro _
    unfold HasAttemptsLeft
    omega

section Writes

variable {sentId : Option Nat} {row moved : ForwardOutbox}

theorem RowStep.budgetKept (write : RowStep none sentId HasAttemptsLeft row moved)
    (kept : BudgetKept row) : BudgetKept moved := by
  cases write with
  | claimed now queued =>
      have attemptsLeft : row.attempts < row.maxAttempts := kept.queued queued
      exact ⟨attemptsLeft, fun moved => by simp [ForwardOutboxStatus.isQueued] at moved⟩
  | failed policy now failure unsettled =>
      refine ⟨kept.attempts_le, ?_⟩
      intro retried
      -- The failure finalizer retries a row only when it has attempts left.
      by_cases givenUp : exhausts failure row = true
      · simp [ForwardOutboxStatements.failed, givenUp, ForwardOutboxStatus.isQueued] at retried
      · simp only [exhausts, Bool.or_eq_true, decide_eq_true_eq, not_or, not_le] at givenUp
        exact givenUp.2
  | parked now retryAt error held returned => exact ⟨kept.attempts_le, fun _ => returned⟩
  | recovered now held returned => exact ⟨kept.attempts_le, fun _ => returned⟩
  | expired | sent | exhaustedWithLeader =>
      exact ⟨kept.attempts_le, fun queued => by simp [ForwardOutboxStatus.isQueued] at queued⟩
  | answered now response isSent => exact ⟨kept.attempts_le, kept.queued⟩
  | requeued now isManual requeueable => contradiction

theorem RowSteps.attempts {Returned : ForwardOutbox → Prop}
    (steps : RowSteps none sentId Returned row moved) :
    row.attempts ≤ moved.attempts ∧
      (row.status ≠ .processing → moved.status = .processing → row.attempts < moved.attempts) := by
  by_cases inFlight : row.status = .processing
  · refine ⟨?_, fun notInFlight => absurd inFlight notInFlight⟩
    refine RowSteps.keep (fun current => row.attempts ≤ current.attempts) steps ?_ le_rfl
    intro before after write attempts
    cases write with
    | claimed now queued => exact Nat.le_succ_of_le attempts
    | requeued now isManual requeueable => contradiction
    | _ => exact attempts
  · have counted := RowSteps.keep (fun current => row.attempts ≤ current.attempts ∧
      (current.status = .processing → row.attempts < current.attempts)) steps ?_
      ⟨le_rfl, fun started => absurd started inFlight⟩
    · exact ⟨counted.1, fun _ => counted.2⟩
    · rintro before after write ⟨attempts, started⟩
      cases write with
      | claimed now queued => exact ⟨Nat.le_succ_of_le attempts, fun _ => Nat.lt_succ_of_le attempts⟩
      | requeued now isManual requeueable => contradiction
      | answered now response isSent => exact ⟨attempts, started⟩
      | failed policy now failure unsettled =>
          refine ⟨attempts, fun processing => ?_⟩
          simp only [ForwardOutboxStatements.failed] at processing
          split at processing <;> contradiction
      | _ => exact ⟨attempts, fun processing => by simp at processing⟩

end Writes

/-! ## How often a row is moved to PROCESSING -/

def startsProcessing (before after : Database) (outboxId : Nat) : Bool :=
  match before.outboxes.lookup outboxId, after.outboxes.lookup outboxId with
  | some row, some moved => row.status ≠ .processing && moved.status = .processing
  | _, _ => false

def timesProcessed (env : OutboxEnvironment) (outboxId : Nat) :
    OutboxState → List OutboxEvent → Nat
  | _, [] => 0
  | state, event :: events =>
      let next := step env state event
      (if startsProcessing state.database next.database outboxId then 1 else 0) +
        timesProcessed env outboxId next events

def attemptsOf (database : Database) (outboxId : Nat) : Nat :=
  ((database.outboxes.lookup outboxId).map ForwardOutbox.attempts).getD 0

variable {env : OutboxEnvironment}

theorem step_attemptsOf (state : OutboxState) (event : OutboxEvent) (outboxId : Nat)
    (notRequeue : event.requeuedId = none) :
    attemptsOf state.database outboxId +
        (if startsProcessing state.database (step env state event).database outboxId then 1 else 0) ≤
      attemptsOf (step env state event).database outboxId := by
  cases found : state.database.outboxes.lookup outboxId with
  | none => simp [attemptsOf, startsProcessing, found]
  | some row =>
      obtain ⟨moved, movedFound, steps⟩ := (step_evolves_all env state event).lookup found
      simp only [EventSteps, notRequeue] at steps
      obtain ⟨attempts, started⟩ := steps.attempts
      simp only [attemptsOf, startsProcessing, found, movedFound, Option.map_some, Option.getD_some]
      split
      · rename_i starts
        simp only [ne_eq, decide_not, Bool.and_eq_true, Bool.not_eq_true', decide_eq_false_iff_not,
          decide_eq_true_eq] at starts
        exact started starts.1 starts.2
      · exact attempts

theorem run_attemptsOf (outboxId : Nat) {state : OutboxState} {events : List OutboxEvent}
    (along : GuardedRuns.Along (step env) ReturnsWithinBudget state events) :
    attemptsOf state.database outboxId + timesProcessed env outboxId state events ≤
      attemptsOf (GuardedRuns.run (step env) state events).database outboxId := by
  induction events generalizing state with
  | nil => exact le_rfl
  | cons event events ih =>
      have first : attemptsOf state.database outboxId +
          (if startsProcessing state.database (step env state event).database outboxId
            then 1 else 0) ≤ attemptsOf (step env state event).database outboxId :=
        step_attemptsOf state event outboxId along.1.1
      have rest := ih along.2
      simp only [timesProcessed, GuardedRuns.run_cons]
      omega

/-! ## The budget over runs -/

theorem step_budgetKept (state : OutboxState) (event : OutboxEvent)
    (kept : ∀ row ∈ state.database.outboxes.rows, BudgetKept row)
    (admitted : ReturnsWithinBudget state event) :
    ∀ row ∈ (step env state event).database.outboxes.rows, BudgetKept row := by
  refine (step_evolves env state event admitted.2).forall_mem ?_ (fun _ => BudgetKept.of_filed) kept
  intro row moved steps keptRow
  simp only [EventSteps, admitted.1] at steps
  exact RowSteps.keep BudgetKept steps (fun _ _ => RowStep.budgetKept) keptRow

/-- In every run in which rows are returned to the queue only with attempts left,
and none is requeued by hand, no row is attempted more often than its budget
allows, and none is moved to PROCESSING more often. -/
theorem attempts_le_maxAttempts (env : OutboxEnvironment)
    (webhookEvents : Table WebhookEventNotice.id) (forwardRules : Table ForwardRule.id)
    (events : List OutboxEvent)
    (along : GuardedRuns.Along (step env) ReturnsWithinBudget
      (initial webhookEvents forwardRules) events) :
    ∀ row ∈ (GuardedRuns.run (step env) (initial webhookEvents forwardRules)
        events).database.outboxes.rows,
      row.attempts ≤ row.maxAttempts ∧
        timesProcessed env row.id (initial webhookEvents forwardRules) events ≤
          row.maxAttempts := by
  intro row member
  have kept := along.invariant
    (fun state : OutboxState => ∀ row ∈ state.database.outboxes.rows, BudgetKept row)
    (by simp [initial, Table.empty]) step_budgetKept row member
  have counted := run_attemptsOf row.id along
  simp only [attemptsOf, Table.mem_rows_iff_lookup.1 member, Option.map_some,
    Option.getD_some] at counted
  exact ⟨kept.attempts_le, by have := kept.attempts_le; omega⟩

/-! ## A row attempted once too often -/

def singleAttemptPolicy : ForwardDeliveryPolicy where
  maxAttempts := 1
  maxAttempts_pos := le_rfl
  delayForAttempt _ := 30
  staleProcessingThresholdSeconds := 300
  maxDeliveryAgeSeconds := 1800

def twoAttemptsPolicy : ForwardDeliveryPolicy :=
  { singleAttemptPolicy with maxAttempts := 2, maxAttempts_pos := by decide }

/-- The worker crashes, the scan recovers the row, and another worker claims it. -/
def crashedAlert (policy : ForwardDeliveryPolicy) : List OutboxEvent :=
  [.create sampleTime policy sampleRequest [sampleWebhookRule],
    .claim (sampleTime.addSeconds 1) policy .scheduled 1,
    .scan (sampleTime.addSeconds 600) policy 100,
    .claim (sampleTime.addSeconds 601) policy .scheduled 1]

/-- The budget is not kept in all runs without a manual requeue: stale recovery
returns a row whose only attempt crashed. -/
theorem stale_recovery_exceeds_budget :
    ¬ ∀ (env : OutboxEnvironment) (webhookEvents : Table WebhookEventNotice.id)
        (forwardRules : Table ForwardRule.id) (events : List OutboxEvent),
      (∀ event ∈ events, event.requeuedId = none) →
        ∀ row ∈ (GuardedRuns.run (step env) (initial webhookEvents forwardRules)
          events).database.outboxes.rows, row.attempts ≤ row.maxAttempts := by
  intro keepsBudget
  have kept := keepsBudget sampleEnvironment Table.empty Table.empty
    (crashedAlert singleAttemptPolicy) (by decide)
  exact absurd kept (by decide)

/-- With two attempts the same run returns the row within its budget, and keeps it. -/
theorem attempts_le_maxAttempts_crashedAlert :
    GuardedRuns.Along (step sampleEnvironment) ReturnsWithinBudget
        (initial Table.empty Table.empty) (crashedAlert twoAttemptsPolicy) ∧
      ∀ row ∈ (GuardedRuns.run (step sampleEnvironment) (initial Table.empty Table.empty)
          (crashedAlert twoAttemptsPolicy)).database.outboxes.rows,
        row.attempts ≤ row.maxAttempts ∧
          timesProcessed sampleEnvironment row.id (initial Table.empty Table.empty)
              (crashedAlert twoAttemptsPolicy) ≤ row.maxAttempts := by
  have along : GuardedRuns.Along (step sampleEnvironment) ReturnsWithinBudget
      (initial Table.empty Table.empty) (crashedAlert twoAttemptsPolicy) := by decide
  exact ⟨along, attempts_le_maxAttempts sampleEnvironment Table.empty Table.empty _ along⟩

end ForwardOutboxLifecycle

end WebhookWise
