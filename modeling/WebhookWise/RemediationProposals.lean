import WebhookWise.PythonValues
import WebhookWise.GuardedRuns
import Mathlib.Logic.Function.Basic

/-!
# Deciding remediation proposals

`decide_proposal` locks the row of the proposal, and an approval runs the command before it writes
the status.  Most commands commit the session they are given, and with it the lock: from then on the
row is pending and unlocked while the command runs.
-/

namespace WebhookWise

open GuardedRuns

namespace Remediation

/-! ## Proposals -/

/-- The literals of `RemediationAction`. -/
inductive RemediationAction where
  | retryOutbox
  | retryDeadLetters
  | retryStuckEvents
  | retryIncidentSummaries
  | testEnableRule
  | disableRule
  | acknowledge
deriving DecidableEq

def RemediationAction.text : RemediationAction → String
  | retryOutbox => "retry_outbox"
  | retryDeadLetters => "retry_dead_letters"
  | retryStuckEvents => "retry_stuck_events"
  | retryIncidentSummaries => "retry_incident_summaries"
  | testEnableRule => "test_enable_rule"
  | disableRule => "disable_rule"
  | acknowledge => "acknowledge"

inductive ProposalStatus where
  | pending
  | approved
  | rejected
  | expired
  | failed
deriving DecidableEq

def ProposalStatus.text : ProposalStatus → String
  | pending => "pending"
  | approved => "approved"
  | rejected => "rejected"
  | expired => "expired"
  | failed => "failed"

/-- What deciding a proposal reads and writes of its row. -/
structure Proposal where
  id : Nat
  action : RemediationAction
  resourceId : Option Nat
  batchSize : Nat
  status : ProposalStatus
  expiresAt : DateTime
  decidedBy : Option String
  decidedAt : Option DateTime
  result : JsonObject
  verifyStatus : String

/-! ## The command -/

/-- What a command meets when it runs. -/
structure Surroundings where
  /-- What raises before the command has committed anything. -/
  failure : Option String
  requeued : Bool
  replayable : List Nat
  summarizable : List Nat
  /-- What `run_pending_incident_summaries` raises. -/
  summariesFailure : Option String
  ruleFound : Bool
  testSucceeded : Bool
  /-- The answer of `update_workflow`. -/
  workflow : Option JsonObject

/-- Whether the command commits the session, and how it ends. -/
structure Execution where
  commits : Bool
  outcome : Except String JsonObject

private def idJson (id : Option Nat) : Json :=
  match id with
  | none => .null
  | some id => .int id

private def idsJson (ids : List Nat) : Json :=
  .list (ids.map fun id => .int id)

def replayEvents (proposal : Proposal) (surroundings : Surroundings) : Execution :=
  let scheduled := surroundings.replayable.take proposal.batchSize
  ⟨true, .ok [("action", .str proposal.action.text), ("changed", .bool (!scheduled.isEmpty)),
    ("scheduled_event_ids", idsJson scheduled)]⟩

def retryIncidentSummaries (proposal : Proposal) (surroundings : Surroundings) : Execution :=
  let ids := surroundings.summarizable.take proposal.batchSize
  let answer : JsonObject := [("action", .str "retry_incident_summaries"),
    ("changed", .bool (!ids.isEmpty)), ("incident_ids", idsJson ids)]
  match surroundings.summariesFailure with
  | some error => if ids.isEmpty then ⟨true, .ok answer⟩ else ⟨true, .error error⟩
  | none => ⟨true, .ok answer⟩

def changeRule (proposal : Proposal) (surroundings : Surroundings) : Execution :=
  let ruleId := proposal.resourceId.getD 0
  let unchanged (reason : String) : Execution :=
    ⟨false, .ok [("action", .str proposal.action.text), ("changed", .bool false),
      ("reason", .str reason)]⟩
  let changed (undo : String) : Execution :=
    ⟨true, .ok [("action", .str proposal.action.text), ("changed", .bool true),
      ("resource_id", .int ruleId),
      ("undo", .dict [("action", .str undo), ("resource_id", .int ruleId)])]⟩
  if surroundings.ruleFound then
    if proposal.action = .testEnableRule then
      if surroundings.testSucceeded then changed "disable_rule" else unchanged "target_test_failed"
    else changed "test_enable_rule"
  else unchanged "not_found"

def runRemediation (proposal : Proposal) (surroundings : Surroundings) : Execution :=
  match surroundings.failure with
  | some error => ⟨false, .error error⟩
  | none =>
      match proposal.action with
      | .retryOutbox =>
          ⟨false, .ok [("action", .str proposal.action.text),
            ("changed", .bool (proposal.resourceId.isSome && surroundings.requeued)),
            ("resource_id", idJson proposal.resourceId)]⟩
      | .retryDeadLetters | .retryStuckEvents => replayEvents proposal surroundings
      | .retryIncidentSummaries => retryIncidentSummaries proposal surroundings
      | .testEnableRule | .disableRule => changeRule proposal surroundings
      | .acknowledge =>
          ⟨surroundings.workflow.isSome, .ok [("action", .str proposal.action.text),
            ("changed", .bool surroundings.workflow.isSome),
            ("workflow", surroundings.workflow.elim .null Json.dict)]⟩

theorem commits_runRemediation_retryOutbox {proposal : Proposal}
    (requeues : proposal.action = .retryOutbox) (surroundings : Surroundings) :
    (runRemediation proposal surroundings).commits = false := by
  unfold runRemediation
  rw [requeues]
  cases surroundings.failure <;> rfl

/-! ## The decision -/

/-- What `decide_proposal` does up to its first commit, or up to `run_remediation`. -/
inductive Opening where
  /-- A `ProposalConflict`; nothing is written. -/
  | conflict (message : String)
  /-- The row is committed as expired, then a `ProposalConflict` is raised. -/
  | expired (row : Proposal) (message : String)
  | rejected (row : Proposal)
  /-- The session's row before `run_remediation`. -/
  | approved (row : Proposal)

/-- `decide_proposal` on a locked row. -/
def openDecision (row : Proposal) (approve : Bool) (actor : String) (now : DateTime) : Opening :=
  if row.status ≠ .pending then
    .conflict ("Proposal #" ++ toString row.id ++ " is already " ++ row.status.text)
  else if row.expiresAt ≤ now then
    .expired
      { row with
        status := .expired
        decidedAt := some now
        result := [("changed", .bool false),
          ("reason", .str "The proposal expired before it was decided")] }
      ("Proposal #" ++ toString row.id ++ " expired at " ++ row.expiresAt.utcIsoformat)
  else
    let decided := { row with decidedBy := some (truncated actor 100), decidedAt := some now }
    if approve then .approved decided
    else
      .rejected
        { decided with
          status := .rejected
          result := [("changed", .bool false), ("reason", .str "Rejected by operator")] }

/-- What the end of an approval assigns. -/
def concluded (verifyDelaySeconds : Int) (outcome : Except String JsonObject) (row : Proposal) :
    Proposal :=
  match outcome with
  | .error error =>
      { row with
        status := .failed
        result := [("changed", .bool false), ("error", .str error)] }
  | .ok result =>
      { row with
        status := .approved
        result := result
        verifyStatus :=
          if JsonObject.truthyAt result "changed" ∧ 0 < verifyDelaySeconds then "scheduled"
          else row.verifyStatus }

/-- One call of `decide_proposal`. -/
structure Request where
  approve : Bool
  actor : String
  now : DateTime
  surroundings : Surroundings

/-- An approval whose command has begun: the session's row, and whether the command has
committed it. -/
structure Approval where
  row : Proposal
  execution : Execution
  committed : Bool

inductive Answer where
  | conflict (message : String)
  | decided (row : Proposal)

inductive CallPhase where
  | waiting
  | executing (approval : Approval)
  | answered (answer : Answer)
  | crashed

/-- The row of the proposal, the call that has locked it, the calls, and those of them that
have begun to execute it, the last one first. -/
structure DecisionState where
  row : Proposal
  lockedBy : Option Nat
  calls : Nat → CallPhase
  executions : List Nat

/-- Every call is still to come. -/
def DecisionState.initial (row : Proposal) : DecisionState :=
  ⟨row, none, fun _ => .waiting, []⟩

inductive DecisionEvent where
  /-- The call gets the lock and goes on to its first commit, or to its command. -/
  | take (call : Nat) (request : Request)
  /-- The command commits, or ends; then the status is committed. -/
  | proceed (call : Nat)
  /-- The call crashes while its command runs. -/
  | crash (call : Nat)

namespace DecisionState

def released (state : DecisionState) (call : Nat) : Option Nat :=
  if state.lockedBy = some call then none else state.lockedBy

def answer (state : DecisionState) (call : Nat) (row : Proposal) (answer : Answer) :
    DecisionState :=
  { state with row := row, calls := Function.update state.calls call (.answered answer) }

end DecisionState

variable (verifyDelaySeconds : Int)

/-- One step of a call; nothing where the call has to wait for the lock. -/
def step (state : DecisionState) : DecisionEvent → DecisionState
  | .take call request =>
      match state.calls call, state.lockedBy with
      | .waiting, none =>
          match openDecision state.row request.approve request.actor request.now with
          | .conflict message => state.answer call state.row (.conflict message)
          | .expired row message => state.answer call row (.conflict message)
          | .rejected row => state.answer call row (.decided row)
          | .approved row =>
              { state with
                lockedBy := some call
                calls := Function.update state.calls call
                  (.executing ⟨row, runRemediation row request.surroundings, false⟩)
                executions := call :: state.executions }
      | _, _ => state
  | .proceed call =>
      match state.calls call with
      | .executing approval =>
          if state.lockedBy = none ∨ state.lockedBy = some call then
            -- The first commit also writes who decided; later ones only what has changed since.
            let row :=
              if approval.committed then state.row
              else
                { state.row with
                  decidedBy := approval.row.decidedBy
                  decidedAt := approval.row.decidedAt }
            if approval.execution.commits ∧ ¬ approval.committed then
              { state with
                row := row
                lockedBy := none
                calls := Function.update state.calls call
                  (.executing { approval with committed := true }) }
            else
              let conclude := concluded verifyDelaySeconds approval.execution.outcome
              { state.answer call (conclude row) (.decided (conclude approval.row)) with
                lockedBy := none }
          else state
      | _ => state
  | .crash call =>
      match state.calls call with
      | .executing _ =>
          { state with
            lockedBy := state.released call
            calls := Function.update state.calls call .crashed }
      | _ => state

/-! ## Decided once -/

/-- One call executes the proposal at most, and a status other than pending stays. -/
def DecidedOnce (row : Proposal) (events : List DecisionEvent) : Prop :=
  (run (step verifyDelaySeconds) (.initial row) events).executions.length ≤ 1 ∧
    Along (step verifyDelaySeconds)
      (fun state event => state.row.status ≠ .pending →
        (step verifyDelaySeconds state event).row.status = state.row.status)
      (.initial row) events

/-- No call gets the lock of a row that is pending although a call has begun to execute it. -/
def Undisturbed (state : DecisionState) : DecisionEvent → Prop
  | .take _ _ => state.lockedBy = none → state.row.status = .pending → state.executions = []
  | .proceed _ => True
  | .crash _ => True

instance (state : DecisionState) (event : DecisionEvent) : Decidable (Undisturbed state event) :=
  match event with
  | .take _ _ => inferInstanceAs (Decidable (_ → _ → _))
  | .proceed _ => inferInstanceAs (Decidable True)
  | .crash _ => inferInstanceAs (Decidable True)

/-- A call that executes is the only one that has, and the row is pending. -/
structure SoleExecution (state : DecisionState) : Prop where
  sole : state.executions.length ≤ 1
  executing : ∀ call approval, state.calls call = .executing approval →
    state.executions = [call] ∧ state.row.status = .pending

section Steps

variable {verifyDelaySeconds : Int} {state : DecisionState} {call : Nat}

theorem openDecision_of_decided {row : Proposal} (decided : row.status ≠ .pending)
    (approve : Bool) (actor : String) (now : DateTime) :
    openDecision row approve actor now =
      .conflict ("Proposal #" ++ toString row.id ++ " is already " ++ row.status.text) :=
  if_pos decided

theorem executing_update {calls : Nat → CallPhase} {phase : CallPhase} {other : Nat}
    {approval : Approval} (executing : Function.update calls call phase other = .executing approval) :
    other = call ∧ phase = .executing approval ∨ other ≠ call ∧ calls other = .executing approval := by
  by_cases same : other = call
  · subst same
    rw [Function.update_self] at executing
    exact Or.inl ⟨rfl, executing⟩
  · rw [Function.update_of_ne same] at executing
    exact Or.inr ⟨same, executing⟩

theorem SoleExecution.eq_of_executing (sole : SoleExecution state) {first second : Nat}
    {firstApproval secondApproval : Approval}
    (firstExecutes : state.calls first = .executing firstApproval)
    (secondExecutes : state.calls second = .executing secondApproval) : first = second := by
  have firstOnly := (sole.executing first firstApproval firstExecutes).1
  rw [(sole.executing second secondApproval secondExecutes).1] at firstOnly
  exact (List.cons.inj firstOnly).1.symm

theorem SoleExecution.answer (sole : SoleExecution state) (row : Proposal) (answer : Answer)
    (none : ∀ other approval, other ≠ call → state.calls other ≠ .executing approval) :
    SoleExecution (state.answer call row answer) := by
  refine ⟨sole.sole, fun other approval executing => ?_⟩
  rcases executing_update executing with ⟨-, same⟩ | ⟨different, before⟩
  · cases same
  · exact absurd before (none other approval different)

theorem SoleExecution.take (sole : SoleExecution state) {request : Request}
    (undisturbed : Undisturbed state (.take call request)) :
    SoleExecution (step verifyDelaySeconds state (.take call request)) ∧
      (state.row.status ≠ .pending →
        (step verifyDelaySeconds state (.take call request)).row.status = state.row.status) := by
  rw [step]
  split
  · rename_i waiting unlocked
    by_cases pending : state.row.status = .pending
    · have noneBegun := undisturbed unlocked pending
      have noneExecutes (other : Nat) (approval : Approval) :
          state.calls other ≠ .executing approval := by
        intro executing
        rw [(sole.executing other approval executing).1] at noneBegun
        cases noneBegun
      refine ⟨?_, fun decided => absurd pending decided⟩
      split
      · exact sole.answer _ _ fun other approval _ => noneExecutes other approval
      · exact sole.answer _ _ fun other approval _ => noneExecutes other approval
      · exact sole.answer _ _ fun other approval _ => noneExecutes other approval
      · refine ⟨by simp [noneBegun], fun other approval executing => ?_⟩
        rcases executing_update executing with ⟨rfl, -⟩ | ⟨-, before⟩
        · exact ⟨by rw [noneBegun], pending⟩
        · exact absurd before (noneExecutes other approval)
    · rw [openDecision_of_decided pending]
      refine ⟨sole.answer _ _ fun other approval _ executing => ?_, fun _ => rfl⟩
      exact pending (sole.executing other approval executing).2
  · exact ⟨sole, fun _ => rfl⟩

theorem SoleExecution.proceed (sole : SoleExecution state) :
    SoleExecution (step verifyDelaySeconds state (.proceed call)) ∧
      (state.row.status ≠ .pending →
        (step verifyDelaySeconds state (.proceed call)).row.status = state.row.status) := by
  rw [step]
  split
  · rename_i approval executing
    obtain ⟨only, pending⟩ := sole.executing call approval executing
    have noOther (other : Nat) (otherApproval : Approval) (different : other ≠ call) :
        state.calls other ≠ .executing otherApproval :=
      fun otherExecutes => different (sole.eq_of_executing otherExecutes executing)
    refine ⟨?_, fun decided => absurd pending decided⟩
    split
    · dsimp only
      split
      · refine ⟨sole.sole, fun other otherApproval otherExecutes => ?_⟩
        rcases executing_update otherExecutes with ⟨rfl, -⟩ | ⟨different, before⟩
        · refine ⟨only, ?_⟩
          dsimp only
          split <;> exact pending
        · exact absurd before (noOther other otherApproval different)
      · have answered := sole.answer
          (concluded verifyDelaySeconds approval.execution.outcome
            (if approval.committed then state.row
              else { state.row with
                decidedBy := approval.row.decidedBy
                decidedAt := approval.row.decidedAt }))
          (.decided (concluded verifyDelaySeconds approval.execution.outcome approval.row)) noOther
        exact ⟨answered.sole, answered.executing⟩
    · exact sole
  · exact ⟨sole, fun _ => rfl⟩

theorem SoleExecution.crash (sole : SoleExecution state) :
    SoleExecution (step verifyDelaySeconds state (.crash call)) ∧
      (state.row.status ≠ .pending →
        (step verifyDelaySeconds state (.crash call)).row.status = state.row.status) := by
  rw [step]
  split
  · refine ⟨⟨sole.sole, fun other approval executing => ?_⟩, fun _ => rfl⟩
    rcases executing_update executing with ⟨-, same⟩ | ⟨-, before⟩
    · cases same
    · exact sole.executing other approval before
  · exact ⟨sole, fun _ => rfl⟩

theorem SoleExecution.step (sole : SoleExecution state) {event : DecisionEvent}
    (undisturbed : Undisturbed state event) :
    SoleExecution (step verifyDelaySeconds state event) ∧
      (state.row.status ≠ .pending →
        (step verifyDelaySeconds state event).row.status = state.row.status) := by
  cases event with
  | take call request => exact sole.take undisturbed
  | proceed call => exact sole.proceed
  | crash call => exact sole.crash

end Steps

theorem soleExecution_initial (row : Proposal) : SoleExecution (.initial row) :=
  ⟨Nat.zero_le 1, fun _ _ executing => nomatch executing⟩

/-- In every run that no call disturbs, one call executes the proposal at most, and its status
changes once. -/
theorem decidedOnce_of_undisturbed (row : Proposal) (events : List DecisionEvent)
    (undisturbed : Along (step verifyDelaySeconds) Undisturbed (.initial row) events) :
    DecidedOnce verifyDelaySeconds row events := by
  constructor
  · have kept : SoleExecution (run (step verifyDelaySeconds) (.initial row) events) :=
      undisturbed.invariant SoleExecution (soleExecution_initial row)
        fun _ _ sole admitted => (sole.step admitted).1
    exact kept.sole
  · exact undisturbed.of_invariant SoleExecution (soleExecution_initial row)
      (fun _ _ sole admitted => (sole.step admitted).1)
      fun _ _ sole admitted => (sole.step admitted).2

def sampleProposal : Proposal where
  id := 7
  action := .disableRule
  resourceId := some 3
  batchSize := 50
  status := .pending
  expiresAt := DateTime.addMinutes 0 60
  decidedBy := none
  decidedAt := none
  result := []
  verifyStatus := ""

def sampleRequest (approve : Bool) (minute : Int) : Request where
  approve := approve
  actor := "dashboard"
  now := DateTime.addMinutes 0 minute
  surroundings := ⟨none, false, [], [], none, true, false, none⟩

/-- A rejection that comes after the approval is a conflict. -/
theorem late_rejection_is_refused :
    DecidedOnce 0 sampleProposal
      [.take 1 (sampleRequest true 1), .proceed 1, .proceed 1, .take 2 (sampleRequest false 2)] :=
  decidedOnce_of_undisturbed 0 sampleProposal _ (by decide)

/-- Two approvals both execute the proposal: the second gets the lock when the command of the
first has committed. -/
theorem approved_twice_between_commits :
    ¬ ∀ (verifyDelaySeconds : Int) (row : Proposal) (events : List DecisionEvent),
      DecidedOnce verifyDelaySeconds row events := by
  intro decided
  have executions := (decided 0 sampleProposal
    [.take 1 (sampleRequest true 1), .proceed 1, .take 2 (sampleRequest true 1)]).1
  exact absurd executions (by decide)

/-! ## A command that does not commit -/

/-- The state of a proposal to requeue an outbox row while no call crashes: a call that executes
holds the lock, and a row that is pending although a call has begun is locked. -/
structure LockedWhileExecuting (state : DecisionState) : Prop where
  requeues : state.row.action = .retryOutbox
  holds : ∀ call approval, state.calls call = .executing approval →
    state.lockedBy = some call ∧ approval.execution.commits = false
  begun : state.lockedBy = none → state.row.status = .pending → state.executions = []

theorem openDecision_row {row : Proposal} {approve : Bool} {actor : String} {now : DateTime} :
    (∀ expired message, openDecision row approve actor now = .expired expired message →
      expired.action = row.action ∧ expired.status ≠ .pending) ∧
    (∀ rejected, openDecision row approve actor now = .rejected rejected →
      rejected.action = row.action ∧ rejected.status ≠ .pending) ∧
    ∀ approved, openDecision row approve actor now = .approved approved →
      approved.action = row.action := by
  unfold openDecision
  split
  · simp
  split
  · simp only [Opening.expired.injEq, and_imp, reduceCtorEq, false_imp_iff, implies_true, and_true]
    rintro expired message rfl -
    exact ⟨rfl, by simp⟩
  dsimp only
  split
  · simp only [Opening.approved.injEq, reduceCtorEq, false_imp_iff, implies_true, true_and]
    rintro approved rfl
    rfl
  · simp only [Opening.rejected.injEq, reduceCtorEq, false_imp_iff, implies_true, true_and,
      and_true]
    rintro rejected rfl
    exact ⟨rfl, by simp⟩

theorem concluded_row (outcome : Except String JsonObject) (row : Proposal) :
    (concluded verifyDelaySeconds outcome row).action = row.action ∧
      (concluded verifyDelaySeconds outcome row).status ≠ .pending := by
  cases outcome <;> exact ⟨rfl, by simp [concluded]⟩

section Uncommitting

variable {verifyDelaySeconds : Int} {state : DecisionState} {call : Nat}

theorem LockedWhileExecuting.answer (locked : LockedWhileExecuting state)
    {row : Proposal} (sameAction : row.action = state.row.action)
    (begun : row.status = .pending → state.executions = []) (answer : Answer) :
    LockedWhileExecuting (state.answer call row answer) := by
  refine ⟨sameAction.trans locked.requeues, fun other approval executing => ?_,
    fun _ pending => begun pending⟩
  rcases executing_update executing with ⟨-, same⟩ | ⟨-, before⟩
  · cases same
  · exact locked.holds other approval before

theorem LockedWhileExecuting.take (locked : LockedWhileExecuting state) (request : Request) :
    LockedWhileExecuting (step verifyDelaySeconds state (.take call request)) := by
  have opened := @openDecision_row state.row request.approve request.actor request.now
  rw [step]
  split
  · rename_i waiting unlocked
    split
    · exact locked.answer rfl (locked.begun unlocked) _
    · rename_i row message expired
      obtain ⟨sameAction, decided⟩ := opened.1 row message expired
      exact locked.answer sameAction (fun pending => absurd pending decided) _
    · rename_i row rejected
      obtain ⟨sameAction, decided⟩ := opened.2.1 row rejected
      exact locked.answer sameAction (fun pending => absurd pending decided) _
    · rename_i row approved
      refine ⟨locked.requeues, fun other approval executing => ?_,
        fun unlockedAfter => nomatch unlockedAfter⟩
      rcases executing_update executing with ⟨rfl, same⟩ | ⟨-, before⟩
      · cases same
        exact ⟨rfl, commits_runRemediation_retryOutbox
          ((opened.2.2 row approved).trans locked.requeues) _⟩
      · have held := (locked.holds other approval before).1
        rw [unlocked] at held
        cases held
  · exact locked

theorem LockedWhileExecuting.proceed (locked : LockedWhileExecuting state) :
    LockedWhileExecuting (step verifyDelaySeconds state (.proceed call)) := by
  rw [step]
  split
  · rename_i approval executing
    obtain ⟨held, uncommitting⟩ := locked.holds call approval executing
    have ends : ¬ (approval.execution.commits = true ∧ ¬ approval.committed = true) := by
      simp [uncommitting]
    rw [if_pos (Or.inr held)]
    dsimp only
    rw [if_neg ends]
    refine ⟨?_, fun other otherApproval otherExecutes => ?_, fun _ pending => ?_⟩
    · refine (concluded_row verifyDelaySeconds _ _).1.trans ?_
      split <;> exact locked.requeues
    · rcases executing_update otherExecutes with ⟨-, same⟩ | ⟨different, before⟩
      · cases same
      · have otherHeld := (locked.holds other otherApproval before).1
        rw [held] at otherHeld
        exact absurd (Option.some.inj otherHeld).symm different
    · exact absurd pending (concluded_row verifyDelaySeconds _ _).2
  · exact locked

/-- The lock outlasts the command that requeues an outbox row. -/
theorem undisturbed_of_retryOutbox {row : Proposal} (requeues : row.action = .retryOutbox)
    {events : List DecisionEvent} (uncrashed : ∀ call, DecisionEvent.crash call ∉ events) :
    Along (step verifyDelaySeconds) Undisturbed (.initial row) events := by
  have noCrash : ∀ event ∈ events, ∀ call, event ≠ .crash call := by
    rintro event member call rfl
    exact uncrashed call member
  have along := @along_of_forall _ _ (step verifyDelaySeconds) _ (.initial row) events noCrash
  have initially : LockedWhileExecuting (.initial row) :=
    ⟨requeues, fun _ _ executing => (nomatch executing), fun _ _ => rfl⟩
  refine along.of_invariant LockedWhileExecuting initially ?_ ?_
  · intro state event locked notCrash
    cases event with
    | take call request => exact locked.take request
    | proceed call => exact locked.proceed
    | crash call => exact absurd rfl (notCrash call)
  · intro state event locked notCrash
    cases event with
    | take call request => exact locked.begun
    | proceed | crash => trivial

theorem approved_twice_requeue_undisturbed :
    Along (step 0) Undisturbed (.initial { sampleProposal with action := .retryOutbox })
      [.take 1 (sampleRequest true 1), .proceed 1, .take 2 (sampleRequest true 1), .proceed 1] :=
  undisturbed_of_retryOutbox rfl (by simp)

end Uncommitting

end Remediation

end WebhookWise
