import WebhookWise.RemediationProposals
import WebhookWise.SqlIndexes

/-!
# Proposing a command

A proposal that expires is shown as expired, but its row stays pending until somebody decides
it.  The ceiling, the duplicate query and the partial unique index read the rows and not what is
shown of them, so an expired row takes up room, and stands in the way of a new proposal of the
same command for the same resource.
-/

namespace WebhookWise

open SqlTable

namespace Remediation

/-! ## Rows and requests -/

/-- `ALLOWED_RESOURCE_TYPES`. -/
inductive ResourceType where
  | webhookEvent
  | incident
deriving DecidableEq

def ResourceType.text : ResourceType → String
  | webhookEvent => "webhook_event"
  | incident => "incident"

/-- `ALLOWED_ACTIONS`, sorted. -/
def allowedActions : List RemediationAction :=
  [.acknowledge, .disableRule, .retryDeadLetters, .retryIncidentSummaries, .retryOutbox,
    .retryStuckEvents, .testEnableRule]

/-- `ALLOWED_RESOURCE_TYPES`, sorted. -/
def allowedResourceTypes : List ResourceType :=
  [.incident, .webhookEvent]

/-- What proposing reads and writes of a row of `remediation_proposals`. -/
structure ProposalRow where
  id : Nat
  action : RemediationAction
  resourceType : Option ResourceType
  resourceId : Option Int
  batchSize : Int
  reason : String
  proposedBy : String
  status : ProposalStatus
  expiresAt : DateTime
  createdAt : DateTime

abbrev ProposalTable := Table ProposalRow.id

/-- The arguments of `propose_remediation`, with their defaults. -/
structure ProposalCall where
  action : String
  reason : String
  resourceType : Option String := none
  resourceId : Option Int := none
  batchSize : Int := 50
  proposedBy : String := "agent"
  ttlHours : Int := 24

def singleResourceActions : List RemediationAction :=
  [.retryOutbox, .testEnableRule, .disableRule, .acknowledge]

/-- What the model of the request demands of its fields. -/
def Acceptable (action : RemediationAction) (resourceType : Option ResourceType)
    (resourceId : Option Int) (batchSize : Int) : Prop :=
  (1 ≤ batchSize ∧ batchSize ≤ 100) ∧
    (action ∈ singleResourceActions → resourceId ≠ none) ∧
      (action = .acknowledge → resourceType ≠ none)

instance (action : RemediationAction) (resourceType : Option ResourceType)
    (resourceId : Option Int) (batchSize : Int) :
    Decidable (Acceptable action resourceType resourceId batchSize) :=
  inferInstanceAs (Decidable (_ ∧ _ ∧ _))

structure RemediationRequest where
  action : RemediationAction
  resourceType : Option ResourceType
  resourceId : Option Int
  batchSize : Int
  acceptable : Acceptable action resourceType resourceId batchSize

inductive ProposalFailure where
  /-- A `ProposalError`. -/
  | error (message : String)
  /-- A `ProposalConflict`. -/
  | conflict (message : String)
  /-- `MultipleResultsFound`. -/
  | multipleResults

/-- What the validation of a request rests on: `repr` of a text, and the words in which the
validator says what is wrong. -/
structure ProposalRuntime where
  python : PythonRuntime
  validationError : ProposalCall → String

variable (runtime : ProposalRuntime)

def validatedRequest (call : ProposalCall) : Except ProposalFailure RemediationRequest :=
  match allowedActions.find? fun action => action.text = call.action with
  | none =>
      .error (.error ("Unsupported action " ++ runtime.python.reprStr call.action ++
        "; allowed: " ++ ", ".intercalate (allowedActions.map RemediationAction.text)))
  | some action =>
      let resourceType := call.resourceType.bind fun wanted =>
        allowedResourceTypes.find? fun resourceType => resourceType.text = wanted
      if call.resourceType.isSome ∧ resourceType = none then
        .error (.error ("Unsupported resource_type " ++
          runtime.python.reprStr (call.resourceType.getD "") ++
          "; allowed: " ++ ", ".intercalate (allowedResourceTypes.map ResourceType.text)))
      else if acceptable : Acceptable action resourceType call.resourceId call.batchSize then
        .ok ⟨action, resourceType, call.resourceId, call.batchSize, acceptable⟩
      else .error (.error ("Invalid remediation arguments: " ++ runtime.validationError call))

/-! ## Proposing -/

def maxPendingProposals : Nat := 50
def maxTtlHours : Int := 168
def maxReasonChars : Nat := 2000

/-- The row is for the action and the resource of the request.  Two resources that are not
given are the same. -/
def SameTarget (request : RemediationRequest) (row : ProposalRow) : Prop :=
  row.action = request.action ∧ row.resourceType = request.resourceType ∧
    row.resourceId = request.resourceId

instance (request : RemediationRequest) (row : ProposalRow) : Decidable (SameTarget request row) :=
  inferInstanceAs (Decidable (_ ∧ _ ∧ _))

/-- The columns of `ix_remediation_proposals_pending_unique`, in which nulls are distinct. -/
def pendingUnique (row : ProposalRow) : Option (RemediationAction × ResourceType × Int) :=
  if row.status = .pending then
    row.resourceType.bind fun resourceType =>
      row.resourceId.map fun resourceId => (row.action, resourceType, resourceId)
  else none

def pendingTotal (table : ProposalTable) : Nat :=
  table.rows.countP fun row => row.status = .pending

def duplicates (table : ProposalTable) (request : RemediationRequest) : List Nat :=
  (table.rows.filter fun row => row.status = .pending && SameTarget request row).map ProposalRow.id

def proposedRow (call : ProposalCall) (request : RemediationRequest) (now : DateTime) (id : Nat) :
    ProposalRow where
  id := id
  action := request.action
  resourceType := request.resourceType
  resourceId := request.resourceId
  batchSize := request.batchSize
  reason := truncated (strip call.reason) maxReasonChars
  proposedBy :=
    truncated (if strip call.proposedBy = "" then "agent" else strip call.proposedBy) 100
  status := .pending
  expiresAt := now.addSeconds (max 1 (min call.ttlHours maxTtlHours) * 3600)
  createdAt := now

/-- `propose_remediation`, which commits the row that it answers with. -/
def proposeRemediation (table : ProposalTable) (call : ProposalCall) (now : DateTime) :
    Except ProposalFailure (ProposalTable × ProposalRow) := do
  let request ← validatedRequest runtime call
  if strip call.reason = "" then
    throw (.error "A proposal needs a reason an operator can review")
  if maxPendingProposals ≤ pendingTotal table then
    throw (.conflict (toString (pendingTotal table) ++ " proposals are already awaiting review " ++
      "(limit " ++ toString maxPendingProposals ++ "); decide some before adding more"))
  match duplicates table request with
  | [] =>
      let row := proposedRow call request now table.nextKey
      -- The index catches what a concurrent call has added since.
      if ∃ stored ∈ table.rows, (pendingUnique row).isSome ∧ pendingUnique stored = pendingUnique row
      then throw (.conflict "An identical proposal is already awaiting review")
      else return (table.insert (proposedRow call request now) fun _ => rfl, row)
  | [duplicate] =>
      throw (.conflict ("Proposal #" ++ toString duplicate ++
        " already suggests this action for this resource"))
  | _ => throw .multipleResults

/-- The status that `list_proposals` shows. -/
def shownStatus (moment : DateTime) (row : ProposalRow) : ProposalStatus :=
  if row.status = .pending ∧ row.expiresAt ≤ moment then .expired else row.status

section Proposing

variable {runtime} {table : ProposalTable} {call : ProposalCall} {request : RemediationRequest}
  {now : DateTime}

theorem shownStatus_eq_pending_iff {row : ProposalRow} :
    shownStatus now row = .pending ↔ row.status = .pending ∧ now < row.expiresAt := by
  unfold shownStatus
  split
  · rename_i expired
    simp [not_lt.2 expired.2]
  · rename_i unexpired
    constructor
    · intro pending
      exact ⟨pending, lt_of_not_ge fun expired => unexpired ⟨pending, expired⟩⟩
    · exact fun shown => shown.1

theorem duplicates_eq_nil_iff :
    duplicates table request = [] ↔
      ∀ row ∈ table.rows, row.status = .pending → ¬ SameTarget request row := by
  unfold duplicates
  rw [List.map_eq_nil_iff, List.filter_eq_nil_iff]
  simp

theorem not_indexed_of_duplicates_eq_nil (none : duplicates table request = []) :
    ¬ ∃ stored ∈ table.rows, (pendingUnique (proposedRow call request now table.nextKey)).isSome ∧
      pendingUnique stored = pendingUnique (proposedRow call request now table.nextKey) := by
  rintro ⟨stored, member, isSome, same⟩
  obtain ⟨columns, isColumns⟩ := Option.isSome_iff_exists.1 isSome
  rw [isColumns] at same
  have pending : stored.status = .pending := by
    by_contra other
    rw [pendingUnique, if_neg other] at same
    cases same
  rw [pendingUnique, if_pos pending] at same
  obtain ⟨resourceType, isType, same⟩ := Option.bind_eq_some_iff.1 same
  obtain ⟨resourceId, isId, rfl⟩ := Option.map_eq_some_iff.1 same
  simp only [pendingUnique, proposedRow, if_true, Option.bind_eq_some_iff, Option.map_eq_some_iff,
    Prod.mk.injEq] at isColumns
  obtain ⟨wantedType, isWantedType, wantedId, isWantedId, sameAction, rfl, rfl⟩ := isColumns
  exact duplicates_eq_nil_iff.1 none stored member pending
    ⟨sameAction.symm, isType.trans isWantedType.symm, isId.trans isWantedId.symm⟩

theorem proposeRemediation_ok_iff (valid : validatedRequest runtime call = .ok request)
    (reviewable : strip call.reason ≠ "") :
    (∃ result, proposeRemediation runtime table call now = .ok result) ↔
      pendingTotal table < maxPendingProposals ∧ duplicates table request = [] := by
  unfold proposeRemediation
  simp only [valid, bind, Except.bind, pure, Except.pure, reviewable, if_false]
  by_cases full : maxPendingProposals ≤ pendingTotal table
  · simp [full, throw, throwThe, MonadExceptOf.throw, not_lt.2 full]
  · simp only [full, if_false, not_le.1 full, true_and]
    cases found : duplicates table request with
    | nil => simp [not_indexed_of_duplicates_eq_nil found]
    | cons first others =>
        cases others with
        | nil | cons => simp [throw, throwThe, MonadExceptOf.throw]

/-- A valid proposal that no unexpired proposal stands in the way of is taken just where the
expired ones, which are pending still, leave room and have other targets. -/
theorem proposeRemediation_succeeds_iff (valid : validatedRequest runtime call = .ok request)
    (reviewable : strip call.reason ≠ "")
    (apart : ∀ row ∈ table.rows, shownStatus now row = .pending → ¬ SameTarget request row) :
    (∃ result, proposeRemediation runtime table call now = .ok result) ↔
      pendingTotal table < maxPendingProposals ∧
        ∀ row ∈ table.rows, shownStatus now row = .expired → row.status = .pending →
          ¬ SameTarget request row := by
  rw [proposeRemediation_ok_iff valid reviewable, duplicates_eq_nil_iff]
  apply and_congr_right
  intro _
  constructor
  · intro none row member _ pending
    exact none row member pending
  · intro none row member pending
    by_cases expired : row.expiresAt ≤ now
    · exact none row member (if_pos ⟨pending, expired⟩) pending
    · exact apart row member (shownStatus_eq_pending_iff.2 ⟨pending, not_le.1 expired⟩)

end Proposing

/-! ## A proposal that nobody decides -/

def plainRuntime : ProposalRuntime where
  python := .plain
  validationError _ := ""

def replaySuggestion : ProposalCall where
  action := "retry_dead_letters"
  reason := "nothing has been delivered since noon"

/-- The suggestion, which nobody decides. -/
def undecided : Table ProposalRow.id :=
  Table.empty.insert
    (proposedRow replaySuggestion ⟨.retryDeadLetters, none, none, 50, by decide⟩ 0) fun _ => rfl

def oneDay : DateTime := DateTime.addSeconds 0 86400

theorem proposeRemediation_succeeds_beside :
    (∃ result, proposeRemediation plainRuntime undecided
        { replaySuggestion with action := "retry_stuck_events" } oneDay = .ok result) ↔
      pendingTotal undecided < maxPendingProposals ∧
        ∀ row ∈ undecided.rows, shownStatus oneDay row = .expired → row.status = .pending →
          ¬ SameTarget ⟨.retryStuckEvents, none, none, 50, by decide⟩ row :=
  proposeRemediation_succeeds_iff rfl (by decide) (by decide)

/-- The suggestion cannot be made again. -/
theorem expired_proposal_blocks :
    ¬ ∀ (table : ProposalTable) (call : ProposalCall) (request : RemediationRequest)
        (now : DateTime), validatedRequest plainRuntime call = .ok request →
      strip call.reason ≠ "" →
      (∀ row ∈ table.rows, shownStatus now row = .pending → ¬ SameTarget request row) →
      (table.rows.countP fun row => shownStatus now row = .pending) < maxPendingProposals →
        ∃ result, proposeRemediation plainRuntime table call now = .ok result := by
  intro succeeds
  have taken := succeeds undecided replaySuggestion ⟨.retryDeadLetters, none, none, 50, by decide⟩
    oneDay rfl (by decide) (by decide) (by decide)
  rw [proposeRemediation_ok_iff rfl (by decide)] at taken
  exact absurd taken.2 (by decide)

end Remediation

end WebhookWise
