import WebhookWise.PythonValues
import Mathlib.Data.List.Perm.Basic
import Mathlib.Logic.Function.Basic

/-!
# The delivery status that the alert list shows

The rows of the outbox are merged into one status, and that one into the stored status, with the
same function.  The order of the rows does not matter.  But the function knows the vocabulary of the
rows only, so a failure is not shown.
-/

namespace WebhookWise

namespace DeliveryStatuses

/-- What the list shows of an event that matters here.  Keys of events begin at one. -/
structure ListedEvent where
  id : Nat
  forwardStatus : Option String
  id_pos : 0 < id

/-- The columns of `forward_outbox` that are selected. -/
structure OutboxRow where
  webhookEventId : Option Nat
  originalEventId : Option Nat
  status : String

/-! ## The merge -/

def endedStatuses : List (Option String) :=
  [some "exhausted", some "expired"]

def waitingStatuses : List (Option String) :=
  [some "queued", some "pending", some "retrying", none]

def mergeForwardStatus (current outboxStatus : Option String) : Option String :=
  if outboxStatus = some "sent" then some "sent"
  else if endedStatuses.contains outboxStatus && waitingStatuses.contains current then some "failed"
  else current

def mergeRow (eventIds : List Nat) (status : String) (statuses : Nat → Option String)
    (eventId : Option Nat) : Nat → Option String :=
  match eventId with
  | some id =>
      if id ∈ eventIds then
        Function.update statuses id (mergeForwardStatus (statuses id) (some status))
      else statuses
  | none => statuses

/-- `status_by_event_id`, where no entry is the same as the entry `None`. -/
def statusByEventId (eventIds : List Nat) (rows : List OutboxRow) : Nat → Option String :=
  rows.foldl (fun statuses row =>
    [row.webhookEventId, row.originalEventId].foldl (mergeRow eventIds row.status) statuses)
    fun _ => none

/-- The row is for the event, or for a duplicate of it. -/
def RelatedTo (id : Nat) (row : OutboxRow) : Prop :=
  row.webhookEventId = some id ∨ row.originalEventId = some id

instance (id : Nat) (row : OutboxRow) : Decidable (RelatedTo id row) :=
  inferInstanceAs (Decidable (_ ∨ _))

def relatedRows (outbox : List OutboxRow) (items : List ListedEvent) : List OutboxRow :=
  outbox.filter fun row => items.any fun item => RelatedTo item.id row

/-- `_apply_outbox_forward_statuses`, for the rows as the query returns them. -/
def applyOutboxForwardStatuses (rows : List OutboxRow) (items : List ListedEvent) :
    List ListedEvent :=
  let statuses := statusByEventId (items.map ListedEvent.id) rows
  items.map fun item =>
    { item with forwardStatus := mergeForwardStatus item.forwardStatus (statuses item.id) }

/-! ## What is shown -/

/-- Some row of the event is sent. -/
def IsSent (outbox : List OutboxRow) (item : ListedEvent) : Prop :=
  ∃ row ∈ outbox, RelatedTo item.id row ∧ row.status = "sent"

/-- Some row of the event has ended without success. -/
def IsEnded (outbox : List OutboxRow) (item : ListedEvent) : Prop :=
  ∃ row ∈ outbox, RelatedTo item.id row ∧ some row.status ∈ endedStatuses

instance (outbox : List OutboxRow) (item : ListedEvent) : Decidable (IsSent outbox item) :=
  inferInstanceAs (Decidable (∃ row ∈ outbox, _ ∧ _))

instance (outbox : List OutboxRow) (item : ListedEvent) : Decidable (IsEnded outbox item) :=
  inferInstanceAs (Decidable (∃ row ∈ outbox, _ ∧ _))

def deliveryStatus (outbox : List OutboxRow) (item : ListedEvent) : Option String :=
  if IsSent outbox item then some "sent"
  else if IsEnded outbox item ∧ item.forwardStatus ∈ waitingStatuses then some "failed"
  else item.forwardStatus

def summary (isSent isEnded : Bool) : Option String :=
  if isSent then some "sent" else if isEnded then some "failed" else none

theorem mergeForwardStatus_summary (isSent isEnded : Bool) (status : String) :
    mergeForwardStatus (summary isSent isEnded) (some status) =
      summary (isSent || status = "sent") (isEnded || some status ∈ endedStatuses) := by
  by_cases sent : status = "sent"
  · subst sent
    cases isSent <;> rfl
  · by_cases ended : some status ∈ endedStatuses
    · cases isSent <;> cases isEnded <;>
        simp [mergeForwardStatus, summary, sent, ended, waitingStatuses]
    · cases isSent <;> cases isEnded <;> simp [mergeForwardStatus, summary, sent, ended]

theorem mergeForwardStatus_of_summary (current : Option String) (isSent isEnded : Bool) :
    mergeForwardStatus current (summary isSent isEnded) =
      if isSent then some "sent" else current := by
  cases isSent with
  | true => rfl
  | false => cases isEnded <;> simp [mergeForwardStatus, summary, endedStatuses]

section Rows

variable {eventIds : List Nat} {id : Nat}

theorem mergeRow_apply (listed : id ∈ eventIds) (status : String)
    (statuses : Nat → Option String) (eventId : Option Nat) :
    mergeRow eventIds status statuses eventId id =
      if eventId = some id then mergeForwardStatus (statuses id) (some status)
      else statuses id := by
  unfold mergeRow
  cases eventId with
  | none => simp
  | some other =>
      by_cases same : other = id
      · subst same
        simp [listed]
      · by_cases otherListed : other ∈ eventIds
        · simp [otherListed, same, Function.update_of_ne (Ne.symm same)]
        · simp [otherListed, same]

theorem mergeRows_apply (listed : id ∈ eventIds) (row : OutboxRow)
    (statuses : Nat → Option String) {isSent isEnded : Bool}
    (isSummary : statuses id = summary isSent isEnded) :
    [row.webhookEventId, row.originalEventId].foldl (mergeRow eventIds row.status) statuses id =
      summary (isSent || (RelatedTo id row ∧ row.status = "sent"))
        (isEnded || (RelatedTo id row ∧ some row.status ∈ endedStatuses)) := by
  rw [List.foldl_cons, List.foldl_cons, List.foldl_nil, mergeRow_apply listed,
    mergeRow_apply listed, isSummary]
  by_cases first : row.webhookEventId = some id
  · by_cases second : row.originalEventId = some id
    · simp [RelatedTo, first, second, mergeForwardStatus_summary]
    · simp [RelatedTo, first, second, mergeForwardStatus_summary]
  · by_cases second : row.originalEventId = some id
    · simp [RelatedTo, first, second, mergeForwardStatus_summary]
    · simp [RelatedTo, first, second]

theorem foldl_mergeRows_apply (listed : id ∈ eventIds) (rows : List OutboxRow)
    (statuses : Nat → Option String) {isSent isEnded : Bool}
    (isSummary : statuses id = summary isSent isEnded) :
    rows.foldl (fun statuses row =>
        [row.webhookEventId, row.originalEventId].foldl (mergeRow eventIds row.status) statuses)
        statuses id =
      summary (isSent || rows.any fun row => RelatedTo id row ∧ row.status = "sent")
        (isEnded || rows.any fun row => RelatedTo id row ∧ some row.status ∈ endedStatuses) := by
  induction rows generalizing statuses isSent isEnded with
  | nil => simpa using isSummary
  | cons row rows ih =>
      rw [List.foldl_cons, ih _ (mergeRows_apply listed row statuses isSummary), List.any_cons,
        List.any_cons, Bool.or_assoc, Bool.or_assoc]

theorem statusByEventId_apply (listed : id ∈ eventIds) (rows : List OutboxRow) :
    statusByEventId eventIds rows id =
      summary (rows.any fun row => RelatedTo id row ∧ row.status = "sent")
        (rows.any fun row => RelatedTo id row ∧ some row.status ∈ endedStatuses) := by
  have folded := @foldl_mergeRows_apply eventIds id listed rows (fun _ => none) false false rfl
  rw [Bool.false_or, Bool.false_or] at folded
  exact folded

end Rows

section Lists

variable {outbox rows : List OutboxRow} {items : List ListedEvent} {item : ListedEvent}

theorem any_related_iff (returned : rows.Perm (relatedRows outbox items)) (listed : item ∈ items)
    (Property : OutboxRow → Prop) [DecidablePred Property] :
    (rows.any fun row => RelatedTo item.id row ∧ Property row) = true ↔
      ∃ row ∈ outbox, RelatedTo item.id row ∧ Property row := by
  rw [List.any_eq_true]
  constructor
  · rintro ⟨row, member, holds⟩
    exact ⟨row, (List.mem_filter.1 (returned.mem_iff.1 member)).1, of_decide_eq_true holds⟩
  · rintro ⟨row, member, related, holds⟩
    refine ⟨row, returned.mem_iff.2 (List.mem_filter.2 ⟨member, ?_⟩),
      decide_eq_true ⟨related, holds⟩⟩
    exact List.any_eq_true.2 ⟨item, listed, decide_eq_true related⟩

theorem mergeForwardStatus_statusByEventId (returned : rows.Perm (relatedRows outbox items))
    (listed : item ∈ items) :
    mergeForwardStatus item.forwardStatus
        (statusByEventId (items.map ListedEvent.id) rows item.id) =
      if IsSent outbox item then some "sent" else item.forwardStatus := by
  rw [statusByEventId_apply (List.mem_map_of_mem listed), mergeForwardStatus_of_summary]
  exact if_congr (any_related_iff returned listed fun row => row.status = "sent") rfl rfl

theorem shown_eq_deliveryStatus_iff :
    (if IsSent outbox item then some "sent" else item.forwardStatus) =
        deliveryStatus outbox item ↔
      IsSent outbox item ∨ ¬ IsEnded outbox item ∨ item.forwardStatus ∉ waitingStatuses := by
  unfold deliveryStatus
  by_cases sent : IsSent outbox item
  · simp [sent]
  · by_cases ended : IsEnded outbox item
    · by_cases waiting : item.forwardStatus ∈ waitingStatuses
      · have other : item.forwardStatus ≠ some "failed" := by
          intro failed
          rw [failed] at waiting
          simp [waitingStatuses] at waiting
        simp [sent, ended, waiting, other]
      · simp [sent, waiting]
    · simp [sent, ended]

end Lists

/-- A page shows the delivery status of its events just where no event waits, of which some row
has ended without success and none is sent.  The order of the rows does not matter. -/
theorem listed_statuses_right_iff (outbox : List OutboxRow) (items : List ListedEvent)
    (rows : List OutboxRow) (returned : rows.Perm (relatedRows outbox items)) :
    applyOutboxForwardStatuses rows items =
        items.map (fun item => { item with forwardStatus := deliveryStatus outbox item }) ↔
      ∀ item ∈ items,
        IsSent outbox item ∨ ¬ IsEnded outbox item ∨ item.forwardStatus ∉ waitingStatuses := by
  unfold applyOutboxForwardStatuses
  rw [List.map_inj_left]
  apply forall₂_congr
  intro item listed
  rw [ListedEvent.mk.injEq, mergeForwardStatus_statusByEventId returned listed,
    shown_eq_deliveryStatus_iff]
  simp

/-! ## A delivery that is exhausted -/

private theorem seven_pos : 0 < 7 := by
  decide

def queuedEvent : ListedEvent :=
  ⟨7, some "queued", seven_pos⟩

def exhaustedRow : OutboxRow :=
  ⟨some 7, none, "exhausted"⟩

/-- The delivery to another target was sent. -/
theorem sent_event_listed :
    applyOutboxForwardStatuses [⟨some 8, some 7, "sent"⟩, exhaustedRow] [queuedEvent] =
        [queuedEvent].map (fun item =>
          { item with
            forwardStatus := deliveryStatus [exhaustedRow, ⟨some 8, some 7, "sent"⟩] item }) ↔
      ∀ item ∈ [queuedEvent], IsSent [exhaustedRow, ⟨some 8, some 7, "sent"⟩] item ∨
        ¬ IsEnded [exhaustedRow, ⟨some 8, some 7, "sent"⟩] item ∨
          item.forwardStatus ∉ waitingStatuses :=
  listed_statuses_right_iff _ _ _ (List.Perm.swap exhaustedRow ⟨some 8, some 7, "sent"⟩ [])

/-- The list goes on to show an exhausted delivery as queued. -/
theorem exhausted_event_stays_queued :
    ¬ ∀ (outbox : List OutboxRow) (items : List ListedEvent) (rows : List OutboxRow),
      rows.Perm (relatedRows outbox items) →
        applyOutboxForwardStatuses rows items =
          items.map fun item => { item with forwardStatus := deliveryStatus outbox item } := by
  intro right
  have shown := right [exhaustedRow] [queuedEvent] [exhaustedRow] (List.Perm.refl _)
  exact absurd (congrArg (List.map ListedEvent.forwardStatus) shown) (by decide)

end DeliveryStatuses

end WebhookWise
