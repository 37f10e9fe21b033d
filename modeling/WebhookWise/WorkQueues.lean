import WebhookWise.IncidentScans
import WebhookWise.OffsetPages

/-!
# The work queue of the incidents

The open incidents are listed in buckets.  A bucket is selected, counted and paged by the database,
while the buckets which an item names are decided by Python.  The database trims spaces and lowers
the owner's letters; Python also joins other white space, and cuts the text.
-/

namespace WebhookWise

namespace WorkQueues

open IncidentGrouping

inductive Bucket where
  | my
  | unassigned
  | slaRisk
  | needsRecovery
  | active
deriving DecidableEq

def workQueueBuckets : List Bucket :=
  [.my, .unassigned, .slaRisk, .needsRecovery, .active]

/-- A row of `incidents` with its owner. -/
structure WorkRow extends Incident where
  assignee : Option String
  team : Option String

/-- The incidents under their primary key. -/
structure WorkTable where
  rows : List WorkRow
  distinct : (rows.map fun row => row.id).Nodup

/-- What a caller asks for, besides the bucket and the offset. -/
structure WorkRequest where
  actor : String
  limit : Int
  slaRiskMinutes : Int

/-- What `_next_action` returns. -/
structure NextAction where
  code : String
  label : String
  reason : String
deriving DecidableEq

/-- A work item, without its priority and the reasons for it, which are floating-point
numbers that only the reader sees. -/
structure WorkItem where
  incident : WorkRow
  buckets : List Bucket
  nextAction : NextAction

structure WorkQueue where
  bucket : Bucket
  actor : Option String
  slaRiskMinutes : Int
  offset : Nat
  nextOffset : Option Nat
  totalMatches : Nat
  generatedAt : DateTime
  counts : Bucket → Nat
  items : List WorkItem

def maxOffset : Nat := 100000

variable (python : PythonRuntime) (sqlLower : String → String)

/-! ## Python's view -/

/-- `" ".join(text.split())`. -/
def joinedWords (text : String) : String :=
  " ".intercalate
    (((text.toList.splitOnP isPythonSpace).filter fun word => word ≠ []).map String.ofList)

def normalize (value : Option String) (limit : Nat) : String :=
  truncated (joinedWords (python.lower (strip (value.getD "")))) limit

/-- `_minutes_until(deadline, now) <= minutes`.  The difference is a `float`, whose rounding
does not move it across a whole number of at most 1440 minutes. -/
def isDueWithin (deadline : Option DateTime) (now : DateTime) (minutes : Int) : Bool :=
  deadline.any fun deadline => deadline ≤ now.addMinutes minutes

/-- The incident belongs to the bucket, in `_work_queue_memberships`. -/
def isMember (actor : String) (now : DateTime) (slaRiskMinutes : Int) (incident : WorkRow) :
    Bucket → Bool
  | .my =>
      let normalizedActor := normalize python (some actor) 100
      normalizedActor ≠ "" && normalize python incident.assignee 100 = normalizedActor
  | .unassigned => normalize python incident.assignee 100 = ""
  | .slaRisk => isDueWithin incident.slaDueAt now slaRiskMinutes
  | .needsRecovery => incident.status = .quiet
  | .active => true

def workQueueMemberships (actor : String) (now : DateTime) (slaRiskMinutes : Int)
    (incident : WorkRow) : List Bucket :=
  workQueueBuckets.filter (isMember python actor now slaRiskMinutes incident)

def nextAction (now : DateTime) (incident : WorkRow) : NextAction :=
  let breached := isDueWithin incident.slaDueAt now 0
  let urgent := ["critical", "high"].contains (normalize python incident.topImportance 300)
  if incident.acknowledgedAt = none ∧ (urgent ∨ breached) then
    ⟨"acknowledge", "Acknowledge and begin response",
      "The incident is high severity or already beyond its SLA without acknowledgement."⟩
  else if normalize python incident.assignee 100 = "" then
    ⟨"assign_owner", "Assign an incident owner", "No operator currently owns the response."⟩
  else if incident.status = .quiet then
    ⟨"confirm_recovery", "Confirm recovery or reopen investigation",
      "Alert activity is quiet, but the incident has not reached a terminal workflow state."⟩
  else if incident.acknowledgedAt = none then
    ⟨"acknowledge", "Acknowledge the incident",
      "The incident is still open and has not been acknowledged."⟩
  else if breached then
    ⟨"escalate_response", "Escalate the response",
      "The incident is still unresolved after its SLA deadline."⟩
  else
    ⟨"investigate", "Continue investigation",
      "The incident is owned and acknowledged but not yet resolved."⟩

def workItem (actor : String) (now : DateTime) (slaRiskMinutes : Int) (incident : WorkRow) :
    WorkItem where
  incident := incident
  buckets := workQueueMemberships python actor now slaRiskMinutes incident
  nextAction := nextAction python now incident

/-! ## The view of the database -/

/-- `base_filters`. -/
def isOpen (incident : WorkRow) : Bool :=
  0 < incident.alertCount && (incident.status = .active || incident.status = .quiet) &&
    ! (incident.workflowStatus = .resolved || incident.workflowStatus = .ignored)

/-- `func.trim`, which removes spaces and nothing else. -/
def sqlTrim (text : String) : String :=
  String.ofList ((text.toList.dropWhile fun character => character = ' ').rdropWhile
    fun character => character = ' ')

/-- `unassigned_filter`. -/
def hasNoAssignee (incident : WorkRow) : Bool :=
  match incident.assignee with
  | none => true
  | some assignee => sqlTrim assignee = ""

/-- `bucket_filters`; nothing equals a missing assignee. -/
def bucketFilter (actor : String) (now : DateTime) (slaRiskMinutes : Int) (incident : WorkRow) :
    Bucket → Bool
  | .my => incident.assignee.any fun assignee =>
      sqlLower (sqlTrim assignee) = normalize python (some actor) 100
  | .unassigned => hasNoAssignee incident
  | .slaRisk => isDueWithin incident.slaDueAt now slaRiskMinutes
  | .needsRecovery => incident.status = .quiet
  | .active => true

def severityTier (now : DateTime) (slaRiskMinutes : Int) (incident : WorkRow) : Nat :=
  if incident.topImportance.any fun importance =>
      ["critical", "high"].contains (sqlLower importance) then 0
  else if isDueWithin incident.slaDueAt now slaRiskMinutes then 1
  else if incident.status = .quiet then 2
  else 3

def severityPoints (incident : WorkRow) : Int :=
  match incident.topImportance.map sqlLower with
  | some "critical" => 35
  | some "high" => 30
  | some "medium" => 18
  | some "low" => 6
  | _ => 10

/-- `priority_score`, a sum of whole numbers. -/
def priorityScore (now : DateTime) (slaRiskMinutes : Int) (incident : WorkRow) : Int :=
  severityPoints sqlLower incident +
    (if isDueWithin incident.slaDueAt now 0 then 35
    else if isDueWithin incident.slaDueAt now 30 then 28
    else if isDueWithin incident.slaDueAt now slaRiskMinutes then 18
    else 0) +
    (if incident.acknowledgedAt = none then 12 else 0) +
    (if hasNoAssignee incident then 8 else 0) +
    if incident.status = .quiet then 12 else 0

/-- The `ORDER BY` of the queue. -/
def comesFirst (now : DateTime) (slaRiskMinutes : Int) (first second : WorkRow) : Prop :=
  let tier := severityTier sqlLower now slaRiskMinutes
  let score := priorityScore sqlLower now slaRiskMinutes
  tier first < tier second ∨ tier first = tier second ∧
    (score second < score first ∨ score first = score second ∧
      (first.startedAt < second.startedAt ∨ first.startedAt = second.startedAt ∧
        first.id ≤ second.id))

instance (now : DateTime) (slaRiskMinutes : Int) :
    DecidableRel (comesFirst sqlLower now slaRiskMinutes) :=
  fun _ _ => inferInstanceAs (Decidable (_ ∨ _))

/-! ## A request -/

/-- `max(1, min(limit, 100))`. -/
def WorkRequest.pageSize (request : WorkRequest) : Nat :=
  (max 1 (min request.limit 100)).toNat

/-- `max(5, min(sla_risk_minutes, 24 * 60))`. -/
def WorkRequest.riskMinutes (request : WorkRequest) : Int :=
  max 5 (min request.slaRiskMinutes (24 * 60))

/-- `str(actor or "").strip()[:100]`. -/
def WorkRequest.actorName (request : WorkRequest) : String :=
  truncated (strip request.actor) 100

def bucketRows (table : WorkTable) (request : WorkRequest) (now : DateTime) (bucket : Bucket) :
    List WorkRow :=
  ((table.rows.filter isOpen).filter fun incident =>
      bucketFilter python sqlLower request.actorName now request.riskMinutes incident
        bucket).insertionSort
    (comesFirst sqlLower now request.riskMinutes)

/-- `get_response_work_queue`; `none` for `ValueError("actor is required when bucket is 'my'")`. -/
def getResponseWorkQueue (table : WorkTable) (request : WorkRequest) (now : DateTime)
    (bucket : Bucket) (offset : Nat) : Option WorkQueue :=
  if bucket = .my ∧ request.actorName = "" then none
  else
    let start := min offset maxOffset
    let counts candidate :=
      (table.rows.filter isOpen).countP fun incident =>
        bucketFilter python sqlLower request.actorName now request.riskMinutes incident candidate
    let items :=
      (((bucketRows python sqlLower table request now bucket).drop start).take
        request.pageSize).map (workItem python request.actorName now request.riskMinutes)
    some {
      bucket := bucket
      actor := if request.actorName = "" then none else some request.actorName
      slaRiskMinutes := request.riskMinutes
      offset := start
      nextOffset := if start + items.length < counts bucket then some (start + items.length)
        else none
      totalMatches := counts bucket
      generatedAt := now
      counts := counts
      items := items }

/-! ## The buckets -/

variable {incident : WorkRow}

/-- What a walk needs of a response. -/
def fetch (table : WorkTable) (request : WorkRequest) (now : DateTime) (bucket : Bucket)
    (offset : Nat) : Option (OffsetPages.Page WorkItem) :=
  (getResponseWorkQueue python sqlLower table request now bucket offset).map fun queue =>
    ⟨queue.items, queue.nextOffset⟩

/-- The walk of a bucket, which the actor's own bucket has only for an actor, returns once each
of the items of the active walk that name the bucket, and every response counts them. -/
def BucketsAgree (table : WorkTable) (request : WorkRequest) (now : DateTime) : Prop :=
  ∃ activeItems,
    OffsetPages.Walks (fetch python sqlLower table request now .active) 0 activeItems ∧
    ∀ bucket,
      (∀ asked offset queue,
        getResponseWorkQueue python sqlLower table request now asked offset = some queue →
          queue.counts bucket = (activeItems.filter fun item => bucket ∈ item.buckets).length) ∧
      ((bucket = .my → request.actorName ≠ "") → ∃ items,
        OffsetPages.Walks (fetch python sqlLower table request now bucket) 0 items ∧
          items.Nodup ∧ ∀ item, item ∈ items ↔ item ∈ activeItems ∧ bucket ∈ item.buckets)

/-- The two texts of an assignee agree about the actor and about whether there is an owner. -/
def AssigneeReadsAlike (actor : String) (incident : WorkRow) : Prop :=
  ∀ assignee ∈ incident.assignee,
    (sqlLower (sqlTrim assignee) = normalize python (some actor) 100 ↔
      normalize python (some actor) 100 ≠ "" ∧
        normalize python (some assignee) 100 = normalize python (some actor) 100) ∧
    (sqlTrim assignee = "" ↔ normalize python (some assignee) 100 = "")

variable {python sqlLower} {table : WorkTable} {request : WorkRequest} {now : DateTime}
  {bucket : Bucket}

theorem normalize_empty (limit : Nat) : normalize python (some "") limit = "" := by
  have blank : strip "" = "" := by decide
  have noWords : joinedWords "" = "" := by decide
  simp [normalize, blank, python.lower_empty, noWords, truncated]

theorem normalize_none (limit : Nat) : normalize python none limit = "" :=
  normalize_empty limit

theorem mem_workQueueMemberships {actor : String} {slaRiskMinutes : Int} :
    bucket ∈ workQueueMemberships python actor now slaRiskMinutes incident ↔
      isMember python actor now slaRiskMinutes incident bucket = true := by
  rw [workQueueMemberships, List.mem_filter]
  exact and_iff_right (by cases bucket <;> decide)

variable (now) in
theorem assigneeReadsAlike_iff {actor : String} (slaRiskMinutes : Int) :
    AssigneeReadsAlike python sqlLower actor incident ↔
      ∀ bucket, bucketFilter python sqlLower actor now slaRiskMinutes incident bucket =
        isMember python actor now slaRiskMinutes incident bucket := by
  unfold AssigneeReadsAlike
  cases owner : incident.assignee with
  | none =>
      refine iff_of_true (by simp) fun bucket => ?_
      cases bucket with
      | my =>
          simp only [bucketFilter, isMember, owner, normalize_none, Option.any_none]
          by_cases blank : normalize python (some actor) 100 = ""
          · simp [blank]
          · simp [blank, Ne.symm blank]
      | unassigned => simp [bucketFilter, isMember, hasNoAssignee, owner, normalize_none]
      | slaRisk | needsRecovery | active => rfl
  | some assignee =>
      constructor
      · intro alike bucket
        obtain ⟨same, sameBlank⟩ := alike assignee rfl
        cases bucket with
        | my =>
            simp only [bucketFilter, isMember, owner, Option.any_some]
            rw [Bool.eq_iff_iff]
            simpa using same
        | unassigned =>
            simp only [bucketFilter, isMember, hasNoAssignee, owner]
            rw [Bool.eq_iff_iff]
            simpa using sameBlank
        | slaRisk | needsRecovery | active => rfl
      · intro agree given isOwner
        obtain rfl := Option.some.inj isOwner
        have same := agree .my
        have sameBlank := agree .unassigned
        simp only [bucketFilter, isMember, hasNoAssignee, owner, Option.any_some] at same sameBlank
        rw [Bool.eq_iff_iff] at same sameBlank
        exact ⟨by simpa using same, by simpa using sameBlank⟩

/-! ## Walks -/

theorem mem_bucketRows :
    incident ∈ bucketRows python sqlLower table request now bucket ↔
      (incident ∈ table.rows ∧ isOpen incident = true) ∧
        bucketFilter python sqlLower request.actorName now request.riskMinutes incident bucket =
          true := by
  rw [bucketRows, List.mem_insertionSort, List.mem_filter, List.mem_filter]

theorem length_bucketRows :
    (bucketRows python sqlLower table request now bucket).length =
      (table.rows.filter isOpen).countP fun incident =>
        bucketFilter python sqlLower request.actorName now request.riskMinutes incident bucket := by
  rw [bucketRows, List.length_insertionSort, List.countP_eq_length_filter]

theorem nodup_bucketRows : (bucketRows python sqlLower table request now bucket).Nodup := by
  have rows : table.rows.Nodup := List.Nodup.of_map _ table.distinct
  exact (List.perm_insertionSort _ _).nodup_iff.2 ((rows.filter _).filter _)

def bucketItems (python : PythonRuntime) (sqlLower : String → String) (table : WorkTable)
    (request : WorkRequest) (now : DateTime) (bucket : Bucket) : List WorkItem :=
  (bucketRows python sqlLower table request now bucket).map
    (workItem python request.actorName now request.riskMinutes)

theorem nodup_bucketItems : (bucketItems python sqlLower table request now bucket).Nodup :=
  nodup_bucketRows.map fun _ _ same => congrArg WorkItem.incident same

theorem fetch_eq (served : bucket = .my → request.actorName ≠ "") :
    fetch python sqlLower table request now bucket = fun offset =>
      some (OffsetPages.page (bucketItems python sqlLower table request now bucket)
        request.pageSize maxOffset offset) := by
  funext offset
  have answered : ¬ (bucket = .my ∧ request.actorName = "") := fun refused =>
    served refused.1 refused.2
  unfold fetch getResponseWorkQueue
  rw [if_neg answered]
  simp only [Option.map_some, OffsetPages.page, bucketItems, List.map_take, List.map_drop,
    List.length_map, ← length_bucketRows]

theorem WorkRequest.pageSize_pos (request : WorkRequest) : 0 < request.pageSize := by
  unfold WorkRequest.pageSize
  omega

theorem mem_bucketItems {item : WorkItem} :
    item ∈ bucketItems python sqlLower table request now bucket ↔
      ∃ incident ∈ table.rows, isOpen incident = true ∧
        bucketFilter python sqlLower request.actorName now request.riskMinutes incident bucket =
          true ∧
        workItem python request.actorName now request.riskMinutes incident = item := by
  simp only [bucketItems, List.mem_map, mem_bucketRows, and_assoc]

theorem workItem_mem_bucketItems (stored : incident ∈ table.rows)
    (opened : isOpen incident = true) :
    workItem python request.actorName now request.riskMinutes incident ∈
        bucketItems python sqlLower table request now bucket ↔
      bucketFilter python sqlLower request.actorName now request.riskMinutes incident bucket =
        true := by
  rw [mem_bucketItems]
  constructor
  · rintro ⟨other, _, _, selected, same⟩
    rwa [← show other = incident from congrArg WorkItem.incident same]
  · intro selected
    exact ⟨incident, stored, opened, selected, rfl⟩

theorem mem_buckets_workItem :
    bucket ∈ (workItem python request.actorName now request.riskMinutes incident).buckets ↔
      isMember python request.actorName now request.riskMinutes incident bucket = true := by
  simp only [workItem, mem_workQueueMemberships]

theorem length_activeItems :
    (bucketItems python sqlLower table request now .active).length =
      table.rows.countP isOpen := by
  rw [bucketItems, List.length_map, length_bucketRows, List.countP_eq_length_filter,
    List.countP_eq_length_filter]
  simp [bucketFilter]

theorem length_bucketItems_le :
    (bucketItems python sqlLower table request now bucket).length ≤ table.rows.countP isOpen := by
  have filtered : table.rows.countP isOpen = (table.rows.filter isOpen).length :=
    List.countP_eq_length_filter
  rw [bucketItems, List.length_map, length_bucketRows, filtered]
  exact List.countP_le_length

theorem length_named (bucket : Bucket) :
    ((bucketItems python sqlLower table request now .active).filter fun item =>
        bucket ∈ item.buckets).length =
      (table.rows.filter isOpen).countP fun incident =>
        isMember python request.actorName now request.riskMinutes incident bucket := by
  have all : ((table.rows.filter isOpen).filter fun incident =>
      bucketFilter python sqlLower request.actorName now request.riskMinutes incident .active) =
        table.rows.filter isOpen :=
    List.filter_eq_self.2 fun _ _ => rfl
  rw [← List.countP_eq_length_filter, bucketItems, List.countP_map, bucketRows, all,
    (List.perm_insertionSort _ _).countP_eq]
  refine List.countP_congr fun incident _ => ?_
  simp only [Function.comp_apply, workItem, decide_eq_true_eq, mem_workQueueMemberships]

theorem walks_bucketItems (served : bucket = .my → request.actorName ≠ "")
    (reaches : OffsetPages.Reaches (table.rows.countP isOpen) request.pageSize maxOffset) :
    OffsetPages.Walks (fetch python sqlLower table request now bucket) 0
      (bucketItems python sqlLower table request now bucket) := by
  rw [fetch_eq served]
  exact OffsetPages.walks_of_reaches request.pageSize_pos (reaches.mono length_bucketItems_le)

theorem isMember_of_refused (nameless : request.actorName = "") (incident : WorkRow) :
    isMember python request.actorName now request.riskMinutes incident .my = false := by
  simp [isMember, nameless, normalize_empty]

theorem counts_eq {asked : Bucket} {offset : Nat} {queue : WorkQueue}
    (answered : getResponseWorkQueue python sqlLower table request now asked offset =
      some queue) :
    queue.counts bucket = (table.rows.filter isOpen).countP fun incident =>
      bucketFilter python sqlLower request.actorName now request.riskMinutes incident bucket := by
  unfold getResponseWorkQueue at answered
  split at answered
  · cases answered
  · cases answered
    rfl

theorem exists_response (served : bucket = .my → request.actorName ≠ "") (offset : Nat) :
    ∃ queue, getResponseWorkQueue python sqlLower table request now bucket offset =
      some queue := by
  have answered : ¬ (bucket = .my ∧ request.actorName = "") := fun refused =>
    served refused.1 refused.2
  unfold getResponseWorkQueue
  rw [if_neg answered]
  exact ⟨_, rfl⟩

variable (python sqlLower table request now)

/-- The buckets agree exactly when the pages of the open incidents begin within the offsets that
are read, and the two texts of every owner agree. -/
theorem bucketsAgree_iff :
    BucketsAgree python sqlLower table request now ↔
      OffsetPages.Reaches (table.rows.countP isOpen) request.pageSize maxOffset ∧
        ∀ incident ∈ table.rows, isOpen incident = true →
          AssigneeReadsAlike python sqlLower request.actorName incident := by
  have activeServed : Bucket.active = .my → request.actorName ≠ "" := fun same => by cases same
  constructor
  · rintro ⟨activeItems, walks, agree⟩
    have reaches : OffsetPages.Reaches (table.rows.countP isOpen) request.pageSize maxOffset := by
      obtain ⟨items, walksAgain, once, _⟩ := (agree .active).2 activeServed
      rw [fetch_eq activeServed] at walksAgain
      rw [← length_activeItems]
      exact OffsetPages.reaches_of_walks walksAgain once
    obtain rfl := walks.unique (walks_bucketItems activeServed reaches)
    refine ⟨reaches, fun incident stored opened =>
      (assigneeReadsAlike_iff now request.riskMinutes).2 fun bucket => ?_⟩
    by_cases served : bucket = .my → request.actorName ≠ ""
    · obtain ⟨items, walksBucket, _, sameItems⟩ := (agree bucket).2 served
      obtain rfl := walksBucket.unique (walks_bucketItems served reaches)
      rw [Bool.eq_iff_iff, ← workItem_mem_bucketItems stored opened, sameItems,
        ← mem_buckets_workItem]
      exact and_iff_right ((workItem_mem_bucketItems stored opened).2 rfl)
    · -- Nobody's own bucket is not served, but it is counted.
      push Not at served
      obtain ⟨rfl, nameless⟩ := served
      obtain ⟨queue, answered⟩ := exists_response activeServed 0
      have counted := (agree .my).1 .active 0 queue answered
      have member : incident ∈ table.rows.filter isOpen := List.mem_filter.2 ⟨stored, opened⟩
      have nobody : ((table.rows.filter isOpen).countP fun incident =>
          isMember python request.actorName now request.riskMinutes incident .my) = 0 :=
        List.countP_eq_zero.2 fun other _ => by simp [isMember_of_refused nameless other]
      rw [counts_eq answered, length_named, nobody] at counted
      rw [isMember_of_refused nameless]
      exact Bool.eq_false_iff.2 (List.countP_eq_zero.1 counted incident member)
  · rintro ⟨reaches, alike⟩
    have same (incident : WorkRow) (stored : incident ∈ table.rows)
        (opened : isOpen incident = true) (bucket : Bucket) :=
      (assigneeReadsAlike_iff now request.riskMinutes).1 (alike incident stored opened) bucket
    refine ⟨_, walks_bucketItems activeServed reaches, fun bucket => ⟨?_, fun served => ?_⟩⟩
    · intro asked offset queue answered
      rw [counts_eq answered, length_named]
      refine List.countP_congr fun incident member => ?_
      obtain ⟨stored, opened⟩ := List.mem_filter.1 member
      rw [same incident stored opened]
    · refine ⟨_, walks_bucketItems served reaches, nodup_bucketItems, fun item => ?_⟩
      rw [mem_bucketItems, mem_bucketItems]
      constructor
      · rintro ⟨incident, stored, opened, selected, rfl⟩
        refine ⟨⟨incident, stored, opened, rfl, rfl⟩, mem_buckets_workItem.2 ?_⟩
        rwa [← same incident stored opened]
      · rintro ⟨⟨incident, stored, opened, _, rfl⟩, named⟩
        refine ⟨incident, stored, opened, ?_, rfl⟩
        rw [same incident stored opened]
        exact mem_buckets_workItem.1 named

def ownedIncident : WorkRow where
  id := 1
  title := "checkout"
  status := .active
  source := some "grafana"
  sourceConnectionId := none
  startedAt := 0
  endedAt := none
  alertCount := 2
  topImportance := none
  workflowStatus := .opened
  acknowledgedAt := none
  resolvedAt := none
  slaDueAt := none
  escalatedAt := none
  correlationDimensions := []
  correlationConfidence := 100
  updatedAt := none
  assignee := some "alice  smith"
  team := none

def ownedTable : WorkTable :=
  ⟨[ownedIncident], List.nodup_singleton _⟩

/-- The item of the incident names the bucket of its owner, who does not find it there. -/
theorem spaced_owner_lost :
    ¬ BucketsAgree .plain PythonRuntime.plain.lower ownedTable ⟨"alice smith", 50, 120⟩ 0 := by
  rintro ⟨activeItems, walks, agree⟩
  have served : Bucket.active = .my → WorkRequest.actorName ⟨"alice smith", 50, 120⟩ ≠ "" :=
    fun same => by cases same
  have reaches : OffsetPages.Reaches (ownedTable.rows.countP isOpen)
      (WorkRequest.pageSize ⟨"alice smith", 50, 120⟩) maxOffset := by
    have single : ownedTable.rows.countP isOpen = 1 := by decide
    intro pages begins
    omega
  obtain rfl := walks.unique (walks_bucketItems served reaches)
  obtain ⟨queue, answered⟩ := exists_response served 0
  have counted := (agree .my).1 .active 0 queue answered
  rw [counts_eq answered, length_named] at counted
  exact absurd counted (by decide +kernel)

end WorkQueues

end WebhookWise
