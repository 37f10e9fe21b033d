import WebhookWise.DrainingLoops
import WebhookWise.EventLists
import WebhookWise.SqlTable

/-!
# The archive run of the retention policy

Events that are too old, and that nothing refers to, move to the archive in batches, each batch in
chunks.  A chunk copies its events and deletes them.  Deleting an event frees the events it refers
to, so a later batch may find more.
-/

namespace WebhookWise

namespace RetentionArchive

open SqlTable DrainingLoops

/-! ## Rows -/

/-- A row of `webhook_events`, as the ORM reads it. -/
structure WebhookEvent where
  id : Nat
  requestId : Option String
  source : String
  sourceConnectionId : Option Nat
  clientIp : Option String
  timestamp : DateTime
  rawPayload : Option (List UInt8)
  headers : Option Json
  parsedData : Option Json
  alertHash : Option String
  dedupKey : Option String
  aiAnalysis : Option Json
  importance : Option String
  processingStatus : String
  retryCount : Int
  nextRetryAt : Option DateTime
  failureReason : Option String
  errorMessage : Option String
  forwardStatus : Option String
  prevAlertId : Option Nat
  isDuplicate : Bool
  duplicateOf : Option Nat
  duplicateCount : Int
  lastNotifiedAt : Option DateTime
  workflowStatus : String
  assignee : Option String
  team : Option String
  acknowledgedAt : Option DateTime
  resolvedAt : Option DateTime
  slaDueAt : Option DateTime
  createdAt : Option DateTime
  updatedAt : Option DateTime

/-- A row of `archived_webhook_events`.  Old rows lack some columns. -/
structure ArchivedWebhookEvent where
  id : Nat
  requestId : Option String
  source : String
  sourceConnectionId : Option Nat
  clientIp : Option String
  timestamp : DateTime
  rawPayload : Option (List UInt8)
  headers : Option Json
  parsedData : Option Json
  alertHash : Option String
  dedupKey : Option String
  aiAnalysis : Option Json
  importance : Option String
  processingStatus : Option String
  retryCount : Option Int
  nextRetryAt : Option DateTime
  failureReason : Option String
  errorMessage : Option String
  forwardStatus : Option String
  prevAlertId : Option Nat
  isDuplicate : Option Bool
  duplicateOf : Option Nat
  duplicateCount : Option Int
  lastNotifiedAt : Option DateTime
  workflowStatus : Option String
  assignee : Option String
  team : Option String
  acknowledgedAt : Option DateTime
  resolvedAt : Option DateTime
  slaDueAt : Option DateTime
  createdAt : Option DateTime
  updatedAt : Option DateTime
  archivedAt : DateTime

def archiveRow (event : WebhookEvent) (archivedAt : DateTime) : ArchivedWebhookEvent where
  id := event.id
  requestId := event.requestId
  source := event.source
  sourceConnectionId := event.sourceConnectionId
  clientIp := event.clientIp
  timestamp := event.timestamp
  rawPayload := event.rawPayload
  headers := event.headers
  parsedData := event.parsedData
  alertHash := event.alertHash
  dedupKey := event.dedupKey
  aiAnalysis := event.aiAnalysis
  importance := event.importance
  processingStatus := event.processingStatus
  retryCount := event.retryCount
  nextRetryAt := event.nextRetryAt
  failureReason := event.failureReason
  errorMessage := event.errorMessage
  forwardStatus := event.forwardStatus
  prevAlertId := event.prevAlertId
  isDuplicate := event.isDuplicate
  duplicateOf := event.duplicateOf
  duplicateCount := event.duplicateCount
  lastNotifiedAt := event.lastNotifiedAt
  workflowStatus := event.workflowStatus
  assignee := event.assignee
  team := event.team
  acknowledgedAt := event.acknowledgedAt
  resolvedAt := event.resolvedAt
  slaDueAt := event.slaDueAt
  createdAt := event.createdAt
  updatedAt := event.updatedAt
  archivedAt := archivedAt

def ArchivedWebhookEvent.original? (row : ArchivedWebhookEvent) : Option WebhookEvent := do
  let processingStatus ← row.processingStatus
  let retryCount ← row.retryCount
  let isDuplicate ← row.isDuplicate
  let duplicateCount ← row.duplicateCount
  let workflowStatus ← row.workflowStatus
  return {
    id := row.id
    requestId := row.requestId
    source := row.source
    sourceConnectionId := row.sourceConnectionId
    clientIp := row.clientIp
    timestamp := row.timestamp
    rawPayload := row.rawPayload
    headers := row.headers
    parsedData := row.parsedData
    alertHash := row.alertHash
    dedupKey := row.dedupKey
    aiAnalysis := row.aiAnalysis
    importance := row.importance
    processingStatus := processingStatus
    retryCount := retryCount
    nextRetryAt := row.nextRetryAt
    failureReason := row.failureReason
    errorMessage := row.errorMessage
    forwardStatus := row.forwardStatus
    prevAlertId := row.prevAlertId
    isDuplicate := isDuplicate
    duplicateOf := row.duplicateOf
    duplicateCount := duplicateCount
    lastNotifiedAt := row.lastNotifiedAt
    workflowStatus := workflowStatus
    assignee := row.assignee
    team := row.team
    acknowledgedAt := row.acknowledgedAt
    resolvedAt := row.resolvedAt
    slaDueAt := row.slaDueAt
    createdAt := row.createdAt
    updatedAt := row.updatedAt }

theorem original?_archiveRow (event : WebhookEvent) (archivedAt : DateTime) :
    (archiveRow event archivedAt).original? = some event :=
  rfl

/-- The foreign keys of a row of `forward_outbox`. -/
structure ForwardOutbox where
  id : Nat
  webhookEventId : Option Nat
  originalEventId : Option Nat
deriving DecidableEq

/-- The foreign key of a row of `deep_analyses`. -/
structure DeepAnalysis where
  id : Nat
  webhookEventId : Nat
deriving DecidableEq

/-- The foreign key of a row of `incident_members`. -/
structure IncidentMember where
  id : Nat
  eventId : Nat
deriving DecidableEq

/-- The tables that the run reads or writes. -/
structure Database where
  events : Table WebhookEvent.id
  archive : List ArchivedWebhookEvent
  outboxes : List ForwardOutbox
  analyses : List DeepAnalysis
  members : List IncidentMember

/-! ## The retention policy -/

/-- What the archive run reads of `DataMaintenancePolicy`. -/
structure DataMaintenancePolicy where
  enabled : Bool
  retentionDaysDefault : Int
  retentionPolicies : PyDict Int
  sourceRetentionPolicies : PyDict Int
  cleanupKeywords : PyDict (List String)
  distinctPolicies : retentionPolicies.Distinct
  distinctSourcePolicies : sourceRetentionPolicies.Distinct

/-- `_days_threshold`, when the date exists. -/
def daysThreshold (now : DateTime) (days : Int) : DateTime :=
  now.addSeconds (-(max 0 days * 86400))

/-- `datetime.min`. -/
def earliestDate : DateTime :=
  DateTime.addSeconds 0 (-62135596800)

section Filters

variable (postgres : PostgresText) (policy : DataMaintenancePolicy) (now : DateTime)

/-- `column LIKE '%keyword%'`. -/
def likeKeyword (column : Option String) (keyword : String) : Bool :=
  column.any fun text => EventLists.likeMatches ('%' :: (keyword.toList ++ ['%'])) text.toList

def cleanupColumn (field : String) (event : WebhookEvent) : Option String :=
  if field = "summary" then JsonColumns.astext postgres event.aiAnalysis "summary"
  else if field = "parsed_data" then event.parsedData.map postgres.jsonbText
  else none

/-- `_keyword_cleanup_filter`.  Without conditions it selects nothing. -/
def keywordCleanupFilter (event : WebhookEvent) : Bool :=
  policy.cleanupKeywords.any fun (field, keywords) =>
    keywords.any fun keyword =>
      keyword ≠ "" && likeKeyword (cleanupColumn postgres field event) keyword

def doesNotMatchPolicy (column : Option String) (policyNames : List String) : Bool :=
  policyNames.isEmpty || column.all fun name => !policyNames.contains name

def cleanupFilter (event : WebhookEvent) : Bool :=
  let noImportancePolicy :=
    doesNotMatchPolicy event.importance (policy.retentionPolicies.map Prod.fst)
  let noSourcePolicy :=
    doesNotMatchPolicy (some event.source) (policy.sourceRetentionPolicies.map Prod.fst)
  (keywordCleanupFilter postgres policy event &&
      event.timestamp < daysThreshold now policy.retentionDaysDefault) ||
    (policy.retentionPolicies.any fun (importance, days) =>
      event.importance = some importance && event.timestamp < daysThreshold now days) ||
    (policy.sourceRetentionPolicies.any fun (source, days) =>
      noImportancePolicy && event.source = source && event.timestamp < daysThreshold now days) ||
    (noImportancePolicy && noSourcePolicy &&
      event.timestamp < daysThreshold now policy.retentionDaysDefault)

def datesExist : Bool :=
  (policy.retentionDaysDefault :: policy.retentionPolicies.map Prod.snd ++
      policy.sourceRetentionPolicies.map Prod.snd).all fun days =>
    earliestDate ≤ daysThreshold now days

def isReferenced (database : Database) (id : Nat) : Bool :=
  (database.outboxes.any fun outbox =>
      outbox.webhookEventId = some id || outbox.originalEventId = some id) ||
    (database.analyses.any fun analysis => analysis.webhookEventId = id) ||
    (database.members.any fun member => member.eventId = id) ||
    (database.events.rows.any fun related =>
      related.prevAlertId = some id || related.duplicateOf = some id)

/-- `combined_filter`; `_has_no_live_dependencies` is its second half. -/
def combinedFilter (database : Database) (event : WebhookEvent) : Bool :=
  cleanupFilter postgres policy now event && !isReferenced database event.id

end Filters

/-! ## The run -/

/-- What `ON DELETE SET NULL` makes of an event. -/
def withoutReferences (ids : List Nat) (event : WebhookEvent) : WebhookEvent :=
  { event with
    prevAlertId := event.prevAlertId.filter fun id => !ids.contains id
    duplicateOf := event.duplicateOf.filter fun id => !ids.contains id }

theorem withoutReferences_id (ids : List Nat) (event : WebhookEvent) :
    (withoutReferences ids event).id = event.id :=
  rfl

/-- `DELETE FROM webhook_events WHERE id IN ids`, with what its foreign keys do: an outbox of a
deleted event, its analyses and its memberships are deleted too, and other references to it are
cleared. -/
def deleteEvents (ids : List Nat) (database : Database) : Database where
  events := (database.events.delete fun event => ids.contains event.id).update (fun _ => true)
    (withoutReferences ids) (withoutReferences_id ids)
  archive := database.archive
  outboxes :=
    (database.outboxes.filter fun outbox => !outbox.webhookEventId.any ids.contains).map
      fun outbox =>
        { outbox with
          originalEventId := outbox.originalEventId.filter fun id => !ids.contains id }
  analyses := database.analyses.filter fun analysis => !ids.contains analysis.webhookEventId
  members := database.members.filter fun member => !ids.contains member.eventId

/-- A chunk that was archived: what it met, and which events it removed. -/
structure Removal where
  database : Database
  ids : List Nat

def Removal.events (removal : Removal) : List WebhookEvent :=
  removal.database.events.rows.filter fun event => removal.ids.contains event.id

structure ArchiveRun where
  database : Database
  removals : List Removal

/-- What ends a run early. -/
inductive Interruption where
  | overflow
  | archivedBefore
deriving DecidableEq

def batchLimit : Nat := 5000
def chunkSize : Nat := 1000

section Run

variable (postgres : PostgresText) (policy : DataMaintenancePolicy) (now : DateTime)
  (clock : Nat → DateTime)

/-- `ORDER BY id ASC`. -/
def orderedById (events : List WebhookEvent) : List WebhookEvent :=
  events.insertionSort fun first second => first.id ≤ second.id

def targetIds (database : Database) : List Nat :=
  ((orderedById (database.events.rows.filter
    (combinedFilter postgres policy now database))).take batchLimit).map WebhookEvent.id

/-- The slices of a list, as `range` steps through it. -/
def slices (size : Nat) (ids : List Nat) : List (List Nat) :=
  (List.range ((ids.length + size - 1) / size)).map fun index =>
    (ids.drop (size * index)).take size

def chunkEvents (database : Database) (chunkIds : List Nat) : List WebhookEvent :=
  orderedById (database.events.rows.filter fun event => chunkIds.contains event.id)

/-- `INSERT INTO archived_webhook_events` of the events of a chunk. -/
def insertArchive (archivedAt : DateTime) (chunkIds : List Nat) (database : Database) : Database :=
  { database with
    archive := database.archive ++
      (chunkEvents database chunkIds).map fun event => archiveRow event archivedAt }

/-- One turn of the loop over chunks, which counts the events it archives.  The archive
refuses an id that it has. -/
def archiveChunk (progress : ArchiveRun × Nat) (chunkIds : List Nat) :
    Except Interruption (ArchiveRun × Nat) :=
  let (run, archived) := progress
  let events := chunkEvents run.database chunkIds
  if events.isEmpty then .ok (run, archived)
  else if events.any fun event => run.database.archive.any fun row => row.id = event.id then
    .error .archivedBefore
  else
    let inserted := insertArchive (clock run.removals.length) chunkIds run.database
    .ok
      ({ database := deleteEvents chunkIds inserted
         removals := run.removals ++ [⟨inserted, chunkIds⟩] },
        archived + events.length)

/-- One turn of the outer loop.  A batch without ids has no chunk, and is not full. -/
def archiveBatch (run : ArchiveRun) : Except Interruption (ArchiveRun × Nat) :=
  (slices chunkSize (targetIds postgres policy now run.database)).foldlM (archiveChunk clock)
    (run, 0)

/-- `cleanup_old_data_by_policy`, for a run that nothing else interrupts and for this many
batches at most. -/
def cleanupOldDataByPolicy (batches : Nat) (database : Database) :
    Option (Except Interruption ArchiveRun) :=
  if !policy.enabled then some (.ok ⟨database, []⟩)
  else if !datesExist policy now then some (.error .overflow)
  else drain (archiveBatch postgres policy now clock) batchLimit batches ⟨database, []⟩

end Run

/-! ## What the filter means -/

section Retention

variable (postgres : PostgresText) (policy : DataMaintenancePolicy) (now : DateTime)

/-- The policy that governs an event: that of its importance, else that of its source, else
the default. -/
def governingDays (event : WebhookEvent) : Int :=
  match event.importance.bind policy.retentionPolicies.get? with
  | some days => days
  | none => (policy.sourceRetentionPolicies.get? event.source).getD policy.retentionDaysDefault

def retentionDays (event : WebhookEvent) : Int :=
  if keywordCleanupFilter postgres policy event then
    min (governingDays policy event) policy.retentionDaysDefault
  else governingDays policy event

/-- The event is older than it is retained. -/
def IsDue (event : WebhookEvent) : Prop :=
  event.timestamp < daysThreshold now (retentionDays postgres policy event)

variable {postgres policy now}

theorem lt_daysThreshold_min {instant : DateTime} {first second : Int} :
    instant < daysThreshold now (min first second) ↔
      instant < daysThreshold now first ∨ instant < daysThreshold now second := by
  have inMicroseconds : ∀ instant now : Int,
      instant < now + -(max 0 (min first second) * 86400) * 1000000 ↔
        instant < now + -(max 0 first * 86400) * 1000000 ∨
          instant < now + -(max 0 second * 86400) * 1000000 := by
    intro instant now
    omega
  exact inMicroseconds instant now

theorem any_entries_iff {entries : PyDict Int} (distinct : entries.Distinct) (key : String)
    (condition : Int → Bool) :
    (entries.any fun (name, value) => key = name && condition value) = true ↔
      ∃ value, entries.get? key = some value ∧ condition value = true := by
  induction entries with
  | nil => simp [PyDict.get?]
  | cons entry entries ih =>
      obtain ⟨fresh, rest⟩ := List.nodup_cons.1 distinct
      rw [List.any_cons, Bool.or_eq_true, ih rest]
      by_cases here : entry.1 = key
      · subst here
        have gone : PyDict.get? entries entry.1 = none := by
          simp only [PyDict.get?, Option.map_eq_none_iff, List.find?_eq_none, decide_eq_true_eq]
          exact fun other member same => fresh (same ▸ List.mem_map_of_mem member)
        have first : PyDict.get? (entry :: entries) entry.1 = some entry.2 := by
          simp [PyDict.get?]
        rw [first, gone]
        simp
      · have other : PyDict.get? (entry :: entries) key = PyDict.get? entries key := by
          simp [PyDict.get?, here]
        rw [other]
        simp [Ne.symm here]

theorem doesNotMatchPolicy_iff {column : Option String} {policies : PyDict Int} :
    doesNotMatchPolicy column (policies.map Prod.fst) = true ↔
      column.bind policies.get? = none := by
  have absent (name : String) :
      policies.get? name = none ↔ name ∉ policies.map Prod.fst := by
    simp only [PyDict.get?, Option.map_eq_none_iff, List.find?_eq_none, decide_eq_true_eq,
      List.mem_map, not_exists, not_and]
  cases column with
  | none => simp [doesNotMatchPolicy]
  | some name =>
      rw [Option.bind_some, absent]
      cases policies with
      | nil | cons => simp [doesNotMatchPolicy]

variable (event : WebhookEvent)

theorem importancePolicies_iff :
    (policy.retentionPolicies.any fun (importance, days) =>
        event.importance = some importance && event.timestamp < daysThreshold now days) = true ↔
      ∃ days, event.importance.bind policy.retentionPolicies.get? = some days ∧
        event.timestamp < daysThreshold now days := by
  cases event.importance with
  | none => simp
  | some importance =>
      simpa using any_entries_iff policy.distinctPolicies importance fun days =>
        event.timestamp < daysThreshold now days

theorem sourcePolicies_iff (applies : Bool) :
    (policy.sourceRetentionPolicies.any fun (source, days) =>
        applies && event.source = source && event.timestamp < daysThreshold now days) = true ↔
      applies = true ∧ ∃ days, policy.sourceRetentionPolicies.get? event.source = some days ∧
        event.timestamp < daysThreshold now days := by
  cases applies with
  | false => simp
  | true =>
      simpa using any_entries_iff policy.distinctSourcePolicies event.source fun days =>
        event.timestamp < daysThreshold now days

theorem isDue_iff :
    IsDue postgres policy now event ↔
      event.timestamp < daysThreshold now (governingDays policy event) ∨
        keywordCleanupFilter postgres policy event = true ∧
          event.timestamp < daysThreshold now policy.retentionDaysDefault := by
  unfold IsDue retentionDays
  cases keywordCleanupFilter postgres policy event with
  | false => simp
  | true => simp [lt_daysThreshold_min]

theorem cleanupFilter_iff :
    cleanupFilter postgres policy now event = true ↔ IsDue postgres policy now event := by
  rw [isDue_iff]
  simp only [cleanupFilter, Bool.or_eq_true, sourcePolicies_iff, importancePolicies_iff,
    Bool.and_eq_true, doesNotMatchPolicy_iff, Option.bind_some, decide_eq_true_eq]
  unfold governingDays
  cases event.importance.bind policy.retentionPolicies.get? with
  | some days => simp [or_comm]
  | none =>
      cases policy.sourceRetentionPolicies.get? event.source with
      | some | none => simp [or_comm]

end Retention

/-! ## Batches and chunks -/

variable {run : ArchiveRun} {database : Database} {ids : List Nat}
variable {run after : ArchiveRun} {clock : Nat → DateTime} {event : WebhookEvent}

section Batches

theorem flatten_slices_range (size count : Nat) (ids : List Nat) :
    ((List.range count).map fun index => (ids.drop (size * index)).take size).flatten =
      ids.take (size * count) := by
  induction count with
  | zero => simp
  | succ count ih =>
      rw [List.range_succ, List.map_append, List.flatten_append, ih, Nat.mul_succ, List.take_add]
      simp

theorem flatten_slices {size : Nat} (positive : 0 < size) (ids : List Nat) :
    (slices size ids).flatten = ids := by
  rw [slices, flatten_slices_range]
  apply List.take_of_length_le
  have quotient := Nat.div_add_mod (ids.length + size - 1) size
  have remainder := Nat.mod_lt (ids.length + size - 1) positive
  omega

variable {postgres : PostgresText} {policy : DataMaintenancePolicy} {now : DateTime}

theorem perm_orderedById (events : List WebhookEvent) : (orderedById events).Perm events :=
  List.perm_insertionSort _ _

theorem length_filter_contains {table : Table WebhookEvent.id} (nodup : ids.Nodup)
    (present : ∀ id ∈ ids, ∃ event ∈ table.rows, event.id = id) :
    (table.rows.filter fun event => ids.contains event.id).length = ids.length := by
  have selected : ((table.rows.filter fun event => ids.contains event.id).map
      WebhookEvent.id).Perm ids := by
    rw [List.perm_ext_iff_of_nodup (table.keys_nodup.sublist (List.filter_sublist.map _)) nodup]
    intro id
    constructor
    · intro member
      obtain ⟨event, kept, rfl⟩ := List.mem_map.1 member
      simpa using (List.mem_filter.1 kept).2
    · intro member
      obtain ⟨event, row, rfl⟩ := present id member
      exact List.mem_map_of_mem (List.mem_filter.2 ⟨row, by simpa using member⟩)
  simpa using selected.length_eq

/-! ### References -/

/-- No table has a row that refers to the event. -/
structure Unreferenced (database : Database) (id : Nat) : Prop where
  outboxes : ∀ outbox ∈ database.outboxes,
    outbox.webhookEventId ≠ some id ∧ outbox.originalEventId ≠ some id
  analyses : ∀ analysis ∈ database.analyses, analysis.webhookEventId ≠ id
  members : ∀ member ∈ database.members, member.eventId ≠ id
  events : ∀ related ∈ database.events.rows,
    related.prevAlertId ≠ some id ∧ related.duplicateOf ≠ some id

theorem isReferenced_eq_false_iff {id : Nat} :
    isReferenced database id = false ↔ Unreferenced database id := by
  simp only [isReferenced, Bool.or_eq_false_iff, List.any_eq_false, Bool.or_eq_true,
    decide_eq_true_eq, not_or]
  constructor
  · rintro ⟨⟨⟨outboxes, analyses⟩, members⟩, events⟩
    exact ⟨outboxes, analyses, members, events⟩
  · rintro ⟨outboxes, analyses, members, events⟩
    exact ⟨⟨⟨outboxes, analyses⟩, members⟩, events⟩

theorem Unreferenced.of_subset {before after : Database} {id : Nat}
    (free : Unreferenced before id)
    (events : ∀ event ∈ after.events.rows, event ∈ before.events.rows)
    (outboxes : after.outboxes = before.outboxes) (analyses : after.analyses = before.analyses)
    (members : after.members = before.members) : Unreferenced after id := by
  constructor
  · rw [outboxes]
    exact free.outboxes
  · rw [analyses]
    exact free.analyses
  · rw [members]
    exact free.members
  · exact fun related member => free.events related (events related member)

theorem filter_column_eq_self {column : Option Nat} (free : ∀ id ∈ ids, column ≠ some id) :
    (column.filter fun id => !ids.contains id) = column := by
  cases column with
  | none => rfl
  | some id =>
      have other : id ∉ ids := fun member => free id member rfl
      simp [Option.filter, other]

/-- Deleting events that nothing refers to leaves all else alone. -/
theorem deleteEvents_of_unreferenced (free : ∀ id ∈ ids, Unreferenced database id) :
    deleteEvents ids database =
      { database with events := database.events.delete fun event => ids.contains event.id } := by
  unfold deleteEvents
  congr 1
  · apply Table.ext
    · have same : ∀ event ∈ (database.events.delete fun event => ids.contains event.id).rows,
          withoutReferences ids event = event := by
        intro event member
        have row : event ∈ database.events.rows := (List.mem_filter.1 member).1
        rw [withoutReferences,
          filter_column_eq_self fun id inside => ((free id inside).events event row).1,
          filter_column_eq_self fun id inside => ((free id inside).events event row).2]
      exact (List.map_congr_left same).trans (List.map_id' _)
    · rfl
  · have kept : (database.outboxes.filter fun outbox =>
        !outbox.webhookEventId.any ids.contains) = database.outboxes := by
      rw [List.filter_eq_self]
      intro outbox member
      cases webhookEventId : outbox.webhookEventId with
      | none => rfl
      | some id =>
          have other : id ∉ ids := fun inside =>
            ((free id inside).outboxes outbox member).1 webhookEventId
          simp [other]
    rw [kept]
    have same : ∀ outbox ∈ database.outboxes,
        { outbox with
          originalEventId := outbox.originalEventId.filter fun id => !ids.contains id } =
            outbox := by
      intro outbox member
      rw [filter_column_eq_self fun id inside => ((free id inside).outboxes outbox member).2]
    exact (List.map_congr_left same).trans (List.map_id' _)
  · rw [List.filter_eq_self]
    intro analysis member
    have other : analysis.webhookEventId ∉ ids := fun inside =>
      (free _ inside).analyses analysis member rfl
    simp [other]
  · rw [List.filter_eq_self]
    intro membership member
    have other : membership.eventId ∉ ids := fun inside =>
      (free _ inside).members membership member rfl
    simp [other]

/-! ### Progress -/

/-- The chunk removed events that are due and that nothing referred to. -/
def Removal.Sound (postgres : PostgresText) (policy : DataMaintenancePolicy) (now : DateTime)
    (removal : Removal) : Prop :=
  ∀ event ∈ removal.events,
    IsDue postgres policy now event ∧ Unreferenced removal.database event.id

/-- What any stretch of a run has done: it has only removed events, soundly, and archived
them. -/
structure Progress (postgres : PostgresText) (policy : DataMaintenancePolicy) (now : DateTime)
    (before after : ArchiveRun) : Prop where
  events : ∀ event ∈ after.database.events.rows, event ∈ before.database.events.rows
  outboxes : after.database.outboxes = before.database.outboxes
  analyses : after.database.analyses = before.database.analyses
  members : after.database.members = before.database.members
  archive : ∀ row ∈ before.database.archive, row ∈ after.database.archive
  removals : ∀ removal ∈ before.removals, removal ∈ after.removals
  sound : ∀ removal ∈ after.removals,
    removal ∈ before.removals ∨ removal.Sound postgres policy now
  removed : ∀ event ∈ before.database.events.rows, event ∉ after.database.events.rows →
    (∃ removal ∈ after.removals, event ∈ removal.events) ∧
      ∃ row ∈ after.database.archive, row.original? = some event

theorem Progress.refl (run : ArchiveRun) : Progress postgres policy now run run where
  events _ member := member
  outboxes := rfl
  analyses := rfl
  members := rfl
  archive _ member := member
  removals _ member := member
  sound _ member := Or.inl member
  removed _ member gone := absurd member gone

theorem Progress.trans {first second third : ArchiveRun}
    (earlier : Progress postgres policy now first second)
    (later : Progress postgres policy now second third) :
    Progress postgres policy now first third where
  events event member := earlier.events event (later.events event member)
  outboxes := later.outboxes.trans earlier.outboxes
  analyses := later.analyses.trans earlier.analyses
  members := later.members.trans earlier.members
  archive row member := later.archive row (earlier.archive row member)
  removals removal member := later.removals removal (earlier.removals removal member)
  sound removal member := by
    rcases later.sound removal member with old | sound
    · exact earlier.sound removal old
    · exact Or.inr sound
  removed event member gone := by
    by_cases left : event ∈ second.database.events.rows
    · exact later.removed event left gone
    · obtain ⟨⟨removal, old, inside⟩, row, archived, original⟩ := earlier.removed event member left
      exact ⟨⟨removal, later.removals removal old, inside⟩, row, later.archive row archived,
        original⟩

/-- Progress that has removed just the events with these ids. -/
structure Removes (postgres : PostgresText) (policy : DataMaintenancePolicy) (now : DateTime)
    (ids : List Nat) (before after : ArchiveRun) : Prop
    extends Progress postgres policy now before after where
  rows : after.database.events.rows =
    before.database.events.rows.filter fun event => !ids.contains event.id

theorem Removes.append {first second third : ArchiveRun} {earlierIds laterIds : List Nat}
    (earlier : Removes postgres policy now earlierIds first second)
    (later : Removes postgres policy now laterIds second third) :
    Removes postgres policy now (earlierIds ++ laterIds) first third where
  toProgress := earlier.toProgress.trans later.toProgress
  rows := by
    rw [later.rows, earlier.rows, List.filter_filter]
    apply List.filter_congr
    intro event _
    simp [Bool.and_comm]

/-- These ids belong to events that the filter selects. -/
def Selected (postgres : PostgresText) (policy : DataMaintenancePolicy) (now : DateTime)
    (database : Database) (ids : List Nat) : Prop :=
  ∀ id ∈ ids, (∃ event ∈ database.events.rows, event.id = id ∧ IsDue postgres policy now event) ∧
    Unreferenced database id

theorem Selected.of_removes {before : ArchiveRun} {removedIds : List Nat}
    (selected : Selected postgres policy now before.database ids)
    (removes : Removes postgres policy now removedIds before after)
    (disjoint : ∀ id ∈ ids, id ∉ removedIds) : Selected postgres policy now after.database ids := by
  intro id member
  obtain ⟨⟨event, row, rfl, due⟩, free⟩ := selected id member
  refine ⟨⟨event, ?_, rfl, due⟩,
    free.of_subset removes.events removes.outboxes removes.analyses removes.members⟩
  rw [removes.rows, List.mem_filter]
  exact ⟨row, by simpa using disjoint event.id member⟩

theorem removes_insertArchive {chunkIds : List Nat}
    (selected : Selected postgres policy now run.database chunkIds) (archivedAt : DateTime) :
    Removes postgres policy now chunkIds run
      { database := deleteEvents chunkIds (insertArchive archivedAt chunkIds run.database)
        removals :=
          run.removals ++ [⟨insertArchive archivedAt chunkIds run.database, chunkIds⟩] } := by
  have free : ∀ id ∈ chunkIds, Unreferenced (insertArchive archivedAt chunkIds run.database) id :=
    fun id member => (selected id member).2.of_subset (fun _ row => row) rfl rfl rfl
  rw [deleteEvents_of_unreferenced free]
  refine { events := ?_, outboxes := rfl, analyses := rfl, members := rfl, archive := ?_,
           removals := ?_, sound := ?_, removed := ?_, rows := rfl }
  · exact fun event member => (List.mem_filter.1 member).1
  · exact fun row member => List.mem_append_left _ member
  · exact fun removal member => List.mem_append_left _ member
  · intro removal member
    rcases List.mem_append.1 member with old | new
    · exact Or.inl old
    · right
      rw [List.mem_singleton.1 new]
      intro event inside
      obtain ⟨row, chosen⟩ := List.mem_filter.1 inside
      have member : event.id ∈ chunkIds := by simpa using chosen
      obtain ⟨⟨other, otherRow, same, due⟩, _⟩ := selected event.id member
      obtain rfl : other = event := Table.eq_of_key_eq otherRow row same
      exact ⟨due, free other.id member⟩
  · intro event row gone
    have chosen : chunkIds.contains event.id = true := by
      by_contra kept
      exact gone (List.mem_filter.2 ⟨row, by simpa using kept⟩)
    have inside : event ∈ run.database.events.rows.filter fun event =>
        chunkIds.contains event.id := List.mem_filter.2 ⟨row, chosen⟩
    refine ⟨⟨_, List.mem_append_right _ (List.mem_singleton_self _), inside⟩,
      archiveRow event archivedAt, ?_, original?_archiveRow event archivedAt⟩
    exact List.mem_append_right _ (List.mem_map_of_mem ((perm_orderedById _).mem_iff.2 inside))

theorem removes_archiveChunk {archived counted : Nat} {chunkIds : List Nat} (nodup : chunkIds.Nodup)
    (selected : Selected postgres policy now run.database chunkIds)
    (chunked : archiveChunk clock (run, archived) chunkIds = .ok (after, counted)) :
    Removes postgres policy now chunkIds run after ∧ counted = archived + chunkIds.length := by
  have many : (chunkEvents run.database chunkIds).length = chunkIds.length := by
    rw [chunkEvents, (perm_orderedById _).length_eq]
    apply length_filter_contains nodup
    intro id member
    obtain ⟨⟨event, row, same, _⟩, _⟩ := selected id member
    exact ⟨event, row, same⟩
  unfold archiveChunk at chunked
  dsimp only at chunked
  split at chunked
  · rename_i none
    rw [List.isEmpty_iff_length_eq_zero, many, List.length_eq_zero_iff] at none
    obtain ⟨rfl, rfl⟩ := Prod.mk.inj (Except.ok.inj chunked)
    subst none
    exact ⟨⟨.refl run, by simp⟩, rfl⟩
  · split at chunked
    · cases chunked
    · obtain ⟨rfl, rfl⟩ := Prod.mk.inj (Except.ok.inj chunked)
      exact ⟨removes_insertArchive selected _, congrArg (archived + ·) many⟩

theorem removes_foldlM_archiveChunk {chunks : List (List Nat)} {archived counted : Nat}
    (nodup : chunks.flatten.Nodup)
    (selected : Selected postgres policy now run.database chunks.flatten)
    (folded : chunks.foldlM (archiveChunk clock) (run, archived) = .ok (after, counted)) :
    Removes postgres policy now chunks.flatten run after ∧
      counted = archived + chunks.flatten.length := by
  induction chunks generalizing run archived with
  | nil =>
      obtain ⟨rfl, rfl⟩ := Prod.mk.inj (Except.ok.inj folded)
      exact ⟨⟨.refl run, by simp⟩, rfl⟩
  | cons chunk chunks ih =>
      rw [List.foldlM_cons] at folded
      obtain ⟨chunkNodup, restNodup, apart⟩ := List.nodup_append.1 nodup
      cases chunked : archiveChunk clock (run, archived) chunk with
      | error interruption =>
          rw [chunked] at folded
          cases folded
      | ok result =>
          rw [chunked] at folded
          have first := removes_archiveChunk chunkNodup
            (fun id member => selected id (List.mem_append_left _ member)) chunked
          have still : Selected postgres policy now result.1.database chunks.flatten :=
            Selected.of_removes (fun id member => selected id (List.mem_append_right _ member))
              first.1 fun id member inChunk => apart id inChunk id member rfl
          obtain ⟨rest, restCount⟩ := ih restNodup still folded
          refine ⟨first.1.append rest, ?_⟩
          rw [restCount, first.2, List.flatten_cons, List.length_append, Nat.add_assoc]

theorem mem_combined_iff :
    event ∈ orderedById (database.events.rows.filter
        (combinedFilter postgres policy now database)) ↔
      event ∈ database.events.rows ∧ IsDue postgres policy now event ∧
        Unreferenced database event.id := by
  rw [(perm_orderedById _).mem_iff, List.mem_filter, combinedFilter, Bool.and_eq_true,
    Bool.not_eq_true', cleanupFilter_iff, isReferenced_eq_false_iff]

variable (postgres policy now) in
theorem selected_targetIds (database : Database) :
    Selected postgres policy now database (targetIds postgres policy now database) := by
  intro id member
  obtain ⟨event, taken, rfl⟩ := List.mem_map.1 member
  obtain ⟨row, due, free⟩ := mem_combined_iff.1 (List.mem_of_mem_take taken)
  exact ⟨⟨event, row, rfl, due⟩, free⟩

variable (postgres policy now) in
theorem nodup_targetIds (database : Database) :
    (targetIds postgres policy now database).Nodup := by
  have ordered : ((orderedById (database.events.rows.filter
      (combinedFilter postgres policy now database))).map WebhookEvent.id).Nodup := by
    rw [((perm_orderedById _).map WebhookEvent.id).nodup_iff]
    exact database.events.keys_nodup.sublist (List.filter_sublist.map _)
  exact ordered.sublist ((List.take_sublist _ _).map _)

theorem mem_targetIds_of_lt (few : (targetIds postgres policy now database).length < batchLimit)
    (row : event ∈ database.events.rows) (due : IsDue postgres policy now event)
    (free : Unreferenced database event.id) :
    event.id ∈ targetIds postgres policy now database := by
  apply List.mem_map_of_mem
  rw [List.take_of_length_le]
  · exact mem_combined_iff.2 ⟨row, due, free⟩
  · rw [targetIds, List.length_map, List.length_take] at few
    omega

theorem removes_archiveBatch {taken : Nat}
    (batched : archiveBatch postgres policy now clock run = .ok (after, taken)) :
    Removes postgres policy now (targetIds postgres policy now run.database) run after ∧
      taken = (targetIds postgres policy now run.database).length := by
  have nodup := nodup_targetIds postgres policy now run.database
  have selected := selected_targetIds postgres policy now run.database
  have all := flatten_slices (show 0 < chunkSize by decide)
    (targetIds postgres policy now run.database)
  rw [← all] at nodup selected
  have removes := removes_foldlM_archiveChunk nodup selected batched
  rw [all, Nat.zero_add] at removes
  exact removes

end Batches

/-! ## The whole run -/

section Runs

variable {postgres : PostgresText} {policy : DataMaintenancePolicy} {now : DateTime}
  {clock : Nat → DateTime}

theorem length_add_taken_le {taken : Nat}
    (batched : archiveBatch postgres policy now clock run = .ok (after, taken)) :
    after.database.events.rows.length + taken ≤ run.database.events.rows.length := by
  obtain ⟨removes, count⟩ := removes_archiveBatch batched
  have many := length_filter_contains (nodup_targetIds postgres policy now run.database)
    fun id member =>
      (selected_targetIds postgres policy now run.database id member).1.imp fun _ row =>
        ⟨row.1, row.2.1⟩
  have parts : run.database.events.rows.length = _ + _ := List.length_eq_length_filter_add
    fun event => (targetIds postgres policy now run.database).contains event.id
  rw [removes.rows, count]
  omega

/-- No id is both live and archived. -/
def ArchivedOnce (database : Database) : Prop :=
  ∀ event ∈ database.events.rows, ∀ row ∈ database.archive, row.id ≠ event.id

theorem exists_of_mem_deleteEvents (left : event ∈ (deleteEvents ids database).events.rows) :
    event.id ∉ ids ∧ ∃ old ∈ database.events.rows, old.id = event.id := by
  have updated : event ∈ ((database.events.delete fun event => ids.contains event.id).update
      (fun _ => true) (withoutReferences ids) (withoutReferences_id ids)).rows := left
  obtain ⟨old, undeleted, rfl⟩ := Table.mem_update.1 updated
  obtain ⟨row, apart⟩ := List.mem_filter.1 undeleted
  have kept : old.id ∉ ids := by simpa using apart
  exact ⟨kept, old, row, rfl⟩

variable (clock) in
theorem archiveChunk_of_archivedOnce {run : ArchiveRun} (archived : Nat) (chunkIds : List Nat)
    (once : ArchivedOnce run.database) :
    ∃ after counted, archiveChunk clock (run, archived) chunkIds = .ok (after, counted) ∧
      ArchivedOnce after.database := by
  unfold archiveChunk
  dsimp only
  split
  · exact ⟨run, archived, rfl, once⟩
  · have accepted : ¬ ((chunkEvents run.database chunkIds).any fun event =>
        run.database.archive.any fun row => row.id = event.id) = true := by
      simp only [List.any_eq_true, decide_eq_true_eq, not_exists, not_and]
      intro event chosen row member
      have live := (List.mem_filter.1 ((perm_orderedById _).mem_iff.1 chosen)).1
      exact once event live row member
    rw [if_neg accepted]
    refine ⟨_, _, rfl, ?_⟩
    intro event left row member
    obtain ⟨apart, old, live, same⟩ := exists_of_mem_deleteEvents left
    rcases List.mem_append.1 member with before | copied
    · rw [← same]
      exact once old live row before
    · obtain ⟨copy, chosen, rfl⟩ := List.mem_map.1 copied
      have inChunk := (List.mem_filter.1 ((perm_orderedById _).mem_iff.1 chosen)).2
      intro sameId
      have member : copy.id ∈ chunkIds := by simpa using inChunk
      exact apart (sameId ▸ member)

theorem archiveBatch_of_archivedOnce (run : ArchiveRun) (once : ArchivedOnce run.database) :
    ∃ after taken, archiveBatch postgres policy now clock run = .ok (after, taken) ∧
      ArchivedOnce after.database := by
  have folds : ∀ (chunks : List (List Nat)) (run : ArchiveRun) (archived : Nat),
      ArchivedOnce run.database →
        ∃ after counted, chunks.foldlM (archiveChunk clock) (run, archived) =
            Except.ok (after, counted) ∧ ArchivedOnce after.database := by
    intro chunks
    induction chunks with
    | nil => exact fun run archived once => ⟨run, archived, rfl, once⟩
    | cons chunk chunks ih =>
        intro run archived once
        obtain ⟨middle, counted, chunked, kept⟩ :=
          archiveChunk_of_archivedOnce clock archived chunk once
        rw [List.foldlM_cons, chunked]
        exact ih middle counted kept
  exact folds _ run 0 once

/-- What a finished run has done to a database. -/
structure ArchivesWhatIsDue (postgres : PostgresText) (policy : DataMaintenancePolicy)
    (now : DateTime) (database : Database) (run : ArchiveRun) : Prop where
  /-- An event that is gone was due and unreferenced when it was removed, and the archive has
  it in every column. -/
  removed : ∀ event ∈ database.events.rows, event ∉ run.database.events.rows →
    (∃ removal ∈ run.removals, event ∈ removal.events) ∧
      ∃ row ∈ run.database.archive, row.original? = some event
  sound : ∀ removal ∈ run.removals, ∀ event ∈ removal.events,
    IsDue postgres policy now event ∧ Unreferenced removal.database event.id
  complete : policy.enabled = true → ∀ event ∈ database.events.rows,
    IsDue postgres policy now event → Unreferenced database event.id →
      event ∉ run.database.events.rows
  /-- The run changes no event, and loses nothing else. -/
  events : ∀ event ∈ run.database.events.rows, event ∈ database.events.rows
  archive : ∀ row ∈ database.archive, row ∈ run.database.archive
  outboxes : run.database.outboxes = database.outboxes
  analyses : run.database.analyses = database.analyses
  members : run.database.members = database.members

theorem Progress.archives (progress : Progress postgres policy now ⟨database, []⟩ run)
    (complete : policy.enabled = true → ∀ event ∈ database.events.rows,
      IsDue postgres policy now event → Unreferenced database event.id →
        event ∉ run.database.events.rows) :
    ArchivesWhatIsDue postgres policy now database run where
  removed := progress.removed
  sound removal member := (progress.sound removal member).resolve_left (by simp)
  complete := complete
  events := progress.events
  archive := progress.archive
  outboxes := progress.outboxes
  analyses := progress.analyses
  members := progress.members

theorem archives_of_cleanup {batches : Nat}
    (finished : cleanupOldDataByPolicy postgres policy now clock batches database = some (.ok run))
    :
    ArchivesWhatIsDue postgres policy now database run := by
  unfold cleanupOldDataByPolicy at finished
  split at finished
  · rename_i disabled
    obtain rfl := Except.ok.inj (Option.some.inj finished)
    apply (Progress.refl _).archives
    intro enabled
    rw [enabled] at disabled
    cases disabled
  · split at finished
    · cases finished
    · obtain ⟨last, taken, earlier, batched, few⟩ :=
        exists_last_round Progress.refl Progress.trans
          (fun _ _ _ batched => (removes_archiveBatch batched).1.toProgress) finished
      obtain ⟨removes, count⟩ := removes_archiveBatch batched
      apply (earlier.trans removes.toProgress).archives
      intro _ event row due free left
      have inLast := removes.events event left
      have chosen := mem_targetIds_of_lt (count ▸ few) inLast due
        (free.of_subset earlier.events earlier.outboxes earlier.analyses earlier.members)
      rw [removes.rows, List.mem_filter] at left
      simp [chosen] at left

/-- Every run ends; one that finishes has archived what is due, and removed nothing else; and
only a date out of range or an id that is in the archive already ends it early. -/
theorem archive_run_is_lossless (postgres : PostgresText) (policy : DataMaintenancePolicy)
    (now : DateTime) (clock : Nat → DateTime) (database : Database) :
    (∃ batches outcome,
        cleanupOldDataByPolicy postgres policy now clock batches database = some outcome ∧
          (datesExist policy now = true → ArchivedOnce database →
            ∃ run, outcome = .ok run)) ∧
      ∀ batches run,
        cleanupOldDataByPolicy postgres policy now clock batches database = some (.ok run) →
          ArchivesWhatIsDue postgres policy now database run := by
  refine ⟨?_, fun _ _ => archives_of_cleanup⟩
  unfold cleanupOldDataByPolicy
  split
  · exact ⟨0, _, rfl, fun _ _ => ⟨_, rfl⟩⟩
  · split
    · rename_i missing
      refine ⟨0, _, rfl, fun exist => ?_⟩
      rw [exist] at missing
      cases missing
    · obtain ⟨batches, outcome, drained⟩ :=
        exists_drain (fun run : ArchiveRun => run.database.events.rows.length)
          (show 0 < batchLimit by decide)
          (fun _ _ _ batched => length_add_taken_le batched) ⟨database, []⟩
      exact ⟨batches, outcome, drained, fun _ once =>
        exists_ok_of_drain archiveBatch_of_archivedOnce once drained⟩

end Runs

end RetentionArchive

end WebhookWise
