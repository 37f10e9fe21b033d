import WebhookWise.IncidentAlerts
import WebhookWise.SqlTable
import Mathlib.Data.List.Sort

/-!
# Scans that group alerts into incidents

A scan takes the newest alerts without an incident one by one, the oldest first: a recovery closes
the incident it matches, any other alert joins one or opens a new one.  A flush writes the changed
objects, and stamps `updated_at` where the scan has not given it a value.
-/

namespace WebhookWise

open SqlTable

namespace IncidentGrouping

/-! ## Incidents -/

inductive IncidentStatus where
  | active
  | quiet
  | closed
deriving DecidableEq

inductive WorkflowStatus where
  | opened
  | acknowledged
  | inProgress
  | resolved
  | ignored
deriving DecidableEq

/-- What the grouping task reads and writes of a row of `incidents`; the confidence is in
percent. -/
structure Incident where
  id : Nat
  title : String
  status : IncidentStatus
  source : Option String
  sourceConnectionId : Option Nat
  startedAt : DateTime
  endedAt : Option DateTime
  alertCount : Nat
  topImportance : Option String
  workflowStatus : WorkflowStatus
  acknowledgedAt : Option DateTime
  resolvedAt : Option DateTime
  slaDueAt : Option DateTime
  escalatedAt : Option DateTime
  correlationDimensions : PyDict String
  correlationConfidence : Nat
  updatedAt : Option DateTime

structure IncidentMember where
  incidentId : Nat
  eventId : Nat
  eventTimestamp : DateTime
deriving DecidableEq

def incidentWindowMinutes : Int := 15
def incidentQuietMinutes : Int := 10
def scanLookbackMinutes : Int := 4320
def maxMembersPerIncident : Nat := 200
def maxIncidentsPerScan : Nat := 200

variable (python : PythonRuntime)

/-- `title.split(separator, 1)[1]`, where the separator occurs. -/
def ruleOfTitle (title : String) : Option String :=
  (title.toList.tails.find? fun rest => " — ".toList.isPrefixOf rest).map fun rest =>
    String.ofList (rest.drop 3)

def incidentRuleMatches (eventRule : String) (incident : Incident) : Bool :=
  eventRule = "" ||
    match ruleOfTitle incident.title with
    | some rule => rule = eventRule
    | none => true

def incidentCorrelationScore (event : WebhookEvent) (incident : Incident) : Nat :=
  let sameSource := event.source = incident.source.getD ""
  let dimensions := correlationDimensions python event
  let score := dimensionScore dimensions incident.correlationDimensions
  if sourceConnectionConflicts event.sourceConnectionId incident.sourceConnectionId then 0
  else if dimensionsConflict dimensions incident.correlationDimensions then 0
  else if sameSource ∧ incidentRuleMatches (eventRuleName python event) incident = true then 100
  else if score ≠ 0 ∧ (sameSource ∨ 80 ≤ score) then score
  else if sameSource ∧ eventRuleName python event = "" then 65
  else 0

/-! ## Matching -/

/-- The best item so far, after one more: an item without a score is skipped, and one
with an equal score does not replace an earlier one. -/
def keepBetter {Item : Type} (floor : Nat) (score : Item → Option Nat)
    (best : Option (Nat × Item)) (item : Item) : Option (Nat × Item) :=
  match score item with
  | none => best
  | some value =>
      if floor ≤ value ∧ (best.all fun found => found.1 < value) = true then some (value, item)
      else best

/-- The loop that keeps the first item with the best score, where that reaches the
floor. -/
def firstBest {Item : Type} (floor : Nat) (score : Item → Option Nat) (items : List Item) :
    Option Item :=
  (items.foldl (keepBetter floor score) none).map Prod.snd

def findMatchingIncident (event : WebhookEvent) (incidents : List Incident) : Option Incident :=
  firstBest 65
    (fun incident =>
      let last := incident.updatedAt.getD incident.startedAt
      if incident.status ≠ .active ∨ maxMembersPerIncident ≤ incident.alertCount then none
      else if event.timestamp.addMinutes (-incidentWindowMinutes) ≤ last ∧
          last ≤ event.timestamp.addMinutes incidentWindowMinutes then
        some (incidentCorrelationScore python event incident)
      else none)
    incidents

def findMatchingCandidate (event : WebhookEvent) (candidates : List WebhookEvent) :
    Option WebhookEvent :=
  firstBest 65
    (fun candidate =>
      if incidentWindowMinutes * 60 * DateTime.microsecondsPerSecond <
          (event.timestamp - candidate.timestamp).natAbs then
        none
      else some (eventPairScore python event candidate))
    candidates.reverse

/-- `_find_recovery_incident`.  An alert that names no rule is scored by its dimensions
alone. -/
def findRecoveryIncident (event : WebhookEvent) (incidents : List Incident) : Option Incident :=
  let rule := eventRuleName python event
  let dimensions := correlationDimensions python event
  if rule = "" ∧ dimensions = [] then none
  else
    firstBest 80
      (fun incident =>
        if incident.status = .closed ∨ maxMembersPerIncident ≤ incident.alertCount then none
        else if sourceConnectionConflicts event.sourceConnectionId incident.sourceConnectionId then
          none
        else if event.timestamp < incident.startedAt then none
        else if rule ≠ "" then some (incidentCorrelationScore python event incident)
        else some (dimensionScore dimensions incident.correlationDimensions))
      incidents

/-! ## Changes of an incident -/

variable (settings : GroupingSettings)

/-- `_create_incident_from_event`, under the id the `INSERT` gives it. -/
def createIncidentFromEvent (event : WebhookEvent) (id : Nat) : Incident :=
  let rule := eventRuleName python event
  let title := (if event.source = "" then "unknown" else event.source) ++ " incident"
  { id := id
    title := if rule = "" then title else title ++ " — " ++ rule
    status := .active
    source := some event.source
    sourceConnectionId := event.sourceConnectionId
    startedAt := event.timestamp
    endedAt := none
    alertCount := 0
    topImportance := event.importance
    workflowStatus := .opened
    acknowledgedAt := none
    resolvedAt := none
    slaDueAt := none
    escalatedAt := none
    correlationDimensions := correlationDimensions python event
    correlationConfidence := 100
    updatedAt := some event.timestamp }

def applyAutoSla (policy : PyDict Int) (now : DateTime) (incident : Incident) : Incident :=
  if policy = [] ∨ incident.slaDueAt ≠ none then incident
  else if incident.workflowStatus = .resolved ∨ incident.workflowStatus = .ignored then incident
  else if incident.acknowledgedAt ≠ none then incident
  else
    match PyDict.get? policy (python.lower (incident.topImportance.getD "")) with
    | none => incident
    | some minutes => { incident with slaDueAt := some (now.addMinutes minutes) }

/-- `dimensions.setdefault(key, value)`, for every entry. -/
def mergeDimensions (dimensions others : PyDict String) : PyDict String :=
  others.foldl (fun merged entry => setDefault merged entry.1 entry.2) dimensions

def joinedImportance (incident : Incident) (event : WebhookEvent) : Option String :=
  if event.importance = some "high" ∨ incident.topImportance ≠ some "high" then event.importance
  else incident.topImportance

/-- What `_add_event_to_incident` writes to an incident that accepts the alert. -/
def withMember (armedAt : DateTime) (event : WebhookEvent) (incident : Incident) : Incident :=
  let score := incidentCorrelationScore python event incident
  let confidence := incident.correlationConfidence
  applyAutoSla python settings.autoSlaMinutes armedAt
    { incident with
      alertCount := incident.alertCount + 1
      correlationConfidence :=
        if score = 0 then confidence else min (if confidence = 0 then score else confidence) score
      updatedAt := some (max (incident.updatedAt.getD event.timestamp) event.timestamp)
      topImportance := joinedImportance incident event
      correlationDimensions :=
        mergeDimensions incident.correlationDimensions (correlationDimensions python event)
      source :=
        if incident.source.getD "" ≠ "" ∧ incident.source ≠ some event.source then some "multiple"
        else incident.source }

/-- `_resolve_incident_from_recovery`. -/
def resolvedFromRecovery (event : WebhookEvent) (incident : Incident) : Incident :=
  { incident with
    status := .closed
    workflowStatus := .resolved
    resolvedAt := some event.timestamp
    endedAt := some event.timestamp
    updatedAt := some event.timestamp }

/-- What `_close_quiet_incidents` writes. -/
def quieted (now : DateTime) (incident : Incident) : Incident :=
  { incident with
    status := .quiet
    endedAt := some now
    updatedAt := some now }

/-- What a flush adds to a changed row whose `updated_at` has not changed. -/
def stamped (now : DateTime) (incident : Incident) : Incident :=
  { incident with updatedAt := some now }

def escalated (now : DateTime) (incident : Incident) : Incident :=
  { incident with escalatedAt := some now }

theorem applyAutoSla_eq (policy : PyDict Int) (now : DateTime) (incident : Incident) :
    ∃ slaDueAt, applyAutoSla python policy now incident = { incident with slaDueAt := slaDueAt } := by
  unfold applyAutoSla
  repeat' split
  all_goals exact ⟨_, rfl⟩

section WithMember

variable (settings : GroupingSettings) (armedAt : DateTime) (event : WebhookEvent)
  (incident : Incident)

theorem withMember_eq : ∃ slaDueAt correlationConfidence source,
    withMember python settings armedAt event incident =
      { incident with
        alertCount := incident.alertCount + 1
        correlationConfidence := correlationConfidence
        updatedAt := some (max (incident.updatedAt.getD event.timestamp) event.timestamp)
        topImportance := joinedImportance incident event
        correlationDimensions :=
          mergeDimensions incident.correlationDimensions (correlationDimensions python event)
        source := source
        slaDueAt := slaDueAt } := by
  obtain ⟨slaDueAt, armed⟩ := applyAutoSla_eq python settings.autoSlaMinutes armedAt _
  exact ⟨slaDueAt, _, _, armed⟩

@[simp]
theorem withMember_id : (withMember python settings armedAt event incident).id = incident.id := by
  obtain ⟨_, _, _, equation⟩ := withMember_eq python settings armedAt event incident
  rw [equation]

end WithMember

/-! ## The session of a scan -/

/-- The objects of a scan.  An incident that has changed since the last flush is noted
with the `updated_at` of its row. -/
structure GroupingSession where
  incidents : Table Incident.id
  members : List IncidentMember
  changed : List (Nat × Option DateTime)
  active : List Nat
  recoverable : List Nat
  created : List Nat
  candidates : List WebhookEvent
  updated : Nat
  recovered : Nat

namespace GroupingSession

def objects (session : GroupingSession) (ids : List Nat) : List Incident :=
  ids.filterMap session.incidents.lookup

def modify (session : GroupingSession) (incident : Incident) (change : Incident → Incident)
    (keeps : ∀ incident, (change incident).id = incident.id) : GroupingSession :=
  { session with
    incidents := session.incidents.update (fun other => other.id = incident.id) change keeps
    changed :=
      if session.changed.any fun entry => entry.1 = incident.id then session.changed
      else (incident.id, incident.updatedAt) :: session.changed }

/-- A flush stamps the changed incidents that have kept the `updated_at` of their row. -/
def isStamped (session : GroupingSession) (incident : Incident) : Bool :=
  session.changed.any fun entry => entry.1 = incident.id && entry.2 = incident.updatedAt

/-- `session.flush()`, with the instants at which the rows are written. -/
def flush (session : GroupingSession) (flushedAt : Nat → DateTime) : GroupingSession :=
  { session with
    incidents := session.incidents.update session.isStamped
      (fun incident => stamped (flushedAt incident.id) incident) fun _ => rfl
    changed := [] }

def addEventToIncident (armedAt : DateTime) (session : GroupingSession) (incidentId : Nat)
    (event : WebhookEvent) : GroupingSession × Bool :=
  match session.incidents.lookup incidentId with
  | none => (session, false)
  | some incident =>
      if maxMembersPerIncident ≤ incident.alertCount ∨
          sourceConnectionConflicts event.sourceConnectionId incident.sourceConnectionId = true then
        (session, false)
      else
        let added := session.modify incident (withMember python settings armedAt event)
          (withMember_id python settings armedAt event)
        ({ added with members := added.members ++ [⟨incidentId, event.id, event.timestamp⟩] }, true)

def openIncident (session : GroupingSession) (candidate : WebhookEvent)
    (flushedAt : Nat → DateTime) : GroupingSession × Nat :=
  let flushed := session.flush flushedAt
  let id := flushed.incidents.nextKey
  ({ flushed with
      candidates := flushed.candidates.eraseP fun other => other.id = candidate.id
      incidents := flushed.incidents.insert (createIncidentFromEvent python candidate) fun _ => rfl
      active := flushed.active ++ [id]
      recoverable := flushed.recoverable ++ [id]
      created := flushed.created ++ [id] },
    id)

end GroupingSession

/-! ## One alert -/

/-- An alert of a scan, with the clock readings while it is processed: when an SLA is
armed, and when an incident is flushed. -/
structure Turn where
  alert : WebhookEvent
  armedAt : DateTime
  flushedAt : Nat → DateTime

open GroupingSession

def processRecovery (session : GroupingSession) (turn : Turn) : GroupingSession :=
  match findRecoveryIncident python turn.alert (session.objects session.recoverable) with
  | none => session
  | some incident =>
      let (added, accepted) :=
        addEventToIncident python settings turn.armedAt session incident.id turn.alert
      if accepted then
        { added.modify incident (resolvedFromRecovery turn.alert) (fun _ => rfl) with
          recovered := added.recovered + 1 }
      else added

/-- Any other alert joins an incident, opens one with a candidate, or becomes a
candidate. -/
def processFiring (session : GroupingSession) (turn : Turn) : GroupingSession :=
  match findMatchingIncident python turn.alert (session.objects session.active) with
  | some incident =>
      let (added, accepted) :=
        addEventToIncident python settings turn.armedAt session incident.id turn.alert
      if accepted && incident.id ∉ added.created then { added with updated := added.updated + 1 }
      else added
  | none =>
      match findMatchingCandidate python turn.alert session.candidates with
      | none => { session with candidates := session.candidates ++ [turn.alert] }
      | some candidate =>
          let (opened, id) := openIncident python session candidate turn.flushedAt
          let (first, _) := addEventToIncident python settings turn.armedAt opened id candidate
          (addEventToIncident python settings turn.armedAt first id turn.alert).1

/-- The body of the loop of `run_incident_grouping`. -/
def processAlert (session : GroupingSession) (turn : Turn) : GroupingSession :=
  if isSyntheticSource python settings turn.alert.source then session
  else if isRecoveryEvent python turn.alert then processRecovery python settings session turn
  else if !importanceOpensIncident python turn.alert.importance
      (incidentMinImportance python settings.incidentMinImportance) then session
  else processFiring python settings session turn

/-! ## One scan -/

/-- What a scan finds outside: the clock, the order in which the database returns rows
that its `ORDER BY` leaves equal, and the SLA breaches that are notified already. -/
structure ScanInput where
  settings : GroupingSettings
  now : DateTime
  armedAt : Nat → DateTime
  flushedAt : Nat → Nat → DateTime
  closingFlushedAt : Nat → DateTime
  escalationFlushedAt : Nat → DateTime
  rowOrder : Nat → Nat
  hasBreachTarget : Bool
  breachNotified : Incident → Bool

structure GroupingDatabase where
  alerts : Table WebhookEvent.id
  incidents : Table Incident.id
  members : List IncidentMember

/-- `ORDER BY timestamp DESC, id DESC`. -/
def NewerAlert (first second : WebhookEvent) : Prop :=
  second.timestamp < first.timestamp ∨ second.timestamp = first.timestamp ∧ second.id ≤ first.id

instance : DecidableRel NewerAlert :=
  fun _ _ => inferInstanceAs (Decidable (_ ∨ _))

/-- `ORDER BY` an instant, and for equal instants by a number. -/
def EarlierRow (instant : Incident → DateTime) (rank : Incident → Nat) (first second : Incident) :
    Prop :=
  instant first < instant second ∨ instant first = instant second ∧ rank first ≤ rank second

instance (instant : Incident → DateTime) (rank : Incident → Nat) :
    DecidableRel (EarlierRow instant rank) :=
  fun _ _ => inferInstanceAs (Decidable (_ ∨ _))

variable (input : ScanInput)

def unassignedAlerts (database : GroupingDatabase) : List WebhookEvent :=
  (((database.alerts.rows.filter fun event =>
        input.now.addMinutes (-scanLookbackMinutes) ≤ event.timestamp ∧
          ∀ member ∈ database.members, member.eventId ≠ event.id).insertionSort NewerAlert).take
    maxIncidentsPerScan).reverse

def activeIncidents (database : GroupingDatabase) : List Incident :=
  (database.incidents.rows.filter fun incident =>
      incident.status = .active ∧
        (incident.updatedAt.all fun updatedAt =>
          input.now.addMinutes (-incidentQuietMinutes) < updatedAt) = true).insertionSort
    (EarlierRow Incident.startedAt fun incident => input.rowOrder incident.id)

def recoverableIncidents (database : GroupingDatabase) : List Incident :=
  ((database.incidents.rows.filter fun incident =>
      incident.status ≠ .closed ∧
        input.now.addMinutes (-scanLookbackMinutes) ≤ incident.startedAt).insertionSort
    (EarlierRow (fun incident => -incident.startedAt) fun incident =>
      input.rowOrder incident.id)).take maxIncidentsPerScan

def openedSession (database : GroupingDatabase) : GroupingSession where
  incidents := database.incidents
  members := database.members
  changed := []
  active := (activeIncidents input database).map Incident.id
  recoverable := (recoverableIncidents input database).map Incident.id
  created := []
  candidates := []
  updated := 0
  recovered := 0

def turns (database : GroupingDatabase) : List Turn :=
  (unassignedAlerts input database).mapIdx fun position alert =>
    ⟨alert, input.armedAt position, input.flushedAt position⟩

def processedSession (database : GroupingDatabase) : GroupingSession :=
  (turns input database).foldl (processAlert python input.settings) (openedSession input database)

/-- The incidents `_close_quiet_incidents` selects. -/
def quietIncidents (incidents : Table Incident.id) : List Incident :=
  ((incidents.rows.filter fun incident =>
      incident.status = .active ∧
        (incident.updatedAt.any fun updatedAt =>
          updatedAt ≤ input.now.addMinutes (-incidentQuietMinutes)) = true).insertionSort
    (EarlierRow (fun incident => incident.updatedAt.getD 0) Incident.id)).take maxIncidentsPerScan

/-- `_close_quiet_incidents`, on flushed rows. -/
def closeQuietIncidents (incidents : Table Incident.id) : Table Incident.id :=
  incidents.update
    (fun incident => incident.id ∈ (quietIncidents input incidents).map Incident.id)
    (quieted input.now) fun _ => rfl

/-- The incidents whose breach `queue_sla_breach_notifications` marks. -/
def breachedIncidents (incidents : Table Incident.id) : List Incident :=
  (((incidents.rows.filter fun incident =>
      (incident.slaDueAt.any (· ≤ input.now)) = true ∧ incident.workflowStatus ≠ .resolved ∧
        incident.workflowStatus ≠ .ignored ∧ incident.acknowledgedAt = none).insertionSort
    (EarlierRow (fun incident => incident.slaDueAt.getD 0) Incident.id)).take 50).filter
      fun incident => !input.breachNotified incident && incident.escalatedAt = none

def escalateBreached (incidents : Table Incident.id) : Table Incident.id :=
  if input.hasBreachTarget then
    incidents.update
      (fun incident => incident.id ∈ (breachedIncidents input incidents).map Incident.id)
      (fun incident =>
        stamped (input.escalationFlushedAt incident.id) (escalated input.now incident))
      fun _ => rfl
  else incidents

/-- The counts a scan returns. -/
structure GroupingStats where
  scanned : Nat
  created : Nat
  updated : Nat
  closed : Nat
deriving DecidableEq

/-- The transaction of `run_incident_grouping`. -/
def runIncidentGrouping (database : GroupingDatabase) : GroupingDatabase × GroupingStats :=
  let session := processedSession python input database
  let flushed := session.flush input.closingFlushedAt
  ({ alerts := database.alerts
     incidents := escalateBreached input (closeQuietIncidents input flushed.incidents)
     members := flushed.members },
    { scanned := (unassignedAlerts input database).length
      created := session.created.length
      updated := session.updated
      closed := (quietIncidents input flushed.incidents).length })

/-! ## Runs -/

inductive GroupingEvent where
  /-- An alert is saved; the table gives it its id. -/
  | arrive (alert : WebhookEvent)
  | scan (input : ScanInput)

def GroupingDatabase.empty : GroupingDatabase :=
  ⟨.empty, .empty, []⟩

def step (database : GroupingDatabase) : GroupingEvent → GroupingDatabase
  | .arrive alert =>
      { database with
        alerts := database.alerts.insert (fun fresh => { alert with id := fresh }) fun _ => rfl }
  | .scan input => (runIncidentGrouping python input database).1

/-! ## Sample alerts and scans -/

def sampleAlert (minute : Int) (rule status environment importance : String) : WebhookEvent where
  id := 0
  source := "grafana"
  sourceConnectionId := none
  timestamp := DateTime.addMinutes 0 minute
  parsedData := some (.dict [("RuleName", .str rule), ("status", .str status),
    ("service", .str "api"), ("project", .str "shop"), ("environment", .str environment)])
  aiAnalysis := none
  importance := some importance

def sampleScan (minute : Int) : ScanInput where
  settings := ⟨"low", "", []⟩
  now := DateTime.addMinutes 0 minute
  armedAt _ := DateTime.addMinutes 0 minute
  flushedAt _ _ := DateTime.addMinutes 0 minute
  closingFlushedAt _ := DateTime.addMinutes 0 minute
  escalationFlushedAt _ := DateTime.addMinutes 0 minute
  rowOrder id := id
  hasBreachTarget := false
  breachNotified _ := false

end IncidentGrouping

end WebhookWise
