import WebhookWise.GroupedRows
import WebhookWise.IncidentAlerts
import Mathlib.Data.List.Sort
import Mathlib.Data.String.Basic

/-!
# The quality overview of the alert sources

The overview keeps an accumulator for each source.  It writes the counts of the grouped events into
them, scans the newest events for recoveries, sorts these, and adds the incidents that nobody
attends to.  The scores are an argument: they only order the list.
-/

namespace WebhookWise

namespace AlertQuality

/-! ## Tables -/

/-- The columns of `webhook_events` that are read. -/
structure QualityEvent where
  id : Nat
  source : String
  sourceConnectionId : Option Nat
  timestamp : DateTime
  parsedData : Option Json
  aiAnalysis : Option Json
  alertHash : Option String
  dedupKey : Option String
  isDuplicate : Bool

/-- The columns of `incidents` that are read. -/
structure QualityIncident where
  source : Option String
  sourceConnectionId : Option Nat
  startedAt : DateTime
  workflowStatus : String
  acknowledgedAt : Option DateTime
  assignee : Option String

/-- The columns of `source_connections` that are read. -/
structure SourceConnection where
  id : Nat
  sourceType : String
  name : String

/-- The tables; `id` is the primary key of the events. -/
structure QualityTables where
  events : List QualityEvent
  incidents : List QualityIncident
  /-- `event_id` of `incident_members`. -/
  memberIds : List Nat
  connections : List SourceConnection
  distinctIds : (events.map QualityEvent.id).Nodup

/-- What the overview does not read from the tables. -/
structure QualityEnv extends PythonRuntime where
  /-- `synthetic_sources()`. -/
  syntheticSources : List String
  /-- What `utcnow()` returns to the overview, and then to the query of the counts. -/
  now : DateTime
  statsNow : DateTime
  /-- The score of the source under a key, if it has events. -/
  score : String → Nat

structure QualityQuery where
  windowDays : Int
  sourceLimit : Nat

def maxPayloadScanEvents : Nat := 2000

def maxConnectionScan : Nat := 500

def maxIssueSamples : Nat := 5

/-- `timedelta(days=…)`. -/
def days (count : Int) : Int :=
  count * (86400 * DateTime.microsecondsPerSecond)

def unattendedAfter : Int := 2 * 3600 * DateTime.microsecondsPerSecond

/-! ## Source statistics -/

structure SourceEventStats where
  source : String
  sourceConnectionId : Option Nat
  total : Nat
  duplicates : Nat
  lastSeen : Option DateTime

section Overview

variable (env : QualityEnv)

/-- `str(source or "unknown").strip()`. -/
def statsSource (source : String) : String :=
  strip (if source = "" then "unknown" else source)

/-- The columns that are grouped by. -/
def statsKey (byConnection : Bool) (event : QualityEvent) : String × Option Nat :=
  (event.source, if byConnection then event.sourceConnectionId else none)

variable (query : QualityQuery)

def statsStart : DateTime :=
  env.statsNow - days (if query.windowDays < 1 then 1 else query.windowDays)

variable (tables : QualityTables)

def countedEvents : List QualityEvent :=
  tables.events.filter fun event => statsStart env query ≤ event.timestamp

def getSourceEventStats (byConnection : Bool) : List SourceEventStats :=
  let events := countedEvents env query tables
  let count := GroupedRows.count (statsKey byConnection) events
  ((GroupedRows.keys (statsKey byConnection) events).insertionSort fun first second =>
      count second ≤ count first).map fun group =>
    let rows := GroupedRows.group (statsKey byConnection) events group
    { source := statsSource group.1
      sourceConnectionId := group.2
      total := count group
      duplicates := (rows.filter QualityEvent.isDuplicate).length
      lastSeen := GroupedRows.latest (rows.map QualityEvent.timestamp) }

/-! ## Accumulators -/

structure SourceAccumulator where
  key : String
  source : String
  displayName : String
  sourceConnectionId : Option Nat := none
  eventCount : Nat := 0
  scannedCount : Nat := 0
  duplicateCount : Nat := 0
  recoveryCount : Nat := 0
  matchedRecoveryCount : Nat := 0
  standaloneRecoveryCount : Nat := 0
  lastEventAt : Option DateTime := none
  /-- The ids of the firing events, each with its identity. -/
  identityFiringIds : List (String × Nat) := []
  /-- `issue_samples["unmatched_recovery"]`. -/
  unmatchedSamples : List Nat := []
  unattendedIncidents : Nat := 0

abbrev Accumulators := PyDict SourceAccumulator

/-- A loop that sets what is stored under the key of each row, from what was stored there. -/
def filled {Row Value : Type} (keyOf : Row → String) (change : Option Value → Row → Value)
    (rows : List Row) (entries : PyDict Value) : PyDict Value :=
  rows.foldl
    (fun entries row => entries.set (keyOf row) (change (entries.get? (keyOf row)) row)) entries

/-- A loop that changes what is stored under the key of each row, where something is. -/
def adjusted {Row : Type} (keyOf : Row → String)
    (change : SourceAccumulator → Row → SourceAccumulator) (rows : List Row)
    (accumulators : Accumulators) : Accumulators :=
  rows.foldl
    (fun accumulators row =>
      ((accumulators.get? (keyOf row)).map fun accumulator =>
        accumulators.set (keyOf row) (change accumulator row)).getD accumulators)
    accumulators

def normalizedSource (source : Option String) : String :=
  let text := env.lower (strip ((source.filter fun text => text ≠ "").getD "unknown"))
  if text = "" then "unknown" else text

def sourceKey (source : Option String) (sourceConnectionId : Option Nat) : String :=
  match sourceConnectionId with
  | some id => "connection:" ++ toString id
  | none => "source:" ++ normalizedSource env source

def isSyntheticSource (source : String) : Bool :=
  env.syntheticSources.contains (env.lower (strip source))

def freshAccumulator (key source : String) : SourceAccumulator where
  key := key
  source := normalizedSource env (some source)
  displayName := normalizedSource env (some source)

def connectionKey (connection : SourceConnection) : String :=
  sourceKey env (some connection.sourceType) (some connection.id)

def connectionAccumulator (connection : SourceConnection) : SourceAccumulator where
  key := connectionKey env connection
  source := normalizedSource env (some connection.sourceType)
  displayName := connection.name
  sourceConnectionId := some connection.id

def listedConnections : List SourceConnection :=
  ((tables.connections.insertionSort fun first second => second.id ≤ first.id).take
    maxConnectionScan).filter fun connection => !isSyntheticSource env connection.sourceType

def connectionAccumulators : Accumulators :=
  filled (connectionKey env) (fun _ => connectionAccumulator env) (listedConnections env tables) []

def statsRowKey (row : SourceEventStats) : String :=
  sourceKey env (some row.source) row.sourceConnectionId

def withTotals (current : Option SourceAccumulator) (row : SourceEventStats) : SourceAccumulator :=
  { current.getD (freshAccumulator env (statsRowKey env row) row.source) with
    eventCount := row.total
    duplicateCount := row.duplicates
    lastEventAt := row.lastSeen }

def totalsRows : List SourceEventStats :=
  (getSourceEventStats env query tables true).filter fun row => !isSyntheticSource env row.source

def countedAccumulators : Accumulators :=
  filled (statsRowKey env) (withTotals env) (totalsRows env query tables)
    (connectionAccumulators env tables)

/-! ## The scan -/

def scannedEvents : List QualityEvent :=
  let newest := (tables.events.filter fun event =>
      env.now - days query.windowDays ≤ event.timestamp).insertionSort fun first second =>
    second.timestamp < first.timestamp ∨
      second.timestamp = first.timestamp ∧ second.id ≤ first.id
  (newest.take maxPayloadScanEvents).filter fun event => !isSyntheticSource env event.source

def eventKey (event : QualityEvent) : String :=
  sourceKey env (some event.source) event.sourceConnectionId

/-- `str(event.dedup_key or event.alert_hash or "").strip()`. -/
def identityKey (event : QualityEvent) : String :=
  let present (text : Option String) := text.filter fun text => text ≠ ""
  strip (((present event.dedupKey).or (present event.alertHash)).getD "")

def isRecovery (event : QualityEvent) : Bool :=
  IncidentGrouping.isRecoveryPayload env.toPythonRuntime event.parsedData event.aiAnalysis

def recordSample (samples : List Nat) (eventId : Nat) : List Nat :=
  if samples.length < maxIssueSamples ∧ eventId ∉ samples then samples ++ [eventId] else samples

def withEvent (current : Option SourceAccumulator) (event : QualityEvent) : SourceAccumulator :=
  let accumulator := current.getD (freshAccumulator env (eventKey env event) event.source)
  let identity := identityKey event
  if isRecovery env event then
    { accumulator with
      scannedCount := accumulator.scannedCount + 1
      recoveryCount := accumulator.recoveryCount + 1
      unmatchedSamples := recordSample accumulator.unmatchedSamples event.id }
  else
    { accumulator with
      scannedCount := accumulator.scannedCount + 1
      identityFiringIds :=
        if identity = "" then accumulator.identityFiringIds
        else accumulator.identityFiringIds ++ [(identity, event.id)] }

def scannedAccumulators : Accumulators :=
  filled (eventKey env) (withEvent env) (scannedEvents env query tables)
    (countedAccumulators env query tables)

/-! ## The recoveries -/

def recoveryEvents : List QualityEvent :=
  (scannedEvents env query tables).filter (isRecovery env)

/-- `firing_ids_by_identity`: an identity is looked up in the sources of its recoveries. -/
def firingIds (identity : String) : List Nat :=
  if identity = "" then []
  else
    let keys := (((recoveryEvents env query tables).filter fun event =>
      identityKey event = identity).map (eventKey env)).dedup
    keys.flatMap fun key =>
      match (scannedAccumulators env query tables).get? key with
      | some accumulator =>
          (accumulator.identityFiringIds.filter fun firing => firing.1 = identity).map Prod.snd
      | none => []

/-- `_incident_member_ids`; that the ids are looked up in chunks does not show. -/
def incidentMemberIds (eventIds : List Nat) : List Nat :=
  eventIds.filter fun id => tables.memberIds.contains id

/-- The members among the recoveries and the firing events of their identities. -/
def members : List Nat :=
  let recoveries := recoveryEvents env query tables
  incidentMemberIds tables (recoveries.map QualityEvent.id ++
    ((recoveries.map identityKey).dedup.flatMap (firingIds env query tables)))

def firingMadeIncident (identity : String) : Bool :=
  (firingIds env query tables identity).any fun id => (members env query tables).contains id

inductive RecoveryClass where
  | matched
  | standalone
  | unmatched
deriving DecidableEq

/-- How `_classify_recoveries` sorts a recovery. -/
def recoveryClass (event : QualityEvent) : RecoveryClass :=
  if (members env query tables).contains event.id then .matched
  else if !firingMadeIncident env query tables (identityKey event) then .standalone
  else .unmatched

def withClass (accumulator : SourceAccumulator) (event : QualityEvent) : SourceAccumulator :=
  match recoveryClass env query tables event with
  | .matched =>
      { accumulator with
        matchedRecoveryCount := accumulator.matchedRecoveryCount + 1
        unmatchedSamples := accumulator.unmatchedSamples.erase event.id }
  | .standalone =>
      { accumulator with
        standaloneRecoveryCount := accumulator.standaloneRecoveryCount + 1
        unmatchedSamples := accumulator.unmatchedSamples.erase event.id }
  | .unmatched => accumulator

/-- The loop of `_classify_recoveries`. -/
def classifiedAccumulators : Accumulators :=
  adjusted (eventKey env) (withClass env query tables) (recoveryEvents env query tables)
    (scannedAccumulators env query tables)

/-! ## Incidents that nobody attends to -/

/-- The conditions of `_unattended_by_source`. -/
def isUnattended (incident : QualityIncident) : Bool :=
  env.now - days query.windowDays ≤ incident.startedAt &&
    incident.startedAt ≤ env.now - unattendedAfter &&
    ! ["resolved", "ignored"].contains incident.workflowStatus &&
    incident.acknowledgedAt.isNone && incident.assignee.isNone

def unattendedIncidents : List QualityIncident :=
  tables.incidents.filter (isUnattended env query)

def incidentColumns (incident : QualityIncident) : Option String × Option Nat :=
  (incident.source, incident.sourceConnectionId)

def unattendedRows : List ((Option String × Option Nat) × Nat) :=
  let incidents := unattendedIncidents env query tables
  (GroupedRows.keys incidentColumns incidents).map fun group =>
    (group, GroupedRows.count incidentColumns incidents group)

def unattendedRowKey (row : (Option String × Option Nat) × Nat) : String :=
  sourceKey env row.1.1 row.1.2

def unattendedBySource : PyDict Nat :=
  filled (unattendedRowKey env) (fun _ row => row.2) (unattendedRows env query tables) []

def withUnattended (accumulator : SourceAccumulator) (entry : String × Nat) : SourceAccumulator :=
  { accumulator with unattendedIncidents := entry.2 }

def accumulators : Accumulators :=
  adjusted Prod.fst withUnattended (unattendedBySource env query tables)
    (classifiedAccumulators env query tables)

/-! ## The report -/

/-- The finding `unmatched_recovery`. -/
structure UnmatchedFinding where
  count : Nat
  sampleEventIds : List Nat

structure SourcePayload where
  sourceKey : String
  source : String
  sourceConnectionId : Option Nat
  displayName : String
  qualityScore : Option Nat
  eventCount : Nat
  lastEventAt : Option DateTime
  recoveryEvents : Nat
  matchedRecoveries : Nat
  standalone : Nat
  attributable : Nat
  unattendedIncidents : Nat
  unmatchedRecovery : Option UnmatchedFinding

def attributableRecoveries (accumulator : SourceAccumulator) : Nat :=
  accumulator.recoveryCount - accumulator.standaloneRecoveryCount

/-- The part of `_source_findings` about the recoveries that missed their incident. -/
def unmatchedFinding (accumulator : SourceAccumulator) : Option UnmatchedFinding :=
  let unmatched := attributableRecoveries accumulator - accumulator.matchedRecoveryCount
  if accumulator.eventCount = 0 ∨ unmatched = 0 then none
  else some ⟨unmatched, accumulator.unmatchedSamples⟩

def sourcePayload (accumulator : SourceAccumulator) : SourcePayload where
  sourceKey := accumulator.key
  source := accumulator.source
  sourceConnectionId := accumulator.sourceConnectionId
  displayName := accumulator.displayName
  qualityScore :=
    if accumulator.eventCount = 0 then none else some (env.score accumulator.key)
  eventCount := accumulator.eventCount
  lastEventAt := accumulator.lastEventAt
  recoveryEvents := accumulator.recoveryCount
  matchedRecoveries := accumulator.matchedRecoveryCount
  standalone := accumulator.standaloneRecoveryCount
  attributable := attributableRecoveries accumulator
  unattendedIncidents := accumulator.unattendedIncidents
  unmatchedRecovery := unmatchedFinding accumulator

/-- The order of the list: sources without a score come last. -/
def ListedBefore (first second : SourcePayload) : Prop :=
  first.qualityScore.isSome ∧ second.qualityScore.isNone ∨
    first.qualityScore.isSome = second.qualityScore.isSome ∧
      (first.qualityScore.getD 101 < second.qualityScore.getD 101 ∨
        first.qualityScore.getD 101 = second.qualityScore.getD 101 ∧
          (second.eventCount < first.eventCount ∨
            second.eventCount = first.eventCount ∧
              env.lower first.displayName ≤ env.lower second.displayName))

instance : DecidableRel (ListedBefore env) := fun _ _ =>
  inferInstanceAs (Decidable (_ ∧ _ ∨ _ ∧ (_ ∨ _ ∧ (_ ∨ _ ∧ _))))

def sortedSources : List SourcePayload :=
  ((accumulators env query tables).map fun entry => sourcePayload env entry.2).insertionSort
    (ListedBefore env)

/-- `sources` of `get_alert_quality_overview`. -/
def listedSources : List SourcePayload :=
  (sortedSources env query tables).take query.sourceLimit

end Overview

end AlertQuality

end WebhookWise
