import WebhookWise.IncidentAggregates

/-!
# Merging and splitting incidents

An operator merges incidents into one, or splits alerts off into a new one.  Both move
rows of `incident_members` and then recompute the aggregates of the incidents involved
from the alerts that are members by then.  A commit writes the rows that have changed,
and stamps `updated_at` where it has not been given a new value.
-/

namespace WebhookWise

open SqlTable

namespace IncidentGrouping

deriving instance DecidableEq for Incident

variable (python : PythonRuntime)

/-! ## Aggregates -/

variable (now : DateTime) (alerts : Table WebhookEvent.id)

/-- `ORDER BY timestamp, id`. -/
def OlderAlert (first second : WebhookEvent) : Prop :=
  first.timestamp < second.timestamp ∨ first.timestamp = second.timestamp ∧ first.id ≤ second.id

instance : DecidableRel OlderAlert :=
  fun _ _ => inferInstanceAs (Decidable (_ ∨ _))

/-- The members of an incident as `_refresh_incident_aggregate` selects them. -/
def memberEvents (members : List IncidentMember) (incidentId : Nat) : List WebhookEvent :=
  (memberAlerts alerts members incidentId).insertionSort OlderAlert

/-- `ranks.get(str(value), 0)`. -/
def aggregateRank : String → Nat
  | "low" => 1
  | "medium" => 2
  | "high" => 3
  | _ => 0

/-- The rank of an importance that is not empty. -/
def aggregateScore (event : WebhookEvent) : Option Nat :=
  (event.importance.filter (· ≠ "")).map aggregateRank

/-- The first importance with the highest rank, among those that are not empty. -/
def topImportanceOf (events : List WebhookEvent) : Option String :=
  (firstBest 0 aggregateScore events).bind WebhookEvent.importance

/-- `_refresh_incident_aggregate`, given the selected members. -/
def refreshIncidentAggregate (events : List WebhookEvent) (incident : Incident) : Incident :=
  match events.head?, events.getLast? with
  | some first, some last =>
      { incident with
        alertCount := events.length
        startedAt := first.timestamp
        updatedAt := some last.timestamp
        source :=
          if events.all fun event => event.source = first.source then some first.source
          else some "multiple"
        topImportance := topImportanceOf events }
  | _, _ => { incident with alertCount := 0 }

/-- The row a commit writes for an object that was loaded as `before`. -/
def committed (before after : Incident) : Incident :=
  if after ≠ before ∧ after.updatedAt = before.updatedAt then stamped now after else after

/-! ## Merges -/

/-- One call of `merge_incidents`, with the instants at which its rows are flushed. -/
structure MergeCall where
  destinationId : Nat
  sourceIds : List Nat
  now : DateTime
  flushedAt : Nat → DateTime

def mergedAway (source : Incident) : Incident :=
  { source with
    status := .closed
    workflowStatus := .resolved
    resolvedAt := some now
    endedAt := some (source.endedAt.getD now)
    alertCount := 0 }

/-- `UPDATE incident_members SET incident_id = … WHERE …`. -/
def moveMembers (members : List IncidentMember) (selected : IncidentMember → Bool)
    (incidentId : Nat) : List IncidentMember :=
  members.map fun member =>
    if selected member then { member with incidentId := incidentId } else member

def mergedMembers (database : GroupingDatabase) (call : MergeCall) : List IncidentMember :=
  moveMembers database.members (fun member => member.incidentId ∈ call.sourceIds)
    call.destinationId

def refreshedRow (members : List IncidentMember) (flushedAt : Nat → DateTime)
    (incident : Incident) : Incident :=
  committed (flushedAt incident.id) incident
    (refreshIncidentAggregate (memberEvents alerts members incident.id) incident)

def mergedSource (call : MergeCall) (source : Incident) : Incident :=
  committed (call.flushedAt source.id) source (mergedAway call.now source)

theorem refreshIncidentAggregate_id (events : List WebhookEvent) (incident : Incident) :
    (refreshIncidentAggregate events incident).id = incident.id := by
  unfold refreshIncidentAggregate
  split <;> rfl

theorem committed_id (before after : Incident) : (committed now before after).id = after.id := by
  unfold committed
  split <;> rfl

theorem mergedSource_id (call : MergeCall) (source : Incident) :
    (mergedSource call source).id = source.id :=
  committed_id _ _ _

theorem refreshedRow_id (members : List IncidentMember) (flushedAt : Nat → DateTime)
    (incident : Incident) : (refreshedRow alerts members flushedAt incident).id = incident.id := by
  rw [refreshedRow, committed_id, refreshIncidentAggregate_id]

/-- `merge_incidents`; `none` when it returns `None`. -/
def mergeIncidents (database : GroupingDatabase) (call : MergeCall) : Option GroupingDatabase :=
  match database.incidents.lookup call.destinationId with
  | none => none
  | some _ =>
      if call.destinationId ∈ call.sourceIds ∨
          (database.incidents.rows.filter fun incident => incident.id ∈ call.sourceIds).length ≠
            call.sourceIds.length then
        none
      else
        let members := mergedMembers database call
        let closed := database.incidents.update (fun incident => incident.id ∈ call.sourceIds)
          (mergedSource call) (mergedSource_id call)
        some
          { alerts := database.alerts
            incidents := closed.update (fun incident => incident.id = call.destinationId)
              (refreshedRow database.alerts members call.flushedAt)
              (refreshedRow_id database.alerts members call.flushedAt)
            members := members }

/-! ## Splits -/

/-- One call of `split_incident`. -/
structure SplitCall where
  sourceId : Nat
  eventIds : List Nat
  now : DateTime
  flushedAt : Nat → DateTime

def isSplitOff (call : SplitCall) (member : IncidentMember) : Bool :=
  member.incidentId = call.sourceId ∧ member.eventId ∈ call.eventIds

/-- `ORDER BY event_timestamp, id`, of rows listed by their ids. -/
def EarlierMember (first second : IncidentMember) : Prop :=
  first.eventTimestamp ≤ second.eventTimestamp

instance : DecidableRel EarlierMember :=
  fun first second => inferInstanceAs (Decidable (first.eventTimestamp ≤ second.eventTimestamp))

def splitOffAlerts (database : GroupingDatabase) (call : SplitCall) : List WebhookEvent :=
  ((database.members.filter (isSplitOff call)).insertionSort EarlierMember).filterMap fun member =>
    database.alerts.lookup member.eventId

/-- The row a split inserts for its first alert, under the id the `INSERT` gives it. -/
def incidentOfSplit (firstEvent : WebhookEvent) (now : DateTime) (id : Nat) : Incident :=
  let ruleName := eventRuleName python firstEvent
  let title := (if firstEvent.source = "" then "unknown" else firstEvent.source) ++ " incident"
  { id := id
    title := if ruleName = "" then title else title ++ " — " ++ ruleName
    status := .active
    source := some firstEvent.source
    sourceConnectionId := none
    startedAt := firstEvent.timestamp
    endedAt := none
    alertCount := 0
    topImportance := firstEvent.importance
    workflowStatus := .opened
    acknowledgedAt := none
    resolvedAt := none
    slaDueAt := none
    escalatedAt := none
    correlationDimensions := correlationDimensions python firstEvent
    correlationConfidence := 100
    updatedAt := some now }

theorem incidentOfSplit_id (firstEvent : WebhookEvent) (now : DateTime) (id : Nat) :
    (incidentOfSplit python firstEvent now id).id = id :=
  rfl

def splitMembers (database : GroupingDatabase) (call : SplitCall) : List IncidentMember :=
  moveMembers database.members (isSplitOff call) database.incidents.nextKey

/-- `split_incident`; `none` when it returns `None`, and when `members[0]` does not exist. -/
def splitIncident (database : GroupingDatabase) (call : SplitCall) : Option GroupingDatabase :=
  match database.incidents.lookup call.sourceId with
  | none => none
  | some source =>
      let moved := splitOffAlerts database call
      if moved.length ≠ call.eventIds.length ∨ source.alertCount ≤ moved.length then none
      else
        match moved.head? with
        | none => none
        | some firstEvent =>
            let members := splitMembers database call
            let inserted := database.incidents.insert (incidentOfSplit python firstEvent call.now)
              (incidentOfSplit_id python firstEvent call.now)
            let refresh := refreshedRow database.alerts members call.flushedAt
            let keeps := refreshedRow_id database.alerts members call.flushedAt
            some
              { alerts := database.alerts
                incidents :=
                  (inserted.update (fun incident => incident.id = call.sourceId) refresh
                    keeps).update (fun incident => incident.id = database.incidents.nextKey)
                    refresh keeps
                members := members }

/-! ## Runs -/

inductive IncidentEvent where
  | grouping (event : GroupingEvent)
  | merge (call : MergeCall)
  | split (call : SplitCall)

def edited (database : GroupingDatabase) : IncidentEvent → GroupingDatabase
  | .grouping event => step python database event
  | .merge call => (mergeIncidents database call).getD database
  | .split call => (splitIncident python database call).getD database

/-! ## Aggregates that were recomputed -/

variable {last : WebhookEvent}

private theorem older_total (firstTime secondTime : Int) (firstId secondId : Nat) :
    (firstTime < secondTime ∨ firstTime = secondTime ∧ firstId ≤ secondId) ∨
      (secondTime < firstTime ∨ secondTime = firstTime ∧ secondId ≤ firstId) := by
  omega

private theorem older_trans {firstTime secondTime thirdTime : Int} {firstId secondId thirdId : Nat}
    (firstOlder : firstTime < secondTime ∨ firstTime = secondTime ∧ firstId ≤ secondId)
    (secondOlder : secondTime < thirdTime ∨ secondTime = thirdTime ∧ secondId ≤ thirdId) :
    firstTime < thirdTime ∨ firstTime = thirdTime ∧ firstId ≤ thirdId := by
  omega

instance : Std.Total OlderAlert where
  total first second := older_total first.timestamp second.timestamp first.id second.id

instance : IsTrans WebhookEvent OlderAlert where
  trans _ _ _ := older_trans

theorem OlderAlert.le {first second : WebhookEvent} (older : OlderAlert first second) :
    first.timestamp ≤ second.timestamp := by
  rcases older with before | ⟨same, -⟩
  · exact le_of_lt before
  · exact le_of_eq same

/-- The count, the instants and the importance of an incident are those of these alerts. -/
structure DescribedBy (incident : Incident) (alerts : List WebhookEvent) : Prop where
  count : incident.alertCount = alerts.length
  started : ∀ alert ∈ alerts, incident.startedAt ≤ alert.timestamp
  startedBy : alerts ≠ [] → ∃ alert ∈ alerts, incident.startedAt = alert.timestamp
  updatedBy : alerts ≠ [] → ∃ last ∈ alerts, incident.updatedAt = some last.timestamp ∧
    ∀ alert ∈ alerts, alert.timestamp ≤ last.timestamp
  highest : ∀ alert ∈ alerts,
    importanceLevel alert.importance ≤ importanceLevel incident.topImportance
  attained : alerts ≠ [] → incident.topImportance = none ∨
    ∃ alert ∈ alerts, alert.importance = incident.topImportance

theorem importanceLevel_some (importance : String) :
    importanceLevel (some importance) = aggregateRank importance := by
  simp only [importanceLevel, knownRank, Option.bind_some]
  unfold importanceRank aggregateRank
  split <;> simp_all

theorem topImportanceOf_spec (events : List WebhookEvent) :
    (∀ alert ∈ events,
        importanceLevel alert.importance ≤ importanceLevel (topImportanceOf events)) ∧
      (topImportanceOf events = none ∨
        ∃ alert ∈ events, alert.importance = topImportanceOf events) := by
  constructor
  · intro alert member
    cases importance : alert.importance with
    | none => exact Nat.zero_le _
    | some text =>
        by_cases blank : text = ""
        · subst blank
          exact Nat.zero_le _
        · have scored : aggregateScore alert = some (aggregateRank text) := by
            simp [aggregateScore, importance, Option.filter, blank]
          obtain ⟨best, highest, found, bestScored, le⟩ :=
            exists_firstBest member scored (Nat.zero_le _)
          obtain ⟨bestText, bestEq, rfl⟩ := Option.map_eq_some_iff.1 bestScored
          have bestImportance : best.importance = some bestText :=
            (Option.filter_eq_some_iff.1 bestEq).1
          rw [topImportanceOf, found, Option.bind_some, bestImportance, importanceLevel_some,
            importanceLevel_some]
          exact le
  · cases found : firstBest 0 aggregateScore events with
    | none => exact Or.inl (by rw [topImportanceOf, found]; rfl)
    | some best =>
        right
        exact ⟨best, (firstBest_spec found).1, by rw [topImportanceOf, found]; rfl⟩

section Refreshed

variable {alerts events : List WebhookEvent} {incident : Incident}

theorem DescribedBy.perm {other : List WebhookEvent} (described : DescribedBy incident alerts)
    (perm : alerts.Perm other) :
    DescribedBy incident other where
  count := described.count.trans perm.length_eq
  started alert member := described.started alert (perm.mem_iff.2 member)
  startedBy some_ := by
    obtain ⟨alert, member, same⟩ :=
      described.startedBy fun none => some_ (List.perm_nil.1 (none ▸ perm).symm)
    exact ⟨alert, perm.mem_iff.1 member, same⟩
  updatedBy some_ := by
    obtain ⟨last, member, same, latest⟩ :=
      described.updatedBy fun none => some_ (List.perm_nil.1 (none ▸ perm).symm)
    exact ⟨last, perm.mem_iff.1 member, same, fun alert member => latest alert (perm.mem_iff.2 member)⟩
  highest alert member := described.highest alert (perm.mem_iff.2 member)
  attained some_ := by
    have attained := described.attained fun none => some_ (List.perm_nil.1 (none ▸ perm).symm)
    exact attained.imp_right fun ⟨alert, member, same⟩ => ⟨alert, perm.mem_iff.1 member, same⟩

theorem le_getLast_of_sorted (sorted : events.Pairwise OlderAlert)
    (isLast : events.getLast? = some last) :
    ∀ alert ∈ events, alert.timestamp ≤ last.timestamp := by
  obtain ⟨earlier, rfl⟩ := List.getLast?_eq_some_iff.1 isLast
  intro alert member
  rcases List.mem_append.1 member with before | same
  · exact ((List.pairwise_append.1 sorted).2.2 alert before last (by simp)).le
  · rw [List.mem_singleton.1 same]

theorem refreshIncidentAggregate_of_last (incident : Incident)
    (isLast : events.getLast? = some last) :
    ∃ first source, events.head? = some first ∧ refreshIncidentAggregate events incident =
      { incident with
        alertCount := events.length
        startedAt := first.timestamp
        updatedAt := some last.timestamp
        source := source
        topImportance := topImportanceOf events } := by
  cases isFirst : events.head? with
  | none =>
      rw [List.head?_eq_none_iff.1 isFirst] at isLast
      cases isLast
  | some first => exact ⟨first, _, rfl, by rw [refreshIncidentAggregate, isFirst, isLast]⟩

theorem describedBy_of_last (incident : Incident) (sorted : events.Pairwise OlderAlert)
    (isLast : events.getLast? = some last) :
    DescribedBy (refreshIncidentAggregate events incident) events := by
  obtain ⟨first, source, isFirst, equation⟩ :=
    refreshIncidentAggregate_of_last incident isLast
  obtain ⟨rest, rfl⟩ : ∃ rest, events = first :: rest := List.head?_eq_some_iff.1 isFirst
  have top := topImportanceOf_spec (first :: rest)
  rw [equation]
  refine ⟨rfl, ?_, fun _ => ⟨first, by simp, rfl⟩,
    fun _ => ⟨last, List.mem_of_getLast? isLast, rfl, le_getLast_of_sorted sorted isLast⟩,
    top.1, fun _ => top.2⟩
  intro alert member
  rcases List.mem_cons.1 member with rfl | later
  · exact le_refl alert.timestamp
  · exact (List.rel_of_pairwise_cons sorted later).le

/-- The commit would stamp an incident whose `updated_at` is that of its latest alert already,
with a clock that reads otherwise. -/
def StampedApart (events : List WebhookEvent) (now : DateTime) (incident : Incident) : Prop :=
  refreshIncidentAggregate events incident ≠ incident ∧
    ∃ last, events.getLast? = some last ∧ incident.updatedAt = some last.timestamp ∧
      now ≠ last.timestamp

/-- Recomputed and committed aggregates describe the sorted alerts just when the commit does
not stamp the incident apart from them. -/
theorem describedBy_committed_iff {now : DateTime} (sorted : events.Pairwise OlderAlert) :
    DescribedBy (committed now incident (refreshIncidentAggregate events incident)) events ↔
      ¬ StampedApart events now incident := by
  cases isLast : events.getLast? with
  | none =>
      obtain rfl := List.getLast?_eq_none_iff.1 isLast
      have count : (committed now incident (refreshIncidentAggregate [] incident)).alertCount =
          0 := by
        unfold committed
        split <;> rfl
      have described : DescribedBy (committed now incident (refreshIncidentAggregate [] incident))
          [] := by
        constructor <;> simp [count]
      simp [described, StampedApart]
  | some last =>
      have described := describedBy_of_last incident sorted isLast
      obtain ⟨first, source, -, equation⟩ :=
        refreshIncidentAggregate_of_last incident isLast
      have updatedAt : (refreshIncidentAggregate events incident).updatedAt =
          some last.timestamp := by rw [equation]
      have latest := le_getLast_of_sorted sorted isLast
      have lastMember := List.mem_of_getLast? isLast
      unfold committed
      by_cases isStamped : refreshIncidentAggregate events incident ≠ incident ∧
          (refreshIncidentAggregate events incident).updatedAt = incident.updatedAt
      · rw [if_pos isStamped]
        constructor
        · rintro stampedDescribed ⟨-, other, otherLast, -, apart⟩
          rw [isLast] at otherLast
          cases otherLast
          obtain ⟨alert, member, same, alertLatest⟩ :=
            stampedDescribed.updatedBy (List.ne_nil_of_mem lastMember)
          have sameInstant : alert.timestamp = last.timestamp :=
            le_antisymm (latest alert member) (alertLatest last lastMember)
          exact apart ((Option.some.inj same).trans sameInstant)
        · intro together
          have onTime : now = last.timestamp := by
            by_contra apart
            exact together ⟨isStamped.1, last, isLast, isStamped.2 ▸ updatedAt, apart⟩
          have unmoved : stamped now (refreshIncidentAggregate events incident) =
              refreshIncidentAggregate events incident := by
            rw [stamped, onTime, ← updatedAt]
          rw [unmoved]
          exact described
      · rw [if_neg isStamped]
        refine ⟨fun _ apart => isStamped ⟨apart.1, ?_⟩, fun _ => described⟩
        obtain ⟨-, other, otherLast, sameInstant, -⟩ := apart
        rw [isLast] at otherLast
        cases otherLast
        rw [updatedAt, sameInstant]

end Refreshed

end IncidentGrouping

end WebhookWise
