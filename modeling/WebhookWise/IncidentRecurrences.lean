import WebhookWise.IncidentScans

/-!
# Recurrences of incidents

A new incident is compared with the incidents of its service and environment resolved in the last
month, the latest first.  The alerts of all of them are read by one query, the newest first and 2000
at most, so an incident can lose its alerts to the others.
-/

namespace WebhookWise

namespace IncidentRecurrences

open IncidentGrouping

/-! ## The tables -/

/-- What the identities of an alert are made of. -/
structure AlertRow extends WebhookEvent where
  dedupKey : Option String
  alertHash : Option String

/-- A row of `incident_members` with its key. -/
structure MemberRow where
  id : Nat
  incidentId : Nat
  eventId : Nat
  eventTimestamp : DateTime
deriving DecidableEq

/-- `match_details` of a recurrence. -/
structure MatchDetails where
  service : String
  environment : String
  alertIdentity : String
  lookbackDays : Int
deriving DecidableEq

inductive RecurrenceStatus where
  | pending
  | confirmed
  | dismissed
deriving DecidableEq

/-- A row of `incident_recurrences`, whose `recurring_incident_id` is unique. -/
structure IncidentRecurrence where
  previousIncidentId : Nat
  recurringIncidentId : Nat
  status : RecurrenceStatus
  matchDetails : MatchDetails
  detectedAt : DateTime

structure AuditEntry where
  resourceId : Nat
  title : String
  action : String
  summary : String
deriving DecidableEq

/-- The tables; `events` gives the row of a key. -/
structure Database where
  incidents : List Incident
  members : List MemberRow
  events : Nat → Option AlertRow
  recurrences : List IncidentRecurrence
  audits : List AuditEntry

def lookbackDays : Int := 30

def maxCandidates : Nat := 100

def maxMemberRows : Nat := 2000

def maxCurrentMembers : Nat := 20

/-! ## Identities -/

variable (python : PythonRuntime)

def alertIdentities (event : AlertRow) : List String :=
  let named := normalizedText python (eventRuleName python event.toWebhookEvent)
  let rule :=
    if named = "" then
      normalizedText python (firstTruthyText python
        (flattenPayload python (entriesOf event.parsedData)) ["alertname", "rule_name", "rulename"])
    else named
  let source := normalizedText python event.source ++
    match event.sourceConnectionId with
    | some connection => "#source-connection:" ++ toString connection
    | none => ""
  let dedupKey := event.dedupKey.getD ""
  let alertHash := event.alertHash.getD ""
  (if rule = "" then [] else ["rule:" ++ source ++ ":" ++ rule]) ++
    (if dedupKey = "" then [] else ["dedup:" ++ source ++ ":" ++ dedupKey]) ++
    if alertHash = "" then [] else ["hash:" ++ source ++ ":" ++ alertHash]

/-- `ORDER BY event_timestamp DESC, id DESC`. -/
def latestFirst (first second : MemberRow) : Prop :=
  second.eventTimestamp < first.eventTimestamp ∨
    second.eventTimestamp = first.eventTimestamp ∧ second.id ≤ first.id

instance : DecidableRel latestFirst :=
  fun _ _ => inferInstanceAs (Decidable (_ ∨ _))

def memberRows (database : Database) (incidentIds : List Nat) : List (MemberRow × AlertRow) :=
  ((database.members.filter fun member => incidentIds.contains member.incidentId).insertionSort
    latestFirst).filterMap fun member =>
      (database.events member.eventId).map fun event => (member, event)

def currentIdentities (database : Database) (incident : Incident) (representative : AlertRow) :
    List String :=
  ((memberRows database [incident.id]).take maxCurrentMembers).foldl
    (fun identities row =>
      (alertIdentities python row.2).foldl
        (fun identities identity =>
          if identities.contains identity then identities else identities ++ [identity])
        identities)
    (alertIdentities python representative)

/-! ## Candidates -/

/-- The dimension of an incident as `_normalized` returns it. -/
def dimension (incident : Incident) (name : String) : String :=
  normalizedText python ((incident.correlationDimensions.get? name).getD "")

/-- The `WHERE` of the query for candidates. -/
def isCandidate (incident : Incident) (service environment : String) (candidate : Incident) :
    Bool :=
  candidate.id ≠ incident.id && candidate.status = .closed &&
    candidate.workflowStatus = .resolved && 0 < candidate.alertCount &&
    candidate.sourceConnectionId = incident.sourceConnectionId &&
    candidate.correlationDimensions.get? "service" = some service &&
    candidate.correlationDimensions.get? "environment" = some environment &&
    candidate.resolvedAt.any fun resolvedAt =>
      resolvedAt < incident.startedAt &&
        decide (incident.startedAt.addMinutes (-(lookbackDays * 24 * 60)) ≤ resolvedAt)

/-- `ORDER BY resolved_at DESC, id DESC`, of rows which have a `resolved_at`. -/
def lastResolvedFirst (first second : Incident) : Prop :=
  second.resolvedAt.getD 0 < first.resolvedAt.getD 0 ∨
    second.resolvedAt.getD 0 = first.resolvedAt.getD 0 ∧ second.id ≤ first.id

instance : DecidableRel lastResolvedFirst :=
  fun _ _ => inferInstanceAs (Decidable (_ ∨ _))

/-- The candidates, of the same service and environment, the last resolved first. -/
def matchingCandidates (database : Database) (incident : Incident) : List Incident :=
  let service := dimension python incident "service"
  let environment := dimension python incident "environment"
  if service = "" ∨ environment = "" then []
  else
    (((database.incidents.filter (isCandidate incident service environment)).insertionSort
      lastResolvedFirst).take maxCandidates).filter fun candidate =>
        dimension python candidate "service" = service &&
          dimension python candidate "environment" = environment

def identitiesOf (rows : List (MemberRow × AlertRow)) (incidentId : Nat) : List String :=
  (rows.filter fun row => row.1.incidentId = incidentId).flatMap fun row =>
    alertIdentities python row.2

def matchingIdentity (current previous : List String) : Option String :=
  current.find? fun identity => previous.contains identity

def readRows (database : Database) (incident : Incident) : List (MemberRow × AlertRow) :=
  (memberRows database
    ((matchingCandidates python database incident).map Incident.id)).take maxMemberRows

/-- The first candidate with one of the identities, and the identity. -/
def previousMatch (database : Database) (incident : Incident) (representative : AlertRow) :
    Option (Incident × String) :=
  let current := currentIdentities python database incident representative
  let rows := readRows python database incident
  (matchingCandidates python database incident).findSome? fun candidate =>
    (matchingIdentity current (identitiesOf python rows candidate.id)).map fun identity =>
      (candidate, identity)

/-- `detect_incident_recurrence`: the tables afterwards, and what it returns.  Without
identities nothing matches, so no query is made. -/
def detectIncidentRecurrence (database : Database) (incident : Incident)
    (representative : AlertRow) (utcnow : DateTime) : Database × Option IncidentRecurrence :=
  if incident.status ≠ .active ∨ incident.alertCount < 2 then (database, none)
  else
    match database.recurrences.find? fun recurrence =>
        recurrence.recurringIncidentId = incident.id with
    | some existing => (database, some existing)
    | none =>
        if currentIdentities python database incident representative = [] then (database, none)
        else
          match previousMatch python database incident representative with
          | none => (database, none)
          | some (previous, identity) =>
              let recurrence : IncidentRecurrence :=
                ⟨previous.id, incident.id, .pending,
                  ⟨dimension python incident "service", dimension python incident "environment",
                    identity, lookbackDays⟩, utcnow⟩
              ({ database with
                  recurrences := database.recurrences ++ [recurrence]
                  audits := database.audits ++
                    [⟨incident.id, incident.title, "recurrence_pending",
                      "Possible recurrence of incident " ++ toString previous.id ++
                        " detected"⟩] },
                some recurrence)

/-! ## The most recent match -/

/-- One of some alerts belongs to an incident and has one of the identities. -/
def SharesIdentity (rows : List (MemberRow × AlertRow)) (current : List String)
    (candidate : Incident) : Prop :=
  ∃ row ∈ rows, row.1.incidentId = candidate.id ∧
    ∃ identity ∈ alertIdentities python row.2, identity ∈ current

instance (rows : List (MemberRow × AlertRow)) (current : List String) (candidate : Incident) :
    Decidable (SharesIdentity python rows current candidate) :=
  inferInstanceAs (Decidable (∃ _ ∈ _, _))

/-- A member of an incident, whichever, has one of the identities. -/
def HasMatch (database : Database) (current : List String) (candidate : Incident) : Prop :=
  SharesIdentity python (memberRows database [candidate.id]) current candidate

instance (database : Database) (current : List String) (candidate : Incident) :
    Decidable (HasMatch python database current candidate) :=
  inferInstanceAs (Decidable (SharesIdentity ..))

def mostRecentMatch (database : Database) (incident : Incident) (representative : AlertRow) :
    Option Incident :=
  (matchingCandidates python database incident).find? fun candidate =>
    HasMatch python database (currentIdentities python database incident representative) candidate

/-- A recurrence of the most recent match is recorded, if there is one. -/
def RecordsMostRecent (database : Database) (incident : Incident) (representative : AlertRow)
    (utcnow : DateTime) : Prop :=
  ∃ recorded : Option IncidentRecurrence,
    (detectIncidentRecurrence python database incident representative utcnow).1.recurrences =
        database.recurrences ++ recorded.toList ∧
      recorded.map IncidentRecurrence.previousIncidentId =
        (mostRecentMatch python database incident representative).map Incident.id

variable {python} {database : Database} {incident : Incident} {representative : AlertRow}

theorem mem_memberRows_iff {incidentIds : List Nat} {row : MemberRow × AlertRow} :
    row ∈ memberRows database incidentIds ↔
      row.1 ∈ database.members ∧ row.1.incidentId ∈ incidentIds ∧
        database.events row.1.eventId = some row.2 := by
  unfold memberRows
  rw [List.mem_filterMap]
  constructor
  · rintro ⟨member, inside, joined⟩
    rw [List.mem_insertionSort, List.mem_filter, List.contains_iff_mem] at inside
    obtain ⟨event, found, rfl⟩ := Option.map_eq_some_iff.1 joined
    exact ⟨inside.1, inside.2, found⟩
  · rintro ⟨member, wanted, found⟩
    refine ⟨row.1, ?_, by rw [found]; rfl⟩
    rw [List.mem_insertionSort, List.mem_filter, List.contains_iff_mem]
    exact ⟨member, wanted⟩

theorem hasMatch_iff {current : List String} {candidate : Incident} {incidentIds : List Nat}
    (wanted : candidate.id ∈ incidentIds) :
    HasMatch python database current candidate ↔
      SharesIdentity python (memberRows database incidentIds) current candidate := by
  unfold HasMatch SharesIdentity
  constructor
  · rintro ⟨row, member, same, shared⟩
    obtain ⟨stored, _, found⟩ := mem_memberRows_iff.1 member
    exact ⟨row, mem_memberRows_iff.2 ⟨stored, same ▸ wanted, found⟩, same, shared⟩
  · rintro ⟨row, member, same, shared⟩
    obtain ⟨stored, _, found⟩ := mem_memberRows_iff.1 member
    exact ⟨row, mem_memberRows_iff.2 ⟨stored, by simp [same], found⟩, same, shared⟩

theorem matchingIdentity_isSome_iff {rows : List (MemberRow × AlertRow)} {current : List String}
    {candidate : Incident} :
    (matchingIdentity current (identitiesOf python rows candidate.id)).isSome = true ↔
      SharesIdentity python rows current candidate := by
  unfold matchingIdentity identitiesOf SharesIdentity
  simp only [List.find?_isSome, List.contains_iff_mem, List.mem_flatMap, List.mem_filter,
    decide_eq_true_eq]
  constructor
  · rintro ⟨identity, known, row, ⟨member, same⟩, shared⟩
    exact ⟨row, member, same, identity, shared, known⟩
  · rintro ⟨row, member, same, identity, shared, known⟩
    exact ⟨identity, known, row, ⟨member, same⟩, shared⟩

private theorem map_fst_findSome? {Item Found : Type} (search : Item → Option Found)
    (items : List Item) :
    (items.findSome? fun item => (search item).map fun found => (item, found)).map Prod.fst =
      items.find? fun item => (search item).isSome := by
  induction items with
  | nil => rfl
  | cons item items ih =>
      rw [List.findSome?_cons, List.find?_cons]
      cases search item with
      | none => exact ih
      | some found => rfl

private theorem find?_eq_of_narrower {Item : Type} {wide narrow : Item → Bool}
    {items : List Item} (narrower : ∀ item ∈ items, narrow item = true → wide item = true)
    (takes : ∀ first ∈ items.find? wide, narrow first = true) :
    items.find? narrow = items.find? wide := by
  induction items with
  | nil => rfl
  | cons item items ih =>
      have rest := fun other member => narrower other (List.mem_cons_of_mem item member)
      rw [List.find?_cons, List.find?_cons]
      cases found : wide item with
      | true =>
          have taken : narrow item = true := takes item (by simp [found])
          rw [taken]
      | false =>
          have left : narrow item = false := by
            by_contra taken
            rw [narrower item (by simp) (by simpa using taken)] at found
            cases found
          rw [left]
          exact ih rest fun first member => takes first (by simpa [found] using member)

private theorem eq_of_toList_eq {Item : Type} {first second : Option Item}
    (same : first.toList = second.toList) : first = second := by
  cases first <;> cases second <;> simp_all

variable {utcnow : DateTime}

theorem map_fst_previousMatch :
    (previousMatch python database incident representative).map Prod.fst =
      (matchingCandidates python database incident).find? fun candidate =>
        SharesIdentity python (readRows python database incident)
          (currentIdentities python database incident representative) candidate := by
  unfold previousMatch
  rw [map_fst_findSome?]
  congr 1
  funext candidate
  exact Bool.eq_iff_iff.2 (matchingIdentity_isSome_iff.trans decide_eq_true_iff.symm)

variable (python representative utcnow) in
theorem detection_records (active : incident.status = .active)
    (several : 2 ≤ incident.alertCount)
    (unexamined : ∀ recurrence ∈ database.recurrences,
      recurrence.recurringIncidentId ≠ incident.id) :
    ∃ recorded : Option IncidentRecurrence,
      (detectIncidentRecurrence python database incident representative utcnow).1.recurrences =
          database.recurrences ++ recorded.toList ∧
        recorded.map IncidentRecurrence.previousIncidentId =
          ((previousMatch python database incident representative).map Prod.fst).map
            Incident.id := by
  have absent : (database.recurrences.find? fun recurrence =>
      recurrence.recurringIncidentId = incident.id) = none := by
    rw [List.find?_eq_none]
    exact fun recurrence member => by simp [unexamined recurrence member]
  have guard : ¬ (incident.status ≠ .active ∨ incident.alertCount < 2) := by
    simp only [active, ne_eq, not_true_eq_false, false_or]
    omega
  unfold detectIncidentRecurrence
  rw [if_neg guard, absent]
  by_cases nameless : currentIdentities python database incident representative = []
  · refine ⟨none, by simp [nameless], ?_⟩
    rw [map_fst_previousMatch]
    simp [nameless, SharesIdentity]
  · cases found : previousMatch python database incident representative with
    | none => exact ⟨none, by simp [nameless], rfl⟩
    | some pair =>
        refine ⟨some ⟨pair.1.id, incident.id, .pending, ⟨dimension python incident "service",
          dimension python incident "environment", pair.2, lookbackDays⟩, utcnow⟩, ?_, rfl⟩
        simp [nameless]

theorem RecordsMostRecent.find? (active : incident.status = .active)
    (several : 2 ≤ incident.alertCount)
    (unexamined : ∀ recurrence ∈ database.recurrences,
      recurrence.recurringIncidentId ≠ incident.id)
    (records : RecordsMostRecent python database incident representative utcnow) :
    ((matchingCandidates python database incident).find? fun candidate =>
        SharesIdentity python (readRows python database incident)
          (currentIdentities python database incident representative) candidate).map Incident.id =
      (mostRecentMatch python database incident representative).map Incident.id := by
  obtain ⟨recorded, appended, answer⟩ :=
    detection_records python representative utcnow active several unexamined
  obtain ⟨other, sameAppended, mostRecent⟩ := records
  have sameRecord : recorded = other :=
    eq_of_toList_eq (List.append_cancel_left (appended.symm.trans sameAppended))
  rw [map_fst_previousMatch] at answer
  rw [← answer, sameRecord, mostRecent]

/-- The most recent match is recorded exactly when the alerts that are read of it, 2000 of all
candidates together, have one of the identities. -/
theorem recordsMostRecent_iff (active : incident.status = .active)
    (several : 2 ≤ incident.alertCount)
    (unexamined : ∀ recurrence ∈ database.recurrences,
      recurrence.recurringIncidentId ≠ incident.id) :
    RecordsMostRecent python database incident representative utcnow ↔
      ∀ previous ∈ mostRecentMatch python database incident representative,
        SharesIdentity python (readRows python database incident)
          (currentIdentities python database incident representative) previous := by
  have narrower : ∀ candidate ∈ matchingCandidates python database incident,
      SharesIdentity python (readRows python database incident)
          (currentIdentities python database incident representative) candidate →
        HasMatch python database
          (currentIdentities python database incident representative) candidate := by
    rintro candidate member ⟨row, read, same, shared⟩
    refine (hasMatch_iff (List.mem_map_of_mem member)).2 ⟨row, ?_, same, shared⟩
    exact List.mem_of_mem_take read
  have sameMatch (takes : ∀ previous ∈ mostRecentMatch python database incident representative,
      SharesIdentity python (readRows python database incident)
        (currentIdentities python database incident representative) previous) :
      ((matchingCandidates python database incident).find? fun candidate =>
        SharesIdentity python (readRows python database incident)
          (currentIdentities python database incident representative) candidate) =
        mostRecentMatch python database incident representative :=
    find?_eq_of_narrower
      (fun candidate member shared =>
        decide_eq_true (narrower candidate member (of_decide_eq_true shared)))
      fun first found => decide_eq_true (takes first found)
  constructor
  · intro records previous found
    have same := records.find? active several unexamined
    rw [Option.mem_def.1 found, Option.map_some] at same
    obtain ⟨taken, first, sameId⟩ := Option.map_eq_some_iff.1 same
    have shares := List.find?_some first
    obtain ⟨row, read, belongs, shared⟩ := of_decide_eq_true shares
    exact ⟨row, read, belongs.trans sameId, shared⟩
  · intro takes
    obtain ⟨recorded, appended, answer⟩ :=
      detection_records python representative utcnow active several unexamined
    rw [map_fst_previousMatch, sameMatch takes] at answer
    exact ⟨recorded, appended, answer⟩

theorem sharesIdentity_of_short
    (short : (memberRows database ((matchingCandidates python database incident).map
      Incident.id)).length ≤ maxMemberRows) {previous : Incident}
    (mostRecent : previous ∈ mostRecentMatch python database incident representative) :
    SharesIdentity python (readRows python database incident)
      (currentIdentities python database incident representative) previous := by
  have candidate := List.mem_of_find?_eq_some mostRecent
  have matched := List.find?_some mostRecent
  rw [decide_eq_true_iff, hasMatch_iff (List.mem_map_of_mem candidate)] at matched
  rwa [readRows, List.take_of_length_le short]

/-! ## A crowd -/

/-- An incident of the service `checkout`. -/
def checkoutIncident (id : Nat) (status : IncidentStatus) (workflowStatus : WorkflowStatus)
    (startedAt : DateTime) (resolvedAt : Option DateTime) : Incident where
  id := id
  title := "checkout"
  status := status
  source := some "grafana"
  sourceConnectionId := none
  startedAt := startedAt
  endedAt := resolvedAt
  alertCount := 2
  topImportance := none
  workflowStatus := workflowStatus
  acknowledgedAt := none
  resolvedAt := resolvedAt
  slaDueAt := none
  escalatedAt := none
  correlationDimensions := [("service", "checkout"), ("environment", "prod")]
  correlationConfidence := 100
  updatedAt := none

def newIncident : Incident :=
  checkoutIncident 1 .active .opened 1000 none

def resolvedIncident (id : Nat) (resolvedAt : DateTime) : Incident :=
  checkoutIncident id .closed .resolved 0 (some resolvedAt)

def ruleAlert (rule : String) (id : Nat) : AlertRow where
  id := id
  source := "grafana"
  sourceConnectionId := none
  timestamp := 0
  parsedData := some (.dict [("RuleName", .str rule)])
  aiAnalysis := none
  importance := none
  dedupKey := none
  alertHash := none

def recurringDatabase : Database where
  incidents := [newIncident, resolvedIncident 2 900, resolvedIncident 3 800, resolvedIncident 4 950]
  members := [⟨1, 2, 2, 100⟩, ⟨2, 3, 3, 100⟩, ⟨3, 4, 4, 100⟩, ⟨4, 1, 1, 1000⟩]
  events id :=
    if id = 4 then some (ruleAlert "disk" id)
    else if id < 4 then some (ruleAlert "cpu" id)
    else none
  recurrences := []
  audits := []

/-- Two resolved incidents have an alert of the rule, and one resolved after them has none. -/
theorem recordsMostRecent_recurring :
    RecordsMostRecent .plain recurringDatabase newIncident (ruleAlert "cpu" 1) 1000 := by
  refine (recordsMostRecent_iff rfl (by decide) (by simp [recurringDatabase])).2 ?_
  exact fun previous mostRecent => sharesIdentity_of_short (by decide +kernel) mostRecent

/-- Two thousand alerts of another rule, two hundred for each of ten incidents. -/
def crowd : List MemberRow :=
  (List.range 2000).map fun index => ⟨4000 - index, 3 + index / 200, 10 + index, 500⟩

/-- The alert that the incident which was resolved last has in common with the new one. -/
def oldMember : MemberRow :=
  ⟨1, 2, 2, 100⟩

/-- The incident that was resolved last has an older alert than the ten before it. -/
def crowdedDatabase : Database where
  incidents := [newIncident, resolvedIncident 2 900] ++
    (List.range 10).map fun index => resolvedIncident (3 + index) 800
  members := crowd ++ [oldMember, ⟨5000, 1, 1, 1000⟩]
  events id :=
    if id = 1 ∨ id = 2 then some (ruleAlert "cpu" id)
    else if id < 2010 then some (ruleAlert "disk" id)
    else none
  recurrences := []
  audits := []

def crowdedIds : List Nat :=
  [2, 12, 11, 10, 9, 8, 7, 6, 5, 4, 3]

theorem crowdedIds_of_mem_crowd {member : MemberRow} (inside : member ∈ crowd) :
    crowdedIds.contains member.incidentId = true := by
  obtain ⟨index, bound, rfl⟩ := List.mem_map.1 inside
  have small := List.mem_range.1 bound
  have among : 3 + index / 200 = 3 ∨ 3 + index / 200 = 4 ∨ 3 + index / 200 = 5 ∨
      3 + index / 200 = 6 ∨ 3 + index / 200 = 7 ∨ 3 + index / 200 = 8 ∨ 3 + index / 200 = 9 ∨
      3 + index / 200 = 10 ∨ 3 + index / 200 = 11 ∨ 3 + index / 200 = 12 := by
    omega
  rcases among with id | id | id | id | id | id | id | id | id | id <;> simp [crowdedIds, id]

theorem events_of_mem_crowd {member : MemberRow} (inside : member ∈ crowd) :
    crowdedDatabase.events member.eventId = some (ruleAlert "disk" member.eventId) := by
  obtain ⟨index, bound, rfl⟩ := List.mem_map.1 inside
  have small := List.mem_range.1 bound
  have other : ¬ (10 + index = 1 ∨ 10 + index = 2) := by omega
  have stored : 10 + index < 2010 := by omega
  exact (if_neg other).trans (if_pos stored)

theorem pairwise_crowd : (crowd ++ [oldMember]).Pairwise latestFirst := by
  refine List.pairwise_append.2 ⟨?_, List.pairwise_singleton _ _, ?_⟩
  · refine List.pairwise_map.2 (List.pairwise_lt_range.imp ?_)
    intro first second before
    exact Or.inr ⟨rfl, Nat.sub_le_sub_left before.le 4000⟩
  · intro member inside last isLast
    obtain ⟨index, _, rfl⟩ := List.mem_map.1 inside
    rw [List.mem_singleton.1 isLast]
    have earlier : (100 : Int) < 500 := by decide
    exact Or.inl earlier

theorem memberRows_crowded : memberRows crowdedDatabase crowdedIds =
    (crowd.map fun member => (member, ruleAlert "disk" member.eventId)) ++
      [(oldMember, ruleAlert "cpu" 2)] := by
  have wanted : (crowdedDatabase.members.filter fun member =>
      crowdedIds.contains member.incidentId) = crowd ++ [oldMember] := by
    change (crowd ++ [oldMember, _]).filter _ = _
    rw [List.filter_append, List.filter_eq_self.2 fun _ => crowdedIds_of_mem_crowd]
    rfl
  have joined : (crowd.filterMap fun member =>
      (crowdedDatabase.events member.eventId).map fun event => (member, event)) =
        crowd.map fun member => (member, ruleAlert "disk" member.eventId) := by
    rw [← List.filterMap_eq_map']
    exact List.filterMap_congr fun member inside => by rw [events_of_mem_crowd inside]; rfl
  unfold memberRows
  rw [wanted, pairwise_crowd.insertionSort_eq, List.filterMap_append, joined]
  rfl

theorem currentIdentities_crowded :
    currentIdentities .plain crowdedDatabase newIncident (ruleAlert "cpu" 1) =
      ["rule:grafana:cpu"] := by
  have others : (crowd.filter fun member => [1].contains member.incidentId) = [] := by
    refine List.filter_eq_nil_iff.2 fun member inside same => ?_
    obtain ⟨index, _, rfl⟩ := List.mem_map.1 inside
    have id : 3 + index / 200 = 1 := by simpa using same
    omega
  have own : memberRows crowdedDatabase [1] = [(⟨5000, 1, 1, 1000⟩, ruleAlert "cpu" 1)] := by
    have wanted : (crowdedDatabase.members.filter fun member =>
        [1].contains member.incidentId) = [⟨5000, 1, 1, 1000⟩] := by
      change (crowd ++ [oldMember, _]).filter _ = _
      rw [List.filter_append, others]
      rfl
    unfold memberRows
    rw [wanted]
    rfl
  have identities : alertIdentities .plain (ruleAlert "cpu" 1) = ["rule:grafana:cpu"] := by
    decide +kernel
  unfold currentIdentities
  change (((memberRows crowdedDatabase [1]).take _).foldl _ _) = _
  rw [own, identities]
  decide +kernel

theorem alertIdentities_disk (id : Nat) :
    alertIdentities .plain (ruleAlert "disk" id) = ["rule:grafana:disk"] := by
  change alertIdentities .plain (ruleAlert "disk" 0) = _
  decide +kernel

/-- The most recent match loses its alert to the others, and no recurrence is recorded. -/
theorem crowd_hides_match :
    ¬ RecordsMostRecent .plain crowdedDatabase newIncident (ruleAlert "cpu" 1) 1000 := by
  have ids : (matchingCandidates .plain crowdedDatabase newIncident).map Incident.id =
      crowdedIds := by
    decide +kernel
  have read : readRows .plain crowdedDatabase newIncident =
      crowd.map fun member => (member, ruleAlert "disk" member.eventId) := by
    have length : (crowd.map fun member =>
        (member, ruleAlert "disk" member.eventId)).length = maxMemberRows := by
      simp [crowd, maxMemberRows]
    rw [readRows, ids, memberRows_crowded, ← length, List.take_left]
  have nothing : (matchingCandidates .plain crowdedDatabase newIncident).find? (fun candidate =>
      SharesIdentity .plain (readRows .plain crowdedDatabase newIncident)
        (currentIdentities .plain crowdedDatabase newIncident (ruleAlert "cpu" 1)) candidate) =
      none := by
    refine List.find?_eq_none.2 fun candidate _ shares => ?_
    obtain ⟨row, member, _, identity, ofRow, ofIncident⟩ := of_decide_eq_true shares
    rw [read] at member
    obtain ⟨_, _, rfl⟩ := List.mem_map.1 member
    rw [alertIdentities_disk, List.mem_singleton] at ofRow
    rw [currentIdentities_crowded, List.mem_singleton, ofRow] at ofIncident
    exact absurd ofIncident (by decide)
  have matched : mostRecentMatch .plain crowdedDatabase newIncident (ruleAlert "cpu" 1) ≠ none := by
    obtain ⟨candidate, member, id⟩ := List.mem_map.1 (ids ▸ (by decide : 2 ∈ crowdedIds))
    intro missed
    refine List.find?_eq_none.1 missed candidate member (decide_eq_true ?_)
    have among : candidate.id ∈ crowdedIds := by rw [id]; decide
    rw [hasMatch_iff among, memberRows_crowded, currentIdentities_crowded]
    refine ⟨(oldMember, ruleAlert "cpu" 2), by simp, id.symm, "rule:grafana:cpu", ?_, by simp⟩
    decide +kernel
  intro records
  have same := records.find? rfl (by decide) (by simp [crowdedDatabase])
  rw [nothing] at same
  exact matched (Option.map_eq_none_iff.1 same.symm)

end IncidentRecurrences

end WebhookWise
