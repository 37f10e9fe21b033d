import WebhookWise.IncidentMemberships

/-!
# The identity of an incident's members

The dimensions of an incident gather those of its members, and an alert that joins is
checked against them, so any two members agree.  A recovery that names no rule is scored
by the dimensions it shares alone and is not checked: it can close an incident of another
environment and become its member.
-/

namespace WebhookWise

open SqlTable

namespace IncidentGrouping

variable (python : PythonRuntime)

/-- Members of one incident come from one source connection and have one value for each
dimension. -/
def RespectsIdentity (database : GroupingDatabase) : Prop :=
  ∀ first ∈ database.members, ∀ second ∈ database.members,
    first.incidentId = second.incidentId →
      ∀ left right, database.alerts.lookup first.eventId = some left →
        database.alerts.lookup second.eventId = some right →
          left.sourceConnectionId = right.sourceConnectionId ∧
            ∀ dimension ∈ identityKeys, ∀ leftValue rightValue,
              (correlationDimensions python left).get? dimension = some leftValue →
                (correlationDimensions python right).get? dimension = some rightValue →
                  leftValue = rightValue

def recoveryConflicts (settings : GroupingSettings) (session : GroupingSession) (turn : Turn) :
    Bool :=
  !isSyntheticSource python settings turn.alert.source && isRecoveryEvent python turn.alert &&
    eventRuleName python turn.alert = "" &&
      (findRecoveryIncident python turn.alert (session.objects session.recoverable)).any
        fun incident =>
          dimensionsConflict (correlationDimensions python turn.alert) incident.correlationDimensions

/-- No recovery of a scan conflicts with the incident it is matched to. -/
def RecoveriesAgree (database : GroupingDatabase) : GroupingEvent → Prop
  | .arrive _ => True
  | .scan input =>
      GuardedRuns.Along (processAlert python input.settings)
        (fun session turn => recoveryConflicts python input.settings session turn = false)
        (openedSession input database) (turns input database)

instance (database : GroupingDatabase) (event : GroupingEvent) :
    Decidable (RecoveriesAgree python database event) :=
  match event with
  | .arrive _ => inferInstanceAs (Decidable True)
  | .scan _ => GuardedRuns.decidableAlong _ _

/-! ## The gathered dimensions -/

variable {event : WebhookEvent}

theorem get?_mergeDimensions (dimensions others : PyDict String) (key : String) :
    (mergeDimensions dimensions others).get? key = (dimensions.get? key).or (others.get? key) := by
  induction others generalizing dimensions with
  | nil => simp [mergeDimensions, PyDict.get?]
  | cons entry others ih =>
      have rest := ih (setDefault dimensions entry.1 entry.2)
      rw [mergeDimensions] at rest
      rw [mergeDimensions, List.foldl_cons, rest, get?_setDefault, Option.or_assoc]
      congr 1
      by_cases same : key = entry.1
      · simp [PyDict.get?, same]
      · simp [PyDict.get?, same, Ne.symm same]

theorem get?_correlationDimensions {key value : String}
    (found : (correlationDimensions python event).get? key = some value) :
    key ∈ identityKeys ∧ value ≠ "" := by
  obtain ⟨entry, entryFound, rfl⟩ := Option.map_eq_some_iff.1 found
  have member := List.mem_of_find?_eq_some entryFound
  have named : entry.1 = key := by simpa using List.find?_some entryFound
  rw [← named]
  exact mem_correlationDimensions python member

/-! ## The invariant -/

variable {incident : Incident} {settings : GroupingSettings}

/-- The members of an incident have its connection, and its dimensions are theirs. -/
structure SharesIdentity (incident : Incident) (alerts : List WebhookEvent) : Prop where
  connection : ∀ alert ∈ alerts, alert.sourceConnectionId = incident.sourceConnectionId
  dimensions : ∀ alert ∈ alerts, ∀ key value,
    (correlationDimensions python alert).get? key = some value →
      incident.correlationDimensions.get? key = some value
  nonempty : ∀ key value, incident.correlationDimensions.get? key = some value → value ≠ ""

/-- The alert does not conflict with the incident. -/
def Agrees (incident : Incident) (event : WebhookEvent) : Prop :=
  dimensionsConflict (correlationDimensions python event) incident.correlationDimensions = false

theorem SharesIdentity.congr {other : Incident} {alerts : List WebhookEvent}
    (shares : SharesIdentity python incident alerts)
    (connection : other.sourceConnectionId = incident.sourceConnectionId)
    (dimensions : other.correlationDimensions = incident.correlationDimensions) :
    SharesIdentity python other alerts := by
  constructor
  · rw [connection]
    exact shares.connection
  · rw [dimensions]
    exact shares.dimensions
  · rw [dimensions]
    exact shares.nonempty

theorem sharesIdentity_withMember {armedAt : DateTime} {alerts : List WebhookEvent}
    (shares : SharesIdentity python incident alerts)
    (connection : event.sourceConnectionId = incident.sourceConnectionId)
    (agrees : Agrees python incident event) :
    SharesIdentity python (withMember python settings armedAt event incident) (alerts ++ [event]) := by
  obtain ⟨_, _, _, equation⟩ := withMember_eq python settings armedAt event incident
  rw [equation]
  constructor
  · intro alert member
    rcases List.mem_append.1 member with old | new
    · exact shares.connection alert old
    · rw [List.mem_singleton.1 new]
      exact connection
  · intro alert member key value found
    simp only [get?_mergeDimensions]
    rcases List.mem_append.1 member with old | new
    · rw [shares.dimensions alert old key value found]
      rfl
    · obtain rfl := List.mem_singleton.1 new
      cases gathered : incident.correlationDimensions.get? key with
      | none => simpa using found
      | some known =>
          have same := dimensionsConflict_eq_false.1 agrees key
            (get?_correlationDimensions python found).1 value known found gathered
            (shares.nonempty key known gathered)
          rw [same]
          rfl
  · intro key value found
    simp only [get?_mergeDimensions] at found
    cases gathered : incident.correlationDimensions.get? key with
    | none =>
        rw [gathered] at found
        exact (get?_correlationDimensions python (by simpa using found)).2
    | some known =>
        rw [gathered] at found
        obtain rfl := Option.some.inj found
        exact shares.nonempty key known gathered

theorem sharesIdentity_created (event : WebhookEvent) (id : Nat) :
    SharesIdentity python (createIncidentFromEvent python event id) [] where
  connection alert member := by simp at member
  dimensions alert member := by simp at member
  nonempty _ _ found := (get?_correlationDimensions python found).2

theorem agrees_created (event : WebhookEvent) (id : Nat) :
    Agrees python (createIncidentFromEvent python event id) event := by
  rw [Agrees, dimensionsConflict_eq_false]
  intro key _ leftValue rightValue left right _
  have same : (correlationDimensions python event).get? key = some rightValue := right
  exact Option.some.inj (same.symm.trans left)

theorem identity_invariant :
    IncidentInvariant python (SharesIdentity python) (Agrees python) fun _ _ => True where
  opened _ _ event id :=
    sharesIdentity_withMember python (sharesIdentity_created python event id) rfl
      (agrees_created python event id)
  joined _ _ _ _ _ shares _ connection agrees :=
    sharesIdentity_withMember python shares connection agrees
  resolved _ _ _ shares := shares.congr python rfl rfl
  stamped _ _ _ shares _ := shares.congr python rfl rfl
  quieted _ _ _ shares := shares.congr python rfl rfl
  escalated _ _ _ shares := shares.congr python rfl rfl

/-! ## Who joins -/

theorem agrees_of_incidentCorrelationScore_ne_zero
    (scored : incidentCorrelationScore python event incident ≠ 0) :
    Agrees python incident event := by
  unfold incidentCorrelationScore at scored
  simp only at scored
  split at scored
  · contradiction
  · split at scored
    · contradiction
    · rename_i dimensions
      simpa [Agrees] using dimensions

theorem agrees_opened {armedAt : DateTime} {id : Nat} {candidate : WebhookEvent}
    (scored : eventPairScore python event candidate ≠ 0) :
    Agrees python
      (withMember python settings armedAt candidate (createIncidentFromEvent python candidate id))
      event := by
  have agree := (agree_of_eventPairScore_ne_zero python scored).2
  rw [dimensionsConflict_eq_false] at agree
  obtain ⟨_, _, _, equation⟩ := withMember_eq python settings armedAt candidate
    (createIncidentFromEvent python candidate id)
  rw [Agrees, equation, dimensionsConflict_eq_false]
  intro key member leftValue rightValue left right nonempty
  apply agree key member leftValue rightValue left _ nonempty
  simpa [get?_mergeDimensions, createIncidentFromEvent] using right

theorem agrees_joinedIncident {session : GroupingSession} {turn : Turn}
    (agree : recoveryConflicts python settings session turn = false)
    (joined : joinedIncident python settings session turn = some incident) :
    Agrees python incident turn.alert := by
  unfold joinedIncident at joined
  split at joined
  · contradiction
  · rename_i real
    split at joined
    · rename_i recovery
      by_cases nameless : eventRuleName python turn.alert = ""
      · simpa [recoveryConflicts, real, recovery, nameless, joined, Agrees] using agree
      · have reaches := (findRecoveryIncident_spec joined).2 nameless
        exact agrees_of_incidentCorrelationScore_ne_zero python (by omega)
    · split at joined
      · contradiction
      · split at joined
        · rename_i matchedIncident matched
          obtain rfl := Option.some.inj joined
          have reaches := (findMatchingIncident_spec matched).2
          exact agrees_of_incidentCorrelationScore_ne_zero python (by omega)
        · obtain ⟨candidate, paired, rfl⟩ := Option.map_eq_some_iff.1 joined
          have reaches := (findMatchingCandidate_spec paired).2
          exact agrees_opened python (by omega)

/-! ## Runs -/

theorem scanAdmitted_of_recoveriesAgree {input : ScanInput} {database : GroupingDatabase}
    (agree : RecoveriesAgree python database (.scan input)) :
    ScanAdmitted python (Agrees python) (fun _ _ => True) input database where
  turns := GuardedRuns.Along.mono agree fun _ _ agree =>
    ⟨fun _ joined => agrees_joinedIncident python agree joined, fun _ _ _ _ => trivial⟩
  closing _ _ _ := trivial
  escalation _ _ _ := trivial

theorem respectsIdentity_of_sound {database : GroupingDatabase}
    (sound : MembershipsSound (SharesIdentity python) database.alerts database.incidents
      database.members) : RespectsIdentity python database := by
  intro first firstMember second secondMember sameIncident left right leftFound rightFound
  obtain ⟨incident, incidentMember, idEq⟩ := sound.owned first firstMember
  have shares := sound.holds incident incidentMember
  have leftMember : left ∈ memberAlerts database.alerts database.members incident.id :=
    List.mem_filterMap.2 ⟨first, List.mem_filter.2 ⟨firstMember, by simp [idEq]⟩, leftFound⟩
  have rightMember : right ∈ memberAlerts database.alerts database.members incident.id :=
    List.mem_filterMap.2
      ⟨second, List.mem_filter.2 ⟨secondMember, by simp [idEq, sameIncident]⟩, rightFound⟩
  refine ⟨?_, fun dimension _ leftValue rightValue leftAt rightAt => ?_⟩
  · rw [shares.connection left leftMember, shares.connection right rightMember]
  · have leftGathered := shares.dimensions left leftMember dimension leftValue leftAt
    have rightGathered := shares.dimensions right rightMember dimension rightValue rightAt
    exact Option.some.inj (leftGathered.symm.trans rightGathered)

/-- In every run whose recoveries agree with the incidents they are matched to, the
members of an incident have one identity. -/
theorem members_share_identity (events : List GroupingEvent)
    (agree : GuardedRuns.Along (step python) (RecoveriesAgree python) GroupingDatabase.empty
      events) :
    RespectsIdentity python (GuardedRuns.run (step python) GroupingDatabase.empty events) := by
  apply respectsIdentity_of_sound
  apply (identity_invariant python).along
  apply agree.mono
  intro database event agree
  cases event with
  | arrive alert => trivial
  | scan input => exact scanAdmitted_of_recoveriesAgree python agree

/-- Two alerts that open an incident, and a recovery that names no rule. -/
def recoveryEvents (environment : String) : List GroupingEvent :=
  [.arrive (sampleAlert 0 "High latency" "firing" "prod" "medium"),
    .arrive (sampleAlert 1 "High latency" "firing" "prod" "medium"),
    .arrive (sampleAlert 2 "" "resolved" environment "medium"),
    .scan (sampleScan 3)]

set_option maxRecDepth 4000 in
theorem prod_recovery_shares_identity :
    (GuardedRuns.run (step .plain) GroupingDatabase.empty
        (recoveryEvents "prod")).members.length = 3 ∧
      RespectsIdentity .plain
        (GuardedRuns.run (step .plain) GroupingDatabase.empty (recoveryEvents "prod")) :=
  ⟨by decide, members_share_identity .plain (recoveryEvents "prod") (by decide)⟩

set_option maxRecDepth 4000 in
/-- The recovery of another environment becomes a member of the incident. -/
theorem staging_recovery_joins_prod_incident :
    ¬ ∀ (python : PythonRuntime) (events : List GroupingEvent),
      RespectsIdentity python (GuardedRuns.run (step python) GroupingDatabase.empty events) := by
  intro respects
  have identity := respects .plain (recoveryEvents "staging")
    ⟨1, 2, 60000000⟩ (by decide) ⟨1, 3, 120000000⟩ (by decide) rfl _ _ rfl rfl
  have sameEnvironment := identity.2 "environment" (by decide) "prod" "staging" (by decide)
    (by decide)
  exact absurd sameEnvironment (by decide)

end IncidentGrouping

end WebhookWise
