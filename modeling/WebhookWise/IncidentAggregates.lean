import WebhookWise.IncidentIdentity

/-!
# The aggregates of an incident

The number of members is always right.  The highest importance is only kept from falling once it is
high, an alert dated before the incident does not move its start, and a flush can stamp the incident
with a clock that is behind its alerts.
-/

namespace WebhookWise

open SqlTable

namespace IncidentGrouping

variable (python : PythonRuntime)

def knownRank (importance : Option String) : Option Nat :=
  importance.bind importanceRank

def knownRanks (database : GroupingDatabase) (incident : Incident) : List Nat :=
  (memberAlerts database.alerts database.members incident.id).filterMap fun alert =>
    knownRank alert.importance

def membersOf (database : GroupingDatabase) (incident : Incident) : List IncidentMember :=
  database.members.filter fun member => member.incidentId = incident.id

structure DescribesMembers (database : GroupingDatabase) (incident : Incident) : Prop where
  count : incident.alertCount = (membersOf database incident).length
  bounded : incident.alertCount ≤ maxMembersPerIncident
  highest : ∀ rank, (knownRanks database incident).max? = some rank →
    knownRank incident.topImportance = some rank
  started : ∀ member ∈ membersOf database incident, incident.startedAt ≤ member.eventTimestamp
  updated : incident.status = .active → ∃ updatedAt, incident.updatedAt = some updatedAt ∧
    ∀ member ∈ membersOf database incident, member.eventTimestamp ≤ updatedAt

/-! ## The condition -/

/-- Low, medium and high in this order, above every other importance. -/
def importanceLevel (importance : Option String) : Nat :=
  ((knownRank importance).map Nat.succ).getD 0

/-- The alert is not dated before the incident and not less important than its top. -/
def JoinsInOrder (incident : Incident) (event : WebhookEvent) : Prop :=
  incident.startedAt ≤ event.timestamp ∧
    (incident.topImportance = some "high" ∨
      importanceLevel incident.topImportance ≤ importanceLevel event.importance)

/-- The clock that stamps an active incident is not behind it. -/
def StampsInOrder (incident : Incident) (now : DateTime) : Prop :=
  incident.status = .active → ∀ updatedAt ∈ incident.updatedAt, updatedAt ≤ now

instance (incident : Incident) (event : WebhookEvent) : Decidable (JoinsInOrder incident event) :=
  inferInstanceAs (Decidable (_ ∧ _))

instance (incident : Incident) (now : DateTime) : Decidable (StampsInOrder incident now) :=
  inferInstanceAs (Decidable (_ → _))

/-! ## Importances -/

theorem importanceLevel_le (importance : Option String) : importanceLevel importance ≤ 3 := by
  unfold importanceLevel knownRank
  cases importance with
  | none => simp
  | some text =>
      simp only [Option.bind_some]
      unfold importanceRank
      split <;> simp

theorem importanceLevel_high : importanceLevel (some "high") = 3 :=
  rfl

theorem knownRank_eq_some_iff {importance : Option String} {rank : Nat} :
    knownRank importance = some rank ↔ importanceLevel importance = rank + 1 := by
  unfold importanceLevel
  cases knownRank importance with
  | none | some => simp

/-! ## The invariant -/

/-- The top importance is that of a member, and of a member of the highest level. -/
structure Describes (incident : Incident) (alerts : List WebhookEvent) : Prop where
  count : incident.alertCount = alerts.length
  bounded : incident.alertCount ≤ maxMembersPerIncident
  attained : ∃ alert ∈ alerts, alert.importance = incident.topImportance
  highest : ∀ alert ∈ alerts,
    importanceLevel alert.importance ≤ importanceLevel incident.topImportance
  started : ∀ alert ∈ alerts, incident.startedAt ≤ alert.timestamp
  updated : incident.status = .active → ∃ updatedAt, incident.updatedAt = some updatedAt ∧
    ∀ alert ∈ alerts, alert.timestamp ≤ updatedAt

variable {python} {settings : GroupingSettings} {armedAt : DateTime} {incident : Incident}
  {alerts : List WebhookEvent} {event : WebhookEvent}

theorem describes_opened (id : Nat) :
    Describes (withMember python settings armedAt event (createIncidentFromEvent python event id))
      [event] := by
  obtain ⟨_, _, _, equation⟩ := withMember_eq python settings armedAt event
    (createIncidentFromEvent python event id)
  rw [equation]
  constructor
  · rfl
  · exact show 1 ≤ 200 by decide
  · exact ⟨event, by simp, (ite_self event.importance).symm⟩
  · intro alert member
    rw [List.mem_singleton.1 member]
    exact le_of_eq (congrArg importanceLevel (ite_self event.importance).symm)
  · simp [createIncidentFromEvent]
  · intro _
    exact ⟨_, rfl, by simp⟩

theorem importanceLevel_joinedImportance (inOrder : JoinsInOrder incident event) :
    importanceLevel event.importance ≤ importanceLevel (joinedImportance incident event) ∧
      importanceLevel incident.topImportance ≤ importanceLevel (joinedImportance incident event) := by
  unfold joinedImportance
  split
  · rename_i replaced
    refine ⟨le_refl _, ?_⟩
    rcases replaced with high | notHigh
    · rw [high, importanceLevel_high]
      exact importanceLevel_le _
    · exact inOrder.2.resolve_left notHigh
  · rename_i kept
    rw [not_or, not_not] at kept
    refine ⟨?_, le_refl _⟩
    rw [kept.2, importanceLevel_high]
    exact importanceLevel_le _

theorem describes_joined (describes : Describes incident alerts)
    (notFull : incident.alertCount < maxMembersPerIncident) (inOrder : JoinsInOrder incident event) :
    Describes (withMember python settings armedAt event incident) (alerts ++ [event]) := by
  obtain ⟨eventLevel, topLevel⟩ := importanceLevel_joinedImportance inOrder
  obtain ⟨_, _, _, equation⟩ := withMember_eq python settings armedAt event incident
  rw [equation]
  constructor
  · simp [describes.count]
  · exact notFull
  · unfold joinedImportance
    split
    · exact ⟨event, by simp, rfl⟩
    · obtain ⟨alert, member, same⟩ := describes.attained
      exact ⟨alert, List.mem_append_left _ member, same⟩
  · intro alert member
    rcases List.mem_append.1 member with old | new
    · exact (describes.highest alert old).trans topLevel
    · rw [List.mem_singleton.1 new]
      exact eventLevel
  · intro alert member
    rcases List.mem_append.1 member with old | new
    · exact describes.started alert old
    · rw [List.mem_singleton.1 new]
      exact inOrder.1
  · intro active
    obtain ⟨updatedAt, updatedEq, latest⟩ := describes.updated active
    refine ⟨_, rfl, fun alert member => ?_⟩
    rw [updatedEq]
    rcases List.mem_append.1 member with old | new
    · exact (latest alert old).trans (le_max_left _ _)
    · rw [List.mem_singleton.1 new]
      exact le_max_right _ _

theorem Describes.of_not_active {other : Incident} (describes : Describes incident alerts)
    (count : other.alertCount = incident.alertCount)
    (top : other.topImportance = incident.topImportance)
    (started : other.startedAt = incident.startedAt) (notActive : other.status ≠ .active) :
    Describes other alerts := by
  constructor
  · rw [count, describes.count]
  · rw [count]
    exact describes.bounded
  · rw [top]
    exact describes.attained
  · rw [top]
    exact describes.highest
  · rw [started]
    exact describes.started
  · intro active
    exact absurd active notActive

theorem describes_stamped {now : DateTime} (describes : Describes incident alerts)
    (inOrder : StampsInOrder incident now) : Describes (stamped now incident) alerts := by
  refine ⟨describes.count, describes.bounded, describes.attained, describes.highest,
    describes.started, fun active => ⟨now, rfl, fun alert member => ?_⟩⟩
  obtain ⟨updatedAt, updatedEq, latest⟩ := describes.updated active
  calc
    alert.timestamp ≤ updatedAt := latest alert member
    _ ≤ now := inOrder active updatedAt updatedEq

theorem aggregates_invariant : IncidentInvariant python Describes JoinsInOrder StampsInOrder where
  opened _ _ _ id := describes_opened id
  joined _ _ _ _ _ describes notFull _ inOrder := describes_joined describes notFull inOrder
  resolved _ _ _ describes := describes.of_not_active rfl rfl rfl (by simp [resolvedFromRecovery])
  stamped _ _ _ describes inOrder := describes_stamped describes inOrder
  quieted _ _ _ describes := describes.of_not_active rfl rfl rfl (by simp [quieted])
  escalated _ _ _ describes :=
    ⟨describes.count, describes.bounded, describes.attained, describes.highest,
      describes.started, describes.updated⟩

/-! ## Runs -/

theorem length_memberAlerts {database : GroupingDatabase}
    (known : ∀ member ∈ database.members, ∃ alert,
      database.alerts.lookup member.eventId = some alert ∧ member.eventTimestamp = alert.timestamp) :
    (memberAlerts database.alerts database.members incident.id).length =
      (membersOf database incident).length := by
  rw [memberAlerts, List.length_filterMap_eq_countP, membersOf, List.countP_eq_length]
  intro member present
  obtain ⟨alert, found, -⟩ := known member (List.mem_filter.1 present).1
  rw [found]
  rfl

theorem describesMembers_of_sound {database : GroupingDatabase}
    (sound : MembershipsSound Describes database.alerts database.incidents database.members)
    (member : incident ∈ database.incidents.rows) : DescribesMembers database incident := by
  have describes := sound.holds incident member
  have alertOf : ∀ row ∈ membersOf database incident,
      ∃ alert ∈ memberAlerts database.alerts database.members incident.id,
        row.eventTimestamp = alert.timestamp := by
    intro row rowMember
    obtain ⟨alert, found, sameTime⟩ := sound.known row (List.mem_filter.1 rowMember).1
    exact ⟨alert, List.mem_filterMap.2 ⟨row, rowMember, found⟩, sameTime⟩
  constructor
  · rw [describes.count, length_memberAlerts sound.known]
  · exact describes.bounded
  · intro rank greatest
    obtain ⟨rankMember, upper⟩ := List.max?_eq_some_iff.1 greatest
    obtain ⟨alert, alertMember, rankEq⟩ := List.mem_filterMap.1 rankMember
    obtain ⟨topAlert, topMember, sameTop⟩ := describes.attained
    have atLeast : rank + 1 ≤ importanceLevel incident.topImportance := by
      rw [← knownRank_eq_some_iff.1 rankEq]
      exact describes.highest alert alertMember
    obtain ⟨topRank, topRankEq⟩ : ∃ topRank, knownRank incident.topImportance = some topRank := by
      obtain ⟨topRank, level⟩ := Nat.exists_eq_add_of_le' atLeast
      exact ⟨topRank + rank, knownRank_eq_some_iff.2 (by omega)⟩
    have atMost : topRank ≤ rank := by
      apply upper topRank
      exact List.mem_filterMap.2 ⟨topAlert, topMember, by rw [sameTop, topRankEq]⟩
    have level := knownRank_eq_some_iff.1 topRankEq
    rw [topRankEq]
    congr 1
    omega
  · intro row rowMember
    obtain ⟨alert, alertMember, sameTime⟩ := alertOf row rowMember
    rw [sameTime]
    exact describes.started alert alertMember
  · intro active
    obtain ⟨updatedAt, updatedEq, latest⟩ := describes.updated active
    refine ⟨updatedAt, updatedEq, fun row rowMember => ?_⟩
    obtain ⟨alert, alertMember, sameTime⟩ := alertOf row rowMember
    rw [sameTime]
    exact latest alert alertMember

/-- In every run in which alerts join in order and no stamp is behind, the aggregates of
every incident describe its members. -/
theorem aggregates_describe_members (python : PythonRuntime) (events : List GroupingEvent)
    (inOrder : GuardedRuns.Along (step python) (StepAdmitted python JoinsInOrder StampsInOrder)
      GroupingDatabase.empty events) :
    ∀ incident ∈ (GuardedRuns.run (step python) GroupingDatabase.empty events).incidents.rows,
      DescribesMembers (GuardedRuns.run (step python) GroupingDatabase.empty events) incident :=
  fun _ member => describesMembers_of_sound (aggregates_invariant.along inOrder) member

/-- Two alerts of one rule, which open an incident. -/
def pairEvents (first second : String) : List GroupingEvent :=
  [.arrive (sampleAlert 0 "High latency" "firing" "prod" first),
    .arrive (sampleAlert 1 "High latency" "firing" "prod" second),
    .scan (sampleScan 3)]

set_option maxRecDepth 4000 in
theorem rising_importance_described :
    (GuardedRuns.run (step .plain) GroupingDatabase.empty
        (pairEvents "low" "medium")).incidents.rows.length = 1 ∧
      ∀ incident ∈ (GuardedRuns.run (step .plain) GroupingDatabase.empty
          (pairEvents "low" "medium")).incidents.rows,
        DescribesMembers (GuardedRuns.run (step .plain) GroupingDatabase.empty
          (pairEvents "low" "medium")) incident :=
  ⟨by decide, aggregates_describe_members .plain (pairEvents "low" "medium") (by decide)⟩

set_option maxRecDepth 4000 in
/-- A low alert takes the place of a medium one at the top. -/
theorem low_alert_lowers_top_importance :
    ¬ ∀ (python : PythonRuntime) (events : List GroupingEvent),
      ∀ incident ∈ (GuardedRuns.run (step python) GroupingDatabase.empty events).incidents.rows,
        DescribesMembers (GuardedRuns.run (step python) GroupingDatabase.empty events) incident := by
  intro describes
  obtain ⟨incident, member, low, ranks⟩ :
      ∃ incident ∈ (GuardedRuns.run (step .plain) GroupingDatabase.empty
          (pairEvents "medium" "low")).incidents.rows,
        knownRank incident.topImportance = some 0 ∧
          (knownRanks (GuardedRuns.run (step .plain) GroupingDatabase.empty
            (pairEvents "medium" "low")) incident).max? = some 1 := by
    decide
  have top := (describes .plain (pairEvents "medium" "low") incident member).highest 1 ranks
  rw [low] at top
  exact absurd top (by decide)

end IncidentGrouping

end WebhookWise
