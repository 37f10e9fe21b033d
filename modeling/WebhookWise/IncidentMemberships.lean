import WebhookWise.GuardedRuns
import WebhookWise.IncidentScans

/-!
# Invariants of an incident and its members

A property of an incident and its members is invariant over all scans if opening an incident
establishes it and each kind of change preserves it.  Two conditions may restrict the changes: on an
alert that joins, and on the clock that stamps.
-/

namespace WebhookWise

open SqlTable

namespace IncidentGrouping

/-! ## Matching -/

variable {incident : Incident}

section FirstBest

variable {Item : Type} {floor : Nat} {score : Item → Option Nat}

theorem mem_foldl_keepBetter {items : List Item} {start : Option (Nat × Item)}
    {found : Nat × Item} (kept : items.foldl (keepBetter floor score) start = some found) :
    start = some found ∨ (found.2 ∈ items ∧ score found.2 = some found.1 ∧ floor ≤ found.1) := by
  induction items generalizing start with
  | nil => exact Or.inl kept
  | cons item items ih =>
      rcases ih kept with here | ⟨later, scored, reaches⟩
      · unfold keepBetter at here
        split at here
        · exact Or.inl here
        · rename_i value scoreEq
          split at here
          · rename_i better
            obtain rfl := Option.some.inj here
            exact Or.inr ⟨by simp, scoreEq, better.1⟩
          · exact Or.inl here
      · exact Or.inr ⟨List.mem_cons_of_mem _ later, scored, reaches⟩

/-- The best item is one of the items, and reaches the floor. -/
theorem firstBest_spec {items : List Item} {item : Item}
    (best : firstBest floor score items = some item) :
    item ∈ items ∧ ∃ value, score item = some value ∧ floor ≤ value := by
  obtain ⟨found, foundEq, rfl⟩ := Option.map_eq_some_iff.1 best
  rcases mem_foldl_keepBetter foundEq with impossible | ⟨member, scored, reaches⟩
  · contradiction
  · exact ⟨member, found.1, scored, reaches⟩

theorem foldl_keepBetter_le {items : List Item} {start : Option (Nat × Item)} :
    (∀ found, start = some found → ∃ kept, items.foldl (keepBetter floor score) start = some kept ∧
        found.1 ≤ kept.1) ∧
      ∀ item ∈ items, ∀ value, score item = some value → floor ≤ value →
        ∃ kept, items.foldl (keepBetter floor score) start = some kept ∧ value ≤ kept.1 := by
  induction items generalizing start with
  | nil => exact ⟨fun found here => ⟨found, here, le_rfl⟩, by simp⟩
  | cons first items ih =>
      have keeps : ∀ found, start = some found →
          ∃ next, keepBetter floor score start first = some next ∧ found.1 ≤ next.1 := by
        intro found here
        unfold keepBetter
        split
        · exact ⟨found, here, le_rfl⟩
        · split
          · rename_i better
            rw [here] at better
            exact ⟨_, rfl, (of_decide_eq_true better.2).le⟩
          · exact ⟨found, here, le_rfl⟩
      constructor
      · intro found here
        obtain ⟨next, nextEq, le⟩ := keeps found here
        obtain ⟨kept, keptEq, nextLe⟩ := ih.1 next nextEq
        exact ⟨kept, keptEq, le.trans nextLe⟩
      · intro item member value scored reaches
        rcases List.mem_cons.1 member with rfl | later
        · obtain ⟨next, nextEq, le⟩ :
              ∃ next, keepBetter floor score start item = some next ∧ value ≤ next.1 := by
            cases start with
            | none => exact ⟨(value, item), by simp [keepBetter, scored, reaches], le_rfl⟩
            | some found =>
                by_cases better : found.1 < value
                · exact ⟨(value, item), by simp [keepBetter, scored, reaches, better], le_rfl⟩
                · exact ⟨found, by simp [keepBetter, scored, better], not_lt.1 better⟩
          obtain ⟨kept, keptEq, nextLe⟩ := ih.1 next nextEq
          exact ⟨kept, keptEq, le.trans nextLe⟩
        · exact ih.2 item later value scored reaches

/-- An item that reaches the floor leaves a best one, which scores no less. -/
theorem exists_firstBest {items : List Item} {item : Item} (member : item ∈ items) {value : Nat}
    (scored : score item = some value) (reaches : floor ≤ value) :
    ∃ best highest, firstBest floor score items = some best ∧ score best = some highest ∧
      value ≤ highest := by
  have bounded : ∃ kept, items.foldl (keepBetter floor score) none = some kept ∧ value ≤ kept.1 :=
    foldl_keepBetter_le.2 item member value scored reaches
  obtain ⟨kept, keptEq, le⟩ := bounded
  rcases mem_foldl_keepBetter keptEq with impossible | ⟨-, keptScored, -⟩
  · contradiction
  · exact ⟨kept.2, kept.1, by rw [firstBest, keptEq]; rfl, keptScored, le⟩

end FirstBest

variable (python : PythonRuntime)

section Matchers

variable {python} {event : WebhookEvent}

theorem findMatchingIncident_spec {incidents : List Incident}
    (matched : findMatchingIncident python event incidents = some incident) :
    incident ∈ incidents ∧ 65 ≤ incidentCorrelationScore python event incident := by
  obtain ⟨member, value, scored, reaches⟩ := firstBest_spec matched
  simp only [Option.ite_none_left_eq_some, Option.ite_none_right_eq_some, Option.some.injEq]
    at scored
  refine ⟨member, ?_⟩
  rw [scored.2.2]
  exact reaches

theorem findMatchingCandidate_spec {candidates : List WebhookEvent} {candidate : WebhookEvent}
    (matched : findMatchingCandidate python event candidates = some candidate) :
    candidate ∈ candidates ∧ 65 ≤ eventPairScore python event candidate := by
  obtain ⟨member, value, scored, reaches⟩ := firstBest_spec matched
  simp only [Option.ite_none_left_eq_some, Option.some.injEq] at scored
  refine ⟨List.mem_reverse.1 member, ?_⟩
  rw [scored.2]
  exact reaches

theorem findRecoveryIncident_spec {incidents : List Incident}
    (matched : findRecoveryIncident python event incidents = some incident) :
    incident ∈ incidents ∧
      (eventRuleName python event ≠ "" → 80 ≤ incidentCorrelationScore python event incident) := by
  unfold findRecoveryIncident at matched
  simp only [Option.ite_none_left_eq_some] at matched
  obtain ⟨member, value, scored, reaches⟩ := firstBest_spec matched.2
  refine ⟨member, fun named => ?_⟩
  simp only [Option.ite_none_left_eq_some, if_pos named, Option.some.injEq] at scored
  rw [scored.2.2.2]
  exact reaches

end Matchers

theorem mem_of_mem_objects {session : GroupingSession} {ids : List Nat}
    (member : incident ∈ session.objects ids) : incident ∈ session.incidents.rows := by
  obtain ⟨id, -, found⟩ := List.mem_filterMap.1 member
  exact (Table.lookup_eq_some_iff.1 found).1

def joinedIncident (settings : GroupingSettings) (session : GroupingSession) (turn : Turn) :
    Option Incident :=
  if isSyntheticSource python settings turn.alert.source then none
  else if isRecoveryEvent python turn.alert then
    findRecoveryIncident python turn.alert (session.objects session.recoverable)
  else if !importanceOpensIncident python turn.alert.importance
      (incidentMinImportance python settings.incidentMinImportance) then none
  else
    match findMatchingIncident python turn.alert (session.objects session.active) with
    | some incident => some incident
    | none =>
        (findMatchingCandidate python turn.alert session.candidates).map fun candidate =>
          withMember python settings turn.armedAt candidate
            (createIncidentFromEvent python candidate session.incidents.nextKey)

def opensIncident (settings : GroupingSettings) (session : GroupingSession) (turn : Turn) : Bool :=
  !isSyntheticSource python settings turn.alert.source && !isRecoveryEvent python turn.alert &&
    importanceOpensIncident python turn.alert.importance
      (incidentMinImportance python settings.incidentMinImportance) &&
    (findMatchingIncident python turn.alert (session.objects session.active)).isNone &&
    (findMatchingCandidate python turn.alert session.candidates).isSome

/-! ## The rule -/

variable {event : WebhookEvent}

/-- What makes a property of an incident and its members invariant. -/
structure IncidentInvariant (Holds : Incident → List WebhookEvent → Prop)
    (Joins : Incident → WebhookEvent → Prop) (Stamps : Incident → DateTime → Prop) : Prop where
  opened : ∀ settings armedAt event id,
    Holds (withMember python settings armedAt event (createIncidentFromEvent python event id))
      [event]
  joined : ∀ settings armedAt incident alerts event, Holds incident alerts →
    incident.alertCount < maxMembersPerIncident →
      event.sourceConnectionId = incident.sourceConnectionId → Joins incident event →
        Holds (withMember python settings armedAt event incident) (alerts ++ [event])
  resolved : ∀ incident alerts event, Holds incident alerts →
    Holds (resolvedFromRecovery event incident) alerts
  stamped : ∀ incident alerts now, Holds incident alerts → Stamps incident now →
    Holds (stamped now incident) alerts
  quieted : ∀ incident alerts now, Holds incident alerts → Holds (quieted now incident) alerts
  escalated : ∀ incident alerts now, Holds incident alerts → Holds (escalated now incident) alerts

variable {python}

def memberAlerts (alerts : Table WebhookEvent.id) (members : List IncidentMember)
    (incidentId : Nat) : List WebhookEvent :=
  (members.filter fun member => member.incidentId = incidentId).filterMap fun member =>
    alerts.lookup member.eventId

/-- The property holds of every incident, and every member belongs to an incident and
is an alert. -/
structure MembershipsSound (Holds : Incident → List WebhookEvent → Prop)
    (alerts : Table WebhookEvent.id) (incidents : Table Incident.id)
    (members : List IncidentMember) : Prop where
  holds : ∀ incident ∈ incidents.rows, Holds incident (memberAlerts alerts members incident.id)
  owned : ∀ member ∈ members, ∃ incident ∈ incidents.rows, incident.id = member.incidentId
  known : ∀ member ∈ members, ∃ alert, alerts.lookup member.eventId = some alert ∧
    member.eventTimestamp = alert.timestamp

section Memberships

variable {Holds : Incident → List WebhookEvent → Prop} {alerts : Table WebhookEvent.id}
  {incidents : Table Incident.id} {members : List IncidentMember}

theorem memberAlerts_append {id : Nat} (found : alerts.lookup event.id = some event) (other : Nat) :
    memberAlerts alerts (members ++ [⟨id, event.id, event.timestamp⟩]) other =
      if id = other then memberAlerts alerts members other ++ [event]
      else memberAlerts alerts members other := by
  unfold memberAlerts
  rw [List.filter_append, List.filterMap_append]
  split
  · rename_i same
    simp [same, found]
  · rename_i different
    simp [different]

theorem memberAlerts_eq_nil {id : Nat} (free : ∀ member ∈ members, member.incidentId ≠ id) :
    memberAlerts alerts members id = [] := by
  have none : members.filter (fun member => member.incidentId = id) = [] := by
    rw [List.filter_eq_nil_iff]
    intro member present
    simpa using free member present
  rw [memberAlerts, none]
  rfl

theorem MembershipsSound.update {guard : Incident → Bool} {change : Incident → Incident}
    (keeps : ∀ incident, (change incident).id = incident.id)
    (sound : MembershipsSound Holds alerts incidents members)
    (changes : ∀ incident ∈ incidents.rows, guard incident = true → ∀ joined,
      Holds incident joined → Holds (change incident) joined) :
    MembershipsSound Holds alerts (incidents.update guard change keeps) members := by
  constructor
  · intro incident member
    obtain ⟨old, oldMember, rfl⟩ := Table.mem_update.1 member
    split
    · rw [keeps]
      exact changes old oldMember ‹_› _ (sound.holds old oldMember)
    · exact sound.holds old oldMember
  · intro member present
    obtain ⟨incident, incidentMember, idEq⟩ := sound.owned member present
    refine ⟨_, Table.mem_update.2 ⟨incident, incidentMember, rfl⟩, ?_⟩
    split
    · rw [keeps, idEq]
    · exact idEq
  · exact sound.known

theorem membershipsSound_join {change : Incident → Incident}
    (keeps : ∀ incident, (change incident).id = incident.id)
    (found : incidents.lookup incident.id = some incident)
    (event_known : alerts.lookup event.id = some event)
    (others : ∀ other ∈ incidents.rows, other.id ≠ incident.id →
      Holds other (memberAlerts alerts members other.id))
    (owned : ∀ member ∈ members, ∃ incident ∈ incidents.rows, incident.id = member.incidentId)
    (known : ∀ member ∈ members, ∃ alert, alerts.lookup member.eventId = some alert ∧
      member.eventTimestamp = alert.timestamp)
    (joins : Holds (change incident) (memberAlerts alerts members incident.id ++ [event])) :
    MembershipsSound Holds alerts
      (incidents.update (fun other => other.id = incident.id) change keeps)
      (members ++ [⟨incident.id, event.id, event.timestamp⟩]) := by
  have incidentMember : incident ∈ incidents.rows := (Table.lookup_eq_some_iff.1 found).1
  constructor
  · intro row rowMember
    obtain ⟨old, oldMember, rfl⟩ := Table.mem_update.1 rowMember
    by_cases same : old.id = incident.id
    · obtain rfl : old = incident := Table.eq_of_key_eq oldMember incidentMember same
      simp only [decide_true, if_true]
      rw [keeps, memberAlerts_append event_known, if_pos rfl]
      exact joins
    · simp only [same, decide_false, Bool.false_eq_true, if_false]
      rw [memberAlerts_append event_known, if_neg (Ne.symm same)]
      exact others old oldMember same
  · intro member present
    have ownedBy : ∃ owner ∈ incidents.rows, owner.id = member.incidentId := by
      rcases List.mem_append.1 present with old | new
      · exact owned member old
      · obtain rfl := List.mem_singleton.1 new
        exact ⟨incident, incidentMember, rfl⟩
    obtain ⟨owner, ownerMember, idEq⟩ := ownedBy
    refine ⟨_, Table.mem_update.2 ⟨owner, ownerMember, rfl⟩, ?_⟩
    split
    · rw [keeps, idEq]
    · exact idEq
  · intro member present
    rcases List.mem_append.1 present with old | new
    · exact known member old
    · obtain rfl := List.mem_singleton.1 new
      exact ⟨event, event_known, rfl⟩

theorem MembershipsSound.arrive {build : Nat → WebhookEvent}
    (keyed : ∀ fresh, (build fresh).id = fresh)
    (sound : MembershipsSound Holds alerts incidents members) :
    MembershipsSound Holds (alerts.insert build keyed) incidents members := by
  have known : ∀ member ∈ members,
      (alerts.insert build keyed).lookup member.eventId = alerts.lookup member.eventId := by
    intro member present
    obtain ⟨alert, found, -⟩ := sound.known member present
    rw [found, Table.lookup_insert_of_some found]
  have sameAlerts (id : Nat) :
      memberAlerts (alerts.insert build keyed) members id = memberAlerts alerts members id := by
    apply List.filterMap_congr
    intro member present
    exact known member (List.mem_filter.1 present).1
  refine ⟨fun incident member => ?_, sound.owned, fun member present => ?_⟩
  · rw [sameAlerts]
    exact sound.holds incident member
  · rw [known member present]
    exact sound.known member present

end Memberships

/-! ## One alert -/

variable (candidate : WebhookEvent)

section Turns

variable {Holds : Incident → List WebhookEvent → Prop} {Joins : Incident → WebhookEvent → Prop}
  {Stamps : Incident → DateTime → Prop} {alerts : Table WebhookEvent.id}
  {settings : GroupingSettings} {session : GroupingSession} {turn : Turn}

open GroupingSession

structure SessionSound (Holds : Incident → List WebhookEvent → Prop)
    (alerts : Table WebhookEvent.id) (session : GroupingSession) : Prop where
  memberships : MembershipsSound Holds alerts session.incidents session.members
  candidates : ∀ candidate ∈ session.candidates, alerts.lookup candidate.id = some candidate

structure TurnAdmitted (python : PythonRuntime) (Joins : Incident → WebhookEvent → Prop)
    (Stamps : Incident → DateTime → Prop) (settings : GroupingSettings)
    (session : GroupingSession) (turn : Turn) : Prop where
  joins : ∀ incident ∈ joinedIncident python settings session turn, Joins incident turn.alert
  stamps : opensIncident python settings session turn = true →
    ∀ incident ∈ session.incidents.rows, session.isStamped incident = true →
      Stamps incident (turn.flushedAt incident.id)

instance [∀ incident event, Decidable (Joins incident event)]
    [∀ incident now, Decidable (Stamps incident now)] :
    Decidable (TurnAdmitted python Joins Stamps settings session turn) :=
  decidable_of_iff
    ((∀ incident ∈ joinedIncident python settings session turn, Joins incident turn.alert) ∧
      (opensIncident python settings session turn = true →
        ∀ incident ∈ session.incidents.rows, session.isStamped incident = true →
          Stamps incident (turn.flushedAt incident.id)))
    ⟨fun both => ⟨both.1, both.2⟩, fun admitted => ⟨admitted.joins, admitted.stamps⟩⟩

theorem sound_flush (invariant : IncidentInvariant python Holds Joins Stamps)
    {flushedAt : Nat → DateTime}
    (sound : MembershipsSound Holds alerts session.incidents session.members)
    (stamps : ∀ incident ∈ session.incidents.rows, session.isStamped incident = true →
      Stamps incident (flushedAt incident.id)) :
    MembershipsSound Holds alerts (session.flush flushedAt).incidents session.members := by
  apply sound.update
  · exact fun _ => rfl
  · intro incident member isStamped joined holds
    exact invariant.stamped incident joined _ holds (stamps incident member isStamped)

/-- What `_add_event_to_incident` leaves when it accepts the alert. -/
def withJoined (python : PythonRuntime) (settings : GroupingSettings) (armedAt : DateTime)
    (session : GroupingSession) (incident : Incident) (event : WebhookEvent) : GroupingSession :=
  { session.modify incident (withMember python settings armedAt event)
      (withMember_id python settings armedAt event) with
    members := session.members ++ [⟨incident.id, event.id, event.timestamp⟩] }

theorem addEventToIncident_of_accepts {armedAt : DateTime}
    (found : session.incidents.lookup incident.id = some incident)
    (notFull : incident.alertCount < maxMembersPerIncident)
    (connection : event.sourceConnectionId = incident.sourceConnectionId) :
    addEventToIncident python settings armedAt session incident.id event =
      (withJoined python settings armedAt session incident event, true) := by
  have accepts : ¬ (maxMembersPerIncident ≤ incident.alertCount ∨
      sourceConnectionConflicts event.sourceConnectionId incident.sourceConnectionId = true) := by
    rw [not_or, not_le, Bool.not_eq_true]
    exact ⟨notFull, sourceConnectionConflicts_eq_false.2 connection⟩
  unfold addEventToIncident
  rw [found]
  simp only
  rw [if_neg accepts]
  rfl

theorem addEventToIncident_cases (python : PythonRuntime) (settings : GroupingSettings)
    (armedAt : DateTime) (event : WebhookEvent)
    (found : session.incidents.lookup incident.id = some incident) :
    (incident.alertCount < maxMembersPerIncident ∧
      event.sourceConnectionId = incident.sourceConnectionId ∧
        addEventToIncident python settings armedAt session incident.id event =
          (withJoined python settings armedAt session incident event, true)) ∨
      addEventToIncident python settings armedAt session incident.id event = (session, false) := by
  by_cases accepts : incident.alertCount < maxMembersPerIncident ∧
      event.sourceConnectionId = incident.sourceConnectionId
  · obtain ⟨notFull, connection⟩ := accepts
    exact Or.inl ⟨notFull, connection, addEventToIncident_of_accepts found notFull connection⟩
  · right
    unfold addEventToIncident
    rw [found]
    simp only
    rw [if_pos]
    rw [not_and_or, not_lt, ← sourceConnectionConflicts_eq_false, Bool.not_eq_false] at accepts
    exact accepts

/-- An alert that may join an incident keeps the memberships sound. -/
theorem sound_addEventToIncident (invariant : IncidentInvariant python Holds Joins Stamps)
    {armedAt : DateTime} {id : Nat} (sound : SessionSound Holds alerts session)
    (found : session.incidents.lookup id = some incident)
    (known : alerts.lookup event.id = some event) (joins : Joins incident event) :
    SessionSound Holds alerts (addEventToIncident python settings armedAt session id event).1 := by
  obtain ⟨member, rfl⟩ := Table.lookup_eq_some_iff.1 found
  rcases addEventToIncident_cases python settings armedAt event found with
    ⟨notFull, connection, added⟩ | refused
  · rw [added]
    refine ⟨?_, sound.candidates⟩
    apply membershipsSound_join (withMember_id python settings armedAt event) found known
    · intro other otherMember _
      exact sound.memberships.holds other otherMember
    · exact sound.memberships.owned
    · exact sound.memberships.known
    · exact invariant.joined settings armedAt incident _ event
        (sound.memberships.holds incident member) notFull connection joins
  · rw [refused]
    exact sound

theorem sound_processRecovery (invariant : IncidentInvariant python Holds Joins Stamps)
    (sound : SessionSound Holds alerts session)
    (known : alerts.lookup turn.alert.id = some turn.alert)
    (joins : ∀ incident, findRecoveryIncident python turn.alert
      (session.objects session.recoverable) = some incident → Joins incident turn.alert) :
    SessionSound Holds alerts (processRecovery python settings session turn) := by
  unfold processRecovery
  split
  · exact sound
  · rename_i incident matched
    have member : incident ∈ session.incidents.rows :=
      mem_of_mem_objects (findRecoveryIncident_spec matched).1
    have added : SessionSound Holds alerts (addEventToIncident python settings turn.armedAt session
        incident.id turn.alert).1 :=
      sound_addEventToIncident invariant sound (Table.mem_rows_iff_lookup.1 member) known
        (joins incident matched)
    simp only
    split
    · refine ⟨?_, added.candidates⟩
      apply added.memberships.update
      · exact fun _ => rfl
      · intro other _ _ joined holds
        exact invariant.resolved other joined turn.alert holds
    · exact added

def openedWithCandidate (python : PythonRuntime) (settings : GroupingSettings)
    (session : GroupingSession) (candidate : WebhookEvent) (turn : Turn) : GroupingSession :=
  withJoined python settings turn.armedAt (openIncident python session candidate turn.flushedAt).1
    (createIncidentFromEvent python candidate session.incidents.nextKey) candidate

theorem lookup_openIncident :
    (openIncident python session candidate turn.flushedAt).1.incidents.lookup
        session.incidents.nextKey =
      some (createIncidentFromEvent python candidate session.incidents.nextKey) := by
  have inserted : ((session.flush turn.flushedAt).incidents.insert
      (createIncidentFromEvent python candidate) fun _ => rfl).lookup session.incidents.nextKey =
        some (createIncidentFromEvent python candidate session.incidents.nextKey) :=
    Table.lookup_insert_self
  exact inserted

theorem addEventToIncident_openIncident :
    (addEventToIncident python settings turn.armedAt
        (openIncident python session candidate turn.flushedAt).1
        (openIncident python session candidate turn.flushedAt).2 candidate).1 =
      openedWithCandidate python settings session candidate turn := by
  have notFull : (createIncidentFromEvent python candidate
      session.incidents.nextKey).alertCount < maxMembersPerIncident :=
    show 0 < 200 by decide
  exact congrArg Prod.fst
    (addEventToIncident_of_accepts (lookup_openIncident candidate) notFull rfl)

theorem lookup_openedWithCandidate :
    (openedWithCandidate python settings session candidate turn).incidents.lookup
        session.incidents.nextKey =
      some (withMember python settings turn.armedAt candidate
        (createIncidentFromEvent python candidate session.incidents.nextKey)) := by
  simp only [openedWithCandidate, withJoined, GroupingSession.modify]
  rw [Table.lookup_update, lookup_openIncident]
  simp [createIncidentFromEvent]

theorem sound_openedWithCandidate (invariant : IncidentInvariant python Holds Joins Stamps)
    {candidate : WebhookEvent} (sound : SessionSound Holds alerts session)
    (known : alerts.lookup candidate.id = some candidate)
    (stamps : ∀ incident ∈ session.incidents.rows, session.isStamped incident = true →
      Stamps incident (turn.flushedAt incident.id)) :
    SessionSound Holds alerts (openedWithCandidate python settings session candidate turn) := by
  have flushed := sound_flush invariant sound.memberships stamps
  have unowned : memberAlerts alerts session.members session.incidents.nextKey = [] := by
    apply memberAlerts_eq_nil
    intro member present
    obtain ⟨owner, ownerMember, idEq⟩ := sound.memberships.owned member present
    have below : owner.id < session.incidents.nextKey := session.incidents.keys_lt owner ownerMember
    omega
  refine ⟨?_, fun other member => sound.candidates other (List.mem_of_mem_eraseP member)⟩
  apply membershipsSound_join (withMember_id python settings turn.armedAt candidate)
    (lookup_openIncident candidate) known
  · intro other member different
    rcases List.mem_append.1 member with old | new
    · exact flushed.holds other old
    · exact absurd (congrArg Incident.id (List.mem_singleton.1 new)) different
  · intro member present
    obtain ⟨owner, ownerMember, idEq⟩ := flushed.owned member present
    exact ⟨owner, List.mem_append_left _ ownerMember, idEq⟩
  · exact sound.memberships.known
  · have nothing : memberAlerts alerts (openIncident python session candidate
        turn.flushedAt).1.members (createIncidentFromEvent python candidate
          session.incidents.nextKey).id = [] := unowned
    rw [nothing]
    exact invariant.opened settings turn.armedAt candidate session.incidents.nextKey

/-- A firing alert keeps the memberships sound, joining an incident or opening one. -/
theorem sound_processFiring (invariant : IncidentInvariant python Holds Joins Stamps)
    (sound : SessionSound Holds alerts session)
    (known : alerts.lookup turn.alert.id = some turn.alert)
    (joinsMatch : ∀ incident, findMatchingIncident python turn.alert
      (session.objects session.active) = some incident → Joins incident turn.alert)
    (opens : ∀ candidate,
      findMatchingIncident python turn.alert (session.objects session.active) = none →
        findMatchingCandidate python turn.alert session.candidates = some candidate →
          Joins (withMember python settings turn.armedAt candidate
            (createIncidentFromEvent python candidate session.incidents.nextKey)) turn.alert ∧
          ∀ incident ∈ session.incidents.rows, session.isStamped incident = true →
            Stamps incident (turn.flushedAt incident.id)) :
    SessionSound Holds alerts (processFiring python settings session turn) := by
  unfold processFiring
  split
  · rename_i incident matched
    have member : incident ∈ session.incidents.rows :=
      mem_of_mem_objects (findMatchingIncident_spec matched).1
    have added : SessionSound Holds alerts (addEventToIncident python settings turn.armedAt session
        incident.id turn.alert).1 :=
      sound_addEventToIncident invariant sound (Table.mem_rows_iff_lookup.1 member) known
        (joinsMatch incident matched)
    simp only
    split
    · exact ⟨added.memberships, added.candidates⟩
    · exact added
  · rename_i unmatched
    split
    · refine ⟨sound.memberships, fun candidate member => ?_⟩
      rcases List.mem_append.1 member with old | new
      · exact sound.candidates candidate old
      · obtain rfl := List.mem_singleton.1 new
        exact known
    · rename_i candidate paired
      obtain ⟨joins, stamps⟩ := opens candidate unmatched paired
      have waiting : candidate ∈ session.candidates := (findMatchingCandidate_spec paired).1
      simp only
      rw [addEventToIncident_openIncident]
      have opened : SessionSound Holds alerts
          (openedWithCandidate python settings session candidate turn) :=
        sound_openedWithCandidate invariant sound (sound.candidates candidate waiting) stamps
      exact sound_addEventToIncident invariant opened (lookup_openedWithCandidate candidate) known
        joins

/-- Each alert of a scan keeps the memberships sound. -/
theorem sound_processAlert (invariant : IncidentInvariant python Holds Joins Stamps)
    (sound : SessionSound Holds alerts session)
    (known : alerts.lookup turn.alert.id = some turn.alert)
    (admitted : TurnAdmitted python Joins Stamps settings session turn) :
    SessionSound Holds alerts (processAlert python settings session turn) := by
  obtain ⟨joins, stamps⟩ := admitted
  unfold joinedIncident at joins
  unfold opensIncident at stamps
  unfold processAlert
  split
  · exact sound
  · rename_i real
    rw [if_neg real] at joins
    split
    · rename_i recovery
      rw [if_pos recovery] at joins
      exact sound_processRecovery invariant sound known joins
    · rename_i firing
      rw [if_neg firing] at joins
      split
      · exact sound
      · rename_i important
        rw [if_neg important] at joins
        apply sound_processFiring invariant sound known
        · intro incident matched
          apply joins incident
          rw [matched]
          rfl
        · intro candidate unmatched paired
          rw [unmatched, paired] at joins stamps
          exact ⟨joins _ rfl, stamps (by simpa [real, firing] using important)⟩

end Turns

/-! ## Scans and runs -/

section Scans

variable {Holds : Incident → List WebhookEvent → Prop} {Joins : Incident → WebhookEvent → Prop}
  {Stamps : Incident → DateTime → Prop} {input : ScanInput} {database : GroupingDatabase}

open GroupingSession

structure ScanAdmitted (python : PythonRuntime) (Joins : Incident → WebhookEvent → Prop)
    (Stamps : Incident → DateTime → Prop) (input : ScanInput) (database : GroupingDatabase) :
    Prop where
  turns : GuardedRuns.Along (processAlert python input.settings)
    (TurnAdmitted python Joins Stamps input.settings) (openedSession input database)
    (turns input database)
  closing : ∀ incident ∈ (processedSession python input database).incidents.rows,
    (processedSession python input database).isStamped incident = true →
      Stamps incident (input.closingFlushedAt incident.id)
  escalation : input.hasBreachTarget = true →
    ∀ incident ∈ breachedIncidents input (closeQuietIncidents input
      ((processedSession python input database).flush input.closingFlushedAt).incidents),
      Stamps (escalated input.now incident) (input.escalationFlushedAt incident.id)

instance [∀ incident event, Decidable (Joins incident event)]
    [∀ incident now, Decidable (Stamps incident now)] :
    Decidable (ScanAdmitted python Joins Stamps input database) :=
  decidable_of_iff
    (GuardedRuns.Along (processAlert python input.settings)
        (TurnAdmitted python Joins Stamps input.settings) (openedSession input database)
        (turns input database) ∧
      (∀ incident ∈ (processedSession python input database).incidents.rows,
        (processedSession python input database).isStamped incident = true →
          Stamps incident (input.closingFlushedAt incident.id)) ∧
      (input.hasBreachTarget = true →
        ∀ incident ∈ breachedIncidents input (closeQuietIncidents input
          ((processedSession python input database).flush input.closingFlushedAt).incidents),
          Stamps (escalated input.now incident) (input.escalationFlushedAt incident.id)))
    ⟨fun all => ⟨all.1, all.2.1, all.2.2⟩,
      fun admitted => ⟨admitted.turns, admitted.closing, admitted.escalation⟩⟩

theorem mem_rows_of_mem_unassignedAlerts {alert : WebhookEvent}
    (member : alert ∈ unassignedAlerts input database) : alert ∈ database.alerts.rows := by
  have taken := List.mem_of_mem_take (List.mem_reverse.1 member)
  rw [List.mem_insertionSort] at taken
  exact (List.mem_filter.1 taken).1

theorem lookup_of_mem_turns {turn : Turn} (member : turn ∈ turns input database) :
    database.alerts.lookup turn.alert.id = some turn.alert := by
  obtain ⟨position, inside, rfl⟩ := List.mem_mapIdx.1 member
  exact Table.mem_rows_iff_lookup.1
    (mem_rows_of_mem_unassignedAlerts (List.getElem_mem inside))

theorem sound_processedSession (invariant : IncidentInvariant python Holds Joins Stamps)
    (sound : MembershipsSound Holds database.alerts database.incidents database.members)
    (turnsAdmitted : GuardedRuns.Along (processAlert python input.settings)
      (TurnAdmitted python Joins Stamps input.settings) (openedSession input database)
      (turns input database)) :
    SessionSound Holds database.alerts (processedSession python input database) := by
  have knownTurns := turnsAdmitted.and_forall fun _ member => lookup_of_mem_turns member
  apply knownTurns.invariant (SessionSound Holds database.alerts)
  · exact ⟨sound, fun candidate member => by simp [openedSession] at member⟩
  · intro session turn sessionSound admitted
    exact sound_processAlert invariant sessionSound admitted.2 admitted.1

theorem sound_escalateBreached (invariant : IncidentInvariant python Holds Joins Stamps)
    {alerts : Table WebhookEvent.id} {incidents : Table Incident.id}
    {members : List IncidentMember} (sound : MembershipsSound Holds alerts incidents members)
    (stamps : input.hasBreachTarget = true → ∀ incident ∈ breachedIncidents input incidents,
      Stamps (escalated input.now incident) (input.escalationFlushedAt incident.id)) :
    MembershipsSound Holds alerts (escalateBreached input incidents) members := by
  unfold escalateBreached
  split
  · rename_i target
    apply sound.update
    intro incident member selected joined holds
    obtain ⟨breached, breachedMember, sameId⟩ := List.mem_map.1 (of_decide_eq_true selected)
    have breachedRow : breached ∈ incidents.rows := by
      have taken := List.mem_of_mem_take (List.mem_filter.1 breachedMember).1
      rw [List.mem_insertionSort] at taken
      exact (List.mem_filter.1 taken).1
    obtain rfl : breached = incident := Table.eq_of_key_eq breachedRow member sameId
    exact invariant.stamped _ joined _ (invariant.escalated breached joined _ holds)
      (stamps target breached breachedMember)
  · exact sound

theorem sound_runIncidentGrouping (invariant : IncidentInvariant python Holds Joins Stamps)
    (sound : MembershipsSound Holds database.alerts database.incidents database.members)
    (admitted : ScanAdmitted python Joins Stamps input database) :
    MembershipsSound Holds (runIncidentGrouping python input database).1.alerts
      (runIncidentGrouping python input database).1.incidents
      (runIncidentGrouping python input database).1.members := by
  have processed := sound_processedSession invariant sound admitted.turns
  have flushed := sound_flush invariant processed.memberships admitted.closing
  apply sound_escalateBreached invariant _ admitted.escalation
  apply flushed.update
  intro incident _ _ joined holds
  exact invariant.quieted incident joined _ holds

/-- The conditions on a step of a run. -/
def StepAdmitted (python : PythonRuntime) (Joins : Incident → WebhookEvent → Prop)
    (Stamps : Incident → DateTime → Prop) (database : GroupingDatabase) : GroupingEvent → Prop
  | .arrive _ => True
  | .scan input => ScanAdmitted python Joins Stamps input database

instance [∀ incident event, Decidable (Joins incident event)]
    [∀ incident now, Decidable (Stamps incident now)] (event : GroupingEvent) :
    Decidable (StepAdmitted python Joins Stamps database event) :=
  match event with
  | .arrive _ => inferInstanceAs (Decidable True)
  | .scan input => inferInstanceAs (Decidable (ScanAdmitted python Joins Stamps input database))

theorem IncidentInvariant.along (invariant : IncidentInvariant python Holds Joins Stamps)
    {events : List GroupingEvent}
    (admitted : GuardedRuns.Along (step python) (StepAdmitted python Joins Stamps)
      GroupingDatabase.empty events) :
    MembershipsSound Holds (GuardedRuns.run (step python) GroupingDatabase.empty events).alerts
      (GuardedRuns.run (step python) GroupingDatabase.empty events).incidents
      (GuardedRuns.run (step python) GroupingDatabase.empty events).members := by
  apply admitted.invariant fun database =>
    MembershipsSound Holds database.alerts database.incidents database.members
  · constructor <;> simp [GroupingDatabase.empty, Table.empty]
  · intro database event sound stepAdmitted
    cases event with
    | arrive alert =>
        simp only [step]
        exact sound.arrive _
    | scan input => exact sound_runIncidentGrouping invariant sound stepAdmitted

end Scans

end IncidentGrouping

end WebhookWise
