import WebhookWise.IncidentEdits
import Mathlib.Algebra.Order.Group.Multiset

/-!
# Memberships under scans, merges and splits

No alert is ever a member twice, and none that was a member stops being one.  A merge or a
split leaves aggregates that describe the members, unless the commit stamps an incident
whose `updated_at` has not moved.  A split-off incident has the dimensions of its first
alert and no source connection.
-/

namespace WebhookWise

open SqlTable GuardedRuns

namespace IncidentGrouping

variable {python : PythonRuntime}

/-! ## A scan adds each alert once -/

section Scan

variable {settings : GroupingSettings} {session : GroupingSession} {turn : Turn}

open GroupingSession

/-- The alerts that are members or wait as candidates. -/
def placed (session : GroupingSession) : Multiset Nat :=
  ↑(session.members.map IncidentMember.eventId) + ↑(session.candidates.map WebhookEvent.id)

theorem addEventToIncident_places (python : PythonRuntime) (settings : GroupingSettings)
    (armedAt : DateTime) (session : GroupingSession) (id : Nat)
    (event : WebhookEvent) :
    session.members <+: (addEventToIncident python settings armedAt session id event).1.members ∧
      placed (addEventToIncident python settings armedAt session id event).1 ≤
        placed session + {event.id} := by
  have refused : session.members <+: session.members ∧
      placed session ≤ placed session + {event.id} :=
    ⟨List.prefix_rfl, Multiset.le_add_right _ _⟩
  unfold addEventToIncident
  split
  · exact refused
  split
  · exact refused
  · refine ⟨List.prefix_append _ _, le_of_eq ?_⟩
    simp only [placed, List.map_append, List.map_cons, List.map_nil, ← Multiset.coe_add,
      Multiset.coe_singleton, GroupingSession.modify]
    exact add_right_comm (_ : Multiset Nat) _ _

theorem processRecovery_places :
    session.members <+: (processRecovery python settings session turn).members ∧
      placed (processRecovery python settings session turn) ≤
        placed session + {turn.alert.id} := by
  unfold processRecovery
  split
  · exact ⟨List.prefix_rfl, Multiset.le_add_right _ _⟩
  · rename_i incident matched
    have added := addEventToIncident_places python settings turn.armedAt
      session incident.id turn.alert
    dsimp only
    split <;> exact added

theorem openIncident_places (python : PythonRuntime) {candidate : WebhookEvent} (waiting : candidate ∈ session.candidates)
    (flushedAt : Nat → DateTime) :
    (openIncident python session candidate flushedAt).1.members = session.members ∧
      placed (openIncident python session candidate flushedAt).1 + {candidate.id} =
        placed session := by
  refine ⟨rfl, ?_⟩
  obtain ⟨removed, before, after, -, sameId, split_, erased⟩ :=
    @List.exists_of_eraseP _ (fun other => other.id = candidate.id) _ candidate waiting (by simp)
  have candidates : (openIncident python session candidate flushedAt).1.candidates =
      before ++ after :=
    erased
  have removedId : removed.id = candidate.id := of_decide_eq_true sameId
  rw [placed, placed, candidates, split_, add_assoc]
  congr 1
  rw [← Multiset.coe_singleton, Multiset.coe_add, Multiset.coe_eq_coe]
  simp only [List.map_append, List.map_cons, removedId, List.append_assoc]
  exact (List.perm_append_singleton _ _).append_left _

theorem processFiring_places :
    session.members <+: (processFiring python settings session turn).members ∧
      placed (processFiring python settings session turn) ≤
        placed session + {turn.alert.id} := by
  unfold processFiring
  split
  · rename_i incident matched
    have added := addEventToIncident_places python settings turn.armedAt
      session incident.id turn.alert
    dsimp only
    split <;> exact added
  split
  · refine ⟨List.prefix_rfl, le_of_eq ?_⟩
    simp only [placed, List.map_append, List.map_cons, List.map_nil, ← Multiset.coe_add,
      Multiset.coe_singleton]
    exact (add_assoc (_ : Multiset Nat) _ _).symm
  · rename_i candidate paired
    have opened := openIncident_places python (findMatchingCandidate_spec paired).1
      turn.flushedAt
    have first := addEventToIncident_places python settings turn.armedAt
      (openIncident python session candidate turn.flushedAt).1
      (openIncident python session candidate turn.flushedAt).2 candidate
    have second := addEventToIncident_places python settings turn.armedAt
      (addEventToIncident python settings turn.armedAt
        (openIncident python session candidate turn.flushedAt).1
        (openIncident python session candidate turn.flushedAt).2 candidate).1
      (openIncident python session candidate turn.flushedAt).2 turn.alert
    rw [opened.1, opened.2] at first
    exact ⟨first.1.trans second.1, second.2.trans (add_le_add_left first.2 _)⟩

theorem processAlert_places (python : PythonRuntime) (settings : GroupingSettings)
    (session : GroupingSession) (turn : Turn) :
    session.members <+: (processAlert python settings session turn).members ∧
      placed (processAlert python settings session turn) ≤ placed session + {turn.alert.id} := by
  have skipped : session.members <+: session.members ∧
      placed session ≤ placed session + {turn.alert.id} :=
    ⟨List.prefix_rfl, Multiset.le_add_right _ _⟩
  unfold processAlert
  split
  · exact skipped
  split
  · exact processRecovery_places
  split
  · exact skipped
  · exact processFiring_places

theorem foldl_processAlert_places (python : PythonRuntime) (settings : GroupingSettings)
    (turns : List Turn) (session : GroupingSession) :
    session.members <+: (turns.foldl (processAlert python settings) session).members ∧
      placed (turns.foldl (processAlert python settings) session) ≤
        placed session + ↑(turns.map fun turn => turn.alert.id) := by
  induction turns generalizing session with
  | nil => exact ⟨List.prefix_rfl, by simp⟩
  | cons turn turns ih =>
      obtain ⟨first, firstPlaces⟩ := processAlert_places python settings
        session turn
      obtain ⟨rest, restPlaces⟩ := ih (processAlert python settings session turn)
      refine ⟨first.trans rest, restPlaces.trans ?_⟩
      rw [List.map_cons, ← Multiset.cons_coe, ← Multiset.singleton_add, ← add_assoc]
      exact add_le_add_left firstPlaces _

end Scan

/-! ## Memberships -/

/-- Every member belongs to an incident and is an alert, and no alert is a member twice. -/
structure MembershipsOnce (database : GroupingDatabase) : Prop where
  sound : MembershipsSound (fun _ _ => True) database.alerts database.incidents database.members
  once : (database.members.map IncidentMember.eventId).Nodup

/-- Every alert that was a member is one still. -/
def KeepsMembers (before after : GroupingDatabase) : Prop :=
  before.members.map IncidentMember.eventId ⊆ after.members.map IncidentMember.eventId

section Memberships

variable {database : GroupingDatabase}

private theorem trivially : IncidentInvariant python (fun _ _ => True) (fun _ _ => True)
    fun _ _ => True := by
  constructor <;> intros <;> trivial

theorem scanAdmitted_trivially (python : PythonRuntime) (input : ScanInput)
    (database : GroupingDatabase) :
    ScanAdmitted python (fun _ _ => True) (fun _ _ => True) input database := by
  refine ⟨along_of_always fun session turn => ⟨?_, ?_⟩, ?_, ?_⟩ <;> intros <;> trivial

theorem turns_ids (input : ScanInput) (database : GroupingDatabase) :
    (turns input database).map (fun turn => turn.alert.id) =
      (unassignedAlerts input database).map WebhookEvent.id := by
  apply List.ext_getElem? fun position => ?_
  rw [turns, List.getElem?_map, List.getElem?_mapIdx, List.getElem?_map, Option.map_map]
  rfl

theorem runIncidentGrouping_members (python : PythonRuntime) (input : ScanInput)
    (database : GroupingDatabase) :
    (runIncidentGrouping python input database).1.members =
      (processedSession python input database).members :=
  rfl

theorem nodup_members_and_unassigned (input : ScanInput)
    (once : (database.members.map IncidentMember.eventId).Nodup) :
    (database.members.map IncidentMember.eventId ++
      (unassignedAlerts input database).map WebhookEvent.id).Nodup := by
  rw [List.nodup_append]
  refine ⟨once, ?_, ?_⟩
  · unfold unassignedAlerts
    rw [List.map_reverse, List.nodup_reverse, List.map_take]
    apply List.Nodup.sublist (List.take_sublist _ _)
    rw [((List.perm_insertionSort _ _).map _).nodup_iff]
    exact database.alerts.keys_nodup.sublist (List.filter_sublist.map _)
  · rintro memberId present alertId waiting rfl
    obtain ⟨member, memberIn, rfl⟩ := List.mem_map.1 present
    obtain ⟨alert, alertIn, sameId⟩ := List.mem_map.1 waiting
    have taken := List.mem_of_mem_take (List.mem_reverse.1 alertIn)
    rw [List.mem_insertionSort] at taken
    have unassigned := (of_decide_eq_true (List.mem_filter.1 taken).2).2
    exact unassigned member memberIn sameId.symm

theorem MembershipsOnce.scan (once : MembershipsOnce database) (input : ScanInput) :
    MembershipsOnce (runIncidentGrouping python input database).1 ∧
      KeepsMembers database (runIncidentGrouping python input database).1 := by
  have places := foldl_processAlert_places python input.settings (turns input database)
    (openedSession input database)
  have distinct := nodup_members_and_unassigned input once.once
  refine ⟨⟨sound_runIncidentGrouping trivially once.sound (scanAdmitted_trivially _ _ _), ?_⟩, ?_⟩
  · rw [runIncidentGrouping_members]
    have bounded := (Multiset.le_add_right _ _).trans places.2
    rw [turns_ids] at bounded
    have opened : placed (openedSession input database) =
        ↑(database.members.map IncidentMember.eventId) := add_zero _
    rw [opened, Multiset.coe_add] at bounded
    exact Multiset.coe_nodup.1 (Multiset.nodup_of_le bounded (Multiset.coe_nodup.2 distinct))
  · exact (places.1.map _).subset

theorem moveMembers_eventIds (members : List IncidentMember) (selected : IncidentMember → Bool)
    (incidentId : Nat) :
    (moveMembers members selected incidentId).map IncidentMember.eventId =
      members.map IncidentMember.eventId := by
  rw [moveMembers, List.map_map]
  apply List.map_congr_left
  intro member _
  simp only [Function.comp_apply]
  split <;> rfl

theorem MembershipsOnce.move {incidents : Table Incident.id} {selected : IncidentMember → Bool}
    {incidentId : Nat} (once : MembershipsOnce database)
    (destination : ∃ incident ∈ incidents.rows, incident.id = incidentId)
    (kept : ∀ id, (∃ incident ∈ database.incidents.rows, incident.id = id) →
      ∃ incident ∈ incidents.rows, incident.id = id) :
    MembershipsOnce
        ⟨database.alerts, incidents, moveMembers database.members selected incidentId⟩ ∧
      KeepsMembers database
        ⟨database.alerts, incidents, moveMembers database.members selected incidentId⟩ := by
  refine ⟨⟨⟨fun _ _ => trivial, ?_, ?_⟩, ?_⟩, ?_⟩
  · intro member present
    obtain ⟨old, oldMember, rfl⟩ := List.mem_map.1 present
    split
    · exact destination
    · exact kept _ (once.sound.owned old oldMember)
  · intro member present
    obtain ⟨old, oldMember, rfl⟩ := List.mem_map.1 present
    split
    · exact once.sound.known old oldMember
    · exact once.sound.known old oldMember
  · rw [moveMembers_eventIds]
    exact once.once
  · rw [KeepsMembers, moveMembers_eventIds]
    exact List.Subset.refl _

end Memberships

/-! ## What a merge and a split do -/

/-- The aggregates of an incident are those of its members. -/
structure Recomputed (database : GroupingDatabase) (incident : Incident) : Prop where
  count : incident.alertCount = (membersOf database incident).length
  described : DescribedBy incident (memberAlerts database.alerts database.members incident.id)

/-- An incident has the source connection of its members, and every dimension of each. -/
structure KeepsIdentity (python : PythonRuntime) (database : GroupingDatabase)
    (incident : Incident) : Prop where
  connection : ∀ alert ∈ memberAlerts database.alerts database.members incident.id,
    incident.sourceConnectionId = alert.sourceConnectionId
  dimensions : ∀ alert ∈ memberAlerts database.alerts database.members incident.id,
    ∀ key value, (correlationDimensions python alert).get? key = some value →
      incident.correlationDimensions.get? key = some value

/-- What a merge or a split, if it takes place, has to leave of the incidents involved. -/
def EditDescribed (python : PythonRuntime) (database : GroupingDatabase) : IncidentEvent → Prop
  | .grouping _ => True
  | .merge call =>
      ∀ after ∈ mergeIncidents database call, ∀ id, id = call.destinationId ∨ id ∈ call.sourceIds →
        ∀ incident ∈ after.incidents.lookup id, Recomputed after incident
  | .split call =>
      ∀ after ∈ splitIncident python database call,
        (∀ incident ∈ after.incidents.lookup call.sourceId, Recomputed after incident) ∧
        ∀ incident ∈ after.incidents.lookup database.incidents.nextKey,
          Recomputed after incident ∧ KeepsIdentity python after incident

/-! ## The condition -/

/-- The commit of a merge does not stamp the destination apart from its alerts. -/
def MergeAdmitted (database : GroupingDatabase) (call : MergeCall) : Prop :=
  ∀ destination ∈ database.incidents.lookup call.destinationId,
    call.destinationId ∉ call.sourceIds →
    (database.incidents.rows.filter fun incident => incident.id ∈ call.sourceIds).length =
      call.sourceIds.length →
    ¬ StampedApart (memberEvents database.alerts (mergedMembers database call) call.destinationId)
      (call.flushedAt call.destinationId) destination

/-- The commit of a split stamps neither incident apart from its alerts, and the alerts split
off have no source connection and no dimension that their first one has not. -/
structure SplitAdmitted (python : PythonRuntime) (database : GroupingDatabase) (call : SplitCall)
    (source : Incident) (firstEvent : WebhookEvent) : Prop where
  source : ¬ StampedApart
    (memberEvents database.alerts (splitMembers database call) call.sourceId)
    (call.flushedAt call.sourceId) source
  created : ¬ StampedApart
    (memberEvents database.alerts (splitMembers database call) database.incidents.nextKey)
    (call.flushedAt database.incidents.nextKey)
    (incidentOfSplit python firstEvent call.now database.incidents.nextKey)
  unconnected : ∀ alert ∈ splitOffAlerts database call, alert.sourceConnectionId = none
  alike : ∀ alert ∈ splitOffAlerts database call,
    ∀ key value, (correlationDimensions python alert).get? key = some value →
      (correlationDimensions python firstEvent).get? key = some value

/-- The condition on a merge and on a split. -/
def EditAdmitted (python : PythonRuntime) (database : GroupingDatabase) : IncidentEvent → Prop
  | .grouping _ => True
  | .merge call => MergeAdmitted database call
  | .split call =>
      ∀ source ∈ database.incidents.lookup call.sourceId,
      ∀ firstEvent ∈ (splitOffAlerts database call).head?,
        (splitOffAlerts database call).length = call.eventIds.length →
        (splitOffAlerts database call).length < source.alertCount →
          SplitAdmitted python database call source firstEvent

/-! ## One merge and one split -/

section Edits

variable {database : GroupingDatabase}

theorem recomputed_iff {incident : Incident} (once : MembershipsOnce database) :
    Recomputed database incident ↔
      DescribedBy incident (memberAlerts database.alerts database.members incident.id) := by
  constructor
  · exact Recomputed.described
  · intro described
    exact ⟨described.count.trans (length_memberAlerts once.sound.known), described⟩

theorem describedBy_refreshedRow_iff {alerts : Table WebhookEvent.id}
    {members : List IncidentMember} {flushedAt : Nat → DateTime} {incident : Incident} :
    DescribedBy (refreshedRow alerts members flushedAt incident)
        (memberAlerts alerts members (refreshedRow alerts members flushedAt incident).id) ↔
      ¬ StampedApart (memberEvents alerts members incident.id) (flushedAt incident.id)
        incident := by
  have sorted : (memberEvents alerts members incident.id).Pairwise OlderAlert :=
    List.pairwise_insertionSort _ _
  have perm : (memberEvents alerts members incident.id).Perm
      (memberAlerts alerts members incident.id) :=
    List.perm_insertionSort _ _
  rw [refreshedRow_id, ← describedBy_committed_iff sorted]
  exact ⟨fun described => described.perm perm.symm, fun described => described.perm perm⟩

theorem refreshedRow_identity {alerts : Table WebhookEvent.id} {members : List IncidentMember}
    {flushedAt : Nat → DateTime} {incident : Incident} :
    (refreshedRow alerts members flushedAt incident).sourceConnectionId =
        incident.sourceConnectionId ∧
      (refreshedRow alerts members flushedAt incident).correlationDimensions =
        incident.correlationDimensions := by
  have refreshed (events : List WebhookEvent) :
      (refreshIncidentAggregate events incident).sourceConnectionId =
          incident.sourceConnectionId ∧
        (refreshIncidentAggregate events incident).correlationDimensions =
          incident.correlationDimensions := by
    unfold refreshIncidentAggregate
    split <;> exact ⟨rfl, rfl⟩
  unfold refreshedRow committed
  split
  · exact refreshed _
  · exact refreshed _

theorem memberAlerts_mergedMembers {call : MergeCall} {id : Nat}
    (apart : call.destinationId ∉ call.sourceIds) (source : id ∈ call.sourceIds) :
    memberAlerts database.alerts (mergedMembers database call) id = [] := by
  apply memberAlerts_eq_nil
  intro member present same
  obtain ⟨old, oldMember, rfl⟩ := List.mem_map.1 present
  split at same
  · have atDestination : call.destinationId = id := same
    exact apart (atDestination ▸ source)
  · rename_i unmoved
    exact unmoved (decide_eq_true (same ▸ source))

theorem mergeIncidents_eq_some {call : MergeCall} {after : GroupingDatabase}
    (merged : mergeIncidents database call = some after) :
    ∃ destination, database.incidents.lookup call.destinationId = some destination ∧
      call.destinationId ∉ call.sourceIds ∧
      (database.incidents.rows.filter fun incident => incident.id ∈ call.sourceIds).length =
        call.sourceIds.length ∧
      after.alerts = database.alerts ∧ after.members = mergedMembers database call ∧
      after.incidents.lookup call.destinationId =
        some (refreshedRow database.alerts after.members call.flushedAt destination) ∧
      (∀ id ∈ call.sourceIds, after.incidents.lookup id =
        (database.incidents.lookup id).map (mergedSource call)) ∧
      ∀ id, (∃ incident ∈ database.incidents.rows, incident.id = id) →
        ∃ incident ∈ after.incidents.rows, incident.id = id := by
  unfold mergeIncidents at merged
  split at merged
  · cases merged
  · rename_i destination found
    split at merged
    · cases merged
    · rename_i accepted
      rw [not_or, not_not] at accepted
      have destinationId := (Table.lookup_eq_some_iff.1 found).2
      obtain rfl := Option.some.inj merged
      refine ⟨destination, found, accepted.1, accepted.2, rfl, rfl, ?_, ?_, ?_⟩
      · rw [Table.lookup_update, Table.lookup_update, found]
        simp [destinationId, accepted.1]
      · intro id source
        have different : id ≠ call.destinationId := fun same => accepted.1 (same ▸ source)
        rw [Table.lookup_update, Table.lookup_update, Option.map_map]
        apply Option.map_congr
        intro incident incidentFound
        have idEq := (Table.lookup_eq_some_iff.1 incidentFound).2
        simp [idEq, source, mergedSource_id, different]
      · intro id exists_
        dsimp only
        rw [Table.exists_key_update, Table.exists_key_update]
        exact exists_

theorem MembershipsOnce.merge {call : MergeCall} (once : MembershipsOnce database)
    {after : GroupingDatabase} (merged : mergeIncidents database call = some after) :
    MembershipsOnce after ∧ KeepsMembers database after := by
  obtain ⟨destination, -, -, -, sameAlerts, sameMembers, row, -, kept⟩ :=
    mergeIncidents_eq_some merged
  obtain ⟨alerts, incidents, members⟩ := after
  obtain rfl : alerts = database.alerts := sameAlerts
  obtain rfl : members = mergedMembers database call := sameMembers
  have destinationRow := Table.lookup_eq_some_iff.1 row
  exact once.move ⟨_, destinationRow.1, destinationRow.2⟩ kept

/-- A merge leaves aggregates that describe the members just when its commit does not stamp
the destination apart from its alerts. -/
theorem merge_described_iff {call : MergeCall} (once : MembershipsOnce database) :
    EditDescribed python database (.merge call) ↔ EditAdmitted python database (.merge call) := by
  constructor
  · intro described destination found apart present
    have accepted : ¬ (call.destinationId ∈ call.sourceIds ∨
        (database.incidents.rows.filter fun incident => incident.id ∈ call.sourceIds).length ≠
          call.sourceIds.length) := by
      rw [not_or, not_not]
      exact ⟨apart, present⟩
    obtain ⟨after, merged⟩ : ∃ after, mergeIncidents database call = some after := by
      rw [Option.mem_def] at found
      simp only [mergeIncidents, found, if_neg accepted, Option.some.injEq, exists_eq']
    obtain ⟨other, otherFound, -, -, sameAlerts, sameMembers, row, -, -⟩ :=
      mergeIncidents_eq_some merged
    obtain rfl : other = destination := Option.some.inj (otherFound.symm.trans found)
    have recomputed := (described after merged _ (Or.inl rfl) _ row).described
    rw [sameAlerts, sameMembers, describedBy_refreshedRow_iff,
      (Table.lookup_eq_some_iff.1 otherFound).2] at recomputed
    exact recomputed
  · intro admitted after merged id involved incident found
    have onceAfter := (once.merge merged).1
    obtain ⟨destination, destinationFound, apart, present, sameAlerts, sameMembers, row, sources,
      -⟩ := mergeIncidents_eq_some merged
    rw [recomputed_iff onceAfter, sameAlerts, sameMembers]
    by_cases isSource : id ∈ call.sourceIds
    · rw [sources id isSource, Option.mem_map] at found
      obtain ⟨source, sourceFound, rfl⟩ := found
      have sourceId := (Table.lookup_eq_some_iff.1 sourceFound).2
      have noMembers : memberAlerts database.alerts (mergedMembers database call)
          (mergedSource call source).id = [] := by
        apply memberAlerts_mergedMembers apart
        rw [mergedSource_id]
        exact sourceId.symm ▸ isSource
      have emptied : (mergedSource call source).alertCount = 0 := by
        unfold mergedSource committed
        split <;> rfl
      rw [noMembers]
      constructor <;> simp [emptied]
    · obtain rfl := involved.resolve_right isSource
      rw [row] at found
      obtain rfl := Option.some.inj found
      rw [sameMembers, describedBy_refreshedRow_iff,
        (Table.lookup_eq_some_iff.1 destinationFound).2]
      exact admitted destination destinationFound apart present

theorem splitIncident_eq_some {call : SplitCall} {after : GroupingDatabase}
    (split_ : splitIncident python database call = some after) :
    ∃ source firstEvent, database.incidents.lookup call.sourceId = some source ∧
      (splitOffAlerts database call).head? = some firstEvent ∧
      (splitOffAlerts database call).length = call.eventIds.length ∧
      (splitOffAlerts database call).length < source.alertCount ∧
      after.alerts = database.alerts ∧ after.members = splitMembers database call ∧
      after.incidents.lookup call.sourceId =
        some (refreshedRow database.alerts after.members call.flushedAt source) ∧
      after.incidents.lookup database.incidents.nextKey =
        some (refreshedRow database.alerts after.members call.flushedAt
          (incidentOfSplit python firstEvent call.now database.incidents.nextKey)) ∧
      ∀ id, (∃ incident ∈ database.incidents.rows, incident.id = id) →
        ∃ incident ∈ after.incidents.rows, incident.id = id := by
  unfold splitIncident at split_
  split at split_
  · cases split_
  · rename_i source found
    dsimp only at split_
    split at split_
    · cases split_
    · rename_i accepted
      rw [not_or, not_not, not_le] at accepted
      split at split_
      · cases split_
      · rename_i firstEvent isFirst
        have sourceRow := Table.lookup_eq_some_iff.1 found
        have older : source.id ≠ database.incidents.nextKey :=
          Nat.ne_of_lt (database.incidents.keys_lt source sourceRow.1)
        have sourceId : call.sourceId = source.id := sourceRow.2.symm
        obtain rfl := Option.some.inj split_
        refine ⟨source, firstEvent, found, isFirst, accepted.1, accepted.2, rfl, rfl, ?_, ?_, ?_⟩
        · rw [Table.lookup_update, Table.lookup_update, Table.lookup_insert_of_some found]
          simp [sourceId, refreshedRow_id, older]
        · rw [Table.lookup_update, Table.lookup_update, Table.lookup_insert_self]
          simp [sourceId, incidentOfSplit_id, older.symm]
        · intro id exists_
          dsimp only
          rw [Table.exists_key_update, Table.exists_key_update]
          obtain ⟨incident, member, idEq⟩ := exists_
          exact ⟨incident, Table.mem_insert.2 (Or.inl member), idEq⟩

theorem MembershipsOnce.split {call : SplitCall} (once : MembershipsOnce database)
    {after : GroupingDatabase} (split_ : splitIncident python database call = some after) :
    MembershipsOnce after ∧ KeepsMembers database after := by
  obtain ⟨source, firstEvent, -, -, -, -, sameAlerts, sameMembers, -, row, kept⟩ :=
    splitIncident_eq_some split_
  obtain ⟨alerts, incidents, members⟩ := after
  obtain rfl : alerts = database.alerts := sameAlerts
  obtain rfl : members = splitMembers database call := sameMembers
  have createdRow := Table.lookup_eq_some_iff.1 row
  exact once.move ⟨_, createdRow.1, createdRow.2⟩ kept

theorem memberAlerts_splitMembers {call : SplitCall} (once : MembershipsOnce database) :
    (memberAlerts database.alerts (splitMembers database call) database.incidents.nextKey).Perm
      (splitOffAlerts database call) := by
  have fresh : ∀ member ∈ database.members, member.incidentId ≠ database.incidents.nextKey := by
    intro member present
    obtain ⟨incident, row, owns⟩ := once.sound.owned member present
    rw [← owns]
    exact Nat.ne_of_lt (database.incidents.keys_lt incident row)
  have selected : memberAlerts database.alerts (splitMembers database call)
      database.incidents.nextKey =
        (database.members.filter (isSplitOff call)).filterMap fun member =>
          database.alerts.lookup member.eventId := by
    unfold memberAlerts splitMembers moveMembers
    rw [List.filter_map, List.filterMap_map]
    have sameSelection : database.members.filter
        ((fun member : IncidentMember => decide (member.incidentId = database.incidents.nextKey)) ∘
          fun member => if isSplitOff call member then
            { member with incidentId := database.incidents.nextKey } else member) =
        database.members.filter (isSplitOff call) := by
      apply List.filter_congr
      intro member present
      simp only [Function.comp_apply]
      split
      · rename_i moved
        simp [moved]
      · rename_i unmoved
        simp [unmoved, fresh member present]
    rw [sameSelection]
    apply List.filterMap_congr
    intro member present
    simp only [Function.comp_apply]
    split <;> rfl
  rw [selected]
  exact (List.perm_insertionSort _ _).symm.filterMap _

theorem keepsIdentity_created_iff {call : SplitCall} {after : GroupingDatabase}
    {firstEvent : WebhookEvent} (once : MembershipsOnce database)
    (sameAlerts : after.alerts = database.alerts)
    (sameMembers : after.members = splitMembers database call) :
    KeepsIdentity python after
        (refreshedRow database.alerts (splitMembers database call) call.flushedAt
          (incidentOfSplit python firstEvent call.now database.incidents.nextKey)) ↔
      (∀ alert ∈ splitOffAlerts database call, alert.sourceConnectionId = none) ∧
        ∀ alert ∈ splitOffAlerts database call,
          ∀ key value, (correlationDimensions python alert).get? key = some value →
            (correlationDimensions python firstEvent).get? key = some value := by
  generalize rowEq : refreshedRow database.alerts (splitMembers database call) call.flushedAt
    (incidentOfSplit python firstEvent call.now database.incidents.nextKey) = row
  have rowId : row.id = database.incidents.nextKey := by
    rw [← rowEq, refreshedRow_id, incidentOfSplit_id]
  have unconnected : row.sourceConnectionId = none := by
    rw [← rowEq, refreshedRow_identity.1]
    rfl
  have dimensionsEq : row.correlationDimensions = correlationDimensions python firstEvent := by
    rw [← rowEq, refreshedRow_identity.2]
    rfl
  have sameMember (alert : WebhookEvent) :
      alert ∈ memberAlerts after.alerts after.members row.id ↔
        alert ∈ splitOffAlerts database call := by
    rw [sameAlerts, sameMembers, rowId]
    exact (memberAlerts_splitMembers once).mem_iff
  constructor
  · rintro ⟨connection, dimensions⟩
    refine ⟨fun alert member => ?_, fun alert member key value recorded => ?_⟩
    · rw [← connection alert ((sameMember alert).2 member), unconnected]
    · rw [← dimensionsEq]
      exact dimensions alert ((sameMember alert).2 member) key value recorded
  · rintro ⟨connections, alike⟩
    refine ⟨fun alert member => ?_, fun alert member key value recorded => ?_⟩
    · rw [unconnected, connections alert ((sameMember alert).1 member)]
    · rw [dimensionsEq]
      exact alike alert ((sameMember alert).1 member) key value recorded

/-- A split leaves two incidents that describe their members, and one that matches alike, just
when the condition holds. -/
theorem split_described_iff {call : SplitCall} (once : MembershipsOnce database) :
    EditDescribed python database (.split call) ↔ EditAdmitted python database (.split call) := by
  have involved {after : GroupingDatabase}
      (split_ : splitIncident python database call = some after) {source : Incident}
      {firstEvent : WebhookEvent} (found : database.incidents.lookup call.sourceId = some source)
      (isFirst : (splitOffAlerts database call).head? = some firstEvent) :
      ((∀ incident ∈ after.incidents.lookup call.sourceId, Recomputed after incident) ∧
        ∀ incident ∈ after.incidents.lookup database.incidents.nextKey,
          Recomputed after incident ∧ KeepsIdentity python after incident) ↔
        SplitAdmitted python database call source firstEvent := by
    have onceAfter := (once.split split_).1
    obtain ⟨other, otherFirst, otherFound, otherIsFirst, -, -, sameAlerts, sameMembers, sourceRow,
      createdRow, -⟩ := splitIncident_eq_some split_
    obtain rfl : other = source := Option.some.inj (otherFound.symm.trans found)
    obtain rfl : otherFirst = firstEvent := Option.some.inj (otherIsFirst.symm.trans isFirst)
    have sourceId := (Table.lookup_eq_some_iff.1 found).2
    rw [sourceRow, createdRow]
    simp only [Option.mem_some_iff, forall_eq', recomputed_iff onceAfter, sameAlerts, sameMembers,
      describedBy_refreshedRow_iff, sourceId,
      keepsIdentity_created_iff once sameAlerts sameMembers]
    constructor
    · rintro ⟨sourceApart, createdApart, unconnected, alike⟩
      exact ⟨sourceApart, createdApart, unconnected, alike⟩
    · rintro ⟨sourceApart, createdApart, unconnected, alike⟩
      exact ⟨sourceApart, createdApart, unconnected, alike⟩
  constructor
  · intro described source found firstEvent isFirst complete remaining
    have accepted : ¬ ((splitOffAlerts database call).length ≠ call.eventIds.length ∨
        source.alertCount ≤ (splitOffAlerts database call).length) := by
      rw [not_or, not_not, not_le]
      exact ⟨complete, remaining⟩
    obtain ⟨after, split_⟩ : ∃ after, splitIncident python database call = some after := by
      rw [Option.mem_def] at found isFirst
      simp only [splitIncident, found, if_neg accepted, isFirst, Option.some.injEq, exists_eq']
    exact (involved split_ found isFirst).1 (described after split_)
  · intro admitted after split_
    obtain ⟨source, firstEvent, found, isFirst, complete, remaining, -⟩ :=
      splitIncident_eq_some split_
    exact (involved split_ found isFirst).2
      (admitted source found firstEvent isFirst complete remaining)

end Edits

/-! ## Runs -/

theorem MembershipsOnce.edited {database : GroupingDatabase} (once : MembershipsOnce database)
    (event : IncidentEvent) :
    MembershipsOnce (edited python database event) ∧
      KeepsMembers database (edited python database event) := by
  cases event with
  | grouping event =>
      cases event with
      | arrive alert =>
          refine ⟨⟨?_, once.once⟩, List.Subset.refl _⟩
          simp only [IncidentGrouping.edited, step]
          exact once.sound.arrive _
      | scan input => exact once.scan input
  | merge call =>
      simp only [IncidentGrouping.edited]
      cases merged : mergeIncidents database call with
      | none => exact ⟨once, List.Subset.refl _⟩
      | some after => exact once.merge merged
  | split call =>
      simp only [IncidentGrouping.edited]
      cases split_ : splitIncident python database call with
      | none => exact ⟨once, List.Subset.refl _⟩
      | some after => exact once.split split_

theorem membershipsOnce_empty : MembershipsOnce GroupingDatabase.empty := by
  refine ⟨⟨?_, ?_, ?_⟩, ?_⟩ <;> simp [GroupingDatabase.empty, Table.empty]

theorem membershipsOnce_run (python : PythonRuntime) (events : List IncidentEvent) :
    MembershipsOnce (run (edited python) GroupingDatabase.empty events) :=
  run_invariant MembershipsOnce membershipsOnce_empty (fun _ event once => (once.edited event).1)
    events

/-- The alert is a member of exactly one incident. -/
def BelongsOnce (database : GroupingDatabase) (eventId : Nat) : Prop :=
  ∃ incident ∈ database.incidents.rows, ∃ member,
    database.members.filter (fun member => member.eventId = eventId) = [member] ∧
      member.incidentId = incident.id

theorem MembershipsOnce.belongsOnce {database : GroupingDatabase} (once : MembershipsOnce database)
    {eventId : Nat} (isMember : eventId ∈ database.members.map IncidentMember.eventId) :
    BelongsOnce database eventId := by
  obtain ⟨member, present, rfl⟩ := List.mem_map.1 isMember
  obtain ⟨incident, row, owns⟩ := once.sound.owned member present
  refine ⟨incident, row, member, ?_, owns.symm⟩
  have distinct := once.once
  have sameRow : database.members.filter (fun other => other.eventId = member.eventId) =
      database.members.filter (· = member) := by
    apply List.filter_congr
    intro other otherPresent
    rw [decide_eq_decide]
    exact ⟨fun same => List.inj_on_of_nodup_map distinct otherPresent present same,
      fun same => same ▸ rfl⟩
  rw [sameRow, List.filter_eq, List.count_eq_one_of_mem distinct.of_map present]
  rfl

/-- Every alert that has ever been a member is a member of exactly one incident. -/
def ConservesMembers (python : PythonRuntime) (events : List IncidentEvent) : Prop :=
  ∀ earlier later, events = earlier ++ later →
    ∀ member ∈ (run (edited python) GroupingDatabase.empty earlier).members,
      BelongsOnce (run (edited python) GroupingDatabase.empty events) member.eventId

theorem conservesMembers (python : PythonRuntime) (events : List IncidentEvent) :
    ConservesMembers python events := by
  rintro earlier later rfl member present
  have onceEarlier := membershipsOnce_run python earlier
  rw [run_append]
  have kept : MembershipsOnce (run (edited python)
      (run (edited python) GroupingDatabase.empty earlier) later) ∧
      KeepsMembers (run (edited python) GroupingDatabase.empty earlier)
        (run (edited python) (run (edited python) GroupingDatabase.empty earlier) later) :=
    run_invariant
      (fun database => MembershipsOnce database ∧
        KeepsMembers (run (edited python) GroupingDatabase.empty earlier) database)
      ⟨onceEarlier, List.Subset.refl _⟩
      (fun database event held =>
        ⟨(held.1.edited event).1, List.Subset.trans held.2 (held.1.edited event).2⟩)
      later
  exact kept.1.belongsOnce (kept.2 (List.mem_map_of_mem present))

theorem described_iff_admitted {database : GroupingDatabase} (once : MembershipsOnce database)
    (event : IncidentEvent) :
    EditDescribed python database event ↔ EditAdmitted python database event := by
  cases event with
  | grouping event => exact Iff.rfl
  | merge call => exact merge_described_iff once
  | split call => exact split_described_iff once

/-- In every run members are conserved; every merge and split leaves incidents that describe
their members and match alike just when each meets the condition. -/
theorem edits_conserve_and_describe_iff (python : PythonRuntime) (events : List IncidentEvent) :
    (ConservesMembers python events ∧
        Along (edited python) (EditDescribed python) GroupingDatabase.empty events) ↔
      Along (edited python) (EditAdmitted python) GroupingDatabase.empty events := by
  have always : Along (edited python) (fun _ _ => True) GroupingDatabase.empty events :=
    along_of_always fun _ _ => trivial
  have agree : Along (edited python) (EditDescribed python) GroupingDatabase.empty events ↔
      Along (edited python) (EditAdmitted python) GroupingDatabase.empty events :=
    always.congr_of_invariant MembershipsOnce membershipsOnce_empty
      (fun _ event once _ => (once.edited event).1)
      (fun _ event once _ => described_iff_admitted once event)
  rw [← agree]
  exact and_iff_right (conservesMembers python events)

def connectedEvents : List IncidentEvent :=
  [.grouping (.arrive
      { sampleAlert 0 "High latency" "firing" "prod" "low" with sourceConnectionId := some 3 }),
    .grouping (.arrive
      { sampleAlert 1 "High latency" "firing" "prod" "low" with sourceConnectionId := some 3 }),
    .grouping (.scan (sampleScan 3))]

def splitOfSecond : SplitCall :=
  ⟨1, [2], DateTime.addMinutes 0 5, fun _ => DateTime.addMinutes 0 5⟩

set_option maxRecDepth 4000 in
/-- The incident that is split off has lost the source connection. -/
theorem split_loses_source_connection :
    ¬ ∀ (python : PythonRuntime) (events : List IncidentEvent),
      ConservesMembers python events ∧
        Along (edited python) (EditDescribed python) GroupingDatabase.empty events := by
  intro described
  have along := (described .plain (connectedEvents ++ [.split splitOfSecond])).2
  rw [along_append] at along
  have splitDescribed := along.2.1
  obtain ⟨after, split_, incident, created, alert, member, different⟩ :
      ∃ after ∈ splitIncident .plain
          (run (edited .plain) GroupingDatabase.empty connectedEvents) splitOfSecond,
        ∃ incident ∈ after.incidents.lookup
          (run (edited .plain) GroupingDatabase.empty connectedEvents).incidents.nextKey,
        ∃ alert ∈ memberAlerts after.alerts after.members incident.id,
          incident.sourceConnectionId ≠ alert.sourceConnectionId := by
    decide
  exact different (((splitDescribed after split_).2 incident created).2.connection alert member)

end IncidentGrouping

end WebhookWise
