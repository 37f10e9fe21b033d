import WebhookWise.WorkflowUpdates
import WebhookWise.UndoStacks
import WebhookWise.GuardedRuns

/-!
# What an undo gives back

The transitions of a resource are an undo stack of snapshots.  Stepping back through it
restores the tracked fields, and nothing else that an update has written: the summary work
which a resolved incident queues stays queued.
-/

namespace WebhookWise

namespace Workflow

open GuardedRuns UndoStacks

variable {python : PythonRuntime}

/-! ## Timestamps -/

variable {resource : Resource}

/-- `datetime.fromisoformat` reads back what `utc_isoformat` prints of an instant. -/
def ReadsBack (python : PythonRuntime) (instant : DateTime) : Prop :=
  python.fromIsoformat (replaceZulu instant.utcIsoformat) = some ⟨instant, some 0⟩

/-- Every timestamp in a field reads back. -/
def ReadsBackIn (python : PythonRuntime) (value : Option DateTime) : Prop :=
  ∀ instant, value = some instant → ReadsBack python instant

/-- The timestamps of a resource that a snapshot prints can be read back. -/
structure Readable (python : PythonRuntime) (resource : Resource) : Prop where
  acknowledgedAt : ReadsBackIn python resource.acknowledgedAt
  resolvedAt : ReadsBackIn python resource.resolvedAt
  slaDueAt : ReadsBackIn python resource.slaDueAt
  endedAt : ReadsBackIn python (resource.incident.bind IncidentState.endedAt)

/-- The timestamps which an update can give a resource. -/
def ReadableUpdate (python : PythonRuntime) (update : WorkflowUpdate) : Prop :=
  ReadsBack python update.now ∧ ∀ minutes, update.changes.slaMinutes = some minutes →
    ReadsBack python (update.now.addMinutes minutes)

theorem restoredInstant_utcIsoformat {value : Option DateTime}
    (readable : ReadsBackIn python value) :
    restoredInstant python (value.map DateTime.utcIsoformat) = some value := by
  cases value with
  | none => rfl
  | some instant =>
      have read := readable instant rfl
      rw [ReadsBack] at read
      simp [restoredInstant, read]

theorem eq_of_map_utcIsoformat_eq {first second : Option DateTime}
    (firstReadable : ReadsBackIn python first) (secondReadable : ReadsBackIn python second)
    (same : first.map DateTime.utcIsoformat = second.map DateTime.utcIsoformat) :
    first = second := by
  have firstRead := restoredInstant_utcIsoformat firstReadable
  rw [same, restoredInstant_utcIsoformat secondReadable] at firstRead
  exact (Option.some.inj firstRead).symm

theorem Readable.endedAt_of_incident (readable : Readable python resource)
    {incident : IncidentState} (isIncident : resource.incident = some incident) :
    ReadsBackIn python incident.endedAt := by
  have endedAt := readable.endedAt
  rwa [isIncident] at endedAt

theorem snapshot_eq_iff {first second : Resource} (firstReadable : Readable python first)
    (secondReadable : Readable python second) :
    snapshot first = snapshot second ↔ first.tracked = second.tracked := by
  constructor
  · intro same
    simp only [snapshot, Snapshot.mk.injEq] at same
    obtain ⟨workflowStatus, assignee, team, acknowledgedAt, resolvedAt, slaDueAt, incident⟩ := same
    have sameAcknowledged := eq_of_map_utcIsoformat_eq firstReadable.acknowledgedAt
      secondReadable.acknowledgedAt acknowledgedAt
    have sameResolved := eq_of_map_utcIsoformat_eq firstReadable.resolvedAt
      secondReadable.resolvedAt resolvedAt
    have sameSla := eq_of_map_utcIsoformat_eq firstReadable.slaDueAt secondReadable.slaDueAt
      slaDueAt
    simp only [Resource.tracked, Tracked.mk.injEq, workflowStatus, assignee, team,
      sameAcknowledged, sameResolved, sameSla, true_and]
    cases firstKind : first.incident with
    | none =>
        cases secondKind : second.incident with
        | none => rfl
        | some incidentState => simp [firstKind, secondKind] at incident
    | some firstState =>
        cases secondKind : second.incident with
        | none => simp [firstKind, secondKind] at incident
        | some secondState =>
            simp only [firstKind, secondKind, Option.map_some, Option.some.injEq,
              Prod.mk.injEq] at incident
            have sameEnd := eq_of_map_utcIsoformat_eq (firstReadable.endedAt_of_incident firstKind)
              (secondReadable.endedAt_of_incident secondKind) incident.2
            simp [incident.1, sameEnd]
  · intro same
    simp only [Resource.tracked, Tracked.mk.injEq] at same
    obtain ⟨workflowStatus, assignee, team, acknowledgedAt, resolvedAt, slaDueAt, incident⟩ := same
    simp only [snapshot, Snapshot.mk.injEq, workflowStatus, assignee, team, acknowledgedAt,
      resolvedAt, slaDueAt, true_and]
    have printed := congrArg (Option.map fun state : String × Option DateTime =>
      (state.1, state.2.map DateTime.utcIsoformat)) incident
    simpa [Option.map_map, Function.comp_def] using printed

/-! ## What is not tracked -/

def Resource.unstamped (resource : Resource) : Resource :=
  { resource with updatedAt := none }

/-- What no snapshot holds of a resource. -/
structure Untracked where
  id : Nat
  incident : Option (Nat × Option String × Option JsonObject × SummaryWork)

def Resource.untracked (resource : Resource) : Untracked where
  id := resource.id
  incident := resource.incident.map fun incident =>
    (incident.alertCount, incident.topImportance, incident.summaryAnalysis, incident.summary)

theorem unstamped_eq {first second : Resource} (tracked : first.tracked = second.tracked)
    (untracked : first.untracked = second.untracked) :
    first.unstamped = second.unstamped := by
  obtain ⟨_, _, _, _, _, _, _, firstIncident, _⟩ := first
  obtain ⟨_, _, _, _, _, _, _, secondIncident, _⟩ := second
  simp only [Resource.tracked, Tracked.mk.injEq] at tracked
  obtain ⟨rfl, rfl, rfl, rfl, rfl, rfl, trackedIncident⟩ := tracked
  simp only [Resource.untracked, Untracked.mk.injEq] at untracked
  obtain ⟨rfl, untrackedIncident⟩ := untracked
  simp only [Resource.unstamped, Resource.mk.injEq, true_and, and_true]
  cases firstIncident <;> cases secondIncident <;> simp at trackedIncident untrackedIncident ⊢
  rename_i first second
  obtain ⟨_, _, _, _, _, _⟩ := first
  obtain ⟨_, _, _, _, _, _⟩ := second
  simp_all

theorem readable_of_tracked_eq {first second : Resource} (same : first.tracked = second.tracked)
    (readable : Readable python first) :
    Readable python second := by
  simp only [Resource.tracked, Tracked.mk.injEq] at same
  obtain ⟨-, -, -, acknowledgedAt, resolvedAt, slaDueAt, incident⟩ := same
  have endedAt := congrArg (Option.bind · Prod.snd) incident
  simp only [Option.bind_map, Function.comp_def] at endedAt
  exact ⟨acknowledgedAt ▸ readable.acknowledgedAt, resolvedAt ▸ readable.resolvedAt,
    slaDueAt ▸ readable.slaDueAt, endedAt ▸ readable.endedAt⟩

theorem exists_restore {earlier : Resource} (readable : Readable python earlier)
    (sameKind : earlier.incident.isSome = resource.incident.isSome) (now : DateTime) :
    ∃ restored, restore python resource (snapshot earlier) now = some restored ∧
      restored.tracked = earlier.tracked ∧ restored.untracked = resource.untracked := by
  have acknowledgedAt := restoredInstant_utcIsoformat readable.acknowledgedAt
  have resolvedAt := restoredInstant_utcIsoformat readable.resolvedAt
  have slaDueAt := restoredInstant_utcIsoformat readable.slaDueAt
  let restored (incident : Option IncidentState) : Resource :=
    { earlier with id := resource.id, incident := incident, updatedAt := some now }
  cases earlierKind : earlier.incident with
  | none =>
      have alert : resource.incident = none := by
        rw [earlierKind] at sameKind
        exact Option.isNone_iff_eq_none.1 (by simpa using sameKind.symm)
      refine ⟨restored none, ?_, ?_, ?_⟩
      · simp [restore, snapshot, acknowledgedAt, resolvedAt, slaDueAt, earlierKind, alert, restored]
      · simp [Resource.tracked, earlierKind, restored]
      · simp [Resource.untracked, alert, restored]
  | some earlierState =>
      obtain ⟨state, isIncident⟩ : ∃ state, resource.incident = some state := by
        rw [earlierKind] at sameKind
        exact Option.isSome_iff_exists.1 sameKind.symm
      have endedAt := restoredInstant_utcIsoformat (readable.endedAt_of_incident earlierKind)
      refine ⟨restored (some { state with
        status := earlierState.status, endedAt := earlierState.endedAt }), ?_, ?_, ?_⟩
      · simp [restore, snapshot, acknowledgedAt, resolvedAt, slaDueAt, earlierKind, isIncident,
          endedAt, restored]
      · simp [Resource.tracked, earlierKind, restored]
      · simp [Resource.untracked, isIncident, restored]

/-! ## Updates -/

/-- The update resolves or ignores an incident, and the summary work that this queues is not
what the incident has. -/
def RequeuesSummary (python : PythonRuntime) (resource : Resource) (update : WorkflowUpdate) :
    Prop :=
  ∃ incident newStatus, resource.incident = some incident ∧
    update.changes.workflowStatus = some newStatus ∧ newStatus ∈ terminalWorkflowStatuses ∧
      queueSummaryIfNeeded python update.minImportance update.now incident ≠ incident.summary

theorem patched_untracked {update : WorkflowUpdate}
    (keeps : ¬ RequeuesSummary python resource update) :
    (patched python update resource).untracked = resource.untracked := by
  unfold patched
  split
  · rfl
  rename_i newStatus requested
  by_cases blank : newStatus = ""
  · rw [if_pos blank]
    rfl
  rw [if_neg blank]
  simp only [Resource.untracked, withStatus, Untracked.mk.injEq, true_and]
  cases isIncident : resource.incident with
  | none => rfl
  | some incident =>
      simp only [Option.map_some, Option.some.injEq, incidentWithStatus]
      by_cases terminal : newStatus ∈ terminalWorkflowStatuses
      · have queued : queueSummaryIfNeeded python update.minImportance update.now incident =
            incident.summary := by
          by_contra requeued
          exact keeps ⟨incident, newStatus, isIncident, requested, terminal, requeued⟩
        simp [if_pos terminal, queued]
      · rw [if_neg terminal]
        split <;> rfl

theorem patched_isIncident (update : WorkflowUpdate) (resource : Resource) :
    (patched python update resource).incident.isSome = resource.incident.isSome := by
  unfold patched
  split
  · rfl
  · split
    · rfl
    · simp [withStatus]

theorem ReadsBackIn.ite {condition : Prop} [Decidable condition] {first second : Option DateTime}
    (firstReadable : ReadsBackIn python first) (secondReadable : ReadsBackIn python second) :
    ReadsBackIn python (if condition then first else second) := by
  split
  · exact firstReadable
  · exact secondReadable

theorem readsBackIn_some {instant : DateTime} (readable : ReadsBack python instant) :
    ReadsBackIn python (some instant) := by
  intro other same
  cases same
  exact readable

theorem readsBackIn_none : ReadsBackIn python none := by
  intro instant same
  cases same

theorem Readable.withStatus {resource : Resource} {now : DateTime}
    (readable : Readable python resource) (readableNow : ReadsBack python now)
    (minImportance newStatus : String) :
    Readable python (withStatus python minImportance now newStatus resource) where
  acknowledgedAt := .ite (readsBackIn_some readableNow) readable.acknowledgedAt
  resolvedAt := .ite (readsBackIn_some readableNow) (.ite readsBackIn_none readable.resolvedAt)
  slaDueAt := readable.slaDueAt
  endedAt := by
    simp only [Workflow.withStatus]
    cases isIncident : resource.incident with
    | none => exact readsBackIn_none
    | some incident =>
        have ended := readable.endedAt_of_incident isIncident
        simp only [Option.map_some, Option.bind_some, incidentWithStatus]
        split
        · cases endedAt : incident.endedAt with
          | none => exact readsBackIn_some readableNow
          | some instant => exact readsBackIn_some (ended instant endedAt)
        · split
          · exact readsBackIn_none
          · exact ended

theorem Readable.patched {resource : Resource} {update : WorkflowUpdate}
    (readable : Readable python resource) (readableUpdate : ReadableUpdate python update) :
    Readable python (patched python update resource) := by
  have sla {kept : Option DateTime} (readableKept : ReadsBackIn python kept) :
      ReadsBackIn python (if update.changes.clearSla then none
        else update.changes.slaMinutes.elim kept fun minutes =>
          some (update.now.addMinutes minutes)) := by
    refine .ite readsBackIn_none ?_
    cases minutes : update.changes.slaMinutes with
    | none => exact readableKept
    | some count => exact readsBackIn_some (readableUpdate.2 count minutes)
  have withStatus (newStatus : String) :=
    readable.withStatus readableUpdate.1 update.minImportance newStatus
  unfold Workflow.patched
  split
  · exact ⟨readable.acknowledgedAt, readable.resolvedAt, sla readable.slaDueAt, readable.endedAt⟩
  rename_i newStatus _
  by_cases blank : newStatus = ""
  · simp only [if_pos blank]
    exact ⟨readable.acknowledgedAt, readable.resolvedAt, sla readable.slaDueAt, readable.endedAt⟩
  · simp only [if_neg blank]
    have stated := withStatus newStatus
    exact ⟨stated.acknowledgedAt, stated.resolvedAt, sla stated.slaDueAt, stated.endedAt⟩

/-! ## The stack of transitions -/

/-- A snapshot of a readable resource of the given kind. -/
def Restorable (python : PythonRuntime) (isIncident : Bool) (state : Snapshot) : Prop :=
  ∃ resource, Readable python resource ∧ resource.incident.isSome = isIncident ∧
    snapshot resource = state

/-- The applied transitions lead from the current state back through the past ones. -/
inductive Stacked (python : PythonRuntime) (isIncident : Bool) :
    List WorkflowTransition → Snapshot → List Snapshot → Prop
  | empty (current : Snapshot) : Stacked python isIncident [] current []
  | undone {transition : WorkflowTransition} {transitions : List WorkflowTransition}
      {current : Snapshot} {past : List Snapshot} (isUndone : transition.applied = false)
      (below : Stacked python isIncident transitions current past) :
      Stacked python isIncident (transition :: transitions) current past
  | applied {transition : WorkflowTransition} {transitions : List WorkflowTransition}
      {past : List Snapshot} (isApplied : transition.applied = true)
      (restorable : Restorable python isIncident transition.beforeState)
      (below : Stacked python isIncident transitions transition.beforeState past) :
      Stacked python isIncident (transition :: transitions) transition.afterState
        (transition.beforeState :: past)

theorem Stacked.pop {isIncident : Bool} {transitions : List WorkflowTransition}
    {current earlier : Snapshot} {past : List Snapshot}
    (stacked : Stacked python isIncident transitions current (earlier :: past)) (now : DateTime) :
    ∃ transition, latestApplied transitions = some transition ∧
      transition.afterState = current ∧ transition.beforeState = earlier ∧
      Restorable python isIncident earlier ∧
      Stacked python isIncident (markUndone now transitions) earlier past := by
  generalize states : earlier :: past = stack at stacked
  induction stacked with
  | empty => cases states
  | undone isUndone below ih =>
      obtain ⟨transition, latest, after, before, restorable, rest⟩ := ih states
      refine ⟨transition, ?_, after, before, restorable, ?_⟩
      · rw [latestApplied, List.find?_cons_of_neg (by simp [isUndone])]
        exact latest
      · rw [markUndone, if_neg (by simp [isUndone])]
        exact .undone isUndone rest
  | applied isApplied restorable below ih =>
      cases states
      refine ⟨_, List.find?_cons_of_pos isApplied, rfl, rfl, restorable, ?_⟩
      rw [markUndone, if_pos isApplied]
      exact .undone rfl below

/-- The database holds the state and the past of a history. -/
structure Represents (python : PythonRuntime) (database : WorkflowDatabase)
    (history : History Snapshot) : Prop where
  current : snapshot database.resource = history.current
  stacked : Stacked python database.resource.incident.isSome database.transitions history.current
    history.past
  readable : Readable python database.resource

theorem updateWorkflow_tracked (database : WorkflowDatabase) (update : WorkflowUpdate) :
    (updateWorkflow python database update).resource.tracked =
      (patched python update database.resource).tracked :=
  rfl

theorem updateWorkflow_untracked (database : WorkflowDatabase) (update : WorkflowUpdate) :
    (updateWorkflow python database update).resource.untracked =
      (patched python update database.resource).untracked :=
  rfl

theorem updateWorkflow_snapshot (database : WorkflowDatabase) (update : WorkflowUpdate) :
    snapshot (updateWorkflow python database update).resource =
      snapshot (patched python update database.resource) :=
  rfl

theorem Represents.updateWorkflow {database : WorkflowDatabase} {history : History Snapshot}
    (represents : Represents python database history) {update : WorkflowUpdate}
    (readableUpdate : ReadableUpdate python update) :
    Represents python (updateWorkflow python database update)
      (history.record (snapshot (updateWorkflow python database update).resource)) := by
  refine ⟨by simp, ?_, ?_⟩
  · have sameKind : (Workflow.updateWorkflow python database update).resource.incident.isSome =
        database.resource.incident.isSome :=
      patched_isIncident update database.resource
    rw [sameKind, updateWorkflow_snapshot]
    by_cases unchanged : snapshot (patched python update database.resource) =
        snapshot database.resource
    · rw [History.record, if_pos (unchanged.trans represents.current)]
      simpa only [Workflow.updateWorkflow, unchanged, ne_eq, not_true_eq_false, if_false] using
        represents.stacked
    · have changed : snapshot (patched python update database.resource) ≠ history.current :=
        fun same => unchanged (same.trans represents.current.symm)
      rw [History.record, if_neg changed]
      simp only [Workflow.updateWorkflow, ne_eq, unchanged, not_false_eq_true, if_true]
      rw [← represents.current]
      refine .applied rfl ⟨database.resource, represents.readable, rfl, rfl⟩ ?_
      rw [represents.current]
      exact represents.stacked
  · exact readable_of_tracked_eq (updateWorkflow_tracked database update).symm
      (represents.readable.patched readableUpdate)

theorem Represents.undoWorkflow {database : WorkflowDatabase} {history earlier : History Snapshot}
    (represents : Represents python database history) (stepped : history.back = some earlier)
    (now : DateTime) :
    (undoWorkflow python database now).1 = .undone ∧
      Represents python (undoWorkflow python database now).2 earlier ∧
      (undoWorkflow python database now).2.resource.untracked = database.resource.untracked := by
  obtain ⟨current, past⟩ := history
  cases past with
  | nil => cases stepped
  | cons state past =>
      cases stepped
      obtain ⟨transition, latest, after, before, ⟨resource, readable, sameKind, isState⟩, rest⟩ :=
        represents.stacked.pop now
      obtain ⟨restored, restores, tracked, untracked⟩ := exists_restore readable sameKind now
      have unchanged : snapshot database.resource = transition.afterState :=
        represents.current.trans after.symm
      rw [isState] at restores
      have undone : Workflow.undoWorkflow python database now =
          (.undone, ⟨restored, markUndone now database.transitions⟩) := by
        simp only [Workflow.undoWorkflow, latest, unchanged, ne_eq, not_true_eq_false, if_false,
          before, restores]
      rw [undone]
      have readableRestored := readable_of_tracked_eq tracked.symm readable
      have restoredKind : restored.incident.isSome = database.resource.incident.isSome := by
        have kinds := congrArg (fun part => part.incident.isSome) untracked
        simpa [Resource.untracked] using kinds
      refine ⟨rfl, ⟨?_, ?_, readableRestored⟩, untracked⟩
      · exact ((snapshot_eq_iff readableRestored readable).2 tracked).trans isState
      · rw [restoredKind]
        exact rest

theorem Stacked.latestApplied_eq_none {isIncident : Bool} {transitions : List WorkflowTransition}
    {current : Snapshot} (stacked : Stacked python isIncident transitions current []) :
    latestApplied transitions = none := by
  generalize none : ([] : List Snapshot) = past at stacked
  induction stacked with
  | empty => rfl
  | undone isUndone below ih =>
      rw [latestApplied, List.find?_cons_of_neg (by simp [isUndone])]
      exact ih none
  | applied isApplied restorable below ih => cases none

/-! ## Runs -/

inductive WorkflowCall where
  | update (patch : WorkflowUpdate)
  | undo (now : DateTime)

def WorkflowCall.Readable (python : PythonRuntime) : WorkflowCall → Prop
  | .update patch => ReadableUpdate python patch
  | .undo _ => True

def called (python : PythonRuntime) (database : WorkflowDatabase) :
    WorkflowCall → WorkflowDatabase
  | .update patch => updateWorkflow python database patch
  | .undo now => (undoWorkflow python database now).2

def undoStep (python : PythonRuntime) (database : WorkflowDatabase) (now : DateTime) :
    WorkflowDatabase :=
  (undoWorkflow python database now).2

def WorkflowDatabase.initial (resource : Resource) : WorkflowDatabase where
  resource := resource
  transitions := []

def effectiveUpdates (python : PythonRuntime) : WorkflowDatabase → List WorkflowUpdate → Nat
  | _, [] => 0
  | database, update :: updates =>
      effectiveUpdates python (updateWorkflow python database update) updates +
        if snapshot (updateWorkflow python database update).resource =
            snapshot database.resource then 0 else 1

def statesAlong (python : PythonRuntime) : WorkflowDatabase → List WorkflowUpdate → List Snapshot
  | _, [] => []
  | database, update :: updates =>
      snapshot (updateWorkflow python database update).resource ::
        statesAlong python (updateWorkflow python database update) updates

theorem exists_represents_called {database : WorkflowDatabase} {call : WorkflowCall}
    (readableCall : call.Readable python)
    (represented : ∃ history, Represents python database history) :
    ∃ history, Represents python (called python database call) history := by
  obtain ⟨history, represents⟩ := represented
  cases call with
  | update patch => exact ⟨_, represents.updateWorkflow readableCall⟩
  | undo now =>
      cases stepped : history.back with
      | some earlier => exact ⟨earlier, (represents.undoWorkflow stepped now).2.1⟩
      | none =>
          obtain ⟨current, past⟩ := history
          cases past with
          | cons state past => cases stepped
          | nil =>
              refine ⟨⟨current, []⟩, ?_⟩
              rw [called, undoWorkflow, represents.stacked.latestApplied_eq_none]
              exact represents

theorem exists_represents_run (readable : Readable python resource) {calls : List WorkflowCall}
    (readableCalls : ∀ call ∈ calls, call.Readable python) :
    ∃ history, Represents python (run (called python) (.initial resource) calls) history := by
  have admitted : Along (called python) (fun _ call => call.Readable python) (.initial resource)
      calls :=
    along_of_forall readableCalls
  refine admitted.invariant (fun database => ∃ history, Represents python database history)
    ⟨⟨snapshot resource, []⟩, rfl, .empty _, readable⟩ ?_
  intro database call represented readableCall
  exact exists_represents_called readableCall represented

theorem Represents.run_updateWorkflow {updates : List WorkflowUpdate} :
    ∀ {database : WorkflowDatabase} {history : History Snapshot},
      Represents python database history →
      (∀ update ∈ updates, ReadableUpdate python update) →
      Represents python (run (Workflow.updateWorkflow python) database updates)
          ((statesAlong python database updates).foldl History.record history) ∧
        effectiveUpdates python database updates =
          history.effective (statesAlong python database updates) := by
  induction updates with
  | nil =>
      intro database history represents _
      exact ⟨represents, rfl⟩
  | cons update updates ih =>
      intro database history represents readableUpdates
      obtain ⟨recorded, counted⟩ := ih (represents.updateWorkflow (readableUpdates update (by simp)))
        fun other member => readableUpdates other (List.mem_cons_of_mem _ member)
      refine ⟨recorded, ?_⟩
      rw [effectiveUpdates, statesAlong, History.effective, counted, represents.current]

theorem run_updateWorkflow_untracked {database : WorkflowDatabase} {updates : List WorkflowUpdate}
    (keeps : Along (updateWorkflow python)
      (fun database update => ¬ RequeuesSummary python database.resource update) database updates) :
    (run (updateWorkflow python) database updates).resource.untracked =
      database.resource.untracked := by
  induction updates generalizing database with
  | nil => rfl
  | cons update updates ih =>
      rw [run_cons, ih keeps.2, updateWorkflow_untracked]
      exact patched_untracked keeps.1

theorem Represents.run_undoStep {undos : List DateTime} :
    ∀ {database : WorkflowDatabase} {history earlier : History Snapshot},
      Represents python database history →
      History.backTimes undos.length history = some earlier →
      Along (undoStep python) (fun database now => (Workflow.undoWorkflow python database now).1 =
          .undone) database undos ∧
        Represents python (run (undoStep python) database undos) earlier ∧
        (run (undoStep python) database undos).resource.untracked =
          database.resource.untracked := by
  induction undos with
  | nil =>
      intro database history earlier represents stepped
      cases stepped
      exact ⟨trivial, represents, rfl⟩
  | cons now undos ih =>
      intro database history earlier represents stepped
      rw [List.length_cons, History.backTimes, Option.bind_eq_some_iff] at stepped
      obtain ⟨middle, first, rest⟩ := stepped
      obtain ⟨undone, left, untracked⟩ := represents.undoWorkflow first now
      obtain ⟨along, reached, untrackedRest⟩ := ih left rest
      exact ⟨⟨undone, along⟩, reached, untrackedRest.trans untracked⟩

def afterCalls (python : PythonRuntime) (resource : Resource) (calls : List WorkflowCall) :
    WorkflowDatabase :=
  run (called python) (.initial resource) calls

section Undos

variable {resource : Resource} {calls : List WorkflowCall} {updates : List WorkflowUpdate}
  {undos : List DateTime}

theorem undos_give_back (readable : Readable python resource)
    (readableCalls : ∀ call ∈ calls, call.Readable python)
    (readableUpdates : ∀ update ∈ updates, ReadableUpdate python update)
    (count : undos.length = effectiveUpdates python (afterCalls python resource calls) updates) :
    Along (undoStep python) (fun database now => (undoWorkflow python database now).1 = .undone)
        (run (updateWorkflow python) (afterCalls python resource calls) updates) undos ∧
      (run (undoStep python)
          (run (updateWorkflow python) (afterCalls python resource calls) updates)
          undos).resource.tracked =
        (afterCalls python resource calls).resource.tracked ∧
      (run (undoStep python)
          (run (updateWorkflow python) (afterCalls python resource calls) updates)
          undos).resource.untracked =
        (run (updateWorkflow python) (afterCalls python resource calls) updates).resource.untracked := by
  obtain ⟨history, represents⟩ := exists_represents_run readable readableCalls
  obtain ⟨recorded, counted⟩ := represents.run_updateWorkflow readableUpdates
  have stepped := History.backTimes_effective history
    (statesAlong python (run (called python) (.initial resource) calls) updates)
  rw [← counted, ← afterCalls, ← count] at stepped
  obtain ⟨along, back, untracked⟩ := recorded.run_undoStep stepped
  refine ⟨along, ?_, untracked⟩
  exact (snapshot_eq_iff back.readable represents.readable).1
    (back.current.trans represents.current.symm)

theorem undoWorkflow_of_changed {database : WorkflowDatabase} {left : Resource}
    {transition : WorkflowTransition} (readable : Readable python database.resource)
    (readableLeft : Readable python left)
    (latest : latestApplied database.transitions = some transition)
    (leaves : transition.afterState = snapshot left)
    (changed : database.resource.tracked ≠ left.tracked) (now : DateTime) :
    undoWorkflow python database now = (.changedSince, database) := by
  have differs : snapshot database.resource ≠ transition.afterState := by
    rw [leaves]
    exact fun same => changed ((snapshot_eq_iff readable readableLeft).1 same)
  simp only [undoWorkflow, latest, if_pos differs]

/-- Where no update queues other summary work, the undos restore everything but the stamp of
the latest flush; and an undo refuses a resource whose tracked fields have changed since. -/
theorem undos_restore (readable : Readable python resource)
    (readableCalls : ∀ call ∈ calls, call.Readable python)
    (readableUpdates : ∀ update ∈ updates, ReadableUpdate python update)
    (count : undos.length = effectiveUpdates python (afterCalls python resource calls) updates)
    (keeps : Along (updateWorkflow python)
      (fun database update => ¬ RequeuesSummary python database.resource update)
      (afterCalls python resource calls) updates) :
    Along (undoStep python) (fun database now => (undoWorkflow python database now).1 = .undone)
        (run (updateWorkflow python) (afterCalls python resource calls) updates) undos ∧
      (run (undoStep python)
          (run (updateWorkflow python) (afterCalls python resource calls) updates)
          undos).resource.unstamped =
        (afterCalls python resource calls).resource.unstamped ∧
      ∀ (database : WorkflowDatabase) (left : Resource) (transition : WorkflowTransition)
        (now : DateTime), Readable python database.resource → Readable python left →
          latestApplied database.transitions = some transition →
          transition.afterState = snapshot left → database.resource.tracked ≠ left.tracked →
          undoWorkflow python database now = (.changedSince, database) := by
  obtain ⟨along, tracked, untracked⟩ :=
    undos_give_back readable readableCalls readableUpdates count
  refine ⟨along, unstamped_eq tracked (untracked.trans (run_updateWorkflow_untracked keeps)), ?_⟩
  intro database left transition now readableNow readableLeft latest leaves changed
  exact undoWorkflow_of_changed readableNow readableLeft latest leaves changed now

end Undos

/-! ## An incident that is resolved by mistake -/

def runtimeOfMistake : PythonRuntime :=
  .ascii ⟨[("2024-02-29T12:34:56.789000+00:00", ⟨1709210096789000, some 0⟩)], [], [], []⟩

def openIncident : Resource where
  id := 7
  workflowStatus := "open"
  assignee := none
  team := none
  acknowledgedAt := none
  resolvedAt := none
  slaDueAt := none
  incident := some
    { status := "active"
      endedAt := none
      alertCount := 2
      topImportance := some "high"
      summaryAnalysis := none
      summary := ⟨none, 0, none, none⟩ }
  updatedAt := none

def tapped (status : String) : WorkflowUpdate where
  changes := ⟨some status, none, none, false, none⟩
  actor := "dashboard"
  now := 1709210096789000
  flushedAt := 1709210096790000
  minImportance := "low"

theorem openIncident_readable : Readable runtimeOfMistake openIncident :=
  ⟨readsBackIn_none, readsBackIn_none, readsBackIn_none, readsBackIn_none⟩

theorem tapped_readable (status : String) : ReadableUpdate runtimeOfMistake (tapped status) := by
  have readsBack : ReadsBack runtimeOfMistake 1709210096789000 := by
    unfold ReadsBack
    decide
  exact ⟨readsBack, fun minutes none => by cases none⟩

/-- The summary work that the resolution queued outlives its undo. -/
theorem resolved_by_mistake_keeps_summary_queued :
    effectiveUpdates runtimeOfMistake (afterCalls runtimeOfMistake openIncident [])
        [tapped "resolved"] = 1 ∧
      (undoWorkflow runtimeOfMistake
          (updateWorkflow runtimeOfMistake (.initial openIncident) (tapped "resolved"))
          1709210097000000).1 = .undone ∧
      (undoWorkflow runtimeOfMistake
          (updateWorkflow runtimeOfMistake (.initial openIncident) (tapped "resolved"))
          1709210097000000).2.resource.unstamped ≠ openIncident.unstamped := by
  refine ⟨by decide, by decide, fun same => ?_⟩
  have summaries := congrArg Resource.summary same
  exact absurd summaries (by decide)

def assigned : WorkflowUpdate :=
  { tapped "acknowledged" with changes := ⟨none, some (some "dana"), none, false, none⟩ }

/-- The second tap changes nothing, so that two undos take all three updates back. -/
def mistakes : List WorkflowUpdate :=
  [tapped "acknowledged", assigned, tapped "acknowledged"]

theorem acknowledged_by_mistake_is_restored :
    (run (undoStep runtimeOfMistake)
        (run (updateWorkflow runtimeOfMistake) (afterCalls runtimeOfMistake openIncident [])
          mistakes)
        [1709210097000000, 1709210098000000]).resource.unstamped =
      (afterCalls runtimeOfMistake openIncident []).resource.unstamped := by
  have pending : ∀ database, ∀ update ∈ mistakes,
      ¬ RequeuesSummary runtimeOfMistake database update := by
    rintro database update member ⟨incident, newStatus, -, requested, terminal, -⟩
    simp only [mistakes, List.mem_cons, List.not_mem_nil, or_false] at member
    rcases member with rfl | rfl | rfl <;> cases requested <;> exact absurd terminal (by decide)
  have keeps : Along (updateWorkflow runtimeOfMistake)
      (fun database update => ¬ RequeuesSummary runtimeOfMistake database.resource update)
      (afterCalls runtimeOfMistake openIncident []) mistakes :=
    ⟨pending _ _ (by simp [mistakes]), pending _ _ (by simp [mistakes]),
      pending _ _ (by simp [mistakes]), trivial⟩
  have readable : ∀ update ∈ mistakes, ReadableUpdate runtimeOfMistake update := by
    intro update member
    simp only [mistakes, List.mem_cons, List.not_mem_nil, or_false] at member
    rcases member with rfl | rfl | rfl
    · exact tapped_readable "acknowledged"
    · exact ⟨(tapped_readable "acknowledged").1, fun minutes none => by cases none⟩
    · exact tapped_readable "acknowledged"
  exact (undos_restore openIncident_readable (by simp) readable (by decide) keeps).2.1

end Workflow

end WebhookWise
