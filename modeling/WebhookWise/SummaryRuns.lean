import WebhookWise.IncidentSummaries

/-!
# Which summaries are stuck

A worker that goes away leaves its incident in processing, and the lease brings it back to be
claimed again.  The claim asks for fewer than five attempts, so an incident whose fifth attempt goes
away stays in processing for ever.
-/

namespace WebhookWise

namespace IncidentSummaries

open GuardedRuns PagedBacklogs SqlTable Workflow

/-! ## What is true of the work of any incident -/

structure Sound (incident : IncidentState) : Prop where
  completed_iff : incident.summary.status = some "completed" ↔ incident.summaryAnalysis.isSome
  attempts_le : incident.summary.attempts ≤ summaryMaxAttempts
  attempts_lt : incident.summary.status = some "pending" ∨
    incident.summary.status = some "retrying" → incident.summary.attempts < summaryMaxAttempts
  scheduled : incident.summary.status ∈ unfinished → incident.summary.nextAttemptAt.isSome

namespace Sound

variable {incident : IncidentState}

private theorem of_ended (noSummary : incident.summaryAnalysis = none)
    (attempts : incident.summary.attempts ≤ summaryMaxAttempts)
    (ended : incident.summary.status ∉ unfinished)
    (notCompleted : incident.summary.status ≠ some "completed") : Sound incident where
  completed_iff := by simp [noSummary, notCompleted]
  attempts_le := attempts
  attempts_lt := by
    rintro (pending | retrying)
    · exact absurd (by simp [unfinished, pending]) ended
    · exact absurd (by simp [unfinished, retrying]) ended
  scheduled := fun open_ => absurd open_ ended

private theorem of_unqueued (noSummary : incident.summaryAnalysis = none)
    (unqueued : incident.summary = ⟨none, 0, none, none⟩) : Sound incident :=
  of_ended noSummary (by simp [unqueued]) (by simp [unqueued, unfinished]) (by simp [unqueued])

theorem opened (alertCount : Nat) (topImportance : Option String) :
    Sound (opened alertCount topImportance) :=
  of_unqueued rfl rfl

theorem edited (sound : Sound incident) (status : String) (endedAt : Option DateTime)
    (alertCount : Nat) (topImportance : Option String) :
    Sound (edited status endedAt alertCount topImportance incident) where
  completed_iff := sound.completed_iff
  attempts_le := sound.attempts_le
  attempts_lt := sound.attempts_lt
  scheduled := sound.scheduled

theorem requeued (noSummary : incident.summaryAnalysis = none) (now : DateTime) :
    Sound (requeued now incident) where
  completed_iff := by simp [IncidentSummaries.requeued, noSummary]
  attempts_le := Nat.zero_le _
  attempts_lt := fun _ => (show 0 < summaryMaxAttempts by decide)
  scheduled := fun _ => rfl

theorem skipped (sound : Sound incident) (noSummary : incident.summaryAnalysis = none) :
    Sound (skipped incident) :=
  of_ended noSummary sound.attempts_le (by simp [IncidentSummaries.skipped, unfinished])
    (by simp [IncidentSummaries.skipped])

theorem settled (sound : Sound incident) (python : PythonRuntime) (minImportance : String)
    (now : DateTime) (status : SettledStatus) :
    Sound (settled python minImportance now status incident) := by
  unfold IncidentSummaries.settled queueSummaryIfNeeded
  dsimp only
  split
  · exact
      { completed_iff := sound.completed_iff
        attempts_le := sound.attempts_le
        attempts_lt := sound.attempts_lt
        scheduled := sound.scheduled }
  · rename_i summary
    have noSummary : incident.summaryAnalysis = none := by simpa using summary
    split
    · exact of_ended noSummary sound.attempts_le (by simp [unfinished]) (by simp)
    · split
      · exact @requeued { incident with status := status.text } noSummary now
      · exact of_ended noSummary sound.attempts_le (by simp [unfinished]) (by simp)

theorem reopened (sound : Sound incident) : Sound (reopened incident) := by
  cases summary : incident.summaryAnalysis with
  | none => exact of_unqueued summary (by simp [IncidentSummaries.reopened, summary])
  | some summaryData =>
      unfold IncidentSummaries.reopened
      rw [summary]
      exact
        { completed_iff := by simpa [summary] using sound.completed_iff
          attempts_le := sound.attempts_le
          attempts_lt := sound.attempts_lt
          scheduled := sound.scheduled }

theorem completed (sound : Sound incident) (summaryData : JsonObject) :
    Sound (completed summaryData incident) where
  completed_iff := by simp [IncidentSummaries.completed]
  attempts_le := sound.attempts_le
  attempts_lt := by simp [IncidentSummaries.completed]
  scheduled := by simp [IncidentSummaries.completed, unfinished]

theorem claimed (noSummary : incident.summaryAnalysis = none)
    (attempts : incident.summary.attempts < summaryMaxAttempts) (now : DateTime) :
    Sound (claimed now incident) where
  completed_iff := by simp [IncidentSummaries.claimed, noSummary]
  attempts_le := attempts
  attempts_lt := by simp [IncidentSummaries.claimed]
  scheduled := fun _ => rfl

theorem retried (sound : Sound incident) (now : DateTime) (error : SummaryError) :
    Sound (retried now error incident) := by
  unfold IncidentSummaries.retried
  split
  · exact sound
  · rename_i summary
    have noSummary : incident.summaryAnalysis = none := by simpa using summary
    dsimp only
    split
    · exact of_ended noSummary sound.attempts_le (by simp [unfinished]) (by simp)
    · rename_i goesOn
      exact
        { completed_iff := by simp [noSummary]
          attempts_le := sound.attempts_le
          attempts_lt := fun _ => Nat.lt_of_not_le fun last => goesOn (Or.inr last)
          scheduled := fun _ => rfl }

end Sound

/-! ## Rows under an update -/

variable {change : IncidentState → IncidentState} {incidents : IncidentTable} {now : DateTime}
  {guard : IncidentRow → Bool} {incident : IncidentState}

section Touched

variable {incidents : IncidentTable} {guard : IncidentRow → Bool}
  {change : IncidentState → IncidentState}

def touchedRow (guard : IncidentRow → Bool) (change : IncidentState → IncidentState)
    (row : IncidentRow) : IncidentRow :=
  if guard row then { row with state := change row.state } else row

theorem touched_rows : (touched incidents guard change).rows =
    incidents.rows.map (touchedRow guard change) :=
  rfl

variable {row : IncidentRow}

theorem touchedRow_of_not (unguarded : guard row = false) : touchedRow guard change row = row := by
  simp [touchedRow, unguarded]

theorem touchedRow_of (guarded : guard row = true) :
    touchedRow guard change row = { row with state := change row.state } := by
  simp [touchedRow, guarded]

theorem lookup_touched (id : Nat) :
    (touched incidents guard change).lookup id =
      (incidents.lookup id).map (touchedRow guard change) :=
  Table.lookup_update _

theorem mem_touched_of_not (member : row ∈ incidents.rows) (unguarded : guard row = false) :
    row ∈ (touched incidents guard change).rows := by
  rw [touched_rows]
  exact List.mem_map.2 ⟨row, member, touchedRow_of_not unguarded⟩

theorem forall_touched {Before After : IncidentRow → Prop}
    (all : ∀ row ∈ incidents.rows, Before row)
    (kept : ∀ row ∈ incidents.rows, Before row → guard row = false → After row)
    (changed : ∀ row ∈ incidents.rows, Before row → guard row = true →
      After { row with state := change row.state }) :
    ∀ row ∈ (touched incidents guard change).rows, After row := by
  intro row member
  rw [touched_rows] at member
  obtain ⟨old, oldMember, rfl⟩ := List.mem_map.1 member
  unfold touchedRow
  cases guarded : guard old with
  | true => exact changed old oldMember (all old oldMember) guarded
  | false => exact kept old oldMember (all old oldMember) guarded

end Touched

section Steps

variable (python : PythonRuntime)

def AllSound (store : SummaryStore) : Prop :=
  ∀ row ∈ store.incidents.rows, Sound row.state

theorem isWaiting_iff : isWaiting incident = true ↔
    (incident.status = "quiet" ∨ incident.status = "closed") ∧ 2 ≤ incident.alertCount ∧
      incident.summaryAnalysis = none ∧ incident.summary.status ∈ unfinished := by
  simp [isWaiting, and_assoc]

theorem noSummary_of_isClaimable (claimable : isClaimable now incident = true) :
    incident.summaryAnalysis = none ∧ incident.summary.attempts < summaryMaxAttempts := by
  simp only [isClaimable, Bool.and_eq_true, decide_eq_true_eq] at claimable
  exact ⟨(isWaiting_iff.1 claimable.1.1).2.2.1, claimable.2⟩

theorem sound_touched (sound : ∀ row ∈ incidents.rows, Sound row.state)
    (keeps : ∀ row ∈ incidents.rows, Sound row.state → guard row = true → Sound (change row.state))
    :
    ∀ row ∈ (touched incidents guard change).rows, Sound row.state :=
  forall_touched sound (fun _ _ isSound _ => isSound) keeps

theorem sound_swept (sound : ∀ row ∈ incidents.rows, Sound row.state) :
    ∀ row ∈ (swept incidents).rows, Sound row.state := by
  apply sound_touched sound
  intro row _ isSound ineligible
  refine isSound.skipped ?_
  simp only [isIneligible, Bool.and_eq_true, Option.isNone_iff_eq_none] at ineligible
  exact ineligible.1.2

theorem mem_pendingBatch {row : IncidentRow} (member : row ∈ pendingBatch now incidents) :
    row ∈ incidents.rows ∧ isClaimable now row.state = true := by
  have taken := List.mem_of_mem_take member
  rw [List.mem_insertionSort] at taken
  exact List.mem_filter.1 taken

theorem isClaimable_of_mem_ids {row : IncidentRow} (member : row ∈ incidents.rows)
    (chosen : row.id ∈ (pendingBatch now incidents).map IncidentRow.id) :
    row ∈ pendingBatch now incidents := by
  obtain ⟨other, inBatch, sameId⟩ := List.mem_map.1 chosen
  have same : other = row := incidents.eq_of_key_eq (mem_pendingBatch inBatch).1 member sameId
  exact same ▸ inBatch

theorem sound_claim (sound : ∀ row ∈ incidents.rows, Sound row.state) :
    ∀ row ∈ (claimPendingSummaries now incidents).1.rows, Sound row.state := by
  apply sound_touched sound
  intro row member _ chosen
  have inBatch := isClaimable_of_mem_ids member (of_decide_eq_true chosen)
  obtain ⟨noSummary, attempts⟩ := noSummary_of_isClaimable (mem_pendingBatch inBatch).2
  exact Sound.claimed noSummary attempts now

theorem allSound_step (store : SummaryStore) (event : Event) (sound : AllSound store) :
    AllSound (step python store event) := by
  cases event with
  | create alertCount topImportance =>
      intro row member
      rcases Table.mem_insert.1 member with old | rfl
      · exact sound row old
      · exact Sound.opened alertCount topImportance
  | edit id status endedAt alertCount topImportance =>
      exact sound_touched sound fun row _ isSound _ =>
        isSound.edited status endedAt alertCount topImportance
  | settle id status minImportance now =>
      exact sound_touched sound fun row _ isSound _ =>
        isSound.settled python minImportance now status
  | reopen id => exact sound_touched sound fun row _ isSound _ => isSound.reopened
  | requeue ids now =>
      apply sound_touched sound
      intro row _ isSound selected
      refine Sound.requeued ?_ now
      have retriable := (Bool.and_eq_true_iff.1 selected).2
      have notCompleted : row.state.summary.status ≠ some "completed" := by
        intro isCompleted
        simp [isRetriable, isCompleted] at retriable
      simpa [isSound.completed_iff] using notCompleted
  | summarize id summaryData =>
      exact sound_touched sound fun row _ isSound _ => isSound.completed summaryData
  | sweep => exact sound_swept sound
  | runPending now available =>
      cases available with
      | true => exact sound_claim (sound_swept sound)
      | false => exact sound_swept sound
  | finish call summaryData =>
      exact sound_touched sound fun row _ isSound _ => isSound.completed summaryData
  | fail call error now =>
      exact sound_touched sound fun row _ isSound _ => isSound.retried now error
  | crash call => exact sound

end Steps

/-! ## Calls that hold an incident -/

/-- A call has still to finish an incident. -/
def HeldBy (store : SummaryStore) (call id : Nat) : Prop :=
  ∃ ids, store.calls[call]? = some ids ∧ id ∈ ids

def Held (store : SummaryStore) (id : Nat) : Prop :=
  ∃ call, HeldBy store call id

theorem held_outcome {store : SummaryStore} {call id : Nat} (held : Held store id)
    (notCurrent : store.current? call ≠ some id) : Held (store.outcome call change) id := by
  obtain ⟨other, ids, found, member⟩ := held
  refine ⟨other, if call = other then ids.tail else ids, ?_, ?_⟩
  · change (store.calls.modify call List.tail)[other]? = _
    rw [List.getElem?_modify, found]
    by_cases same : call = other
    · simp [same]
    · simp [same]
  · by_cases same : call = other
    · rw [if_pos same]
      subst same
      cases ids with
      | nil => simp at member
      | cons head rest =>
          rcases List.mem_cons.1 member with rfl | later
          · exact absurd (by simp [SummaryStore.current?, found]) notCurrent
          · exact later
    · rwa [if_neg same]

theorem held_crash_iff (python : PythonRuntime) {store : SummaryStore} {call id : Nat} :
    Held (step python store (.crash call)) id ↔ ∃ other, other ≠ call ∧ HeldBy store other id := by
  have callsAfter (other : Nat) : (step python store (.crash call)).calls[other]? =
      if call = other then store.calls[other]?.map fun _ => [] else store.calls[other]? := by
    change (store.calls.modify call fun _ => [])[other]? = _
    rw [List.getElem?_modify]
    split
    · rfl
    · simp
  constructor
  · rintro ⟨other, ids, found, member⟩
    rw [callsAfter] at found
    by_cases same : call = other
    · rw [if_pos same, Option.map_eq_some_iff] at found
      obtain ⟨old, -, rfl⟩ := found
      simp at member
    · rw [if_neg same] at found
      exact ⟨other, Ne.symm same, ids, found, member⟩
  · rintro ⟨other, differs, ids, found, member⟩
    exact ⟨other, ids, by rw [callsAfter, if_neg (Ne.symm differs), found], member⟩

theorem held_runPending (python : PythonRuntime) {store : SummaryStore} {now : DateTime} {id : Nat}
    (held : Held store id ∨ id ∈ (claimPendingSummaries now (swept store.incidents)).2) :
    Held (step python store (.runPending now true)) id := by
  rcases held with ⟨call, ids, found, member⟩ | claimedNow
  · refine ⟨call, ids, ?_, member⟩
    have inRange : call < store.calls.length := (List.getElem?_eq_some_iff.1 found).1
    change (store.calls ++ [_])[call]? = some ids
    rw [List.getElem?_append_left inRange, found]
  · refine ⟨store.calls.length, _, ?_, claimedNow⟩
    change (store.calls ++ [_])[store.calls.length]? = some _
    rw [List.getElem?_append_right (Nat.le_refl _), Nat.sub_self]
    rfl

/-! ## What it is to be stuck -/

section Statement

variable (python : PythonRuntime)

/-- The last attempt of an incident is under way. -/
def OnLastAttempt (store : SummaryStore) (row : IncidentRow) : Prop :=
  row.state.summary.attempts = summaryMaxAttempts ∧ Held store row.id

/-- What later runs, sweeps and other calls do while nothing else happens to an incident, no
earlier than a time. -/
def Elsewhere (id : Nat) (since : DateTime) (store : SummaryStore) : Event → Prop
  | .runPending now _ => since ≤ now
  | .finish call _ => store.current? call ≠ some id
  | .fail call _ now => store.current? call ≠ some id ∧ since ≤ now
  | .crash _ | .sweep => True
  | .create .. | .edit .. | .settle .. | .reopen _ | .requeue .. | .summarize .. => False

/-- A run claims an incident. -/
def Claims (id : Nat) (store : SummaryStore) : Event → Prop
  | .runPending now true => id ∈ (claimPendingSummaries now (swept store.incidents)).2
  | _ => False

def isAvailableRun : Event → Bool
  | .runPending _ available => available
  | _ => false

/-- How many incidents wait. -/
def backlog (store : SummaryStore) : Nat :=
  store.incidents.rows.countP fun row => isWaiting row.state

/-- Once an incident is due, runs whose batches cover the backlog claim it. -/
def ClaimedLater (store : SummaryStore) (row : IncidentRow) : Prop :=
  ∀ since, isDue since row.state = true → ∀ later,
    Along (step python) (Elsewhere row.id since) store later →
    backlog store ≤ summaryBatchSize * later.countP isAvailableRun →
    ∃ before event after, later = before ++ event :: after ∧
      Claims row.id (run (step python) store before) event

def statusOf (store : SummaryStore) (id : Nat) : Option (Option String) :=
  (store.incidents.lookup id).map fun row => row.state.summary.status

/-- The work of every incident goes on until it has ended.  A waiting incident is claimed again;
while the last attempt is under way, its outcome ends the work instead. -/
structure NeverStuck (store : SummaryStore) : Prop where
  completed_iff : ∀ row ∈ store.incidents.rows,
    row.state.summary.status = some "completed" ↔ row.state.summaryAnalysis.isSome
  attempts_le : ∀ row ∈ store.incidents.rows, row.state.summary.attempts ≤ summaryMaxAttempts
  claimedLater : ∀ row ∈ store.incidents.rows, isWaiting row.state = true →
    ¬ OnLastAttempt store row → ClaimedLater python store row
  lastAttemptEnds : ∀ row ∈ store.incidents.rows, isWaiting row.state = true →
    row.state.summary.attempts = summaryMaxAttempts →
    ∀ call, store.current? call = some row.id →
      (∀ summaryData, statusOf (step python store (.finish call summaryData)) row.id =
        some (some "completed")) ∧
      ∀ error now, statusOf (step python store (.fail call error now)) row.id =
        some (some "failed")

/-- No call goes away with the last attempt of a waiting incident, unless another call holds it;
and no other write makes an incident wait whose last attempt went away. -/
def Admitted (store : SummaryStore) : Event → Prop
  | .crash call => ∀ row ∈ store.incidents.rows, isWaiting row.state = true →
      row.state.summary.attempts = summaryMaxAttempts → HeldBy store call row.id →
      ∃ other, other ≠ call ∧ HeldBy store other row.id
  | .edit id status endedAt alertCount topImportance => ∀ row ∈ store.incidents.rows,
      row.id = id → isWaiting (edited status endedAt alertCount topImportance row.state) = true →
      row.state.summary.attempts = summaryMaxAttempts → Held store row.id
  | _ => True

/-- Every waiting incident that has used its attempts is still held. -/
def NoneAbandoned (store : SummaryStore) : Prop :=
  ∀ row ∈ store.incidents.rows, isWaiting row.state = true →
    row.state.summary.attempts = summaryMaxAttempts → Held store row.id

end Statement

/-! ## Which steps abandon an incident -/

section LastAttempts

variable {incident : IncidentState}

theorem not_isWaiting_of_summary (summary : incident.summaryAnalysis ≠ none) :
    isWaiting incident = false :=
  Bool.eq_false_iff.2 fun waiting => summary (isWaiting_iff.1 waiting).2.2.1

theorem not_isWaiting_of_ended (ended : incident.summary.status ∉ unfinished) :
    isWaiting incident = false :=
  Bool.eq_false_iff.2 fun waiting => ended (isWaiting_iff.1 waiting).2.2.2

theorem not_isWaiting_completed (summaryData : JsonObject) :
    isWaiting (completed summaryData incident) = false :=
  not_isWaiting_of_summary (by simp [completed])

theorem not_isWaiting_skipped : isWaiting (skipped incident) = false :=
  not_isWaiting_of_ended (by simp [skipped, unfinished])

theorem not_isWaiting_reopened : isWaiting (reopened incident) = false :=
  Bool.eq_false_iff.2 fun waiting => by simpa [reopened] using (isWaiting_iff.1 waiting).1

theorem attempts_settled (python : PythonRuntime) (minImportance : String) (now : DateTime)
    (status : SettledStatus)
    (waiting : isWaiting (settled python minImportance now status incident) = true) :
    (settled python minImportance now status incident).summary.attempts < summaryMaxAttempts := by
  unfold settled queueSummaryIfNeeded at waiting ⊢
  dsimp only at waiting ⊢
  split
  · rename_i summary
    rw [if_pos summary] at waiting
    have isNone : incident.summaryAnalysis = none := (isWaiting_iff.1 waiting).2.2.1
    simp [isNone] at summary
  · rename_i summary
    rw [if_neg summary] at waiting
    split
    · rename_i beneath
      rw [if_pos beneath, not_isWaiting_of_ended (by simp [unfinished])] at waiting
      exact absurd waiting (by decide)
    · rename_i beneath
      rw [if_neg beneath] at waiting
      split
      · exact (show 0 < summaryMaxAttempts by decide)
      · rename_i singleton
        rw [if_neg singleton, not_isWaiting_of_ended (by simp [unfinished])] at waiting
        exact absurd waiting (by decide)

theorem attempts_retried (now : DateTime) (error : SummaryError)
    (waiting : isWaiting (retried now error incident) = true) :
    (retried now error incident).summary.attempts < summaryMaxAttempts := by
  unfold retried at waiting ⊢
  dsimp only at waiting ⊢
  split
  · rename_i summary
    rw [if_pos summary] at waiting
    have isNone : incident.summaryAnalysis = none := (isWaiting_iff.1 waiting).2.2.1
    simp [isNone] at summary
  · rename_i summary
    rw [if_neg summary] at waiting
    split
    · rename_i last
      rw [if_pos last, not_isWaiting_of_ended (by simp [unfinished])] at waiting
      exact absurd waiting (by decide)
    · rename_i goesOn
      exact Nat.lt_of_not_le fun last => goesOn (Or.inr last)

end LastAttempts

section Abandonment

variable (python : PythonRuntime) {store : SummaryStore}

theorem noneAbandoned_touched {store after : SummaryStore} {guard : IncidentRow → Bool}
    {change : IncidentState → IncidentState} (none : NoneAbandoned store)
    (rows : after.incidents = touched store.incidents guard change)
    (held : ∀ row ∈ store.incidents.rows, guard row = false → Held store row.id →
      Held after row.id)
    (changed : ∀ row ∈ store.incidents.rows, guard row = true →
      isWaiting (change row.state) = true →
      (change row.state).summary.attempts = summaryMaxAttempts → Held after row.id) :
    NoneAbandoned after := by
  unfold NoneAbandoned
  rw [rows]
  refine forall_touched none ?_ ?_
  · intro row member stillHeld unguarded waiting last
    exact held row member unguarded (stillHeld waiting last)
  · intro row member _ guarded waiting last
    exact changed row member guarded waiting last

theorem noneAbandoned_swept {after : SummaryStore} (none : NoneAbandoned store)
    (rows : after.incidents = swept store.incidents) (calls : after.calls = store.calls) :
    NoneAbandoned after := by
  refine noneAbandoned_touched none rows (fun row _ _ held => ?_) fun row _ _ waiting => ?_
  · unfold Held HeldBy at held ⊢
    rw [calls]
    exact held
  · rw [not_isWaiting_skipped] at waiting
    exact absurd waiting (by decide)

theorem noneAbandoned_outcome {call : Nat} {change : IncidentState → IncidentState}
    (none : NoneAbandoned store)
    (ends : ∀ row ∈ store.incidents.rows, isWaiting (change row.state) = true →
      (change row.state).summary.attempts < summaryMaxAttempts) :
    NoneAbandoned (store.outcome call change) := by
  refine noneAbandoned_touched none rfl (fun row _ notCurrent held => ?_)
    fun row member _ waiting last => absurd last (Nat.ne_of_lt (ends row member waiting))
  exact held_outcome held fun current => by simp [current] at notCurrent

theorem noneAbandoned_step_iff (event : Event) (none : NoneAbandoned store) :
    NoneAbandoned (step python store event) ↔ Admitted store event := by
  cases event with
  | create alertCount topImportance =>
      refine iff_of_true ?_ trivial
      intro row member waiting last
      rcases Table.mem_insert.1 member with old | rfl
      · exact none row old waiting last
      · exact absurd last (show 0 ≠ summaryMaxAttempts by decide)
  | edit id status endedAt alertCount topImportance =>
      constructor
      · intro noneAfter row member isRow waiting last
        let changed := edited status endedAt alertCount topImportance row.state
        refine noneAfter { row with state := changed } ?_ waiting last
        exact List.mem_map.2 ⟨row, member, by simp [isRow, changed]⟩
      · intro admitted
        refine noneAbandoned_touched none rfl (fun _ _ _ held => held) ?_
        intro row member isRow waiting last
        exact admitted row member (of_decide_eq_true isRow) waiting last
  | settle id status minImportance now =>
      refine iff_of_true (noneAbandoned_touched none rfl (fun _ _ _ held => held) ?_) trivial
      intro row _ _ waiting last
      exact absurd last (Nat.ne_of_lt (attempts_settled python minImportance now status waiting))
  | reopen id =>
      refine iff_of_true (noneAbandoned_touched none rfl (fun _ _ _ held => held) ?_) trivial
      intro row _ _ waiting
      rw [not_isWaiting_reopened] at waiting
      exact absurd waiting (by decide)
  | requeue ids now =>
      refine iff_of_true (noneAbandoned_touched none rfl (fun _ _ _ held => held) ?_) trivial
      intro row _ _ _ last
      exact absurd last (show 0 ≠ summaryMaxAttempts by decide)
  | summarize id summaryData =>
      refine iff_of_true (noneAbandoned_touched none rfl (fun _ _ _ held => held) ?_) trivial
      intro row _ _ waiting
      rw [not_isWaiting_completed] at waiting
      exact absurd waiting (by decide)
  | sweep => exact iff_of_true (noneAbandoned_swept none rfl rfl) trivial
  | runPending now available =>
      refine iff_of_true ?_ trivial
      cases available with
      | true =>
          have noneSwept : NoneAbandoned { store with incidents := swept store.incidents } :=
            noneAbandoned_swept none rfl rfl
          refine noneAbandoned_touched noneSwept rfl ?_ ?_
          · intro row _ _ held
            exact held_runPending python (Or.inl held)
          · intro row _ chosen _ _
            exact held_runPending python (Or.inr (of_decide_eq_true chosen))
      | false => exact noneAbandoned_swept none rfl rfl
  | finish call summaryData =>
      refine iff_of_true (noneAbandoned_outcome none fun row _ waiting => ?_) trivial
      rw [not_isWaiting_completed] at waiting
      exact absurd waiting (by decide)
  | fail call error now =>
      exact iff_of_true
        (noneAbandoned_outcome none fun row _ waiting => attempts_retried now error waiting) trivial
  | crash call =>
      constructor
      · intro noneAfter row member waiting last _
        exact (held_crash_iff python).1 (noneAfter row member waiting last)
      · intro admitted row member waiting last
        refine (held_crash_iff python).2 ?_
        obtain ⟨other, heldBy⟩ := none row member waiting last
        by_cases same : other = call
        · exact admitted row member waiting last (same ▸ heldBy)
        · exact ⟨other, same, heldBy⟩

end Abandonment

/-! ## An incident with attempts left is claimed -/

/-- What a run claims when it is due. -/
def isCandidate (incident : IncidentState) : Bool :=
  isWaiting incident && incident.summary.attempts < summaryMaxAttempts

def rank (incidents : IncidentTable) (row : IncidentRow) : Nat :=
  incidents.rows.countP fun other => other.place < row.place && isCandidate other.state

section Queue

variable {row other : IncidentRow} {dueAt since : DateTime}

theorem place_lt_iff (scheduled : row.state.summary.nextAttemptAt = some dueAt) :
    other.place < row.place ↔ ∃ otherDue, other.state.summary.nextAttemptAt = some otherDue ∧
      (otherDue < dueAt ∨ otherDue = dueAt ∧ other.id < row.id) := by
  unfold IncidentRow.place
  rw [scheduled, Prod.Lex.toLex_lt_toLex]
  cases other.state.summary.nextAttemptAt with
  | none => simp
  | some otherDue =>
      simp only [Option.some.injEq, exists_eq_left', WithTop.coe_lt_coe, WithTop.coe_inj]

theorem isDue_of_place_lt (scheduled : row.state.summary.nextAttemptAt = some dueAt)
    (due : dueAt ≤ since) (before : other.place < row.place) :
    isDue since other.state = true := by
  obtain ⟨otherDue, isScheduled, order⟩ := (place_lt_iff scheduled).1 before
  unfold isDue
  rw [isScheduled]
  rcases order with earlier | ⟨same, -⟩
  · exact decide_eq_true (Int.le_trans (Int.le_of_lt earlier) due)
  · exact decide_eq_true (same ▸ due)

theorem not_place_lt_of_put_off (scheduled : row.state.summary.nextAttemptAt = some dueAt)
    (due : dueAt ≤ since) {later : DateTime}
    (putOff : other.state.summary.nextAttemptAt = some later) (after : since < later) :
    ¬ other.place < row.place := by
  intro before
  obtain ⟨otherDue, isScheduled, order⟩ := (place_lt_iff scheduled).1 before
  rw [putOff] at isScheduled
  obtain rfl := Option.some.inj isScheduled
  rcases order with earlier | ⟨same, -⟩
  · exact absurd (Int.lt_trans after earlier) (Int.not_lt.2 due)
  · exact absurd (same ▸ after) (Int.not_lt.2 due)

theorem lt_addSeconds {seconds : Int} (le : since ≤ now) (positive : 0 < seconds) :
    since < now.addSeconds seconds := by
  have later : 0 < seconds * DateTime.microsecondsPerSecond := Int.mul_pos positive (by decide)
  exact Int.lt_of_le_of_lt le (Int.lt_add_of_pos_right now later)

theorem retryDelaySeconds_pos (attempts : Nat) : 0 < retryDelaySeconds attempts := by
  unfold retryDelaySeconds
  have doubled : (0 : Int) < 2 ^ (attempts - 1) := Int.pow_pos (by decide)
  exact Int.lt_min.2 ⟨by decide, by omega⟩

theorem rank_touched_le (none : ∀ other ∈ incidents.rows, guard other = true →
      isCandidate (change other.state) = true →
        { other with state := change other.state : IncidentRow }.place < row.place →
        isCandidate other.state = true ∧ other.place < row.place) :
    rank (touched incidents guard change) row ≤ rank incidents row := by
  unfold rank
  rw [touched_rows, List.countP_map]
  apply List.countP_mono_left
  intro other member counted
  simp only [Function.comp_apply, Bool.and_eq_true, decide_eq_true_eq] at counted ⊢
  cases guarded : guard other with
  | true =>
      rw [touchedRow_of guarded] at counted
      obtain ⟨candidate, before⟩ := none other member guarded counted.2 counted.1
      exact ⟨before, candidate⟩
  | false =>
      rw [touchedRow_of_not guarded] at counted
      exact counted

theorem not_isCandidate (notWaiting : isWaiting incident = false) :
    isCandidate incident = false := by
  simp [isCandidate, notWaiting]

theorem rank_swept_le (incidents : IncidentTable) :
    rank (swept incidents) row ≤ rank incidents row := by
  apply rank_touched_le
  intro other _ _ candidate
  rw [not_isCandidate not_isWaiting_skipped] at candidate
  exact absurd candidate (by decide)

theorem place_nodup (incidents : IncidentTable) (selected : IncidentRow → Bool) :
    ((incidents.rows.filter selected).map IncidentRow.place).Nodup := by
  refine List.Nodup.of_map (fun place => (ofLex place).2) ?_
  rw [List.map_map]
  exact incidents.keys_nodup.sublist (List.filter_sublist.map IncidentRow.id)

theorem rank_claim_add_le (member : row ∈ incidents.rows) (candidate : isCandidate row.state = true)
    (scheduled : row.state.summary.nextAttemptAt = some dueAt) (due : dueAt ≤ now)
    (notClaimed : row.id ∉ (claimPendingSummaries now incidents).2) :
    rank (claimPendingSummaries now incidents).1 row + summaryBatchSize ≤ rank incidents row := by
  have claimable (other : IncidentRow) (isDueNow : isDue now other.state = true) :
      isClaimable now other.state = isCandidate other.state := by
    simp [isClaimable, isCandidate, isDueNow]
  have rowDue : isDue now row.state = true := by
    unfold isDue
    rw [scheduled]
    exact decide_eq_true due
  let ids := (claimPendingSummaries now incidents).2
  let waits := incidents.rows.filter fun other => isClaimable now other.state
  have rowWaits : row ∈ waits :=
    List.mem_filter.2 ⟨member, (claimable row rowDue).trans candidate⟩
  have offPage : row ∉ page IncidentRow.place summaryBatchSize waits := fun onPage =>
    notClaimed (List.mem_map_of_mem onPage)
  have pageServed : ∀ other ∈ page IncidentRow.place summaryBatchSize waits,
      decide (other.id ∈ ids) = true := fun other onPage =>
    decide_eq_true (List.mem_map_of_mem onPage)
  have counted :=
    countP_unserved_add_limit_le (place_nodup incidents _) rowWaits offPage pageServed
  -- Before the row, the candidates are those which are claimable now.
  have sameAhead : ahead IncidentRow.place waits row = rank incidents row := by
    unfold ahead rank
    rw [List.countP_filter]
    apply List.countP_congr
    intro other _
    simp only [Bool.and_eq_true, decide_eq_true_eq]
    refine and_congr_right fun before => ?_
    rw [claimable other (isDue_of_place_lt scheduled due before)]
  -- The claimed rows are put off beyond the row.
  have putOff : rank (claimPendingSummaries now incidents).1 row ≤
      waits.countP fun other => other.place < row.place && !decide (other.id ∈ ids) := by
    have claimRows : (claimPendingSummaries now incidents).1.rows =
        incidents.rows.map (touchedRow (fun other => other.id ∈ ids) (claimed now)) := rfl
    unfold rank
    rw [claimRows, List.countP_map, List.countP_filter]
    apply List.countP_mono_left
    intro other _ before
    simp only [Function.comp_apply, Bool.and_eq_true, decide_eq_true_eq,
      Bool.not_eq_true', decide_eq_false_iff_not] at before ⊢
    by_cases chosen : other.id ∈ ids
    · rw [touchedRow_of (decide_eq_true chosen)] at before
      exact absurd before.1 (not_place_lt_of_put_off scheduled due rfl
        (lt_addSeconds le_rfl (by decide)))
    · rw [touchedRow_of_not (decide_eq_false chosen)] at before
      refine ⟨⟨before.1, chosen⟩, ?_⟩
      rw [claimable other (isDue_of_place_lt scheduled due before.1)]
      exact before.2
  rw [← sameAhead]
  exact (Nat.add_le_add_right putOff _).trans counted

end Queue

section Claiming

variable (python : PythonRuntime) {store : SummaryStore} {row : IncidentRow}
  {dueAt since : DateTime}

theorem mem_swept_of_isWaiting (member : row ∈ incidents.rows)
    (waiting : isWaiting row.state = true) : row ∈ (swept incidents).rows := by
  refine mem_touched_of_not member ?_
  have twoAlerts := (isWaiting_iff.1 waiting).2.1
  have notOne : ¬ row.state.alertCount < 2 := Nat.not_lt.2 twoAlerts
  simp [isIneligible, notOne]

theorem mem_outcome_of_not_current {call : Nat} {change : IncidentState → IncidentState}
    (member : row ∈ store.incidents.rows) (notCurrent : store.current? call ≠ some row.id) :
    row ∈ (store.outcome call change).incidents.rows :=
  mem_touched_of_not member (decide_eq_false fun current => notCurrent current.symm)

/-- A step elsewhere leaves a candidate where it is, brings no other before it, and a run takes
five from before it or claims it. -/
theorem step_elsewhere (event : Event) (member : row ∈ store.incidents.rows)
    (candidate : isCandidate row.state = true)
    (scheduled : row.state.summary.nextAttemptAt = some dueAt) (due : dueAt ≤ since)
    (elsewhere : Elsewhere row.id since store event) :
    Claims row.id store event ∨
      row ∈ (step python store event).incidents.rows ∧
        rank (step python store event).incidents row +
            (if isAvailableRun event then summaryBatchSize else 0) ≤
          rank store.incidents row := by
  have waiting : isWaiting row.state = true := (Bool.and_eq_true_iff.1 candidate).1
  cases event with
  | create | edit | settle | reopen | requeue | summarize => exact elsewhere.elim
  | sweep => exact Or.inr ⟨mem_swept_of_isWaiting member waiting, rank_swept_le _⟩
  | runPending now available =>
      cases available with
      | false => exact Or.inr ⟨mem_swept_of_isWaiting member waiting, rank_swept_le _⟩
      | true =>
          refine or_iff_not_imp_left.2 fun notClaimed => ?_
          have sweptMember := mem_swept_of_isWaiting member waiting
          refine ⟨mem_touched_of_not sweptMember (decide_eq_false notClaimed), ?_⟩
          exact (rank_claim_add_le sweptMember candidate scheduled (Int.le_trans due elsewhere)
            notClaimed).trans (rank_swept_le _)
  | finish call summaryData =>
      refine Or.inr ⟨mem_outcome_of_not_current member elsewhere, rank_touched_le ?_⟩
      intro other _ _ counted
      rw [not_isCandidate (not_isWaiting_completed summaryData)] at counted
      exact absurd counted (by decide)
  | fail call error now =>
      refine Or.inr ⟨mem_outcome_of_not_current member elsewhere.1, rank_touched_le ?_⟩
      intro other _ _ counted before
      by_cases summary : other.state.summaryAnalysis.isSome = true
      · have unchanged : retried now error other.state = other.state := by
          rw [retried, if_pos summary]
        rw [unchanged] at counted before
        exact ⟨counted, before⟩
      · by_cases last : error.isTerminal ∨ summaryMaxAttempts ≤ other.state.summary.attempts
        · rw [retried, if_neg summary] at counted
          dsimp only at counted
          rw [if_pos last, not_isCandidate (not_isWaiting_of_ended (by simp [unfinished]))]
            at counted
          exact absurd counted (by decide)
        · have putOff : (retried now error other.state).summary.nextAttemptAt =
              some (now.addSeconds (retryDelaySeconds other.state.summary.attempts)) := by
            rw [retried, if_neg summary]
            dsimp only
            rw [if_neg last]
          exact absurd before (not_place_lt_of_put_off scheduled due putOff
            (lt_addSeconds elsewhere.2 (retryDelaySeconds_pos _)))
  | crash call => exact Or.inr ⟨member, le_rfl⟩

theorem exists_claims (later : List Event) (member : row ∈ store.incidents.rows)
    (candidate : isCandidate row.state = true)
    (scheduled : row.state.summary.nextAttemptAt = some dueAt) (due : dueAt ≤ since)
    (elsewhere : Along (step python) (Elsewhere row.id since) store later)
    (enough : rank store.incidents row < summaryBatchSize * later.countP isAvailableRun) :
    ∃ before event after, later = before ++ event :: after ∧
      Claims row.id (run (step python) store before) event := by
  induction later generalizing store with
  | nil => exact absurd enough (Nat.not_lt_zero _)
  | cons event later induction =>
      rcases step_elsewhere python event member candidate scheduled due elsewhere.1 with
        claims | ⟨stays, fewer⟩
      · exact ⟨[], event, later, rfl, claims⟩
      · have enoughLater : rank (step python store event).incidents row <
            summaryBatchSize * later.countP isAvailableRun := by
          rw [List.countP_cons, Nat.mul_add] at enough
          cases isRun : isAvailableRun event with
          | true =>
              rw [isRun, if_pos rfl] at enough fewer
              omega
          | false =>
              simp only [isRun, Bool.false_eq_true, if_false] at enough fewer
              omega
        obtain ⟨before, claiming, after, split, claims⟩ :=
          induction stays elsewhere.2 enoughLater
        exact ⟨event :: before, claiming, after, by rw [split, List.cons_append], claims⟩

theorem rank_lt_backlog (member : row ∈ store.incidents.rows)
    (waiting : isWaiting row.state = true) : rank store.incidents row < backlog store := by
  unfold rank backlog
  have positive : 0 < store.incidents.rows.countP
      fun other => isWaiting other.state && !decide (other.place < row.place) :=
    List.countP_pos_iff.2 ⟨row, member, by simp [waiting]⟩
  have parts : store.incidents.rows.countP (fun other => isWaiting other.state) =
      store.incidents.rows.countP
        (fun other => isWaiting other.state && decide (other.place < row.place)) +
      store.incidents.rows.countP
        (fun other => isWaiting other.state && !decide (other.place < row.place)) := by
    rw [← List.countP_filter, ← List.countP_filter]
    exact List.countP_eq_countP_filter_add _ _ _
  have candidatesWait : store.incidents.rows.countP
      (fun other => decide (other.place < row.place) && isCandidate other.state) ≤
      store.incidents.rows.countP
        (fun other => isWaiting other.state && decide (other.place < row.place)) := by
    apply List.countP_mono_left
    intro other _ counted
    simp only [isCandidate, Bool.and_eq_true] at counted ⊢
    exact ⟨counted.2.1, counted.1⟩
  omega

theorem claimedLater_of_candidate (sound : Sound row.state) (member : row ∈ store.incidents.rows)
    (candidate : isCandidate row.state = true) : ClaimedLater python store row := by
  intro since isDueSince later elsewhere enough
  have waiting : isWaiting row.state = true := (Bool.and_eq_true_iff.1 candidate).1
  obtain ⟨dueAt, scheduled⟩ := Option.isSome_iff_exists.1
    (sound.scheduled (isWaiting_iff.1 waiting).2.2.2)
  have due : dueAt ≤ since := by
    unfold isDue at isDueSince
    rw [scheduled] at isDueSince
    exact of_decide_eq_true isDueSince
  exact exists_claims python later member candidate scheduled due elsewhere
    ((rank_lt_backlog member waiting).trans_le enough)

end Claiming

/-! ## An abandoned incident is not claimed -/

section Abandoned

variable (python : PythonRuntime) {store : SummaryStore} {row : IncidentRow}

theorem not_claims_of_last (member : row ∈ store.incidents.rows)
    (waiting : isWaiting row.state = true)
    (last : row.state.summary.attempts = summaryMaxAttempts) (event : Event) :
    ¬ Claims row.id store event := by
  unfold Claims
  split
  · intro chosen
    have inBatch := isClaimable_of_mem_ids (mem_swept_of_isWaiting member waiting) chosen
    exact absurd last (Nat.ne_of_lt (noSummary_of_isClaimable (mem_pendingBatch inBatch).2).2)
  · exact id

theorem mem_runPending_of_last (member : row ∈ store.incidents.rows)
    (waiting : isWaiting row.state = true)
    (last : row.state.summary.attempts = summaryMaxAttempts) (now : DateTime) :
    row ∈ (step python store (.runPending now true)).incidents.rows :=
  mem_touched_of_not (mem_swept_of_isWaiting member waiting) <|
    decide_eq_false (not_claims_of_last member waiting last (.runPending now true))

theorem not_claimedLater_of_last (sound : Sound row.state) (member : row ∈ store.incidents.rows)
    (waiting : isWaiting row.state = true)
    (last : row.state.summary.attempts = summaryMaxAttempts) :
    ¬ ClaimedLater python store row := by
  intro claimedLater
  obtain ⟨dueAt, scheduled⟩ := Option.isSome_iff_exists.1
    (sound.scheduled (isWaiting_iff.1 waiting).2.2.2)
  have due : isDue dueAt row.state = true := by
    unfold isDue
    rw [scheduled]
    exact decide_eq_true le_rfl
  let later := List.replicate (backlog store) (Event.runPending dueAt true)
  have allRuns : ∀ event ∈ later, event = .runPending dueAt true := fun event eventMember =>
    List.eq_of_mem_replicate eventMember
  have stays (before : List Event) (runs : ∀ event ∈ before, event = .runPending dueAt true) :
      row ∈ (run (step python) store before).incidents.rows := by
    have alongRuns : Along (step python) (fun _ event => event = .runPending dueAt true) store
        before := along_of_forall runs
    refine alongRuns.invariant (fun state => row ∈ state.incidents.rows) member ?_
    rintro state event stillThere rfl
    exact mem_runPending_of_last python stillThere waiting last dueAt
  have elsewhere : Along (step python) (Elsewhere row.id dueAt) store later := by
    refine (along_of_forall allRuns).mono ?_
    rintro state event rfl
    exact le_rfl
  have enough : backlog store ≤ summaryBatchSize * later.countP isAvailableRun := by
    have allAvailable : later.countP isAvailableRun = later.length :=
      List.countP_eq_length.2 fun event eventMember => by rw [allRuns event eventMember]; rfl
    rw [allAvailable, List.length_replicate]
    exact Nat.le_mul_of_pos_left _ (by decide)
  obtain ⟨before, event, after, split, claims⟩ := claimedLater dueAt due later elsewhere enough
  have runsBefore : ∀ earlier ∈ before, earlier = .runPending dueAt true := fun earlier isBefore =>
    allRuns earlier (split ▸ List.mem_append_left _ isBefore)
  exact not_claims_of_last (stays before runsBefore) waiting last event claims

theorem neverStuck_iff_noneAbandoned (sound : AllSound store) :
    NeverStuck python store ↔ NoneAbandoned store := by
  constructor
  · intro neverStuck row member waiting last
    by_contra unheld
    exact not_claimedLater_of_last python (sound row member) member waiting last
      (neverStuck.claimedLater row member waiting fun onLast => unheld onLast.2)
  · intro none
    refine ⟨fun row member => (sound row member).completed_iff,
      fun row member => (sound row member).attempts_le, ?_, ?_⟩
    · intro row member waiting notOnLast
      refine claimedLater_of_candidate python (sound row member) member ?_
      have attemptsLeft : row.state.summary.attempts < summaryMaxAttempts := by
        refine Nat.lt_of_le_of_ne (sound row member).attempts_le fun last => ?_
        exact notOnLast ⟨last, none row member waiting last⟩
      simp [isCandidate, waiting, attemptsLeft]
    · intro row member waiting last call current
      have isRow : store.incidents.lookup row.id = some row := Table.mem_rows_iff_lookup.1 member
      have outcomeOf (change : IncidentState → IncidentState) :
          statusOf (store.outcome call change) row.id = some (change row.state).summary.status := by
        unfold statusOf SummaryStore.outcome
        rw [lookup_touched, isRow]
        simp [touchedRow, current]
      refine ⟨fun summaryData => outcomeOf _, fun error now => ?_⟩
      refine (outcomeOf _).trans ?_
      have noSummary := (isWaiting_iff.1 waiting).2.2.1
      have ended : error.isTerminal = true ∨ summaryMaxAttempts ≤ row.state.summary.attempts :=
        Or.inr last.ge
      simp [retried, noSummary, ended]

end Abandoned

theorem allSound_empty : AllSound emptyStore := by
  intro row member
  exact absurd member List.not_mem_nil

theorem noneAbandoned_empty : NoneAbandoned emptyStore := by
  intro row member
  exact absurd member List.not_mem_nil

/-- In a run from an empty database no incident is ever stuck exactly when no step of the run
abandons a last attempt. -/
theorem neverStuck_iff_admitted (python : PythonRuntime) (events : List Event) :
    (∀ taken, taken <+: events → NeverStuck python (run (step python) emptyStore taken)) ↔
      Along (step python) Admitted emptyStore events := by
  refine forall_prefix_iff_along AllSound (allSound_step python) ?_ allSound_empty ?_ events
  · intro store event sound neverStuck
    have none := (neverStuck_iff_noneAbandoned python sound).1 neverStuck
    rw [neverStuck_iff_noneAbandoned python (allSound_step python store event sound)]
    exact noneAbandoned_step_iff python event none
  · exact (neverStuck_iff_noneAbandoned python allSound_empty).2 noneAbandoned_empty

/-! ## A worker that goes away five times -/

def crashingRuns (now : DateTime) : Nat → List Event
  | 0 => []
  | attempt + 1 =>
      crashingRuns now attempt ++
        [.runPending (now.addSeconds (attempt * summaryLeaseSeconds)) true, .crash attempt]

/-- An incident of two alerts becomes quiet, and every worker that claims it goes away. -/
def fiveCrashes : List Event :=
  [.create 2 (some "high"), .settle 1 .quiet "low" 0] ++ crashingRuns 0 5

theorem fiveCrashes_leave :
    (∃ row ∈ (run (step .plain) emptyStore fiveCrashes).incidents.rows,
      isWaiting row.state = true ∧ row.state.summary.attempts = summaryMaxAttempts) ∧
      (run (step .plain) emptyStore fiveCrashes).calls = [[], [], [], [], []] := by
  decide +kernel

/-- After the fifth crash the incident stays in processing, and no run claims it. -/
theorem fifth_crash_strands :
    ¬ ∀ taken, taken <+: fiveCrashes →
      NeverStuck .plain (run (step .plain) emptyStore taken) := by
  intro neverStuck
  obtain ⟨⟨row, member, waiting, last⟩, calls⟩ := fiveCrashes_leave
  have sound : AllSound (run (step .plain) emptyStore fiveCrashes) :=
    run_invariant AllSound allSound_empty (allSound_step .plain) fiveCrashes
  have none := (neverStuck_iff_noneAbandoned .plain sound).1 (neverStuck _ (List.prefix_refl _))
  obtain ⟨call, ids, found, held⟩ := none row member waiting last
  rw [calls] at found
  have emptyCall : ids = [] := by
    have inCalls := List.mem_of_getElem? found
    simpa using inCalls
  rw [emptyCall] at held
  exact absurd held List.not_mem_nil

end IncidentSummaries

end WebhookWise
