import WebhookWise.GuardedRuns
import WebhookWise.MaintenanceSweeps

/-!
# What holds while windows are swept, edited and lifted

There is one live silence for each occurrence at most, and none for one that an operator lifted.
Right after a sweep the live silences are those of the active occurrences that the sweep reaches.
Versions of an edited window are told apart by their digests.
-/

namespace WebhookWise

open SqlTable GuardedRuns

variable {window : ConfigRow WindowData} {now : DateTime} {event : MaintenanceEvent} {id : Nat}
variable {db : MaintenanceDatabase}

/-- A database in a run, with what the run has seen: the occurrences whose silences an
operator lifted, and every schedule that a window had. -/
structure MaintenanceRunState where
  db : MaintenanceDatabase
  operatorLifted : List OccurrenceIdentity
  versions : List (Nat × WindowSchedule)

namespace MaintenanceSafety

open MaintenanceSchedules MaintenanceSweeps

variable (env : MaintenanceEnvironment)

def liftedByOperator (db : MaintenanceDatabase) : MaintenanceEvent → List OccurrenceIdentity
  | .liftSilence id _ =>
      (db.silences.rows.filter fun row => row.id = id && row.liftedAt.isNone).filterMap
        SilenceRow.occurrence
  | _ => []

def schedules (db : MaintenanceDatabase) : List (Nat × WindowSchedule) :=
  db.windows.rows.map fun row => (row.id, row.data.schedule)

def step (state : MaintenanceRunState) (event : MaintenanceEvent) : MaintenanceRunState :=
  let db := apply env state.db event
  { db
    operatorLifted := state.operatorLifted ++ liftedByOperator state.db event
    versions := state.versions ++ schedules db }

def fresh : MaintenanceRunState :=
  ⟨⟨.empty, .empty⟩, [], []⟩

/-! ## Safety -/

/-- A silence that is not lifted is the only one of its occurrence. -/
def OneLive (state : MaintenanceRunState) : Prop :=
  ∀ first ∈ state.db.silences.rows, ∀ second ∈ state.db.silences.rows, ∀ key,
    first.occurrence = some key → second.occurrence = some key →
      first.liftedAt = none → second.liftedAt = none → first = second

/-- What an operator lifted is not silenced. -/
def StaysLifted (state : MaintenanceRunState) : Prop :=
  ∀ key ∈ state.operatorLifted, ∀ row ∈ state.db.silences.rows,
    row.occurrence = some key → row.liftedAt ≠ none

/-- An occurrence of an enabled window is active, and no operator lifted it. -/
def IsWanted (state : MaintenanceRunState) (now : DateTime) (window : ConfigRow WindowData)
    (date : Int) : Prop :=
  window ∈ state.db.windows.rows ∧ window.data.enabled = true ∧
    IsActive env window.data.schedule now date ∧
    identity env window date ∉ state.operatorLifted

/-- The live silences are those of the wanted occurrences, until these end. -/
def Reconciled (now : DateTime) (state : MaintenanceRunState) : Prop :=
  ∀ key expiresAt,
    (∃ row ∈ state.db.silences.rows, isLive now row = true ∧ row.occurrence = some key ∧
        row.expiresAt = some expiresAt) ↔
      ∃ window date, IsWanted env state now window date ∧ key = identity env window date ∧
        expiresAt = (occurrenceOn env window.data.schedule date).endsAt

/-- What is to hold after an event. -/
structure IsSafeAfter (event : MaintenanceEvent) (state : MaintenanceRunState) : Prop where
  oneLive : OneLive state
  staysLifted : StaysLifted state
  reconciled : ∀ now, event = .sweep now → Reconciled env now state

/-! ## Conditions -/

/-- A sweep reaches every wanted occurrence. -/
def ReachesWanted (state : MaintenanceRunState) (event : MaintenanceEvent) : Prop :=
  ∀ now, event = .sweep now → ∀ window date, IsWanted env state now window date →
    IsReached env window.data.schedule now date

/-- An edit gives a window no schedule with the digest of a different earlier one. -/
def KeepsDigestsApart (state : MaintenanceRunState) (event : MaintenanceEvent) : Prop :=
  ∀ id data, event = .updateWindow id data → ∀ version, (id, version) ∈ state.versions →
    scheduleDigest env version = scheduleDigest env data.schedule → version = data.schedule

/-! ## The invariant -/

/-- The versions of every window are known, and told apart by their digests. -/
structure KnowsVersions (state : MaintenanceRunState) : Prop where
  current : ∀ pair ∈ schedules state.db, pair ∈ state.versions
  known : ∀ id version, (id, version) ∈ state.versions → id < state.db.windows.nextKey
  apart : ∀ id first second, (id, first) ∈ state.versions → (id, second) ∈ state.versions →
    scheduleDigest env first = scheduleDigest env second → first = second

structure Sound (state : MaintenanceRunState) : Prop where
  indexed : state.db.silences.Indexed SilenceRow.occurrence
  /-- A silence with an identity was made by a sweep, for a version of the window. -/
  dated : ∀ row ∈ state.db.silences.rows, ∀ key, row.occurrence = some key →
    row.silence.createdBy = "maintenance-window" ∧
      ∃ version, (key.windowId, version) ∈ state.versions ∧
        key.scheduleDigest = scheduleDigest env version ∧
        row.expiresAt = some (occurrenceOn env version key.occurrenceDate).endsAt
  /-- Of the silences with an identity, operators lifted just the lifted ones. -/
  lifted : ∀ row ∈ state.db.silences.rows, ∀ key, row.occurrence = some key →
    (row.liftedAt ≠ none ↔ key ∈ state.operatorLifted)
  tracked : ∀ key ∈ state.operatorLifted, state.db.silences.Tracks SilenceRow.occurrence key
  versions : KnowsVersions env state

variable {env} {state : MaintenanceRunState}

theorem sound_fresh : Sound env fresh where
  indexed := Table.indexed_empty
  dated row member := by cases member
  lifted row member := by cases member
  tracked key member := by cases member
  versions :=
    { current := fun pair member => by cases member
      known := fun id version member => by cases member
      apart := fun id first second member => by cases member }

/-! ## Versions -/

theorem mem_schedules {pair : Nat × WindowSchedule} :
    pair ∈ schedules db ↔ ∃ window ∈ db.windows.rows, (window.id, window.data.schedule) = pair :=
  List.mem_map

theorem schedule_unique {first second : WindowSchedule} (firstMember : (id, first) ∈ schedules db)
    (secondMember : (id, second) ∈ schedules db) : first = second := by
  rcases mem_schedules.1 firstMember with ⟨window, member, pair⟩
  rcases mem_schedules.1 secondMember with ⟨other, otherMember, otherPair⟩
  rw [Prod.mk.injEq] at pair otherPair
  have same := Table.eq_of_key_eq member otherMember (pair.1.trans otherPair.1.symm)
  rw [← pair.2, ← otherPair.2, same]

theorem nextKey_apply_le (db : MaintenanceDatabase) (event : MaintenanceEvent) :
    db.windows.nextKey ≤ (apply env db event).windows.nextKey := by
  cases event with
  | createWindow data =>
      change _ ≤ (createMaintenanceWindow db data).windows.nextKey
      unfold createMaintenanceWindow
      split
      · exact Nat.le_refl _
      · exact Nat.le_succ _
  | updateWindow id data =>
      change _ ≤ (updateMaintenanceWindow db id data).windows.nextKey
      unfold updateMaintenanceWindow
      split <;> exact Nat.le_refl _
  | _ => exact Nat.le_refl _

def eventSchedules : MaintenanceEvent → List WindowSchedule
  | .createWindow data => [data.schedule]
  | .updateWindow _ data => [data.schedule]
  | _ => []

theorem mem_schedules_apply {schedule : WindowSchedule}
    (member : (id, schedule) ∈ schedules (apply env state.db event)) :
    (id, schedule) ∈ schedules state.db ∨ schedule ∈ eventSchedules event ∧
      (id = state.db.windows.nextKey ∨
        ∃ data, event = .updateWindow id data ∧ schedule = data.schedule) := by
  cases event with
  | createWindow data =>
      change (id, schedule) ∈ schedules (createMaintenanceWindow state.db data) at member
      unfold createMaintenanceWindow at member
      split at member
      · exact Or.inl member
      · rcases mem_schedules.1 member with ⟨window, windowMember, pair⟩
        rcases Table.mem_insert.1 windowMember with old | rfl
        · exact Or.inl (mem_schedules.2 ⟨window, old, pair⟩)
        · rw [Prod.mk.injEq] at pair
          exact Or.inr ⟨List.mem_singleton.2 pair.2.symm, Or.inl pair.1.symm⟩
  | updateWindow updated data =>
      change (id, schedule) ∈ schedules (updateMaintenanceWindow state.db updated data) at member
      unfold updateMaintenanceWindow at member
      split at member
      · exact Or.inl member
      · rcases mem_schedules.1 member with ⟨window, windowMember, pair⟩
        rw [Table.mem_update] at windowMember
        rcases windowMember with ⟨old, oldMember, changed⟩
        split at changed
        · rename_i isUpdated
          rw [← changed, Prod.mk.injEq] at pair
          rw [of_decide_eq_true isUpdated] at pair
          rw [← pair.1, ← pair.2]
          exact Or.inr ⟨List.mem_singleton.2 rfl, Or.inr ⟨data, rfl, rfl⟩⟩
        · rw [← changed] at pair
          exact Or.inl (mem_schedules.2 ⟨old, oldMember, pair⟩)
  | deleteWindow deleted =>
      rcases mem_schedules.1 member with ⟨window, windowMember, pair⟩
      exact Or.inl (mem_schedules.2 ⟨window, (List.mem_filter.1 windowMember).1, pair⟩)
  | _ => exact Or.inl member

theorem knowsVersions_step (knows : KnowsVersions env state)
    (digestsApart : KeepsDigestsApart env state event) :
    KnowsVersions env (step env state event) where
  current pair member := List.mem_append_right _ member
  known id version member := by
    rcases List.mem_append.1 member with old | new
    · exact Nat.lt_of_lt_of_le (knows.known id version old) (nextKey_apply_le _ _)
    · rcases mem_schedules.1 new with ⟨window, windowMember, pair⟩
      rw [Prod.mk.injEq] at pair
      rw [← pair.1]
      exact Table.keys_lt _ window windowMember
  apart id first second firstMember secondMember sameDigest := by
    -- A new version has no digest of an old one.
    have newApart {version earlier : WindowSchedule}
        (new : (id, version) ∈ schedules (apply env state.db event))
        (old : (id, earlier) ∈ state.versions)
        (same : scheduleDigest env earlier = scheduleDigest env version) : earlier = version := by
      rcases mem_schedules_apply new with kept | ⟨_, isFresh | ⟨data, isUpdate, isData⟩⟩
      · exact knows.apart id earlier version old (knows.current _ kept) same
      · have lower := knows.known id earlier old
        rw [isFresh] at lower
        exact absurd lower (Nat.lt_irrefl _)
      · rw [isData] at same ⊢
        exact digestsApart id data isUpdate earlier old same
    rcases List.mem_append.1 firstMember with firstOld | firstNew
    · rcases List.mem_append.1 secondMember with secondOld | secondNew
      · exact knows.apart id first second firstOld secondOld sameDigest
      · exact newApart secondNew firstOld sameDigest
    · rcases List.mem_append.1 secondMember with secondOld | secondNew
      · exact (newApart firstNew secondOld sameDigest.symm).symm
      · exact schedule_unique firstNew secondNew

/-! ## Sweeps keep the invariant -/

theorem isActive_of_isDue {windows : List (ConfigRow WindowData)} {occurrence : WindowOccurrence}
    (due : IsDue env now windows window occurrence) :
    window ∈ windows ∧ window.data.enabled = true ∧ ∃ date,
      occurrence = occurrenceOn env window.data.schedule date ∧
      IsActive env window.data.schedule now date ∧
      IsReached env window.data.schedule now date := by
  rcases due with ⟨member, due⟩
  unfold dueOccurrence at due
  split at due
  · rename_i enabled
    rw [Option.join_eq_some_iff] at due
    exact ⟨member, enabled, activeOccurrence_eq_some_iff.1 due⟩
  · cases due

theorem isDue_of_isReached {windows : List (ConfigRow WindowData)} {date : Int}
    (member : window ∈ windows) (enabled : window.data.enabled = true)
    (active : IsActive env window.data.schedule now date)
    (reached : IsReached env window.data.schedule now date) :
    IsDue env now windows window (occurrenceOn env window.data.schedule date) := by
  refine ⟨member, ?_⟩
  rw [dueOccurrence, if_pos enabled, activeOccurrence_eq_some_iff.2 ⟨date, rfl, active, reached⟩]
  rfl

theorem sound_sweep (sound : Sound env state) (now : DateTime)
    (knows : KnowsVersions env (step env state (.sweep now))) :
    Sound env (step env state (.sweep now)) := by
  have materialized := materialized_all env now state.db
  have sameLifted : (step env state (.sweep now)).operatorLifted = state.operatorLifted :=
    List.append_nil _
  have indexed : (materializeAll env now state.db).silences.Indexed SilenceRow.occurrence :=
    materialized.indexed sound.indexed
  refine
    { indexed := indexed_sweep sound.indexed
      dated := ?_
      lifted := ?_
      tracked := ?_
      versions := knows }
  · intro row member key holds
    rcases (mem_sweep_iff holds).1 member with ⟨inLoop, _⟩
    rcases materialized.origin row inLoop with old | ⟨window, occurrence, id, due, rfl⟩
    · rcases sound.dated row old key holds with ⟨createdBy, version, known, digest, expiry⟩
      exact ⟨createdBy, version, List.mem_append_left _ known, digest, expiry⟩
    · rcases isActive_of_isDue due with ⟨windowMember, _, date, rfl, _, _⟩
      obtain rfl : identity env window date = key := Option.some.inj holds
      have current := sound.versions.current _ (mem_schedules.2 ⟨window, windowMember, rfl⟩)
      exact ⟨rfl, window.data.schedule, List.mem_append_left _ current, rfl, rfl⟩
  · intro row member key holds
    rcases (mem_sweep_iff holds).1 member with ⟨inLoop, _⟩
    rw [sameLifted]
    rcases materialized.origin row inLoop with old | ⟨window, occurrence, id, due, rfl⟩
    · exact sound.lifted row old key holds
    · constructor
      · intro lifted
        exact absurd rfl lifted
      · intro operator
        -- The silence the operator lifted still tracks the key, so it is the new one.
        rcases sound.tracked key operator with ⟨old, oldMember, oldHolds⟩
        have same := indexed old (materialized.kept old oldMember) _ inLoop key oldHolds holds
        rw [← same]
        exact (sound.lifted old oldMember key oldHolds).2 operator
  · intro key operator
    rw [sameLifted] at operator
    rcases sound.tracked key operator with ⟨row, member, holds⟩
    refine ⟨row, (mem_sweep_iff holds).2 ⟨materialized.kept row member, ?_⟩, holds⟩
    intro stale
    have live := (mem_staleSilences.1 stale).2.1
    simp only [isLive, Bool.and_eq_true, Option.isNone_iff_eq_none] at live
    exact (sound.lifted row member key holds).2 operator live.1.2

/-! ## The other events keep it -/

theorem sound_of_sameSilences (sound : Sound env state)
    (sameSilences : (apply env state.db event).silences = state.db.silences)
    (noneLifted : liftedByOperator state.db event = [])
    (knows : KnowsVersions env (step env state event)) : Sound env (step env state event) where
  indexed := by
    change (apply env state.db event).silences.Indexed _
    rw [sameSilences]
    exact sound.indexed
  dated row member key holds := by
    change row ∈ (apply env state.db event).silences.rows at member
    rw [sameSilences] at member
    rcases sound.dated row member key holds with ⟨createdBy, version, known, rest⟩
    exact ⟨createdBy, version, List.mem_append_left _ known, rest⟩
  lifted row member key holds := by
    change row ∈ (apply env state.db event).silences.rows at member
    change _ ↔ key ∈ state.operatorLifted ++ liftedByOperator state.db event
    rw [sameSilences] at member
    rw [noneLifted, List.append_nil]
    exact sound.lifted row member key holds
  tracked key operator := by
    change key ∈ state.operatorLifted ++ liftedByOperator state.db event at operator
    change (apply env state.db event).silences.Tracks _ key
    rw [noneLifted, List.append_nil] at operator
    rw [sameSilences]
    exact sound.tracked key operator
  versions := knows

theorem sound_createSilence (sound : Sound env state) (silence : SilenceData)
    (expiresAt : Option DateTime)
    (knows : KnowsVersions env (step env state (.createSilence silence expiresAt))) :
    Sound env (step env state (.createSilence silence expiresAt)) := by
  let inserted : SilenceRow := ⟨state.db.silences.nextKey, silence, expiresAt, none, none⟩
  have rows (row : SilenceRow) :
      row ∈ (step env state (.createSilence silence expiresAt)).db.silences.rows ↔
        row ∈ state.db.silences.rows ∨ row = inserted :=
    Table.mem_insert
  have old {row : SilenceRow} {key : OccurrenceIdentity}
      (member : row ∈ (step env state (.createSilence silence expiresAt)).db.silences.rows)
      (holds : row.occurrence = some key) : row ∈ state.db.silences.rows := by
    rcases (rows row).1 member with old | rfl
    · exact old
    · cases holds
  have sameLifted : (step env state (.createSilence silence expiresAt)).operatorLifted =
      state.operatorLifted :=
    List.append_nil _
  exact
    { indexed := by
        intro first firstMember second secondMember key firstHolds secondHolds
        exact sound.indexed first (old firstMember firstHolds) second
          (old secondMember secondHolds) key firstHolds secondHolds
      dated := by
        intro row member key holds
        rcases sound.dated row (old member holds) key holds with ⟨createdBy, version, known, rest⟩
        exact ⟨createdBy, version, List.mem_append_left _ known, rest⟩
      lifted := by
        intro row member key holds
        rw [sameLifted]
        exact sound.lifted row (old member holds) key holds
      tracked := by
        intro key operator
        rw [sameLifted] at operator
        exact (sound.tracked key operator).of_kept fun row member => (rows row).2 (Or.inl member)
      versions := knows }

theorem mem_liftedByOperator {key : OccurrenceIdentity} :
    key ∈ liftedByOperator db (.liftSilence id now) ↔
      ∃ row ∈ db.silences.rows, row.id = id ∧ row.liftedAt = none ∧ row.occurrence = some key := by
  simp [liftedByOperator, and_assoc]

theorem sound_liftSilence (sound : Sound env state) (id : Nat) (now : DateTime)
    (knows : KnowsVersions env (step env state (.liftSilence id now))) :
    Sound env (step env state (.liftSilence id now)) := by
  let lift (row : SilenceRow) : SilenceRow := { row with liftedAt := some now }
  have keepsId (row : SilenceRow) : (lift row).id = row.id := rfl
  have rows (row : SilenceRow) :
      row ∈ (step env state (.liftSilence id now)).db.silences.rows ↔
        ∃ old ∈ state.db.silences.rows,
          (if (decide (old.id = id) && old.liftedAt.isNone) = true then lift old else old) = row :=
    @Table.mem_update _ _ _ _ lift keepsId row
  exact
    { indexed := sound.indexed.update keepsId fun _ => Or.inl rfl
      dated := by
        intro row member key holds
        rcases (rows row).1 member with ⟨old, oldMember, changed⟩
        have kept : row.occurrence = old.occurrence ∧ row.silence = old.silence ∧
            row.expiresAt = old.expiresAt := by
          rw [← changed]
          split <;> exact ⟨rfl, rfl, rfl⟩
        rw [kept.1] at holds
        rcases sound.dated old oldMember key holds with ⟨createdBy, version, known, rest⟩
        rw [kept.2.1, kept.2.2]
        exact ⟨createdBy, version, List.mem_append_left _ known, rest⟩
      lifted := by
        intro row member key holds
        change _ ↔ key ∈ state.operatorLifted ++ liftedByOperator state.db (.liftSilence id now)
        rw [List.mem_append, mem_liftedByOperator]
        rcases (rows row).1 member with ⟨old, oldMember, changed⟩
        split at changed
        · rename_i hit
          rw [Bool.and_eq_true, decide_eq_true_eq, Option.isNone_iff_eq_none] at hit
          rw [← changed] at holds ⊢
          exact ⟨fun _ => Or.inr ⟨old, oldMember, hit.1, hit.2, holds⟩, fun _ => by simp [lift]⟩
        · rename_i missed
          rw [← changed] at holds ⊢
          rw [sound.lifted old oldMember key holds]
          constructor
          · exact Or.inl
          · rintro (operator | ⟨other, otherMember, isHit, live, otherHolds⟩)
            · exact operator
            · exfalso
              rw [sound.indexed other otherMember old oldMember key otherHolds holds] at isHit live
              simp [isHit, live] at missed
      tracked := by
        intro key operator
        change key ∈ state.operatorLifted ++
          liftedByOperator state.db (.liftSilence id now) at operator
        rw [List.mem_append, mem_liftedByOperator] at operator
        have before : state.db.silences.Tracks SilenceRow.occurrence key := by
          rcases operator with operator | ⟨row, member, _, _, holds⟩
          · exact sound.tracked key operator
          · exact ⟨row, member, holds⟩
        exact before.update keepsId fun _ => rfl
      versions := knows }

theorem sound_step (sound : Sound env state) (digestsApart : KeepsDigestsApart env state event) :
    Sound env (step env state event) := by
  have knows := knowsVersions_step sound.versions digestsApart
  cases event with
  | sweep now => exact sound_sweep sound now knows
  | createWindow data =>
      refine sound_of_sameSilences sound ?_ rfl knows
      change (createMaintenanceWindow state.db data).silences = _
      unfold createMaintenanceWindow
      split <;> rfl
  | updateWindow id data =>
      refine sound_of_sameSilences sound ?_ rfl knows
      change (updateMaintenanceWindow state.db id data).silences = _
      unfold updateMaintenanceWindow
      split <;> rfl
  | deleteWindow id => exact sound_of_sameSilences sound rfl rfl knows
  | createSilence silence expiresAt => exact sound_createSilence sound silence expiresAt knows
  | liftSilence id now => exact sound_liftSilence sound id now knows

/-! ## After a sweep -/

theorem expiresAt_of_sound (sound : Sound env state) {row : SilenceRow}
    (member : row ∈ state.db.silences.rows) (windowMember : window ∈ state.db.windows.rows)
    {date : Int} (holds : row.occurrence = some (identity env window date)) :
    row.expiresAt = some (occurrenceOn env window.data.schedule date).endsAt := by
  rcases sound.dated row member _ holds with ⟨_, version, known, digest, expiry⟩
  have current := sound.versions.current _ (mem_schedules.2 ⟨window, windowMember, rfl⟩)
  rw [expiry, ← sound.versions.apart window.id _ _ current known digest]
  rfl

theorem reached_of_live {now : DateTime} {row : SilenceRow} {key : OccurrenceIdentity}
    (member : row ∈ (step env state (.sweep now)).db.silences.rows)
    (live : isLive now row = true) (holds : row.occurrence = some key) :
    ∃ window ∈ state.db.windows.rows, window.data.enabled = true ∧ ∃ date,
      IsActive env window.data.schedule now date ∧ IsReached env window.data.schedule now date ∧
        key = identity env window date := by
  rcases (mem_sweep_iff holds).1 member with ⟨inLoop, notStale⟩
  have active : key ∈ (materializeAll env now state.db).activeKeys := by
    rcases (materialized_all env now state.db).origin row inLoop with
      old | ⟨window, occurrence, id, due, rfl⟩
    · by_contra inactive
      apply notStale
      refine mem_staleSilences.2 ⟨old, live, ?_⟩
      intro other otherHolds
      rwa [← Option.some.inj (holds.symm.trans otherHolds)]
    · exact mem_activeKeys.2 ⟨window, occurrence, due, (Option.some.inj holds).symm⟩
  rcases mem_activeKeys.1 active with ⟨window, occurrence, due, isKey⟩
  rcases isActive_of_isDue due with ⟨windowMember, enabled, date, rfl, isActive, reached⟩
  exact ⟨window, windowMember, enabled, date, isActive, reached, isKey⟩

theorem live_of_reached (sound : Sound env (step env state (.sweep now))) {date : Int}
    (wanted : IsWanted env state now window date)
    (reached : IsReached env window.data.schedule now date) :
    ∃ row ∈ (step env state (.sweep now)).db.silences.rows, isLive now row = true ∧
      row.occurrence = some (identity env window date) ∧
      row.expiresAt = some (occurrenceOn env window.data.schedule date).endsAt := by
  rcases wanted with ⟨windowMember, enabled, active, notOperator⟩
  have due := isDue_of_isReached windowMember enabled active reached
  have isKey : identity env window date ∈ (materializeAll env now state.db).activeKeys :=
    mem_activeKeys.2 ⟨window, _, due, rfl⟩
  rcases tracks_activeKeys isKey with ⟨row, inLoop, holds⟩
  have notStale : row ∉ staleSilences env now state.db := fun stale =>
    (mem_staleSilences.1 stale).2.2 _ holds isKey
  have member : row ∈ (step env state (.sweep now)).db.silences.rows :=
    (mem_sweep_iff holds).2 ⟨inLoop, notStale⟩
  have expiry := expiresAt_of_sound sound member windowMember holds
  have notLifted : row.liftedAt = none := by
    by_contra lifted
    have operator := (sound.lifted row member _ holds).1 lifted
    exact notOperator ((List.append_nil state.operatorLifted) ▸ operator)
  refine ⟨row, member, ?_, holds, expiry⟩
  rcases active with ⟨_, _, _, _, unended⟩
  simp [isLive, (sound.dated row member _ holds).1, holds, notLifted, expiry, unended]

/-- A sweep reconciles the silences just when it reaches every wanted occurrence. -/
theorem reconciled_iff (sound : Sound env (step env state (.sweep now))) :
    Reconciled env now (step env state (.sweep now)) ↔
      ∀ window date, IsWanted env state now window date →
        IsReached env window.data.schedule now date := by
  have sameLifted : (step env state (.sweep now)).operatorLifted = state.operatorLifted :=
    List.append_nil _
  have sameWanted (window : ConfigRow WindowData) (date : Int) :
      IsWanted env (step env state (.sweep now)) now window date ↔
        IsWanted env state now window date := by
    unfold IsWanted
    rw [sameLifted]
    exact Iff.rfl
  constructor
  · intro reconciled window date wanted
    rcases (reconciled _ _).2 ⟨window, date, (sameWanted _ _).2 wanted, rfl, rfl⟩ with
      ⟨row, member, live, holds, _⟩
    rcases reached_of_live member live holds with
      ⟨other, otherMember, _, otherDate, _, reached, sameKey⟩
    have sameId : window.id = other.id := congrArg OccurrenceIdentity.windowId sameKey
    have sameDate : date = otherDate := congrArg OccurrenceIdentity.occurrenceDate sameKey
    rw [Table.eq_of_key_eq wanted.1 otherMember sameId, sameDate]
    exact reached
  · intro reaches key expiresAt
    constructor
    · rintro ⟨row, member, live, holds, expiry⟩
      rcases reached_of_live member live holds with
        ⟨window, windowMember, enabled, date, active, _, rfl⟩
      have notOperator : identity env window date ∉ state.operatorLifted := by
        intro operator
        rw [← sameLifted] at operator
        have lifted := (sound.lifted row member _ holds).2 operator
        simp only [isLive, Bool.and_eq_true, Option.isNone_iff_eq_none] at live
        exact lifted live.1.2
      refine ⟨window, date, (sameWanted _ _).2 ⟨windowMember, enabled, active, notOperator⟩,
        rfl, ?_⟩
      rw [expiresAt_of_sound sound member windowMember holds] at expiry
      exact (Option.some.inj expiry).symm
    · rintro ⟨window, date, wanted, isKey, isEnd⟩
      have before := (sameWanted window date).1 wanted
      rw [isKey, isEnd]
      exact live_of_reached sound before (reaches window date before)

theorem oneLive_of_sound (sound : Sound env state) : OneLive state := by
  intro first firstMember second secondMember key firstHolds secondHolds _ _
  exact sound.indexed first firstMember second secondMember key firstHolds secondHolds

theorem staysLifted_of_sound (sound : Sound env state) : StaysLifted state := by
  intro key operator row member holds
  exact (sound.lifted row member key holds).2 operator

/-! ## Runs that meet the conditions -/

theorem keepsDigestsApart_of_distinct {all : List WindowSchedule}
    (distinct : ∀ first ∈ all, ∀ second ∈ all,
      scheduleDigest env first = scheduleDigest env second → first = second)
    (seen : ∀ pair ∈ state.versions, pair.2 ∈ all) (events : List MaintenanceEvent)
    (current : ∀ pair ∈ schedules state.db, pair.2 ∈ all)
    (given : ∀ event ∈ events, ∀ schedule ∈ eventSchedules event, schedule ∈ all) :
    Along (step env) (KeepsDigestsApart env) state events := by
  induction events generalizing state with
  | nil => trivial
  | cons event events ih =>
      have next : ∀ pair ∈ schedules (apply env state.db event), pair.2 ∈ all := by
        rintro ⟨id, schedule⟩ member
        rcases mem_schedules_apply member with kept | ⟨isGiven, _⟩
        · exact current _ kept
        · exact given event (by simp) schedule isGiven
      refine ⟨?_, ih ?_ next fun other member => given other (List.mem_cons_of_mem _ member)⟩
      · rintro id data rfl version member sameDigest
        have isGiven := given _ (List.mem_cons_self ..) data.schedule (by simp [eventSchedules])
        exact distinct version (seen _ member) data.schedule isGiven sameDigest
      · intro pair member
        rcases List.mem_append.1 member with old | new
        · exact seen pair old
        · exact next pair new

/-- An occurrence of at most a day, on clocks that keep their offset. -/
def IsShort (env : MaintenanceEnvironment) (schedule : WindowSchedule) : Prop :=
  (∃ offset, windowTz env schedule = fixedZone offset) ∧ 0 ≤ schedule.startMinute ∧
    schedule.startMinute < 1440 ∧ schedule.durationMinutes ≤ 1440

theorem reachesWanted_of_short (events : List MaintenanceEvent)
    (current : ∀ pair ∈ schedules state.db, IsShort env pair.2)
    (given : ∀ event ∈ events, ∀ schedule ∈ eventSchedules event, IsShort env schedule) :
    Along (step env) (ReachesWanted env) state events := by
  induction events generalizing state with
  | nil => trivial
  | cons event events ih =>
      refine ⟨?_, ih ?_ fun other member => given other (List.mem_cons_of_mem _ member)⟩
      · rintro now - window date ⟨member, _, active, _⟩
        rcases current _ (mem_schedules.2 ⟨window, member, rfl⟩) with
          ⟨⟨offset, fixed⟩, startNonneg, startInDay, withinDay⟩
        exact isReached_of_fixedZone fixed startNonneg startInDay withinDay active
      · rintro ⟨id, schedule⟩ member
        rcases mem_schedules_apply member with kept | ⟨isGiven, _⟩
        · exact current _ kept
        · exact given event (by simp) schedule isGiven

/-! ## Whole runs -/

/-- A run is safe just when each of its sweeps reaches the occurrences that are wanted. -/
theorem safe_iff (events : List MaintenanceEvent)
    (digestsApart : Along (step env) (KeepsDigestsApart env) fresh events) :
    Along (step env) (fun state event => IsSafeAfter env event (step env state event)) fresh
        events ↔
      Along (step env) (ReachesWanted env) fresh events := by
  refine digestsApart.congr_of_invariant (Sound env) sound_fresh ?_ ?_
  · intro state event sound apart
    exact sound_step sound apart
  · intro state event sound apart
    have after := sound_step sound apart
    constructor
    · intro safe now isSweep
      subst isSweep
      exact (reconciled_iff after).1 (safe.reconciled now rfl)
    · intro reaches
      refine ⟨oneLive_of_sound after, staysLifted_of_sound after, ?_⟩
      intro now isSweep
      subst isSweep
      exact (reconciled_iff after).2 (reaches now rfl)

private def sampleSha1 (text : String) : String :=
  if text = "1|600|120|UTC" then "5a84f0121ada0560b5e73599ab9806f288d48dc7"
  else if text = "1|600|240|UTC" then "9da9f3b6cd6a7a8ebaea9da93dc8304086a78d7e"
  else if text = "1|0|4320|UTC" then "fbfa4e0e8e86ef2ab6fff5d613d71d939907a18b"
  else ""

private def sampleEnv : MaintenanceEnvironment where
  sha1Hexdigest := sampleSha1
  zoneInfo name := if name = "UTC" then some (fixedZone 0) else none
  utcZone := fixedZone 0
  reportTimezoneName := "UTC"

private def sampleMondays (startMinute durationMinutes : Int) : WindowData where
  silence := ⟨⟨"zabbix", "", "", "", "", "", ""⟩, "", "ops"⟩
  name := "patching"
  enabled := true
  daysOfWeek := "1"
  startMinute := startMinute
  durationMinutes := durationMinutes
  timezone := "UTC"

private def mondayMinute (minute : Int) : DateTime :=
  (4 * 1440 + minute) * 60 * DateTime.microsecondsPerSecond

private theorem windowTz_sampleEnv {schedule : WindowSchedule} (utc : schedule.timezone = "UTC") :
    windowTz sampleEnv schedule = fixedZone 0 := by
  have visible : strip "UTC" = "UTC" := by decide
  rw [windowTz, utc, visible]
  rfl

/-- A window is made longer during its occurrence and shorter again, and an operator lifts
its third silence. -/
private def sampleEdits : List MaintenanceEvent :=
  [.createWindow (sampleMondays 600 120), .sweep (mondayMinute 630),
    .updateWindow 1 (sampleMondays 600 240), .sweep (mondayMinute 631),
    .updateWindow 1 (sampleMondays 600 120), .sweep (mondayMinute 632),
    .liftSilence 3 (mondayMinute 633), .sweep (mondayMinute 634)]

example : ((run (step sampleEnv) fresh sampleEdits).db.silences.rows.map fun row =>
    (row.occurrence.isSome, row.liftedAt)) =
      [(false, some (mondayMinute 631)), (false, some (mondayMinute 632)),
        (true, some (mondayMinute 633))] := by
  decide

theorem safe_iff_sampleEdits :
    Along (step sampleEnv)
      (fun state event => IsSafeAfter sampleEnv event (step sampleEnv state event)) fresh
      sampleEdits := by
  have digestsApart : Along (step sampleEnv) (KeepsDigestsApart sampleEnv) fresh sampleEdits := by
    have distinct : ∀ first ∈ sampleEdits.flatMap eventSchedules,
        ∀ second ∈ sampleEdits.flatMap eventSchedules,
          scheduleDigest sampleEnv first = scheduleDigest sampleEnv second → first = second := by
      decide
    refine keepsDigestsApart_of_distinct distinct (fun _ member => by cases member) _
      (fun _ member => by cases member) ?_
    intro event member schedule isGiven
    exact List.mem_flatMap.2 ⟨event, member, isGiven⟩
  have short : ∀ schedule ∈ sampleEdits.flatMap eventSchedules, schedule.timezone = "UTC" ∧
      0 ≤ schedule.startMinute ∧ schedule.startMinute < 1440 ∧
        schedule.durationMinutes ≤ 1440 := by
    decide
  refine (safe_iff sampleEdits digestsApart).2 ?_
  refine reachesWanted_of_short _ (fun _ member => by cases member) ?_
  intro event member schedule isGiven
  rcases short schedule (List.mem_flatMap.2 ⟨event, member, isGiven⟩) with ⟨utc, bounds⟩
  exact ⟨⟨0, windowTz_sampleEnv utc⟩, bounds⟩

private def sampleLongRun : List MaintenanceEvent :=
  [.createWindow (sampleMondays 0 4320), .sweep (mondayMinute 720), .sweep (mondayMinute 3600)]

/-- The sweep on the last day lifts the silence. -/
theorem long_occurrence_is_retired :
    ¬ Along (step sampleEnv)
      (fun state event => IsSafeAfter sampleEnv event (step sampleEnv state event)) fresh
      sampleLongRun := by
  intro along
  simp only [sampleLongRun, Along] at along
  have safe := along.2.2.1
  let lastDay := run (step sampleEnv) fresh sampleLongRun
  have noneLive : ∀ row ∈ lastDay.db.silences.rows, isLive (mondayMinute 3600) row = false := by
    decide
  have wanted : IsWanted sampleEnv lastDay (mondayMinute 3600) ⟨1, sampleMondays 0 4320⟩ 4 :=
    ⟨by decide, rfl, ⟨[1], by decide, by decide, by decide, by decide⟩, by decide⟩
  rcases (safe.reconciled _ rfl _ _).2 ⟨_, _, wanted, rfl, rfl⟩ with ⟨row, member, live, _⟩
  rw [noneLive row member] at live
  cases live

end MaintenanceSafety

end WebhookWise
