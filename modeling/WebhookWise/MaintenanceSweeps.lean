import WebhookWise.SqlIndexes
import WebhookWise.MaintenanceSchedules

/-!
# The maintenance sweep

The sweep gives every active occurrence of an enabled window a silence, and lifts the silences of
occurrences that are over.  A silence that an operator lifted keeps the identity of its occurrence.
The sweep that an endpoint runs in its transaction is a second step here.
-/

namespace WebhookWise

open SqlTable

/-- The identity columns of a silence, which are null or not all at once.  The date stands
for its text. -/
structure OccurrenceIdentity where
  windowId : Nat
  occurrenceDate : Int
  scheduleDigest : String
deriving DecidableEq

structure SilenceRow where
  id : Nat
  silence : SilenceData
  expiresAt : Option DateTime
  liftedAt : Option DateTime
  occurrence : Option OccurrenceIdentity
deriving DecidableEq

structure MaintenanceDatabase where
  windows : Table (@ConfigRow.id WindowData)
  silences : Table SilenceRow.id

/-- What `sweep_maintenance_windows` returns. -/
structure SweepCounts where
  created : Nat
  lifted : Nat
deriving DecidableEq

variable {key : OccurrenceIdentity}
variable (now : DateTime)

/-- The loop of the sweep over the windows: the table, `active_keys`, `created`. -/
structure SweepProgress where
  silences : Table SilenceRow.id
  activeKeys : List OccurrenceIdentity
  created : Nat

namespace MaintenanceSweeps

open MaintenanceSchedules

variable (env : MaintenanceEnvironment)

/-! ## The sweep -/

variable (now : DateTime)

def dueOccurrence (window : ConfigRow WindowData) : Option WindowOccurrence :=
  if window.data.enabled then (activeOccurrence env window.data.schedule now).join else none

/-- `(window_id, occ_date, digest)`. -/
def identity (window : ConfigRow WindowData) (date : Int) : OccurrenceIdentity where
  windowId := window.id
  occurrenceDate := date
  scheduleDigest := scheduleDigest env window.data.schedule

def occurrenceMarker (windowId : Nat) (date : Int) : String :=
  "[mw:" ++ toString windowId ++ ":" ++ DateTime.dateIsoformat date ++ "]"

def occurrenceSilence (window : ConfigRow WindowData) (occurrence : WindowOccurrence)
    (id : Nat) : SilenceRow where
  id := id
  silence :=
    let label := occurrenceMarker window.id occurrence.occurrenceDate ++ " " ++ window.data.name
    { criteria := window.data.silence.criteria
      comment := String.ofList (label.toList.take 500)
      createdBy := "maintenance-window" }
  expiresAt := some occurrence.endsAt
  liftedAt := none
  occurrence := some (identity env window occurrence.occurrenceDate)

def materialize (progress : SweepProgress) (window : ConfigRow WindowData) : SweepProgress :=
  match dueOccurrence env now window with
  | none => progress
  | some occurrence =>
      let key := identity env window occurrence.occurrenceDate
      let activeKeys := progress.activeKeys ++ [key]
      -- `_occurrence_already_tracked`, which leaves nothing for the unique index to refuse.
      if progress.silences.Tracks SilenceRow.occurrence key then { progress with activeKeys }
      else
        { silences := progress.silences.insert (occurrenceSilence env window occurrence)
            fun _ => rfl
          activeKeys
          created := progress.created + 1 }

/-- `_live_maintenance_silences`. -/
def isLive (row : SilenceRow) : Bool :=
  row.silence.createdBy = "maintenance-window" && row.occurrence.isSome && row.liftedAt.isNone &&
    row.expiresAt.any (now < ·)

/-- The loop over the windows. -/
def materializeAll (db : MaintenanceDatabase) : SweepProgress :=
  db.windows.rows.foldl (materialize env now) ⟨db.silences, [], 0⟩

def staleSilences (db : MaintenanceDatabase) : List SilenceRow :=
  (db.silences.rows.filter (isLive now)).filter fun row =>
    row.occurrence.all (· ∉ (materializeAll env now db).activeKeys)

def retire (row : SilenceRow) : SilenceRow :=
  { row with liftedAt := some now, occurrence := none }

theorem retire_id (row : SilenceRow) : (retire now row).id = row.id :=
  rfl

def sweepMaintenanceWindows (db : MaintenanceDatabase) : MaintenanceDatabase × SweepCounts :=
  let progress := materializeAll env now db
  let stale := staleSilences env now db
  let silences := progress.silences.update (fun row => stale.any (·.id = row.id)) (retire now)
    (retire_id now)
  ({ db with silences }, ⟨progress.created, stale.length⟩)

/-! ## Windows and operators -/

/-- `create_maintenance_window_endpoint` before its sweep; a taken name is refused. -/
def createMaintenanceWindow (db : MaintenanceDatabase) (data : WindowData) :
    MaintenanceDatabase :=
  if db.windows.rows.any (·.data.name = data.name) then db
  else { db with windows := db.windows.insert (fun id => ⟨id, data⟩) fun _ => rfl }

/-- `update_maintenance_window_endpoint` before its sweep. -/
def updateMaintenanceWindow (db : MaintenanceDatabase) (id : Nat) (data : WindowData) :
    MaintenanceDatabase :=
  if db.windows.rows.any fun row => row.data.name = data.name && row.id ≠ id then db
  else
    { db with
      windows := db.windows.update (fun row => row.id = id) (fun row => { row with data })
        fun _ => rfl }

/-- `delete_maintenance_window_endpoint` before its sweep. -/
def deleteMaintenanceWindow (db : MaintenanceDatabase) (id : Nat) : MaintenanceDatabase :=
  { db with windows := db.windows.delete fun row => row.id = id }

def createSilence (db : MaintenanceDatabase) (silence : SilenceData)
    (expiresAt : Option DateTime) : MaintenanceDatabase :=
  { db with silences := db.silences.insert (⟨·, silence, expiresAt, none, none⟩) fun _ => rfl }

def liftSilence (db : MaintenanceDatabase) (id : Nat) (now : DateTime) : MaintenanceDatabase :=
  { db with
    silences := db.silences.update (fun row => row.id = id && row.liftedAt.isNone)
      (fun row => { row with liftedAt := some now }) fun _ => rfl }

/-- What happens to windows and silences. -/
inductive MaintenanceEvent where
  | sweep (now : DateTime)
  | createWindow (data : WindowData)
  | updateWindow (id : Nat) (data : WindowData)
  | deleteWindow (id : Nat)
  | createSilence (silence : SilenceData) (expiresAt : Option DateTime)
  | liftSilence (id : Nat) (now : DateTime)

def apply (db : MaintenanceDatabase) : MaintenanceEvent → MaintenanceDatabase
  | .sweep now => (sweepMaintenanceWindows env now db).1
  | .createWindow data => createMaintenanceWindow db data
  | .updateWindow id data => updateMaintenanceWindow db id data
  | .deleteWindow id => deleteMaintenanceWindow db id
  | .createSilence silence expiresAt => MaintenanceSweeps.createSilence db silence expiresAt
  | .liftSilence id now => MaintenanceSweeps.liftSilence db id now

/-! ## The loop over the windows -/

variable {env} {now : DateTime}

/-- A key that the loop goes on with for one of the windows. -/
def IsDue (env : MaintenanceEnvironment) (now : DateTime) (windows : List (ConfigRow WindowData))
    (window : ConfigRow WindowData) (occurrence : WindowOccurrence) : Prop :=
  window ∈ windows ∧ dueOccurrence env now window = some occurrence

/-- What the loop makes of a table: it keeps the rows, adds silences of due occurrences
only, and tracks each due occurrence in the end. -/
structure Materialized (env : MaintenanceEnvironment) (now : DateTime)
    (windows : List (ConfigRow WindowData)) (before after : SweepProgress) : Prop where
  kept : ∀ row ∈ before.silences.rows, row ∈ after.silences.rows
  origin : ∀ row ∈ after.silences.rows, row ∈ before.silences.rows ∨
    ∃ window occurrence id, IsDue env now windows window occurrence ∧
      row = occurrenceSilence env window occurrence id
  activeKeys : ∀ key, key ∈ after.activeKeys ↔ key ∈ before.activeKeys ∨
    ∃ window occurrence, IsDue env now windows window occurrence ∧
      key = identity env window occurrence.occurrenceDate
  indexed : before.silences.Indexed SilenceRow.occurrence →
    after.silences.Indexed SilenceRow.occurrence
  tracked : ∀ key ∈ after.activeKeys, key ∈ before.activeKeys ∨
    after.silences.Tracks SilenceRow.occurrence key

theorem materialized_turn (progress : SweepProgress) (window : ConfigRow WindowData) :
    Materialized env now [window] progress (materialize env now progress window) := by
  cases due : dueOccurrence env now window with
  | none =>
      have skipped : materialize env now progress window = progress := by
        rw [materialize, due]
      have noneDue : ∀ other occurrence, ¬ IsDue env now [window] other occurrence := by
        rintro other occurrence ⟨member, otherDue⟩
        rw [List.mem_singleton.1 member, due] at otherDue
        cases otherDue
      rw [skipped]
      exact
        { kept := fun _ member => member
          origin := fun _ member => Or.inl member
          activeKeys := by simp [noneDue]
          indexed := id
          tracked := fun _ member => Or.inl member }
  | some occurrence =>
      have isDue : ∀ other found, IsDue env now [window] other found ↔
          other = window ∧ found = occurrence := by
        intro other found
        rw [IsDue, List.mem_singleton]
        constructor
        · rintro ⟨rfl, otherDue⟩
          exact ⟨rfl, (Option.some.inj (due.symm.trans otherDue)).symm⟩
        · rintro ⟨rfl, rfl⟩
          exact ⟨rfl, due⟩
      let key := identity env window occurrence.occurrenceDate
      by_cases tracked : progress.silences.Tracks SilenceRow.occurrence key
      · have turned : materialize env now progress window =
            { progress with activeKeys := progress.activeKeys ++ [key] } := by
          simp only [materialize, due]
          exact if_pos tracked
        rw [turned]
        exact
          { kept := fun _ member => member
            origin := fun _ member => Or.inl member
            activeKeys := by simp [isDue, key]
            indexed := id
            tracked := by
              intro other member
              rcases List.mem_append.1 member with old | new
              · exact Or.inl old
              · rw [List.mem_singleton.1 new]
                exact Or.inr tracked }
      · let silences : Table SilenceRow.id :=
          progress.silences.insert (occurrenceSilence env window occurrence) fun _ => rfl
        have inserted (row : SilenceRow) : row ∈ silences.rows ↔ row ∈ progress.silences.rows ∨
            row = occurrenceSilence env window occurrence progress.silences.nextKey :=
          Table.mem_insert
        have turned : materialize env now progress window =
            ⟨silences, progress.activeKeys ++ [key], progress.created + 1⟩ := by
          simp only [materialize, due]
          exact if_neg tracked
        rw [turned]
        exact
          { kept := fun row member => (inserted row).2 (Or.inl member)
            origin := by
              intro row member
              rcases (inserted row).1 member with old | new
              · exact Or.inl old
              · exact Or.inr ⟨window, occurrence, _, (isDue _ _).2 ⟨rfl, rfl⟩, new⟩
            activeKeys := by simp [isDue, key]
            indexed := by
              intro indexed
              refine indexed.insert (fun _ => rfl) ?_
              intro value holds
              rw [← Option.some.inj holds]
              exact tracked
            tracked := by
              intro other member
              rcases List.mem_append.1 member with old | new
              · exact Or.inl old
              · rw [List.mem_singleton.1 new]
                exact Or.inr ⟨_, (inserted _).2 (Or.inr rfl), rfl⟩ }

theorem IsDue.cons {window other : ConfigRow WindowData} {windows : List (ConfigRow WindowData)}
    {occurrence : WindowOccurrence} :
    IsDue env now (window :: windows) other occurrence ↔
      IsDue env now [window] other occurrence ∨ IsDue env now windows other occurrence := by
  simp only [IsDue, List.mem_cons, List.not_mem_nil, or_false]
  tauto

theorem materialized_foldl (windows : List (ConfigRow WindowData)) (progress : SweepProgress) :
    Materialized env now windows progress (windows.foldl (materialize env now) progress) := by
  induction windows generalizing progress with
  | nil =>
      exact
        { kept := fun _ member => member
          origin := fun _ member => Or.inl member
          activeKeys := by simp [IsDue]
          indexed := id
          tracked := fun _ member => Or.inl member }
  | cons window windows ih =>
      have turn := @materialized_turn env now progress window
      have rest := ih (materialize env now progress window)
      rw [List.foldl_cons]
      exact
        { kept := fun row member => rest.kept row (turn.kept row member)
          origin := by
            intro row member
            rcases rest.origin row member with middle | ⟨other, occurrence, id, due, rfl⟩
            · rcases turn.origin row middle with old | ⟨other, occurrence, id, due, rfl⟩
              · exact Or.inl old
              · exact Or.inr ⟨other, occurrence, id, IsDue.cons.2 (Or.inl due), rfl⟩
            · exact Or.inr ⟨other, occurrence, id, IsDue.cons.2 (Or.inr due), rfl⟩
          activeKeys := by
            intro key
            rw [rest.activeKeys, turn.activeKeys]
            constructor
            · rintro ((old | ⟨other, occurrence, due, rfl⟩) | ⟨other, occurrence, due, rfl⟩)
              · exact Or.inl old
              · exact Or.inr ⟨other, occurrence, IsDue.cons.2 (Or.inl due), rfl⟩
              · exact Or.inr ⟨other, occurrence, IsDue.cons.2 (Or.inr due), rfl⟩
            · rintro (old | ⟨other, occurrence, due, rfl⟩)
              · exact Or.inl (Or.inl old)
              · rcases IsDue.cons.1 due with first | later
                · exact Or.inl (Or.inr ⟨other, occurrence, first, rfl⟩)
                · exact Or.inr ⟨other, occurrence, later, rfl⟩
          indexed := fun indexed => rest.indexed (turn.indexed indexed)
          tracked := by
            intro key member
            rcases rest.tracked key member with middle | tracked
            · rcases turn.tracked key middle with old | tracked
              · exact Or.inl old
              · exact Or.inr (tracked.of_kept rest.kept)
            · exact Or.inr tracked }

/-! ## What a sweep leaves -/

variable {db : MaintenanceDatabase}
variable {row : SilenceRow}

theorem materialized_all (env : MaintenanceEnvironment) (now : DateTime)
    (db : MaintenanceDatabase) :
    Materialized env now db.windows.rows ⟨db.silences, [], 0⟩ (materializeAll env now db) :=
  materialized_foldl _ _

theorem mem_activeKeys :
    key ∈ (materializeAll env now db).activeKeys ↔
      ∃ window occurrence, IsDue env now db.windows.rows window occurrence ∧
        key = identity env window occurrence.occurrenceDate := by
  rw [(materialized_all env now db).activeKeys]
  simp

theorem tracks_activeKeys (active : key ∈ (materializeAll env now db).activeKeys) :
    (materializeAll env now db).silences.Tracks SilenceRow.occurrence key := by
  rcases (materialized_all env now db).tracked key active with old | tracked
  · cases old
  · exact tracked

theorem mem_staleSilences :
    row ∈ staleSilences env now db ↔ row ∈ db.silences.rows ∧ isLive now row = true ∧
      ∀ key, row.occurrence = some key → key ∉ (materializeAll env now db).activeKeys := by
  rw [staleSilences, List.mem_filter, List.mem_filter, and_assoc]
  cases row.occurrence <;> simp

theorem isStale_iff (member : row ∈ (materializeAll env now db).silences.rows) :
    ((staleSilences env now db).any fun stale => stale.id = row.id) = true ↔
      row ∈ staleSilences env now db := by
  rw [List.any_eq_true]
  constructor
  · rintro ⟨stale, staleMember, sameId⟩
    have kept := (materialized_all env now db).kept stale (mem_staleSilences.1 staleMember).1
    rwa [← Table.eq_of_key_eq kept member (of_decide_eq_true sameId)]
  · intro stale
    exact ⟨row, stale, decide_eq_true rfl⟩

theorem mem_sweep_iff (holds : row.occurrence = some key) :
    row ∈ (sweepMaintenanceWindows env now db).1.silences.rows ↔
      row ∈ (materializeAll env now db).silences.rows ∧ row ∉ staleSilences env now db := by
  rw [sweepMaintenanceWindows, Table.mem_update]
  constructor
  · rintro ⟨old, member, changed⟩
    split at changed
    · rw [← changed] at holds
      cases holds
    · rename_i notStale
      rw [← changed]
      exact ⟨member, fun stale => notStale ((isStale_iff member).2 stale)⟩
  · rintro ⟨member, notStale⟩
    exact ⟨row, member, if_neg fun stale => notStale ((isStale_iff member).1 stale)⟩

theorem indexed_sweep (indexed : db.silences.Indexed SilenceRow.occurrence) :
    (sweepMaintenanceWindows env now db).1.silences.Indexed SilenceRow.occurrence := by
  have materialized := (materialized_all env now db).indexed indexed
  exact materialized.update (retire_id now) fun _ => Or.inr rfl

end MaintenanceSweeps

end WebhookWise
