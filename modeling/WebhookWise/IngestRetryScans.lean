import WebhookWise.GuardedRuns
import WebhookWise.ReadCommitted
import WebhookWise.WebhookIngest

/-!
# The scan for overdue ingest retries

`run_raw_ingest_retry_scan` selects the overdue rows, pushes the `next_retry_at` of each forward if
the row is still due, commits, and enqueues a task for every row it selected.  Any number of scans
run at the same time here, statement by statement, under READ COMMITTED.
-/

namespace WebhookWise

namespace IngestRetryScans

open GuardedRuns ReadCommitted SqlTable WebhookIngest

/-! ## The statements -/

variable (now : DateTime)

/-- `_lease_seconds`, by the `max_delay` of the retry policy. -/
def leaseSeconds (maxDelay : Int) : Int :=
  max 60 maxDelay

def leaseUntil (maxDelay : Int) (now : DateTime) : DateTime :=
  now.addSeconds (leaseSeconds maxDelay)

/-- `next_retry_at <= now`, which a null is not. -/
def isDue (event : WebhookEvent) : Bool :=
  match event.nextRetryAt with
  | some dueAt => dueAt ≤ now
  | none => false

def isOverdueRetry (event : WebhookEvent) : Bool :=
  event.processingStatus = .retry && isDue now event

/-- `next_retry_at.asc()` -/
def DueBefore (first second : WebhookEvent) : Prop :=
  first.nextRetryAt.getD 0 ≤ second.nextRetryAt.getD 0

instance : DecidableRel DueBefore := fun first second =>
  inferInstanceAs (Decidable (first.nextRetryAt.getD 0 ≤ second.nextRetryAt.getD 0))

abbrev EventRows := VersionedTable WebhookEvent.id

/-- The `SELECT`; what it finds due is never null. -/
def overdueEvents (rows : EventRows) (now : DateTime) (limit : Int) : List WebhookEvent :=
  ((select rows (isOverdueRetry now)).insertionSort DueBefore).take (max 1 limit).toNat

/-- The `UPDATE`'s `values`. -/
def leased (maxDelay : Int) (now : DateTime) (event : WebhookEvent) : WebhookEvent :=
  { event with nextRetryAt := some (leaseUntil maxDelay now), updatedAt := some now }

theorem leased_id (maxDelay : Int) (now : DateTime) (event : WebhookEvent) :
    (leased maxDelay now event).id = event.id :=
  rfl

/-- The arguments of `process_webhook_task`. -/
structure IngestTask where
  sourceName : String
  sourceConnectionId : Option Nat
  rawHeaders : PyDict String
  rawBody : String
  clientIp : String
  requestId : Option String
  receivedAt : String
  ingestRetryCount : Nat

/-- `_enqueue`. -/
def taskOf (event : WebhookEvent) : IngestTask where
  sourceName := if event.source = "" then "unknown" else event.source
  sourceConnectionId := event.sourceConnectionId
  rawHeaders := event.headers
  rawBody := event.rawPayload.getD ""
  clientIp := (event.clientIp.filter (· ≠ "")).getD "retry-scan"
  requestId := event.requestId
  receivedAt := event.timestamp.utcIsoformat
  ingestRetryCount := event.retryCount

/-! ## Scans -/

/-- A scan's claim to re-enqueue an event for the time at which its retry was due. -/
structure Claim where
  scan : Nat
  eventId : Nat
  dueAt : Option DateTime
deriving DecidableEq

def claimOf (scan : Nat) (event : WebhookEvent) : Claim :=
  ⟨scan, event.id, event.nextRetryAt⟩

/-- A row whose `next_retry_at` an `UPDATE` of a scan moved away from the due time. -/
structure Move where
  claim : Claim
  leasedUntil : DateTime

structure Enqueued where
  claim : Claim
  task : IngestTask

/-- Where a call of `run_raw_ingest_retry_scan` is.  What its `UPDATE`s moved is noted here; the
call itself does not look at it.  It returns the number of the tasks it has enqueued. -/
inductive Scan where
  | notStarted
  | claiming (now : DateTime) (events unclaimed : List WebhookEvent) (moved : List Move)
  | enqueueing (unqueued : List WebhookEvent) (count : Nat)
  | ended (returned : Option Nat)

/-- The rows and the scans, with the record of the committed moves and of the tasks. -/
structure System where
  rows : EventRows
  scans : Nat → Scan
  moves : List Move
  enqueued : List Enqueued

inductive Event where
  /-- `now = utcnow()` and the `SELECT`. -/
  | select (scan : Nat) (now : DateTime) (limit : Int)
  /-- The next `UPDATE`, which may have to wait. -/
  | update (scan : Nat)
  | commit (scan : Nat)
  /-- The next task, which the broker accepts or not. -/
  | enqueue (scan : Nat) (accepted : Bool)
  /-- The call raises, or its worker dies. -/
  | abandon (scan : Nat)

def System.withScan (system : System) (number : Nat) (scan : Scan) : System :=
  { system with scans := Function.update system.scans number scan }

/-- The move of an `UPDATE` that hits. -/
def moveOf (maxDelay : Int) (now : DateTime) (number eventId : Nat) (rows : EventRows) : Move where
  claim := ⟨number, eventId, (rows.lookup eventId).bind fun row => (row.seenBy number).nextRetryAt⟩
  leasedUntil := leaseUntil maxDelay now

/-- One statement of one scan. -/
def step (maxDelay : Int) (system : System) : Event → System
  | .select number now limit =>
      match system.scans number with
      | .notStarted =>
          let events := overdueEvents system.rows now limit
          if events.isEmpty then system.withScan number (.ended (some 0))
          else system.withScan number (.claiming now events events [])
      | _ => system
  | .update number =>
      match system.scans number with
      | .claiming now events (event :: unclaimed) moved =>
          match outcome system.rows number event.id (isDue now) with
          | .waits => system
          | .misses => system.withScan number (.claiming now events unclaimed moved)
          | .hits =>
              { system with
                rows := write system.rows number event.id (leased maxDelay now)
                  (leased_id maxDelay now) }.withScan number
                (.claiming now events unclaimed
                  (moveOf maxDelay now number event.id system.rows :: moved))
      | _ => system
  | .commit number =>
      match system.scans number with
      | .claiming _ events [] moved =>
          { system with
            rows := commit system.rows number
            moves := moved ++ system.moves }.withScan number (.enqueueing events 0)
      | _ => system
  | .enqueue number accepted =>
      match system.scans number with
      | .enqueueing [] count => system.withScan number (.ended (some count))
      | .enqueueing (event :: unqueued) count =>
          if accepted then
            { system with
              enqueued := ⟨claimOf number event, taskOf event⟩ :: system.enqueued }.withScan number
              (.enqueueing unqueued (count + 1))
          else system.withScan number (.enqueueing unqueued count)
      | _ => system
  | .abandon number =>
      { system with rows := rollback system.rows number }.withScan number (.ended none)

/-! ## The law -/

/-- No two scans have enqueued an event for the same due time. -/
def EnqueuedByOneScan (system : System) : Prop :=
  ∀ first ∈ system.enqueued, ∀ second ∈ system.enqueued,
    first.claim.eventId = second.claim.eventId → first.claim.dueAt = second.claim.dueAt →
      first.claim.scan = second.claim.scan

/-- The move has pushed the due time forward. -/
def Move.Forward (move : Move) : Prop :=
  ∃ dueAt ∈ move.claim.dueAt, dueAt < move.leasedUntil

/-- Every task is for a row which an `UPDATE` of the same scan has moved forward. -/
def EnqueuesWhatItMoved (system : System) : Prop :=
  ∀ enqueued ∈ system.enqueued, ∃ move ∈ system.moves,
    move.claim = enqueued.claim ∧ move.Forward

def updated? (system : System) : Event → Option WebhookEvent
  | .update number =>
      match system.scans number with
      | .claiming _ _ (event :: _) _ => some event
      | _ => none
  | _ => none

/-- The row that a scan is about to update has the due time with which the scan selected it: no
other scan has moved it since. -/
def Unmoved (system : System) (event : Event) : Prop :=
  ∀ selected ∈ updated? system event, ∀ row ∈ system.rows.lookup selected.id,
    row.committed.nextRetryAt = selected.nextRetryAt

instance (system : System) (event : Event) : Decidable (Unmoved system event) :=
  inferInstanceAs (Decidable (∀ selected ∈ updated? system event,
    ∀ row ∈ system.rows.lookup selected.id, row.committed.nextRetryAt = selected.nextRetryAt))

instance (system : System) : Decidable (EnqueuedByOneScan system) :=
  inferInstanceAs (Decidable (∀ first ∈ system.enqueued, ∀ second ∈ system.enqueued, _))

/-- Any rows, none of which is held, and no scan has started. -/
def Fresh (system : System) : Prop :=
  (∀ row ∈ system.rows.rows, row.uncommitted = none) ∧
    (∀ number, system.scans number = .notStarted) ∧ system.moves = [] ∧ system.enqueued = []

/-! ## What a scan holds -/

variable {number : Nat} {rows : EventRows} {now otherNow : DateTime} {move : Move} {other : Nat}

/-- The scan holds the row, which it has moved from its due time to the end of the lease. -/
def Holds (maxDelay : Int) (rows : EventRows) (number : Nat) (now : DateTime) (move : Move) :
    Prop :=
  move.claim.scan = number ∧ move.leasedUntil = leaseUntil maxDelay now ∧
    (∃ dueAt ∈ move.claim.dueAt, dueAt ≤ now) ∧
    ∃ row ∈ rows.rows, row.committed.id = move.claim.eventId ∧
      row.committed.nextRetryAt = move.claim.dueAt ∧
      ∃ version, row.uncommitted = some (number, version) ∧
        version.nextRetryAt = some move.leasedUntil

/-- What is known of a scan by its place. -/
def ScanFits (maxDelay : Int) (rows : EventRows) (moves : List Move) (number : Nat) : Scan → Prop
  | .claiming now events unclaimed moved =>
      (∀ event ∈ events, isDue now event = true ∧
          ∃ row ∈ rows.rows, row.committed.id = event.id) ∧
        (∀ event ∈ unclaimed, event ∈ events) ∧
        (∀ event ∈ events, event ∈ unclaimed ∨ ∃ move ∈ moved, move.claim = claimOf number event) ∧
        ∀ move ∈ moved, Holds maxDelay rows number now move
  | .enqueueing unqueued _ =>
      ∀ event ∈ unqueued, ∃ move ∈ moves, move.claim = claimOf number event
  | _ => True

/-- The scan is claiming rows, and has moved this one. -/
def HeldFor (row : Versions WebhookEvent.id) (scan : Scan) : Prop :=
  ∃ now events unclaimed moved, scan = .claiming now events unclaimed moved ∧
    ∃ move ∈ moved, move.claim.eventId = row.committed.id

structure Invariant (maxDelay : Int) (system : System) : Prop where
  scans : ∀ number, ScanFits maxDelay system.rows system.moves number (system.scans number)
  holders : ∀ row ∈ system.rows.rows, ∀ number version,
    row.uncommitted = some (number, version) → HeldFor row (system.scans number)
  forward : ∀ move ∈ system.moves, move.Forward
  /-- The due times of the moves of a row lie behind the row. -/
  passed : ∀ move ∈ system.moves, ∀ row ∈ system.rows.rows,
    row.committed.id = move.claim.eventId →
      ∃ dueAt ∈ row.committed.nextRetryAt, move.leasedUntil ≤ dueAt
  single : ∀ first ∈ system.moves, ∀ second ∈ system.moves,
    first.claim.eventId = second.claim.eventId → first.claim.dueAt = second.claim.dueAt →
      first.claim.scan = second.claim.scan
  tasks : ∀ enqueued ∈ system.enqueued, ∃ move ∈ system.moves, move.claim = enqueued.claim

variable {maxDelay : Int} {system : System}

theorem lt_leaseUntil (maxDelay : Int) (now : DateTime) : now < leaseUntil maxDelay now := by
  have atLeast : 60 ≤ leaseSeconds maxDelay := le_max_left _ _
  have positive : 0 < leaseSeconds maxDelay * DateTime.microsecondsPerSecond := by
    simp only [DateTime.microsecondsPerSecond]
    omega
  exact Int.lt_add_of_pos_right now positive

theorem isDue_iff {event : WebhookEvent} :
    isDue now event = true ↔ ∃ dueAt ∈ event.nextRetryAt, dueAt ≤ now := by
  unfold isDue
  split
  · rename_i dueAt some
    simp [some]
  · rename_i none
    simp [none]

theorem isDue_congr {first second : WebhookEvent} (same : first.nextRetryAt = second.nextRetryAt) :
    isDue now first = isDue now second := by
  rw [isDue, same, isDue]

theorem Holds.forward (holds : Holds maxDelay rows number now move) : move.Forward := by
  obtain ⟨_, leased, ⟨dueAt, member, due⟩, _⟩ := holds
  exact ⟨dueAt, member, leased ▸ lt_of_le_of_lt due (lt_leaseUntil maxDelay now)⟩

theorem Holds.eventId_ne {eventId : Nat} (holds : Holds maxDelay rows other otherNow move)
    (sameClock : other = number → otherNow = now)
    (hit : outcome rows number eventId (isDue now) = .hits) : move.claim.eventId ≠ eventId := by
  intro same
  obtain ⟨hitRow, hitMember, _, hitId, guarded, unlocked⟩ := exists_of_hits hit
  obtain ⟨_, leased, _, row, member, id, _, version, held, versionDue⟩ := holds
  obtain rfl : row = hitRow :=
    Table.eq_of_key_eq member hitMember (id.trans (same.trans hitId.symm))
  by_cases own : other = number
  · subst own
    rw [Versions.seenBy_of_held held, isDue_iff, versionDue] at guarded
    obtain ⟨dueAt, member, due⟩ := guarded
    rw [← Option.some.inj member, leased, sameClock rfl] at due
    exact absurd (lt_leaseUntil maxDelay now) (not_lt_of_ge due)
  · exact unlocked (Versions.lockedAgainst_of_heldBy (Versions.heldBy_iff.2 ⟨version, held⟩) own)

theorem Holds.write {eventId : Nat} (holds : Holds maxDelay rows other otherNow move)
    (sameClock : other = number → otherNow = now)
    (hit : outcome rows number eventId (isDue now) = .hits) :
    Holds maxDelay (ReadCommitted.write rows number eventId (leased maxDelay now)
      (leased_id maxDelay now)) other otherNow move := by
  have differs := holds.eventId_ne sameClock hit
  obtain ⟨scan, leased, due, row, member, id, rest⟩ := holds
  refine ⟨scan, leased, due, row, mem_write.2 ⟨row, member, ?_⟩, id, rest⟩
  exact if_neg fun same => differs (id.symm.trans same)

theorem not_heldBy_of_held {row : Versions WebhookEvent.id} {version : WebhookEvent}
    (held : row.uncommitted = some (other, version)) (differs : other ≠ number) :
    ¬ row.heldBy number = true := by
  intro own
  obtain ⟨_, heldToo⟩ := Versions.heldBy_iff.1 own
  rw [held, Option.some.injEq, Prod.mk.injEq] at heldToo
  exact differs heldToo.1

theorem Holds.commit (holds : Holds maxDelay rows other otherNow move) (differs : other ≠ number) :
    Holds maxDelay (ReadCommitted.commit rows number) other otherNow move := by
  obtain ⟨scan, leased, due, row, member, id, dueAt, version, held, versionDue⟩ := holds
  have free := not_heldBy_of_held held differs
  exact ⟨scan, leased, due, row,
    mem_commit.2 ⟨row, member, Versions.commit_of_not_heldBy free⟩, id, dueAt, version, held,
    versionDue⟩

theorem Holds.rollback (holds : Holds maxDelay rows other otherNow move)
    (differs : other ≠ number) :
    Holds maxDelay (ReadCommitted.rollback rows number) other otherNow move := by
  obtain ⟨scan, leased, due, row, member, id, dueAt, version, held, versionDue⟩ := holds
  have free := not_heldBy_of_held held differs
  exact ⟨scan, leased, due, row,
    mem_rollback.2 ⟨row, member, Versions.rollback_of_not_heldBy free⟩, id, dueAt, version, held,
    versionDue⟩

/-! ## Every statement keeps the invariant -/

variable {scan : Scan}

theorem scanFits_of_kept {later : EventRows} {moves laterMoves : List Move}
    (fits : ScanFits maxDelay rows moves number scan)
    (sameRows : ∀ id, (∃ row ∈ rows.rows, row.committed.id = id) →
      ∃ row ∈ later.rows, row.committed.id = id)
    (holding : ∀ now move, Holds maxDelay rows number now move →
      Holds maxDelay later number now move) (recorded : ∀ move ∈ moves, move ∈ laterMoves) :
    ScanFits maxDelay later laterMoves number scan := by
  cases scan with
  | claiming now events unclaimed moved =>
      obtain ⟨due, selected, claimed, holds⟩ := fits
      exact ⟨fun event member => ⟨(due event member).1, sameRows _ (due event member).2⟩, selected,
        claimed, fun move member => holding now move (holds move member)⟩
  | enqueueing unqueued count =>
      intro event member
      obtain ⟨move, inside, claim⟩ := fits event member
      exact ⟨move, recorded move inside, claim⟩
  | _ => trivial

theorem scanFits_update {moves : List Move} {scans : Nat → Scan}
    (others : ∀ other, other ≠ number → ScanFits maxDelay rows moves other (scans other))
    (own : ScanFits maxDelay rows moves number scan) (other : Nat) :
    ScanFits maxDelay rows moves other (Function.update scans number scan other) := by
  by_cases same : other = number
  · rw [same, Function.update_self]
    exact own
  · rw [Function.update_of_ne same]
    exact others other same

theorem heldFor_update {row : Versions WebhookEvent.id} {scans : Nat → Scan} {holder : Nat}
    (others : holder ≠ number → HeldFor row (scans holder))
    (own : holder = number → HeldFor row scan) :
    HeldFor row (Function.update scans number scan holder) := by
  by_cases same : holder = number
  · rw [same, Function.update_self]
    exact own same
  · rw [Function.update_of_ne same]
    exact others same

theorem Invariant.withScan (invariant : Invariant maxDelay system)
    (own : ScanFits maxDelay system.rows system.moves number scan)
    (holding : ∀ row ∈ system.rows.rows, HeldFor row (system.scans number) → HeldFor row scan) :
    Invariant maxDelay (system.withScan number scan) where
  scans := scanFits_update (fun other _ => invariant.scans other) own
  holders row member holder version held := by
    have before := invariant.holders row member holder version held
    exact heldFor_update (fun _ => before) fun same => holding row member (same ▸ before)
  forward := invariant.forward
  passed := invariant.passed
  single := invariant.single
  tasks := invariant.tasks

theorem invariant_select (invariant : Invariant maxDelay system) (number : Nat) (now : DateTime)
    (limit : Int) : Invariant maxDelay (step maxDelay system (.select number now limit)) := by
  simp only [step]
  cases phase : system.scans number with
  | notStarted =>
      dsimp only
      have holdsNothing : ∀ scan, ∀ row ∈ system.rows.rows,
          HeldFor row (system.scans number) → HeldFor row scan := by
        rintro scan row _ ⟨_, _, _, _, claiming, _⟩
        rw [phase] at claiming
        cases claiming
      split
      · exact invariant.withScan trivial (holdsNothing _)
      · refine invariant.withScan ⟨?_, fun _ member => member, fun event member => Or.inl member,
          by simp⟩ (holdsNothing _)
        intro event member
        have selected := (List.mem_insertionSort _).1 (List.mem_of_mem_take member)
        obtain ⟨row, inside, committed, overdue⟩ := mem_select.1 selected
        simp only [isOverdueRetry, Bool.and_eq_true] at overdue
        exact ⟨overdue.2, row, inside, by rw [committed]⟩
  | _ => exact invariant

theorem invariant_update (invariant : Invariant maxDelay system)
    (unmoved : Unmoved system (.update number)) :
    Invariant maxDelay (step maxDelay system (.update number)) := by
  simp only [step]
  cases phase : system.scans number with
  | claiming now events unclaimed moved =>
      cases unclaimed with
      | nil => exact invariant
      | cons event unclaimed =>
          have fits := invariant.scans number
          rw [phase] at fits
          obtain ⟨due, selected, claimed, holds⟩ := fits
          have stillSelected : ∀ other ∈ unclaimed, other ∈ events := fun other member =>
            selected other (List.mem_cons_of_mem _ member)
          obtain ⟨eventDue, row, rowMember, rowId⟩ := due event (selected event (by simp))
          have found : system.rows.lookup event.id = some row :=
            Table.lookup_eq_some_iff.2 ⟨rowMember, rowId⟩
          have sameDue : row.committed.nextRetryAt = event.nextRetryAt := by
            have selectedNext : event ∈ updated? system (.update number) := by
              simp [updated?, phase]
            exact unmoved event selectedNext row found
          -- Whoever is not waiting any more has been claimed.
          have allClaimed : ∀ {later : List Move}, (∀ move ∈ moved, move ∈ later) →
              (∃ move ∈ later, move.claim = claimOf number event) →
              ∀ other ∈ events, other ∈ unclaimed ∨
                ∃ move ∈ later, move.claim = claimOf number other := by
            intro later kept here other member
            rcases claimed other member with waiting | ⟨move, inside, claim⟩
            · rcases List.mem_cons.1 waiting with same | rest
              · exact Or.inr (same ▸ here)
              · exact Or.inl rest
            · exact Or.inr ⟨move, kept move inside, claim⟩
          have held : row.heldBy number = true →
              ∃ move ∈ moved, move.claim.eventId = event.id := by
            intro own
            obtain ⟨version, uncommitted⟩ := Versions.heldBy_iff.1 own
            obtain ⟨_, _, _, _, claiming, move, member, id⟩ :=
              invariant.holders row rowMember number version uncommitted
            rw [phase] at claiming
            obtain ⟨rfl, rfl, rfl, rfl⟩ := Scan.claiming.inj claiming
            exact ⟨move, member, id.trans rowId⟩
          dsimp only
          cases acted : outcome system.rows number event.id (isDue now) with
          | waits => exact invariant
          | misses =>
              -- The scan has changed the row before, and that was the claim.
              have own := heldBy_of_misses acted found ((isDue_congr sameDue).trans eventDue)
              obtain ⟨move, member, id⟩ := held own
              have claim : move.claim = claimOf number event := by
                obtain ⟨scan, _, _, heldRow, heldMember, heldId, heldDue, _⟩ := holds move member
                obtain rfl : heldRow = row :=
                  Table.eq_of_key_eq heldMember rowMember ((heldId.trans id).trans rowId.symm)
                rw [claimOf, ← scan, ← id, ← sameDue, heldDue]
              refine invariant.withScan ⟨due, stillSelected,
                allClaimed (fun _ member => member) ⟨move, member, claim⟩, holds⟩ ?_
              rintro other otherMember ⟨_, _, _, _, claiming, rest⟩
              rw [phase] at claiming
              obtain ⟨rfl, rfl, rfl, rfl⟩ := Scan.claiming.inj claiming
              exact ⟨now, events, unclaimed, moved, rfl, rest⟩
          | hits =>
              have free : ¬ row.heldBy number = true := by
                intro own
                obtain ⟨move, member, id⟩ := held own
                exact (holds move member).eventId_ne (fun _ => rfl) acted id
              have seen := Versions.seenBy_of_not_heldBy free
              have claim : (moveOf maxDelay now number event.id system.rows).claim =
                  claimOf number event := by
                simp only [moveOf, found, Option.bind_some, seen, sameDue, claimOf]
              refine ⟨scanFits_update ?_ ⟨?_, stillSelected, allClaimed ?_ ?_, ?_⟩, ?_,
                invariant.forward, ?_, invariant.single, invariant.tasks⟩
              · intro other differs
                exact scanFits_of_kept (invariant.scans other)
                  (fun _ => exists_key_write.2)
                  (fun otherNow move holds => holds.write (fun same => absurd same differs) acted)
                  fun _ member => member
              · exact fun other member => ⟨(due other member).1, exists_key_write.2 (due other member).2⟩
              · exact fun _ member => List.mem_cons_of_mem _ member
              · exact ⟨_, List.mem_cons_self, claim⟩
              · refine List.forall_mem_cons.2 ⟨?_, fun move member =>
                  (holds move member).write (fun _ => rfl) acted⟩
                rw [Holds, claim]
                refine ⟨rfl, rfl, isDue_iff.1 eventDue, row.write number (leased maxDelay now)
                  (leased_id maxDelay now), mem_write.2 ⟨row, rowMember, if_pos rowId⟩, rowId, sameDue,
                  _, rfl, rfl⟩
              · intro other member holder version uncommitted
                obtain ⟨old, inside, same⟩ := mem_write.1 member
                split at same
                · rename_i here
                  subst same
                  have own : number = holder := (Prod.mk.inj (Option.some.inj uncommitted)).1
                  refine heldFor_update (fun differs => absurd own.symm differs) fun _ =>
                    ⟨now, events, unclaimed, _, rfl, _, List.mem_cons_self, ?_⟩
                  rw [claim]
                  exact here.symm
                · subst same
                  have before := invariant.holders old inside holder version uncommitted
                  refine heldFor_update (fun _ => before) ?_
                  rintro rfl
                  obtain ⟨_, _, _, _, claiming, move, moveMember, id⟩ := before
                  rw [phase] at claiming
                  obtain ⟨rfl, rfl, rfl, rfl⟩ := Scan.claiming.inj claiming
                  exact ⟨now, events, unclaimed, _, rfl, move, List.mem_cons_of_mem _ moveMember, id⟩
              · intro move member other inside id
                obtain ⟨old, oldMember, same⟩ := exists_committed_of_mem_write inside
                rw [← same] at id ⊢
                exact invariant.passed move member old oldMember id
  | _ => exact invariant

theorem invariant_commit (invariant : Invariant maxDelay system) (number : Nat) :
    Invariant maxDelay (step maxDelay system (.commit number)) := by
  simp only [step]
  cases phase : system.scans number with
  | claiming now events unclaimed moved =>
      cases unclaimed with
      | cons event unclaimed => exact invariant
      | nil =>
          have fits := invariant.scans number
          rw [phase] at fits
          obtain ⟨_, _, claimed, holds⟩ := fits
          -- The row of a new move lies at the due time that the move has left.
          have behind : ∀ move ∈ moved, ∀ old ∈ system.moves,
              old.claim.eventId = move.claim.eventId →
                ∃ dueAt ∈ move.claim.dueAt, old.leasedUntil ≤ dueAt := by
            intro move member old oldMember id
            obtain ⟨_, _, _, row, inside, rowId, rowDue, _⟩ := holds move member
            rw [← rowDue]
            exact invariant.passed old oldMember row inside (rowId.trans id.symm)
          have apart : ∀ move ∈ moved, ∀ old ∈ system.moves,
              old.claim.eventId = move.claim.eventId → old.claim.dueAt ≠ move.claim.dueAt := by
            intro move member old oldMember id same
            obtain ⟨dueAt, due, passed⟩ := behind move member old oldMember id
            obtain ⟨oldDue, oldDueAt, forward⟩ := invariant.forward old oldMember
            rw [same, due, Option.mem_some_iff] at oldDueAt
            subst oldDueAt
            exact absurd passed (not_le_of_gt forward)
          refine ⟨scanFits_update ?_ ?_, ?_, ?_, ?_, ?_, ?_⟩
          · intro other differs
            exact scanFits_of_kept (invariant.scans other) (fun _ => exists_key_commit.2)
              (fun _ _ holds => holds.commit differs) fun _ => List.mem_append_right _
          · intro event member
            obtain ⟨move, inside, claim⟩ := (claimed event member).resolve_left (by simp)
            exact ⟨move, List.mem_append_left _ inside, claim⟩
          · intro row member holder version uncommitted
            obtain ⟨old, inside, rfl⟩ := mem_commit.1 member
            obtain ⟨held, differs⟩ := Versions.uncommitted_commit_iff.1 uncommitted
            obtain ⟨_, _, _, _, claiming, move, moveMember, id⟩ :=
              invariant.holders old inside holder version held
            exact heldFor_update (fun _ => ⟨_, _, _, _, claiming, move, moveMember,
              id.trans (old.key_seenBy number).symm⟩) fun same => absurd same differs
          · exact List.forall_mem_append.2
              ⟨fun move member => (holds move member).forward, invariant.forward⟩
          · intro move member row inside id
            obtain ⟨old, oldMember, rfl⟩ := mem_commit.1 inside
            have oldId : old.committed.id = move.claim.eventId :=
              (old.key_seenBy number).symm.trans id
            have leasedTo : ∀ new ∈ moved, new.claim.eventId = old.committed.id →
                (old.commit number).committed.nextRetryAt = some new.leasedUntil := by
              intro new newMember newId
              obtain ⟨_, _, _, row, rowMember, rowId, _, version, held, versionDue⟩ :=
                holds new newMember
              obtain rfl : row = old :=
                Table.eq_of_key_eq rowMember oldMember (rowId.trans newId)
              simp only [Versions.commit, Versions.seenBy_of_held held, versionDue]
            rcases List.mem_append.1 member with new | past
            · exact ⟨move.leasedUntil, leasedTo move new oldId.symm, le_rfl⟩
            · by_cases own : old.heldBy number = true
              · obtain ⟨version, held⟩ := Versions.heldBy_iff.1 own
                obtain ⟨_, _, _, _, claiming, new, newMember, newId⟩ :=
                  invariant.holders old oldMember number version held
                rw [phase] at claiming
                obtain ⟨rfl, rfl, rfl, rfl⟩ := Scan.claiming.inj claiming
                obtain ⟨dueAt, due, passed⟩ :=
                  behind new newMember move past (oldId.symm.trans newId.symm)
                obtain ⟨newDue, newDueAt, forward⟩ := (holds new newMember).forward
                rw [due, Option.mem_some_iff] at newDueAt
                subst newDueAt
                exact ⟨new.leasedUntil, leasedTo new newMember newId, passed.trans forward.le⟩
              · rw [Versions.commit_of_not_heldBy own]
                exact invariant.passed move past old oldMember oldId
          · intro first firstMember second secondMember id dueAt
            rcases List.mem_append.1 firstMember with new | old
            · rcases List.mem_append.1 secondMember with otherNew | otherOld
              · exact (holds first new).1.trans (holds second otherNew).1.symm
              · exact absurd dueAt.symm (apart first new second otherOld id.symm)
            · rcases List.mem_append.1 secondMember with otherNew | otherOld
              · exact absurd dueAt (apart second otherNew first old id)
              · exact invariant.single first old second otherOld id dueAt
          · intro task member
            obtain ⟨move, inside, claim⟩ := invariant.tasks task member
            exact ⟨move, List.mem_append_right _ inside, claim⟩
  | _ => exact invariant

theorem invariant_enqueue (invariant : Invariant maxDelay system) (number : Nat)
    (accepted : Bool) : Invariant maxDelay (step maxDelay system (.enqueue number accepted)) := by
  simp only [step]
  cases phase : system.scans number with
  | enqueueing unqueued count =>
      have fits := invariant.scans number
      rw [phase] at fits
      have holdsNothing : ∀ scan, ∀ row ∈ system.rows.rows,
          HeldFor row (system.scans number) → HeldFor row scan := by
        rintro scan row _ ⟨_, _, _, _, claiming, _⟩
        rw [phase] at claiming
        cases claiming
      cases unqueued with
      | nil => exact invariant.withScan trivial (holdsNothing _)
      | cons event unqueued =>
          have rest : ∀ count, Invariant maxDelay
              (system.withScan number (.enqueueing unqueued count)) := fun count =>
            invariant.withScan (fun other member => fits other (List.mem_cons_of_mem _ member))
              (holdsNothing _)
          dsimp only
          cases accepted with
          | false => exact rest count
          | true =>
              have next := rest (count + 1)
              exact ⟨next.scans, next.holders, next.forward, next.passed, next.single,
                List.forall_mem_cons.2 ⟨fits event (by simp), next.tasks⟩⟩
  | _ => exact invariant

theorem invariant_abandon (invariant : Invariant maxDelay system) (number : Nat) :
    Invariant maxDelay (step maxDelay system (.abandon number)) where
  scans := by
    refine scanFits_update ?_ trivial
    intro other differs
    exact scanFits_of_kept (invariant.scans other) (fun _ => exists_key_rollback.2)
      (fun _ _ holds => holds.rollback differs) fun _ member => member
  holders := by
    intro row member holder version uncommitted
    obtain ⟨old, inside, rfl⟩ := mem_rollback.1 member
    obtain ⟨held, differs⟩ := Versions.uncommitted_rollback_iff.1 uncommitted
    exact heldFor_update (fun _ => invariant.holders old inside holder version held)
      fun same => absurd same differs
  forward := invariant.forward
  passed := by
    intro move member row inside id
    obtain ⟨old, oldMember, rfl⟩ := mem_rollback.1 inside
    exact invariant.passed move member old oldMember id
  single := invariant.single
  tasks := invariant.tasks

theorem step_invariant (invariant : Invariant maxDelay system) {event : Event}
    (unmoved : Unmoved system event) : Invariant maxDelay (step maxDelay system event) := by
  cases event with
  | select number now limit => exact invariant_select invariant number now limit
  | update number => exact invariant_update invariant unmoved
  | commit number => exact invariant_commit invariant number
  | enqueue number accepted => exact invariant_enqueue invariant number accepted
  | abandon number => exact invariant_abandon invariant number

theorem invariant_fresh (fresh : Fresh system) : Invariant maxDelay system := by
  obtain ⟨free, notStarted, noMoves, noTasks⟩ := fresh
  refine ⟨?_, ?_, ?_, ?_, ?_, ?_⟩
  · intro number
    rw [notStarted]
    trivial
  · intro row member number version held
    rw [free row member] at held
    cases held
  · simp [noMoves]
  · simp [noMoves]
  · simp [noMoves]
  · simp [noTasks]

/-- While no scan moves a row between the `SELECT` and the `UPDATE` of another, a scan enqueues
only what it has moved, and no two scans enqueue an event for the same due time. -/
theorem unmoved_enqueues_once {start : System} (fresh : Fresh start) {events : List Event}
    (along : Along (step maxDelay) Unmoved start events) :
    EnqueuedByOneScan (run (step maxDelay) start events) ∧
      EnqueuesWhatItMoved (run (step maxDelay) start events) := by
  have invariant := along.invariant (Invariant maxDelay) (invariant_fresh fresh)
    fun _ _ before unmoved => step_invariant before unmoved
  constructor
  · intro first firstMember second secondMember id dueAt
    obtain ⟨move, member, claim⟩ := invariant.tasks first firstMember
    obtain ⟨other, otherMember, otherClaim⟩ := invariant.tasks second secondMember
    rw [← claim, ← otherClaim] at id dueAt ⊢
    exact invariant.single move member other otherMember id dueAt
  · intro task member
    obtain ⟨move, inside, claim⟩ := invariant.tasks task member
    exact ⟨move, inside, claim, invariant.forward move inside⟩

def overdueWebhook (id : Nat) : WebhookEvent where
  id := id
  source := "prometheus"
  sourceConnectionId := none
  requestId := some "req-overdue"
  clientIp := none
  timestamp := 0
  rawPayload := some "\x7b\x7d"
  headers := []
  parsedData := none
  alertHash := none
  dedupKey := none
  aiAnalysis := none
  importance := none
  processingStatus := .retry
  retryCount := 1
  nextRetryAt := some 0
  failureReason := none
  errorMessage := none
  forwardStatus := none
  prevAlertId := none
  isDuplicate := false
  duplicateOf := none
  duplicateCount := 1
  lastNotifiedAt := none
  updatedAt := none

theorem settled_overdueWebhook_id (id : Nat) :
    (Versions.settled (overdueWebhook id) : Versions WebhookEvent.id).committed.id = id :=
  rfl

def oneOverdue : System where
  rows := Table.empty.insert (fun id => Versions.settled (overdueWebhook id))
    settled_overdueWebhook_id
  scans _ := .notStarted
  moves := []
  enqueued := []

theorem fresh_oneOverdue : Fresh oneOverdue := by
  refine ⟨?_, fun _ => rfl, rfl, rfl⟩
  intro row member
  rcases Table.mem_insert.1 member with old | new
  · cases old
  · rw [new]
    rfl

/-- Two scans one after the other: the second starts when the first has committed. -/
def scansInTurn : List Event :=
  [.select 0 0 100, .update 0, .commit 0, .select 1 0 100, .enqueue 0 true]

theorem scansInTurn_enqueue_once :
    EnqueuedByOneScan (run (step 300) oneOverdue scansInTurn) ∧
      EnqueuesWhatItMoved (run (step 300) oneOverdue scansInTurn) :=
  unmoved_enqueues_once fresh_oneOverdue (by decide)

/-- Two scans select the row before either moves it.  The `UPDATE` of the second waits for the
first and then misses, and both enqueue the row for the same due time. -/
theorem racing_scans_enqueue_twice :
    Fresh oneOverdue ∧
      ¬ EnqueuedByOneScan (run (step 300) oneOverdue
        [.select 0 0 100, .select 1 0 100, .update 0, .update 1, .commit 0, .update 1, .commit 1,
          .enqueue 0 true, .enqueue 1 true]) :=
  ⟨fresh_oneOverdue, by decide⟩

end IngestRetryScans

end WebhookWise
