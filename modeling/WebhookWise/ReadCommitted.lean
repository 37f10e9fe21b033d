import WebhookWise.SqlTable

/-!
# Row versions under READ COMMITTED

A transaction sees the committed version of every row, and its own version of the rows it has
written, which are locked until it ends.  An `UPDATE` that is not made to wait hits or misses a row
by the version that the transaction sees.  Transactions are numbered.
-/

namespace ReadCommitted

open SqlTable

universe u

variable {Row : Type u} {key : Row → Nat}
variable {version : Row}

/-- A row as it is committed, and as the transaction which holds it has left it. -/
structure Versions (key : Row → Nat) where
  committed : Row
  uncommitted : Option (Nat × Row)
  keyed : ∀ held ∈ uncommitted, key held.2 = key committed

namespace Versions

def settled (row : Row) : Versions key where
  committed := row
  uncommitted := none
  keyed := nofun

def seenBy (row : Versions key) (transaction : Nat) : Row :=
  match row.uncommitted with
  | some (holder, version) => if holder = transaction then version else row.committed
  | none => row.committed

def heldBy (row : Versions key) (transaction : Nat) : Bool :=
  match row.uncommitted with
  | some (holder, _) => holder = transaction
  | none => false

def lockedAgainst (row : Versions key) (transaction : Nat) : Bool :=
  match row.uncommitted with
  | some (holder, _) => holder ≠ transaction
  | none => false

variable {row : Versions key} {transaction other : Nat}

theorem key_seenBy (row : Versions key) (transaction : Nat) :
    key (row.seenBy transaction) = key row.committed := by
  unfold seenBy
  split
  · rename_i holder version held
    split
    · exact row.keyed (holder, version) held
    · rfl
  · rfl

theorem heldBy_iff : row.heldBy transaction = true ↔
    ∃ version, row.uncommitted = some (transaction, version) := by
  unfold heldBy
  split
  · rename_i holder version held
    simp [held]
  · rename_i free
    simp [free]

theorem seenBy_of_not_heldBy (free : ¬ row.heldBy transaction = true) :
    row.seenBy transaction = row.committed := by
  unfold seenBy
  unfold heldBy at free
  split
  · rename_i holder version held
    rw [held] at free
    exact if_neg fun same => free (decide_eq_true same)
  · rfl

theorem seenBy_of_held (held : row.uncommitted = some (transaction, version)) :
    row.seenBy transaction = version := by
  simp [seenBy, held]

theorem lockedAgainst_of_heldBy (held : row.heldBy other = true) (differs : other ≠ transaction) :
    row.lockedAgainst transaction = true := by
  obtain ⟨version, held⟩ := heldBy_iff.1 held
  simp [lockedAgainst, held, differs]

def write (row : Versions key) (transaction : Nat) (change : Row → Row)
    (keeps : ∀ row, key (change row) = key row) : Versions key where
  committed := row.committed
  uncommitted := some (transaction, change (row.seenBy transaction))
  keyed := by
    rintro held ⟨⟩
    exact (keeps _).trans (key_seenBy row transaction)

def commit (row : Versions key) (transaction : Nat) : Versions key where
  committed := row.seenBy transaction
  uncommitted := if row.heldBy transaction then none else row.uncommitted
  keyed := by
    intro held member
    split at member
    · cases member
    · exact (row.keyed held member).trans (key_seenBy row transaction).symm

def rollback (row : Versions key) (transaction : Nat) : Versions key where
  committed := row.committed
  uncommitted := if row.heldBy transaction then none else row.uncommitted
  keyed := by
    intro held member
    split at member
    · cases member
    · exact row.keyed held member

theorem commit_of_not_heldBy (free : ¬ row.heldBy transaction = true) :
    row.commit transaction = row := by
  cases row
  simp only [commit, seenBy_of_not_heldBy free, if_neg free]

theorem rollback_of_not_heldBy (free : ¬ row.heldBy transaction = true) :
    row.rollback transaction = row := by
  cases row
  simp only [rollback, if_neg free]

private theorem released_iff :
    (if row.heldBy transaction then none else row.uncommitted) = some (other, version) ↔
      row.uncommitted = some (other, version) ∧ other ≠ transaction := by
  constructor
  · intro still
    split at still
    · cases still
    · rename_i free
      refine ⟨still, ?_⟩
      rintro rfl
      exact free (heldBy_iff.2 ⟨version, still⟩)
  · rintro ⟨held, differs⟩
    have free : ¬ row.heldBy transaction = true := by
      simp [heldBy, held, differs]
    rw [if_neg free, held]

theorem uncommitted_commit_iff :
    (row.commit transaction).uncommitted = some (other, version) ↔
      row.uncommitted = some (other, version) ∧ other ≠ transaction :=
  released_iff

theorem uncommitted_rollback_iff :
    (row.rollback transaction).uncommitted = some (other, version) ↔
      row.uncommitted = some (other, version) ∧ other ≠ transaction :=
  released_iff

end Versions

/-! ## Tables -/

abbrev VersionedTable (key : Row → Nat) :=
  Table fun row : Versions key => key row.committed

/-- What one `UPDATE` does at one row. -/
inductive Outcome where
  | waits
  | misses
  | hits
deriving DecidableEq

variable (table : VersionedTable key)

/-- The committed versions, which is what a `SELECT` outside of all writers sees. -/
def select (guard : Row → Bool) : List Row :=
  (table.rows.map Versions.committed).filter guard

/-- `UPDATE … WHERE id = wanted AND guard`. -/
def outcome (transaction wanted : Nat) (guard : Row → Bool) : Outcome :=
  match table.lookup wanted with
  | none => .misses
  | some row =>
      if guard (row.seenBy transaction) then
        if row.lockedAgainst transaction then .waits else .hits
      else .misses

/-- The table after an `UPDATE` of the row which hits. -/
def write (transaction wanted : Nat) (change : Row → Row)
    (keeps : ∀ row, key (change row) = key row) : VersionedTable key :=
  table.update (fun row => key row.committed = wanted)
    (fun row => row.write transaction change keeps) fun _ => rfl

def commit (transaction : Nat) : VersionedTable key :=
  table.update (fun _ => true) (fun row => row.commit transaction)
    fun row => row.key_seenBy transaction

def rollback (transaction : Nat) : VersionedTable key :=
  table.update (fun _ => true) (fun row => row.rollback transaction) fun _ => rfl

variable {table} {transaction wanted wanted' : Nat} {change : Row → Row}
  {keeps : ∀ row, key (change row) = key row} {guard : Row → Bool} {row : Versions key}

theorem mem_select :
    version ∈ select table guard ↔
      ∃ row ∈ table.rows, row.committed = version ∧ guard version = true := by
  simp only [select, List.mem_filter, List.mem_map]
  constructor
  · rintro ⟨⟨row, member, same⟩, guarded⟩
    exact ⟨row, member, same, guarded⟩
  · rintro ⟨row, member, same, guarded⟩
    exact ⟨⟨row, member, same⟩, guarded⟩

theorem exists_of_hits (hit : outcome table transaction wanted guard = .hits) :
    ∃ row ∈ table.rows, table.lookup wanted = some row ∧ key row.committed = wanted ∧
      guard (row.seenBy transaction) = true ∧ ¬ row.lockedAgainst transaction = true := by
  unfold outcome at hit
  split at hit
  · cases hit
  · rename_i row found
    split at hit
    · rename_i guarded
      split at hit
      · cases hit
      · rename_i unlocked
        have member := Table.lookup_eq_some_iff.1 found
        exact ⟨row, member.1, found, member.2, guarded, unlocked⟩
    · cases hit

theorem heldBy_of_misses (miss : outcome table transaction wanted guard = .misses)
    (found : table.lookup wanted = some row) (guarded : guard row.committed = true) :
    row.heldBy transaction = true := by
  by_contra free
  simp only [outcome, found, Versions.seenBy_of_not_heldBy free, guarded, if_true] at miss
  split at miss <;> cases miss

theorem mem_write : row ∈ (write table transaction wanted change keeps).rows ↔
    ∃ old ∈ table.rows,
      (if key old.committed = wanted then old.write transaction change keeps else old) = row := by
  constructor
  · intro member
    obtain ⟨old, inside, same⟩ := Table.mem_update.1 member
    exact ⟨old, inside, by simpa only [decide_eq_true_eq] using same⟩
  · rintro ⟨old, inside, same⟩
    exact Table.mem_update.2 ⟨old, inside, by simpa only [decide_eq_true_eq] using same⟩

theorem exists_committed_of_mem_write
    (member : row ∈ (write table transaction wanted change keeps).rows) :
    ∃ old ∈ table.rows, old.committed = row.committed := by
  obtain ⟨old, inside, same⟩ := mem_write.1 member
  refine ⟨old, inside, ?_⟩
  rw [← same]
  split <;> rfl

theorem mem_commit : row ∈ (commit table transaction).rows ↔
    ∃ old ∈ table.rows, old.commit transaction = row :=
  Table.mem_update

theorem mem_rollback : row ∈ (rollback table transaction).rows ↔
    ∃ old ∈ table.rows, old.rollback transaction = row :=
  Table.mem_update

theorem exists_key_write : (∃ row ∈ (write table transaction wanted change keeps).rows,
      key row.committed = wanted') ↔ ∃ row ∈ table.rows, key row.committed = wanted' :=
  Table.exists_key_update

theorem exists_key_commit : (∃ row ∈ (commit table transaction).rows,
      key row.committed = wanted) ↔ ∃ row ∈ table.rows, key row.committed = wanted :=
  Table.exists_key_update

theorem exists_key_rollback : (∃ row ∈ (rollback table transaction).rows,
      key row.committed = wanted) ↔ ∃ row ∈ table.rows, key row.committed = wanted :=
  Table.exists_key_update

end ReadCommitted
