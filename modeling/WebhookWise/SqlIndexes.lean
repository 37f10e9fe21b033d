import WebhookWise.SqlTable

/-!
# Tables with a partial unique index

A partial unique index is over a column that may be null: no value stands in it twice.
Such a column tracks what rows stand for.  A row that stands for nothing any more has
its column cleared, and what no row tracks is inserted anew.
-/

namespace SqlTable

namespace Table

universe u v

variable {Row : Type u} {key : Row → Nat} {Value : Type v}

/-- No value stands in two rows. -/
def Indexed (column : Row → Option Value) (table : Table key) : Prop :=
  ∀ first ∈ table.rows, ∀ second ∈ table.rows, ∀ value,
    column first = some value → column second = some value → first = second

/-- Some row holds a value. -/
def Tracks (column : Row → Option Value) (table : Table key) (value : Value) : Prop :=
  ∃ row ∈ table.rows, column row = some value

variable {column : Row → Option Value} {table : Table key}

instance decidableTracks [DecidableEq Value] (value : Value) :
    Decidable (table.Tracks column value) :=
  inferInstanceAs (Decidable (∃ row ∈ table.rows, column row = some value))

theorem indexed_empty : (empty : Table key).Indexed column := by
  intro first member
  cases member

/-- A row whose value is not tracked yet keeps the column unique. -/
theorem Indexed.insert {build : Nat → Row} (keyed : ∀ fresh, key (build fresh) = fresh)
    (indexed : table.Indexed column)
    (untracked : ∀ value, column (build table.nextKey) = some value →
      ¬ table.Tracks column value) :
    (table.insert build keyed).Indexed column := by
  intro first firstMember second secondMember value firstHolds secondHolds
  rcases mem_insert.1 firstMember with firstOld | rfl
  · rcases mem_insert.1 secondMember with secondOld | rfl
    · exact indexed first firstOld second secondOld value firstHolds secondHolds
    · exact absurd ⟨first, firstOld, firstHolds⟩ (untracked value secondHolds)
  · rcases mem_insert.1 secondMember with secondOld | rfl
    · exact absurd ⟨second, secondOld, secondHolds⟩ (untracked value firstHolds)
    · rfl

theorem Indexed.update {guard : Row → Bool} {change : Row → Row}
    (keeps : ∀ row, key (change row) = key row) (indexed : table.Indexed column)
    (keepsOrClears : ∀ row, column (change row) = column row ∨ column (change row) = none) :
    (table.update guard change keeps).Indexed column := by
  have old : ∀ row value, column (if guard row then change row else row) = some value →
      column row = some value := by
    intro row value holds
    split at holds
    · rcases keepsOrClears row with kept | cleared
      · rwa [kept] at holds
      · rw [cleared] at holds
        cases holds
    · exact holds
  intro first firstMember second secondMember value firstHolds secondHolds
  rcases mem_update.1 firstMember with ⟨firstOld, firstOldMember, rfl⟩
  rcases mem_update.1 secondMember with ⟨secondOld, secondOldMember, rfl⟩
  rw [indexed firstOld firstOldMember secondOld secondOldMember value
    (old firstOld value firstHolds) (old secondOld value secondHolds)]

theorem Tracks.of_kept {later : Table key} {value : Value}
    (kept : ∀ row ∈ table.rows, row ∈ later.rows) (tracks : table.Tracks column value) :
    later.Tracks column value := by
  rcases tracks with ⟨row, member, holds⟩
  exact ⟨row, kept row member, holds⟩

theorem Tracks.update {guard : Row → Bool} {change : Row → Row}
    (keeps : ∀ row, key (change row) = key row) {value : Value}
    (tracks : table.Tracks column value)
    (keepsColumn : ∀ row, column (change row) = column row) :
    (table.update guard change keeps).Tracks column value := by
  rcases tracks with ⟨row, member, holds⟩
  refine ⟨_, mem_update.2 ⟨row, member, rfl⟩, ?_⟩
  split
  · rwa [keepsColumn]
  · exact holds

end Table

end SqlTable
