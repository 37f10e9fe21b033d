import WebhookWise.SqlTable

/-!
# Upserts over a unique column

`INSERT … ON CONFLICT (column) DO UPDATE SET …` writes to the row that holds the value of the
column, or inserts one.  Over a table where the column is unique, a list of upserts of distinct
values acts on each value by itself: the row of every value is there afterwards, and the rows
of all other values are as they were.
-/

namespace SqlTable

namespace Table

universe u v

variable {Row : Type u} {key : Row → Nat} {Value : Type v}

/-- One statement: the row to insert, and what is set of the row that is there. -/
structure Upsert (key : Row → Nat) (column : Row → Value) where
  value : Value
  build : Nat → Row
  change : Row → Row
  keyed : ∀ fresh, key (build fresh) = fresh
  keeps : ∀ row, key (change row) = key row
  built : ∀ fresh, column (build fresh) = value
  changed : ∀ row, column (change row) = column row

/-- The column is a unique index. -/
def UniqueIn (column : Row → Value) (table : Table key) : Prop :=
  ∀ first ∈ table.rows, ∀ second ∈ table.rows, column first = column second → first = second

variable {column : Row → Value} {table : Table key}

theorem uniqueIn_empty : (empty : Table key).UniqueIn column := by
  intro first member
  cases member

theorem UniqueIn.delete (unique : table.UniqueIn column) (guard : Row → Bool) :
    (table.delete guard).UniqueIn column := by
  intro first firstMember second secondMember same
  exact unique first (List.mem_filter.1 firstMember).1 second
    (List.mem_filter.1 secondMember).1 same

theorem mem_delete {guard : Row → Bool} {row : Row} :
    row ∈ (table.delete guard).rows ↔ row ∈ table.rows ∧ guard row = false := by
  simp [Table.delete]

variable [DecidableEq Value]

/-- `INSERT … ON CONFLICT (column) DO UPDATE`. -/
def upsert (table : Table key) (statement : Upsert key column) : Table key :=
  if table.rows.any fun row => column row = statement.value then
    table.update (fun row => column row = statement.value) statement.change statement.keeps
  else table.insert statement.build statement.keyed

def upsertAll (table : Table key) (statements : List (Upsert key column)) : Table key :=
  statements.foldl upsert table

/-- What a statement makes of a table in the row of its value. -/
def Writes (table : Table key) (statement : Upsert key column) (row : Row) : Prop :=
  (∃ old ∈ table.rows, column old = statement.value ∧ row = statement.change old) ∨
    (∀ old ∈ table.rows, column old ≠ statement.value) ∧ ∃ fresh, row = statement.build fresh

variable {statement : Upsert key column} {row : Row}

theorem any_value_iff :
    (table.rows.any fun row => column row = statement.value) = true ↔
      ∃ old ∈ table.rows, column old = statement.value := by
  simp

theorem mem_upsert_of_ne (other : column row ≠ statement.value) :
    row ∈ (table.upsert statement).rows ↔ row ∈ table.rows := by
  unfold upsert
  split
  · rw [mem_update]
    constructor
    · rintro ⟨old, member, rfl⟩
      by_cases own : column old = statement.value
      · rw [if_pos (decide_eq_true own), statement.changed] at other
        exact absurd own other
      · rw [if_neg (by simpa using own)]
        exact member
    · intro member
      exact ⟨row, member, if_neg (by simpa using other)⟩
  · rw [mem_insert, or_iff_left]
    rintro rfl
    exact other (statement.built _)

theorem writes_of_mem_upsert (own : column row = statement.value)
    (member : row ∈ (table.upsert statement).rows) : table.Writes statement row := by
  unfold upsert at member
  split at member
  · obtain ⟨old, oldMember, rfl⟩ := mem_update.1 member
    by_cases matches_ : column old = statement.value
    · rw [if_pos (decide_eq_true matches_)]
      exact Or.inl ⟨old, oldMember, matches_, rfl⟩
    · rw [if_neg (by simpa using matches_)] at own
      exact absurd own matches_
  · rename_i none
    rw [any_value_iff] at none
    have absent : ∀ old ∈ table.rows, column old ≠ statement.value :=
      fun old oldMember same => none ⟨old, oldMember, same⟩
    rcases mem_insert.1 member with old | rfl
    · exact absurd own (absent row old)
    · exact Or.inr ⟨absent, _, rfl⟩

theorem exists_mem_upsert :
    ∃ row ∈ (table.upsert statement).rows, column row = statement.value := by
  unfold upsert
  split
  · rename_i some
    obtain ⟨old, member, own⟩ := any_value_iff.1 some
    refine ⟨statement.change old, mem_update.2 ⟨old, member, if_pos (decide_eq_true own)⟩, ?_⟩
    rw [statement.changed, own]
  · exact ⟨_, mem_insert.2 (Or.inr rfl), statement.built _⟩

theorem UniqueIn.upsert (unique : table.UniqueIn column) (statement : Upsert key column) :
    (table.upsert statement).UniqueIn column := by
  intro first firstMember second secondMember same
  by_cases own : column first = statement.value
  · have secondOwn : column second = statement.value := same.symm.trans own
    rcases writes_of_mem_upsert own firstMember with
      ⟨firstOld, firstOldMember, firstMatches, rfl⟩ | ⟨absent, _⟩
    · rcases writes_of_mem_upsert secondOwn secondMember with
        ⟨secondOld, secondOldMember, secondMatches, rfl⟩ | ⟨absent, _⟩
      · rw [unique firstOld firstOldMember secondOld secondOldMember
          (firstMatches.trans secondMatches.symm)]
      · exact absurd firstMatches (absent firstOld firstOldMember)
    · -- Without an old row both are the one that was inserted.
      have inserted : ∀ row ∈ (table.upsert statement).rows, column row = statement.value →
          row = statement.build table.nextKey := by
        intro row member rowOwn
        have unmatched : ¬ (table.rows.any fun row => column row = statement.value) = true := by
          rw [any_value_iff]
          rintro ⟨old, oldMember, oldOwn⟩
          exact absent old oldMember oldOwn
        rw [Table.upsert, if_neg unmatched] at member
        rcases mem_insert.1 member with old | new
        · exact absurd rowOwn (absent row old)
        · exact new
      rw [inserted first firstMember own, inserted second secondMember secondOwn]
  · have secondOther : column second ≠ statement.value :=
      fun secondOwn => own (same.trans secondOwn)
    exact unique first ((mem_upsert_of_ne own).1 firstMember) second
      ((mem_upsert_of_ne secondOther).1 secondMember) same

/-! ## Lists of statements -/

variable {statements : List (Upsert key column)}

theorem UniqueIn.upsertAll (unique : table.UniqueIn column)
    (statements : List (Upsert key column)) :
    (table.upsertAll statements).UniqueIn column := by
  induction statements generalizing table with
  | nil => exact unique
  | cons statement statements ih => exact ih (unique.upsert statement)

theorem mem_upsertAll_of_notMem (other : column row ∉ statements.map Upsert.value) :
    row ∈ (table.upsertAll statements).rows ↔ row ∈ table.rows := by
  induction statements generalizing table with
  | nil => rfl
  | cons statement statements ih =>
      rw [List.map_cons, List.mem_cons, not_or] at other
      have rest := @ih (table.upsert statement) other.2
      rw [mem_upsert_of_ne other.1] at rest
      exact rest

theorem writes_of_mem_upsertAll (distinct : (statements.map Upsert.value).Nodup)
    (listed : statement ∈ statements) (own : column row = statement.value)
    (member : row ∈ (table.upsertAll statements).rows) : table.Writes statement row := by
  induction statements generalizing table with
  | nil => cases listed
  | cons first statements ih =>
      rw [List.map_cons, List.nodup_cons] at distinct
      rcases List.mem_cons.1 listed with rfl | later
      · have untouched : column row ∉ statements.map Upsert.value := own ▸ distinct.1
        exact writes_of_mem_upsert own ((mem_upsertAll_of_notMem untouched).1 member)
      · have apart : statement.value ≠ first.value := by
          intro same
          exact distinct.1 (same ▸ List.mem_map_of_mem later)
        have otherRow (old : Row) (oldOwn : column old = statement.value) :
            old ∈ (table.upsert first).rows ↔ old ∈ table.rows :=
          mem_upsert_of_ne (by rw [oldOwn]; exact apart)
        rcases ih distinct.2 later member with ⟨old, oldMember, oldOwn, same⟩ | ⟨absent, fresh⟩
        · exact Or.inl ⟨old, (otherRow old oldOwn).1 oldMember, oldOwn, same⟩
        · refine Or.inr ⟨fun old oldMember oldOwn => ?_, fresh⟩
          exact absent old ((otherRow old oldOwn).2 oldMember) oldOwn

theorem exists_mem_upsertAll (distinct : (statements.map Upsert.value).Nodup)
    (listed : statement ∈ statements) :
    ∃ row ∈ (table.upsertAll statements).rows, column row = statement.value := by
  induction statements generalizing table with
  | nil => cases listed
  | cons first statements ih =>
      rw [List.map_cons, List.nodup_cons] at distinct
      rcases List.mem_cons.1 listed with rfl | later
      · obtain ⟨row, member, own⟩ := @exists_mem_upsert _ _ _ _ table _ statement
        refine ⟨row, ?_, own⟩
        have untouched : column row ∉ statements.map Upsert.value := own ▸ distinct.1
        exact (mem_upsertAll_of_notMem untouched).2 member
      · exact ih distinct.2 later

end Table

end SqlTable
