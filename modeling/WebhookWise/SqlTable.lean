import Mathlib.Data.List.Nodup
import Mathlib.Data.List.Sort

/-!
# Tables with an autoincrement primary key

A table is a list of rows in insertion order; its structure carries that the key of a row is never
given out twice.  The operations are single SQL statements.  `Evolves` says how every row got from
an earlier table to a later one, and its transitivity composes statements to runs.
-/

namespace SqlTable

universe u

variable {Row : Type u} {key : Row → Nat}

def flushColumn {Value : Type} [DecidableEq Value] (loaded written current : Value) : Value :=
  if written = loaded then current else written

variable {row : Row}

/-- Rows under distinct keys, all below the next key to be given out. -/
@[ext]
structure Table (key : Row → Nat) where
  rows : List Row
  nextKey : Nat
  keys_lt : ∀ row ∈ rows, key row < nextKey
  keys_nodup : (rows.map key).Nodup

namespace Table

def empty : Table key where
  rows := []
  nextKey := 1
  keys_lt := by simp
  keys_nodup := by simp

/-- The row under a key, as `session.get` reads it. -/
def lookup (table : Table key) (wanted : Nat) : Option Row :=
  table.rows.find? fun row => key row = wanted

/-- `UPDATE … SET change WHERE guard`. -/
def update (table : Table key) (guard : Row → Bool) (change : Row → Row)
    (keeps : ∀ row, key (change row) = key row) : Table key where
  rows := table.rows.map fun row => if guard row then change row else row
  nextKey := table.nextKey
  keys_lt := by
    intro row member
    obtain ⟨old, oldMember, rfl⟩ := List.mem_map.1 member
    split
    · rw [keeps]
      exact table.keys_lt old oldMember
    · exact table.keys_lt old oldMember
  keys_nodup := by
    have sameKeys : (table.rows.map fun row => if guard row then change row else row).map key =
        table.rows.map key := by
      rw [List.map_map]
      apply List.map_congr_left
      intro row _
      simp only [Function.comp_apply]
      split
      · exact keeps row
      · rfl
    rw [sameKeys]
    exact table.keys_nodup

/-- The rows an `UPDATE … RETURNING` hands back, as it leaves them. -/
def returning (table : Table key) (guard : Row → Bool) (change : Row → Row) : List Row :=
  (table.rows.filter guard).map change

/-- `INSERT` of a row built around the next key. -/
def insert (table : Table key) (build : Nat → Row) (keyed : ∀ fresh, key (build fresh) = fresh) :
    Table key where
  rows := table.rows ++ [build table.nextKey]
  nextKey := table.nextKey + 1
  keys_lt := by
    intro row member
    rcases List.mem_append.1 member with old | new
    · exact Nat.lt_succ_of_lt (table.keys_lt row old)
    · rw [List.mem_singleton.1 new, keyed]
      exact Nat.lt_succ_self _
  keys_nodup := by
    rw [List.map_append, List.nodup_append]
    refine ⟨table.keys_nodup, by simp, ?_⟩
    intro old oldMember new newMember
    obtain ⟨row, rowMember, rfl⟩ := List.mem_map.1 oldMember
    simp only [List.map_cons, List.map_nil, List.mem_singleton] at newMember
    rw [newMember, keyed]
    exact Nat.ne_of_lt (table.keys_lt row rowMember)

/-- `DELETE … WHERE guard`.  A key is not given out again. -/
def delete (table : Table key) (guard : Row → Bool) : Table key where
  rows := table.rows.filter fun row => !guard row
  nextKey := table.nextKey
  keys_lt row member := table.keys_lt row (List.mem_filter.1 member).1
  keys_nodup := table.keys_nodup.sublist (List.filter_sublist.map key)

variable {table : Table key}

theorem lookup_eq_some_iff {wanted : Nat} :
    table.lookup wanted = some row ↔ row ∈ table.rows ∧ key row = wanted := by
  constructor
  · intro found
    exact ⟨List.mem_of_find?_eq_some found, by simpa using List.find?_some found⟩
  · rintro ⟨member, rfl⟩
    obtain ⟨found, foundEq⟩ : ∃ found, table.lookup (key row) = some found := by
      rw [← Option.isSome_iff_exists, lookup, List.find?_isSome]
      exact ⟨row, member, by simp⟩
    have foundMember : found ∈ table.rows := List.mem_of_find?_eq_some foundEq
    have sameKey : key found = key row := by simpa using List.find?_some foundEq
    rw [foundEq, List.inj_on_of_nodup_map table.keys_nodup foundMember member sameKey]

theorem mem_rows_iff_lookup : row ∈ table.rows ↔ table.lookup (key row) = some row := by
  simp [lookup_eq_some_iff]

theorem eq_of_key_eq {first second : Row} (firstMember : first ∈ table.rows)
    (secondMember : second ∈ table.rows) (sameKey : key first = key second) :
    first = second :=
  List.inj_on_of_nodup_map table.keys_nodup firstMember secondMember sameKey

theorem mem_returning {guard : Row → Bool} {change : Row → Row} :
    row ∈ table.returning guard change ↔ ∃ old ∈ table.rows, guard old = true ∧ change old = row := by
  simp [returning, and_assoc]

theorem head?_returning {guard : Row → Bool} {change : Row → Row} {wanted : Nat}
    (isKey : ∀ row, guard row = true → key row = wanted) :
    (table.returning guard change).head? = ((table.lookup wanted).filter guard).map change := by
  unfold returning
  rw [List.head?_map, List.head?_filter]
  congr 1
  cases found : table.rows.find? guard with
  | none =>
      have unguarded := List.find?_eq_none.1 found
      symm
      rw [Option.filter_eq_none_iff]
      intro row isRow
      exact unguarded row (lookup_eq_some_iff.1 isRow).1
  | some row =>
      have guarded := List.find?_some found
      have isRow : table.lookup wanted = some row :=
        lookup_eq_some_iff.2 ⟨List.mem_of_find?_eq_some found, isKey row guarded⟩
      rw [isRow, Option.filter_some, if_pos guarded]

section Update

variable {guard : Row → Bool} {change : Row → Row} {keeps : ∀ row, key (change row) = key row}

@[simp]
theorem update_nextKey : (table.update guard change keeps).nextKey = table.nextKey :=
  rfl

theorem mem_update {row : Row} :
    row ∈ (table.update guard change keeps).rows ↔
      ∃ old ∈ table.rows, (if guard old then change old else old) = row := by
  simp [update]

theorem update_congr (keeps : ∀ row, key (change row) = key row) {other : Row → Row}
    {keepsOther : ∀ row, key (other row) = key row}
    (same : ∀ row ∈ table.rows, guard row = true → change row = other row) :
    table.update guard change keeps = table.update guard other keepsOther := by
  apply Table.ext
  · apply List.map_congr_left
    intro row member
    split
    · exact same row member ‹_›
    · rfl
  · rfl

theorem update_eq_self_of_returning_eq_nil (none : table.returning guard change = []) :
    table.update guard change keeps = table := by
  have unguarded : ∀ row ∈ table.rows, ¬ guard row = true := by
    rw [returning, List.map_eq_nil_iff, List.filter_eq_nil_iff] at none
    exact none
  apply Table.ext
  · have same : table.rows.map (fun row => if guard row then change row else row) =
        table.rows.map id := by
      apply List.map_congr_left
      intro row member
      rw [if_neg (unguarded row member)]
      rfl
    rw [List.map_id] at same
    exact same
  · rfl

theorem lookup_update (wanted : Nat) :
    (table.update guard change keeps).lookup wanted =
      (table.lookup wanted).map fun row => if guard row then change row else row := by
  unfold lookup update
  rw [List.find?_map]
  congr 2
  funext row
  simp only [Function.comp_apply]
  split
  · rw [keeps]
  · rfl

theorem exists_key_update {wanted : Nat} :
    (∃ row ∈ (table.update guard change keeps).rows, key row = wanted) ↔
      ∃ row ∈ table.rows, key row = wanted := by
  have sameKey (row : Row) : key (if guard row then change row else row) = key row := by
    split
    · exact keeps row
    · rfl
  simp [update, sameKey]

theorem countP_update_of_key (counts : Row → Bool) {old : Row} (member : old ∈ table.rows)
    (isKey : ∀ row, guard row = true ↔ key row = key old)
    (keeps : ∀ row, key (change row) = key row) :
    (table.update guard change keeps).rows.countP counts + (counts old).toNat =
      table.rows.countP counts + (counts (change old)).toNat := by
  obtain ⟨front, back, rowsEq⟩ := List.append_of_mem member
  have nodup := table.keys_nodup
  rw [rowsEq, List.map_append, List.map_cons, List.nodup_middle, List.nodup_cons,
    ← List.map_append] at nodup
  have others (rows : List Row) (within : ∀ row ∈ rows, row ∈ front ++ back) :
      (rows.map fun row => if guard row then change row else row) = rows := by
    refine (List.map_congr_left fun row rowMember => ?_).trans (List.map_id' rows)
    rw [if_neg]
    intro guarded
    apply nodup.1
    rw [← (isKey row).1 guarded]
    exact List.mem_map_of_mem (within row rowMember)
  change (table.rows.map _).countP counts + _ = _
  rw [rowsEq, List.map_append, List.map_cons, others front (by simp +contextual),
    others back (by simp +contextual), if_pos ((isKey old).2 rfl)]
  simp only [List.countP_append, List.countP_cons]
  cases counts old <;> cases counts (change old) <;> simp <;> omega

theorem mem_update_of_mem_returning (keeps : ∀ row, key (change row) = key row)
    (member : row ∈ table.returning guard change) :
    row ∈ (table.update guard change keeps).rows := by
  obtain ⟨old, oldMember, guarded, rfl⟩ := mem_returning.1 member
  exact mem_update.2 ⟨old, oldMember, by simp [guarded]⟩

end Update

section Insert

variable {build : Nat → Row} {keyed : ∀ fresh, key (build fresh) = fresh}

theorem mem_insert :
    row ∈ (table.insert build keyed).rows ↔ row ∈ table.rows ∨ row = build table.nextKey := by
  simp [insert]

theorem lookup_insert_self : (table.insert build keyed).lookup table.nextKey =
    some (build table.nextKey) :=
  lookup_eq_some_iff.2 ⟨mem_insert.2 (Or.inr rfl), keyed _⟩

theorem lookup_insert_of_some {wanted : Nat} {row : Row} (found : table.lookup wanted = some row) :
    (table.insert build keyed).lookup wanted = some row := by
  rw [lookup_eq_some_iff] at found ⊢
  exact ⟨mem_insert.2 (Or.inl found.1), found.2⟩

end Insert

section Select

variable {Before : Row → Row → Prop} [DecidableRel Before] {selected : Row → Bool}

/-- `SELECT … WHERE selected ORDER BY … LIMIT 1`. -/
def selectFirst (table : Table key) (Before : Row → Row → Prop) [DecidableRel Before]
    (selected : Row → Bool) : Option Row :=
  ((table.rows.filter selected).insertionSort Before).head?

theorem selectFirst_spec (found : table.selectFirst Before selected = some row) :
    row ∈ table.rows ∧ selected row = true := by
  have member := List.mem_of_mem_head? (Option.mem_def.2 found)
  rw [List.mem_insertionSort] at member
  exact List.mem_filter.1 member

theorem exists_selectFirst {row : Row} (member : row ∈ table.rows)
    (isSelected : selected row = true) :
    ∃ first, table.selectFirst Before selected = some first := by
  have sorted : row ∈ (table.rows.filter selected).insertionSort Before := by
    rw [List.mem_insertionSort]
    exact List.mem_filter.2 ⟨member, isSelected⟩
  unfold selectFirst
  cases sortedEq : (table.rows.filter selected).insertionSort Before with
  | nil => simp [sortedEq] at sorted
  | cons first rest => exact ⟨first, rfl⟩

end Select

/-- A later table of a database: every earlier row is still there under its key,
changed as `Move` allows, and every other row is `Fresh`. -/
structure Evolves (Move : Row → Row → Prop) (Fresh : Row → Prop) (before after : Table key) :
    Prop where
  kept : ∀ row ∈ before.rows, ∃ moved ∈ after.rows, key moved = key row ∧ Move row moved
  origin : ∀ row ∈ after.rows,
    (∃ old ∈ before.rows, key row = key old ∧ Move old row) ∨ Fresh row

namespace Evolves

variable {Move : Row → Row → Prop} {Fresh : Row → Prop} {before middle after : Table key}

theorem refl (reflexive : ∀ row, Move row row) (table : Table key) :
    Evolves Move Fresh table table where
  kept row member := ⟨row, member, rfl, reflexive row⟩
  origin row member := Or.inl ⟨row, member, rfl, reflexive row⟩

theorem trans (transitive : ∀ first second third,
      Move first second → Move second third → Move first third)
    (freshMoves : ∀ row moved, Fresh row → Move row moved → Fresh moved)
    (first : Evolves Move Fresh before middle) (second : Evolves Move Fresh middle after) :
    Evolves Move Fresh before after where
  kept row member := by
    obtain ⟨moved, movedMember, movedKey, move⟩ := first.kept row member
    obtain ⟨final, finalMember, finalKey, moveOn⟩ := second.kept moved movedMember
    exact ⟨final, finalMember, finalKey.trans movedKey, transitive _ _ _ move moveOn⟩
  origin row member := by
    rcases second.origin row member with ⟨moved, movedMember, movedKey, moveOn⟩ | fresh
    · rcases first.origin moved movedMember with ⟨old, oldMember, oldKey, move⟩ | fresh
      · exact Or.inl ⟨old, oldMember, movedKey.trans oldKey, transitive _ _ _ move moveOn⟩
      · exact Or.inr (freshMoves _ _ fresh moveOn)
    · exact Or.inr fresh

theorem of_update {guard : Row → Bool} {change : Row → Row}
    (keeps : ∀ row, key (change row) = key row) (reflexive : ∀ row, Move row row)
    (changes : ∀ row ∈ table.rows, guard row = true → Move row (change row)) :
    Evolves Move Fresh table (table.update guard change keeps) := by
  have moves : ∀ row ∈ table.rows, key (if guard row then change row else row) = key row ∧
      Move row (if guard row then change row else row) := by
    intro row member
    split
    · exact ⟨keeps row, changes row member ‹_›⟩
    · exact ⟨rfl, reflexive row⟩
  constructor
  · intro row member
    exact ⟨_, mem_update.2 ⟨row, member, rfl⟩, moves row member⟩
  · intro row member
    obtain ⟨old, oldMember, rfl⟩ := mem_update.1 member
    exact Or.inl ⟨old, oldMember, moves old oldMember⟩

theorem of_insert {build : Nat → Row} (keyed : ∀ fresh, key (build fresh) = fresh)
    (reflexive : ∀ row, Move row row) (fresh : Fresh (build table.nextKey)) :
    Evolves Move Fresh table (table.insert build keyed) where
  kept row member := ⟨row, mem_insert.2 (Or.inl member), rfl, reflexive row⟩
  origin row member := by
    rcases mem_insert.1 member with old | rfl
    · exact Or.inl ⟨row, old, rfl, reflexive row⟩
    · exact Or.inr fresh

theorem mono {Weaker : Row → Row → Prop} {Wider : Row → Prop}
    (weakens : ∀ row moved, Move row moved → Weaker row moved)
    (widens : ∀ row, Fresh row → Wider row) (evolves : Evolves Move Fresh before after) :
    Evolves Weaker Wider before after where
  kept row member := by
    obtain ⟨moved, movedMember, movedKey, move⟩ := evolves.kept row member
    exact ⟨moved, movedMember, movedKey, weakens _ _ move⟩
  origin row member := by
    rcases evolves.origin row member with ⟨old, oldMember, oldKey, move⟩ | fresh
    · exact Or.inl ⟨old, oldMember, oldKey, weakens _ _ move⟩
    · exact Or.inr (widens row fresh)

theorem forall_mem {Property : Row → Prop} (evolves : Evolves Move Fresh before after)
    (kept : ∀ row moved, Move row moved → Property row → Property moved)
    (fresh : ∀ row, Fresh row → Property row) (initially : ∀ row ∈ before.rows, Property row) :
    ∀ row ∈ after.rows, Property row := by
  intro row member
  rcases evolves.origin row member with ⟨old, oldMember, _, move⟩ | new
  · exact kept old row move (initially old oldMember)
  · exact fresh row new

theorem lookup {wanted : Nat} {row : Row} (evolves : Evolves Move Fresh before after)
    (found : before.lookup wanted = some row) :
    ∃ moved, after.lookup wanted = some moved ∧ Move row moved := by
  obtain ⟨member, rfl⟩ := lookup_eq_some_iff.1 found
  obtain ⟨moved, movedMember, movedKey, move⟩ := evolves.kept row member
  exact ⟨moved, lookup_eq_some_iff.2 ⟨movedMember, movedKey⟩, move⟩

end Evolves

end Table

end SqlTable
