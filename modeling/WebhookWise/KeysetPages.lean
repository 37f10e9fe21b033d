import Mathlib.Data.List.Nodup
import Mathlib.Data.List.Sort

/-!
# Pages that continue below a key

A reader asks for rows page by page, in descending order of their keys, and hands in the key where
the page before ended.  Between two requests the table may grow by rows with larger keys, and rows
may come to be selected.
-/

namespace KeysetPages

universe u v

variable {Row : Type u} {Key : Type v} [LinearOrder Key]

structure Page (Row : Type u) (Key : Type v) where
  rows : List Row
  next : Option Key

def Below (key : Row → Key) (cursor : Option Key) (row : Row) : Prop :=
  ∀ limit ∈ cursor, key row < limit

instance (key : Row → Key) (cursor : Option Key) : DecidablePred (Below key cursor) := fun row =>
  match cursor with
  | none => isTrue fun _ none => absurd none (by simp)
  | some limit => decidable_of_iff (key row < limit) (by simp [Below])

/-- `ORDER BY key DESC`. -/
def descending (key : Row → Key) (rows : List Row) : List Row :=
  rows.insertionSort fun first second => key second ≤ key first

/-- The rows from the largest key to the smallest, each once. -/
def Descending (key : Row → Key) (rows : List Row) : Prop :=
  rows.Pairwise fun first second => key second < key first

/-- The rows that are left to read. -/
def rest (key : Row → Key) (selects : Row → Bool) (cursor : Option Key) (table : List Row) :
    List Row :=
  descending key (table.filter fun row => selects row && decide (Below key cursor row))

def page (key : Row → Key) (selects : Row → Bool) (size : Nat) (cursor : Option Key)
    (table : List Row) : Page Row Key :=
  let left := rest key selects cursor table
  { rows := left.take size
    next := if size < left.length then (left.take size).getLast?.map key else none }

/-- What a reader gets who follows the cursors, unless the last page is out of reach. -/
def walk (fetch : Nat → Option Key → Page Row Key) : Nat → Nat → Option Key → Option (List Row)
  | 0, _, _ => none
  | requests + 1, request, cursor =>
      let fetched := fetch request cursor
      match fetched.next with
      | none => some fetched.rows
      | some next => (walk fetch requests (request + 1) (some next)).map (fetched.rows ++ ·)

omit [LinearOrder Key] in
theorem walk_add {fetch : Nat → Option Key → Page Row Key} {fuel request : Nat}
    {cursor : Option Key} {rows : List Row} (reads : walk fetch fuel request cursor = some rows)
    (more : Nat) : walk fetch (fuel + more) request cursor = some rows := by
  induction fuel generalizing request cursor rows with
  | zero => cases reads
  | succ fuel ih =>
      rw [Nat.succ_add]
      simp only [walk] at reads ⊢
      cases next : (fetch request cursor).next with
      | none =>
          rw [next] at reads
          exact reads
      | some limit =>
          rw [next] at reads
          obtain ⟨others, readsOthers, rfl⟩ := Option.map_eq_some_iff.1 reads
          simp only [ih readsOthers, Option.map_some]

omit [LinearOrder Key] in
theorem walk_unique {fetch : Nat → Option Key → Page Row Key} {first second request : Nat}
    {cursor : Option Key} {rows others : List Row}
    (reads : walk fetch first request cursor = some rows)
    (readsOthers : walk fetch second request cursor = some others) : rows = others := by
  have same := walk_add readsOthers first
  rw [Nat.add_comm, walk_add reads second] at same
  exact Option.some.inj same

/-! ## One page -/

variable {row : Row} {rows : List Row} {last : Row}
variable {size : Nat}

section Pages

variable {key : Row → Key} {selects : Row → Bool} {cursor : Option Key} {table : List Row}

theorem descending_perm (rows : List Row) : (descending key rows).Perm rows :=
  List.perm_insertionSort _ rows

theorem descending_of_nodup (distinct : (rows.map key).Nodup) :
    Descending key (descending key rows) := by
  let AtLeast (first second : Row) : Prop := key second ≤ key first
  have total : Std.Total AtLeast := ⟨fun first second => le_total _ _⟩
  have transitive : IsTrans Row AtLeast := ⟨fun _ _ _ first second => le_trans second first⟩
  have sorted : (descending key rows).Pairwise AtLeast := List.pairwise_insertionSort _ rows
  have apart : (descending key rows).Pairwise fun first second => key first ≠ key second :=
    List.pairwise_map.1 (((descending_perm rows).map key).nodup_iff.2 distinct)
  exact (sorted.and apart).imp fun pair => lt_of_le_of_ne pair.1 (Ne.symm pair.2)

theorem Descending.eq_of_mem_iff {first second : List Row} (firstSorted : Descending key first)
    (secondSorted : Descending key second) (same : ∀ row, row ∈ first ↔ row ∈ second) :
    first = second := by
  have irreflexive : Std.Irrefl fun first second : Row => key second < key first :=
    ⟨fun row => lt_irrefl (key row)⟩
  have asymmetric : Std.Antisymm fun first second : Row => key second < key first :=
    ⟨fun _ _ lower higher => absurd higher (lt_asymm lower)⟩
  exact List.Pairwise.eq_of_mem_iff firstSorted secondSorted fun row => same row

theorem mem_rest_iff :
    row ∈ rest key selects cursor table ↔
      row ∈ table ∧ selects row = true ∧ Below key cursor row := by
  rw [rest, (descending_perm _).mem_iff, List.mem_filter]
  simp

theorem descending_rest (distinct : (table.map key).Nodup) :
    Descending key (rest key selects cursor table) := by
  apply descending_of_nodup
  exact List.Nodup.sublist (List.Sublist.map key List.filter_sublist) distinct

theorem lt_of_mem_drop (sorted : Descending key rows) (isLast : last ∈ rows.take size)
    (dropped : row ∈ rows.drop size) : key row < key last := by
  unfold Descending at sorted
  rw [← List.take_append_drop size rows, List.pairwise_append] at sorted
  exact sorted.2.2 last isLast row dropped

theorem getLast_le (sorted : Descending key rows) (member : row ∈ rows) (nonempty : rows ≠ []) :
    key (rows.getLast nonempty) ≤ key row := by
  have parts : rows.dropLast ++ [rows.getLast nonempty] = rows :=
    List.dropLast_append_getLast nonempty
  unfold Descending at sorted
  rw [← parts, List.pairwise_append] at sorted
  rw [← parts, List.mem_append] at member
  rcases member with before | isLast
  · exact (sorted.2.2 row before _ (List.mem_singleton_self _)).le
  · rw [List.mem_singleton.1 isLast]

theorem page_of_le (fits : (rest key selects cursor table).length ≤ size) :
    page key selects size cursor table = ⟨rest key selects cursor table, none⟩ := by
  simp only [page]
  rw [if_neg (Nat.not_lt.2 fits), List.take_of_length_le fits]

theorem exists_page_of_lt (positive : 0 < size)
    (sorted : Descending key (rest key selects cursor table))
    (more : size < (rest key selects cursor table).length) :
    ∃ last ∈ (rest key selects cursor table).take size,
      page key selects size cursor table =
          ⟨(rest key selects cursor table).take size, some (key last)⟩ ∧
        ∀ row ∈ (rest key selects cursor table).take size, key last ≤ key row := by
  have nonempty : (rest key selects cursor table).take size ≠ [] := by
    apply List.ne_nil_of_length_pos
    rw [List.length_take]
    omega
  refine ⟨_, List.getLast_mem nonempty, ?_, fun row visible =>
    getLast_le (List.Pairwise.sublist (List.take_sublist size _) sorted) visible nonempty⟩
  simp only [page]
  rw [if_pos more, List.getLast?_eq_some_getLast nonempty]
  rfl

end Pages

/-! ## A walk over a table that grows -/

section Walks

variable (key : Row → Key) (tables : Nat → List Row) (selects : Nat → Row → Bool)

/-- Each request finds the table of the request before, and rows with larger keys. -/
structure Grows : Prop where
  distinct : ∀ request, ((tables request).map key).Nodup
  larger : ∀ request, ∃ added, (tables (request + 1)).Perm (tables request ++ added) ∧
    ∀ new ∈ added, ∀ old ∈ tables request, key old < key new
  selected : ∀ request row, selects request row = true → selects (request + 1) row = true

variable {key tables selects}

namespace Grows

theorem mem_tables (grows : Grows key tables selects) (member : row ∈ tables 0) (request : Nat) :
    row ∈ tables request := by
  induction request with
  | zero => exact member
  | succ request ih =>
      obtain ⟨added, permuted, -⟩ := grows.larger request
      exact permuted.mem_iff.2 (List.mem_append_left added ih)

theorem mem_tables_iff (grows : Grows key tables selects) (present : last ∈ tables 0)
    (below : key row < key last) (request : Nat) : row ∈ tables request ↔ row ∈ tables 0 := by
  induction request with
  | zero => rfl
  | succ request ih =>
      obtain ⟨added, permuted, larger⟩ := grows.larger request
      have notAdded : row ∉ added := fun new =>
        lt_asymm below (larger row new last (grows.mem_tables present request))
      rw [permuted.mem_iff, List.mem_append, ih]
      simp [notAdded]

end Grows

def unread (key : Row → Key) (cursor : Option Key) (table : List Row) : Nat :=
  table.countP fun row => decide (Below key cursor row)

theorem unread_lt {cursor : Option Key} {table : List Row} (present : last ∈ table)
    (below : Below key cursor last) :
    unread key (some (key last)) table < unread key cursor table := by
  have fewer : ∀ row, Below key (some (key last)) row → Below key cursor row := by
    intro row lower limit isCursor
    exact (lower (key last) rfl).trans (below limit isCursor)
  have itself : ¬ Below key (some (key last)) last := fun lower => lt_irrefl _ (lower _ rfl)
  have sublist : (table.filter fun row => decide (Below key (some (key last)) row)).Sublist
      (table.filter fun row => decide (Below key cursor row)) :=
    List.monotone_filter_right table fun row lower => by
      simpa using fewer row (by simpa using lower)
  unfold unread
  rw [List.countP_eq_length_filter, List.countP_eq_length_filter]
  apply lt_of_le_of_ne sublist.length_le
  intro same
  have member : last ∈ table.filter fun row => decide (Below key cursor row) :=
    List.mem_filter.2 ⟨present, decide_eq_true below⟩
  rw [← sublist.eq_of_length same, List.mem_filter] at member
  exact itself (of_decide_eq_true member.2)

/-- What a walk reads which begins at some request: in order and each once, nothing but rows of
the first table below the cursor, and all of these that are selected by then. -/
theorem walk_reads (grows : Grows key tables selects) (positive : 0 < size) (fuel request : Nat)
    (cursor : Option Key) (enough : unread key cursor (tables 0) < fuel)
    (present : ∀ row, Below key cursor row → (row ∈ tables request ↔ row ∈ tables 0)) :
    ∃ rows, walk (fun request cursor => page key (selects request) size cursor (tables request))
        fuel request cursor = some rows ∧
      Descending key rows ∧
      (∀ row ∈ rows, row ∈ tables 0 ∧ Below key cursor row ∧
        ∃ later, request ≤ later ∧ selects later row = true) ∧
      ∀ row ∈ tables 0, Below key cursor row → selects request row = true → row ∈ rows := by
  induction fuel generalizing request cursor with
  | zero => omega
  | succ fuel ih =>
      let left := rest key (selects request) cursor (tables request)
      have sorted : Descending key left := descending_rest (grows.distinct request)
      have mem_left : ∀ row, row ∈ left ↔
          row ∈ tables 0 ∧ selects request row = true ∧ Below key cursor row := by
        intro row
        rw [mem_rest_iff]
        exact and_congr_left fun selected => present row selected.2
      by_cases more : size < left.length
      · obtain ⟨last, onPage, fetched, least⟩ := exists_page_of_lt positive sorted more
        obtain ⟨lastPresent, -, lastBelow⟩ := (mem_left last).1 (List.mem_of_mem_take onPage)
        obtain ⟨others, reads, othersSorted, othersSound, othersComplete⟩ :=
          ih (request + 1) (some (key last))
            ((unread_lt lastPresent lastBelow).trans_le (Nat.le_of_lt_succ enough))
            fun row lower => grows.mem_tables_iff lastPresent (lower _ rfl) (request + 1)
        refine ⟨left.take size ++ others, ?_, ?_, ?_, ?_⟩
        · simp only [walk, fetched, reads, Option.map_some]
          rfl
        · refine List.pairwise_append.2 ⟨List.Pairwise.sublist (List.take_sublist size left) sorted,
            othersSorted, fun row visible other later => ?_⟩
          have lower : key other < key last := (othersSound other later).2.1 _ rfl
          exact lower.trans_le (least row visible)
        · intro row member
          rcases List.mem_append.1 member with visible | later
          · obtain ⟨inFirst, selected, below⟩ := (mem_left row).1 (List.mem_of_mem_take visible)
            exact ⟨inFirst, below, request, Nat.le_refl request, selected⟩
          · obtain ⟨inFirst, lower, moment, after, selected⟩ := othersSound row later
            refine ⟨inFirst, ?_, moment, by omega, selected⟩
            intro limit isCursor
            exact (lower _ rfl).trans (lastBelow limit isCursor)
        · intro row inFirst below selected
          have isLeft : row ∈ left.take size ++ left.drop size := by
            rw [List.take_append_drop]
            exact (mem_left row).2 ⟨inFirst, selected, below⟩
          rcases List.mem_append.1 isLeft with visible | dropped
          · exact List.mem_append_left others visible
          · apply List.mem_append_right
            apply othersComplete row inFirst
            · intro limit isLast
              obtain rfl := Option.some.inj isLast
              exact lt_of_mem_drop sorted onPage dropped
            · exact grows.selected request row selected
      · have fetched := page_of_le (Nat.le_of_not_lt more)
        refine ⟨left, ?_, sorted, ?_, ?_⟩
        · simp only [walk, fetched]
          rfl
        · intro row member
          obtain ⟨inFirst, selected, below⟩ := (mem_left row).1 member
          exact ⟨inFirst, below, request, Nat.le_refl request, selected⟩
        · intro row inFirst below selected
          exact (mem_left row).2 ⟨inFirst, selected, below⟩

end Walks

end KeysetPages
