import Mathlib.Data.List.Basic
import Mathlib.Data.List.Nodup
import Mathlib.Data.Nat.Find

/-!
# Pages at an offset

A reader asks for rows page by page and is told the offset of the next page.  An offset beyond a
cap is read as the cap.  The walk returns every row exactly once if and only if all pages begin
within the cap: the first page that begins beyond it is read from the cap again.
-/

namespace OffsetPages

universe u

variable {Row : Type u}

structure Page (Row : Type u) where
  rows : List Row
  next : Option Nat

def page (rows : List Row) (size cap offset : Nat) : Page Row :=
  let start := min offset cap
  let read := (rows.drop start).take size
  { rows := read
    next := if start + read.length < rows.length then some (start + read.length) else none }

/-- What a reader gets who follows the offsets to the last page; a request may fail. -/
inductive Walks (fetch : Nat → Option (Page Row)) : Nat → List Row → Prop where
  | last {offset : Nat} {fetched : Page Row} (fetches : fetch offset = some fetched)
      (ends : fetched.next = none) : Walks fetch offset fetched.rows
  | more {offset next : Nat} {fetched : Page Row} {rest : List Row}
      (fetches : fetch offset = some fetched) (continues : fetched.next = some next)
      (walks : Walks fetch next rest) : Walks fetch offset (fetched.rows ++ rest)

variable {offset : Nat}

theorem Walks.unique {fetch : Nat → Option (Page Row)} {rows others : List Row}
    (walks : Walks fetch offset rows) (walksOthers : Walks fetch offset others) :
    rows = others := by
  induction walks generalizing others with
  | last fetches ends =>
      cases walksOthers with
      | last fetchesOther _ => rw [Option.some.inj (fetches.symm.trans fetchesOther)]
      | more fetchesOther continues _ =>
          rw [← Option.some.inj (fetches.symm.trans fetchesOther), ends] at continues
          cases continues
  | more fetches continues _ ih =>
      cases walksOthers with
      | last fetchesOther ends =>
          rw [← Option.some.inj (fetches.symm.trans fetchesOther), continues] at ends
          cases ends
      | more fetchesOther continuesOther walksOthers =>
          obtain rfl := Option.some.inj (fetches.symm.trans fetchesOther)
          obtain rfl := Option.some.inj (continues.symm.trans continuesOther)
          rw [ih walksOthers]

/-- Every page begins within the cap. -/
def Reaches (total size cap : Nat) : Prop :=
  ∀ pages, pages * size < total → pages * size ≤ cap

theorem Reaches.mono {total fewer size cap : Nat} (reaches : Reaches total size cap)
    (le : fewer ≤ total) : Reaches fewer size cap :=
  fun pages begins => reaches pages (Nat.lt_of_lt_of_le begins le)

section Pages

variable {rows : List Row} {size cap : Nat}

theorem page_of_lt (within : offset ≤ cap) (left : offset + size < rows.length) :
    page rows size cap offset = ⟨(rows.drop offset).take size, some (offset + size)⟩ := by
  have length : ((rows.drop offset).take size).length = size := by
    rw [List.length_take, List.length_drop]
    omega
  simp only [page, Nat.min_eq_left within, length, if_pos left]

theorem page_of_le (within : offset ≤ cap) (fits : rows.length ≤ offset + size) :
    page rows size cap offset = ⟨rows.drop offset, none⟩ := by
  have all : (rows.drop offset).take size = rows.drop offset := by
    apply List.take_of_length_le
    rw [List.length_drop]
    omega
  have ends : ¬ offset + (rows.drop offset).length < rows.length := by
    rw [List.length_drop]
    omega
  simp only [page, Nat.min_eq_left within, all, if_neg ends]

theorem walks_last (within : offset ≤ cap) (fits : rows.length ≤ offset + size) :
    Walks (fun offset => some (page rows size cap offset)) offset (rows.drop offset) := by
  have fetched := congrArg some (page_of_le within fits)
  change Walks _ offset (Page.mk (rows.drop offset) none).rows
  exact Walks.last fetched rfl

theorem walks_more {rest : List Row} (within : offset ≤ cap) (left : offset + size < rows.length)
    (walks : Walks (fun offset => some (page rows size cap offset)) (offset + size) rest) :
    Walks (fun offset => some (page rows size cap offset)) offset
      ((rows.drop offset).take size ++ rest) := by
  have fetched := congrArg some (page_of_lt within left)
  exact Walks.more fetched rfl walks

/-- A walk gets every row once where each page begins within the cap. -/
theorem walks_of_reaches (positive : 0 < size) (reaches : Reaches rows.length size cap) :
    Walks (fun offset => some (page rows size cap offset)) 0 rows := by
  have fromPage : ∀ left pages, rows.length ≤ pages * size + left →
      pages * size ≤ cap →
      Walks (fun offset => some (page rows size cap offset)) (pages * size)
        (rows.drop (pages * size)) := by
    intro left
    induction left with
    | zero =>
        intro pages enough within
        exact walks_last within (by omega)
    | succ left ih =>
        intro pages enough within
        by_cases fits : rows.length ≤ pages * size + size
        · exact walks_last within fits
        · have begins : (pages + 1) * size < rows.length := by
            rw [Nat.add_mul, Nat.one_mul]
            omega
          have next := ih (pages + 1) (by rw [Nat.add_mul]; omega) (reaches _ begins)
          rw [Nat.add_mul, Nat.one_mul] at next
          have split : (rows.drop (pages * size)).take size ++ rows.drop (pages * size + size) =
              rows.drop (pages * size) := by
            rw [← List.drop_drop, List.take_append_drop]
          exact split ▸ walks_more within (Nat.not_le.1 fits) next
  simpa using fromPage rows.length 0 (by omega) (by omega)

theorem exists_rest_of_walks {items : List Row}
    (walks : Walks (fun offset => some (page rows size cap offset)) 0 items) {pages : Nat}
    (begins : pages * size < rows.length) (within : ∀ fewer < pages, fewer * size ≤ cap) :
    ∃ rest, items = rows.take (pages * size) ++ rest ∧
      Walks (fun offset => some (page rows size cap offset)) (pages * size) rest := by
  induction pages with
  | zero => exact ⟨items, by simp, by simpa using walks⟩
  | succ pages ih =>
      rw [Nat.add_mul, Nat.one_mul] at begins ⊢
      obtain ⟨rest, split, continues⟩ := ih (by omega) fun fewer before =>
        within fewer (Nat.lt_succ_of_lt before)
      have fetched := congrArg some (page_of_lt (within pages (Nat.lt_succ_self pages)) begins)
      cases continues with
      | last fetches ends =>
          rw [← Option.some.inj (fetched.symm.trans fetches)] at ends
          cases ends
      | more fetches next others =>
          rw [← Option.some.inj (fetched.symm.trans fetches)] at next split
          obtain rfl := Option.some.inj next
          exact ⟨_, by rw [split, ← List.append_assoc, ← List.take_add], others⟩

/-- It does so only there: past the cap, the last page comes again. -/
theorem reaches_of_walks {items : List Row}
    (walks : Walks (fun offset => some (page rows size cap offset)) 0 items)
    (once : items.Nodup) : Reaches rows.length size cap := by
  by_contra broken
  have beyond : ∃ pages, pages * size < rows.length ∧ cap < pages * size := by
    unfold Reaches at broken
    push Not at broken
    exact broken
  obtain ⟨begins, exceeds⟩ := Nat.find_spec beyond
  have within : ∀ fewer < Nat.find beyond, fewer * size ≤ cap := by
    intro fewer before
    have smaller := Nat.find_min beyond before
    have ordered : fewer * size ≤ Nat.find beyond * size := Nat.mul_le_mul_right size (Nat.le_of_lt before)
    by_contra exceedsToo
    exact smaller ⟨by omega, Nat.not_le.1 exceedsToo⟩
  obtain ⟨rest, split, continues⟩ := exists_rest_of_walks walks begins within
  have positive : size ≠ 0 := by
    rintro rfl
    omega
  generalize Nat.find beyond * size = offset at begins exceeds split continues
  -- The row at the cap was read before, and the page begins with it.
  have inRange : cap < rows.length := by omega
  have before : rows[cap] ∈ rows.take offset :=
    List.mem_take_iff_getElem.2 ⟨cap, by omega, rfl⟩
  have again : rows[cap] ∈ rest := by
    have first : rows[cap] ∈ (page rows size cap offset).rows := by
      obtain ⟨fewer, rfl⟩ := Nat.exists_eq_succ_of_ne_zero positive
      simp only [page, Nat.min_eq_right (Nat.le_of_lt exceeds)]
      rw [List.drop_eq_getElem_cons inRange, List.take_succ_cons]
      exact List.mem_cons_self
    cases continues with
    | last fetches ends => exact Option.some.inj fetches ▸ first
    | more fetches next others =>
        exact List.mem_append_left _ (Option.some.inj fetches ▸ first)
  rw [split] at once
  exact (List.nodup_append.1 once).2.2 _ before _ again rfl

end Pages

end OffsetPages
