import Mathlib.Data.List.Nodup
import Mathlib.Data.List.Sort

/-!
# Jobs which serve a page of a backlog

A job sorts the rows which wait, takes the first few and leaves a mark for each of them, unless the
mark is there.  `page` is what one run sees, `enrolled` what the marks become.  A job which does not
take marked rows off the backlog serves the same page on every run.
-/

namespace PagedBacklogs

universe u v

variable {Row : Type u} {Coordinate : Type v} [LinearOrder Coordinate]

/-! ## Pages -/

variable {rows : List Row} {row : Row}

section Pages

variable (coordinate : Row → Coordinate)

/-- `SELECT … ORDER BY coordinate LIMIT limit`. -/
def page (limit : Nat) (rows : List Row) : List Row :=
  (rows.insertionSort fun first second => coordinate first ≤ coordinate second).take limit

def ahead (rows : List Row) (row : Row) : Nat :=
  rows.countP fun other => coordinate other < coordinate row

variable {coordinate}

private theorem mem_take_iff_of_pairwise
    (sorted : rows.Pairwise fun first second => coordinate first < coordinate second)
    (limit : Nat) : row ∈ rows.take limit ↔ row ∈ rows ∧ ahead coordinate rows row < limit := by
  induction rows generalizing limit with
  | nil => simp
  | cons first rest induction =>
      obtain ⟨firstLeast, restSorted⟩ := List.pairwise_cons.1 sorted
      cases limit with
      | zero => simp
      | succ limit =>
          rw [List.take_succ_cons, List.mem_cons, List.mem_cons, induction restSorted limit]
          by_cases isFirst : row = first
          · subst isFirst
            have noneAhead : ahead coordinate (row :: rest) row = 0 := by
              apply List.countP_eq_zero.2
              intro other member
              rcases List.mem_cons.1 member with rfl | later
              · simp
              · simpa using (firstLeast other later).le
            simp [noneAhead]
          · simp only [isFirst, false_or]
            refine and_congr_right fun member => ?_
            have oneMore : ahead coordinate (first :: rest) row =
                ahead coordinate rest row + 1 :=
              List.countP_cons_of_pos (by simpa using firstLeast row member)
            rw [oneMore]
            exact Nat.succ_lt_succ_iff.symm

private theorem page_eq_take (distinct : (rows.map coordinate).Nodup) (limit : Nat) :
    ∃ sorted : List Row, page coordinate limit rows = sorted.take limit ∧ sorted.Perm rows ∧
      sorted.Pairwise fun first second => coordinate first < coordinate second := by
  let AtMost (first second : Row) : Prop := coordinate first ≤ coordinate second
  have total : Std.Total AtMost := ⟨fun first second => le_total _ _⟩
  have transitive : IsTrans Row AtMost := ⟨fun _ _ _ => le_trans⟩
  have permuted : (rows.insertionSort AtMost).Perm rows := List.perm_insertionSort _ rows
  have sorted : (rows.insertionSort AtMost).Pairwise AtMost := List.pairwise_insertionSort _ rows
  have apart : (rows.insertionSort AtMost).Pairwise fun first second =>
      coordinate first ≠ coordinate second :=
    List.pairwise_map.1 ((permuted.map coordinate).nodup_iff.2 distinct)
  exact ⟨rows.insertionSort AtMost, rfl, permuted,
    (sorted.and apart).imp fun pair => lt_of_le_of_ne pair.1 pair.2⟩

/-- A row is on the page just when fewer rows than the limit come before it. -/
theorem mem_page_iff (distinct : (rows.map coordinate).Nodup) {limit : Nat} :
    row ∈ page coordinate limit rows ↔ row ∈ rows ∧ ahead coordinate rows row < limit := by
  obtain ⟨sorted, pageEq, permuted, strictly⟩ := page_eq_take distinct limit
  have sameAhead : ahead coordinate sorted row = ahead coordinate rows row :=
    permuted.countP_eq _
  rw [pageEq, mem_take_iff_of_pairwise strictly, permuted.mem_iff, sameAhead]

/-- While a row waits, each page serves rows before it, as many as the limit. -/
theorem countP_unserved_add_limit_le (distinct : (rows.map coordinate).Nodup) {limit : Nat}
    (waits : row ∈ rows) (offPage : row ∉ page coordinate limit rows) {served : Row → Bool}
    (pageServed : ∀ other ∈ page coordinate limit rows, served other = true) :
    (rows.countP fun other => coordinate other < coordinate row && !served other) + limit ≤
      ahead coordinate rows row := by
  obtain ⟨sorted, pageEq, permuted, strictly⟩ := page_eq_take distinct limit
  rw [pageEq] at offPage pageServed
  have parts : sorted = sorted.take limit ++ sorted.drop limit :=
    (List.take_append_drop limit sorted).symm
  have later : row ∈ sorted.drop limit := by
    have member : row ∈ sorted.take limit ++ sorted.drop limit := parts ▸ permuted.mem_iff.2 waits
    exact (List.mem_append.1 member).resolve_left offPage
  have before : ∀ other ∈ sorted.take limit, coordinate other < coordinate row := by
    intro other member
    rw [parts, List.pairwise_append] at strictly
    exact strictly.2.2 other member row later
  have full : (sorted.take limit).length = limit := by
    have longer : 0 < (sorted.drop limit).length := List.length_pos_of_mem later
    rw [List.length_drop] at longer
    rw [List.length_take]
    omega
  have noneLeft : (sorted.take limit).countP
      (fun other => coordinate other < coordinate row && !served other) = 0 := by
    apply List.countP_eq_zero.2
    intro other member
    simp [pageServed other member]
  have allBefore : (sorted.take limit).countP
      (fun other => coordinate other < coordinate row) = limit := by
    rw [List.countP_eq_length.2 fun other member => by simpa using before other member, full]
  unfold ahead
  rw [← permuted.countP_eq, ← permuted.countP_eq, parts, List.countP_append, List.countP_append,
    noneLeft, allBefore, Nat.zero_add, Nat.add_comm]
  apply Nat.add_le_add_left
  apply List.countP_mono_left
  intro other _ unserved
  exact (Bool.and_eq_true_iff.1 unserved).1

end Pages

/-! ## Marks -/

section Marks

variable {Mark : Type u} [DecidableEq Mark]

def enrolled (marks wanted : List Mark) : List Mark :=
  wanted.foldl (fun sofar mark => if mark ∈ sofar then sofar else sofar ++ [mark]) marks

variable {marks wanted : List Mark}

@[simp]
theorem enrolled_nil : enrolled marks [] = marks :=
  rfl

@[simp]
theorem enrolled_cons (mark : Mark) :
    enrolled marks (mark :: wanted) =
      enrolled (if mark ∈ marks then marks else marks ++ [mark]) wanted :=
  rfl

theorem enrolled_append (earlier later : List Mark) :
    enrolled marks (earlier ++ later) = enrolled (enrolled marks earlier) later :=
  List.foldl_append

/-- What is enrolled is appended: every new mark, once. -/
theorem exists_enrolled_eq (marks wanted : List Mark) :
    ∃ added, enrolled marks wanted = marks ++ added ∧ added.Nodup ∧
      ∀ mark, mark ∈ added ↔ mark ∈ wanted ∧ mark ∉ marks := by
  induction wanted generalizing marks with
  | nil => exact ⟨[], by simp⟩
  | cons first rest induction =>
      by_cases present : first ∈ marks
      · obtain ⟨added, enrolledEq, distinct, mem⟩ := induction marks
        refine ⟨added, by rw [enrolled_cons, if_pos present, enrolledEq], distinct, ?_⟩
        intro mark
        rw [mem, List.mem_cons]
        constructor
        · rintro ⟨later, new⟩
          exact ⟨Or.inr later, new⟩
        · rintro ⟨rfl | later, new⟩
          · exact absurd present new
          · exact ⟨later, new⟩
      · obtain ⟨added, enrolledEq, distinct, mem⟩ := induction (marks ++ [first])
        refine ⟨first :: added, ?_, ?_, ?_⟩
        · rw [enrolled_cons, if_neg present, enrolledEq, List.append_assoc, List.singleton_append]
        · refine List.nodup_cons.2 ⟨fun again => ?_, distinct⟩
          exact ((mem first).1 again).2 (by simp)
        · intro mark
          rw [List.mem_cons, mem, List.mem_cons, List.mem_append, List.mem_singleton]
          constructor
          · rintro (rfl | ⟨later, new⟩)
            · exact ⟨Or.inl rfl, present⟩
            · exact ⟨Or.inr later, fun old => new (Or.inl old)⟩
          · rintro ⟨rfl | later, new⟩
            · exact Or.inl rfl
            · by_cases isFirst : mark = first
              · exact Or.inl isFirst
              · exact Or.inr ⟨later, by simp [new, isFirst]⟩

theorem mem_enrolled {mark : Mark} :
    mark ∈ enrolled marks wanted ↔ mark ∈ marks ∨ mark ∈ wanted := by
  obtain ⟨added, enrolledEq, -, mem⟩ := exists_enrolled_eq marks wanted
  rw [enrolledEq, List.mem_append, mem]
  by_cases present : mark ∈ marks
  · simp [present]
  · simp [present]

theorem nodup_enrolled (distinct : marks.Nodup) : (enrolled marks wanted).Nodup := by
  obtain ⟨added, enrolledEq, addedDistinct, mem⟩ := exists_enrolled_eq marks wanted
  rw [enrolledEq, List.nodup_append]
  refine ⟨distinct, addedDistinct, ?_⟩
  rintro mark old _ new rfl
  exact ((mem mark).1 new).2 old

/-- Enrolling the only wanted mark of a kind counts one more of it. -/
theorem countP_enrolled {kind : Mark → Bool} {mark : Mark} (isKind : kind mark = true)
    (onlyMark : ∀ other ∈ wanted, kind other = true → other = mark) (isWanted : mark ∈ wanted)
    (new : mark ∉ marks) :
    (enrolled marks wanted).countP kind = marks.countP kind + 1 := by
  obtain ⟨added, enrolledEq, distinct, mem⟩ := exists_enrolled_eq marks wanted
  have ofKind : added.filter kind = [mark] := by
    have isAdded : mark ∈ added.filter kind :=
      List.mem_filter.2 ⟨(mem mark).2 ⟨isWanted, new⟩, isKind⟩
    have only : ∀ other ∈ added.filter kind, other = mark := by
      intro other member
      obtain ⟨otherAdded, otherKind⟩ := List.mem_filter.1 member
      exact onlyMark other ((mem other).1 otherAdded).1 otherKind
    exact (List.perm_singleton.1 ((List.perm_ext_iff_of_nodup (distinct.filter _)
      (List.nodup_singleton mark)).2 fun other => by
        rw [List.mem_singleton]
        exact ⟨only other, fun same => same ▸ isAdded⟩))
  have oneAdded : added.countP kind = 1 := by
    rw [List.countP_eq_length_filter, ofKind]
    rfl
  rw [enrolledEq, List.countP_append, oneAdded]

end Marks

end PagedBacklogs
