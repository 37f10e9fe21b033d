import Mathlib.Algebra.BigOperators.Group.List.Lemmas
import Mathlib.Algebra.GroupWithZero.Nat
import Mathlib.Data.List.Dedup

/-!
# Counts of grouped rows

A query groups the rows of a table by a key and counts each group.  The counts of the groups whose
key is selected add up to the number of rows whose key is selected.  So the rows can be counted
under another label, which is computed from the key, by adding up the counts of the groups that
have this label.
-/

namespace GroupedRows

universe u v w

/-- `max` of a column. -/
def latest {Instant : Type u} [LE Instant] [DecidableLE Instant] : List Instant → Option Instant
  | [] => none
  | instant :: instants =>
      some ((latest instants).elim instant fun other =>
        if other ≤ instant then instant else other)

variable {Row : Type u} {Key : Type v} [DecidableEq Key]

/-- `GROUP BY key`: each key that occurs, once. -/
def keys (key : Row → Key) (rows : List Row) : List Key :=
  (rows.map key).dedup

def group (key : Row → Key) (rows : List Row) (wanted : Key) : List Row :=
  rows.filter fun row => key row = wanted

/-- `count(*)` of a group. -/
def count (key : Row → Key) (rows : List Row) (wanted : Key) : Nat :=
  (group key rows wanted).length

variable {key : Row → Key} {rows : List Row} {wanted : Key}

@[simp]
theorem mem_keys : wanted ∈ keys key rows ↔ ∃ row ∈ rows, key row = wanted := by
  simp [keys]

@[simp]
theorem mem_group {row : Row} : row ∈ group key rows wanted ↔ row ∈ rows ∧ key row = wanted := by
  simp [group]

theorem count_eq_countP (key : Row → Key) (rows : List Row) (wanted : Key) :
    count key rows wanted = rows.countP fun row => key row = wanted := by
  rw [count, group, List.countP_eq_length_filter]

theorem count_eq_count_map (key : Row → Key) (rows : List Row) (wanted : Key) :
    count key rows wanted = (rows.map key).count wanted := by
  rw [count_eq_countP, List.count_eq_countP, List.countP_map]
  apply List.countP_congr
  intro row _
  simp

theorem count_pos (member : wanted ∈ keys key rows) : 0 < count key rows wanted := by
  obtain ⟨row, present, same⟩ := mem_keys.1 member
  exact List.length_pos_of_mem (mem_group.2 ⟨present, same⟩)

theorem sum_count_filter (selects : Key → Bool) (key : Row → Key) (rows : List Row) :
    (((keys key rows).filter selects).map (count key rows)).sum =
      rows.countP fun row => selects (key row) := by
  have counts : count key rows = fun wanted => (rows.map key).count wanted :=
    funext fun wanted => count_eq_count_map key rows wanted
  rw [counts, keys, List.sum_map_count_dedup_filter_eq_countP, List.countP_map]
  rfl

theorem countP_eq_countP_iff (first second : Row → Prop) [DecidablePred first]
    [DecidablePred second] (rows : List Row) :
    ((rows.countP fun row => first row) = rows.countP fun row => second row) ↔
      (rows.countP fun row => first row ∧ ¬ second row) =
        rows.countP fun row => second row ∧ ¬ first row := by
  have together : (rows.countP fun row => first row) +
        (rows.countP fun row => second row ∧ ¬ first row) =
      (rows.countP fun row => second row) + rows.countP fun row => first row ∧ ¬ second row := by
    induction rows with
    | nil => rfl
    | cons row rows ih =>
        by_cases inFirst : first row <;> by_cases inSecond : second row <;>
          simp only [List.countP_cons, inFirst, inSecond, not_true_eq_false, not_false_eq_true,
            and_true, and_false, and_self, decide_true, decide_false, if_true, Bool.false_eq_true,
            if_false] <;> omega
  omega

theorem sum_map_eq_sum_map_iff {Item : Type u} {smaller larger : Item → Nat} (items : List Item)
    (le : ∀ item ∈ items, smaller item ≤ larger item) :
    (items.map smaller).sum = (items.map larger).sum ↔
      ∀ item ∈ items, smaller item = larger item := by
  suffices both : (items.map smaller).sum ≤ (items.map larger).sum ∧
      ((items.map smaller).sum = (items.map larger).sum ↔
        ∀ item ∈ items, smaller item = larger item) from both.2
  induction items with
  | nil => simp
  | cons item items ih =>
      obtain ⟨sums, rest⟩ := ih fun other member => le other (List.mem_cons_of_mem _ member)
      have first := le item List.mem_cons_self
      rw [List.map_cons, List.map_cons, List.sum_cons, List.sum_cons, List.forall_mem_cons, ← rest]
      omega

/-! ## Counting under another label -/

section Labels

variable {Label : Type w} [DecidableEq Label]

def tally (label : Key → Option Label) (amount : Key → Nat) (groups : List Key)
    (counted : Label → Nat) : Label → Nat :=
  groups.foldl
    (fun counted group asked =>
      if label group = some asked then counted asked + amount group else counted asked)
    counted

omit [DecidableEq Key] in
theorem tally_eq_sum (label : Key → Option Label) (amount : Key → Nat) (groups : List Key)
    (counted : Label → Nat) (asked : Label) :
    tally label amount groups counted asked =
      counted asked + ((groups.filter fun group => label group = some asked).map amount).sum := by
  induction groups generalizing counted with
  | nil => simp [tally]
  | cons group groups ih =>
      rw [tally, List.foldl_cons]
      refine (ih _).trans ?_
      by_cases here : label group = some asked
      · simp [here, Nat.add_assoc]
      · simp [here]

theorem tally_count (label : Key → Option Label) (key : Row → Key) (rows : List Row)
    (asked : Label) :
    tally label (count key rows) (keys key rows) (fun _ => 0) asked =
      rows.countP fun row => label (key row) = some asked := by
  rw [tally_eq_sum, sum_count_filter fun wanted => decide (label wanted = some asked)]
  simp

/-! ## Overwriting under another label -/

section Overwriting

variable {Group : Type u} (label : Group → Label) (amount : Group → Nat) (groups : List Group)

/-- What is left under a label when each group overwrites the amount of the one before. -/
def lastAmount (asked : Label) : Nat :=
  ((groups.filter fun group => label group = asked).getLast?.map amount).getD 0

def wholeAmount (asked : Label) : Nat :=
  ((groups.filter fun group => label group = asked).map amount).sum

variable {label amount groups}

theorem lastAmount_le_wholeAmount (asked : Label) :
    lastAmount label amount groups asked ≤ wholeAmount label amount groups asked := by
  unfold lastAmount wholeAmount
  generalize (groups.filter fun group => label group = asked) = under
  cases under using List.reverseRecOn with
  | nil | append_singleton => simp

theorem lastAmount_pos_iff (positive : ∀ group ∈ groups, 0 < amount group) (asked : Label) :
    0 < lastAmount label amount groups asked ↔ asked ∈ groups.map label := by
  have member : asked ∈ groups.map label ↔
      (groups.filter fun group => label group = asked) ≠ [] := by
    simp [List.filter_eq_nil_iff]
  have positive : ∀ group ∈ groups.filter fun group => label group = asked, 0 < amount group :=
    fun group member => positive group (List.mem_filter.1 member).1
  rw [member]
  unfold lastAmount
  revert positive
  generalize (groups.filter fun group => label group = asked) = under
  intro positive
  cases under using List.reverseRecOn with
  | nil => simp
  | append_singleton under last => simpa using positive last (by simp)

theorem lastAmount_eq_wholeAmount_iff (positive : ∀ group ∈ groups, 0 < amount group)
    (asked : Label) :
    lastAmount label amount groups asked = wholeAmount label amount groups asked ↔
      (groups.map label).count asked ≤ 1 := by
  have counted : (groups.map label).count asked =
      (groups.filter fun group => label group = asked).length := by
    rw [List.count_eq_countP, List.countP_map, ← List.countP_eq_length_filter]
    exact List.countP_congr fun group _ => by simp
  have positive : ∀ group ∈ groups.filter fun group => label group = asked, 0 < amount group :=
    fun group member => positive group (List.mem_filter.1 member).1
  rw [counted]
  unfold lastAmount wholeAmount
  revert positive
  generalize (groups.filter fun group => label group = asked) = under
  intro positive
  cases under using List.reverseRecOn with
  | nil => simp
  | append_singleton under last =>
      cases under with
      | nil => simp
      | cons first rest =>
          have earlier := positive first (by simp)
          rw [List.getLast?_concat, Option.map_some, Option.getD_some]
          simp only [List.cons_append, List.map_cons, List.map_append, List.map_nil, List.sum_cons,
            List.sum_append, List.sum_nil, List.length_cons, List.length_append, List.length_nil]
          omega

theorem sum_lastAmount_le (labels : List Label) :
    (labels.map (lastAmount label amount groups)).sum ≤
      (labels.map (wholeAmount label amount groups)).sum := by
  induction labels with
  | nil => simp
  | cons asked labels ih =>
      have first : lastAmount label amount groups asked ≤ wholeAmount label amount groups asked :=
        lastAmount_le_wholeAmount asked
      rw [List.map_cons, List.map_cons, List.sum_cons, List.sum_cons]
      omega

variable (label groups) in
theorem sum_lastAmount_iff (positive : ∀ group ∈ groups, 0 < amount group) (labels : List Label) :
    (labels.map (lastAmount label amount groups)).sum =
        (labels.map (wholeAmount label amount groups)).sum ↔
      ∀ asked ∈ labels, (groups.map label).count asked ≤ 1 := by
  rw [sum_map_eq_sum_map_iff labels fun asked _ => lastAmount_le_wholeAmount asked]
  exact forall₂_congr fun asked _ => lastAmount_eq_wholeAmount_iff positive asked

variable (label amount) in
theorem sum_wholeAmount {labels : List Label} (distinct : labels.Nodup)
    (covers : ∀ group ∈ groups, label group ∈ labels) :
    (labels.map (wholeAmount label amount groups)).sum = (groups.map amount).sum := by
  induction groups with
  | nil =>
      have nothing : wholeAmount label amount [] = fun _ => 0 := rfl
      simp [nothing]
  | cons group groups ih =>
      have split : wholeAmount label amount (group :: groups) = fun asked =>
          (if asked = label group then amount group else 0) +
            wholeAmount label amount groups asked := by
        funext asked
        by_cases here : label group = asked
        · simp [wholeAmount, here]
        · simp [wholeAmount, here, Ne.symm here]
      have one : (labels.map fun asked => if asked = label group then amount group else 0).sum =
          amount group := by
        rw [List.sum_map_eq_nsmul_single (label group) _ fun other differs _ => if_neg differs,
          List.count_eq_one_of_mem distinct (covers group List.mem_cons_self)]
        simp
      rw [split, List.sum_map_add, one, List.map_cons, List.sum_cons,
        ih fun other member => covers other (List.mem_cons_of_mem _ member)]

end Overwriting

theorem sum_countP {labelOf : Row → Label} {labels : List Label} (distinct : labels.Nodup)
    (rows : List Row) :
    (labels.map fun asked => rows.countP fun row => labelOf row = asked).sum =
      rows.countP fun row => labelOf row ∈ labels := by
  induction labels with
  | nil => simp
  | cons first labels ih =>
      obtain ⟨fresh, rest⟩ := List.nodup_cons.1 distinct
      have apart : (rows.countP fun row => labelOf row = first) +
            (rows.countP fun row => labelOf row ∈ labels) =
          rows.countP fun row => labelOf row ∈ first :: labels := by
        clear ih
        induction rows with
        | nil => rfl
        | cons row rows ih =>
            rw [List.countP_cons, List.countP_cons, List.countP_cons, ← ih]
            by_cases here : labelOf row = first
            · simp [here, fresh]
              omega
            · simp [here]
              omega
      rw [List.map_cons, List.sum_cons, ih rest, apart]

end Labels

theorem sum_take_eq_sum_iff {Item : Type u} {amount : Item → Nat} {items : List Item}
    (emptyLast : items.Pairwise fun first second => amount first = 0 → amount second = 0)
    (limit : Nat) :
    ((items.take limit).map amount).sum = (items.map amount).sum ↔
      (items.filter fun item => 0 < amount item).length ≤ limit := by
  induction items generalizing limit with
  | nil => simp
  | cons item items ih =>
      obtain ⟨after, emptyLast⟩ := List.pairwise_cons.1 emptyLast
      by_cases isEmpty : amount item = 0
      · have nothing : ∀ other ∈ items, amount other = 0 := fun other member =>
          after other member isEmpty
        have noItem : items.filter (fun item => 0 < amount item) = [] := by
          simpa [List.filter_eq_nil_iff] using nothing
        have zeros : ∀ kept : List Item, (∀ other ∈ kept, amount other = 0) →
            (kept.map amount).sum = 0 := by
          intro kept zeros
          exact List.sum_eq_zero (by simpa using zeros)
        rw [zeros _ fun other member => ?_, zeros _ ?_, List.filter_cons, if_neg (by simp [isEmpty]),
          noItem]
        · simp
        · simpa [isEmpty] using nothing
        · rcases List.mem_cons.1 (List.mem_of_mem_take member) with rfl | inRest
          · exact isEmpty
          · exact nothing other inRest
      · have positive : 0 < amount item := Nat.pos_of_ne_zero isEmpty
        cases limit with
        | zero =>
            simp [positive]
            omega
        | succ limit =>
            rw [List.take_succ_cons, List.map_cons, List.map_cons, List.sum_cons, List.sum_cons,
              Nat.add_left_cancel_iff, ih emptyLast limit, List.filter_cons,
              if_pos (by simpa using positive), List.length_cons, Nat.add_le_add_iff_right]

end GroupedRows
