import Mathlib.Logic.Relation
import Mathlib.Data.List.Basic

/-!
# References to earlier entries of a log

The entries of a log are appended one after the other and never move.  Where every entry refers
at most to one that was appended before it, its position gets smaller with every reference that
is followed.  So references never come back to where they started, and following them ends.
-/

namespace CommitOrders

universe u

variable {Id : Type u}

def RefersTo (reference : Id → Option Id) (id earlier : Id) : Prop :=
  reference id = some earlier

variable [DecidableEq Id]

/-- Every reference is from an entry of the log to one that stands before it. -/
def PointsBack (log : List Id) (reference : Id → Option Id) : Prop :=
  ∀ id earlier, reference id = some earlier →
    id ∈ log ∧ earlier ∈ log ∧ log.idxOf earlier < log.idxOf id

variable {log : List Id} {reference later : Id → Option Id}

theorem pointsBack_nil (free : ∀ id, reference id = none) : PointsBack log reference := by
  intro id earlier refers
  rw [free id] at refers
  cases refers

theorem PointsBack.congr (pointsBack : PointsBack log reference)
    (same : ∀ id, later id = reference id) : PointsBack log later := by
  intro id earlier refers
  exact pointsBack id earlier ((same id).symm.trans refers)

/-- A new entry of the log may point to what is in the log already. -/
theorem PointsBack.append (pointsBack : PointsBack log reference) {fresh : Id}
    (absent : fresh ∉ log) (same : ∀ id, id ≠ fresh → later id = reference id)
    (back : ∀ earlier, later fresh = some earlier → earlier ∈ log) :
    PointsBack (log ++ [fresh]) later := by
  intro id earlier refers
  by_cases isFresh : id = fresh
  · subst isFresh
    have member := back earlier refers
    refine ⟨by simp, List.mem_append_left _ member, ?_⟩
    rw [List.idxOf_append_of_mem member, List.idxOf_append_of_notMem absent]
    have inside := List.idxOf_lt_length_of_mem member
    omega
  · obtain ⟨logged, earlierLogged, before⟩ :=
      pointsBack id earlier ((same id isFresh).symm.trans refers)
    refine ⟨List.mem_append_left _ logged, List.mem_append_left _ earlierLogged, ?_⟩
    rw [List.idxOf_append_of_mem logged, List.idxOf_append_of_mem earlierLogged]
    exact before

theorem PointsBack.idxOf_lt (pointsBack : PointsBack log reference) {id earlier : Id}
    (path : Relation.TransGen (RefersTo reference) id earlier) :
    log.idxOf earlier < log.idxOf id := by
  induction path with
  | single refers => exact (pointsBack _ _ refers).2.2
  | tail _ refers ih => exact Nat.lt_trans (pointsBack _ _ refers).2.2 ih

/-- References that point back have no cycle. -/
theorem PointsBack.acyclic (pointsBack : PointsBack log reference) (id : Id) :
    ¬ Relation.TransGen (RefersTo reference) id id :=
  fun path => Nat.lt_irrefl _ (pointsBack.idxOf_lt path)

theorem PointsBack.exists_end (pointsBack : PointsBack log reference) {id : Id}
    (logged : id ∈ log) :
    ∃ last ∈ log, reference last = none ∧
      Relation.ReflTransGen (RefersTo reference) id last := by
  induction position : log.idxOf id using Nat.strongRecOn generalizing id with
  | ind position ih =>
      cases refers : reference id with
      | none => exact ⟨id, logged, refers, .refl⟩
      | some earlier =>
          obtain ⟨_, earlierLogged, before⟩ := pointsBack id earlier refers
          obtain ⟨last, lastLogged, free, path⟩ :=
            ih (log.idxOf earlier) (by omega) earlierLogged rfl
          exact ⟨last, lastLogged, free, .head refers path⟩

end CommitOrders
