import Mathlib.Logic.Basic

/-!
# Loops that work through a backlog in rounds

A round takes up to a limit of items off a backlog, and may fail.  The loop goes on while the
rounds are full.  It ends, because a full round makes the backlog shorter; what every round
relates, the loop relates; and the last round was not full.
-/

namespace DrainingLoops

universe u v

variable {State : Type u} {Failure : Type v}

/-- Repeat a round, which also tells how many items it took, until it takes fewer than the
limit.  The outcome is unknown when the rounds run out. -/
def drain (round : State → Except Failure (State × Nat)) (limit : Nat) :
    Nat → State → Option (Except Failure State)
  | 0, _ => none
  | rounds + 1, start =>
      match round start with
      | .error failure => some (.error failure)
      | .ok (next, taken) =>
          if taken < limit then some (.ok next) else drain round limit rounds next

variable {round : State → Except Failure (State × Nat)} {limit : Nat}

section Steps

variable {start next : State} {taken : Nat}

theorem drain_of_error {failure : Failure} (failed : round start = .error failure)
    (rounds : Nat) : drain round limit (rounds + 1) start = some (.error failure) := by
  rw [drain, failed]

theorem drain_of_lt (took : round start = .ok (next, taken)) (last : taken < limit)
    (rounds : Nat) : drain round limit (rounds + 1) start = some (.ok next) := by
  rw [drain, took]
  exact if_pos last

theorem drain_of_le (took : round start = .ok (next, taken)) (full : limit ≤ taken)
    (rounds : Nat) :
    drain round limit (rounds + 1) start = drain round limit rounds next := by
  rw [drain, took]
  exact if_neg (Nat.not_lt.2 full)

end Steps

/-- A loop whose full rounds make the rest smaller comes to an end. -/
theorem exists_drain (size : State → Nat) (positive : 0 < limit)
    (shortens : ∀ start next taken, round start = .ok (next, taken) →
      size next + taken ≤ size start) (start : State) :
    ∃ rounds outcome, drain round limit rounds start = some outcome := by
  have ends : ∀ bound start, size start ≤ bound →
      ∃ outcome, drain round limit (bound + 1) start = some outcome := by
    intro bound
    induction bound with
    | zero =>
        intro start small
        cases took : round start with
        | error failure => exact ⟨_, drain_of_error took 0⟩
        | ok result =>
            have shorter := shortens start result.1 result.2 took
            exact ⟨_, drain_of_lt took (by omega) 0⟩
    | succ bound ih =>
        intro start small
        cases took : round start with
        | error failure => exact ⟨_, drain_of_error took (bound + 1)⟩
        | ok result =>
            have shorter := shortens start result.1 result.2 took
            rcases Nat.lt_or_ge result.2 limit with last | full
            · exact ⟨_, drain_of_lt took last (bound + 1)⟩
            · obtain ⟨outcome, ended⟩ := ih result.1 (by omega)
              exact ⟨outcome, (drain_of_le took full (bound + 1)).trans ended⟩
  obtain ⟨outcome, ended⟩ := ends (size start) start (Nat.le_refl _)
  exact ⟨size start + 1, outcome, ended⟩

theorem exists_last_round {Relation : State → State → Prop}
    (reflexive : ∀ state, Relation state state)
    (transitive : ∀ {first second third}, Relation first second → Relation second third →
      Relation first third)
    (relates : ∀ start next taken, round start = .ok (next, taken) → Relation start next)
    {rounds : Nat} {start final : State}
    (drained : drain round limit rounds start = some (.ok final)) :
    ∃ last taken, Relation start last ∧ round last = .ok (final, taken) ∧ taken < limit := by
  induction rounds generalizing start with
  | zero => cases drained
  | succ rounds ih =>
      cases took : round start with
      | error failure =>
          rw [drain_of_error took] at drained
          cases drained
      | ok result =>
          rcases Nat.lt_or_ge result.2 limit with last | full
          · rw [drain_of_lt took last] at drained
            obtain rfl := Except.ok.inj (Option.some.inj drained)
            exact ⟨start, result.2, reflexive start, took, last⟩
          · rw [drain_of_le took full] at drained
            obtain ⟨last, taken, related, lastTook, few⟩ := ih drained
            exact ⟨last, taken, transitive (relates start result.1 result.2 took) related, lastTook,
              few⟩

theorem exists_ok_of_drain {Invariant : State → Prop}
    (succeeds : ∀ start, Invariant start →
      ∃ next taken, round start = .ok (next, taken) ∧ Invariant next)
    {rounds : Nat} {start : State} {outcome : Except Failure State} (initial : Invariant start)
    (drained : drain round limit rounds start = some outcome) :
    ∃ final, outcome = .ok final := by
  induction rounds generalizing start with
  | zero => cases drained
  | succ rounds ih =>
      obtain ⟨next, taken, took, kept⟩ := succeeds start initial
      rcases Nat.lt_or_ge taken limit with last | full
      · rw [drain_of_lt took last] at drained
        exact ⟨next, (Option.some.inj drained).symm⟩
      · rw [drain_of_le took full] at drained
        exact ih kept drained

end DrainingLoops
