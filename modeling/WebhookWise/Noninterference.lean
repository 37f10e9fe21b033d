import WebhookWise.GuardedRuns

/-!
# Runs of which an observer has a part

An observer owns a part of the state and sees some of the events.  If the others leave its
part alone, and what it sees does to its part what it would do to the part alone, then its
part of a run is a run of its events: nothing else in the run makes a difference.
-/

namespace Noninterference

open GuardedRuns

universe u v

variable {State : Type u} {Event : Type v}

/-- What an event that is admitted does to the part of the observer. -/
structure Isolates (step : State → Event → State) (admitted : State → Event → Prop)
    (part : State → State) (sees : Event → Bool) : Prop where
  hidden : ∀ state event, admitted state event → sees event = false →
    part (step state event) = part state
  seen : ∀ state event, admitted state event → sees event = true →
    part (step state event) = step (part state) event

section Runs

variable {step : State → Event → State} {admitted : State → Event → Prop} {part : State → State}
  {sees : Event → Bool} {start : State}

/-- The part of a run is the run of the events that the part sees. -/
theorem Isolates.part_run (isolates : Isolates step admitted part sees) {events : List Event}
    (along : Along step admitted start events) :
    part (run step start events) = run step (part start) (events.filter sees) := by
  induction events generalizing start with
  | nil => rfl
  | cons event events ih =>
      rw [run_cons, ih along.2]
      cases visible : sees event with
      | true =>
          rw [List.filter_cons_of_pos visible, run_cons, isolates.seen start event along.1 visible]
      | false =>
          rw [List.filter_cons_of_neg (by simp [visible]),
            isolates.hidden start event along.1 visible]

theorem Isolates.part_eq (isolates : Isolates step admitted part sees)
    {first second : List Event} (firstAlong : Along step admitted start first)
    (secondAlong : Along step admitted start second)
    (sameSeen : first.filter sees = second.filter sees) :
    part (run step start first) = part (run step start second) := by
  rw [isolates.part_run firstAlong, isolates.part_run secondAlong, sameSeen]

end Runs

end Noninterference
