import Mathlib.Data.List.Basic

/-!
# Guarded runs of a step function

A transition system is given here by a total step function on states and
events, and a run folds that function over a list of events.  A guard says
which events are admitted in which states; `Along` asks for it at every step of
a run, each time in the state which the run has reached.
-/

namespace GuardedRuns

universe u v w

variable {State : Type u} {Event : Type v}

/-- The state reached from `start` by taking the events in order. -/
def run (step : State → Event → State) (start : State) (events : List Event) : State :=
  events.foldl step start

variable {start : State} {events : List Event} (Invariant : State → Prop)

/-- Every event of the run is admitted in the state the run has reached by then. -/
def Along (step : State → Event → State) (admitted : State → Event → Prop) :
    State → List Event → Prop
  | _, [] => True
  | state, event :: events =>
      admitted state event ∧ Along step admitted (step state event) events

section Runs

variable {step : State → Event → State} {start : State}

@[simp]
theorem run_nil : run step start [] = start :=
  rfl

@[simp]
theorem run_cons (event : Event) (events : List Event) :
    run step start (event :: events) = run step (step start event) events :=
  rfl

theorem run_append (earlier later : List Event) :
    run step start (earlier ++ later) = run step (run step start earlier) later := by
  simp [run, List.foldl_append]

end Runs

section Along

variable {step : State → Event → State} {admitted : State → Event → Prop}

instance decidableAlong [∀ state event, Decidable (admitted state event)] :
    ∀ (start : State) (events : List Event), Decidable (Along step admitted start events)
  | _, [] => isTrue trivial
  | start, event :: events =>
      have := decidableAlong (step start event) events
      inferInstanceAs (Decidable (_ ∧ _))

/-- A guard holds along a run just when it does along both parts. -/
theorem along_append {earlier later : List Event} :
    Along step admitted start (earlier ++ later) ↔
      Along step admitted start earlier ∧
        Along step admitted (run step start earlier) later := by
  induction earlier generalizing start with
  | nil => simp [Along]
  | cons event events ih => simp [Along, ih, and_assoc]

/-- Along a run the guard is asked in the states that the earlier events lead to. -/
theorem along_iff_forall :
    Along step admitted start events ↔ ∀ earlier event later, events = earlier ++ event :: later →
      admitted (run step start earlier) event := by
  constructor
  · rintro along earlier event later rfl
    exact (along_append.1 along).2.1
  · intro every
    induction events generalizing start with
    | nil => trivial
    | cons event events ih =>
        refine ⟨every [] event events rfl, ih ?_⟩
        rintro earlier next later rfl
        exact every (event :: earlier) next later rfl

theorem Along.mono {weaker : State → Event → Prop} (along : Along step admitted start events)
    (weakens : ∀ state event, admitted state event → weaker state event) :
    Along step weaker start events := by
  induction events generalizing start with
  | nil => trivial
  | cons event events ih => exact ⟨weakens _ _ along.1, ih along.2⟩

theorem Along.and_forall {Property : Event → Prop} (along : Along step admitted start events)
    (every : ∀ event ∈ events, Property event) :
    Along step (fun state event => admitted state event ∧ Property event) start events := by
  induction events generalizing start with
  | nil => trivial
  | cons event events ih =>
      exact ⟨⟨along.1, every event (by simp)⟩,
        ih along.2 fun other member => every other (List.mem_cons_of_mem _ member)⟩

theorem along_of_always (always : ∀ state event, admitted state event) :
    Along step admitted start events := by
  induction events generalizing start with
  | nil => trivial
  | cons event events ih => exact ⟨always _ _, ih⟩

theorem along_of_forall {Property : Event → Prop} {start : State} {events : List Event}
    (every : ∀ event ∈ events, Property event) :
    Along step (fun _ event => Property event) start events := by
  induction events generalizing start with
  | nil => trivial
  | cons event events ih =>
      exact ⟨every event (by simp), ih fun other member => every other (List.mem_cons_of_mem _ member)⟩

/-- What every admitted step preserves holds at the end of the run. -/
theorem Along.invariant (along : Along step admitted start events) (initially : Invariant start)
    (preserved : ∀ state event,
      Invariant state → admitted state event → Invariant (step state event)) :
    Invariant (run step start events) := by
  induction events generalizing start with
  | nil => exact initially
  | cons event events ih => exact ih along.2 (preserved _ _ initially along.1)

/-- A guard that follows from an invariant holds along the run. -/
theorem Along.of_invariant {derived : State → Event → Prop}
    (along : Along step admitted start events) (initially : Invariant start)
    (preserved : ∀ state event,
      Invariant state → admitted state event → Invariant (step state event))
    (implies : ∀ state event, Invariant state → admitted state event → derived state event) :
    Along step derived start events := by
  induction events generalizing start with
  | nil => trivial
  | cons event events ih =>
      exact ⟨implies _ _ initially along.1, ih along.2 (preserved _ _ initially along.1)⟩

theorem Along.congr_of_invariant {first second : State → Event → Prop}
    (along : Along step admitted start events) (initially : Invariant start)
    (preserved : ∀ state event,
      Invariant state → admitted state event → Invariant (step state event)) (agree : ∀ state event,
      Invariant state → admitted state event → (first state event ↔ second state event)) :
    Along step first start events ↔ Along step second start events := by
  induction events generalizing start with
  | nil => exact Iff.rfl
  | cons event events ih =>
      exact and_congr (agree _ _ initially along.1)
        (ih along.2 (preserved _ _ initially along.1))

end Along

section Unguarded

variable {step : State → Event → State}

/-- What every step preserves holds after every run. -/
theorem run_invariant (initially : Invariant start)
    (preserved : ∀ state event, Invariant state → Invariant (step state event))
    (events : List Event) : Invariant (run step start events) := by
  induction events generalizing start with
  | nil => exact initially
  | cons event events ih => exact ih (preserved _ _ initially)

theorem run_relates (Relation : State → State → Prop)
    (reflexive : ∀ state, Relation state state)
    (transitive : ∀ first second third,
      Relation first second → Relation second third → Relation first third)
    (respects : ∀ state event, Relation state (step state event))
    (start : State) (events : List Event) :
    Relation start (run step start events) := by
  induction events generalizing start with
  | nil => exact reflexive start
  | cons event events ih => exact transitive _ _ _ (respects start event) (ih (step start event))

theorem along_relates_iff {Relation : State → State → Prop}
    (reflexive : ∀ state, Relation state state) (transitive : ∀ first second third,
      Relation first second → Relation second third → Relation first third) :
    Along step (fun state event => Relation state (step state event)) start events ↔
      ∀ earlier middle later, events = earlier ++ middle ++ later →
        Relation (run step start earlier) (run step start (earlier ++ middle)) := by
  constructor
  · rintro along earlier middle later rfl
    rw [along_append, along_append] at along
    have during := along.1.2
    clear along
    rw [run_append]
    generalize run step start earlier = state at during ⊢
    induction middle generalizing state with
    | nil => exact reflexive state
    | cons event events ih => exact transitive _ _ _ during.1 (ih _ during.2)
  · intro relates
    induction events generalizing start with
    | nil => trivial
    | cons event events ih =>
        refine ⟨relates [] [event] events rfl, ih ?_⟩
        rintro earlier middle later rfl
        exact relates (event :: earlier) middle later rfl

/-- A property holds throughout a run just when each step keeps it. -/
theorem Along.forall_prefix_iff {assumed admitted : State → Event → Prop} {Property : State → Prop}
    (preserved : ∀ state event, Invariant state → Invariant (step state event))
    (kept : ∀ state event, Invariant state → Property state → assumed state event →
      (Property (step state event) ↔ admitted state event))
    (along : Along step assumed start events) (invariant : Invariant start)
    (initially : Property start) :
    (∀ taken, taken <+: events → Property (run step start taken)) ↔
      Along step admitted start events := by
  induction events generalizing start with
  | nil =>
      refine iff_of_true ?_ trivial
      intro taken isPrefix
      rw [List.prefix_nil.1 isPrefix]
      exact initially
  | cons event events ih =>
      have keptHere := kept start event invariant initially along.1
      have ihHere := ih along.2 (preserved start event invariant)
      constructor
      · intro every
        have next : Property (step start event) := every [event] (by simp)
        refine ⟨keptHere.1 next, (ihHere next).1 ?_⟩
        intro taken isPrefix
        exact every (event :: taken) (List.cons_prefix_cons.2 ⟨rfl, isPrefix⟩)
      · rintro ⟨admittedHere, later⟩ taken isPrefix
        have next := keptHere.2 admittedHere
        cases taken with
        | nil => exact initially
        | cons first taken =>
            obtain ⟨rfl, rest⟩ := List.cons_prefix_cons.1 isPrefix
            exact (ihHere next).2 later taken rest

theorem forall_prefix_iff_along {admitted : State → Event → Prop} {Property : State → Prop}
    (preserved : ∀ state event, Invariant state → Invariant (step state event))
    (kept : ∀ state event, Invariant state → Property state →
      (Property (step state event) ↔ admitted state event)) (invariant : Invariant start)
    (initially : Property start) (events : List Event) :
    (∀ taken, taken <+: events → Property (run step start taken)) ↔
      Along step admitted start events := by
  have unassumed : Along step (fun _ _ => True) start events :=
    along_of_always fun _ _ => trivial
  apply unassumed.forall_prefix_iff Invariant preserved _ invariant initially
  intro state event invariant property _
  exact kept state event invariant property

end Unguarded

section Simulation

variable {Abstract : Type w} {step : State → Event → State}
  {abstractStep : Abstract → Event → Abstract} {admitted : State → Event → Prop}
  {allowed : Abstract → Event → Prop}

/-- Guards that agree on related states agree along related runs. -/
theorem along_iff_of_simulation (Related : State → Abstract → Prop)
    (sameGuard : ∀ state abstract event, Related state abstract →
      (admitted state event ↔ allowed abstract event))
    (preserved : ∀ state abstract event, Related state abstract →
      Related (step state event) (abstractStep abstract event)) {abstractStart : Abstract}
    (initially : Related start abstractStart) (events : List Event) :
    Along step admitted start events ↔ Along abstractStep allowed abstractStart events := by
  induction events generalizing start abstractStart with
  | nil => exact Iff.rfl
  | cons event events ih =>
      exact and_congr (sameGuard _ _ event initially) (ih (preserved _ _ event initially))

end Simulation

end GuardedRuns
