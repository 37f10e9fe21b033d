import Mathlib.Data.List.Basic

/-!
# Importing entries one after the other

An import takes the entries of a bundle in order.  Each is refused, creates a row, or
matches a row, which it updates or finds unchanged.  The report counts what happened.
-/

namespace Upserts

universe u v w

/-- What became of one entry. -/
inductive Outcome (Problem : Type u) where
  | created
  | updated
  | unchanged
  | failed (problem : Problem)
deriving DecidableEq

/-- The report on a collection. -/
structure Report (Problem : Type u) where
  created : Nat := 0
  updated : Nat := 0
  unchanged : Nat := 0
  errors : List Problem := []
deriving DecidableEq

variable {State : Type u} {Entry : Type v} {Problem : Type w}

def Report.count (report : Report Problem) : Outcome Problem → Report Problem
  | .created => { report with created := report.created + 1 }
  | .updated => { report with updated := report.updated + 1 }
  | .unchanged => { report with unchanged := report.unchanged + 1 }
  | .failed problem => { report with errors := report.errors ++ [problem] }

def importAll (step : State → Entry → State × Outcome Problem) :
    State → Report Problem → List Entry → State × Report Problem
  | state, report, [] => (state, report)
  | state, report, entry :: entries =>
      importAll step (step state entry).1 (report.count (step state entry).2) entries

def unchangedReport (count : Nat) : Report Problem :=
  { unchanged := count }

variable {step : State → Entry → State × Outcome Problem} {state : State}

theorem unchanged_importAll_le (report : Report Problem) (entries : List Entry) :
    (importAll step state report entries).2.unchanged ≤ report.unchanged + entries.length := by
  induction entries generalizing state report with
  | nil => exact Nat.le_refl _
  | cons entry entries ih =>
      have one : (report.count (step state entry).2).unchanged ≤ report.unchanged + 1 := by
        cases (step state entry).2 <;> simp [Report.count]
      have rest := @ih (step state entry).1 (report.count (step state entry).2)
      rw [importAll, List.length_cons]
      omega

theorem importAll_unchanged_iff
    (keeps : ∀ state entry, (step state entry).2 = .unchanged → (step state entry).1 = state)
    (before : Nat) (entries : List Entry) :
    (importAll step state (unchangedReport before) entries).2 =
        unchangedReport (before + entries.length) ↔
      ∀ entry ∈ entries, (step state entry).2 = .unchanged := by
  induction entries generalizing before with
  | nil => simp [importAll]
  | cons entry entries ih =>
      cases outcome : (step state entry).2 with
      | unchanged =>
          have counted : (unchangedReport before : Report Problem).count .unchanged =
              unchangedReport (before + 1) := rfl
          rw [importAll, outcome, keeps state entry outcome, counted, List.length_cons,
            Nat.add_comm entries.length 1, ← Nat.add_assoc, ih]
          simp [outcome]
      | _ =>
          constructor
          · intro reported
            -- The entry was counted elsewhere, so the unchanged ones are too few.
            have few :
                (importAll step state (unchangedReport before) (entry :: entries)).2.unchanged ≤
                  before + entries.length := by
              rw [importAll, outcome]
              exact unchanged_importAll_le _ entries
            rw [reported, List.length_cons] at few
            change before + (entries.length + 1) ≤ before + entries.length at few
            omega
          · intro every
            have first := every entry (by simp)
            rw [outcome] at first
            cases first

theorem importAll_state
    (keeps : ∀ state entry, (step state entry).2 = .unchanged → (step state entry).1 = state)
    {entries : List Entry} (unchanged : ∀ entry ∈ entries, (step state entry).2 = .unchanged)
    (report : Report Problem) : (importAll step state report entries).1 = state := by
  induction entries generalizing report with
  | nil => rfl
  | cons entry entries ih =>
      rw [importAll, keeps state entry (unchanged entry (by simp))]
      exact ih (fun other member => unchanged other (List.mem_cons_of_mem _ member)) _

/-- An import changes nothing just when it finds each entry unchanged. -/
theorem importAll_eq_unchanged_iff
    (keeps : ∀ state entry, (step state entry).2 = .unchanged → (step state entry).1 = state)
    (entries : List Entry) :
    importAll step state {} entries = (state, unchangedReport entries.length) ↔
      ∀ entry ∈ entries, (step state entry).2 = .unchanged := by
  have reports := @importAll_unchanged_iff _ _ _ step state keeps 0 entries
  rw [Nat.zero_add] at reports
  constructor
  · intro imported
    exact reports.1 (congrArg Prod.snd imported)
  · intro unchanged
    exact Prod.ext (importAll_state keeps unchanged _) (reports.2 unchanged)

theorem importAll_of_adds {Item : Type v} {encode : Item → Entry} {add : State → Item → State}
    {items : List Item}
    (adds : ∀ item ∈ items, ∀ state, (step state (encode item)).1 = add state item)
    (report : Report Problem) :
    (importAll step state report (items.map encode)).1 = items.foldl add state := by
  induction items generalizing state report with
  | nil => rfl
  | cons item items ih =>
      rw [List.map_cons, importAll, List.foldl_cons, adds item (by simp)]
      exact ih (fun other member => adds other (List.mem_cons_of_mem _ member)) _

end Upserts
