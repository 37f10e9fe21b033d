import Mathlib.Data.List.Basic

/-!
# Undo stacks

A history is a current value and the values it had before.  Recording a value that is the
current one leaves the history alone, any other value pushes the current one; stepping
back pops.  As many steps back as values took effect lead back to where the recording
began.
-/

namespace UndoStacks

universe u

/-- A current value, and the values before it, the latest first. -/
structure History (Value : Type u) where
  current : Value
  past : List Value

namespace History

variable {Value : Type u}

def back : History Value → Option (History Value)
  | ⟨_, []⟩ => none
  | ⟨_, value :: past⟩ => some ⟨value, past⟩

def backTimes : Nat → History Value → Option (History Value)
  | 0, history => some history
  | count + 1, history => history.back.bind (backTimes count)

theorem backTimes_succ (count : Nat) (history : History Value) :
    backTimes (count + 1) history = (backTimes count history).bind back := by
  induction count generalizing history with
  | zero => cases stepped : history.back <;> simp [backTimes, stepped]
  | succ count ih =>
      rw [backTimes]
      cases stepped : history.back with
      | none => simp [backTimes, stepped]
      | some earlier =>
          rw [Option.bind_some, ih earlier]
          simp [backTimes, stepped]

section Record

variable [DecidableEq Value]

def record (history : History Value) (value : Value) : History Value :=
  if value = history.current then history else ⟨value, history.current :: history.past⟩

@[simp]
theorem record_current (history : History Value) (value : Value) :
    (history.record value).current = value := by
  unfold record
  split
  · rename_i same
    exact same.symm
  · rfl

/-- How many of the values, taken in order, differ from the one before. -/
def effective (history : History Value) : List Value → Nat
  | [] => 0
  | value :: values =>
      effective (history.record value) values + if value = history.current then 0 else 1

theorem back_record_of_ne {history : History Value} {value : Value}
    (other : value ≠ history.current) :
    (history.record value).back = some history := by
  rw [record, if_neg other]
  rfl

/-- As many steps back as values took effect lead to where they began. -/
theorem backTimes_effective (history : History Value) (values : List Value) :
    backTimes (history.effective values) (values.foldl record history) = some history := by
  induction values generalizing history with
  | nil => rfl
  | cons value values ih =>
      rw [List.foldl_cons, effective]
      by_cases same : value = history.current
      · rw [if_pos same, Nat.add_zero, ih, record, if_pos same]
      · rw [if_neg same, backTimes_succ, ih, Option.bind_some, back_record_of_ne same]

end Record

end History

end UndoStacks
