import Mathlib.Data.List.Forall2

/-!
# Trees of conditions

The leaves of a tree are combined by `all` and `any`.  An evaluation goes from left to right,
stops as soon as the result is known, and may fail at a leaf.  If every leaf that it reaches
has the outcome that its meaning says, the evaluation has the truth value of the tree.
-/

namespace ConditionTrees

universe u v

inductive ConditionTree (Leaf : Type u) where
  | leaf (condition : Leaf)
  | all (subs : List (ConditionTree Leaf))
  | any (subs : List (ConditionTree Leaf))

variable {Leaf : Type u} {Error : Type v}

/-! ## The truth value -/

section Meaning

variable (means : Leaf → Bool)

mutual

def ConditionTree.holds : ConditionTree Leaf → Bool
  | .leaf condition => means condition
  | .all subs => allHold subs
  | .any subs => anyHolds subs

def allHold : List (ConditionTree Leaf) → Bool
  | [] => true
  | sub :: subs => sub.holds && allHold subs

def anyHolds : List (ConditionTree Leaf) → Bool
  | [] => false
  | sub :: subs => sub.holds || anyHolds subs

end

variable (proper : Leaf → Prop)

mutual

/-- Every leaf that an evaluation from left to right reaches is a proper one. -/
def ConditionTree.Meets : ConditionTree Leaf → Prop
  | .leaf condition => proper condition
  | .all subs => AllMeet subs
  | .any subs => AnyMeets subs

def AllMeet : List (ConditionTree Leaf) → Prop
  | [] => True
  | sub :: subs => sub.Meets ∧ (sub.holds means = true → AllMeet subs)

def AnyMeets : List (ConditionTree Leaf) → Prop
  | [] => True
  | sub :: subs => sub.Meets ∧ (sub.holds means = false → AnyMeets subs)

end

end Meaning

/-! ## Evaluation -/

/-- The first of the outcomes that is not `true`. -/
def allOf : List (Except Error Bool) → Except Error Bool
  | [] => .ok true
  | .ok true :: outcomes => allOf outcomes
  | outcome :: _ => outcome

/-- The first of the outcomes that is not `false`. -/
def anyOf : List (Except Error Bool) → Except Error Bool
  | [] => .ok false
  | .ok false :: outcomes => anyOf outcomes
  | outcome :: _ => outcome

section Agreement

variable (means : Leaf → Bool) (proper : Leaf → Prop)

/-- The outcome is the truth value of the tree, unless a leaf that is reached is improper. -/
def Agrees (outcome : Except Error Bool) (tree : ConditionTree Leaf) : Prop :=
  tree.Meets means proper → outcome = .ok (tree.holds means)

variable {means proper}

theorem agrees_leaf {outcome : Except Error Bool} {condition : Leaf}
    (agrees : proper condition → outcome = .ok (means condition)) :
    Agrees means proper outcome (.leaf condition) :=
  agrees

theorem agrees_all {outcomes : List (Except Error Bool)} {subs : List (ConditionTree Leaf)}
    (each : List.Forall₂ (Agrees means proper) outcomes subs) :
    Agrees means proper (allOf outcomes) (.all subs) := by
  induction each with
  | nil => exact fun _ => rfl
  | @cons outcome sub outcomes subs first rest ih =>
      intro meets
      obtain ⟨here, later⟩ := meets
      simp only [ConditionTree.holds, allHold, first here]
      cases value : sub.holds means with
      | true => exact ih (later value)
      | false => rfl

theorem agrees_any {outcomes : List (Except Error Bool)} {subs : List (ConditionTree Leaf)}
    (each : List.Forall₂ (Agrees means proper) outcomes subs) :
    Agrees means proper (anyOf outcomes) (.any subs) := by
  induction each with
  | nil => exact fun _ => rfl
  | @cons outcome sub outcomes subs first rest ih =>
      intro meets
      obtain ⟨here, later⟩ := meets
      simp only [ConditionTree.holds, anyHolds, first here]
      cases value : sub.holds means with
      | true => rfl
      | false => exact ih (later value)

end Agreement

end ConditionTrees
