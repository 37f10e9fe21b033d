import Mathlib.Logic.Basic

/-!
# Programs that hide a part of their input

Two inputs are alike if they differ at most in what has to stay hidden.  A program hides that
part if it answers alike inputs with the same output.  A stage that keeps inputs alike may run
before a program that hides; whatever runs after one sees nothing hidden.
-/

namespace InformationFlow

universe u v w

variable {Input : Type u} {Middle : Type v} {Output : Type w}

/-- Inputs that differ in nothing but the hidden part have the same output. -/
def Hides (Alike : Input → Input → Prop) (program : Input → Output) : Prop :=
  ∀ first second, Alike first second → program first = program second

/-- The results of alike inputs are alike in their turn. -/
def Keeps (Alike : Input → Input → Prop) (AlikeAfter : Middle → Middle → Prop)
    (stage : Input → Middle) : Prop :=
  ∀ first second, Alike first second → AlikeAfter (stage first) (stage second)

section Rules

variable {Alike : Input → Input → Prop} {AlikeAfter : Middle → Middle → Prop}

theorem Hides.followedBy {program : Input → Middle} (hides : Hides Alike program)
    (later : Middle → Output) : Hides Alike fun input => later (program input) :=
  fun first second alike => congrArg later (hides first second alike)

/-- What a later stage hides stays hidden behind one that keeps alike inputs alike. -/
theorem Hides.after {stage : Input → Middle} {program : Middle → Output}
    (hides : Hides AlikeAfter program) (keeps : Keeps Alike AlikeAfter stage) :
    Hides Alike fun input => program (stage input) :=
  fun first second alike => hides _ _ (keeps first second alike)

end Rules

end InformationFlow
