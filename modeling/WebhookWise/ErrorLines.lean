import WebhookWise.PayloadSanitizer
import Mathlib.Data.List.Infix
import Mathlib.Data.List.TakeWhile

/-!
# Error lines that a shortened string keeps

A string that is too long keeps its head, its tail, and the lines in between that look like
errors.  Whether a line is in between goes by where it begins.  A line that begins in the head and
runs past its end is cut there, and is not looked at again.
-/

namespace WebhookWise

namespace ErrorLines

open PayloadSanitizer

/-- The error lines that `_summarize_large_string` extracts. -/
def errorLines (runtime : SanitizerRuntime) (characters : List Char) : List String :=
  collectErrorLines runtime characters.length (splitLinesKeepEnds characters) 0 []

/-- A line of a string, and where it begins. -/
structure PlacedLine where
  start : Nat
  text : List Char

def placed : Nat → List (List Char) → List PlacedLine
  | _, [] => []
  | position, line :: lines => ⟨position, line⟩ :: placed (position + line.length) lines

def linesOf (value : List Char) : List PlacedLine :=
  placed 0 (splitLinesKeepEnds value)

namespace PlacedLine

variable (line : PlacedLine)

/-- Where the text of the line ends, not counting what ends the line. -/
def stop : Nat :=
  line.start + (line.text.takeWhile fun character => !isLineBreak character).length

/-- `line.strip()`. -/
def stripped : String :=
  strip (String.ofList line.text)

/-- The line begins in the head or in the tail of a string of a given length. -/
def BeginsShown (length : Nat) : Prop :=
  line.start < stringHeadChars ∨
    stringHeadChars + stringTailChars < length ∧ length - stringTailChars ≤ line.start

/-- The line lies wholly inside the head or the tail that are kept. -/
def IsShown (length : Nat) : Prop :=
  line.stop ≤ stringHeadChars ∨
    stringHeadChars + stringTailChars < length ∧ length - stringTailChars ≤ line.start

/-- The line begins in the head and runs past its end. -/
def Straddles : Prop :=
  line.start < stringHeadChars ∧ stringHeadChars < line.stop

instance (length : Nat) : Decidable (line.BeginsShown length) :=
  inferInstanceAs (Decidable (_ ∨ _))

instance (length : Nat) : Decidable (line.IsShown length) :=
  inferInstanceAs (Decidable (_ ∨ _))

instance : Decidable line.Straddles :=
  inferInstanceAs (Decidable (_ ∧ _))

variable (runtime : SanitizerRuntime)

/-- The line contains an error keyword, in whatever case. -/
def LooksLikeError : Prop :=
  (errorKeywords.any fun keyword =>
    occursIn keyword.toList (runtime.lower (String.ofList line.text)).toList) = true

instance : Decidable (line.LooksLikeError runtime) :=
  inferInstanceAs (Decidable (_ = _))

/-- The line is one for the extracted lines of a string of a given length. -/
def Qualifies (length : Nat) : Prop :=
  ¬ line.BeginsShown length ∧ line.LooksLikeError runtime

instance (length : Nat) : Decidable (line.Qualifies runtime length) :=
  inferInstanceAs (Decidable (_ ∧ _))

end PlacedLine

section Collecting

variable {runtime : SanitizerRuntime} {length : Nat}

theorem collectErrorLines_cons (line : List Char) (lines : List (List Char)) (position : Nat)
    (found : List String) :
    collectErrorLines runtime length (line :: lines) position found =
      if (⟨position, line⟩ : PlacedLine).BeginsShown length then
        collectErrorLines runtime length lines (position + line.length) found
      else if (⟨position, line⟩ : PlacedLine).LooksLikeError runtime then
        if maxErrorLines ≤ (found ++ [strip (String.ofList line)]).length then
          found ++ [strip (String.ofList line)]
        else
          collectErrorLines runtime length lines (position + line.length)
            (found ++ [strip (String.ofList line)])
      else collectErrorLines runtime length lines (position + line.length) found :=
  rfl

theorem collectErrorLines_eq (lines : List (List Char)) (position : Nat) (found : List String)
    (room : found.length < maxErrorLines) :
    collectErrorLines runtime length lines position found =
      found ++ (((placed position lines).filter fun line => line.Qualifies runtime length).take
        (maxErrorLines - found.length)).map PlacedLine.stripped := by
  induction lines generalizing position found with
  | nil => simp [collectErrorLines, placed]
  | cons text lines ih =>
      let line : PlacedLine := ⟨position, text⟩
      rw [placed, List.filter_cons, collectErrorLines_cons]
      by_cases qualifies : line.Qualifies runtime length
      · obtain ⟨left, more⟩ : ∃ left, maxErrorLines - found.length = left + 1 :=
          Nat.exists_eq_add_one.2 (Nat.sub_pos_of_lt room)
        rw [if_neg qualifies.1, if_pos qualifies.2, if_pos (decide_eq_true qualifies), more,
          List.take_succ_cons, List.map_cons]
        have longer : (found ++ [strip (String.ofList text)]).length = found.length + 1 := by
          rw [List.length_append, List.length_singleton]
        rw [longer]
        by_cases full : maxErrorLines ≤ found.length + 1
        · obtain rfl : left = 0 := by omega
          rw [if_pos full]
          rfl
        · rw [if_neg full, ih _ _ (by rw [longer]; exact Nat.lt_of_not_le full), longer,
            List.append_assoc, show maxErrorLines - (found.length + 1) = left by omega]
          rfl
      · rw [if_neg (show ¬ decide (line.Qualifies runtime length) = true by simpa using qualifies)]
        by_cases shown : line.BeginsShown length
        · rw [if_pos shown]
          exact ih _ _ room
        · rw [if_neg shown, if_neg fun looks => qualifies ⟨shown, looks⟩]
          exact ih _ _ room

variable {value : List Char}

theorem errorLines_eq :
    errorLines runtime value = (((linesOf value).filter fun line =>
      line.Qualifies runtime value.length).take maxErrorLines).map PlacedLine.stripped :=
  collectErrorLines_eq _ _ _ (by decide)

theorem mem_errorLines_iff {text : String}
    (few : (linesOf value).countP (fun line => line.Qualifies runtime value.length) <
      maxErrorLines) :
    text ∈ errorLines runtime value ↔
      ∃ line ∈ linesOf value, line.Qualifies runtime value.length ∧ line.stripped = text := by
  rw [List.countP_eq_length_filter] at few
  rw [errorLines_eq, List.take_of_length_le few.le, List.mem_map]
  simp only [List.mem_filter, decide_eq_true_eq, and_assoc]

theorem isShown_or_straddles {line : PlacedLine} {length : Nat}
    (shown : line.BeginsShown length) : line.IsShown length ∨ line.Straddles := by
  rcases shown with inHead | inTail
  · by_cases fits : line.stop ≤ stringHeadChars
    · exact Or.inl (Or.inl fits)
    · exact Or.inr ⟨inHead, Nat.lt_of_not_le fits⟩
  · exact Or.inl (Or.inr inTail)

theorem not_isShown_of_straddles {line : PlacedLine} {length : Nat}
    (straddles : line.Straddles) : ¬ line.IsShown length := by
  obtain ⟨begins, ends⟩ := straddles
  rintro (inHead | ⟨long, inTail⟩)
  · omega
  · omega

end Collecting

/-- With fewer error lines in between than the cap, every error line is kept just where those that
run past the end of the head stand once more in between. -/
theorem error_lines_kept_iff (runtime : SanitizerRuntime) (value : String)
    (few : (linesOf value.toList).countP
      (fun line => line.Qualifies runtime value.toList.length) < maxErrorLines) :
    (∀ line ∈ linesOf value.toList, line.LooksLikeError runtime →
        line.stripped ∈ errorLines runtime value.toList ∨ line.IsShown value.toList.length) ↔
      ∀ line ∈ linesOf value.toList, line.LooksLikeError runtime → line.Straddles →
        ∃ other ∈ linesOf value.toList,
          other.Qualifies runtime value.toList.length ∧ other.stripped = line.stripped := by
  constructor
  · intro kept line member looks straddles
    rcases kept line member looks with extracted | shown
    · exact (mem_errorLines_iff few).1 extracted
    · exact absurd shown (not_isShown_of_straddles straddles)
  · intro repeated line member looks
    by_cases begins : line.BeginsShown value.toList.length
    · rcases isShown_or_straddles begins with shown | straddles
      · exact Or.inr shown
      · exact Or.inl ((mem_errorLines_iff few).2 (repeated line member looks straddles))
    · exact Or.inl ((mem_errorLines_iff few).2 ⟨line, member, ⟨begins, looks⟩, rfl⟩)

/-! ## An error at the end of the head -/

def plainRuntime : SanitizerRuntime :=
  { PythonRuntime.plain with dumpsSize := fun _ => none }

/-- Sixty lines in the head, an error after it, and fifty lines more. -/
def longLog : List Char :=
  (List.replicate 60 "request 1\n".toList).flatten ++ "disk error\n".toList ++
    (List.replicate 50 "request 2\n".toList).flatten

/-- The error line stands in the middle, which is cut out, and is extracted. -/
theorem middle_error_kept :
    (∃ line ∈ linesOf longLog, line.stripped = "disk error" ∧ ¬ line.IsShown longLog.length) ∧
      ∀ line ∈ linesOf (String.ofList longLog).toList, line.LooksLikeError plainRuntime →
        line.stripped ∈ errorLines plainRuntime (String.ofList longLog).toList ∨
          line.IsShown (String.ofList longLog).toList.length := by
  have inOrder : (linesOf longLog).all (fun line => !decide line.Straddles) = true := by
    decide +kernel
  have fewBetween : ((linesOf longLog).countP fun line =>
      !decide (line.BeginsShown longLog.length)) < maxErrorLines := by
    decide +kernel
  refine ⟨by decide +kernel, (error_lines_kept_iff plainRuntime (String.ofList longLog) ?_).2 ?_⟩
  · rw [String.toList_ofList]
    refine (List.countP_mono_left fun line _ qualifies => ?_).trans_lt fewBetween
    simpa using (of_decide_eq_true qualifies).1
  · rw [String.toList_ofList]
    intro line member _ straddles
    have clear := List.all_eq_true.1 inOrder line member
    simp [straddles] at clear

def straddlingLog : List Char :=
  List.replicate 600 'a' ++ " disk error".toList

theorem splitLinesKeepEnds_of_plain {text : List Char} (nonempty : text ≠ [])
    (plain : ∀ character ∈ text, isLineBreak character = false) :
    splitLinesKeepEnds text = [text] := by
  induction text with
  | nil => exact absurd rfl nonempty
  | cons character text ih =>
      have here := plain character List.mem_cons_self
      have noReturn : ∀ others, character = '\r' → text = '\n' :: others → False := by
        rintro others rfl -
        exact absurd here (by decide)
      rw [splitLinesKeepEnds.eq_3 character text noReturn, if_neg (by rw [here]; decide)]
      cases text with
      | nil => rfl
      | cons next text =>
          rw [ih (List.cons_ne_nil next text) fun other member =>
            plain other (List.mem_cons_of_mem character member)]

private theorem straddlingLog_ne_nil : straddlingLog ≠ [] :=
  List.append_ne_nil_of_right_ne_nil _ (by decide)

private theorem straddlingLog_plain :
    ∀ character ∈ straddlingLog, isLineBreak character = false := by
  intro character member
  rcases List.mem_append.1 member with filler | message
  · obtain rfl := List.eq_of_mem_replicate filler
    decide
  · have everywhere :
        " disk error".toList.all (fun character => !isLineBreak character) = true := by
      decide
    simpa using List.all_eq_true.1 everywhere character message

private theorem linesOf_straddlingLog : linesOf straddlingLog = [⟨0, straddlingLog⟩] := by
  rw [linesOf, splitLinesKeepEnds_of_plain straddlingLog_ne_nil straddlingLog_plain]
  rfl

private theorem straddlingLog_looksLikeError :
    (⟨0, straddlingLog⟩ : PlacedLine).LooksLikeError plainRuntime := by
  have lowered : (plainRuntime.lower (String.ofList straddlingLog)).toList =
      List.replicate 600 'a' ++ " disk ".toList ++ "error".toList := by
    change (String.ofList ((String.ofList straddlingLog).toList.map Char.toLower)).toList = _
    rw [String.toList_ofList, String.toList_ofList, straddlingLog, List.map_append,
      List.map_replicate, List.append_assoc]
    rfl
  unfold PlacedLine.LooksLikeError
  rw [List.any_eq_true]
  refine ⟨"error", List.mem_cons_self, ?_⟩
  rw [lowered, occursIn, List.any_eq_true]
  exact ⟨"error".toList, (List.mem_tails _ _).2 (List.suffix_append _ _), by decide⟩

/-- A line that is cut at the end of the head loses its error. -/
theorem straddling_error_lost :
    ¬ ∀ value : String, (linesOf value.toList).countP
        (fun line => line.Qualifies plainRuntime value.toList.length) < maxErrorLines →
      ∀ line ∈ linesOf value.toList, line.LooksLikeError plainRuntime →
        line.stripped ∈ errorLines plainRuntime value.toList ∨
          line.IsShown value.toList.length := by
  intro kept
  have kept := kept (String.ofList straddlingLog)
  rw [String.toList_ofList, linesOf_straddlingLog] at kept
  have begins : (⟨0, straddlingLog⟩ : PlacedLine).BeginsShown straddlingLog.length :=
    Or.inl (by decide)
  have none : errorLines plainRuntime straddlingLog = [] := by
    rw [errorLines, splitLinesKeepEnds_of_plain straddlingLog_ne_nil straddlingLog_plain,
      collectErrorLines_cons, if_pos begins]
    rfl
  have few : [(⟨0, straddlingLog⟩ : PlacedLine)].countP
      (fun line => line.Qualifies plainRuntime straddlingLog.length) < maxErrorLines := by
    rw [List.countP_singleton, if_neg fun counted => (of_decide_eq_true counted).1 begins]
    decide
  rcases kept few _ List.mem_cons_self straddlingLog_looksLikeError with extracted | shown
  · rw [none] at extracted
    exact List.not_mem_nil extracted
  · have length : straddlingLog.length = 611 := by
      rw [straddlingLog, List.length_append, List.length_replicate]
      rfl
    have all : straddlingLog.takeWhile (fun character => !isLineBreak character) =
        straddlingLog := by
      rw [List.takeWhile_eq_self_iff]
      intro character member
      rw [straddlingLog_plain character member]
      rfl
    simp only [PlacedLine.IsShown, PlacedLine.stop, all, length, stringHeadChars,
      stringTailChars] at shown
    omega

end ErrorLines

end WebhookWise
