import Mathlib.Data.List.Basic

/-!
# Scanning a text and rewriting the matches of a pattern

A scan walks through a text from left to right and tries a pattern at every
position that is not inside an earlier match.  It cuts the text into pieces: the
symbols it passed over and the matches it made.  Rewriting replaces the matches,
in order, and may keep a state between them.
-/

namespace TextRewriting

universe u v

variable {Symbol : Type u}

/-- A stretch of a scanned text: one symbol that was passed over, or one match,
which is not empty. -/
inductive Piece (Symbol : Type u) where
  | passed (symbol : Symbol)
  | matched (first : Symbol) (rest : List Symbol)

def Piece.text : Piece Symbol → List Symbol
  | passed symbol => [symbol]
  | matched first rest => first :: rest

/-- The length of the match at a position, if there is one, given what stands
before the position, from there backwards, and what follows. -/
abbrev Matcher (Symbol : Type u) := List Symbol → List Symbol → Option Nat

/-- The pieces of a text, the first `skip` symbols of which belong to a match that
was made already.  A match of length zero is no match. -/
def scan (matcher : Matcher Symbol) : List Symbol → Nat → List Symbol → List (Piece Symbol)
  | _, _, [] => []
  | before, skip + 1, symbol :: after => scan matcher (symbol :: before) skip after
  | before, 0, symbol :: after =>
      match matcher before (symbol :: after) with
      | some (length + 1) =>
          .matched symbol (after.take length) :: scan matcher (symbol :: before) length after
      | _ => .passed symbol :: scan matcher (symbol :: before) 0 after

def rewrite {State : Type v} (replace : State → List Symbol → List Symbol × State) :
    State → List (Piece Symbol) → List Symbol × State
  | state, [] => ([], state)
  | state, .passed symbol :: pieces =>
      let (text, final) := rewrite replace state pieces
      (symbol :: text, final)
  | state, .matched first rest :: pieces =>
      let (replacement, next) := replace state (first :: rest)
      let (text, final) := rewrite replace next pieces
      (replacement ++ text, final)

def release (leaves : List Symbol → Bool) (pieces : List (Piece Symbol)) : List (Piece Symbol) :=
  pieces.flatMap fun piece =>
    match piece with
    | .passed symbol => [.passed symbol]
    | .matched first rest =>
        if leaves (first :: rest) then (first :: rest).map .passed else [.matched first rest]

section Rewrite

variable {State : Type v} {replace : State → List Symbol → List Symbol × State}

theorem rewrite_passed_append (state : State) (text : List Symbol) (pieces : List (Piece Symbol)) :
    rewrite replace state (text.map .passed ++ pieces) =
      (text ++ (rewrite replace state pieces).1, (rewrite replace state pieces).2) := by
  induction text with
  | nil => rfl
  | cons symbol text ih =>
      simp only [List.map_cons, List.cons_append, rewrite]
      rw [ih]

theorem rewrite_release (leaves : List Symbol → Bool) (state : State)
    (pieces : List (Piece Symbol)) :
    rewrite (fun state found => if leaves found then (found, state) else replace state found)
        state pieces =
      rewrite replace state (release leaves pieces) := by
  induction pieces generalizing state with
  | nil => rfl
  | cons piece pieces ih =>
      simp only [release, List.flatMap_cons] at ih ⊢
      cases piece with
      | passed symbol =>
          simp only [List.singleton_append, rewrite]
          rw [ih]
      | matched first rest =>
          simp only [rewrite]
          split
          · rw [rewrite_passed_append, ih]
          · simp only [List.singleton_append, rewrite]
            rw [ih]

theorem flatMap_text_release (leaves : List Symbol → Bool) (pieces : List (Piece Symbol)) :
    (release leaves pieces).flatMap Piece.text = pieces.flatMap Piece.text := by
  induction pieces with
  | nil => rfl
  | cons piece pieces ih =>
      simp only [release, List.flatMap_cons, List.flatMap_append] at ih ⊢
      rw [ih]
      congr 1
      cases piece with
      | passed symbol => simp
      | matched first rest =>
          simp only
          split
          · simp [Piece.text, List.flatMap_map]
          · simp

theorem prefix_of_prefix_rewrite {Kind : Symbol → Prop} {stretch : List Symbol}
    (all : ∀ symbol ∈ stretch, Kind symbol) (state : State) (pieces : List (Piece Symbol))
    (begins : ∀ state found, ∃ first ∈ (replace state found).1.head?, ¬ Kind first)
    (starts : stretch <+: (rewrite replace state pieces).1) :
    stretch <+: pieces.flatMap Piece.text := by
  induction pieces generalizing state stretch with
  | nil => simpa [rewrite] using starts
  | cons piece pieces ih =>
      cases stretch with
      | nil => exact List.nil_prefix
      | cons symbol stretch =>
          cases piece with
          | passed first =>
              simp only [rewrite, List.cons_prefix_cons] at starts
              have rest := ih (fun next member => all next (by simp [member])) state starts.2
              simpa [Piece.text, starts.1] using rest
          | matched first rest =>
              obtain ⟨head, isHead, other⟩ := begins state (first :: rest)
              obtain ⟨tail, replacement⟩ := List.head?_eq_some_iff.1 isHead
              simp only [rewrite, replacement, List.cons_append, List.cons_prefix_cons] at starts
              have isKind := all symbol (by simp)
              rw [starts.1] at isKind
              exact absurd isKind other

theorem infix_of_infix_rewrite {Kind : Symbol → Prop} {stretch : List Symbol}
    (all : ∀ symbol ∈ stretch, Kind symbol) (state : State) (pieces : List (Piece Symbol))
    (nonempty : ∀ state found, (replace state found).1 ≠ [])
    (others : ∀ state found, ∀ symbol ∈ (replace state found).1, ¬ Kind symbol)
    (within : stretch <:+: (rewrite replace state pieces).1) :
    stretch <:+: pieces.flatMap Piece.text := by
  have begins : ∀ state found, ∃ first ∈ (replace state found).1.head?, ¬ Kind first := by
    intro state found
    obtain ⟨first, rest, replacement⟩ := List.exists_cons_of_ne_nil (nonempty state found)
    exact ⟨first, by simp [replacement], others state found first (by simp [replacement])⟩
  induction pieces generalizing state with
  | nil => simpa [rewrite] using within
  | cons piece pieces ih =>
      cases piece with
      | passed first =>
          simp only [rewrite] at within
          rcases List.infix_cons_iff.1 within with starts | within
          · have front := prefix_of_prefix_rewrite all state (.passed first :: pieces) begins starts
            exact front.isInfix
          · exact (ih state within).trans (List.suffix_append _ _).isInfix
      | matched first rest =>
          have later := (List.suffix_append (first :: rest) (pieces.flatMap Piece.text)).isInfix
          simp only [rewrite] at within
          rcases List.infix_append_iff_ne_nil.1 within with inside | within | crossing
          · cases stretch with
            | nil => exact List.nil_infix
            | cons symbol stretch =>
                have member := inside.subset (List.mem_cons_self : symbol ∈ symbol :: stretch)
                exact absurd (all symbol (by simp)) (others _ _ symbol member)
          · exact (ih _ within).trans later
          · obtain ⟨front, back, frontNonempty, _, rfl, ends, _⟩ := crossing
            obtain ⟨symbol, rest, rfl⟩ := List.exists_cons_of_ne_nil frontNonempty
            exact absurd (all symbol (by simp)) (others _ _ symbol (ends.subset (by simp)))

end Rewrite

section Scan

variable {matcher : Matcher Symbol}

theorem scan_skip (before : List Symbol) (skip : Nat) (text : List Symbol) :
    scan matcher before skip text =
      scan matcher ((text.take skip).reverse ++ before) 0 (text.drop skip) := by
  induction skip generalizing before text with
  | zero => simp
  | succ skip ih =>
      cases text with
      | nil => simp [scan]
      | cons symbol after =>
          simp only [scan, List.take_succ_cons, List.drop_succ_cons, List.reverse_cons,
            List.append_assoc, List.singleton_append]
          exact ih (symbol :: before) after

theorem scan_cons_of_none {before after : List Symbol} {symbol : Symbol}
    (none : matcher before (symbol :: after) = none) :
    scan matcher before 0 (symbol :: after) =
      .passed symbol :: scan matcher (symbol :: before) 0 after := by
  simp [scan, none]

theorem scan_append_of_some {before rest after : List Symbol} {first : Symbol}
    (some : matcher before (first :: (rest ++ after)) = some (rest.length + 1)) :
    scan matcher before 0 (first :: (rest ++ after)) =
      .matched first rest :: scan matcher ((first :: rest).reverse ++ before) 0 after := by
  simp only [scan, some, List.take_left]
  rw [scan_skip]
  simp

theorem exists_of_matched_mem_scan {before text rest : List Symbol} {skip : Nat} {first : Symbol}
    (member : .matched first rest ∈ scan matcher before skip text) :
    ∃ before after length, matcher before (first :: after) = some (length + 1) ∧
      rest = after.take length := by
  induction text generalizing before skip with
  | nil => simp [scan] at member
  | cons symbol after ih =>
      cases skip with
      | succ skip => exact ih member
      | zero =>
          simp only [scan] at member
          split at member
          · rename_i length found
            rcases List.mem_cons.1 member with here | later
            · injection here with sameFirst sameRest
              subst sameFirst sameRest
              exact ⟨before, after, length, found, rfl⟩
            · exact ih later
          · rcases List.mem_cons.1 member with here | later
            · contradiction
            · exact ih later

theorem flatMap_text_scan (before text : List Symbol) :
    (scan matcher before 0 text).flatMap Piece.text = text := by
  have scanned : ∀ (before : List Symbol) (skip : Nat),
      (scan matcher before skip text).flatMap Piece.text = text.drop skip := by
    induction text with
    | nil => simp [scan]
    | cons symbol after ih =>
        intro before skip
        cases skip with
        | succ skip => exact ih (symbol :: before) skip
        | zero =>
            simp only [scan]
            split
            · rename_i length _
              rw [List.flatMap_cons, ih]
              simp [Piece.text]
            · rw [List.flatMap_cons, ih]
              simp [Piece.text]
  exact scanned before 0

end Scan

/-! ## Regular expressions -/

variable {accepts : Symbol → Bool}

/-- A position in a text: what stands before it, backwards, and what follows. -/
structure Cursor (Symbol : Type u) where
  before : List Symbol
  after : List Symbol
deriving DecidableEq

/-- A regular expression over classes of symbols. -/
inductive Regex (Symbol : Type u) where
  | empty
  | satisfying (accepts : Symbol → Bool)
  | seq (first second : Regex Symbol)
  /-- Ordered choice: `first` is tried first. -/
  | alt (first second : Regex Symbol)
  /-- As many symbols of a class as possible. -/
  | star (accepts : Symbol → Bool)
  /-- Exactly one of the two neighbouring symbols is in the class. -/
  | boundary (inside : Symbol → Bool)

namespace Regex

def repeats (accepts : Symbol → Bool) : List Symbol → List Symbol → List (Cursor Symbol)
  | before, [] => [⟨before, []⟩]
  | before, symbol :: after =>
      if accepts symbol then repeats accepts (symbol :: before) after ++ [⟨before, symbol :: after⟩]
      else [⟨before, symbol :: after⟩]

/-- The class of the neighbours of a position changes there. -/
def isBoundary (inside : Symbol → Bool) (cursor : Cursor Symbol) : Bool :=
  cursor.before.head?.any inside ≠ cursor.after.head?.any inside

theorem isBoundary_iff {inside : Symbol → Bool} {cursor : Cursor Symbol} :
    isBoundary inside cursor = true ↔
      cursor.before.head?.any inside ≠ cursor.after.head?.any inside := by
  simp [isBoundary]

def matchEnds : Regex Symbol → Cursor Symbol → List (Cursor Symbol)
  | empty, cursor => [cursor]
  | satisfying accepts, cursor =>
      match cursor.after with
      | [] => []
      | next :: after => if accepts next then [⟨next :: cursor.before, after⟩] else []
  | seq first second, cursor => (first.matchEnds cursor).flatMap second.matchEnds
  | alt first second, cursor => first.matchEnds cursor ++ second.matchEnds cursor
  | star accepts, cursor => repeats accepts cursor.before cursor.after
  | boundary inside, cursor => if isBoundary inside cursor then [cursor] else []

def matcher (regex : Regex Symbol) : Matcher Symbol :=
  fun before after =>
    (regex.matchEnds ⟨before, after⟩).head?.map fun final => after.length - final.after.length

def optional (regex : Regex Symbol) : Regex Symbol :=
  alt regex empty

def plus (accepts : Symbol → Bool) : Regex Symbol :=
  seq (satisfying accepts) (star accepts)

def word [DecidableEq Symbol] (symbols : List Symbol) : Regex Symbol :=
  symbols.foldr (fun wanted rest => seq (satisfying fun next => next = wanted) rest) empty

/-- A literal, up to which symbols count as the same. -/
def wordBy (same : Symbol → Symbol → Bool) (symbols : List Symbol) : Regex Symbol :=
  symbols.foldr (fun wanted rest => seq (satisfying (same wanted)) rest) empty

/-- The cursor moved over the text that follows it. -/
def Moves (start : Cursor Symbol) (text : List Symbol) (final : Cursor Symbol) : Prop :=
  start.after = text ++ final.after ∧ final.before = text.reverse ++ start.before

variable {start final : Cursor Symbol}

theorem Moves.append {first second : List Symbol} {middle : Cursor Symbol}
    (earlier : Moves start first middle) (later : Moves middle second final) :
    Moves start (first ++ second) final := by
  simp only [Moves] at earlier later ⊢
  simp [earlier, later]

theorem Moves.split {first second : List Symbol} (moves : Moves start (first ++ second) final) :
    ∃ middle, Moves start first middle ∧ Moves middle second final := by
  refine ⟨⟨first.reverse ++ start.before, second ++ final.after⟩, ⟨?_, rfl⟩, rfl, ?_⟩
  · simpa using moves.1
  · simpa using moves.2

theorem mem_repeats (accepts : Symbol → Bool) (before after : List Symbol) :
    final ∈ repeats accepts before after ↔
      ∃ text, (∀ symbol ∈ text, accepts symbol = true) ∧ Moves ⟨before, after⟩ text final := by
  have stays {before after : List Symbol} :
      final = ⟨before, after⟩ ↔ Moves ⟨before, after⟩ [] final := by
    simp only [Moves, List.nil_append, List.reverse_nil]
    constructor
    · rintro rfl
      exact ⟨rfl, rfl⟩
    · rintro ⟨sameAfter, sameBefore⟩
      cases final
      simp_all
  induction after generalizing before with
  | nil =>
      simp only [repeats, List.mem_singleton]
      rw [stays]
      constructor
      · exact fun moves => ⟨[], by simp, moves⟩
      · rintro ⟨text, _, ends, begins⟩
        obtain ⟨rfl, _⟩ := List.append_eq_nil_iff.1 ends.symm
        exact ⟨ends, begins⟩
  | cons symbol after ih =>
      simp only [repeats]
      split
      · rename_i accepted
        simp only [List.mem_append, ih, List.mem_singleton]
        rw [stays]
        constructor
        · rintro (⟨text, all, ends, begins⟩ | moves)
          · refine ⟨symbol :: text, by simpa [accepted] using all, ?_⟩
            simp only [Moves] at ends begins ⊢
            simp [ends, begins]
          · exact ⟨[], by simp, moves⟩
        · rintro ⟨text, all, ends, begins⟩
          cases text with
          | nil => exact Or.inr ⟨ends, begins⟩
          | cons first text =>
              simp only [List.cons_append, List.cons.injEq] at ends
              obtain ⟨rfl, ends⟩ := ends
              refine Or.inl ⟨text, fun next member => all next (by simp [member]), ends, ?_⟩
              simpa using begins
      · rename_i refused
        simp only [List.mem_singleton]
        rw [stays]
        constructor
        · exact fun moves => ⟨[], by simp, moves⟩
        · rintro ⟨text, all, ends, begins⟩
          cases text with
          | nil => exact ⟨ends, begins⟩
          | cons first text =>
              simp only [List.cons_append, List.cons.injEq] at ends
              exact absurd (all first (by simp)) (ends.1 ▸ refused)

@[simp]
theorem mem_matchEnds_empty : final ∈ empty.matchEnds start ↔ final = start := by
  simp [matchEnds]

@[simp]
theorem mem_matchEnds_seq {first second : Regex Symbol} :
    final ∈ (seq first second).matchEnds start ↔
      ∃ middle ∈ first.matchEnds start, final ∈ second.matchEnds middle := by
  simp [matchEnds]

@[simp]
theorem mem_matchEnds_alt {first second : Regex Symbol} :
    final ∈ (alt first second).matchEnds start ↔
      final ∈ first.matchEnds start ∨ final ∈ second.matchEnds start := by
  simp [matchEnds]

@[simp]
theorem mem_matchEnds_boundary {inside : Symbol → Bool} :
    final ∈ (boundary inside).matchEnds start ↔ final = start ∧ isBoundary inside start = true := by
  simp only [matchEnds]
  split
  · simp [*]
  · simp [*]

theorem mem_matchEnds_satisfying :
    final ∈ (satisfying accepts).matchEnds start ↔
      ∃ next, accepts next = true ∧ Moves start [next] final := by
  obtain ⟨before, after⟩ := start
  obtain ⟨finalBefore, finalAfter⟩ := final
  cases after with
  | nil => simp [matchEnds, Moves]
  | cons next after =>
      simp only [matchEnds, Moves]
      split
      · rename_i accepted
        simp only [List.mem_singleton, Cursor.mk.injEq, List.singleton_append, List.cons.injEq,
          List.reverse_singleton]
        constructor
        · rintro ⟨rfl, rfl⟩
          exact ⟨next, accepted, ⟨rfl, rfl⟩, rfl⟩
        · rintro ⟨_, _, ⟨rfl, rfl⟩, rfl⟩
          exact ⟨rfl, rfl⟩
      · rename_i refused
        simp only [List.not_mem_nil, List.singleton_append, List.cons.injEq, false_iff]
        rintro ⟨_, accepted, ⟨rfl, _⟩, _⟩
        exact refused accepted

theorem mem_matchEnds_star :
    final ∈ (star accepts).matchEnds start ↔
      ∃ text, (∀ symbol ∈ text, accepts symbol = true) ∧ Moves start text final :=
  mem_repeats accepts start.before start.after

theorem mem_matchEnds_plus :
    final ∈ (plus accepts).matchEnds start ↔
      ∃ text, text ≠ [] ∧ (∀ symbol ∈ text, accepts symbol = true) ∧ Moves start text final := by
  simp only [plus, mem_matchEnds_seq, mem_matchEnds_satisfying, mem_matchEnds_star]
  constructor
  · rintro ⟨middle, ⟨next, accepted, ends, begins⟩, text, all, restEnds, restBegins⟩
    refine ⟨next :: text, by simp, by simpa [accepted] using all, ?_⟩
    simp only [Moves] at restEnds restBegins ⊢
    simp [ends, begins, restEnds, restBegins]
  · rintro ⟨text, nonempty, all, ends, begins⟩
    cases text with
    | nil => contradiction
    | cons next text =>
        refine ⟨⟨next :: start.before, text ++ final.after⟩,
          ⟨next, all next (by simp), by simpa using ends, by simp⟩, text,
          fun symbol member => all symbol (by simp [member]), rfl, by simpa using begins⟩

theorem mem_matchEnds_word [DecidableEq Symbol] {symbols : List Symbol} :
    final ∈ (word symbols).matchEnds start ↔ Moves start symbols final := by
  induction symbols generalizing start with
  | nil =>
      obtain ⟨before, after⟩ := start
      obtain ⟨finalBefore, finalAfter⟩ := final
      simp only [word, List.foldr_nil, mem_matchEnds_empty, Cursor.mk.injEq, Moves,
        List.nil_append, List.reverse_nil]
      exact ⟨fun ⟨sameBefore, sameAfter⟩ => ⟨sameAfter.symm, sameBefore⟩,
        fun ⟨sameAfter, sameBefore⟩ => ⟨sameBefore, sameAfter.symm⟩⟩
  | cons wanted symbols ih =>
      have unfolded : word (wanted :: symbols) =
          seq (satisfying fun next => next = wanted) (word symbols) := rfl
      simp only [unfolded, mem_matchEnds_seq, mem_matchEnds_satisfying, ih, decide_eq_true_eq]
      constructor
      · rintro ⟨middle, ⟨_, rfl, ends, begins⟩, restEnds, restBegins⟩
        simp only [Moves]
        simp [ends, begins, restEnds, restBegins]
      · rintro ⟨ends, begins⟩
        exact ⟨⟨wanted :: start.before, symbols ++ final.after⟩,
          ⟨wanted, rfl, by simpa using ends, by simp⟩, rfl, by simpa using begins⟩

theorem exists_of_matcher_eq_some {regex : Regex Symbol} {before after : List Symbol} {length : Nat}
    (matches_ : regex.matcher before after = some length) :
    ∃ final ∈ regex.matchEnds ⟨before, after⟩, length = after.length - final.after.length := by
  obtain ⟨final, first, rfl⟩ := Option.map_eq_some_iff.1 matches_
  exact ⟨final, List.mem_of_mem_head? first, rfl⟩

theorem matcher_eq_of_forall {regex : Regex Symbol} {before text after : List Symbol}
    (some : (⟨text.reverse ++ before, after⟩ : Cursor Symbol) ∈
      regex.matchEnds ⟨before, text ++ after⟩)
    (all : ∀ final ∈ regex.matchEnds ⟨before, text ++ after⟩, final.after.length = after.length) :
    regex.matcher before (text ++ after) = Option.some text.length := by
  cases ends : regex.matchEnds ⟨before, text ++ after⟩ with
  | nil => simp [ends] at some
  | cons final finals =>
      have sameLength := all final (by simp [ends])
      simp [matcher, ends, sameLength]

end Regex

end TextRewriting
