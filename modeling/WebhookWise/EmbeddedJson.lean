import Mathlib.Data.List.Basic

/-!
# Finding the JSON in a model's answer

`extract_balanced_json_text` starts a span at an opener, passes over it when it closes, and ends at
the first opener that never does.  It tries the openers that it reaches: those with nothing before
them but other characters and whole spans.
-/

namespace WebhookWise

namespace EmbeddedJson

/-! ## Spans -/

/-- The closing bracket of `pairs`. -/
def closer : Char → Option Char
  | '{' => some '}'
  | '[' => some ']'
  | _ => none

/-- The loop of `_balanced_span_from`: how many characters there are up to the bracket that
empties the stack. -/
def balancedLength (stack : List Char) (inString escaped : Bool) : List Char → Option Nat
  | [] => none
  | character :: rest =>
      if inString then
        if escaped then (balancedLength stack true false rest).map Nat.succ
        else if character = '\\' then (balancedLength stack true true rest).map Nat.succ
        else if character = '"' then (balancedLength stack false false rest).map Nat.succ
        else (balancedLength stack true false rest).map Nat.succ
      else if character = '"' then (balancedLength stack true escaped rest).map Nat.succ
      else
        match closer character with
        | some close => (balancedLength (close :: stack) false escaped rest).map Nat.succ
        | none =>
            match stack with
            | [] => (balancedLength [] false escaped rest).map Nat.succ
            | top :: below =>
                if character = top then
                  if below.isEmpty then some 1
                  else (balancedLength below false escaped rest).map Nat.succ
                else (balancedLength (top :: below) false escaped rest).map Nat.succ

/-- `_balanced_span_from`, of the text from its start on. -/
def balancedSpanFrom (text : List Char) : Option (List Char) :=
  (balancedLength [] false false text).map text.take

/-! ## The scan -/

/-- `text[idx] in opening_chars`. -/
def isOpening (allowArrays : Bool) (character : Char) : Bool :=
  character = '{' || allowArrays && character = '['

structure Found where
  lastParseable : Option (List Char)
  lastBalanced : Option (List Char)

section Scan

variable (parses : List Char → Bool) (allowArrays : Bool)

def Found.add (found : Found) (span : List Char) : Found where
  lastParseable := if parses span then some span else found.lastParseable
  lastBalanced := some span

/-- The loop of `extract_balanced_json_text`; of the span it stands in, so many characters are
still to be passed over. -/
def scan (found : Found) (skipped : Nat) : List Char → Found
  | [] => found
  | character :: rest =>
      match skipped with
      | skipped + 1 => scan found skipped rest
      | 0 =>
          if isOpening allowArrays character then
            match balancedSpanFrom (character :: rest) with
            | none => found
            | some span => scan (found.add parses span) (span.length - 1) rest
          else scan found 0 rest

/-- `extract_balanced_json_text`, with the texts that `orjson.loads` accepts. -/
def extractBalancedJsonText (text : List Char) : Option (List Char) :=
  let found := scan parses allowArrays ⟨none, none⟩ 0 text
  found.lastParseable.or found.lastBalanced

/-! ## What is to be found -/

/-- A balanced span at a position of the text, and it parses. -/
structure Candidate (text : List Char) (position : Nat) (span : List Char) : Prop where
  opens : (text[position]?).any (isOpening allowArrays) = true
  balanced : balancedSpanFrom (text.drop position) = some span
  parses : parses span = true

/-- No span that parses reaches around a span. -/
def Outermost (text : List Char) (position : Nat) (span : List Char) : Prop :=
  ∀ other around, Candidate parses allowArrays text other around → other ≤ position →
    position + span.length ≤ other + around.length → other = position

/-- Where an outermost span parses, what is returned is a span of the text that does. -/
def Finds (text : List Char) : Prop :=
  (∃ position span, Candidate parses allowArrays text position span ∧
    Outermost parses allowArrays text position span) →
    ∃ result position, extractBalancedJsonText parses allowArrays text = some result ∧
      Candidate parses allowArrays text position result

end Scan

/-- The text is made of characters that open nothing and of whole spans, up to a place. -/
inductive Reaches (allowArrays : Bool) : List Char → List Char → Prop
  | here (text : List Char) : Reaches allowArrays text text
  | plain {character : Char} {rest place : List Char}
      (closed : isOpening allowArrays character = false)
      (onward : Reaches allowArrays rest place) : Reaches allowArrays (character :: rest) place
  | span {character : Char} {rest span place : List Char}
      (opens : isOpening allowArrays character = true)
      (balanced : balancedSpanFrom (character :: rest) = some span)
      (onward : Reaches allowArrays ((character :: rest).drop span.length) place) :
      Reaches allowArrays (character :: rest) place

/-- A span begins at a place that is reached. -/
def Tried (allowArrays : Bool) (text span : List Char) : Prop :=
  ∃ character rest, Reaches allowArrays text (character :: rest) ∧
    isOpening allowArrays character = true ∧ balancedSpanFrom (character :: rest) = some span

/-! ## Lengths -/

section Lengths

variable {allowArrays : Bool} {text place span : List Char}

theorem balancedLength_pos {stack : List Char} {inString escaped : Bool} {length : Nat}
    (balanced : balancedLength stack inString escaped text = some length) : 0 < length := by
  cases text with
  | nil => cases balanced
  | cons character rest =>
      have succ_pos {inner : Option Nat} (isSucc : inner.map Nat.succ = some length) :
          0 < length := by
        obtain ⟨before, _, rfl⟩ := Option.map_eq_some_iff.1 isSucc
        exact Nat.succ_pos before
      unfold balancedLength at balanced
      repeat' split at balanced
      all_goals first
        | exact succ_pos balanced
        | (obtain rfl := Option.some.inj balanced; exact Nat.one_pos)

theorem balancedLength_le {stack : List Char} {inString escaped : Bool} {length : Nat}
    (balanced : balancedLength stack inString escaped text = some length) :
    length ≤ text.length := by
  induction text generalizing stack inString escaped length with
  | nil => cases balanced
  | cons character rest ih =>
      have succ_le {stack : List Char} {inString escaped : Bool}
          (isSucc : (balancedLength stack inString escaped rest).map Nat.succ = some length) :
          length ≤ rest.length + 1 := by
        obtain ⟨before, isBefore, rfl⟩ := Option.map_eq_some_iff.1 isSucc
        exact Nat.succ_le_succ (ih isBefore)
      unfold balancedLength at balanced
      repeat' split at balanced
      all_goals first
        | exact succ_le balanced
        | (obtain rfl := Option.some.inj balanced; exact Nat.succ_le_succ (Nat.zero_le _))

theorem length_pos_of_balancedSpanFrom (balanced : balancedSpanFrom text = some span) :
    0 < span.length := by
  obtain ⟨length, isLength, rfl⟩ := Option.map_eq_some_iff.1 balanced
  rw [List.length_take, Nat.min_eq_left (balancedLength_le isLength)]
  exact balancedLength_pos isLength

end Lengths

/-! ## What the scan tries -/

variable {character : Char} {rest : List Char}

section Tries

variable {parses : List Char → Bool} {allowArrays : Bool} {text place span : List Char}

theorem exists_position_of_reaches (reaches : Reaches allowArrays text place) :
    ∃ position, place = text.drop position := by
  induction reaches with
  | here text => exact ⟨0, rfl⟩
  | plain closed onward ih =>
      obtain ⟨position, isPlace⟩ := ih
      exact ⟨position + 1, isPlace⟩
  | @span character rest span place opens balanced onward ih =>
      obtain ⟨position, isPlace⟩ := ih
      exact ⟨span.length + position, by rw [isPlace, List.drop_drop]⟩

theorem candidate_of_tried (tried : Tried allowArrays text span) (parsed : parses span = true) :
    ∃ position, Candidate parses allowArrays text position span := by
  obtain ⟨character, rest, reaches, opens, balanced⟩ := tried
  obtain ⟨position, isPlace⟩ := exists_position_of_reaches reaches
  refine ⟨position, ?_, by rw [← isPlace]; exact balanced, parsed⟩
  have first : text[position]? = some character := by
    rw [← List.head?_drop, ← isPlace]
    rfl
  rw [first]
  exact opens

theorem tried_cons_of_not_opening (closed : isOpening allowArrays character = false) :
    Tried allowArrays (character :: rest) span ↔ Tried allowArrays rest span := by
  constructor
  · rintro ⟨other, others, reaches, opens, balanced⟩
    cases reaches with
    | here =>
        rw [closed] at opens
        cases opens
    | plain _ onward => exact ⟨other, others, onward, opens, balanced⟩
    | span isOpen _ _ =>
        rw [closed] at isOpen
        cases isOpen
  · rintro ⟨other, others, reaches, opens, balanced⟩
    exact ⟨other, others, .plain closed reaches, opens, balanced⟩

theorem tried_cons_of_balanced {first : List Char} (opens : isOpening allowArrays character = true)
    (balanced : balancedSpanFrom (character :: rest) = some first) :
    Tried allowArrays (character :: rest) span ↔
      span = first ∨ Tried allowArrays ((character :: rest).drop first.length) span := by
  constructor
  · rintro ⟨other, others, reaches, otherOpens, otherBalanced⟩
    cases reaches with
    | here =>
        rw [balanced] at otherBalanced
        exact Or.inl (Option.some.inj otherBalanced).symm
    | plain closed _ =>
        rw [opens] at closed
        cases closed
    | span _ isFirst onward =>
        rw [balanced] at isFirst
        obtain rfl := Option.some.inj isFirst
        exact Or.inr ⟨other, others, onward, otherOpens, otherBalanced⟩
  · rintro (rfl | ⟨other, others, reaches, otherOpens, otherBalanced⟩)
    · exact ⟨character, rest, .here _, opens, balanced⟩
    · exact ⟨other, others, .span opens balanced reaches, otherOpens, otherBalanced⟩

theorem not_tried_cons_of_unbalanced (opens : isOpening allowArrays character = true)
    (unbalanced : balancedSpanFrom (character :: rest) = none) :
    ¬ Tried allowArrays (character :: rest) span := by
  rintro ⟨other, others, reaches, otherOpens, otherBalanced⟩
  cases reaches with
  | here =>
      rw [unbalanced] at otherBalanced
      cases otherBalanced
  | plain closed _ =>
      rw [opens] at closed
      cases closed
  | span _ isFirst _ =>
      rw [unbalanced] at isFirst
      cases isFirst

theorem scan_skip (found : Found) (skipped : Nat) (text : List Char) :
    scan parses allowArrays found skipped text =
      scan parses allowArrays found 0 (text.drop skipped) := by
  induction text generalizing skipped with
  | nil => simp [scan]
  | cons character rest ih =>
      cases skipped with
      | zero => rfl
      | succ skipped =>
          rw [List.drop_succ_cons, ← ih skipped]
          rfl

/-- What the scan finds is what was found before, or one of the spans it tries; and where nothing
that parses is found, it has tried nothing that does. -/
structure Scanned (parses : List Char → Bool) (allowArrays : Bool) (found : Found)
    (text : List Char) (after : Found) : Prop where
  parseable : ∀ span, after.lastParseable = some span →
    found.lastParseable = some span ∨ Tried allowArrays text span ∧ parses span = true
  missed : after.lastParseable = none → found.lastParseable = none ∧
    ∀ span, Tried allowArrays text span → parses span = false
  balanced : ∀ span, after.lastBalanced = some span →
    found.lastBalanced = some span ∨ Tried allowArrays text span

theorem scanned_scan (found : Found) (text : List Char) :
    Scanned parses allowArrays found text (scan parses allowArrays found 0 text) := by
  induction length : text.length using Nat.strongRecOn generalizing text found with
  | ind bound ih =>
      subst length
      cases text with
      | nil =>
          refine ⟨fun span => Or.inl, fun none => ⟨none, ?_⟩, fun span => Or.inl⟩
          rintro span ⟨character, rest, reaches, _⟩
          cases reaches
      | cons character rest =>
          unfold scan
          cases opens : isOpening allowArrays character with
          | false =>
              simp only [Bool.false_eq_true, if_false]
              have inner := ih rest.length (Nat.lt_succ_self _) found rest rfl
              refine ⟨fun span isSpan => ?_, fun none => ?_, fun span isSpan => ?_⟩
              · rw [tried_cons_of_not_opening opens]
                exact inner.parseable span isSpan
              · obtain ⟨before, untried⟩ := inner.missed none
                exact ⟨before, fun span tried =>
                  untried span ((tried_cons_of_not_opening opens).1 tried)⟩
              · rw [tried_cons_of_not_opening opens]
                exact inner.balanced span isSpan
          | true =>
              simp only [if_true]
              cases balanced : balancedSpanFrom (character :: rest) with
              | none =>
                  refine ⟨fun span => Or.inl, fun none => ⟨none, fun span tried => ?_⟩,
                    fun span => Or.inl⟩
                  exact absurd tried (not_tried_cons_of_unbalanced opens balanced)
              | some first =>
                  have positive := length_pos_of_balancedSpanFrom balanced
                  have onward : rest.drop (first.length - 1) =
                      (character :: rest).drop first.length := by
                    obtain ⟨before, isSucc⟩ := Nat.exists_eq_succ_of_ne_zero (Nat.ne_of_gt positive)
                    rw [isSucc]
                    rfl
                  have shorter : (rest.drop (first.length - 1)).length <
                      (character :: rest).length := by
                    rw [List.length_drop, List.length_cons]
                    omega
                  have inner := ih _ shorter (found.add parses first) _ rfl
                  rw [onward] at inner
                  change Scanned parses allowArrays found (character :: rest)
                    (scan parses allowArrays (found.add parses first) (first.length - 1) rest)
                  rw [scan_skip, onward]
                  refine ⟨fun span isSpan => ?_, fun none => ?_, fun span isSpan => ?_⟩
                  · rw [tried_cons_of_balanced opens balanced]
                    rcases inner.parseable span isSpan with before | ⟨tried, parsed⟩
                    · cases parsed : parses first with
                      | true =>
                          rw [Found.add, parsed, if_pos rfl] at before
                          obtain rfl := Option.some.inj before
                          exact Or.inr ⟨Or.inl rfl, parsed⟩
                      | false =>
                          rw [Found.add, parsed, if_neg Bool.false_ne_true] at before
                          exact Or.inl before
                    · exact Or.inr ⟨Or.inr tried, parsed⟩
                  · obtain ⟨before, untried⟩ := inner.missed none
                    cases parsed : parses first with
                    | true =>
                        rw [Found.add, parsed, if_pos rfl] at before
                        cases before
                    | false =>
                        rw [Found.add, parsed, if_neg Bool.false_ne_true] at before
                        refine ⟨before, fun span tried => ?_⟩
                        rcases (tried_cons_of_balanced opens balanced).1 tried with rfl | later
                        · exact parsed
                        · exact untried span later
                  · rw [tried_cons_of_balanced opens balanced]
                    rcases inner.balanced span isSpan with isFirst | tried
                    · exact Or.inr (Or.inl (Option.some.inj isFirst).symm)
                    · exact Or.inr (Or.inr tried)

theorem exists_parseable_iff (text : List Char) :
    (∃ result, extractBalancedJsonText parses allowArrays text = some result ∧
        parses result = true) ↔
      ∃ span, Tried allowArrays text span ∧ parses span = true := by
  have scanned := @scanned_scan parses allowArrays ⟨none, none⟩ text
  unfold extractBalancedJsonText
  cases found : (scan parses allowArrays ⟨none, none⟩ 0 text).lastParseable with
  | some span =>
      obtain ⟨tried, parsed⟩ := (scanned.parseable span found).resolve_left nofun
      simp only [found, Option.some_or]
      exact iff_of_true ⟨span, rfl, parsed⟩ ⟨span, tried, parsed⟩
  | none =>
      obtain ⟨_, untried⟩ := scanned.missed found
      simp only [found, Option.none_or]
      refine iff_of_false ?_ ?_
      · rintro ⟨result, isResult, parsed⟩
        have tried := (scanned.balanced result isResult).resolve_left nofun
        rw [untried result tried] at parsed
        cases parsed
      · rintro ⟨span, tried, parsed⟩
        rw [untried span tried] at parsed
        cases parsed

theorem tried_of_extract {result : List Char}
    (returned : extractBalancedJsonText parses allowArrays text = some result) :
    Tried allowArrays text result := by
  have scanned := @scanned_scan parses allowArrays ⟨none, none⟩ text
  unfold extractBalancedJsonText at returned
  rcases Option.or_eq_some_iff.1 returned with found | ⟨_, found⟩
  · exact ((scanned.parseable result found).resolve_left nofun).1
  · exact (scanned.balanced result found).resolve_left nofun

end Tries

/-- Something that parses is found just when there is nothing to find, or a span that parses is
reached over characters that open nothing and whole spans. -/
theorem extract_finds_iff (parses : List Char → Bool) (allowArrays : Bool) (text : List Char) :
    Finds parses allowArrays text ↔
      ((∃ position span, Candidate parses allowArrays text position span ∧
          Outermost parses allowArrays text position span) →
        ∃ span, Tried allowArrays text span ∧ parses span = true) := by
  unfold Finds
  refine imp_congr_right fun _ => ?_
  rw [← exists_parseable_iff]
  constructor
  · rintro ⟨result, position, returned, candidate⟩
    exact ⟨result, returned, candidate.parses⟩
  · rintro ⟨result, returned, parsed⟩
    obtain ⟨position, candidate⟩ := candidate_of_tried (tried_of_extract returned) parsed
    exact ⟨result, position, returned, candidate⟩

def parsesEmpty (text : List Char) : Bool :=
  text = ['{', '}']

theorem outermost_of_parsesEmpty {text : List Char} {position : Nat} {span : List Char}
    (candidate : Candidate parsesEmpty true text position span) :
    Outermost parsesEmpty true text position span := by
  intro other around isAround before within
  have length : span.length = around.length := by
    rw [of_decide_eq_true candidate.parses, of_decide_eq_true isAround.parses]
  omega

/-- After an opener that is never closed nothing is tried, and neither is what stands inside of
braces that do not parse. -/
theorem extract_misses :
    ¬ Finds parsesEmpty true "set \x7b of \x7b\x7d".toList ∧
      ¬ Finds parsesEmpty true "\x7bsee \x7b\x7d\x7d".toList := by
  constructor
  · intro finds
    have candidate : Candidate parsesEmpty true "set \x7b of \x7b\x7d".toList 9 ['{', '}'] :=
      ⟨by decide, by decide, by decide⟩
    obtain ⟨result, position, returned, _⟩ :=
      finds ⟨9, _, candidate, outermost_of_parsesEmpty candidate⟩
    have nothing :
        extractBalancedJsonText parsesEmpty true "set \x7b of \x7b\x7d".toList = none := by decide
    rw [nothing] at returned
    cases returned
  · intro finds
    have candidate : Candidate parsesEmpty true "\x7bsee \x7b\x7d\x7d".toList 5 ['{', '}'] :=
      ⟨by decide, by decide, by decide⟩
    obtain ⟨result, position, returned, found⟩ :=
      finds ⟨5, _, candidate, outermost_of_parsesEmpty candidate⟩
    have whole : extractBalancedJsonText parsesEmpty true "\x7bsee \x7b\x7d\x7d".toList =
        some "\x7bsee \x7b\x7d\x7d".toList := by decide
    rw [whole] at returned
    obtain rfl := Option.some.inj returned
    exact absurd found.parses (by decide)

end EmbeddedJson

end WebhookWise
