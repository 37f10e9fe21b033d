import Mathlib.Data.List.Infix
import WebhookWise.Pseudonymizer

/-!
# When unmasking undoes masking

Masking keeps a text readable as fragments: characters of the original, and placeholders with what
they stand for, as long as no later match touches a placeholder.  Unmasking finds a placeholder only
between characters that are not word characters.
-/

namespace WebhookWise

open TextRewriting

namespace Pseudonymizer

section Tokens

variable (tables : CharacterTables)

/-- The text has the form `anon-(term|host|ip)-digits`. -/
def TokenShaped (text : List Char) : Prop :=
  ∃ (kind : IdentifierKind) (digits : List Char), digits ≠ [] ∧
    (∀ digit ∈ digits, tables.isDecimal digit = true) ∧
      text = "anon-".toList ++ (kind.word.toList ++ ("-".toList ++ digits))

/-- Some part of the text matches `anon-(?:term|host|ip)-\d+`. -/
def containsToken (text : String) : Bool :=
  text.toList.tails.any fun after => !((tokenShape tables).matchEnds ⟨[], after⟩).isEmpty

variable {tables} {start final : Cursor Char}

theorem mem_matchEnds_tokenShape :
    final ∈ (tokenShape tables).matchEnds start ↔
      ∃ text, TokenShaped tables text ∧ Regex.Moves start text final := by
  simp only [tokenShape, Regex.mem_matchEnds_seq, Regex.mem_matchEnds_alt, Regex.mem_matchEnds_word,
    Regex.mem_matchEnds_plus]
  constructor
  · rintro ⟨afterAnon, anon, afterKind, kindMoves, afterDash, dash, digits, nonempty, decimal, moves⟩
    obtain ⟨kind, moved⟩ : ∃ kind : IdentifierKind,
        Regex.Moves afterAnon kind.word.toList afterKind := by
      rcases kindMoves with term | host | ip
      · exact ⟨.term, term⟩
      · exact ⟨.host, host⟩
      · exact ⟨.ip, ip⟩
    exact ⟨_, ⟨kind, digits, nonempty, decimal, rfl⟩, anon.append (moved.append (dash.append moves))⟩
  · rintro ⟨_, ⟨kind, digits, nonempty, decimal, rfl⟩, moves⟩
    obtain ⟨afterAnon, anon, moves⟩ := moves.split
    obtain ⟨afterKind, moved, moves⟩ := moves.split
    obtain ⟨afterDash, dash, moves⟩ := moves.split
    refine ⟨afterAnon, anon, afterKind, ?_, afterDash, dash, digits, nonempty, decimal, moves⟩
    cases kind with
    | term => exact Or.inl moved
    | host => exact Or.inr (Or.inl moved)
    | ip => exact Or.inr (Or.inr moved)

theorem mem_matchEnds_tokenPattern :
    final ∈ (tokenPattern tables).matchEnds start ↔
      Regex.isBoundary tables.isWord start = true ∧
        (∃ text, TokenShaped tables text ∧ Regex.Moves start text final) ∧
          Regex.isBoundary tables.isWord final = true := by
  simp only [tokenPattern, Regex.mem_matchEnds_seq, Regex.mem_matchEnds_boundary,
    mem_matchEnds_tokenShape]
  constructor
  · rintro ⟨_, ⟨rfl, startBoundary⟩, _, shaped, rfl, finalBoundary⟩
    exact ⟨startBoundary, shaped, finalBoundary⟩
  · rintro ⟨startBoundary, shaped, finalBoundary⟩
    exact ⟨start, ⟨rfl, startBoundary⟩, final, shaped, rfl, finalBoundary⟩

theorem not_infix_of_containsToken_eq_false {text : String}
    (free : containsToken tables text = false) {token : List Char}
    (shaped : TokenShaped tables token) : ¬ token <:+: text.toList := by
  rintro ⟨front, back, whole⟩
  have member : token ++ back ∈ text.toList.tails := by
    rw [List.mem_tails, ← whole, List.append_assoc]
    exact List.suffix_append front (token ++ back)
  simp only [containsToken, List.any_eq_false, Bool.not_eq_true', Bool.not_eq_false,
    List.isEmpty_iff] at free
  have ends : (⟨token.reverse ++ [], back⟩ : Cursor Char) ∈
      (tokenShape tables).matchEnds ⟨[], token ++ back⟩ :=
    mem_matchEnds_tokenShape.2 ⟨token, shaped, rfl, rfl⟩
  rw [free _ member] at ends
  contradiction

theorem isDecimal_of_mem_toDigits {number : Nat} {digit : Char}
    (member : digit ∈ Nat.toDigits 10 number) : tables.isDecimal digit = true := by
  have isDigit := Nat.isDigit_of_mem_toDigits (by decide) (by decide) member
  rw [tables.isDecimal_ascii digit]
  · exact isDigit
  · have bounds := Char.isDigit_iff_toNat.1 isDigit
    have nine : '9'.toNat = 57 := by decide
    omega

theorem tokenShaped_placeholder (tables : CharacterTables) (kind : IdentifierKind) (number : Nat) :
    TokenShaped tables (placeholder kind number).toList :=
  ⟨kind, Nat.toDigits 10 number, Nat.toDigits_ne_nil, fun _ => isDecimal_of_mem_toDigits,
    toList_placeholder kind number⟩

theorem isWord_a : tables.isWord 'a' = true := by
  rw [tables.isWord_ascii 'a' (by decide)]
  decide

theorem TokenShaped.exists_tail {text : List Char} (shaped : TokenShaped tables text) :
    ∃ rest, text = 'a' :: rest ∧ 'a' ∉ rest := by
  obtain ⟨kind, digits, _, decimal, rfl⟩ := shaped
  refine ⟨"non-".toList ++ (kind.word.toList ++ ("-".toList ++ digits)), rfl, ?_⟩
  have notDigit : 'a' ∉ digits := by
    intro member
    have isDecimal := decimal 'a' member
    rw [tables.isDecimal_ascii 'a' (by decide)] at isDecimal
    contradiction
  cases kind <;> simp [IdentifierKind.word, notDigit]

theorem isWord_head_of_isDecimal {digits : List Char} (rest : List Char) (nonempty : digits ≠ [])
    (decimal : ∀ digit ∈ digits, tables.isDecimal digit = true) :
    (digits ++ rest).head?.any tables.isWord = true := by
  cases digits with
  | nil => contradiction
  | cons digit digits => exact tables.isWord_of_isDecimal digit (decimal digit (by simp))

theorem TokenShaped.isWord_last {text : List Char} (shaped : TokenShaped tables text)
    (before : List Char) : (text.reverse ++ before).head?.any tables.isWord = true := by
  obtain ⟨kind, digits, nonempty, decimal, rfl⟩ := shaped
  simp only [List.reverse_append, List.append_assoc]
  exact isWord_head_of_isDecimal _ (by simpa using nonempty) (by simpa using decimal)

theorem matcher_tokenPattern_eq_none {before after : List Char}
    (unshaped : ∀ token, TokenShaped tables token → ¬ token <+: after) :
    (tokenPattern tables).matcher before after = none := by
  cases found : (tokenPattern tables).matcher before after with
  | none => rfl
  | some length =>
      obtain ⟨final, member, _⟩ := Regex.exists_of_matcher_eq_some found
      obtain ⟨_, ⟨token, shaped, covers, _⟩, _⟩ := mem_matchEnds_tokenPattern.1 member
      exact absurd ⟨final.after, covers.symm⟩ (unshaped token shaped)

theorem TokenShaped.length_eq {token other after otherAfter before : List Char}
    (shaped : TokenShaped tables token) (otherShaped : TokenShaped tables other)
    (same : token ++ after = other ++ otherAfter)
    (free : after.head?.any tables.isWord = false)
    (ends : Regex.isBoundary tables.isWord ⟨other.reverse ++ before, otherAfter⟩ = true) :
    otherAfter.length = after.length := by
  have otherLast := otherShaped.isWord_last before
  obtain ⟨kind, digits, nonempty, decimal, rfl⟩ := shaped
  obtain ⟨otherKind, otherDigits, otherNonempty, otherDecimal, rfl⟩ := otherShaped
  have sameDigits : digits ++ after = otherDigits ++ otherAfter := by
    cases kind <;> cases otherKind <;> simp [IdentifierKind.word] at same
    all_goals exact same
  rcases List.append_eq_append_iff.1 sameDigits with ⟨more, rfl, rfl⟩ | ⟨more, rfl, rfl⟩
  · -- The other text goes on into `after` with digits.
    by_cases empty : more = []
    · simp [empty]
    · rw [isWord_head_of_isDecimal otherAfter empty
        fun digit member => otherDecimal digit (by simp [member])] at free
      contradiction
  · -- The other text stops between two digits, where no boundary is.
    by_cases empty : more = []
    · simp [empty]
    · have next := isWord_head_of_isDecimal after empty
        fun digit member => decimal digit (by simp [member])
      exact absurd (otherLast.trans next.symm) (Regex.isBoundary_iff.1 ends)

theorem matcher_tokenPattern_placeholder (kind : IdentifierKind) (number : Nat)
    {before after : List Char} (previous : before.head?.any tables.isWord = false)
    (next : after.head?.any tables.isWord = false) :
    (tokenPattern tables).matcher before ((placeholder kind number).toList ++ after) =
      some (placeholder kind number).toList.length := by
  have shaped : TokenShaped tables (placeholder kind number).toList :=
    tokenShaped_placeholder tables kind number
  apply Regex.matcher_eq_of_forall
  · rw [mem_matchEnds_tokenPattern]
    refine ⟨?_, ⟨_, shaped, rfl, rfl⟩, ?_⟩
    · obtain ⟨rest, starts, _⟩ := shaped.exists_tail
      rw [Regex.isBoundary_iff, previous, starts]
      simp [isWord_a]
    · rw [Regex.isBoundary_iff, shaped.isWord_last before, next]
      simp
  · intro final member
    obtain ⟨_, ⟨other, otherShaped, covers, behind⟩, ends⟩ := mem_matchEnds_tokenPattern.1 member
    obtain ⟨finalBefore, finalAfter⟩ := final
    simp only at behind
    subst behind
    exact shaped.length_eq otherShaped covers next ends

end Tokens

/-! ## Fragments -/

variable {mapping : PyDict String}

/-- A part of a masked text: a character of the original, or a placeholder with
what it stands for. -/
inductive Fragment where
  | plain (character : Char)
  | placeholder (token real : String)
deriving DecidableEq

def Fragment.shown : Fragment → List Char
  | plain character => [character]
  | placeholder token _ => token.toList

def Fragment.original : Fragment → List Char
  | plain character => [character]
  | placeholder _ real => real.toList

/-- The masked text. -/
def shown (fragments : List Fragment) : List Char :=
  fragments.flatMap Fragment.shown

/-- The text before masking. -/
def original (fragments : List Fragment) : List Char :=
  fragments.flatMap Fragment.original

/-- No placeholder stands next to a word character; `previous` is the character
before the fragments. -/
def delimited (tables : CharacterTables) : Option Char → List Fragment → Bool
  | _, [] => true
  | _, .plain character :: fragments => delimited tables (some character) fragments
  | previous, .placeholder token _ :: fragments =>
      !previous.any tables.isWord && !(shown fragments).head?.any tables.isWord &&
        delimited tables token.toList.getLast? fragments

/-- Every placeholder is one, and the mapping knows what it stands for. -/
def Known (mapping : PyDict String) (fragments : List Fragment) : Prop :=
  ∀ token real, .placeholder token real ∈ fragments →
    (∃ kind number, token = placeholder kind number) ∧ mapping.get? token = some real

variable {fragments : List Fragment}

theorem prefix_original (tables : CharacterTables) {text : List Char}
    (known : Known mapping fragments) (free : 'a' ∉ text) (starts : text <+: shown fragments) :
    text <+: original fragments := by
  induction fragments generalizing text with
  | nil => exact starts
  | cons fragment fragments ih =>
      cases text with
      | nil => exact List.nil_prefix
      | cons character text =>
          have rest : Known mapping fragments :=
            fun token real member => known token real (List.mem_cons_of_mem _ member)
          cases fragment with
          | plain other =>
              simp only [shown, original, List.flatMap_cons, Fragment.shown, Fragment.original,
                List.singleton_append, List.cons_prefix_cons] at starts ⊢
              exact ⟨starts.1, ih rest (fun member => free (by simp [member])) starts.2⟩
          | placeholder token real =>
              obtain ⟨⟨kind, number, rfl⟩, _⟩ := known token real (by simp)
              obtain ⟨tail, tokenEq, _⟩ :=
                (tokenShaped_placeholder tables kind number).exists_tail
              simp only [shown, List.flatMap_cons, Fragment.shown, tokenEq, List.cons_append,
                List.cons_prefix_cons] at starts
              exact absurd (by simp [starts.1]) free

/-- Unmasking finds the placeholders that are delimited, and nothing else. -/
theorem unmask_shown {tables : CharacterTables} (before : List Char)
    (known : Known mapping fragments) (apart : delimited tables before.head? fragments = true)
    (free : ∀ token, TokenShaped tables token → ¬ token <:+: original fragments) :
    (scan (tokenPattern tables).matcher before 0 (shown fragments)).flatMap (restored mapping) =
      original fragments := by
  induction fragments generalizing before with
  | nil => rfl
  | cons fragment fragments ih =>
      have rest : Known mapping fragments :=
        fun token real member => known token real (List.mem_cons_of_mem _ member)
      have restFree : ∀ token, TokenShaped tables token → ¬ token <:+: original fragments := by
        intro token shaped inRest
        exact free token shaped (inRest.trans (List.suffix_append _ _).isInfix)
      cases fragment with
      | plain character =>
          have unmatched : (tokenPattern tables).matcher before (character :: shown fragments) =
              none := by
            apply matcher_tokenPattern_eq_none
            intro token shaped starts
            obtain ⟨tail, rfl, noA⟩ := shaped.exists_tail
            rw [List.cons_prefix_cons] at starts
            obtain ⟨rfl, starts⟩ := starts
            refine free _ shaped (List.IsPrefix.isInfix ?_)
            exact List.cons_prefix_cons.2 ⟨rfl, prefix_original tables rest noA starts⟩
          have scanned : scan (tokenPattern tables).matcher before 0
              (shown (.plain character :: fragments)) = .passed character ::
                scan (tokenPattern tables).matcher (character :: before) 0 (shown fragments) :=
            scan_cons_of_none unmatched
          rw [scanned, List.flatMap_cons, ih (character :: before) rest apart restFree]
          rfl
      | placeholder token real =>
          obtain ⟨⟨kind, number, rfl⟩, found⟩ := known token real (by simp)
          simp only [delimited, Bool.and_eq_true, Bool.not_eq_true'] at apart
          obtain ⟨⟨previous, next⟩, apart⟩ := apart
          have matched := matcher_tokenPattern_placeholder kind number previous next
          obtain ⟨tail, tokenEq, _⟩ :=
            (tokenShaped_placeholder tables kind number).exists_tail
          rw [tokenEq] at matched apart
          have scanned : scan (tokenPattern tables).matcher before 0
              (shown (.placeholder (placeholder kind number) real :: fragments)) =
                .matched 'a' tail ::
                  scan (tokenPattern tables).matcher (('a' :: tail).reverse ++ before) 0
                    (shown fragments) := by
            simp only [shown, List.flatMap_cons, Fragment.shown, tokenEq]
            exact scan_append_of_some matched
          have last : (('a' :: tail).reverse ++ before).head? = ('a' :: tail).getLast? := by
            simp [List.getLast?_cons]
          rw [scanned, List.flatMap_cons, ih _ rest (last ▸ apart) restFree]
          have spelled : String.ofList ('a' :: tail) = placeholder kind number := by
            rw [← tokenEq, String.ofList_toList]
          simp [restored, spelled, found, original, Fragment.original]

/-! ## Masking, with the placeholders kept in view -/

/-- What a substitution does at a character. -/
inductive Role where
  | kept
  | replaced (found : List Char)
  | covered
deriving DecidableEq

def roles : Piece Char → List Role
  | .passed _ => [.kept]
  | .matched first rest => .replaced (first :: rest) :: rest.map fun _ => .covered

/-- A substitution carried out on fragments, given what it does at each character
of the text they show.  There is no result when a match contains a character of a
placeholder. -/
def retrace (assign : PseudonymSession → String → String × PseudonymSession) :
    List Fragment → List Role → PseudonymSession → Option (List Fragment × PseudonymSession)
  | [], _, session => some ([], session)
  | .plain character :: fragments, .kept :: roles, session =>
      (retrace assign fragments roles session).map fun (rest, final) =>
        (.plain character :: rest, final)
  | .plain _ :: fragments, .replaced found :: roles, session =>
      let (token, next) := assign session (String.ofList found)
      (retrace assign fragments roles next).map fun (rest, final) =>
        (.placeholder token (String.ofList found) :: rest, final)
  | .plain _ :: fragments, .covered :: roles, session => retrace assign fragments roles session
  | .plain _ :: _, [], _ => none
  | .placeholder token real :: fragments, roles, session =>
      if (roles.take token.toList.length).all (· = .kept) then
        (retrace assign fragments (roles.drop token.toList.length) session).map
          fun (rest, final) => (.placeholder token real :: rest, final)
      else none

/-- `maskTerm` on fragments. -/
def retraceTerm (state : List Fragment × PseudonymSession) (term : String) :
    Option (List Fragment × PseudonymSession) :=
  let (fragments, session) := state
  if occursIn term.toList (shown fragments) then
    let (token, next) := session.tokenFor .term term
    retrace (fun session _ => (token, session)) fragments
      ((scan (literalMatcher term.toList) [] 0 (shown fragments)).flatMap roles) next
  else some (fragments, session)

/-- `maskHosts` on fragments. -/
def retraceHosts (tables : CharacterTables) (suffixes : List String) (fragments : List Fragment)
    (session : PseudonymSession) : Option (List Fragment × PseudonymSession) :=
  match buildHostPattern tables suffixes with
  | none => some (fragments, session)
  | some pattern =>
      retrace (fun session => session.tokenFor .host) fragments
        ((scan pattern.matcher [] 0 (shown fragments)).flatMap roles) session

/-- `maskAddresses` on fragments; addresses that are left alone are no matches. -/
def retraceAddresses (tables : CharacterTables) (fragments : List Fragment)
    (session : PseudonymSession) : Option (List Fragment × PseudonymSession) :=
  retrace (fun session => session.tokenFor .ip) fragments
    ((release passesThrough (scan (ipv4Pattern tables).matcher [] 0 (shown fragments))).flatMap
      roles) session

/-- `maskText` on fragments. -/
def retraceText (tables : CharacterTables) (policy : PseudonymPolicy) (session : PseudonymSession)
    (text : String) : Option (List Fragment × PseudonymSession) := do
  let (fragments, session) ← policy.terms.foldlM retraceTerm (text.toList.map .plain, session)
  let (fragments, session) ← retraceHosts tables policy.hostSuffixes fragments session
  if policy.maskIps then retraceAddresses tables fragments session else some (fragments, session)

/-- While the texts are masked, no match of a pass contains a character of a
placeholder put in before, and no placeholder of a masked text stands next to a
word character. -/
def placeholdersApart (tables : CharacterTables) (policy : PseudonymPolicy) :
    PseudonymSession → List String → Bool
  | _, [] => true
  | session, text :: texts =>
      match retraceText tables policy session text with
      | none => false
      | some (fragments, next) =>
          delimited tables none fragments && placeholdersApart tables policy next texts

/-! ## Fragments show what masking makes of the text -/

variable {result : List Fragment × PseudonymSession} {session : PseudonymSession}
  {pieces : List (Piece Char)}

/-- What a pass makes of the fragments: they show the text the pass makes, stand for
the text they stood for (behind `pending` characters of a match), and the session
knows the new placeholders and forgets none. -/
structure Retraced (pending : List Char) (fragments : List Fragment) (session : PseudonymSession)
    (masked : List Char × PseudonymSession) (result : List Fragment × PseudonymSession) : Prop where
  shows : masked = (shown result.1, result.2)
  restores : original fragments = pending ++ original result.1
  remembers : session.Extends result.2
  known : ∀ token real, .placeholder token real ∈ result.1 →
    .placeholder token real ∈ fragments ∨ result.2.realByToken.get? token = some real

theorem Retraced.refl (fragments : List Fragment) (session : PseudonymSession) :
    Retraced [] fragments session (shown fragments, session) (fragments, session) where
  shows := rfl
  restores := rfl
  remembers := PseudonymSession.Extends.refl session
  known _ _ := Or.inl

theorem Retraced.trans {fragments middle final : List Fragment}
    {session next last : PseudonymSession} {masked masked' : List Char × PseudonymSession}
    (first : Retraced [] fragments session masked (middle, next))
    (second : Retraced [] middle next masked' (final, last)) :
    Retraced [] fragments session masked' (final, last) where
  shows := second.shows
  restores := first.restores.trans second.restores
  remembers := first.remembers.trans second.remembers
  known token real member := by
    rcases second.known token real member with old | new
    · rcases first.known token real old with older | known
      · exact Or.inl older
      · exact Or.inr (second.remembers token real known)
    · exact Or.inr new

theorem exists_of_all_kept {text rest : List Char}
    (aligned : text ++ rest = pieces.flatMap Piece.text)
    (kept : ((pieces.flatMap roles).take text.length).all (· = .kept) = true) :
    ∃ later, pieces = text.map .passed ++ later ∧ rest = later.flatMap Piece.text ∧
      (pieces.flatMap roles).drop text.length = later.flatMap roles := by
  induction text generalizing pieces with
  | nil => exact ⟨pieces, rfl, aligned, rfl⟩
  | cons character text ih =>
      cases pieces with
      | nil => simp at aligned
      | cons piece pieces =>
          cases piece with
          | matched first rest => simp [roles] at kept
          | passed other =>
              simp only [List.cons_append, List.flatMap_cons, Piece.text, List.nil_append,
                List.cons.injEq] at aligned
              obtain ⟨rfl, aligned⟩ := aligned
              have keptRest : ((pieces.flatMap roles).take text.length).all (· = .kept) = true := by
                simpa [roles] using kept
              obtain ⟨later, rfl, restEq, dropped⟩ := ih aligned keptRest
              refine ⟨later, rfl, restEq, ?_⟩
              simpa [roles] using dropped

def replacing (assign : PseudonymSession → String → String × PseudonymSession)
    (session : PseudonymSession) (found : List Char) : List Char × PseudonymSession :=
  let (token, next) := assign session (String.ofList found)
  (token.toList, next)

theorem maskMatch_eq (kind : IdentifierKind) :
    maskMatch kind = replacing fun session => session.tokenFor kind :=
  rfl

/-- In every session with the property, the assignment hands out a placeholder for the
identifier, and the property stays. -/
def Assigns (assign : PseudonymSession → String → String × PseudonymSession)
    (Property : PseudonymSession → Prop) (real : String) : Prop :=
  ∀ session, Property session →
    Property (assign session real).2 ∧ session.Extends (assign session real).2 ∧
      (assign session real).2.realByToken.get? (assign session real).1 = some real

/-- A pass on fragments does what the pass does on the text they show. -/
theorem retrace_retraced {assign : PseudonymSession → String → String × PseudonymSession}
    {Property : PseudonymSession → Prop} {pending : List Char} (holds : Property session)
    (assigns : ∀ first rest, .matched first rest ∈ pieces →
      Assigns assign Property (String.ofList (first :: rest)))
    (nonempty : ∀ token real, .placeholder token real ∈ fragments → token ≠ "")
    (aligned : shown fragments = pending ++ pieces.flatMap Piece.text)
    (retraced : retrace assign fragments
      (pending.map (fun _ => .covered) ++ pieces.flatMap roles) session = some result) :
    Retraced pending fragments session (rewrite (replacing assign) session pieces) result := by
  induction fragments generalizing pending pieces session result with
  | nil =>
      have noText := List.append_eq_nil_iff.1 aligned.symm
      obtain ⟨rfl, noPieces⟩ := noText
      have noPiece : pieces = [] := by
        cases pieces with
        | nil => rfl
        | cons piece pieces => cases piece <;> simp [Piece.text] at noPieces
      subst noPiece
      obtain rfl := Option.some.inj retraced
      exact Retraced.refl [] session
  | cons fragment fragments ih =>
      have restNonempty : ∀ token real, .placeholder token real ∈ fragments → token ≠ "" :=
        fun token real member => nonempty token real (List.mem_cons_of_mem _ member)
      cases fragment with
      | plain character =>
          simp only [shown, List.flatMap_cons, Fragment.shown, List.singleton_append] at aligned ih
          cases pending with
          | cons other pending =>
              -- The character is inside a match.
              simp only [List.cons_append, List.cons.injEq] at aligned
              obtain ⟨rfl, aligned⟩ := aligned
              have later := ih holds assigns restNonempty aligned retraced
              refine ⟨later.shows, ?_, later.remembers, ?_⟩
              · simpa [original, Fragment.original] using later.restores
              · intro token real member
                exact (later.known token real member).imp_left (List.mem_cons_of_mem _)
          | nil =>
              cases pieces with
              | nil => simp at aligned
              | cons piece pieces =>
                  have assignsLater : ∀ first rest, .matched first rest ∈ pieces →
                      Assigns assign Property (String.ofList (first :: rest)) :=
                    fun first rest member => assigns first rest (List.mem_cons_of_mem _ member)
                  cases piece with
                  | passed other =>
                      simp only [List.nil_append, List.flatMap_cons, Piece.text,
                        List.singleton_append, List.cons.injEq] at aligned
                      obtain ⟨rfl, aligned⟩ := aligned
                      obtain ⟨⟨rest, final⟩, restEq, rfl⟩ := Option.map_eq_some_iff.1 retraced
                      have later : Retraced [] fragments session
                          (rewrite (replacing assign) session pieces) (rest, final) :=
                        ih holds assignsLater restNonempty aligned restEq
                      refine ⟨?_, ?_, later.remembers, ?_⟩
                      · simp only [rewrite, later.shows]
                        rfl
                      · simpa [original, Fragment.original] using later.restores
                      · intro token real member
                        have inRest : .placeholder token real ∈ rest := by simpa using member
                        exact (later.known token real inRest).imp_left (List.mem_cons_of_mem _)
                  | matched first matchRest =>
                      simp only [List.nil_append, List.flatMap_cons, Piece.text, List.cons_append,
                        List.cons.injEq] at aligned
                      obtain ⟨rfl, aligned⟩ := aligned
                      obtain ⟨⟨rest, final⟩, restEq, rfl⟩ := Option.map_eq_some_iff.1 retraced
                      obtain ⟨stays, remembers, found⟩ :=
                        assigns character matchRest (by simp) session holds
                      have later := ih stays assignsLater restNonempty aligned restEq
                      refine ⟨?_, ?_, remembers.trans later.remembers, ?_⟩
                      · simp only [rewrite, replacing, later.shows]
                        rfl
                      · simpa [original, Fragment.original] using later.restores
                      · intro token real member
                        rcases List.mem_cons.1 member with new | inRest
                        · injection new with sameToken sameReal
                          subst sameToken sameReal
                          exact Or.inr (later.remembers _ _ found)
                        · exact (later.known token real inRest).imp_left (List.mem_cons_of_mem _)
      | placeholder token real =>
          simp only [retrace] at retraced
          split at retraced
          · rename_i kept
            obtain ⟨⟨rest, final⟩, restEq, rfl⟩ := Option.map_eq_some_iff.1 retraced
            simp only [shown, List.flatMap_cons, Fragment.shown] at aligned ih
            cases pending with
            | nil =>
                obtain ⟨later, rfl, restText, dropped⟩ := exists_of_all_kept aligned kept
                have assignsLater : ∀ first rest, .matched first rest ∈ later →
                    Assigns assign Property (String.ofList (first :: rest)) :=
                  fun first rest member => assigns first rest (List.mem_append_right _ member)
                simp only [List.map_nil, List.nil_append, dropped] at restEq
                have behind : Retraced [] fragments session
                    (rewrite (replacing assign) session later) (rest, final) :=
                  ih holds assignsLater restNonempty restText restEq
                refine ⟨?_, ?_, behind.remembers, ?_⟩
                · rw [rewrite_passed_append, behind.shows]
                  rfl
                · have restored := behind.restores
                  simp only [original, List.flatMap_cons, List.nil_append] at restored ⊢
                  rw [restored]
                · intro other otherReal member
                  rcases List.mem_cons.1 member with here | inRest
                  · exact Or.inl (here ▸ List.mem_cons_self)
                  · exact (behind.known other otherReal inRest).imp_left (List.mem_cons_of_mem _)
            | cons character pending =>
                have tokenNonempty : token.toList ≠ [] := by
                  intro empty
                  exact nonempty token real (by simp) (String.toList_eq_nil_iff.1 empty)
                cases tokenEq : token.toList with
                | nil => exact absurd tokenEq tokenNonempty
                | cons first tokenRest => simp [tokenEq] at kept
          · contradiction

theorem Retraced.known_all {masked : List Char × PseudonymSession}
    (retraced : Retraced [] fragments session masked result)
    (known : Known session.realByToken fragments) : Known result.2.realByToken result.1 := by
  intro token real member
  have found : result.2.realByToken.get? token = some real := by
    rcases retraced.known token real member with old | new
    · exact retraced.remembers token real (known token real old).2
    · exact new
  obtain ⟨kind, number, same, _⟩ := result.2.counted token real found
  exact ⟨⟨kind, number, same⟩, found⟩

private theorem nonempty_of_known (known : Known mapping fragments) :
    ∀ token real, .placeholder token real ∈ fragments → token ≠ "" := by
  rintro token real member rfl
  obtain ⟨⟨kind, number, empty⟩, _⟩ := known "" real member
  have spelled := toList_placeholder kind number
  rw [← empty] at spelled
  contradiction

private theorem assigns_tokenFor (kind : IdentifierKind) (real : String) :
    Assigns (fun session => session.tokenFor kind) (fun _ => True) real := by
  intro session _
  obtain ⟨found, remembers⟩ := session.tokenFor_spec kind real
  exact ⟨trivial, remembers, found⟩

theorem retrace_pass {assign : PseudonymSession → String → String × PseudonymSession}
    {Property : PseudonymSession → Prop} (holds : Property session)
    (assigns : ∀ first rest, .matched first rest ∈ pieces →
      Assigns assign Property (String.ofList (first :: rest))) (known : Known mapping fragments)
    (aligned : pieces.flatMap Piece.text = shown fragments)
    (retraced : retrace assign fragments (pieces.flatMap roles) session = some result) :
    Retraced [] fragments session (rewrite (replacing assign) session pieces) result :=
  retrace_retraced holds assigns (nonempty_of_known known) aligned.symm retraced

theorem eq_of_matched_literal {wanted text rest : List Char} {first : Char}
    (member : .matched first rest ∈ scan (literalMatcher wanted) [] 0 text) :
    first :: rest = wanted := by
  obtain ⟨_, after, length, found, rfl⟩ := exists_of_matched_mem_scan member
  simp only [literalMatcher, Option.ite_none_right_eq_some, Option.some.injEq,
    List.isPrefixOf_iff_prefix] at found
  obtain ⟨starts, sameLength⟩ := found
  rw [List.prefix_iff_eq_take.1 starts, sameLength, List.take_succ_cons]

section Passes

variable {tables : CharacterTables} {policy : PseudonymPolicy} {fragments : List Fragment}
  {session : PseudonymSession} {result : List Fragment × PseudonymSession}

theorem retraceTerm_retraced {term : String} (known : Known session.realByToken fragments)
    (retraced : retraceTerm (fragments, session) term = some result) :
    Retraced [] fragments session (maskTerm (shown fragments, session) term) result := by
  simp only [retraceTerm] at retraced
  simp only [maskTerm]
  split at retraced
  · rename_i occurs
    rw [if_pos occurs]
    obtain ⟨found, remembers⟩ := session.tokenFor_spec .term term
    generalize session.tokenFor .term term = assigned at found remembers retraced ⊢
    obtain ⟨token, next⟩ := assigned
    have assigns : ∀ first rest,
        .matched first rest ∈ scan (literalMatcher term.toList) [] 0 (shown fragments) →
          Assigns (fun session _ => (token, session))
            (fun session => session.realByToken.get? token = some term)
            (String.ofList (first :: rest)) := by
      intro first rest member session known
      rw [eq_of_matched_literal member, String.ofList_toList]
      exact ⟨known, PseudonymSession.Extends.refl session, known⟩
    have later : Retraced [] fragments next
        (rewrite (replacing fun session _ => (token, session)) next
          (scan (literalMatcher term.toList) [] 0 (shown fragments))) result :=
      retrace_pass found assigns known (flatMap_text_scan [] _) retraced
    exact ⟨later.shows, later.restores, remembers.trans later.remembers, later.known⟩
  · rename_i absent
    obtain rfl := Option.some.inj retraced
    rw [if_neg absent]
    exact Retraced.refl fragments session

theorem retraceHosts_retraced {suffixes : List String}
    (known : Known session.realByToken fragments)
    (retraced : retraceHosts tables suffixes fragments session = some result) :
    Retraced [] fragments session (maskHosts tables suffixes (shown fragments) session) result := by
  simp only [retraceHosts] at retraced
  simp only [maskHosts]
  cases built : buildHostPattern tables suffixes with
  | none =>
      rw [built] at retraced
      obtain rfl := Option.some.inj retraced
      exact Retraced.refl fragments session
  | some pattern =>
      rw [built] at retraced
      simp only [maskMatch_eq]
      exact retrace_pass trivial (fun _ _ _ => assigns_tokenFor .host _) known
        (flatMap_text_scan [] _) retraced

theorem retraceAddresses_retraced (known : Known session.realByToken fragments)
    (retraced : retraceAddresses tables fragments session = some result) :
    Retraced [] fragments session (maskAddresses tables (shown fragments) session) result := by
  unfold maskAddresses
  rw [rewrite_release, maskMatch_eq]
  refine retrace_pass trivial (fun _ _ _ => assigns_tokenFor .ip _) known ?_ retraced
  rw [flatMap_text_release, flatMap_text_scan]

theorem foldlM_retraceTerm_retraced {terms : List String}
    (known : Known session.realByToken fragments)
    (retraced : terms.foldlM retraceTerm (fragments, session) = some result) :
    Retraced [] fragments session (terms.foldl maskTerm (shown fragments, session)) result := by
  induction terms generalizing fragments session with
  | nil =>
      obtain rfl := Option.some.inj retraced
      exact Retraced.refl fragments session
  | cons term terms ih =>
      rw [List.foldlM_cons] at retraced
      obtain ⟨⟨middle, next⟩, first, rest⟩ := Option.bind_eq_some_iff.1 retraced
      have firstRetraced := retraceTerm_retraced known first
      have restRetraced := ih (firstRetraced.known_all known) rest
      rw [List.foldl_cons, firstRetraced.shows]
      exact firstRetraced.trans restRetraced

theorem retraceText_retraced {text : String} {next : PseudonymSession}
    (retraced : retraceText tables policy session text = some (fragments, next)) :
    maskText tables policy session text = (String.ofList (shown fragments), next) ∧
      original fragments = text.toList ∧ session.Extends next ∧
        Known next.realByToken fragments := by
  have plain : ∀ characters : List Char,
      shown (characters.map .plain) = characters ∧ original (characters.map .plain) = characters ∧
        Known session.realByToken (characters.map .plain) := by
    intro characters
    refine ⟨?_, ?_, ?_⟩
    · simp [shown, List.flatMap_map, Fragment.shown]
    · simp [original, List.flatMap_map, Fragment.original]
    · simp [Known]
  obtain ⟨plainShown, plainOriginal, plainKnown⟩ := plain text.toList
  simp only [retraceText, Option.bind_eq_bind, Option.bind_eq_some_iff, Prod.exists] at retraced
  obtain ⟨afterTerms, termSession, terms, afterHosts, hostSession, hosts, addresses⟩ := retraced
  have termsRetraced := foldlM_retraceTerm_retraced plainKnown terms
  have hostsRetraced := retraceHosts_retraced (termsRetraced.known_all plainKnown) hosts
  have earlier := termsRetraced.trans hostsRetraced
  have whole : Retraced [] (text.toList.map .plain) session
      (if policy.maskIps then maskAddresses tables (shown afterHosts) hostSession
        else (shown afterHosts, hostSession)) (fragments, next) := by
    by_cases masksIps : policy.maskIps = true
    · rw [if_pos masksIps] at addresses ⊢
      exact earlier.trans (retraceAddresses_retraced (earlier.known_all plainKnown) addresses)
    · rw [if_neg masksIps] at addresses ⊢
      obtain ⟨rfl, rfl⟩ := Prod.mk.inj (Option.some.inj addresses)
      exact earlier.trans (Retraced.refl _ _)
  refine ⟨?_, ?_, whole.remembers, whole.known_all plainKnown⟩
  · rw [maskText_eq]
    rw [plainShown] at termsRetraced
    simp only [termsRetraced.shows, hostsRetraced.shows, whole.shows]
  · rw [← plainOriginal]
    exact whole.restores.symm

end Passes

theorem maskTexts_restored {tables : CharacterTables} {policy : PseudonymPolicy}
    {session : PseudonymSession} {texts : List String}
    (free : ∀ text ∈ texts, containsToken tables text = false)
    (apart : placeholdersApart tables policy session texts = true) :
    session.Extends (maskTexts tables policy session texts).2 ∧
      ∀ later : PseudonymSession, (maskTexts tables policy session texts).2.Extends later →
        (maskTexts tables policy session texts).1.map
          (fun masked => unmaskTextWithMap tables masked later.mapping) = texts := by
  induction texts generalizing session with
  | nil => exact ⟨PseudonymSession.Extends.refl session, fun _ _ => rfl⟩
  | cons text texts ih =>
      simp only [placeholdersApart] at apart
      split at apart
      · contradiction
      · rename_i fragments next retraced
        simp only [Bool.and_eq_true] at apart
        obtain ⟨shows, stands, remembers, known⟩ := retraceText_retraced retraced
        obtain ⟨restRemembers, restored⟩ :=
          ih (fun other member => free other (List.mem_cons_of_mem _ member)) apart.2
        simp only [maskTexts, shows, List.map_cons]
        refine ⟨remembers.trans restRemembers, fun later extended => ?_⟩
        rw [restored later extended]
        have stillKnown : Known later.mapping fragments := by
          intro token real member
          obtain ⟨isPlaceholder, found⟩ := known token real member
          exact ⟨isPlaceholder, extended token real (restRemembers token real found)⟩
        have tokenFree : ∀ token, TokenShaped tables token → ¬ token <:+: original fragments := by
          rw [stands]
          exact fun token => not_infix_of_containsToken_eq_false (free text (by simp))
        rw [unmaskTextWithMap_eq, String.toList_ofList,
          unmask_shown [] stillKnown apart.1 tokenFree, stands, String.ofList_toList]

/-- Masking is reversible for every policy and all texts without tokens in which the
placeholders stay apart: the mapping of the session restores every text. -/
theorem unmask_maskTexts (tables : CharacterTables) (policy : PseudonymPolicy)
    (texts : List String) (free : ∀ text ∈ texts, containsToken tables text = false)
    (apart : placeholdersApart tables policy .fresh texts = true) :
    let masked := (maskTexts tables policy .fresh texts).1
    let session := (maskTexts tables policy .fresh texts).2
    masked.map (fun text => unmaskTextWithMap tables text session.mapping) = texts :=
  (maskTexts_restored free apart).2 _ (PseudonymSession.Extends.refl _)

/-! ## A placeholder that is not found again -/

def samplePolicy : PseudonymPolicy :=
  .fromConfig (.ascii ⟨[], [], [], []⟩) ⟨true, true, ".corp.example", "AtlasPrime"⟩

/-- Masking is not reversible for all texts without tokens: a placeholder that runs
into the word behind it stays in the text. -/
theorem glued_placeholder_stays :
    ¬ ∀ (tables : CharacterTables) (policy : PseudonymPolicy) (texts : List String),
      (∀ text ∈ texts, containsToken tables text = false) →
        let masked := (maskTexts tables policy .fresh texts).1
        let session := (maskTexts tables policy .fresh texts).2
        masked.map (fun text => unmaskTextWithMap tables text session.mapping) = texts := by
  intro reversible
  have restored := reversible .ascii samplePolicy ["AtlasPrimes"] (by decide +kernel)
  exact absurd restored (by decide +kernel)

def sampleTexts : List String :=
  ["AtlasPrime at 10.0.0.7", "x.corp.example: 10.0.0.7"]

/-- The placeholders of both texts stay apart, and the texts are restored. -/
theorem unmask_maskTexts_sampleTexts :
    placeholdersApart .ascii samplePolicy .fresh sampleTexts = true ∧
      (maskTexts .ascii samplePolicy .fresh sampleTexts).1.map
          (fun text => unmaskTextWithMap .ascii text
            (maskTexts .ascii samplePolicy .fresh sampleTexts).2.mapping) = sampleTexts := by
  have apart : placeholdersApart .ascii samplePolicy .fresh sampleTexts = true := by
    decide +kernel
  exact ⟨apart, unmask_maskTexts .ascii samplePolicy sampleTexts (by decide +kernel) apart⟩

end Pseudonymizer

end WebhookWise
