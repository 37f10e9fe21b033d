import Mathlib.Data.List.Dedup
import Mathlib.Data.List.Sort
import WebhookWise.PythonValues
import WebhookWise.TextRewriting

/-!
# Reversible identifier masking

Operator-named terms, hosts under configured suffixes and IPv4 addresses are replaced by stable
placeholders, in three passes over the text.  A session remembers what they stand for; the answer is
unmasked by one pass over its placeholders.
-/

namespace WebhookWise

open TextRewriting

namespace Pseudonymizer

/-- What the module `re` takes from the Unicode database.  The laws say what it
does on ASCII, and that a decimal digit is a word character. -/
structure CharacterTables where
  /-- `\w` -/
  isWord : Char → Bool
  /-- `\d` -/
  isDecimal : Char → Bool
  /-- Characters which match each other under `re.IGNORECASE`. -/
  sameIgnoringCase : Char → Char → Bool
  isWord_ascii : ∀ character : Char, character.toNat < 128 →
    isWord character = (character.isAlphanum || character = '_')
  isDecimal_ascii : ∀ character : Char, character.toNat < 128 →
    isDecimal character = character.isDigit
  isWord_of_isDecimal : ∀ character, isDecimal character = true → isWord character = true

def CharacterTables.ascii : CharacterTables where
  isWord character := character.isAlphanum || character = '_'
  isDecimal character := character.isDigit
  sameIgnoringCase first second := first.toLower = second.toLower
  isWord_ascii _ _ := rfl
  isDecimal_ascii _ _ := rfl
  isWord_of_isDecimal character decimal := by simp [Char.isAlphanum, decimal]

inductive IdentifierKind where
  | term
  | host
  | ip
deriving DecidableEq, Repr

def IdentifierKind.word : IdentifierKind → String
  | term => "term"
  | host => "host"
  | ip => "ip"

/-- `anon-{kind}-{number}`. -/
def placeholder (kind : IdentifierKind) (number : Nat) : String :=
  "anon-" ++ kind.word ++ "-" ++ toString number

theorem toList_placeholder (kind : IdentifierKind) (number : Nat) :
    (placeholder kind number).toList =
      "anon-".toList ++ (kind.word.toList ++ ("-".toList ++ Nat.toDigits 10 number)) := by
  simp [placeholder, ← Nat.toList_repr]

theorem placeholder_injective {kind other : IdentifierKind} {number otherNumber : Nat}
    (same : placeholder kind number = placeholder other otherNumber) :
    kind = other ∧ number = otherNumber := by
  have sameCharacters := congrArg String.toList same
  simp only [toList_placeholder, List.append_cancel_left_eq] at sameCharacters
  have sameKind : kind = other := by
    cases kind <;> cases other <;> simp [IdentifierKind.word] at sameCharacters ⊢
  subst sameKind
  simp only [List.append_cancel_left_eq] at sameCharacters
  have sameNumber := congrArg (fun digits => Nat.ofDigitChars 10 digits 0) sameCharacters
  simp only [Nat.ofDigitChars_ten_toDigits] at sameNumber
  exact ⟨rfl, sameNumber⟩

/-! ## Policies -/

/-- `PseudonymPolicy`, as `from_config` builds it: no suffix and no term is empty,
and the terms are distinct, longer ones first. -/
structure PseudonymPolicy where
  enabled : Bool
  maskIps : Bool
  hostSuffixes : List String
  terms : List String
  hostSuffixes_ne_empty : ∀ suffix ∈ hostSuffixes, suffix ≠ ""
  terms_ne_empty : ∀ term ∈ terms, term ≠ ""
  terms_nodup : terms.Nodup
  terms_sorted : terms.Pairwise fun longer shorter => shorter.length ≤ longer.length

/-- The `AI_PSEUDONYMIZE_*` settings, with the runtime overrides applied. -/
structure PseudonymSettings where
  enabled : Bool
  maskIps : Bool
  hostSuffixes : String
  terms : String

/-- `text.lstrip(".")`. -/
def withoutLeadingDots (text : String) : String :=
  String.ofList (text.toList.dropWhile (· = '.'))

/-- One term is at least as long as the other. -/
def LongerFirst (longer shorter : String) : Prop :=
  shorter.length ≤ longer.length

instance : DecidableRel LongerFirst :=
  fun longer shorter => inferInstanceAs (Decidable (shorter.length ≤ longer.length))

instance : Std.Total LongerFirst where
  total longer shorter := Nat.le_total shorter.length longer.length

instance : IsTrans String LongerFirst where
  trans _ _ _ first second := Nat.le_trans second first

/-- `PseudonymPolicy.from_config`.  Terms of one length keep the order in which the
set of terms lists them, which is not specified; here it is that of the setting. -/
def PseudonymPolicy.fromConfig (python : PythonRuntime) (settings : PseudonymSettings) :
    PseudonymPolicy where
  enabled := settings.enabled
  maskIps := settings.maskIps
  -- `s.strip(".")` is empty exactly when `s.lstrip(".")` is.
  hostSuffixes := ((splitCsvLower python settings.hostSuffixes).map withoutLeadingDots).filter
    fun suffix => suffix ≠ ""
  terms := (((splitOnCommas settings.terms).map strip).filter fun term => term ≠ "").dedup.insertionSort
    LongerFirst
  hostSuffixes_ne_empty suffix member := by simpa using (List.mem_filter.1 member).2
  terms_ne_empty term member := by
    rw [List.mem_insertionSort, List.mem_dedup] at member
    simpa using (List.mem_filter.1 member).2
  terms_nodup := (List.perm_insertionSort LongerFirst _).nodup_iff.2 (List.nodup_dedup _)
  terms_sorted := List.pairwise_insertionSort LongerFirst _

def PseudonymPolicy.active (policy : PseudonymPolicy) : Bool :=
  policy.enabled && (policy.maskIps || !policy.hostSuffixes.isEmpty || !policy.terms.isEmpty)

/-! ## Sessions -/

/-- The assignments of a `PseudonymSession`.  Every placeholder handed out has one
of the numbers counted so far, and what an identifier was replaced by still stands
for that identifier. -/
structure PseudonymSession where
  tokenByReal : PyDict String
  realByToken : PyDict String
  counters : IdentifierKind → Nat
  counted : ∀ token real, realByToken.get? token = some real →
    ∃ kind number, token = placeholder kind number ∧ number ≤ counters kind
  reversible : ∀ real token, tokenByReal.get? real = some token →
    realByToken.get? token = some real

namespace PseudonymSession

def fresh : PseudonymSession where
  tokenByReal := []
  realByToken := []
  counters _ := 0
  counted := by simp [PyDict.get?]
  reversible := by simp [PyDict.get?]

def mapping (session : PseudonymSession) : PyDict String :=
  session.realByToken

variable (session : PseudonymSession) (kind : IdentifierKind)

theorem get?_next :
    session.realByToken.get? (placeholder kind (session.counters kind + 1)) = none := by
  cases found : session.realByToken.get? (placeholder kind (session.counters kind + 1)) with
  | none => rfl
  | some real =>
      obtain ⟨other, number, same, bounded⟩ := session.counted _ _ found
      obtain ⟨rfl, rfl⟩ := placeholder_injective same
      omega

private theorem counted_next (real token otherReal : String)
    (found : (session.realByToken.set (placeholder kind (session.counters kind + 1)) real).get?
      token = some otherReal) :
    ∃ other number, token = placeholder other number ∧
      number ≤ if other = kind then session.counters kind + 1 else session.counters other := by
  rw [PyDict.get?_set] at found
  split at found
  · exact ⟨kind, session.counters kind + 1, ‹_›, (if_pos rfl).ge⟩
  · obtain ⟨other, number, rfl, bounded⟩ := session.counted token otherReal found
    refine ⟨other, number, rfl, ?_⟩
    split
    · rename_i sameKind
      subst sameKind
      omega
    · exact bounded

private theorem reversible_next (real otherReal token : String)
    (found : (session.tokenByReal.set real (placeholder kind (session.counters kind + 1))).get?
      otherReal = some token) :
    (session.realByToken.set (placeholder kind (session.counters kind + 1)) real).get? token =
      some otherReal := by
  rw [PyDict.get?_set] at found ⊢
  split at found
  · rename_i sameReal
    simp only [Option.some.injEq] at found
    simp [← found, sameReal]
  · have known := session.reversible otherReal token found
    rw [if_neg]
    · exact known
    · rintro rfl
      have unused := session.get?_next kind
      rw [known] at unused
      contradiction

def tokenFor (session : PseudonymSession) (kind : IdentifierKind) (real : String) :
    String × PseudonymSession :=
  match session.tokenByReal.get? real with
  | some token => (token, session)
  | none =>
      let number := session.counters kind + 1
      let token := placeholder kind number
      (token, {
        tokenByReal := session.tokenByReal.set real token
        realByToken := session.realByToken.set token real
        counters := fun other => if other = kind then number else session.counters other
        counted := session.counted_next kind real
        reversible := session.reversible_next kind real })

/-- Later sessions know every placeholder of this one. -/
def Extends (session later : PseudonymSession) : Prop :=
  ∀ token real, session.realByToken.get? token = some real →
    later.realByToken.get? token = some real

theorem Extends.refl (session : PseudonymSession) : session.Extends session :=
  fun _ _ => id

theorem Extends.trans {first second third : PseudonymSession} (earlier : first.Extends second)
    (later : second.Extends third) : first.Extends third :=
  fun token real known => later token real (earlier token real known)

theorem tokenFor_spec (real : String) :
    (session.tokenFor kind real).2.realByToken.get? (session.tokenFor kind real).1 = some real ∧
      session.Extends (session.tokenFor kind real).2 := by
  simp only [tokenFor]
  split
  · rename_i token found
    exact ⟨session.reversible real token found, Extends.refl session⟩
  · refine ⟨by simp [PyDict.get?_set], ?_⟩
    intro token otherReal known
    simp only [PyDict.get?_set]
    rw [if_neg]
    · exact known
    · rintro rfl
      rw [session.get?_next kind] at known
      contradiction

end PseudonymSession

/-! ## Patterns -/

section Patterns

variable (tables : CharacterTables)

/-- `anon-(?:term|host|ip)-\d+` -/
def tokenShape : Regex Char :=
  .seq (.word "anon-".toList)
    (.seq (.alt (.word "term".toList) (.alt (.word "host".toList) (.word "ip".toList)))
      (.seq (.word "-".toList) (.plus tables.isDecimal)))

/-- `_TOKEN_RE`: `\banon-(?:term|host|ip)-\d+\b` -/
def tokenPattern : Regex Char :=
  .seq (.boundary tables.isWord) (.seq (tokenShape tables) (.boundary tables.isWord))

/-- `\d{1,3}` -/
def upToThreeDecimals : Regex Char :=
  .seq (.satisfying tables.isDecimal)
    (.optional (.seq (.satisfying tables.isDecimal) (.optional (.satisfying tables.isDecimal))))

/-- `_IPV4_RE`: `\b(?:\d{1,3}\.){3}\d{1,3}\b` -/
def ipv4Pattern : Regex Char :=
  let group := Regex.seq (upToThreeDecimals tables) (.word ".".toList)
  .seq (.boundary tables.isWord)
    (.seq group (.seq group (.seq group
      (.seq (upToThreeDecimals tables) (.boundary tables.isWord)))))

def asciiAlphanumerics : List Char :=
  "ABCDEFGHIJKLMNOPQRSTUVWXYZabcdefghijklmnopqrstuvwxyz0123456789".toList

/-- A class of characters under `re.IGNORECASE`. -/
def anyIgnoringCase (characters : List Char) (character : Char) : Bool :=
  characters.any fun member => tables.sameIgnoringCase member character

/-- Ordered choice between several expressions. -/
def oneOf : List (Regex Char) → Regex Char
  | [] => .satisfying fun _ => false
  | [choice] => choice
  | choice :: choices => .alt choice (oneOf choices)

/-- `_build_host_pattern`:
`\b(?:[A-Za-z0-9](?:[A-Za-z0-9._-]*[A-Za-z0-9])?\.)?(?:{alternatives})\b` -/
def buildHostPattern (suffixes : List String) : Option (Regex Char) :=
  if suffixes.isEmpty then none
  else
    let alphanumeric := Regex.satisfying (anyIgnoringCase tables asciiAlphanumerics)
    let labels := Regex.star (anyIgnoringCase tables (asciiAlphanumerics ++ "._-".toList))
    let label := Regex.seq alphanumeric (.optional (.seq labels alphanumeric))
    some (.seq (.boundary tables.isWord)
      (.seq (.optional (.seq label (.word ".".toList)))
        (.seq (oneOf (suffixes.map fun suffix => .wordBy tables.sameIgnoringCase suffix.toList))
          (.boundary tables.isWord))))

end Patterns

/-! ## Masking and unmasking -/

/-- The matches of `str.replace`. -/
def literalMatcher (wanted : List Char) : Matcher Char :=
  fun _ after => if wanted.isPrefixOf after then some wanted.length else none

def ipPassthrough : List String :=
  ["0.0.0.0", "127.0.0.1", "255.255.255.255"]

def passesThrough (found : List Char) : Bool :=
  ipPassthrough.contains (String.ofList found)

def maskTerm (state : List Char × PseudonymSession) (term : String) :
    List Char × PseudonymSession :=
  let (masked, session) := state
  if occursIn term.toList masked then
    let (token, next) := session.tokenFor .term term
    rewrite (fun session _ => (token.toList, session)) next
      (scan (literalMatcher term.toList) [] 0 masked)
  else (masked, session)

/-- The callback of both substitutions by pattern. -/
def maskMatch (kind : IdentifierKind) (session : PseudonymSession) (found : List Char) :
    List Char × PseudonymSession :=
  let (token, next) := session.tokenFor kind (String.ofList found)
  (token.toList, next)

def maskHosts (tables : CharacterTables) (suffixes : List String) (masked : List Char)
    (session : PseudonymSession) : List Char × PseudonymSession :=
  match buildHostPattern tables suffixes with
  | none => (masked, session)
  | some pattern => rewrite (maskMatch .host) session (scan pattern.matcher [] 0 masked)

def maskAddresses (tables : CharacterTables) (masked : List Char) (session : PseudonymSession) :
    List Char × PseudonymSession :=
  rewrite
    (fun session found =>
      if passesThrough found then (found, session) else maskMatch .ip session found)
    session (scan (ipv4Pattern tables).matcher [] 0 masked)

def maskText (tables : CharacterTables) (policy : PseudonymPolicy) (session : PseudonymSession)
    (text : String) : String × PseudonymSession :=
  if text = "" then (text, session)
  else
    let (masked, session) := policy.terms.foldl maskTerm (text.toList, session)
    let (masked, session) := maskHosts tables policy.hostSuffixes masked session
    let (masked, session) :=
      if policy.maskIps then maskAddresses tables masked session else (masked, session)
    (String.ofList masked, session)

theorem maskText_eq (tables : CharacterTables) (policy : PseudonymPolicy)
    (session : PseudonymSession) (text : String) :
    maskText tables policy session text =
      let (masked, session) := policy.terms.foldl maskTerm (text.toList, session)
      let (masked, session) := maskHosts tables policy.hostSuffixes masked session
      let (masked, session) :=
        if policy.maskIps then maskAddresses tables masked session else (masked, session)
      (String.ofList masked, session) := by
  unfold maskText
  split
  · rename_i empty
    subst empty
    have terms : ∀ terms : List String, (∀ term ∈ terms, term ≠ "") →
        terms.foldl maskTerm ([], session) = ([], session) := by
      intro terms nonempty
      induction terms with
      | nil => rfl
      | cons term terms ih =>
          have unseen : maskTerm ([], session) term = ([], session) := by
            cases termEq : term.toList with
            | nil => exact absurd (String.toList_eq_nil_iff.1 termEq) (nonempty term (by simp))
            | cons first rest => simp [maskTerm, occursIn, termEq]
          rw [List.foldl_cons, unseen]
          exact ih fun other member => nonempty other (List.mem_cons_of_mem _ member)
    have hosts : maskHosts tables policy.hostSuffixes [] session = ([], session) := by
      unfold maskHosts
      split <;> rfl
    have addresses : maskAddresses tables [] session = ([], session) := rfl
    simp [terms policy.terms policy.terms_ne_empty, hosts, addresses]
  · rfl

/-- `build_pseudonym_session`: no session when there is nothing to mask. -/
def buildPseudonymSession (policy : PseudonymPolicy) : Option PseudonymSession :=
  if policy.active then some .fresh else none

def restored (mapping : PyDict String) : Piece Char → List Char
  | .passed character => [character]
  | .matched first rest =>
      let token := String.ofList (first :: rest)
      ((mapping.get? token).getD token).toList

def unmaskTextWithMap (tables : CharacterTables) (text : String) (mapping : PyDict String) : String :=
  if text = "" ∨ mapping = [] then text
  else
    String.ofList
      ((scan (tokenPattern tables).matcher [] 0 text.toList).flatMap (restored mapping))

theorem unmaskTextWithMap_eq (tables : CharacterTables) (text : String) (mapping : PyDict String) :
    unmaskTextWithMap tables text mapping =
      String.ofList
        ((scan (tokenPattern tables).matcher [] 0 text.toList).flatMap (restored mapping)) := by
  unfold unmaskTextWithMap
  split
  · rename_i nothing
    rcases nothing with rfl | rfl
    · rfl
    · have same : restored [] = Piece.text := by
        funext piece
        cases piece <;> simp [restored, Piece.text, PyDict.get?]
      rw [same, flatMap_text_scan, String.ofList_toList]
  · rfl

def maskTexts (tables : CharacterTables) (policy : PseudonymPolicy) :
    PseudonymSession → List String → List String × PseudonymSession
  | session, [] => ([], session)
  | session, text :: texts =>
      let (masked, next) := maskText tables policy session text
      let (rest, final) := maskTexts tables policy next texts
      (masked :: rest, final)

end Pseudonymizer

end WebhookWise
