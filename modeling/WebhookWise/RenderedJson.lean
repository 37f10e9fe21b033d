import WebhookWise.SurrogateTexts
import Mathlib.Data.List.Lex
import Mathlib.Data.List.Sort
import Std.Data.String.ToNat

/-!
# JSON values with surrogates, and the texts that are rendered of them

The text that the standard library of Python renders of a value: without escapes for what is not
ASCII, with a space after every comma and colon.  A text is the text of one value only.
-/

namespace RenderedJson

open SurrogateTexts

/-! ## Values -/

/-- The text of a finite float, as `float.__repr__` prints it. -/
def IsFloatText (text : List Char) : Prop :=
  (∀ character ∈ text, character.isDigit ∨ character ∈ ['-', '+', '.', 'e']) ∧
    (∃ character ∈ text, character.isDigit) ∧ ('.' ∈ text ∨ 'e' ∈ text)

inductive PyFloat where
  | finite (printed : List Char) (isText : IsFloatText printed)
  | infinity (negative : Bool)
  | nan

/-- A value that `json.loads` returns. -/
inductive PyJson where
  | null
  | bool (value : Bool)
  | int (value : Int)
  | float (value : PyFloat)
  | str (text : PyText)
  | list (items : List PyJson)
  | dict (entries : List (PyText × PyJson))

namespace PyJson

/-- `entries.get(key)`. -/
def get? (entries : List (PyText × PyJson)) (key : String) : Option PyJson :=
  (entries.find? fun entry => entry.1 = PyText.ofString key).map Prod.snd

end PyJson

/-! ## Texts -/

def hexDigit (value : Nat) : Char :=
  if value < 10 then Char.ofNat (48 + value) else Char.ofNat (87 + value)

def escapeChar : PyChar → PyText
  | .scalar '"' => PyText.ofString "\\\""
  | .scalar '\\' => PyText.ofString "\\\\"
  | .scalar '\n' => PyText.ofString "\\n"
  | .scalar '\r' => PyText.ofString "\\r"
  | .scalar '\t' => PyText.ofString "\\t"
  | .scalar character =>
      if character.toNat = 8 then PyText.ofString "\\b"
      else if character.toNat = 12 then PyText.ofString "\\f"
      else if character.toNat < 32 then
        PyText.ofString "\\u00" ++
          [.scalar (hexDigit (character.toNat / 16)), .scalar (hexDigit (character.toNat % 16))]
      else [.scalar character]
  | .surrogate half => [.surrogate half]

def quoted (text : PyText) : PyText :=
  .scalar '"' :: (text.flatMap escapeChar ++ [.scalar '"'])

def intText : Int → List Char
  | .ofNat value => value.repr.toList
  | .negSucc value => '-' :: (value + 1).repr.toList

def floatText : PyFloat → List Char
  | .finite printed _ => printed
  | .infinity false => ['I', 'n', 'f', 'i', 'n', 'i', 't', 'y']
  | .infinity true => ['-', 'I', 'n', 'f', 'i', 'n', 'i', 't', 'y']
  | .nan => ['N', 'a', 'N']

mutual

/-- `json.dumps(value, ensure_ascii=False)`. -/
def render : PyJson → PyText
  | .null => PyText.ofString "null"
  | .bool false => PyText.ofString "false"
  | .bool true => PyText.ofString "true"
  | .int value => (intText value).map .scalar
  | .float value => (floatText value).map .scalar
  | .str text => quoted text
  | .list [] => [.scalar '[', .scalar ']']
  | .list (item :: items) =>
      .scalar '[' :: (render item ++ (renderItems items ++ [.scalar ']']))
  | .dict [] => [.scalar '{', .scalar '}']
  | .dict ((key, value) :: entries) =>
      .scalar '{' :: (quoted key ++ .scalar ':' :: .scalar ' ' ::
        (render value ++ (renderEntries entries ++ [.scalar '}'])))

def renderItems : List PyJson → PyText
  | [] => []
  | item :: items => .scalar ',' :: .scalar ' ' :: (render item ++ renderItems items)

/-- The pairs after the first. -/
def renderEntries : List (PyText × PyJson) → PyText
  | [] => []
  | (key, value) :: entries =>
      .scalar ',' :: .scalar ' ' :: (quoted key ++ .scalar ':' :: .scalar ' ' ::
        (render value ++ renderEntries entries))

end

/-- Keys are compared by their code points. -/
def KeyBefore (first second : PyText × PyJson) : Prop :=
  first.1.map PyChar.codePoint ≤ second.1.map PyChar.codePoint

instance : DecidableRel KeyBefore := fun first second =>
  inferInstanceAs (Decidable (first.1.map PyChar.codePoint ≤ second.1.map PyChar.codePoint))

mutual

/-- The value with the keys of its objects in order, at every depth. -/
def sortKeys : PyJson → PyJson
  | .list items => .list (sortItems items)
  | .dict entries => .dict ((sortEntries entries).insertionSort KeyBefore)
  | value => value

def sortItems : List PyJson → List PyJson
  | [] => []
  | item :: items => sortKeys item :: sortItems items

def sortEntries : List (PyText × PyJson) → List (PyText × PyJson)
  | [] => []
  | (key, value) :: entries => (key, sortKeys value) :: sortEntries entries

end

/-! ## The order of keys -/

instance : Std.Total KeyBefore where
  total first second := le_total (first.1.map PyChar.codePoint) (second.1.map PyChar.codePoint)

instance : IsTrans (PyText × PyJson) KeyBefore where
  trans _ _ _ := le_trans

/-! ## The text of a string -/

variable {after other : PyText} {character : Char}

def hexValue : PyChar → Nat
  | .scalar character =>
      if character.toNat < 58 then character.toNat - 48 else character.toNat - 87
  | .surrogate _ => 0

def unescape : PyChar → PyChar
  | .scalar 'n' => .scalar '\n'
  | .scalar 'r' => .scalar '\r'
  | .scalar 't' => .scalar '\t'
  | .scalar 'b' => .scalar (Char.ofNat 8)
  | .scalar 'f' => .scalar (Char.ofNat 12)
  | character => character

def readChar : PyText → Option (PyChar × PyText)
  | [] => none
  | .scalar '\\' :: .scalar 'u' :: _ :: _ :: high :: low :: rest =>
      some (.scalar (Char.ofNat (16 * hexValue high + hexValue low)), rest)
  | .scalar '\\' :: letter :: rest => some (unescape letter, rest)
  | character :: rest => some (character, rest)

private theorem readChar_control : ∀ code : Fin 32, ∀ rest : PyText,
    readChar (PyText.ofString "\\u00" ++
      [.scalar (hexDigit (code / 16)), .scalar (hexDigit (code % 16))] ++ rest) =
        some (.scalar (Char.ofNat code), rest) := by
  intro code rest
  have same : 16 * hexValue (.scalar (hexDigit (code / 16))) +
      hexValue (.scalar (hexDigit (code % 16))) = code := by
    revert code
    decide
  conv_rhs => rw [← same]
  rfl

private theorem readChar_plain (notEscape : character ≠ '\\') (rest : PyText) :
    readChar (.scalar character :: rest) = some (.scalar character, rest) := by
  unfold readChar
  split <;> simp_all

theorem readChar_escapeChar (character : PyChar) (rest : PyText) :
    readChar (escapeChar character ++ rest) = some (character, rest) := by
  unfold escapeChar
  split
  · rfl
  · rfl
  · rfl
  · rfl
  · rfl
  · rename_i character notQuote notEscape _ _ _
    split
    · rename_i isBackspace
      have same := Char.ofNat_toNat character
      rw [isBackspace] at same
      rw [← same]
      rfl
    split
    · rename_i isFormFeed
      have same := Char.ofNat_toNat character
      rw [isFormFeed] at same
      rw [← same]
      rfl
    split
    · rename_i isControl
      have same := readChar_control ⟨character.toNat, isControl⟩ rest
      rwa [Char.ofNat_toNat] at same
    · apply readChar_plain
      rintro rfl
      exact notEscape rfl
  · rfl

theorem escapeChar_eq_cons (character : PyChar) :
    ∃ first more, escapeChar character = first :: more ∧ first ≠ .scalar '"' := by
  unfold escapeChar
  split
  · exact ⟨_, _, rfl, by decide⟩
  · exact ⟨_, _, rfl, by decide⟩
  · exact ⟨_, _, rfl, by decide⟩
  · exact ⟨_, _, rfl, by decide⟩
  · exact ⟨_, _, rfl, by decide⟩
  · rename_i character notQuote _ _ _ _
    split
    · exact ⟨_, _, rfl, by decide⟩
    split
    · exact ⟨_, _, rfl, by decide⟩
    split
    · exact ⟨_, _, rfl, by decide⟩
    · refine ⟨_, _, rfl, ?_⟩
      intro same
      injection same with same
      exact notQuote same
  · exact ⟨_, _, rfl, by simp⟩

private theorem escaped_cancel {first second : PyText}
    (same : first.flatMap escapeChar ++ .scalar '"' :: after =
      second.flatMap escapeChar ++ .scalar '"' :: other) : first = second ∧ after = other := by
  induction first generalizing second with
  | nil =>
      cases second with
      | nil => exact ⟨rfl, (List.cons.inj same).2⟩
      | cons character rest =>
          obtain ⟨head, more, written, notQuote⟩ := escapeChar_eq_cons character
          rw [List.flatMap_cons, written] at same
          exact absurd (List.cons.inj same).1.symm notQuote
  | cons character rest ih =>
      cases second with
      | nil =>
          obtain ⟨head, more, written, notQuote⟩ := escapeChar_eq_cons character
          rw [List.flatMap_cons, written] at same
          exact absurd (List.cons.inj same).1 notQuote
      | cons next others =>
          have read := congrArg readChar same
          rw [List.flatMap_cons, List.flatMap_cons, List.append_assoc, List.append_assoc,
            readChar_escapeChar, readChar_escapeChar] at read
          obtain ⟨rfl, sameRest⟩ := Prod.mk.inj (Option.some.inj read)
          obtain ⟨rfl, sameAfter⟩ := ih sameRest
          exact ⟨rfl, sameAfter⟩

theorem quoted_cancel {first second : PyText}
    (same : quoted first ++ after = quoted second ++ other) : first = second ∧ after = other := by
  simp only [quoted, List.cons_append, List.append_assoc, List.nil_append] at same
  exact escaped_cancel (List.cons.inj same).2

/-! ## Words -/

variable {value : PyJson} {word : List Char}

/-- What a number and the three names are written with. -/
def isWordChar : PyChar → Bool
  | .scalar character => character.isAlphanum || ['-', '+', '.'].contains character
  | .surrogate _ => false

/-- The text of a value that is neither a string nor a container. -/
def wordOf? : PyJson → Option (List Char)
  | .null => some ['n', 'u', 'l', 'l']
  | .bool false => some ['f', 'a', 'l', 's', 'e']
  | .bool true => some ['t', 'r', 'u', 'e']
  | .int value => some (intText value)
  | .float value => some (floatText value)
  | _ => none

theorem render_of_word (isWord : wordOf? value = some word) : render value = word.map .scalar := by
  cases value with
  | null =>
      cases isWord
      rfl
  | bool value =>
      cases value <;>
        · cases isWord
          rfl
  | int | float =>
      cases isWord
      rfl
  | str | list | dict => cases isWord

private theorem isDigit_of_mem_repr {value : Nat} (member : character ∈ value.repr.toList) :
    character.isDigit = true := by
  rw [Nat.toList_repr] at member
  exact Nat.isDigit_of_mem_toDigits (by decide) (by decide) member

private theorem mem_intText {value : Int} (member : character ∈ intText value) :
    character.isDigit = true ∨ character = '-' := by
  cases value with
  | ofNat value => exact Or.inl (isDigit_of_mem_repr member)
  | negSucc value =>
      rcases List.mem_cons.1 member with sign | digit
      · exact Or.inr sign
      · exact Or.inl (isDigit_of_mem_repr digit)

private theorem isWordChar_of_isDigit (digit : character.isDigit = true) :
    isWordChar (.scalar character) = true := by
  simp [isWordChar, Char.isAlphanum, digit]

private theorem repr_ne_nil (value : Nat) : value.repr.toList ≠ [] := by
  intro empty
  have length := congrArg List.length empty
  rw [String.length_toList] at length
  exact Nat.ne_of_gt Nat.length_repr_pos length

private theorem intText_ne_nil (value : Int) : intText value ≠ [] := by
  cases value with
  | ofNat value => exact repr_ne_nil value
  | negSucc value => exact List.cons_ne_nil _ _

theorem intText_injective {first second : Int} (same : intText first = intText second) :
    first = second := by
  have unsigned : ∀ {value other : Nat}, value.repr.toList ≠ '-' :: other.repr.toList := by
    intro value other signed
    have digit : '-'.isDigit = true :=
      isDigit_of_mem_repr (signed ▸ List.mem_cons_self : '-' ∈ value.repr.toList)
    exact absurd digit (by decide)
  cases first with
  | ofNat value =>
      cases second with
      | ofNat other => rw [Nat.repr_injective (String.toList_injective same)]
      | negSucc other => exact absurd same unsigned
  | negSucc value =>
      cases second with
      | ofNat other => exact absurd same.symm unsigned
      | negSucc other =>
          have digits := Nat.repr_injective (String.toList_injective (List.cons.inj same).2)
          rw [Nat.succ.inj digits]

theorem word_spec (isWord : wordOf? value = some word) :
    word ≠ [] ∧ ∀ character ∈ word, isWordChar (.scalar character) = true := by
  have named : ∀ {name : List Char}, name ≠ [] →
      name.all (fun letter => isWordChar (.scalar letter)) = true →
      name ≠ [] ∧ ∀ character ∈ name, isWordChar (.scalar character) = true :=
    fun nonempty isName => ⟨nonempty, List.all_eq_true.1 isName⟩
  cases value with
  | null =>
      cases isWord
      exact named (by decide) (by decide)
  | bool value =>
      cases value with
      | false | true =>
          cases isWord
          exact named (by decide) (by decide)
  | int value =>
      cases isWord
      refine ⟨intText_ne_nil value, fun character member => ?_⟩
      rcases mem_intText member with digit | rfl
      · exact isWordChar_of_isDigit digit
      · decide
  | float value =>
      cases isWord
      cases value with
      | finite printed isText =>
          obtain ⟨plain, ⟨figure, inText, -⟩, -⟩ := isText
          refine ⟨List.ne_nil_of_mem inText, fun character member => ?_⟩
          rcases plain character member with digit | mark
          · exact isWordChar_of_isDigit digit
          · exact (@named ['-', '+', '.', 'e'] (by decide) (by decide)).2 character mark
      | infinity negative =>
          cases negative with
          | false | true => exact named (by decide) (by decide)
      | nan => exact named (by decide) (by decide)
  | str | list | dict => cases isWord

inductive WordSort where
  | null
  | false
  | true
  | int
  | float
deriving DecidableEq

def wordSort (word : List Char) : WordSort :=
  if word = ['n', 'u', 'l', 'l'] then .null
  else if word = ['f', 'a', 'l', 's', 'e'] then .false
  else if word = ['t', 'r', 'u', 'e'] then .true
  else if word.any fun character => ['.', 'e', 'I', 'N'].contains character then .float
  else .int

def sortOf : PyJson → WordSort
  | .null => .null
  | .bool false => .false
  | .bool true => .true
  | .float _ => .float
  | _ => .int

private theorem wordSort_intText (value : Int) : wordSort (intText value) = .int := by
  have lacks : ∀ character : Char, character.isDigit = false → character ≠ '-' →
      character ∉ intText value := by
    intro character noDigit noSign member
    rcases mem_intText member with digit | sign
    · rw [noDigit] at digit
      cases digit
    · exact noSign sign
  have notNamed : ∀ {name : List Char} {character : Char}, character ∈ name →
      character.isDigit = false → character ≠ '-' → intText value ≠ name :=
    fun member noDigit noSign same => lacks _ noDigit noSign (same ▸ member)
  have unmarked : ((intText value).any fun character =>
      ['.', 'e', 'I', 'N'].contains character) = false := by
    rw [List.any_eq_false]
    intro character member marked
    have letters : character ∈ ['.', 'e', 'I', 'N'] := by simpa using marked
    rcases mem_intText member with digit | rfl
    · have none : ['.', 'e', 'I', 'N'].all (fun letter => !letter.isDigit) = true := by decide
      have noDigit := List.all_eq_true.1 none character letters
      rw [digit] at noDigit
      cases noDigit
    · exact absurd letters (by decide)
  unfold wordSort
  rw [if_neg (@notNamed _ 'n' (by decide) (by decide) (by decide)),
    if_neg (@notNamed _ 'f' (by decide) (by decide) (by decide)),
    if_neg (@notNamed _ 't' (by decide) (by decide) (by decide)), unmarked]
  rfl

private theorem ne_of_isFloatText {printed name : List Char} (isText : IsFloatText printed)
    (noDigits : (name.all fun letter => !letter.isDigit) = true) : printed ≠ name := by
  intro same
  obtain ⟨-, ⟨figure, member, digit⟩, -⟩ := isText
  have noDigit := List.all_eq_true.1 noDigits figure (same ▸ member)
  rw [digit] at noDigit
  cases noDigit

private theorem wordSort_of_isFloatText {printed : List Char} (isText : IsFloatText printed) :
    wordSort printed = .float := by
  have isMarked : (printed.any fun character =>
      ['.', 'e', 'I', 'N'].contains character) = true := by
    rw [List.any_eq_true]
    rcases isText.2.2 with point | exponent
    · exact ⟨'.', point, by decide⟩
    · exact ⟨'e', exponent, by decide⟩
  unfold wordSort
  rw [if_neg (ne_of_isFloatText isText (by decide)), if_neg (ne_of_isFloatText isText (by decide)),
    if_neg (ne_of_isFloatText isText (by decide)), if_pos isMarked]

private theorem wordSort_floatText (value : PyFloat) : wordSort (floatText value) = .float := by
  cases value with
  | infinity negative => cases negative <;> decide
  | nan => decide
  | finite printed isText => exact wordSort_of_isFloatText isText

theorem wordSort_of_word (isWord : wordOf? value = some word) : wordSort word = sortOf value := by
  cases value with
  | null =>
      cases isWord
      decide
  | bool value =>
      cases value with
      | false | true =>
          cases isWord
          decide
  | int value =>
      cases isWord
      exact wordSort_intText value
  | float value =>
      cases isWord
      exact wordSort_floatText value
  | str | list | dict => cases isWord

private theorem floatText_injective {first second : PyFloat}
    (same : floatText first = floatText second) : first = second := by
  have special : ∀ {value : PyFloat}, (∀ printed isText, value ≠ .finite printed isText) →
      ((floatText value).all fun letter => !letter.isDigit) = true := by
    intro value notFinite
    cases value with
    | finite printed isText => exact absurd rfl (notFinite printed isText)
    | infinity negative => cases negative <;> decide
    | nan => decide
  cases first with
  | finite printed isText =>
      cases second with
      | finite other isOther =>
          cases (same : printed = other)
          rfl
      | infinity | nan => exact absurd same (ne_of_isFloatText isText (special (by simp)))
  | infinity negative =>
      cases second with
      | finite other isOther => exact absurd same.symm (ne_of_isFloatText isOther (special (by simp)))
      | infinity other =>
          cases negative <;> cases other <;>
            first | rfl | exact absurd same (by decide)
      | nan => cases negative <;> exact absurd same (by decide)
  | nan =>
      cases second with
      | finite other isOther => exact absurd same.symm (ne_of_isFloatText isOther (special (by simp)))
      | infinity negative => cases negative <;> exact absurd same (by decide)
      | nan => rfl

theorem eq_of_word {first second : PyJson} (isFirst : wordOf? first = some word)
    (isSecond : wordOf? second = some word) : first = second := by
  have sorts : sortOf first = sortOf second :=
    (wordSort_of_word isFirst).symm.trans (wordSort_of_word isSecond)
  have texts : wordOf? first = wordOf? second := isFirst.trans isSecond.symm
  cases first with
  | null =>
      cases second with
      | null => rfl
      | bool other => cases other <;> cases sorts
      | int | float => cases sorts
      | _ => cases isSecond
  | bool value =>
      cases second with
      | bool other => cases value <;> cases other <;> first | rfl | cases sorts
      | null | int | float => cases value <;> cases sorts
      | _ => cases isSecond
  | int value =>
      cases second with
      | int other => rw [intText_injective (Option.some.inj texts)]
      | null | float => cases sorts
      | bool other => cases other <;> cases sorts
      | _ => cases isSecond
  | float value =>
      cases second with
      | float other => rw [floatText_injective (Option.some.inj texts)]
      | null | int => cases sorts
      | bool other => cases other <;> cases sorts
      | _ => cases isSecond
  | str | list | dict => cases isFirst

/-! ## The text of a value ends where it ends -/

variable {character : PyChar}

inductive TextSort where
  | word
  | string
  | list
  | dict
deriving DecidableEq

def headSort (character : PyChar) : Option TextSort :=
  if character = .scalar '"' then some .string
  else if character = .scalar '[' then some .list
  else if character = .scalar '{' then some .dict
  else if isWordChar character then some .word
  else none

def textSort : PyJson → TextSort
  | .str _ => .string
  | .list _ => .list
  | .dict _ => .dict
  | _ => .word

private theorem headSort_of_isWordChar (isWord : isWordChar character = true) :
    headSort character = some .word := by
  have apart : ∀ {mark : PyChar}, isWordChar mark = false → character ≠ mark := by
    rintro mark notWord rfl
    rw [isWord] at notWord
    cases notWord
  unfold headSort
  rw [if_neg (apart (by decide)), if_neg (apart (by decide)), if_neg (apart (by decide)),
    if_pos isWord]

theorem render_eq_cons (value : PyJson) :
    ∃ first more, render value = first :: more ∧ headSort first = some (textSort value) := by
  have ofWord : ∀ {word : List Char}, wordOf? value = some word → textSort value = .word →
      ∃ first more, render value = first :: more ∧ headSort first = some (textSort value) := by
    intro word isWord isSort
    obtain ⟨nonempty, chars⟩ := word_spec isWord
    obtain ⟨first, more, rfl⟩ := List.exists_cons_of_ne_nil nonempty
    exact ⟨_, _, render_of_word isWord,
      isSort ▸ headSort_of_isWordChar (chars first List.mem_cons_self)⟩
  cases value with
  | null => exact ofWord rfl rfl
  | bool value => cases value <;> exact ofWord rfl rfl
  | int | float => exact ofWord rfl rfl
  | str text => exact ⟨_, _, rfl, rfl⟩
  | list items => cases items <;> exact ⟨_, _, rfl, rfl⟩
  | dict entries => cases entries <;> exact ⟨_, _, rfl, rfl⟩

/-- Nothing after the text belongs to its last word. -/
def Ends (after : PyText) : Prop :=
  ∀ character ∈ after.head?, isWordChar character = false

private theorem ends_cons (notWord : isWordChar character = false) (rest : PyText) :
    Ends (character :: rest) := by
  intro head isHead
  cases isHead
  exact notWord

private theorem word_cancel {first second : List Char}
    (firstChars : ∀ character ∈ first, isWordChar (.scalar character) = true)
    (secondChars : ∀ character ∈ second, isWordChar (.scalar character) = true) (ends : Ends after)
    (endsOther : Ends other)
    (same : first.map PyChar.scalar ++ after = second.map PyChar.scalar ++ other) :
    first = second ∧ after = other := by
  induction first generalizing second with
  | nil =>
      cases second with
      | nil => exact ⟨rfl, same⟩
      | cons letter letters =>
          rw [List.map_nil, List.nil_append] at same
          have notWord := ends (.scalar letter) (by rw [same]; rfl)
          rw [secondChars letter List.mem_cons_self] at notWord
          cases notWord
  | cons letter letters ih =>
      cases second with
      | nil =>
          rw [List.map_nil, List.nil_append] at same
          have notWord := endsOther (.scalar letter) (by rw [← same]; rfl)
          rw [firstChars letter List.mem_cons_self] at notWord
          cases notWord
      | cons next others =>
          obtain ⟨sameLetter, sameRest⟩ := List.cons.inj same
          cases sameLetter
          obtain ⟨rfl, sameAfter⟩ := ih
            (fun character member => firstChars character (List.mem_cons_of_mem _ member))
            (fun character member => secondChars character (List.mem_cons_of_mem _ member)) sameRest
          exact ⟨rfl, sameAfter⟩

private theorem textSort_eq {first second : PyJson}
    (same : render first ++ after = render second ++ other) : textSort first = textSort second := by
  obtain ⟨head, more, isFirst, firstSort⟩ := render_eq_cons first
  obtain ⟨otherHead, others, isSecond, secondSort⟩ := render_eq_cons second
  rw [isFirst, isSecond] at same
  rw [(List.cons.inj same).1, secondSort] at firstSort
  exact (Option.some.inj firstSort).symm

private theorem render_append_ne_cons (noSort : headSort character = none) :
    render value ++ after ≠ character :: other := by
  intro same
  obtain ⟨head, more, isText, isSort⟩ := render_eq_cons value
  rw [isText] at same
  rw [(List.cons.inj same).1, noSort] at isSort
  cases isSort

private theorem ends_renderItems (items : List PyJson) (after : PyText) :
    Ends (renderItems items ++ .scalar ']' :: after) := by
  cases items with
  | nil | cons => exact ends_cons (by decide) _

private theorem ends_renderEntries (entries : List (PyText × PyJson)) (after : PyText) :
    Ends (renderEntries entries ++ .scalar '}' :: after) := by
  cases entries with
  | nil | cons => exact ends_cons (by decide) _

private theorem eq_of_words {first second : PyJson} (isWord : wordOf? first = some word)
    (ends : Ends after) (endsOther : Ends other)
    (same : render first ++ after = render second ++ other) : first = second ∧ after = other := by
  have sorts := textSort_eq same
  have secondWord : ∃ otherWord, wordOf? second = some otherWord := by
    cases first with
    | str | list | dict => cases isWord
    | _ =>
        cases second with
        | str | list | dict => cases sorts
        | bool value => cases value <;> exact ⟨_, rfl⟩
        | _ => exact ⟨_, rfl⟩
  obtain ⟨otherWord, isOther⟩ := secondWord
  rw [render_of_word isWord, render_of_word isOther] at same
  obtain ⟨rfl, sameAfter⟩ :=
    word_cancel (word_spec isWord).2 (word_spec isOther).2 ends endsOther same
  exact ⟨eq_of_word isWord isOther, sameAfter⟩

mutual

theorem render_cancel : ∀ (first second : PyJson) {after other : PyText}, Ends after → Ends other →
    render first ++ after = render second ++ other → first = second ∧ after = other
  | .null, _, _, _, ends, endsOther, same => eq_of_words rfl ends endsOther same
  | .bool false, _, _, _, ends, endsOther, same => eq_of_words rfl ends endsOther same
  | .bool true, _, _, _, ends, endsOther, same => eq_of_words rfl ends endsOther same
  | .int _, _, _, _, ends, endsOther, same => eq_of_words rfl ends endsOther same
  | .float _, _, _, _, ends, endsOther, same => eq_of_words rfl ends endsOther same
  | .str text, second, after, other, _, _, same => by
      have sorts := textSort_eq same
      cases second with
      | str otherText =>
          obtain ⟨rfl, sameAfter⟩ := quoted_cancel same
          exact ⟨rfl, sameAfter⟩
      | _ => cases sorts
  | .list items, second, after, other, _, _, same => by
      have sorts := textSort_eq same
      cases second with
      | list others =>
          obtain ⟨rfl, sameAfter⟩ := renderList_cancel items others same
          exact ⟨rfl, sameAfter⟩
      | _ => cases sorts
  | .dict entries, second, after, other, _, _, same => by
      have sorts := textSort_eq same
      cases second with
      | dict others =>
          obtain ⟨rfl, sameAfter⟩ := renderDict_cancel entries others same
          exact ⟨rfl, sameAfter⟩
      | _ => cases sorts

theorem renderList_cancel : ∀ (items others : List PyJson) {after other : PyText},
    render (.list items) ++ after = render (.list others) ++ other → items = others ∧ after = other
  | [], [], _, _, same => ⟨rfl, List.append_cancel_left same⟩
  | [], item :: items, _, _, same => by
      simp only [render, List.cons_append, List.nil_append, List.append_assoc, List.cons.injEq,
        true_and] at same
      exact absurd same.symm (render_append_ne_cons rfl)
  | item :: items, [], _, _, same => by
      simp only [render, List.cons_append, List.nil_append, List.append_assoc, List.cons.injEq,
        true_and] at same
      exact absurd same (render_append_ne_cons rfl)
  | item :: items, next :: others, after, other, same => by
      simp only [render, List.cons_append, List.nil_append, List.append_assoc, List.cons.injEq,
        true_and] at same
      obtain ⟨rfl, sameItems⟩ :=
        render_cancel item next (ends_renderItems items after) (ends_renderItems others other) same
      obtain ⟨rfl, sameAfter⟩ := renderItems_cancel items others sameItems
      exact ⟨rfl, sameAfter⟩

theorem renderItems_cancel : ∀ (items others : List PyJson) {after other : PyText},
    renderItems items ++ .scalar ']' :: after = renderItems others ++ .scalar ']' :: other →
      items = others ∧ after = other
  | [], [], _, _, same => ⟨rfl, (List.cons.inj same).2⟩
  | [], item :: items, _, _, same => by
      cases (List.cons.inj same).1
  | item :: items, [], _, _, same => by
      cases (List.cons.inj same).1
  | item :: items, next :: others, after, other, same => by
      simp only [renderItems, List.cons_append, List.append_assoc, List.cons.injEq,
        true_and] at same
      obtain ⟨rfl, sameItems⟩ :=
        render_cancel item next (ends_renderItems items after) (ends_renderItems others other) same
      obtain ⟨rfl, sameAfter⟩ := renderItems_cancel items others sameItems
      exact ⟨rfl, sameAfter⟩

theorem renderDict_cancel : ∀ (entries others : List (PyText × PyJson)) {after other : PyText},
    render (.dict entries) ++ after = render (.dict others) ++ other →
      entries = others ∧ after = other
  | [], [], _, _, same => ⟨rfl, List.append_cancel_left same⟩
  | [], (key, value) :: entries, _, _, same => by
      simp only [render, List.cons_append, List.nil_append, List.append_assoc, List.cons.injEq,
        true_and] at same
      cases (List.cons.inj same).1
  | (key, value) :: entries, [], _, _, same => by
      simp only [render, List.cons_append, List.nil_append, List.append_assoc, List.cons.injEq,
        true_and] at same
      cases (List.cons.inj same).1
  | (key, value) :: entries, (next, nextValue) :: others, after, other, same => by
      simp only [render, List.cons_append, List.nil_append, List.append_assoc, List.cons.injEq,
        true_and] at same
      obtain ⟨rfl, sameValue⟩ := quoted_cancel same
      obtain ⟨rfl, sameEntries⟩ := render_cancel value nextValue (ends_renderEntries entries after)
        (ends_renderEntries others other) (List.cons.inj (List.cons.inj sameValue).2).2
      obtain ⟨rfl, sameAfter⟩ := renderEntries_cancel entries others sameEntries
      exact ⟨rfl, sameAfter⟩

theorem renderEntries_cancel : ∀ (entries others : List (PyText × PyJson)) {after other : PyText},
    renderEntries entries ++ .scalar '}' :: after = renderEntries others ++ .scalar '}' :: other →
      entries = others ∧ after = other
  | [], [], _, _, same => ⟨rfl, (List.cons.inj same).2⟩
  | [], (key, value) :: entries, _, _, same => by
      cases (List.cons.inj same).1
  | (key, value) :: entries, [], _, _, same => by
      cases (List.cons.inj same).1
  | (key, value) :: entries, (next, nextValue) :: others, after, other, same => by
      simp only [renderEntries, List.cons_append, List.append_assoc, List.cons.injEq,
        true_and] at same
      obtain ⟨rfl, sameValue⟩ := quoted_cancel same
      obtain ⟨rfl, sameEntries⟩ := render_cancel value nextValue (ends_renderEntries entries after)
        (ends_renderEntries others other) (List.cons.inj (List.cons.inj sameValue).2).2
      obtain ⟨rfl, sameAfter⟩ := renderEntries_cancel entries others sameEntries
      exact ⟨rfl, sameAfter⟩

end

theorem render_injective {first second : PyJson} (same : render first = render second) :
    first = second := by
  have ends : Ends [] := fun character isHead => by cases isHead
  exact (render_cancel first second ends ends (by rw [same])).1

/-! ## Values without surrogates -/

variable {entries : List (PyText × PyJson)} {text : PyText}

mutual

/-- The strings and the keys of a value. -/
def texts : PyJson → List PyText
  | .str text => [text]
  | .list items => itemTexts items
  | .dict entries => entryTexts entries
  | _ => []

def itemTexts : List PyJson → List PyText
  | [] => []
  | item :: items => texts item ++ itemTexts items

def entryTexts : List (PyText × PyJson) → List PyText
  | [] => []
  | (key, value) :: entries => key :: (texts value ++ entryTexts entries)

end

/-- No string and no key of the value has an unpaired surrogate. -/
def IsEncodable (value : PyJson) : Prop :=
  ∀ text ∈ texts value, text.IsEncodable

theorem isEncodable_str : IsEncodable (.str text) ↔ text.IsEncodable :=
  List.forall_mem_singleton

theorem mem_itemTexts {items : List PyJson} :
    text ∈ itemTexts items ↔ ∃ item ∈ items, text ∈ texts item := by
  induction items with
  | nil => simp [itemTexts]
  | cons item items ih => simp [itemTexts, ih]

theorem mem_entryTexts :
    text ∈ entryTexts entries ↔ ∃ entry ∈ entries, text = entry.1 ∨ text ∈ texts entry.2 := by
  induction entries with
  | nil => simp [entryTexts]
  | cons entry entries ih => simp [entryTexts, ih, or_assoc]

theorem isEncodable_list_iff {items : List PyJson} :
    IsEncodable (.list items) ↔ ∀ item ∈ items, IsEncodable item := by
  simp only [IsEncodable, texts, mem_itemTexts]
  constructor
  · intro encodable item member text isText
    exact encodable text ⟨item, member, isText⟩
  · rintro encodable text ⟨item, member, isText⟩
    exact encodable item member text isText

theorem isEncodable_dict_iff :
    IsEncodable (.dict entries) ↔
      ∀ entry ∈ entries, entry.1.IsEncodable ∧ IsEncodable entry.2 := by
  simp only [IsEncodable, texts, mem_entryTexts]
  constructor
  · intro encodable entry member
    exact ⟨encodable _ ⟨entry, member, Or.inl rfl⟩,
      fun text isText => encodable text ⟨entry, member, Or.inr isText⟩⟩
  · rintro encodable text ⟨entry, member, rfl | isText⟩
    · exact (encodable entry member).1
    · exact (encodable entry member).2 text isText

theorem IsEncodable.get? {key : String} (encodable : IsEncodable (.dict entries))
    (found : PyJson.get? entries key = some value) : IsEncodable value := by
  obtain ⟨entry, isEntry, rfl⟩ := Option.map_eq_some_iff.1 found
  exact (isEncodable_dict_iff.1 encodable entry (List.mem_of_find?_eq_some isEntry)).2

mutual

theorem mem_texts_sortKeys : ∀ (value : PyJson) {text : PyText},
    text ∈ texts (sortKeys value) ↔ text ∈ texts value
  | .null, _ => Iff.rfl
  | .bool _, _ => Iff.rfl
  | .int _, _ => Iff.rfl
  | .float _, _ => Iff.rfl
  | .str _, _ => Iff.rfl
  | .list items, _ => mem_itemTexts_sortItems items
  | .dict entries, text => by
      rw [sortKeys, texts, texts, ← mem_entryTexts_sortEntries entries, mem_entryTexts,
        mem_entryTexts]
      simp only [List.mem_insertionSort]

theorem mem_itemTexts_sortItems : ∀ (items : List PyJson) {text : PyText},
    text ∈ itemTexts (sortItems items) ↔ text ∈ itemTexts items
  | [], _ => Iff.rfl
  | item :: items, _ => by
      rw [sortItems, itemTexts, itemTexts, List.mem_append, List.mem_append,
        mem_texts_sortKeys item, mem_itemTexts_sortItems items]

theorem mem_entryTexts_sortEntries : ∀ (entries : List (PyText × PyJson)) {text : PyText},
    text ∈ entryTexts (sortEntries entries) ↔ text ∈ entryTexts entries
  | [], _ => Iff.rfl
  | (key, value) :: entries, _ => by
      rw [sortEntries, entryTexts, entryTexts, List.mem_cons, List.mem_cons, List.mem_append,
        List.mem_append, mem_texts_sortKeys value, mem_entryTexts_sortEntries entries]

end

theorem IsEncodable.sortKeys (encodable : IsEncodable value) : IsEncodable (sortKeys value) :=
  fun text member => encodable text ((mem_texts_sortKeys value).1 member)

theorem isEncodable_escapeChar :
    (escapeChar character).IsEncodable ↔ character.isScalar = true := by
  unfold escapeChar
  split
  · decide
  · decide
  · decide
  · decide
  · decide
  · split
    · exact iff_of_true (by decide) rfl
    split
    · exact iff_of_true (by decide) rfl
    split
    · simp [PyText.isEncodable_ofString, PyChar.isScalar, PyChar.scalar?]
    · simp
  · simp

theorem isEncodable_quoted : (quoted text).IsEncodable ↔ text.IsEncodable := by
  have escaped : PyText.IsEncodable (text.flatMap escapeChar) ↔ text.IsEncodable := by
    induction text with
    | nil => rfl
    | cons character rest ih =>
        rw [List.flatMap_cons, PyText.isEncodable_append, PyText.isEncodable_cons, ih,
          isEncodable_escapeChar]
  simp [quoted, escaped, PyChar.isScalar, PyChar.scalar?]

mutual

theorem isEncodable_render : ∀ value : PyJson, (render value).IsEncodable ↔ IsEncodable value
  | .null => iff_of_true (by decide) (fun _ member => absurd member List.not_mem_nil)
  | .bool true => iff_of_true (by decide) (fun _ member => absurd member List.not_mem_nil)
  | .bool false => iff_of_true (by decide) (fun _ member => absurd member List.not_mem_nil)
  | .int _ =>
      iff_of_true (PyText.isEncodable_map_scalar _) (fun _ member => absurd member List.not_mem_nil)
  | .float _ =>
      iff_of_true (PyText.isEncodable_map_scalar _) (fun _ member => absurd member List.not_mem_nil)
  | .str _ => isEncodable_quoted.trans isEncodable_str.symm
  | .list [] => iff_of_true (by decide) (fun _ member => absurd member List.not_mem_nil)
  | .list (item :: items) => by
      simp only [render, PyText.isEncodable_cons, PyText.isEncodable_append, PyChar.isScalar_scalar,
        PyText.isEncodable_nil, isEncodable_render item, isEncodable_renderItems items,
        isEncodable_list_iff, List.forall_mem_cons, and_true, true_and]
  | .dict [] => iff_of_true (by decide) (fun _ member => absurd member List.not_mem_nil)
  | .dict ((key, value) :: entries) => by
      simp only [render, PyText.isEncodable_cons, PyText.isEncodable_append, PyChar.isScalar_scalar,
        PyText.isEncodable_nil, isEncodable_quoted, isEncodable_render value,
        isEncodable_renderEntries entries, isEncodable_dict_iff, List.forall_mem_cons, and_true,
        true_and, and_assoc]

theorem isEncodable_renderItems : ∀ items : List PyJson,
    (renderItems items).IsEncodable ↔ ∀ item ∈ items, IsEncodable item
  | [] => by simp [renderItems]
  | item :: items => by
      simp only [renderItems, PyText.isEncodable_cons, PyText.isEncodable_append, PyChar.isScalar_scalar,
        isEncodable_render item, isEncodable_renderItems items, List.forall_mem_cons, true_and]

theorem isEncodable_renderEntries : ∀ entries : List (PyText × PyJson),
    (renderEntries entries).IsEncodable ↔
      ∀ entry ∈ entries, entry.1.IsEncodable ∧ IsEncodable entry.2
  | [] => by simp [renderEntries]
  | (key, value) :: entries => by
      simp only [renderEntries, PyText.isEncodable_cons, PyText.isEncodable_append,
        PyChar.isScalar_scalar, isEncodable_quoted, isEncodable_render value,
        isEncodable_renderEntries entries, List.forall_mem_cons, true_and, and_assoc]

end

end RenderedJson
