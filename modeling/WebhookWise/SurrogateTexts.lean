import Mathlib.Data.List.Basic

/-!
# Texts with unpaired surrogates

A Python string is a list of code points, and an unpaired surrogate is one of them: a JSON
document may name one by an escape.  The strict UTF-8 encoding of a text exists just when the
text has none.
-/

namespace SurrogateTexts

/-- A code point of a Python string. -/
inductive PyChar where
  | scalar (character : Char)
  | surrogate (half : Fin 2048)
deriving DecidableEq

/-- A Python string. -/
abbrev PyText := List PyChar

instance : Coe Char PyChar := ⟨.scalar⟩

namespace PyChar

/-- `ord`. -/
def codePoint : PyChar → Nat
  | scalar character => character.toNat
  | surrogate half => 0xD800 + half

/-- What UTF-8 encodes. -/
def scalar? : PyChar → Option Char
  | scalar character => some character
  | surrogate _ => none

def isScalar (character : PyChar) : Bool :=
  character.scalar?.isSome

theorem isScalar_scalar (character : Char) : (scalar character).isScalar = true :=
  rfl

end PyChar

namespace PyText

def ofString (text : String) : PyText :=
  text.toList.map .scalar

/-- `text.encode()`, as the characters that the bytes stand for; `none` for
`UnicodeEncodeError`. -/
def encode (text : PyText) : Option String :=
  (text.mapM PyChar.scalar?).map String.ofList

/-- Whether the text has no unpaired surrogate. -/
def IsEncodable (text : PyText) : Prop :=
  ∀ character ∈ text, character.isScalar = true

instance : DecidablePred IsEncodable := fun text =>
  inferInstanceAs (Decidable (∀ character ∈ text, character.isScalar = true))

theorem isEncodable_map_scalar (characters : List Char) :
    IsEncodable (characters.map .scalar) := by
  intro character member
  obtain ⟨letter, -, rfl⟩ := List.mem_map.1 member
  rfl

theorem isEncodable_ofString (text : String) : IsEncodable (ofString text) :=
  isEncodable_map_scalar text.toList

@[simp]
theorem isEncodable_nil : IsEncodable [] :=
  fun _ member => absurd member List.not_mem_nil

@[simp]
theorem isEncodable_cons {first : PyChar} {rest : PyText} :
    IsEncodable (first :: rest) ↔ first.isScalar = true ∧ IsEncodable rest :=
  List.forall_mem_cons

@[simp]
theorem isEncodable_append {first second : PyText} :
    IsEncodable (first ++ second) ↔ IsEncodable first ∧ IsEncodable second :=
  List.forall_mem_append

theorem IsEncodable.mono {text part : PyText} (encodable : IsEncodable text)
    (subset : part ⊆ text) : IsEncodable part :=
  fun character member => encodable character (subset member)

theorem encode_eq_none_iff {text : PyText} : encode text = none ↔ ¬ IsEncodable text := by
  induction text with
  | nil => simp [encode]
  | cons first rest ih =>
      rw [isEncodable_cons, not_and]
      cases first with
      | scalar character =>
          rw [encode, List.mapM_cons] at *
          cases encoded : rest.mapM PyChar.scalar? with
          | none | some => simp_all [PyChar.scalar?, PyChar.isScalar]
      | surrogate half => simp [encode, PyChar.scalar?, PyChar.isScalar]

theorem encode_isSome_iff {text : PyText} : (encode text).isSome ↔ IsEncodable text := by
  rw [← not_iff_not, ← encode_eq_none_iff, Option.not_isSome_iff_eq_none]

theorem encode_inj {first second : PyText} {encoded : String} (one : encode first = some encoded)
    (other : encode second = some encoded) : first = second := by
  obtain ⟨characters, isFirst, rfl⟩ := Option.map_eq_some_iff.1 one
  obtain ⟨others, isSecond, same⟩ := Option.map_eq_some_iff.1 other
  obtain rfl := String.ofList_injective same
  have restored : ∀ {text : PyText} {characters : List Char},
      text.mapM PyChar.scalar? = some characters → text = characters.map .scalar := by
    intro text
    induction text with
    | nil =>
        intro characters found
        cases found
        rfl
    | cons first rest ih =>
        intro characters found
        rw [List.mapM_cons, Option.bind_eq_bind, Option.bind_eq_some_iff] at found
        obtain ⟨character, isCharacter, found⟩ := found
        rw [Option.bind_eq_bind, Option.bind_eq_some_iff] at found
        obtain ⟨more, isMore, found⟩ := found
        cases found
        cases first with
        | scalar letter =>
            cases isCharacter
            rw [List.map_cons, ih isMore]
        | surrogate half => cases isCharacter
  rw [restored isFirst, restored isSecond]

end PyText

end SurrogateTexts
