import WebhookWise.RenderedJson
import WebhookWise.PythonValues

/-!
# What Python makes of JSON values

Truth, `str` and `repr` of what a JSON reader returns, and the operations on texts that may hold
unpaired surrogates.
-/

open SurrogateTexts RenderedJson

namespace PythonTexts

/-- What the standard library answers. -/
structure TextRuntime where
  lower : PyText → PyText
  reprStr : PyText → PyText
  /-- A text that is printed has no surrogate: these are written as escapes. -/
  reprStr_encodable : ∀ text, (reprStr text).IsEncodable

def TextRuntime.ascii : TextRuntime where
  lower text := text.map fun
    | .scalar character => .scalar character.toLower
    | .surrogate half => .surrogate half
  reprStr text :=
    .scalar '\'' :: ((text.flatMap fun
      | .scalar character => [character]
      | .surrogate half => '\\' :: 'u' :: Nat.toDigits 16 (0xD800 + half)).map PyChar.scalar ++
        [.scalar '\''])
  reprStr_encodable text := by
    simp only [PyText.isEncodable_cons, PyText.isEncodable_append, PyText.isEncodable_nil]
    refine ⟨rfl, fun character member => ?_, rfl, trivial⟩
    obtain ⟨letter, -, rfl⟩ := List.mem_map.1 member
    rfl

abbrev Entries := List (PyText × PyJson)

/-- `bool(value)`. -/
def truthy : PyJson → Bool
  | .null => false
  | .bool value => value
  | .int value => value != 0
  | .float (.finite printed _) => printed != ['0', '.', '0'] && printed != ['-', '0', '.', '0']
  | .float (.infinity _) => true
  | .float .nan => true
  | .str text => !text.isEmpty
  | .list items => !items.isEmpty
  | .dict entries => !entries.isEmpty

def boolText (value : Bool) : PyText :=
  if value then PyText.ofString "True" else PyText.ofString "False"

/-- `repr(value)` of a float. -/
def floatRepr : PyFloat → PyText
  | .finite printed _ => printed.map .scalar
  | .infinity false => PyText.ofString "inf"
  | .infinity true => PyText.ofString "-inf"
  | .nan => PyText.ofString "nan"

section

variable (runtime : TextRuntime)

mutual

/-- `repr(value)`. -/
def pyRepr : PyJson → PyText
  | .null => PyText.ofString "None"
  | .bool value => boolText value
  | .int value => (intText value).map .scalar
  | .float value => floatRepr value
  | .str text => runtime.reprStr text
  | .list [] => PyText.ofString "[]"
  | .list (item :: items) => .scalar '[' :: (pyRepr item ++ (reprItems items ++ [.scalar ']']))
  | .dict [] => PyText.ofString "{}"
  | .dict ((key, value) :: entries) =>
      .scalar '{' :: (runtime.reprStr key ++ PyText.ofString ": " ++
        (pyRepr value ++ (reprEntries entries ++ [.scalar '}'])))

def reprItems : List PyJson → PyText
  | [] => []
  | item :: items => PyText.ofString ", " ++ (pyRepr item ++ reprItems items)

def reprEntries : Entries → PyText
  | [] => []
  | (key, value) :: entries =>
      PyText.ofString ", " ++ (runtime.reprStr key ++ PyText.ofString ": " ++
        (pyRepr value ++ reprEntries entries))

end

/-- `str(value)`. -/
def pyStr : PyJson → PyText
  | .str text => text
  | value => pyRepr runtime value

/-- `str(values[0] or values[1] or … or fallback)`, where a missing key is `None`. -/
def strOfFirst (values : List (Option PyJson)) (fallback : PyText) : PyText :=
  ((values.filterMap id).find? truthy).elim fallback (pyStr runtime)

end

/-- `first or second`. -/
def orText (first second : PyText) : PyText :=
  if first.isEmpty then second else first

def isSpace : PyChar → Bool
  | .scalar character => WebhookWise.isPythonSpace character
  | .surrogate _ => false

/-- `text.strip()`. -/
def stripText (text : PyText) : PyText :=
  ((text.dropWhile isSpace).reverse.dropWhile isSpace).reverse

/-- `part in text`. -/
def isWithin (part text : PyText) : Bool :=
  text.tails.any part.isPrefixOf

/-! ## Texts without surrogates -/

section

variable (runtime : TextRuntime)

theorem isEncodable_take {text : PyText} (encodable : text.IsEncodable) (count : Nat) :
    PyText.IsEncodable (text.take count) :=
  PyText.IsEncodable.mono encodable (List.take_subset count text)

theorem isEncodable_stripText {text : PyText} (encodable : text.IsEncodable) :
    (stripText text).IsEncodable := by
  refine PyText.IsEncodable.mono encodable fun character member => ?_
  rw [stripText, List.mem_reverse] at member
  exact (List.dropWhile_suffix _).subset
    (List.mem_reverse.1 ((List.dropWhile_suffix _).subset member))

theorem isEncodable_orText {first second : PyText} (isFirst : first.IsEncodable)
    (isSecond : second.IsEncodable) : (orText first second).IsEncodable := by
  unfold orText
  split
  · exact isSecond
  · exact isFirst

theorem isEncodable_boolText (value : Bool) : (boolText value).IsEncodable := by
  cases value <;> exact PyText.isEncodable_ofString _

mutual

theorem isEncodable_pyRepr : ∀ value : PyJson, (pyRepr runtime value).IsEncodable
  | .null => PyText.isEncodable_ofString _
  | .bool value => isEncodable_boolText value
  | .int _ => PyText.isEncodable_map_scalar _
  | .float (.finite _ _) => PyText.isEncodable_map_scalar _
  | .float (.infinity false) => PyText.isEncodable_ofString _
  | .float (.infinity true) => PyText.isEncodable_ofString _
  | .float .nan => PyText.isEncodable_ofString _
  | .str text => runtime.reprStr_encodable text
  | .list [] => PyText.isEncodable_ofString _
  | .list (item :: items) => by
      simp [pyRepr, PyChar.isScalar_scalar, isEncodable_pyRepr item, isEncodable_reprItems items]
  | .dict [] => PyText.isEncodable_ofString _
  | .dict ((key, value) :: entries) => by
      simp [pyRepr, PyChar.isScalar_scalar, runtime.reprStr_encodable, PyText.isEncodable_ofString,
        isEncodable_pyRepr value, isEncodable_reprEntries entries]

theorem isEncodable_reprItems : ∀ items : List PyJson, (reprItems runtime items).IsEncodable
  | [] => PyText.isEncodable_nil
  | item :: items => by
      simp [reprItems, PyText.isEncodable_ofString, isEncodable_pyRepr item,
        isEncodable_reprItems items]

theorem isEncodable_reprEntries : ∀ entries : Entries, (reprEntries runtime entries).IsEncodable
  | [] => PyText.isEncodable_nil
  | (key, value) :: entries => by
      simp [reprEntries, PyText.isEncodable_ofString, runtime.reprStr_encodable,
        isEncodable_pyRepr value, isEncodable_reprEntries entries]

end

theorem isEncodable_pyStr {value : PyJson} (encodable : IsEncodable value) :
    (pyStr runtime value).IsEncodable := by
  cases value with
  | str text => exact isEncodable_str.1 encodable
  | _ => exact isEncodable_pyRepr runtime _

theorem isEncodable_strOfFirst {values : List (Option PyJson)} {fallback : PyText}
    (encodable : ∀ value, some value ∈ values → IsEncodable value)
    (isFallback : fallback.IsEncodable) : (strOfFirst runtime values fallback).IsEncodable := by
  unfold strOfFirst
  cases found : (values.filterMap id).find? truthy with
  | none => exact isFallback
  | some value =>
      obtain ⟨_, member, rfl⟩ := List.mem_filterMap.1 (List.mem_of_find?_eq_some found)
      exact isEncodable_pyStr runtime (encodable value member)

end

end PythonTexts
