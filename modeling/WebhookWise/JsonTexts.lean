import WebhookWise.PythonValues

/-!
# JSON texts

The texts of a JSON value, as the grammar of JSON spells them: with any white space between the
tokens and any escapes in the strings.  An object has each name once.  What a float prints as is
left open.

A text of an object is kept with its pieces, the texts between the commas.
-/

namespace WebhookWise

namespace JsonTexts

/-! ## Tokens -/

/-- White space between tokens. -/
def isBlank (character : Char) : Bool :=
  character = ' ' || character = '\t' || character = '\n' || character = '\r'

def Blank (text : List Char) : Prop :=
  ∀ character ∈ text, isBlank character = true

def shortEscape? : Char → Option Char
  | '"' => some '"'
  | '\\' => some '\\'
  | '/' => some '/'
  | 'b' => some '\x08'
  | 'f' => some '\x0c'
  | 'n' => some '\n'
  | 'r' => some '\r'
  | 't' => some '\t'
  | _ => none

def hexDigit? (character : Char) : Option Nat :=
  if character.isDigit then some (character.toNat - '0'.toNat)
  else if 'a' ≤ character ∧ character ≤ 'f' then some (character.toNat - 'a'.toNat + 10)
  else if 'A' ≤ character ∧ character ≤ 'F' then some (character.toNat - 'A'.toNat + 10)
  else none

/-- Four hexadecimal digits name a UTF-16 code unit. -/
inductive CodeUnit : Nat → List Char → Prop
  | digits {first second third fourth : Char} {w x y z : Nat} :
      hexDigit? first = some w → hexDigit? second = some x → hexDigit? third = some y →
        hexDigit? fourth = some z →
          CodeUnit (((w * 16 + x) * 16 + y) * 16 + z) [first, second, third, fourth]

inductive EscapeText : Char → List Char → Prop
  | short {letter character : Char} :
      shortEscape? letter = some character → EscapeText character ['\\', letter]
  | unicode {unit : Nat} {digits : List Char} :
      CodeUnit unit digits → ¬ (0xD800 ≤ unit ∧ unit ≤ 0xDFFF) →
        EscapeText (Char.ofNat unit) ('\\' :: 'u' :: digits)
  | surrogates {high low : Nat} {highDigits lowDigits : List Char} :
      CodeUnit high highDigits → CodeUnit low lowDigits → 0xD800 ≤ high → high ≤ 0xDBFF →
        0xDC00 ≤ low → low ≤ 0xDFFF →
          EscapeText (Char.ofNat (0x10000 + (high - 0xD800) * 0x400 + (low - 0xDC00)))
            ('\\' :: 'u' :: (highDigits ++ '\\' :: 'u' :: lowDigits))

inductive StringText : List Char → List Char → Prop
  | nil : StringText [] []
  | plain {character : Char} {text raw : List Char} :
      0x20 ≤ character.toNat → character ≠ '"' → character ≠ '\\' → StringText text raw →
        StringText (character :: text) (character :: raw)
  | escaped {character : Char} {escape text raw : List Char} :
      EscapeText character escape → StringText text raw →
        StringText (character :: text) (escape ++ raw)

def decimal (digits : List Char) : Nat :=
  digits.foldl (fun number digit => number * 10 + (digit.toNat - '0'.toNat)) 0

def Digits (text : List Char) : Prop :=
  text ≠ [] ∧ ∀ digit ∈ text, digit.isDigit = true

/-- A number without fraction or exponent has no leading zero. -/
inductive IntegerText : Int → List Char → Prop
  | unsigned {digits : List Char} :
      Digits digits → (digits.head? = some '0' → digits = ['0']) →
        IntegerText (decimal digits) digits
  | negative {digits : List Char} :
      Digits digits → (digits.head? = some '0' → digits = ['0']) →
        IntegerText (-(decimal digits : Int)) ('-' :: digits)

inductive FractionText : List Char → Prop
  | point {digits : List Char} : Digits digits → FractionText ('.' :: digits)

inductive ExponentText : List Char → Prop
  | unsigned {mark : Char} {digits : List Char} :
      mark = 'e' ∨ mark = 'E' → Digits digits → ExponentText (mark :: digits)
  | signed {mark sign : Char} {digits : List Char} :
      mark = 'e' ∨ mark = 'E' → sign = '+' ∨ sign = '-' → Digits digits →
        ExponentText (mark :: sign :: digits)

/-- A number with a fraction or an exponent. -/
inductive FloatText : List Char → Prop
  | fraction {value : Int} {whole fraction : List Char} :
      IntegerText value whole → FractionText fraction → FloatText (whole ++ fraction)
  | exponent {value : Int} {whole exponent : List Char} :
      IntegerText value whole → ExponentText exponent → FloatText (whole ++ exponent)
  | both {value : Int} {whole fraction exponent : List Char} :
      IntegerText value whole → FractionText fraction → ExponentText exponent →
        FloatText (whole ++ (fraction ++ exponent))

/-- `orjson` reads a whole number that does not fit into 64 bits as a float. -/
def IsWord (value : Int) : Prop :=
  -9223372036854775808 ≤ value ∧ value < 18446744073709551616

/-! ## Values -/

/-- Pieces with commas between them. -/
def joined : List (List Char) → List Char
  | [] => []
  | [piece] => piece
  | piece :: pieces => piece ++ ',' :: joined pieces

mutual

/-- The texts of a value; `printed` is what Python prints for a number that is read as a float. -/
inductive ValueText (printed : List Char → String) : Json → List Char → Prop
  | null : ValueText printed .null ['n', 'u', 'l', 'l']
  | true : ValueText printed (.bool true) ['t', 'r', 'u', 'e']
  | false : ValueText printed (.bool false) ['f', 'a', 'l', 's', 'e']
  | integer {value : Int} {text : List Char} :
      IntegerText value text → IsWord value → ValueText printed (.int value) text
  | wide {value : Int} {text : List Char} :
      IntegerText value text → ¬ IsWord value → ValueText printed (.float (printed text)) text
  | float {text : List Char} : FloatText text → ValueText printed (.float (printed text)) text
  | string {text : String} {raw : List Char} :
      StringText text.toList raw → ValueText printed (.str text) ('"' :: (raw ++ ['"']))
  | emptyList {blank : List Char} :
      Blank blank → ValueText printed (.list []) ('[' :: (blank ++ [']']))
  | list {items : List Json} {pieces : List (List Char)} :
      items ≠ [] → ItemsText printed items pieces →
        ValueText printed (.list items) ('[' :: (joined pieces ++ [']']))
  | dict {entries : List (String × Json)} {pieces : List (List Char)} {text : List Char} :
      ObjectText printed entries pieces text → ValueText printed (.dict entries) text

inductive ItemsText (printed : List Char → String) : List Json → List (List Char) → Prop
  | nil : ItemsText printed [] []
  | cons {item : Json} {items : List Json} {before text after : List Char}
      {pieces : List (List Char)} :
      Blank before → ValueText printed item text → Blank after → ItemsText printed items pieces →
        ItemsText printed (item :: items) ((before ++ (text ++ after)) :: pieces)

inductive MembersText (printed : List Char → String) :
    List (String × Json) → List (List Char) → Prop
  | nil : MembersText printed [] []
  | cons {name : String} {value : Json} {entries : List (String × Json)}
      {before raw beforeColon afterColon text after : List Char} {pieces : List (List Char)} :
      Blank before → StringText name.toList raw → Blank beforeColon → Blank afterColon →
        ValueText printed value text → Blank after → MembersText printed entries pieces →
          MembersText printed ((name, value) :: entries)
            ((before ++ ('"' :: (raw ++ '"' ::
              (beforeColon ++ ':' :: (afterColon ++ (text ++ after)))))) :: pieces)

/-- The texts of an object, with the pieces between the commas. -/
inductive ObjectText (printed : List Char → String) :
    List (String × Json) → List (List Char) → List Char → Prop
  | empty {blank : List Char} : Blank blank → ObjectText printed [] [] ('{' :: (blank ++ ['}']))
  | members {entries : List (String × Json)} {pieces : List (List Char)} :
      entries ≠ [] → PyDict.Distinct entries → MembersText printed entries pieces →
        ObjectText printed entries pieces ('{' :: (joined pieces ++ ['}']))

end

end JsonTexts

end WebhookWise
