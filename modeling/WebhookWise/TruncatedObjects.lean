import WebhookWise.JsonTexts
import WebhookWise.WebhookNormalization
import Mathlib.Data.List.TakeWhile

/-!
# Salvaging a truncated object

A prefix of the text of an object is cut at its last comma between two pairs.  The pairs
before it are whole.  Of the pair after it the key is read again, as it is spelled, and when its
value is an object that is salvaged in its turn.
-/

namespace WebhookWise

namespace TruncatedObjects

open EcosystemAdapters JsonTexts WebhookNormalization

/-! ## The walk -/

variable {text : List Char} {character : Char} (walk : SalvageWalk)

def walkFrom (walk : SalvageWalk) (index : Nat) (text : List Char) : SalvageWalk :=
  (text.zipIdx index).foldl (fun walk (place : Char × Nat) => walk.step place.1 place.2) walk

theorem foldl_zipIdx_eq_walkFrom (text : List Char) :
    text.zipIdx.foldl (fun walk (place : Char × Nat) => walk.step place.1 place.2) {} =
      walkFrom {} 0 text :=
  rfl

@[simp]
theorem walkFrom_nil (index : Nat) : walkFrom walk index [] = walk :=
  rfl

theorem walkFrom_cons (index : Nat) (character : Char) (text : List Char) :
    walkFrom walk index (character :: text) =
      walkFrom (walk.step character index) (index + 1) text :=
  rfl

theorem walkFrom_append (index : Nat) (first second : List Char) :
    walkFrom walk index (first ++ second) =
      walkFrom (walkFrom walk index first) (index + first.length) second := by
  induction first generalizing walk index with
  | nil => rfl
  | cons character first ih =>
      rw [List.cons_append, walkFrom_cons, ih, walkFrom_cons, List.length_cons]
      congr 1
      omega

theorem isPrefix_append_cases {first second : List Char} (cut : text <+: first ++ second) :
    text <+: first ∨ ∃ more, text = first ++ more ∧ more <+: second := by
  rcases List.prefix_or_prefix_of_prefix cut (List.prefix_append first second) with short | long
  · exact Or.inl short
  · obtain ⟨more, rfl⟩ := long
    exact Or.inr ⟨more, rfl, (List.prefix_append_right_inj first).1 cut⟩

/-- Wherever the walk is at least that deep, the text brings it back to where it was, and no
prefix of the text moves the cut. -/
structure Keeps (inString : Bool) (least : Int) (text : List Char) : Prop where
  whole : ∀ depth, least ≤ depth → ∀ cut index,
    walkFrom ⟨depth, inString, false, cut⟩ index text = ⟨depth, inString, false, cut⟩
  cut : ∀ depth, least ≤ depth → ∀ cut index, ∀ start, start <+: text →
    (walkFrom ⟨depth, inString, false, cut⟩ index start).cut = cut

namespace Keeps

variable {inString : Bool} {least : Int}

theorem nil : Keeps inString least [] where
  whole _ _ _ _ := rfl
  cut _ _ _ _ start isPrefix := by
    rw [List.prefix_nil.1 isPrefix]
    rfl

theorem append {first second : List Char} (left : Keeps inString least first)
    (right : Keeps inString least second) : Keeps inString least (first ++ second) where
  whole depth deep cut index := by
    rw [walkFrom_append, left.whole depth deep, right.whole depth deep]
  cut depth deep cut index start isPrefix := by
    rcases isPrefix_append_cases isPrefix with short | ⟨more, rfl, rest⟩
    · exact left.cut depth deep cut index start short
    · rw [walkFrom_append, left.whole depth deep]
      exact right.cut depth deep cut _ more rest

theorem single (step : ∀ depth, least ≤ depth → ∀ cut index,
      SalvageWalk.step ⟨depth, inString, false, cut⟩ character index =
        ⟨depth, inString, false, cut⟩) : Keeps inString least [character] where
  whole := step
  cut depth deep cut index start isPrefix := by
    cases start with
    | nil => rfl
    | cons first rest =>
        obtain ⟨rfl, rest⟩ := List.cons_prefix_cons.1 isPrefix
        rw [List.prefix_nil.1 rest, walkFrom_cons, step depth deep]
        rfl

theorem cons {character : Char} {text : List Char} (first : Keeps inString least [character])
    (rest : Keeps inString least text) : Keeps inString least (character :: text) :=
  first.append rest

theorem of_forall (each : ∀ character ∈ text, Keeps inString least [character]) :
    Keeps inString least text := by
  induction text with
  | nil => exact nil
  | cons character text ih =>
      exact (each character List.mem_cons_self).cons
        (ih fun other member => each other (List.mem_cons_of_mem _ member))

theorem mono {more : Int} (keeps : Keeps inString least text) (le : least ≤ more) :
    Keeps inString more text where
  whole depth deep := keeps.whole depth (le.trans deep)
  cut depth deep := keeps.cut depth (le.trans deep)

theorem between {first last : Char} {inner : Bool} {deeper : Int → Int} {innerLeast : Int}
    (enters : ∀ depth, least ≤ depth → innerLeast ≤ deeper depth ∧ ∀ cut index,
      SalvageWalk.step ⟨depth, inString, false, cut⟩ first index =
        ⟨deeper depth, inner, false, cut⟩) (leaves : ∀ depth, least ≤ depth → ∀ cut index,
      SalvageWalk.step ⟨deeper depth, inner, false, cut⟩ last index =
        ⟨depth, inString, false, cut⟩) (keeps : Keeps inner innerLeast text) :
    Keeps inString least (first :: (text ++ [last])) where
  whole depth deep cut index := by
    obtain ⟨deepEnough, enter⟩ := enters depth deep
    rw [walkFrom_cons, enter, walkFrom_append, keeps.whole _ deepEnough, walkFrom_cons,
      leaves depth deep]
    rfl
  cut depth deep cut index start isPrefix := by
    obtain ⟨deepEnough, enter⟩ := enters depth deep
    cases start with
    | nil => rfl
    | cons character start =>
        obtain ⟨rfl, rest⟩ := List.cons_prefix_cons.1 isPrefix
        rw [walkFrom_cons, enter]
        rcases isPrefix_append_cases rest with short | ⟨more, rfl, final⟩
        · exact keeps.cut _ deepEnough cut _ start short
        · rw [walkFrom_append, keeps.whole _ deepEnough]
          cases more with
          | nil => rfl
          | cons second more =>
              obtain ⟨rfl, nothing⟩ := List.cons_prefix_cons.1 final
              rw [List.prefix_nil.1 nothing, walkFrom_cons, leaves depth deep]
              rfl

end Keeps

/-! ### What the texts of values keep -/

variable {least : Int} {raw : List Char}

/-- The walk passes over the character outside strings. -/
def Passive (character : Char) : Prop :=
  character ∉ ['"', '{', '[', '}', ']', ',']

instance : DecidablePred Passive := fun character =>
  inferInstanceAs (Decidable (character ∉ ['"', '{', '[', '}', ']', ',']))

theorem keeps_of_passive (passive : Passive character) : Keeps false least [character] := by
  apply Keeps.single
  intro depth _ cut index
  simp only [Passive, List.mem_cons, List.not_mem_nil, or_false, not_or] at passive
  simp [SalvageWalk.step, passive]

theorem keeps_inString (notQuote : character ≠ '"') (notEscape : character ≠ '\\') :
    Keeps true least [character] := by
  apply Keeps.single
  intro depth _ cut index
  simp [SalvageWalk.step, notQuote, notEscape]

theorem keeps_escape (least : Int) (letter : Char) : Keeps true least ['\\', letter] := by
  constructor
  · intro depth _ cut index
    rfl
  · intro depth _ cut index start isPrefix
    rcases start with - | ⟨first, - | ⟨second, rest⟩⟩
    · rfl
    · obtain ⟨rfl, -⟩ := List.cons_prefix_cons.1 isPrefix
      rfl
    · obtain ⟨rfl, tail⟩ := List.cons_prefix_cons.1 isPrefix
      rw [List.prefix_nil.1 (List.cons_prefix_cons.1 tail).2]
      rfl

theorem keeps_comma : Keeps false 2 [','] := by
  apply Keeps.single
  intro depth deep cut index
  have nested : depth ≠ 1 := by omega
  simp [SalvageWalk.step, nested]

theorem Keeps.quoted (keeps : Keeps true least raw) : Keeps false least ('"' :: (raw ++ ['"'])) :=
  Keeps.between (fun _ deep => ⟨deep, fun _ _ => rfl⟩) (fun _ _ _ _ => rfl) keeps

theorem Keeps.bracketed (keeps : Keeps false 2 text) : Keeps false 1 ('[' :: (text ++ [']'])) :=
  Keeps.between (fun depth deep => ⟨show 2 ≤ depth + 1 by omega, fun _ _ => rfl⟩)
    (fun depth _ cut index => by simp [SalvageWalk.step]) keeps

theorem Keeps.braced (keeps : Keeps false 2 text) : Keeps false 1 ('{' :: (text ++ ['}'])) :=
  Keeps.between (fun depth deep => ⟨show 2 ≤ depth + 1 by omega, fun _ _ => rfl⟩)
    (fun depth _ cut index => by simp [SalvageWalk.step]) keeps

theorem passive_of_isBlank (blank : isBlank character = true) : Passive character := by
  simp only [isBlank, Bool.or_eq_true, decide_eq_true_eq] at blank
  rcases blank with ((rfl | rfl) | rfl) | rfl <;> decide

theorem keeps_blank {least : Int} {blank : List Char} (isBlank : Blank blank) :
    Keeps false least blank :=
  Keeps.of_forall fun character member =>
    keeps_of_passive (passive_of_isBlank (isBlank character member))

theorem passive_of_isDigit (digit : character.isDigit = true) : Passive character := by
  simp only [Passive, List.mem_cons, List.not_mem_nil, or_false, not_or]
  refine ⟨?_, ?_, ?_, ?_, ?_, ?_⟩ <;> rintro rfl <;> revert digit <;> decide

theorem ne_of_hexDigit? {value : Nat} (hex : hexDigit? character = some value) :
    character ≠ '"' ∧ character ≠ '\\' := by
  constructor <;> rintro rfl <;> revert hex <;> simp [hexDigit?, Char.isDigit]

theorem keeps_codeUnit {unit : Nat} {digits : List Char} (isUnit : CodeUnit unit digits) :
    Keeps true least digits := by
  cases isUnit with
  | digits first second third fourth =>
      have keeps {character : Char} {value : Nat} (hex : hexDigit? character = some value) :
          Keeps true least [character] :=
        keeps_inString (ne_of_hexDigit? hex).1 (ne_of_hexDigit? hex).2
      exact (keeps first).cons ((keeps second).cons ((keeps third).cons (keeps fourth)))

theorem keeps_escapeText {escape : List Char} (isEscape : EscapeText character escape) :
    Keeps true least escape := by
  cases isEscape with
  | short _ => exact keeps_escape least _
  | unicode unit _ => exact (keeps_escape least 'u').append (keeps_codeUnit unit)
  | surrogates high low _ _ _ _ =>
      exact (keeps_escape least 'u').append
        ((keeps_codeUnit high).append ((keeps_escape least 'u').append (keeps_codeUnit low)))

theorem keeps_stringText {least : Int} {text raw : List Char} (isString : StringText text raw) :
    Keeps true least raw := by
  induction isString with
  | nil => exact Keeps.nil
  | plain _ notQuote notEscape _ ih => exact (keeps_inString notQuote notEscape).cons ih
  | escaped escape _ ih => exact (keeps_escapeText escape).append ih

theorem keeps_digits (digits : Digits text) : Keeps false least text :=
  Keeps.of_forall fun digit member => keeps_of_passive (passive_of_isDigit (digits.2 digit member))

theorem keeps_integerText {least : Int} {value : Int} {text : List Char}
    (integer : IntegerText value text) : Keeps false least text := by
  cases integer with
  | unsigned digits _ => exact keeps_digits digits
  | negative digits _ => exact (keeps_of_passive (by decide)).cons (keeps_digits digits)

theorem keeps_fractionText (fraction : FractionText text) : Keeps false least text := by
  cases fraction with
  | point digits => exact (keeps_of_passive (by decide)).cons (keeps_digits digits)

theorem keeps_exponentText (exponent : ExponentText text) : Keeps false least text := by
  have keepsMark {mark : Char} (isMark : mark = 'e' ∨ mark = 'E') : Keeps false least [mark] := by
    rcases isMark with rfl | rfl <;> exact keeps_of_passive (by decide)
  cases exponent with
  | unsigned isMark digits => exact (keepsMark isMark).cons (keeps_digits digits)
  | signed isMark isSign digits =>
      apply (keepsMark isMark).cons
      rcases isSign with rfl | rfl <;>
        exact (keeps_of_passive (by decide)).cons (keeps_digits digits)

theorem keeps_floatText {least : Int} {text : List Char} (float : FloatText text) :
    Keeps false least text := by
  cases float with
  | fraction whole fraction => exact (keeps_integerText whole).append (keeps_fractionText fraction)
  | exponent whole exponent => exact (keeps_integerText whole).append (keeps_exponentText exponent)
  | both whole fraction exponent =>
      exact (keeps_integerText whole).append
        ((keeps_fractionText fraction).append (keeps_exponentText exponent))

theorem keeps_joined {pieces : List (List Char)}
    (each : ∀ piece ∈ pieces, Keeps false 1 piece) : Keeps false 2 (joined pieces) := by
  induction pieces with
  | nil => exact Keeps.nil
  | cons piece pieces ih =>
      have first : Keeps false 2 piece := (each piece List.mem_cons_self).mono (by decide)
      have rest := ih fun other member => each other (List.mem_cons_of_mem _ member)
      cases pieces with
      | nil => exact first
      | cons next pieces => exact first.append (keeps_comma.cons rest)

theorem keeps_literal {least : Int} {text : List Char}
    (passive : ∀ character ∈ text, Passive character) : Keeps false least text :=
  Keeps.of_forall fun character member => keeps_of_passive (passive character member)

variable {printed : List Char → String}

mutual

theorem keeps_valueText {value : Json} {text : List Char} :
    ValueText printed value text → Keeps false 1 text
  | .null => keeps_literal (by simp [Passive])
  | .true => keeps_literal (by simp [Passive])
  | .false => keeps_literal (by simp [Passive])
  | .integer integer _ => keeps_integerText integer
  | .wide integer _ => keeps_integerText integer
  | .float float => keeps_floatText float
  | .string isString => (keeps_stringText isString).quoted
  | .emptyList isBlank => (keeps_blank isBlank).bracketed
  | .list _ items => (keeps_joined (keeps_itemsText items)).bracketed
  | .dict object => keeps_objectText object

theorem keeps_itemsText {items : List Json} {pieces : List (List Char)} :
    ItemsText printed items pieces → ∀ piece ∈ pieces, Keeps false 1 piece
  | .nil => by simp
  | .cons before text after items => by
      have first := (keeps_blank before).append ((keeps_valueText text).append (keeps_blank after))
      exact List.forall_mem_cons.2 ⟨first, keeps_itemsText items⟩

theorem keeps_membersText {entries : JsonObject} {pieces : List (List Char)} :
    MembersText printed entries pieces → ∀ piece ∈ pieces, Keeps false 1 piece
  | .nil => by simp
  | .cons before name beforeColon afterColon text after members => by
      have colon : Keeps false 1 [':'] := keeps_of_passive (by decide)
      have value := (keeps_blank afterColon).append
        ((keeps_valueText text).append (keeps_blank after))
      have afterName := (keeps_blank beforeColon).append (colon.cons value)
      have first := (keeps_blank before).append
        ((keeps_stringText name).quoted.append afterName)
      refine List.forall_mem_cons.2 ⟨?_, keeps_membersText members⟩
      simpa using first

theorem keeps_objectText {entries : JsonObject} {pieces : List (List Char)} {text : List Char} :
    ObjectText printed entries pieces text → Keeps false 1 text
  | .empty isBlank => (keeps_blank isBlank).braced
  | .members _ _ members => (keeps_joined (keeps_membersText members)).braced

end

/-! ## Where a prefix is cut -/

variable {pieces : List (List Char)}

def closed (pieces : List (List Char)) : List Char :=
  pieces.flatMap fun piece => piece ++ [',']

@[simp]
theorem closed_cons (piece : List Char) (pieces : List (List Char)) :
    closed (piece :: pieces) = piece ++ ',' :: closed pieces := by
  simp [closed]

theorem closed_append (first second : List (List Char)) :
    closed (first ++ second) = closed first ++ closed second :=
  List.flatMap_append

theorem closed_eq_joined (nonempty : pieces ≠ []) : closed pieces = joined pieces ++ [','] := by
  induction pieces with
  | nil => contradiction
  | cons piece pieces ih =>
      cases pieces with
      | nil => simp [closed, joined]
      | cons next pieces => simp [closed_cons, joined, ih]

/-- What may follow an object that is the last value of each object around it. -/
def Closers (text : List Char) : Prop :=
  ∀ character ∈ text, isBlank character = true ∨ character = '}'

theorem Closers.append {first second : List Char} (left : Closers first)
    (right : Closers second) : Closers (first ++ second) := by
  intro character member
  rcases List.mem_append.1 member with member | member
  · exact left character member
  · exact right character member

theorem Closers.of_blank (blank : Blank text) : Closers text :=
  fun character member => Or.inl (blank character member)

theorem cut_walkFrom_closers (closers : Closers text) (depth : Int) (cut : Option Nat)
    (index : Nat) : (walkFrom ⟨depth, false, false, cut⟩ index text).cut = cut := by
  induction text generalizing depth index with
  | nil => rfl
  | cons character text ih =>
      have rest := ih fun other member => closers other (List.mem_cons_of_mem _ member)
      rw [walkFrom_cons]
      rcases closers character List.mem_cons_self with blank | rfl
      · have passive : Keeps false depth [character] :=
          keeps_of_passive (passive_of_isBlank blank)
        have step : SalvageWalk.step ⟨depth, false, false, cut⟩ character index =
            ⟨depth, false, false, cut⟩ := passive.whole depth le_rfl cut index
        rw [step]
        exact rest depth _
      · exact rest (depth - 1) _

theorem walkFrom_closed (each : ∀ piece ∈ pieces, Keeps false 1 piece) (cut : Option Nat)
    (index : Nat) :
    walkFrom ⟨1, false, false, cut⟩ index (closed pieces) =
      ⟨1, false, false,
        if pieces = [] then cut else some (index + (closed pieces).length - 1)⟩ := by
  induction pieces generalizing cut index with
  | nil => rfl
  | cons piece pieces ih =>
      have step (place : Nat) : SalvageWalk.step ⟨1, false, false, cut⟩ ',' place =
          ⟨1, false, false, some place⟩ := rfl
      rw [closed_cons, walkFrom_append, (each piece List.mem_cons_self).whole 1 le_rfl,
        walkFrom_cons, step, ih fun other member => each other (List.mem_cons_of_mem _ member)]
      by_cases last : pieces = []
      · subst last
        simp [closed]
      · simp only [last, if_false, List.length_append, List.length_cons, reduceCtorEq]
        congr 2
        omega

theorem exists_cut {pieces : List (List Char)} (nonempty : pieces ≠ []) {closers start : List Char}
    (isClosers : Closers closers) (isPrefix : start <+: joined pieces ++ '}' :: closers) :
    ∃ first piece last rest suffix, pieces = first ++ piece :: last ∧ start = closed first ++ rest ∧
      Closers suffix ∧ rest <+: piece ++ suffix := by
  induction pieces generalizing start with
  | nil => contradiction
  | cons piece pieces ih =>
      cases pieces with
      | nil =>
          refine ⟨[], piece, [], start, '}' :: closers, rfl, rfl, ?_, isPrefix⟩
          exact List.forall_mem_cons.2 ⟨Or.inr rfl, isClosers⟩
      | cons next pieces =>
          have inside (short : start <+: piece) :
              ∃ first cut last rest suffix, piece :: next :: pieces = first ++ cut :: last ∧
                start = closed first ++ rest ∧ Closers suffix ∧ rest <+: cut ++ suffix :=
            ⟨[], piece, next :: pieces, start, [], rfl, rfl, by simp [Closers],
              by simpa using short⟩
          rw [joined, List.append_assoc] at isPrefix
          · rcases isPrefix_append_cases isPrefix with short | ⟨more, rfl, tail⟩
            · exact inside short
            · cases more with
              | nil => exact inside (by simp)
              | cons comma more =>
                  obtain ⟨rfl, later⟩ := List.cons_prefix_cons.1 tail
                  obtain ⟨first, cut, last, rest, suffix, parts, split, isSuffix, ends⟩ :=
                    ih (by simp) later
                  refine ⟨piece :: first, cut, last, rest, suffix, ?_, ?_, isSuffix, ends⟩
                  · rw [parts]
                    rfl
                  · rw [split]
                    simp
          · simp

/-! ## What is read back -/

variable {entries : JsonObject}

theorem split_membersText {first last : List (List Char)} {piece : List Char}
    (members : MembersText printed entries (first ++ piece :: last)) :
    ∃ done entry rest, entries = done ++ entry :: rest ∧ done.length = first.length ∧
      MembersText printed done first ∧ MembersText printed [entry] [piece] := by
  induction first generalizing entries with
  | nil =>
      cases members with
      | cons before name beforeColon afterColon text after members =>
          exact ⟨[], _, _, rfl, rfl, .nil,
            .cons before name beforeColon afterColon text after .nil⟩
  | cons start first ih =>
      cases members with
      | cons before name beforeColon afterColon text after members =>
          obtain ⟨done, entry, rest, parts, length, doneText, entryText⟩ := ih members
          refine ⟨_ :: done, entry, rest, ?_, ?_,
            .cons before name beforeColon afterColon text after doneText, entryText⟩
          · rw [parts]
            rfl
          · rw [List.length_cons, List.length_cons, length]

/-- What `json.loads` returns for a text of a value is the value. -/
def LoadsTexts (printed : List Char → String) (runtime : AdapterRuntime) : Prop :=
  ∀ value text, ValueText printed value text →
    ∀ loaded, runtime.jsonLoads (String.ofList text) = some loaded → loaded = value

section Salvage

variable {runtime : AdapterRuntime}

theorem salvagedPairs_eq (loads : LoadsTexts printed runtime) {done : JsonObject}
    {first : List (List Char)} {rest : List Char} (distinct : PyDict.Distinct done)
    (members : MembersText printed done first)
    (uncut : ∀ cut index, (walkFrom ⟨1, false, false, cut⟩ index rest).cut = cut)
    {pairs : JsonObject} {tail : List Char}
    (found : salvagedPairs runtime ('{' :: (closed first ++ rest)) = some (pairs, tail)) :
    pairs = done ∧ tail = rest := by
  have cut : (walkFrom {} 0 ('{' :: (closed first ++ rest))).cut =
      if first = [] then none else some (closed first).length := by
    have opened : SalvageWalk.step {} '{' 0 = ⟨1, false, false, none⟩ := rfl
    rw [walkFrom_cons, opened, walkFrom_append, walkFrom_closed (keeps_membersText members), uncut]
    split
    · rfl
    · congr 1
      omega
  simp only [salvagedPairs, foldl_zipIdx_eq_walkFrom, cut] at found
  by_cases none : first = []
  · subst none
    cases members
    obtain ⟨rfl, rfl⟩ := Prod.mk.inj (Option.some.inj found)
    exact ⟨rfl, rfl⟩
  · rw [if_neg none] at found
    have closedEq := closed_eq_joined none
    have before : ('{' :: (closed first ++ rest)).take (closed first).length ++ ['}'] =
        '{' :: (joined first ++ ['}']) := by
      simp [closedEq]
    have after : ('{' :: (closed first ++ rest)).drop ((closed first).length + 1) = rest := by
      simp
    dsimp only at found
    rw [before, after] at found
    have nonempty : done ≠ [] := by
      rintro rfl
      cases members
      exact none rfl
    have whole : ValueText printed (.dict done) ('{' :: (joined first ++ ['}'])) :=
      .dict (.members nonempty distinct members)
    split at found
    · rename_i parsed loaded
      obtain ⟨rfl, rfl⟩ := Prod.mk.inj (Option.some.inj found)
      have same := loads _ _ whole _ loaded
      injection same with same
      exact ⟨same, rfl⟩
    · cases found

end Salvage

/-! ## The pair that is cut -/

variable {rest : List Char}

theorem isPythonSpace_of_isBlank (blank : isBlank character = true) :
    isPythonSpace character = true := by
  simp only [isBlank, Bool.or_eq_true, decide_eq_true_eq] at blank
  rcases blank with ((rfl | rfl) | rfl) | rfl <;> decide

theorem dropWhile_isPrefix {before start : List Char} (blank : Blank before)
    (isPrefix : start <+: before ++ rest) :
    start.dropWhile isPythonSpace <+: rest.dropWhile isPythonSpace := by
  have passes : (before ++ rest).dropWhile isPythonSpace = rest.dropWhile isPythonSpace :=
    List.dropWhile_append_of_pos fun character member =>
      isPythonSpace_of_isBlank (blank character member)
  rw [← passes]
  generalize before ++ rest = text at isPrefix
  induction start generalizing text with
  | nil => exact List.nil_prefix
  | cons character start ih =>
      cases text with
      | nil => cases List.prefix_nil.1 isPrefix
      | cons first text =>
          obtain ⟨rfl, tail⟩ := List.cons_prefix_cons.1 isPrefix
          rw [List.dropWhile_cons, List.dropWhile_cons]
          split
          · exact ih text tail
          · exact isPrefix

theorem dropWhile_cons_of_not_space (notSpace : isPythonSpace character = false) :
    (character :: text).dropWhile isPythonSpace = character :: text := by
  simp [notSpace]

theorem backslash_of_escapeText {escape : List Char} (isEscape : EscapeText character escape) :
    ∃ more, escape = '\\' :: more := by
  cases isEscape with
  | short | unicode | surrogates => exact ⟨_, rfl⟩

theorem name_of_plain {name key after : List Char} (isString : StringText name raw)
    (noQuote : '"' ∉ key) (noEscape : '\\' ∉ key)
    (isPrefix : key ++ '"' :: after <+: raw ++ '"' :: rest) : key = name ∧ after <+: rest := by
  induction isString generalizing key with
  | nil =>
      cases key with
      | nil => exact ⟨rfl, (List.cons_prefix_cons.1 isPrefix).2⟩
      | cons first key =>
          obtain ⟨rfl, -⟩ := List.cons_prefix_cons.1 isPrefix
          simp at noQuote
  | plain _ notQuote _ _ ih =>
      cases key with
      | nil => exact absurd (List.cons_prefix_cons.1 isPrefix).1.symm notQuote
      | cons first key =>
          obtain ⟨rfl, tail⟩ := List.cons_prefix_cons.1 isPrefix
          obtain ⟨rfl, ends⟩ := ih (fun member => noQuote (List.mem_cons_of_mem _ member))
            (fun member => noEscape (List.mem_cons_of_mem _ member)) tail
          exact ⟨rfl, ends⟩
  | escaped escape _ _ =>
      obtain ⟨more, rfl⟩ := backslash_of_escapeText escape
      cases key with
      | nil => cases (List.cons_prefix_cons.1 isPrefix).1
      | cons first key =>
          obtain ⟨rfl, -⟩ := List.cons_prefix_cons.1 isPrefix
          simp at noEscape

theorem head_integerText {value : Int} {text : List Char} (integer : IntegerText value text) :
    ∃ character rest, text = character :: rest ∧ (character = '-' ∨ character.isDigit = true) := by
  cases integer with
  | unsigned digits _ =>
      obtain ⟨character, rest, rfl⟩ := List.exists_cons_of_ne_nil digits.1
      exact ⟨character, rest, rfl, Or.inr (digits.2 character List.mem_cons_self)⟩
  | negative _ _ => exact ⟨_, _, rfl, Or.inl rfl⟩

theorem not_space_of_number (number : character = '-' ∨ character.isDigit = true) :
    isPythonSpace character = false ∧ character ≠ '{' := by
  rcases number with rfl | digit
  · decide
  · have low : 48 ≤ character.toNat ∧ character.toNat ≤ 57 := by
      simpa [Char.isDigit, Char.le_def, UInt32.le_iff_toNat_le] using digit
    constructor
    · simp only [isPythonSpace, Bool.or_eq_false_iff, Bool.and_eq_false_iff,
        decide_eq_false_iff_not]
      omega
    · rintro rfl
      revert low
      decide

theorem head_valueText {value : Json} {text : List Char} (isText : ValueText printed value text) :
    ∃ character rest, text = character :: rest ∧ isPythonSpace character = false ∧
      (character = '{' → ∃ entries pieces, value = .dict entries ∧
        ObjectText printed entries pieces text) := by
  have ofNumber {number : List Char} {whole : Int} (integer : IntegerText whole number)
      (more : List Char) {other : Json} : ∃ character rest, number ++ more = character :: rest ∧
        isPythonSpace character = false ∧ (character = '{' → ∃ entries pieces,
          other = .dict entries ∧ ObjectText printed entries pieces (number ++ more)) := by
    obtain ⟨character, rest, rfl, isNumber⟩ := head_integerText integer
    obtain ⟨notSpace, notBrace⟩ := not_space_of_number isNumber
    exact ⟨character, rest ++ more, rfl, notSpace, fun brace => absurd brace notBrace⟩
  cases isText with
  | null | true | false => exact ⟨_, _, rfl, by decide, by simp⟩
  | integer integer | wide integer =>
      rw [← List.append_nil text]
      exact ofNumber integer []
  | float float =>
      cases float with
      | fraction whole _ => exact ofNumber whole _
      | exponent whole _ => exact ofNumber whole _
      | both whole _ _ => exact ofNumber whole _
  | string | emptyList | list => exact ⟨_, _, rfl, by decide, by simp⟩
  | dict object =>
      have copy := object
      cases object with
      | empty | members => exact ⟨_, _, rfl, by decide, fun _ => ⟨_, _, rfl, copy⟩⟩

theorem split_at_quote {quoted : List Char}
    (more : quoted.drop ((quoted.takeWhile (· ≠ '"')).length + 1) ≠ []) :
    quoted = quoted.takeWhile (· ≠ '"') ++
      '"' :: quoted.drop ((quoted.takeWhile (· ≠ '"')).length + 1) := by
  induction quoted with
  | nil => simp at more
  | cons character quoted ih =>
      by_cases quote : character = '"'
      · simp [quote]
      · simp only [ne_eq, quote, not_false_eq_true, decide_true, List.takeWhile_cons_of_pos,
          List.length_cons, List.drop_succ_cons, List.cons_append] at more ⊢
        exact congrArg (character :: ·) (ih more)

theorem trailingPair_inv {tail inner : List Char} {key : String}
    (found : trailingPair tail = some (key, inner)) :
    ∃ after value : List Char, tail.dropWhile isPythonSpace = '"' :: (key.toList ++ '"' :: after) ∧
      '"' ∉ key.toList ∧ after.dropWhile isPythonSpace = ':' :: value ∧
        value.dropWhile isPythonSpace = inner ∧ inner.head? = some '{' := by
  unfold trailingPair at found
  split at found
  · rename_i quoted opened
    dsimp only at found
    split at found
    · cases found
    · split at found
      · rename_i value colon
        split at found
        · rename_i braced brace
          obtain ⟨rfl, rfl⟩ := Prod.mk.inj (Option.some.inj found)
          refine ⟨quoted.drop ((quoted.takeWhile (· ≠ '"')).length + 1), value, ?_, ?_, colon,
            brace, rfl⟩
          · rw [opened, String.toList_ofList]
            apply congrArg
            apply split_at_quote
            intro none
            rw [none] at colon
            cases colon
          · rw [String.toList_ofList]
            intro member
            simpa using List.mem_takeWhile_imp member
        · cases found
      · cases found
  · cases found

theorem trailingPair_spec {entry : String × Json} {piece suffix inner : List Char} {key : String}
    (member : MembersText printed [entry] [piece]) (closers : Closers suffix)
    (isPrefix : rest <+: piece ++ suffix) (found : trailingPair rest = some (key, inner))
    (plain : '\\' ∉ key.toList) :
    entry.1 = key ∧ ∃ entries pieces text more, entry.2 = .dict entries ∧
      ObjectText printed entries pieces text ∧ Closers more ∧ inner <+: text ++ more := by
  obtain ⟨afterKey, value, opened, noQuote, colon, brace, braced⟩ := trailingPair_inv found
  refine match member with
    | @MembersText.cons _ name _ _ before raw beforeColon afterColon text after _ isBefore isName
        isBeforeColon isAfterColon isText isAfter _ => ?_
  simp only [List.append_assoc, List.cons_append] at isPrefix
  have quoted := dropWhile_isPrefix isBefore isPrefix
  rw [opened, dropWhile_cons_of_not_space (by decide)] at quoted
  obtain ⟨sameName, afterName⟩ :=
    name_of_plain isName noQuote plain (List.cons_prefix_cons.1 quoted).2
  have atColon := dropWhile_isPrefix isBeforeColon afterName
  rw [colon, dropWhile_cons_of_not_space (by decide)] at atColon
  have atValue := dropWhile_isPrefix isAfterColon (List.cons_prefix_cons.1 atColon).2
  obtain ⟨first, others, textEq, notSpace, ofBrace⟩ := head_valueText isText
  have whole : (text ++ (after ++ suffix)).dropWhile isPythonSpace = text ++ (after ++ suffix) := by
    rw [textEq, List.cons_append, dropWhile_cons_of_not_space notSpace]
  rw [brace, whole] at atValue
  have isBrace : first = '{' := by
    obtain ⟨rest, innerEq⟩ : ∃ rest, inner = '{' :: rest := by
      cases inner with
      | nil => cases braced
      | cons character rest => exact ⟨rest, by simpa using braced⟩
    rw [innerEq, textEq, List.cons_append] at atValue
    exact (List.cons_prefix_cons.1 atValue).1.symm
  obtain ⟨entries, pieces, isDict, isObject⟩ := ofBrace isBrace
  exact ⟨(String.toList_inj.1 sameName).symm, entries, pieces, text, after ++ suffix, isDict,
    isObject, (Closers.of_blank isAfter).append closers, atValue⟩

/-! ## What is salvaged -/

/-- The part of an object that is salvaged: pairs of the object, and at most one whose value is
such a part of the value in the object. -/
inductive PartOf : JsonObject → JsonObject → Prop
  | whole {object part : JsonObject} : (∀ entry ∈ part, entry ∈ object) → PartOf object part
  | cut {object part value inner : JsonObject} {key : String} :
      (key, Json.dict value) ∈ object → PartOf value inner →
        (∀ entry ∈ part, entry ∈ object ∨ entry = (key, .dict inner)) → PartOf object part

/-- What comes after the last comma between two pairs. -/
def cutTail (text : List Char) : List Char :=
  match (walkFrom {} 0 text).cut with
  | none => text.drop 1
  | some cut => text.drop (cut + 1)

def readsPlainKeys : Nat → List Char → Bool
  | 0, _ => true
  | levels + 1, text =>
      match trailingPair (cutTail text) with
      | none => true
      | some (key, inner) => !key.toList.contains '\\' && readsPlainKeys levels inner

/-- What is salvaged of a prefix of the text with these pieces: a part of the object, with
every pair that a comma follows. -/
structure Salvages (entries : JsonObject) (pieces : List (List Char)) (start : List Char)
    (salvaged : JsonObject) : Prop where
  distinct : PyDict.Distinct salvaged
  part : PartOf entries salvaged
  complete : ∀ first last, pieces = first ++ last → '{' :: closed first <+: start →
    ∀ entry ∈ entries.take first.length, entry ∈ salvaged

/-- The pairs before a cut are whole, and the pair after it is the next one. -/
structure CutAt (printed : List Char → String) (entries : JsonObject) (pieces : List (List Char))
    (start : List Char) (first : List (List Char)) (rest : List Char) : Prop where
  start_eq : start = '{' :: (closed first ++ rest)
  members : MembersText printed (entries.take first.length) first
  uncut : ∀ cut index, (walkFrom ⟨1, false, false, cut⟩ index rest).cut = cut
  followed : ∀ more last, pieces = more ++ last → '{' :: closed more <+: start →
    more.length ≤ first.length
  pair : ∀ key inner, trailingPair rest = some (key, inner) → '\\' ∉ key.toList →
    (∀ entry ∈ entries.take first.length, entry.1 ≠ key) ∧
      ∃ value innerPieces text closers, (key, Json.dict value) ∈ entries ∧
        ObjectText printed value innerPieces text ∧ Closers closers ∧ inner <+: text ++ closers

theorem uncut_of_isPrefix {piece suffix : List Char} (keeps : Keeps false 1 piece)
    (closers : Closers suffix) (isPrefix : rest <+: piece ++ suffix) (cut : Option Nat)
    (index : Nat) : (walkFrom ⟨1, false, false, cut⟩ index rest).cut = cut := by
  rcases isPrefix_append_cases isPrefix with short | ⟨more, rfl, tail⟩
  · exact keeps.cut 1 le_rfl cut index rest short
  · rw [walkFrom_append, keeps.whole 1 le_rfl]
    exact cut_walkFrom_closers
      (fun character member => closers character (tail.subset member)) 1 cut _

theorem cutAt_empty {blank closers rest : List Char} (isBlank : Blank blank)
    (isClosers : Closers closers) (isPrefix : rest <+: blank ++ '}' :: closers) :
    CutAt printed [] [] ('{' :: rest) [] rest where
  start_eq := rfl
  members := .nil
  uncut := by
    apply uncut_of_isPrefix (keeps_blank isBlank) _ isPrefix
    exact List.forall_mem_cons.2 ⟨Or.inr rfl, isClosers⟩
  followed more last parts _ := by
    rw [(List.append_eq_nil_iff.1 parts.symm).1]
  pair key inner found _ := by
    obtain ⟨after, value, opened, -⟩ := trailingPair_inv found
    have closing := dropWhile_isPrefix isBlank isPrefix
    rw [opened, dropWhile_cons_of_not_space (by decide)] at closing
    cases (List.cons_prefix_cons.1 closing).1

theorem length_le_of_closed_isPrefix {first last more others : List (List Char)}
    {piece suffix : List Char} (parts : first ++ piece :: last = more ++ others)
    (isClosers : Closers suffix) (ends : rest <+: piece ++ suffix)
    (isPrefix : closed more <+: closed first ++ rest) : more.length ≤ first.length := by
  by_contra longer
  have longMore : first.length < more.length := by omega
  obtain ⟨extra, rfl⟩ : ∃ extra, more = first ++ piece :: extra := by
    rcases List.append_eq_append_iff.1 parts with ⟨extra, rfl, tail⟩ | ⟨extra, rfl, -⟩
    · cases extra with
      | nil => simp at longMore
      | cons next extra =>
          obtain ⟨rfl, -⟩ := List.cons.inj tail
          exact ⟨extra, rfl⟩
    · simp at longMore
  rw [closed_append, List.prefix_append_right_inj, closed_cons] at isPrefix
  have comma := (List.prefix_append_right_inj piece).1 (isPrefix.trans ends)
  have member : ',' ∈ suffix := comma.subset List.mem_cons_self
  exact absurd (isClosers ',' member) (by decide)

theorem exists_cutAt {entries : JsonObject} {pieces : List (List Char)}
    {text closers start : List Char} (isText : ObjectText printed entries pieces text)
    (isClosers : Closers closers) (isPrefix : start <+: text ++ closers)
    (opened : start.head? = some '{') :
    ∃ first rest, CutAt printed entries pieces start first rest := by
  obtain ⟨inside, rfl⟩ : ∃ inside, start = '{' :: inside := by
    cases start with
    | nil => cases opened
    | cons character inside => exact ⟨inside, by simpa using opened⟩
  cases isText with
  | empty isBlank =>
      rw [List.cons_append, List.append_assoc] at isPrefix
      have within := (List.cons_prefix_cons.1 isPrefix).2
      exact ⟨[], inside, cutAt_empty isBlank isClosers within⟩
  | members nonempty distinct members =>
      rw [List.cons_append, List.append_assoc] at isPrefix
      have within := (List.cons_prefix_cons.1 isPrefix).2
      have some : pieces ≠ [] := by
        rintro rfl
        cases members
        exact nonempty rfl
      obtain ⟨first, piece, last, rest, suffix, rfl, rfl, isSuffix, ends⟩ :=
        exists_cut some isClosers within
      obtain ⟨done, entry, others, rfl, length, doneText, entryText⟩ := split_membersText members
      have taken : (done ++ entry :: others).take first.length = done := by
        rw [← length, List.take_left]
      refine ⟨first, rest, rfl, ?_, ?_, ?_, ?_⟩
      · rw [taken]
        exact doneText
      · exact uncut_of_isPrefix (keeps_membersText members piece (by simp)) isSuffix ends
      · intro more others parts followed
        exact length_le_of_closed_isPrefix parts isSuffix ends
          (List.cons_prefix_cons.1 followed).2
      · intro key inner found plain
        obtain ⟨rfl, value, innerPieces, text, more, isDict, isObject, isMore, innerEnds⟩ :=
          trailingPair_spec entryText isSuffix ends found plain
        rw [taken]
        refine ⟨?_, value, innerPieces, text, more, ?_, isObject, isMore, innerEnds⟩
        · intro other member same
          rw [PyDict.Distinct, List.map_append, List.map_cons, List.nodup_append] at distinct
          exact distinct.2.2 other.1 (List.mem_map_of_mem member) entry.1 List.mem_cons_self same
        · rw [← isDict]
          simp

section Salvage

variable {runtime : AdapterRuntime}

theorem cutTail_eq {tail : List Char} {pairs : JsonObject}
    (found : salvagedPairs runtime text = some (pairs, tail)) : cutTail text = tail := by
  simp only [salvagedPairs, foldl_zipIdx_eq_walkFrom] at found
  cases cutAt : (walkFrom {} 0 text).cut with
  | none =>
      simp only [cutAt] at found
      simp only [cutTail, cutAt]
      exact (Prod.mk.inj (Option.some.inj found)).2
  | some cut =>
      simp only [cutAt] at found
      simp only [cutTail, cutAt]
      split at found
      · exact (Prod.mk.inj (Option.some.inj found)).2
      · cases found

theorem salvageTruncatedObject_cases {levels : Nat} {start : List Char} {salvaged : JsonObject}
    (found : salvageTruncatedObject runtime levels start = some salvaged) :
    start.head? = some '{' ∧ ∃ pairs tail, salvagedPairs runtime start = some (pairs, tail) ∧
      (salvaged = pairs ∨ ∃ fewer key inner part, levels = fewer + 1 ∧
        trailingPair tail = some (key, inner) ∧
          salvageTruncatedObject runtime fewer inner = some part ∧
            salvaged = PyDict.set pairs key (.dict part)) := by
  unfold salvageTruncatedObject at found
  split at found
  · cases found
  · rename_i opened
    refine ⟨not_not.1 opened, ?_⟩
    split at found
    · cases found
    · rename_i pairs tail isPairs
      refine ⟨pairs, tail, isPairs, ?_⟩
      simp only [Option.ite_none_left_eq_some, Option.some.injEq] at found
      rw [← found.2]
      cases levels with
      | zero => exact Or.inl rfl
      | succ fewer =>
          dsimp only
          split
          · exact Or.inl rfl
          · rename_i key inner isPair
            split
            · exact Or.inl rfl
            · rename_i part isPart
              exact Or.inr ⟨fewer, key, inner, part, rfl, isPair, isPart, rfl⟩

theorem distinct_of_objectText (isText : ObjectText printed entries pieces text) :
    PyDict.Distinct entries := by
  cases isText with
  | empty _ => exact List.nodup_nil
  | members _ distinct _ => exact distinct

theorem salvages_of_readsPlainKeys (loads : LoadsTexts printed runtime) (levels : Nat)
    {closers start : List Char} (isText : ObjectText printed entries pieces text)
    (isClosers : Closers closers) (isPrefix : start <+: text ++ closers)
    (plain : readsPlainKeys levels start = true) {salvaged : JsonObject}
    (found : salvageTruncatedObject runtime levels start = some salvaged) :
    Salvages entries pieces start salvaged := by
  induction levels using Nat.strong_induction_on generalizing entries pieces text closers start
    salvaged with
  | h levels ih =>
      have distinctSalvaged := distinct_salvageTruncatedObject found
      obtain ⟨opened, pairs, tail, isPairs, result⟩ := salvageTruncatedObject_cases found
      obtain ⟨first, rest, cutAt⟩ := exists_cutAt isText isClosers isPrefix opened
      have distinct : PyDict.Distinct (entries.take first.length) :=
        (distinct_of_objectText isText).sublist ((List.take_sublist _ _).map _)
      have split := isPairs
      rw [cutAt.start_eq] at split
      obtain ⟨rfl, rfl⟩ := salvagedPairs_eq loads distinct cutAt.members cutAt.uncut split
      have earlier (more last : List (List Char)) (parts : pieces = more ++ last)
          (followed : '{' :: closed more <+: start) :
          ∀ entry ∈ entries.take more.length, entry ∈ entries.take first.length :=
        fun entry member => (List.take_sublist_take_left
          (cutAt.followed more last parts followed)).subset member
      rcases result with rfl | ⟨fewer, key, inner, part, rfl, isPair, isPart, rfl⟩
      · exact ⟨distinct, .whole fun entry member => List.mem_of_mem_take member, earlier⟩
      · simp only [readsPlainKeys, cutTail_eq isPairs, isPair, Bool.and_eq_true, Bool.not_eq_true',
          List.contains_eq_mem, decide_eq_false_iff_not] at plain
        obtain ⟨fresh, value, innerPieces, innerText, more, member, isObject, isMore, ends⟩ :=
          cutAt.pair key inner isPair plain.1
        have nested := ih fewer (Nat.lt_succ_self _) isObject isMore ends plain.2 isPart
        refine ⟨distinctSalvaged, .cut member nested.part ?_, ?_⟩
        · intro entry inside
          rcases (PyDict.mem_set_iff distinct).1 inside with rfl | ⟨old, -⟩
          · exact Or.inr rfl
          · exact Or.inl (List.mem_of_mem_take old)
        · intro others last parts followed entry inside
          have old := earlier others last parts followed entry inside
          exact (PyDict.mem_set_iff distinct).2 (Or.inr ⟨old, fresh entry old⟩)

/-- Of any prefix of any text of an object, a part of the object is salvaged, with every pair
that a comma follows, unless a key is read again that has a backslash. -/
theorem salvaged_is_part_of_object (loads : LoadsTexts printed runtime) {entries : JsonObject}
    {pieces : List (List Char)} {text trailing start : List Char}
    (isText : ObjectText printed entries pieces text) (isTrailing : Blank trailing)
    (isPrefix : start <+: text ++ trailing)
    (plain : readsPlainKeys maxSalvageDepth start = true) :
    ∀ salvaged, salvageTruncatedObject runtime maxSalvageDepth start = some salvaged →
      Salvages entries pieces start salvaged :=
  fun _ found => salvages_of_readsPlainKeys loads maxSalvageDepth isText
    (Closers.of_blank isTrailing) isPrefix plain found

end Salvage

/-! ### A document -/

def memberText (raw value : List Char) : List Char :=
  '"' :: (raw ++ '"' :: ':' :: value)

theorem membersText_cons {name : String} {value : Json} (isName : StringText name.toList raw)
    (isText : ValueText printed value text) (members : MembersText printed entries pieces) :
    MembersText printed ((name, value) :: entries) (memberText raw text :: pieces) := by
  have none : Blank [] := by simp [Blank]
  have member := @MembersText.cons printed name value entries [] raw [] [] text [] pieces none
    isName none none isText none members
  simpa [memberText] using member

theorem eq_nil_of_blank {before : List Char} (blank : Blank before)
    (notBlank : isBlank character = false) (same : before ++ rest = character :: text) :
    before = [] := by
  cases before with
  | nil => rfl
  | cons first before =>
      obtain ⟨rfl, -⟩ := List.cons.inj same
      rw [blank first List.mem_cons_self] at notBlank
      cases notBlank

theorem quote_mem_joined (nonempty : entries ≠ []) (members : MembersText printed entries pieces) :
    '"' ∈ joined pieces := by
  cases members with
  | nil => contradiction
  | @cons _ _ _ _ _ _ _ _ _ pieces =>
      cases pieces <;> simp [joined]

theorem eq_nil_of_braces {after : List Char} (isText : ObjectText printed entries pieces text)
    (same : text ++ after = ['{', '}']) : entries = [] := by
  cases isText with
  | empty _ => rfl
  | members nonempty _ members =>
      have quote : '"' ∈ '{' :: (joined pieces ++ ['}']) ++ after := by
        simp [quote_mem_joined nonempty members]
      rw [same] at quote
      simp at quote

theorem name_of_letter {name others : List Char} {letter : Char} (isName : StringText name raw)
    (notQuote : letter ≠ '"') (notEscape : letter ≠ '\\')
    (same : raw ++ '"' :: rest = letter :: '"' :: others) : name = [letter] ∧ rest = others := by
  cases isName with
  | nil => exact absurd (List.cons.inj same).1.symm notQuote
  | plain _ _ _ isRest =>
      obtain ⟨rfl, tail⟩ := List.cons.inj same
      cases isRest with
      | nil => exact ⟨rfl, (List.cons.inj tail).2⟩
      | plain _ otherQuote _ _ => exact absurd (List.cons.inj tail).1 otherQuote
      | escaped escape _ =>
          obtain ⟨more, rfl⟩ := backslash_of_escapeText escape
          cases (List.cons.inj tail).1
  | escaped escape _ =>
      obtain ⟨more, rfl⟩ := backslash_of_escapeText escape
      exact absurd (List.cons.inj same).1.symm notEscape

private theorem known_value {value : Json} (isText : ValueText printed value text)
    (same : text = '{' :: (memberText ['b'] ['{', '}'] ++ ['}'])) :
    value = .dict [("b", .dict [])] := by
  obtain ⟨first, rest, split, -, ofBrace⟩ := head_valueText isText
  obtain ⟨rfl, -⟩ := List.cons.inj (split.symm.trans same)
  obtain ⟨entries, pieces, rfl, isObject⟩ := ofBrace rfl
  congr 1
  cases isObject with
  | empty blank =>
      have none := eq_nil_of_blank blank (by decide) (List.cons.inj same).2
      subst none
      simp [memberText] at same
  | members nonempty distinct members =>
      have inside : joined pieces = memberText ['b'] ['{', '}'] := by
        simpa using same
      cases members with
      | nil => contradiction
      | @cons name value entries before raw beforeColon afterColon text after pieces isBefore isName
          isBeforeColon isAfterColon isValue isAfter members =>
          cases members with
          | cons =>
              have comma : ',' ∈ memberText ['b'] ['{', '}'] := by
                rw [← inside]
                simp [joined]
              simp [memberText] at comma
          | nil =>
              obtain rfl := eq_nil_of_blank isBefore (by decide) inside
              obtain ⟨isLetter, colon⟩ :=
                name_of_letter isName (by decide) (by decide) (List.cons.inj inside).2
              obtain rfl := eq_nil_of_blank isBeforeColon (by decide) colon
              have braces := (List.cons.inj colon).2
              obtain rfl := eq_nil_of_blank isAfterColon (by decide) braces
              obtain ⟨brace, others, textEq, -, ofBrace⟩ := head_valueText isValue
              rw [textEq] at braces
              obtain ⟨nested, nestedPieces, rfl, isObject⟩ := ofBrace (List.cons.inj braces).1
              rw [← textEq] at braces
              have isName : name = "b" := String.toList_inj.1 isLetter
              rw [eq_nil_of_braces isObject braces, isName]

private def knownText : String :=
  "\x7b\"b\":\x7b\x7d\x7d"

private def knownDocuments : PyDict Json :=
  [(knownText, .dict [("b", .dict [])])]

private theorem known_loads_distinct (text : String) (entries : JsonObject)
    (loaded : (PythonRuntime.ascii ⟨[], [], knownDocuments, []⟩).jsonLoads text =
      some (.dict entries)) : (entries.map Prod.fst).Nodup := by
  obtain ⟨entry, found, isEntries⟩ := Option.map_eq_some_iff.1 loaded
  have member := List.mem_of_find?_eq_some found
  obtain rfl := List.mem_singleton.1 member
  cases isEntries
  decide

def knowingRuntime : AdapterRuntime where
  toPythonRuntime := .ascii ⟨[], [], knownDocuments, []⟩
  toCharacterTables := .ascii
  floatOfInt value := toString value ++ ".0"
  loads_distinct := known_loads_distinct

private theorem knowingRuntime_loadsTexts (printed : List Char → String) :
    LoadsTexts printed knowingRuntime := by
  intro value text isText loaded found
  obtain ⟨entry, known, rfl⟩ := Option.map_eq_some_iff.1 found
  obtain rfl := List.mem_singleton.1 (List.mem_of_find?_eq_some known)
  have same : knownText = String.ofList text := by
    simpa using List.find?_some known
  have chars := congrArg String.toList same
  rw [String.toList_ofList] at chars
  rw [known_value isText chars.symm]

def nestedObject (name : String) : JsonObject :=
  [(name, .dict [("b", .dict []), ("c", .dict [])])]

def nestedPiece (raw : List Char) : List Char :=
  memberText raw
    ('{' :: (joined [memberText ['b'] ['{', '}'], memberText ['c'] ['{', '}']] ++ ['}']))

def nestedText (raw : List Char) : List Char :=
  '{' :: (joined [nestedPiece raw] ++ ['}'])

/-- The text up to the second of the inner members. -/
def nestedStart (raw : List Char) : List Char :=
  '{' :: '"' :: (raw ++ ['"', ':', '{', '"', 'b', '"', ':', '{', '}', ','])

private theorem isText_nestedText {name : String} (isName : StringText name.toList raw) :
    ObjectText printed (nestedObject name) [nestedPiece raw] (nestedText raw) := by
  have empty : ValueText printed (.dict []) ('{' :: ([] ++ ['}'])) :=
    .dict (.empty (by simp [Blank]))
  have letter (character : Char) (printable : 0x20 ≤ character.toNat) (notQuote : character ≠ '"')
      (notEscape : character ≠ '\\') : StringText [character] [character] :=
    .plain printable notQuote notEscape .nil
  have inner : MembersText printed [("b", .dict []), ("c", .dict [])]
      [memberText ['b'] ['{', '}'], memberText ['c'] ['{', '}']] :=
    membersText_cons (letter 'b' (by decide) (by decide) (by decide)) empty
      (membersText_cons (letter 'c' (by decide) (by decide) (by decide)) empty .nil)
  refine .members (by simp [nestedObject]) ?_ (membersText_cons isName ?_ .nil)
  · simp [nestedObject, PyDict.Distinct]
  · exact .dict (.members (by simp) (by simp [PyDict.Distinct]) inner)

private theorem isPrefix_nestedStart (raw : List Char) : nestedStart raw <+: nestedText raw :=
  ⟨['"', 'c', '"', ':', '{', '}', '}', '}'], by simp [nestedStart, nestedText, nestedPiece,
    memberText, joined]⟩

/-- With a plain key the salvaged object is a part of the object. -/
theorem nested_part_is_salvaged :
    salvageTruncatedObject knowingRuntime maxSalvageDepth (nestedStart ['a']) =
        some [("a", .dict [("b", .dict [])])] ∧
      Salvages (nestedObject "a") [nestedPiece ['a']] (nestedStart ['a'])
        [("a", .dict [("b", .dict [])])] := by
  have found : salvageTruncatedObject knowingRuntime maxSalvageDepth (nestedStart ['a']) =
      some [("a", .dict [("b", .dict [])])] := by
    rfl
  have letter : StringText "a".toList ['a'] :=
    .plain (by decide) (by decide) (by decide) .nil
  have noBlank : Blank [] := by simp [Blank]
  refine ⟨found, ?_⟩
  exact salvaged_is_part_of_object (knowingRuntime_loadsTexts fun _ => "0.0")
    (isText_nestedText letter) noBlank (by simpa using isPrefix_nestedStart ['a']) (by decide) _
    found

/-- A key that is a line break is salvaged as a backslash and a letter. -/
theorem escaped_key_is_invented :
    ¬ ∀ (printed : List Char → String) (runtime : AdapterRuntime), LoadsTexts printed runtime →
      ∀ (entries : JsonObject) (pieces : List (List Char)) (text trailing start : List Char),
        ObjectText printed entries pieces text → Blank trailing → start <+: text ++ trailing →
          start ≠ text ++ trailing →
            ∀ salvaged, salvageTruncatedObject runtime maxSalvageDepth start = some salvaged →
              Salvages entries pieces start salvaged := by
  intro salvages
  have found : salvageTruncatedObject knowingRuntime maxSalvageDepth (nestedStart ['\\', 'n']) =
      some [("\\n", .dict [("b", .dict [])])] := by
    rfl
  have lineBreak : StringText "\n".toList ['\\', 'n'] := .escaped (.short rfl) .nil
  have part := (salvages (fun _ => "0.0") knowingRuntime (knowingRuntime_loadsTexts _)
    (nestedObject "\n") [nestedPiece ['\\', 'n']] (nestedText ['\\', 'n']) []
    (nestedStart ['\\', 'n']) (isText_nestedText lineBreak) (by simp [Blank])
    (by simpa using isPrefix_nestedStart ['\\', 'n']) (by decide) _ found).part
  cases part with
  | whole each =>
      have member := each _ List.mem_cons_self
      simp [nestedObject] at member
  | cut member _ each =>
      rcases each _ List.mem_cons_self with same | same
      · simp [nestedObject] at same
      · simp [nestedObject] at member
        simp [member] at same

end TruncatedObjects

end WebhookWise
