import WebhookWise.ErrorLines
import Mathlib.Algebra.GroupWithZero.Nat
import Mathlib.Algebra.Order.BigOperators.Group.List

/-!
# What truncation saves and what it adds

A payload over the limit is shortened field by field.  Every summary leaves some text out and puts
some of its own in; a ledger of both is kept on the payload before anything is shortened.  Nothing
in the code compares the two sides, so a payload can grow.
-/

namespace WebhookWise

namespace PayloadTruncation

open PayloadSanitizer ErrorLines SensitiveKeys

/-! ## The size of JSON text -/

variable {entries : List (String × Json)} (items : List Json)

/-- The bytes that a character takes in a JSON text, and those that a float takes. -/
structure JsonSizes where
  characterSize : Char → Nat
  floatSize : String → Nat

namespace JsonSizes

variable (sizes : JsonSizes)

def charactersSize (characters : List Char) : Nat :=
  (characters.map sizes.characterSize).sum

def textSize (text : String) : Nat :=
  sizes.charactersSize text.toList

mutual

def size : Json → Nat
  | .null => 4
  | .bool value => if value then 4 else 5
  | .int value => (toString value).length
  | .float printed => sizes.floatSize printed
  | .str text => sizes.textSize text + 2
  | .list items => 1 + max 1 (itemsSize items)
  | .dict entries => 1 + max 1 (entriesSize entries)

def itemsSize : List Json → Nat
  | [] => 0
  | item :: items => size item + 1 + itemsSize items

def entriesSize : List (String × Json) → Nat
  | [] => 0
  | (key, value) :: entries => sizes.textSize key + 3 + size value + 1 + entriesSize entries

end

@[simp]
theorem textSize_append (first second : String) :
    sizes.textSize (first ++ second) = sizes.textSize first + sizes.textSize second := by
  simp [textSize, charactersSize]

theorem textSize_ofList (characters : List Char) :
    sizes.textSize (String.ofList characters) = sizes.charactersSize characters := by
  simp [textSize]

theorem charactersSize_append (first second : List Char) :
    sizes.charactersSize (first ++ second) =
      sizes.charactersSize first + sizes.charactersSize second := by
  simp [charactersSize]

theorem itemsSize_append (first second : List Json) :
    sizes.itemsSize (first ++ second) = sizes.itemsSize first + sizes.itemsSize second := by
  induction first with
  | nil => simp [itemsSize]
  | cons item first ih =>
      simp only [List.cons_append, itemsSize, ih]
      omega

theorem entriesSize_append (first second : List (String × Json)) :
    sizes.entriesSize (first ++ second) = sizes.entriesSize first + sizes.entriesSize second := by
  induction first with
  | nil => simp [entriesSize]
  | cons entry first ih =>
      simp only [List.cons_append, entriesSize, ih]
      omega

theorem entriesSize_perm {first second : List (String × Json)} (perm : first.Perm second) :
    sizes.entriesSize first = sizes.entriesSize second := by
  induction perm with
  | nil => rfl
  | cons entry _ ih => rw [entriesSize, entriesSize, ih]
  | swap first second rest =>
      simp only [entriesSize]
      omega
  | trans _ _ firstEq secondEq => exact firstEq.trans secondEq

theorem size_lt_entriesSize {entry : String × Json} (member : entry ∈ entries) :
    sizes.size entry.2 < sizes.entriesSize entries := by
  induction entries with
  | nil => cases member
  | cons first entries ih =>
      rw [entriesSize]
      rcases List.mem_cons.1 member with rfl | later
      · omega
      · have smaller := ih later
        omega

theorem length_le_itemsSize (items : List Json) : items.length ≤ sizes.itemsSize items := by
  induction items with
  | nil => simp
  | cons item items ih =>
      rw [itemsSize, List.length_cons]
      omega

theorem entriesSize_pos (notEmpty : entries ≠ []) : 0 < sizes.entriesSize entries := by
  cases entries with
  | nil => exact absurd rfl notEmpty
  | cons entry entries =>
      rw [entriesSize]
      omega

theorem itemsSize_pos {items : List Json} (notEmpty : items ≠ []) :
    0 < sizes.itemsSize items := by
  cases items with
  | nil => exact absurd rfl notEmpty
  | cons item items =>
      rw [itemsSize]
      omega

end JsonSizes

/-! ## The serializer -/

variable {value : Json} {levels : Nat}

def maxNesting : Nat := 254

/-- `sys.maxsize`, the length of the longest bytes object. -/
def maxSize : Nat := 9223372036854775807

/-- Whole numbers have 64 bits, and at most so many containers stand inside each other. -/
def fits : Nat → Json → Bool
  | _, .int value => decide (-9223372036854775808 ≤ value ∧ value < 18446744073709551616)
  | 0, .list _ | 0, .dict _ => false
  | levels + 1, .list items => items.all fun item => fits levels item
  | levels + 1, .dict entries => entries.all fun entry => fits levels entry.2
  | _, _ => true

/-- What the service relies on: the serializer writes compact JSON text and raises for what it
cannot write. -/
structure CompactJson (runtime : SanitizerRuntime) (sizes : JsonSizes) : Prop where
  dumpsSize_eq : ∀ value, runtime.dumpsSize value =
    if fits maxNesting value ∧ sizes.size value ≤ maxSize then some (sizes.size value) else none

/-- A document whose objects are Python dicts: every key is there once. -/
inductive Keyed : Json → Prop
  | null : Keyed .null
  | bool (value : Bool) : Keyed (.bool value)
  | int (value : Int) : Keyed (.int value)
  | float (printed : String) : Keyed (.float printed)
  | str (text : String) : Keyed (.str text)
  | list {items : List Json} : (∀ item ∈ items, Keyed item) → Keyed (.list items)
  | dict {entries : List (String × Json)} : PyDict.Distinct entries →
      (∀ entry ∈ entries, Keyed entry.2) → Keyed (.dict entries)

theorem fits_succ (fitting : fits levels value) : fits (levels + 1) value := by
  induction levels generalizing value with
  | zero => cases value <;> simp_all [fits]
  | succ levels ih =>
      cases value with
      | list items =>
          rw [fits, List.all_eq_true] at fitting ⊢
          exact fun item member => ih (fitting item member)
      | dict entries =>
          rw [fits, List.all_eq_true] at fitting ⊢
          exact fun entry member => ih (fitting entry member)
      | int value => simpa only [fits] using fitting
      | null | bool | float | str => rfl

theorem fits_mono {more : Nat} (le : levels ≤ more) (fitting : fits levels value) :
    fits more value := by
  induction le with
  | refl => exact fitting
  | step _ ih => exact fits_succ ih

/-! ## The ledger -/

/-- The bytes that summaries leave out, and the bytes that they put in. -/
structure Ledger where
  dropped : Nat
  added : Nat

namespace Ledger

def untouched : Ledger := ⟨0, 0⟩

def total (ledgers : List Ledger) : Ledger where
  dropped := (ledgers.map dropped).sum
  added := (ledgers.map added).sum

/-- The ledger accounts for a change of size. -/
def Balances (ledger : Ledger) (before after : Nat) : Prop :=
  after + ledger.dropped = before + ledger.added

theorem untouched_balances (size : Nat) : untouched.Balances size size :=
  rfl

end Ledger

variable (runtime : SanitizerRuntime) (sizes : JsonSizes)

def stringMarker (length : Nat) : String :=
  "...[truncated, original " ++ toString length ++ " chars; kept head+tail+error lines]"

/-- The first twenty lines with an error keyword that begin between the head and the tail. -/
def repeatedLines (characters : List Char) : List String :=
  (((linesOf characters).filter fun line => line.Qualifies runtime characters.length).take
    maxErrorLines).map PlacedLine.stripped

/-- A text loses what stands between its head and its tail.  It gains the marker, its error
lines over again, and a title above the tail. -/
def stringLedger (text : String) : Ledger :=
  let characters := text.toList
  let hasTail := stringHeadChars + stringTailChars < characters.length
  { dropped := sizes.charactersSize
      (if hasTail then
        (characters.take (characters.length - stringTailChars)).drop stringHeadChars
      else characters.drop stringHeadChars)
    added := sizes.textSize (stringMarker characters.length) +
      (if repeatedLines runtime characters = [] then 0
      else sizes.textSize ("\n" ++ "[error lines]\n") +
        sizes.textSize ("\n".intercalate (repeatedLines runtime characters))) +
      if hasTail then sizes.textSize ("\n" ++ "[tail]\n") else 0 }

def listNote (length : Nat) : Json :=
  .dict [("_truncated", .bool true),
    ("_omitted_items", .int ↑(length - listHead - listTail)),
    ("_original_length", .int ↑length)]

def listLedger (items : List Json) : Ledger :=
  if items.length ≤ listHead + listTail + 1 then .untouched
  else
    { dropped := sizes.itemsSize ((items.take (items.length - listTail)).drop listHead)
      added := sizes.size (listNote items.length) + 1 }

/-- What stands for a document below the last level. -/
def depthPlaceholder : Json :=
  .dict [("_truncated", .bool true), ("_reason", .str "max depth exceeded")]

def fieldLedger (dictLedger : Json → Ledger) : Json → Ledger
  | .str text =>
      if stringTruncateThreshold < text.length then stringLedger runtime sizes text
      else .untouched
  | .dict entries => dictLedger (.dict entries)
  | .list items => listLedger sizes items
  | _ => .untouched

def overBudget (maxBytes : Int) : List ((String × Json) × Nat) → Bool → Int → List Json
  | [], _, _ => []
  | ((key, value), size) :: fields, isKept, currentSize =>
      let cost : Int := size + key.length + 4
      if maxBytes < currentSize + cost ∧ (isKept ∨ maxBytes < cost) then
        value :: overBudget maxBytes fields true currentSize
      else overBudget maxBytes fields true (currentSize + cost)

def sizedFields (entries : List (String × Json)) : List ((String × Json) × Nat) :=
  (entries.map fun entry => (entry, sizes.size entry.2)).insertionSort LargerField

def documentLedger : Nat → Int → Json → Ledger
  | 0, _, value => ⟨sizes.size value, sizes.size depthPlaceholder⟩
  | levels + 1, maxBytes, .dict entries =>
      .total ((overBudget maxBytes (sizedFields sizes entries) false 2).map
        (fieldLedger runtime sizes (documentLedger levels (max (maxBytes / 2) 256))))
  | _ + 1, maxBytes, .list items =>
      if maxBytes < sizes.size (.list items) then listLedger sizes items else .untouched
  | _ + 1, _, _ => .untouched

def payloadLedger (maxBytes : Int) (payload : JsonObject) : Ledger :=
  documentLedger runtime sizes (maxTruncateDepth + 1) maxBytes (.dict payload)

/-! ## What is summarized -/

variable {maxBytes : Int}

/-- What stands in the place of a value: a shorter text, a shorter list, or a placeholder. -/
inductive Summary where
  | text (text : String)
  | list (items : List Json)
  | placeholder (value : Json)

def Summary.ledger : Summary → Ledger
  | .text characters => stringLedger runtime sizes characters
  | .list items => listLedger sizes items
  | .placeholder value => ⟨sizes.size value, sizes.size depthPlaceholder⟩

/-- The summary leaves out at least as many bytes as it puts in. -/
def Summary.Worthwhile (summary : Summary) : Prop :=
  (summary.ledger runtime sizes).added ≤ (summary.ledger runtime sizes).dropped

/-- Texts of more than 200 characters and lists of more than 11 items have a summary. -/
def ownSummary : Json → Option Summary
  | .str text => if stringTruncateThreshold < text.length then some (.text text) else none
  | .list items => if items.length ≤ listHead + listTail + 1 then none else some (.list items)
  | _ => none

def fieldCost (field : (String × Json) × Nat) : Int :=
  field.2 + field.1.1.length + 4

/-- What the fields before a field come to as far as they are kept whole, the last of them first. -/
def keptWhole (maxBytes : Int) : List ((String × Json) × Nat) → Int
  | [] => 2
  | field :: larger =>
      let kept := keptWhole maxBytes larger
      if maxBytes < kept + fieldCost field ∧ (larger ≠ [] ∨ maxBytes < fieldCost field) then kept
      else kept + fieldCost field

/-- With the larger fields that are kept whole the field is over the limit; the first one has to
be over it alone. -/
def IsOver (maxBytes : Int) (larger : List ((String × Json) × Nat))
    (field : (String × Json) × Nat) : Prop :=
  maxBytes < keptWhole maxBytes larger + fieldCost field ∧
    (larger ≠ [] ∨ maxBytes < fieldCost field)

/-- A document is shortened at this summary: of a field that is over the limit, or of a field of
such an object in turn, for which half of the limit is left. -/
inductive Summarizes (sizes : JsonSizes) : Nat → Int → Json → Summary → Prop
  | placeholder (maxBytes : Int) (value : Json) :
      Summarizes sizes 0 maxBytes value (.placeholder value)
  | field {levels : Nat} {maxBytes : Int} {entries : List (String × Json)} {summary : Summary}
      {larger smaller : List ((String × Json) × Nat)} {field : (String × Json) × Nat} :
      sizedFields sizes entries = larger.reverse ++ field :: smaller → IsOver maxBytes larger field →
        ownSummary field.1.2 = some summary →
          Summarizes sizes (levels + 1) maxBytes (.dict entries) summary
  | nested {levels : Nat} {maxBytes : Int} {entries inner : List (String × Json)}
      {summary : Summary} {larger smaller : List ((String × Json) × Nat)}
      {field : (String × Json) × Nat} :
      sizedFields sizes entries = larger.reverse ++ field :: smaller → IsOver maxBytes larger field →
        field.1.2 = .dict inner →
          Summarizes sizes levels (max (maxBytes / 2) 256) (.dict inner) summary →
            Summarizes sizes (levels + 1) maxBytes (.dict entries) summary

variable {runtime sizes}

theorem mem_overBudget_iff {fields : List ((String × Json) × Nat)}
    (before : List ((String × Json) × Nat)) :
    value ∈ overBudget maxBytes fields (decide (before ≠ [])) (keptWhole maxBytes before) ↔
      ∃ larger field smaller, fields = larger.reverse ++ field :: smaller ∧
        IsOver maxBytes (larger ++ before) field ∧ field.1.2 = value := by
  induction fields generalizing before with
  | nil => simp [overBudget]
  | cons first fields ih =>
      have after : (∃ larger field smaller, first :: fields = larger.reverse ++ field :: smaller ∧
          IsOver maxBytes (larger ++ before) field ∧ field.1.2 = value) ↔
          (IsOver maxBytes before first ∧ first.1.2 = value) ∨
            ∃ larger field smaller, fields = larger.reverse ++ field :: smaller ∧
              IsOver maxBytes (larger ++ first :: before) field ∧ field.1.2 = value := by
        constructor
        · rintro ⟨larger, field, smaller, parts, isOver, isValue⟩
          rcases List.eq_nil_or_concat' larger with rfl | ⟨larger, last, rfl⟩
          · obtain ⟨rfl, rfl⟩ := List.cons.inj parts
            exact Or.inl ⟨isOver, isValue⟩
          · rw [List.reverse_append, List.reverse_singleton, List.singleton_append,
              List.cons_append] at parts
            obtain ⟨rfl, rest⟩ := List.cons.inj parts
            rw [List.append_assoc] at isOver
            exact Or.inr ⟨larger, field, smaller, rest, isOver, isValue⟩
        · rintro (⟨isOver, isValue⟩ | ⟨larger, field, smaller, rfl, isOver, isValue⟩)
          · exact ⟨[], first, fields, rfl, isOver, isValue⟩
          · refine ⟨larger ++ [first], field, smaller, by simp, ?_, isValue⟩
            rwa [List.append_assoc]
      have onward := ih (first :: before)
      rw [decide_eq_true (List.cons_ne_nil first before)] at onward
      obtain ⟨⟨key, own⟩, size⟩ := first
      rw [after, ← onward]
      simp only [overBudget, keptWhole, fieldCost, IsOver, decide_eq_true_eq]
      split
      · rename_i isOver
        simp [isOver, eq_comm]
      · rename_i fits
        simp [fits]

theorem fieldLedger_of_ownSummary {dictLedger : Json → Ledger} {summary : Summary}
    (own : ownSummary value = some summary) :
    fieldLedger runtime sizes dictLedger value = summary.ledger runtime sizes := by
  cases value with
  | str text =>
      simp only [ownSummary, Option.ite_none_right_eq_some, Option.some.injEq] at own
      obtain ⟨long, rfl⟩ := own
      exact if_pos long
  | list items =>
      simp only [ownSummary, Option.ite_none_left_eq_some, Option.some.injEq] at own
      obtain ⟨_, rfl⟩ := own
      rfl
  | _ => cases own

theorem fieldLedger_of_not_summarized {dictLedger : Json → Ledger} (own : ownSummary value = none)
    (notDict : ∀ entries, value ≠ .dict entries) :
    fieldLedger runtime sizes dictLedger value = .untouched := by
  cases value with
  | str text =>
      simp only [ownSummary, ite_eq_right_iff, reduceCtorEq, imp_false] at own
      exact if_neg own
  | list items =>
      simp only [ownSummary, ite_eq_left_iff, reduceCtorEq, imp_false, not_not] at own
      exact if_pos own
  | dict entries => exact absurd rfl (notDict entries)
  | _ => rfl

section Ledgers

variable {levels : Nat} {maxBytes : Int} {entries : List (String × Json)}

/-- A property of ledgers that survives addition. -/
structure Additive (Good : Ledger → Prop) : Prop where
  untouched : Good .untouched
  total (ledgers : List Ledger) : (∀ ledger ∈ ledgers, Good ledger) → Good (.total ledgers)

theorem additive_covered : Additive fun ledger => ledger.added ≤ ledger.dropped where
  untouched := le_rfl
  total _ all := List.sum_le_sum all

theorem additive_gains : Additive fun ledger => ledger.dropped ≤ ledger.added where
  untouched := le_rfl
  total _ all := List.sum_le_sum all

theorem good_fieldLedger {Good : Ledger → Prop} (additive : Additive Good)
    (below : ∀ inner, (∀ summary, Summarizes sizes levels (max (maxBytes / 2) 256) (.dict inner)
        summary → Good (summary.ledger runtime sizes)) →
      Good (documentLedger runtime sizes levels (max (maxBytes / 2) 256) (.dict inner)))
    (all : ∀ summary, Summarizes sizes (levels + 1) maxBytes (.dict entries) summary →
      Good (summary.ledger runtime sizes))
    (exceeds : value ∈ overBudget maxBytes (sizedFields sizes entries) false 2) :
    Good (fieldLedger runtime sizes
      (documentLedger runtime sizes levels (max (maxBytes / 2) 256)) value) := by
  obtain ⟨larger, field, smaller, parts, isOver, rfl⟩ := (mem_overBudget_iff []).1 exceeds
  rw [List.append_nil] at isOver
  cases own : ownSummary field.1.2 with
  | some summary =>
      rw [fieldLedger_of_ownSummary own]
      exact all summary (.field parts isOver own)
  | none =>
      by_cases isDict : ∃ inner, field.1.2 = .dict inner
      · obtain ⟨inner, isDict⟩ := isDict
        rw [isDict]
        exact below inner fun summary summarizes =>
          all summary (.nested parts isOver isDict summarizes)
      · rw [fieldLedger_of_not_summarized own fun inner same => isDict ⟨inner, same⟩]
        exact additive.untouched

/-- What holds of every summary of an object holds of its ledger. -/
theorem good_documentLedger {Good : Ledger → Prop} (additive : Additive Good)
    (all : ∀ summary, Summarizes sizes levels maxBytes (.dict entries) summary →
      Good (summary.ledger runtime sizes)) :
    Good (documentLedger runtime sizes levels maxBytes (.dict entries)) := by
  induction levels generalizing maxBytes entries with
  | zero => exact all _ (.placeholder maxBytes _)
  | succ levels ih =>
      rw [documentLedger]
      refine additive.total _ fun ledger member => ?_
      obtain ⟨value, exceeds, rfl⟩ := List.mem_map.1 member
      exact good_fieldLedger additive (fun _ => ih) all exceeds

theorem Ledger.total_surplus {ledgers : List Ledger}
    (gains : ∀ ledger ∈ ledgers, ledger.dropped ≤ ledger.added) {own : Ledger}
    (member : own ∈ ledgers) :
    (Ledger.total ledgers).dropped + own.added ≤ (Ledger.total ledgers).added + own.dropped := by
  induction ledgers with
  | nil => cases member
  | cons first ledgers ih =>
      obtain ⟨firstGains, restGains⟩ := List.forall_mem_cons.1 gains
      have rest : (Ledger.total ledgers).dropped ≤ (Ledger.total ledgers).added :=
        List.sum_le_sum restGains
      simp only [Ledger.total, List.map_cons, List.sum_cons] at ih rest ⊢
      rcases List.mem_cons.1 member with rfl | later
      · omega
      · have grows := ih restGains later
        omega

/-- Where no summary leaves out more than it puts in, no field makes up for another. -/
theorem field_surplus_le
    (gains : ∀ summary, Summarizes sizes (levels + 1) maxBytes (.dict entries) summary →
      (summary.ledger runtime sizes).dropped ≤ (summary.ledger runtime sizes).added)
    {larger smaller : List ((String × Json) × Nat)} {field : (String × Json) × Nat}
    (parts : sizedFields sizes entries = larger.reverse ++ field :: smaller)
    (isOver : IsOver maxBytes larger field) {own : Ledger}
    (isOwn : fieldLedger runtime sizes
      (documentLedger runtime sizes levels (max (maxBytes / 2) 256)) field.1.2 = own) :
    (documentLedger runtime sizes (levels + 1) maxBytes (.dict entries)).dropped + own.added ≤
      (documentLedger runtime sizes (levels + 1) maxBytes (.dict entries)).added +
        own.dropped := by
  have exceeds := (mem_overBudget_iff []).2
    ⟨larger, field, smaller, parts, by rwa [List.append_nil], rfl⟩
  rw [documentLedger]
  refine Ledger.total_surplus (fun ledger member => ?_) (List.mem_map.2 ⟨_, exceeds, isOwn⟩)
  obtain ⟨value, valueExceeds, rfl⟩ := List.mem_map.1 member
  exact good_fieldLedger additive_gains (fun _ => good_documentLedger additive_gains) gains
    valueExceeds

theorem surplus_le (gains : ∀ summary, Summarizes sizes levels maxBytes (.dict entries) summary →
      (summary.ledger runtime sizes).dropped ≤ (summary.ledger runtime sizes).added)
    {summary : Summary} (summarizes : Summarizes sizes levels maxBytes (.dict entries) summary) :
    (documentLedger runtime sizes levels maxBytes (.dict entries)).dropped +
        (summary.ledger runtime sizes).added ≤
      (documentLedger runtime sizes levels maxBytes (.dict entries)).added +
        (summary.ledger runtime sizes).dropped := by
  generalize isObject : Json.dict entries = document at summarizes gains ⊢
  induction summarizes generalizing entries with
  | placeholder maxBytes value => exact (Nat.add_comm _ _).le
  | field parts isOver own =>
      exact field_surplus_le gains parts isOver (fieldLedger_of_ownSummary own)
  | nested parts isOver isDict summarizes ih =>
      have within := field_surplus_le gains parts isOver (congrArg _ isDict)
      have inside := ih rfl fun other otherSummarizes =>
        gains other (.nested parts isOver isDict otherSummarizes)
      rw [fieldLedger] at within
      omega

end Ledgers

/-! ## One summary -/

theorem take_append_middle_append_drop {Item : Type} (items : List Item) {first last : Nat}
    (le : first ≤ last) :
    items.take first ++ ((items.take last).drop first ++ items.drop last) = items := by
  have front : items.take first ++ (items.take last).drop first = items.take last := by
    calc
      items.take first ++ (items.take last).drop first =
          (items.take last).take first ++ (items.take last).drop first := by
        rw [List.take_take, Nat.min_eq_left le]
      _ = items.take last := List.take_append_drop first (items.take last)
  rw [← List.append_assoc, front, List.take_append_drop]

theorem textSize_intercalate (separator first : String) (rest : List String) :
    sizes.textSize (separator.intercalate (first :: rest)) =
      sizes.textSize first +
        (rest.map fun part => sizes.textSize separator + sizes.textSize part).sum := by
  induction rest generalizing first with
  | nil => rw [String.intercalate_singleton, List.map_nil, List.sum_nil, Nat.add_zero]
  | cons part rest ih =>
      rw [String.intercalate_cons_cons, sizes.textSize_append, sizes.textSize_append, ih,
        List.map_cons, List.sum_cons]
      omega

theorem repeatedLines_eq (characters : List Char) :
    repeatedLines runtime characters = errorLines runtime characters :=
  errorLines_eq.symm

theorem textSize_summarizeLargeString (text : String) :
    sizes.textSize (summarizeLargeString runtime text) =
      sizes.charactersSize (text.toList.take stringHeadChars) +
        sizes.textSize (stringMarker text.toList.length) +
        (if errorLines runtime text.toList = [] then 0
        else sizes.textSize ("\n" ++ "[error lines]\n") +
          sizes.textSize ("\n".intercalate (errorLines runtime text.toList))) +
        if stringHeadChars + stringTailChars < text.toList.length then
          sizes.textSize ("\n" ++ "[tail]\n") +
            sizes.charactersSize (text.toList.drop (text.toList.length - stringTailChars))
        else 0 := by
  have tailStays : stringHeadChars + stringTailChars < text.toList.length →
      String.ofList (text.toList.drop (text.toList.length - stringTailChars)) ≠ "" := by
    intro long empty
    rw [← String.toList_eq_nil_iff, String.toList_ofList, List.drop_eq_nil_iff] at empty
    simp only [stringHeadChars, stringTailChars] at long empty
    omega
  change sizes.textSize ("\n".intercalate
    ((String.ofList (text.toList.take stringHeadChars) ++ "...[truncated, original " ++
        toString text.toList.length ++ " chars; kept head+tail+error lines]") ::
      ((if errorLines runtime text.toList = [] then []
        else ["[error lines]\n" ++ "\n".intercalate (errorLines runtime text.toList)]) ++
      if (if stringHeadChars + stringTailChars < text.toList.length then
          String.ofList (text.toList.drop (text.toList.length - stringTailChars)) else "") = ""
        then []
        else ["[tail]\n" ++ (if stringHeadChars + stringTailChars < text.toList.length then
          String.ofList (text.toList.drop (text.toList.length - stringTailChars)) else "")]))) = _
  refine (textSize_intercalate _ _ _).trans ?_
  unfold stringMarker
  by_cases long : stringHeadChars + stringTailChars < text.toList.length
  · rw [if_pos long, if_pos long, if_neg (tailStays long)]
    by_cases noLines : errorLines runtime text.toList = []
    · simp only [if_pos noLines, List.nil_append, List.map_cons, List.map_nil, List.sum_cons,
        List.sum_nil, JsonSizes.textSize_append, JsonSizes.textSize_ofList,
        Nat.add_assoc, Nat.add_zero]
    · simp only [if_neg noLines, List.singleton_append, List.map_cons, List.map_nil,
        List.sum_cons, List.sum_nil, JsonSizes.textSize_append, JsonSizes.textSize_ofList,
        Nat.add_assoc, Nat.add_zero]
  · rw [if_neg long, if_neg long, if_pos (rfl : "" = "")]
    by_cases noLines : errorLines runtime text.toList = []
    · simp only [if_pos noLines, List.nil_append, List.map_nil, List.sum_nil,
        JsonSizes.textSize_append, JsonSizes.textSize_ofList,
        Nat.add_assoc, Nat.add_zero]
    · simp only [if_neg noLines, List.append_nil, List.map_cons, List.map_nil,
        List.sum_cons, List.sum_nil, JsonSizes.textSize_append, JsonSizes.textSize_ofList,
        Nat.add_assoc, Nat.add_zero]

theorem stringLedger_balances (text : String) :
    (stringLedger runtime sizes text).Balances (sizes.size (.str text))
      (sizes.size (.str (summarizeLargeString runtime text))) := by
  have pieces : sizes.textSize text =
      sizes.charactersSize (text.toList.take stringHeadChars) +
        (stringLedger runtime sizes text).dropped +
        if stringHeadChars + stringTailChars < text.toList.length then
          sizes.charactersSize (text.toList.drop (text.toList.length - stringTailChars))
        else 0 := by
    simp only [stringLedger, JsonSizes.textSize]
    split
    · rename_i long
      have ends : stringHeadChars ≤ text.toList.length - stringTailChars := by omega
      rw [← sizes.charactersSize_append, ← sizes.charactersSize_append, List.append_assoc,
        take_append_middle_append_drop _ ends]
    · rw [← sizes.charactersSize_append, List.take_append_drop, Nat.add_zero]
  rw [Ledger.Balances, JsonSizes.size, JsonSizes.size, pieces, textSize_summarizeLargeString,
    ← repeatedLines_eq]
  simp only [stringLedger]
  split <;> split <;> omega

theorem stringLedger_of_short {text : String} (short : text.toList.length ≤ stringHeadChars)
    (noLines : errorLines runtime text.toList = []) :
    stringLedger runtime sizes text = ⟨0, sizes.textSize (stringMarker text.toList.length)⟩ := by
  have noTail : ¬ stringHeadChars + stringTailChars < text.toList.length := by omega
  rw [← repeatedLines_eq] at noLines
  simp only [stringLedger]
  rw [if_neg noTail, if_pos noLines, if_neg noTail, List.drop_eq_nil_of_le short]
  simp only [JsonSizes.charactersSize, List.map_nil, List.sum_nil, Nat.add_zero]

theorem listLedger_balances :
    (listLedger sizes items).Balances (sizes.size (.list items))
      (sizes.size (.list (summarizeLargeList items))) := by
  rw [listLedger, summarizeLargeList]
  split
  · exact Ledger.untouched_balances _
  · rename_i long
    simp only [listHead, listTail] at long ⊢
    have inOrder : 8 ≤ items.length - 2 := by omega
    have notEmpty : 0 < items.length := by omega
    have pieces := congrArg sizes.itemsSize (take_append_middle_append_drop items inOrder)
    rw [sizes.itemsSize_append, sizes.itemsSize_append] at pieces
    have wholePos := sizes.itemsSize_pos (List.length_pos_iff.1 notEmpty)
    change (1 + max 1 (sizes.itemsSize (items.take 8 ++ [listNote items.length] ++
      items.drop (items.length - 2)))) + sizes.itemsSize ((items.take (items.length - 2)).drop 8) =
        (1 + max 1 (sizes.itemsSize items)) + (sizes.size (listNote items.length) + 1)
    rw [sizes.itemsSize_append, sizes.itemsSize_append, JsonSizes.itemsSize, JsonSizes.itemsSize,
      Nat.max_eq_right wholePos, Nat.max_eq_right (by omega)]
    omega

/-! ## What the serializer still takes -/

theorem fits_listNote {length : Nat} (le : length ≤ maxSize) :
    fits (levels + 1) (listNote length) = true := by
  simp only [maxSize] at le
  simp only [listNote, fits, List.all_cons, List.all_nil, Bool.and_true, Bool.true_and,
    Bool.and_eq_true, decide_eq_true_eq]
  omega

theorem fits_depthPlaceholder (levels : Nat) : fits (levels + 1) depthPlaceholder = true := by
  cases levels <;> simp [fits, depthPlaceholder]

theorem fits_summarizeLargeList {items : List Json} (fitting : fits levels (.list items))
    (le : items.length ≤ maxSize) :
    fits (levels + 1) (.list (summarizeLargeList items)) = true := by
  cases levels with
  | zero => exact absurd fitting (by simp [fits])
  | succ levels =>
      rw [fits, List.all_eq_true] at fitting
      have old : ∀ item ∈ items, fits (levels + 1) item = true := fun item member =>
        fits_succ (fitting item member)
      rw [fits, List.all_eq_true, summarizeLargeList]
      split
      · exact old
      · intro item member
        rcases List.mem_append.1 member with front | last
        · rcases List.mem_append.1 front with first | note
          · exact old item (List.mem_of_mem_take first)
          · rw [List.mem_singleton.1 note]
            exact fits_listNote le
        · exact old item (List.mem_of_mem_drop last)

/-- What serializes: its parts do too. -/
structure Serializes (sizes : JsonSizes) (value : Json) : Prop where
  fits : fits maxNesting value = true
  size_le : sizes.size value ≤ maxSize

theorem Serializes.of_mem_dict (serializes : Serializes sizes (.dict entries))
    {entry : String × Json} (member : entry ∈ entries) : Serializes sizes entry.2 where
  fits := by
    have fitting := serializes.fits
    rw [maxNesting, PayloadTruncation.fits, List.all_eq_true] at fitting
    exact fits_mono (by decide) (fitting entry member)
  size_le := by
    have whole := serializes.size_le
    have part := sizes.size_lt_entriesSize member
    rw [JsonSizes.size] at whole
    omega

theorem Serializes.length_le {items : List Json} (serializes : Serializes sizes (.list items)) :
    items.length ≤ maxSize := by
  have whole := serializes.size_le
  have counted := sizes.length_le_itemsSize items
  rw [JsonSizes.size] at whole
  omega

theorem CompactJson.dumpsSize_eq_some_iff (compact : CompactJson runtime sizes) {bytes : Nat} :
    runtime.dumpsSize value = some bytes ↔ Serializes sizes value ∧ bytes = sizes.size value := by
  rw [compact.dumpsSize_eq]
  split
  · rename_i accepted
    exact ⟨fun same => ⟨⟨accepted.1, accepted.2⟩, (Option.some.inj same).symm⟩,
      fun same => by rw [same.2]⟩
  · rename_i refused
    constructor
    · intro same
      cases same
    · intro same
      exact absurd ⟨same.1.fits, same.1.size_le⟩ refused

/-! ## The fields of one object -/

/-- A document is shortened as its ledger says, and is nested one level deeper at most. -/
structure Shortens (sizes : JsonSizes) (ledger : Ledger) (levels : Nat) (value result : Json) :
    Prop where
  balances : ledger.Balances (sizes.size value) (sizes.size result)
  stillFits : fits (levels + 1) result = true

theorem Shortens.untouched (fitting : fits levels value) :
    Shortens sizes .untouched levels value value where
  balances := Ledger.untouched_balances _
  stillFits := fits_succ fitting

theorem shortened_shortens {shortenDict : Json → Option Json} {dictLedger : Json → Ledger}
    {levels : Nat} {value : Json} (fitting : fits levels value)
    (serializes : Serializes sizes value)
    (dicts : ∀ entries, value = .dict entries →
      ∃ result, shortenDict value = some result ∧
        Shortens sizes (dictLedger value) levels value result) :
    ∃ result, shortened runtime shortenDict value = some result ∧
      Shortens sizes (fieldLedger runtime sizes dictLedger value) levels value result := by
  cases value with
  | str text =>
      simp only [shortened, fieldLedger]
      split
      · exact ⟨_, rfl, stringLedger_balances text, by simp [fits]⟩
      · exact ⟨_, rfl, Shortens.untouched fitting⟩
  | dict entries => exact dicts entries rfl
  | list items =>
      exact ⟨_, rfl, listLedger_balances items,
        fits_summarizeLargeList fitting serializes.length_le⟩
  | null | bool | int | float => exact ⟨_, rfl, Shortens.untouched fitting⟩

theorem set_of_notMem {Value : Type} {entries : PyDict Value} {key : String} {value : Value}
    (fresh : key ∉ entries.map Prod.fst) : entries.set key value = entries ++ [(key, value)] := by
  induction entries with
  | nil => rfl
  | cons entry entries ih =>
      rw [List.map_cons, List.mem_cons, not_or] at fresh
      rw [PyDict.set, if_neg (Ne.symm fresh.1), ih fresh.2, List.cons_append]

/-- The loop over the fields: what is kept grows by the fields, as their ledgers say. -/
theorem foldlM_addField {shortenDict : Json → Option Json} (ledgerOf : Json → Ledger)
    (maxBytes : Int) (fields : List ((String × Json) × Nat))
    (shortens : ∀ field ∈ fields, fits levels field.1.2 = true ∧
      ∃ result, shortened runtime shortenDict field.1.2 = some result ∧
        Shortens sizes (ledgerOf field.1.2) levels field.1.2 result) (kept : JsonObject)
    (currentSize : Int) (fresh : (kept.map Prod.fst ++ fields.map fun field => field.1.1).Nodup)
    (keptFits : ∀ entry ∈ kept, fits (levels + 1) entry.2 = true) :
    ∃ final, fields.foldlM (addField runtime shortenDict maxBytes) (kept, currentSize) =
        some final ∧
      (Ledger.total ((overBudget maxBytes fields (decide (kept ≠ [])) currentSize).map
        ledgerOf)).Balances (sizes.entriesSize kept + sizes.entriesSize (fields.map Prod.fst))
          (sizes.entriesSize final.1) ∧
      (∀ entry ∈ final.1, fits (levels + 1) entry.2 = true) ∧
      (final.1 = [] ↔ kept = [] ∧ fields = []) := by
  induction fields generalizing kept currentSize with
  | nil => exact ⟨(kept, currentSize), rfl, rfl, keptFits, by simp⟩
  | cons field fields ih =>
      obtain ⟨⟨key, value⟩, size⟩ := field
      obtain ⟨⟨fitting, result, shortenedTo, shortens⟩, others⟩ :=
        List.forall_mem_cons.1 shortens
      have keyFresh : key ∉ kept.map Prod.fst := fun old =>
        List.disjoint_of_nodup_append fresh old (by simp)
      have onward (ledger : Ledger) (newValue : Json) (newSize : Int)
          (becomes : Shortens sizes ledger levels value newValue) :
          ∃ final, fields.foldlM (addField runtime shortenDict maxBytes)
              (kept.set key newValue, newSize) = some final ∧
            sizes.entriesSize final.1 + (ledger.dropped + (Ledger.total
                ((overBudget maxBytes fields true newSize).map ledgerOf)).dropped) =
              sizes.entriesSize kept + sizes.entriesSize ((key, value) :: fields.map Prod.fst) +
                (ledger.added + (Ledger.total
                  ((overBudget maxBytes fields true newSize).map ledgerOf)).added) ∧
            (∀ entry ∈ final.1, fits (levels + 1) entry.2 = true) ∧ final.1 ≠ [] := by
        rw [set_of_notMem keyFresh]
        obtain ⟨final, runs, balances, finalFits, empty⟩ := ih others (kept ++ [(key, newValue)])
          newSize (by simpa [List.append_assoc] using fresh) fun entry member => by
            rcases List.mem_append.1 member with old | new
            · exact keptFits entry old
            · rw [List.mem_singleton.1 new]
              exact becomes.stillFits
        have notEmpty : decide (kept ++ [(key, newValue)] ≠ []) = true := by simp
        have own := becomes.balances
        rw [notEmpty] at balances
        simp only [Ledger.Balances, sizes.entriesSize_append, JsonSizes.entriesSize] at balances own
        refine ⟨final, runs, ?_, finalFits, fun none => by simpa using empty.1 none⟩
        simp only [JsonSizes.entriesSize]
        omega
      rw [List.foldlM_cons]
      simp only [addField, overBudget, decide_eq_true_eq]
      by_cases isOver : maxBytes < currentSize + ((size : Int) + key.length + 4) ∧
          (kept ≠ [] ∨ maxBytes < (size : Int) + key.length + 4)
      · obtain ⟨final, runs, balances, finalFits, notEmpty⟩ :=
          onward (ledgerOf value) result currentSize shortens
        rw [if_pos isOver, if_pos isOver, shortenedTo]
        refine ⟨final, runs, ?_, finalFits, by simp [notEmpty]⟩
        simpa only [Ledger.Balances, Ledger.total, List.map_cons, List.sum_cons] using balances
      · obtain ⟨final, runs, balances, finalFits, notEmpty⟩ :=
          onward .untouched value (currentSize + ((size : Int) + key.length + 4))
            (Shortens.untouched fitting)
        rw [if_neg isOver, if_neg isOver]
        refine ⟨final, runs, ?_, finalFits, by simp [notEmpty]⟩
        simpa only [Ledger.Balances, Ledger.untouched, List.map_cons, Nat.zero_add] using balances

/-! ## The whole payload -/

theorem mapM_dumpsSize (compact : CompactJson runtime sizes)
    (serialize : ∀ entry ∈ entries, Serializes sizes entry.2) :
    (entries.mapM fun entry => (runtime.dumpsSize entry.2).map fun size => (entry, size)) =
      some (entries.map fun entry => (entry, sizes.size entry.2)) := by
  induction entries with
  | nil => rfl
  | cons entry entries ih =>
      obtain ⟨first, rest⟩ := List.forall_mem_cons.1 serialize
      rw [List.mapM_cons, compact.dumpsSize_eq_some_iff.2 ⟨first, rfl⟩, ih rest]
      rfl

theorem sizedFields_perm (sizes : JsonSizes) (entries : List (String × Json)) :
    ((sizedFields sizes entries).map Prod.fst).Perm entries := by
  have sorted := (List.perm_insertionSort LargerField
    (entries.map fun entry => (entry, sizes.size entry.2))).map Prod.fst
  simpa [sizedFields, List.map_map, Function.comp_def] using sorted

/-- Truncation of one object, when it goes as the ledger says one level below. -/
theorem truncateLargeValues_dict (compact : CompactJson runtime sizes) {depth : Nat}
    (distinct : PyDict.Distinct entries) (serializes : Serializes sizes (.dict entries))
    (fitting : ∀ entry ∈ entries, fits depth entry.2 = true) (below : ∀ entry ∈ entries, ∃ result,
      truncateLargeValues runtime levels (max (maxBytes / 2) 256) entry.2 = some result ∧
        Shortens sizes (documentLedger runtime sizes levels (max (maxBytes / 2) 256) entry.2)
          depth entry.2 result) :
    ∃ final, truncateLargeValues runtime (levels + 1) maxBytes (.dict entries) =
        some (.dict final) ∧
      Shortens sizes (documentLedger runtime sizes (levels + 1) maxBytes (.dict entries))
        (depth + 1) (.dict entries) (.dict final) := by
  have perm := sizedFields_perm sizes entries
  have fromEntries : ∀ field ∈ sizedFields sizes entries, field.1 ∈ entries :=
    fun field member => perm.mem_iff.1 (List.mem_map_of_mem member)
  have fields : ∀ field ∈ sizedFields sizes entries, fits depth field.1.2 = true ∧
      ∃ result, shortened runtime
          (truncateLargeValues runtime levels (max (maxBytes / 2) 256)) field.1.2 = some result ∧
        Shortens sizes (fieldLedger runtime sizes
          (documentLedger runtime sizes levels (max (maxBytes / 2) 256)) field.1.2)
            depth field.1.2 result := by
    intro field member
    have entry := fromEntries field member
    exact ⟨fitting _ entry, shortened_shortens (fitting _ entry) (serializes.of_mem_dict entry)
      fun _ _ => below _ entry⟩
  have keys : (([] : JsonObject).map Prod.fst ++
      (sizedFields sizes entries).map fun field => field.1.1).Nodup := by
    have sorted := (perm.map Prod.fst).nodup_iff.2 distinct
    simpa [List.map_map, Function.comp_def] using sorted
  obtain ⟨final, runs, balances, finalFits, empty⟩ :=
    foldlM_addField _ maxBytes (sizedFields sizes entries) fields [] 2 keys (by simp)
  have noneKept : decide (([] : JsonObject) ≠ []) = false := by simp
  rw [noneKept, sizes.entriesSize_perm perm] at balances
  have sized := mapM_dumpsSize compact fun entry member => serializes.of_mem_dict member
  refine ⟨final.1, ?_, ?_, ?_⟩
  · rw [truncateLargeValues, sized]
    simp only [Option.bind_eq_bind, Option.bind_some]
    exact congrArg (fun kept => kept.bind fun kept => some (Json.dict kept.1)) runs
  · change (1 + max 1 (sizes.entriesSize final.1)) + _ = (1 + max 1 (sizes.entriesSize entries)) + _
    simp only [Ledger.Balances, JsonSizes.entriesSize, Nat.zero_add] at balances
    by_cases noEntries : entries = []
    · subst noEntries
      rw [empty.2 ⟨rfl, rfl⟩] at balances ⊢
      rw [Nat.add_left_cancel_iff]
      exact Nat.add_left_cancel balances
    · have finalEntries : final.1 ≠ [] := fun none =>
        noEntries (by simpa [(empty.1 none).2] using perm.symm)
      rw [Nat.max_eq_right (sizes.entriesSize_pos noEntries),
        Nat.max_eq_right (sizes.entriesSize_pos finalEntries), Nat.add_assoc, Nat.add_assoc]
      exact congrArg (1 + ·) balances
  · rw [fits, List.all_eq_true]
    exact finalFits

/-- Truncation shortens a document as its ledger says, and an object stays one. -/
theorem truncateLargeValues_shortens (compact : CompactJson runtime sizes) (levels : Nat) :
    ∀ (maxBytes : Int) (value : Json) (depth : Nat), Keyed value → Serializes sizes value →
      fits depth value = true → ∃ result,
        truncateLargeValues runtime levels maxBytes value = some result ∧
          Shortens sizes (documentLedger runtime sizes levels maxBytes value) depth value result ∧
          ((∃ entries, value = .dict entries) → ∃ entries, result = .dict entries) := by
  induction levels with
  | zero =>
      intro maxBytes value depth keyed serializes fitting
      refine ⟨depthPlaceholder, by cases value <;> rfl, ⟨?_, fits_depthPlaceholder depth⟩,
        fun _ => ⟨_, rfl⟩⟩
      cases value <;> exact Nat.add_comm _ _
  | succ levels ih =>
      intro maxBytes value depth keyed serializes fitting
      cases keyed with
      | @dict entries distinct keyedValues =>
          cases depth with
          | zero => exact absurd fitting (by simp [fits])
          | succ depth =>
              rw [fits, List.all_eq_true] at fitting
              obtain ⟨final, runs, shortens⟩ :=
                truncateLargeValues_dict compact distinct serializes fitting
                  fun entry member => by
                    obtain ⟨result, runs, shortens, _⟩ := ih (max (maxBytes / 2) 256) entry.2
                      depth (keyedValues entry member) (serializes.of_mem_dict member)
                      (fitting entry member)
                    exact ⟨result, runs, shortens⟩
              exact ⟨.dict final, runs, shortens, fun _ => ⟨final, rfl⟩⟩
      | @list items keyedItems =>
          have measured := compact.dumpsSize_eq_some_iff.2 ⟨serializes, rfl⟩
          rw [truncateLargeValues, measured, documentLedger]
          simp only [Option.bind_eq_bind, Option.bind_some]
          split
          · exact ⟨_, rfl, ⟨listLedger_balances items,
              fits_summarizeLargeList fitting serializes.length_le⟩, by simp⟩
          · exact ⟨_, rfl, Shortens.untouched fitting, by simp⟩
      | null | bool | int | float | str =>
          exact ⟨_, rfl, Shortens.untouched fitting, fun isDict => isDict⟩

/-! ## The cleaned payload -/

variable (stripKeys : List String)

theorem redactItems_eq_map : redactItems runtime items = items.map (redactNested runtime) := by
  induction items with
  | nil => rfl
  | cons item items ih => rw [redactItems, ih, List.map_cons]

theorem redactEntries_eq_map (entries : List (String × Json)) :
    redactEntries runtime entries = entries.map fun entry =>
      (entry.1, if isSensitiveKey runtime.toPythonRuntime entry.1 then .str redacted
        else redactNested runtime entry.2) := by
  induction entries with
  | nil => rfl
  | cons entry entries ih => rw [redactEntries, ih, List.map_cons]

theorem keyed_redactNested (keyed : Keyed value) : Keyed (redactNested runtime value) := by
  induction keyed with
  | list _ ih =>
      rw [redactNested, redactItems_eq_map]
      refine .list fun item member => ?_
      obtain ⟨before, old, rfl⟩ := List.mem_map.1 member
      exact ih before old
  | dict distinct _ ih =>
      rw [redactNested, redactEntries_eq_map]
      refine .dict ?_ fun entry member => ?_
      · simpa only [PyDict.Distinct, List.map_map, Function.comp_def] using distinct
      · obtain ⟨before, old, rfl⟩ := List.mem_map.1 member
        dsimp only
        split
        · exact .str _
        · exact ih before old
  | null => exact .null
  | bool value => exact .bool value
  | int value => exact .int value
  | float printed => exact .float printed
  | str text => exact .str text

theorem keyed_stripKeysRecursive (levels : Nat) (keyed : Keyed value) :
    Keyed (stripKeysRecursive runtime stripKeys levels value) := by
  have placeholder : Keyed (.dict [("_truncated", .bool true),
      ("_reason", .str ("max recursion depth " ++ toString maxStripDepth))]) := by
    refine .dict (by simp [PyDict.Distinct]) ?_
    simp only [List.forall_mem_cons]
    exact ⟨.bool _, .str _, by simp⟩
  induction levels generalizing value with
  | zero => cases keyed <;> first | exact placeholder | constructor
  | succ levels ih =>
      cases keyed with
      | list items =>
          rw [stripKeysRecursive]
          refine .list fun item member => ?_
          obtain ⟨before, old, rfl⟩ := List.mem_map.1 member
          exact ih (items before old)
      | dict distinct values =>
          rw [stripKeysRecursive]
          refine .dict ?_ fun entry member => ?_
          · rw [PyDict.Distinct, List.map_map]
            exact distinct.sublist (List.filter_sublist.map Prod.fst)
          · obtain ⟨before, old, rfl⟩ := List.mem_map.1 member
            exact ih (values before (List.mem_of_mem_filter old))
      | null => exact .null
      | bool value => exact .bool value
      | int value => exact .int value
      | float printed => exact .float printed
      | str text => exact .str text

theorem cleaned_spec (runtime : SanitizerRuntime) (stripKeys : List String)
    (parsedData : JsonObject) :
    .dict (cleaned runtime stripKeys parsedData) = redactNested runtime
      (stripKeysRecursive runtime stripKeys maxStripDepth (.dict parsedData)) := by
  simp only [cleaned, maxStripDepth, stripKeysRecursive, redactNested]

theorem fits_of_stripped (levels : Nat) {depth : Nat} (fitting : fits depth
      (redactNested runtime (stripKeysRecursive runtime stripKeys levels value)) = true) :
    fits (levels + 1)
      (redactNested runtime (stripKeysRecursive runtime stripKeys levels value)) = true := by
  have redactedFits (entries : List (String × Json)) {levels : Nat}
      (values : ∀ entry ∈ entries, fits levels (redactNested runtime entry.2) = true) :
      fits (levels + 1) (redactNested runtime (.dict entries)) = true := by
    rw [redactNested, redactEntries_eq_map, fits, List.all_eq_true]
    intro entry member
    obtain ⟨before, old, rfl⟩ := List.mem_map.1 member
    dsimp only
    split
    · simp [fits]
    · exact values before old
  induction levels generalizing depth value with
  | zero =>
      cases value with
      | dict | list => exact redactedFits _ (by simp [redactNested, fits])
      | int value => cases depth <;> simpa [stripKeysRecursive, redactNested, fits] using fitting
      | null | bool | float | str => rfl
  | succ levels ih =>
      cases value with
      | dict entries =>
          rw [stripKeysRecursive] at fitting ⊢
          cases depth with
          | zero => exact absurd fitting (by simp [redactNested, fits])
          | succ depth =>
              rw [redactNested, redactEntries_eq_map, fits, List.all_eq_true] at fitting ⊢
              intro entry member
              have entryFits := fitting entry member
              obtain ⟨before, inside, rfl⟩ := List.mem_map.1 member
              obtain ⟨original, _, rfl⟩ := List.mem_map.1 inside
              dsimp only at entryFits ⊢
              split
              · simp [fits]
              · rename_i shown
                rw [if_neg shown] at entryFits
                exact ih entryFits
      | list items =>
          rw [stripKeysRecursive] at fitting ⊢
          cases depth with
          | zero => exact absurd fitting (by simp [redactNested, fits])
          | succ depth =>
              rw [redactNested, redactItems_eq_map, fits, List.all_eq_true] at fitting ⊢
              intro item member
              have itemFits := fitting item member
              obtain ⟨before, inside, rfl⟩ := List.mem_map.1 member
              obtain ⟨original, _, rfl⟩ := List.mem_map.1 inside
              exact ih itemFits
      | int value => cases depth <;> simpa [stripKeysRecursive, redactNested, fits] using fitting
      | null | bool | float | str => rfl

theorem limited_balances (compact : CompactJson runtime sizes) {stripKeys : List String}
    {parsedData : JsonObject} (keyed : Keyed (.dict parsedData)) (positive : 0 < maxBytes)
    (serializes : Serializes sizes (.dict (cleaned runtime stripKeys parsedData)))
    (tooLarge : maxBytes < sizes.size (.dict (cleaned runtime stripKeys parsedData))) :
    ∃ result, limited runtime maxBytes (cleaned runtime stripKeys parsedData) = some result ∧
      fits maxNesting (.dict result) = true ∧
      (payloadLedger runtime sizes maxBytes (cleaned runtime stripKeys parsedData)).Balances
        (sizes.size (.dict (cleaned runtime stripKeys parsedData)))
        (sizes.size (.dict result)) := by
  have keyedPayload : Keyed (.dict (cleaned runtime stripKeys parsedData)) := by
    rw [cleaned_spec]
    exact keyed_redactNested (keyed_stripKeysRecursive stripKeys maxStripDepth keyed)
  have shallow :
      fits (maxStripDepth + 1) (.dict (cleaned runtime stripKeys parsedData)) = true := by
    have fitting := serializes.fits
    rw [cleaned_spec] at fitting ⊢
    exact fits_of_stripped stripKeys maxStripDepth fitting
  obtain ⟨result, runs, shortens, dictStays⟩ := truncateLargeValues_shortens compact
    (maxTruncateDepth + 1) maxBytes _ _ keyedPayload serializes shallow
  obtain ⟨final, rfl⟩ := dictStays ⟨_, rfl⟩
  refine ⟨final, ?_, fits_mono (by decide) shortens.stillFits, shortens.balances⟩
  have measured := compact.dumpsSize_eq_some_iff.2 ⟨serializes, rfl⟩
  rw [limited, measured]
  simp only [Option.bind_eq_bind, Option.bind_some]
  rw [if_pos ⟨positive, tooLarge⟩, runs]
  rfl

/-! ## Whether the payload grows -/

variable (runtime)

/-- What `sanitize_for_ai` returns takes no more bytes than the payload which it truncates. -/
def NeverEnlarges (policy : PayloadPolicy) (stripConfiguredKeys : Bool) (parsedData : JsonObject)
    (before : Nat) : Prop :=
  ∃ result after, sanitizeForAi runtime policy stripConfiguredKeys true parsedData = some result ∧
    runtime.dumpsSize (.dict result) = some after ∧ after ≤ before

theorem sanitizeForAi_truncate (policy : PayloadPolicy) (stripConfiguredKeys : Bool)
    {parsedData : JsonObject} (notEmpty : parsedData ≠ []) :
    sanitizeForAi runtime policy stripConfiguredKeys true parsedData =
      limited runtime policy.maxBytes
        (cleaned runtime (strippedKeys policy stripConfiguredKeys) parsedData) := by
  rw [sanitizeForAi, if_neg notEmpty]
  rfl

/-- The payload is shortened at this summary. -/
def Shortened (sizes : JsonSizes) (policy : PayloadPolicy) (payload : JsonObject) :
    Summary → Prop :=
  Summarizes sizes (maxTruncateDepth + 1) policy.maxBytes (.dict payload)

/-- Truncation does not enlarge a payload whose summaries are all worthwhile; and where no summary
leaves out more than it puts in, all have to be. -/
theorem never_enlarges_of_worthwhile (compact : CompactJson runtime sizes)
    {policy : PayloadPolicy} {stripConfiguredKeys : Bool} {parsedData payload : JsonObject}
    (keyed : Keyed (.dict parsedData))
    (isCleaned : cleaned runtime (strippedKeys policy stripConfiguredKeys) parsedData = payload)
    {before : Nat} (measured : runtime.dumpsSize (.dict payload) = some before)
    (tooLarge : policy.maxBytes < before) :
    ((0 < policy.maxBytes → ∀ summary, Shortened sizes policy payload summary →
        summary.Worthwhile runtime sizes) →
      NeverEnlarges runtime policy stripConfiguredKeys parsedData before) ∧
    ((∀ summary, Shortened sizes policy payload summary →
        (summary.ledger runtime sizes).dropped ≤ (summary.ledger runtime sizes).added) →
      NeverEnlarges runtime policy stripConfiguredKeys parsedData before →
        0 < policy.maxBytes → ∀ summary, Shortened sizes policy payload summary →
          summary.Worthwhile runtime sizes) := by
  subst isCleaned
  obtain ⟨serializes, rfl⟩ := compact.dumpsSize_eq_some_iff.1 measured
  by_cases isEmpty : parsedData = []
  · subst isEmpty
    have staysEmpty : cleaned runtime (strippedKeys policy stripConfiguredKeys) [] = [] := by
      simp [cleaned, maxStripDepth, stripKeysRecursive, redactNested, redactEntries]
    rw [staysEmpty] at measured ⊢
    refine ⟨fun _ => ⟨[], _, rfl, measured, le_refl _⟩, fun gains _ _ summary shortened => ?_⟩
    have surplus := surplus_le gains shortened
    rw [maxTruncateDepth, documentLedger] at surplus
    simpa [Summary.Worthwhile, sizedFields, overBudget, Ledger.total] using surplus
  rw [NeverEnlarges, sanitizeForAi_truncate runtime policy stripConfiguredKeys isEmpty]
  by_cases positive : 0 < policy.maxBytes
  · obtain ⟨result, runs, fitting, balances⟩ :=
      limited_balances compact keyed positive serializes tooLarge
    rw [Ledger.Balances] at balances
    constructor
    · intro worthwhile
      have covers : (payloadLedger runtime sizes policy.maxBytes
          (cleaned runtime (strippedKeys policy stripConfiguredKeys) parsedData)).added ≤
          (payloadLedger runtime sizes policy.maxBytes
            (cleaned runtime (strippedKeys policy stripConfiguredKeys) parsedData)).dropped :=
        good_documentLedger additive_covered (worthwhile positive)
      have within := serializes.size_le
      have le : sizes.size (.dict result) ≤
          sizes.size (.dict (cleaned runtime (strippedKeys policy stripConfiguredKeys)
            parsedData)) := by omega
      exact ⟨result, _, runs,
        compact.dumpsSize_eq_some_iff.2 ⟨⟨fitting, le.trans within⟩, rfl⟩, le⟩
    · rintro gains ⟨shown, after, shows, measuredAfter, le⟩ _ summary shortened
      obtain rfl := Option.some.inj (shows.symm.trans runs)
      obtain ⟨_, rfl⟩ := compact.dumpsSize_eq_some_iff.1 measuredAfter
      have surplus := surplus_le gains shortened
      rw [payloadLedger] at balances
      rw [Summary.Worthwhile]
      omega
  · refine ⟨fun _ => ⟨_, _, ?_, measured, le_refl _⟩, fun _ _ above => absurd above positive⟩
    rw [limited, measured]
    exact if_neg fun both => positive both.1

/-! ## Two payloads -/

def utf8Sizes : JsonSizes where
  characterSize character :=
    if character.toNat ∈ [0x08, 0x09, 0x0a, 0x0c, 0x0d, 0x22, 0x5c] then 2
    else if character.toNat < 0x20 then 6
    else character.utf8Size
  floatSize := String.length

def compactRuntime : SanitizerRuntime :=
  { PythonRuntime.plain with
    dumpsSize := fun value =>
      if fits maxNesting value ∧ utf8Sizes.size value ≤ maxSize then some (utf8Sizes.size value)
      else none }

theorem compactRuntime_compact : CompactJson compactRuntime utf8Sizes where
  dumpsSize_eq _ := rfl

def samplesPayload : JsonObject :=
  [("samples", .list (List.replicate 30 (.int 1000)))]

theorem keyed_samplesPayload : Keyed (.dict samplesPayload) := by
  refine .dict (by simp [PyDict.Distinct, samplesPayload]) ?_
  simp only [samplesPayload, List.forall_mem_cons]
  refine ⟨.list fun item member => ?_, by simp⟩
  rw [List.eq_of_mem_replicate member]
  exact .int 1000

theorem parts_samplesPayload {larger smaller : List ((String × Json) × Nat)}
    {field : (String × Json) × Nat}
    (parts : sizedFields utf8Sizes samplesPayload = larger.reverse ++ field :: smaller) :
    larger = [] ∧ field = (("samples", .list (List.replicate 30 (.int 1000))), 151) := by
  have size : utf8Sizes.size (.list (List.replicate 30 (.int 1000))) = 151 := by decide +kernel
  have one : sizedFields utf8Sizes samplesPayload =
      [(("samples", .list (List.replicate 30 (.int 1000))), 151)] := by
    rw [sizedFields, samplesPayload, List.map_singleton, size]
    rfl
  rw [one, List.singleton_eq_append_iff] at parts
  rcases parts with ⟨noLarger, isField⟩ | ⟨_, isNil⟩
  · exact ⟨List.reverse_eq_nil_iff.1 noLarger, (List.cons.inj isField).1⟩
  · cases isNil

/-- The numbers left out take more bytes than the note for them. -/
theorem samples_not_enlarged : NeverEnlarges compactRuntime ⟨[], 60⟩ true samplesPayload 163 := by
  refine (never_enlarges_of_worthwhile compactRuntime compactRuntime_compact keyed_samplesPayload
    rfl (by decide +kernel) (by decide +kernel)).1 fun _ summary shortened => ?_
  cases shortened with
  | field parts isOver own =>
      obtain ⟨rfl, rfl⟩ := parts_samplesPayload parts
      obtain rfl := Option.some.inj own
      rw [Summary.Worthwhile]
      decide +kernel
  | nested parts isOver isDict =>
      obtain ⟨rfl, rfl⟩ := parts_samplesPayload parts
      cases isDict

def shortText : String :=
  String.ofList (List.replicate 300 'a')

def shortMessage : JsonObject :=
  [("message", .str shortText)]

theorem toList_shortText : shortText.toList = List.replicate 300 'a' :=
  String.toList_ofList

theorem textSize_shortText : utf8Sizes.textSize shortText = 300 := by
  have letter : utf8Sizes.characterSize 'a' = 1 := by decide
  rw [JsonSizes.textSize, toList_shortText, JsonSizes.charactersSize, List.map_replicate,
    List.sum_replicate_nat, letter]

theorem size_shortMessage : utf8Sizes.size (.dict shortMessage) = 314 := by
  have key : utf8Sizes.textSize "message" = 7 := by decide
  rw [shortMessage, JsonSizes.size, JsonSizes.entriesSize, JsonSizes.entriesSize, JsonSizes.size,
    textSize_shortText, key]
  rfl

theorem cleaned_shortMessage : cleaned compactRuntime [] shortMessage = shortMessage := by
  have shown : isSensitiveKey compactRuntime.toPythonRuntime "message" = false := by decide
  simp [cleaned, shortMessage, maxStripDepth, stripKeysRecursive, redactNested, redactEntries,
    shown]

theorem stringLedger_shortText : stringLedger compactRuntime utf8Sizes shortText = ⟨0, 62⟩ := by
  have noLines : errorLines compactRuntime (List.replicate 300 'a') = [] := by decide +kernel
  have marker : utf8Sizes.textSize (stringMarker 300) = 62 := by decide +kernel
  rw [stringLedger_of_short, toList_shortText, List.length_replicate, marker]
  · rw [toList_shortText, List.length_replicate]
    decide
  · rw [toList_shortText, noLines]

theorem payloadLedger_shortMessage :
    payloadLedger compactRuntime utf8Sizes 60 shortMessage = ⟨0, 62⟩ := by
  have size : utf8Sizes.size (.str shortText) = 302 := by
    rw [JsonSizes.size, textSize_shortText]
  have sized : sizedFields utf8Sizes shortMessage = [(("message", .str shortText), 302)] := by
    rw [sizedFields, shortMessage, List.map_singleton, size]
    rfl
  have long : stringTruncateThreshold < shortText.length := by
    rw [← String.length_toList, toList_shortText, List.length_replicate]
    decide
  have isOver : overBudget 60 [(("message", .str shortText), 302)] false 2 =
      [.str shortText] := by
    rw [overBudget]
    exact if_pos (by decide)
  rw [payloadLedger, documentLedger, sized, isOver, List.map_singleton, fieldLedger,
    if_pos long, stringLedger_shortText]
  rfl

/-- A string shorter than its head is kept whole and gets the marker as well. -/
theorem short_message_enlarged :
    ∃ result after, compactRuntime.dumpsSize (.dict (cleaned compactRuntime [] shortMessage)) =
        some 314 ∧
      sanitizeForAi compactRuntime ⟨[], 60⟩ true true shortMessage = some result ∧
      compactRuntime.dumpsSize (.dict result) = some after ∧ 314 < after := by
  have keyed : Keyed (.dict shortMessage) := by
    refine .dict (by simp [PyDict.Distinct, shortMessage]) ?_
    simp only [shortMessage, List.forall_mem_cons]
    exact ⟨.str _, by simp⟩
  have serializes : Serializes utf8Sizes (.dict (cleaned compactRuntime [] shortMessage)) := by
    rw [cleaned_shortMessage]
    exact ⟨by simp [shortMessage, maxNesting, fits], by rw [size_shortMessage]; decide⟩
  have tooLarge : (60 : Int) <
      utf8Sizes.size (.dict (cleaned compactRuntime [] shortMessage)) := by
    rw [cleaned_shortMessage, size_shortMessage]
    decide
  obtain ⟨result, runs, fitting, balances⟩ := limited_balances compactRuntime_compact keyed
    (by decide) serializes tooLarge
  rw [cleaned_shortMessage, payloadLedger_shortMessage, Ledger.Balances,
    size_shortMessage] at balances
  have after : utf8Sizes.size (.dict result) = 376 := balances
  have measured := compactRuntime_compact.dumpsSize_eq_some_iff.2 ⟨serializes, rfl⟩
  rw [cleaned_shortMessage, size_shortMessage] at measured
  have returned := (sanitizeForAi_truncate compactRuntime ⟨[], 60⟩ true
    (by simp [shortMessage] : shortMessage ≠ [])).trans runs
  refine ⟨result, 376, by rw [cleaned_shortMessage, measured], returned,
    compactRuntime_compact.dumpsSize_eq_some_iff.2 ⟨⟨fitting, ?_⟩, after.symm⟩, by decide⟩
  rw [after]
  decide

end PayloadTruncation

end WebhookWise
