import WebhookWise.InformationFlow
import WebhookWise.SensitiveKeys
import Mathlib.Data.List.Sort

/-!
# Sanitizing payloads before AI analysis

Keys that the policy strips are removed and values under sensitive keys are redacted before the
payload is measured and shortened.  So what the service hands to the model says nothing of the
values that were stripped or redacted.
-/

namespace WebhookWise

open InformationFlow SensitiveKeys

namespace PayloadSanitizer

/-- The length of `json.dumps_bytes(value)`, and `none` where it raises. -/
structure SanitizerRuntime extends PythonRuntime where
  dumpsSize : Json → Option Nat

structure PayloadPolicy where
  stripKeys : List String
  maxBytes : Int

variable (runtime : SanitizerRuntime)

/-! ## Sensitive keys -/

def redacted : String := "[REDACTED]"

mutual

def redactNested : Json → Json
  | .dict entries => .dict (redactEntries entries)
  | .list items => .list (redactItems items)
  | value => value

def redactEntries : List (String × Json) → List (String × Json)
  | [] => []
  | (key, value) :: entries =>
      (key, if isSensitiveKey runtime.toPythonRuntime key then .str redacted else redactNested value) ::
        redactEntries entries

def redactItems : List Json → List Json
  | [] => []
  | item :: items => redactNested item :: redactItems items

end

/-! ## Stripped keys -/

def maxStripDepth : Nat := 20

/-- `_strip_keys_recursive`, with the levels that are left below the current one. -/
def stripKeysRecursive (stripKeys : List String) : Nat → Json → Json
  | 0, .dict _ | 0, .list _ =>
      .dict [("_truncated", .bool true),
        ("_reason", .str ("max recursion depth " ++ toString maxStripDepth))]
  | levels + 1, .dict entries =>
      .dict ((entries.filter fun entry => runtime.lower entry.1 ∉ stripKeys).map fun entry =>
        (entry.1, stripKeysRecursive stripKeys levels entry.2))
  | levels + 1, .list items => .list (items.map (stripKeysRecursive stripKeys levels))
  | _, value => value

/-! ## Large values -/

def errorKeywords : List String :=
  ["error", "panic", "fatal", "exception", "traceback", "failed", "failure", "timeout",
    "timed out", "refused", "denied", "oom", "killed", "crash", "unhealthy", "5xx", "critical",
    "abort", "deadlock", "evicted", "unavailable", "out of memory", "错误", "失败", "异常", "超时"]

def stringTruncateThreshold : Nat := 200
def stringHeadChars : Nat := 600
def stringTailChars : Nat := 400
def maxErrorLines : Nat := 20
def listHead : Nat := 8
def listTail : Nat := 2

/-- `text.splitlines(keepends=True)`. -/
def splitLinesKeepEnds : List Char → List (List Char)
  | [] => []
  | '\r' :: '\n' :: rest => ['\r', '\n'] :: splitLinesKeepEnds rest
  | character :: rest =>
      if isLineBreak character then [character] :: splitLinesKeepEnds rest
      else
        match splitLinesKeepEnds rest with
        | [] => [[character]]
        | line :: lines => (character :: line) :: lines

/-- The loop over the lines of a string of a given length: the lines which look like errors
and stand neither in the head nor in the tail, at most twenty. -/
def collectErrorLines (length : Nat) : List (List Char) → Nat → List String → List String
  | [], _, found => found
  | line :: lines, position, found =>
      let isShown := position < stringHeadChars ∨
        stringHeadChars + stringTailChars < length ∧ length - stringTailChars ≤ position
      let lowered := (runtime.lower (String.ofList line)).toList
      if isShown then collectErrorLines length lines (position + line.length) found
      else if errorKeywords.any fun keyword => occursIn keyword.toList lowered then
        let found := found ++ [strip (String.ofList line)]
        if maxErrorLines ≤ found.length then found
        else collectErrorLines length lines (position + line.length) found
      else collectErrorLines length lines (position + line.length) found

def summarizeLargeString (value : String) : String :=
  let characters := value.toList
  let head := String.ofList (characters.take stringHeadChars)
  let tail :=
    if stringHeadChars + stringTailChars < characters.length then
      String.ofList (characters.drop (characters.length - stringTailChars))
    else ""
  let errorLines :=
    collectErrorLines runtime characters.length (splitLinesKeepEnds characters) 0 []
  "\n".intercalate
    ([head ++ "...[truncated, original " ++ toString characters.length ++
        " chars; kept head+tail+error lines]"] ++
      (if errorLines = [] then [] else ["[error lines]\n" ++ "\n".intercalate errorLines]) ++
      if tail = "" then [] else ["[tail]\n" ++ tail])

def summarizeLargeList (items : List Json) : List Json :=
  if items.length ≤ listHead + listTail + 1 then items
  else
    items.take listHead ++
      [.dict [("_truncated", .bool true),
        ("_omitted_items", .int ↑(items.length - listHead - listTail)),
        ("_original_length", .int ↑items.length)]] ++
      items.drop (items.length - listTail)

def shortened (shortenDict : Json → Option Json) (value : Json) : Option Json :=
  match value with
  | .str text =>
      if stringTruncateThreshold < text.length then some (.str (summarizeLargeString runtime text))
      else some value
  | .dict _ => shortenDict value
  | .list items => some (.list (summarizeLargeList items))
  | value => some value

def addField (shortenDict : Json → Option Json) (maxBytes : Int) (kept : JsonObject × Int)
    (field : (String × Json) × Nat) : Option (JsonObject × Int) :=
  let ((key, value), size) := field
  let cost : Int := size + key.length + 4
  if maxBytes < kept.2 + cost ∧ (kept.1 ≠ [] ∨ maxBytes < cost) then
    (shortened runtime shortenDict value).map fun value => (kept.1.set key value, kept.2)
  else some (kept.1.set key value, kept.2 + cost)

/-- `items_with_size.sort(key=lambda x: x[2], reverse=True)`, which is stable. -/
def LargerField (first second : (String × Json) × Nat) : Prop :=
  second.2 ≤ first.2

instance : DecidableRel LargerField :=
  fun first second => inferInstanceAs (Decidable (second.2 ≤ first.2))

/-- `_truncate_large_values`, with the levels that are left: at depth 0 six. -/
def truncateLargeValues : Nat → Int → Json → Option Json
  | 0, _, _ => some (.dict [("_truncated", .bool true), ("_reason", .str "max depth exceeded")])
  | levels + 1, maxBytes, .dict entries => do
      let sized ← entries.mapM fun entry => (runtime.dumpsSize entry.2).map fun size => (entry, size)
      let kept ← (sized.insertionSort LargerField).foldlM
        (addField runtime (truncateLargeValues levels (max (maxBytes / 2) 256)) maxBytes) ([], 2)
      return .dict kept.1
  | _ + 1, maxBytes, .list items => do
      let size ← runtime.dumpsSize (.list items)
      if maxBytes < size then return .list (summarizeLargeList items) else return .list items
  | _ + 1, _, value => some value

def maxTruncateDepth : Nat := 5

/-! ## The pipeline -/

def strippedKeys (policy : PayloadPolicy) (stripConfiguredKeys : Bool) : List String :=
  if stripConfiguredKeys then policy.stripKeys else []

def cleaned (stripKeys : List String) (parsedData : JsonObject) : JsonObject :=
  match redactNested runtime (stripKeysRecursive runtime stripKeys maxStripDepth
    (.dict parsedData)) with
  | .dict entries => entries
  | _ => parsedData

def limited (maxBytes : Int) (payload : JsonObject) : Option JsonObject := do
  let size ← runtime.dumpsSize (.dict payload)
  if 0 < maxBytes ∧ maxBytes < size then
    match ← truncateLargeValues runtime (maxTruncateDepth + 1) maxBytes (.dict payload) with
    | .dict entries => return entries
    | _ => return payload
  else return payload

/-- `sanitize_for_ai`; `none` where the serializer raises. -/
def sanitizeForAi (policy : PayloadPolicy) (stripConfiguredKeys truncate : Bool)
    (parsedData : JsonObject) : Option JsonObject :=
  if parsedData = [] then some parsedData
  else
    let payload := cleaned runtime (strippedKeys policy stripConfiguredKeys) parsedData
    if truncate then limited runtime policy.maxBytes payload else some payload

/-! ## Replacing hidden values -/

section Replacements

variable {Hidden : String → Prop}

mutual

/-- The second document is the first with some values replaced, all under hidden keys. -/
inductive Replaces (Hidden : String → Prop) : Json → Json → Prop
  | same (value : Json) : Replaces Hidden value value
  | list {items others : List Json} : ReplacesItems Hidden items others →
      Replaces Hidden (.list items) (.list others)
  | dict {entries others : List (String × Json)} : ReplacesEntries Hidden entries others →
      Replaces Hidden (.dict entries) (.dict others)

inductive ReplacesItems (Hidden : String → Prop) : List Json → List Json → Prop
  | nil : ReplacesItems Hidden [] []
  | cons {item other : Json} {items others : List Json} : Replaces Hidden item other →
      ReplacesItems Hidden items others → ReplacesItems Hidden (item :: items) (other :: others)

inductive ReplacesEntries (Hidden : String → Prop) :
    List (String × Json) → List (String × Json) → Prop
  | nil : ReplacesEntries Hidden [] []
  | kept {key : String} {value other : Json} {entries others : List (String × Json)} :
      Replaces Hidden value other → ReplacesEntries Hidden entries others →
        ReplacesEntries Hidden ((key, value) :: entries) ((key, other) :: others)
  | hidden {key : String} {value other : Json} {entries others : List (String × Json)} :
      Hidden key → ReplacesEntries Hidden entries others →
        ReplacesEntries Hidden ((key, value) :: entries) ((key, other) :: others)

end

theorem ReplacesItems.same (items : List Json) : ReplacesItems Hidden items items := by
  induction items with
  | nil => exact .nil
  | cons item items ih => exact .cons (.same item) ih

theorem ReplacesEntries.same (entries : List (String × Json)) :
    ReplacesEntries Hidden entries entries := by
  induction entries with
  | nil => exact .nil
  | cons entry entries ih => exact .kept (.same entry.2) ih

theorem ReplacesItems.map {Later : String → Prop} {change : Json → Json}
    (changes : Keeps (Replaces Hidden) (Replaces Later) change) {items others : List Json}
    (replaces : ReplacesItems Hidden items others) :
    ReplacesItems Later (items.map change) (others.map change) := by
  induction items generalizing others with
  | nil =>
      cases replaces
      exact .nil
  | cons item items ih =>
      cases replaces with
      | cons first rest => exact .cons (changes _ _ first) (ih rest)

theorem stripKeysRecursive_keeps {Sensitive : String → Prop} (stripKeys : List String)
    (levels : Nat) :
    Keeps (Replaces fun key => Sensitive key ∨ runtime.lower key ∈ stripKeys)
      (Replaces Sensitive) (stripKeysRecursive runtime stripKeys levels) := by
  induction levels with
  | zero =>
      intro first second replaces
      cases replaces with
      | same | list | dict => exact .same _
  | succ levels ih =>
      have entriesKept {entries others : List (String × Json)}
          (replaces : ReplacesEntries (fun key => Sensitive key ∨ runtime.lower key ∈ stripKeys)
            entries others) :
          ReplacesEntries Sensitive
            ((entries.filter fun entry => runtime.lower entry.1 ∉ stripKeys).map fun entry =>
              (entry.1, stripKeysRecursive runtime stripKeys levels entry.2))
            ((others.filter fun entry => runtime.lower entry.1 ∉ stripKeys).map fun entry =>
              (entry.1, stripKeysRecursive runtime stripKeys levels entry.2)) := by
        induction entries generalizing others with
        | nil =>
            cases replaces
            exact .nil
        | cons entry entries induction =>
            cases replaces with
            | @kept key _ other _ others first rest =>
                by_cases isStripped : runtime.lower key ∈ stripKeys
                · rw [List.filter_cons_of_neg (by simpa using isStripped),
                    List.filter_cons_of_neg (by simpa using isStripped)]
                  exact induction rest
                · rw [List.filter_cons_of_pos (by simpa using isStripped),
                    List.filter_cons_of_pos (by simpa using isStripped)]
                  exact .kept (ih _ _ first) (induction rest)
            | @hidden key _ other _ others hidden rest =>
                by_cases isStripped : runtime.lower key ∈ stripKeys
                · rw [List.filter_cons_of_neg (by simpa using isStripped),
                    List.filter_cons_of_neg (by simpa using isStripped)]
                  exact induction rest
                · rw [List.filter_cons_of_pos (by simpa using isStripped),
                    List.filter_cons_of_pos (by simpa using isStripped)]
                  exact .hidden (hidden.resolve_right isStripped) (induction rest)
      intro first second replaces
      cases replaces with
      | same value => exact .same _
      | list items =>
          simp only [stripKeysRecursive]
          exact .list (items.map ih)
      | dict entries =>
          simp only [stripKeysRecursive]
          exact .dict (entriesKept entries)

mutual

theorem redactNested_eq {value other : Json} :
    Replaces (fun key => isSensitiveKey runtime.toPythonRuntime key = true) value other →
      redactNested runtime value = redactNested runtime other
  | .same _ => rfl
  | .list items => by rw [redactNested, redactNested, redactItems_eq items]
  | .dict entries => by rw [redactNested, redactNested, redactEntries_eq entries]

theorem redactItems_eq {items others : List Json} :
    ReplacesItems (fun key => isSensitiveKey runtime.toPythonRuntime key = true) items others →
      redactItems runtime items = redactItems runtime others
  | .nil => rfl
  | .cons first rest => by
      rw [redactItems, redactItems, redactNested_eq first, redactItems_eq rest]

theorem redactEntries_eq {entries others : List (String × Json)} :
    ReplacesEntries (fun key => isSensitiveKey runtime.toPythonRuntime key = true) entries others →
      redactEntries runtime entries = redactEntries runtime others
  | .nil => rfl
  | .kept first rest => by
      rw [redactEntries, redactEntries, redactNested_eq first, redactEntries_eq rest]
  | .hidden sensitive rest => by
      rw [redactEntries, redactEntries, redactEntries_eq rest, if_pos sensitive, if_pos sensitive]

end

theorem cleaned_hides (stripKeys : List String) :
    Hides (ReplacesEntries fun key =>
        isSensitiveKey runtime.toPythonRuntime key = true ∨ runtime.lower key ∈ stripKeys)
      (cleaned runtime stripKeys) := by
  have documents : Hides (Replaces fun key =>
      isSensitiveKey runtime.toPythonRuntime key = true ∨ runtime.lower key ∈ stripKeys) fun value =>
        redactNested runtime (stripKeysRecursive runtime stripKeys maxStripDepth value) := by
    have redacts : Hides (Replaces fun key => isSensitiveKey runtime.toPythonRuntime key = true)
        (redactNested runtime) :=
      fun _ _ replaces => redactNested_eq runtime replaces
    exact redacts.after (stripKeysRecursive_keeps runtime stripKeys maxStripDepth)
  have dictStays (parsedData : JsonObject) : ∃ entries, redactNested runtime
      (stripKeysRecursive runtime stripKeys maxStripDepth (.dict parsedData)) = .dict entries := by
    simp only [maxStripDepth, stripKeysRecursive, redactNested, Json.dict.injEq, exists_eq']
  intro first second replaces
  obtain ⟨entries, firstEq⟩ := dictStays first
  obtain ⟨others, secondEq⟩ := dictStays second
  have same := documents _ _ (.dict replaces)
  simp only [firstEq, secondEq, Json.dict.injEq] at same
  rw [cleaned, cleaned, firstEq, secondEq, same]

theorem ReplacesEntries.eq_nil_iff {entries others : List (String × Json)}
    (replaces : ReplacesEntries Hidden entries others) : entries = [] ↔ others = [] := by
  cases replaces <;> simp

/-- The payload for the model is the same for payloads that differ under sensitive keys and
under keys that are stripped. -/
theorem sanitizeForAi_hides (policy : PayloadPolicy) (stripConfiguredKeys truncate : Bool)
    {parsedData other : JsonObject}
    (replaces : ReplacesEntries (fun key => isSensitiveKey runtime.toPythonRuntime key = true ∨
      runtime.lower key ∈ strippedKeys policy stripConfiguredKeys) parsedData other) :
    sanitizeForAi runtime policy stripConfiguredKeys truncate parsedData =
      sanitizeForAi runtime policy stripConfiguredKeys truncate other := by
  by_cases isEmpty : parsedData = []
  · obtain rfl := replaces.eq_nil_iff.1 isEmpty
    rw [isEmpty]
  · have otherNotEmpty : other ≠ [] := fun none => isEmpty (replaces.eq_nil_iff.2 none)
    have limits := (cleaned_hides runtime (strippedKeys policy stripConfiguredKeys)).followedBy
      fun payload => if truncate then limited runtime policy.maxBytes payload else some payload
    rw [sanitizeForAi, sanitizeForAi, if_neg isEmpty, if_neg otherNotEmpty]
    exact limits parsedData other replaces

end Replacements

/-! ## A sample payload -/

mutual

def compactSize : Json → Nat
  | .null => 4
  | .bool value => if value then 4 else 5
  | .int value => (toString value).length
  | .float printed => printed.length
  | .str text => text.length + 2
  | .list items => 1 + max 1 (compactItems items)
  | .dict entries => 1 + max 1 (compactEntries entries)

def compactItems : List Json → Nat
  | [] => 0
  | item :: items => compactSize item + 1 + compactItems items

def compactEntries : List (String × Json) → Nat
  | [] => 0
  | (key, value) :: entries => key.length + 3 + compactSize value + 1 + compactEntries entries

end

def SanitizerRuntime.plain : SanitizerRuntime :=
  { PythonRuntime.plain with dumpsSize := fun value => some (compactSize value) }

def samplePayload (password trace : Json) : JsonObject :=
  [("service", .str "checkout"), ("Raw_Trace", trace),
    ("hosts", .list [.dict [("name", .str "a"), ("db-Password", password)]]),
    ("message", .str "connection refused by the database")]

theorem samplePayload_hides_secrets :
    sanitizeForAi .plain ⟨["raw_trace"], 60⟩ true true
        (samplePayload (.str "hunter2") (.str "main.py:1")) =
      sanitizeForAi .plain ⟨["raw_trace"], 60⟩ true true (samplePayload .null (.list [])) := by
  apply sanitizeForAi_hides
  apply ReplacesEntries.kept (.same _)
  apply ReplacesEntries.hidden (Or.inr (by decide))
  apply ReplacesEntries.kept _ (.kept (.same _) .nil)
  apply Replaces.list
  apply ReplacesItems.cons _ .nil
  apply Replaces.dict
  apply ReplacesEntries.kept (.same _)
  exact .hidden (Or.inl (by decide)) .nil

end PayloadSanitizer

end WebhookWise
