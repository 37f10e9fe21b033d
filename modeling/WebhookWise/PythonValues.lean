import Mathlib.Data.List.DropRight
import Mathlib.Data.String.Basic
import Std.Data.String.ToNat

/-!
# Python values the service computes with

JSON documents as `json.loads` returns them, naive UTC instants, and the string operations of the
services.  What rests on Unicode tables, on a hash function or on the grammar of a date is gathered
in `PythonRuntime`, the first argument of what needs it.
-/

namespace WebhookWise

/-- A naive UTC `datetime`, in microseconds since 1970. -/
abbrev DateTime := Int

namespace DateTime

def microsecondsPerSecond : Int := 1000000

/-- `instant + timedelta(seconds=…)`. -/
def addSeconds (instant : DateTime) (seconds : Int) : DateTime :=
  instant + seconds * microsecondsPerSecond

theorem addSeconds_le_addSeconds {first second : DateTime} (le : first ≤ second) (seconds : Int) :
    first.addSeconds seconds ≤ second.addSeconds seconds :=
  Int.add_le_add_right le _

theorem addSeconds_neg_le_iff {first second : DateTime} {seconds : Int} :
    first.addSeconds (-seconds) ≤ second ↔ first ≤ second.addSeconds seconds := by
  unfold addSeconds
  rw [Int.neg_mul]
  exact ⟨Int.le_add_of_sub_right_le, Int.sub_right_le_of_le_add⟩

/-- `instant + timedelta(minutes=…)`. -/
def addMinutes (instant : DateTime) (minutes : Int) : DateTime :=
  instant.addSeconds (minutes * 60)

def padded (width number : Nat) : String :=
  let digits := toString number
  String.ofList (List.replicate (width - digits.length) '0') ++ digits

/-- The proleptic Gregorian year, month and day of a day counted from 1970. -/
def civilFromDays (days : Int) : Int × Int × Int :=
  -- The year starts in March here, so that the leap day is its last day.
  let shifted := days + 719468
  let era := shifted / 146097
  let dayOfEra := shifted % 146097
  let yearOfEra := (dayOfEra - dayOfEra / 1460 + dayOfEra / 36524 - dayOfEra / 146096) / 365
  let dayOfYear := dayOfEra - (365 * yearOfEra + yearOfEra / 4 - yearOfEra / 100)
  let marchMonth := (5 * dayOfYear + 2) / 153
  let day := dayOfYear - (153 * marchMonth + 2) / 5 + 1
  let month := if marchMonth < 10 then marchMonth + 3 else marchMonth - 9
  let year := yearOfEra + era * 400 + (if month ≤ 2 then 1 else 0)
  (year, month, day)

/-- `date.isoformat()` of a day counted from 1970. -/
def dateIsoformat (days : Int) : String :=
  let (year, month, day) := civilFromDays days
  padded 4 year.toNat ++ "-" ++ padded 2 month.toNat ++ "-" ++ padded 2 day.toNat

/-- `date.isoweekday()`: 1970 began on a Thursday. -/
def isoweekday (days : Int) : Int :=
  (days + 3) % 7 + 1

/-- `instant.isoformat(timespec='minutes')`. -/
def isoformatMinutes (instant : DateTime) : String :=
  let minutes := instant / (60 * microsecondsPerSecond)
  let (year, month, day) := civilFromDays (minutes / 1440)
  let minuteOfDay := minutes % 1440
  padded 4 year.toNat ++ "-" ++ padded 2 month.toNat ++ "-" ++ padded 2 day.toNat ++ "T" ++
    padded 2 (minuteOfDay / 60).toNat ++ ":" ++ padded 2 (minuteOfDay % 60).toNat

example : isoformatMinutes 1709210096789000 = "2024-02-29T12:34" := by decide

/-- `instant.isoformat()`. -/
def isoformat (instant : DateTime) : String :=
  let second := instant / microsecondsPerSecond % 60
  let microsecond := instant % microsecondsPerSecond
  isoformatMinutes instant ++ ":" ++ padded 2 second.toNat ++
    (if microsecond = 0 then "" else "." ++ padded 6 microsecond.toNat)

def utcIsoformat (instant : DateTime) : String :=
  let second := instant / microsecondsPerSecond % 60
  let microsecond := instant % microsecondsPerSecond
  isoformatMinutes instant ++ ":" ++ padded 2 second.toNat ++
    (if microsecond = 0 then "" else "." ++ padded 6 microsecond.toNat) ++ "Z"

example : utcIsoformat 1709210096789000 = "2024-02-29T12:34:56.789000Z" := by decide

end DateTime

/-- What `datetime.fromisoformat` reads: the wall clock, and the UTC offset in
microseconds when the text carries one. -/
structure IsoDateTime where
  wallClock : DateTime
  utcOffset : Option Int
deriving DecidableEq

/-- `naive_utc`: aware values are shifted to UTC, naive ones are taken as UTC. -/
def naiveUtc (value : IsoDateTime) : DateTime :=
  match value.utcOffset with
  | none => value.wallClock
  | some offset => value.wallClock - offset

/-- A JSON document.  A float is kept as the text Python prints for it. -/
inductive Json where
  | null
  | bool (value : Bool)
  | int (value : Int)
  | float (printed : String)
  | str (text : String)
  | list (items : List Json)
  | dict (entries : List (String × Json))

/-- A Python `dict` with string keys, in insertion order. -/
abbrev PyDict (Value : Type) := List (String × Value)

namespace PyDict

variable {Value : Type}

/-- `entries.get(key)`. -/
def get? (entries : PyDict Value) (key : String) : Option Value :=
  (entries.find? fun entry => entry.1 = key).map Prod.snd

/-- `entries[key] = value`: a key that is present keeps its place. -/
def set : PyDict Value → String → Value → PyDict Value
  | [], key, value => [(key, value)]
  | entry :: entries, key, value =>
      if entry.1 = key then (key, value) :: entries else entry :: set entries key value

/-- What `entries.pop(key, None)` leaves. -/
def without (entries : PyDict Value) (key : String) : PyDict Value :=
  entries.filter fun entry => entry.1 ≠ key

/-- `entries.update(others)`. -/
def updated (entries others : PyDict Value) : PyDict Value :=
  others.foldl (fun current entry => current.set entry.1 entry.2) entries

theorem get?_set (entries : PyDict Value) (key wanted : String) (value : Value) :
    (entries.set key value).get? wanted =
      if wanted = key then some value else entries.get? wanted := by
  induction entries with
  | nil =>
      simp only [set, get?, List.find?_cons, List.find?_nil]
      by_cases same : key = wanted
      · simp [same]
      · simp [same, Ne.symm same]
  | cons entry entries ih =>
      simp only [set]
      split
      · rename_i present
        simp only [get?, List.find?_cons]
        by_cases same : key = wanted
        · simp [same]
        · simp [present, same, Ne.symm same]
      · rename_i absent
        simp only [get?, List.find?_cons] at ih ⊢
        by_cases first : entry.1 = wanted
        · have other : wanted ≠ key := by
            intro same
            exact absent (first.trans same)
          simp [first, other]
        · simpa [first] using ih

variable {entries : PyDict Value}

theorem forall_mem_foldl_set {Item : Type} (keyOf : Item → String) (valueOf : Item → Value)
    (Property : String → Prop) {items : List Item} (named : ∀ item ∈ items, Property (keyOf item))
    (initially : ∀ entry ∈ entries, Property entry.1) :
    ∀ entry ∈ items.foldl (fun current item => current.set (keyOf item) (valueOf item)) entries,
      Property entry.1 := by
  induction items generalizing entries with
  | nil => exact initially
  | cons item items ih =>
      apply ih fun other member => named other (List.mem_cons_of_mem _ member)
      intro entry member
      have fromSet : ∀ entries : PyDict Value, entry ∈ entries.set (keyOf item) (valueOf item) →
          entry.1 = keyOf item ∨ entry ∈ entries := by
        intro entries member
        induction entries with
        | nil => exact Or.inl (by simpa [set] using congrArg Prod.fst (List.mem_singleton.1 member))
        | cons first entries induction =>
            simp only [set] at member
            split at member
            · rcases List.mem_cons.1 member with here | later
              · exact Or.inl (by rw [here])
              · exact Or.inr (List.mem_cons_of_mem _ later)
            · rcases List.mem_cons.1 member with here | later
              · exact Or.inr (by simp [here])
              · exact (induction later).imp_right (List.mem_cons_of_mem _)
      rcases fromSet entries member with sameKey | old
      · rw [sameKey]
        exact named item (by simp)
      · exact initially entry old

theorem set_ne_nil (entries : PyDict Value) (key : String) (value : Value) :
    entries.set key value ≠ [] := by
  cases entries with
  | nil => simp [set]
  | cons entry entries =>
      rw [set]
      split <;> simp

theorem get?_without_of_ne {key wanted : String} (other : wanted ≠ key) :
    (entries.without key).get? wanted = entries.get? wanted := by
  induction entries with
  | nil => rfl
  | cons entry entries ih =>
      simp only [without, get?, List.filter_cons, List.find?_cons] at ih ⊢
      by_cases found : entry.1 = wanted
      · simp [found, other]
      · by_cases removed : entry.1 = key
        · simpa [removed, Ne.symm other] using ih
        · simpa [found, removed] using ih

variable {others : PyDict Value}

theorem get?_updated_of_forall_ne {key : String} (other : ∀ entry ∈ others, entry.1 ≠ key) :
    (entries.updated others).get? key = entries.get? key := by
  induction others generalizing entries with
  | nil => rfl
  | cons entry others ih =>
      have rest : ((entries.set entry.1 entry.2).updated others).get? key =
          (entries.set entry.1 entry.2).get? key :=
        ih fun later member => other later (List.mem_cons_of_mem _ member)
      rw [updated, List.foldl_cons]
      rw [updated] at rest
      rw [rest, get?_set, if_neg (Ne.symm (other entry (by simp)))]

/-- Every key is there once, as in any Python `dict`. -/
def Distinct (entries : PyDict Value) : Prop :=
  (entries.map Prod.fst).Nodup

variable {entry : String × Value}

theorem mem_set_iff (distinct : entries.Distinct) {key : String} {value : Value} :
    entry ∈ entries.set key value ↔ entry = (key, value) ∨ entry ∈ entries ∧ entry.1 ≠ key := by
  induction entries with
  | nil => simp [set]
  | cons first entries ih =>
      obtain ⟨fresh, rest⟩ := List.nodup_cons.1 distinct
      have others : ∀ other ∈ entries, other.1 ≠ first.1 := fun other member same =>
        fresh (same ▸ List.mem_map_of_mem member)
      simp only [set]
      split
      · rename_i here
        constructor
        · intro member
          rcases List.mem_cons.1 member with new | old
          · exact Or.inl new
          · exact Or.inr ⟨List.mem_cons_of_mem _ old, here ▸ others entry old⟩
        · rintro (new | ⟨member, other⟩)
          · simp [new]
          · rcases List.mem_cons.1 member with same | old
            · exact absurd (same ▸ here) other
            · exact List.mem_cons_of_mem _ old
      · rename_i elsewhere
        rw [List.mem_cons, ih rest, List.mem_cons]
        constructor
        · rintro (same | new | ⟨old, other⟩)
          · exact Or.inr ⟨Or.inl same, same ▸ elsewhere⟩
          · exact Or.inl new
          · exact Or.inr ⟨Or.inr old, other⟩
        · rintro (new | ⟨same | old, other⟩)
          · exact Or.inr (Or.inl new)
          · exact Or.inl same
          · exact Or.inr (Or.inr ⟨old, other⟩)

theorem Distinct.set {entries : PyDict Value} (distinct : entries.Distinct) (key : String)
    (value : Value) : (entries.set key value).Distinct := by
  induction entries with
  | nil => simp [PyDict.set, Distinct]
  | cons first entries ih =>
      obtain ⟨fresh, rest⟩ := List.nodup_cons.1 distinct
      simp only [PyDict.set]
      split
      · rename_i here
        exact List.nodup_cons.2 ⟨here ▸ fresh, rest⟩
      · rename_i elsewhere
        refine List.nodup_cons.2 ⟨fun member => ?_, ih rest⟩
        obtain ⟨entry, inside, same⟩ := List.mem_map.1 member
        rcases (mem_set_iff rest).1 inside with new | ⟨old, _⟩
        · rw [new] at same
          exact elsewhere same.symm
        · exact fresh (same ▸ List.mem_map_of_mem old)

theorem Distinct.updated (distinct : entries.Distinct) (others : PyDict Value) :
    (entries.updated others).Distinct := by
  induction others generalizing entries with
  | nil => exact distinct
  | cons other others ih => exact ih (distinct.set other.1 other.2)

theorem mem_updated (distinct : entries.Distinct) (member : entry ∈ entries.updated others) :
    entry ∈ others ∨ entry ∈ entries ∧ ∀ other ∈ others, other.1 ≠ entry.1 := by
  induction others generalizing entries with
  | nil => exact Or.inr ⟨member, by simp⟩
  | cons other others ih =>
      rcases ih (distinct.set other.1 other.2) member with new | ⟨kept, free⟩
      · exact Or.inl (List.mem_cons_of_mem _ new)
      · rcases (mem_set_iff distinct).1 kept with same | ⟨old, differs⟩
        · exact Or.inl (by simp [same])
        · exact Or.inr ⟨old, List.forall_mem_cons.2 ⟨differs.symm, free⟩⟩

theorem mem_updated_of_forall_ne (distinct : entries.Distinct) (member : entry ∈ entries)
    (free : ∀ other ∈ others, other.1 ≠ entry.1) : entry ∈ entries.updated others := by
  induction others generalizing entries with
  | nil => exact member
  | cons other others ih =>
      obtain ⟨differs, rest⟩ := List.forall_mem_cons.1 free
      exact ih (distinct.set other.1 other.2)
        ((mem_set_iff distinct).2 (Or.inr ⟨member, differs.symm⟩)) rest

end PyDict

abbrev JsonObject := PyDict Json

/-- What the services read of `urllib.parse.urlparse(url)`. -/
structure UrlParts where
  scheme : String
  hostname : Option String
  path : String
deriving DecidableEq

/-- The parts of Python's standard library which the services call and whose
definition rests on tables or algorithms outside the repository. -/
structure PythonRuntime where
  /-- `repr` of a string. -/
  reprStr : String → String
  /-- `str.lower`. -/
  lower : String → String
  lower_empty : lower "" = ""
  /-- `datetime.fromisoformat`; `none` for `ValueError`. -/
  fromIsoformat : String → Option IsoDateTime
  /-- `hashlib.sha256(text.encode("utf-8")).hexdigest()`. -/
  sha256Hexdigest : String → String
  /-- `json.loads`; `none` for `ValueError`. -/
  jsonLoads : String → Option Json
  /-- `urllib.parse.urlparse`; `none` for `ValueError`. -/
  urlparse : String → Option UrlParts

/-- What a runtime for chosen texts answers to them. -/
structure KnownTexts where
  instants : PyDict IsoDateTime
  digests : PyDict String
  documents : PyDict Json
  urls : PyDict UrlParts

/-- The runtime on ASCII text without quotes or escapes, which knows the dates,
digests, documents and URLs of the given texts. -/
def PythonRuntime.ascii (known : KnownTexts) : PythonRuntime where
  reprStr text := "'" ++ text ++ "'"
  lower text := String.ofList (text.toList.map Char.toLower)
  lower_empty := by decide
  fromIsoformat := known.instants.get?
  sha256Hexdigest text := (known.digests.get? text).getD ""
  jsonLoads := known.documents.get?
  urlparse := known.urls.get?

def PythonRuntime.plain : PythonRuntime :=
  .ascii ⟨[], [], [], []⟩

namespace Json

/-- `bool(value)`. -/
def truthy : Json → Bool
  | null => false
  | bool value => value
  | int value => value ≠ 0
  | float printed => ¬ (printed = "0.0" ∨ printed = "-0.0")
  | str text => text ≠ ""
  | list items => ¬ items.isEmpty
  | dict entries => ¬ entries.isEmpty

variable (python : PythonRuntime)

mutual

/-- `repr(value)`. -/
def repr : Json → String
  | null => "None"
  | bool value => if value then "True" else "False"
  | int value => toString value
  | float printed => printed
  | str text => python.reprStr text
  | list items => "[" ++ reprItems items ++ "]"
  | dict entries => "\x7b" ++ reprEntries entries ++ "\x7d"

private def reprItems : List Json → String
  | [] => ""
  | [item] => item.repr
  | item :: items => item.repr ++ ", " ++ reprItems items

private def reprEntries : List (String × Json) → String
  | [] => ""
  | [(key, value)] => python.reprStr key ++ ": " ++ value.repr
  | (key, value) :: entries =>
      python.reprStr key ++ ": " ++ value.repr ++ ", " ++ reprEntries entries

end

/-- `str(value)`: a string prints as itself, anything else as its `repr`. -/
def pyStr : Json → String
  | str text => text
  | value => value.repr python

end Json

/-- `bool(value)` of `entries.get(key)`, whose default is `None`. -/
def JsonObject.truthyAt (entries : JsonObject) (key : String) : Bool :=
  match entries.get? key with
  | none => false
  | some value => value.truthy

variable (python : PythonRuntime)

/-- `str(entries.get(key) or fallback)`, with a string for the fallback. -/
def JsonObject.strOr (entries : JsonObject) (key fallback : String) : String :=
  match entries.get? key with
  | none => fallback
  | some value => if value.truthy then value.pyStr python else fallback

/-- `str(entries.get(key, fallback))`, with a string for the fallback. -/
def JsonObject.strAt (entries : JsonObject) (key fallback : String) : String :=
  match entries.get? key with
  | none => fallback
  | some value => value.pyStr python

/-- `text[:limit]`. -/
def truncated (text : String) (limit : Nat) : String :=
  String.ofList (text.toList.take limit)

/-- `wanted in text`. -/
def occursIn (wanted text : List Char) : Bool :=
  text.tails.any fun after => wanted.isPrefixOf after

/-- What `str.strip` removes. -/
def isPythonSpace (character : Char) : Bool :=
  let code := character.toNat
  (9 ≤ code && code ≤ 13) || (28 ≤ code && code ≤ 32) || code = 0x85 || code = 0xA0 ||
    code = 0x1680 || (0x2000 ≤ code && code ≤ 0x200A) || code = 0x2028 || code = 0x2029 ||
    code = 0x202F || code = 0x205F || code = 0x3000

/-- What ends a line for `str.splitlines`. -/
def isLineBreak (character : Char) : Bool :=
  let code := character.toNat
  (10 ≤ code && code ≤ 13) || (28 ≤ code && code ≤ 30) || code = 0x85 || code = 0x2028 ||
    code = 0x2029

/-- `text.splitlines()`. -/
def splitlines : List Char → List (List Char)
  | [] => []
  | '\r' :: '\n' :: rest => [] :: splitlines rest
  | character :: rest =>
      if isLineBreak character then [] :: splitlines rest
      else
        match splitlines rest with
        | [] => [[character]]
        | line :: lines => (character :: line) :: lines

/-- `text.strip()`. -/
def strip (text : String) : String :=
  String.ofList
    ((text.toList.dropWhile isPythonSpace).reverse.dropWhile isPythonSpace).reverse

theorem dropWhile_rdropWhile_dropWhile (removes : Char → Bool) (text : List Char) :
    ((text.dropWhile removes).rdropWhile removes).dropWhile removes =
      (text.dropWhile removes).rdropWhile removes := by
  rw [List.dropWhile_eq_self_iff]
  intro nonempty
  have begins := List.rdropWhile_prefix removes (text.dropWhile removes)
  have longer : 0 < (text.dropWhile removes).length := Nat.lt_of_lt_of_le nonempty begins.length_le
  have first := List.dropWhile_eq_self_iff.1 (List.dropWhile_idempotent removes text) longer
  simpa [begins.getElem nonempty] using first

theorem strip_strip (text : String) : strip (strip text) = strip text := by
  have asTrimmed (text : String) : strip text = String.ofList
      ((text.toList.dropWhile isPythonSpace).rdropWhile isPythonSpace) := rfl
  simp only [asTrimmed, String.toList_ofList, dropWhile_rdropWhile_dropWhile,
    List.rdropWhile_idempotent]

private theorem mem_dropWhile_iff {Item : Type} {drops : Item → Bool} {item : Item}
    (stays : drops item = false) (items : List Item) :
    item ∈ items.dropWhile drops ↔ item ∈ items := by
  induction items with
  | nil => rfl
  | cons first items ih =>
      rw [List.dropWhile_cons]
      split
      · rename_i dropped
        rw [ih, List.mem_cons]
        refine ⟨Or.inr, fun member => member.resolve_left ?_⟩
        rintro rfl
        exact absurd dropped (by simp [stays])
      · rfl

theorem mem_strip_iff {character : Char} (visible : isPythonSpace character = false)
    (text : String) : character ∈ (strip text).toList ↔ character ∈ text.toList := by
  rw [strip, String.toList_ofList, List.mem_reverse, mem_dropWhile_iff visible, List.mem_reverse,
    mem_dropWhile_iff visible]

/-- `text.split(",")`. -/
def splitOnCommas (text : String) : List String :=
  text.toList.foldr
    (fun character parts =>
      match parts with
      | [] => []
      | part :: parts =>
          if character = ',' then "" :: part :: parts
          else (String.ofList [character] ++ part) :: parts)
    [""]

private def commaStep (character : Char) : List String → List String
  | [] => []
  | part :: parts =>
      if character = ',' then "" :: part :: parts
      else (String.ofList [character] ++ part) :: parts

private theorem splitOnCommas_eq (text : String) :
    splitOnCommas text = text.toList.foldr commaStep [""] := by
  have sameStep : commaStep = fun character parts =>
      match parts with
      | [] => []
      | part :: parts =>
          if character = ',' then "" :: part :: parts
          else (String.ofList [character] ++ part) :: parts := by
    funext character parts
    cases parts <;> rfl
  rw [sameStep, splitOnCommas]

private theorem exists_foldr_commaStep (characters : List Char) :
    ∃ part parts, characters.foldr commaStep [""] = part :: parts := by
  induction characters with
  | nil => exact ⟨"", [], rfl⟩
  | cons character characters ih =>
      rcases ih with ⟨part, parts, split⟩
      rw [List.foldr_cons, split]
      by_cases comma : character = ','
      · exact ⟨"", part :: parts, if_pos comma⟩
      · exact ⟨_, parts, if_neg comma⟩

private theorem foldr_commaStep_of_notMem {characters : List Char} (free : ',' ∉ characters)
    (part : String) (parts : List String) :
    characters.foldr commaStep (part :: parts) = (String.ofList characters ++ part) :: parts := by
  induction characters with
  | nil => simp
  | cons character characters ih =>
      have other : character ≠ ',' := fun comma => free (by simp [comma])
      rw [List.foldr_cons, ih fun member => free (List.mem_cons_of_mem _ member), commaStep,
        if_neg other]
      simp [String.ofList_cons, String.append_assoc]

theorem splitOnCommas_of_notMem {text : String} (free : ',' ∉ text.toList) :
    splitOnCommas text = [text] := by
  rw [splitOnCommas_eq, foldr_commaStep_of_notMem free]
  simp

theorem splitOnCommas_append {first : String} (free : ',' ∉ first.toList) (rest : String) :
    splitOnCommas (first ++ "," ++ rest) = first :: splitOnCommas rest := by
  rcases exists_foldr_commaStep rest.toList with ⟨part, parts, split⟩
  have characters : (first ++ "," ++ rest).toList = first.toList ++ ',' :: rest.toList := by simp
  rw [splitOnCommas_eq, splitOnCommas_eq, characters, List.foldr_append, List.foldr_cons, split,
    commaStep, if_pos rfl, foldr_commaStep_of_notMem free]
  simp

private theorem exists_foldr_commaStep_append (characters : List Char) (part : String)
    (parts : List String) :
    ∃ first rest, characters.foldr commaStep [part] = first :: rest ∧
      characters.foldr commaStep (part :: parts) = first :: (rest ++ parts) := by
  induction characters with
  | nil => exact ⟨part, [], rfl, rfl⟩
  | cons character characters ih =>
      obtain ⟨first, rest, alone, followed⟩ := ih
      rw [List.foldr_cons, List.foldr_cons, alone, followed]
      by_cases comma : character = ','
      · exact ⟨"", first :: rest, if_pos comma, if_pos comma⟩
      · exact ⟨_, rest, if_neg comma, if_neg comma⟩

theorem splitOnCommas_append_comma (first second : String) :
    splitOnCommas (first ++ "," ++ second) = splitOnCommas first ++ splitOnCommas second := by
  obtain ⟨part, parts, alone, followed⟩ :=
    exists_foldr_commaStep_append first.toList "" (splitOnCommas second)
  rcases exists_foldr_commaStep second.toList with ⟨head, tail, split⟩
  have characters : (first ++ "," ++ second).toList = first.toList ++ ',' :: second.toList := by
    simp
  have separated : commaStep ',' (second.toList.foldr commaStep [""]) =
      "" :: splitOnCommas second := by
    rw [splitOnCommas_eq, split, commaStep, if_pos rfl]
  rw [splitOnCommas_eq (first ++ "," ++ second), characters, List.foldr_append, List.foldr_cons,
    separated, followed, splitOnCommas_eq first, alone, List.cons_append]

theorem joined_inj {Symbol : Type} {separator : Symbol}
    {first second firstRest secondRest : List Symbol} (firstFree : separator ∉ first)
    (secondFree : separator ∉ second) :
    first ++ separator :: firstRest = second ++ separator :: secondRest ↔
      first = second ∧ firstRest = secondRest := by
  constructor
  · intro same
    induction first generalizing second with
    | nil =>
        cases second with
        | nil => exact ⟨rfl, (List.cons.inj same).2⟩
        | cons symbol second =>
            have starts : separator = symbol := (List.cons.inj same).1
            exact absurd (by simp [starts]) secondFree
    | cons symbol first ih =>
        cases second with
        | nil =>
            have starts : symbol = separator := (List.cons.inj same).1
            exact absurd (by simp [starts]) firstFree
        | cons other second =>
            obtain ⟨head, tail⟩ := List.cons.inj same
            obtain ⟨fields, rests⟩ := ih (fun member => firstFree (List.mem_cons_of_mem _ member))
              (fun member => secondFree (List.mem_cons_of_mem _ member)) tail
            exact ⟨by rw [head, fields], rests⟩
  · rintro ⟨rfl, rfl⟩
    rfl

theorem not_mem_toString {symbol : Char} (notDigit : symbol.isDigit = false) (number : Nat) :
    symbol ∉ (toString number).toList := by
  intro member
  have digits : (toString number).toList = Nat.toDigits 10 number := String.toList_ofList
  rw [digits] at member
  have isDigit := Nat.isDigit_of_mem_toDigits (by decide) (by decide) member
  exact absurd isDigit (by simp [notDigit])

/-- The digits of an integer, with single underscores between them, after a prefix that
was read already. -/
private def digitsValue : Bool → Nat → List Char → Option Nat
  | readDigit, value, [] => if readDigit then some value else none
  | readDigit, value, next :: rest =>
      if next.isDigit then digitsValue true (value * 10 + (next.toNat - '0'.toNat)) rest
      else if next = '_' && readDigit then digitsValue false value rest
      else none

/-- `int(text)` of an ASCII text; `none` for `ValueError`. -/
def pyInt (text : String) : Option Int :=
  match (strip text).toList with
  | '-' :: digits => (digitsValue false 0 digits).map fun value => -(value : Int)
  | '+' :: digits => (digitsValue false 0 digits).map fun value => (value : Int)
  | digits => (digitsValue false 0 digits).map fun value => (value : Int)

example :
    ["7", " +1_0 ", "-3", "1__0", ""].map pyInt = [some 7, some 10, some (-3), none, none] := by
  decide

def splitCsvLower (text : String) : List String :=
  ((splitOnCommas text).filter fun item => strip item ≠ "").map fun item =>
    python.lower (strip item)

/-- `value.replace("Z", "+00:00")`. -/
def replaceZulu (text : String) : String :=
  String.ofList (text.toList.flatMap fun character =>
    if character = 'Z' then "+00:00".toList else [character])

def parseUtcDatetime (value : Option String) : Option DateTime :=
  match value with
  | none => none
  | some text =>
      if text = "" then none
      else (python.fromIsoformat (replaceZulu text)).map naiveUtc

end WebhookWise
