import WebhookWise.IncidentScans

/-!
# Minutes to acknowledge, read from a setting

A setting such as `high=30,medium=240` says after how many minutes an unacknowledged incident
escalates.  `isdigit` accepts digits which are not decimal, `int` refuses long texts, and a
`datetime` ends with the year 9999, so a setting can pass the test and still raise.
-/

namespace WebhookWise

namespace AutoSla

open IncidentGrouping

/-- What the tables of Unicode say about the digits. -/
structure DigitTables where
  /-- `character.isdigit()`. -/
  isDigit : Char → Bool
  /-- `unicodedata.decimal`, which `int` reads. -/
  decimal : Char → Option Nat

def DigitTables.latin : DigitTables where
  isDigit character := character.isDigit || character = '²' || character = '³' || character = '¹'
  decimal character := if character.isDigit then some (character.toNat - '0'.toNat) else none

inductive Raised where
  | valueError (message : String)
  | overflowError
deriving DecidableEq

/-- A `datetime`, which lies in the years 1 to 9999. -/
structure Moment where
  instant : DateTime
  least : -62135596800000000 ≤ instant
  greatest : instant ≤ 253402300799999999

def datetimeMax : DateTime := 253402300799999999

def datetimeMin : DateTime := -62135596800000000

def timedeltaMaxDays : Int := 999999999

/-- `sys.get_int_max_str_digits()`. -/
def maxStrDigits : Nat := 4300

def validImportance : List String :=
  ["high", "medium", "low"]

variable (digits : DigitTables) (python : PythonRuntime)

/-- `value.isdigit()`. -/
def isDigits (value : String) : Bool :=
  value ≠ "" && value.toList.all digits.isDigit

def decimalValue (characters : List Char) : Int :=
  characters.foldl
    (fun value character => value * 10 + (((digits.decimal character).getD 0 : Nat) : Int)) 0

/-- `int(value)` of digits, among which there is no sign, underscore or white space. -/
def intOfDigits (value : String) : Except Raised Int :=
  let decimals := value.toList.takeWhile fun character => (digits.decimal character).isSome
  if maxStrDigits < decimals.length then
    .error (.valueError
      ("Exceeds the limit (4300 digits) for integer string conversion: value has " ++
        toString decimals.length ++
        " digits; use sys.set_int_max_str_digits() to increase the limit"))
  else if decimals.length < value.toList.length then
    .error (.valueError ("invalid literal for int() with base 10: " ++ python.reprStr value))
  else .ok (decimalValue digits decimals)

/-- The name before the first `=` of an entry, and the value after it. -/
@[irreducible]
def keyAndValue (part : String) : String × String :=
  let characters := (strip part).toList
  (python.lower (strip (String.ofList (characters.takeWhile fun character => character ≠ '='))),
    strip (String.ofList ((characters.dropWhile fun character => character ≠ '=').drop 1)))

/-- What one turn of the loop reads; `none` where it goes on to the next entry. -/
def readEntry (part : String) : Except Raised (Option (String × Int)) :=
  if strip part = "" then .ok none
  else
    let entry := keyAndValue python part
    if entry.1 ∉ validImportance then .ok none
    else if ! isDigits digits entry.2 then .ok none
    else do
      let minutes ← intOfDigits digits python entry.2
      if minutes ≤ 0 then return none
      return some (entry.1, minutes)

/-- One turn of the loop. -/
def parseStep (mapping : PyDict Int) (part : String) : Except Raised (PyDict Int) := do
  match ← readEntry digits python part with
  | none => return mapping
  | some (key, minutes) => return mapping.set key minutes

def parseImportanceMinutes (raw : String) : Except Raised (PyDict Int) :=
  (splitOnCommas raw).foldlM (parseStep digits python) []

/-- `base + timedelta(minutes=minutes)`. -/
def plusMinutes (base : Moment) (minutes : Int) : Except Raised DateTime :=
  let days := minutes * 60 / 86400
  let sum := base.instant.addMinutes minutes
  if days < -timedeltaMaxDays ∨ timedeltaMaxDays < days then .error .overflowError
  else if sum < datetimeMin ∨ datetimeMax < sum then .error .overflowError
  else .ok sum

/-- Nobody is on the incident, and no SLA is set. -/
def AwaitsSla (incident : Incident) : Prop :=
  incident.slaDueAt = none ∧ incident.workflowStatus ≠ .resolved ∧
    incident.workflowStatus ≠ .ignored ∧ incident.acknowledgedAt = none

instance (incident : Incident) : Decidable (AwaitsSla incident) :=
  inferInstanceAs (Decidable (_ ∧ _ ∧ _ ∧ _))

def importanceOf (incident : Incident) : String :=
  python.lower (incident.topImportance.getD "")

/-- `apply_auto_sla`: whether the SLA was set, and the incident afterwards. -/
def applyAutoSla (policy : PyDict Int) (now : Option Moment) (utcnow : Moment)
    (incident : Incident) : Except Raised (Bool × Incident) :=
  if policy = [] ∨ incident.slaDueAt ≠ none then .ok (false, incident)
  else if incident.workflowStatus = .resolved ∨ incident.workflowStatus = .ignored then
    .ok (false, incident)
  else if incident.acknowledgedAt ≠ none then .ok (false, incident)
  else
    match policy.get? (importanceOf python incident) with
    | none => .ok (false, incident)
    | some minutes =>
        (plusMinutes (now.getD utcnow) minutes).map fun dueAt =>
          (true, { incident with slaDueAt := some dueAt })

/-! ## Reading an entry -/

variable {part : String}

/-- `int` reads the digits. -/
def IsReadable (value : String) : Prop :=
  (∀ character ∈ value.toList, (digits.decimal character).isSome = true) ∧
    value.toList.length ≤ maxStrDigits

/-- No entry of a known importance makes `int` raise. -/
def HasReadableDigits (raw : String) : Prop :=
  ∀ part ∈ splitOnCommas raw, (keyAndValue python part).1 ∈ validImportance →
    isDigits digits (keyAndValue python part).2 = true →
    IsReadable digits (keyAndValue python part).2

def minutesFor (importance part : String) : Option Int :=
  let entry := keyAndValue python part
  let minutes := decimalValue digits entry.2.toList
  if entry.1 = importance ∧ entry.1 ∈ validImportance ∧ isDigits digits entry.2 = true ∧
      0 < minutes then
    some minutes
  else none

/-- The minutes of an importance: the last entry which sets them counts. -/
def configuredMinutes (raw importance : String) : Option Int :=
  (splitOnCommas raw).reverse.findSome? (minutesFor digits python importance)

variable {digits python}

theorem intOfDigits_of_readable {value : String} (readable : IsReadable digits value) :
    intOfDigits digits python value = .ok (decimalValue digits value.toList) := by
  have all : (value.toList.takeWhile fun character => (digits.decimal character).isSome) =
      value.toList :=
    List.takeWhile_eq_self_iff.2 readable.1
  have short : ¬ maxStrDigits < value.toList.length := Nat.not_lt.2 readable.2
  simp only [intOfDigits, all]
  rw [if_neg short, if_neg (Nat.lt_irrefl _)]

theorem readable_of_intOfDigits {value : String} {number : Int}
    (read : intOfDigits digits python value = .ok number) : IsReadable digits value := by
  simp only [intOfDigits] at read
  split at read
  · contradiction
  · rename_i short
    split at read
    · contradiction
    · rename_i decimal
      have all : (value.toList.takeWhile fun character => (digits.decimal character).isSome) =
          value.toList :=
        (List.takeWhile_prefix _).eq_of_length_le (Nat.not_lt.1 decimal)
      rw [all] at short
      exact ⟨List.takeWhile_eq_self_iff.1 all, Nat.not_lt.1 short⟩

theorem importance_of_blank (blank : strip part = "") :
    (keyAndValue python part).1 ∉ validImportance := by
  have empty : strip (String.ofList []) = "" := by decide
  have key : (keyAndValue python part).1 = "" := by
    unfold keyAndValue
    rw [blank]
    change python.lower (strip (String.ofList [])) = ""
    rw [empty, python.lower_empty]
  rw [key]
  decide

theorem readEntry_of_readable (readable : (keyAndValue python part).1 ∈ validImportance →
      isDigits digits (keyAndValue python part).2 = true →
      IsReadable digits (keyAndValue python part).2) :
    readEntry digits python part = .ok ((minutesFor digits python (keyAndValue python part).1
      part).map fun minutes => ((keyAndValue python part).1, minutes)) := by
  simp only [readEntry, minutesFor]
  by_cases blank : strip part = ""
  · simp [blank, importance_of_blank blank]
  · rw [if_neg blank]
    by_cases known : (keyAndValue python part).1 ∈ validImportance
    · by_cases tested : isDigits digits (keyAndValue python part).2 = true
      · rw [intOfDigits_of_readable (readable known tested)]
        by_cases positive : 0 < decimalValue digits (keyAndValue python part).2.toList
        · simp [known, tested, positive, Int.not_le.2 positive, bind, Except.bind, pure,
            Except.pure]
        · simp [known, tested, positive, Int.not_lt.1 positive, bind, Except.bind, pure,
            Except.pure]
      · simp [known, tested]
    · simp [known]

theorem readable_of_readEntry {entry : Option (String × Int)}
    (read : readEntry digits python part = .ok entry)
    (known : (keyAndValue python part).1 ∈ validImportance)
    (tested : isDigits digits (keyAndValue python part).2 = true) :
    IsReadable digits (keyAndValue python part).2 := by
  have visible : strip part ≠ "" := fun blank => importance_of_blank blank known
  simp only [readEntry] at read
  rw [if_neg visible, if_neg (not_not.2 known), if_neg (by simp [tested])] at read
  cases converted : intOfDigits digits python (keyAndValue python part).2 with
  | error raised => simp [converted, bind, Except.bind] at read
  | ok number => exact readable_of_intOfDigits converted

/-! ## Reading a setting -/

variable {minutes : Int}

theorem minutesFor_ne {importance : String} (other : (keyAndValue python part).1 ≠ importance) :
    minutesFor digits python importance part = none := by
  simp [minutesFor, other]

/-- What the dict holds after some entries. -/
structure Parsed (digits : DigitTables) (python : PythonRuntime) (parts : List String)
    (mapping : PyDict Int) : Prop where
  named : ∀ entry ∈ mapping, entry.1 ∈ validImportance ∧ 0 < entry.2
  distinct : mapping.Distinct
  lookups : ∀ importance, mapping.get? importance =
    parts.reverse.findSome? (minutesFor digits python importance)

theorem Parsed.positive {parts : List String} {mapping : PyDict Int}
    (parsed : Parsed digits python parts mapping) {importance : String}
    (found : mapping.get? importance = some minutes) : 0 < minutes := by
  obtain ⟨entry, first, rfl⟩ := Option.map_eq_some_iff.1 found
  exact (parsed.named entry (List.mem_of_find?_eq_some first)).2

theorem Parsed.nil : Parsed digits python [] [] where
  named := by simp
  distinct := List.nodup_nil
  lookups _ := rfl

theorem minutesFor_self
    (sets : minutesFor digits python (keyAndValue python part).1 part = some minutes) :
    (keyAndValue python part).1 ∈ validImportance ∧ 0 < minutes := by
  simp only [minutesFor] at sets
  split at sets
  · rename_i meets
    cases sets
    exact ⟨meets.2.1, meets.2.2.2⟩
  · contradiction

theorem Parsed.step {parts : List String} {mapping : PyDict Int}
    (parsed : Parsed digits python parts mapping) {part : String}
    (readable : (keyAndValue python part).1 ∈ validImportance →
      isDigits digits (keyAndValue python part).2 = true →
      IsReadable digits (keyAndValue python part).2) :
    ∃ next, parseStep digits python mapping part = .ok next ∧
      Parsed digits python (parts ++ [part]) next := by
  unfold parseStep
  rw [readEntry_of_readable readable]
  cases sets : minutesFor digits python (keyAndValue python part).1 part with
  | none =>
      refine ⟨mapping, rfl, parsed.named, parsed.distinct, ?_⟩
      intro importance
      have nothing : minutesFor digits python importance part = none := by
        by_cases same : (keyAndValue python part).1 = importance
        · rw [← same, sets]
        · exact minutesFor_ne same
      simp [nothing, parsed.lookups]
  | some minutes =>
      obtain ⟨known, positive⟩ := minutesFor_self sets
      refine ⟨mapping.set (keyAndValue python part).1 minutes, rfl, ?_,
        parsed.distinct.set _ _, ?_⟩
      · intro entry member
        rcases (PyDict.mem_set_iff parsed.distinct).1 member with rfl | ⟨old, _⟩
        · exact ⟨known, positive⟩
        · exact parsed.named entry old
      · intro importance
        rw [PyDict.get?_set]
        by_cases same : importance = (keyAndValue python part).1
        · simp [same, sets]
        · simp [same, minutesFor_ne (Ne.symm same), parsed.lookups]

theorem parsed_of_readable {raw : String} (readable : HasReadableDigits digits python raw) :
    ∃ mapping, parseImportanceMinutes digits python raw = .ok mapping ∧
      Parsed digits python (splitOnCommas raw) mapping := by
  unfold HasReadableDigits at readable
  unfold parseImportanceMinutes
  generalize splitOnCommas raw = parts at readable ⊢
  induction parts using List.reverseRecOn with
  | nil => exact ⟨[], rfl, Parsed.nil⟩
  | append_singleton parts part ih =>
      obtain ⟨mapping, read, parsed⟩ := ih fun other member =>
        readable other (List.mem_append_left _ member)
      obtain ⟨next, taken, after⟩ := parsed.step (readable part (by simp))
      refine ⟨next, ?_, after⟩
      simp only [List.foldlM_append, read, List.foldlM_cons, List.foldlM_nil, bind, Except.bind,
        taken]
      rfl

example : parseImportanceMinutes .latin .plain "critical=5,high=abc,low=0,,medium=60" =
    .ok [("medium", 60)] := by
  decide +kernel

theorem readable_of_parsed {raw : String} {mapping : PyDict Int}
    (read : parseImportanceMinutes digits python raw = .ok mapping) :
    HasReadableDigits digits python raw := by
  unfold HasReadableDigits
  unfold parseImportanceMinutes at read
  generalize splitOnCommas raw = parts at read ⊢
  generalize ([] : PyDict Int) = initial at read
  induction parts generalizing initial with
  | nil => simp
  | cons part parts ih =>
      rw [List.foldlM_cons] at read
      cases taken : parseStep digits python initial part with
      | error raised => simp [taken, bind, Except.bind] at read
      | ok next =>
          rw [taken] at read
          refine List.forall_mem_cons.2 ⟨fun known tested => ?_, ih next read⟩
          unfold parseStep at taken
          cases entry : readEntry digits python part with
          | error raised => simp [entry, bind, Except.bind] at taken
          | ok value => exact readable_of_readEntry entry known tested

/-! ## Arming -/

theorem AwaitsSla.applyAutoSla {incident : Incident} (awaits : AwaitsSla incident)
    {policy : PyDict Int} {minutes : Int}
    (configured : policy.get? (importanceOf python incident) = some minutes)
    (now : Option Moment) (utcnow : Moment) :
    applyAutoSla python policy now utcnow incident =
      (plusMinutes (now.getD utcnow) minutes).map fun dueAt =>
        (true, { incident with slaDueAt := some dueAt }) := by
  obtain ⟨unset, unresolved, heeded, unacknowledged⟩ := awaits
  have enabled : policy ≠ [] := by
    rintro rfl
    cases configured
  unfold AutoSla.applyAutoSla
  rw [if_neg (by simp [enabled, unset]), if_neg (by simp [unresolved, heeded]),
    if_neg (by simp [unacknowledged]), configured]

theorem applyAutoSla_of_not_awaits {incident : Incident} (cared : ¬ AwaitsSla incident)
    (policy : PyDict Int) (now : Option Moment) (utcnow : Moment) :
    applyAutoSla python policy now utcnow incident = .ok (false, incident) := by
  unfold AutoSla.applyAutoSla
  split
  · rfl
  · rename_i unset
    split
    · rfl
    · rename_i unresolved
      split
      · rfl
      · rename_i unacknowledged
        have free := not_or.1 unset
        have awaits := not_or.1 unresolved
        exact absurd ⟨not_not.1 free.2, awaits.1, awaits.2, not_not.1 unacknowledged⟩ cared

theorem applyAutoSla_of_unknown {incident : Incident} {policy : PyDict Int}
    (unknown : policy.get? (importanceOf python incident) = none) (now : Option Moment)
    (utcnow : Moment) :
    applyAutoSla python policy now utcnow incident = .ok (false, incident) := by
  unfold AutoSla.applyAutoSla
  simp only [unknown, ite_self]

private theorem inRange_of_le {instant : Int} (least : -62135596800000000 ≤ instant)
    (positive : 0 < minutes) (fits : instant + minutes * 60 * 1000000 ≤ 253402300799999999) :
    ¬ (minutes * 60 / 86400 < -999999999 ∨ 999999999 < minutes * 60 / 86400) ∧
      ¬ (instant + minutes * 60 * 1000000 < -62135596800000000 ∨
        253402300799999999 < instant + minutes * 60 * 1000000) := by
  omega

theorem plusMinutes_of_le {base : Moment} (positive : 0 < minutes)
    (fits : base.instant.addMinutes minutes ≤ datetimeMax) :
    plusMinutes base minutes = .ok (base.instant.addMinutes minutes) := by
  obtain ⟨days, inRange⟩ := inRange_of_le base.least positive fits
  exact (if_neg days).trans (if_neg inRange)

theorem le_of_plusMinutes {base : Moment} {dueAt : DateTime}
    (added : plusMinutes base minutes = .ok dueAt) :
    base.instant.addMinutes minutes ≤ datetimeMax := by
  simp only [plusMinutes] at added
  split at added
  · contradiction
  · split at added
    · contradiction
    · rename_i inRange
      exact Int.not_lt.1 (not_or.1 inRange).2

/-! ## A typo -/

variable (digits python)

/-- Nothing is raised, the dict holds positive minutes of known importances, and an SLA
that is armed is due after the configured minutes. -/
def ArmsAsConfigured (raw : String) (now : Option Moment) (utcnow : Moment)
    (incident : Incident) : Prop :=
  ∃ mapping armed after,
    parseImportanceMinutes digits python raw = .ok mapping ∧
    (∀ entry ∈ mapping, entry.1 ∈ validImportance ∧ 0 < entry.2) ∧
    applyAutoSla python mapping now utcnow incident = .ok (armed, after) ∧
    (armed = false → after = incident) ∧
    (armed = true → ∃ minutes,
      configuredMinutes digits python raw (importanceOf python incident) = some minutes ∧
      after = { incident with
        slaDueAt := some ((now.getD utcnow).instant.addMinutes minutes) })

/-- The SLA which an incident awaits, if one is configured, is due in the year 9999 at the
latest. -/
def DueInTime (raw : String) (now : Option Moment) (utcnow : Moment) (incident : Incident) :
    Prop :=
  AwaitsSla incident →
    ∀ minutes ∈ configuredMinutes digits python raw (importanceOf python incident),
      (now.getD utcnow).instant.addMinutes minutes ≤ datetimeMax

/-- A setting stops no scan exactly when `int` reads the digits of its entries and the sum
with the minutes is a `datetime`. -/
theorem armsAsConfigured_iff (raw : String) (now : Option Moment) (utcnow : Moment)
    (incident : Incident) :
    ArmsAsConfigured digits python raw now utcnow incident ↔
      HasReadableDigits digits python raw ∧
        DueInTime digits python raw now utcnow incident := by
  constructor
  · rintro ⟨mapping, armed, after, read, named, returns, _, _⟩
    have readable := readable_of_parsed read
    refine ⟨readable, fun awaits minutes configured => ?_⟩
    obtain ⟨same, sameRead, parsed⟩ := parsed_of_readable readable
    obtain rfl : mapping = same := Except.ok.inj (read.symm.trans sameRead)
    have found := (parsed.lookups (importanceOf python incident)).trans configured
    rw [awaits.applyAutoSla found] at returns
    cases sum : plusMinutes (now.getD utcnow) minutes with
    | error raised => simp [sum, Except.map] at returns
    | ok dueAt => exact le_of_plusMinutes sum
  · rintro ⟨readable, dueInTime⟩
    obtain ⟨mapping, read, parsed⟩ := parsed_of_readable readable
    have lookup := parsed.lookups (importanceOf python incident)
    by_cases awaits : AwaitsSla incident
    · cases configured : configuredMinutes digits python raw (importanceOf python incident) with
      | none =>
          exact ⟨mapping, false, incident, read, parsed.named,
            applyAutoSla_of_unknown (lookup.trans configured) now utcnow, fun _ => rfl, by simp⟩
      | some minutes =>
          have found := lookup.trans configured
          have sum := plusMinutes_of_le (parsed.positive found)
            (dueInTime awaits minutes configured)
          refine ⟨mapping, true, _, read, parsed.named, ?_, by simp,
            fun _ => ⟨minutes, configured, rfl⟩⟩
          rw [awaits.applyAutoSla found, sum]
          rfl
    · exact ⟨mapping, false, incident, read, parsed.named,
        applyAutoSla_of_not_awaits awaits mapping now utcnow, fun _ => rfl, by simp⟩

def unattended : Incident where
  id := 1
  title := "gpu incident"
  status := .active
  source := some "volcengine"
  sourceConnectionId := none
  startedAt := 0
  endedAt := none
  alertCount := 1
  topImportance := some "high"
  workflowStatus := .opened
  acknowledgedAt := none
  resolvedAt := none
  slaDueAt := none
  escalatedAt := none
  correlationDimensions := []
  correlationConfidence := 100
  updatedAt := none

/-- `isdigit` accepts a superscript two, at which `int` raises; and minutes may reach beyond
the year 9999. -/
theorem typo_stops_scan :
    ¬ ArmsAsConfigured .latin .plain "high=²" none ⟨0, by decide, by decide⟩ unattended ∧
      ¬ ArmsAsConfigured .latin .plain "high=9999999999" none ⟨0, by decide, by decide⟩
        unattended := by
  have superscript : parseImportanceMinutes .latin .plain "high=²" =
      .error (.valueError "invalid literal for int() with base 10: '²'") := by
    decide +kernel
  have late : parseImportanceMinutes .latin .plain "high=9999999999" =
      .ok [("high", 9999999999)] := by
    decide +kernel
  constructor
  · rintro ⟨_, _, _, read, _⟩
    cases superscript.symm.trans read
  · rintro ⟨_, _, _, read, _, returns, _⟩
    cases late.symm.trans read
    have raises : applyAutoSla .plain [("high", 9999999999)] none ⟨0, by decide, by decide⟩
        unattended = .error .overflowError := by
      rfl
    cases raises.symm.trans returns

end AutoSla

end WebhookWise
