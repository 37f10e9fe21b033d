import Mathlib.Data.List.DropRight
import Mathlib.Data.List.Dedup
import Mathlib.Data.List.Sort
import Mathlib.Data.Option.Basic
import WebhookWise.PythonValues

/-!
# The request schemas of forward rules, silences and maintenance windows

Fields left out take their defaults, texts are stripped and must not be too long, numbers must be in
range, and a silence or window must have a criterion.  What a schema accepts it accepts again,
unchanged.
-/

namespace WebhookWise

/-- What the schemas take from pydantic and from the time zone database. -/
structure SchemaRuntime where
  /-- The characters which `str_strip_whitespace` removes: those that Unicode calls white
  space, which are fewer than `str.strip` removes. -/
  stripsCharacter : Char → Bool
  isPythonSpace_of_strips : ∀ character, stripsCharacter character = true →
    isPythonSpace character = true
  /-- `ZoneInfo(name)` does not raise. -/
  knowsZone : String → Bool

inductive ForwardTargetType where
  | feishu
  | feishuRelay
  | deepAnalysis
  | webhook
deriving DecidableEq

inductive ForwardDuplicateMode where
  | all
  | new
  | duplicate
deriving DecidableEq

structure MatchFields (Value : Type) where
  matchSource : Value
  matchImportance : Value
  matchEventType : Value
  matchProject : Value
  matchRegion : Value
  matchEnvironment : Value
  matchPayload : Value
deriving DecidableEq

namespace MatchFields

def map {Value Other : Type} (change : Value → Other) (fields : MatchFields Value) :
    MatchFields Other where
  matchSource := change fields.matchSource
  matchImportance := change fields.matchImportance
  matchEventType := change fields.matchEventType
  matchProject := change fields.matchProject
  matchRegion := change fields.matchRegion
  matchEnvironment := change fields.matchEnvironment
  matchPayload := change fields.matchPayload

def toList {Value : Type} (fields : MatchFields Value) : List Value :=
  [fields.matchSource, fields.matchImportance, fields.matchEventType, fields.matchProject,
    fields.matchRegion, fields.matchEnvironment, fields.matchPayload]

def absent : MatchFields (Option String) :=
  ⟨none, none, none, none, none, none, none⟩

end MatchFields

/-- A request for a forward rule.  `name` and `target_type` are required. -/
structure ForwardRuleEntry where
  name : Option String := none
  enabled : Option Bool := none
  priority : Option Int := none
  criteria : MatchFields (Option String) := .absent
  matchDuplicate : Option ForwardDuplicateMode := none
  targetType : Option ForwardTargetType := none
  targetUrl : Option String := none
  targetName : Option String := none
  targetGateway : Option String := none
  stopOnMatch : Option Bool := none
deriving DecidableEq

/-- `ForwardRuleCreateData`, the columns of a rule besides its id and times. -/
structure ForwardRuleData where
  name : String
  enabled : Bool
  priority : Int
  criteria : MatchFields String
  matchDuplicate : ForwardDuplicateMode
  targetType : ForwardTargetType
  targetUrl : String
  targetName : String
  targetGateway : String
  stopOnMatch : Bool
deriving DecidableEq

/-- A request for a silence, without `expires_at`, which no check looks at. -/
structure SilenceEntry where
  criteria : MatchFields (Option String) := .absent
  comment : Option String := none
  createdBy : Option String := none
deriving DecidableEq

structure SilenceData where
  criteria : MatchFields String
  comment : String
  createdBy : String
deriving DecidableEq

structure WindowEntry where
  silence : SilenceEntry
  name : Option String := none
  enabled : Option Bool := none
  daysOfWeek : Option (List Int) := none
  startMinute : Option Int := none
  durationMinutes : Option Int := none
  timezone : Option String := none
deriving DecidableEq

structure WindowData where
  silence : SilenceData
  name : String
  enabled : Bool
  daysOfWeek : String
  startMinute : Int
  durationMinutes : Int
  timezone : String
deriving DecidableEq

variable {value : Option String} {maxLength : Nat} {text : String} {days : List Int}

/-- A row: its id, and its columns besides generated times. -/
structure ConfigRow (Data : Type) where
  id : Nat
  data : Data
deriving DecidableEq

namespace ConfigSchemas

variable (runtime : SchemaRuntime)

/-! ## Fields -/

/-- What `str_strip_whitespace` leaves of a text. -/
def stripped (text : String) : String :=
  String.ofList
    ((text.toList.dropWhile runtime.stripsCharacter).rdropWhile runtime.stripsCharacter)

/-- A text field with `default=""` and `max_length`. -/
def textField (maxLength : Nat) (value : Option String) : Option String :=
  let text := stripped runtime (value.getD "")
  if text.length ≤ maxLength then some text else none

/-- A required text field with `min_length=1` and `max_length`. -/
def requiredField (maxLength : Nat) (value : Option String) : Option String :=
  value.bind fun given => (textField runtime maxLength (some given)).filter (· ≠ "")

/-- An integer field with `ge` and `le`. -/
def integerField (least greatest : Int) (value : Option Int) : Option Int :=
  value.filter fun number => decide (least ≤ number) && decide (number ≤ greatest)

/-- The field `timezone`, whose default is not checked. -/
def timezoneField : Option String → Option String
  | none => some "Asia/Shanghai"
  | some given => textField runtime 64 (some given)

def matchFields (entry : MatchFields (Option String)) : Option (MatchFields String) := do
  let matchSource ← textField runtime 200 entry.matchSource
  let matchImportance ← textField runtime 50 entry.matchImportance
  let matchEventType ← textField runtime 200 entry.matchEventType
  let matchProject ← textField runtime 200 entry.matchProject
  let matchRegion ← textField runtime 200 entry.matchRegion
  let matchEnvironment ← textField runtime 200 entry.matchEnvironment
  let matchPayload ← textField runtime 512 entry.matchPayload
  return {
    matchSource, matchImportance, matchEventType, matchProject, matchRegion, matchEnvironment
    matchPayload }

/-- `any(c.strip() for c in criteria)`. -/
def hasCriterion (criteria : MatchFields String) : Bool :=
  criteria.toList.any fun criterion => strip criterion ≠ ""

/-! ## Schemas -/

/-- `ForwardRuleCreateRequest(**entry).to_service_kwargs()`; `none` for `ValidationError`. -/
def forwardRuleCreateRequest (entry : ForwardRuleEntry) : Option ForwardRuleData := do
  let name ← requiredField runtime 100 entry.name
  let priority ← integerField (-1000000) 1000000 (some (entry.priority.getD 0))
  let criteria ← matchFields runtime entry.criteria
  let targetType ← entry.targetType
  let targetUrl ← textField runtime 500 entry.targetUrl
  let targetName ← textField runtime 100 entry.targetName
  let targetGateway ← textField runtime 50 entry.targetGateway
  return {
    name
    enabled := entry.enabled.getD true
    priority, criteria
    matchDuplicate := entry.matchDuplicate.getD .all
    targetType, targetUrl, targetName, targetGateway
    stopOnMatch := entry.stopOnMatch.getD false }

/-- The fields of `_SilenceRequestBase`. -/
def silenceFields (entry : SilenceEntry) : Option SilenceData := do
  let criteria ← matchFields runtime entry.criteria
  let comment ← textField runtime 500 entry.comment
  let createdBy ← textField runtime 100 entry.createdBy
  return { criteria, comment, createdBy }

/-- `SilenceCreateRequest(**entry).to_service_kwargs()`, without `expires_at`. -/
def silenceCreateRequest (entry : SilenceEntry) : Option SilenceData :=
  (silenceFields runtime entry).filter fun data => hasCriterion data.criteria

/-- What `days_of_week` admits: one to seven numbers of weekdays. -/
def isWeekdays (days : List Int) : Bool :=
  decide (1 ≤ days.length) && decide (days.length ≤ 7) &&
    days.all fun day => decide (1 ≤ day) && decide (day ≤ 7)

/-- `",".join(str(d) for d in sorted(set(days)))`. -/
def joinedDays (days : List Int) : String :=
  String.intercalate "," ((days.dedup.insertionSort (· ≤ ·)).map toString)

/-- `[int(part) for part in days.split(",") if part.strip()]`. -/
def parsedDays (days : String) : Option (List Int) :=
  ((splitOnCommas days).filter fun part => strip part ≠ "").mapM pyInt

/-- `MaintenanceWindowCreateRequest(**entry).to_model_kwargs()`. -/
def windowCreateRequest (entry : WindowEntry) : Option WindowData := do
  let silence ← silenceFields runtime entry.silence
  let name ← requiredField runtime 100 entry.name
  let daysOfWeek ← entry.daysOfWeek.filter isWeekdays
  let startMinute ← integerField 0 1439 entry.startMinute
  let durationMinutes ← integerField 1 (7 * 24 * 60) entry.durationMinutes
  let timezone ← timezoneField runtime entry.timezone
  if runtime.knowsZone timezone && hasCriterion silence.criteria then
    return {
      silence, name
      enabled := entry.enabled.getD true
      daysOfWeek := joinedDays daysOfWeek
      startMinute, durationMinutes, timezone }
  else none

/-! ## Sending what was accepted -/

variable {runtime}

/-- A text that a field takes as it is. -/
def Fits (runtime : SchemaRuntime) (maxLength : Nat) (text : String) : Prop :=
  stripped runtime text = text ∧ text.length ≤ maxLength

theorem stripped_stripped (text : String) :
    stripped runtime (stripped runtime text) = stripped runtime text := by
  simp only [stripped, String.toList_ofList, dropWhile_rdropWhile_dropWhile,
    List.rdropWhile_idempotent]

theorem fits_of_textField (accepted : textField runtime maxLength value = some text) :
    Fits runtime maxLength text := by
  simp only [textField, Option.ite_none_right_eq_some, Option.some.injEq] at accepted
  rcases accepted with ⟨short, rfl⟩
  exact ⟨stripped_stripped _, short⟩

theorem textField_of_fits (fits : Fits runtime maxLength text) :
    textField runtime maxLength (some text) = some text := by
  simp [textField, fits.1, fits.2]

theorem textField_again (accepted : textField runtime maxLength value = some text) :
    textField runtime maxLength (some text) = some text :=
  textField_of_fits (fits_of_textField accepted)

theorem textField_absent (runtime : SchemaRuntime) (maxLength : Nat) :
    textField runtime maxLength none = some "" := by
  simp [textField, stripped]

theorem requiredField_again (accepted : requiredField runtime maxLength value = some text) :
    requiredField runtime maxLength (some text) = some text := by
  rcases Option.bind_eq_some_iff.1 accepted with ⟨given, _, kept⟩
  rcases Option.filter_eq_some_iff.1 kept with ⟨taken, nonempty⟩
  rw [requiredField, Option.bind_some, textField_again taken, Option.filter_some]
  simp [nonempty]

theorem requiredField_ne_empty (accepted : requiredField runtime maxLength value = some text) :
    text ≠ "" := by
  rcases Option.bind_eq_some_iff.1 accepted with ⟨given, _, kept⟩
  exact of_decide_eq_true (Option.filter_eq_some_iff.1 kept).2

theorem integerField_again {least greatest : Int} {value : Option Int} {number : Int}
    (accepted : integerField least greatest value = some number) :
    integerField least greatest (some number) = some number := by
  rcases Option.filter_eq_some_iff.1 accepted with ⟨_, inRange⟩
  simp only [integerField, Option.filter_some, inRange, if_true]

theorem matchFields_again {entry : MatchFields (Option String)} {criteria : MatchFields String}
    (accepted : matchFields runtime entry = some criteria) :
    matchFields runtime (criteria.map some) = some criteria := by
  simp only [matchFields, Option.bind_eq_bind, Option.bind_eq_some_iff, Option.pure_def,
    Option.some.injEq] at accepted
  rcases accepted with ⟨_, source, _, importance, _, eventType, _, project, _, region, _,
    environment, _, payload, rfl⟩
  simp only [matchFields, MatchFields.map, textField_again source, textField_again importance,
    textField_again eventType, textField_again project, textField_again region,
    textField_again environment, textField_again payload, Option.bind_eq_bind, Option.bind_some,
    Option.pure_def]

theorem forwardRuleCreateRequest_again {entry : ForwardRuleEntry} {data : ForwardRuleData}
    (accepted : forwardRuleCreateRequest runtime entry = some data) (gateway : Option String)
    {stored : String} (taken : textField runtime 50 gateway = some stored) :
    forwardRuleCreateRequest runtime
        { name := some data.name
          enabled := some data.enabled
          priority := some data.priority
          criteria := data.criteria.map some
          matchDuplicate := some data.matchDuplicate
          targetType := some data.targetType
          targetUrl := some data.targetUrl
          targetName := some data.targetName
          targetGateway := gateway
          stopOnMatch := some data.stopOnMatch } =
      some { data with targetGateway := stored } := by
  simp only [forwardRuleCreateRequest, Option.bind_eq_bind, Option.bind_eq_some_iff,
    Option.pure_def, Option.some.injEq] at accepted
  rcases accepted with ⟨_, name, _, priority, _, criteria, _, _, _, url, _, targetName, _, _, rfl⟩
  simp only [forwardRuleCreateRequest, Option.getD_some, requiredField_again name,
    integerField_again priority, matchFields_again criteria, textField_again url,
    textField_again targetName, taken, Option.bind_eq_bind, Option.bind_some, Option.pure_def]

def SilenceData.toEntry (data : SilenceData) : SilenceEntry where
  criteria := data.criteria.map some
  comment := some data.comment
  createdBy := some data.createdBy

theorem silenceFields_again {entry : SilenceEntry} {data : SilenceData}
    (accepted : silenceFields runtime entry = some data) :
    silenceFields runtime (SilenceData.toEntry data) = some data := by
  simp only [silenceFields, Option.bind_eq_bind, Option.bind_eq_some_iff, Option.pure_def,
    Option.some.injEq] at accepted
  rcases accepted with ⟨_, criteria, _, comment, _, createdBy, rfl⟩
  simp only [silenceFields, SilenceData.toEntry, matchFields_again criteria,
    textField_again comment, textField_again createdBy, Option.bind_eq_bind, Option.bind_some,
    Option.pure_def]

theorem silenceCreateRequest_again {entry : SilenceEntry} {data : SilenceData}
    (accepted : silenceCreateRequest runtime entry = some data) :
    silenceCreateRequest runtime (SilenceData.toEntry data) = some data := by
  rcases Option.filter_eq_some_iff.1 accepted with ⟨fields, criterion⟩
  rw [silenceCreateRequest, silenceFields_again fields, Option.filter_some, if_pos criterion]

/-! ## Days of the week -/

theorem splitOnCommas_intercalate {parts : List String} (nonempty : parts ≠ [])
    (free : ∀ part ∈ parts, ',' ∉ part.toList) :
    splitOnCommas (String.intercalate "," parts) = parts := by
  induction parts with
  | nil => exact absurd rfl nonempty
  | cons part parts ih =>
      cases parts with
      | nil => rw [String.intercalate_singleton, splitOnCommas_of_notMem (free part (by simp))]
      | cons next rest =>
          rw [String.intercalate_cons_cons, splitOnCommas_append (free part (by simp)),
            ih (by simp) fun other member => free other (List.mem_cons_of_mem _ member)]

theorem weekday_printed {day : Int} (least : 1 ≤ day) (greatest : day ≤ 7) :
    ',' ∉ (toString day).toList ∧ strip (toString day) ≠ "" ∧ pyInt (toString day) = some day := by
  have cases : day = 1 ∨ day = 2 ∨ day = 3 ∨ day = 4 ∨ day = 5 ∨ day = 6 ∨ day = 7 := by omega
  rcases cases with rfl | rfl | rfl | rfl | rfl | rfl | rfl <;> decide

theorem mapM_pyInt_toString (reads : ∀ day ∈ days, pyInt (toString day) = some day) :
    (days.map toString).mapM pyInt = some days := by
  induction days with
  | nil => rfl
  | cons day days ih =>
      rw [List.map_cons, List.mapM_cons, reads day (by simp),
        ih fun other member => reads other (List.mem_cons_of_mem _ member)]
      rfl

theorem parsedDays_joinedDays (weekdays : isWeekdays days = true) :
    parsedDays (joinedDays days) = some (days.dedup.insertionSort (· ≤ ·)) := by
  simp only [isWeekdays, Bool.and_eq_true, decide_eq_true_eq, List.all_eq_true] at weekdays
  rcases weekdays with ⟨⟨nonempty, -⟩, inRange⟩
  have printed : ∀ day ∈ days.dedup.insertionSort (· ≤ ·),
      ',' ∉ (toString day).toList ∧ strip (toString day) ≠ "" ∧
        pyInt (toString day) = some day := by
    intro day member
    rw [List.mem_insertionSort, List.mem_dedup] at member
    exact weekday_printed (inRange day member).1 (inRange day member).2
  have some_day : days.dedup.insertionSort (· ≤ ·) ≠ [] := by
    rcases List.exists_mem_of_length_pos nonempty with ⟨day, member⟩
    refine @List.ne_nil_of_mem _ day _ ?_
    rwa [List.mem_insertionSort, List.mem_dedup]
  have visible : ((days.dedup.insertionSort (· ≤ ·)).map toString).filter
      (fun part => strip part ≠ "") = (days.dedup.insertionSort (· ≤ ·)).map toString := by
    rw [List.filter_eq_self]
    intro part member
    rcases List.mem_map.1 member with ⟨day, dayMember, rfl⟩
    exact decide_eq_true (printed day dayMember).2.1
  rw [parsedDays, joinedDays, splitOnCommas_intercalate, visible]
  · exact mapM_pyInt_toString fun day member => (printed day member).2.2
  · simpa using some_day
  · intro part member
    rcases List.mem_map.1 member with ⟨day, dayMember, rfl⟩
    exact (printed day dayMember).1

theorem joinedDays_sorted (days : List Int) :
    joinedDays (days.dedup.insertionSort (· ≤ ·)) = joinedDays days := by
  have distinct : (days.dedup.insertionSort (· ≤ ·)).Nodup :=
    (List.perm_insertionSort _ _).nodup_iff.2 (List.nodup_dedup days)
  rw [joinedDays, joinedDays, distinct.dedup,
    (List.pairwise_insertionSort (· ≤ ·) days.dedup).insertionSort_eq]

theorem isWeekdays_sorted (weekdays : isWeekdays days = true) :
    isWeekdays (days.dedup.insertionSort (· ≤ ·)) = true := by
  simp only [isWeekdays, Bool.and_eq_true, decide_eq_true_eq, List.all_eq_true,
    List.length_insertionSort, List.mem_insertionSort, List.mem_dedup] at weekdays ⊢
  rcases weekdays with ⟨⟨nonempty, short⟩, inRange⟩
  refine ⟨⟨?_, ?_⟩, inRange⟩
  · rcases List.exists_mem_of_length_pos nonempty with ⟨day, member⟩
    exact List.length_pos_of_mem (List.mem_dedup.2 member)
  · exact (List.dedup_sublist days).length_le.trans short

/-! ## Windows -/

theorem fits_defaultZone (runtime : SchemaRuntime) : Fits runtime 64 "Asia/Shanghai" := by
  have visible (character : Char) (notSpace : isPythonSpace character = false) :
      runtime.stripsCharacter character = false := by
    apply Bool.eq_false_of_not_eq_true
    intro strips
    simp [runtime.isPythonSpace_of_strips character strips] at notSpace
  have first := visible 'A' (by decide)
  have last := visible 'i' (by decide)
  refine ⟨?_, by decide⟩
  simp [stripped, List.rdropWhile, first, last]

theorem timezoneField_again {zone : String} (accepted : timezoneField runtime value = some zone) :
    timezoneField runtime (some zone) = some zone := by
  cases value with
  | none =>
      have fits := fits_defaultZone runtime
      simp only [timezoneField, Option.some.injEq] at accepted
      subst accepted
      rw [timezoneField, textField_of_fits fits]
  | some given =>
      rw [timezoneField] at accepted ⊢
      exact textField_again accepted

theorem windowCreateRequest_again {entry : WindowEntry} {data : WindowData}
    (accepted : windowCreateRequest runtime entry = some data) :
    ∃ days, parsedDays data.daysOfWeek = some days ∧
      windowCreateRequest runtime
          { silence := SilenceData.toEntry data.silence
            name := some data.name
            enabled := some data.enabled
            daysOfWeek := some days
            startMinute := some data.startMinute
            durationMinutes := some data.durationMinutes
            timezone := some data.timezone } =
        some data := by
  simp only [windowCreateRequest, Option.bind_eq_bind, Option.bind_eq_some_iff, Option.pure_def,
    Option.ite_none_right_eq_some, Option.some.injEq] at accepted
  rcases accepted with ⟨silence, silenceTaken, name, nameTaken, days, daysTaken, start,
    startTaken, duration, durationTaken, zone, zoneTaken, checked, rfl⟩
  have weekdays := (Option.filter_eq_some_iff.1 daysTaken).2
  refine ⟨_, parsedDays_joinedDays weekdays, ?_⟩
  simp only [windowCreateRequest, silenceFields_again silenceTaken, requiredField_again nameTaken,
    Option.filter_some, isWeekdays_sorted weekdays, integerField_again startTaken,
    integerField_again durationTaken, timezoneField_again zoneTaken, checked, joinedDays_sorted,
    Option.getD_some, Option.bind_eq_bind, Option.bind_some, Option.pure_def, if_true]

end ConfigSchemas

end WebhookWise
