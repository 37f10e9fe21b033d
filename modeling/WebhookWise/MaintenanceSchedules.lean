import Mathlib.Tactic.Linarith
import Mathlib.Tactic.Ring
import WebhookWise.ConfigSchemas

/-!
# Schedules of maintenance windows

A schedule names weekdays, a start on the clocks of a time zone, and a duration of up to seven
days.  `active_occurrence` looks for the occurrence that covers an instant among those of the local
date and the date before, so it loses one that passes a second midnight.
-/

namespace WebhookWise

/-- A time zone: the date on its clocks, and when they show a wall-clock time. -/
structure TimeZone where
  localDate : DateTime → Int
  toUtc : DateTime → DateTime

/-- What the sweep takes from outside. -/
structure MaintenanceEnvironment where
  /-- `hashlib.sha1(text.encode("utf-8")).hexdigest()`. -/
  sha1Hexdigest : String → String
  /-- `ZoneInfo(name)`; `none` where it raises. -/
  zoneInfo : String → Option TimeZone
  utcZone : TimeZone
  /-- `report_timezone_name()`. -/
  reportTimezoneName : String

structure WindowSchedule where
  daysOfWeek : String
  startMinute : Int
  durationMinutes : Int
  timezone : String
deriving DecidableEq

def WindowData.schedule (data : WindowData) : WindowSchedule where
  daysOfWeek := data.daysOfWeek
  startMinute := data.startMinute
  durationMinutes := data.durationMinutes
  timezone := data.timezone

structure WindowOccurrence where
  occurrenceDate : Int
  startsAt : DateTime
  endsAt : DateTime
deriving DecidableEq

namespace MaintenanceSchedules

variable (env : MaintenanceEnvironment)

def scheduleDigest (schedule : WindowSchedule) : String :=
  let raw := schedule.daysOfWeek ++ "|" ++ toString schedule.startMinute ++ "|" ++
    toString schedule.durationMinutes ++ "|" ++ schedule.timezone
  String.ofList ((env.sha1Hexdigest raw).toList.take 12)

/-- `parse_days_of_week`; `none` for `ValueError`. -/
def parseDaysOfWeek (raw : String) : Option (List Int) :=
  let parts := ((splitOnCommas raw).map strip).filter (· ≠ "")
  let days := parts.mapM fun part => (pyInt part).filter fun value => 1 ≤ value && value ≤ 7
  days.filter (· ≠ [])

def resolveTimezone (name : String) : TimeZone :=
  if name = "" then env.utcZone else (env.zoneInfo name).getD env.utcZone

def windowTz (schedule : WindowSchedule) : TimeZone :=
  let name := strip schedule.timezone
  resolveTimezone env (if name = "" then env.reportTimezoneName else name)

def occurrenceOn (schedule : WindowSchedule) (date : Int) : WindowOccurrence :=
  let localStart := ((0 : DateTime).addMinutes (date * 1440)).addMinutes schedule.startMinute
  let startsAt := (windowTz env schedule).toUtc localStart
  ⟨date, startsAt, startsAt.addMinutes schedule.durationMinutes⟩

/-- `active_occurrence`; the outer `none` for `ValueError`. -/
def activeOccurrence (schedule : WindowSchedule) (now : DateTime) :
    Option (Option WindowOccurrence) := do
  let days ← parseDaysOfWeek schedule.daysOfWeek
  let localToday := (windowTz env schedule).localDate now
  return [localToday, localToday - 1].findSome? fun candidate =>
    if DateTime.isoweekday candidate ∉ days then none
    else
      let occurrence := occurrenceOn env schedule candidate
      if occurrence.startsAt ≤ now ∧ now < occurrence.endsAt then some occurrence else none

/-! ## Which occurrences are active -/

/-- The occurrence on a date covers an instant. -/
def IsActive (schedule : WindowSchedule) (now : DateTime) (date : Int) : Prop :=
  ∃ days, parseDaysOfWeek schedule.daysOfWeek = some days ∧ DateTime.isoweekday date ∈ days ∧
    (occurrenceOn env schedule date).startsAt ≤ now ∧
    now < (occurrenceOn env schedule date).endsAt

/-- An active date at which the search for the active occurrence stops. -/
def IsReached (schedule : WindowSchedule) (now : DateTime) (date : Int) : Prop :=
  let localToday := (windowTz env schedule).localDate now
  date = localToday ∨ date = localToday - 1 ∧ ¬ IsActive env schedule now localToday

variable {env} {schedule : WindowSchedule} {now : DateTime}

private def candidateOccurrence (env : MaintenanceEnvironment) (schedule : WindowSchedule)
    (now : DateTime) (days : List Int) (candidate : Int) : Option WindowOccurrence :=
  if DateTime.isoweekday candidate ∉ days then none
  else
    let occurrence := occurrenceOn env schedule candidate
    if occurrence.startsAt ≤ now ∧ now < occurrence.endsAt then some occurrence else none

private theorem candidateOccurrence_of_isActive {days : List Int} {date : Int}
    (parsed : parseDaysOfWeek schedule.daysOfWeek = some days)
    (active : IsActive env schedule now date) :
    candidateOccurrence env schedule now days date = some (occurrenceOn env schedule date) := by
  rcases active with ⟨otherDays, otherParsed, onDay, started, unended⟩
  obtain rfl : days = otherDays := Option.some.inj (parsed.symm.trans otherParsed)
  simp only [candidateOccurrence, not_not.2 onDay, if_false, started, unended, and_self, if_true]

private theorem candidateOccurrence_of_not_isActive {days : List Int} {date : Int}
    (parsed : parseDaysOfWeek schedule.daysOfWeek = some days)
    (inactive : ¬ IsActive env schedule now date) :
    candidateOccurrence env schedule now days date = none := by
  unfold candidateOccurrence
  by_cases onDay : DateTime.isoweekday date ∈ days
  · rw [if_neg (not_not.2 onDay)]
    apply if_neg
    rintro ⟨started, unended⟩
    exact inactive ⟨days, parsed, onDay, started, unended⟩
  · rw [if_pos onDay]

/-- `active_occurrence` finds the occurrence of the local date, or else that of the date
before. -/
theorem activeOccurrence_eq_some_iff {occurrence : WindowOccurrence} :
    activeOccurrence env schedule now = some (some occurrence) ↔
      ∃ date, occurrence = occurrenceOn env schedule date ∧ IsActive env schedule now date ∧
        IsReached env schedule now date := by
  unfold IsReached
  cases parsed : parseDaysOfWeek schedule.daysOfWeek with
  | none =>
      have inactive : ∀ date, ¬ IsActive env schedule now date := by
        rintro date ⟨days, otherParsed, _⟩
        rw [parsed] at otherParsed
        cases otherParsed
      simp [activeOccurrence, parsed, inactive]
  | some days =>
      have decides : activeOccurrence env schedule now =
          some ([(windowTz env schedule).localDate now,
            (windowTz env schedule).localDate now - 1].findSome?
              (candidateOccurrence env schedule now days)) := by
        rw [activeOccurrence, parsed]
        rfl
      rw [decides, Option.some.injEq]
      generalize (windowTz env schedule).localDate now = today
      have found {date : Int} (active : IsActive env schedule now date) :=
        candidateOccurrence_of_isActive parsed active
      have missed {date : Int} (inactive : ¬ IsActive env schedule now date) :=
        candidateOccurrence_of_not_isActive parsed inactive
      by_cases activeToday : IsActive env schedule now today
      · simp only [List.findSome?_cons, found activeToday, Option.some.injEq]
        constructor
        · intro same
          exact ⟨today, same.symm, activeToday, Or.inl rfl⟩
        · rintro ⟨date, same, _, isToday | ⟨_, inactive⟩⟩
          · rw [same, isToday]
          · exact absurd activeToday inactive
      by_cases activeYesterday : IsActive env schedule now (today - 1)
      · simp only [List.findSome?_cons, missed activeToday, found activeYesterday,
          Option.some.injEq]
        constructor
        · intro same
          exact ⟨today - 1, same.symm, activeYesterday, Or.inr ⟨rfl, activeToday⟩⟩
        · rintro ⟨date, same, active, isToday | ⟨isYesterday, _⟩⟩
          · rw [isToday] at active
            exact absurd active activeToday
          · rw [same, isYesterday]
      simp only [List.findSome?_cons, List.findSome?_nil, missed activeToday,
        missed activeYesterday, reduceCtorEq, false_iff]
      rintro ⟨date, _, active, isToday | ⟨isYesterday, _⟩⟩
      · rw [isToday] at active
        exact activeToday active
      · rw [isYesterday] at active
        exact activeYesterday active

/-! ## Zones with a fixed offset -/

def fixedZone (offset : Int) : TimeZone where
  localDate instant := (instant + offset) / (1440 * 60 * DateTime.microsecondsPerSecond)
  toUtc wallClock := wallClock - offset

private theorem reached_arithmetic {clock date start duration : Int} (startNonneg : 0 ≤ start)
    (startInDay : start < 1440) (withinDay : duration ≤ 1440)
    (started : date * 86400000000 + start * 60000000 ≤ clock)
    (unended : clock < date * 86400000000 + start * 60000000 + duration * 60000000) :
    date = clock / 86400000000 ∨ date = clock / 86400000000 - 1 ∧
      ¬ clock / 86400000000 * 86400000000 + start * 60000000 ≤ clock := by
  omega

private theorem startsAt_fixedZone {offset : Int}
    (fixed : windowTz env schedule = fixedZone offset) (date : Int) :
    (occurrenceOn env schedule date).startsAt =
      date * 86400000000 + schedule.startMinute * 60000000 - offset := by
  simp only [occurrenceOn, fixed, fixedZone, DateTime.addMinutes, DateTime.addSeconds,
    DateTime.microsecondsPerSecond]
  ring

theorem isReached_of_fixedZone {offset : Int}
    (fixed : windowTz env schedule = fixedZone offset) (startNonneg : 0 ≤ schedule.startMinute)
    (startInDay : schedule.startMinute < 1440) (withinDay : schedule.durationMinutes ≤ 1440)
    {date : Int} (active : IsActive env schedule now date) :
    IsReached env schedule now date := by
  rcases active with ⟨days, parsed, onDay, started, unended⟩
  have ends (date : Int) : (occurrenceOn env schedule date).endsAt =
      (occurrenceOn env schedule date).startsAt + schedule.durationMinutes * 60000000 := by
    simp only [occurrenceOn, DateTime.addMinutes, DateTime.addSeconds,
      DateTime.microsecondsPerSecond]
    ring
  have today : (windowTz env schedule).localDate now = (now + offset) / 86400000000 := by
    rw [fixed]
    rfl
  rw [ends, startsAt_fixedZone fixed] at unended
  rw [startsAt_fixedZone fixed] at started
  have reached := @reached_arithmetic (now + offset) date _ _ startNonneg startInDay withinDay
    (by linarith only [started]) (by linarith only [unended])
  unfold IsReached
  rw [today]
  rcases reached with isToday | ⟨isYesterday, notStarted⟩
  · exact Or.inl isToday
  · right
    refine ⟨isYesterday, ?_⟩
    rintro ⟨_, _, _, startedToday, _⟩
    rw [startsAt_fixedZone fixed] at startedToday
    exact notStarted (by linarith only [startedToday])

end MaintenanceSchedules

end WebhookWise
