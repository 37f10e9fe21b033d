import WebhookWise.MaintenanceSchedules

/-!
# Which occurrence covers a moment

The request schema admits windows of up to seven days, and `active_occurrence` asks today's start
and yesterday's.  Where the clocks keep their offset, an occurrence that began earlier is found
only if a later one covers the moment too.
-/

namespace WebhookWise

open ConfigSchemas MaintenanceSchedules

namespace MaintenanceOccurrences

/-! ## What a schedule says -/

/-- The start of a schedule on a local date, in a zone that is `offset` ahead of UTC. -/
def startOn (offset : Int) (data : WindowData) (date : Int) : DateTime :=
  ((0 : DateTime).addMinutes (date * 1440)).addMinutes data.startMinute - offset

/-- The schedule starts on a local date and covers a moment. -/
structure Covers (offset : Int) (days : List Int) (data : WindowData) (now : DateTime)
    (date : Int) : Prop where
  scheduled : DateTime.isoweekday date ∈ days
  started : startOn offset data date ≤ now
  unended : now < (startOn offset data date).addMinutes data.durationMinutes

/-- There is an occurrence just when the schedule covers the moment, and it is one that does. -/
def Exact (env : MaintenanceEnvironment) (offset : Int) (days : List Int) (data : WindowData)
    (now : DateTime) : Prop :=
  ∃ found, activeOccurrence env data.schedule now = some found ∧
    (found.isSome = true ↔ ∃ date, Covers offset days data now date) ∧
      ∀ occurrence ∈ found, ∃ date, Covers offset days data now date ∧
        occurrence = ⟨date, startOn offset data date,
          (startOn offset data date).addMinutes data.durationMinutes⟩

def today (offset : Int) (now : DateTime) : Int :=
  (fixedZone offset).localDate now

/-- What began before yesterday is over by now, unless yesterday is one of the weekdays, or today
is one and its start has passed. -/
def Recent (offset : Int) (days : List Int) (data : WindowData) (now : DateTime) : Prop :=
  ∀ date, Covers offset days data now date → date < today offset now - 1 →
    DateTime.isoweekday (today offset now - 1) ∈ days ∨
      DateTime.isoweekday (today offset now) ∈ days ∧ startOn offset data (today offset now) ≤ now

/-! ## Weekdays -/

/-- The stored weekdays are those of the request. -/
theorem parseDaysOfWeek_joinedDays {days : List Int} (weekdays : isWeekdays days = true) :
    parseDaysOfWeek (joinedDays days) = some (days.dedup.insertionSort (· ≤ ·)) := by
  have checked := weekdays
  simp only [isWeekdays, Bool.and_eq_true, decide_eq_true_eq, List.all_eq_true] at checked
  rcases checked with ⟨⟨nonempty, -⟩, inRange⟩
  have sortedRange : ∀ day ∈ days.dedup.insertionSort (· ≤ ·), 1 ≤ day ∧ day ≤ 7 := by
    intro day member
    rw [List.mem_insertionSort, List.mem_dedup] at member
    exact inRange day member
  have some_day : days.dedup.insertionSort (· ≤ ·) ≠ [] := by
    rcases List.exists_mem_of_length_pos nonempty with ⟨day, member⟩
    refine @List.ne_nil_of_mem _ day _ ?_
    rwa [List.mem_insertionSort, List.mem_dedup]
  unfold joinedDays
  generalize days.dedup.insertionSort (· ≤ ·) = sorted at sortedRange some_day ⊢
  have split_ : splitOnCommas (String.intercalate "," (sorted.map toString)) =
      sorted.map toString := by
    refine splitOnCommas_intercalate (by simpa using some_day) fun part member => ?_
    obtain ⟨day, dayMember, rfl⟩ := List.mem_map.1 member
    exact (weekday_printed (sortedRange day dayMember).1 (sortedRange day dayMember).2).1
  have printed {day : Int} (least : 1 ≤ day) (greatest : day ≤ 7) :
      strip (toString day) = toString day ∧ toString day ≠ "" := by
    obtain rfl | rfl | rfl | rfl | rfl | rfl | rfl : day = 1 ∨ day = 2 ∨ day = 3 ∨ day = 4 ∨
        day = 5 ∨ day = 6 ∨ day = 7 := by omega
    all_goals decide
  have parts : ((sorted.map toString).map strip).filter (· ≠ "") = sorted.map toString := by
    have stripped : (sorted.map toString).map strip = sorted.map toString := by
      rw [List.map_map]
      exact List.map_congr_left fun day member =>
        (printed (sortedRange day member).1 (sortedRange day member).2).1
    rw [stripped]
    refine List.filter_eq_self.2 fun part member => ?_
    obtain ⟨day, dayMember, rfl⟩ := List.mem_map.1 member
    exact decide_eq_true
      (printed (sortedRange day dayMember).1 (sortedRange day dayMember).2).2
  have reads : (sorted.map toString).mapM (fun part =>
      (pyInt part).filter fun value => 1 ≤ value && value ≤ 7) = some sorted := by
    clear parts split_ some_day
    induction sorted with
    | nil => rfl
    | cons day sorted ih =>
        obtain ⟨least, greatest⟩ := sortedRange day List.mem_cons_self
        rw [List.map_cons, List.mapM_cons, (weekday_printed least greatest).2.2,
          ih fun other member => sortedRange other (List.mem_cons_of_mem _ member),
          Option.filter_some, if_pos (by simp [least, greatest])]
        rfl
  unfold parseDaysOfWeek
  simp only [split_, parts, reads, Option.filter_some]
  exact if_pos (by simpa using some_day)

/-! ## Starts and ends -/

section Days

variable {env : MaintenanceEnvironment} {offset : Int} {days : List Int} {data : WindowData}
  {now : DateTime} {date : Int}

theorem startOn_eq (offset : Int) (data : WindowData) (date : Int) :
    startOn offset data date = date * 86400000000 + data.startMinute * 60000000 - offset := by
  have scaled (date minute offset : Int) : 0 + date * 1440 * 60 * 1000000 + minute * 60 * 1000000 -
      offset = date * 86400000000 + minute * 60000000 - offset := by
    omega
  exact scaled date data.startMinute offset

theorem addMinutes_eq (instant : DateTime) (minutes : Int) :
    instant.addMinutes minutes = instant + minutes * 60000000 := by
  have scaled (instant minutes : Int) :
      instant + minutes * 60 * 1000000 = instant + minutes * 60000000 := by
    omega
  exact scaled instant minutes

theorem today_bounds (offset : Int) (now : DateTime) :
    today offset now * 86400000000 ≤ now + offset ∧
      now + offset < today offset now * 86400000000 + 86400000000 := by
  have floor (clock : Int) : clock / (1440 * 60 * 1000000) * 86400000000 ≤ clock ∧
      clock < clock / (1440 * 60 * 1000000) * 86400000000 + 86400000000 := by
    omega
  exact floor (now + offset)

theorem Covers.le_today (startNonneg : 0 ≤ data.startMinute)
    (covers : Covers offset days data now date) : date ≤ today offset now := by
  have started := covers.started
  rw [startOn_eq] at started
  have order (date minute offset instant current : Int) (nonneg : 0 ≤ minute)
      (before : date * 86400000000 + minute * 60000000 - offset ≤ instant)
      (within : instant + offset < current * 86400000000 + 86400000000) : date ≤ current := by
    omega
  exact order date _ _ now _ startNonneg started (today_bounds offset now).2

theorem startOn_yesterday_le (startInDay : data.startMinute ≤ 1439) :
    startOn offset data (today offset now - 1) ≤ now := by
  rw [startOn_eq]
  have order (minute offset instant current : Int) (short : minute ≤ 1439)
      (within : current * 86400000000 ≤ instant + offset) :
      (current - 1) * 86400000000 + minute * 60000000 - offset ≤ instant := by
    omega
  exact order _ offset now _ startInDay (today_bounds offset now).1

theorem endOf_le_endOf {later : Int} (le : date ≤ later) :
    (startOn offset data date).addMinutes data.durationMinutes ≤
      (startOn offset data later).addMinutes data.durationMinutes := by
  rw [addMinutes_eq, addMinutes_eq, startOn_eq, startOn_eq]
  have order (date later minute offset duration : Int) (le : date ≤ later) :
      date * 86400000000 + minute * 60000000 - offset + duration * 60000000 ≤
        later * 86400000000 + minute * 60000000 - offset + duration * 60000000 := by
    omega
  exact order date later _ _ _ le

theorem occurrenceOn_eq (fixed : windowTz env data.schedule = fixedZone offset) (date : Int) :
    occurrenceOn env data.schedule date = ⟨date, startOn offset data date,
      (startOn offset data date).addMinutes data.durationMinutes⟩ := by
  unfold occurrenceOn
  rw [fixed]
  rfl

theorem isActive_iff_covers (fixed : windowTz env data.schedule = fixedZone offset)
    (weekdays : isWeekdays days = true) (stored : data.daysOfWeek = joinedDays days) :
    IsActive env data.schedule now date ↔ Covers offset days data now date := by
  have parsed : parseDaysOfWeek data.schedule.daysOfWeek =
      some (days.dedup.insertionSort (· ≤ ·)) := by
    rw [← parseDaysOfWeek_joinedDays weekdays, ← stored]
    rfl
  have sameDays (day : Int) : day ∈ days.dedup.insertionSort (· ≤ ·) ↔ day ∈ days := by
    rw [List.mem_insertionSort, List.mem_dedup]
  unfold IsActive
  rw [occurrenceOn_eq fixed]
  constructor
  · rintro ⟨others, othersParsed, onDay, started, unended⟩
    obtain rfl := Option.some.inj (parsed.symm.trans othersParsed)
    exact ⟨(sameDays _).1 onDay, started, unended⟩
  · intro covers
    exact ⟨_, parsed, (sameDays _).2 covers.scheduled, covers.started, covers.unended⟩

end Days

/-! ## The candidates -/

theorem schedule_of_windowCreateRequest {runtime : SchemaRuntime} {entry : WindowEntry}
    {data : WindowData} (accepted : windowCreateRequest runtime entry = some data) :
    isWeekdays (entry.daysOfWeek.getD []) = true ∧
      data.daysOfWeek = joinedDays (entry.daysOfWeek.getD []) ∧
        0 ≤ data.startMinute ∧ data.startMinute ≤ 1439 := by
  simp only [windowCreateRequest, Option.bind_eq_bind, Option.bind_eq_some_iff, Option.pure_def,
    Option.ite_none_right_eq_some, Option.some.injEq, Option.filter_eq_some_iff, integerField,
    Bool.and_eq_true, decide_eq_true_eq] at accepted
  obtain ⟨silence, -, name, -, days, ⟨isDays, weekdays⟩, start, ⟨-, startNonneg, startInDay⟩,
    duration, -, zone, -, -, rfl⟩ := accepted
  rw [isDays]
  exact ⟨weekdays, rfl, startNonneg, startInDay⟩

/-- The occurrence is exact just when nothing that began before yesterday is hidden. -/
theorem active_occurrence_exact_iff (runtime : SchemaRuntime) (env : MaintenanceEnvironment)
    (entry : WindowEntry) (data : WindowData) (offset : Int) (now : DateTime)
    (accepted : windowCreateRequest runtime entry = some data)
    (fixed : windowTz env data.schedule = fixedZone offset) :
    Exact env offset (entry.daysOfWeek.getD []) data now ↔
      Recent offset (entry.daysOfWeek.getD []) data now := by
  obtain ⟨weekdays, stored, startNonneg, startInDay⟩ := schedule_of_windowCreateRequest accepted
  generalize entry.daysOfWeek.getD [] = days at weekdays stored ⊢
  have active (date : Int) : IsActive env data.schedule now date ↔ Covers offset days data now date :=
    isActive_iff_covers fixed weekdays stored
  have reached {date : Int} (isReached : IsReached env data.schedule now date) :
      date = today offset now ∨ date = today offset now - 1 := by
    unfold IsReached at isReached
    rw [fixed] at isReached
    exact isReached.imp_right And.left
  obtain ⟨found, isFound⟩ : ∃ found, activeOccurrence env data.schedule now = some found := by
    have parsed : parseDaysOfWeek data.schedule.daysOfWeek =
        some (days.dedup.insertionSort (· ≤ ·)) := by
      rw [← parseDaysOfWeek_joinedDays weekdays, ← stored]
      rfl
    unfold activeOccurrence
    rw [parsed]
    exact ⟨_, rfl⟩
  have occurrences (occurrence : WindowOccurrence) (isOccurrence : found = some occurrence) :
      ∃ date, (date = today offset now ∨ date = today offset now - 1) ∧
        Covers offset days data now date ∧ occurrence = ⟨date, startOn offset data date,
          (startOn offset data date).addMinutes data.durationMinutes⟩ := by
    rw [isOccurrence] at isFound
    obtain ⟨date, same, isActive, isReached⟩ := activeOccurrence_eq_some_iff.1 isFound
    exact ⟨date, reached isReached, (active date).1 isActive, same.trans (occurrenceOn_eq fixed date)⟩
  constructor
  · rintro ⟨other, otherFound, covered, _⟩ early covers before
    obtain rfl : other = found := Option.some.inj (otherFound.symm.trans isFound)
    obtain ⟨occurrence, isOccurrence⟩ := Option.isSome_iff_exists.1 (covered.2 ⟨early, covers⟩)
    obtain ⟨date, rfl | rfl, dateCovers, _⟩ := occurrences occurrence isOccurrence
    · exact Or.inr ⟨dateCovers.scheduled, dateCovers.started⟩
    · exact Or.inl dateCovers.scheduled
  · intro recent
    refine ⟨found, isFound, ⟨?_, ?_⟩, ?_⟩
    · intro isSome
      obtain ⟨occurrence, isOccurrence⟩ := Option.isSome_iff_exists.1 isSome
      obtain ⟨date, _, covers, _⟩ := occurrences occurrence isOccurrence
      exact ⟨date, covers⟩
    · rintro ⟨date, covers⟩
      -- Of the candidates the search stops at the first that covers the moment.
      suffices candidate : Covers offset days data now (today offset now) ∨
          Covers offset days data now (today offset now - 1) by
        have stops : ∃ stop, IsActive env data.schedule now stop ∧
            IsReached env data.schedule now stop := by
          unfold IsReached
          rw [fixed]
          by_cases activeToday : IsActive env data.schedule now (today offset now)
          · exact ⟨_, activeToday, Or.inl rfl⟩
          · have yesterday := candidate.resolve_left fun covers => activeToday ((active _).2 covers)
            exact ⟨_, (active _).2 yesterday, Or.inr ⟨rfl, activeToday⟩⟩
        obtain ⟨stop, isActive, isReached⟩ := stops
        have hits := activeOccurrence_eq_some_iff.2 ⟨stop, rfl, isActive, isReached⟩
        rw [isFound] at hits
        rw [Option.some.inj hits]
        rfl
      have upTo := covers.le_today startNonneg
      by_cases isToday : date = today offset now
      · exact Or.inl (isToday ▸ covers)
      by_cases isYesterday : date = today offset now - 1
      · exact Or.inr (isYesterday ▸ covers)
      have isEarly : date < today offset now - 1 := by omega
      rcases recent date covers isEarly with scheduled | ⟨scheduled, started⟩
      · exact Or.inr ⟨scheduled, startOn_yesterday_le startInDay,
          covers.unended.trans_le (endOf_le_endOf isEarly.le)⟩
      · exact Or.inl ⟨scheduled, started, covers.unended.trans_le (endOf_le_endOf upTo)⟩
    · intro occurrence isOccurrence
      obtain ⟨date, _, covers, same⟩ := occurrences occurrence isOccurrence
      exact ⟨date, covers, same⟩

/-! ## A weekend -/

theorem strips_nothing (character : Char) (strips : false = true) :
    isPythonSpace character = true :=
  absurd strips Bool.false_ne_true

def plainSchemas : SchemaRuntime where
  stripsCharacter _ := false
  isPythonSpace_of_strips := strips_nothing
  knowsZone name := name = "UTC"

def utcEnvironment : MaintenanceEnvironment where
  sha1Hexdigest text := text
  zoneInfo name := if name = "UTC" then some (fixedZone 0) else none
  utcZone := fixedZone 0
  reportTimezoneName := "UTC"

def weekendRequest : WindowEntry where
  silence := { criteria := { MatchFields.absent with matchSource := some "zabbix" } }
  name := some "weekend"
  daysOfWeek := some [5]
  startMinute := some 1200
  durationMinutes := some 4320
  timezone := some "UTC"

def weekend : WindowData where
  silence := ⟨⟨"zabbix", "", "", "", "", "", ""⟩, "", ""⟩
  name := "weekend"
  enabled := true
  daysOfWeek := "5"
  startMinute := 1200
  durationMinutes := 4320
  timezone := "UTC"

def saturdayNoon : DateTime :=
  DateTime.addMinutes 0 (2 * 1440 + 720)

/-- On the Saturday the occurrence of the day before is found. -/
theorem weekend_exact : Exact utcEnvironment 0 [5] weekend saturdayNoon := by
  refine (active_occurrence_exact_iff plainSchemas utcEnvironment weekendRequest weekend 0
    saturdayNoon (by decide) rfl).2 ?_
  intro date covers before
  have isFriday : (date + 3) % 7 + 1 = 5 := List.mem_singleton.1 covers.scheduled
  have isEarly : date < 1 := before
  have early : date ≤ -6 := by omega
  exact absurd (covers.unended.trans_le (endOf_le_endOf early)) (by decide)

/-- On the Sunday it is not. -/
theorem weekend_inexact :
    windowCreateRequest plainSchemas weekendRequest = some weekend ∧
      windowTz utcEnvironment weekend.schedule = fixedZone 0 ∧
        ¬ Exact utcEnvironment 0 [5] weekend (saturdayNoon.addMinutes 1440) := by
  refine ⟨by decide, rfl, ?_⟩
  rintro ⟨found, active, covered, _⟩
  have isSome : found.isSome = true :=
    covered.2 ⟨1, by decide, by decide, by decide⟩
  have missed : activeOccurrence utcEnvironment weekend.schedule (saturdayNoon.addMinutes 1440) =
      some none := by
    decide
  rw [active] at missed
  rw [Option.some.inj missed] at isSome
  cases isSome

end MaintenanceOccurrences

end WebhookWise
