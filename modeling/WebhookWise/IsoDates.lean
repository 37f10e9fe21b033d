import WebhookWise.PythonValues

/-!
# Printed instants tell instants apart

`isoformat` is read where the service makes a key out of an instant.  From the
first day of year 1 on, the first day a `datetime` can hold, no two instants
print the same text: the civil date of a day determines the day, and every
field is printed with all its digits.
-/

namespace WebhookWise

namespace DateTime

/-! ## Civil dates -/

def daysFromCivil : Int × Int × Int → Int
  | (year, month, day) =>
      let marchYear := if month ≤ 2 then year - 1 else year
      let marchMonth := if month ≤ 2 then month + 9 else month - 3
      let yearOfEra := marchYear % 400
      let dayOfYear := (153 * marchMonth + 2) / 5 + day - 1
      marchYear / 400 * 146097 + yearOfEra * 365 + yearOfEra / 4 - yearOfEra / 100 + dayOfYear -
        719468

private theorem dayOfEra_bounds {dayOfEra yearOfEra dayOfYear : Int} (nonneg : 0 ≤ dayOfEra)
    (inEra : dayOfEra < 146097)
    (isYear : yearOfEra =
      (dayOfEra - dayOfEra / 1460 + dayOfEra / 36524 - dayOfEra / 146096) / 365)
    (isDay : dayOfYear = dayOfEra - (365 * yearOfEra + yearOfEra / 4 - yearOfEra / 100)) :
    0 ≤ yearOfEra ∧ yearOfEra < 400 ∧ 0 ≤ dayOfYear ∧ dayOfYear < 366 := by
  -- The centuries of an era have 36524 days, but for the last one, which has a day more.
  have centuries : dayOfEra / 36524 = 0 ∨ dayOfEra / 36524 = 1 ∨ dayOfEra / 36524 = 2 ∨
      dayOfEra / 36524 = 3 ∨ dayOfEra / 36524 = 4 := by omega
  have lastDay : dayOfEra / 146096 = 0 ∨ dayOfEra / 146096 = 1 := by omega
  have yearNonneg : 0 ≤ yearOfEra := by omega
  have yearLt : yearOfEra < 400 := by
    rcases lastDay with early | last
    · omega
    · omega
  have sameCentury : dayOfEra / 36524 = yearOfEra / 100 ∨ dayOfEra / 36524 = 4 := by
    rcases centuries with century | century | century | century | century
    all_goals omega
  refine ⟨yearNonneg, yearLt, ?_, ?_⟩
  · rcases centuries with century | century | century | century | century
    all_goals rcases lastDay with early | last
    all_goals omega
  · rcases centuries with century | century | century | century | century
    all_goals rcases lastDay with early | last
    all_goals omega

theorem daysFromCivil_civilFromDays (days : Int) : daysFromCivil (civilFromDays days) = days := by
  unfold civilFromDays daysFromCivil
  dsimp only
  generalize eraEq : (days + 719468) / 146097 = era
  generalize dayOfEraEq : (days + 719468) % 146097 = dayOfEra
  generalize yearEq : (dayOfEra - dayOfEra / 1460 + dayOfEra / 36524 - dayOfEra / 146096) / 365 =
    yearOfEra
  generalize dayEq : dayOfEra - (365 * yearOfEra + yearOfEra / 4 - yearOfEra / 100) = dayOfYear
  generalize monthEq : (5 * dayOfYear + 2) / 153 = marchMonth
  obtain ⟨yearNonneg, yearLt, dayNonneg, dayLt⟩ :=
    dayOfEra_bounds (by omega) (by omega) yearEq.symm dayEq.symm
  have monthBounds : 0 ≤ marchMonth ∧ marchMonth ≤ 11 := by omega
  have readYear (year : Int) (isYear : year = yearOfEra + era * 400) :
      year / 400 = era ∧ year % 400 = yearOfEra := by omega
  by_cases early : marchMonth < 10
  · have march : ¬ marchMonth + 3 ≤ 2 := by omega
    simp only [early, if_true, march, if_false]
    obtain ⟨century, year⟩ := readYear (yearOfEra + era * 400 + 0) (by omega)
    rw [century, year, Int.add_sub_cancel]
    omega
  · have january : marchMonth - 9 ≤ 2 := by omega
    simp only [early, if_false, january, if_true]
    obtain ⟨century, year⟩ := readYear (yearOfEra + era * 400 + 1 - 1) (by omega)
    rw [century, year, Int.sub_add_cancel]
    omega

private theorem civilFromDays_nonneg {days : Int} (inRange : -719162 ≤ days) :
    0 ≤ (civilFromDays days).1 ∧ 0 ≤ (civilFromDays days).2.1 ∧ 0 ≤ (civilFromDays days).2.2 := by
  unfold civilFromDays
  dsimp only
  generalize eraEq : (days + 719468) / 146097 = era
  generalize dayOfEraEq : (days + 719468) % 146097 = dayOfEra
  generalize yearEq : (dayOfEra - dayOfEra / 1460 + dayOfEra / 36524 - dayOfEra / 146096) / 365 =
    yearOfEra
  generalize dayEq : dayOfEra - (365 * yearOfEra + yearOfEra / 4 - yearOfEra / 100) = dayOfYear
  obtain ⟨yearNonneg, yearLt, dayNonneg, dayLt⟩ :=
    dayOfEra_bounds (by omega) (by omega) yearEq.symm dayEq.symm
  have eraNonneg : 0 ≤ era := by omega
  refine ⟨?_, ?_, ?_⟩
  · clear dayEq yearEq
    split
    all_goals omega
  · clear dayEq yearEq
    split
    all_goals omega
  · clear dayEq yearEq
    omega

theorem civilFromDays_toNat_inj {first second : Int} (firstInRange : -719162 ≤ first)
    (secondInRange : -719162 ≤ second)
    (sameYear : (civilFromDays first).1.toNat = (civilFromDays second).1.toNat)
    (sameMonth : (civilFromDays first).2.1.toNat = (civilFromDays second).2.1.toNat)
    (sameDay : (civilFromDays first).2.2.toNat = (civilFromDays second).2.2.toNat) :
    first = second := by
  obtain ⟨firstYear, firstMonth, firstDay⟩ := civilFromDays_nonneg firstInRange
  obtain ⟨secondYear, secondMonth, secondDay⟩ := civilFromDays_nonneg secondInRange
  have sameDate : civilFromDays first = civilFromDays second := by
    refine Prod.ext ?_ (Prod.ext ?_ ?_)
    · rw [← Int.toNat_of_nonneg firstYear, sameYear, Int.toNat_of_nonneg secondYear]
    · rw [← Int.toNat_of_nonneg firstMonth, sameMonth, Int.toNat_of_nonneg secondMonth]
    · rw [← Int.toNat_of_nonneg firstDay, sameDay, Int.toNat_of_nonneg secondDay]
  rw [← daysFromCivil_civilFromDays first, sameDate, daysFromCivil_civilFromDays]

/-! ## Printed fields -/

private theorem padded_toList (width number : Nat) :
    (padded width number).toList =
      List.replicate (width - (toString number).length) '0' ++ Nat.toDigits 10 number := by
  have digits : (toString number).toList = Nat.toDigits 10 number := String.toList_ofList
  unfold padded
  rw [String.toList_append, String.toList_ofList, digits]

theorem padded_inj {width first second : Nat} :
    padded width first = padded width second ↔ first = second := by
  constructor
  · intro same
    have readBack (number : Nat) : Nat.ofDigitChars 10 (padded width number).toList 0 = number := by
      rw [padded_toList, Nat.ofDigitChars_append, Nat.ofDigitChars_replicate_zero, Nat.mul_zero,
        Nat.ofDigitChars_ten_toDigits]
    rw [← readBack first, same, readBack]
  · rintro rfl
    rfl

theorem not_mem_padded {symbol : Char} (notDigit : symbol.isDigit = false) (width number : Nat) :
    symbol ∉ (padded width number).toList := by
  rw [padded_toList, List.mem_append, List.mem_replicate]
  rintro (⟨-, rfl⟩ | digit)
  · exact absurd notDigit (by decide)
  · have isDigit := Nat.isDigit_of_mem_toDigits (by decide) (by decide) digit
    rw [notDigit] at isDigit
    exact Bool.noConfusion isDigit

private theorem padded_toList_inj {width first second : Nat}
    (same : (padded width first).toList = (padded width second).toList) : first = second :=
  padded_inj.1 (String.toList_injective same)

private theorem field_inj {symbol : Char} (notDigit : symbol.isDigit = false)
    {width first second : Nat} {firstRest secondRest : List Char}
    (same : (padded width first).toList ++ symbol :: firstRest =
      (padded width second).toList ++ symbol :: secondRest) :
    first = second ∧ firstRest = secondRest := by
  obtain ⟨fields, rests⟩ := (joined_inj (not_mem_padded notDigit _ _)
    (not_mem_padded notDigit _ _)).1 same
  exact ⟨padded_toList_inj fields, rests⟩

private def fraction (microsecond : Int) : String :=
  if microsecond = 0 then "" else "." ++ padded 6 microsecond.toNat

private theorem seconds_inj {firstSecond secondSecond : Nat} {first second : Int}
    (firstNonneg : 0 ≤ first) (secondNonneg : 0 ≤ second)
    (same : (padded 2 firstSecond).toList ++ (fraction first).toList =
      (padded 2 secondSecond).toList ++ (fraction second).toList) :
    firstSecond = secondSecond ∧ first = second := by
  have whole {number : Int} (isZero : number = 0) : (fraction number).toList = [] := by
    rw [fraction, if_pos isZero]
    rfl
  have parts {number : Int} (nonzero : number ≠ 0) :
      (fraction number).toList = '.' :: (padded 6 number.toNat).toList := by
    rw [fraction, if_neg nonzero, String.toList_append]
    rfl
  have noPoint (number : Nat) : '.' ∉ (padded 2 number).toList :=
    not_mem_padded (by decide) 2 number
  by_cases firstZero : first = 0
  · by_cases secondZero : second = 0
    · rw [whole firstZero, whole secondZero, List.append_nil, List.append_nil] at same
      exact ⟨padded_toList_inj same, firstZero.trans secondZero.symm⟩
    · rw [whole firstZero, parts secondZero, List.append_nil] at same
      exact absurd (same ▸ by simp) (noPoint firstSecond)
  · by_cases secondZero : second = 0
    · rw [parts firstZero, whole secondZero, List.append_nil] at same
      exact absurd (same ▸ by simp) (noPoint secondSecond)
    · rw [parts firstZero, parts secondZero] at same
      obtain ⟨seconds, fractions⟩ := field_inj (by decide) same
      have sameFraction := padded_toList_inj fractions
      exact ⟨seconds, by omega⟩

/-! ## Instants -/

/-- `datetime.min`. -/
def minimum : DateTime := -719162 * 86400 * microsecondsPerSecond

private theorem isoformat_toList (instant : DateTime) :
    (isoformat instant).toList =
      (padded 4 (civilFromDays (instant / 60000000 / 1440)).1.toNat).toList ++ '-' ::
      ((padded 2 (civilFromDays (instant / 60000000 / 1440)).2.1.toNat).toList ++ '-' ::
      ((padded 2 (civilFromDays (instant / 60000000 / 1440)).2.2.toNat).toList ++ 'T' ::
      ((padded 2 (instant / 60000000 % 1440 / 60).toNat).toList ++ ':' ::
      ((padded 2 (instant / 60000000 % 1440 % 60).toNat).toList ++ ':' ::
      ((padded 2 (instant / 1000000 % 60).toNat).toList ++
        (fraction (instant % 1000000)).toList))))) := by
  simp only [isoformat, isoformatMinutes, microsecondsPerSecond, Int.reduceMul,
    String.toList_append, String.reduceToList, List.append_assoc, List.cons_append,
    List.nil_append]
  rfl

private theorem sameParts {first second : Int}
    (sameDay : first / 60000000 / 1440 = second / 60000000 / 1440)
    (hours : (first / 60000000 % 1440 / 60).toNat = (second / 60000000 % 1440 / 60).toNat)
    (minutes : (first / 60000000 % 1440 % 60).toNat = (second / 60000000 % 1440 % 60).toNat)
    (seconds : (first / 1000000 % 60).toNat = (second / 1000000 % 60).toNat)
    (microseconds : first % 1000000 = second % 1000000) : first = second := by
  have sameMinute : first / 60000000 = second / 60000000 := by omega
  have nested (instant : Int) : instant / 60000000 = instant / 1000000 / 60 := by omega
  rw [nested, nested] at sameMinute
  have sameSecond : first / 1000000 = second / 1000000 := by omega
  omega

/-- From the first year on, instants are told apart by their texts. -/
theorem isoformat_inj {first second : DateTime} (firstInRange : minimum ≤ first)
    (secondInRange : minimum ≤ second) :
    isoformat first = isoformat second ↔ first = second := by
  constructor
  · intro same
    have printed := congrArg String.toList same
    rw [isoformat_toList, isoformat_toList] at printed
    obtain ⟨years, afterYear⟩ := field_inj (by decide) printed
    obtain ⟨months, afterMonth⟩ := field_inj (by decide) afterYear
    obtain ⟨days, afterDay⟩ := field_inj (by decide) afterMonth
    obtain ⟨hours, afterHour⟩ := field_inj (by decide) afterDay
    obtain ⟨minutes, afterMinute⟩ := field_inj (by decide) afterHour
    have start (instant : Int) (inRange : -719162 * 86400 * 1000000 ≤ instant) :
        -719162 ≤ instant / 60000000 / 1440 := by omega
    have sameDay := civilFromDays_toNat_inj (start first firstInRange) (start second secondInRange)
      years months days
    obtain ⟨seconds, microseconds⟩ := seconds_inj (Int.emod_nonneg _ (by decide))
      (Int.emod_nonneg _ (by decide)) afterMinute
    exact sameParts sameDay hours minutes seconds microseconds
  · rintro rfl
    rfl

end DateTime

end WebhookWise
