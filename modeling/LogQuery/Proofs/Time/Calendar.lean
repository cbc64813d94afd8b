import LogQuery.Time.Calendar
import Mathlib

/-!
# Dates and day numbers

Every day belongs to one year, which the estimate finds, and to one day of one month of that year.
The date of a day number is therefore valid and has that number.
-/

namespace LogQuery.Time

/-- A leap year has one day more than other years. -/
theorem firstDay_succ (year : Int) :
    firstDay (year + 1) = firstDay year + if isLeap year then 366 else 365 := by
  unfold firstDay isLeap
  by_cases fourth : year % 4 = 0
  · by_cases century : year % 100 = 0
    · by_cases fourthCentury : year % 400 = 0
      · simp only [fourth, century, fourthCentury, beq_self_eq_true, bne_self_eq_false,
          Bool.or_true, Bool.and_true, if_true]
        omega
      · simp only [fourth, century, fourthCentury, beq_iff_eq, beq_self_eq_true, bne_self_eq_false,
          Bool.false_or, Bool.true_and, if_false]
        omega
    · simp only [fourth, century, beq_self_eq_true, bne_iff_ne, ne_eq, not_false_eq_true,
        Bool.true_and, Bool.or_eq_true, true_or, if_true]
      omega
  · simp only [fourth, beq_iff_eq, Bool.and_eq_true, false_and, if_false]
    omega

/-- A day lies in its year. -/
theorem firstDay_yearOf (day : Int) :
    firstDay (yearOf day) ≤ day ∧ day < firstDay (yearOf day + 1) := by
  unfold yearOf firstDay
  dsimp only
  split
  · omega
  · split
    · omega
    · omega

theorem sum_monthLengths (leap : Bool) :
    (monthLengths leap).sum = if leap then 366 else 365 := by
  cases leap with
  | false => rfl
  | true => rfl

theorem le_of_mem_monthLengths {leap : Bool} {length : Nat} (member : length ∈ monthLengths leap) :
    length ≤ 31 := by
  cases leap with
  | false => exact (by decide : ∀ length ∈ monthLengths false, length ≤ 31) length member
  | true => exact (by decide : ∀ length ∈ monthLengths true, length ≤ 31) length member

theorem length_monthLengths (leap : Bool) : (monthLengths leap).length = 12 := rfl

/-- A day within the months belongs to one of them, and the months before it and the days of the
month make up the count. -/
theorem exists_month_of_lt_sum {lengths : List Nat} {days : Nat} (within : days < lengths.sum) :
    ∃ month day, splitDays lengths days = (month + 1, day + 1) ∧
      (∃ length, lengths[month]? = some length ∧ day < length) ∧
      (lengths.take month).sum + day = days := by
  induction lengths generalizing days with
  | nil => exact absurd within (Nat.not_lt_zero days)
  | cons length lengths inductionHypothesis =>
      rw [List.sum_cons] at within
      unfold splitDays
      split
      · next first =>
          exact ⟨0, days, rfl, ⟨length, rfl, first⟩, Nat.zero_add days⟩
      · next later =>
          have remaining : days - length < lengths.sum := by omega
          obtain ⟨month, day, split_eq, inMonth, count⟩ := inductionHypothesis remaining
          refine ⟨month + 1, day, ?_, ?_, ?_⟩
          · rw [split_eq]
          · rwa [List.getElem?_cons_succ]
          · rw [List.take_succ_cons, List.sum_cons]
            omega

namespace Date

/-- The date of a day, by the months and days that have passed in its year. -/
theorem exists_ofDayNumber_eq (number : Int) :
    ∃ month day length, ofDayNumber number = ⟨yearOf number, month + 1, day + 1⟩ ∧
      (monthLengths (isLeap (yearOf number)))[month]? = some length ∧ day < length ∧
      firstDay (yearOf number) +
        (((monthLengths (isLeap (yearOf number))).take month).sum + day : Nat) = number := by
  obtain ⟨started, notOver⟩ := firstDay_yearOf number
  have within : (number - firstDay (yearOf number)).toNat <
      (monthLengths (isLeap (yearOf number))).sum := by
    rw [firstDay_succ] at notOver
    rw [sum_monthLengths]
    split at notOver
    · next leap =>
        rw [if_pos leap]
        omega
    · next notLeap =>
        rw [if_neg notLeap]
        omega
  obtain ⟨month, day, split_eq, ⟨length, inMonth, day_lt⟩, count⟩ := exists_month_of_lt_sum within
  refine ⟨month, day, length, ?_, inMonth, day_lt, ?_⟩
  · unfold ofDayNumber
    dsimp only
    rw [split_eq]
  · rw [count]
    omega

theorem isValid_ofDayNumber (number : Int) : (ofDayNumber number).isValid = true := by
  obtain ⟨month, day, length, date_eq, inMonth, day_lt, -⟩ := exists_ofDayNumber_eq number
  rw [date_eq]
  unfold isValid
  dsimp only
  rw [inMonth]
  simp only [Bool.and_eq_true, decide_eq_true_eq]
  omega

/-- A day is found again by its date. -/
theorem toDayNumber_ofDayNumber (number : Int) : (ofDayNumber number).toDayNumber = number := by
  obtain ⟨month, day, length, date_eq, -, -, count⟩ := exists_ofDayNumber_eq number
  have sum_eq (lengths : List Nat) : lengths.foldr (· + ·) day = lengths.sum + day := by
    induction lengths with
    | nil => exact (Nat.zero_add day).symm
    | cons length lengths inductionHypothesis =>
        rw [List.foldr_cons, inductionHypothesis, List.sum_cons, Nat.add_assoc]
  rw [date_eq]
  unfold toDayNumber
  simp only [Nat.add_sub_cancel, sum_eq]
  exact count

/-- Months and days are written with two digits. -/
theorem ofDayNumber_lt (number : Int) :
    (ofDayNumber number).month < 100 ∧ (ofDayNumber number).day < 100 := by
  obtain ⟨month, day, length, date_eq, inMonth, day_lt, -⟩ := exists_ofDayNumber_eq number
  have month_lt := (List.getElem?_eq_some_iff.mp inMonth).1
  have length_le := le_of_mem_monthLengths (List.mem_of_getElem? inMonth)
  rw [length_monthLengths] at month_lt
  rw [date_eq]
  dsimp only
  omega

end Date

end LogQuery.Time
