import LogQuery.Proofs.Time.Calendar
import LogQuery.Time.Timestamp

/-!
# Reading timestamps back

An instant of the years 0 to 9999 is found again by its timestamp, to the nanosecond and with leap
seconds.  The timestamp of any other instant begins with a sign and is not read at all, so what is
read from a timestamp is always the instant that was written.
-/

namespace LogQuery.Time

section Digits

theorem isDigit_ofNat {digit : Nat} (digit_lt : digit < 10) :
    (Char.ofNat (48 + digit)).isDigit = true := by
  revert digit
  decide

theorem toNat_ofNat_sub {digit : Nat} (digit_lt : digit < 10) :
    (Char.ofNat (48 + digit)).toNat - 48 = digit := by
  revert digit
  decide

theorem length_fixedDigits (width n : Nat) : (fixedDigits width n).length = width := by
  induction width generalizing n with
  | zero => rfl
  | succ width inductionHypothesis =>
      rw [fixedDigits, List.length_append, inductionHypothesis, List.length_singleton]

theorem isDigit_of_mem_fixedDigits {width n : Nat} {c : Char} (member : c ∈ fixedDigits width n) :
    c.isDigit = true := by
  induction width generalizing n with
  | zero => cases member
  | succ width inductionHypothesis =>
      rcases List.mem_append.mp member with member | member
      · exact inductionHypothesis member
      · rw [List.mem_singleton.mp member]
        exact isDigit_ofNat (Nat.mod_lt n (by decide))

theorem mod_ten_pow_succ (n width : Nat) :
    n % 10 ^ (width + 1) = 10 * (n / 10 % 10 ^ width) + n % 10 := by
  rw [Nat.pow_succ', Nat.mod_mul, Nat.add_comm]

end Digits

namespace Instant

/-- Reading as many digits as have been written gives the number again. -/
theorem readDigits_fixedDigits (width more value n : Nat) (rest : List Char) :
    readDigits (width + more) value (fixedDigits width n ++ rest) =
      readDigits more (value * 10 ^ width + n % 10 ^ width) rest := by
  induction width generalizing more n rest with
  | zero => simp [fixedDigits, Nat.mod_one]
  | succ width inductionHypothesis =>
      have digit_lt : n % 10 < 10 := Nat.mod_lt n (by decide)
      rw [fixedDigits, List.append_assoc, Nat.add_right_comm, Nat.add_assoc, inductionHypothesis,
        List.singleton_append, readDigits, digit?, if_pos (isDigit_ofNat digit_lt),
        toNat_ofNat_sub digit_lt, mod_ten_pow_succ]
      refine congrArg (fun value => readDigits more value rest) ?_
      rw [Nat.pow_succ, ← Nat.mul_assoc]
      omega

theorem readDigits_fixedDigits_of_lt {width n : Nat} (n_lt : n < 10 ^ width) (rest : List Char) :
    readDigits width 0 (fixedDigits width n ++ rest) = some (n, rest) := by
  have read := readDigits_fixedDigits width 0 0 n rest
  rw [Nat.zero_mul, Nat.zero_add, Nat.mod_eq_of_lt n_lt] at read
  exact read

theorem digitsValue_fixedDigits (width n : Nat) :
    digitsValue (fixedDigits width n) = n % 10 ^ width := by
  induction width generalizing n with
  | zero => simp [fixedDigits, digitsValue, Nat.mod_one]
  | succ width inductionHypothesis =>
      rw [fixedDigits, digitsValue, List.foldl_append, ← digitsValue, inductionHypothesis,
        List.foldl_cons, List.foldl_nil, toNat_ofNat_sub (Nat.mod_lt n (by decide)),
        mod_ten_pow_succ]

/-- Digits up to the end of the time are all that is taken. -/
theorem span_fixedDigits (width n : Nat) :
    (fixedDigits width n ++ ['Z']).takeWhile Char.isDigit = fixedDigits width n ∧
      (fixedDigits width n ++ ['Z']).dropWhile Char.isDigit = ['Z'] := by
  have allDigits (c : Char) (member : c ∈ fixedDigits width n) : c.isDigit = true :=
    isDigit_of_mem_fixedDigits member
  constructor
  · rw [List.takeWhile_append_of_pos allDigits]
    exact List.append_nil _
  · rw [List.dropWhile_append_of_pos allDigits]
    rfl

theorem readFraction_fixedDigits {width n : Nat} (width_pos : 0 < width) (width_le : width ≤ 9)
    (n_lt : n < 10 ^ width) :
    (readFraction ('.' :: fixedDigits width n ++ ['Z'])).map (fun read => (read.1.val, read.2)) =
      some (n * 10 ^ (9 - width), ['Z']) := by
  obtain ⟨taken, left⟩ := span_fixedDigits width n
  have notEmpty : (fixedDigits width n).isEmpty = false := by
    rw [List.isEmpty_eq_false_iff, ← List.length_pos_iff, length_fixedDigits]
    exact width_pos
  have kept : (fixedDigits width n).take 9 = fixedDigits width n := by
    refine List.take_of_length_le ?_
    rw [length_fixedDigits]
    exact width_le
  simp only [List.cons_append, readFraction, taken, left, notEmpty, fractionNanos, kept,
    digitsValue_fixedDigits, length_fixedDigits, Nat.mod_eq_of_lt n_lt, Nat.pow_eq,
    Bool.false_eq_true, ↓reduceIte, Option.map_some]

/-- The nanoseconds are read to the last digit, however few digits they are written with. -/
theorem readFraction_fractionText {nano : Nat} (nano_lt : nano < nanosPerSecond) :
    readFraction (fractionText nano ++ ['Z']) = some (⟨nano, nano_lt⟩, ['Z']) := by
  have exact_ {text : List Char} (read : (readFraction text).map (fun read => (read.1.val, read.2)) =
      some (nano, ['Z'])) : readFraction text = some (⟨nano, nano_lt⟩, ['Z']) := by
    cases found : readFraction text with
    | none =>
        rw [found] at read
        cases read
    | some pair =>
        rw [found] at read
        obtain ⟨value_eq, rest_eq⟩ := Prod.mk.inj (Option.some.inj read)
        exact congrArg some (Prod.ext (Fin.ext value_eq) rest_eq)
  refine exact_ ?_
  unfold nanosPerSecond at nano_lt
  unfold fractionText
  split
  · next zero =>
      rw [zero]
      rfl
  · split
    · rw [readFraction_fixedDigits (by decide) (by decide) (by omega)]
      rw [show nano / 1000000 * 10 ^ (9 - 3) = nano by omega]
    · split
      · rw [readFraction_fixedDigits (by decide) (by decide) (by omega)]
        rw [show nano / 1000 * 10 ^ (9 - 6) = nano by omega]
      · rw [readFraction_fixedDigits (by decide) (by decide) (by omega)]
        rw [show nano * 10 ^ (9 - 9) = nano by omega]

/-- The year in UTC. -/
def year (instant : Instant) : Int :=
  yearOf (epochDay + instant.second / secondsPerDay)

/-- Whether the year has four digits and no sign. -/
def HasPlainYear (instant : Instant) : Prop :=
  0 ≤ instant.year ∧ instant.year ≤ 9999

/-- The parts of a timestamp whose year is plain. -/
def plainChars (date : Date) (hour minute second nano : Nat) : List Char :=
  fixedDigits 4 date.year.toNat ++ '-' :: (fixedDigits 2 date.month ++
    '-' :: (fixedDigits 2 date.day ++ 'T' :: (fixedDigits 2 hour ++ ':' :: (fixedDigits 2 minute ++
      ':' :: (fixedDigits 2 second ++ (fractionText nano ++ ['Z']))))))

theorem timestampChars_eq_plainChars {instant : Instant} (plain : instant.HasPlainYear) :
    let ofDay := (instant.second % secondsPerDay).toNat
    instant.timestampChars =
      plainChars (Date.ofDayNumber (epochDay + instant.second / secondsPerDay)) (ofDay / 3600)
        (ofDay / 60 % 60) (ofDay % 60 + instant.nano / nanosPerSecond)
        (instant.nano % nanosPerSecond) := by
  intro ofDay
  have plainYear : 0 ≤ (Date.ofDayNumber (epochDay + instant.second / secondsPerDay)).year ∧
      (Date.ofDayNumber (epochDay + instant.second / secondsPerDay)).year ≤ 9999 := plain
  unfold timestampChars plainChars yearText
  simp only [if_pos plainYear, List.append_assoc, List.cons_append]
  rfl

/-- What the parts of a timestamp are read as. -/
theorem ofTimestampChars?_plainChars {date : Date} {hour minute second nano : Nat}
    (valid : date.isValid = true) (plain : 0 ≤ date.year ∧ date.year ≤ 9999)
    (month_lt : date.month < 100) (day_lt : date.day < 100) (hour_le : hour ≤ 23)
    (minute_le : minute ≤ 59) (second_le : second ≤ 60) (nano_lt : nano < nanosPerSecond) :
    ∃ read, ofTimestampChars? (plainChars date hour minute second nano) = some read ∧
      read.second = (date.toDayNumber - epochDay) * secondsPerDay +
        (hour * 3600 + minute * 60 + (second - second / 60) : Nat) ∧
      read.nano = nano + second / 60 * nanosPerSecond := by
  obtain ⟨year, month, day⟩ := date
  obtain ⟨year, rfl⟩ := Int.eq_ofNat_of_zero_le plain.1
  have year_le : year ≤ 9999 := Int.ofNat_le.mp plain.2
  have readYear (rest : List Char) :
      readDigits 4 0 (fixedDigits 4 year ++ rest) = some (year, rest) :=
    readDigits_fixedDigits_of_lt (by omega) rest
  have readTwo (n : Nat) (rest : List Char) (n_lt : n < 100) :
      readDigits 2 0 (fixedDigits 2 n ++ rest) = some (n, rest) :=
    readDigits_fixedDigits_of_lt n_lt rest
  have expected (c : Char) (rest : List Char) : expectChar c (c :: rest) = some rest :=
    if_pos (beq_self_eq_true c)
  have readUtc : readZone ['Z'] = some (0, []) := rfl
  unfold ofTimestampChars? plainChars
  -- step by step: under the binders of the chain `simp` does not scale
  dsimp only [Option.bind_eq_bind, Int.toNat_natCast]
  rw [readYear, Option.bind_some, expected, Option.bind_some, readTwo _ _ month_lt,
    Option.bind_some, expected, Option.bind_some, readTwo _ _ day_lt, Option.bind_some]
  dsimp only
  rw [if_pos (by rfl), Option.bind_some, readTwo hour _ (by omega), Option.bind_some, expected,
    Option.bind_some, readTwo minute _ (by omega), Option.bind_some, expected, Option.bind_some,
    readTwo second _ (by omega), Option.bind_some, readFraction_fractionText nano_lt,
    Option.bind_some, readUtc, Option.bind_some]
  dsimp only
  refine ⟨_, dif_pos ⟨rfl, valid, hour_le, minute_le, second_le⟩, ?_, rfl⟩
  dsimp only
  rw [Int.zero_mul, Int.sub_zero]

theorem eq_of_second_of_nano {first second : Instant} (sameSecond : first.second = second.second)
    (sameNano : first.nano = second.nano) : first = second := by
  cases first
  cases second
  cases sameSecond
  cases sameNano
  rfl

/-- An instant of the years 0 to 9999 is read back from its timestamp. -/
theorem ofTimestamp?_timestamp {instant : Instant} (plain : instant.HasPlainYear) :
    ofTimestamp? instant.timestamp = some instant := by
  let ofDay := (instant.second % secondsPerDay).toNat
  have ofDay_eq : (ofDay : Int) = instant.second % 86400 := by
    simp only [ofDay, secondsPerDay]
    omega
  have regular := instant.regular
  unfold nanosPerSecond at regular
  obtain ⟨month_lt, day_lt⟩ := Date.ofDayNumber_lt (epochDay + instant.second / secondsPerDay)
  obtain ⟨read, read_eq, second_eq, nano_eq⟩ := ofTimestampChars?_plainChars
    (Date.isValid_ofDayNumber (epochDay + instant.second / secondsPerDay)) plain month_lt day_lt
    (show ofDay / 3600 ≤ 23 by omega) (show ofDay / 60 % 60 ≤ 59 by omega)
    (show ofDay % 60 + instant.nano / nanosPerSecond ≤ 60 by unfold nanosPerSecond; omega)
    (Nat.mod_lt instant.nano (by decide))
  have same : read = instant := by
    refine eq_of_second_of_nano ?_ ?_
    · rw [second_eq, Date.toDayNumber_ofDayNumber]
      unfold nanosPerSecond secondsPerDay
      omega
    · rw [nano_eq]
      unfold nanosPerSecond
      omega
  unfold ofTimestamp? timestamp
  rw [String.toList_ofList, timestampChars_eq_plainChars plain, read_eq, same]

/-- The timestamp of any other instant begins with a sign and is not read. -/
theorem ofTimestamp?_timestamp_eq_none {instant : Instant} (signed : ¬instant.HasPlainYear) :
    ofTimestamp? instant.timestamp = none := by
  have signedYear : ¬(0 ≤ (Date.ofDayNumber (epochDay + instant.second / secondsPerDay)).year ∧
      (Date.ofDayNumber (epochDay + instant.second / secondsPerDay)).year ≤ 9999) := signed
  have unread (sign : Char) (rest : List Char) (notDigit : sign.isDigit = false) :
      ofTimestampChars? (sign :: rest) = none := by
    unfold ofTimestampChars? readDigits digit?
    rw [notDigit]
    rfl
  unfold ofTimestamp? timestamp timestampChars yearText
  rw [String.toList_ofList]
  simp only [if_neg signedYear, List.cons_append]
  refine unread _ _ ?_
  split
  · rfl
  · rfl

/-- What is read from a timestamp is the instant that was written. -/
theorem eq_of_ofTimestamp?_timestamp {instant read : Instant}
    (found : ofTimestamp? instant.timestamp = some read) : read = instant := by
  by_cases plain : instant.HasPlainYear
  · rw [ofTimestamp?_timestamp plain] at found
    exact (Option.some.inj found).symm
  · rw [ofTimestamp?_timestamp_eq_none plain] at found
    cases found

end Instant

end LogQuery.Time
