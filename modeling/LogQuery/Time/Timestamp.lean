import LogQuery.Time.Instant

/-!
# Timestamps

The written form of instants, as RFC 3339 has it.  Instants are written in UTC with as few of zero,
three, six or nine digits after the point as are exact.  A year outside 0 to 9999 is written with
its sign, and such a timestamp cannot be read back: reading wants a year of exactly four digits.
-/

namespace LogQuery.Time

/-- The last `width` decimal digits of a number. -/
def fixedDigits : (width : Nat) → Nat → List Char
  | 0, _ => []
  | width + 1, n => fixedDigits width (n / 10) ++ [Char.ofNat (48 + n % 10)]

/-- The year with four digits at least, and with a sign outside 0 to 9999. -/
def yearText (year : Int) : List Char :=
  if 0 ≤ year ∧ year ≤ 9999 then fixedDigits 4 year.toNat
  else
    let sign := if year < 0 then '-' else '+'
    let digits := (toString year.natAbs).toList
    sign :: (List.replicate (4 - digits.length) '0' ++ digits)

/-- The digits after the point, with the point. -/
def fractionText (nano : Nat) : List Char :=
  if nano = 0 then []
  else if nano % 1000000 = 0 then '.' :: fixedDigits 3 (nano / 1000000)
  else if nano % 1000 = 0 then '.' :: fixedDigits 6 (nano / 1000)
  else '.' :: fixedDigits 9 nano

namespace Instant

/-- The characters of the timestamp of an instant. -/
def timestampChars (instant : Instant) : List Char :=
  let date := Date.ofDayNumber (epochDay + instant.second / secondsPerDay)
  let ofDay := (instant.second % secondsPerDay).toNat
  let second := ofDay % 60 + instant.nano / nanosPerSecond
  yearText date.year ++ '-' :: fixedDigits 2 date.month ++ '-' :: fixedDigits 2 date.day
    ++ 'T' :: fixedDigits 2 (ofDay / 3600) ++ ':' :: fixedDigits 2 (ofDay / 60 % 60)
    ++ ':' :: fixedDigits 2 second ++ fractionText (instant.nano % nanosPerSecond) ++ ['Z']

/-- The timestamp of an instant. -/
def timestamp (instant : Instant) : String :=
  String.ofList instant.timestampChars

/-! ## Reading -/

/-- The value of a decimal digit. -/
def digit? (c : Char) : Option Nat :=
  if c.isDigit then some (c.toNat - 48) else none

/-- A number of exactly `width` digits at the front, after the value of the digits before it. -/
def readDigits : (width value : Nat) → List Char → Option (Nat × List Char)
  | 0, value, text => some (value, text)
  | _ + 1, _, [] => none
  | width + 1, value, c :: rest => do
      let digit ← digit? c
      readDigits width (10 * value + digit) rest

/-- The text after one expected character. -/
def expectChar (expected : Char) : List Char → Option (List Char)
  | c :: rest => if c == expected then some rest else none
  | [] => none

/-- The value of a row of decimal digits. -/
def digitsValue (digits : List Char) : Nat :=
  digits.foldl (fun value c => 10 * value + (c.toNat - 48)) 0

theorem digitsValue_lt {digits : List Char} (allDigits : digits.all Char.isDigit = true) :
    digitsValue digits < Nat.pow 10 digits.length := by
  suffices bound : ∀ value, digits.foldl (fun value c => 10 * value + (c.toNat - 48)) value <
      (value + 1) * Nat.pow 10 digits.length by
    simpa only [digitsValue, Nat.zero_add, Nat.one_mul] using bound 0
  induction digits with
  | nil => simp
  | cons c digits inductionHypothesis =>
      intro value
      simp only [List.all_cons, Bool.and_eq_true] at allDigits
      have value_le : c.toNat - 48 ≤ 9 := by
        have isDigit := allDigits.1
        simp only [Char.isDigit, Bool.and_eq_true, decide_eq_true_eq] at isDigit
        have : c.toNat ≤ 57 := isDigit.2
        omega
      calc (c :: digits).foldl (fun value c => 10 * value + (c.toNat - 48)) value
          < (10 * value + (c.toNat - 48) + 1) * Nat.pow 10 digits.length :=
            inductionHypothesis allDigits.2 _
        _ ≤ (value + 1) * 10 * Nat.pow 10 digits.length := Nat.mul_le_mul_right _ (by omega)
        _ = (value + 1) * Nat.pow 10 (c :: digits).length := by
            rw [List.length_cons, Nat.pow_eq, Nat.pow_eq, Nat.pow_succ', Nat.mul_assoc]

/-- The nanoseconds that the digits after a point stand for; digits after the ninth do not count. -/
def fractionNanos (digits : List Char) (allDigits : digits.all Char.isDigit = true) :
    Fin nanosPerSecond :=
  let kept := digits.take 9
  ⟨digitsValue kept * Nat.pow 10 (9 - kept.length), by
    have length_le : kept.length ≤ 9 := List.length_take_le 9 digits
    have value_lt : digitsValue kept < Nat.pow 10 kept.length := digitsValue_lt <| by
      rw [List.all_eq_true] at allDigits ⊢
      exact fun c member => allDigits c (List.mem_of_mem_take member)
    calc digitsValue kept * Nat.pow 10 (9 - kept.length)
        < Nat.pow 10 kept.length * Nat.pow 10 (9 - kept.length) :=
          Nat.mul_lt_mul_of_pos_right value_lt (Nat.pow_pos (by decide))
      _ = nanosPerSecond := by
          rw [Nat.pow_eq, Nat.pow_eq, ← Nat.pow_add, Nat.add_sub_cancel' length_le]
          rfl⟩

/-- The nanoseconds after a point, which at least one digit follows. -/
def readFraction : List Char → Option (Fin nanosPerSecond × List Char)
  | '.' :: rest =>
      let digits := rest.takeWhile Char.isDigit
      if digits.isEmpty then none
      else
        some (fractionNanos digits List.all_takeWhile, rest.dropWhile Char.isDigit)
  | rest => some (⟨0, by decide⟩, rest)

/-- The distance from UTC in minutes: `Z`, or a sign, hours and minutes of less than a day. -/
def readZone (text : List Char) : Option (Int × List Char) :=
  let distance (rest : List Char) : Option (Int × List Char) := do
    let (hours, rest) ← readDigits 2 0 rest
    let rest ← expectChar ':' rest
    let (minutes, rest) ← readDigits 2 0 rest
    if hours ≤ 23 ∧ minutes ≤ 59 then some ((hours * 60 + minutes : Nat), rest) else none
  match text with
  | [] => none
  | c :: rest =>
      if c == 'Z' || c == 'z' then some (0, rest)
      else if c == '+' then distance rest
      else if c == '-' || c == '\u2212' then
        (distance rest).map fun (minutes, rest) => (-minutes, rest)
      else none

/-- Read the characters of a timestamp.  The sixtieth second of any minute is a leap second. -/
def ofTimestampChars? (text : List Char) : Option Instant := do
  let (year, rest) ← readDigits 4 0 text
  let (month, rest) ← readDigits 2 0 (← expectChar '-' rest)
  let (day, rest) ← readDigits 2 0 (← expectChar '-' rest)
  let rest ← match rest with
    | c :: rest => if c == 'T' || c == 't' || c == ' ' then some rest else none
    | [] => none
  let (hour, rest) ← readDigits 2 0 rest
  let (minute, rest) ← readDigits 2 0 (← expectChar ':' rest)
  let (second, rest) ← readDigits 2 0 (← expectChar ':' rest)
  let (nano, rest) ← readFraction rest
  let (distance, rest) ← readZone rest
  let date : Date := ⟨year, month, day⟩
  if inRange : rest.isEmpty ∧ date.isValid ∧ hour ≤ 23 ∧ minute ≤ 59 ∧ second ≤ 60 then
    let leap := second / 60
    let ofDay := hour * 3600 + minute * 60 + (second - leap)
    some {
      second := (date.toDayNumber - epochDay) * secondsPerDay + ofDay - distance * 60
      nano := nano + leap * nanosPerSecond
      regular := by
        have nano_lt := nano.isLt
        have second_le := inRange.2.2.2.2
        simp only [leap, ofDay, secondsPerDay, nanosPerSecond] at nano_lt ⊢
        rcases Nat.lt_or_ge second 60 with _ | _
        · left
          omega
        · right
          omega }
  else none

/-- Read a timestamp. -/
def ofTimestamp? (text : String) : Option Instant :=
  ofTimestampChars? text.toList

end Instant

end LogQuery.Time
