import LogQuery.Time.Calendar

/-!
# Instants

Points in time to the nanosecond.  A leap second is kept as the second before it with a billion or
more nanoseconds, so it sorts between its neighbours.  It can only follow the last second of a
minute.
-/

namespace LogQuery.Time

/-- Nanoseconds in a second. -/
def Instant.nanosPerSecond : Nat := 1000000000

/-- Seconds since the start of 1970 in UTC, and nanoseconds after that. -/
structure Instant where
  second : Int
  nano : Nat
  regular : nano < Instant.nanosPerSecond ∨
    second % 60 = 59 ∧ nano < 2 * Instant.nanosPerSecond := by decide
  deriving Repr, DecidableEq

namespace Instant

/-- Seconds in a day. -/
def secondsPerDay : Int := 86400

/-- The number of the first day of 1970. -/
def epochDay : Int := 719162

/-- The start of 1970. -/
def epoch : Instant where
  second := 0
  nano := 0

/-- The instant so many milliseconds after the start of 1970. -/
def ofMillis (millis : Int) : Instant where
  second := millis / 1000
  nano := (millis % 1000).toNat * 1000000
  regular := by
    simp only [nanosPerSecond]
    omega

/-- Instants are ordered by second and then by nanosecond. -/
def le (a b : Instant) : Bool :=
  decide (a.second < b.second) || (a.second == b.second && decide (a.nano ≤ b.nano))

instance : LE Instant := ⟨fun a b => a.le b = true⟩

instance (a b : Instant) : Decidable (a ≤ b) :=
  inferInstanceAs (Decidable (a.le b = true))

theorem le_iff {a b : Instant} :
    a ≤ b ↔ a.second < b.second ∨ (a.second = b.second ∧ a.nano ≤ b.nano) := by
  change a.le b = true ↔ _
  simp only [Instant.le, Bool.or_eq_true, Bool.and_eq_true, beq_iff_eq, decide_eq_true_eq]

theorem le_total (a b : Instant) : a ≤ b ∨ b ≤ a := by
  simp only [le_iff]
  omega

theorem le_refl (a : Instant) : a ≤ a :=
  (le_total a a).elim id id

theorem le_trans {a b c : Instant} (ab : a ≤ b) (bc : b ≤ c) : a ≤ c := by
  simp only [le_iff] at *
  omega

theorem le_antisymm {a b : Instant} (ab : a ≤ b) (ba : b ≤ a) : a = b := by
  obtain ⟨aSecond, aNano, aRegular⟩ := a
  obtain ⟨bSecond, bNano, bRegular⟩ := b
  simp only [le_iff, mk.injEq] at *
  omega

end Instant

end LogQuery.Time
