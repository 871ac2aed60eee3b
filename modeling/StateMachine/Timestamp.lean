import StateMachine.Calendar

namespace StateMachine

def Timestamp.firstSecond : Int := -96465292 * 86400

def Timestamp.lastSecond : Int := 95026236 * 86400 + 86399

/-- A point in time in the years -262143 to 262142: whole seconds since the beginning of 1970 in
UTC, rounded down, and nanoseconds within the second. A leap second has no number of its own, it is
the second before it with 1000000000 nanoseconds or more. Any second can have that many. -/
structure Timestamp where
  seconds : Int
  nanos : Nat
  first_le : Timestamp.firstSecond ≤ seconds
  le_last : seconds ≤ Timestamp.lastSecond
  nanos_lt : nanos < 2000000000
  deriving DecidableEq

namespace Timestamp

/-- Nanoseconds of a leap second stand on the last second of a minute, if there are any. -/
def LeapsAtEnd (time : Timestamp) : Prop := 1000000000 ≤ time.nanos → time.seconds % 60 = 59

instance (time : Timestamp) : Decidable time.LeapsAtEnd :=
  inferInstanceAs (Decidable (_ → _))

/-- The timestamp with the given counts. It must leap at the end of a minute if at all, so not all
timestamps are made from counts. -/
def ofUnix? (seconds : Int) (nanos : Nat) : Option Timestamp :=
  if h : firstSecond ≤ seconds ∧ seconds ≤ lastSecond ∧ nanos < 2000000000 ∧
      (1000000000 ≤ nanos → seconds % 60 = 59) then
    some ⟨seconds, nanos, h.1, h.2.1, h.2.2.1⟩
  else none

theorem ofUnix?_eq_some_iff {seconds : Int} {nanos : Nat} {time : Timestamp} :
    ofUnix? seconds nanos = some time ↔
      seconds = time.seconds ∧ nanos = time.nanos ∧ time.LeapsAtEnd := by
  unfold ofUnix?
  constructor
  · intro h
    split at h
    · next hcounts =>
      cases h
      exact ⟨rfl, rfl, hcounts.2.2.2⟩
    · cases h
  · rintro ⟨rfl, rfl, hleap⟩
    exact dif_pos ⟨time.first_le, time.le_last, time.nanos_lt, hleap⟩

end Timestamp

end StateMachine
