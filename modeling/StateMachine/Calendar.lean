namespace StateMachine

/-- A date of the proleptic Gregorian calendar with a year 0, not necessarily one that exists. -/
structure Date where
  year : Int
  month : Nat
  day : Nat
  deriving DecidableEq, Repr

namespace Date

def isLeap (year : Int) : Bool :=
  year % 4 == 0 && (year % 100 != 0 || year % 400 == 0)

def monthLength (year : Int) (month : Nat) : Nat :=
  if month = 2 then if isLeap year then 29 else 28
  else if month = 4 ∨ month = 6 ∨ month = 9 ∨ month = 11 then 30
  else 31

def Valid (date : Date) : Prop :=
  1 ≤ date.month ∧ date.month ≤ 12 ∧ 1 ≤ date.day ∧ date.day ≤ monthLength date.year date.month

instance (date : Date) : Decidable date.Valid :=
  inferInstanceAs (Decidable (_ ∧ _ ∧ _ ∧ _))

/-- The year that began in March and holds the date. -/
def marchYear (date : Date) : Int := if date.month ≤ 2 then date.year - 1 else date.year

def marchDay (date : Date) : Int :=
  (153 * (((date.month : Int) + 9) % 12) + 2) / 5 + date.day - 1

def daysBeforeMarch (year : Int) : Int := 365 * year + year / 4 - year / 100 + year / 400

def epochOffset : Int := 719468

def toDay (date : Date) : Int :=
  daysBeforeMarch date.marchYear + date.marchDay - epochOffset

/-- The March year that holds a day, and the day's place in that year; days are counted here from
the first of March of year 0. They are split into periods of 400, 100, 4 and 1 years; the last
century of four and the last year of four are one day longer than the others. -/
def splitYears (days : Int) : Int × Int :=
  let era := days / 146097
  let dayOfEra := days % 146097
  let century := min (dayOfEra / 36524) 3
  let dayOfCentury := dayOfEra - 36524 * century
  let quad := dayOfCentury / 1461
  let dayOfQuad := dayOfCentury - 1461 * quad
  let single := min (dayOfQuad / 365) 3
  (400 * era + 100 * century + 4 * quad + single, dayOfQuad - 365 * single)

def ofMarch (year dayOfYear : Int) : Date :=
  let monthFromMarch := (5 * dayOfYear + 2) / 153
  let day := dayOfYear - (153 * monthFromMarch + 2) / 5 + 1
  if monthFromMarch < 10 then ⟨year, (monthFromMarch + 3).toNat, day.toNat⟩
  else ⟨year + 1, (monthFromMarch - 9).toNat, day.toNat⟩

def ofDay (number : Int) : Date :=
  let (year, dayOfYear) := splitYears (number + epochOffset)
  ofMarch year dayOfYear

theorem splitYears_sum (days : Int) :
    daysBeforeMarch (splitYears days).1 + (splitYears days).2 = days ∧
      0 ≤ (splitYears days).2 ∧ (splitYears days).2 ≤ 365 := by
  simp only [splitYears, daysBeforeMarch]
  generalize he : days / 146097 = era
  generalize hd : days % 146097 = dayOfEra
  generalize hc : min (dayOfEra / 36524) 3 = century
  generalize hr : dayOfEra - 36524 * century = dayOfCentury
  generalize hq : dayOfCentury / 1461 = quad
  generalize hs : dayOfCentury - 1461 * quad = dayOfQuad
  generalize hy : min (dayOfQuad / 365) 3 = single
  have hcentury : 0 ≤ century ∧ century ≤ 3 ∧ 0 ≤ dayOfCentury ∧ dayOfCentury ≤ 36524 := by omega
  have hquad : 0 ≤ quad ∧ quad ≤ 24 ∧ 0 ≤ dayOfQuad ∧ dayOfQuad ≤ 1460 := by omega
  have hsingle : 0 ≤ single ∧ single ≤ 3 := by omega
  have hfour : (400 * era + 100 * century + 4 * quad + single) / 4 =
      100 * era + 25 * century + quad := by omega
  have hhundred : (400 * era + 100 * century + 4 * quad + single) / 100 =
      4 * era + century := by omega
  have hera : (400 * era + 100 * century + 4 * quad + single) / 400 = era := by omega
  rw [hfour, hhundred, hera]
  omega

theorem toDay_ofMarch (year dayOfYear : Int) (h₀ : 0 ≤ dayOfYear) (h₁ : dayOfYear ≤ 365) :
    (ofMarch year dayOfYear).toDay = daysBeforeMarch year + dayOfYear - epochOffset := by
  simp only [ofMarch]
  generalize hm : (5 * dayOfYear + 2) / 153 = month
  have hday : ((dayOfYear - (153 * month + 2) / 5 + 1).toNat : Int) =
      dayOfYear - (153 * month + 2) / 5 + 1 := by omega
  split
  · next hlt =>
    have hmarch : ¬(month + 3).toNat ≤ 2 := by omega
    have hback : (((month + 3).toNat : Int) + 9) % 12 = month := by omega
    simp only [toDay, marchYear, marchDay, if_neg hmarch, hback, hday]
    omega
  · next hge =>
    have hmarch : (month - 9).toNat ≤ 2 := by omega
    have hback : (((month - 9).toNat : Int) + 9) % 12 = month := by omega
    have hyear : year + 1 - 1 = year := by omega
    simp only [toDay, marchYear, marchDay, if_pos hmarch, hback, hday, hyear]
    omega

theorem toDay_ofDay (number : Int) : (ofDay number).toDay = number := by
  obtain ⟨hsum, h₀, h₁⟩ := splitYears_sum (number + epochOffset)
  simp only [ofDay]
  rw [toDay_ofMarch _ _ h₀ h₁, hsum]
  omega

end Date

end StateMachine
