import StateMachine.Timestamp.Reader

namespace StateMachine.Date

theorem isLeap_iff (year : Int) :
    isLeap year = true ↔ year % 4 = 0 ∧ (year % 100 ≠ 0 ∨ year % 400 = 0) := by
  simp [isLeap]

/-- A March year has a 366th day only if it ends in a leap year. -/
theorem isLeap_of_splitYears {days : Int} (h : (splitYears days).2 = 365) :
    isLeap ((splitYears days).1 + 1) = true := by
  rw [isLeap_iff]
  revert h
  simp only [splitYears]
  generalize days / 146097 = era
  generalize hd : days % 146097 = dayOfEra
  generalize hc : min (dayOfEra / 36524) 3 = century
  generalize hr : dayOfEra - 36524 * century = dayOfCentury
  generalize hq : dayOfCentury / 1461 = quad
  generalize hs : dayOfCentury - 1461 * quad = dayOfQuad
  generalize hy : min (dayOfQuad / 365) 3 = single
  intro h
  have hcentury : 0 ≤ century ∧ century ≤ 3 ∧ 0 ≤ dayOfCentury ∧ dayOfCentury ≤ 36524 ∧
      (century < 3 → dayOfCentury < 36524) := by omega
  have hquad : 0 ≤ quad ∧ quad ≤ 24 ∧ 0 ≤ dayOfQuad ∧ dayOfQuad ≤ 1460 := by omega
  have hsingle : single = 3 ∧ dayOfQuad = 1460 := by omega
  have hlast : quad = 24 → century = 3 := by omega
  have hyear : 400 * era + 100 * century + 4 * quad + single + 1 =
      400 * era + 100 * century + 4 * (quad + 1) := by omega
  rw [hyear]
  refine ⟨by omega, ?_⟩
  by_cases hquad24 : quad = 24
  · right
    omega
  · left
    omega

/-- The months of a March year end where the next ones begin, and the year in a leap day if any. -/
theorem valid_ofMarch {year dayOfYear : Int} (h₀ : 0 ≤ dayOfYear) (h₁ : dayOfYear ≤ 365)
    (hleap : dayOfYear = 365 → isLeap (year + 1) = true) : (ofMarch year dayOfYear).Valid := by
  simp only [ofMarch]
  generalize hm : (5 * dayOfYear + 2) / 153 = month
  have hmonth : 0 ≤ month ∧ month ≤ 11 := by omega
  split
  · next hlt =>
    have hnot : (month + 3).toNat ≠ 2 := by omega
    refine ⟨by simp only; omega, by simp only; omega, by simp only; omega, ?_⟩
    simp only [monthLength, if_neg hnot]
    split <;> omega
  · next hge =>
    refine ⟨by simp only; omega, by simp only; omega, by simp only; omega, ?_⟩
    simp only [monthLength]
    by_cases hfeb : (month - 9).toNat = 2
    · rw [if_pos hfeb]
      by_cases hlast : dayOfYear = 365
      · rw [if_pos (hleap hlast)]
        omega
      · split <;> omega
    · have hlong : ¬((month - 9).toNat = 4 ∨ (month - 9).toNat = 6 ∨ (month - 9).toNat = 9 ∨
          (month - 9).toNat = 11) := by omega
      rw [if_neg hfeb, if_neg hlong]
      omega

theorem monthLength_le (year : Int) (month : Nat) : monthLength year month ≤ 31 := by
  unfold monthLength
  split
  · split <;> omega
  · split <;> omega

theorem valid_ofDay (number : Int) : (ofDay number).Valid := by
  obtain ⟨-, h₀, h₁⟩ := splitYears_sum (number + epochOffset)
  exact valid_ofMarch h₀ h₁ isLeap_of_splitYears

theorem yearHeld_ofMarch {year dayOfYear number : Int} (h₀ : 0 ≤ dayOfYear) (h₁ : dayOfYear ≤ 365)
    (hsum : daysBeforeMarch year + dayOfYear = number + epochOffset)
    (hfirst : -96465292 ≤ number) (hlast : number ≤ 95026236) :
    Timestamp.yearHeld (ofMarch year dayOfYear).year := by
  simp only [daysBeforeMarch, epochOffset] at hsum
  simp only [ofMarch, Timestamp.yearHeld]
  -- the first and the last March year are held in part, by their months
  split
  · next hlt =>
    by_cases hedge : year = -262144
    · subst hedge
      omega
    · exact ⟨by simp only; omega, by simp only; omega⟩
  · next hge =>
    by_cases hedge : year = 262142
    · subst hedge
      omega
    · exact ⟨by simp only; omega, by simp only; omega⟩

theorem yearHeld_ofDay {number : Int} (hfirst : -96465292 ≤ number) (hlast : number ≤ 95026236) :
    Timestamp.yearHeld (ofDay number).year := by
  obtain ⟨hsum, h₀, h₁⟩ := splitYears_sum (number + epochOffset)
  exact yearHeld_ofMarch h₀ h₁ hsum hfirst hlast

end StateMachine.Date
