import Mathlib.Algebra.Group.Nat.Defs
import Mathlib.Data.List.TakeWhile
import StateMachine.Proofs.Calendar
import StateMachine.Timestamp.Writer

namespace StateMachine

structure IsNumber (digits : List Char) : Prop where
  ne_nil : digits ≠ []
  isDigit : ∀ c ∈ digits, c.isDigit = true

namespace IsNumber

variable {digits : List Char}

theorem exists_cons (h : IsNumber digits) : ∃ c rest, digits = c :: rest ∧ c.isDigit = true := by
  cases digits with
  | nil => exact (h.ne_nil rfl).elim
  | cons c rest => exact ⟨c, rest, rfl, h.isDigit c (by simp)⟩

theorem takeWhile_append (h : IsNumber digits) {mark : Char} (hm : mark.isDigit = false)
    (rest : List Char) : (digits ++ mark :: rest).takeWhile Char.isDigit = digits := by
  rw [List.takeWhile_append_of_pos h.isDigit, List.takeWhile_cons, hm]
  simp

theorem dropWhile_append (h : IsNumber digits) {mark : Char} (hm : mark.isDigit = false)
    (rest : List Char) : (digits ++ mark :: rest).dropWhile Char.isDigit = mark :: rest := by
  rw [List.dropWhile_append_of_pos h.isDigit, List.dropWhile_cons, hm]
  simp

theorem toDigits (n : Nat) : IsNumber (Nat.toDigits 10 n) where
  ne_nil := Nat.toDigits_ne_nil
  isDigit _ hc := Nat.isDigit_of_mem_toDigits (by decide) (by decide) hc

theorem padded (width n : Nat) : IsNumber (Timestamp.padded width n) where
  ne_nil := by simp [Timestamp.padded, List.leftpad, Nat.toDigits_ne_nil]
  isDigit c hc := by
    rcases List.mem_append.1 hc with hz | hd
    · rw [(List.mem_replicate.1 hz).2]
      decide
    · exact (toDigits n).isDigit c hd

end IsNumber

theorem Text.isBlank_of_isDigit {c : Char} (h : c.isDigit = true) : isBlank c = false := by
  have hc : 48 ≤ c.toNat ∧ c.toNat ≤ 57 := by
    simp only [Char.isDigit, Bool.and_eq_true, decide_eq_true_eq] at h
    exact ⟨UInt32.le_iff_toNat_le.1 h.1, UInt32.le_iff_toNat_le.1 h.2⟩
  simp only [isBlank, blankRanges, List.any_cons, List.any_nil, Bool.or_false, Bool.or_eq_false_iff,
    Bool.and_eq_false_iff, decide_eq_false_iff_not]
  omega

theorem Text.skipBlank_cons {c : Char} (h : isBlank c = false) (rest : List Char) :
    skipBlank (c :: rest) = c :: rest := by
  simp [skipBlank, h]

theorem Text.skipBlank_number {digits : List Char} (h : IsNumber digits) (rest : List Char) :
    skipBlank (digits ++ rest) = digits ++ rest := by
  obtain ⟨c, tail, rfl, hc⟩ := h.exists_cons
  exact skipBlank_cons (isBlank_of_isDigit hc) _

namespace Timestamp

theorem length_padded {width n : Nat} (hw : 0 < width) (hn : n < 10 ^ width) :
    (padded width n).length = width := by
  have hl := (Nat.length_toDigits_le_iff (b := 10) (by decide) hw).2 hn
  simp only [padded, List.leftpad, List.length_append, List.length_replicate]
  omega

@[simp] theorem ofDigitChars_padded (width n : Nat) :
    Nat.ofDigitChars 10 (padded width n) 0 = n := by
  rw [padded, List.leftpad, Nat.ofDigitChars_append, Nat.ofDigitChars_replicate_zero, Nat.mul_zero,
    Nat.ofDigitChars_ten_toDigits]

/-- A number is read up to its limit, or up to something else than a digit. -/
theorem readNumber_append {digits rest : List Char} {limit : Nat} (h : IsNumber digits)
    (hl : digits.length ≤ limit)
    (hr : digits.length = limit ∨ ∃ mark tail, rest = mark :: tail ∧ mark.isDigit = false) :
    readNumber limit (digits ++ rest) = some (Nat.ofDigitChars 10 digits 0, rest) := by
  have hd : ((digits ++ rest).take limit).takeWhile Char.isDigit = digits := by
    rw [List.take_append, List.take_of_length_le hl, List.takeWhile_append_of_pos h.isDigit]
    rcases hr with rfl | ⟨mark, tail, rfl, hm⟩
    · simp
    · cases limit - digits.length <;> simp [hm]
  have hne : digits.isEmpty = false := by
    rw [List.isEmpty_eq_false_iff]
    exact h.ne_nil
  simp only [readNumber, hd, hne, List.drop_left]
  rfl

theorem readNumber_padded {width n : Nat} (hw : 0 < width) (hn : n < 10 ^ width)
    (rest : List Char) : readNumber width (padded width n ++ rest) = some (n, rest) := by
  have hl := length_padded hw hn
  rw [readNumber_append (.padded width n) (Nat.le_of_eq hl) (.inl hl), ofDigitChars_padded]

theorem readNumber_two {n : Nat} (h : n < 100) (rest : List Char) :
    readNumber 2 (padded 2 n ++ rest) = some (n, rest) :=
  readNumber_padded (by decide) h rest

@[simp] theorem readMark_cons (mark : Char) (rest : List Char) :
    readMark mark (mark :: rest) = some rest := by
  simp [readMark]

theorem readYear_of_isDigit {c : Char} (h : c.isDigit = true) (rest : List Char) :
    readYear (c :: rest) = (readNumber 4 (c :: rest)).map fun (n, rest) => ((n : Int), rest) := by
  unfold readYear
  split
  · next he =>
    cases he
    cases h
  · next he =>
    cases he
    cases h
  · rfl

theorem readYear_writeYear (year : Int) (rest : List Char) :
    readYear (writeYear year ++ '-' :: rest) = some (year, '-' :: rest) := by
  have hsigned : ∀ n : Nat,
      readNumber (padded 4 n ++ '-' :: rest).length (padded 4 n ++ '-' :: rest) =
        some (n, '-' :: rest) := by
    intro n
    rw [readNumber_append (.padded 4 n) (by simp) (.inr ⟨'-', rest, rfl, by decide⟩),
      ofDigitChars_padded]
  unfold writeYear
  split
  · simp only [List.cons_append, readYear, hsigned, Option.map_some, Option.some.injEq,
      Prod.mk.injEq, and_true]
    omega
  · split
    · simp only [List.cons_append, readYear, hsigned, Option.map_some, Option.some.injEq,
        Prod.mk.injEq, and_true]
      omega
    · have hlt : year.natAbs < 10 ^ 4 := by omega
      obtain ⟨c, tail, he, hc⟩ := (IsNumber.padded 4 year.natAbs).exists_cons
      have hread := readNumber_padded (by decide) hlt ('-' :: rest)
      rw [he, List.cons_append] at hread ⊢
      rw [readYear_of_isDigit hc, hread, Option.map_some]
      simp only [Option.some.injEq, Prod.mk.injEq, and_true]
      omega

theorem skipBlank_writeYear (year : Int) (rest : List Char) :
    Text.skipBlank (writeYear year ++ rest) = writeYear year ++ rest := by
  unfold writeYear
  split
  · exact Text.skipBlank_cons (by decide) _
  · split
    · exact Text.skipBlank_cons (by decide) _
    · exact Text.skipBlank_number (.padded 4 year.natAbs) rest

theorem skipBlank_padded (width n : Nat) (rest : List Char) :
    Text.skipBlank (padded width n ++ rest) = padded width n ++ rest :=
  Text.skipBlank_number (.padded width n) rest

theorem readDate_writeDate {date : Date} (hm : date.month < 100) (hd : date.day < 100)
    (rest : List Char) : readDate (writeDate date ++ rest) = some (date, rest) := by
  have hdash : ∀ rest, Text.skipBlank ('-' :: rest) = '-' :: rest :=
    Text.skipBlank_cons (by decide)
  simp only [readDate, writeDate, List.append_assoc, List.cons_append, skipBlank_writeYear,
    readYear_writeYear, Option.bind_eq_bind, Option.bind_some, hdash, readMark_cons,
    skipBlank_padded, readNumber_two hm, readNumber_two hd, Option.pure_def]

/-- The first nine digits of a fraction count, and missing ones are zeros. -/
theorem readFraction_padded {width n : Nat} (hw : 0 < width) (hw9 : width ≤ 9)
    (hn : n < 10 ^ width) {mark : Char} (hm : mark.isDigit = false) (rest : List Char) :
    readFraction ('.' :: padded width n ++ mark :: rest) =
      some (n * 10 ^ (9 - width), mark :: rest) := by
  have hnum := IsNumber.padded width n
  have hlen := length_padded hw hn
  have hne : (padded width n).isEmpty = false := by
    rw [List.isEmpty_eq_false_iff]
    exact hnum.ne_nil
  have hnine : (padded width n ++ List.replicate 9 '0').take 9 =
      padded width n ++ List.replicate (9 - width) '0' := by
    rw [List.take_append, List.take_of_length_le (by omega), hlen, List.take_replicate]
    congr 2
    omega
  simp only [List.cons_append, readFraction, hnum.takeWhile_append hm, hne, hnine, List.drop_left,
    Nat.ofDigitChars_append, ofDigitChars_padded, Nat.ofDigitChars_replicate_zero]
  simp [Nat.mul_comm]

theorem readFraction_writeFraction {nanos : Nat} (hn : nanos < 1000000000) (rest : List Char) :
    readFraction (writeFraction nanos ++ 'Z' :: rest) = some (nanos, 'Z' :: rest) := by
  unfold writeFraction
  split
  · next hzero =>
    rw [hzero]
    rfl
  · split
    · next hmilli =>
      have hback : nanos / 1000000 * 10 ^ (9 - 3) = nanos := by omega
      rw [readFraction_padded (by decide) (by decide) (by omega) (by decide), hback]
    · split
      · next hmicro =>
        have hback : nanos / 1000 * 10 ^ (9 - 6) = nanos := by omega
        rw [readFraction_padded (by decide) (by decide) (by omega) (by decide), hback]
      · rw [readFraction_padded (by decide) (by decide) (by omega) (by decide)]
        simp

def Clock.ofSecond (secondOfDay nanos : Nat) : Clock :=
  ⟨secondOfDay / 3600, secondOfDay / 60 % 60, secondOfDay % 60 + nanos / 1000000000,
    nanos % 1000000000⟩

theorem Clock.valid_ofSecond {secondOfDay nanos : Nat} (hs : secondOfDay < 86400)
    (hn : nanos < 2000000000) : (ofSecond secondOfDay nanos).Valid := by
  simp only [Valid, ofSecond]
  omega

/-- A second 60 counts as the second before it if only the last second of a minute can leap. -/
theorem Clock.counts_ofSecond {secondOfDay nanos : Nat} (hn : nanos < 2000000000)
    (hleap : 1000000000 ≤ nanos → secondOfDay % 60 = 59) :
    (ofSecond secondOfDay nanos).counts = (secondOfDay, nanos) := by
  unfold counts
  by_cases hlast : (ofSecond secondOfDay nanos).second = 60
  · rw [if_pos hlast]
    simp only [ofSecond, Prod.mk.injEq] at hlast ⊢
    omega
  · rw [if_neg hlast]
    simp only [ofSecond, Prod.mk.injEq] at hlast ⊢
    omega

theorem readClock_writeClock {secondOfDay nanos : Nat} (hs : secondOfDay < 86400)
    (hn : nanos < 2000000000) :
    readClock (writeClock secondOfDay nanos ++ ['Z']) =
      some (.ofSecond secondOfDay nanos, ['Z']) := by
  have hcolon : ∀ rest, Text.skipBlank (':' :: rest) = ':' :: rest :=
    Text.skipBlank_cons (by decide)
  have hzone : Text.skipBlank ['Z'] = ['Z'] := Text.skipBlank_cons (by decide) []
  have hhour : secondOfDay / 3600 < 100 := by omega
  have hminute : secondOfDay / 60 % 60 < 100 := by omega
  have hsecond : secondOfDay % 60 + nanos / 1000000000 < 100 := by omega
  have hrest : nanos % 1000000000 < 1000000000 := Nat.mod_lt _ (by decide)
  simp only [readClock, writeClock, List.append_assoc, List.cons_append, skipBlank_padded,
    readNumber_two hhour, readNumber_two hminute, readNumber_two hsecond, hcolon, readMark_cons,
    readFraction_writeFraction hrest, hzone, Option.bind_eq_bind, Option.bind_some, Option.pure_def]
  rfl

theorem ofLocal?_counts {time : Timestamp} (h : time.LeapsAtEnd) :
    ofLocal? (.ofDay (time.seconds / 86400))
      (.ofSecond (time.seconds % 86400).toNat time.nanos) 0 = some time := by
  have hfirst := time.first_le
  have hlast := time.le_last
  simp only [firstSecond, lastSecond] at hfirst hlast
  have hsod : (time.seconds % 86400).toNat < 86400 := by omega
  have hleap : 1000000000 ≤ time.nanos → (time.seconds % 86400).toNat % 60 = 59 := by
    intro hn
    have := h hn
    omega
  have hyear : yearHeld (Date.ofDay (time.seconds / 86400)).year :=
    Date.yearHeld_ofDay (by omega) (by omega)
  have hclock := Clock.valid_ofSecond hsod time.nanos_lt
  have hseconds : 86400 * (time.seconds / 86400) + (time.seconds % 86400).toNat - 60 * 0 =
      time.seconds := by omega
  rw [ofLocal?, if_pos ⟨Date.valid_ofDay _, hyear, hclock⟩,
    Clock.counts_ofSecond time.nanos_lt hleap, Date.toDay_ofDay, hseconds,
    ofUnix?_eq_some_iff.2 ⟨rfl, rfl, h⟩]

theorem read?_write_of_leapsAtEnd {time : Timestamp} (h : time.LeapsAtEnd) :
    read? time.write = some time := by
  have hvalid := Date.valid_ofDay (time.seconds / 86400)
  have hmonth : (Date.ofDay (time.seconds / 86400)).month < 100 := by
    have := hvalid.2.1
    omega
  have hday : (Date.ofDay (time.seconds / 86400)).day < 100 := by
    have hle := hvalid.2.2.2
    have hlength := Date.monthLength_le (Date.ofDay (time.seconds / 86400)).year
      (Date.ofDay (time.seconds / 86400)).month
    omega
  have hsod : (time.seconds % 86400).toNat < 86400 := by omega
  have hzone : readZone ['Z'] = some (0, []) := rfl
  simp only [read?, write, List.append_assoc, List.cons_append, readDate_writeDate hmonth hday,
    readSeparator, readClock_writeClock hsod time.nanos_lt, hzone, Option.bind_eq_bind,
    Option.bind_some, true_or, if_true]
  exact ofLocal?_counts h

/-- Nanoseconds that leap before the end of a minute are those of the next second, as a clock shows
them. -/
def carried (time : Timestamp) : Timestamp :=
  if h : time.LeapsAtEnd then time
  else
    { seconds := time.seconds + 1
      nanos := time.nanos - 1000000000
      first_le := by
        have := time.first_le
        omega
      le_last := by
        have hlast := time.le_last
        simp only [LeapsAtEnd, Classical.not_imp, lastSecond] at h hlast ⊢
        omega
      nanos_lt := by
        have := time.nanos_lt
        omega }

theorem carried_of_leapsAtEnd {time : Timestamp} (h : time.LeapsAtEnd) : time.carried = time :=
  dif_pos h

theorem leapsAtEnd_carried (time : Timestamp) : time.carried.LeapsAtEnd := by
  unfold carried
  split
  · assumption
  · have hnanos := time.nanos_lt
    intro hleap
    simp only at hleap
    omega

theorem carried_eq_self_iff {time : Timestamp} : time.carried = time ↔ time.LeapsAtEnd :=
  ⟨fun h => h ▸ time.leapsAtEnd_carried, carried_of_leapsAtEnd⟩

theorem writeClock_carry {secondOfDay nanos : Nat} (hsecond : secondOfDay % 60 ≠ 59)
    (hleap : 1000000000 ≤ nanos) :
    writeClock (secondOfDay + 1) (nanos - 1000000000) = writeClock secondOfDay nanos := by
  have hhour : (secondOfDay + 1) / 3600 = secondOfDay / 3600 := by omega
  have hminute : (secondOfDay + 1) / 60 % 60 = secondOfDay / 60 % 60 := by omega
  have hshown : (secondOfDay + 1) % 60 + (nanos - 1000000000) / 1000000000 =
      secondOfDay % 60 + nanos / 1000000000 := by omega
  have hrest : (nanos - 1000000000) % 1000000000 = nanos % 1000000000 := by omega
  simp only [writeClock, hhour, hminute, hshown, hrest]

/-- The text of a timestamp does not tell whether nanoseconds were carried. -/
theorem write_carried (time : Timestamp) : time.carried.write = time.write := by
  unfold carried
  split
  · rfl
  · next h =>
    simp only [LeapsAtEnd, Classical.not_imp] at h
    obtain ⟨hnanos, hsecond⟩ := h
    have hday : (time.seconds + 1) / 86400 = time.seconds / 86400 := by omega
    have hsod : ((time.seconds + 1) % 86400).toNat = (time.seconds % 86400).toNat + 1 := by omega
    have hend : (time.seconds % 86400).toNat % 60 ≠ 59 := by omega
    simp only [write, hday, hsod, writeClock_carry hend hnanos]

/-- A timestamp is read as it was written, but for nanoseconds that leap before the end of a
minute. -/
theorem read?_write (time : Timestamp) : read? time.write = some time.carried := by
  rw [← write_carried]
  exact read?_write_of_leapsAtEnd time.leapsAtEnd_carried

theorem ofText?_toText (time : Timestamp) : ofText? time.toText = some time.carried := by
  rw [ofText?, toText, String.toList_ofList, read?_write]

theorem leapsAtEnd_of_read? {text : List Char} {time : Timestamp} (h : read? text = some time) :
    time.LeapsAtEnd := by
  simp only [read?, Option.bind_eq_bind, Option.bind_eq_some_iff, Prod.exists] at h
  obtain ⟨date, _, -, _, -, clock, _, -, zone, _, -, h⟩ := h
  split at h
  · unfold ofLocal? at h
    split at h
    · exact (ofUnix?_eq_some_iff.1 h).2.2
    · cases h
  · cases h

end Timestamp

end StateMachine
