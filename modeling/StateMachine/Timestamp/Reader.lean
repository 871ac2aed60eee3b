import StateMachine.Text.Blank
import StateMachine.Timestamp

namespace StateMachine.Timestamp

def readNumber (limit : Nat) (text : List Char) : Option (Nat × List Char) :=
  let digits := (text.take limit).takeWhile Char.isDigit
  if digits.isEmpty then none
  else some (Nat.ofDigitChars 10 digits 0, text.drop digits.length)

def readMark (mark : Char) : List Char → Option (List Char)
  | [] => none
  | c :: rest => if c = mark then some rest else none

def readYear : List Char → Option (Int × List Char)
  | '-' :: rest => (readNumber rest.length rest).map fun (n, rest) => (-(n : Int), rest)
  | '+' :: rest => (readNumber rest.length rest).map fun (n, rest) => ((n : Int), rest)
  | text => (readNumber 4 text).map fun (n, rest) => ((n : Int), rest)

def readDate (text : List Char) : Option (Date × List Char) := do
  let (year, text) ← readYear (Text.skipBlank text)
  let text ← readMark '-' (Text.skipBlank text)
  let (month, text) ← readNumber 2 (Text.skipBlank text)
  let text ← readMark '-' (Text.skipBlank text)
  let (day, text) ← readNumber 2 (Text.skipBlank text)
  return (⟨year, month, day⟩, text)

def readSeparator : List Char → Option (List Char)
  | c :: rest => if c = 'T' ∨ c = 't' ∨ c = ' ' then some rest else none
  | [] => none

/-- An optional fraction of a second, in nanoseconds. Digits behind the ninth do not count. -/
def readFraction : List Char → Option (Nat × List Char)
  | '.' :: text =>
    let digits := text.takeWhile Char.isDigit
    if digits.isEmpty then none
    else some (Nat.ofDigitChars 10 ((digits ++ List.replicate 9 '0').take 9) 0,
      text.drop digits.length)
  | text => some (0, text)

structure Clock where
  hour : Nat
  minute : Nat
  second : Nat
  nanos : Nat
  deriving DecidableEq, Repr

def Clock.Valid (clock : Clock) : Prop :=
  clock.hour ≤ 23 ∧ clock.minute ≤ 59 ∧ clock.second ≤ 60

instance (clock : Clock) : Decidable clock.Valid :=
  inferInstanceAs (Decidable (_ ∧ _ ∧ _))

/-- Second 60 is the last second of its minute with 1000000000 nanoseconds more. -/
def Clock.counts (clock : Clock) : Nat × Nat :=
  let minutes := 60 * clock.hour + clock.minute
  if clock.second = 60 then (60 * minutes + 59, clock.nanos + 1000000000)
  else (60 * minutes + clock.second, clock.nanos)

def readClock (text : List Char) : Option (Clock × List Char) := do
  let (hour, text) ← readNumber 2 (Text.skipBlank text)
  let text ← readMark ':' (Text.skipBlank text)
  let (minute, text) ← readNumber 2 (Text.skipBlank text)
  let text ← readMark ':' (Text.skipBlank text)
  let (second, text) ← readNumber 2 (Text.skipBlank text)
  let (nanos, text) ← readFraction text
  return (⟨hour, minute, second, nanos⟩, Text.skipBlank text)

def readTwo : List Char → Option (Nat × List Char)
  | a :: b :: rest =>
    if a.isDigit ∧ b.isDigit then some (Nat.ofDigitChars 10 [a, b] 0, rest) else none
  | _ => none

/-- The hours and minutes of an offset, in minutes: less than 24 hours in all. Colons and blanks
between the two are skipped. -/
def readOffset (text : List Char) : Option (Nat × List Char) := do
  let (hours, text) ← readTwo text
  let (minutes, text) ← readTwo (text.dropWhile fun c => c == ':' || Text.isBlank c)
  if hours < 24 ∧ minutes < 60 then return (60 * hours + minutes, text) else none

/-- The zone of a clock as minutes ahead of UTC. A minus sign proper (U+2212) counts as one. -/
def readZone : List Char → Option (Int × List Char)
  | [] => none
  | c :: rest =>
    if c = 'Z' ∨ c = 'z' then some (0, rest)
    else if c = '+' then (readOffset rest).map fun (n, rest) => ((n : Int), rest)
    else if c = '-' ∨ c = '\u2212' then
      (readOffset rest).map fun (n, rest) => (-(n : Int), rest)
    else if ((c :: rest).take 3).map Char.toLower = ['u', 't', 'c'] then some (0, rest.drop 2)
    else none

def yearHeld (year : Int) : Prop := -262143 ≤ year ∧ year ≤ 262142

instance (year : Int) : Decidable (yearHeld year) := inferInstanceAs (Decidable (_ ∧ _))

def ofLocal? (date : Date) (clock : Clock) (zone : Int) : Option Timestamp :=
  if date.Valid ∧ yearHeld date.year ∧ clock.Valid then
    ofUnix? (86400 * date.toDay + clock.counts.1 - 60 * zone) clock.counts.2
  else none

def read? (text : List Char) : Option Timestamp := do
  let (date, text) ← readDate text
  let text ← readSeparator text
  let (clock, text) ← readClock text
  let (zone, text) ← readZone text
  if (Text.skipBlank text).isEmpty then ofLocal? date clock zone else none

def ofText? (text : String) : Option Timestamp := read? text.toList

end StateMachine.Timestamp
