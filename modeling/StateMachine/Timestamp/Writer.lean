import StateMachine.Timestamp

namespace StateMachine.Timestamp

def padded (width number : Nat) : List Char := (Nat.toDigits 10 number).leftpad width '0'

/-- A year, with a sign unless it has at most four digits. -/
def writeYear (year : Int) : List Char :=
  if year < 0 then '-' :: padded 4 year.natAbs
  else if 9999 < year then '+' :: padded 4 year.natAbs
  else padded 4 year.natAbs

def writeDate (date : Date) : List Char :=
  writeYear date.year ++ '-' :: padded 2 date.month ++ '-' :: padded 2 date.day

/-- The fraction of a second with 3, 6 or 9 digits, whichever is the fewest that are exact, and
nothing for a whole second. -/
def writeFraction (nanos : Nat) : List Char :=
  if nanos = 0 then []
  else if nanos % 1000000 = 0 then '.' :: padded 3 (nanos / 1000000)
  else if nanos % 1000 = 0 then '.' :: padded 6 (nanos / 1000)
  else '.' :: padded 9 nanos

/-- The time of a day. A leap second is counted by its nanoseconds. -/
def writeClock (secondOfDay nanos : Nat) : List Char :=
  padded 2 (secondOfDay / 3600) ++ ':' :: padded 2 (secondOfDay / 60 % 60) ++
    ':' :: padded 2 (secondOfDay % 60 + nanos / 1000000000) ++ writeFraction (nanos % 1000000000)

/-- The characters of a timestamp in UTC: `YYYY-MM-DDTHH:MM:SS`, a fraction if there is one, and
`Z`. -/
def write (time : Timestamp) : List Char :=
  writeDate (.ofDay (time.seconds / 86400)) ++
    'T' :: writeClock (time.seconds % 86400).toNat time.nanos ++ ['Z']

def toText (time : Timestamp) : String := String.ofList time.write

end StateMachine.Timestamp
