namespace StateMachine.Json

/-- The parts of a number in the text. Digits are kept as characters, and the exponent has a sign,
negative if it is true. -/
structure Numeral where
  negative : Bool
  whole : List Char
  fraction : Option (List Char)
  exponent : Option (Bool × List Char)
  deriving DecidableEq, Repr

inductive Number where
  | integer (value : Int)
  | float (value : Float)
  deriving Repr

namespace Numeral

def natural (digits : List Char) : Nat := Nat.ofDigitChars 10 digits 0

def absorb (significand : Nat) : List Char → Nat × Nat
  | [] => (significand, 0)
  | digit :: rest =>
    let next := Nat.ofDigitChars 10 [digit] significand
    if next < UInt64.size then
      let (final, taken) := absorb next rest
      (final, taken + 1)
    else (significand, 0)

def divideByPower (x : Float) (power : Nat) : Float :=
  if power ≤ 308 then x / Float.ofScientific 1 false power
  else if x == 0 then x
  else divideByPower (x / Float.ofScientific 1 false 308) (power - 308)
termination_by power

def multiplyByPower? (x : Float) (power : Nat) : Option Float :=
  if power ≤ 308 then
    let product := x * Float.ofScientific 1 false power
    if product.isInf then none else some product
  else if x == 0 then some x
  else none

/-- The double that a numeral denotes: a significand of at most 64 bits times a power of ten. Whole
digits that do not fit raise the power; digits of the fraction lower it as they are taken. -/
def float? (n : Numeral) : Option Float :=
  let (significand, taken) := absorb 0 n.whole
  let (significand, fractional) := absorb significand (n.fraction.getD [])
  let explicit : Int :=
    match n.exponent with
    | none => 0
    | some (negative, digits) => if negative then -(natural digits : Int) else natural digits
  let power : Int := ((n.whole.length - taken : Nat) : Int) - fractional + explicit
  let base := significand.toUInt64.toFloat
  let magnitude? :=
    if power < 0 then some (divideByPower base power.natAbs)
    else multiplyByPower? base power.natAbs
  magnitude?.map fun magnitude => if n.negative then -magnitude else magnitude

/-- The value of a numeral; none if its magnitude is beyond the range of doubles. Negative zero is
a double. -/
def number? (n : Numeral) : Option Number :=
  let value := natural n.whole
  if n.fraction.isNone ∧ n.exponent.isNone ∧
      (if n.negative then 0 < value ∧ value ≤ Int64.size / 2 else value < UInt64.size) then
    some (.integer (if n.negative then -(value : Int) else value))
  else n.float?.map .float

end Numeral

end StateMachine.Json
