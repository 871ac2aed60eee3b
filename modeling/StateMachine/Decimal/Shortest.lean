namespace StateMachine

structure Decimal where
  digits : Nat
  exponent : Int
  deriving DecidableEq, Repr

namespace Decimal

/-- A positive binary number `4 * significand` with the ends of its rounding interval, all three in
units of `2 ^ exponent`. -/
structure Rounding where
  lower : Nat
  value : Nat
  upper : Nat
  exponent : Int
  closed : Bool
  deriving Repr

def implicitBit : Nat := 0x10000000000000

def signBit : Nat := 0x8000000000000000

/-- The magnitude given by the bits of a finite double. The interval is narrower below a power of
two, and closed when the significand is even. -/
def Rounding.ofBits (bits : Nat) : Rounding :=
  let fraction := bits % implicitBit
  let exponent := bits / implicitBit % 2048
  let significand := if exponent = 0 then fraction else fraction + implicitBit
  let below := if fraction = 0 ∧ 1 < exponent then 1 else 2
  { lower := 4 * significand - below
    value := 4 * significand
    upper := 4 * significand + 2
    exponent := (max exponent 1 : Nat) - 1077
    closed := significand % 2 = 0 }

def scales (binary decimal : Int) : Nat × Nat :=
  (Nat.pow 2 binary.toNat * Nat.pow 10 (-decimal).toNat,
    Nat.pow 10 decimal.toNat * Nat.pow 2 (-binary).toNat)

/-- The exponent of the leading decimal digit of a positive number. The number is first moved 400
places to the left, which makes it at least 1. -/
def Rounding.magnitude (r : Rounding) : Int :=
  let (binary, decimal) := scales r.exponent (-400)
  ((Nat.toDigits 10 (r.value * binary / decimal)).length : Int) - 401

/-- The decimal nearest to the number among its two neighbours on the grid of the multiples of
`10 ^ exponent`, if one of them lies in the rounding interval. -/
def Rounding.onGrid? (r : Rounding) (exponent : Int) : Option Decimal :=
  let (binary, unit) := scales r.exponent exponent
  let value := r.value * binary
  let inside (digits : Nat) : Bool :=
    if r.closed then r.lower * binary ≤ digits * unit ∧ digits * unit ≤ r.upper * binary
    else r.lower * binary < digits * unit ∧ digits * unit < r.upper * binary
  let down := value / unit
  let up := down + 1
  let below := value - down * unit
  let above := up * unit - value
  match inside down && down ≠ 0, inside up with
  | true, true =>
    some ⟨if below < above ∨ (below = above ∧ down % 2 = 0) then down else up, exponent⟩
  | true, false => some ⟨down, exponent⟩
  | false, true => some ⟨up, exponent⟩
  | false, false => none

/-- The first hit on the grids with `count`, `count + 1`, … digits; `more` bounds the search. -/
def Rounding.search (r : Rounding) (magnitude : Int) : (more count : Nat) → Decimal
  | 0, _ => ⟨0, 0⟩
  | more + 1, count =>
    match r.onGrid? (magnitude + 1 - count) with
    | some decimal => decimal
    | none => r.search magnitude more (count + 1)

def Rounding.shortest (r : Rounding) : Decimal := r.search r.magnitude 17 1

/-- Moves trailing zeros of the digits into the exponent; `fuel` bounds their number. -/
def strip : Nat → Decimal → Decimal
  | 0, d => d
  | fuel + 1, d =>
    if d.digits % 10 = 0 then strip fuel ⟨d.digits / 10, d.exponent + 1⟩ else d

structure Format where
  least : Int
  greatest : Int
  plus : Bool

def writeExponent (format : Format) (exponent : Int) : List Char :=
  (if exponent < 0 then ['-'] else if format.plus then ['+'] else []) ++
    Nat.toDigits 10 exponent.natAbs

/-- A positive decimal as text. Positional text has a digit on both sides of the point; other
numbers have one digit before the point, and no point if that is their only digit. -/
def write (format : Format) (d : Decimal) : List Char :=
  let digits := Nat.toDigits 10 d.digits
  let point : Int := digits.length + d.exponent
  let leading := point - 1
  if format.least ≤ leading ∧ leading ≤ format.greatest then
    if 0 ≤ d.exponent then digits ++ List.replicate d.exponent.toNat '0' ++ ['.', '0']
    else if 0 < point then digits.take point.toNat ++ '.' :: digits.drop point.toNat
    else '0' :: '.' :: List.replicate (-point).toNat '0' ++ digits
  else
    let tail := digits.drop 1
    let mantissa := digits.take 1 ++ if tail.isEmpty then [] else '.' :: tail
    mantissa ++ 'e' :: writeExponent format leading

def writeDouble (format : Format) (x : Float) : String :=
  let bits := x.toBits.toNat
  let sign := if signBit ≤ bits then ['-'] else []
  let magnitude := bits % signBit
  String.ofList <| sign ++
    if magnitude = 0 then ['0', '.', '0']
    else ((Rounding.ofBits magnitude).shortest |> strip 17).write format

end Decimal

end StateMachine
