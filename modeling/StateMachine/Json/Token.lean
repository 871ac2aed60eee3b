import StateMachine.Json.Numeral

namespace StateMachine.Json

inductive Token where
  | openBrace
  | closeBrace
  | openBracket
  | closeBracket
  | comma
  | colon
  | null
  | boolean (value : Bool)
  | number (numeral : Numeral)
  /-- A string; without content if it has an unpaired surrogate. -/
  | string (content : Option (List Char))
  /-- The last token of a text where no further one begins or the one begun is not finished, so that
  a reader meets the defect only when it gets there. -/
  | broken
  deriving DecidableEq, Repr

def isSpace (c : Char) : Bool := c = ' ' || c = '\t' || c = '\n' || c = '\r'

def ProperSuffix (rest tokens : List Token) : Prop :=
  ∃ token later, tokens = token :: later ∧ rest <:+ later

namespace ProperSuffix

variable {token : Token} {tokens rest : List Token}

theorem cons (h : rest <:+ tokens) : ProperSuffix rest (token :: tokens) := ⟨token, tokens, rfl, h⟩

theorem suffix (h : ProperSuffix rest tokens) : rest <:+ tokens := by
  obtain ⟨token, later, rfl, hrest⟩ := h
  exact hrest.trans (List.suffix_cons token later)

theorem length_lt (h : ProperSuffix rest tokens) : rest.length < tokens.length := by
  obtain ⟨token, later, rfl, hrest⟩ := h
  exact Nat.lt_succ_of_le hrest.length_le

end ProperSuffix

inductive Piece where
  | plain (c : Char)
  | unit (value : Nat)
  deriving DecidableEq, Repr

def hexDigit? (c : Char) : Option Nat :=
  if c.isDigit then some (c.toNat - '0'.toNat)
  else if 'a' ≤ c ∧ c ≤ 'f' then some (c.toNat - 'a'.toNat + 10)
  else if 'A' ≤ c ∧ c ≤ 'F' then some (c.toNat - 'A'.toNat + 10)
  else none

def hexQuad? (a b c d : Char) : Option Nat := do
  let a ← hexDigit? a
  let b ← hexDigit? b
  let c ← hexDigit? c
  let d ← hexDigit? d
  return ((a * 16 + b) * 16 + c) * 16 + d

def shortEscape? : Char → Option Char
  | '"' => some '"'
  | '\\' => some '\\'
  | '/' => some '/'
  | 'b' => some '\x08'
  | 'f' => some '\x0c'
  | 'n' => some '\n'
  | 'r' => some '\r'
  | 't' => some '\t'
  | _ => none

def pieces? : List Char → Option (List Piece × List Char)
  | [] => none
  | '"' :: rest => some ([], rest)
  | '\\' :: 'u' :: a :: b :: c :: d :: rest => do
    let unit ← hexQuad? a b c d
    let (pieces, rest) ← pieces? rest
    return (.unit unit :: pieces, rest)
  | '\\' :: c :: rest => do
    let plain ← shortEscape? c
    let (pieces, rest) ← pieces? rest
    return (.plain plain :: pieces, rest)
  | c :: rest =>
    if c.toNat < 32 ∨ c = '\\' then none
    else do
      let (pieces, rest) ← pieces? rest
      return (.plain c :: pieces, rest)

def isHighSurrogate (unit : Nat) : Bool := 0xd800 ≤ unit && unit < 0xdc00

def isLowSurrogate (unit : Nat) : Bool := 0xdc00 ≤ unit && unit < 0xe000

/-- The text that pieces stand for: two code units that form a surrogate pair are one character, and
a surrogate on its own is none. -/
def join? : List Piece → Option (List Char)
  | [] => some []
  | .plain c :: rest => (join? rest).map (c :: ·)
  | .unit high :: .unit low :: rest =>
    if isHighSurrogate high then
      if isLowSurrogate low then
        (join? rest).map (Char.ofNat (0x10000 + (high - 0xd800) * 0x400 + (low - 0xdc00)) :: ·)
      else none
    else if isLowSurrogate high then none
    else (join? (.unit low :: rest)).map (Char.ofNat high :: ·)
  | .unit value :: rest =>
    if isHighSurrogate value || isLowSurrogate value then none
    else (join? rest).map (Char.ofNat value :: ·)

def digits (text : List Char) : List Char × List Char :=
  (text.takeWhile Char.isDigit, text.dropWhile Char.isDigit)

def whole? (text : List Char) : Option (List Char × List Char) :=
  match digits text with
  | ([], _) => none
  | (d :: ds, rest) => if d = '0' ∧ !ds.isEmpty then none else some (d :: ds, rest)

def fraction? : List Char → Option (Option (List Char) × List Char)
  | '.' :: text =>
    match digits text with
    | ([], _) => none
    | (ds, rest) => some (some ds, rest)
  | text => some (none, text)

def exponentSign : List Char → Bool × List Char
  | '-' :: rest => (true, rest)
  | '+' :: rest => (false, rest)
  | text => (false, text)

def exponent? : List Char → Option (Option (Bool × List Char) × List Char)
  | [] => some (none, [])
  | c :: text =>
    if c = 'e' ∨ c = 'E' then
      let (negative, text) := exponentSign text
      match digits text with
      | ([], _) => none
      | (ds, rest) => some (some (negative, ds), rest)
    else some (none, c :: text)

def numeral? (negative : Bool) (text : List Char) : Option (Numeral × List Char) := do
  let (whole, text) ← whole? text
  let (fraction, text) ← fraction? text
  let (exponent, text) ← exponent? text
  return (⟨negative, whole, fraction, exponent⟩, text)

def tokenAt? : List Char → Option (Token × List Char)
  | [] => none
  | '{' :: rest => some (.openBrace, rest)
  | '}' :: rest => some (.closeBrace, rest)
  | '[' :: rest => some (.openBracket, rest)
  | ']' :: rest => some (.closeBracket, rest)
  | ',' :: rest => some (.comma, rest)
  | ':' :: rest => some (.colon, rest)
  | '"' :: rest => (pieces? rest).map fun (pieces, rest) => (.string (join? pieces), rest)
  | 'n' :: 'u' :: 'l' :: 'l' :: rest => some (.null, rest)
  | 't' :: 'r' :: 'u' :: 'e' :: rest => some (.boolean true, rest)
  | 'f' :: 'a' :: 'l' :: 's' :: 'e' :: rest => some (.boolean false, rest)
  | '-' :: rest => (numeral? true rest).map fun (numeral, rest) => (.number numeral, rest)
  | text => (numeral? false text).map fun (numeral, rest) => (.number numeral, rest)

end StateMachine.Json
