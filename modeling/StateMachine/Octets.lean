namespace StateMachine.Octets

/-- The lowest `width` bytes of a number, the least significant first. -/
def ofNat : (width number : Nat) → List UInt8
  | 0, _ => []
  | width + 1, number => UInt8.ofNat number :: ofNat width (number / 256)

def toNat : List UInt8 → Nat
  | [] => 0
  | byte :: rest => byte.toNat + 256 * toNat rest

def split? (count : Nat) (bytes : List UInt8) : Option (List UInt8 × List UInt8) :=
  if count ≤ bytes.length then some (bytes.take count, bytes.drop count) else none

def readNat? (width : Nat) (bytes : List UInt8) : Option (Nat × List UInt8) :=
  (split? width bytes).map fun (number, rest) => (toNat number, rest)

def ofText (text : String) : List UInt8 := text.toUTF8.data.toList

def toText? (bytes : List UInt8) : Option String := String.fromUTF8? bytes.toByteArray

/-- A text in UTF-8 behind its length, which takes eight bytes. -/
def writeText (text : String) : List UInt8 :=
  let bytes := ofText text
  ofNat 8 bytes.length ++ bytes

def readText? (bytes : List UInt8) : Option (String × List UInt8) := do
  let (length, bytes) ← readNat? 8 bytes
  let (content, rest) ← split? length bytes
  let text ← toText? content
  return (text, rest)

end StateMachine.Octets
