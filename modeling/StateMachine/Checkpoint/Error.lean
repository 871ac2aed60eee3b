import StateMachine.Decimal.Shortest
import StateMachine.Name
import StateMachine.Text.Shown

namespace StateMachine

inductive Checkpoint.Field where
  | version
  | id
  | timestamp
  | state
  deriving DecidableEq, Repr

def Checkpoint.Field.key : Field → String
  | .version => "version"
  | .id => "id"
  | .timestamp => "timestamp"
  | .state => "state"

inductive DecodeError.Found where
  | null
  | boolean (value : Bool)
  | integer (value : Int)
  | float (value : Float)
  | string (value : String)
  | sequence
  | map
  deriving Repr

inductive DecodeError.Wanted where
  | checkpoint
  | word
  | string
  | timestamp
  | unit
  | variantIndex (count : Nat)
  deriving DecidableEq, Repr

inductive DecodeError where
  | malformed
  | missingField (field : Checkpoint.Field)
  | duplicateField (field : Checkpoint.Field)
  | unknownVariant (found : String) (known : List String)
  | invalidType (found : DecodeError.Found) (wanted : DecodeError.Wanted)
  | invalidValue (found : Int) (wanted : DecodeError.Wanted)
  | invalidLength (length : Nat)
  deriving Repr

namespace DecodeError

/-- Numbers in messages are written positionally from `0.00001` to below `10 ^ 16`; other numbers
have an exponent that always has a sign. -/
def floatFormat : Decimal.Format := ⟨-5, 15, true⟩

def Found.describe : Found → String
  | .null => "null"
  | .boolean value => s!"boolean `{value}`"
  | .integer value => s!"integer `{value}`"
  | .float value => s!"floating point `{Decimal.writeDouble floatFormat value}`"
  | .string value => s!"string {Text.shown value}"
  | .sequence => "sequence"
  | .map => "map"

def Wanted.describe : Wanted → String
  | .checkpoint => "struct Checkpoint"
  | .word => "u32"
  | .string => "a string"
  | .timestamp => "an RFC 3339 formatted date and time string"
  | .unit => "unit"
  | .variantIndex count => s!"variant index 0 <= i < {count}"

def describeKnown (known : List String) : String :=
  let quoted := known.map fun name => s!"`{name}`"
  match quoted with
  | [] => "there are no variants"
  | [name] => s!"expected {name}"
  | [first, second] => s!"expected {first} or {second}"
  | names => "expected one of " ++ ", ".intercalate names

/-- The reason in words; a malformed text has none of its own. -/
def message? : DecodeError → Option String
  | malformed => none
  | missingField field => some s!"missing field `{field.key}`"
  | duplicateField field => some s!"duplicate field `{field.key}`"
  | unknownVariant found known => some s!"unknown variant `{found}`, {describeKnown known}"
  | invalidType found wanted =>
    some s!"invalid type: {found.describe}, expected {wanted.describe}"
  | invalidValue found wanted =>
    some s!"invalid value: integer `{found}`, expected {wanted.describe}"
  | invalidLength length =>
    some s!"invalid length {length}, expected struct Checkpoint with 4 elements"

end DecodeError

inductive CheckpointError (S : Type) where
  | notWritten (reason : String)
  | notRead (error : DecodeError)
  | foreignVersion (found supported : UInt32)
  | deadState (state : S)
  deriving Repr

def CheckpointError.message? {S : Type} [Named S] : CheckpointError S → Option String
  | notWritten reason => some s!"could not encode instance checkpoint: {reason}"
  | notRead error =>
    error.message?.map fun reason => s!"could not decode instance checkpoint: {reason}"
  | foreignVersion found supported =>
    some (s!"instance checkpoint has format version {found}; " ++
      s!"this build reads version {supported}")
  | deadState state =>
    some s!"cannot restore instance: state '{name state}' has no transitions configured"

end StateMachine
