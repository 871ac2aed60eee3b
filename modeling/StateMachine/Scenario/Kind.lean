import StateMachine.Argument

namespace StateMachine.Scenario

inductive Kind where
  | bool
  | uint8
  | uint32
  | int64
  | uint64
  | char
  | string
  | stringView
  | unit
  | integers
  | optional
  | pair
  deriving DecidableEq, Repr

namespace Kind

@[reducible] def Value : Kind → Type
  | bool => Bool
  | uint8 => UInt8
  | uint32 => UInt32
  | int64 => Int64
  | uint64 => UInt64
  | char => Char
  | string => String
  | stringView => String
  | unit => Unit
  | integers => List Int64
  | optional => Option UInt8
  | pair => Int32 × Bool

def typeName : Kind → String
  | bool => "bool"
  | uint8 => "u8"
  | uint32 => "u32"
  | int64 => "i64"
  | uint64 => "u64"
  | char => "char"
  | string => "alloc::string::String"
  | stringView => "&str"
  | unit => "()"
  | integers => "alloc::vec::Vec<i64>"
  | optional => "core::option::Option<u8>"
  | pair => "(i32, bool)"

instance : ArgumentKind Kind where
  kindName := typeName
  Value := Value

def showBool (value : Bool) : String := if value then "true" else "false"

def showValue : (kind : Kind) → kind.Value → String
  | bool, value => showBool value
  | uint8, value => toString value.toNat
  | uint32, value => toString value.toNat
  | int64, value => toString value.toInt
  | uint64, value => toString value.toNat
  | char, value => String.singleton value
  | string, value => value
  | stringView, value => value
  | unit, _ => "()"
  | integers, values => "[" ++ ",".intercalate (values.map fun value => toString value.toInt) ++ "]"
  | optional, none => "none"
  | optional, some value => s!"some({value.toNat})"
  | pair, (number, flag) => s!"({number.toInt},{showBool flag})"

def showPayload : (kind : Option Kind) → Payload kind → Option String
  | none, _ => none
  | some kind, value => some (kind.showValue value)

end Kind

end StateMachine.Scenario
